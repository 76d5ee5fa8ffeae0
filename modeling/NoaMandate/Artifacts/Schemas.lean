import NoaMandate.Artifacts.Verify

/-!
# The published schemas

The schemas that `approval-artifacts` ships, one for every kind of the registry, as the verifiers
load them.  Only the keywords the evaluator reads are kept.  Every object of every schema is closed,
and apart from the choices each of its members is required, so the schemas are written with a few
combinators.
-/

namespace NoaMandate

namespace Schemas

/-! ## Combinators -/

def pattern (p : String) : Json := .obj [("type", .str "string"), ("pattern", .str p)]

def defined (name : String) : Json := .obj [("$ref", .str ("#/$defs/" ++ name))]

def constant (v : Json) : Json := .obj [("const", v)]

def oneOfTexts (texts : List String) : Json := .obj [("enum", .arr (texts.map .str))]

def typed (type : String) : Json := .obj [("type", .str type)]

def choice (branches : List Json) : Json := .obj [("oneOf", .arr branches)]

def orNull (v : Json) : Json := choice [v, typed "null"]

/-- A list with at least one element. -/
def nonEmptyList (items : Json) : Json :=
  .obj [("type", .str "array"), ("minItems", .num 1), ("items", items)]

/-- A closed object whose members are all required. -/
def closed (properties : List (String × Json)) : List (String × Json) :=
  [("type", .str "object"), ("additionalProperties", .bool false),
    ("required", .arr (properties.map fun p => .str p.1)), ("properties", .obj properties)]

/-- The schema of an artifact: a closed object, with the definitions it refers to. -/
def artifact (properties defs : List (String × Json)) : Json :=
  .obj (closed properties ++ [("$defs", .obj defs)])

/-! ## Shared definitions -/

def id128 : Json := pattern "^.\x7b1,128\x7d$"

def text256 : Json := pattern "^.\x7b1,256\x7d$"

def text1024 : Json := pattern "^.\x7b1,1024\x7d$"

def text2048 : Json := pattern "^.\x7b1,2048\x7d$"

def text65536 : Json := pattern "^.\x7b1,65536\x7d$"

def positive : Json := .obj [("type", .str "integer"), ("minimum", .num 1)]

def rfc3339 : String :=
  "^\\d\x7b4\x7d-\\d\x7b2\x7d-\\d\x7b2\x7d[Tt]\\d\x7b2\x7d:\\d\x7b2\x7d:\\d\x7b2\x7d" ++
    "(\\.\\d\x7b1,9\x7d)?([Zz]|[+-]\\d\x7b2\x7d:\\d\x7b2\x7d)$"

def hash256 : String × Json := ("hash256", pattern "^sha256:[0-9a-f]\x7b64\x7d$")

def instant : String × Json := ("rfc3339", pattern rfc3339)

def signature : String × Json :=
  ("sig", .obj (closed [("alg", constant (.str "ed25519")), ("kid", id128),
    ("value", pattern "^.\x7b1,512\x7d$")]))

def suite : String × Json :=
  ("suite", .obj (closed [("kem", constant (.num 32)), ("kdf", constant (.num 1)),
    ("aead", constant (.num 3))]))

/-! ## Holds and decisions -/

def holdSchema : Json :=
  artifact
    [("spec", constant (.str "noa.hold/0.1")), ("holdId", id128), ("deferredReceiptId", id128),
      ("deferredReceiptHash", defined "hash256"), ("mode", oneOfTexts ["RAW", "ENFORCED"]),
      ("displayCiphertextHash", defined "hash256"),
      ("actionSchema", orNull (defined "projectionId")),
      ("displayProjection", orNull (defined "projectionId")),
      ("canonicalization", constant (.str "JCS-RFC8785")), ("keyManifestVersion", positive),
      ("keyManifestHash", defined "hash256"), ("tenant", text256), ("expiresAt", defined "rfc3339"),
      ("nonce", text256), ("gateKid", id128), ("sig", defined "sig")]
    [hash256, instant,
      ("projectionId", .obj (closed [("id", id128), ("version", positive), ("hash", hash256.2)])),
      signature]

def encryptedReason : List (String × Json) :=
  closed [("spec", constant (.str "noa.encrypted-reason/0.1")), ("recipientKid", id128),
    ("suite", defined "suite"), ("enc", text2048), ("ciphertext", text65536),
    ("aadHash", defined "hash256")]

def decisionSchema : Json :=
  artifact
    [("spec", constant (.str "noa.decision/0.1")), ("holdEnvelopeHash", defined "hash256"),
      ("decision", oneOfTexts ["APPROVE", "DENY"]),
      ("reasonCode", orNull (oneOfTexts ["vendor-verified", "suspicious", "other"])),
      ("reasonEncryption", orNull (defined "encryptedReason")), ("decidedAt", defined "rfc3339"),
      ("approverKid", id128), ("sig", defined "sig")]
    [hash256, instant, ("encryptedReason", .obj encryptedReason), suite, signature]

def holdResolutionSchema : Json :=
  artifact
    [("spec", constant (.str "noa.hold-resolution/0.1")), ("holdId", id128),
      ("holdEnvelopeHash", defined "hash256"), ("decisionArtifactHash", orNull (defined "hash256")),
      ("verdictReceiptHash", orNull (defined "hash256")),
      ("status", oneOfTexts ["APPROVED", "DENIED", "EXPIRED", "CANCELLED"]),
      ("reasonCode", orNull (pattern "^.\x7b1,64\x7d$")), ("receivedAt", defined "rfc3339"),
      ("keyManifestVersion", positive), ("keyManifestHash", defined "hash256"),
      ("sig", defined "sig")]
    [hash256, instant, signature]

/-! ## Keys -/

/-- The members of a manifest key of the given type: the roles it may have, and the public keys it
carries. -/
def manifestKey (type : String) (roles : List String) (keys : List (String × Json)) : Json :=
  .obj (closed ([("kid", id128), ("type", constant (.str type)),
    ("roles", nonEmptyList (oneOfTexts roles))] ++ keys ++
    [("validFrom", defined "rfc3339"), ("revokedAt", defined "revokedAt")]))

def keyEntry : Json :=
  choice
    [manifestKey "GATE" ["hold-signer", "execution-signer", "settlement-observer"]
        [("publicKey", defined "ed25519Key")],
      manifestKey "APPROVER" ["approve-high", "approve-critical"]
        [("publicKey", defined "ed25519Key"), ("hpkePublicKey", defined "x25519Key")],
      manifestKey "AUDIT" ["audit-decrypt"] [("hpkePublicKey", defined "x25519Key")]]

def keyManifestSchema : Json :=
  artifact
    [("spec", constant (.str "noa.key-manifest/0.1")), ("tenant", text256), ("version", positive),
      ("issuedAt", defined "rfc3339"), ("expiresAt", defined "rfc3339"),
      ("previousManifestHash", orNull (defined "hash256")),
      ("keys", nonEmptyList (defined "keyEntry")), ("sig", defined "sig")]
    [hash256, instant, ("ed25519Key", text1024), ("x25519Key", text1024),
      ("revokedAt", orNull (defined "rfc3339")), ("keyEntry", keyEntry), signature]

def keyDelegationSchema : Json :=
  artifact
    [("spec", constant (.str "noa.key-delegation/0.1")), ("tenant", text256),
      ("delegatedKid", id128), ("delegatedPublicKey", text1024),
      ("permissions", nonEmptyList (oneOfTexts ["key-manifest-sign", "action-class-enrol"])),
      ("validFrom", defined "rfc3339"), ("expiresAt", defined "rfc3339"), ("sig", defined "sig")]
    [instant, signature]

/-! ## Executions -/

def grantSchema : Json :=
  artifact
    [("spec", constant (.str "noa.execution-grant/0.1")), ("grantId", id128), ("holdId", id128),
      ("paramsHash", defined "paramsHash"), ("holdEnvelopeHash", defined "hash256"),
      ("approvalReceiptHash", defined "hash256"), ("issuedAt", defined "rfc3339"),
      ("expiresAt", defined "rfc3339"), ("maxUses", constant (.num 1)),
      ("nonce", pattern "^[0-9a-f]\x7b64\x7d$"), ("sig", defined "sig")]
    [hash256, ("paramsHash", pattern "^(sha256|hmac-sha256):[0-9a-f]\x7b64\x7d$"), instant,
      signature]

def consumptionSchema : Json :=
  artifact
    [("spec", constant (.str "noa.execution-consumption/0.1")), ("grantHash", defined "hash256"),
      ("consumedAt", defined "rfc3339"), ("attemptReceiptHash", defined "hash256"),
      ("result", oneOfTexts ["DISPATCHED", "FAILED_BEFORE_DISPATCH"]), ("sig", defined "sig")]
    [hash256, instant, signature]

def uncertaintySchema : Json :=
  artifact
    [("spec", constant (.str "noa.execution-uncertainty/0.1")), ("grantHash", defined "hash256"),
      ("lastKnownState", constant (.str "DISPATCH_STARTED")), ("detectedAt", defined "rfc3339"),
      ("reason", constant (.str "PROCESS_CRASH_BEFORE_RECEIPT_COMMIT")), ("bootId", text256),
      ("uptimeResetAt", defined "rfc3339"), ("sig", defined "sig")]
    [hash256, instant, signature]

/-! ## Pairing -/

def pairingSchema : Json :=
  .obj [("oneOf", .arr
      [.obj (closed [("spec", constant (.str "noa.pairing/0.1")),
          ("type", constant (.str "CHALLENGE")), ("pairingId", id128), ("tenant", text256),
          ("gateKid", id128), ("gatePublicKey", text1024), ("tenantAuthorityKid", id128),
          ("tenantAuthorityPublicKey", text1024), ("initialKeyManifestHash", defined "hash256"),
          ("allowedRole", constant (.str "approver")), ("expiresAt", defined "rfc3339"),
          ("challengeNonce", text256), ("sig", defined "sig")]),
        .obj (closed [("spec", constant (.str "noa.pairing/0.1")),
          ("type", constant (.str "CONFIRMATION")), ("pairingId", id128),
          ("challengeHash", defined "hash256"), ("approverKid", id128),
          ("approverPublicKey", text1024), ("approverHpkePublicKey", text1024),
          ("confirmedAt", defined "rfc3339"), ("sig", defined "sig")]),
        .obj (closed [("spec", constant (.str "noa.pairing/0.1")),
          ("type", constant (.str "ACCEPTED")), ("pairingId", id128),
          ("transcriptHash", defined "hash256"), ("approverKid", id128),
          ("keyManifestVersion", positive), ("keyManifestHash", defined "hash256"),
          ("keyDelegationHash", defined "hash256"), ("delegatedManifestSignerKid", id128),
          ("acceptedAt", defined "rfc3339"), ("sig", defined "sig")])]),
    ("$defs", .obj [hash256, instant, signature])]

def pairingConfirmationSchema : Json :=
  artifact
    [("spec", constant (.str "noa.pairing-confirmation/0.1")), ("pairingId", id128),
      ("transcriptHash", defined "hash256"), ("result", constant (.str "SAS_MATCH_CONFIRMED")),
      ("confirmedAt", defined "rfc3339"), ("gateKid", id128), ("sig", defined "sig")]
    [hash256, instant, signature]

/-! ## Sealed blobs -/

def encryptedDisplaySchema : Json :=
  artifact
    [("spec", constant (.str "noa.encrypted-display/0.1")), ("tenant", text256), ("holdId", id128),
      ("deferredReceiptHash", defined "hash256"), ("expiresAt", defined "rfc3339"),
      ("suite", defined "suite"),
      ("payload", .obj (closed [("nonce", text256), ("ciphertext", text65536)])),
      ("recipients", nonEmptyList (.obj (closed [("kid", id128), ("enc", text2048),
        ("wrappedCek", text2048)]))),
      ("aadHash", defined "hash256")]
    [hash256, instant, suite]

def encryptedReasonSchema : Json :=
  .obj (encryptedReason ++ [("$defs", .obj [hash256, suite])])

/-! ## Settlement and enrolment -/

def chainWitness : Json :=
  .obj (closed
    [("status", oneOfTexts ["SETTLED", "NOT_SETTLED_AT_OBSERVATION", "NOT_OBSERVED"]),
      ("network", pattern "^eip155:[1-9][0-9]\x7b0,18\x7d$"),
      ("asset", pattern "^eip155:[1-9][0-9]\x7b0,18\x7d/erc20:0x[0-9a-f]\x7b40\x7d$"),
      ("payer", defined "evmAddress"), ("payee", orNull (defined "evmAddress")),
      ("amount", orNull (defined "minorUnits")), ("txHash", orNull (defined "evmTxHash")),
      ("blockNumber", orNull (.obj [("type", .str "integer"), ("minimum", .num 0)])),
      ("settledAt", orNull (defined "rfc3339"))])

def railReceipt : Json :=
  choice [typed "null",
    .obj (closed [("disclosure", constant (.str "FULL")), ("format", defined "railReceiptFormat"),
      ("encoding", constant (.str "base64")),
      ("bytes", pattern ("^([A-Za-z0-9+/]\x7b4\x7d)\x7b1,65536\x7d$|" ++
        "^([A-Za-z0-9+/]\x7b4\x7d)\x7b0,65535\x7d([A-Za-z0-9+/][AQgw]==|" ++
        "[A-Za-z0-9+/]\x7b2\x7d[AEIMQUYcgkosw048]=)$"))]),
    .obj (closed [("disclosure", constant (.str "HASH_ONLY")),
      ("format", defined "railReceiptFormat"), ("bytesHash", defined "hash256")])]

def settlementEvidenceSchema : Json :=
  artifact
    [("spec", constant (.str "noa.settlement-evidence/0.1")), ("tenant", text256),
      ("chain", text256), ("authorizationReceiptHash", defined "hash256"),
      ("executionGrantHash", defined "hash256"), ("correlation", pattern "^0x[0-9a-f]\x7b64\x7d$"),
      ("railFamily", pattern "^[a-z0-9]([a-z0-9./+-]\x7b0,62\x7d[a-z0-9])?$"),
      ("chainWitness", chainWitness), ("railReceipt", railReceipt), ("observerKid", id128),
      ("observedAt", defined "rfc3339"), ("sig", defined "sig")]
    [hash256, ("evmAddress", pattern "^0x[0-9a-f]\x7b40\x7d$"),
      ("evmTxHash", pattern "^0x[0-9a-f]\x7b64\x7d$"),
      ("minorUnits", pattern "^(0|[1-9][0-9]\x7b0,77\x7d)$"),
      ("railReceiptFormat",
        oneOfTexts ["x402-offer-receipt/eip712", "x402-offer-receipt/jws", "opaque"]),
      instant, signature]

def enrolledClass : Json :=
  .obj (closed
    [("actionId", text256), ("actionSchema", defined "projectionId"),
      ("projection", defined "projectionId"),
      ("witnessSpec", constant (.str "noa.settlement-evidence/0.1")),
      ("claimTier", oneOfTexts ["SETTLEMENT_CORRELATED"]),
      ("declaredExecutableFields", nonEmptyList id128),
      ("declaredWitnessedFields", nonEmptyList id128)])

/-- The grammar of this schema's instants ends the seconds at 59, the others' do not. -/
def enrolmentSchema : Json :=
  artifact
    [("spec", constant (.str "noa.action-class-enrolment/0.1")), ("tenant", text256),
      ("version", positive), ("audience", nonEmptyList (pattern "^[^*]\x7b1,256\x7d$")),
      ("notBefore", defined "rfc3339"), ("notAfter", defined "rfc3339"),
      ("closed", typed "boolean"),
      ("classes", .obj [("type", .str "array"), ("items", defined "enrolledClass")]),
      ("sig", defined "sig")]
    [("rfc3339", pattern
        ("^\\d\x7b4\x7d-\\d\x7b2\x7d-\\d\x7b2\x7d[Tt]\\d\x7b2\x7d:\\d\x7b2\x7d:[0-5]\\d" ++
          "(\\.\\d\x7b1,9\x7d)?([Zz]|[+-]\\d\x7b2\x7d:\\d\x7b2\x7d)$")),
      hash256,
      ("projectionId", .obj (closed [("id", text256), ("version", positive),
        ("hash", defined "hash256")])),
      ("enrolledClass", enrolledClass), signature]

end Schemas

open Schemas in
/-- The schema of every kind. Source: `verify-evidence.ts` `loadSchemas`, `artifacts`. -/
def ARTIFACT_SCHEMAS : List (String × Json) :=
  [("noa.hold/0.1", holdSchema), ("noa.decision/0.1", decisionSchema),
    ("noa.key-manifest/0.1", keyManifestSchema), ("noa.key-delegation/0.1", keyDelegationSchema),
    ("noa.execution-grant/0.1", grantSchema), ("noa.execution-consumption/0.1", consumptionSchema),
    ("noa.execution-uncertainty/0.1", uncertaintySchema),
    ("noa.hold-resolution/0.1", holdResolutionSchema), ("noa.pairing/0.1", pairingSchema),
    ("noa.pairing-confirmation/0.1", pairingConfirmationSchema),
    ("noa.encrypted-display/0.1", encryptedDisplaySchema),
    ("noa.encrypted-reason/0.1", encryptedReasonSchema),
    ("noa.settlement-evidence/0.1", settlementEvidenceSchema),
    ("noa.action-class-enrolment/0.1", enrolmentSchema)]

/-- The registry and the schemas list the same kinds. -/
example : ARTIFACT_SCHEMAS.map Prod.fst = ARTIFACTS.map Prod.fst := by decide +kernel

end NoaMandate
