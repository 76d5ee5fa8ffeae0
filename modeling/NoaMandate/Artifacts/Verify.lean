import NoaMandate.Kernel.Receipt
import NoaMandate.Artifacts.SchemaEval

/-!
# The side-artifact verifier

A model of `approval-artifacts`: the registry of artifact kinds (`domains.ts`), the reference hashes
(`refhash.ts`) and the verifier (`verify.ts`).  The verifier takes an artifact and a context that is
already parsed; what the source does before that is to parse both from bytes.

The strict public-key check, regular expressions, SHA-256 and Ed25519 are parameters.  A reference
hash is `none` where the canonicaliser throws.
-/

namespace NoaMandate

open Pipeline
open SchemaEval (evalSchema shown quoted truthy?)

/-- What the artifact verifier takes from its platform, besides the kernel's intrinsics. -/
structure ArtifactPlatform extends Intrinsics, SchemaPlatform where
  /-- `crypto.ts` `isStrictEd25519PublicKey`. -/
  isStrictEd25519PublicKey : String → Bool

/-! ## Reference hashes -/

variable (P : ArtifactPlatform) (I : Intrinsics)

/-- The hash of a signed side artifact, signature included. Source: `refhash.ts` `refHash`. -/
def refHash (artifact : Json) : Option String :=
  (canonicalize artifact).map I.sha256Prefixed

/-- Artifacts with one reference hash are one value, up to the order of members. -/
lemma eqv_of_refHash_eq {I : Intrinsics} (hinj : Function.Injective I.sha256Hex) {v w : Json}
    {hash : String} (hv : refHash I v = some hash) (hw : refHash I w = some hash) : v.Eqv w := by
  obtain ⟨t, ht, hsha⟩ := Option.map_eq_some_iff.mp hv
  obtain ⟨t', ht', hsha'⟩ := Option.map_eq_some_iff.mp hw
  obtain rfl := Intrinsics.sha256Prefixed_injective hinj (hsha.trans hsha'.symm)
  exact Json.eqv_of_canonicalText_eq ht ht'

/-- The hash of a whole unsigned object. Source: `refhash.ts` `virtualHash`. -/
def virtualHash (obj : Json) : Option String :=
  (canonicalize obj).map I.sha256Prefixed

/-- The member `key` of an object with its own member `field` deleted, when it is an object. -/
def deleteIn (key field : String) : Json → Json
  | .obj ms =>
    match ms.lookup key with
    | some (.obj inner) => .obj (Json.setMember ms key (.obj (Json.eraseMember inner field)))
    | _ => .obj ms
  | v => v

/-- A receipt's own chain hash, recomputed. Source: `refhash.ts` `receiptRefHash`. -/
def receiptRefHash (receipt : Json) : Option String :=
  (canonicalize (deleteIn "sig" "value" (deleteIn "chain" "hash" receipt))).map I.sha256Prefixed

/-! ## The registry -/

/-- The kinds of signing keys. -/
inductive SignerType where
  | GATE
  | APPROVER
  | AUDIT
  | ROOT
  | DELEGATED
  deriving DecidableEq

def SignerType.text : SignerType → String
  | .GATE => "GATE"
  | .APPROVER => "APPROVER"
  | .AUDIT => "AUDIT"
  | .ROOT => "ROOT"
  | .DELEGATED => "DELEGATED"

/-- One row of the registry. Source: `domains.ts` `ArtifactMeta`. -/
structure ArtifactMeta where
  /-- The signing domain tag; `none` for the sealed blobs, which are not signed. -/
  domain : Option String
  signerType : Option SignerType
  signerRole : Option String

/-- The registry. Source: `domains.ts` `ARTIFACTS`. -/
def ARTIFACTS : List (String × ArtifactMeta) :=
  [("noa.hold/0.1", ⟨some "NOA-Hold-v0.1-sig", some .GATE, some "hold-signer"⟩),
   ("noa.decision/0.1", ⟨some "NOA-Decision-v0.1-sig", some .APPROVER, none⟩),
   ("noa.key-manifest/0.1", ⟨some "NOA-KeyManifest-v0.1-sig", none, some "key-manifest-sign"⟩),
   ("noa.key-delegation/0.1", ⟨some "NOA-KeyDelegation-v0.1-sig", some .ROOT, none⟩),
   ("noa.execution-grant/0.1", ⟨some "NOA-ExecGrant-v0.1-sig", some .GATE, some "execution-signer"⟩),
   ("noa.execution-consumption/0.1",
     ⟨some "NOA-ExecConsume-v0.1-sig", some .GATE, some "execution-signer"⟩),
   ("noa.execution-uncertainty/0.1",
     ⟨some "NOA-ExecUncertainty-v0.1-sig", some .GATE, some "execution-signer"⟩),
   ("noa.hold-resolution/0.1",
     ⟨some "NOA-HoldResolution-v0.1-sig", some .GATE, some "execution-signer"⟩),
   ("noa.pairing/0.1", ⟨some "NOA-Pairing-v0.1-sig", none, none⟩),
   ("noa.pairing-confirmation/0.1", ⟨some "NOA-PairingConfirm-v0.1-sig", some .GATE, none⟩),
   ("noa.encrypted-display/0.1", ⟨none, none, none⟩),
   ("noa.encrypted-reason/0.1", ⟨none, none, none⟩),
   ("noa.settlement-evidence/0.1",
     ⟨some "NOA-SettlementEvidence-v0.1-sig", some .GATE, some "settlement-observer"⟩),
   ("noa.action-class-enrolment/0.1",
     ⟨some "NOA-ActionClassEnrolment-v0.1-sig", none, some "action-class-enrol"⟩)]

/-! ## The context -/

/-- One key of the artifact keyring. -/
structure KeyEntry where
  publicKey : String
  type : SignerType
  roles : List String
  validFrom : Option String := none
  revokedAt : Option String := none

/-- The three rules by which a field may name another document by hash. -/
inductive RefHashRule where
  | side
  | receipt
  | virtual
  deriving DecidableEq

/-- A cross-artifact hash binding. -/
structure RefHashCheck where
  path : List String
  rule : RefHashRule
  artifact : Json
  /-- Fields the referenced artifact must carry. -/
  refEquals : List (List String × Json) := []

/-- A parsed verification context. An absent `authorizationTime` is `none`; a `null` one is not. -/
structure VerifyContext where
  /-- The schema of every artifact kind. -/
  schemas : List (String × Json)
  keyring : List (String × KeyEntry)
  now : Option String := none
  authorizationTime : Option Json := none
  riskClass : Option String := none
  equals : List (List String × Json) := []
  refHashChecks : List RefHashCheck := []
  expectVirtualHash : Option String := none
  mustBeAfter : List (List String × String) := []
  mustBeWithin : List (List String × String × String) := []

namespace Artifact

/-! ## Instants -/

/-- The digit at an offset. -/
def digit (u : List Nat) (i : Nat) : Option Nat :=
  (Scan.unitAt u i).bind fun c => if Scan.isDigit c then some (c - 0x30) else none

def twoDigits (u : List Nat) (i : Nat) : Option Nat := do
  return (← digit u i) * 10 + (← digit u (i + 1))

def fourDigits (u : List Nat) (i : Nat) : Option Nat := do
  return (← twoDigits u i) * 100 + (← twoDigits u (i + 2))

def isZoneStart (c : Nat) : Bool := c = 0x5a || c = 0x7a || c = 0x2b || c = 0x2d

/-- The fraction in nanoseconds and the offset at which the zone starts. -/
def fraction (u : List Nat) : Option (Nat × Nat) :=
  if Scan.unitAt u 19 = some 0x2e then
    let ds := (u.drop 20).takeWhile fun c => !isZoneStart c
    if ds.length < 1 || ds.length > 9 || !ds.all Scan.isDigit then none
    else
      some (ds.foldl (fun n c => n * 10 + (c - 0x30)) 0 * 10 ^ (9 - ds.length), 20 + ds.length)
  else some (0, 19)

/-- The zone that starts at `i`, in minutes, when the text ends with it. -/
def zoneMinutes (u : List Nat) (i : Nat) : Option Int :=
  match Scan.unitAt u i with
  | none => none
  | some c =>
    if c = 0x5a || c = 0x7a then
      if i + 1 = u.length then some 0 else none
    else if (c ≠ 0x2b && c ≠ 0x2d) || i + 6 ≠ u.length || Scan.unitAt u (i + 3) ≠ some 0x3a then
      none
    else
      (twoDigits u (i + 1)).bind fun h =>
        (twoDigits u (i + 4)).bind fun m =>
          if h > 23 || m > 59 then none
          else some ((if c = 0x2b then 1 else -1) * ((h * 60 + m : Nat) : Int))

/-- Days since 1970-01-01 in the proleptic Gregorian calendar. -/
def daysFromCivil (year month day : Nat) : Int :=
  let shiftedYear : Int := (year : Int) - if month ≤ 2 then 1 else 0
  let era : Int := if shiftedYear < 0 then -1 else shiftedYear / 400
  let yearOfEra := shiftedYear - era * 400
  let shiftedMonth : Int := (month : Int) + if month > 2 then -3 else 9
  let dayOfYear := (153 * shiftedMonth + 2) / 5 + day - 1
  era * 146097 + (yearOfEra * 365 + yearOfEra / 4 - yearOfEra / 100 + dayOfYear) - 719468

/-- The date and time fields in nanoseconds, with the fraction and the zone taken into account. -/
def civilNanos (u : List Nat) : Option Int := do
  let year ← fourDigits u 0
  let month ← twoDigits u 5
  let day ← twoDigits u 8
  let hour ← twoDigits u 11
  let minute ← twoDigits u 14
  let second ← twoDigits u 17
  let (nanos, zone) ← fraction u
  let offset ← zoneMinutes u zone
  if month < 1 || month > 12 || day < 1 || day > Scan.daysInMonth year month ||
      hour > 23 || minute > 59 || second > 59 then none
  else
    some (daysFromCivil year month day * 86400000000000 + hour * 3600000000000 +
      minute * 60000000000 + second * 1000000000 + nanos - offset * 60000000000)

/-- The timestamp grammar an artifact schema publishes. -/
def publishedTimeSchema (schema : Json) : Option Json :=
  match schema.path? ["$defs", "rfc3339"] with
  | some (.obj ms) => some (.obj ms)
  | _ => none

/-- Nanoseconds since the epoch; `none` for anything the published grammar does not admit.
Source: `verify.ts` `parseTime`. -/
def parseTime (timeSchema : Option Json) (v : Option Json) : Option Int :=
  match timeSchema, v with
  | some grammar, some (.str s) =>
    let u := Json.units s
    if !(evalSchema P.toSchemaPlatform grammar (.str s)).isEmpty then none
    else if u.length < 20 || Scan.unitAt u 4 ≠ some 0x2d || Scan.unitAt u 7 ≠ some 0x2d ||
        (Scan.unitAt u 10 ≠ some 0x54 && Scan.unitAt u 10 ≠ some 0x74) ||
        Scan.unitAt u 13 ≠ some 0x3a || Scan.unitAt u 16 ≠ some 0x3a then none
    else civilNanos u
  | _, _ => none

/-! ## The signature layer -/

/-- The field in which an artifact names its own signer. -/
def signerIdentityPath (spec : String) (doc : Json) : Option String :=
  if spec = "noa.hold/0.1" || spec = "noa.pairing-confirmation/0.1" then some "gateKid"
  else if spec = "noa.decision/0.1" then some "approverKid"
  else if spec = "noa.settlement-evidence/0.1" then some "observerKid"
  else if spec = "noa.pairing/0.1" then
    if doc.getStr? "type" = some "CHALLENGE" then some "gateKid"
    else if doc.getStr? "type" = some "CONFIRMATION" then some "approverKid"
    else none
  else none

/-- The approver roles that may decide an action of a risk class. Tiers are ordered:
`approve-critical` covers everything `approve-high` does. -/
def requiredApproverRole (riskClass : Option String) : List String :=
  if riskClass = some "CRITICAL" || riskClass = some "IRREVERSIBLE" then ["approve-critical"]
  else ["approve-high", "approve-critical"]

/-- The roles of which the signer of an artifact must hold one; `none` where no role is needed. -/
def requiredRoles (ctx : VerifyContext) (spec : String) (m : ArtifactMeta) : Option (List String) :=
  if spec = "noa.decision/0.1" then some (requiredApproverRole ctx.riskClass)
  else m.signerRole.map fun r => [r]

/-- The fields a signer may state the time of its own event in, the first present one counts. -/
def claimedTimeFields : List String :=
  ["issuedAt", "receivedAt", "decidedAt", "consumedAt", "detectedAt", "confirmedAt", "acceptedAt",
   "observedAt"]

/-- A value that is neither absent nor `null`. -/
def present? (v : Option Json) : Option Json :=
  match v with
  | some .null => none
  | v => v

def signerClaimedTime (doc : Json) : Option Json :=
  claimedTimeFields.findSome? fun k => present? (doc.get? k)

/-- A document without its signature. -/
def withoutSig : Json → Json
  | .obj ms => .obj (Json.eraseMember ms "sig")
  | v => v

/-- The key was active at the trusted time, and the document does not contradict that. -/
def checkActivation (ctx : VerifyContext) (timeSchema : Option Json)
    (doc : Json) (kid : String) (validFrom : String) : Except String Unit := do
  let trusted ← demand (present? ctx.authorizationTime <|> ctx.now.map Json.str)
    ("cannot evaluate trusted activation time for signing key \"" ++ kid ++
      "\": caller must supply authorizationTime or now")
  let unreadable := "cannot evaluate activation time for signing key \"" ++ kid ++ "\""
  let fromNanos ← demand (parseTime P timeSchema (some (.str validFrom))) unreadable
  let at' ← demand (parseTime P timeSchema (some trusted)) unreadable
  refuse (at' < fromNanos)
    ("signing key \"" ++ kid ++ "\" was evaluated at trusted time " ++ shown (some trusted) ++
      ", before its validFrom " ++ validFrom)
  match signerClaimedTime doc with
  | none => return ()
  | some claimed => do
    let claimedAt ← demand (parseTime P timeSchema (some claimed))
      ("cannot evaluate signer-claimed activation time for signing key \"" ++ kid ++ "\"")
    refuse (claimedAt < fromNanos)
      ("signing key \"" ++ kid ++ "\" claims artifact time " ++ shown (some claimed) ++
        ", before its validFrom " ++ validFrom ++
        "; signer time is reject-only and cannot activate a key")

/-- A revoked key signs nothing. -/
def checkUnrevoked (kid : String) : Option String → Except String Unit
  | none => .ok ()
  | some revokedAt =>
    .error ("signing key \"" ++ kid ++ "\" was revoked at " ++ revokedAt ++
      "; signer-chosen artifact time is not an independent witness")

def checkSignerType (entry : KeyEntry) : Option SignerType → Except String Unit
  | none => .ok ()
  | some t =>
    refuse (entry.type ≠ t) ("signer type " ++ entry.type.text ++ " != required " ++ t.text)

def checkSignerRole (entry : KeyEntry) : Option (List String) → Except String Unit
  | none => .ok ()
  | some roles =>
    refuse (!roles.any entry.roles.contains)
      ("signer roles [" ++ ",".intercalate entry.roles ++ "] lack required " ++
        "|".intercalate roles)

/-- The states of the key an authentic signature is refused for. -/
def checkKeyState (ctx : VerifyContext) (timeSchema : Option Json)
    (doc : Json) (spec : String) (m : ArtifactMeta) (kid : String) (entry : KeyEntry) :
    Except String Unit := do
  entry.validFrom.forM (checkActivation P ctx timeSchema doc kid)
  checkUnrevoked kid entry.revokedAt
  checkSignerType entry m.signerType
  checkSignerRole entry (requiredRoles ctx spec m)

/-- The key id and the signature value of a signed document. -/
def sigOf (doc : Json) : Option (String × String) :=
  match doc.strAt? ["sig", "kid"], doc.strAt? ["sig", "value"] with
  | some kid, some value => some (kid, value)
  | _, _ => none

/-- A document that names its own signer names the key it is signed with. -/
def checkIdentity (doc : Json) (kid : String) : Option String → Except String Unit
  | none => .ok ()
  | some path =>
    refuse (!Json.same (doc.get? path) (some (.str kid)))
      ("signer identity mismatch: " ++ path ++ " must equal sig.kid")

/-- The signature of a document of a signed kind. -/
def checkSignature (ctx : VerifyContext) (timeSchema : Option Json)
    (doc : Json) (spec : String) (m : ArtifactMeta) (domain : String) : Except String Unit := do
  let (kid, value) ← demand (sigOf doc) "missing sig.kid/value"
  checkIdentity doc kid (signerIdentityPath spec doc)
  let entry ← demand (ctx.keyring.lookup kid)
    ("unknown signing key \"" ++ kid ++ "\" (not in keyring)")
  refuse (ctx.authorizationTime.isSome && (parseTime P timeSchema ctx.authorizationTime).isNone)
    "invalid verifier-controlled authorizationTime"
  refuse (!P.isStrictEd25519PublicKey entry.publicKey)
    ("invalid signature (kid " ++ kid ++ "): signing key refused by strict public-key validation")
  let input ← demand (canonicalize (withoutSig doc)) "canonicalization failed"
  refuse (!P.verifyEd25519 entry.publicKey (P.signingMessage domain input) value)
    ("invalid signature (kid " ++ kid ++ ")")
  checkKeyState P ctx timeSchema doc spec m kid entry

/-! ## The binding and time layers -/

def computeRefHash : RefHashRule → Json → Option String
  | .side => refHash I
  | .receipt => receiptRefHash I
  | .virtual => virtualHash I

/-- The fields a referenced artifact must carry. -/
def checkRefEquals (rc : RefHashCheck) : List (List String × Json) → Except String Unit
  | [] => .ok ()
  | (path, value) :: rest => do
    refuse (!Json.same (rc.artifact.path? path) (some value))
      ("referenced artifact (" ++ ".".intercalate rc.path ++ ") field " ++ ".".intercalate path ++
        ": got " ++ quoted (rc.artifact.path? path) ++ " expected " ++ quoted (some value))
    checkRefEquals rc rest

/-- The cross-artifact hashes. -/
def checkRefHashes (I : Intrinsics) (doc : Json) : List RefHashCheck → Except String Unit
  | [] => .ok ()
  | rc :: rest => do
    let expected ← demand (computeRefHash I rc.rule rc.artifact) "canonicalization failed"
    refuse (!Json.same (doc.path? rc.path) (some (.str expected)))
      ("refHash mismatch at " ++ ".".intercalate rc.path ++ ": got " ++ shown (doc.path? rc.path) ++
        " expected " ++ expected)
    checkRefEquals rc rc.refEquals
    checkRefHashes I doc rest

def checkVirtualHash (doc : Json) : Option String → Except String Unit
  | none => .ok ()
  | some expected => do
    let got ← demand (virtualHash I doc) "canonicalization failed"
    refuse (got ≠ expected)
      ("virtualHash mismatch: got " ++ got ++ " expected " ++ expected ++
        " (parent-committed hash broken — e.g. recipients-swap)")

/-- The declared field equalities. -/
def checkEquals (doc : Json) : List (List String × Json) → Except String Unit
  | [] => .ok ()
  | (path, value) :: rest => do
    refuse (!Json.same (doc.path? path) (some value))
      ("equality failed at " ++ ".".intercalate path ++ ": got " ++ quoted (doc.path? path) ++
        " expected " ++ quoted (some value))
    checkEquals doc rest

/-- `a < b` for two instants, false when one is unreadable. -/
def before (a b : Option Int) : Bool :=
  match a, b with
  | some x, some y => x < y
  | _, _ => false

def checkAfter (P : ArtifactPlatform) (timeSchema : Option Json) (doc : Json) :
    List (List String × String) → Except String Unit
  | [] => .ok ()
  | (path, time) :: rest => do
    refuse (!before (parseTime P timeSchema (some (.str time)))
        (parseTime P timeSchema (doc.path? path)))
      ("time check failed: " ++ ".".intercalate path ++ " must be after " ++ time)
    checkAfter P timeSchema doc rest

/-- `t` lies between the two bounds; false when one of the three is unreadable. -/
def within (t lo hi : Option Int) : Bool :=
  match t, lo, hi with
  | some x, some a, some b => !(x < a) && !(b < x)
  | _, _, _ => false

def checkWithin (P : ArtifactPlatform) (timeSchema : Option Json) (doc : Json) :
    List (List String × String × String) → Except String Unit
  | [] => .ok ()
  | (path, lo, hi) :: rest => do
    refuse (!within (parseTime P timeSchema (doc.path? path))
        (parseTime P timeSchema (some (.str lo))) (parseTime P timeSchema (some (.str hi))))
      ("time check failed: " ++ ".".intercalate path ++ " must be within [" ++ lo ++ ", " ++ hi ++
        "]")
    checkWithin P timeSchema doc rest

/-- The registry row of an artifact and its kind. -/
def kindOf (doc : Json) : Option (String × ArtifactMeta) :=
  (doc.getStr? "spec").bind fun spec => (ARTIFACTS.lookup spec).map fun m => (spec, m)

/-- Verify one side artifact; the error is the reason of the refusal.
Source: `verify.ts` `verifyArtifact`, after both arguments are parsed. -/
def verifyArtifact (artifact : Json) (ctx : VerifyContext) : Except String Unit := do
  refuse (!artifact.isObj) "artifact is not an object"
  let (spec, m) ← demand (kindOf artifact)
    ("unknown or missing spec: " ++ quoted (artifact.get? "spec"))
  let schema ← demand (truthy? (ctx.schemas.lookup spec)) ("no schema loaded for " ++ spec)
  let errors := evalSchema P.toSchemaPlatform schema artifact
  refuse (!errors.isEmpty) ("schema: " ++ "; ".intercalate errors)
  let timeSchema := publishedTimeSchema schema
  m.domain.forM (checkSignature P ctx timeSchema artifact spec m)
  checkRefHashes P.toIntrinsics artifact ctx.refHashChecks
  checkVirtualHash P.toIntrinsics artifact ctx.expectVirtualHash
  checkEquals artifact ctx.equals
  checkAfter P timeSchema artifact ctx.mustBeAfter
  checkWithin P timeSchema artifact ctx.mustBeWithin

end Artifact

end NoaMandate
