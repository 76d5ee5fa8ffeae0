import NoaMandate.Kernel.SafeJson
import NoaMandate.Kernel.Verify
import NoaMandate.Artifacts.Verify

/-!
# The grant signer

A model of `grant-sidecar.ts`: the process that holds the execution-signer key and signs an execution
grant only for an approval it has checked against its own trust material.  The file has the source's
three parts: the policy check `validateGrantRequest`, the record of spent approvals with its journal,
and the request handler.

The handler is cut at the points where it can be interrupted.  `prepare` is everything up to the
signed and self-checked document, at the first reading of the clock; `Replay.admission` is the look at
the record of spent approvals, at the second reading; then come the append to the journal, the entry
in memory and the answer.  `handleGrantSignerRequest` is their composition.

Documents are re-encoded and parsed again between the parts of the source; that is the identity on a
document that came out of the parser, and it is left out.
-/

namespace NoaMandate

open Pipeline
open SchemaEval (evalSchema shown quoted truthy?)

namespace Signer

/-- What the signer takes from its platform. -/
structure Platform extends ArtifactPlatform where
  /-- `new Date(ms).toISOString()`; `none` where it throws. -/
  toISOString : Int → Option String
  /-- `signEd25519(privateKey, message)`; `none` where it throws. -/
  signEd25519 : String → String → Option String

/-- This process's own trust material. -/
structure GrantSignerTrust where
  tenant : String
  keyring : List (String × KeyEntry)
  /-- A signing-key lifecycle document. -/
  receiptKeyring : Json

structure Identity where
  kid : String
  privateKey : String
  publicKey : String

/-- What the handler is configured with. Source: `GrantSidecarHandlerDeps`. -/
structure Deps where
  identity : Identity
  trust : GrantSignerTrust
  /-- The schema of every artifact kind. -/
  schemas : List (String × Json)
  maxApprovalAgeMs : Int
  maxGrantTtlMs : Int

def CLOCK_SKEW_MS : Int := 60 * 1000

def MAX_REPLAY_ENTRIES : Nat := 10000

def EXECUTION_GRANT_SPEC : String := "noa.execution-grant/0.1"

/-! ## The policy check -/

/-- A string that is not empty. -/
def asString (v : Option Json) : Option String := nonEmptyStr? v

/-- Milliseconds as whole seconds, in refusal texts. -/
def seconds (ms : Int) : String := toString ((ms + 500) / 1000)

/-- A member of the request that must be an object. -/
def record? (v : Json) (k : String) : Option Json := (v.get? k).filter Json.isObj

/-- The fields a grant must carry as text, in the order they are checked. -/
def GRANT_FIELDS : List String :=
  ["grantId", "holdId", "paramsHash", "holdEnvelopeHash", "approvalReceiptHash", "issuedAt",
   "expiresAt", "nonce"]

def checkFields (grant : Json) : List String → Except String Unit
  | [] => .ok ()
  | f :: fs => do
    refuse (asString (grant.get? f)).isNone
      ("grant field " ++ f ++ " is missing or not a non-empty string")
    checkFields grant fs

/-- The document is an unsigned grant. -/
def checkUnsignedGrant (grant : Json) : Except String Unit := do
  refuse (!Json.same (grant.get? "spec") (some (.str EXECUTION_GRANT_SPEC)))
    ("not an Execution Grant (spec " ++ quoted (grant.get? "spec") ++ ")")
  refuse (grant.get? "sig").isSome "grant document already carries a sig"
  refuse (!Json.same (grant.get? "maxUses") (some (.num 1))) "grant must declare maxUses: 1"
  checkFields grant GRANT_FIELDS
  refuse (!(grant.getStr? "nonce").any Scan.isHex64)
    ("grant.nonce must be exactly 64 lowercase hex characters (the D7 correlation seed; grant " ++
      "schema ^[0-9a-f]\x7b64\x7d$)")

/-- The four documents of a proof. -/
structure Proof where
  holdEnvelope : Json
  decisionArtifact : Json
  deferredReceipt : Json
  approvalReceipt : Json

def readProof (proof : Json) : Except String Proof := do
  let holdEnvelope ← demand (record? proof "holdEnvelope") "proof.holdEnvelope missing"
  let decisionArtifact ← demand (record? proof "decisionArtifact") "proof.decisionArtifact missing"
  let deferredReceipt ← demand (record? proof "deferredReceipt") "proof.deferredReceipt missing"
  let approvalReceipt ← demand (record? proof "approvalReceipt") "proof.approvalReceipt missing"
  return ⟨holdEnvelope, decisionArtifact, deferredReceipt, approvalReceipt⟩

/-- What is read from an approval receipt. -/
structure Approval where
  paramsHash : String
  riskClass : String
  at' : String
  kid : String

/-- The ALLOWED receipt names a human approver whose key both keyrings agree on. -/
def checkApproval (trust : GrantSignerTrust) (receipt : Json) : Except String Approval := do
  refuse (!Json.same (receipt.path? ["governance", "verdict"]) (some (.str "ALLOWED")))
    "approval receipt is not an ALLOWED verdict"
  refuse (!Json.same (receipt.path? ["agent", "principal"]) (some (.str "HUMAN")))
    "approval receipt does not declare principal HUMAN"
  refuse (!Json.same (receipt.path? ["scope", "tenant"]) (some (.str trust.tenant)))
    "approval receipt is for a different tenant"
  let approvedParamsHash ← demand (asString (receipt.path? ["action", "paramsHash"]))
    "approval receipt carries no action.paramsHash"
  let approvedRisk ← demand (asString (receipt.path? ["action", "riskClass"]))
    "approval receipt carries no action.riskClass"
  let missing := "approval receipt carries no governance.approval.by/at or sig.kid"
  let approvalBy ← demand (asString (receipt.path? ["governance", "approval", "by"])) missing
  let approvalAt ← demand (asString (receipt.path? ["governance", "approval", "at"])) missing
  let receiptKid ← demand (asString (receipt.path? ["sig", "kid"])) missing
  refuse (approvalBy ≠ receiptKid)
    "governance.approval.by does not name the key that signed the approval receipt"
  let entry ← demand ((trust.keyring.lookup receiptKid).filter fun e => e.type = .APPROVER)
    ("the approval receipt's signer " ++ jsonStringify receiptKid ++
      " is not an APPROVER key in this signer's own trust material")
  refuse (trust.receiptKeyring.strAt? ["keys", receiptKid, "publicKey"] ≠ some entry.publicKey)
    ("kid " ++ jsonStringify receiptKid ++ " resolves to different public keys in the artifact " ++
      "keyring and the receipt keyring — a decision authenticated against one key and its receipt " ++
      "against another is not one approval")
  return ⟨approvedParamsHash, approvedRisk, approvalAt, receiptKid⟩

variable (P : Platform) (D : Deps)

/-- The approval is fresh by this process's clock; its instant. -/
def checkFresh (nowMs : Int) (approvalAt : String) : Except String Int := do
  let approvalMs ← demand (P.dateParse approvalAt) "approval.at is not a parseable instant"
  refuse (approvalMs > nowMs + CLOCK_SKEW_MS) "approval.at is in this signer's future"
  refuse (nowMs - approvalMs > D.maxApprovalAgeMs)
    ("approval is " ++ seconds (nowMs - approvalMs) ++ "s old, past the " ++
      seconds D.maxApprovalAgeMs ++ "s freshness window")
  return approvalMs

def statusText : VerifyStatus → String
  | .VALID => "VALID"
  | .UNVERIFIED => "UNVERIFIED"
  | .UNTRUSTED => "UNTRUSTED"
  | .TAMPERED => "TAMPERED"
  | .MALFORMED => "MALFORMED"
  | .KEY_RETIRED => "KEY_RETIRED"

/-- The two receipts are a valid chain, and the deferred one is the one the envelope commits to. -/
def checkChain (trust : GrantSignerTrust) (p : Proof) : Except String Unit := do
  let chain := verifyParsedChain P.toIntrinsics {}
    { keyring := some trust.receiptKeyring, checkpoint := none, identityManifest := none }
    (.arr [p.deferredReceipt, p.approvalReceipt])
  refuse (chain.status ≠ .VALID)
    ("receipt chain invalid: " ++ chain.reason.getD (statusText chain.status))
  let deferredHash ← demand (receiptRefHash P.toIntrinsics p.deferredReceipt) "canonicalization failed"
  refuse (asString (p.holdEnvelope.get? "deferredReceiptHash") ≠ some deferredHash)
    "the deferred receipt presented is not the one the hold envelope commits to"

/-- `Date.parse` of a field, the empty text for a field that is not text. -/
def instantOf (doc : Json) (field : String) : Option Int :=
  P.dateParse ((asString (doc.get? field)).getD "")

/-- The context in which the hold envelope is verified. -/
def envelopeContext (nowIso : String) : VerifyContext :=
  { schemas := D.schemas, keyring := D.trust.keyring, now := some nowIso,
    authorizationTime := some (.str nowIso), equals := [(["tenant"], .str D.trust.tenant)] }

/-- The hold envelope: this tenant's, enforced, not run out, the one the grant names; its expiry. -/
def checkEnvelope (nowMs : Int) (nowIso : String) (grant env : Json) : Except String Int := do
  (Artifact.verifyArtifact P.toArtifactPlatform env (envelopeContext D nowIso)).mapError
    ("hold envelope invalid: " ++ ·)
  refuse (!Json.same (env.get? "mode") (some (.str "ENFORCED")))
    ("hold envelope is not ENFORCED — a RAW acknowledgement is not authorization and may never " ++
      "carry a grant")
  let envelopeExpiryMs ← demand (instantOf P env "expiresAt")
    "hold envelope carries no parseable expiresAt"
  refuse (nowMs > envelopeExpiryMs)
    ("the hold expired " ++ seconds (nowMs - envelopeExpiryMs) ++
      "s ago — an expired hold is not an approval and may never carry a grant")
  let envelopeHash ← demand (refHash P.toIntrinsics env) "canonicalization failed"
  refuse (asString (grant.get? "holdEnvelopeHash") ≠ some envelopeHash)
    "grant.holdEnvelopeHash does not hash this envelope"
  refuse (!Json.same (grant.get? "holdId") (env.get? "holdId"))
    "grant.holdId does not match the envelope's holdId"
  return envelopeExpiryMs

/-- The context in which the decision is verified: it approves, at the tier of the risk class, and
is bound to the envelope. -/
def decisionContext (nowIso riskClass : String) (env : Json) : VerifyContext :=
  { schemas := D.schemas, keyring := D.trust.keyring, now := some nowIso,
    authorizationTime := some (.str nowIso), riskClass := some riskClass,
    equals := [(["decision"], .str "APPROVE")],
    refHashChecks := [{ path := ["holdEnvelopeHash"], rule := .side, artifact := env,
                        refEquals := [(["tenant"], .str D.trust.tenant)] }] }

def checkDecision (nowIso : String) (a : Approval) (p : Proof) : Except String Unit := do
  (Artifact.verifyArtifact P.toArtifactPlatform p.decisionArtifact
    (decisionContext D nowIso a.riskClass p.holdEnvelope)).mapError
    ("decision artifact invalid: " ++ ·)
  refuse (!Json.same (p.decisionArtifact.get? "approverKid") (some (.str a.kid)))
    "the decision artifact and the approval receipt were signed by different keys"

/-- The grant is bound to the approval and to the approved parameters; the approval's hash. -/
def checkGrantBindings (grant : Json) (a : Approval) (approvalReceipt : Json) :
    Except String String := do
  let approvalRef ← demand (receiptRefHash P.toIntrinsics approvalReceipt) "canonicalization failed"
  refuse (asString (grant.get? "approvalReceiptHash") ≠ some approvalRef)
    "grant.approvalReceiptHash does not hash the approval presented"
  refuse (!Json.same (grant.get? "paramsHash") (some (.str a.paramsHash)))
    ("grant.paramsHash " ++ quoted (grant.get? "paramsHash") ++
      " is not the paramsHash a human approved (" ++ jsonStringify a.paramsHash ++ ")")
  return approvalRef

/-- The grant's own window, against this process's clock and the hold's deadline. -/
def checkWindow (nowMs envelopeExpiryMs : Int) (grant : Json) : Except String Unit := do
  let unreadable := "grant issuedAt/expiresAt are not parseable instants"
  let issuedMs ← demand (instantOf P grant "issuedAt") unreadable
  let expiresMs ← demand (instantOf P grant "expiresAt") unreadable
  refuse (expiresMs ≤ issuedMs) "grant expiresAt does not follow issuedAt"
  refuse ((issuedMs - nowMs).natAbs > CLOCK_SKEW_MS)
    ("grant.issuedAt is " ++ seconds (issuedMs - nowMs) ++ "s from this signer's clock, outside the " ++
      seconds CLOCK_SKEW_MS ++ "s skew allowance")
  refuse (expiresMs - issuedMs > D.maxGrantTtlMs)
    ("grant lifetime " ++ seconds (expiresMs - issuedMs) ++ "s exceeds the " ++
      seconds D.maxGrantTtlMs ++ "s this signer will authorize")
  refuse (expiresMs > envelopeExpiryMs)
    ("grant expires " ++ seconds (expiresMs - envelopeExpiryMs) ++
      "s after the hold it derives from — a grant may not outlive its hold")

/-- Decide whether a grant document is backed by an approval; the approval's hash and instant.
Source: `grant-sidecar.ts` `validateGrantRequest`. -/
def validateGrantRequest (nowMs : Int) (grant proof : Json) : Except String (String × Int) := do
  let nowIso ← demand (P.toISOString nowMs) "Invalid time value"
  checkUnsignedGrant grant
  let p ← readProof proof
  let a ← checkApproval D.trust p.approvalReceipt
  let approvalMs ← checkFresh P D nowMs a.at'
  checkChain P D.trust p
  let envelopeExpiryMs ← checkEnvelope P D nowMs nowIso grant p.holdEnvelope
  checkDecision P D nowIso a p
  let approvalRef ← checkGrantBindings P grant a p.approvalReceipt
  checkWindow P D nowMs envelopeExpiryMs grant
  return (approvalRef, approvalMs)

/-! ## The record of spent approvals -/

/-- The approvals that were granted, with their instants, in the order they were entered. -/
abbrev Seen := List (String × Int)

namespace Replay

/-- An entry survives until the approval it records is outside the freshness window. -/
def expiryFor (retentionMs approvalMs : Int) : Int := approvalMs + retentionMs + CLOCK_SKEW_MS

def prune (retentionMs nowMs : Int) (seen : Seen) : Seen :=
  seen.filter fun e => !decide (nowMs > expiryFor retentionMs e.2)

/-- `Map.prototype.set`. -/
def set (seen : Seen) (ref : String) (approvalMs : Int) : Seen :=
  if (seen.lookup ref).isSome then Json.setMember seen ref approvalMs else seen ++ [(ref, approvalMs)]

/-- What a claim finds after pruning. -/
inductive Admission where
  | spent
  | full
  | free
  deriving DecidableEq

/-- The first half of a claim, up to the append. Source: `ApprovalReplayStore.claim`. -/
def admission (seen : Seen) (ref : String) : Admission :=
  if (seen.lookup ref).isSome then .spent
  else if MAX_REPLAY_ENTRIES ≤ seen.length then .full
  else .free

/-! ### The journal -/

/-- One entry as it is written. -/
def entryText (e : String × Int) : List Char :=
  Json.render (.obj [("ref", .str e.1), ("approvalMs", .num e.2)])

/-- The journal `compact` writes. -/
def journalText (seen : Seen) : List Char := seen.flatMap fun e => entryText e ++ ['\n']

/-- A character put in front of the first line. -/
def consLine (c : Char) : List (List Char) → List (List Char)
  | [] => [[c]]
  | line :: rest => (c :: line) :: rest

/-- `text.split("\n")`. -/
def lines : List Char → List (List Char)
  | [] => [[]]
  | c :: cs => if c = '\n' then [] :: lines cs else consLine c (lines cs)

/-- The characters `String.prototype.trim` removes. -/
def isSpace (c : Char) : Bool :=
  let n := c.toNat
  (0x09 ≤ n && n ≤ 0x0d) || n = 0x20 || n = 0xa0 || n = 0x1680 || (0x2000 ≤ n && n ≤ 0x200a) ||
    n = 0x2028 || n = 0x2029 || n = 0x202f || n = 0x205f || n = 0x3000 || n = 0xfeff

/-- One line of the journal, read back. -/
def readEntry (file : String) (line : List Char) : Except String (String × Int) := do
  let value ← demand ((parseDocument line "replay journal entry").toOption.filter Json.isObj)
    ("grant sidecar: replay journal \"" ++ file ++ "\" has an unreadable entry — refusing to start " ++
      "with an anti-replay record it cannot read")
  let malformed :=
    "grant sidecar: replay journal \"" ++ file ++ "\" has a malformed entry — refusing to start"
  let ref ← demand (asString (value.get? "ref")) malformed
  match value.get? "approvalMs" with
  | some (.num approvalMs) => return (ref, approvalMs)
  | _ => .error malformed

def loadLines (file : String) (seen : Seen) : List (List Char) → Except String Seen
  | [] => .ok seen
  | line :: rest =>
    if line.all isSpace then loadLines file seen rest
    else do
      let (ref, approvalMs) ← readEntry file line
      loadLines file (set seen ref approvalMs) rest

/-- Rebuild the record from the journal; a line that cannot be read is fatal. `none` is a journal
that does not exist yet. Source: `ApprovalReplayStore.load`. -/
def load (file : String) : Option (List Char) → Except String Seen
  | none => .ok []
  | some text => loadLines file [] (lines text)

end Replay

/-! ## The handler -/

/-- An answer. -/
inductive Response where
  | pubkey (kid pub : String)
  | error (message : String)
  | artifact (doc : Json)
  deriving DecidableEq

/-- The specs an execution signer may sign. -/
def EXECUTION_SIGNED_SPECS : List String :=
  ["noa.execution-grant/0.1", "noa.execution-consumption/0.1", "noa.execution-uncertainty/0.1",
   "noa.hold-resolution/0.1"]

/-- The signing domain of a spec. Source: `exec-signer.ts` `executionDomainFor`. -/
def executionDomainFor (spec : Option Json) : Except String (String × String) := do
  let refusal := "Error: execution signer: refusing to sign spec " ++ quoted spec ++
    " — not an execution-signer artifact"
  let name ← demand (spec.bind Json.asStr?) refusal
  refuse (!EXECUTION_SIGNED_SPECS.contains name) refusal
  let domain ← demand ((ARTIFACTS.lookup name).bind ArtifactMeta.domain)
    ("Error: execution signer: no signing domain registered for " ++ name)
  return (name, domain)

/-- A signed copy of a document. Source: `sign.ts` `signArtifact`. -/
def signArtifact (P : Platform) (D : Deps) (domain : String) : Json → Except String Json
  | .obj ms => do
    refuse (ms.lookup "sig").isSome "Error: signArtifact: doc already has a sig field"
    let input ← demand (canonicalize (.obj ms)) "canonicalization failed"
    let value ← demand (P.signEd25519 D.identity.privateKey (P.signingMessage domain input))
      "Error: signing failed"
    return .obj (ms ++ [("sig", .obj [("alg", .str "ed25519"), ("kid", .str D.identity.kid),
      ("value", .str value)])])
  | _ => .error "Error: signArtifact: document must be a JSON object"

/-- The two operations that sign. -/
inductive Op where
  | signGrant
  | signAttestation
  deriving DecidableEq

def Op.text : Op → String
  | .signGrant => "sign-grant"
  | .signAttestation => "sign-attestation"

/-- The approval a request would spend; an attestation spends none. -/
def claimOf (nowMs : Int) (req artifact : Json) (spec : String) :
    Op → Except Response (Option (String × Int))
  | .signAttestation => do
    refuse (spec = EXECUTION_GRANT_SPEC)
      (Response.error ("sign-attestation: an Execution Grant is authority, not an attestation — " ++
        "use sign-grant with an approval proof"))
    return none
  | .signGrant => do
    refuse (spec ≠ EXECUTION_GRANT_SPEC)
      (Response.error "sign-grant: artifact is not an Execution Grant")
    let proof ← demand (record? req "proof")
      (Response.error "sign-grant: an approval proof is required")
    let claim ← (validateGrantRequest P D nowMs artifact proof).mapError
      fun reason => Response.error ("REFUSED: " ++ reason)
    return some claim

/-- A signed document that passed its own schema, and the approval it spends. -/
structure Prepared where
  signed : Json
  claim : Option (String × Int)
  deriving DecidableEq

/-- A request to sign, up to the claim on the approval. -/
def prepareSigned (nowMs : Int) (req : Json) (op : Op) : Except Response Prepared := do
  let artifact ← demand (record? req "artifact")
    (Response.error (op.text ++ ": \"artifact\" must be an object"))
  let (spec, domain) ← (executionDomainFor (artifact.get? "spec")).mapError Response.error
  let claim ← claimOf P D nowMs req artifact spec op
  let signed ← (signArtifact P D domain artifact).mapError
    fun e => Response.error ("signing failed: " ++ e)
  let schema ← demand (truthy? (D.schemas.lookup spec))
    (Response.error ("no schema loaded for " ++ spec))
  let errors := evalSchema P.toSchemaPlatform schema signed
  refuse (!errors.isEmpty)
    (Response.error ("signed artifact fails its own schema: " ++ "; ".intercalate errors))
  return ⟨signed, claim⟩

/-- A request line, up to the claim on the approval; an error is the answer. -/
def prepare (nowMs : Int) (line : List Char) : Except Response Prepared := do
  let req ← (parseDocument line "request").mapError
    fun reason => Response.error ("malformed request (" ++ reason ++ ")")
  refuse (!req.isObj) (Response.error "request is not an object")
  match req.getStr? "op" with
  | some "pubkey" => .error (.pubkey D.identity.kid D.identity.publicKey)
  | some "sign-grant" => prepareSigned P D nowMs req .signGrant
  | some "sign-attestation" => prepareSigned P D nowMs req .signAttestation
  | _ => .error (.error ("unknown op " ++ quoted (req.get? "op")))

/-- The answers to a claim that is not admitted. -/
def SPENT : Response :=
  .error ("REFUSED: this approval has already been granted once — one human decision authorizes " ++
    "one grant")

def notRecorded (cause : String) : Response :=
  .error ("REFUSED: could not durably record this approval as spent (" ++ cause ++ ")")

def FULL : Response :=
  notRecorded ("Error: grant sidecar: anti-replay set is full — refusing to sign rather than forget " ++
    "an approval")

/-- The memory and the journal of a running signer. -/
structure Store where
  seen : Seen
  journal : Option (List Char)
  deriving DecidableEq

/-- An append to the journal, which is created by the first one. -/
def Store.append (s : Store) (e : String × Int) : Store :=
  { s with journal := some (s.journal.getD [] ++ (Replay.entryText e ++ ['\n'])) }

/-- The request handler; `now₁` and `now₂` are its two readings of the clock and `appendFails` says
that the append throws. Source: `grant-sidecar.ts` `handleGrantSignerRequest`. -/
def handleGrantSignerRequest (now₁ now₂ : Int)
    (appendFails : Option String) (s : Store) (line : List Char) : Response × Store :=
  match prepare P D now₁ line with
  | .error answer => (answer, s)
  | .ok ⟨signed, none⟩ => (.artifact signed, s)
  | .ok ⟨signed, some (ref, approvalMs)⟩ =>
    let s := { s with seen := Replay.prune D.maxApprovalAgeMs now₂ s.seen }
    match Replay.admission s.seen ref, appendFails with
    | .spent, _ => (SPENT, s)
    | .full, _ => (FULL, s)
    | .free, some cause => (notRecorded cause, s)
    | .free, none =>
      let s := s.append (ref, approvalMs)
      (.artifact signed, { s with seen := Replay.set s.seen ref approvalMs })

/-- Start the process: read the journal back, then rewrite it without the entries that are too old.
An error is a process that does not start. Source: `grant-sidecar.ts` `main`. -/
def start (file : String) (nowMs : Int) (journal : Option (List Char)) : Except String Store := do
  let loaded ← Replay.load file journal
  let seen := Replay.prune D.maxApprovalAgeMs nowMs loaded
  return { seen, journal := some (Replay.journalText seen) }

end Signer

end NoaMandate
