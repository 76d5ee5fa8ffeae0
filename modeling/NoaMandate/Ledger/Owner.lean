import NoaMandate.Artifacts.Verify
import NoaMandate.Kernel.Verify
import NoaMandate.Ledger.Transfer
import NoaMandate.Lib.Double

/-!
# The in-memory ledger effect owner

A model of `effect-owner.ts`: the ledger definition, the authority check (`verifyEffectAuthority`),
the derivation of the transfer (`deriveLedgerCommit`), the check of what was signed
(`verifyEffectAttestation`) and the commit itself, over an explicit state.

The row sealer is foreign code that may call `commit` again while it runs.  `Sealer` is the tree of
what such code does: it throws, returns, or makes another commit and continues with the answer.
Documents handed in from outside are the values the strict parser reads from their encoding, `none`
when there is no such value.  `Stop.threw` is an exception the source lets through.
-/

namespace NoaMandate

open Pipeline

namespace Owner

/-! ## What the owner is built from -/

structure ProjectionIdentity where
  id : String
  version : Int
  hash : String

/-- The registered adapter of the action. -/
structure DisplayProjection where
  canonical : String
  actionSchema : ProjectionIdentity
  displayProjection : ProjectionIdentity

/-- The part of the gate's trust root the owner reads. -/
structure GateTrust where
  tenant : String
  /-- `gate.kid`. -/
  gateKid : String
  keyManifestVersion : Int
  keyManifestHash : String
  bootId : String
  uptimeResetAt : String
  keyring : List (String × KeyEntry)
  receiptKeyring : Json
  pinned : Bool

/-- Everything a commit depends on besides its input and the owner's state. -/
structure Env extends Intrinsics where
  /-- `verifyArtifact(…).ok`. -/
  verifyArtifact : Json → VerifyContext → Bool
  /-- `new Date(ms).toISOString()`; `none` where it throws. -/
  toISOString : Int → Option String
  schemas : List (String × Json)
  trust : GateTrust
  registered : DisplayProjection
  ledger : String

/-! ## The ledger definition -/

def PROBE_SALT : String := "00000000000000000000000000000000"

/-- Do the two identifiers pass the transfer rules? Asked through a probe transfer. -/
@[irreducible]
def identifiersAccepted (I : Intrinsics) (ledger account : String) : Bool :=
  let partner := if account = "a" then "b" else "a"
  match Transfer.projectLedgerTransfer I (Json.render (.obj [("amount", .str "1"),
      ("fromAccount", .str account), ("ledger", .str ledger), ("salt", .str PROBE_SALT),
      ("toAccount", .str partner), ("unit", .str "XTS")])) with
  | .ok r => r.value.ledger = ledger && r.value.fromAccount = account
  | .error _ => false

def ACCOUNTS_NOT_PLAIN : String :=
  "the accounts are not a plain object (prototype Object.prototype or null) of account " ++
    "identifiers and balances"

/-- `typeof` of a value that is not a string. -/
def typeName : Json → String
  | .bool _ => "boolean"
  | .num _ => "number"
  | .str _ => "string"
  | _ => "object"

/-- A non-negative safe integer. -/
def balance? : Json → Option Int
  | .num n => if n.natAbs ≤ Double.maxSafeInteger ∧ 0 ≤ n then some n else none
  | _ => none

/-- The walk over the accounts: `total` is the sum so far, kept as a number. -/
def checkAccounts (I : Intrinsics) (ledger : String) :
    Int → List (String × Json) → Except String (List (String × Int) × Int)
  | total, [] => .ok ([], total)
  | total, (id, v) :: rest => do
    refuse (!identifiersAccepted I ledger id)
      ("the account identifier " ++ jsonStringify id ++
        " fails the noa.ledger.transfer/1 identifier rules")
    let balance ← demand (balance? v)
      ("the balance of " ++ jsonStringify id ++ " is not a non-negative safe integer")
    let total := Double.round (total + balance)
    refuse (Double.maxSafeInteger < total) "the balances sum past Number.MAX_SAFE_INTEGER"
    let (balances, total) ← checkAccounts I ledger total rest
    return ((id, balance) :: balances, total)

/-- The accounts of a ledger: a plain object. -/
def accountMembers? : Json → Option (List (String × Json))
  | .obj ms => some ms
  | _ => none

/-- How a refusal names a ledger identifier. -/
def namedLedger : Json → String
  | .str l => jsonStringify l
  | v => "of type " ++ typeName v

/-- A string that is an accepted ledger identifier. -/
def ledgerIdentifier? (I : Intrinsics) : Json → Option String
  | .str l => if identifiersAccepted I l "a" then some l else none
  | _ => none

/-- The opening balances and their total. Source: `checkLedgerDefinition`. -/
def checkLedgerDefinition (I : Intrinsics) (ledger accounts : Json) :
    Except String (List (String × Int) × Int) := do
  let l ← demand (ledgerIdentifier? I ledger)
    ("the ledger identifier " ++ namedLedger ledger ++
      " fails the noa.ledger.transfer/1 identifier rules")
  let ms ← demand (accountMembers? accounts) ACCOUNTS_NOT_PLAIN
  checkAccounts I l 0 ms

/-! ## Refusals and inputs -/

/-- The refusals that write no row. -/
inductive EffectRefusalCode where
  | HOLD_FROM_DEAD_BOOT
  | COMMIT_AUTHORITY_INVALID
  | EFFECT_COMMIT_REENTRANT
  | EFFECT_AUTHORITY_CONSUMED
  | GRANT_EXPIRED
  | PARAMS_SNAPSHOT_MISMATCH
  | LEDGER_NOT_OWNED
  | LEDGER_SAME_ACCOUNT
  | EFFECT_SIGNER_UNAVAILABLE
  | EFFECT_ATTESTATION_INVALID
  deriving DecidableEq

/-- How a check ends a commit that writes nothing. -/
inductive Stop where
  | refused (code : EffectRefusalCode) (detail : String)
  | threw

/-- The failure of a check of the signed authority. -/
def invalid (token : String) : Stop := .refused .COMMIT_AUTHORITY_INVALID token

/-- What one commit is given, read once. -/
structure EffectCommitInput where
  holdId : String
  holdBootId : String
  canonicalParams : String
  holdEnvelope : Option Json
  deferredReceipt : Option Json
  encryptedDisplay : Option Json
  decisionArtifact : Option Json
  approvalReceipt : Option Json
  grant : Option Json

/-- The owner's own parses of the documents it has verified. -/
structure VerifiedAuthority where
  envelope : Json
  deferred : Json
  approval : Json
  decision : Json
  grant : Json

/-- The three uniqueness keys. -/
structure Keys where
  envelope : String
  decision : String
  grant : String

/-- What the authority check established. -/
structure VerifiedEffectAuthority where
  input : EffectCommitInput
  verified : VerifiedAuthority
  keys : Keys

/-- A document that is an object. -/
def snapshotOf (value : Option Json) : Option Json := value.filter Json.isObj

/-! ## The authority check -/

def ACTION_FIELDS : List String := ["id", "canonical", "riskClass", "paramsHash", "reversible"]

/-- Does one receipt carry the stable action members of another? -/
def sameAction (r r' : Json) : Bool :=
  ACTION_FIELDS.all fun f =>
    (r.path? ["action", f]).isSome && Json.same (r.path? ["action", f]) (r'.path? ["action", f])

/-- Does a signed projection identity equal the registered one? -/
def sameIdentity (signed : Option Json) (registered : ProjectionIdentity) : Bool :=
  match signed with
  | none => false
  | some v => v.getStr? "id" = some registered.id &&
      Json.same (v.get? "version") (some (.num registered.version)) &&
      v.getStr? "hash" = some registered.hash

/-- Is the key one of the recipients a sealed display names? -/
def displayNames (display : Json) (kid : String) : Bool :=
  match display.get? "recipients" with
  | some (.arr rs) => rs.any fun r => r.getStr? "kid" = some kid
  | _ => false

variable (E : Env)

def verificationContext (nowIso : String) : VerifyContext :=
  { schemas := E.schemas, keyring := E.trust.keyring, now := some nowIso }

/-- The context a decision is verified in: the tier its risk class needs, and its binding to this
envelope and tenant, at the instant the grant was issued. -/
def decisionContext (nowIso : String) (env deferred grant : Json) : VerifyContext :=
  { verificationContext E nowIso with
    authorizationTime := some (((grant.getStr? "issuedAt").map Json.str).getD .null)
    riskClass := deferred.strAt? ["action", "riskClass"]
    refHashChecks := [{ path := ["holdEnvelopeHash"], rule := .side, artifact := env,
                        refEquals := [(["tenant"], .str E.trust.tenant)] }] }

/-- The one receipt-chain check: signatures under the receipt keyring, linkage, one tenant. A list
past the parser's ceiling is not a document. -/
def chainValid (receipts : List Json) : Bool :=
  decide (utf8Length (Json.render (.arr receipts)) ≤ MAX_INPUT_BYTES) &&
    decide ((verifyParsedChain E.toIntrinsics {}
      { keyring := some E.trust.receiptKeyring, checkpoint := none, identityManifest := none }
      (.arr receipts)).status = .VALID)

/-- The hold envelope: signed, for this tenant and gate, this hold and this epoch. -/
def checkEnvelope (input : EffectCommitInput) (nowIso : String) : Except Stop Json := do
  let env ← demand (snapshotOf input.holdEnvelope) (invalid "envelope")
  refuse (!E.verifyArtifact env (verificationContext E nowIso)) (invalid "envelope")
  refuse (env.getStr? "tenant" ≠ some E.trust.tenant || env.getStr? "gateKid" ≠ some E.trust.gateKid)
    (invalid "envelope-audience")
  refuse (env.getStr? "holdId" ≠ some input.holdId) (invalid "envelope-hold")
  refuse (!Json.same (env.get? "keyManifestVersion") (some (.num E.trust.keyManifestVersion)) ||
      env.getStr? "keyManifestHash" ≠ some E.trust.keyManifestHash)
    (invalid "envelope-epoch")
  return env

/-- The deferred receipt is the one the envelope binds, for the registered action. -/
def checkDeferred (input : EffectCommitInput) (env : Json) : Except Stop Json := do
  let deferred ← demand (snapshotOf input.deferredReceipt) (invalid "deferred-binding")
  let hash ← demand (receiptRefHash E.toIntrinsics deferred) .threw
  refuse (env.getStr? "deferredReceiptHash" ≠ some hash ||
      deferred.strAt? ["action", "canonical"] ≠ some E.registered.canonical)
    (invalid "deferred-binding")
  refuse (env.getStr? "mode" ≠ some "ENFORCED" ||
      !sameIdentity ((env.get? "actionSchema").filter Json.isObj) E.registered.actionSchema ||
      !sameIdentity ((env.get? "displayProjection").filter Json.isObj)
        E.registered.displayProjection)
    (invalid "projection-identity")
  return deferred

/-- The approval receipt: it verifies and links with the deferred one, allows, and is about the held
action. -/
def checkApproval (input : EffectCommitInput) (deferred : Json) : Except Stop Json := do
  let approval ← demand (snapshotOf input.approvalReceipt) (invalid "receipt-chain")
  refuse (!chainValid E [deferred, approval]) (invalid "receipt-chain")
  refuse (approval.strAt? ["governance", "verdict"] ≠ some "ALLOWED") (invalid "approval-verdict")
  refuse (!sameAction approval deferred) (invalid "approval-action")
  return approval

/-- The bindings of a grant; an expected value that is missing is never met. -/
def checkBindings (grant : Json) : List (String × Option String) → Except Stop Unit
  | [] => .ok ()
  | (field, expected) :: rest => do
    refuse (expected.isNone || grant.getStr? field ≠ expected) (invalid ("grant-binding:" ++ field))
    checkBindings grant rest

/-- The execution grant and the hash of the envelope it is bound to. -/
def checkGrant (input : EffectCommitInput) (nowIso : String) (env deferred approval : Json) :
    Except Stop (Json × String) := do
  let grant ← demand (snapshotOf input.grant) (invalid "grant")
  refuse (!E.verifyArtifact grant (verificationContext E nowIso)) (invalid "grant")
  let envelopeHash ← demand (refHash E.toIntrinsics env) .threw
  let approvalHash ← demand (receiptRefHash E.toIntrinsics approval) .threw
  checkBindings grant [("holdId", some input.holdId), ("holdEnvelopeHash", some envelopeHash),
    ("approvalReceiptHash", some approvalHash),
    ("paramsHash", deferred.strAt? ["action", "paramsHash"])]
  return (grant, envelopeHash)

/-- The approver's decision. -/
def checkDecision (input : EffectCommitInput) (nowIso : String) (env deferred grant : Json) :
    Except Stop Json := do
  let decision ← demand (snapshotOf input.decisionArtifact) (invalid "decision")
  refuse (!E.verifyArtifact decision (decisionContext E nowIso env deferred grant))
    (invalid "decision")
  refuse (decision.getStr? "decision" ≠ some "APPROVE") (invalid "decision-not-approve")
  return decision

/-- The approval receipt is the deciding approver's own, under one key. -/
def checkApprover (approval decision : Json) : Except Stop String := do
  let kid ← demand (decision.getStr? "approverKid") (invalid "approver-identity")
  refuse (approval.strAt? ["sig", "kid"] ≠ some kid ||
      approval.strAt? ["governance", "approval", "by"] ≠ some kid ||
      approval.strAt? ["agent", "principal"] ≠ some "HUMAN")
    (invalid "approver-identity")
  let decisionKey ← demand ((E.trust.keyring.lookup kid).map KeyEntry.publicKey)
    (invalid "keyring-consistency")
  refuse (E.trust.receiptKeyring.strAt? ["keys", kid, "publicKey"] ≠ some decisionKey)
    (invalid "keyring-consistency")
  return kid

/-- The display the envelope binds was sealed to that approver. -/
def checkDisplay (input : EffectCommitInput) (env : Json) (kid : String) : Except Stop Unit := do
  let display ← demand (snapshotOf input.encryptedDisplay) (invalid "display-binding")
  let hash ← demand (virtualHash E.toIntrinsics display) .threw
  refuse (env.getStr? "displayCiphertextHash" ≠ some hash) (invalid "display-binding")
  refuse (!displayNames display kid) (invalid "display-recipient")

/-- Every signed byte a commit rests on, in a fixed order. Source: `verifySignedAuthority`. -/
def verifySignedAuthority (input : EffectCommitInput) (nowIso : String) :
    Except Stop (VerifiedAuthority × Keys) := do
  let env ← checkEnvelope E input nowIso
  let deferred ← checkDeferred E input env
  let approval ← checkApproval E input deferred
  let (grant, envelopeHash) ← checkGrant E input nowIso env deferred approval
  let decision ← checkDecision E input nowIso env deferred grant
  let kid ← checkApprover E approval decision
  checkDisplay E input env kid
  let decisionHash ← demand (refHash E.toIntrinsics decision) .threw
  return (⟨env, deferred, approval, decision, grant⟩,
    ⟨envelopeHash, decisionHash, (grant.getStr? "grantId").getD ""⟩)

/-- `a ≥ b` for two instants; an unreadable one fails. -/
def atLeast (a b : Option Int) : Bool :=
  match a, b with
  | some x, some y => y ≤ x
  | _, _ => false

/-- Is a hold frozen at this instant from before this boot? Source: `trust.ts`
`frozenBeforeBoot`. -/
def frozenBeforeBoot (frozenAt : Option String) : Bool :=
  !atLeast (frozenAt.bind E.dateParse) (E.dateParse E.trust.uptimeResetAt)

/-- The owner's authority check: the entry snapshot, the boot, the signed bytes, the signed boot.
`none` is an input that cannot be read. -/
def verifyEffectAuthority (input : Option EffectCommitInput) (nowIso : String) :
    Except Stop VerifiedEffectAuthority := do
  let snap ← demand input (invalid "input")
  refuse (snap.holdBootId ≠ E.trust.bootId)
    (.refused .HOLD_FROM_DEAD_BOOT "this hold was frozen by an earlier boot of the gate")
  let (verified, keys) ← verifySignedAuthority E snap nowIso
  refuse (frozenBeforeBoot E (verified.deferred.getStr? "ts"))
    (.refused .HOLD_FROM_DEAD_BOOT "this hold was frozen before this boot of the gate began")
  return ⟨snap, verified, keys⟩

/-! ## The transfer a verified authority moves -/

/-- The validated digits as an integer. -/
def amountOf (amount : String) : Nat :=
  (Json.units amount).foldl (fun n c => n * 10 + (c - 0x30)) 0

/-- The effect and the bindings its row records. -/
structure LedgerCommit where
  ledger : String
  fromAccount : String
  toAccount : String
  amount : String
  units : Nat
  unit : String
  paramsHash : String
  canonicalParams : String
  holdId : String
  holdEnvelopeHash : String
  decisionRefHash : String
  grantId : String

/-- The transfer a projection yields, with the bindings of the authority. -/
def commitOf (authority : VerifiedEffectAuthority) (r : Transfer.Projection) : LedgerCommit :=
  { ledger := r.value.ledger, fromAccount := r.value.fromAccount, toAccount := r.value.toAccount,
    amount := r.value.amount, units := amountOf r.value.amount, unit := r.value.unit.text,
    paramsHash := r.paramsHash, canonicalParams := authority.input.canonicalParams,
    holdId := (authority.verified.envelope.getStr? "holdId").getD authority.input.holdId,
    holdEnvelopeHash := authority.keys.envelope, decisionRefHash := authority.keys.decision,
    grantId := authority.keys.grant }

/-- `at < Math.min(a, b)`, which no unreadable instant meets. -/
def beforeBoth (instant : Int) (a b : Option Int) : Bool :=
  match a, b with
  | some x, some y => instant < min x y
  | _, _ => false

/-- Expiry, the params hash re-derived, this owner's ledger, two accounts. Source:
`deriveLedgerCommit`. -/
def deriveLedgerCommit (authority : VerifiedEffectAuthority) (instant : Int) :
    Except Stop LedgerCommit := do
  let verified := authority.verified
  let snap := authority.input
  refuse (!beforeBoth instant (E.dateParse ((verified.grant.getStr? "expiresAt").getD ""))
      (E.dateParse ((verified.envelope.getStr? "expiresAt").getD "")))
    (.refused .GRANT_EXPIRED "the grant or its hold has expired")
  let mismatch := Stop.refused .PARAMS_SNAPSHOT_MISMATCH
    "the stored params do not re-derive the params hash the grant binds"
  let r ← demand
    (Transfer.projectLedgerTransfer E.toIntrinsics (Text.chars snap.canonicalParams)).toOption
    mismatch
  refuse (r.canonical ≠ Text.chars snap.canonicalParams ||
    verified.grant.getStr? "paramsHash" ≠ some r.paramsHash) mismatch
  refuse (r.value.ledger ≠ E.ledger)
    (.refused .LEDGER_NOT_OWNED "the transfer names a ledger this owner does not commit")
  refuse (r.value.fromAccount = r.value.toAccount)
    (.refused .LEDGER_SAME_ACCOUNT "a transfer must move between two accounts")
  return commitOf authority r

/-! ## What was signed for an executed effect -/

/-- The owner's own parses of what the gate signed. -/
structure EffectAttestation where
  executedReceipt : Json
  executionConsumption : Json

/-- What foreign sealing code ends with. -/
inductive SealResult where
  | threw
  /-- A value whose members cannot be read. -/
  | unreadable
  | returned (executedReceipt executionConsumption : Option Json)

/-- Every member of an executed receipt the gate's own sealer fixes. -/
def executedShape (ex : Json) : Bool :=
  Json.same (ex.path? ["agent", "model"]) (some .null) &&
    ex.strAt? ["agent", "principal"] = some "SERVICE" &&
    ex.strAt? ["governance", "mode"] = some "approvals_on" &&
    Json.same (ex.path? ["governance", "ruleId"]) (some .null) &&
    Json.same (ex.path? ["governance", "approval"]) (some .null) &&
    Json.same (ex.path? ["governance", "sandboxed"]) (some (.bool false)) &&
    Json.same (ex.path? ["action", "rollbackRef"]) (some .null)

/-- Does one receipt carry the scope and the agent of another? -/
def sameScope (r r' : Json) : Bool :=
  r.strAt? ["scope", "tenant"] = r'.strAt? ["scope", "tenant"] &&
    r.strAt? ["scope", "chain"] = r'.strAt? ["scope", "chain"] &&
    r.strAt? ["agent", "id"] = r'.strAt? ["agent", "id"]

/-- The executed receipt: this commit's instant, a fresh id, the chain, the signer and the members
the gate writes. -/
def checkExecuted (v : VerifiedAuthority) (nowIso : String) (alreadyRecorded : String → Bool)
    (ex cons : Json) : Except String Unit := do
  refuse (ex.getStr? "ts" ≠ some nowIso || cons.getStr? "consumedAt" ≠ some nowIso)
    "attestation-time"
  let id ← demand (ex.getStr? "id") "executed-receipt-fresh"
  refuse (alreadyRecorded id || v.deferred.getStr? "id" = some id || v.approval.getStr? "id" = some id)
    "executed-receipt-fresh"
  refuse (!chainValid E [v.deferred, v.approval, ex]) "executed-receipt-chain"
  refuse (ex.strAt? ["sig", "kid"] ≠ some E.trust.gateKid) "executed-receipt-signer"
  refuse (ex.strAt? ["governance", "verdict"] ≠ some "EXECUTED") "executed-receipt-verdict"
  refuse (!executedShape ex) "executed-receipt-shape"
  refuse (!sameAction ex v.deferred) "executed-receipt-action"
  refuse (!sameScope ex v.deferred) "executed-receipt-scope"

/-- The consumption: signed, and bound to the grant and to the executed receipt. -/
def checkConsumption (v : VerifiedAuthority) (nowIso : String) (ex cons : Json) :
    Except String Unit := do
  refuse (!E.verifyArtifact cons (verificationContext E nowIso)) "consumption"
  let grantHash ← demand (refHash E.toIntrinsics v.grant) "attestation-unreadable"
  let attemptHash ← demand (receiptRefHash E.toIntrinsics ex) "attestation-unreadable"
  refuse (cons.getStr? "grantHash" ≠ some grantHash ||
      cons.getStr? "attemptReceiptHash" ≠ some attemptHash ||
      cons.getStr? "result" ≠ some "DISPATCHED")
    "consumption-binding"

/-- What the sealer returned is verified like any other input; the error is the problem found, and
`attestation-unreadable` where a check throws. Source: `verifyEffectAttestation`. -/
def verifyEffectAttestation (executedReceipt executionConsumption : Option Json)
    (v : VerifiedAuthority) (nowIso : String) (alreadyRecorded : String → Bool) :
    Except String EffectAttestation := do
  let ex ← demand (snapshotOf executedReceipt) "executed-receipt"
  let cons ← demand (snapshotOf executionConsumption) "consumption"
  checkExecuted E v nowIso alreadyRecorded ex cons
  checkConsumption E v nowIso ex cons
  return ⟨ex, cons⟩

/-! ## The state and the commit -/

inductive RowOutcome where
  | EXECUTED
  | REFUSED
  deriving DecidableEq

/-- The refusals that write a terminal row. -/
inductive LedgerRefusalCode where
  | LEDGER_ACCOUNT_UNKNOWN
  | LEDGER_INSUFFICIENT_FUNDS
  deriving DecidableEq

/-- One ledger row; `units` of the commit is not recorded. -/
structure LedgerRow where
  effectId : String
  sequence : Nat
  outcome : RowOutcome
  refusalCode : Option LedgerRefusalCode
  ledger : String
  fromAccount : String
  toAccount : String
  amount : String
  unit : String
  paramsHash : String
  canonicalParams : String
  holdId : String
  holdEnvelopeHash : String
  decisionRefHash : String
  grantId : String
  committedAt : String
  attestation : Option EffectAttestation

/-- The owner's state. Maps are association lists in which the newest entry comes first. -/
structure State where
  balances : List (String × Int)
  rows : List LedgerRow := []
  rowsById : List (String × LedgerRow) := []
  envelopeIndex : List (String × String) := []
  decisionIndex : List (String × String) := []
  grantIndex : List (String × String) := []
  recordedReceiptIds : List String := []
  busy : Bool := false

/-- The answer to a commit; `threw` is an exception of the source. -/
inductive EffectOutcome where
  | committed (kind : RowOutcome) (idempotent : Bool) (row : LedgerRow)
  | notCommitted (code : EffectRefusalCode) (effectId : Option String) (detail : String)
  | threw

/-- Write one row and its three index entries. -/
def State.writeRow (s : State) (row : LedgerRow) : State :=
  { s with
    rows := s.rows ++ [row]
    rowsById := (row.effectId, row) :: s.rowsById
    envelopeIndex := (row.holdEnvelopeHash, row.effectId) :: s.envelopeIndex
    decisionIndex := (row.decisionRefHash, row.effectId) :: s.decisionIndex
    grantIndex := (row.grantId, row.effectId) :: s.grantIndex }

/-- The row of a transfer, before it is written. -/
def rowOf (c : LedgerCommit) (effectId : String) (sequence : Nat) (committedAt : String)
    (outcome : RowOutcome) (refusalCode : Option LedgerRefusalCode)
    (attestation : Option EffectAttestation) : LedgerRow :=
  { effectId, sequence, outcome, refusalCode, ledger := c.ledger, fromAccount := c.fromAccount,
    toAccount := c.toAccount, amount := c.amount, unit := c.unit, paramsHash := c.paramsHash,
    canonicalParams := c.canonicalParams, holdId := c.holdId,
    holdEnvelopeHash := c.holdEnvelopeHash, decisionRefHash := c.decisionRefHash,
    grantId := c.grantId, committedAt, attestation }

/-- Record a transfer that is refused for good: the authority is consumed without an effect. -/
def State.refusedRow (s : State) (c : LedgerCommit) (effectId committedAt : String)
    (code : LedgerRefusalCode) : State × EffectOutcome :=
  let row := rowOf c effectId (s.rows.length + 1) committedAt .REFUSED (some code) none
  (s.writeRow row, .committed .REFUSED false row)

/-- The effect and the consumption of its authority, in one step. -/
def State.executedRow (s : State) (c : LedgerCommit) (effectId committedAt : String)
    (fromBalance toBalance : Int) (attestation : EffectAttestation) : State × EffectOutcome :=
  let row := rowOf c effectId (s.rows.length + 1) committedAt .EXECUTED none (some attestation)
  let debited := Json.setMember s.balances c.fromAccount (Double.round (fromBalance - c.units))
  let s' : State := { s with
    balances := Json.setMember debited c.toAccount (Double.round (toBalance + c.units))
    recordedReceiptIds :=
      (attestation.executedReceipt.getStr? "id").getD "" :: s.recordedReceiptIds }
  (s'.writeRow row, .committed .EXECUTED false row)

/-- What one call of `commit` meets: the clock's reading, the id `newId` would return, and the input,
`none` when it cannot be read. -/
structure Call where
  clock : Int
  newId : String
  input : Option EffectCommitInput

/-- Is one of the three keys in its index? -/
def State.consumed (s : State) (k : Keys) : Bool :=
  (s.envelopeIndex.lookup k.envelope).isSome || (s.decisionIndex.lookup k.decision).isSome ||
    (s.grantIndex.lookup k.grant).isSome

/-- The recorded row when all three keys name it, and otherwise the row that consumed one of them. -/
def State.replay? (s : State) (k : Keys) : Option EffectOutcome :=
  let byEnvelope := s.envelopeIndex.lookup k.envelope
  let byDecision := s.decisionIndex.lookup k.decision
  let byGrant := s.grantIndex.lookup k.grant
  let recorded :=
    if byEnvelope = byDecision && byEnvelope = byGrant then byEnvelope.bind fun id => s.rowsById.lookup id
    else none
  match recorded with
  | some row => some (.committed row.outcome true row)
  | none => (byEnvelope <|> byDecision <|> byGrant).map fun id =>
    .notCommitted .EFFECT_AUTHORITY_CONSUMED (some id)
      "this authority has already been consumed by another row"

/-- A check that stopped, as an answer. -/
def Stop.outcome : Stop → EffectOutcome
  | .refused code detail => .notCommitted code none detail
  | .threw => .threw

/-- Sign, verify what was signed, and write. `runSeal` is the foreign sealer: it may change the
state through calls of its own, and the balances were read before it ran. -/
def sealAndWrite (runSeal : Int → VerifiedAuthority → State → State × SealResult) (call : Call)
    (atIso : String) (authority : VerifiedEffectAuthority) (c : LedgerCommit)
    (fromBalance toBalance : Int) (s : State) : State × EffectOutcome :=
  match runSeal call.clock authority.verified s with
  | (s, .threw) =>
    (s, .notCommitted .EFFECT_SIGNER_UNAVAILABLE none
      "the execution signer did not sign the attestation; nothing was written")
  | (s, .unreadable) =>
    (s, .notCommitted .EFFECT_ATTESTATION_INVALID none "attestation-unreadable")
  | (s, .returned ex cons) =>
    match verifyEffectAttestation E ex cons authority.verified atIso
        s.recordedReceiptIds.contains with
    | .error problem => (s, .notCommitted .EFFECT_ATTESTATION_INVALID none problem)
    | .ok attestation =>
      if s.consumed authority.keys then
        (s, .notCommitted .EFFECT_AUTHORITY_CONSUMED none
          "this authority was consumed while this commit was signing")
      else s.executedRow c call.newId atIso fromBalance toBalance attestation

/-- The accounts and the funds. -/
def settle (runSeal : Int → VerifiedAuthority → State → State × SealResult) (call : Call)
    (atIso : String) (authority : VerifiedEffectAuthority) (c : LedgerCommit) (s : State) :
    State × EffectOutcome :=
  match s.balances.lookup c.fromAccount, s.balances.lookup c.toAccount with
  | some fromBalance, some toBalance =>
    if fromBalance < c.units then
      s.refusedRow c call.newId atIso .LEDGER_INSUFFICIENT_FUNDS
    else sealAndWrite E runSeal call atIso authority c fromBalance toBalance s
  | _, _ => s.refusedRow c call.newId atIso .LEDGER_ACCOUNT_UNKNOWN

/-- One commit. Source: `commitOnce`. -/
def commitOnce (runSeal : Int → VerifiedAuthority → State → State × SealResult) (call : Call)
    (s : State) : State × EffectOutcome :=
  match E.toISOString call.clock with
  | none => (s, .threw)
  | some atIso =>
    match verifyEffectAuthority E call.input atIso with
    | .error stop => (s, stop.outcome)
    | .ok authority =>
      match s.replay? authority.keys with
      | some outcome => (s, outcome)
      | none =>
        match deriveLedgerCommit E authority call.clock with
        | .error stop => (s, stop.outcome)
        | .ok c => settle E runSeal call atIso authority c s

/-- A commit, with the owner marked busy for its whole duration; a commit on a busy owner is refused
at once. Source: `commit`. -/
def commit (runSeal : Int → VerifiedAuthority → State → State × SealResult) (call : Call)
    (s : State) : State × EffectOutcome :=
  if s.busy then
    (s, .notCommitted .EFFECT_COMMIT_REENTRANT none
      "another commit on this owner is in progress; retry after it completes")
  else
    let r := commitOnce E runSeal call { s with busy := true }
    ({ r.1 with busy := false }, r.2)

/-- What foreign sealing code does: it ends, or it commits again, with a sealer of its own for that
commit, and goes on with the answer. -/
inductive Sealer where
  | done (result : SealResult)
  | commit (call : Call) (sealer : Int → VerifiedAuthority → Sealer)
      (next : EffectOutcome → Sealer)

/-- Run foreign sealing code. -/
def Sealer.run (E : Env) : Sealer → State → State × SealResult
  | .done result, s => (s, result)
  | .commit call sealer next, s =>
    let r := Owner.commit E (fun instant v s => (sealer instant v).run E s) call s
    (next r.2).run E r.1

/-- One call of `commit` from outside. -/
structure Request where
  call : Call
  sealer : Int → VerifiedAuthority → Sealer

/-- The owner's state after a request. -/
def State.request (s : State) (r : Request) : State :=
  (commit E (fun instant v s => (r.sealer instant v).run E s) r.call s).1

/-- The owner's state after a sequence of requests. -/
def State.requests (s : State) (rs : List Request) : State := rs.foldl (fun s r => s.request E r) s

/-- The refusal of `assertEffectOwnerTrust`. -/
def EFFECT_OWNER_REQUIRES_PINNED_TRUST : String :=
  "EFFECT_OWNER_REQUIRES_PINNED_TRUST: an effect owner commits on approver signatures, and this " ++
    "trust root is not pinned (an alpha trust root holds the approver's private key in this " ++
    "process). Build the gate from a pinned roster (docs/gate-pinned-trust.md)."

/-- A new owner over the opening balances; the error is the text it refuses construction with.
Source: `createInMemoryLedgerEffectOwner`. -/
def create (accounts : Json) : Except String State := do
  refuse (!E.trust.pinned) EFFECT_OWNER_REQUIRES_PINNED_TRUST
  match checkLedgerDefinition E.toIntrinsics (.str E.ledger) accounts with
  | .error detail => .error ("EFFECT_OWNER_LEDGER_INVALID: " ++ detail)
  | .ok (balances, _) => return { balances }

end Owner

end NoaMandate
