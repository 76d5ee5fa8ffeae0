import NoaMandate.Evidence.Checkpoint

/-!
# The evidence verifier

`verifyEvidence` of `verify-evidence.ts`.  The bundle and the trust documents are read, the steps run
in the source's order until one refuses, and the answer is formed.

A refusal of step 10 or 11 that is about settlement or enrolment comes before the chain was looked
at, so the checkpoint step is then run out of order; when it fails too and the first refusal was a
soft one, the answer is about the checkpoint.  No other refusal is treated so: all of them carry the
name of another step.
-/

namespace NoaMandate

open Pipeline
open SchemaEval (evalSchema quoted)

def VERIFIER_POLICY_VERSION : String := "noa.verify-evidence/2026-09-06"

structure VerdictPolicy where
  verifierVersion : String
  purpose : VerificationPurpose
  deriving DecidableEq

structure VerifyEvidenceResult where
  verdict : EvidenceVerdict
  outcome : Option EvidenceOutcome
  /-- The step, code and reason of a refusal. -/
  failure : Option StepFailure
  steps : List StepResult
  rolesAsserted : List ReceiptRole
  dimensions : VerdictDimensions
  enrolment : EnrolmentEvaluation
  policy : VerdictPolicy
  warnings : List String
  deriving DecidableEq

/-- The options of a request; documents are texts. -/
structure VerifyEvidenceOptions where
  tenantRoot : List Char
  checkpointKeyring : List Char
  now : Option String := none
  maxAgeMs : Option Int := none
  purpose : String := "audit"
  enrolmentRegistries : List (List Char) := []
  audience : Option String := none

def DEFAULT_MAX_AGE_MS : Int := 24 * 60 * 60 * 1000

namespace Evidence

/-! ## The steps in order -/

/-- Run a step and enter its result in the report. -/
def logged {α : Type} (S : StepName) (x : EvidenceCheck α) : EvidenceCheck α := do
  match ← x.attempt with
  | .ok a =>
    Check.note fun r => { r with steps := r.steps ++ [.ok S] }
    return a
  | .error e =>
    Check.note fun r => { r with steps := r.steps ++ [.failed e] }
    (.error e : Except StepFailure α)

/-- A refusal that is about settlement or enrolment. -/
def settlementFailure (e : StepFailure) (r : Report) : Bool :=
  (e.step = .STEP_10_EXECUTED || e.step = .STEP_11_EXECUTION_FAILED) &&
    (r.settlement.isSome || UNVERIFIED_CODES.contains e.code || INCONCLUSIVE_CODES.contains e.code)

variable (P : EvidencePlatform) (s : Setup)

/-- Run a step; when its refusal is about settlement or enrolment, look at the chain as well. -/
def orCheckpoint (trust : Trust) (x : EvidenceCheck Unit) : EvidenceCheck Unit := do
  match ← x.attempt with
  | .ok () => return ()
  | .error e =>
    let r ← Check.record
    if settlementFailure e r && r.checkpointReconciled.isNone then
      match ← (logged .STEP_17_CHECKPOINT_RECONCILE (runCheckpointStep P s trust)).attempt with
      | .ok _ => (.error e : Except StepFailure Unit)
      | .error cp => (.error (if isSoftS5Failure e.code then cp else e) : Except StepFailure Unit)
    else (.error e : Except StepFailure Unit)

/-- Source: `verify-evidence.ts` `PIPELINE`, and the loop over it. -/
def pipeline : EvidenceCheck Anchoring := do
  let tenant ← logged .STEP_0_TENANT_EQUALITY (step0_tenantEquality s)
  let trust ← logged .STEP_1_HOLD_ENVELOPE (step1_holdEnvelope P s tenant)
  logged .STEP_2_ENVELOPE_BINDING (step2_envelopeBinding P s)
  logged .STEP_3_HOLD_RESOLUTION (step3_holdResolution P s trust)
  let decision ← logged .STEP_4_DECISION_ARTIFACT (step4_decision P s tenant trust)
  logged .STEP_5_APPROVER_ROLE (step5_approverRole s trust decision)
  logged .STEP_6_VERDICT_RECEIPT_BINDING (step6_verdictReceiptBinding s)
  logged .STEP_7_DENIED (step7_denied s)
  logged .STEP_8_EXPIRED (step8_expired s)
  logged .STEP_9_CANCELLED (step9_cancelled s)
  orCheckpoint P s trust (logged .STEP_10_EXECUTED (step10_executed P s tenant trust))
  orCheckpoint P s trust (logged .STEP_11_EXECUTION_FAILED (step11_executionFailed P s tenant trust))
  logged .STEP_12_UNKNOWN_AFTER_DISPATCH (step12_unknown P s tenant trust)
  logged .STEP_13_GRANT_EXPIRED (step13_grantExpired P s tenant trust)
  logged .STEP_14_APPROVED_NO_EXECUTION_EVIDENCE (step14_approvedNoExec s)
  logged .STEP_19_RECEIPT_ROLE_INTEGRITY (step19_receiptRoleIntegrity s)
  let anchoring ← logged .STEP_17_CHECKPOINT_RECONCILE (runCheckpointStep P s trust)
  logged .STEP_15_NEGATIVE_OUTCOME_PRINCIPLE (step15_negativeOutcomePrinciple s anchoring)
  logged .STEP_16_CHECKPOINT_FRESHNESS (step16_checkpointFreshness P s)
  logged .STEP_18_TEMPORAL_AUTHORIZATION (runTemporalStep P s trust anchoring)
  return anchoring

/-! ## Reading the request -/

/-- An answer given before any step ran. -/
def refusal (verdict : EvidenceVerdict) (failure : StepFailure)
    (purpose : VerificationPurpose := .audit) : VerifyEvidenceResult where
  verdict
  outcome := none
  failure := some failure
  steps := []
  rolesAsserted := []
  dimensions := ⟨.BROKEN, .UNCHECKED, .UNCHECKED, .NOT_EVALUATED, none⟩
  enrolment := .NOT_EVALUATED
  policy := ⟨VERIFIER_POLICY_VERSION, purpose⟩
  warnings := []

def purposeOf : String → Option VerificationPurpose
  | "audit" => some .audit
  | "authorize" => some .authorize
  | _ => none

/-- A keyring document: an object with at least one member. -/
def trustDocument (text : List Char) : Option Json :=
  match parseDocument text "checkpoint keyring" with
  | .ok (.obj (m :: ms)) => some (.obj (m :: ms))
  | _ => none

/-- The outcome a bundle claims. -/
def outcomeOf (bundle : Json) : Option EvidenceOutcome :=
  (bundle.getStr? "outcome").bind EvidenceOutcome.ofText?

/-- Read a request; an error is the answer to one that cannot be judged. `clock` is the text of the
verifier's own time. -/
def admitted (clock : String) (o : VerifyEvidenceOptions)
    (text : List Char) : Except VerifyEvidenceResult Setup := do
  let shape (reason : String) : StepFailure := ⟨.STEP_0_TENANT_EQUALITY, .E_BUNDLE_SHAPE, reason⟩
  let purpose ← demand (purposeOf o.purpose)
    (refusal .UNVERIFIED ⟨.STEP_1_HOLD_ENVELOPE, .E_NO_TRUST_ROOT, "unrecognised purpose " ++
      quoted (some (.str o.purpose)) ++ " — must be exactly \"audit\" or \"authorize\" " ++
      "(fail-closed: an unknown purpose is never treated as audit)"⟩)
  let bundle ← (parseDocument text "bundle").mapError fun reason =>
    refusal .INVALID (shape ("bundle rejected at the byte boundary: " ++ reason)) purpose
  refuse (!bundle.isObj)
    (refusal .INVALID (shape ("bundle rejected at the byte boundary: the document is not a JSON " ++
      "object")) purpose)
  let rootKeyring := asRootKeyEntryMap o.tenantRoot
  refuse rootKeyring.isEmpty
    (refusal .UNVERIFIED ⟨.STEP_1_HOLD_ENVELOPE, .E_NO_TRUST_ROOT, "no external --tenant-root " ++
      "supplied (F7a): cannot anchor the delegation → manifest chain"⟩)
  let checkpointKeyring ← demand (trustDocument o.checkpointKeyring)
    (refusal .UNVERIFIED ⟨.STEP_17_CHECKPOINT_RECONCILE, .E_NO_TRUST_ROOT, "no external " ++
      "--checkpoint-keyring supplied (F7a): cannot authenticate the tail-completeness anchor"⟩)
  let errors := evalSchema P.toSchemaPlatform CONTAINER_SCHEMA bundle
  refuse (!errors.isEmpty)
    (refusal .INVALID (shape ("bundle container invalid: " ++ "; ".intercalate errors)))
  refuse (bundle.get? "spec" ≠ some (.str EVIDENCE_SPEC))
    (refusal .INVALID (shape ("spec != " ++ EVIDENCE_SPEC)))
  -- never refused: the container admits the eight outcomes only
  let outcome ← demand (outcomeOf bundle) (refusal .INVALID (shape "bundle container invalid"))
  return {
    bundle, outcome, rootKeyring, checkpointKeyring, purpose
    now := o.now.getD clock
    maxAgeMs := o.maxAgeMs.getD DEFAULT_MAX_AGE_MS
    enrolmentRegistries := o.enrolmentRegistries
    audience := o.audience }

/-! ## The answer -/

/-- The answer on a bundle a step refused. -/
def refused (failing : StepFailure) (r : Report) : VerifyEvidenceResult where
  verdict := .ofCode failing.code
  outcome := some s.outcome
  failure := some failing
  steps := r.steps
  rolesAsserted := r.rolesAsserted
  dimensions :=
    { integrity := match r.historical with
        | some h => h.dimensions.integrity
        | none =>
          if r.checkpointReconciled = some true ∧ failing.step ≠ .STEP_17_CHECKPOINT_RECONCILE
          then .INTACT else .BROKEN
      authorization := r.authorization
      settlement := r.settlement.getD .UNCHECKED
      settlementObserver := r.settlementObserver.getD .NOT_EVALUATED
      historical := r.historical }
  enrolment := r.enrolment
  policy := ⟨VERIFIER_POLICY_VERSION, s.purpose⟩
  warnings := r.warnings

/-- The answer on a bundle that passed every step. -/
def accepted (anchoring : Anchoring) (r : Report) : VerifyEvidenceResult where
  verdict :=
    if s.outcome.positive && !anchoring.reconciled then .VALID_SEGMENT_ONLY
    else .VALID_FULL_CHAIN
  outcome := some s.outcome
  failure := none
  steps := r.steps
  rolesAsserted := r.rolesAsserted
  dimensions :=
    { integrity := .INTACT
      authorization := r.authorization
      settlement := .NO_EXECUTION_BINDING
      settlementObserver := r.settlementObserver.getD .NOT_EVALUATED
      historical := r.historical }
  enrolment := r.enrolment
  policy := ⟨VERIFIER_POLICY_VERSION, s.purpose⟩
  warnings := r.warnings

/-- The answer on a request that was read. -/
def judged : VerifyEvidenceResult :=
  match pipeline P s {} with
  | (.ok anchoring, r) => accepted s anchoring r
  | (.error failing, r) => refused s failing r

end Evidence

/-- Verify an evidence bundle. Source: `verify-evidence.ts` `verifyEvidence`. -/
def verifyEvidence (P : EvidencePlatform) (clock : String) (o : VerifyEvidenceOptions)
    (text : List Char) : VerifyEvidenceResult :=
  match Evidence.admitted P clock o text with
  | .error r => r
  | .ok s => Evidence.judged P s

end NoaMandate
