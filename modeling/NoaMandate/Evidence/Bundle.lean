import NoaMandate.Kernel.Historical
import NoaMandate.Artifacts.Schemas
import NoaMandate.Lib.Check

/-!
# Evidence bundles

The vocabulary of the offline evidence verifier (`packages/evidence`): the outcome a bundle claims,
the documents each outcome may carry, the steps a bundle goes through and the codes they refuse with,
and what is reported of a bundle whatever the answer.

A bundle is a JSON object; its members are documents, read where they are needed.
-/

namespace NoaMandate

/-! ## Outcomes -/

inductive EvidenceOutcome where
  | EXECUTED
  | DENIED
  | EXPIRED
  | APPROVED_NO_EXECUTION_EVIDENCE
  | GRANT_EXPIRED_NO_CONSUMPTION_EVIDENCE
  | EXECUTION_FAILED
  | UNKNOWN_AFTER_DISPATCH
  | CANCELLED_LOCAL_STATE_LOST
  deriving DecidableEq

namespace EvidenceOutcome

def all : List EvidenceOutcome :=
  [.EXECUTED, .DENIED, .EXPIRED, .APPROVED_NO_EXECUTION_EVIDENCE,
    .GRANT_EXPIRED_NO_CONSUMPTION_EVIDENCE, .EXECUTION_FAILED, .UNKNOWN_AFTER_DISPATCH,
    .CANCELLED_LOCAL_STATE_LOST]

def text : EvidenceOutcome → String
  | .EXECUTED => "EXECUTED"
  | .DENIED => "DENIED"
  | .EXPIRED => "EXPIRED"
  | .APPROVED_NO_EXECUTION_EVIDENCE => "APPROVED_NO_EXECUTION_EVIDENCE"
  | .GRANT_EXPIRED_NO_CONSUMPTION_EVIDENCE => "GRANT_EXPIRED_NO_CONSUMPTION_EVIDENCE"
  | .EXECUTION_FAILED => "EXECUTION_FAILED"
  | .UNKNOWN_AFTER_DISPATCH => "UNKNOWN_AFTER_DISPATCH"
  | .CANCELLED_LOCAL_STATE_LOST => "CANCELLED_LOCAL_STATE_LOST"

def ofText? (s : String) : Option EvidenceOutcome := all.find? fun o => o.text = s

/-- Source: `types.ts` `POSITIVE_OUTCOMES`. -/
def positive (o : EvidenceOutcome) : Bool := o = .EXECUTED || o = .EXECUTION_FAILED

/-- Source: `types.ts` `NEGATIVE_OUTCOMES`. -/
def negative : EvidenceOutcome → Bool
  | .DENIED => true
  | .EXPIRED => true
  | .APPROVED_NO_EXECUTION_EVIDENCE => true
  | .GRANT_EXPIRED_NO_CONSUMPTION_EVIDENCE => true
  | .UNKNOWN_AFTER_DISPATCH => true
  | .CANCELLED_LOCAL_STATE_LOST => true
  | _ => false

lemma negative_eq (o : EvidenceOutcome) : o.negative = !o.positive := by cases o <;> rfl

end EvidenceOutcome

/-- The statuses a hold can end with. -/
inductive HoldStatus where
  | APPROVED
  | DENIED
  | EXPIRED
  | CANCELLED
  deriving DecidableEq

def HoldStatus.text : HoldStatus → String
  | .APPROVED => "APPROVED"
  | .DENIED => "DENIED"
  | .EXPIRED => "EXPIRED"
  | .CANCELLED => "CANCELLED"

/-- Source: `steps.ts` `expectedHoldStatus`. -/
def expectedHoldStatus : EvidenceOutcome → HoldStatus
  | .DENIED => .DENIED
  | .EXPIRED => .EXPIRED
  | .CANCELLED_LOCAL_STATE_LOST => .CANCELLED
  | _ => .APPROVED

/-! ## The documents of a bundle -/

/-- The members an outcome may add to the mandatory ones. Source: `types.ts`
`OUTCOME_ARTIFACT_UNION`. -/
def OUTCOME_ARTIFACT_UNION : EvidenceOutcome → List String
  | .EXECUTED => ["decisionArtifact", "allowedReceipt", "executionGrant", "executionConsumption",
      "executedReceipt", "settlementEvidence", "actionParamsPreimage"]
  | .EXECUTION_FAILED => ["decisionArtifact", "allowedReceipt", "executionGrant",
      "executionConsumption", "failedReceipt"]
  | .DENIED => ["decisionArtifact", "blockedReceipt"]
  | .EXPIRED => ["timeoutReceipt"]
  | .APPROVED_NO_EXECUTION_EVIDENCE => ["decisionArtifact", "allowedReceipt"]
  | .GRANT_EXPIRED_NO_CONSUMPTION_EVIDENCE => ["decisionArtifact", "allowedReceipt",
      "executionGrant"]
  | .UNKNOWN_AFTER_DISPATCH => ["decisionArtifact", "allowedReceipt", "executionGrant",
      "executionUncertainty"]
  | .CANCELLED_LOCAL_STATE_LOST => ["decisionArtifact", "allowedReceipt"]

def STEP_OWNED_EXECUTION_ABSENCE : List String :=
  ["executionConsumption", "executedReceipt", "failedReceipt"]

/-- The members whose absence an outcome's own step checks. Source: `types.ts`
`STEP_OWNED_ABSENCE`. -/
def STEP_OWNED_ABSENCE : EvidenceOutcome → List String
  | .CANCELLED_LOCAL_STATE_LOST => STEP_OWNED_EXECUTION_ABSENCE
  | .UNKNOWN_AFTER_DISPATCH => STEP_OWNED_EXECUTION_ABSENCE
  | .GRANT_EXPIRED_NO_CONSUMPTION_EVIDENCE => STEP_OWNED_EXECUTION_ABSENCE
  | .APPROVED_NO_EXECUTION_EVIDENCE => STEP_OWNED_EXECUTION_ABSENCE
  | _ => []

def OPTIONAL_ARTIFACT_FIELDS : List String :=
  ["decisionArtifact", "allowedReceipt", "blockedReceipt", "timeoutReceipt", "executionGrant",
    "executionConsumption", "executionUncertainty", "executedReceipt", "failedReceipt",
    "settlementEvidence", "actionParamsPreimage"]

/-- The roles a bundle assigns to its receipts. Source: `receipt-roles.ts` `RECEIPT_ROLES`. -/
inductive ReceiptRole where
  | deferredReceipt
  | allowedReceipt
  | blockedReceipt
  | timeoutReceipt
  | executedReceipt
  | failedReceipt
  deriving DecidableEq

namespace ReceiptRole

def all : List ReceiptRole :=
  [.deferredReceipt, .allowedReceipt, .blockedReceipt, .timeoutReceipt, .executedReceipt,
    .failedReceipt]

/-- The member of the bundle that holds the receipt. -/
def field : ReceiptRole → String
  | .deferredReceipt => "deferredReceipt"
  | .allowedReceipt => "allowedReceipt"
  | .blockedReceipt => "blockedReceipt"
  | .timeoutReceipt => "timeoutReceipt"
  | .executedReceipt => "executedReceipt"
  | .failedReceipt => "failedReceipt"

/-- The verdict a receipt in the role must attest. Source: `receipt-roles.ts`
`RECEIPT_ROLE_VERDICTS`, each a list of one. -/
def verdict : ReceiptRole → String
  | .deferredReceipt => "DEFERRED"
  | .allowedReceipt => "ALLOWED"
  | .blockedReceipt => "BLOCKED"
  | .timeoutReceipt => "BLOCKED"
  | .executedReceipt => "EXECUTED"
  | .failedReceipt => "FAILED"

/-- Source: `receipt-roles.ts` `MANDATORY_RECEIPT_ROLES`. -/
def mandatory (role : ReceiptRole) : Bool := role = .deferredReceipt

end ReceiptRole

/-- The receipt that carries the verdict of an outcome. Source: `steps.ts` `verdictRoleFor`. -/
def verdictRoleFor : EvidenceOutcome → ReceiptRole
  | .DENIED => .blockedReceipt
  | .EXPIRED => .timeoutReceipt
  | _ => .allowedReceipt

def EVIDENCE_SPEC : String := "noa.approval-evidence/0.1"

open Schemas in
/-- The schema of the container. Source: `schema/noa-approval-evidence-0.1.schema.json`. -/
def CONTAINER_SCHEMA : Json :=
  .obj [("type", .str "object"), ("additionalProperties", .bool false),
    ("required", .arr [.str "spec", .str "outcome", .str "holdEnvelope", .str "deferredReceipt",
      .str "holdResolution", .str "checkpoint", .str "keyManifest", .str "keyDelegation"]),
    ("properties", .obj ([("spec", constant (.str EVIDENCE_SPEC)),
      ("outcome", oneOfTexts (EvidenceOutcome.all.map EvidenceOutcome.text))] ++
      (["holdEnvelope", "deferredReceipt", "holdResolution", "checkpoint", "keyManifest",
        "keyDelegation", "decisionArtifact", "allowedReceipt", "blockedReceipt", "timeoutReceipt",
        "executionGrant", "executionConsumption", "executionUncertainty", "executedReceipt",
        "failedReceipt", "settlementEvidence"].map fun k => (k, typed "object")) ++
      [("actionParamsPreimage", typed "string")]))]

/-! ## Steps and answers -/

inductive StepName where
  | STEP_0_TENANT_EQUALITY
  | STEP_1_HOLD_ENVELOPE
  | STEP_2_ENVELOPE_BINDING
  | STEP_3_HOLD_RESOLUTION
  | STEP_4_DECISION_ARTIFACT
  | STEP_5_APPROVER_ROLE
  | STEP_6_VERDICT_RECEIPT_BINDING
  | STEP_7_DENIED
  | STEP_8_EXPIRED
  | STEP_9_CANCELLED
  | STEP_10_EXECUTED
  | STEP_11_EXECUTION_FAILED
  | STEP_12_UNKNOWN_AFTER_DISPATCH
  | STEP_13_GRANT_EXPIRED
  | STEP_14_APPROVED_NO_EXECUTION_EVIDENCE
  | STEP_15_NEGATIVE_OUTCOME_PRINCIPLE
  | STEP_16_CHECKPOINT_FRESHNESS
  | STEP_17_CHECKPOINT_RECONCILE
  | STEP_18_TEMPORAL_AUTHORIZATION
  | STEP_19_RECEIPT_ROLE_INTEGRITY
  deriving DecidableEq

/-- The source's name of a step, in refusal texts. -/
def StepName.text : StepName → String
  | .STEP_0_TENANT_EQUALITY => "STEP_0_TENANT_EQUALITY"
  | .STEP_1_HOLD_ENVELOPE => "STEP_1_HOLD_ENVELOPE"
  | .STEP_2_ENVELOPE_BINDING => "STEP_2_ENVELOPE_BINDING"
  | .STEP_3_HOLD_RESOLUTION => "STEP_3_HOLD_RESOLUTION"
  | .STEP_4_DECISION_ARTIFACT => "STEP_4_DECISION_ARTIFACT"
  | .STEP_5_APPROVER_ROLE => "STEP_5_APPROVER_ROLE"
  | .STEP_6_VERDICT_RECEIPT_BINDING => "STEP_6_VERDICT_RECEIPT_BINDING"
  | .STEP_7_DENIED => "STEP_7_DENIED"
  | .STEP_8_EXPIRED => "STEP_8_EXPIRED"
  | .STEP_9_CANCELLED => "STEP_9_CANCELLED"
  | .STEP_10_EXECUTED => "STEP_10_EXECUTED"
  | .STEP_11_EXECUTION_FAILED => "STEP_11_EXECUTION_FAILED"
  | .STEP_12_UNKNOWN_AFTER_DISPATCH => "STEP_12_UNKNOWN_AFTER_DISPATCH"
  | .STEP_13_GRANT_EXPIRED => "STEP_13_GRANT_EXPIRED"
  | .STEP_14_APPROVED_NO_EXECUTION_EVIDENCE => "STEP_14_APPROVED_NO_EXECUTION_EVIDENCE"
  | .STEP_15_NEGATIVE_OUTCOME_PRINCIPLE => "STEP_15_NEGATIVE_OUTCOME_PRINCIPLE"
  | .STEP_16_CHECKPOINT_FRESHNESS => "STEP_16_CHECKPOINT_FRESHNESS"
  | .STEP_17_CHECKPOINT_RECONCILE => "STEP_17_CHECKPOINT_RECONCILE"
  | .STEP_18_TEMPORAL_AUTHORIZATION => "STEP_18_TEMPORAL_AUTHORIZATION"
  | .STEP_19_RECEIPT_ROLE_INTEGRITY => "STEP_19_RECEIPT_ROLE_INTEGRITY"

inductive StepCode where
  | E_TENANT_MISMATCH
  | E_HOLD_ENVELOPE
  | E_DELEGATION_CHAIN
  | E_ENVELOPE_BINDING
  | E_HOLD_RESOLUTION
  | E_DECISION
  | E_APPROVER_ROLE
  | E_VERDICT_BINDING
  | E_DENIED
  | E_EXPIRED
  | E_CANCELLED
  | E_EXECUTED
  | E_EXECUTION_FAILED
  | E_UNKNOWN
  | E_GRANT_EXPIRED
  | E_APPROVED_NO_EXEC
  | E_INCONCLUSIVE_NO_CHECKPOINT
  | E_STALE_CHECKPOINT
  | E_CHECKPOINT_RECONCILE
  | E_TEMPORAL_AUTH
  | E_BUNDLE_SHAPE
  | E_OUTCOME_ARTIFACT_SET
  | E_RECEIPT_ROLE
  | E_AUTHORIZATION_WINDOW
  | E_NO_TRUST_ROOT
  | E_SETTLEMENT_BINDING
  | E_SETTLEMENT_APPROVAL_REF
  | E_SETTLEMENT_GRANT_REF
  | E_SETTLEMENT_POLARITY
  | E_SETTLEMENT_CORRELATION
  | E_PARAMS_PREIMAGE_MISMATCH
  | E_PARAMS_PREIMAGE_ORPHANED
  | E_SETTLEMENT_BOUNDS_UNCHECKABLE
  | E_SETTLEMENT_BOUNDS_EXCEEDED
  | E_ENROLMENT_AUDIENCE
  | E_ENROLMENT_UNVERIFIABLE
  | E_ENROLMENT_NOT_CLOSED
  | E_ENROLMENT_MISMATCH
  | E_ENROLMENT_OUT_OF_WINDOW
  | E_ENROLMENT_CLASS_ABSENT
  | E_SETTLEMENT_REQUIRED
  | E_SETTLEMENT_UNRECONFIRMED
  | E_NON_DISPATCH_UNWITNESSED
  deriving DecidableEq

/-- Refusals that leave a bundle unverified. Source: `verify-evidence.ts` `UNVERIFIED_CODES`. -/
def UNVERIFIED_CODES : List StepCode :=
  [.E_ENROLMENT_AUDIENCE, .E_ENROLMENT_UNVERIFIABLE, .E_ENROLMENT_NOT_CLOSED,
    .E_ENROLMENT_OUT_OF_WINDOW, .E_ENROLMENT_CLASS_ABSENT]

/-- Refusals that leave a bundle inconclusive. Source: `verify-evidence.ts`
`INCONCLUSIVE_CODES`. -/
def INCONCLUSIVE_CODES : List StepCode :=
  [.E_INCONCLUSIVE_NO_CHECKPOINT, .E_STALE_CHECKPOINT, .E_SETTLEMENT_BOUNDS_UNCHECKABLE,
    .E_SETTLEMENT_REQUIRED, .E_SETTLEMENT_UNRECONFIRMED, .E_NON_DISPATCH_UNWITNESSED]

/-- Source: `verify-evidence.ts` `isSoftS5Failure`. -/
def isSoftS5Failure (code : StepCode) : Bool :=
  code ≠ .E_INCONCLUSIVE_NO_CHECKPOINT && code ≠ .E_STALE_CHECKPOINT &&
    (UNVERIFIED_CODES.contains code || INCONCLUSIVE_CODES.contains code)

/-- A refusal. -/
structure StepFailure where
  step : StepName
  code : StepCode
  reason : String
  deriving DecidableEq

/-- What a step reported. -/
inductive StepResult where
  | ok (step : StepName)
  | failed (failure : StepFailure)
  deriving DecidableEq

inductive EvidenceVerdict where
  | VALID_FULL_CHAIN
  /-- Reserved: no bundle is answered so. -/
  | VALID_FROM_TRUSTED_ANCHOR
  | VALID_SEGMENT_ONLY
  | UNVERIFIED
  | INCONCLUSIVE
  | INVALID
  deriving DecidableEq

/-- The verdict on a bundle a step refused. -/
def EvidenceVerdict.ofCode (code : StepCode) : EvidenceVerdict :=
  if UNVERIFIED_CODES.contains code then .UNVERIFIED
  else if INCONCLUSIVE_CODES.contains code then .INCONCLUSIVE
  else .INVALID

/-! ## The kernel's answers, in refusal texts -/

def VerifyStatus.text : VerifyStatus → String
  | .VALID => "VALID"
  | .UNVERIFIED => "UNVERIFIED"
  | .UNTRUSTED => "UNTRUSTED"
  | .TAMPERED => "TAMPERED"
  | .MALFORMED => "MALFORMED"
  | .KEY_RETIRED => "KEY_RETIRED"

def HistoricalIntegrity.text : HistoricalIntegrity → String
  | .INTACT => "INTACT"
  | .BROKEN => "BROKEN"
  | .UNANSWERED => "UNANSWERED"

def HistoricalCompleteness.text : HistoricalCompleteness → String
  | .UNANSWERED => "UNANSWERED"
  | .PREFIX_ANCHORED => "PREFIX_ANCHORED"
  | .HEAD_ANCHORED => "HEAD_ANCHORED"
  | .CONFLICT => "CONFLICT"

def HistoricalVerificationCode.text : HistoricalVerificationCode → String
  | .HEAD_ANCHORED => "HEAD_ANCHORED"
  | .PREFIX_ANCHORED => "PREFIX_ANCHORED"
  | .NO_WITNESS => "NO_WITNESS"
  | .WITNESS_ROOT_NOT_PROVIDED => "WITNESS_ROOT_NOT_PROVIDED"
  | .WITNESS_ROOT_INVALID => "WITNESS_ROOT_INVALID"
  | .WITNESS_KEY_NOT_TRUSTED => "WITNESS_KEY_NOT_TRUSTED"
  | .WITNESS_KEY_NOT_SEPARATE => "WITNESS_KEY_NOT_SEPARATE"
  | .WITNESS_KEY_RETIRED => "WITNESS_KEY_RETIRED"
  | .CHECKPOINT_BEFORE_ACTIVATION => "CHECKPOINT_BEFORE_ACTIVATION"
  | .CHECKPOINT_AFTER_RETIREMENT => "CHECKPOINT_AFTER_RETIREMENT"
  | .CHECKPOINT_AHEAD => "CHECKPOINT_AHEAD"
  | .CHECKPOINT_CONFLICT => "CHECKPOINT_CONFLICT"
  | .RECEIPT_ROOT_NOT_PROVIDED => "RECEIPT_ROOT_NOT_PROVIDED"
  | .RECEIPT_ROOT_INVALID => "RECEIPT_ROOT_INVALID"
  | .RECEIPT_MALFORMED => "RECEIPT_MALFORMED"
  | .RECEIPT_INTEGRITY_FAILURE => "RECEIPT_INTEGRITY_FAILURE"
  | .RECEIPT_IDENTITY_UNTRUSTED => "RECEIPT_IDENTITY_UNTRUSTED"
  | .WITNESS_MALFORMED => "WITNESS_MALFORMED"
  | .WITNESS_INTEGRITY_FAILURE => "WITNESS_INTEGRITY_FAILURE"

/-! ## What is reported -/

inductive VerificationPurpose where
  | audit
  | authorize
  deriving DecidableEq

inductive Authorization where
  | VALID_NOW
  | EXPIRED_NOW
  | NOT_YET_VALID_NOW
  | UNCHECKED
  deriving DecidableEq

inductive SettlementDimension where
  | RECONFIRMED
  | ATTESTED_UNVERIFIED
  | NOT_ESTABLISHED
  | BOUNDS_UNCHECKABLE
  | CONTRADICTED
  | NO_EXECUTION_BINDING
  | UNCHECKED
  deriving DecidableEq

inductive SettlementObserver where
  | NOT_EVALUATED
  | SAME_SIGNING_KEY
  | SAME_ADMINISTRATIVE_PARTY
  | UNKNOWN
  deriving DecidableEq

inductive EnrolmentEvaluation where
  | NOT_EVALUATED
  | UNVERIFIABLE
  | OUT_OF_WINDOW
  | CLASS_ABSENT
  | CONTRADICTED
  | ENROLLED
  deriving DecidableEq

structure VerdictDimensions where
  integrity : HistoricalIntegrity
  authorization : Authorization
  settlement : SettlementDimension
  settlementObserver : SettlementObserver
  historical : Option HistoricalVerificationResult := none
  deriving DecidableEq

/-- What the steps leave behind, besides the values later steps are given. -/
structure Report where
  steps : List StepResult := []
  warnings : List String := []
  rolesAsserted : List ReceiptRole := []
  authorization : Authorization := .UNCHECKED
  settlement : Option SettlementDimension := none
  settlementObserver : Option SettlementObserver := none
  enrolment : EnrolmentEvaluation := .NOT_EVALUATED
  checkpointReconciled : Option Bool := none
  /-- The historical verification, when the checkpoint step took that route. -/
  historical : Option HistoricalVerificationResult := none
  deriving DecidableEq

/-- A computation of the verifier. -/
abbrev EvidenceCheck := Check Report StepFailure

namespace Report

def warn (r : Report) (w : String) : Report := { r with warnings := r.warnings ++ [w] }

def assertRole (r : Report) (role : ReceiptRole) : Report :=
  if r.rolesAsserted.contains role then r
  else { r with rolesAsserted := r.rolesAsserted ++ [role] }

end Report

end NoaMandate
