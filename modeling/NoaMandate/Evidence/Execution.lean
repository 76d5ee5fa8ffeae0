import NoaMandate.Evidence.Steps

/-!
# Executions, settlements and enrolment

Steps 10 to 14 of `steps.ts`, with what steps 10 and 11 take from `enrolment.ts`.  A grant is bound to
the approval it derives from; a consumption is bound to the grant and to the receipt of the attempt.
An executed bundle may carry settlement evidence, which the rail's reconciler judges, and a caller may
supply registries that enrol action classes for such evidence; both can only turn an accepted bundle
into a refused one.
-/

namespace NoaMandate

open Pipeline
open SchemaEval (shown quoted)

namespace Evidence

/-! ## Grants and consumptions -/

variable (P : EvidencePlatform) (s : Setup)

/-- The grant is authentic and names the approval, its parameters and its hold. Source: `steps.ts`
`checkGrantBinding`. -/
def checkGrantBinding (tenant : String) (trust : Trust)
    (S : StepName) (code : StepCode) : EvidenceCheck Unit := do
  let allowed? ← roleReceipt s .allowedReceipt S
  let grant ← need (asObj (s.doc "executionGrant"))
    ⟨S, code, "outcome carries no executionGrant to bind"⟩
  let allowed ← need allowed?
    ⟨S, code, "outcome " ++ s.outcome.text ++ " carries an executionGrant but no allowedReceipt — " ++
      "a grant that cannot be traced to the approval it derives from is unbound by construction"⟩
  (verifySide P grant
    { context s trust.resolvedKeyring with refHashChecks := [envelopeRef s tenant] }).mapError
      fun reason => (⟨S, code, "executionGrant invalid: " ++ reason⟩ : StepFailure)
  let allowedHash := asStr (allowed.path? ["chain", "hash"])
  stopWhen (asStr (grant.get? "approvalReceiptHash") ≠ allowedHash)
    ⟨S, code, "executionGrant.approvalReceiptHash " ++ quoted (grant.get? "approvalReceiptHash") ++
      " != allowedReceipt.chain.hash " ++ quoted (allowedHash.map Json.str) ++
      " — the grant is not bound to this approval"⟩
  let approvedParamsHash := asStr (allowed.path? ["action", "paramsHash"])
  stopWhen (asStr (grant.get? "paramsHash") ≠ approvedParamsHash)
    ⟨S, code, "executionGrant.paramsHash " ++ quoted (grant.get? "paramsHash") ++
      " != approved action paramsHash " ++ quoted (approvedParamsHash.map Json.str) ++
      " — the grant authorizes a different action than the one approved"⟩
  let envHoldId := asStr (s.bundle.path? ["holdEnvelope", "holdId"])
  stopWhen (envHoldId.isSome && asStr (grant.get? "holdId") ≠ envHoldId)
    ⟨S, code, "executionGrant.holdId " ++ quoted (grant.get? "holdId") ++
      " != holdEnvelope.holdId " ++ quoted (envHoldId.map Json.str)⟩

/-- The consumption reports the result its outcome needs. -/
def checkConsumptionResult (S : StepName) (code : StepCode) (expected : String)
    (consumption : Json) : Except StepFailure Unit :=
  stopWhen (asStr (consumption.get? "result") ≠ some expected)
    ⟨S, code, "consumption.result != " ++ expected ++ " (" ++ shown (consumption.get? "result") ++
      ")"⟩

/-- The grant had not run out when it was consumed. -/
def checkGrantUnexpiredAtConsumption (S : StepName) (code : StepCode)
    (grant consumption : Json) : Except StepFailure Unit :=
  let expires := parseTime P.toIntrinsics (grant.get? "expiresAt")
  let consumed := parseTime P.toIntrinsics (consumption.get? "consumedAt")
  stopWhen (expires.isNone || consumed.isNone || Artifact.before expires consumed)
    ⟨S, code, "grant expired before consumedAt"⟩

/-! ## Settlement evidence -/

/-- The warnings the reconciler may emit. Source: `settlement-evidence.mjs` `SETTLEMENT_WARNINGS`. -/
def SETTLEMENT_WARNINGS : List String :=
  ["SETTLEMENT_AFTER_GRANT_EXPIRY", "SETTLEMENT_OBSERVER_SAME_KEY_AS_EXECUTION_SIGNER",
    "RAIL_RECEIPT_PROVIDED_UNPARSEABLE", "SETTLEMENT_OVER_RAW_MODE_HOLD"]

/-- Source: `steps.ts` `observerRelationshipOf`. -/
def observerRelationshipOf (text : String) : SettlementObserver :=
  if text = "SAME_SIGNING_KEY" then .SAME_SIGNING_KEY
  else if text = "SAME_ADMINISTRATIVE_PARTY" then .SAME_ADMINISTRATIVE_PARTY
  else .UNKNOWN

/-- Source: `steps.ts` `settlementWarningsOf`. -/
def settlementWarningsOf (warnings : List String) : List String :=
  warnings.map fun w =>
    if SETTLEMENT_WARNINGS.contains w then "settlement: " ++ w
    else "settlement: the reconciler emitted a warning this verifier does not recognise"

/-- What the enrolment rules read of a reconciled settlement. -/
structure SettlementFacts where
  code : String
  observerRelationship : String

/-- Note a dimension of the settlement, then refuse. -/
def refuseSettlement {α : Type} (dimension : SettlementDimension) (failure : StepFailure) :
    EvidenceCheck α := do
  Check.note fun r => { r with settlement := some dimension }
  (.error failure : Except StepFailure α)

/-- The params hash is keyed, so a preimage cannot be compared with it. -/
def keyedParamsHash (paramsHash : Option String) : Bool :=
  match paramsHash with
  | some h => (Text.chars "hmac-sha256:").isPrefixOf (Text.chars h)
  | none => false

/-- What a reconciler's answer means for the bundle. -/
def judgeSettlement (S : StepName) (preimageUncheckable : Bool) (r : SettlementReconcileResult) :
    EvidenceCheck (Option SettlementFacts) := do
  let detail := match r.reason with | none => "" | some reason => " — " ++ reason
  if r.code = "SETTLEMENT_CORRELATED_UNRECONFIRMED" then
    Check.note fun rep => { rep with settlement := some .NO_EXECUTION_BINDING }
    return some ⟨r.code, r.observerRelationship⟩
  else if r.code = "SETTLEMENT_NOT_OBSERVED" ∨ r.code = "SETTLEMENT_NOT_SETTLED_AT_OBSERVATION" then
    refuseSettlement .CONTRADICTED
      ⟨S, .E_SETTLEMENT_POLARITY, "settlement artifact reports " ++ r.code ++
        " under an EXECUTED outcome (R1 polarity)" ++ detail⟩
  else if r.code = "SETTLEMENT_BOUNDS_UNCHECKABLE" then
    if preimageUncheckable then
      refuseSettlement .BOUNDS_UNCHECKABLE
        ⟨S, .E_SETTLEMENT_BOUNDS_UNCHECKABLE, "no verifiable params preimage, so the settlement " ++
          "bounds were compared to nothing — never a positive (R2)" ++ detail⟩
    else
      refuseSettlement .CONTRADICTED
        ⟨S, .E_PARAMS_PREIMAGE_MISMATCH, "a supplied actionParamsPreimage does not hash to the " ++
          "approved parameters, or is not the closed six-member shape (R2)" ++ detail⟩
  else if r.code = "AUTHORIZATION_RECEIPT_MISMATCH" then
    refuseSettlement .CONTRADICTED
      ⟨S, .E_SETTLEMENT_APPROVAL_REF, "the settlement artifact's authorizationReceiptHash is not " ++
        "this bundle's ALLOWED receipt (R1)" ++ detail⟩
  else if r.code = "EXECUTION_GRANT_MISMATCH" then
    refuseSettlement .CONTRADICTED
      ⟨S, .E_SETTLEMENT_GRANT_REF, "the settlement artifact's executionGrantHash is not this " ++
        "bundle's execution grant (R1)" ++ detail⟩
  else if r.code = "SETTLEMENT_CORRELATION_MISMATCH" then
    refuseSettlement .CONTRADICTED
      ⟨S, .E_SETTLEMENT_CORRELATION, "the D7 correlation recomputed from the bundle's own " ++
        "documents does not equal the artifact's correlation (R3)" ++ detail⟩
  else if r.code = "SETTLEMENT_BOUNDS_EXCEEDED" ∨ r.code = "SETTLEMENT_ASSET_UNEXPECTED" ∨
      r.code = "SETTLEMENT_NETWORK_UNEXPECTED" ∨ r.code = "SETTLEMENT_PAYER_UNEXPECTED" then
    refuseSettlement .CONTRADICTED
      ⟨S, .E_SETTLEMENT_BOUNDS_EXCEEDED,
        "a settlement coordinate is outside the approved bounds (R3)" ++ detail⟩
  else
    refuseSettlement .CONTRADICTED
      ⟨S, .E_SETTLEMENT_BINDING, "settlement artifact is not bound to this approval, or reports a " ++
        "state this offline plane cannot accept (" ++ r.code ++ ", R1)" ++ detail⟩

/-- Settlement evidence of an executed bundle. Source: `steps.ts` `checkSettlement`. -/
def checkSettlement (tenant : String) (trust : Trust)
    (S : StepName) : EvidenceCheck (Option SettlementFacts) :=
  match s.doc "settlementEvidence" with
  | none =>
    if (s.doc "actionParamsPreimage").isSome then
      refuseSettlement .CONTRADICTED
        ⟨S, .E_PARAMS_PREIMAGE_ORPHANED, "actionParamsPreimage is present with no " ++
          "settlementEvidence — a params preimage exists only to bound a settlement artifact, " ++
          "so alone it is a disclosure nothing checks and nothing needs"⟩
    else return none
  | some evidence => do
    match verifySide P evidence (context s trust.resolvedKeyring) with
    | .error reason =>
      refuseSettlement .CONTRADICTED
        ⟨S, .E_SETTLEMENT_BINDING, "settlementEvidence invalid: " ++ reason⟩
    | .ok () =>
      match asStr (s.bundle.path? ["deferredReceipt", "scope", "chain"]) with
      | none =>
        refuseSettlement .CONTRADICTED
          ⟨S, .E_SETTLEMENT_BINDING, "cannot read the verifier's own tenant/chain to bound " ++
            "the settlement artifact (R-11)"⟩
      | some chain => do
        let preimage := asStr (s.doc "actionParamsPreimage")
        let paramsHash := asStr (s.bundle.path? ["allowedReceipt", "action", "paramsHash"])
        let r := P.reconcileSettlementEvidence
          { artifact := evidence
            receiptChain := .arr s.orderedChain
            grant := s.doc "executionGrant"
            keyring := signingKeyMap trust.resolvedKeyring
            holdEnvelope := s.doc "holdEnvelope"
            holdResolution := s.doc "holdResolution"
            paramsPreimage := preimage
            tenant, chain, now := s.now }
        Check.note fun rep =>
          { rep with
            settlementObserver := some (observerRelationshipOf r.observerRelationship)
            warnings := rep.warnings ++ settlementWarningsOf r.warnings }
        judgeSettlement S (preimage.isNone || keyedParamsHash paramsHash) r

/-! ## Enrolment -/

def ENROLMENT_SPEC : String := "noa.action-class-enrolment/0.1"

/-- A registry that authenticates and is addressed to the reader. -/
structure SelectedRegistry where
  index : Nat
  doc : Json

/-- Is a supplied registry one to consult? The error is why not. -/
def examineRegistry (trust : Trust) (audience : String)
    (index : Nat) (text : List Char) : Except String SelectedRegistry := do
  let value ← (parseDocument text ("enrolment registry " ++ toString index)).mapError fun reason =>
    "#" ++ toString index ++ ": " ++ reason
  let doc ← demand (asObj (some value)) ("#" ++ toString index ++ ": not a JSON object")
  refuse (doc.get? "spec" ≠ some (.str ENROLMENT_SPEC))
    ("#" ++ toString index ++ ": spec " ++ quoted (doc.get? "spec") ++ " != " ++ ENROLMENT_SPEC)
  (verifySide P doc (context s trust.resolvedKeyring)).mapError fun reason =>
    "#" ++ toString index ++ ": " ++ reason
  refuse (!(elements (doc.get? "audience")).contains (.str audience))
    ("#" ++ toString index ++ ": audience " ++ quoted (doc.get? "audience") ++ " does not name " ++
      quoted (some (.str audience)))
  return ⟨index, doc⟩

/-- An instant under the grammar an artifact kind publishes. Source: `verify.ts` `rfc3339Nanos`. -/
def rfc3339Nanos (spec : String) (v : Option Json) : Option Int :=
  Artifact.parseTime P.toArtifactPlatform
    ((ARTIFACT_SCHEMAS.lookup spec).bind Artifact.publishedTimeSchema) v

/-- Does the registry's window contain the instant of the resolution? -/
def SelectedRegistry.inWindow (r : SelectedRegistry) : Bool :=
  Artifact.within (rfc3339Nanos P "noa.hold-resolution/0.1" (s.receivedAt.map Json.str))
    (rfc3339Nanos P ENROLMENT_SPEC (r.doc.get? "notBefore"))
    (rfc3339Nanos P ENROLMENT_SPEC (r.doc.get? "notAfter"))

/-- The ids agree. -/
def idMatch (row envelope : Option Json) : Bool :=
  sameHash ((asObj row).bind fun r => asStr (r.get? "id"))
    ((asObj envelope).bind fun e => asStr (e.get? "id"))

/-- Id, version and hash agree. Source: `enrolment.ts` `projectionIdEqual`. -/
def exactMatch (row envelope : Option Json) : Bool :=
  idMatch row envelope &&
    Json.same ((asObj row).bind (·.get? "version")) ((asObj envelope).bind (·.get? "version")) &&
    sameHash ((asObj row).bind fun r => asStr (r.get? "hash"))
      ((asObj envelope).bind fun e => asStr (e.get? "hash"))

/-- What a bundle says of its action class. -/
structure ActionClass where
  mode : Option Json
  actionSchema : Option Json
  displayProjection : Option Json
  actionId : Option String

def actionClass : ActionClass where
  mode := s.bundle.path? ["holdEnvelope", "mode"]
  actionSchema := s.bundle.path? ["holdEnvelope", "actionSchema"]
  displayProjection := s.bundle.path? ["holdEnvelope", "displayProjection"]
  actionId := asStr (s.bundle.path? ["deferredReceipt", "action", "id"])

namespace ActionClass

variable (c : ActionClass) (row : Json)

/-- Does a row of a registry claim the class? -/
def candidate : Bool :=
  let rowActionId := asStr (row.get? "actionId")
  idMatch (row.get? "actionSchema") c.actionSchema ||
    (rowActionId.isSome && (rowActionId = c.actionId ||
      rowActionId = (asObj c.actionSchema).bind (fun v => asStr (v.get? "id")) ||
      rowActionId = (asObj c.displayProjection).bind (fun v => asStr (v.get? "id"))))

/-- How a row that claims the class contradicts it. -/
def mismatch : Option String :=
  let rowActionId := asStr (row.get? "actionId")
  if asStr c.mode ≠ some "ENFORCED" then
    some ("holdEnvelope.mode is " ++ quoted c.mode ++
      ", not \"ENFORCED\" — a RAW hold is never enrollable")
  else if rowActionId ≠ c.actionId then
    some ("row.actionId " ++ quoted (rowActionId.map Json.str) ++
      " != deferredReceipt.action.id " ++ quoted (c.actionId.map Json.str) ++
      if sameHash rowActionId ((asObj c.displayProjection).bind fun v => asStr (v.get? "id")) then
        " — the row names the DISPLAY-PROJECTION namespace where the ACTION-SCHEMA namespace belongs"
      else "")
  else if !exactMatch (row.get? "actionSchema") c.actionSchema then
    some "row.actionSchema does not equal holdEnvelope.actionSchema member-for-member (id/version/hash)"
  else if !exactMatch (row.get? "projection") c.displayProjection then
    some "row.projection does not equal holdEnvelope.displayProjection member-for-member (id/version/hash)"
  else none

end ActionClass

/-- The rows that claim the class, with the registry and the position of each. -/
def candidateRows (c : ActionClass) (registries : List SelectedRegistry) :
    List (Nat × Nat × Json) :=
  registries.flatMap fun r =>
    (elements (r.doc.get? "classes")).zipIdx.filterMap fun row =>
      if row.1.isObj && c.candidate row.1 then some (r.index, row.2, row.1) else none

/-- Note an evaluation of the enrolment, then refuse. -/
def refuseEnrolment (evaluation : EnrolmentEvaluation) (failure : StepFailure) :
    EvidenceCheck Unit := do
  Check.note fun r => { r with enrolment := evaluation }
  (.error failure : Except StepFailure Unit)

/-- The registries that were selected, judged. -/
def judgeRegistries (tenant : String) (S : StepName)
    (selected : List SelectedRegistry) : EvidenceCheck Unit :=
  match selected.find? fun r => asStr (r.doc.get? "tenant") ≠ some tenant with
  | some r =>
    refuseEnrolment .CONTRADICTED
      ⟨S, .E_ENROLMENT_MISMATCH, "enrolment registry #" ++ toString r.index ++
        " authenticates under this bundle's root delegation but declares tenant " ++
        quoted ((asStr (r.doc.get? "tenant")).map Json.str) ++ " while the bundle is " ++
        quoted (some (.str tenant)) ++ " — a document about another tenant presented as " ++
        "governing this one is a contradiction, not a gap (R5)"⟩
  | none =>
  match selected.find? fun r => r.doc.get? "closed" ≠ some (.bool true) with
  | some r =>
    refuseEnrolment .UNVERIFIABLE
      ⟨S, .E_ENROLMENT_NOT_CLOSED, "enrolment registry #" ++ toString r.index ++
        " has closed != true — an open registry makes no complete statement for its audience " ++
        "and window, so it is never consulted (R5)"⟩
  | none =>
  let inWindow := selected.filter (·.inWindow P s)
  if inWindow.isEmpty then
    refuseEnrolment .OUT_OF_WINDOW
      ⟨S, .E_ENROLMENT_OUT_OF_WINDOW, "no selected enrolment registry's [notBefore, notAfter] " ++
        "contains this bundle's gate-signed authorization instant " ++
        quoted (s.receivedAt.map Json.str) ++
        " — the registries this reader holds do not cover these bytes (R6, reject-only)"⟩
  else
    let c := actionClass s
    let rows := candidateRows c inWindow
    match rows.findSome? fun row => (c.mismatch row.2.2).map fun m => (row.1, row.2.1, m) with
    | some (index, k, mismatch) =>
      refuseEnrolment .CONTRADICTED
        ⟨S, .E_ENROLMENT_MISMATCH, "enrolment registry #" ++ toString index ++ " class[" ++
          toString k ++ "] claims this bundle's class and contradicts it: " ++ mismatch ++ " (R5)"⟩
    | none =>
      if rows.isEmpty then
        refuseEnrolment .CLASS_ABSENT
          ⟨S, .E_ENROLMENT_CLASS_ABSENT, "this bundle's action class is absent from every " ++
            "selected, in-window enrolment registry — an omission is an unanswered question, " ++
            "never a statement that the class is unenrolled (R7)"⟩
      else
        Check.note fun r => { r with enrolment := .ENROLLED }

/-- The registries the caller supplied, if any. Source: `enrolment.ts` `checkEnrolment`. -/
def checkEnrolment (tenant : String) (trust : Trust) (S : StepName) : EvidenceCheck Unit :=
  if s.enrolmentRegistries.isEmpty then return ()
  else
    match s.audience.filter (· ≠ "") with
    | none =>
      refuseEnrolment .UNVERIFIABLE
        ⟨S, .E_ENROLMENT_AUDIENCE, "enrolment registries were supplied but no --audience " ++
          "(relying-party identity) was: a registry that does not know who is reading it cannot " ++
          "be scoped, and an unscoped registry is exactly the hole audience exists to close (R4)"⟩
    | some audience =>
      let examined := s.enrolmentRegistries.zipIdx.map fun r =>
        examineRegistry P s trust audience r.2 r.1
      let selected := examined.filterMap Except.toOption
      if selected.isEmpty then
        let rejected := examined.filterMap fun r => match r with | .error e => some e | .ok _ => none
        refuseEnrolment .UNVERIFIABLE
          ⟨S, .E_ENROLMENT_UNVERIFIABLE, "no supplied enrolment registry both authenticates " ++
            "under this bundle's root delegation and names the reader " ++
            quoted (some (.str audience)) ++ " in its audience — the verifier is configured but " ++
            "its configuration does not answer this question (R5): " ++ "; ".intercalate rejected⟩
      else judgeRegistries P s tenant S selected

/-- The coordinates that make a settlement falsifiable by a third party. -/
def REQUIRED_WITNESS_COORDINATES : List String :=
  ["network", "asset", "payer", "txHash", "blockNumber"]

def missingCoordinates : List String :=
  REQUIRED_WITNESS_COORDINATES.filter fun c =>
    (Artifact.present? (s.bundle.path? ["settlementEvidence", "chainWitness", c])).isNone

/-- An enrolled class owes settlement evidence, and nothing offline can supply the last part of it.
Source: `enrolment.ts` `checkSettlementRequired`. -/
def checkSettlementRequired (S : StepName) (facts : Option SettlementFacts) : EvidenceCheck Unit :=
  let required (reason : String) : EvidenceCheck Unit :=
    refuseSettlement .NOT_ESTABLISHED ⟨S, .E_SETTLEMENT_REQUIRED, reason ++ " (R8)"⟩
  match facts, s.doc "settlementEvidence" with
  | some facts, some _ =>
    if facts.code ≠ "SETTLEMENT_CORRELATED_UNRECONFIRMED" then
      required ("the settlement artifact does not determinately assert a settlement for this " ++
        "approval (reconciler code " ++ facts.code ++ ")")
    else if facts.observerRelationship = "SAME_SIGNING_KEY" then
      required ("the settlement observer's key is the execution signer's own key — the party " ++
        "that says it dispatched the request is the party saying it settled, so the observation " ++
        "is not admissible for an enrolled class")
    else if !(missingCoordinates s).isEmpty then
      required ("the settlement artifact omits the coordinates that make it falsifiable by a " ++
        "third party (" ++ ", ".intercalate (missingCoordinates s) ++ ")")
    else
      refuseSettlement .ATTESTED_UNVERIFIED
        ⟨S, .E_SETTLEMENT_UNRECONFIRMED, "the settlement artifact is authentic, bound to this " ++
          "approval and within the approved bounds, and NOBODY RE-QUERIED THE CHAIN: an offline " ++
          "verifier can establish that an assertion is well-formed and bound, never that it is " ++
          "true. A positive requires a record of the relying party's own node answering the " ++
          "queries — an input the party being judged never holds (R9)"⟩
  | _, _ =>
    required ("this action class is enrolled for settlement evidence and the bundle carries no " ++
      "settlement artifact — EXECUTED here means the gate says it handed the request off, which " ++
      "is the claim enrolment exists to stop being enough")

/-- Source: `enrolment.ts` `checkNonDispatchWitnessed`. -/
def checkNonDispatchWitnessed (S : StepName) : EvidenceCheck Unit :=
  refuseSettlement .NOT_ESTABLISHED
    ⟨S, .E_NON_DISPATCH_UNWITNESSED, "this action class is enrolled for settlement evidence, and " ++
      "the only thing asserting that nothing was dispatched is the gate's own consumption — the " ++
      "party being judged. A determinate non-dispatch is claimable only on an observation by a " ++
      "party that did not execute, and no artifact admitted on this outcome can carry one, so a " ++
      "failure label cannot escape the requirement an EXECUTED label would have owed"⟩

/-! ## Steps 10 and 11: attempts -/

/-- The documents of an attempt. -/
structure Attempt where
  grant : Json
  consumption : Json
  /-- The receipt of the attempt. -/
  receipt : Json
  allowed : Json

/-- Read the documents of an attempt whose receipt has the given role. -/
def attemptDocuments (role : ReceiptRole) (S : StepName) (failure : StepFailure) :
    EvidenceCheck Attempt := do
  let receipt? ← roleReceipt s role S
  let allowed? ← roleReceipt s .allowedReceipt S
  let grant ← need (asObj (s.doc "executionGrant")) failure
  let consumption ← need (asObj (s.doc "executionConsumption")) failure
  let receipt ← need receipt? failure
  let allowed ← need allowed? failure
  return { grant, consumption, receipt, allowed }

/-- The grant is bound, the consumption is authentic and names the grant before it ran out. -/
def checkConsumption (tenant : String) (trust : Trust)
    (S : StepName) (code : StepCode) (grantHashReason : String) (a : Attempt) :
    EvidenceCheck Unit := do
  checkGrantBinding P s tenant trust S code
  (verifySide P a.consumption (context s trust.resolvedKeyring)).mapError fun reason =>
    (⟨S, code, "executionConsumption invalid: " ++ reason⟩ : StepFailure)
  checkGrantUnexpiredAtConsumption P S code a.grant a.consumption
  stopWhen (!sameHash (asStr (a.consumption.get? "grantHash")) (refHash P.toIntrinsics a.grant))
    ⟨S, code, grantHashReason⟩

/-- Source: `steps.ts` `step10_executed`. -/
def step10_executed (tenant : String) (trust : Trust) : EvidenceCheck Unit :=
  if s.outcome = .EXECUTED then do
    let S := StepName.STEP_10_EXECUTED
    let a ← attemptDocuments s .executedReceipt S
      ⟨S, .E_EXECUTED, "EXECUTED requires grant+consumption+executedReceipt+allowedReceipt"⟩
    checkConsumption P s tenant trust S .E_EXECUTED "consumption.grantHash != refHash(grant) (F1)" a
    checkConsumptionResult S .E_EXECUTED "DISPATCHED" a.consumption
    stopWhen (!sameHash (asStr (a.consumption.get? "attemptReceiptHash"))
        (receiptRefHash P.toIntrinsics a.receipt))
      ⟨S, .E_EXECUTED, "consumption.attemptReceiptHash != executedReceipt.chain.hash (G4)"⟩
    stopWhen (asStr (a.receipt.path? ["chain", "prevHash"]) ≠
        asStr (a.allowed.path? ["chain", "hash"]))
      ⟨S, .E_EXECUTED, "executedReceipt.chain.prevHash != allowedReceipt.chain.hash"⟩
    let facts ← checkSettlement P s tenant trust S
    checkEnrolment P s tenant trust S
    if (← Check.record).enrolment = .ENROLLED then checkSettlementRequired s S facts
  else pure ()

/-- Source: `steps.ts` `step11_executionFailed`. -/
def step11_executionFailed (tenant : String) (trust : Trust) : EvidenceCheck Unit :=
  if s.outcome = .EXECUTION_FAILED then do
    let S := StepName.STEP_11_EXECUTION_FAILED
    let I := P.toIntrinsics
    let a ← attemptDocuments s .failedReceipt S
      ⟨S, .E_EXECUTION_FAILED,
        "EXECUTION_FAILED requires grant+consumption+failedReceipt+allowedReceipt"⟩
    checkConsumption P s tenant trust S .E_EXECUTION_FAILED
      "consumption.grantHash != refHash(grant)" a
    stopWhen (!sameHash (asStr (a.consumption.get? "attemptReceiptHash"))
        (receiptRefHash I a.receipt))
      ⟨S, .E_EXECUTION_FAILED, "consumption.attemptReceiptHash != failedReceipt.chain.hash (G4)"⟩
    let issued := parseTime I (a.grant.get? "issuedAt")
    let failed := parseTime I (a.receipt.get? "ts")
    stopWhen (issued.isNone || failed.isNone || Artifact.before failed issued)
      ⟨S, .E_EXECUTION_FAILED, "grant not issued before the failure"⟩
    stopWhen (asStr (a.receipt.path? ["chain", "prevHash"]) ≠
        asStr (a.allowed.path? ["chain", "hash"]))
      ⟨S, .E_EXECUTION_FAILED, "failedReceipt.chain.prevHash != allowedReceipt.chain.hash"⟩
    checkConsumptionResult S .E_EXECUTION_FAILED "FAILED_BEFORE_DISPATCH" a.consumption
    checkEnrolment P s tenant trust S
    if (← Check.record).enrolment = .ENROLLED then checkNonDispatchWitnessed S
  else pure ()

/-! ## Steps 12 to 14: approvals without a known execution -/

/-- Source: `steps.ts` `step12_unknown`. -/
def step12_unknown (tenant : String) (trust : Trust) : EvidenceCheck Unit :=
  if s.outcome = .UNKNOWN_AFTER_DISPATCH then do
    let S := StepName.STEP_12_UNKNOWN_AFTER_DISPATCH
    let I := P.toIntrinsics
    let missing : StepFailure :=
      ⟨S, .E_UNKNOWN, "UNKNOWN_AFTER_DISPATCH requires grant+executionUncertainty"⟩
    let grant ← need (asObj (s.doc "executionGrant")) missing
    let unc ← need (asObj (s.doc "executionUncertainty")) missing
    checkGrantBinding P s tenant trust S .E_UNKNOWN
    (verifySide P unc (context s trust.resolvedKeyring)).mapError fun reason =>
      (⟨S, .E_UNKNOWN, "executionUncertainty invalid: " ++ reason⟩ : StepFailure)
    stopWhen (!sameHash (asStr (unc.get? "grantHash")) (refHash I grant))
      ⟨S, .E_UNKNOWN, "uncertainty.grantHash != refHash(grant)"⟩
    stopWhen (asStr (unc.get? "lastKnownState") ≠ some "DISPATCH_STARTED")
      ⟨S, .E_UNKNOWN, "uncertainty.lastKnownState != DISPATCH_STARTED"⟩
    stopWhen (asStr (unc.get? "reason") ≠ some "PROCESS_CRASH_BEFORE_RECEIPT_COMMIT")
      ⟨S, .E_UNKNOWN, "uncertainty.reason != PROCESS_CRASH_BEFORE_RECEIPT_COMMIT"⟩
    stopWhen (((asStr (unc.get? "bootId")).filter (· ≠ "")).isNone ||
        ((asStr (unc.get? "uptimeResetAt")).filter (· ≠ "")).isNone)
      ⟨S, .E_UNKNOWN, "uncertainty missing required bootId/uptimeResetAt (G3)"⟩
    let detected := parseTime I (unc.get? "detectedAt")
    let reset := parseTime I (unc.get? "uptimeResetAt")
    stopWhen (detected.isNone || reset.isNone || Artifact.before detected reset)
      ⟨S, .E_UNKNOWN, "uncertainty.detectedAt is before uptimeResetAt — inconsistent with a real " ++
        "restart (G3)"⟩
    checkNoExecution s
      ⟨S, .E_UNKNOWN, "UNKNOWN_AFTER_DISPATCH must not carry consumption/executed/failed — that " ++
        "would be a confident outcome"⟩
  else pure ()

/-- Source: `steps.ts` `step13_grantExpired`. -/
def step13_grantExpired (tenant : String) (trust : Trust) : EvidenceCheck Unit :=
  if s.outcome = .GRANT_EXPIRED_NO_CONSUMPTION_EVIDENCE then do
    let S := StepName.STEP_13_GRANT_EXPIRED
    let I := P.toIntrinsics
    let missing : StepFailure := ⟨S, .E_GRANT_EXPIRED, "GRANT_EXPIRED requires grant+allowedReceipt"⟩
    let allowed ← roleReceipt s .allowedReceipt S
    let grant ← need (asObj (s.doc "executionGrant")) missing
    stopWhen allowed.isNone missing
    checkGrantBinding P s tenant trust S .E_GRANT_EXPIRED
    let expires := parseTime I (grant.get? "expiresAt")
    -- an unreadable `now` leaves the comparison false; step 1 has refused it
    stopWhen (expires.isNone ||
        ((I.dateParse s.now).isSome && !Artifact.before expires (I.dateParse s.now)))
      ⟨S, .E_GRANT_EXPIRED,
        "grant.expiresAt is not in the past — GRANT_EXPIRED requires an expired grant"⟩
    checkNoExecution s
      ⟨S, .E_GRANT_EXPIRED, "GRANT_EXPIRED must not carry consumption/executed/failed"⟩
  else pure ()

/-- Source: `steps.ts` `step14_approvedNoExec`. -/
def step14_approvedNoExec : EvidenceCheck Unit :=
  if s.outcome = .APPROVED_NO_EXECUTION_EVIDENCE then do
    let S := StepName.STEP_14_APPROVED_NO_EXECUTION_EVIDENCE
    let allowed ← roleReceipt s .allowedReceipt S
    stopWhen allowed.isNone
      ⟨S, .E_APPROVED_NO_EXEC, "APPROVED_NO_EXECUTION_EVIDENCE requires the ALLOWED receipt"⟩
    stopWhen (asObj (s.doc "holdResolution")).isNone
      ⟨S, .E_APPROVED_NO_EXEC, "APPROVED_NO_EXECUTION_EVIDENCE requires the Hold Resolution " ++
        "(trusted decision-time)"⟩
    checkNoExecution s
      ⟨S, .E_APPROVED_NO_EXEC, "APPROVED_NO_EXECUTION_EVIDENCE must carry no " ++
        "consumption/executed/failed artifacts"⟩
  else pure ()

end Evidence

end NoaMandate
