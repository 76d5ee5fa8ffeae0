import NoaMandate.Evidence.Trust

/-!
# From the envelope to the verdict receipt

Steps 0 to 9 of `steps.ts`: the bundle carries what its outcome defines and names one tenant (0); the
root, the delegation, the manifest and the envelope are authentic and current (1); the envelope names
the deferred receipt (2); the resolution names the envelope, the decision and the verdict receipt (3);
the decision is authentic and says what the outcome needs (4), by an approver of the right tier (5);
the verdict receipt is about the deferred action (6); and the outcomes without an execution carry
what they must (7 to 9).

A step is a check that may leave a note in the report.  What a later step needs of an earlier one,
the tenant, the keyrings and the decision, is handed on as a value.
-/

namespace NoaMandate

open Pipeline
open SchemaEval (shown quoted)

/-! ## What the verifier is given -/

/-- The documents `reconcileSettlementEvidence` is called with. -/
structure SettlementReconcileInput where
  artifact : Json
  receiptChain : Json
  grant : Option Json
  keyring : Json
  holdEnvelope : Option Json
  holdResolution : Option Json
  paramsPreimage : Option String
  tenant : String
  chain : String
  now : String

/-- What the verifier reads of the reconciler's answer. -/
structure SettlementReconcileResult where
  code : String
  reason : Option String
  warnings : List String
  observerRelationship : String

/-- The platform of the evidence verifier; the settlement reconciler of the rail is a parameter. -/
structure EvidencePlatform extends ArtifactPlatform, HistoricalPlatform where
  reconcileSettlementEvidence : SettlementReconcileInput → SettlementReconcileResult

namespace Evidence

/-- A request as the steps see it: the bundle, and what the caller supplied. -/
structure Setup where
  bundle : Json
  outcome : EvidenceOutcome
  now : String
  maxAgeMs : Int
  rootKeyring : List (String × KeyEntry)
  checkpointKeyring : Json
  purpose : VerificationPurpose
  enrolmentRegistries : List (List Char)
  audience : Option String

/-- What step 1 establishes: the delegation, and the keyrings the manifest gives. -/
structure Trust where
  delegation : DelegationDoc
  manifestKeys : List Json
  resolvedKeyring : List (String × KeyEntry)

/-- The lifecycle receipts are verified under. -/
def Trust.receiptKeyring (t : Trust) : Json := buildReceiptKeyring t.manifestKeys

namespace Setup

variable (s : Setup)

/-- A member of the bundle. -/
def doc (k : String) : Option Json := s.bundle.get? k

def receivedAt : Option String := asStr (s.bundle.path? ["holdResolution", "receivedAt"])

def riskClass : Option String := asStr (s.bundle.path? ["deferredReceipt", "action", "riskClass"])

/-- The receipts the bundle carries. -/
def receipts : List Json :=
  (s.doc "deferredReceipt").toList ++
    [ReceiptRole.allowedReceipt, .blockedReceipt, .timeoutReceipt, .executedReceipt,
      .failedReceipt].filterMap fun role => s.doc role.field

/-- The receipts by sequence number. -/
def orderedChain : List Json := s.receipts.insertionSort fun a b => Receipt.seq a ≤ Receipt.seq b

def headReceipt : Json := s.orderedChain.getLast?.getD .null

end Setup

/-! ## Helpers -/

/-- `refuse`, with a refusal of the verifier. -/
abbrev stopWhen (bad : Bool) (failure : StepFailure) : Except StepFailure Unit := refuse bad failure

/-- `demand`, with a refusal of the verifier. -/
abbrev need {α : Type} (o : Option α) (failure : StepFailure) : Except StepFailure α :=
  demand o failure

/-- Milliseconds of a text; `none` is the source's `NaN`. Source: `steps.ts` `parseTime`. -/
def parseTime (I : Intrinsics) : Option Json → Option Int
  | some (.str t) => I.dateParse t
  | _ => none

/-- A field holds a hash that could be computed. -/
def sameHash : Option String → Option String → Bool
  | some a, some b => a = b
  | _, _ => false

/-- Two fields hold the same number. -/
def sameNumber : Option Json → Option Json → Bool
  | some (.num a), some (.num b) => a = b
  | _, _ => false

variable (P : EvidencePlatform) (s : Setup)

/-- `verifyArtifact` on a document of the bundle. The context is handed over as a text, which the
parser refuses when a key id is not a name it admits. -/
def verifySide (doc : Json) (ctx : VerifyContext) : Except String Unit := do
  match ctx.keyring.find? fun e => SafeJson.forbiddenKeys.contains e.1 with
  | some e => .error ("context: forbidden object key '" ++ e.1 ++ "'")
  | none => Artifact.verifyArtifact P.toArtifactPlatform doc ctx

/-- The context every verification starts from. -/
def context (keyring : List (String × KeyEntry)) : VerifyContext :=
  { schemas := ARTIFACT_SCHEMAS, keyring, now := some s.now }

/-- The field in which a document names the envelope by hash. -/
def envelopeRef (tenant : String) : RefHashCheck :=
  { path := ["holdEnvelopeHash"], rule := .side, artifact := (s.doc "holdEnvelope").getD .null
    refEquals := [(["tenant"], .str tenant)] }

/-- A receipt of the bundle attests the verdict its role requires; an optional one may be absent.
Source: `receipt-roles.ts` `assertReceiptRole`. -/
def assertReceiptRole (bundle : Json) (role : ReceiptRole) : Except String (Option Json) :=
  match bundle.get? role.field with
  | none | some .null =>
    if role.mandatory then .error (role.field ++ " is mandatory for every outcome but is absent")
    else .ok none
  | some receipt => do
    refuse (!receipt.isObj) (role.field ++ " is present but is not an object")
    refuse (receipt.path? ["governance", "verdict"] ≠ some (.str role.verdict))
      (role.field ++ ".governance.verdict is " ++
        quoted (receipt.path? ["governance", "verdict"]) ++ " but a receipt in the " ++
        role.field ++ " role must attest " ++ quoted (some (.str role.verdict)) ++
        " — the signature is real and the hashes bind, which is exactly what makes this " ++
        "dangerous: the bundle assigns this receipt a role its own signed bytes do not support")
    return some receipt

/-- Read a receipt through the role check. Source: `steps.ts` `roleReceipt`. -/
def roleReceipt (role : ReceiptRole) (consumer : StepName) : EvidenceCheck (Option Json) := do
  let receipt ← (assertReceiptRole s.bundle role).mapError fun reason =>
    (⟨.STEP_19_RECEIPT_ROLE_INTEGRITY, .E_RECEIPT_ROLE,
      reason ++ " [consumed by " ++ consumer.text ++ "]"⟩ : StepFailure)
  Check.note (Report.assertRole · role)
  return receipt

/-! ## Step 0: one outcome, one tenant -/

/-- The bundle carries nothing its outcome does not define. -/
def checkUnion (b : Json) (outcome : EvidenceOutcome) : List String → Except StepFailure Unit
  | [] => .ok ()
  | field :: rest => do
    stopWhen (!(STEP_OWNED_ABSENCE outcome).contains field && (b.get? field).isSome &&
        !(OUTCOME_ARTIFACT_UNION outcome).contains field)
      ⟨.STEP_0_TENANT_EQUALITY, .E_OUTCOME_ARTIFACT_SET,
        "outcome " ++ outcome.text ++ " does not define \"" ++ field ++
          "\", but the bundle carries it — the §13 union is exhaustive, and an artifact " ++
          "outside it is never verified by any step (permitted here: " ++
          ", ".intercalate ((OUTCOME_ARTIFACT_UNION outcome).insertionSort (· ≤ ·)) ++ ")"⟩
    checkUnion b outcome rest

/-- The tenants that are stated are all the primary one. -/
def checkTenants (primary : String) : List (String × Option Json) → Except StepFailure Unit
  | [] => .ok ()
  | (label, tenant) :: rest => do
    stopWhen (tenant.isSome && tenant ≠ some (.str primary))
      ⟨.STEP_0_TENANT_EQUALITY, .E_TENANT_MISMATCH,
        label ++ " = " ++ quoted tenant ++ " != " ++ quoted (some (.str primary))⟩
    checkTenants primary rest

/-- The tenant of the bundle. Source: `steps.ts` `step0_tenantEquality`. -/
def step0_tenantEquality : Except StepFailure String := do
  let S := StepName.STEP_0_TENANT_EQUALITY
  let b := s.bundle
  checkUnion b s.outcome OPTIONAL_ARTIFACT_FIELDS
  let missing : StepFailure :=
    ⟨S, .E_BUNDLE_SHAPE, "a mandatory artifact is missing or not an object"⟩
  let env ← need (asObj (s.doc "holdEnvelope")) missing
  let man ← need (asObj (s.doc "keyManifest")) missing
  let del ← need (asObj (s.doc "keyDelegation")) missing
  let deferred ← need (asObj (s.doc "deferredReceipt")) missing
  let primary ← need ((asStr (env.get? "tenant")).filter (· ≠ ""))
    ⟨S, .E_TENANT_MISMATCH, "holdEnvelope.tenant missing"⟩
  checkTenants primary
    ([("holdEnvelope.tenant", env.get? "tenant"), ("keyManifest.tenant", man.get? "tenant"),
      ("keyDelegation.tenant", del.get? "tenant"),
      ("deferredReceipt.scope.tenant", deferred.path? ["scope", "tenant"])] ++
      [ReceiptRole.allowedReceipt, .blockedReceipt, .timeoutReceipt, .executedReceipt,
        .failedReceipt].map fun role =>
        (role.field ++ ".scope.tenant", b.path? [role.field, "scope", "tenant"]))
  let cpChain := (asObj (s.doc "checkpoint")).bind fun cp => asStr (cp.get? "chain")
  let defChain := asStr (deferred.path? ["scope", "chain"])
  stopWhen (cpChain.isNone || defChain.isNone || cpChain ≠ defChain)
    ⟨S, .E_TENANT_MISMATCH, "checkpoint.chain (" ++ cpChain.getD "null" ++
      ") != deferredReceipt.scope.chain (" ++ defChain.getD "null" ++ ")"⟩
  return primary

/-! ## Step 1: delegation, manifest, envelope -/

/-- The delegation, signed by the root, covers the resolution and the verifier's own time. -/
def checkDelegation (tenant receivedAt : String) (del : Json) : EvidenceCheck DelegationDoc := do
  let S := StepName.STEP_1_HOLD_ENVELOPE
  let I := P.toIntrinsics
  (verifySide P del
    { context s s.rootKeyring with equals := [(["tenant"], .str tenant)] }).mapError fun reason =>
      (⟨S, .E_DELEGATION_CHAIN, "keyDelegation invalid: " ++ reason⟩ : StepFailure)
  stopWhen (!(elements (del.get? "permissions")).contains (.str "key-manifest-sign"))
    ⟨S, .E_DELEGATION_CHAIN, "keyDelegation.permissions lacks key-manifest-sign"⟩
  let dFrom := parseTime I (del.get? "validFrom")
  let dExp := parseTime I (del.get? "expiresAt")
  stopWhen (!Artifact.within (I.dateParse receivedAt) dFrom dExp)
    ⟨S, .E_DELEGATION_CHAIN,
      "keyDelegation not valid at holdResolution.receivedAt (" ++ receivedAt ++ ")"⟩
  let now := I.dateParse s.now
  stopWhen now.isNone
    ⟨S, .E_DELEGATION_CHAIN, "cannot evaluate verifier-controlled now (" ++ s.now ++
      ") for delegated-signer authorization"⟩
  let authorization : Authorization :=
    if Artifact.before now dFrom then .NOT_YET_VALID_NOW
    else if Artifact.before dExp now then .EXPIRED_NOW
    else .VALID_NOW
  Check.note fun r => { r with authorization }
  stopWhen (authorization ≠ .VALID_NOW)
    (if s.purpose = .audit then
      ⟨S, .E_DELEGATION_CHAIN,
        "delegated manifest signer is not authorized at verifier-controlled now (" ++ s.now ++
          "); keyManifest.issuedAt and holdResolution.receivedAt are signer-dependent and may " ++
          "only reject, never establish historical authority"⟩
    else
      ⟨S, .E_AUTHORIZATION_WINDOW,
        "keyDelegation window [" ++ shown (del.get? "validFrom") ++ " … " ++
          shown (del.get? "expiresAt") ++ "] does not contain the verifier's now (" ++ s.now ++
          ") — signer-dependent artifact times cannot establish historical authority; the " ++
          "delegation is " ++
          (if authorization = .EXPIRED_NOW then "EXPIRED" else "NOT YET VALID") ++
          " at verifier-controlled now"⟩)
  return {
    delegatedKid := shown (del.get? "delegatedKid")
    delegatedPublicKey := shown (del.get? "delegatedPublicKey")
    permissions := (elements (del.get? "permissions")).filterMap Json.asStr?
    validFrom := shown (del.get? "validFrom")
    expiresAt := shown (del.get? "expiresAt") }

/-- The manifest, signed by the delegated key, is current at the resolution and now. -/
def checkManifest (tenant receivedAt : String)
    (delegation : DelegationDoc) (man : Json) : EvidenceCheck Trust := do
  let S := StepName.STEP_1_HOLD_ENVELOPE
  let I := P.toIntrinsics
  stopWhen (match man.get? "keys" with | some (.arr _) => false | _ => true)
    ⟨S, .E_HOLD_ENVELOPE, "keyManifest.keys is not an array"⟩
  let keys := elements (man.get? "keys")
  let resolvedKeyring := buildResolvedKeyring s.rootKeyring delegation keys
  let issuedText := shown (man.get? "issuedAt")
  let expiresText := shown (man.get? "expiresAt")
  let issued := I.dateParse issuedText
  stopWhen (Artifact.before issued (I.dateParse delegation.validFrom))
    ⟨S, .E_DELEGATION_CHAIN, "keyManifest.issuedAt (" ++ issuedText ++
      ") is BEFORE keyDelegation.validFrom (" ++ delegation.validFrom ++
      ") — the manifest was stamped before the delegation that authorizes its signer existed"⟩
  stopWhen (Artifact.before (I.dateParse delegation.expiresAt) issued)
    ⟨S, .E_DELEGATION_CHAIN, "keyManifest.issuedAt (" ++ issuedText ++
      ") is AFTER keyDelegation.expiresAt (" ++ delegation.expiresAt ++
      ") — the delegation had lapsed when the manifest was signed"⟩
  (verifySide P man
    { context s resolvedKeyring with
      authorizationTime := some (.str s.now)
      equals := [(["tenant"], .str tenant), (["sig", "kid"], .str delegation.delegatedKid)] }).mapError
      fun reason => (⟨S, .E_HOLD_ENVELOPE, "keyManifest invalid: " ++ reason⟩ : StepFailure)
  let received := I.dateParse receivedAt
  let expires := I.dateParse expiresText
  stopWhen (expires.isNone || Artifact.before expires received || Artifact.before received issued)
    ⟨S, .E_HOLD_ENVELOPE, "keyManifest not current at receivedAt (" ++ receivedAt ++ ")"⟩
  let now := I.dateParse s.now
  let expired := Artifact.before expires now
  if expired || Artifact.before now issued then
    Check.note fun r =>
      { r with authorization := if expired then .EXPIRED_NOW else .NOT_YET_VALID_NOW }
    stopWhen true
      (if s.purpose = .audit then
        ⟨S, .E_HOLD_ENVELOPE, "keyManifest's reject-only window [" ++ issuedText ++ " … " ++
          expiresText ++ "] does not contain verifier-controlled now (" ++ s.now ++
          "); signer time cannot establish historical authority"⟩
      else
        ⟨S, .E_AUTHORIZATION_WINDOW, "keyManifest window [" ++ issuedText ++ " … " ++ expiresText ++
          "] does not contain the verifier's now (" ++ s.now ++
          ") — signer-dependent artifact times cannot establish historical authority"⟩)
  return { delegation, manifestKeys := keys, resolvedKeyring }

/-- The envelope, signed by a gate key, names the manifest; unless it was denied or expired it has
not run out. -/
def checkEnvelope (tenant : String) (trust : Trust) (man env : Json) : Except StepFailure Unit := do
  let S := StepName.STEP_1_HOLD_ENVELOPE
  let skipFreshness : Bool := s.outcome = .EXPIRED || s.outcome = .DENIED
  (verifySide P env
    { context s trust.resolvedKeyring with
      equals := (["tenant"], .str tenant) ::
        (env.path? ["sig", "kid"]).toList.map fun kid => (["gateKid"], kid)
      mustBeAfter := if skipFreshness then [] else [(["expiresAt"], s.now)] }).mapError
      fun reason => ⟨S, .E_HOLD_ENVELOPE, "holdEnvelope invalid: " ++ reason⟩
  stopWhen (!sameNumber (env.get? "keyManifestVersion") (man.get? "version"))
    ⟨S, .E_HOLD_ENVELOPE, "holdEnvelope.keyManifestVersion " ++
      shown (env.get? "keyManifestVersion") ++ " != manifest.version " ++ shown (man.get? "version")⟩
  stopWhen (!sameHash (asStr (env.get? "keyManifestHash")) (refHash P.toIntrinsics man))
    ⟨S, .E_HOLD_ENVELOPE, "holdEnvelope.keyManifestHash != refHash(keyManifest)"⟩

/-- Source: `steps.ts` `step1_holdEnvelope`. -/
def step1_holdEnvelope (tenant : String) : EvidenceCheck Trust := do
  let S := StepName.STEP_1_HOLD_ENVELOPE
  let missing : StepFailure := ⟨S, .E_BUNDLE_SHAPE, "delegation/manifest/envelope missing"⟩
  let del ← need (asObj (s.doc "keyDelegation")) missing
  let man ← need (asObj (s.doc "keyManifest")) missing
  let env ← need (asObj (s.doc "holdEnvelope")) missing
  let receivedAt ← need (s.receivedAt.filter (· ≠ ""))
    ⟨S, .E_HOLD_RESOLUTION,
      "holdResolution.receivedAt unreadable (needed for delegation/manifest validity)"⟩
  let delegation ← checkDelegation P s tenant receivedAt del
  let trust ← checkManifest P s tenant receivedAt delegation man
  checkEnvelope P s tenant trust man env
  return trust

/-! ## Steps 2 and 3: the envelope and its resolution -/

/-- Source: `steps.ts` `step2_envelopeBinding`. -/
def step2_envelopeBinding : EvidenceCheck Unit := do
  let S := StepName.STEP_2_ENVELOPE_BINDING
  let env ← need (asObj (s.doc "holdEnvelope")) ⟨S, .E_ENVELOPE_BINDING, "holdEnvelope missing"⟩
  let deferred ← roleReceipt s .deferredReceipt S
  let want := deferred.bind (receiptRefHash P.toIntrinsics)
  stopWhen (!sameHash (asStr (env.get? "deferredReceiptHash")) want)
    ⟨S, .E_ENVELOPE_BINDING,
      "holdEnvelope.deferredReceiptHash != deferredReceipt.chain.hash (F1 rule-a)"⟩
  let defId := asStr (s.bundle.path? ["deferredReceipt", "id"])
  stopWhen (defId.isSome && asStr (env.get? "deferredReceiptId") ≠ defId)
    ⟨S, .E_ENVELOPE_BINDING, "holdEnvelope.deferredReceiptId != deferredReceipt.id"⟩

/-- The resolution names the decision: one is there whenever a human decided. -/
def checkDecisionHash (hr : Json) : Except StepFailure Unit := do
  let S := StepName.STEP_3_HOLD_RESOLUTION
  let status := expectedHoldStatus s.outcome
  let decision := asObj (s.doc "decisionArtifact")
  let allowed := asObj (s.doc "allowedReceipt")
  let byStatus : Bool := status = .APPROVED || status = .DENIED
  let humanDecided := byStatus || allowed.isSome || (asObj (s.doc "blockedReceipt")).isSome
  stopWhen (humanDecided && decision.isNone)
    ⟨S, .E_HOLD_RESOLUTION, "outcome " ++ s.outcome.text ++ " " ++
      (if byStatus then "resolves to holdResolution.status " ++ status.text
        else "carries a human verdict receipt (" ++
          (if allowed.isSome then "allowedReceipt" else "blockedReceipt") ++ ") despite status " ++
          status.text) ++
      ", which REQUIRES a Decision Artifact; none is present (a human-decided outcome cannot be " ++
      "proven without the human's signed decision)"⟩
  match decision with
  | some decision =>
    stopWhen (!sameHash (asStr (hr.get? "decisionArtifactHash")) (refHash P.toIntrinsics decision))
      ⟨S, .E_HOLD_RESOLUTION, "holdResolution.decisionArtifactHash != refHash(decisionArtifact)"⟩
  | none =>
    stopWhen (hr.get? "decisionArtifactHash" ≠ some .null)
      ⟨S, .E_HOLD_RESOLUTION, "holdResolution.decisionArtifactHash is " ++
        quoted (hr.get? "decisionArtifactHash") ++
        " but no decisionArtifact is present in the bundle"⟩

/-- The resolution names the verdict receipt. -/
def checkVerdictHash (hr : Json) : Option Json → Except StepFailure Unit
  | some receipt =>
    stopWhen (!sameHash (asStr (hr.get? "verdictReceiptHash")) (receiptRefHash P.toIntrinsics receipt))
      ⟨.STEP_3_HOLD_RESOLUTION, .E_HOLD_RESOLUTION,
        "holdResolution.verdictReceiptHash != verdict receipt chain.hash (G4)"⟩
  | none =>
    stopWhen (s.outcome = .CANCELLED_LOCAL_STATE_LOST &&
        hr.get? "verdictReceiptHash" ≠ some .null)
      ⟨.STEP_3_HOLD_RESOLUTION, .E_HOLD_RESOLUTION,
        "CANCELLED with no pre-crash ALLOWED receipt requires verdictReceiptHash == null"⟩

/-- Source: `steps.ts` `step3_holdResolution`. -/
def step3_holdResolution (trust : Trust) : EvidenceCheck Unit := do
  let S := StepName.STEP_3_HOLD_RESOLUTION
  let missing : StepFailure := ⟨S, .E_HOLD_RESOLUTION, "holdResolution/holdEnvelope missing"⟩
  let hr ← need (asObj (s.doc "holdResolution")) missing
  let env ← need (asObj (s.doc "holdEnvelope")) missing
  (verifySide P hr (context s trust.resolvedKeyring)).mapError fun reason =>
    (⟨S, .E_HOLD_RESOLUTION, "holdResolution invalid: " ++ reason⟩ : StepFailure)
  stopWhen (!sameHash (asStr (hr.get? "holdEnvelopeHash")) (refHash P.toIntrinsics env))
    ⟨S, .E_HOLD_RESOLUTION, "holdResolution.holdEnvelopeHash != refHash(holdEnvelope)"⟩
  stopWhen (!Json.same (hr.get? "keyManifestVersion") (env.get? "keyManifestVersion") ||
      asStr (hr.get? "keyManifestHash") ≠ asStr (env.get? "keyManifestHash"))
    ⟨S, .E_HOLD_RESOLUTION, "holdResolution manifest version/hash != envelope's"⟩
  let status := expectedHoldStatus s.outcome
  stopWhen (asStr (hr.get? "status") ≠ some status.text)
    ⟨S, .E_HOLD_RESOLUTION, "holdResolution.status " ++ quoted (hr.get? "status") ++ " != " ++
      status.text ++ " for outcome " ++ s.outcome.text⟩
  checkDecisionHash P s hr
  let verdictReceipt ← roleReceipt s (verdictRoleFor s.outcome) S
  checkVerdictHash P s hr verdictReceipt

/-! ## Steps 4 to 6: the decision and the verdict receipt -/

/-- The authenticated decision, when the bundle carries one. Source: `steps.ts` `step4_decision`. -/
def step4_decision (tenant : String) (trust : Trust) : Except StepFailure (Option Json) :=
  let S := StepName.STEP_4_DECISION_ARTIFACT
  match asObj (s.doc "decisionArtifact") with
  | none => .ok none
  | some decision => do
    (verifySide P decision
      { context s trust.resolvedKeyring with
        authorizationTime := s.receivedAt.map Json.str
        refHashChecks := [envelopeRef s tenant] }).mapError
      fun reason => ⟨S, .E_DECISION, "decisionArtifact invalid: " ++ reason⟩
    let value := asStr (decision.get? "decision")
    if s.outcome = .DENIED then
      stopWhen (value ≠ some "DENY")
        ⟨S, .E_DECISION, "DENIED outcome requires decision=DENY, got " ++
          quoted (value.map Json.str)⟩
    else
      stopWhen (value ≠ some "APPROVE")
        ⟨S, .E_DECISION, "non-DENIED outcome requires decision=APPROVE, got " ++
          quoted (value.map Json.str)⟩
    return some decision

/-- The tier a risk class needs. -/
def checkTier (riskClass : Option String) (entry : KeyEntry) : Except StepFailure Unit := do
  let S := StepName.STEP_5_APPROVER_ROLE
  stopWhen ((riskClass = some "CRITICAL" || riskClass = some "IRREVERSIBLE") &&
      !entry.roles.contains "approve-critical")
    ⟨S, .E_APPROVER_ROLE, "action " ++ riskClass.getD "" ++
      " needs approve-critical; approver holds [" ++ ",".intercalate entry.roles ++ "]"⟩
  stopWhen (riskClass = some "HIGH" && !entry.roles.contains "approve-high" &&
      !entry.roles.contains "approve-critical")
    ⟨S, .E_APPROVER_ROLE, "action HIGH needs approve-high|approve-critical; approver holds [" ++
      ",".intercalate entry.roles ++ "]"⟩

/-- Source: `steps.ts` `step5_approverRole`. -/
def step5_approverRole (trust : Trust) : Option Json → EvidenceCheck Unit
  | none => return ()
  | some decision => do
    let S := StepName.STEP_5_APPROVER_ROLE
    let verdictReceipt ← roleReceipt s (verdictRoleFor s.outcome) S
    let mismatch : StepFailure := ⟨S, .E_APPROVER_ROLE, "decision.approverKid != decision.sig.kid"⟩
    let approverKid ← need (asStr (decision.get? "approverKid")) mismatch
    stopWhen (some approverKid ≠ asStr (decision.path? ["sig", "kid"])) mismatch
    match verdictReceipt with
    | none => pure ()
    | some receipt =>
      let rKid := asStr (receipt.path? ["sig", "kid"])
      stopWhen (rKid ≠ some approverKid)
        ⟨S, .E_APPROVER_ROLE, "verdict receipt sig.kid (" ++ rKid.getD "null" ++
          ") != decision approverKid (" ++ approverKid ++ ")"⟩
    let entry ← need
      ((trust.resolvedKeyring.lookup approverKid).filter fun e => e.type = .APPROVER)
      ⟨S, .E_APPROVER_ROLE, "approver kid " ++ approverKid ++ " not an APPROVER in the manifest"⟩
    checkTier s.riskClass entry

/-- The fields of an action a verdict receipt repeats. -/
def boundActionFields : List (List String) :=
  [["action", "id"], ["action", "canonical"], ["action", "paramsHash"]]

def checkActionFields (deferred receipt : Json) : List (List String) → Except StepFailure Unit
  | [] => .ok ()
  | path :: rest => do
    stopWhen (!Json.same (deferred.path? path) (receipt.path? path))
      ⟨.STEP_6_VERDICT_RECEIPT_BINDING, .E_VERDICT_BINDING,
        "verdict receipt " ++ ".".intercalate path ++ " (" ++ shown (receipt.path? path) ++
          ") != deferred (" ++ shown (deferred.path? path) ++ ")"⟩
    checkActionFields deferred receipt rest

/-- Source: `steps.ts` `step6_verdictReceiptBinding`. -/
def step6_verdictReceiptBinding : EvidenceCheck Unit := do
  let S := StepName.STEP_6_VERDICT_RECEIPT_BINDING
  let verdictReceipt ← roleReceipt s (verdictRoleFor s.outcome) S
  let deferred ← need (asObj (s.doc "deferredReceipt"))
    ⟨S, .E_VERDICT_BINDING, "deferredReceipt missing"⟩
  match verdictReceipt with
  | none => pure ()
  | some receipt => do
    checkActionFields deferred receipt boundActionFields
    stopWhen (!Json.same (receipt.path? ["scope", "chain"]) (deferred.path? ["scope", "chain"]))
      ⟨S, .E_VERDICT_BINDING, "verdict receipt scope.chain != deferred scope.chain"⟩

/-! ## Steps 7 to 9: outcomes without an execution -/

/-- Source: `steps.ts` `step7_denied`. -/
def step7_denied : EvidenceCheck Unit :=
  if s.outcome = .DENIED then do
    let S := StepName.STEP_7_DENIED
    let blocked ← roleReceipt s .blockedReceipt S
    stopWhen blocked.isNone ⟨S, .E_DENIED, "DENIED outcome requires blockedReceipt"⟩
    stopWhen (((asObj (s.doc "decisionArtifact")).bind fun d => asStr (d.get? "decision")) ≠
        some "DENY")
      ⟨S, .E_DENIED, "DENIED requires a bound DENY Decision Artifact"⟩
  else pure ()

/-- Source: `steps.ts` `step8_expired`. -/
def step8_expired : EvidenceCheck Unit :=
  if s.outcome = .EXPIRED then do
    let S := StepName.STEP_8_EXPIRED
    let timeout? ← roleReceipt s .timeoutReceipt S
    let timeout ← need timeout? ⟨S, .E_EXPIRED, "EXPIRED outcome requires timeoutReceipt"⟩
    stopWhen (timeout.path? ["governance", "ruleId"] ≠ some (.str "approval-timeout"))
      ⟨S, .E_EXPIRED, "timeoutReceipt.governance.ruleId != approval-timeout"⟩
    stopWhen (timeout.path? ["agent", "principal"] ≠ some (.str "POLICY"))
      ⟨S, .E_EXPIRED, "timeoutReceipt.agent.principal != POLICY (policy signer)"⟩
    stopWhen (asStr (s.bundle.path? ["holdResolution", "status"]) ≠ some "EXPIRED")
      ⟨S, .E_EXPIRED, "holdResolution.status != EXPIRED"⟩
  else pure ()

/-- No artifact of an execution. -/
def checkNoExecution (failure : StepFailure) : Except StepFailure Unit :=
  stopWhen (STEP_OWNED_EXECUTION_ABSENCE.any fun k => (s.doc k).isSome) failure

/-- Source: `steps.ts` `step9_cancelled`. -/
def step9_cancelled : EvidenceCheck Unit :=
  if s.outcome = .CANCELLED_LOCAL_STATE_LOST then do
    let S := StepName.STEP_9_CANCELLED
    let _ ← roleReceipt s .allowedReceipt S
    stopWhen (asStr (s.bundle.path? ["holdResolution", "status"]) ≠ some "CANCELLED")
      ⟨S, .E_CANCELLED, "holdResolution.status != CANCELLED"⟩
    stopWhen (asStr (s.bundle.path? ["holdResolution", "reasonCode"]) ≠ some "LOCAL_STATE_LOST")
      ⟨S, .E_CANCELLED, "holdResolution.reasonCode != LOCAL_STATE_LOST"⟩
    checkNoExecution s
      ⟨S, .E_CANCELLED, "CANCELLED must not carry consumption/executed/failed artifacts"⟩
  else pure ()

end Evidence

end NoaMandate
