import NoaMandate.Evidence.Attempts

/-!
# Tampering dominates

A bundle is `UNVERIFIED` or `INCONCLUSIVE` by a soft refusal.  Apart from steps 15 and 16, which come
after the checkpoint step, only the settlement and enrolment rules of steps 10 and 11 refuse softly,
and `orCheckpoint` then looks at the chain before it answers.  So a bundle whose receipts or whose
checkpoint do not verify is never answered softly: every refusal before the checkpoint step is a hard
one, or gives way to the refusal of the checkpoint step.

That `orCheckpoint` does look needs that the checkpoint step has not run yet, which is a property of the
report: each of the steps 0 to 14 keeps it (`Unreconciled`).
-/

namespace NoaMandate

open Pipeline
open Check (Within StopsIn)

namespace Evidence

variable {P : EvidencePlatform} {s : Setup} {tenant : String} {trust : Trust} {α : Type}
  {x : EvidenceCheck α} {S : StepName} {code : StepCode} {failure : StepFailure}

/-! ## Hard refusals -/

/-- A refusal that makes a bundle invalid. -/
def Hard (e : StepFailure) : Prop := EvidenceVerdict.ofCode e.code = .INVALID

/-- The checkpoint step has not run. -/
def Unreconciled (r : Report) : Prop := r.checkpointReconciled = none

/-- The check keeps the checkpoint step ahead, and refuses in no soft way. -/
def Firm (x : EvidenceCheck α) : Prop := Within Unreconciled Hard x

/-- A refusal of step 10 or 11 that gives way to the checkpoint step, or a hard one. -/
def Yielding (e : StepFailure) : Prop :=
  Hard e ∨ isSoftS5Failure e.code = true ∧
    (e.step = .STEP_10_EXECUTED ∨ e.step = .STEP_11_EXECUTION_FAILED)

lemma Firm.yielding (hx : Firm x) : Within Unreconciled Yielding x := hx.mono fun _ => .inl

variable {Q : StepFailure → Prop}

lemma firm_note {f : Report → Report}
    (h : ∀ r, (f r).checkpointReconciled = r.checkpointReconciled) :
    Within Unreconciled Q (Check.note f : EvidenceCheck Unit) :=
  .note fun r hr => (h r).trans hr

lemma firm_roleReceipt {role : ReceiptRole} : Firm (roleReceipt s role S) :=
  .bind (.lift (.mapError fun _ => rfl)) fun _ =>
    .bind (firm_note fun r => by unfold Report.assertRole; split <;> rfl) fun _ => .pure

/-! ## Steps 0 to 9 -/

lemma hard_checkUnion {b : Json} {outcome : EvidenceOutcome} (fields : List String) :
    ErrorsIn Hard (checkUnion b outcome fields) := by
  induction fields with
  | nil => exact .ok
  | cons field rest ih => exact .bind (.refuse rfl) fun _ => ih

lemma hard_checkTenants {primary : String} (tenants : List (String × Option Json)) :
    ErrorsIn Hard (checkTenants primary tenants) := by
  induction tenants with
  | nil => exact .ok
  | cons t rest ih => exact .bind (.refuse rfl) fun _ => ih

lemma hard_step0 : ErrorsIn Hard (step0_tenantEquality s) :=
  .bind (hard_checkUnion _) fun _ => .bind (.demand rfl) fun _ => .bind (.demand rfl) fun _ =>
    .bind (.demand rfl) fun _ => .bind (.demand rfl) fun _ => .bind (.demand rfl) fun _ =>
    .bind (hard_checkTenants _) fun _ => .bind (.refuse rfl) fun _ => .ok

lemma firm_checkDelegation {receivedAt : String} {del : Json} :
    Firm (checkDelegation P s tenant receivedAt del) :=
  .bind (.lift (.mapError fun _ => rfl)) fun _ => .refusing rfl <|
    .refusing rfl <| .refusing rfl <|
    .bind (firm_note fun _ => rfl) fun _ =>
    .refusing (by split <;> rfl) <| .pure

lemma firm_checkManifest {receivedAt : String} {delegation : DelegationDoc} {man : Json} :
    Firm (checkManifest P s tenant receivedAt delegation man) := by
  refine .refusing rfl <| .refusing rfl <|
    .refusing rfl <| .bind (.lift (.mapError fun _ => rfl)) fun _ =>
    .refusing rfl <| .ite ?_ .pure
  exact .bind (firm_note fun _ => rfl) fun _ =>
    .refusing (by split <;> rfl) <| .pure

lemma hard_checkEnvelope {man env : Json} : ErrorsIn Hard (checkEnvelope P s tenant trust man env) :=
  .bind (.mapError fun _ => rfl) fun _ => .bind (.refuse rfl) fun _ => .refuse rfl

lemma firm_step1 : Firm (step1_holdEnvelope P s tenant) :=
  .demanding rfl fun _ => .demanding rfl fun _ =>
    .demanding rfl fun _ => .demanding rfl fun _ =>
    .bind firm_checkDelegation fun _ => .bind firm_checkManifest fun _ =>
    .bind (.lift hard_checkEnvelope) fun _ => .pure

lemma firm_step2 : Firm (step2_envelopeBinding P s) :=
  .demanding rfl fun _ => .bind firm_roleReceipt fun _ =>
    .refusing rfl <| .lift (.refuse rfl)

lemma hard_checkDecisionHash {hr : Json} : ErrorsIn Hard (checkDecisionHash P s hr) := by
  refine .bind (.refuse rfl) fun _ => ?_
  split <;> exact .refuse rfl

lemma hard_checkVerdictHash {hr : Json} (receipt : Option Json) :
    ErrorsIn Hard (checkVerdictHash P s hr receipt) := by
  cases receipt <;> exact .refuse rfl

lemma firm_step3 : Firm (step3_holdResolution P s trust) :=
  .demanding rfl fun _ => .demanding rfl fun _ =>
    .bind (.lift (.mapError fun _ => rfl)) fun _ => .refusing rfl <|
    .refusing rfl <| .refusing rfl <|
    .bind (.lift hard_checkDecisionHash) fun _ => .bind firm_roleReceipt fun receipt =>
    .lift (hard_checkVerdictHash receipt)

lemma hard_step4 : ErrorsIn Hard (step4_decision P s tenant trust) := by
  unfold step4_decision
  cases asObj (s.doc "decisionArtifact") with
  | none => exact .ok
  | some d =>
    refine .bind (.mapError fun _ => rfl) fun _ => ?_
    dsimp only
    split <;> exact .bind (.refuse rfl) fun _ => .ok

lemma hard_checkTier {riskClass : Option String} {entry : KeyEntry} :
    ErrorsIn Hard (checkTier riskClass entry) :=
  .bind (.refuse rfl) fun _ => .refuse rfl

lemma firm_step5 (decision : Option Json) : Firm (step5_approverRole s trust decision) := by
  cases decision with
  | none => exact .pure
  | some d =>
    refine .bind firm_roleReceipt fun receipt => .demanding rfl fun _ =>
      .refusing rfl <| ?_
    cases receipt with
    | none => exact .demanding rfl fun _ => .lift hard_checkTier
    | some receipt =>
      exact .refusing rfl <| .demanding rfl fun _ =>
        .lift hard_checkTier

lemma hard_checkActionFields {deferred receipt : Json} (paths : List (List String)) :
    ErrorsIn Hard (checkActionFields deferred receipt paths) := by
  induction paths with
  | nil => exact .ok
  | cons path rest ih => exact .bind (.refuse rfl) fun _ => ih

lemma firm_step6 : Firm (step6_verdictReceiptBinding s) := by
  refine .bind firm_roleReceipt fun receipt => .demanding rfl fun _ => ?_
  cases receipt with
  | none => exact .pure
  | some receipt =>
    exact .bind (.lift (hard_checkActionFields _)) fun _ => .lift (.refuse rfl)

lemma firm_step7 : Firm (step7_denied s) :=
  .ite (.bind firm_roleReceipt fun _ => .refusing rfl <| .lift (.refuse rfl))
    .pure

lemma firm_step8 : Firm (step8_expired s) :=
  .ite (.bind firm_roleReceipt fun _ => .demanding rfl fun _ =>
    .refusing rfl <| .refusing rfl <| .lift (.refuse rfl))
    .pure

lemma firm_step9 : Firm (step9_cancelled s) :=
  .ite (.bind firm_roleReceipt fun _ => .refusing rfl <|
    .refusing rfl <| .lift (.refuse rfl)) .pure

/-! ## Steps 10 to 14 and 19 -/

lemma firm_checkGrantBinding (hcode : EvidenceVerdict.ofCode code = .INVALID) :
    Firm (checkGrantBinding P s tenant trust S code) :=
  .bind firm_roleReceipt fun _ => .demanding hcode fun _ =>
    .demanding hcode fun _ => .bind (.lift (.mapError fun _ => hcode)) fun _ =>
    .refusing hcode <| .refusing hcode <|
    .lift (.refuse hcode)

lemma firm_attemptDocuments {role : ReceiptRole} (hfailure : Hard failure) :
    Firm (attemptDocuments s role S failure) :=
  .bind firm_roleReceipt fun _ => .bind firm_roleReceipt fun _ =>
    .demanding hfailure fun _ => .demanding hfailure fun _ =>
    .demanding hfailure fun _ => .demanding hfailure fun _ => .pure

lemma firm_checkConsumption {reason : String} {a : Attempt}
    (hcode : EvidenceVerdict.ofCode code = .INVALID) :
    Firm (checkConsumption P s tenant trust S code reason a) :=
  .bind (firm_checkGrantBinding hcode) fun _ => .bind (.lift (.mapError fun _ => hcode)) fun _ =>
    .refusing hcode <| .lift (.refuse hcode)

section yielding

/-! The rules that may refuse softly, called by step 10 or 11. -/

variable (hS : S = .STEP_10_EXECUTED ∨ S = .STEP_11_EXECUTION_FAILED)

lemma within_refuseSettlement {dimension : SettlementDimension}
    (h : Q failure) : Within Unreconciled Q (refuseSettlement dimension failure : EvidenceCheck α) :=
  .bind (firm_note fun _ => rfl) fun _ => .lift (.error h)

lemma within_refuseEnrolment {evaluation : EnrolmentEvaluation}
    (h : Q failure) : Within Unreconciled Q (refuseEnrolment evaluation failure) :=
  .bind (firm_note fun _ => rfl) fun _ => .lift (.error h)

include hS in
lemma within_judgeSettlement {uncheckable : Bool} {r : SettlementReconcileResult} :
    Within Unreconciled Yielding (judgeSettlement S uncheckable r) := by
  have hhard : ∀ {dimension : SettlementDimension} {failure : StepFailure}, Hard failure →
      Within Unreconciled Yielding
        (refuseSettlement dimension failure : EvidenceCheck (Option SettlementFacts)) :=
    fun h => within_refuseSettlement (.inl h)
  refine .ite (.bind (firm_note fun _ => rfl) fun _ => .pure) (.ite (hhard rfl) (.ite ?_
    (.ite (hhard rfl) (.ite (hhard rfl) (.ite (hhard rfl) (.ite (hhard rfl) (hhard rfl)))))))
  exact .ite (within_refuseSettlement (.inr ⟨rfl, hS⟩)) (hhard rfl)

include hS in
lemma within_checkSettlement :
    Within Unreconciled Yielding (checkSettlement P s tenant trust S) := by
  unfold checkSettlement
  split
  · exact .ite (within_refuseSettlement (.inl rfl)) .pure
  · dsimp only
    split
    · exact within_refuseSettlement (.inl rfl)
    · split
      · exact within_refuseSettlement (.inl rfl)
      · exact .bind (firm_note fun _ => rfl) fun _ => within_judgeSettlement hS

include hS in
lemma within_judgeRegistries {selected : List SelectedRegistry} :
    Within Unreconciled Yielding (judgeRegistries P s tenant S selected) := by
  unfold judgeRegistries
  split
  · exact within_refuseEnrolment (.inl rfl)
  split
  · exact within_refuseEnrolment (.inr ⟨rfl, hS⟩)
  refine .ite (within_refuseEnrolment (.inr ⟨rfl, hS⟩)) ?_
  dsimp only
  split
  · exact within_refuseEnrolment (.inl rfl)
  · exact .ite (within_refuseEnrolment (.inr ⟨rfl, hS⟩)) (firm_note fun _ => rfl)

include hS in
lemma within_checkEnrolment : Within Unreconciled Yielding (checkEnrolment P s tenant trust S) := by
  refine .ite .pure ?_
  split
  · exact within_refuseEnrolment (.inr ⟨rfl, hS⟩)
  · exact .ite (within_refuseEnrolment (.inr ⟨rfl, hS⟩)) (within_judgeRegistries hS)

include hS in
lemma within_checkSettlementRequired {facts : Option SettlementFacts} :
    Within Unreconciled Yielding (checkSettlementRequired s S facts) := by
  have hrequired : ∀ reason, Within Unreconciled Yielding
      (refuseSettlement .NOT_ESTABLISHED ⟨S, .E_SETTLEMENT_REQUIRED, reason⟩ : EvidenceCheck Unit) :=
    fun _ => within_refuseSettlement (.inr ⟨rfl, hS⟩)
  unfold checkSettlementRequired
  dsimp only
  split
  · exact .ite (hrequired _) (.ite (hrequired _) (.ite (hrequired _)
      (within_refuseSettlement (.inr ⟨rfl, hS⟩))))
  · exact hrequired _

end yielding

lemma within_step10 : Within Unreconciled Yielding (step10_executed P s tenant trust) :=
  .ite (.bind (Firm.yielding (firm_attemptDocuments rfl)) fun _ =>
    .bind (Firm.yielding (firm_checkConsumption rfl)) fun _ => .refusing (.inl rfl) <|
    .refusing (.inl rfl) <| .refusing (.inl rfl) <|
    .bind (within_checkSettlement (.inl rfl)) fun _ => .bind (within_checkEnrolment (.inl rfl)) fun _ =>
    .bind .record fun _ => .ite (within_checkSettlementRequired (.inl rfl)) .pure) .pure

lemma within_step11 : Within Unreconciled Yielding (step11_executionFailed P s tenant trust) :=
  .ite (.bind (Firm.yielding (firm_attemptDocuments rfl)) fun _ =>
    .bind (Firm.yielding (firm_checkConsumption rfl)) fun _ => .refusing (.inl rfl) <|
    .refusing (.inl rfl) <| .refusing (.inl rfl) <|
    .refusing (.inl rfl) <| .bind (within_checkEnrolment (.inr rfl)) fun _ =>
    .bind .record fun _ => .ite (within_refuseSettlement (.inr ⟨rfl, .inr rfl⟩)) .pure) .pure

lemma firm_step12 : Firm (step12_unknown P s tenant trust) :=
  .ite (.demanding rfl fun _ => .demanding rfl fun _ =>
    .bind (firm_checkGrantBinding rfl) fun _ => .bind (.lift (.mapError fun _ => rfl)) fun _ =>
    .refusing rfl <| .refusing rfl <|
    .refusing rfl <| .refusing rfl <|
    .refusing rfl <| .lift (.refuse rfl)) .pure

lemma firm_step13 : Firm (step13_grantExpired P s tenant trust) :=
  .ite (.bind firm_roleReceipt fun _ => .demanding rfl fun _ =>
    .refusing rfl <| .bind (firm_checkGrantBinding rfl) fun _ =>
    .refusing rfl <| .lift (.refuse rfl)) .pure

lemma firm_step14 : Firm (step14_approvedNoExec s) :=
  .ite (.bind firm_roleReceipt fun _ => .refusing rfl <|
    .refusing rfl <| .lift (.refuse rfl)) .pure

lemma firm_step19 : Firm (step19_receiptRoleIntegrity s) :=
  .bind .record fun _ => .lift (.refuse rfl)

/-! ## The checkpoint step -/

lemma hard_judgeCheckpoint {cp head : Json} {verdict : Verify.CheckpointVerdict} :
    Within (fun _ => True) Hard (judgeCheckpoint cp head verdict) :=
  .refusing rfl <| .ite
    (.refusing rfl <| .bind (.note fun _ _ => trivial) fun _ => .pure)
    (.refusing rfl <| .refusing rfl <|
      .bind (.note fun _ _ => trivial) fun _ => .bind (.note fun _ _ => trivial) fun _ => .pure)

lemma hard_checkpointStep : Within (fun _ => True) Hard (runCheckpointStep P s trust) := by
  refine .ite ?_ ?_
  · exact .refusing rfl <| .refusing rfl <|
      .bind hard_judgeCheckpoint fun _ => .ite
        (.bind (.note fun _ _ => trivial) fun _ => .pure) .pure
  · refine .bind (.note fun _ _ => trivial) fun _ => .ite
      (.bind (.note fun _ _ => trivial) fun _ => .pure) (.ite ?_ (.ite ?_ (.lift (.demand rfl))))
    all_goals
      exact .bind (.note fun _ _ => trivial) fun _ => .bind (.note fun _ _ => trivial) fun _ => .pure

/-- The checkpoint names a key of the external keyring, and its signature does not verify. -/
def Forged (I : Intrinsics) (keyring cp : Json) : Prop :=
  ∃ witness, parseVerificationKeyring I "checkpointKeyring" keyring = .ok witness ∧
    Verify.ForgedUnder I witness cp

lemma verifyCheckpoint_forged {I : Intrinsics} {keyring cp : Json} (h : Forged I keyring cp) :
    verifyCheckpoint I cp keyring = .badSpec ∨ verifyCheckpoint I cp keyring = .malformed ∨
      verifyCheckpoint I cp keyring = .badSignature := by
  obtain ⟨witness, hparse, hforged⟩ := h
  have hw : parseVerificationKeyring I "keyring" keyring = .ok witness :=
    parseVerificationKeyring_label hparse
  unfold verifyCheckpoint
  rw [hw]
  exact Verify.checkpointVerdict_forged (publicKey_ne_empty hw) hforged

/-- Neither route passes a forged checkpoint. -/
lemma not_forged_of_checkpointStep {r r' : Report} {anchoring : Anchoring}
    (h : runCheckpointStep P s trust r = (.ok anchoring, r')) :
    ¬ Forged P.toIntrinsics s.checkpointKeyring ((s.doc "checkpoint").getD .null) := by
  intro hforged
  unfold runCheckpointStep at h
  split at h
  · simp only [step17_checkpointReconcile, Check.bind_eq_ok_iff] at h
    obtain ⟨_, _, -, _, _, -, reconciled, _, hjudge, -⟩ := h
    rcases verifyCheckpoint_forged hforged with hv | hv | hv
    all_goals
      rw [hv] at hjudge
      simp [judgeCheckpoint] at hjudge
  · obtain ⟨witness, hparse, hforged⟩ := hforged
    have hbroken : Historical.Broken (historicalResult P s trust) :=
      Historical.broken_verifyHistoricalChain rfl rfl hparse hforged
    obtain ⟨hcode, hunanswered⟩ := hbroken
    have hanchors : ∀ code ∈ Historical.brokenCodes, code ∉ noAnchorCodes := by decide
    have hno : ¬ noAnchorCodes.contains (historicalResult P s trust).code = true := fun hmem =>
      hanchors _ hcode (List.contains_iff_mem.mp hmem)
    simp only [historicalCheckpointReconcile, Check.ok_iff, hunanswered, reduceCtorEq, if_false,
      if_neg hno, demand_eq_ok_iff, false_and, and_false, exists_false] at h

/-! ## The pipeline -/

/-- A step in the log is the step, up to the log. -/
lemma within_logged {R : Report → Prop} (hR : ∀ r steps, R r → R { r with steps := steps }) (hx : Within R Q x) : Within R Q (logged S x) := by
  intro r hr
  obtain ⟨hrecord, hstop⟩ := hx r hr
  simp only [logged, Bind.bind, Check.attempt]
  rcases hxr : x r with ⟨e | a, r₁⟩
  · rw [hxr] at hrecord hstop
    refine ⟨hR r₁ _ hrecord, fun e' he => hstop e' ?_⟩
    cases he
    rfl
  · rw [hxr] at hrecord
    exact ⟨hR r₁ _ hrecord, fun e' he => by cases he⟩

lemma within_step (hx : Within Unreconciled Q x) :
    Within Unreconciled Q (logged S x) :=
  within_logged (fun _ _ hr => hr) hx

/-- The refusals of step 10 or 11 that give way are those the checkpoint step is run for. -/
lemma settlementFailure_of_soft {e : StepFailure} {r : Report}
    (hsoft : isSoftS5Failure e.code = true)
    (hstep : e.step = .STEP_10_EXECUTED ∨ e.step = .STEP_11_EXECUTION_FAILED) :
    settlementFailure e r = true := by
  have hcode := (Bool.and_eq_true_iff.mp hsoft).2
  rw [Bool.or_eq_true] at hcode
  simp only [settlementFailure, test_iff]
  exact ⟨hstep, hcode.imp Or.inr id⟩

/-- What step 10 or 11 refuses softly is looked at again by the checkpoint step, and when that never
passes its refusal is the one reported. -/
lemma stopsIn_orCheckpoint {y : EvidenceCheck Unit} (hy : Within Unreconciled Yielding y)
    (hnever : ∀ r anchoring r', runCheckpointStep P s trust r ≠ (.ok anchoring, r')) :
    StopsIn Unreconciled Hard (orCheckpoint P s trust y) := by
  refine fun r hr => ⟨fun e r' h => ?_, fun u r' h => ?_⟩
  · simp only [orCheckpoint, Check.bind_eq_error_iff, Check.attempt_ne_error, false_or,
      Check.attempt_eq_ok_iff] at h
    obtain ⟨res, r₁, hres, h⟩ := h
    cases res with
    | ok u => simp at h
    | error failing =>
      obtain ⟨hyielding, hr1⟩ := hy.error hr hres
      simp only [Check.bind_eq_error_iff, Check.record_ne_error, false_or,
        Check.record_eq_ok_iff] at h
      obtain ⟨_, _, ⟨rfl, rfl⟩, h⟩ := h
      split at h
      · simp only [Check.bind_eq_error_iff, Check.attempt_ne_error, false_or,
          Check.attempt_eq_ok_iff] at h
        obtain ⟨res, r₂, hcheckpoint, h⟩ := h
        cases res with
        | ok anchoring =>
          obtain ⟨_, hok⟩ := logged_eq_ok hcheckpoint
          exact absurd hok (hnever _ _ _)
        | error cp =>
          obtain ⟨hcp, -⟩ := (within_logged (fun _ _ h => h) hard_checkpointStep).error trivial
            hcheckpoint
          obtain ⟨h, -⟩ := Check.lift_eq_error_iff.mp h
          obtain rfl := Except.error.inj h
          split
          · exact hcp
          · exact hyielding.resolve_right fun h => ‹¬ _› h.1
      · rename_i hnot
        obtain ⟨h, -⟩ := Check.lift_eq_error_iff.mp h
        obtain rfl := Except.error.inj h
        refine hyielding.resolve_right fun hsoft => ?_
        rw [settlementFailure_of_soft hsoft.1 hsoft.2, hr1] at hnot
        exact hnot rfl
  · have hrecord := (hy r hr).1
    rwa [orCheckpoint_eq_ok h] at hrecord

/-- A pipeline whose checkpoint step never passes refuses in no soft way. -/
lemma stopsIn_pipeline
    (hnever : ∀ tenant trust r r', step1_holdEnvelope P s tenant r = (.ok trust, r') →
      ∀ r anchoring r', runCheckpointStep P s trust r ≠ (.ok anchoring, r')) :
    StopsIn Unreconciled Hard (pipeline P s) := by
  have hfirm : ∀ {β : Type} {S : StepName} {y : EvidenceCheck β}, Firm y →
      StopsIn Unreconciled Hard (logged S y) := fun h => (within_step h).stopsIn
  refine .bind (hfirm (.lift hard_step0)) fun tenant => ?_
  refine .bind_of_ok (hfirm firm_step1) fun r trust r' h1 => ?_
  obtain ⟨r₁, h1⟩ := logged_eq_ok h1
  have hnever := hnever tenant trust r r₁ h1
  refine .bind (hfirm firm_step2) fun _ => .bind (hfirm firm_step3) fun _ => ?_
  refine .bind (hfirm (.lift hard_step4)) fun decision => .bind (hfirm (firm_step5 decision)) fun _ => ?_
  refine .bind (hfirm firm_step6) fun _ => .bind (hfirm firm_step7) fun _ => ?_
  refine .bind (hfirm firm_step8) fun _ => .bind (hfirm firm_step9) fun _ => ?_
  refine .bind (stopsIn_orCheckpoint (within_step within_step10) hnever) fun _ => ?_
  refine .bind (stopsIn_orCheckpoint (within_step within_step11) hnever) fun _ => ?_
  refine .bind (hfirm firm_step12) fun _ => .bind (hfirm firm_step13) fun _ => ?_
  refine .bind (hfirm firm_step14) fun _ => .bind (hfirm firm_step19) fun _ => ?_
  -- from here on there is only the checkpoint step
  refine fun r _ => ⟨fun e r' h => ?_, fun anchoring r' h => ?_⟩
  · rcases Check.bind_eq_error_iff.mp h with h | ⟨anchoring, r₁, hok, -⟩
    · exact ((within_logged (fun _ _ h => h) hard_checkpointStep).error trivial h).1
    · obtain ⟨_, hok⟩ := logged_eq_ok hok
      exact absurd hok (hnever _ _ _)
  · obtain ⟨anchoring, r₁, hok, -⟩ := Check.bind_eq_ok_iff.mp h
    obtain ⟨_, hok⟩ := logged_eq_ok hok
    exact absurd hok (hnever _ _ _)

end Evidence

/-- Tampering dominates: a request whose receipts are not one chain under the manifest's receipt keys,
whatever was retired, or whose checkpoint names a key of the external keyring that does not verify it,
is answered `INVALID`, whatever else was supplied. -/
theorem tampering_dominates (P : EvidencePlatform) (clock : String) (o : VerifyEvidenceOptions)
    (text : List Char) (s : Evidence.Setup) (hread : Evidence.admitted P clock o text = .ok s)
    (h : (∀ man keys, s.doc "keyManifest" = some man → man.get? "keys" = some (.arr keys) →
        ¬ Evidence.ReceiptsVerify P.toIntrinsics keys s.receipts) ∨
      ∃ cp, s.doc "checkpoint" = some cp ∧
        Evidence.Forged P.toIntrinsics s.checkpointKeyring cp) :
    (verifyEvidence P clock o text).verdict = .INVALID := by
  have hnever : ∀ tenant trust r r', Evidence.step1_holdEnvelope P s tenant r = (.ok trust, r') →
      ∀ r anchoring r', Evidence.runCheckpointStep P s trust r ≠ (.ok anchoring, r') := by
    intro tenant trust r r' h1 r₁ anchoring r₂ h17
    obtain ⟨del, man, env, hrooted⟩ := Evidence.step1_eq_ok h1
    rcases h with hreceipts | ⟨cp, hcp, hforged⟩
    · exact hreceipts man trust.manifestKeys hrooted.manifest hrooted.manifestKeys
        (Evidence.receiptsVerify_of_checkpointStep h17)
    · refine Evidence.not_forged_of_checkpointStep h17 ?_
      rw [hcp]
      exact hforged
  unfold verifyEvidence
  rw [hread]
  simp only [Evidence.judged]
  split
  · rename_i anchoring r hrun
    obtain ⟨tenant, trust, decision, hpassed⟩ := Evidence.pipeline_eq_ok hrun
    obtain ⟨r₀, r₁, h1⟩ := hpassed.step1
    obtain ⟨r₂, r₃, h17⟩ := hpassed.step17
    exact absurd h17 (hnever tenant trust r₀ r₁ h1 _ _ _)
  · rename_i failing r hrun
    exact (Evidence.stopsIn_pipeline hnever {} rfl).1 failing r hrun

namespace Evidence.SampleBundle

/-! ### The approval with a checkpoint nobody signed -/

/-- Every signature of the approval verifies, but the checkpoint's. -/
def forgedPlatform : EvidencePlatform :=
  platform (digests approved approvedDeferred approvedAllowed approvedCheckpoint)
    (signatures approved retiredKey).dropLast

lemma admitted_forged : ∃ s, admitted forgedPlatform "" options approvedText = .ok s := by
  have hread : (admitted forgedPlatform "" options approvedText).isOk = true := by
    rw [admitted, parse_approved]
    decide +kernel
  cases h : admitted forgedPlatform "" options approvedText with
  | error e => rw [h] at hread; cases hread
  | ok s => exact ⟨s, rfl⟩

lemma forged_forged : Forged forgedPlatform.toIntrinsics witnesses approvedCheckpoint := by
  refine ⟨_, rfl, "witness-1", witnessKey, by decide, by decide, ?_⟩
  have hall : (checkpointHashInput approvedCheckpoint).all (fun input =>
      !forgedPlatform.verifyEd25519 witnessKey
        (forgedPlatform.signingMessage Verify.CHECKPOINT_SIG_DOMAIN input)
        (Receipt.sigValue approvedCheckpoint)) = true := by decide
  intro input hinput
  rw [hinput] at hall
  simpa using hall

end Evidence.SampleBundle

open Evidence Evidence.SampleBundle in
/-- A forged checkpoint makes the approval invalid. -/
theorem tampering_dominates_forged :
    (verifyEvidence forgedPlatform "" options approvedText).verdict = .INVALID := by
  obtain ⟨s, hs⟩ := admitted_forged
  have hread := admitted_eq_ok hs
  have hbundle : s.bundle = approvedBundle := ok_unique hread.bundle parse_approved
  have hkeyring : s.checkpointKeyring = witnesses :=
    Option.some.inj (hread.checkpointKeyring.symm.trans (by decide))
  refine tampering_dominates forgedPlatform "" options approvedText s hs
    (.inr ⟨approvedCheckpoint, ?_, ?_⟩)
  · unfold Setup.doc
    rw [hbundle]
    rfl
  · rw [hkeyring]
    exact forged_forged

end NoaMandate
