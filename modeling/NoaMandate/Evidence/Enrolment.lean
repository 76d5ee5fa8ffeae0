import NoaMandate.Evidence.Anchor

/-!
# Enrolment registries buy nothing

A caller may hand the verifier registries that enrol action classes for settlement evidence.  Two
runs are compared here: one with the registries and one without them.

The registries are read in steps 10 and 11 only, so for an outcome that is not an attempt the runs
are the same run (`pipeline_withRegistries`).  For an attempt, every way out of the selection
refuses: a registry that is not consulted, a contradiction, a gap, and also the one way on which
the class is found enrolled, because an enrolled class then owes a witness that nothing offline
supplies (`not_passed_of_registries`).
-/

namespace NoaMandate

open Pipeline

namespace Evidence

variable {P : EvidencePlatform} {s : Setup} {tenant : String} {trust : Trust} {S : StepName}

/-! ## Every way out of the selection refuses -/

variable {R : Report → Prop}

lemma refuseEnrolment_leaves {evaluation : EnrolmentEvaluation}
    {failure : StepFailure} : Check.Leaves R (refuseEnrolment evaluation failure) :=
  .bind fun _ => .error

lemma refuseSettlement_leaves {α : Type} {dimension : SettlementDimension} {failure : StepFailure} :
    Check.Leaves R (refuseSettlement dimension failure : EvidenceCheck α) :=
  .bind fun _ => .error

/-- The selected registries are passed only by finding the class enrolled. -/
lemma judgeRegistries_leaves {selected : List SelectedRegistry} :
    Check.Leaves (·.enrolment = .ENROLLED) (judgeRegistries P s tenant S selected) := by
  unfold judgeRegistries
  split
  · exact refuseEnrolment_leaves
  split
  · exact refuseEnrolment_leaves
  refine .ite refuseEnrolment_leaves ?_
  dsimp only
  split
  · exact refuseEnrolment_leaves
  refine .ite refuseEnrolment_leaves ?_
  intro r u r' h
  obtain rfl := Check.note_eq_ok_iff.mp h
  rfl

lemma checkEnrolment_leaves (hne : s.enrolmentRegistries ≠ []) :
    Check.Leaves (·.enrolment = .ENROLLED) (checkEnrolment P s tenant trust S) := by
  unfold checkEnrolment
  rw [if_neg (by simpa using hne)]
  split
  · exact refuseEnrolment_leaves
  · exact .ite refuseEnrolment_leaves judgeRegistries_leaves

/-- An enrolled class owes what nothing offline supplies. -/
lemma checkSettlementRequired_leaves {facts : Option SettlementFacts} :
    Check.Leaves R (checkSettlementRequired s S facts) := by
  unfold checkSettlementRequired
  dsimp only
  split
  · exact .ite refuseSettlement_leaves (.ite refuseSettlement_leaves
      (.ite refuseSettlement_leaves refuseSettlement_leaves))
  · exact refuseSettlement_leaves

/-- With registries, either the selection refuses or what is owed does. -/
lemma enrolled_leaves {owed : EvidenceCheck Unit}
    (howed : Check.Leaves R owed) (hne : s.enrolmentRegistries ≠ []) : Check.Leaves R (do
      checkEnrolment P s tenant trust S
      if (← Check.record).enrolment = .ENROLLED then owed) := by
  intro r u r' h
  simp only [Check.bind_eq_ok_iff, Check.record_eq_ok_iff] at h
  obtain ⟨_, r1, henrol, _, _, ⟨rfl, rfl⟩, h⟩ := h
  rw [if_pos (checkEnrolment_leaves hne _ _ _ henrol)] at h
  exact howed _ _ _ h

lemma step10_leaves (hne : s.enrolmentRegistries ≠ [])
    (hout : s.outcome = .EXECUTED) : Check.Leaves R (step10_executed P s tenant trust) := by
  rw [step10_executed, if_pos hout]
  exact .bind fun _ => .bind fun _ => .bind fun _ => .bind fun _ => .bind fun _ => .bind fun _ =>
    enrolled_leaves checkSettlementRequired_leaves hne

lemma step11_leaves (hne : s.enrolmentRegistries ≠ []) (hout : s.outcome = .EXECUTION_FAILED) :
    Check.Leaves R (step11_executionFailed P s tenant trust) := by
  rw [step11_executionFailed, if_pos hout]
  exact .bind fun _ => .bind fun _ => .bind fun _ => .bind fun _ => .bind fun _ => .bind fun _ =>
    enrolled_leaves refuseSettlement_leaves hne

/-- No attempt passes with registries. -/
lemma not_passed_of_registries {decision : Option Json} {anchoring : Anchoring}
    (hne : s.enrolmentRegistries ≠ []) (hpositive : s.outcome.positive = true) :
    ¬ Passed P s tenant trust decision anchoring := by
  intro hpassed
  cases hout : s.outcome <;> rw [hout] at hpositive <;> try cases hpositive
  · obtain ⟨r, r', h10⟩ := hpassed.step10
    exact step10_leaves (R := fun _ => False) hne hout _ _ _ h10
  · obtain ⟨r, r', h11⟩ := hpassed.step11
    exact step11_leaves (R := fun _ => False) hne hout _ _ _ h11

/-! ## Nothing else reads the registries -/

/-- The request with other registries and another audience. -/
def Setup.withRegistries (s : Setup) (registries : List (List Char)) (audience : Option String) :
    Setup :=
  { s with enrolmentRegistries := registries, audience }

variable {registries : List (List Char)} {audience : Option String}

lemma step10_skipped (hout : s.outcome.positive = false) :
    step10_executed P s tenant trust = pure () := by
  rw [step10_executed, if_neg (by rintro h; rw [h] at hout; cases hout)]

lemma step11_skipped (hout : s.outcome.positive = false) :
    step11_executionFailed P s tenant trust = pure () := by
  rw [step11_executionFailed, if_neg (by rintro h; rw [h] at hout; cases hout)]

lemma checkUsedKids_withRegistries {keyring : List (String × KeyEntry)} {nowMs : Int}
    (kids : List String) : checkUsedKids P (s.withRegistries registries audience) keyring nowMs kids =
      checkUsedKids P s keyring nowMs kids := by
  induction kids with
  | nil => rfl
  | cons kid kids ih =>
    simp only [checkUsedKids, ih]
    rfl

lemma step18_withRegistries {keyring : List (String × KeyEntry)} {reconciled : Bool} :
    step18_temporalAuthorization P (s.withRegistries registries audience) keyring reconciled =
      step18_temporalAuthorization P s keyring reconciled :=
  bind_congr fun _ => checkUsedKids_withRegistries _

lemma runTemporalStep_withRegistries {anchoring : Anchoring} :
    runTemporalStep P (s.withRegistries registries audience) trust anchoring =
      runTemporalStep P s trust anchoring := by
  unfold runTemporalStep historicalTemporalAuthorization
  simp only [step18_withRegistries]
  rfl

/-- The registries take no part in judging a bundle that is not about an attempt. -/
lemma pipeline_withRegistries (hout : s.outcome.positive = false) :
    pipeline P (s.withRegistries registries audience) = pipeline P s := by
  have hout' : (s.withRegistries registries audience).outcome.positive = false := hout
  unfold pipeline
  simp only [step10_skipped hout, step11_skipped hout, step10_skipped hout', step11_skipped hout',
    runTemporalStep_withRegistries]
  -- each remaining step is the same step: it reads neither of the two fields
  exact bind_congr fun tenant => bind_congr fun trust => bind_congr fun _ => bind_congr fun _ =>
    bind_congr fun decision => bind_congr fun _ => bind_congr fun _ => bind_congr fun _ =>
    bind_congr fun _ => bind_congr fun _ => bind_congr fun _ => bind_congr fun _ =>
    bind_congr fun _ => bind_congr fun _ => bind_congr fun _ => bind_congr fun _ =>
    bind_congr fun anchoring => bind_congr fun _ => bind_congr fun _ => rfl

lemma judged_withRegistries (hout : s.outcome.positive = false) :
    judged P (s.withRegistries registries audience) = judged P s := by
  unfold judged
  rw [pipeline_withRegistries hout]
  rfl

/-- The registries take no part in reading a request. -/
lemma admitted_withRegistries (clock : String) (o : VerifyEvidenceOptions) (text : List Char) :
    admitted P clock { o with enrolmentRegistries := registries, audience } text =
      (admitted P clock o text).map (·.withRegistries registries audience) := by
  unfold admitted
  simp only [map_bind]
  rfl

/-! ## The answers -/

/-- A refused step never gives a positive answer. -/
lemma verdict_refused (failing : StepFailure) (r : Report) :
    (refused s failing r).verdict ≠ .VALID_FULL_CHAIN ∧
      (refused s failing r).verdict ≠ .VALID_SEGMENT_ONLY ∧
      (refused s failing r).verdict ≠ .VALID_FROM_TRUSTED_ANCHOR := by
  simp only [refused, EvidenceVerdict.ofCode]
  split
  · simp
  · split <;> simp

lemma judged_of_registries (hne : s.enrolmentRegistries ≠ []) (hpositive : s.outcome.positive = true) :
    ∃ failing r, judged P s = refused s failing r := by
  unfold judged
  rcases hrun : pipeline P s {} with ⟨failing | anchoring, r⟩
  · exact ⟨failing, r, rfl⟩
  · obtain ⟨tenant, trust, decision, hpassed⟩ := pipeline_eq_ok hrun
    exact absurd hpassed (not_passed_of_registries hne hpositive)

variable {clock : String} {o : VerifyEvidenceOptions} {text : List Char}

lemma verifyEvidence_withRegistries
    (hout : ∀ s, admitted P clock o text = .ok s → s.outcome.positive = false) :
    verifyEvidence P clock { o with enrolmentRegistries := registries, audience } text =
      verifyEvidence P clock o text := by
  unfold verifyEvidence
  rw [admitted_withRegistries]
  cases hread : admitted P clock o text with
  | error res => rfl
  | ok s => exact judged_withRegistries (hout s hread)

/-- With registries, a request about an attempt is refused when it is read or at one of its steps. -/
lemma verdict_of_registries (hne : registries ≠ [])
    (hout : ∀ s, admitted P clock o text = .ok s → s.outcome.positive = true) :
    let supplied := verifyEvidence P clock
      { o with enrolmentRegistries := registries, audience } text
    supplied.verdict ≠ .VALID_FULL_CHAIN ∧ supplied.verdict ≠ .VALID_SEGMENT_ONLY ∧
      supplied.verdict ≠ .VALID_FROM_TRUSTED_ANCHOR := by
  simp only [verifyEvidence, admitted_withRegistries]
  cases hread : admitted P clock o text with
  | error res =>
    show res.verdict ≠ _ ∧ res.verdict ≠ _ ∧ res.verdict ≠ _
    rcases admitted_eq_error hread with hv | hv <;> simp [hv]
  | ok s =>
    have hpositive : (s.withRegistries registries audience).outcome.positive = true := hout s hread
    obtain ⟨failing, r, hjudged⟩ := judged_of_registries (P := P) hne hpositive
    show (judged P (s.withRegistries registries audience)).verdict ≠ _ ∧
      (judged P (s.withRegistries registries audience)).verdict ≠ _ ∧
      (judged P (s.withRegistries registries audience)).verdict ≠ _
    rw [hjudged]
    exact verdict_refused failing r

lemma positive_iff {out : EvidenceOutcome} :
    out.positive = true ↔ out = .EXECUTED ∨ out = .EXECUTION_FAILED := by
  simp [EvidenceOutcome.positive]

end Evidence

open Evidence in
/-- Registries never buy acceptance.  What is accepted with them is accepted without them, and says
the same; an attempt is never accepted with them; and on anything else, a bundle that cannot be read
included, they change nothing. -/
theorem registries_never_buy_acceptance (P : EvidencePlatform) (clock : String)
    (o : VerifyEvidenceOptions) (text : List Char) (registries : List (List Char))
    (audience : Option String) (hne : registries ≠ []) :
    let supplied := verifyEvidence P clock
      { o with enrolmentRegistries := registries, audience := audience } text
    let plain := verifyEvidence P clock { o with enrolmentRegistries := [], audience := none } text
    (supplied.verdict = .VALID_FULL_CHAIN ∨ supplied.verdict = .VALID_SEGMENT_ONLY →
      plain.verdict = supplied.verdict ∧ plain.outcome = supplied.outcome ∧
        plain.dimensions = supplied.dimensions) ∧
    (∀ bundle, parseDocument text "bundle" = .ok bundle →
      outcomeOf bundle = some .EXECUTED ∨ outcomeOf bundle = some .EXECUTION_FAILED →
        supplied.verdict ≠ .VALID_FULL_CHAIN ∧ supplied.verdict ≠ .VALID_SEGMENT_ONLY ∧
          supplied.verdict ≠ .VALID_FROM_TRUSTED_ANCHOR) ∧
    ((∀ bundle, parseDocument text "bundle" = .ok bundle →
      outcomeOf bundle ≠ some .EXECUTED ∧ outcomeOf bundle ≠ some .EXECUTION_FAILED) →
        supplied = plain) := by
  intro supplied plain
  have hattempt : ∀ bundle, parseDocument text "bundle" = .ok bundle →
      outcomeOf bundle = some .EXECUTED ∨ outcomeOf bundle = some .EXECUTION_FAILED →
        supplied.verdict ≠ .VALID_FULL_CHAIN ∧ supplied.verdict ≠ .VALID_SEGMENT_ONLY ∧
          supplied.verdict ≠ .VALID_FROM_TRUSTED_ANCHOR := by
    intro bundle hbundle hout
    refine verdict_of_registries hne fun s hread => positive_iff.mpr ?_
    have hadmitted := admitted_eq_ok hread
    obtain rfl := ok_unique hbundle hadmitted.bundle
    simpa [hadmitted.outcome] using hout
  have hother : (∀ bundle, parseDocument text "bundle" = .ok bundle →
      outcomeOf bundle ≠ some .EXECUTED ∧ outcomeOf bundle ≠ some .EXECUTION_FAILED) →
        supplied = plain := by
    intro hout
    refine @verifyEvidence_withRegistries P registries audience clock
      { o with enrolmentRegistries := [], audience := none } text fun s hread => ?_
    have hadmitted := admitted_eq_ok hread
    obtain ⟨hexec, hfail⟩ := hout s.bundle hadmitted.bundle
    rw [hadmitted.outcome] at hexec hfail
    rw [← Bool.not_eq_true, positive_iff]
    simpa using not_or.mpr ⟨hexec, hfail⟩
  refine ⟨fun hvalid => ?_, hattempt, hother⟩
  -- an accepted bundle is not about an attempt, so the two answers are one answer
  have hsame : supplied = plain := by
    refine hother fun bundle hbundle => not_or.mp fun hout => ?_
    obtain ⟨hfull, hsegment, -⟩ := hattempt bundle hbundle hout
    exact hvalid.elim hfull hsegment
  rw [hsame]
  exact ⟨rfl, rfl, rfl⟩

open Evidence Evidence.SampleBundle in
/-- An approval is accepted also beside a registry that is not a document at all. -/
theorem registries_never_buy_acceptance_approved :
    (verifyEvidence approvedPlatform "" { options with enrolmentRegistries := [[]] }
      approvedText).verdict = .VALID_FULL_CHAIN ∧
    verifyEvidence approvedPlatform "" { options with enrolmentRegistries := [[]] } approvedText =
      verifyEvidence approvedPlatform "" options approvedText := by
  obtain ⟨-, -, hother⟩ :=
    registries_never_buy_acceptance approvedPlatform "" options approvedText [[]] none (by simp)
  have hsame := hother fun bundle hbundle => by
    obtain rfl := ok_unique hbundle parse_approved
    decide +kernel
  refine ⟨?_, hsame⟩
  rw [show verifyEvidence approvedPlatform "" { options with enrolmentRegistries := [[]] }
    approvedText = verifyEvidence approvedPlatform "" options approvedText from hsame]
  exact verdict_approved

end NoaMandate
