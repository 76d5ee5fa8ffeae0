import NoaMandate.Evidence.Verify
import NoaMandate.Artifacts.Accepted

/-!
# What an accepted bundle establishes

The pipeline is read once.  `Passed` says that every step passed, with the values they hand on;
below it each step is read as what it establishes, and nothing later unfolds one.
-/

namespace NoaMandate

open Pipeline
open SchemaEval (evalSchema shown)

namespace Evidence

variable {P : EvidencePlatform} {s : Setup} {tenant : String} {trust : Trust}
  {decision : Option Json} {anchoring : Anchoring} {r r' : Report}

/-! ## The pipeline -/

lemma logged_eq_ok {α : Type} {S : StepName} {x : EvidenceCheck α} {a : α}
    (h : logged S x r = (.ok a, r')) : ∃ r1, x r = (.ok a, r1) := by
  simp only [logged, Check.bind_eq_ok_iff, Check.attempt_eq_ok_iff] at h
  obtain ⟨res, r1, hx, hres⟩ := h
  cases res with
  | error e => simp at hres
  | ok b =>
    simp only [Check.ok_iff] at hres
    obtain ⟨_, _, -, rfl, -⟩ := hres
    exact ⟨r1, hx⟩

lemma orCheckpoint_eq_ok {x : EvidenceCheck Unit} {u : Unit}
    (h : orCheckpoint P s trust x r = (.ok u, r')) : x r = (.ok (), r') := by
  simp only [orCheckpoint, Check.bind_eq_ok_iff, Check.attempt_eq_ok_iff] at h
  obtain ⟨res, r1, hx, hres⟩ := h
  cases res with
  | ok _ =>
    obtain ⟨-, rfl⟩ := Check.pure_eq_ok_iff.mp hres
    exact hx
  | error e =>
    -- whatever the checkpoint step says, the run does not pass
    simp only [Check.bind_eq_ok_iff, Check.record_eq_ok_iff] at hres
    obtain ⟨_, _, -, hres⟩ := hres
    split at hres
    · simp only [Check.bind_eq_ok_iff, Check.attempt_eq_ok_iff] at hres
      obtain ⟨cp, _, -, hcp⟩ := hres
      cases cp <;> simp at hcp
    · simp at hres

/-- Every step passed. -/
structure Passed (P : EvidencePlatform) (s : Setup) (tenant : String) (trust : Trust)
    (decision : Option Json) (anchoring : Anchoring) : Prop where
  step0 : step0_tenantEquality s = .ok tenant
  step1 : ∃ r r', step1_holdEnvelope P s tenant r = (.ok trust, r')
  step2 : ∃ r r', step2_envelopeBinding P s r = (.ok (), r')
  step3 : ∃ r r', step3_holdResolution P s trust r = (.ok (), r')
  step4 : step4_decision P s tenant trust = .ok decision
  step5 : ∃ r r', step5_approverRole s trust decision r = (.ok (), r')
  step6 : ∃ r r', step6_verdictReceiptBinding s r = (.ok (), r')
  step7 : ∃ r r', step7_denied s r = (.ok (), r')
  step8 : ∃ r r', step8_expired s r = (.ok (), r')
  step9 : ∃ r r', step9_cancelled s r = (.ok (), r')
  step10 : ∃ r r', step10_executed P s tenant trust r = (.ok (), r')
  step11 : ∃ r r', step11_executionFailed P s tenant trust r = (.ok (), r')
  step12 : ∃ r r', step12_unknown P s tenant trust r = (.ok (), r')
  step13 : ∃ r r', step13_grantExpired P s tenant trust r = (.ok (), r')
  step14 : ∃ r r', step14_approvedNoExec s r = (.ok (), r')
  step17 : ∃ r r', runCheckpointStep P s trust r = (.ok anchoring, r')
  step15 : step15_negativeOutcomePrinciple s anchoring = .ok ()
  step16 : step16_checkpointFreshness P s = .ok ()
  step18 : ∃ r r', runTemporalStep P s trust anchoring r = (.ok (), r')

lemma pipeline_eq_ok (h : pipeline P s r = (.ok anchoring, r')) :
    ∃ tenant trust decision, Passed P s tenant trust decision anchoring := by
  simp only [pipeline, Check.ok_iff] at h
  obtain ⟨tenant, _, h0, trust, _, h1, _, _, h2, _, _, h3, decision, _, h4, _, _, h5, _, _, h6, _, _,
    h7, _, _, h8, _, _, h9, _, _, h10, _, _, h11, _, _, h12, _, _, h13, _, _, h14, _, _, -, a, _, h17,
    _, _, h15, _, _, h16, _, _, h18, rfl, -⟩ := h
  have lifted : ∀ {α : Type} {S : StepName} {y : Except StepFailure α} {a : α} {r r' : Report},
      logged S (liftM y) r = (.ok a, r') → y = .ok a := fun hl => by
    obtain ⟨_, hl⟩ := logged_eq_ok hl
    exact (Check.lift_eq_ok_iff.mp hl).1
  exact ⟨tenant, trust, decision,
    { step0 := lifted h0
      step1 := ⟨_, logged_eq_ok h1⟩
      step2 := ⟨_, logged_eq_ok h2⟩
      step3 := ⟨_, logged_eq_ok h3⟩
      step4 := lifted h4
      step5 := ⟨_, logged_eq_ok h5⟩
      step6 := ⟨_, logged_eq_ok h6⟩
      step7 := ⟨_, logged_eq_ok h7⟩
      step8 := ⟨_, logged_eq_ok h8⟩
      step9 := ⟨_, logged_eq_ok h9⟩
      step10 := ⟨_, logged_eq_ok (orCheckpoint_eq_ok h10)⟩
      step11 := ⟨_, logged_eq_ok (orCheckpoint_eq_ok h11)⟩
      step12 := ⟨_, logged_eq_ok h12⟩
      step13 := ⟨_, logged_eq_ok h13⟩
      step14 := ⟨_, logged_eq_ok h14⟩
      step17 := ⟨_, logged_eq_ok h17⟩
      step15 := lifted h15
      step16 := lifted h16
      step18 := ⟨_, logged_eq_ok h18⟩ }⟩

/-! ## The request -/

/-- A request that was read. -/
structure Admitted (P : EvidencePlatform) (clock : String) (o : VerifyEvidenceOptions)
    (text : List Char) (s : Setup) : Prop where
  bundle : parseDocument text "bundle" = .ok s.bundle
  object : s.bundle.isObj = true
  contained : evalSchema P.toSchemaPlatform CONTAINER_SCHEMA s.bundle = []
  outcome : outcomeOf s.bundle = some s.outcome
  rootKeyring : s.rootKeyring = asRootKeyEntryMap o.tenantRoot
  checkpointKeyring : trustDocument o.checkpointKeyring = some s.checkpointKeyring
  purpose : purposeOf o.purpose = some s.purpose
  now : s.now = o.now.getD clock
  maxAgeMs : s.maxAgeMs = o.maxAgeMs.getD DEFAULT_MAX_AGE_MS

variable {text : List Char} {o : VerifyEvidenceOptions}

variable {clock k : String}

lemma admitted_eq_ok (h : admitted P clock o text = .ok s) : Admitted P clock o text s := by
  simp only [admitted, ok_iff, Bool.not_eq_false', List.isEmpty_iff] at h
  obtain ⟨purpose, hpurpose, bundle, hbundle, _, hobj, _, -, keyring, hkeyring, _, hshape, _, -,
    outcome, houtcome, rfl⟩ := h
  exact ⟨hbundle, hobj, hshape, houtcome, rfl, hkeyring, hpurpose, rfl, rfl⟩

/-- A request that cannot be judged is never answered positively. -/
lemma admitted_eq_error {res : VerifyEvidenceResult} (h : admitted P clock o text = .error res) :
    res.verdict = .UNVERIFIED ∨ res.verdict = .INVALID := by
  have herrors : ErrorsIn (fun res : VerifyEvidenceResult =>
      res.verdict = .UNVERIFIED ∨ res.verdict = .INVALID) (admitted P clock o text) := by
    unfold admitted
    refine .bind (.demand (.inl rfl)) fun purpose => .bind (.mapError fun _ => .inr rfl) fun bundle =>
      .bind (.refuse (.inr rfl)) fun _ => .bind (.refuse (.inl rfl)) fun _ =>
      .bind (.demand (.inl rfl)) fun keyring => .bind (.refuse (.inr rfl)) fun _ =>
      .bind (.refuse (.inr rfl)) fun _ => .bind (.demand (.inr rfl)) fun outcome => .ok
  exact herrors res h

lemma ofCode_not_valid (code : StepCode) : EvidenceVerdict.ofCode code ≠ .VALID_FULL_CHAIN ∧
    EvidenceVerdict.ofCode code ≠ .VALID_SEGMENT_ONLY := by
  unfold EvidenceVerdict.ofCode
  split
  · simp
  · split <;> simp

/-- A positive answer means that every step passed; a full one about an attempt, that the checkpoint
closes the chain. -/
lemma verifyEvidence_valid (h : (verifyEvidence P clock o text).verdict = .VALID_FULL_CHAIN ∨
      (verifyEvidence P clock o text).verdict = .VALID_SEGMENT_ONLY) :
    ∃ s tenant trust decision anchoring, Admitted P clock o text s ∧
      Passed P s tenant trust decision anchoring ∧
      ((verifyEvidence P clock o text).verdict = .VALID_FULL_CHAIN → s.outcome.positive = true →
        anchoring.reconciled = true) := by
  unfold verifyEvidence at h ⊢
  cases hread : admitted P clock o text with
  | error res =>
    rw [hread] at h
    rcases admitted_eq_error hread with hv | hv <;> simp [hv] at h
  | ok s =>
    rw [hread] at h
    simp only [judged] at h ⊢
    rcases hrun : pipeline P s {} with ⟨failing | anchoring, r⟩ <;> rw [hrun] at h
    · simp [refused, ofCode_not_valid] at h
    · obtain ⟨tenant, trust, decision, hpassed⟩ := pipeline_eq_ok hrun
      refine ⟨s, tenant, trust, decision, anchoring, admitted_eq_ok hread, hpassed, ?_⟩
      intro hfull hpositive
      by_contra hrec
      simp [accepted, hpositive, hrec] at hfull

/-! ## Members of a contained bundle -/

lemma container_member {w t : Json}
    (h : evalSchema P.toSchemaPlatform CONTAINER_SCHEMA s.bundle = [])
    (hprop : CONTAINER_SCHEMA.path? ["properties", k] = some t) (hk : s.doc k = some w) :
    SchemaEval.Admits P.toSchemaPlatform CONTAINER_SCHEMA t w :=
  (SchemaEval.admits_of_evalSchema h).member (by decide +kernel) hprop hk

/-- The documents of a contained bundle are objects. -/
lemma container_isObj {w : Json} (h : evalSchema P.toSchemaPlatform CONTAINER_SCHEMA s.bundle = [])
    (hprop : CONTAINER_SCHEMA.path? ["properties", k] = some (Schemas.typed "object"))
    (hk : s.doc k = some w) : w.isObj = true :=
  (container_member h hprop hk).type rfl rfl

/-! ## Step 0 -/

lemma checkUnion_eq_ok {b : Json} {outcome : EvidenceOutcome} {u : Unit} :
    ∀ fields : List String, checkUnion b outcome fields = .ok u → ∀ field ∈ fields,
      (b.get? field).isSome = true →
        field ∈ OUTCOME_ARTIFACT_UNION outcome ∨ field ∈ STEP_OWNED_ABSENCE outcome := by
  refine forall_of_checks fun field fields h => ?_
  simp only [checkUnion, ok_iff] at h
  obtain ⟨_, hf, hrest⟩ := h
  refine ⟨fun hsome => ?_, hrest⟩
  by_contra hnot
  simp_all

/-- The optional members of a bundle are those its outcome defines, and those its own step forbids. -/
lemma Passed.union (h : Passed P s tenant trust decision anchoring) {field : String}
    (hfield : field ∈ OPTIONAL_ARTIFACT_FIELDS) (hsome : (s.doc field).isSome = true) :
    field ∈ OUTCOME_ARTIFACT_UNION s.outcome ∨ field ∈ STEP_OWNED_ABSENCE s.outcome := by
  have h0 := h.step0
  simp only [step0_tenantEquality, bind_eq_ok_iff] at h0
  obtain ⟨_, hunion, -⟩ := h0
  exact checkUnion_eq_ok _ hunion field hfield hsome

/-! ## Artifacts -/

/-- The document was accepted under the keyring. -/
def AcceptedUnder (P : EvidencePlatform) (keyring : List (String × KeyEntry)) (doc : Json) : Prop :=
  ∃ ctx spec m, ctx.schemas = ARTIFACT_SCHEMAS ∧ ctx.keyring = keyring ∧
    Artifact.Accepted P.toArtifactPlatform ctx doc spec m

lemma verifySide_eq_ok {doc : Json} {ctx : VerifyContext} {u : Unit}
    (h : verifySide P doc ctx = .ok u) :
    ∃ spec m, Artifact.Accepted P.toArtifactPlatform ctx doc spec m := by
  unfold verifySide at h
  split at h
  · cases h
  · exact Artifact.verifyArtifact_eq_ok h

/-- A document with a member that only one kind admits, read as a document of that kind. -/
lemma AcceptedUnder.of_only {keyring : List (String × KeyEntry)} {doc w : Json} {only : String}
    (h : AcceptedUnder P keyring doc) (honly : Artifact.OnlyKindWith k only ARTIFACT_SCHEMAS)
    (hk : doc.get? k = some w) : ∃ ctx m, ctx.schemas = ARTIFACT_SCHEMAS ∧ ctx.keyring = keyring ∧
      Artifact.Accepted P.toArtifactPlatform ctx doc only m := by
  obtain ⟨ctx, spec, m, hschemas, hkeyring, haccepted⟩ := h
  obtain rfl := haccepted.spec_eq (hschemas ▸ honly) hk
  exact ⟨ctx, m, hschemas, hkeyring, haccepted⟩

/-! ## Step 1 -/

/-- What step 1 establishes of the documents the trust comes from. -/
structure Rooted (P : EvidencePlatform) (s : Setup) (trust : Trust) (del man env : Json) : Prop where
  delegation : s.doc "keyDelegation" = some del
  manifest : s.doc "keyManifest" = some man
  envelope : s.doc "holdEnvelope" = some env
  delegationAccepted : AcceptedUnder P s.rootKeyring del
  permission : Json.str "key-manifest-sign" ∈ elements (del.get? "permissions")
  /-- The verifier's own time is inside the delegation's window. -/
  window : ∃ opens now closes, parseTime P.toIntrinsics (del.get? "validFrom") = some opens ∧
    P.dateParse s.now = some now ∧ parseTime P.toIntrinsics (del.get? "expiresAt") = some closes ∧
    opens ≤ now ∧ now ≤ closes
  delegated : trust.delegation =
    { delegatedKid := shown (del.get? "delegatedKid")
      delegatedPublicKey := shown (del.get? "delegatedPublicKey")
      permissions := (elements (del.get? "permissions")).filterMap Json.asStr?
      validFrom := shown (del.get? "validFrom")
      expiresAt := shown (del.get? "expiresAt") }
  manifestAccepted : AcceptedUnder P trust.resolvedKeyring man
  manifestKid : man.path? ["sig", "kid"] = some (.str trust.delegation.delegatedKid)
  manifestKeys : man.get? "keys" = some (.arr trust.manifestKeys)
  resolved : trust.resolvedKeyring =
    buildResolvedKeyring s.rootKeyring trust.delegation trust.manifestKeys
  envelopeAccepted : AcceptedUnder P trust.resolvedKeyring env

lemma before_eq_false {a b : Int} (h : Artifact.before (some a) (some b) = false) : b ≤ a := by
  simpa [Artifact.before] using h

lemma within_eq_true {t lo hi : Option Int} (h : Artifact.within t lo hi = true) :
    ∃ a b, lo = some a ∧ hi = some b := by
  unfold Artifact.within at h
  split at h
  · exact ⟨_, _, rfl, rfl⟩
  · cases h

/-- The authorization a delegation's window gives is current only inside the window. -/
lemma authorization_valid {now a b : Int}
    (h : (if Artifact.before (some now) (some a) then Authorization.NOT_YET_VALID_NOW
      else if Artifact.before (some b) (some now) then .EXPIRED_NOW else .VALID_NOW) =
        .VALID_NOW) : a ≤ now ∧ now ≤ b := by
  split at h
  · cases h
  · rename_i hfrom
    split at h
    · cases h
    · rename_i hto
      exact ⟨before_eq_false (by simpa using hfrom), before_eq_false (by simpa using hto)⟩

lemma checkDelegation_eq_ok {receivedAt : String} {del : Json} {delegation : DelegationDoc}
    (h : checkDelegation P s tenant receivedAt del r = (.ok delegation, r')) :
    AcceptedUnder P s.rootKeyring del ∧
      Json.str "key-manifest-sign" ∈ elements (del.get? "permissions") ∧
      (∃ opens now closes, parseTime P.toIntrinsics (del.get? "validFrom") = some opens ∧
        P.dateParse s.now = some now ∧
        parseTime P.toIntrinsics (del.get? "expiresAt") = some closes ∧
        opens ≤ now ∧ now ≤ closes) ∧
      delegation =
        { delegatedKid := shown (del.get? "delegatedKid")
          delegatedPublicKey := shown (del.get? "delegatedPublicKey")
          permissions := (elements (del.get? "permissions")).filterMap Json.asStr?
          validFrom := shown (del.get? "validFrom")
          expiresAt := shown (del.get? "expiresAt") } := by
  simp only [checkDelegation, Check.ok_iff, ok_iff, Bool.not_eq_false', List.contains_iff_mem] at h
  obtain ⟨_, _, ⟨hv, -⟩, _, _, ⟨hperm, -⟩, _, _, ⟨hwithin, -⟩, _, _, ⟨hnow, -⟩, _, _, -, _, _,
    ⟨hauth, -⟩, rfl, -⟩ := h
  obtain ⟨spec, m, haccepted⟩ := verifySide_eq_ok hv
  obtain ⟨opens, closes, hopens, hcloses⟩ := within_eq_true hwithin
  obtain ⟨now, hnow⟩ := Option.isSome_iff_exists.mp (Option.isNone_eq_false_iff.mp hnow)
  rw [hopens, hcloses, hnow, decide_eq_false_iff_not, not_not] at hauth
  obtain ⟨hle, hge⟩ := authorization_valid hauth
  exact ⟨⟨_, spec, m, rfl, rfl, haccepted⟩, hperm, ⟨opens, now, closes, hopens, hnow, hcloses, hle, hge⟩,
    rfl⟩

lemma checkManifest_eq_ok {receivedAt : String} {delegation : DelegationDoc} {man : Json}
    (h : checkManifest P s tenant receivedAt delegation man r = (.ok trust, r')) :
    AcceptedUnder P trust.resolvedKeyring man ∧
      man.path? ["sig", "kid"] = some (.str delegation.delegatedKid) ∧
      man.get? "keys" = some (.arr trust.manifestKeys) ∧ trust.delegation = delegation ∧
      trust.resolvedKeyring = buildResolvedKeyring s.rootKeyring delegation trust.manifestKeys := by
  simp only [checkManifest, Check.ok_iff, ok_iff] at h
  obtain ⟨_, _, ⟨hkeys, -⟩, _, _, -, _, _, -, _, _, ⟨hv, -⟩, _, _, -, h⟩ := h
  obtain ⟨spec, m, haccepted⟩ := verifySide_eq_ok hv
  have hlist : man.get? "keys" = some (.arr (elements (man.get? "keys"))) := by
    split at hkeys
    · rename_i xs hxs
      rw [hxs]
      rfl
    · cases hkeys
  have htrust : trust = ⟨delegation, elements (man.get? "keys"),
      buildResolvedKeyring s.rootKeyring delegation (elements (man.get? "keys"))⟩ := by
    split at h
    · simp at h
    · exact (Check.pure_eq_ok_iff.mp h).1.symm
  subst htrust
  exact ⟨⟨_, spec, m, rfl, rfl, haccepted⟩,
    haccepted.equals (["sig", "kid"], .str delegation.delegatedKid) (by simp), hlist, rfl, rfl⟩

lemma checkEnvelope_eq_ok {man env : Json} {u : Unit}
    (h : checkEnvelope P s tenant trust man env = .ok u) :
    AcceptedUnder P trust.resolvedKeyring env := by
  simp only [checkEnvelope, ok_iff] at h
  obtain ⟨_, hv, -⟩ := h
  obtain ⟨spec, m, haccepted⟩ := verifySide_eq_ok hv
  exact ⟨_, spec, m, rfl, rfl, haccepted⟩

lemma step1_eq_ok (h1 : step1_holdEnvelope P s tenant r = (.ok trust, r')) :
    ∃ del man env, Rooted P s trust del man env := by
  simp only [step1_holdEnvelope, Check.ok_iff, demand_eq_ok_iff, asObj_eq_some] at h1
  obtain ⟨del, _, ⟨⟨hdel, -⟩, -⟩, man, _, ⟨⟨hman, -⟩, -⟩, env, _, ⟨⟨henv, -⟩, -⟩, receivedAt, _, -,
    delegation, _, hd, trust', _, hm, _, _, ⟨he, -⟩, rfl, -⟩ := h1
  obtain ⟨hdaccepted, hperm, hwindow, hdelegation⟩ := checkDelegation_eq_ok hd
  obtain ⟨hmaccepted, hkid, hkeys, rfl, hresolved⟩ := checkManifest_eq_ok hm
  exact ⟨del, man, env, hdel, hman, henv, hdaccepted, hperm, hwindow, hdelegation, hmaccepted, hkid,
    hkeys, hresolved, checkEnvelope_eq_ok he⟩

lemma Passed.rooted (h : Passed P s tenant trust decision anchoring) :
    ∃ del man env, Rooted P s trust del man env := by
  obtain ⟨r, r', h1⟩ := h.step1
  exact step1_eq_ok h1

end Evidence

end NoaMandate
