import Mathlib.Data.Multiset.Fold
import NoaMandate.Federation.Quorum

/-!
# The verdict does not depend on how the anchors are presented

The class of a witness is a fold over its answers.  `combine` is commutative, associative and
idempotent, so the fold depends on which answers there are and on nothing else
(`get?_witnessClasses_congr`); and the rule reads the classes through their tally.
-/

namespace NoaMandate.Federation

/-! ## Merging the answers of a witness -/

instance : Std.Commutative combine := ⟨fun a b => by cases a <;> cases b <;> rfl⟩

instance : Std.Associative combine := ⟨fun a b c => by cases a <;> cases b <;> cases c <;> rfl⟩

instance : Std.IdempotentOp combine := ⟨fun a => by cases a <;> rfl⟩

variable {answers answers' : List (String × WClass)}

lemma get?_witnessClasses_congr (h : ∀ x, x ∈ answers ↔ x ∈ answers') (kid : String) :
    (witnessClasses answers).get? kid = (witnessClasses answers').get? kid := by
  simp only [witnessClasses, get?_foldl_recordAnswer, ← Multiset.coe_fold_l]
  conv_lhs => rw [← Multiset.fold_dedup_idem]
  conv_rhs => rw [← Multiset.fold_dedup_idem]
  refine congrArg _ (Multiset.dedup_ext.mpr fun o => ?_)
  simp only [Multiset.mem_coe, List.mem_map, List.mem_filter, h]

/-- Tables with the same lookups have the same values, each as often. -/
lemma tally_congr {classes classes' : Table String WClass}
    (h : ∀ kid, classes.get? kid = classes'.get? kid) (cls : WClass) :
    tally classes cls = tally classes' cls := by
  have hperm : classes.entries.Perm classes'.entries := by
    refine (List.perm_ext_iff_of_nodup classes.nodup.of_map classes'.nodup.of_map).mpr ?_
    rintro ⟨kid, c⟩
    rw [Table.mem_entries_iff, Table.mem_entries_iff, h]
  exact (hperm.map Prod.snd).count_eq cls

/-! ## Anchors that say nothing -/

/-- The anchor is left out: nothing is read of it, or what is read is unpinned, about another chain,
behind the head or wrongly signed. -/
def Ignored (I : Intrinsics) (head : ChainHead) (witnesses : List Json) (v : Json) : Prop :=
  ∀ a, readAnchor v = some a → (∀ w ∈ witnesses, w.get? "kid" ≠ some (.str a.kid)) ∨
    a.chain ≠ head.chain ∨ a.highestSeq < head.seq ∨ ∀ pub, ¬ SignedAnchor I witnesses v a pub

/-- Every anchor of the first list is in the second one, or is ignored.  An anchor is what is read of
it: the order of its members does not matter. -/
def Covers (I : Intrinsics) (head : ChainHead) (witnesses as bs : List Json) : Prop :=
  ∀ v ∈ as, Ignored I head witnesses v ∨ ∃ w ∈ bs, readAnchor w = readAnchor v

variable {I : Intrinsics} {head : ChainHead} {witnesses as bs : List Json}
  {pinned : Table String String} {window : Option Window}

lemma answerOf_of_ignored (hp : Pins witnesses pinned) {v : Json} (h : Ignored I head witnesses v) :
    answerOf I pinned head window v = none := by
  refine Option.eq_none_iff_forall_ne_some.mpr ?_
  rintro ⟨kid, cls⟩ hanswer
  obtain ⟨a, pub, hsigned, -, hchain, hclass⟩ := (answerOf_eq_some_iff hp).mp hanswer
  rcases h a hsigned.read with hunpinned | hother | hbehind | hunsigned
  · obtain ⟨w, hw, hkid, -⟩ := hsigned.pinned
    exact hunpinned w hw hkid
  · exact hother hchain
  · unfold classify at hclass
    rw [if_neg (by omega), if_neg (by omega)] at hclass
    cases hclass
  · exact hunsigned pub hsigned

lemma answers_subset (hp : Pins witnesses pinned) (h : Covers I head witnesses as bs) :
    as.filterMap (answerOf I pinned head window) ⊆ bs.filterMap (answerOf I pinned head window) := by
  intro x hx
  obtain ⟨v, hv, hanswer⟩ := List.mem_filterMap.mp hx
  rcases h v hv with hignored | ⟨w, hw, hread⟩
  · simp [answerOf_of_ignored hp hignored] at hanswer
  · refine List.mem_filterMap.mpr ⟨w, hw, ?_⟩
    rw [answerOf, hread]
    exact hanswer

end NoaMandate.Federation

namespace NoaMandate

open Federation

/-- The whole answer is the same for two lists of anchors that contain the same anchors, in any order
and as often as they please, but for anchors that are malformed, unpinned, about another chain,
behind the head or wrongly signed. -/
theorem completeness_of_presentation (I : Intrinsics)
    (headText anchorsText anchorsText' trustSetText : List Char) (freshness : Option FreshnessPolicy)
    (anchors anchors' : List Json)
    (hanchors : parseDocument anchorsText "anchors" = .ok (.arr anchors))
    (hanchors' : parseDocument anchorsText' "anchors" = .ok (.arr anchors'))
    (hsame : ∀ head witnesses q,
      Presented headText anchorsText trustSetText head anchors witnesses q →
      Covers I head witnesses anchors anchors' ∧ Covers I head witnesses anchors' anchors) :
    verifyCompleteness I headText anchorsText trustSetText freshness =
      verifyCompleteness I headText anchorsText' trustSetText freshness := by
  unfold verifyCompleteness
  rw [hanchors, hanchors']
  cases hhead : parseDocument headText "head" with
  | error reason => rfl
  | ok headDoc =>
  cases htrust : parseDocument trustSetText "trustSet" with
  | error reason => rfl
  | ok trustDoc =>
  simp only [verifyCompletenessParsed, stages]
  cases hadmit : admitHead headDoc with
  | error e => rfl
  | ok head =>
  cases admitFreshness freshness with
  | error e => rfl
  | ok window =>
  cases htrusted : admitTrustSet trustDoc with
  | error e => rfl
  | ok trust =>
    obtain ⟨witnesses, hwitnesses, hquorum, -, hpins⟩ := admitTrustSet_eq_ok htrusted
    obtain ⟨hcovers, hcovered⟩ := hsame head witnesses trust.quorum
      ⟨⟨headDoc, hhead, admitHead_eq_ok hadmit⟩, hanchors, trustDoc, htrust, hwitnesses, hquorum⟩
    have hanswers : ∀ x, x ∈ anchors.filterMap (answerOf I trust.pinned head window) ↔
        x ∈ anchors'.filterMap (answerOf I trust.pinned head window) := fun x =>
      ⟨fun hx => answers_subset hpins hcovers hx, fun hx => answers_subset hpins hcovered hx⟩
    show conclude _ _ _ _ = conclude _ _ _ _
    simp only [conclude, tally_congr (get?_witnessClasses_congr hanswers)]

open Federation.Sample in
/-- The two anchors of the head in the other order, one twice, and a value that is no anchor. -/
theorem completeness_of_presentation_sample :
    answer anchors = answer [anchor 4 "w2" "s2", .null, anchor 4 "w1" "s1", anchor 4 "w2" "s2"] := by
  refine completeness_of_presentation _ _ _ _ _ _ anchors _
    (parseDocument_of_textBound (by decide +kernel) _)
    (parseDocument_of_textBound (by decide +kernel) _) fun head witnesses q _ => ⟨?_, ?_⟩
  · intro v hv
    exact .inr ⟨v, by simp_all [anchors, or_comm], rfl⟩
  · intro v hv
    by_cases hnull : v = .null
    · exact .inl fun a ha => by cases hnull ▸ ha
    · simp only [Pipeline.mem_iff] at hv
      exact .inr ⟨v, by simp [anchors]; tauto, rfl⟩

end NoaMandate
