import NoaMandate.Federation.Acceptance
import NoaMandate.Kernel.SafeJsonSound

/-!
# The quorum is sound

A head is `complete` only on the word of enough witnesses.  The proof goes through the classes the
anchors give to their witnesses: `Explains` says what the table of classes has to do with the list of
answers it was folded from.  A witness is down as confirming only if one of its anchors confirms the
head, and it is down with a contradiction exactly if one of its anchors is one; so a contradiction is
never lost, in whatever order the anchors come and whatever else is in the list.
-/

namespace NoaMandate

open Pipeline

namespace Federation

/-! ## What the classes say about the anchors -/

variable {head : ChainHead} {trust : TrustSet} {cls : WClass}

lemma eq_confirm_of_combine {prior : WClass} (h : combine prior cls = .confirm) :
    prior = .confirm ∨ cls = .confirm := by
  revert h
  cases prior <;> cases cls <;> decide

lemma isContradiction_combine (prior cls : WClass) :
    isContradiction (combine prior cls) = (isContradiction prior || isContradiction cls) := by
  cases prior <;> cases cls <;> rfl

lemma get?_recordAnswer (classes : Table String WClass) (answer : String × WClass) (kid : String) :
    (recordAnswer classes answer).get? kid =
      if kid = answer.1 then
        some (((classes.get? kid).map fun prior => combine prior answer.2).getD answer.2)
      else classes.get? kid := by
  unfold recordAnswer
  by_cases hk : kid = answer.1
  · subst hk
    cases hprior : classes.get? answer.1 with
    | none => simp
    | some prior =>
      by_cases hsame : prior = answer.2
      · simp [hsame, hprior, combine]
      · simp [hsame]
  · rw [if_neg hk]
    split
    · exact Table.get?_set_of_ne _ hk _
    · split
      · rfl
      · exact Table.get?_set_of_ne _ hk _

/-- The classes of the witnesses are explained by the answers. -/
structure Explains (answers : List (String × WClass)) (classes : Table String WClass) : Prop where
  confirm : ∀ kid, classes.get? kid = some .confirm → (kid, .confirm) ∈ answers
  contradiction : ∀ kid, (∃ cls, classes.get? kid = some cls ∧ isContradiction cls = true) ↔
    ∃ cls, (kid, cls) ∈ answers ∧ isContradiction cls = true

/-- The class of a witness is its answers merged, in whatever order the others come. -/
lemma get?_foldl_recordAnswer (kid : String) (answers : List (String × WClass)) :
    ∀ classes, (answers.foldl recordAnswer classes).get? kid =
      ((answers.filter (·.1 = kid)).map fun x => some x.2).foldl (Option.merge combine)
        (classes.get? kid) := by
  induction answers with
  | nil => exact fun _ => rfl
  | cons x rest ih =>
    intro classes
    rw [List.foldl_cons, ih, get?_recordAnswer]
    by_cases hx : x.1 = kid
    · rw [if_pos hx.symm, List.filter_cons_of_pos (by simpa using hx), List.map_cons, List.foldl_cons]
      cases classes.get? kid <;> rfl
    · rw [if_neg (Ne.symm hx), List.filter_cons_of_neg (by simpa using hx)]

lemma foldl_merge_confirm {l : List (Option WClass)} :
    ∀ {o}, l.foldl (Option.merge combine) o = some .confirm →
      o = some .confirm ∨ some .confirm ∈ l := by
  induction l with
  | nil => exact .inl
  | cons p l ih =>
    intro o h
    rcases ih h with ho | hl
    · rcases o with _ | prior <;> rcases p with _ | cls
      · cases ho
      · exact .inr (by rw [← ho]; exact .head _)
      · exact .inl ho
      · rcases eq_confirm_of_combine (Option.some.inj ho) with rfl | rfl
        · exact .inl rfl
        · exact .inr (.head _)
    · exact .inr (.tail _ hl)

lemma foldl_merge_contradiction {l : List (Option WClass)} :
    ∀ {o}, (l.foldl (Option.merge combine) o).any isContradiction =
      (o.any isContradiction || l.any (Option.any isContradiction)) := by
  induction l with
  | nil => simp
  | cons p l ih =>
    intro o
    rw [List.foldl_cons, ih, List.any_cons, ← Bool.or_assoc]
    cases o <;> cases p <;> simp [isContradiction_combine]

/-- The classes are explained by the answers they were folded from. -/
lemma explains_witnessClasses (answers : List (String × WClass)) :
    Explains answers (witnessClasses answers) := by
  refine ⟨fun kid h => ?_, fun kid => ?_⟩
  · rw [witnessClasses, get?_foldl_recordAnswer] at h
    rcases foldl_merge_confirm h with h | h
    · cases h
    · simpa using h
  · have h := congrArg (Option.any isContradiction) (get?_foldl_recordAnswer kid answers .empty)
    rw [foldl_merge_contradiction] at h
    simpa [Option.any_eq_true, witnessClasses] using congrArg (· = true) h

variable {classes : Table String WClass}

/-! ## The tally -/

lemma tally_pos_iff :
    0 < tally classes cls ↔ ∃ kid, classes.get? kid = some cls := by
  rw [tally, List.count_pos_iff, Table.mem_values_iff]

/-- The head is contradicted exactly if some answer contradicts it. -/
lemma contradicted_iff {answers : List (String × WClass)} :
    0 < tally (witnessClasses answers) .divergent ∨ 0 < tally (witnessClasses answers) .beyond ↔
      ∃ answer ∈ answers, isContradiction answer.2 = true := by
  have hexplains := explains_witnessClasses answers
  rw [tally_pos_iff, tally_pos_iff]
  constructor
  · rintro (⟨kid, hkid⟩ | ⟨kid, hkid⟩)
    all_goals
      obtain ⟨cls, hmem, hcls⟩ := (hexplains.contradiction kid).mp ⟨_, hkid, rfl⟩
      exact ⟨_, hmem, hcls⟩
  · rintro ⟨⟨kid, cls⟩, hmem, hcls⟩
    obtain ⟨cls', hkid, hcls'⟩ := (hexplains.contradiction kid).mpr ⟨cls, hmem, hcls⟩
    cases cls' with
    | divergent => exact .inl ⟨kid, hkid⟩
    | beyond => exact .inr ⟨kid, hkid⟩
    | _ => cases hcls'

/-- The confirming witnesses: as many as the tally says, each once. -/
lemma exists_confirming (answers : List (String × WClass)) :
    ∃ kids : List String, kids.Nodup ∧ kids.length = tally (witnessClasses answers) .confirm ∧
      ∀ kid ∈ kids, (kid, .confirm) ∈ answers := by
  set classes := witnessClasses answers with hclasses
  refine ⟨(classes.entries.filter fun e => e.2 = .confirm).map Prod.fst, ?_, ?_, fun kid hkid => ?_⟩
  · exact classes.nodup.sublist (List.filter_sublist.map _)
  · rw [List.length_map, tally, Table.values, List.count, List.countP_map, List.countP_eq_length_filter]
    congr 1
  · obtain ⟨⟨kid, cls⟩, hmem, rfl⟩ := List.mem_map.mp hkid
    obtain ⟨hentry, hcls⟩ := List.mem_filter.mp hmem
    obtain rfl : cls = .confirm := by simpa using hcls
    exact (explains_witnessClasses answers).confirm kid (Table.mem_entries_iff.mp hentry)

/-- When the rule accepts. -/
lemma conclude_complete_iff {enforced : Bool} :
    (conclude head trust enforced classes).complete = true ↔
      ¬ (0 < tally classes .divergent ∨ 0 < tally classes .beyond) ∧
        trust.quorum ≤ tally classes .confirm := by
  unfold conclude
  by_cases hdivergent : 0 < tally classes .divergent
  · simp [hdivergent]
  by_cases hbeyond : 0 < tally classes .beyond
  · simp [hdivergent, hbeyond]
  by_cases hquorum : trust.quorum ≤ tally classes .confirm
  · simp [hdivergent, hbeyond, hquorum]
  · simp only [hdivergent, hbeyond, if_false, ge_iff_le, hquorum, and_false, iff_false]
    split <;> simp

lemma conclude_classification {enforced : Bool}
    (h : (conclude head trust enforced classes).classification = .FORK ∨
      (conclude head trust enforced classes).classification = .TRUNCATED) :
    0 < tally classes .divergent ∨ 0 < tally classes .beyond := by
  simp only [conclude] at h
  split_ifs at h with hdivergent hbeyond hquorum hstale
  · exact .inl hdivergent
  · exact .inr hbeyond
  all_goals simp at h

/-! ## The pinned witnesses -/

/-- The table pins the witnesses of the list, every key under one kid. -/
structure Pins (witnesses : List Json) (pinned : Table String String) : Prop where
  pinned_iff : ∀ kid pub, pinned.get? kid = some pub ↔ ∃ w ∈ witnesses,
    w.get? "kid" = some (.str kid) ∧ w.get? "pubkey" = some (.str pub)
  injective : ∀ kid kid' pub, pinned.get? kid = some pub → pinned.get? kid' = some pub → kid = kid'

lemma pins_empty : Pins [] .empty := ⟨fun _ _ => by simp, fun _ _ _ h => by cases h⟩

lemma Pins.set {before : List Json} {pinned : Table String String} (h : Pins before pinned) {w : Json}
    {kid pub : String} (hkid : nonEmptyStr? (w.get? "kid") = some kid)
    (hpub : nonEmptyStr? (w.get? "pubkey") = some pub) (hnew : pinned.get? kid = none)
    (hfresh : pub ∉ pinned.values) : Pins (before ++ [w]) (pinned.set kid pub) := by
  obtain ⟨hkid, -⟩ := nonEmptyStr?_eq_some_iff.mp hkid
  obtain ⟨hpub, -⟩ := nonEmptyStr?_eq_some_iff.mp hpub
  have hother : ∀ k, pinned.get? k ≠ some pub := fun k hk =>
    hfresh (Table.mem_values_iff.mpr ⟨k, hk⟩)
  refine ⟨fun k p => ?_, fun k k' p hk hk' => ?_⟩
  · rw [Table.get?_set]
    simp only [List.mem_append, List.mem_singleton, or_and_right, exists_or, exists_eq_left, hkid,
      hpub, Option.some.injEq, Json.str.injEq, ← h.pinned_iff]
    by_cases hk : k = kid
    · subst hk
      simp [hnew]
    · simp [hk, Ne.symm hk]
  · rw [Table.get?_set] at hk hk'
    split at hk
    · split at hk'
      · simp_all
      · cases hk
        exact absurd hk' (hother k')
    · split at hk'
      · cases hk'
        exact absurd hk (hother k)
      · exact h.injective k k' p hk hk'

lemma pins_pinWitnesses {witnesses : List Json} {pinned : Table String String}
    (h : pinWitnesses .empty witnesses = .ok pinned) : Pins witnesses pinned := by
  -- the loop from any witnesses already pinned
  have hloop : ∀ (rest before : List Json) (t : Table String String), Pins before t →
      pinWitnesses t rest = .ok pinned → Pins (before ++ rest) pinned := by
    intro rest
    induction rest with
    | nil =>
      intro before t hpins h
      cases h
      rwa [List.append_nil]
    | cons w rest ih =>
      intro before t hpins h
      simp only [pinWitnesses, ok_iff] at h
      obtain ⟨_, -, kid, hkid, pub, hpub, _, hnew, _, hfresh, h⟩ := h
      have hset := hpins.set hkid hpub (by simpa using hnew) (by simpa using hfresh)
      have hrest := ih _ _ hset h
      rwa [List.append_assoc] at hrest
  exact hloop witnesses [] .empty pins_empty h

/-! ## Signed anchors -/

/-- The anchor is signed with the key that the trust set pins for its kid. -/
structure SignedAnchor (I : Intrinsics) (witnesses : List Json) (v : Json) (a : Anchor)
    (pub : String) : Prop where
  read : readAnchor v = some a
  pinned : ∃ w ∈ witnesses, w.get? "kid" = some (.str a.kid) ∧ w.get? "pubkey" = some (.str pub)
  verifies : ∃ msg, anchorSigningInput I a = some msg ∧ I.verifyEd25519 pub msg a.value = true

/-- The instant can be read and lies inside the window of the policy. -/
def Fresh (I : Intrinsics) (f : FreshnessPolicy) (ts : String) : Prop :=
  ∃ t, parseAnchorTsMs I ts = some t ∧ f.now - f.maxAgeMs ≤ t ∧ t ≤ f.now + f.skewMs.getD 0

/-- The anchor confirms the head. -/
structure Confirms (I : Intrinsics) (head : ChainHead) (freshness : Option FreshnessPolicy)
    (a : Anchor) : Prop where
  chain : a.chain = head.chain
  seq : a.highestSeq = head.seq
  hash : a.headHash = head.hash
  fresh : ∀ f, freshness = some f → Fresh I f a.ts

/-- The anchor is about a longer chain, or about another one of the same length. -/
def Contradicts (head : ChainHead) (a : Anchor) : Prop :=
  a.chain = head.chain ∧
    (head.seq < a.highestSeq ∨ a.highestSeq = head.seq ∧ a.headHash ≠ head.hash)

section answers

variable {I : Intrinsics} {witnesses : List Json} {pinned : Table String String} {head : ChainHead}
  {freshness : Option FreshnessPolicy} {v : Json} {a : Anchor}

lemma verifyAnchor_iff (hp : Pins witnesses pinned) (hread : readAnchor v = some a) :
    verifyAnchor I pinned a = true ↔ ∃ pub, SignedAnchor I witnesses v a pub := by
  unfold verifyAnchor
  constructor
  · intro h
    split at h
    · rename_i pub msg hpub hmsg
      exact ⟨pub, hread, (hp.pinned_iff _ _).mp hpub, msg, hmsg, h⟩
    · cases h
  · rintro ⟨pub, -, hpinned, msg, hmsg, hverify⟩
    rw [(hp.pinned_iff _ _).mpr hpinned, hmsg]
    exact hverify

variable {window : Option Window}

/-- What an anchor answers. -/
lemma answerOf_eq_some_iff (hp : Pins witnesses pinned) {kid : String} : answerOf I pinned head window v = some (kid, cls) ↔
      ∃ a pub, SignedAnchor I witnesses v a pub ∧ a.kid = kid ∧ a.chain = head.chain ∧
        classify I head window a = some cls := by
  have hspec : answerOf I pinned head window v = some (kid, cls) ↔
      ∃ a, readAnchor v = some a ∧ (a.chain = head.chain ∧ verifyAnchor I pinned a = true) ∧
        classify I head window a = some cls ∧ a.kid = kid := by
    unfold answerOf
    simp only [Option.bind_eq_bind, Option.bind_eq_some_iff]
    refine exists_congr fun a => and_congr_right fun _ => ?_
    split
    · rename_i hcond
      have hcond' : a.chain = head.chain ∧ verifyAnchor I pinned a = true := by simpa using hcond
      simp [hcond', Option.map_eq_some_iff, and_comm]
    · rename_i hcond
      have hcond' : ¬ (a.chain = head.chain ∧ verifyAnchor I pinned a = true) := by simpa using hcond
      simp [hcond']
  rw [hspec]
  constructor
  · rintro ⟨a, hread, ⟨hchain, hverify⟩, hclass, hkid⟩
    obtain ⟨pub, hsigned⟩ := (verifyAnchor_iff hp hread).mp hverify
    exact ⟨a, pub, hsigned, hkid, hchain, hclass⟩
  · rintro ⟨a, pub, hsigned, hkid, hchain, hclass⟩
    exact ⟨a, hsigned.read, ⟨hchain, (verifyAnchor_iff hp hsigned.read).mpr ⟨pub, hsigned⟩⟩, hclass,
      hkid⟩

lemma confirms_of_classify (hchain : a.chain = head.chain)
    (h : classify I head (freshness.map windowOf) a = some .confirm) :
    Confirms I head freshness a := by
  unfold classify at h
  by_cases hbeyond : a.highestSeq > head.seq
  · simp [hbeyond] at h
  by_cases hseq : a.highestSeq = head.seq
  · by_cases hhash : a.headHash = head.hash
    · refine ⟨hchain, hseq, hhash, fun f hf => ?_⟩
      subst hf
      cases ht : parseAnchorTsMs I a.ts with
      | none => simp [hseq, hhash, ht] at h
      | some t =>
        have hwindow : (windowOf f).min ≤ t ∧ t ≤ (windowOf f).max := by
          simpa [hseq, hhash, ht] using h
        exact ⟨t, ht, hwindow⟩
    · simp [hseq, hhash] at h
  · simp [hbeyond, hseq] at h

lemma classify_contradiction_iff (hchain : a.chain = head.chain) :
    (∃ cls, classify I head window a = some cls ∧ isContradiction cls = true) ↔
      Contradicts head a := by
  unfold classify Contradicts
  by_cases hbeyond : head.seq < a.highestSeq
  · simp [hbeyond, hchain, isContradiction]
  by_cases hseq : a.highestSeq = head.seq
  · by_cases hhash : a.headHash = head.hash
    · cases window with
      | none => simp [hseq, hhash, isContradiction]
      | some w =>
        simp only [hseq, hhash, lt_self_iff_false, if_false, if_true,
          Option.some.injEq, exists_eq_left', ne_eq, not_true, and_false, or_false, iff_false]
        split <;> simp [isContradiction]
    · simp [hchain, hseq, hhash, isContradiction]
  · simp [hbeyond, hseq]

/-- The answers contradict the head exactly if a signed anchor does. -/
lemma exists_contradiction_iff (hp : Pins witnesses pinned) {anchors : List Json} :
    (∃ answer ∈ anchors.filterMap (answerOf I pinned head window),
        isContradiction answer.2 = true) ↔
      ∃ v ∈ anchors, ∃ a pub, SignedAnchor I witnesses v a pub ∧ Contradicts head a := by
  simp only [List.mem_filterMap]
  constructor
  · rintro ⟨⟨kid, cls⟩, ⟨v, hv, hanswer⟩, hcls⟩
    obtain ⟨a, pub, hsigned, -, hchain, hclass⟩ := (answerOf_eq_some_iff hp).mp hanswer
    exact ⟨v, hv, a, pub, hsigned, (classify_contradiction_iff hchain).mp ⟨cls, hclass, hcls⟩⟩
  · rintro ⟨v, hv, a, pub, hsigned, hcontra⟩
    obtain ⟨cls, hclass, hcls⟩ : ∃ cls, classify I head window a = some cls ∧ isContradiction cls = true :=
      (classify_contradiction_iff hcontra.1).mpr hcontra
    exact ⟨(a.kid, cls), ⟨v, hv, (answerOf_eq_some_iff hp).mpr
      ⟨a, pub, hsigned, rfl, hcontra.1, hclass⟩⟩, hcls⟩

end answers

/-! ## The documents -/

/-- The three documents of a request, read. -/
structure Presented (headText anchorsText trustSetText : List Char) (head : ChainHead)
    (anchors witnesses : List Json) (quorum : Int) : Prop where
  head : ∃ v, parseDocument headText "head" = .ok v ∧ v.get? "chain" = some (.str head.chain) ∧
    v.get? "seq" = some (.num head.seq) ∧ v.get? "hash" = some (.str head.hash)
  anchors : parseDocument anchorsText "anchors" = .ok (.arr anchors)
  trustSet : ∃ v, parseDocument trustSetText "trustSet" = .ok v ∧
    v.get? "witnesses" = some (.arr witnesses) ∧ v.get? "quorum" = some (.num quorum)

/-- The head and the witnesses do not depend on the anchors. -/
lemma Presented.unique {headText anchorsText anchorsText' trustSetText : List Char}
    {head' : ChainHead} {anchors anchors' witnesses witnesses' : List Json} {q q' : Int}
    (h : Presented headText anchorsText trustSetText head anchors witnesses q)
    (h' : Presented headText anchorsText' trustSetText head' anchors' witnesses' q') :
    head = head' ∧ witnesses = witnesses' := by
  obtain ⟨v, hv, hchain, hseq, hhash⟩ := h.head
  obtain ⟨v', hv', hchain', hseq', hhash'⟩ := h'.head
  obtain ⟨t, ht, hwitnesses, -⟩ := h.trustSet
  obtain ⟨t', ht', hwitnesses', -⟩ := h'.trustSet
  obtain rfl : v = v' := ok_unique hv hv'
  obtain rfl : t = t' := ok_unique ht ht'
  obtain ⟨chain, seq, hash⟩ := head
  obtain ⟨chain', seq', hash'⟩ := head'
  obtain rfl : chain = chain' := by simpa [hchain] using hchain'
  obtain rfl : seq = seq' := by simpa [hseq] using hseq'
  obtain rfl : hash = hash' := by simpa [hhash] using hhash'
  exact ⟨rfl, by simpa [hwitnesses] using hwitnesses'⟩

lemma seq?_eq_some {v : Option Json} {n : Int} (h : seq? v = some n) : v = some (.num n) := by
  unfold seq? at h
  split at h
  · split at h
    · rw [Option.some.inj h]
    · cases h
  · cases h

lemma sha256Hash?_eq_some {v : Option Json} {s : String} (h : sha256Hash? v = some s) :
    v = some (.str s) := by
  unfold sha256Hash? at h
  split at h
  · split at h
    · rw [Option.some.inj h]
    · cases h
  · cases h

lemma admitHead_eq_ok {v : Json} (h : admitHead v = .ok head) :
    v.get? "chain" = some (.str head.chain) ∧ v.get? "seq" = some (.num head.seq) ∧
      v.get? "hash" = some (.str head.hash) := by
  simp only [admitHead, ok_iff] at h
  obtain ⟨_, -, chain, hchain, seq, hseq, hash, hhash, rfl⟩ := h
  exact ⟨(nonEmptyStr?_eq_some_iff.mp hchain).1, seq?_eq_some hseq, sha256Hash?_eq_some hhash⟩

lemma admitFreshness_eq_ok {freshness : Option FreshnessPolicy} {window : Option Window}
    (h : admitFreshness freshness = .ok window) : window = freshness.map windowOf := by
  cases freshness with
  | none => exact (Except.ok.inj h).symm
  | some f =>
    simp only [admitFreshness, ok_iff] at h
    obtain ⟨_, -, _, -, hwindow⟩ := h
    exact hwindow.symm

lemma admitTrustSet_eq_ok {v : Json} (h : admitTrustSet v = .ok trust) :
    ∃ witnesses, v.get? "witnesses" = some (.arr witnesses) ∧
      v.get? "quorum" = some (.num trust.quorum) ∧ 2 ≤ trust.quorum ∧
      Pins witnesses trust.pinned := by
  simp only [admitTrustSet, ok_iff] at h
  obtain ⟨_, -, witnesses, hwitnesses, _, -, q, hq, _, hone, _, -, pinned, hpinned, rfl⟩ := h
  refine ⟨witnesses, ?_, ?_, ?_, pins_pinWitnesses hpinned⟩
  · split at hwitnesses
    · rename_i ws hws
      rw [hws, Option.some.inj hwitnesses]
    · cases hwitnesses
  · split at hq
    · rename_i n hn
      split at hq
      · rw [hn, Option.some.inj hq]
      · cases hq
    · cases hq
  · have hone' : ¬ q ≤ 1 := by simpa using hone
    show 2 ≤ q
    omega

/-! ## Refusals -/

def RefusesInput (r : CompletenessResult) : Prop :=
  r.classification = .INVALID_INPUT ∧ r.complete = false

instance : DecidablePred RefusesInput := fun _ => inferInstanceAs (Decidable (_ ∧ _))

lemma refusesInput (reason : String) : RefusesInput (invalidInput reason) := ⟨rfl, rfl⟩

lemma errorsIn_pinWitnesses (witnesses : List Json) (pinned : Table String String) :
    ErrorsIn RefusesInput (pinWitnesses pinned witnesses) := by
  induction witnesses generalizing pinned with
  | nil => exact .ok
  | cons w rest ih =>
    exact .refusing rfl <| .demanding rfl fun _ =>
      .demanding rfl fun _ => .refusing rfl <|
        .refusing rfl <| ih _

lemma errorsIn_stages (I : Intrinsics) (head anchors trustSet : Json)
    (freshness : Option FreshnessPolicy) :
    ErrorsIn RefusesInput (stages I head anchors trustSet freshness) := by
  have hhead : ErrorsIn RefusesInput (admitHead head) :=
    .refusing rfl <| .demanding rfl fun _ =>
      .demanding rfl fun _ => .demanding rfl fun _ => .ok
  have hfreshness : ErrorsIn RefusesInput (admitFreshness freshness) := by
    cases freshness with
    | none => exact .ok
    | some f =>
      exact .refusing rfl <| .refusing rfl .ok
  have htrust : ErrorsIn RefusesInput (admitTrustSet trustSet) :=
    .refusing rfl <| .demanding rfl fun _ =>
      .refusing rfl <| .demanding rfl fun _ =>
        .refusing rfl <| .refusing rfl <|
          .bind (errorsIn_pinWitnesses _ _) fun _ => .ok
  exact .bind hhead fun _ => .bind hfreshness fun _ => .bind htrust fun _ =>
    .demanding rfl fun _ => .ok

/-- Every answer is a refusal of the input, or the rule on the documents. -/
lemma verifyCompleteness_cases (I : Intrinsics) (headText anchorsText trustSetText : List Char)
    (freshness : Option FreshnessPolicy) :
    RefusesInput (verifyCompleteness I headText anchorsText trustSetText freshness) ∨
    ∃ head anchors witnesses trust,
      Presented headText anchorsText trustSetText head anchors witnesses trust.quorum ∧
      2 ≤ trust.quorum ∧ Pins witnesses trust.pinned ∧
      verifyCompleteness I headText anchorsText trustSetText freshness =
        conclude head trust freshness.isSome (witnessClasses
          (anchors.filterMap (answerOf I trust.pinned head (freshness.map windowOf)))) := by
  unfold verifyCompleteness
  cases hhead : parseDocument headText "head" with
  | error reason => exact .inl (refusesInput _)
  | ok headDoc =>
  cases hanchors : parseDocument anchorsText "anchors" with
  | error reason => exact .inl (refusesInput _)
  | ok anchorsDoc =>
  cases htrust : parseDocument trustSetText "trustSet" with
  | error reason => exact .inl (refusesInput _)
  | ok trustDoc =>
  simp only [verifyCompletenessParsed]
  cases hstages : stages I headDoc anchorsDoc trustDoc freshness with
  | error r => exact .inl (errorsIn_stages _ _ _ _ _ r hstages)
  | ok r =>
    right
    simp only [stages, ok_iff] at hstages
    obtain ⟨head, hadmit, window, hwindow, trust, htrusted, anchors, harr, hr⟩ := hstages
    obtain rfl := admitFreshness_eq_ok hwindow
    obtain ⟨witnesses, hwitnesses, hquorum, htwo, hpins⟩ := admitTrustSet_eq_ok htrusted
    have hanchorsDoc : anchorsDoc = .arr anchors := by
      split at harr
      · rw [Option.some.inj harr]
      · cases harr
    subst hanchorsDoc
    refine ⟨head, anchors, witnesses, trust, ⟨⟨headDoc, hhead, admitHead_eq_ok hadmit⟩, hanchors,
      trustDoc, htrust, hwitnesses, hquorum⟩, htwo, hpins, ?_⟩
    rw [← hr, Option.isSome_map]

/-! ## Both directions -/

section results

variable {I : Intrinsics} {headText anchorsText trustSetText : List Char}
  {freshness : Option FreshnessPolicy}

/-- What a complete answer rests on. -/
lemma quorum_of_complete
    (h : (verifyCompleteness I headText anchorsText trustSetText freshness).complete = true) :
    ∃ head anchors witnesses q,
      Presented headText anchorsText trustSetText head anchors witnesses q ∧ 2 ≤ q ∧
      (∃ keys : List String, keys.Nodup ∧ q ≤ keys.length ∧ ∀ pub ∈ keys, ∃ v ∈ anchors, ∃ a,
        SignedAnchor I witnesses v a pub ∧ Confirms I head freshness a) ∧
      ∀ v ∈ anchors, ∀ a pub, SignedAnchor I witnesses v a pub → ¬ Contradicts head a := by
  rcases verifyCompleteness_cases I headText anchorsText trustSetText freshness with
    hrefused | ⟨head, anchors, witnesses, trust, hpresented, htwo, hpins, heq⟩
  · rw [hrefused.2] at h
    cases h
  rw [heq, conclude_complete_iff, contradicted_iff, exists_contradiction_iff hpins] at h
  obtain ⟨hnone, hquorum⟩ := h
  obtain ⟨kids, hnodup, hlength, hconfirm⟩ := exists_confirming
    (anchors.filterMap (answerOf I trust.pinned head (freshness.map windowOf)))
  -- every confirming witness has a key and an anchor signed with it
  have hsigned : ∀ kid ∈ kids, ∃ pub, trust.pinned.get? kid = some pub ∧ ∃ v ∈ anchors, ∃ a,
      SignedAnchor I witnesses v a pub ∧ Confirms I head freshness a := by
    intro kid hkid
    obtain ⟨v, hv, hanswer⟩ := List.mem_filterMap.mp (hconfirm kid hkid)
    obtain ⟨a, pub, hsigned, rfl, hchain, hclass⟩ := (answerOf_eq_some_iff hpins).mp hanswer
    exact ⟨pub, (hpins.pinned_iff _ _).mpr hsigned.pinned, v, hv, a, hsigned,
      confirms_of_classify hchain hclass⟩
  choose! key hkey hanchor using hsigned
  refine ⟨head, anchors, witnesses, trust.quorum, hpresented, htwo, ⟨kids.map key, ?_, ?_, ?_⟩, ?_⟩
  · refine hnodup.map_on fun kid hkid kid' hkid' heq => ?_
    have hpub := hkey kid' hkid'
    rw [← heq] at hpub
    exact hpins.injective kid kid' _ (hkey kid hkid) hpub
  · rw [List.length_map, hlength]
    exact hquorum
  · intro pub hpub
    obtain ⟨kid, hkid, rfl⟩ := List.mem_map.mp hpub
    exact hanchor kid hkid
  · exact fun v hv a pub hsigned hcontra => hnone ⟨v, hv, a, pub, hsigned, hcontra⟩

/-- What a `FORK` or a `TRUNCATED` rests on. -/
lemma contradicted_of_classification
    (h : (verifyCompleteness I headText anchorsText trustSetText freshness).classification = .FORK ∨
      (verifyCompleteness I headText anchorsText trustSetText freshness).classification =
        .TRUNCATED) : ∃ head anchors witnesses q,
      Presented headText anchorsText trustSetText head anchors witnesses q ∧
      ∃ v ∈ anchors, ∃ a pub, SignedAnchor I witnesses v a pub ∧ Contradicts head a := by
  rcases verifyCompleteness_cases I headText anchorsText trustSetText freshness with
    hrefused | ⟨head, anchors, witnesses, trust, hpresented, -, hpins, heq⟩
  · simp [hrefused.1] at h
  rw [heq] at h
  have hcontra := conclude_classification h
  rw [contradicted_iff, exists_contradiction_iff hpins] at hcontra
  exact ⟨head, anchors, witnesses, trust.quorum, hpresented, hcontra⟩

end results

end Federation

namespace Federation.Sample

def headHash : String :=
  "sha256:1111111111111111111111111111111111111111111111111111111111111111"

def head : Json :=
  .obj [("chain", .str "gate-0"), ("seq", .num 4), ("hash", .str headHash)]

/-- An anchor of the head, or of a later one. -/
def anchor (seq : Int) (kid value : String) : Json :=
  .obj [("chain", .str "gate-0"), ("highestSeq", .num seq), ("headHash", .str headHash),
    ("ts", .str "2026-01-01T00:00:00Z"),
    ("sig", .obj [("alg", .str "ed25519"), ("kid", .str kid), ("value", .str value)])]

def anchors : List Json := [anchor 4 "w1" "s1", anchor 4 "w2" "s2"]

def later : Json := anchor 5 "w2" "s3"

def trustSet : Json :=
  .obj [("witnesses", .arr [.obj [("kid", .str "w1"), ("pubkey", .str "p1")],
    .obj [("kid", .str "w2"), ("pubkey", .str "p2")]]), ("quorum", .num 2)]

def signedText (seq : Int) : List Char :=
  (canonicalize (.obj [("chain", .str "gate-0"), ("highestSeq", .num seq),
    ("headHash", .str headHash), ("ts", .str "2026-01-01T00:00:00Z")])).getD []

/-- Both witnesses have signed the head, and the second one also a later head. -/
def platform : Intrinsics :=
  .ofTables [(signedText 4, "d4"), (signedText 5, "d5")]
    [("p1", ANCHOR_SIG_DOMAIN ++ ":d4", "s1"), ("p2", ANCHOR_SIG_DOMAIN ++ ":d4", "s2"),
      ("p2", ANCHOR_SIG_DOMAIN ++ ":d5", "s3")] [("2026-01-01T00:00:00Z", 1767225600000)]

def freshness : FreshnessPolicy := { now := 1767225660000, maxAgeMs := 60000 }

def answer (anchors : List Json) : CompletenessResult :=
  verifyCompleteness platform (Json.render head) (Json.render (.arr anchors))
    (Json.render trustSet) (some freshness)

lemma parse_texts {v : Json} (hv : v ∈ [head, trustSet, .arr anchors, .arr [later],
    .arr (later :: anchors)]) (what : String) : parseDocument (Json.render v) what = .ok v :=
  parseDocument_of_textBound ((show ∀ v ∈ _, (SafeJson.textBound 0 v).any (· ≤ MAX_INPUT_BYTES) = true
    by decide +kernel) v hv) what

lemma answers : (answer anchors).complete = true ∧ (answer [later]).classification = .TRUNCATED := by
  simp only [answer, verifyCompleteness, parse_texts (.head _), parse_texts (.tail _ (.head _)),
    parse_texts (.tail _ (.tail _ (.head _))), parse_texts (.tail _ (.tail _ (.tail _ (.head _))))]
  decide +kernel

end Federation.Sample

end NoaMandate
