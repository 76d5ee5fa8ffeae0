import NoaMandate.Kernel.Entry
import NoaMandate.Kernel.SafeJsonSound
import NoaMandate.Kernel.TamperEvidence

/-!
# Retirement is judged last

A signing key lifecycle says which keys are retired.  The verifier authenticates a signature by a
retired key like any other and only remembers that it met one; the verdict `KEY_RETIRED` is what is
left when nothing else failed.

The two runs compared here differ in the lifecycle alone: one has the retirements, the other has
every `retiredAt` set to `null`.  Each stage is shown to stop with the same result in both runs, or to
hand on states that differ in what they remember of retirement (`SameWalk`, `SameTail`), and
`retirement_never_masks` follows from `Related.bind`.
-/

namespace NoaMandate

open Pipeline

/-! ## A lifecycle without its retirements -/

/-- An entry of a lifecycle with `retiredAt` set to `null`. -/
def clearRetiredAt : Json → Json
  | .obj ms => .obj (Json.setMember ms "retiredAt" .null)
  | v => v

/-- The `keys` of a lifecycle with every `retiredAt` set to `null`. -/
def clearKeys : Json → Json
  | .obj entries => .obj (entries.map fun e => (e.1, clearRetiredAt e.2))
  | v => v

/-- A lifecycle with every `retiredAt` set to `null`. -/
def withoutRetirement : Json → Json
  | .obj top => .obj (top.map fun m => (m.1, if m.1 = "keys" then clearKeys m.2 else m.2))
  | v => v

/-- The lifecycle retires the key id. -/
def RetiredIn (lifecycle : Json) (kid : String) : Prop :=
  ∃ t, lifecycle.strAt? ["keys", kid, "retiredAt"] = some t

namespace ParsedVerificationKeyring

/-- The parsed keyring with no key retired. -/
def unretired (v : ParsedVerificationKeyring) : ParsedVerificationKeyring :=
  { v with retiredKids := [], retiredAtByKid := v.retiredAtByKid.map fun e => (e.1, none) }

@[simp] lemma unretired_keyring (v : ParsedVerificationKeyring) : v.unretired.keyring = v.keyring :=
  rfl

@[simp] lemma unretired_retiredKids (v : ParsedVerificationKeyring) :
    v.unretired.retiredKids = [] := rfl

end ParsedVerificationKeyring

lemma intervalOk_none (I : Intrinsics) (validFrom : Option String) :
    intervalOk I validFrom none = true := by
  cases validFrom <;> rfl

variable {I : Intrinsics} {kid label : String} {entry : Json} {e : LifecycleEntry}
  {v : ParsedVerificationKeyring}

/-- An accepted entry is accepted without its retirement. -/
lemma parseLifecycleEntry_clear (h : parseLifecycleEntry I kid entry = .ok e) :
    parseLifecycleEntry I kid (clearRetiredAt entry) = .ok { e with retiredAt := none } := by
  simp only [parseLifecycleEntry, ok_iff, members?_eq_some] at h
  obtain ⟨ms, hms, _, hfields, pub, hpub, validFrom, hfrom, retiredAt, -, _, -, rfl⟩ := h
  cases hms
  have hnull : (Json.setMember ms "retiredAt" .null).lookup "retiredAt" = some .null := by
    rw [Json.lookup_setMember, if_pos rfl]
    cases hold : ms.lookup "retiredAt" with
    | none =>
      simp only [test_iff, List.contains_iff_mem] at hfields
      exact absurd hfields.1.2 (Assoc.lookup_eq_none_iff.mp hold)
    | some _ => rfl
  have hother : ∀ k ≠ "retiredAt",
      (Json.setMember ms "retiredAt" .null).lookup k = ms.lookup k := fun k hk => by
    rw [Json.lookup_setMember, if_neg hk]
  simp only [parseLifecycleEntry, clearRetiredAt, members?, ok_iff]
  refine ⟨_, rfl, (), ?_, pub, ?_, validFrom, ?_, none, ?_, (), ?_, rfl⟩
  · rw [Json.setMember_fst]
    exact hfields
  · rw [hother _ (by decide)]
    exact hpub
  · rw [Json.setMember_fst, hother _ (by decide)]
    exact hfrom
  · rw [hnull]
    rfl
  · rw [intervalOk_none]
    rfl

lemma parseLifecycleEntries_clear (entries : List (String × Json)) :
    ∀ {es}, parseLifecycleEntries I entries = .ok es →
      parseLifecycleEntries I (entries.map fun e => (e.1, clearRetiredAt e.2)) =
        .ok (es.map fun e => (e.1, { e.2 with retiredAt := none })) := by
  induction entries with
  | nil =>
    intro es h
    cases h
    rfl
  | cons m entries ih =>
    intro es h
    simp only [parseLifecycleEntries, ok_iff] at h
    obtain ⟨e, he, rest, hrest, rfl⟩ := h
    simp only [List.map_cons, parseLifecycleEntries, ok_iff]
    exact ⟨_, parseLifecycleEntry_clear he, _, ih hrest, rfl⟩

lemma clearKeys_members {v : Option Json} {entries : List (String × Json)}
    (h : members? v = some entries) :
    members? (v.map clearKeys) = some (entries.map fun e => (e.1, clearRetiredAt e.2)) := by
  rw [members?_eq_some.mp h]
  rfl

/-- Taking the retirements out of a document takes them out of the parsed keyring. -/
lemma parseVerificationKeyring_withoutRetirement {lifecycle : Json}
    (h : parseVerificationKeyring I label lifecycle = .ok v)
    (hlife : v.lifecycle = true) :
    parseVerificationKeyring I label (withoutRetirement lifecycle) = .ok v.unretired := by
  obtain ⟨ms, rfl, ⟨-, h⟩ | ⟨keys, -, rfl⟩⟩ := parseVerificationKeyring_cases h
  · simp only [parseLifecycle, ok_iff] at h
    obtain ⟨_, htopOk, entries, hentries, _, hlen, es, hes, rfl⟩ := h
    set ms' := ms.map fun m => (m.1, if m.1 = "keys" then clearKeys m.2 else m.2) with hms'
    have hnames : ms'.map Prod.fst = ms.map Prod.fst := by
      rw [hms', List.map_map]
      rfl
    have hlookup := Assoc.lookup_map ms fun k w => if k = "keys" then clearKeys w else w
    have hspec : ms'.lookup "spec" = ms.lookup "spec" := by
      rw [hms', hlookup]
      simp
    have hkeys : ms'.lookup "keys" = (ms.lookup "keys").map clearKeys := by
      rw [hms', hlookup]
      simp
    have hspecIs : ms.lookup "spec" = some (.str SIGNING_KEY_LIFECYCLE_SPEC) := by
      simp only [test_iff] at htopOk
      exact htopOk.1.1.1
    have hlooks' : looksLikeLifecycle ms' = true := by
      simp [looksLikeLifecycle, hspec, hspecIs]
    simp only [parseVerificationKeyring, withoutRetirement, members?, ok_iff]
    refine ⟨ms', rfl, ?_⟩
    rw [if_pos hlooks']
    simp only [parseLifecycle, ok_iff, hnames, hspec, hkeys]
    refine ⟨(), htopOk, _, clearKeys_members hentries, (), ?_, _,
      parseLifecycleEntries_clear entries hes, ?_⟩
    · rw [List.length_map]
      exact hlen
    · simp [ParsedVerificationKeyring.unretired, Function.comp_def, List.filter_map]
  · cases hlife

/-! ## Which keys a lifecycle retires -/

lemma parseLifecycleEntry_retiredAt (h : parseLifecycleEntry I kid entry = .ok e) :
    entry.getStr? "retiredAt" = e.retiredAt := by
  simp only [parseLifecycleEntry, ok_iff, members?_eq_some] at h
  obtain ⟨ms, hms, -, -, _, -, _, -, retiredAt, hretired, -, -, rfl⟩ := h
  cases hms
  change (ms.lookup "retiredAt").bind Json.asStr? = retiredAt
  cases hold : ms.lookup "retiredAt" with
  | none =>
    rw [hold] at hretired
    exact Option.some.inj hretired
  | some w =>
    rw [hold, Option.getD_some] at hretired
    cases w with
    | null => exact Option.some.inj hretired
    | str s =>
      rw [lifecycleInstant, Option.ite_none_right_eq_some] at hretired
      exact Option.some.inj hretired.2
    | _ => cases hretired

lemma exists_retired_iff (entries : List (String × Json)) :
    ∀ {es}, parseLifecycleEntries I entries = .ok es → (entries.map Prod.fst).Nodup →
      ((∃ e ∈ es, e.2.retiredAt.isSome ∧ e.1 = kid) ↔
        ∃ t, (entries.lookup kid).bind (fun entry => entry.getStr? "retiredAt") = some t) := by
  induction entries with
  | nil =>
    intro es h _
    cases h
    simp
  | cons m entries ih =>
    intro es h hnd
    simp only [parseLifecycleEntries, ok_iff] at h
    obtain ⟨e, he, rest, hrest, rfl⟩ := h
    rw [List.map_cons, List.nodup_cons] at hnd
    rw [List.exists_mem_cons_iff, ih hrest hnd.2, List.lookup_cons]
    by_cases hk : kid = m.1
    · subst hk
      have hnone : entries.lookup m.1 = none := Assoc.lookup_eq_none_iff.mpr hnd.1
      simp [hnone, parseLifecycleEntry_retiredAt he, Option.isSome_iff_exists]
    · simp [beq_eq_false_iff_ne.mpr hk, Ne.symm hk]

/-- The retired keys of a parsed lifecycle are those the document retires. -/
lemma mem_retiredKids_iff {lifecycle : Json} (hd : lifecycle.Distinct)
    (h : parseVerificationKeyring I label lifecycle = .ok v) (hlife : v.lifecycle = true) :
    kid ∈ v.retiredKids ↔ RetiredIn lifecycle kid := by
  obtain ⟨ms, rfl, ⟨-, h⟩ | ⟨keys, -, rfl⟩⟩ := parseVerificationKeyring_cases h
  · simp only [parseLifecycle, ok_iff, members?_eq_some] at h
    obtain ⟨_, -, entries, hkeys, _, -, es, hes, rfl⟩ := h
    have hnd := ((Json.distinct_obj entries).mp (hd.get? hkeys)).1
    rw [RetiredIn, strAt?_entry hkeys, ← exists_retired_iff entries hes hnd]
    simp only [List.mem_map, List.mem_filter, and_assoc]
  · cases hlife

/-! ## The walk -/

namespace Verify

variable {o : VerifyOptions} {c : WalkContext}

/-- The same context with no key retired. -/
def WalkContext.unretired (c : WalkContext) : WalkContext :=
  { c with verification := c.verification.map ParsedVerificationKeyring.unretired }

/-- Two states of the walk that differ in what they remember of retirement; `met` says whether the
first one met a retired key. -/
structure SameWalk (met : Prop) (st st' : WalkState) : Prop where
  same : st' = { st with retired := none }
  retired : st.retired.isSome ↔ met

lemma authenticate_related (hv : c.verification = some v) (input : List Char)
    (retired : Option (Int × String)) (r : Json) :
    Related (fun q q' => q' = none ∧ (q.isSome ↔ retired.isSome ∨ Receipt.kid r ∈ v.retiredKids))
      (authenticate I c input retired r) (authenticate I c.unretired input none r) := by
  have hv' : c.unretired.verification = some v.unretired := by
    rw [WalkContext.unretired, hv]
    rfl
  unfold authenticate
  rw [hv, hv']
  refine .step fun pub => ?_
  refine .step fun _ => .ok ?_
  refine ⟨by simp, ?_⟩
  by_cases hr : retired.isSome
  · obtain ⟨p, rfl⟩ := Option.isSome_iff_exists.mp hr
    simp
  · rw [Option.not_isSome_iff_eq_none] at hr
    subst hr
    by_cases hk : Receipt.kid r ∈ v.retiredKids
    · simp [hk]
    · simp [hk]

lemma walkStep_related (hv : c.verification = some v) (st : WalkState) (r : Json) :
    Related (SameWalk (st.retired.isSome ∨ Receipt.kid r ∈ v.retiredKids)) (walkStep I o c st r)
      (walkStep I o c.unretired { st with retired := none } r) := by
  have hidentity : checkIdentity c r = checkIdentity c.unretired r := by
    unfold checkIdentity WalkContext.unretired
    rw [hv]
    cases c.manifest with
    | none => rfl
    | some m => rfl
  unfold walkStep
  refine .step fun input => ?_
  refine .step fun _ => ?_
  refine .step fun _ => ?_
  refine .step fun pinned => ?_
  refine .bind (authenticate_related hv input st.retired r) fun q q' hq => ?_
  refine .bind (Related.of_eq hidentity) fun _ _ _ => ?_
  refine .step fun _ => .ok ⟨?_, hq.2⟩
  rw [hq.1]
  rfl

lemma walk_related (hv : c.verification = some v) (rs : List Json) : ∀ st : WalkState,
      Related (SameWalk (st.retired.isSome ∨ ∃ r ∈ rs, Receipt.kid r ∈ v.retiredKids))
        (walk I o c st rs) (walk I o c.unretired { st with retired := none } rs) := by
  induction rs with
  | nil =>
    intro st
    exact .ok ⟨rfl, by simp⟩
  | cons r rs ih =>
    intro st
    refine .bind (walkStep_related hv st r) fun st1 st1' h => ?_
    rw [h.same]
    have hmet : (st1.retired.isSome ∨ ∃ r ∈ rs, Receipt.kid r ∈ v.retiredKids) ↔
        (st.retired.isSome ∨ ∃ r' ∈ r :: rs, Receipt.kid r' ∈ v.retiredKids) := by
      rw [h.retired, List.exists_mem_cons_iff, or_assoc]
    exact propext hmet ▸ ih st1

/-! ## The checkpoint -/

lemma verifyCheckpointParsed_related (cp : Json) :
    Related (fun _ verdict' => verdict' = .ok) (verifyCheckpointParsed I (some v) cp)
      (verifyCheckpointParsed I (some v.unretired) cp) := by
  unfold verifyCheckpointParsed
  refine .step fun ms => ?_
  refine .step fun _ => ?_
  refine .step fun _ => ?_
  refine .step fun _ => ?_
  refine .step fun _ => ?_
  refine .step fun _ => ?_
  refine .step fun _ => ?_
  refine .step fun sig => ?_
  refine .step fun _ => ?_
  refine .step fun _ => ?_
  refine .step fun kid => ?_
  refine .step fun value => ?_
  refine .bind (R := fun w w' => w = v ∧ w' = v.unretired) (.ok ⟨rfl, rfl⟩) ?_
  rintro _ _ ⟨rfl, rfl⟩
  refine .step fun pub => ?_
  refine .step fun input => ?_
  refine .step fun _ => .ok ?_
  simp

/-- What a checkpoint that authenticates is answered. -/
lemma verifyCheckpointParsed_eq_ok {cp : Json} {verdict : CheckpointVerdict}
    (h : verifyCheckpointParsed I (some v) cp = .ok verdict) :
    verdict = if Receipt.kid cp ∈ v.retiredKids then .retired else .ok := by
  simp only [verifyCheckpointParsed, ok_iff, members?_eq_some, nonEmptyStr?_eq_some_iff,
    Option.some.injEq] at h
  obtain ⟨ms, rfl, _, -, _, -, _, -, _, -, _, -, _, -, sig, hsig, _, -, _, -, kid, ⟨hkid, -⟩, _, -, _,
    rfl, _, -, _, -, _, -, rfl⟩ := h
  rw [kid_of_lookup hsig hkid]
  simp only [List.contains_iff_mem]

/-- The two verdicts on a checkpoint: a retired key is no longer retired, and nothing else changes. -/
lemma checkpointVerdict_unretired (cp : Json) : checkpointVerdict I (some v.unretired) cp =
      if checkpointVerdict I (some v) cp = .retired then .ok else checkpointVerdict I (some v) cp := by
  have h := verifyCheckpointParsed_related (I := I) (v := v) cp
  unfold checkpointVerdict
  cases hx : verifyCheckpointParsed I (some v) cp with
  | error e =>
    cases hy : verifyCheckpointParsed I (some v.unretired) cp with
    | error e' =>
      rw [hx, hy] at h
      obtain rfl : e = e' := h
      exact (if_neg (errorsIn_verifyCheckpointParsed I _ cp e hx).2).symm
    | ok w =>
      rw [hx, hy] at h
      exact h.elim
  | ok verdict =>
    cases hy : verifyCheckpointParsed I (some v.unretired) cp with
    | error e' =>
      rw [hx, hy] at h
      exact h.elim
    | ok w =>
      rw [hx, hy] at h
      obtain rfl : w = .ok := h
      have hverdict := verifyCheckpointParsed_eq_ok hx
      by_cases hk : Receipt.kid cp ∈ v.retiredKids
      · rw [if_pos hk] at hverdict
        exact (if_pos hverdict).symm
      · rw [if_neg hk] at hverdict
        simp [hverdict]

lemma checkpointVerdict_retired_iff {cp : Json}
    (h : checkpointVerdict I (some v) cp = .ok ∨ checkpointVerdict I (some v) cp = .retired) :
    checkpointVerdict I (some v) cp = .retired ↔ Receipt.kid cp ∈ v.retiredKids := by
  unfold checkpointVerdict at h ⊢
  cases hx : verifyCheckpointParsed I (some v) cp with
  | error e =>
    rw [hx] at h
    have hne := errorsIn_verifyCheckpointParsed I _ cp e hx
    exact absurd h (not_or.mpr hne)
  | ok verdict =>
    have hverdict := verifyCheckpointParsed_eq_ok hx
    by_cases hk : Receipt.kid cp ∈ v.retiredKids
    · simp [hverdict, hk]
    · simp [hverdict, hk]

/-- Two results of the checkpoint stage; `met` says whether the first one met a retired key. -/
structure SameTail (met : Prop) (tail tail' : TailCheck) : Prop where
  clean : tail'.retired = none
  retired : tail.retired.isSome ↔ met

lemma checkOpener_unretired (hv : c.verification = some v) (genesis head cp : Json)
    (agents : List String) :
    checkOpener c genesis head cp agents = checkOpener c.unretired genesis head cp agents := by
  unfold checkOpener WalkContext.unretired
  rw [hv]
  cases c.manifest with
  | none => rfl
  | some m => rfl

/-- A retired key that signed an authentic checkpoint is met here, unless one was met before. -/
lemma checkTail_related (hv : c.verification = some v) (genesis head : Json) (agents : List String)
    (retired : Option (Int × String)) (checkpoint : Option Json) :
    Related (SameTail (retired.isSome ∨ ∃ cp, checkpoint = some cp ∧ Receipt.kid cp ∈ v.retiredKids))
      (checkTail I c genesis head agents retired checkpoint)
      (checkTail I c.unretired genesis head agents none checkpoint) := by
  have hv' : c.unretired.verification = some v.unretired := by
    rw [WalkContext.unretired, hv]
    rfl
  cases checkpoint with
  | none => exact .ok ⟨rfl, by simp⟩
  | some cp =>
    have hverdict := checkpointVerdict_unretired (I := I) (v := v) cp
    simp only [checkTail, hv, hv', hverdict, ← checkOpener_unretired hv]
    refine .step fun _ => ?_
    refine .bind (.refuse ?_ ?_) fun _ _ _ => ?_
    · cases checkpointVerdict I (some v) cp <;> rfl
    · cases checkpointVerdict I (some v) cp <;> simp [WalkContext.unretired]
    refine .bind (.refuse ?_ ?_) fun _ _ hok => ?_
    · cases checkpointVerdict I (some v) cp <;> rfl
    · cases checkpointVerdict I (some v) cp <;> simp [WalkContext.unretired]
    refine .step fun _ => ?_
    refine .step fun _ => ?_
    refine .step fun warnings => .ok ?_
    have hauthentic : checkpointVerdict I (some v) cp = .ok ∨
        checkpointVerdict I (some v) cp = .retired := by
      revert hok
      cases checkpointVerdict I (some v) cp <;> simp
    refine ⟨?_, ?_⟩
    · rcases hauthentic with h | h <;> simp [h]
    · have hkid := checkpointVerdict_retired_iff hauthentic
      cases retired with
      | some p => simp
      | none => simp [← hkid]

/-! ## The verdict -/

/-- A retired key signed a receipt, or the checkpoint. -/
def MetRetired (v : ParsedVerificationKeyring) (rs : List Json) (checkpoint : Option Json) : Prop :=
  (∃ r ∈ rs, Receipt.kid r ∈ v.retiredKids) ∨
    ∃ cp, checkpoint = some cp ∧ Receipt.kid cp ∈ v.retiredKids

/-- Two results that are not refusals. -/
structure SameVerdict (met : Prop) (res res' : VerifyResult) : Prop where
  valid : res'.status = .VALID
  retired : met → res.status = .KEY_RETIRED
  clean : ¬ met → res.status = .VALID

lemma conclude_status (hv : c.verification = some v) (warnings : List String) (tail : TailCheck) :
    (conclude c warnings tail).status = if tail.retired.isSome then .KEY_RETIRED else .VALID := by
  unfold conclude
  rcases tail.retired with _ | ⟨cp, seq, kid⟩
  · simp [hv]
  · simp [fail]

lemma judged_related (a : Admitted) (checkpoint : Option Json) :
    Related (SameVerdict (MetRetired v a.ordered checkpoint)) (judged I o a (some v) checkpoint)
      (judged I o a (some v.unretired) checkpoint) := by
  let c : WalkContext := ⟨a.chainId, a.count, some v, a.manifest⟩
  have hv : c.verification = some v := rfl
  refine .bind (walk_related hv a.ordered { warnings := a.tenants.messages })
    fun st st' hst => ?_
  rw [hst.same]
  refine .bind (checkTail_related hv _ _ _ st.retired checkpoint) fun tail tail' htail =>
    .ok ?_
  have hmet : tail.retired.isSome ↔ MetRetired v a.ordered checkpoint := by
    rw [htail.retired, hst.retired]
    simp [MetRetired]
  refine ⟨?_, fun h => ?_, fun h => ?_⟩
  · rw [conclude_status rfl, htail.clean]
    rfl
  · rw [conclude_status hv, if_pos (hmet.mpr h)]
  · rw [conclude_status hv, if_neg (fun h' => h (hmet.mp h'))]

/-- The two runs on parsed documents. -/
lemma stages_related (docs : VerifyDocuments) {lifecycle receipts : Json}
    (hv : parseVerificationKeyring I "keyring" lifecycle = .ok v) (hlife : v.lifecycle = true) :
    Related (fun res res' => ∃ rs, receipts = .arr rs ∧
        SameVerdict (MetRetired v rs docs.checkpoint) res res')
      (stages I o { docs with keyring := some lifecycle } receipts)
      (stages I o { docs with keyring := some (withoutRetirement lifecycle) } receipts) := by
  rw [stages_eq, stages_eq]
  have hadmitted : Related (fun a a' => a = a' ∧ ∃ rs, receipts = .arr rs ∧ a.ordered.Perm rs)
      (admitted o docs.identityManifest receipts) (admitted o docs.identityManifest receipts) := by
    cases ha : admitted o docs.identityManifest receipts with
    | error e => exact .error
    | ok a =>
      simp only [admitted, ok_iff, admitReceipts_eq_ok_iff] at ha
      obtain ⟨rs, ⟨rfl, -⟩, _, -, _, -, _, -, bySeq, hindex, ordered, horder, _, -, rfl⟩ := ha
      exact .ok ⟨rfl, rs, rfl, (orderStage_iff.mp ⟨bySeq, hindex, horder⟩).1⟩
  refine .bind hadmitted ?_
  rintro a _ ⟨rfl, rs, rfl, hperm⟩
  have hkeys : admitKeyring I a.chainId a.count (some lifecycle) = .ok (some v) := by
    rw [admitKeyring, hv]
  have hkeys' : admitKeyring I a.chainId a.count (some (withoutRetirement lifecycle)) =
      .ok (some v.unretired) := by
    rw [admitKeyring, parseVerificationKeyring_withoutRetirement hv hlife]
  rw [hkeys, hkeys']
  have hmet : MetRetired v a.ordered docs.checkpoint ↔ MetRetired v rs docs.checkpoint := by
    simp only [MetRetired, hperm.mem_iff]
  refine (judged_related a docs.checkpoint).mono fun res res' h => ⟨rs, rfl, ?_⟩
  exact propext hmet ▸ h

end Verify

/-! ## The texts -/

section texts

open Verify

variable {o : VerifyOptions}

/-- A retired key signed a receipt of the text, or the checkpoint of the options. -/
def RetiredSigner (lifecycle : Json) (texts : VerifyTexts) (text : List Char) : Prop :=
  (∃ rs, parseDocument text "receipts" = .ok (.arr rs) ∧ ∃ r ∈ rs, RetiredIn lifecycle (Receipt.kid r)) ∨
    ∃ cpText cp, texts.checkpoint = some cpText ∧ parseDocument cpText "checkpoint" = .ok cp ∧
      RetiredIn lifecycle (Receipt.kid cp)

lemma readOptional_eq_ok {what : String} {text : Option (List Char)} {doc : Option Json}
    (h : readOptional what text = .ok doc) : (text = none ∧ doc = none) ∨
      ∃ t v, text = some t ∧ parseDocument t what = .ok v ∧ doc = some v := by
  cases text with
  | none =>
    cases h
    exact Or.inl ⟨rfl, rfl⟩
  | some t =>
    obtain ⟨w, hw, rfl⟩ := map_eq_ok_iff.mp h
    exact Or.inr ⟨t, w, rfl, hw, rfl⟩

variable {text k : List Char} {profile : VerifyProfile}

lemma readReceipts_parse {receipts : Json} (h : readReceipts profile text = .ok receipts) :
    parseDocument text "receipts" = .ok receipts := by
  simp only [readReceipts, ok_iff] at h
  obtain ⟨doc, hdoc, h⟩ := h
  cases profile with
  | native =>
    cases h
    exact hdoc
  | strictBytes =>
    obtain ⟨_, -, h⟩ := bind_eq_ok_iff.mp h
    cases h
    exact hdoc

variable {texts : VerifyTexts}

/-- A retired signer of the texts is one of the parsed documents. -/
lemma retiredSigner_iff {lifecycle : Json} {rs : List Json}
    {checkpoint : Option Json} (hkids : ∀ kid, kid ∈ v.retiredKids ↔ RetiredIn lifecycle kid)
    (hrs : parseDocument text "receipts" = .ok (.arr rs))
    (hcp : readOptional "checkpoint" texts.checkpoint = .ok checkpoint) :
    RetiredSigner lifecycle texts text ↔ MetRetired v rs checkpoint := by
  simp only [RetiredSigner, MetRetired, hkids, hrs, Except.ok.injEq, Json.arr.injEq]
  refine or_congr ⟨?_, fun h => ⟨rs, rfl, h⟩⟩ ?_
  · rintro ⟨_, rfl, h⟩
    exact h
  · rcases readOptional_eq_ok hcp with ⟨htext, rfl⟩ | ⟨t, cp, htext, hparse, rfl⟩
    · simp [htext]
    · constructor
      · rintro ⟨t', cp', ht', hcp', hret⟩
        obtain rfl := Option.mem_unique htext ht'
        obtain rfl := ok_unique hparse hcp'
        exact ⟨cp, rfl, hret⟩
      · rintro ⟨cp', hcp', hret⟩
        cases hcp'
        exact ⟨t, cp, htext, hparse, hret⟩

lemma textStages_of_keyring {keyring : Json}
    (hk : parseDocument k "keyring" = .ok keyring) (receipts : Json) :
    textStages I o { texts with keyring := some k } receipts = (do
      let rs ← admitReceipts o receipts
      let checkpoint ← (readOptional "checkpoint" texts.checkpoint).mapError
        fun reason => fail .MALFORMED reason none rs.length
      let identityManifest ← (readOptional "identityManifest" texts.identityManifest).mapError
        fun reason => fail .MALFORMED reason none rs.length
      stages I o ⟨some keyring, checkpoint, identityManifest⟩ receipts) := by
  have hread : readOptional "keyring" (some k) = .ok (some keyring) := by
    rw [readOptional, hk]
    rfl
  simp only [textStages, hread]

/-- The two runs on texts. -/
lemma text_related {k' : List Char}
    {lifecycle : Json} (hk : parseDocument k "keyring" = .ok lifecycle)
    (hk' : parseDocument k' "keyring" = .ok (withoutRetirement lifecycle))
    (hv : parseVerificationKeyring I "keyring" lifecycle = .ok v) (hlife : v.lifecycle = true) :
    Related (SameVerdict (RetiredSigner lifecycle texts text))
      (do textStages I o { texts with keyring := some k } (← readReceipts profile text))
      (do textStages I o { texts with keyring := some k' } (← readReceipts profile text)) := by
  have hkids : ∀ kid, kid ∈ v.retiredKids ↔ RetiredIn lifecycle kid := fun kid =>
    mem_retiredKids_iff (parseDocument_wellFormed hk).distinct hv hlife
  refine .bind (Related.self _) ?_
  rintro receipts _ ⟨rfl, hread⟩
  rw [textStages_of_keyring hk, textStages_of_keyring hk']
  refine .bind (Related.self _) ?_
  rintro rs _ ⟨rfl, hrs⟩
  refine .bind (Related.self _) ?_
  rintro checkpoint _ ⟨rfl, hcheckpoint⟩
  refine .bind (Related.self _) ?_
  rintro manifest _ ⟨rfl, -⟩
  refine (stages_related ⟨none, checkpoint, manifest⟩ hv hlife).mono ?_
  rintro res res' ⟨rs', rfl, h⟩
  have hmet := retiredSigner_iff hkids (readReceipts_parse hread) (mapError_eq_ok_iff.mp hcheckpoint)
  exact propext hmet ▸ h

/-- A stopped verification under a readable keyring is never `VALID`. -/
lemma errorsIn_text {keyring : Json} (hk : parseDocument k "keyring" = .ok keyring) :
    ErrorsIn NotValid
      (do textStages I o { texts with keyring := some k } (← readReceipts profile text)) := by
  have hbytes : ∀ receipts, ErrorsIn NotValid (checkBytes text receipts) := fun receipts =>
    .demanding rfl fun _ => .refuses rfl
  refine .bind ?_ fun receipts => ?_
  · refine .bind (.mapError fun _ => notValid_fail (by decide)) fun receipts => ?_
    cases profile with
    | native => exact .ok
    | strictBytes => exact .bind (hbytes receipts) fun _ => .ok
  · rw [textStages_of_keyring hk]
    refine .bind (errorsIn_admitReceipts o receipts) fun rs => ?_
    refine .bind (.mapError fun _ => notValid_fail (by decide)) fun _ => ?_
    refine .bind (.mapError fun _ => notValid_fail (by decide)) fun _ => ?_
    exact errorsIn_stages I o _ receipts

/-- Under a readable keyring, every receipt of a `VALID` chain is authentic. -/
lemma verifyChain_authentic {keyring : Json} (hk : parseDocument k "keyring" = .ok keyring)
    (h : (verifyChain I profile o { texts with keyring := some k } text).status = .VALID) :
    ∃ rs v, parseDocument text "receipts" = .ok (.arr rs) ∧ rs ≠ [] ∧
      parseVerificationKeyring I "keyring" keyring = .ok v ∧ ∀ r ∈ rs,
        Authentic I v RECEIPT_SIG_DOMAIN (Receipt.kid r) (receiptHashInput r) (Receipt.sigValue r) := by
  cases hrun : (do textStages I o { texts with keyring := some k } (← readReceipts profile text)) with
  | error e =>
    rw [verifyChain, hrun] at h
    exact absurd h (errorsIn_text hk e hrun)
  | ok res =>
    rw [verifyChain_of_ok hrun] at h
    obtain ⟨receipts, hread, hrun⟩ := bind_eq_ok_iff.mp hrun
    simp only [textStages_of_keyring hk, ok_iff] at hrun
    obtain ⟨_, -, _, -, _, -, hstages⟩ := hrun
    obtain ⟨rs, _, v, rfl, hne, hkeyring, hv, hauthentic⟩ := stages_authentic hstages h
    cases hkeyring
    exact ⟨rs, v, readReceipts_parse hread, hne, hv, hauthentic⟩

end texts

/-- For every text of receipts, every text of a manifest and of a checkpoint, and every lifecycle that
parses: take the retirements out of the lifecycle.  When the verifier then answers `VALID` and a key
the lifecycle retires signed a receipt or the checkpoint, it answers `KEY_RETIRED` under the lifecycle;
in every other case the two runs answer the same. -/
theorem retirement_never_masks (I : Intrinsics) (profile : VerifyProfile) (o : VerifyOptions)
    (texts : VerifyTexts) (text k k' : List Char) (lifecycle : Json) (v : ParsedVerificationKeyring)
    (hk : parseDocument k "keyring" = .ok lifecycle)
    (hk' : parseDocument k' "keyring" = .ok (withoutRetirement lifecycle))
    (hv : parseVerificationKeyring I "keyring" lifecycle = .ok v) (hlife : v.lifecycle = true) :
    let under := (verifyChain I profile o { texts with keyring := some k } text).status
    let under' := (verifyChain I profile o { texts with keyring := some k' } text).status
    (under' = .VALID ∧ RetiredSigner lifecycle texts text → under = .KEY_RETIRED) ∧
      (¬ (under' = .VALID ∧ RetiredSigner lifecycle texts text) → under = under') := by
  intro under under'
  set x : Except VerifyResult VerifyResult :=
    do Verify.textStages I o { texts with keyring := some k } (← Verify.readReceipts profile text) with hx
  set y : Except VerifyResult VerifyResult :=
    do Verify.textStages I o { texts with keyring := some k' } (← Verify.readReceipts profile text)
    with hy
  have hrel : Related (Verify.SameVerdict (RetiredSigner lifecycle texts text)) x y :=
    text_related hk hk' hv hlife
  have herrors : ErrorsIn Verify.NotValid x := errorsIn_text hk
  simp only [under, under', verifyChain, ← hx, ← hy]
  clear_value x y
  cases x with
  | error e =>
    cases y with
    | error e' =>
      obtain rfl : e = e' := hrel
      exact ⟨fun h => absurd h.1 (herrors e rfl), fun _ => rfl⟩
    | ok r' => exact hrel.elim
  | ok r =>
    cases y with
    | error e' => exact hrel.elim
    | ok r' =>
      obtain ⟨hvalid, hretired, hclean⟩ : Verify.SameVerdict _ r r' := hrel
      refine ⟨fun h => hretired h.2, fun h => ?_⟩
      rw [hclean fun hmet => h ⟨hvalid, hmet⟩, hvalid]

namespace RetiredSample

/-! ### A chain signed by a key that was retired later -/

def lifecycle : Json :=
  .obj [("spec", .str SIGNING_KEY_LIFECYCLE_SPEC), ("keys", .obj [("k",
    .obj [("publicKey", .str SignedTwice.keyA), ("retiredAt", .str "2026-02-01T00:00:00Z")])])]

def platform : Intrinsics :=
  { SignedTwice.platform with
    dateParse := fun s => [("2026-02-01T00:00:00Z", 1769904000000)].lookup s }

def text : List Char :=
  Json.render (.arr [SignedTwice.genesis SignedTwice.sigA0, SignedTwice.second SignedTwice.sigA1])

def noTexts : VerifyTexts := ⟨none, none, none⟩

lemma parse_text : parseDocument text "receipts" =
    .ok (.arr [SignedTwice.genesis SignedTwice.sigA0, SignedTwice.second SignedTwice.sigA1]) := by
  decide +kernel

end RetiredSample

open RetiredSample in
/-- The chain is `VALID` without the retirement and `KEY_RETIRED` with it. -/
theorem retirement_never_masks_signed_by_retired :
    (verifyChain platform .native {}
        { noTexts with keyring := some (Json.render (withoutRetirement lifecycle)) } text).status =
      .VALID ∧
    RetiredSigner lifecycle noTexts text ∧
    (verifyChain platform .native {} { noTexts with keyring := some (Json.render lifecycle) }
        text).status = .KEY_RETIRED := by
  have hk : parseDocument (Json.render lifecycle) "keyring" = .ok lifecycle := by decide +kernel
  have hk' : parseDocument (Json.render (withoutRetirement lifecycle)) "keyring" =
      .ok (withoutRetirement lifecycle) := by decide +kernel
  have hvalid : (verifyChain platform .native {}
      { noTexts with keyring := some (Json.render (withoutRetirement lifecycle)) } text).status =
      .VALID := by decide +kernel
  have hsigner : RetiredSigner lifecycle noTexts text :=
    Or.inl ⟨_, parse_text, _, .head _, "2026-02-01T00:00:00Z", by decide +kernel⟩
  have hmasks := retirement_never_masks platform .native {} noTexts text _ _ lifecycle
    ⟨[("k", SignedTwice.keyA)], ["k"], [("k", none)], [("k", some "2026-02-01T00:00:00Z")], true⟩
    hk hk' (by decide +kernel) rfl
  exact ⟨hvalid, hsigner, hmasks.1 ⟨hvalid, hsigner⟩⟩

end NoaMandate
