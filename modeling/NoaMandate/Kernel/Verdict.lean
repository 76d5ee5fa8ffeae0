import NoaMandate.Kernel.ChainValid
import Mathlib.Data.List.Perm.Basic

/-!
# The verdict `VALID`

The reading of the last stage, the checkpoint, and the result the stage readings were made for:
`verifyParsedChain_valid_iff`, the verifier answers `VALID` exactly for the valid chains.

The verifier works on the receipts in sequence order and `ChainValid` on the list it was given, so
the remaining argument is a transport along the permutation between the two.
-/

namespace NoaMandate

open Pipeline

namespace Verify

/-! ## The checkpoint -/

lemma errorsIn_verifyCheckpointParsed (I : Intrinsics) (v : Option ParsedVerificationKeyring)
    (cp : Json) : ErrorsIn (fun e => e ≠ .ok ∧ e ≠ .retired) (verifyCheckpointParsed I v cp) := by
  refine .demanding rfl fun _ => ?_
  refine .refusing rfl ?_
  refine .refusing rfl ?_
  refine .refusing rfl ?_
  refine .refusing rfl ?_
  refine .refusing rfl ?_
  refine .refusing rfl ?_
  refine .demanding rfl fun _ => ?_
  refine .refusing rfl ?_
  refine .refusing rfl ?_
  refine .demanding rfl fun _ => ?_
  refine .demanding rfl fun _ => ?_
  refine .demanding rfl fun _ => ?_
  refine .demanding rfl fun _ => ?_
  refine .demanding rfl fun _ => ?_
  exact .refusing rfl .ok

variable {I : Intrinsics}

variable {rs ordered : List Json} {cp : Json} {o : VerifyOptions}

lemma checkpointVerdict_eq_ok_iff_parsed {v : Option ParsedVerificationKeyring} : checkpointVerdict I v cp = .ok ↔ verifyCheckpointParsed I v cp = .ok .ok := by
  unfold checkpointVerdict
  cases h : verifyCheckpointParsed I v cp with
  | ok res => simp
  | error e => simpa using (errorsIn_verifyCheckpointParsed I v cp e h).1

lemma kid_of_lookup {ms sig : List (String × Json)} {k : String}
    (hsig : ms.lookup "sig" = some (.obj sig)) (hkid : sig.lookup "kid" = some (.str k)) :
    Receipt.kid (.obj ms) = k := by
  simp [Receipt.kid, Json.strAt, Json.strAt?, Json.path?, hsig, hkid, Json.asStr?]

lemma sigValue_of_lookup {ms sig : List (String × Json)} {k : String}
    (hsig : ms.lookup "sig" = some (.obj sig)) (hvalue : sig.lookup "value" = some (.str k)) :
    Receipt.sigValue (.obj ms) = k := by
  simp [Receipt.sigValue, Json.strAt, Json.strAt?, Json.path?, hsig, hvalue, Json.asStr?]

variable {v : ParsedVerificationKeyring}

/-- A checkpoint verifies exactly when it has the closed shape and its signature is authentic. -/
lemma checkpointVerdict_eq_ok_iff (hne : ∀ e ∈ v.keyring, e.2 ≠ "") :
    checkpointVerdict I (some v) cp = .ok ↔
      CheckpointShape cp ∧ Authentic I v CHECKPOINT_SIG_DOMAIN (Receipt.kid cp)
        (checkpointHashInput cp) (Receipt.sigValue cp) := by
  rw [checkpointVerdict_eq_ok_iff_parsed]
  simp only [verifyCheckpointParsed, ok_iff, members?_eq_some, nonEmptyStr?_eq_some_iff,
    Bool.not_eq_false', Schema.nonEmptyStr_iff, Schema.isSeq_iff, Schema.strWith_iff,
    Option.some.injEq]
  constructor
  · rintro ⟨ms, rfl, _, hkeys, _, hspec, _, hchain, _, hseq, _, hhead, _, hts, sig, hsig, _, hsigKeys,
      _, halg, kid, ⟨hk, hk0⟩, value, ⟨hv, hv0⟩, w, rfl, pub, hpub, input, hinput, _, hverify, hret⟩
    rw [List.any_eq_false] at hkeys hsigKeys
    simp only [test_iff] at hspec halg
    refine ⟨⟨⟨ms, rfl⟩, ⟨?_, ?_⟩, hspec, hchain, hseq, hhead, hts, ⟨sig, hsig, ⟨?_, ?_⟩, halg,
      ⟨kid, hk, hk0⟩, ⟨value, hv, hv0⟩⟩⟩, ?_⟩
    · intro k hkmem
      obtain ⟨m, hm, rfl⟩ := List.mem_map.mp hkmem
      simpa using hkeys m hm
    · obtain ⟨s, hs, -⟩ := hchain
      obtain ⟨n, hn, -⟩ := hseq
      obtain ⟨h, hh, -⟩ := hhead
      obtain ⟨t, ht, -⟩ := hts
      intro k hkmem
      simp only [CHECKPOINT_KEYS, mem_iff] at hkmem
      rcases hkmem with rfl | rfl | rfl | rfl | rfl | rfl <;>
        simp only [Json.get?_obj, hspec, hs, hn, hh, ht, hsig, Option.isSome_some]
    · intro k hkmem
      obtain ⟨m, hm, rfl⟩ := List.mem_map.mp hkmem
      have h := hsigKeys m hm
      simp only [test_iff, not_and] at h
      simp only [mem_iff]
      tauto
    · intro k hkmem
      simp only [mem_iff] at hkmem
      rcases hkmem with rfl | rfl | rfl <;>
        simp only [Json.get?_obj, halg, hk, hv, Option.isSome_some]
    · rw [kid_of_lookup hsig hk, sigValue_of_lookup hsig hv]
      rw [lookup_filter_nonEmpty hne] at hpub
      refine ⟨pub, input, hpub, hinput, hverify, fun hmem => ?_⟩
      rw [if_pos (by simpa using hmem)] at hret
      cases hret
  · rintro ⟨⟨⟨ms, rfl⟩, ⟨hlisted, -⟩, hspec, hchain, hseq, hhead, hts, ⟨sig, hsig, ⟨hsigListed, -⟩,
      halg, ⟨kid, hk, hk0⟩, ⟨value, hv, hv0⟩⟩⟩, ⟨pub, input, hpub, hinput, hverify, hnot⟩⟩
    rw [Json.get?_obj] at hk hv hsig
    rw [kid_of_lookup hsig hk] at hpub hnot
    rw [sigValue_of_lookup hsig hv] at hverify
    rw [← lookup_filter_nonEmpty hne] at hpub
    refine ⟨ms, rfl, (), ?_, (), by simpa using hspec, (), hchain, (), hseq, (), hhead, (), hts, sig,
      hsig, (), ?_, (), by simpa using halg, kid, ⟨hk, hk0⟩, value, ⟨hv, hv0⟩, v, rfl, pub, hpub, input,
      hinput, (), hverify, if_neg (by simpa using hnot)⟩
    · refine List.any_eq_false.mpr fun m hm => ?_
      simpa using hlisted m.1 (List.mem_map_of_mem hm)
    · refine List.any_eq_false.mpr fun m hm => ?_
      have h := hsigListed m.1 (List.mem_map_of_mem hm)
      simp only [mem_iff] at h
      simp only [test_iff, not_and]
      tauto

/-- The checkpoint names a key of the keyring, and its signature does not verify under that key. -/
def ForgedUnder (I : Intrinsics) (v : ParsedVerificationKeyring) (cp : Json) : Prop :=
  ∃ kid pub, cp.strAt? ["sig", "kid"] = some kid ∧ v.keyring.lookup kid = some pub ∧
    ∀ input, checkpointHashInput cp = some input →
      I.verifyEd25519 pub (I.signingMessage CHECKPOINT_SIG_DOMAIN input) (Receipt.sigValue cp) = false

/-- A forged checkpoint is refused for what it is, and not for a key that is not there. -/
lemma checkpointVerdict_forged (hne : ∀ e ∈ v.keyring, e.2 ≠ "") (h : ForgedUnder I v cp) :
    checkpointVerdict I (some v) cp = .badSpec ∨ checkpointVerdict I (some v) cp = .malformed ∨
      checkpointVerdict I (some v) cp = .badSignature := by
  obtain ⟨kid, pub, hkid, hpub, hbad⟩ := h
  have hanswers : Answers (fun verdict => verdict = .badSpec ∨ verdict = .malformed ∨
      verdict = .badSignature) (verifyCheckpointParsed I (some v) cp) := by
    refine .bind (.demands rfl) fun c hc => ?_
    refine .bind (.refuses rfl) fun _ _ => ?_
    refine .bind (.refuses rfl) fun _ _ => ?_
    refine .bind (.refuses rfl) fun _ _ => ?_
    refine .bind (.refuses rfl) fun _ _ => ?_
    refine .bind (.refuses rfl) fun _ _ => ?_
    refine .bind (.refuses rfl) fun _ _ => ?_
    refine .bind (.demands rfl) fun sig hsig => ?_
    refine .bind (.refuses rfl) fun _ _ => ?_
    refine .bind (.refuses rfl) fun _ _ => ?_
    refine .bind (.demands rfl) fun kid' hkid' => ?_
    refine .bind (.demands rfl) fun value hvalue => ?_
    -- the key is found, so the signature decides
    simp only [demand_eq_ok_iff, members?_eq_some, nonEmptyStr?_eq_some_iff,
      Option.some.injEq] at hc hsig hkid' hvalue
    obtain rfl := hc
    obtain rfl : kid' = kid := by
      simpa [Json.strAt?, Json.path?, hsig, hkid'.1, Json.asStr?] using hkid
    rw [sigValue_of_lookup hsig hvalue.1] at hbad
    have hfound : (v.keyring.lookup kid').filter (fun p => p ≠ "") = some pub := by
      rw [lookup_filter_nonEmpty hne, hpub]
    refine .bind .ok fun v' hv' => ?_
    obtain rfl : v = v' := Except.ok.inj hv'
    refine .bind (by rw [hfound]; exact .ok) fun pub' hpub' => ?_
    obtain rfl : pub = pub' := by
      rw [hfound] at hpub'
      exact Except.ok.inj hpub'
    refine .bind (.demands rfl) fun input hinput => ?_
    refine .bind (.refuses rfl) fun _ hverify => ?_
    rw [refuse_eq_ok_iff, hbad input (demand_eq_ok_iff.mp hinput)] at hverify
    cases hverify
  unfold checkpointVerdict
  split
  · exact hanswers.2 _ ‹_›
  · exact hanswers.1 _ ‹_›

/-! ## The tail -/

/-- What the checkpoint stage asks of a checkpoint, given the two ends of the chain. -/
structure TailCloses (I : Intrinsics) (v : ParsedVerificationKeyring) (c : WalkContext)
    (genesis head cp : Json) : Prop where
  shape : CheckpointShape cp
  authentic : Authentic I v CHECKPOINT_SIG_DOMAIN (Receipt.kid cp) (checkpointHashInput cp)
    (Receipt.sigValue cp)
  chain : cp.strAt ["chain"] = c.chainId
  highestSeq : cp.numAt ["highestSeq"] = Receipt.seq head
  headHash : cp.strAt ["headHash"] = Receipt.hash head
  opener : ∀ m, c.manifest = some m → Lists m (Receipt.agentId genesis) (Receipt.kid cp)

variable {agents : List String} {c : WalkContext}

lemma exists_checkOpener_iff (hv : c.verification = some v) {genesis head : Json} :
    (∃ w, checkOpener c genesis head cp agents = .ok w) ↔
      ∀ m, c.manifest = some m → Lists m (Receipt.agentId genesis) (Receipt.kid cp) := by
  unfold checkOpener
  rw [hv]
  cases c.manifest with
  | none => simp
  | some m =>
    simp only [ok_iff, Bool.not_eq_false', authorizes_iff, Option.some.injEq, forall_eq',
      exists_const]
    constructor
    · rintro ⟨_, h, _⟩
      exact h
    · intro h
      exact ⟨_, h, rfl⟩

variable {checkpoint : Option Json}

/-- With no retired key met on the walk, the stage ends without one exactly when every supplied
checkpoint closes the chain. -/
lemma checkTail_clean_iff
    (hv : c.verification = some v) (hne : ∀ e ∈ v.keyring, e.2 ≠ "") {genesis head : Json} :
    (∃ tail, checkTail I c genesis head agents none checkpoint = .ok tail ∧ tail.retired = none) ↔
      ∀ cp, checkpoint = some cp → TailCloses I v c genesis head cp := by
  cases checkpoint with
  | none => simp [checkTail]
  | some cp =>
    simp only [checkTail, hv, ok_iff, Option.map_none, Option.isNone_none, Option.isSome_some,
      Bool.true_and, Bool.and_true, Option.some.injEq, forall_eq']
    constructor
    · rintro ⟨tail, ⟨_, hobj, _, hbad, _, hok, _, hchain, _, hhead, w, hopener, rfl⟩, hret⟩
      have hverdict : checkpointVerdict I (some v) cp = .ok := by
        by_cases hr : checkpointVerdict I (some v) cp = .retired
        · simp [hr] at hret
        · simpa [hr] using hok
      obtain ⟨hshape, hauth⟩ := (checkpointVerdict_eq_ok_iff hne).mp hverdict
      simp only [test_iff] at hhead hchain
      exact ⟨hshape, hauth, hchain, hhead.1, hhead.2, (exists_checkOpener_iff hv).mp ⟨w, hopener⟩⟩
    · rintro ⟨hshape, hauth, hchain, hseq, hhash, hopener⟩
      have hverdict := (checkpointVerdict_eq_ok_iff hne).mpr ⟨hshape, hauth⟩
      obtain ⟨w, hw⟩ : ∃ w, checkOpener c genesis head cp agents = .ok w :=
        (exists_checkOpener_iff hv).mpr hopener
      obtain ⟨ms, rfl⟩ := hshape.object
      refine ⟨_, ⟨(), rfl, (), by simp [hverdict], (), by simp [hverdict], (), by simp [hchain],
        (), by simp [hseq, hhash], w, hw, rfl⟩, by simp [hverdict]⟩

/-- A retired key met on the walk stays in the result of the stage. -/
lemma checkTail_retired {genesis head : Json} {p : Int × String} {tail : TailCheck}
    (h : checkTail I c genesis head agents (some p) checkpoint = .ok tail) :
    tail.retired = some (false, p) := by
  cases checkpoint with
  | none =>
    simp only [checkTail, Except.ok.injEq] at h
    rw [← h]
    rfl
  | some cp =>
    simp only [checkTail, ok_iff] at h
    obtain ⟨_, -, _, -, _, -, _, -, _, -, _, -, rfl⟩ := h
    simp

lemma conclude_valid_iff {warnings : List String} {tail : TailCheck} :
    (conclude c warnings tail).status = .VALID ↔ tail.retired = none ∧ c.verification.isSome := by
  unfold conclude
  rcases tail.retired with _ | ⟨cp, seq, kid⟩
  · by_cases h : c.verification.isSome
    · simp [h]
    · simp [h]
  · simp [fail]

/-- The walk and the checkpoint stage together. -/
lemma walkAndTail_iff (ho : o.requireNFC = false) (hv : c.verification = some v)
    (hne : ∀ e ∈ v.keyring, e.2 ≠ "") {messages : List String}
    {genesis head : Json} :
    (∃ st, walk I o c { warnings := messages } ordered = .ok st ∧
      ∃ tail, checkTail I c genesis head agents st.retired checkpoint = .ok tail ∧
        tail.retired = none) ↔
      WalkOk I v c.manifest none [] ordered ∧
        ∀ cp, checkpoint = some cp → TailCloses I v c genesis head cp := by
  rw [← checkTail_clean_iff hv hne, ← walk_clean_iff ho hv hne ordered { warnings := messages } rfl]
  constructor
  · rintro ⟨st, hwalk, tail, htail, hnone⟩
    have hst : st.retired = none := by
      cases hr : st.retired with
      | none => rfl
      | some p =>
        rw [hr] at htail
        rw [checkTail_retired htail] at hnone
        cases hnone
    rw [hst] at htail
    exact ⟨⟨st, hwalk, hst⟩, tail, htail, hnone⟩
  · rintro ⟨⟨st, hwalk, hst⟩, tail, htail, hnone⟩
    exact ⟨st, hwalk, tail, by rw [hst]; exact htail, hnone⟩

/-! ## From the ordered list to the given one -/

/-- The receipts in sequence order. -/
structure Ordered (rs ordered : List Json) : Prop where
  perm : ordered.Perm rs
  seqs : ordered.map Receipt.seq = (List.range rs.length).map Int.ofNat

lemma exists_ordered_iff : (∃ ordered, Ordered rs ordered) ↔
      (rs.map Receipt.seq).Perm ((List.range rs.length).map Int.ofNat) := by
  constructor
  · rintro ⟨ordered, hperm, hseq⟩
    rw [← hseq]
    exact (hperm.map Receipt.seq).symm
  · intro h
    have hcomp := congrFun (congrFun (List.eq_map_comp_perm Receipt.seq)
      ((List.range rs.length).map Int.ofNat)) rs
    obtain ⟨ordered, hmap, hperm⟩ := hcomp.mpr h.symm
    exact ⟨ordered, hperm, hmap.symm⟩

namespace Ordered

/-- Two receipts of the chain with one sequence number are the same. -/
lemma eq_of_seq_eq (h : Ordered rs ordered) {r r' : Json} (hr : r ∈ rs) (hr' : r' ∈ rs)
    (hs : Receipt.seq r = Receipt.seq r') : r = r' := by
  have hnd : (ordered.map Receipt.seq).Nodup := by
    rw [h.seqs]
    exact List.nodup_range.map Int.ofNat_injective
  exact List.inj_on_of_nodup_map hnd (h.perm.mem_iff.mpr hr) (h.perm.mem_iff.mpr hr') hs

/-- The receipt at a position carries the position as its sequence number. -/
lemma seq_getElem? (h : Ordered rs ordered) {i : Nat} {r : Json} (hi : ordered[i]? = some r) :
    Receipt.seq r = (i : Int) := by
  have hmap : (ordered.map Receipt.seq)[i]? = some (Receipt.seq r) := by
    rw [List.getElem?_map, hi, Option.map_some]
  have hlt : i < rs.length := by
    rw [← h.perm.length_eq]
    exact (List.getElem?_eq_some_iff.mp hi).1
  rw [h.seqs, List.getElem?_map, List.getElem?_range hlt, Option.map_some, Option.some.injEq] at hmap
  exact hmap.symm

lemma genesis (h : Ordered rs ordered) (hne : rs ≠ []) :
    ordered.head?.getD .null ∈ rs ∧ Receipt.seq (ordered.head?.getD .null) = 0 := by
  have hpos : 0 < ordered.length := by
    rw [h.perm.length_eq]
    exact List.length_pos_iff.mpr hne
  have hhead : ordered.head? = some ordered[0] := by
    rw [List.head?_eq_getElem?, List.getElem?_eq_getElem hpos]
  rw [hhead, Option.getD_some]
  exact ⟨h.perm.mem_iff.mp (List.getElem_mem hpos), h.seq_getElem? (List.getElem?_eq_getElem hpos)⟩

lemma head (h : Ordered rs ordered) (hne : rs ≠ []) : ordered.getLast?.getD .null ∈ rs ∧
      Receipt.seq (ordered.getLast?.getD .null) + 1 = rs.length := by
  have hpos : 0 < rs.length := List.length_pos_iff.mpr hne
  have hlt : ordered.length - 1 < ordered.length := by
    rw [h.perm.length_eq]
    omega
  have hlast : ordered.getLast? = some ordered[ordered.length - 1] := by
    rw [List.getLast?_eq_getElem?, List.getElem?_eq_getElem hlt]
  have hseq := h.seq_getElem? (List.getElem?_eq_getElem hlt)
  rw [hlast, Option.getD_some]
  refine ⟨h.perm.mem_iff.mp (List.getElem_mem hlt), ?_⟩
  rw [hseq, h.perm.length_eq]
  omega

end Ordered

/-- The checkpoint stage at the two ends of the ordered list, said of the given list. -/
lemma tailCloses_iff {c : WalkContext} (h : Ordered rs ordered) (hne : rs ≠ [])
    (hchain : ∀ r ∈ rs, Receipt.chainId r = c.chainId) :
    TailCloses I v c (ordered.head?.getD .null) (ordered.getLast?.getD .null) cp ↔
      CheckpointCloses I v c.manifest rs cp := by
  obtain ⟨hgen, hgen0⟩ := h.genesis hne
  obtain ⟨hhead, hheadSeq⟩ := h.head hne
  constructor
  · rintro ⟨hshape, hauth, hc, hs, hh, hopen⟩
    exact ⟨hshape, hauth, fun r hr => by rw [hc, hchain r hr], ⟨_, hhead, hheadSeq, hs, hh⟩,
      fun m hm => ⟨_, hgen, hgen0, hopen m hm⟩⟩
  · rintro ⟨hshape, hauth, hc, ⟨r, hr, hrs, hs, hh⟩, hopen⟩
    have hrhead : r = ordered.getLast?.getD .null :=
      h.eq_of_seq_eq hr hhead (by omega)
    refine ⟨hshape, hauth, by rw [← hc _ hgen, hchain _ hgen], hrhead ▸ hs, hrhead ▸ hh, ?_⟩
    intro m hm
    obtain ⟨g, hg, hg0, hlists⟩ := hopen m hm
    rwa [h.eq_of_seq_eq hg hgen (hg0.trans hgen0.symm)] at hlists

/-- The walk over the ordered list, said of the given list. -/
lemma walkOk_ordered_iff {manifest : Option (List (String × List String))}
    (h : Ordered rs ordered) : WalkOk I v manifest none [] ordered ↔
      (∀ r ∈ rs, ReceiptOk I v manifest r) ∧
        (∀ r ∈ rs, ∀ r' ∈ rs, Receipt.agentId r = Receipt.agentId r' →
          Receipt.kid r = Receipt.kid r') ∧
        (∀ r ∈ rs, Receipt.seq r = 0 → Receipt.prevHash r = none) ∧
        ∀ r ∈ rs, ∀ r' ∈ rs, Receipt.seq r' = Receipt.seq r + 1 →
          Receipt.prevHash r' = some (Receipt.hash r) := by
  have hrange : ordered.map Receipt.seq = (List.range' 0 ordered.length).map Int.ofNat := by
    rw [h.seqs, h.perm.length_eq, List.range_eq_range']
  rw [walkOk_iff, linkedFrom_iff ordered none 0 hrange (by simp) (by simp)]
  simp only [h.perm.mem_iff, Pinned, List.lookup_nil, reduceCtorEq, false_implies, implies_true,
    true_and, or_false]

/-- Naming the first receipt's chain and naming one chain. -/
lemma firstChain_iff : (∀ r ∈ rs, Receipt.chainId r = (rs.head?.map Receipt.chainId).getD "") ↔
      ∀ r ∈ rs, ∀ r' ∈ rs, Receipt.chainId r = Receipt.chainId r' := by
  constructor
  · intro h r hr r' hr'
    rw [h r hr, h r' hr']
  · intro h r hr
    cases rs with
    | nil => cases hr
    | cons x xs => exact h r hr x (.head _)

lemma admitKeyring_eq_ok_iff {chainId : String} {count : Nat} {k : Option Json} :
    admitKeyring I chainId count k = .ok (some v) ↔
      ∃ k', k = some k' ∧ parseVerificationKeyring I "keyring" k' = .ok v := by
  rcases k with _ | k
  · simp [admitKeyring]
  · simp only [admitKeyring, Option.some.injEq, exists_eq_left']
    cases parseVerificationKeyring I "keyring" k <;> simp

/-- The stages after admission, for a chain in sequence order: a clean run is a valid chain. -/
lemma chainValid_iff_stages
    {manifest : Option (List (String × List String))} {checkpoint : Option Json} (h : Ordered rs ordered) (c : WalkContext)
    (hc : c.chainId = (rs.head?.map Receipt.chainId).getD "") (hm : c.manifest = manifest) :
    ChainValid I o.maxReceipts v manifest checkpoint rs ↔
      (rs ≠ [] ∧ rs.length ≤ o.maxReceipts) ∧ (∀ r ∈ rs, Schema.ReceiptShape r) ∧
        (∀ r ∈ rs, Receipt.chainId r = (rs.head?.map Receipt.chainId).getD "") ∧
        (∀ r ∈ ordered, ∀ r' ∈ ordered, ∀ t t', Receipt.tenant r = some t →
          Receipt.tenant r' = some t' → t = t') ∧
        WalkOk I v c.manifest none [] ordered ∧
        ∀ cp, checkpoint = some cp →
          TailCloses I v c (ordered.head?.getD .null) (ordered.getLast?.getD .null) cp := by
  subst hm
  rw [firstChain_iff, walkOk_ordered_iff h]
  simp only [h.perm.mem_iff]
  constructor
  · intro hvalid
    have hfirst : ∀ r ∈ rs, Receipt.chainId r = c.chainId := by
      rw [hc]
      exact firstChain_iff.mpr hvalid.oneChain
    refine ⟨⟨hvalid.nonempty, hvalid.bounded⟩, hvalid.shape, hvalid.oneChain, hvalid.oneTenant,
      ⟨fun r hr => ⟨hvalid.hash r hr, hvalid.authentic r hr, fun m hm => hvalid.identity m hm r hr⟩,
        hvalid.oneKid, hvalid.genesis, hvalid.linked⟩, fun cp hcp => ?_⟩
    exact (tailCloses_iff h hvalid.nonempty hfirst).mpr (hvalid.closed cp hcp)
  · rintro ⟨⟨hne, hbound⟩, hshape, hone, htenant, ⟨hok, hkid, hgen, hlink⟩, htail⟩
    have hfirst : ∀ r ∈ rs, Receipt.chainId r = c.chainId := by
      rw [hc]
      exact firstChain_iff.mpr hone
    exact {
      nonempty := hne
      bounded := hbound
      shape := hshape
      oneChain := hone
      contiguous := exists_ordered_iff.mp ⟨ordered, h⟩
      oneTenant := htenant
      hash := fun r hr => (hok r hr).hash
      genesis := hgen
      linked := hlink
      oneKid := hkid
      authentic := fun r hr => (hok r hr).authentic
      identity := fun m hm r hr => (hok r hr).identity m hm
      closed := fun cp hcp => (tailCloses_iff h hne hfirst).mp (htail cp hcp) }

/-- The pipeline runs to a `VALID` end exactly on the valid chains. -/
lemma stages_valid_iff
    (ht : o.requireTenantConsistency = true) (hn : o.requireNFC = false) {docs : VerifyDocuments}
    {receipts : Json} : (∃ res, stages I o docs receipts = .ok res ∧ res.status = .VALID) ↔
      ∃ rs v manifest, receipts = .arr rs ∧
        (∃ k, docs.keyring = some k ∧ parseVerificationKeyring I "keyring" k = .ok v) ∧
        admitOptionalManifest docs.identityManifest = .ok manifest ∧
        ChainValid I o.maxReceipts v manifest docs.checkpoint rs := by
  simp only [stages, ok_iff, admitReceipts_eq_ok_iff, checkShapes_eq_ok_iff,
    checkPartition_eq_ok_iff]
  constructor
  · rintro ⟨res, ⟨rs, ⟨rfl, hne, hbound⟩, manifest, hman, _, hshape, _, hchain, bySeq, hindex, ordered,
      horder, tenants, htenants, verification, hkeys, st, hwalk, tail, htail, rfl⟩, hvalid⟩
    obtain ⟨hclean, hsome⟩ := conclude_valid_iff.mp hvalid
    obtain ⟨v, rfl⟩ := Option.isSome_iff_exists.mp hsome
    obtain ⟨k, hk, hparse⟩ := admitKeyring_eq_ok_iff.mp hkeys
    obtain ⟨hperm, hseqs⟩ := orderStage_iff.mp ⟨bySeq, hindex, horder⟩
    refine ⟨rs, v, manifest, rfl, ⟨k, hk, hparse⟩, hman, ?_⟩
    have hkeysNe := publicKey_ne_empty hparse
    refine (chainValid_iff_stages ⟨hperm, hseqs⟩ ⟨_, rs.length, some v, manifest⟩ rfl rfl).mpr ⟨⟨hne, hbound⟩, hshape, hchain,
      ((exists_tenantScan_iff ht ordered _).mp ⟨tenants, htenants⟩).2, ?_⟩
    exact (walkAndTail_iff hn rfl hkeysNe).mp ⟨st, hwalk, tail, htail, hclean⟩
  · rintro ⟨rs, v, manifest, rfl, ⟨k, hk, hparse⟩, hman, hvalid⟩
    obtain ⟨ordered, hord⟩ := exists_ordered_iff.mpr hvalid.contiguous
    have hkeysNe := publicKey_ne_empty hparse
    let c : WalkContext :=
      { chainId := (rs.head?.map Receipt.chainId).getD "", count := rs.length,
        verification := some v, manifest := manifest }
    obtain ⟨⟨hne, hbound⟩, hshape, hchain, htenant, hrest⟩ :=
      (chainValid_iff_stages hord c rfl rfl).mp hvalid
    obtain ⟨tenants, htenants⟩ : ∃ st, tenantScan o c.chainId rs.length {} ordered = .ok st :=
      (exists_tenantScan_iff ht ordered {}).mpr ⟨by simp [SameTenant], htenant⟩
    obtain ⟨bySeq, hindex, horder⟩ : ∃ bySeq, indexBySeq c.chainId rs.length [] rs = .ok bySeq ∧
        orderFrom c.chainId rs.length bySeq 0 rs.length = .ok ordered :=
      orderStage_iff.mpr ⟨hord.perm, hord.seqs⟩
    obtain ⟨st, hwalk, tail, htail, hclean⟩ :
        ∃ st, walk I o c { warnings := tenants.messages } ordered = .ok st ∧
          ∃ tail, checkTail I c (ordered.head?.getD .null) (ordered.getLast?.getD .null)
            (ordered.map Receipt.agentId) st.retired docs.checkpoint = .ok tail ∧
            tail.retired = none :=
      (walkAndTail_iff hn rfl hkeysNe).mpr hrest
    refine ⟨_, ⟨rs, ⟨rfl, hne, hbound⟩, manifest, hman, (), hshape, (), hchain, bySeq, hindex, ordered,
      horder, tenants, htenants, some v, admitKeyring_eq_ok_iff.mpr ⟨k, hk, hparse⟩, st, hwalk, tail,
      htail, rfl⟩, conclude_valid_iff.mpr ⟨hclean, rfl⟩⟩

/-- A walk that also looks for normal forms goes as one that does not. -/
lemma walk_lenient {c : WalkContext} (rs : List Json) : ∀ {st st' : WalkState},
    walk I o c st rs = .ok st' → walk I {} c st rs = .ok st' := by
  induction rs with
  | nil => exact id
  | cons r rs ih =>
    intro st st' h
    simp only [walk, bind_eq_ok_iff] at h ⊢
    obtain ⟨st1, hstep, hwalk⟩ := h
    refine ⟨st1, ?_, ih hwalk⟩
    simp only [walkStep, ok_iff] at hstep ⊢
    obtain ⟨input, hinput, _, hhash, _, -, hrest⟩ := hstep
    exact ⟨input, hinput, (), hhash, (), rfl, hrest⟩

/-- Under any options, every receipt of a `VALID` chain is authentic. -/
lemma stages_authentic {docs : VerifyDocuments} {receipts : Json} {res : VerifyResult}
    (h : stages I o docs receipts = .ok res) (hvalid : res.status = .VALID) :
    ∃ rs k v, receipts = .arr rs ∧ rs ≠ [] ∧ docs.keyring = some k ∧
      parseVerificationKeyring I "keyring" k = .ok v ∧ ∀ r ∈ rs,
        Authentic I v RECEIPT_SIG_DOMAIN (Receipt.kid r) (receiptHashInput r) (Receipt.sigValue r) := by
  simp only [stages, ok_iff, admitReceipts_eq_ok_iff] at h
  obtain ⟨rs, ⟨rfl, hne, -⟩, manifest, -, _, -, _, -, bySeq, hindex, ordered, horder, _, -,
    verification, hkeys, st, hwalk, tail, htail, rfl⟩ := h
  obtain ⟨hclean, hsome⟩ := conclude_valid_iff.mp hvalid
  obtain ⟨v, rfl⟩ := Option.isSome_iff_exists.mp hsome
  obtain ⟨k, hk, hparse⟩ := admitKeyring_eq_ok_iff.mp hkeys
  obtain ⟨hwalkOk, -⟩ := (walkAndTail_iff rfl rfl (publicKey_ne_empty hparse)).mp
    ⟨st, walk_lenient _ hwalk, tail, htail, hclean⟩
  refine ⟨rs, k, v, rfl, hne, hk, hparse, fun r hr => ?_⟩
  have hmem := (orderStage_iff.mp ⟨bySeq, hindex, horder⟩).1.mem_iff.mpr hr
  exact (((walkOk_iff _ _ _).mp hwalkOk).1 r hmem).authentic

end Verify

/-- The verifier with default options is sound and complete: it answers `VALID` exactly when the
receipts document is a list that is a valid chain under the parsed keyring, the parsed identity
manifest and the checkpoint. -/
theorem verifyParsedChain_valid_iff (I : Intrinsics) (docs : VerifyDocuments) (receipts : Json) :
    (verifyParsedChain I {} docs receipts).status = .VALID ↔
      ∃ rs v manifest, receipts = .arr rs ∧
        (∃ k, docs.keyring = some k ∧ parseVerificationKeyring I "keyring" k = .ok v) ∧
        Verify.admitOptionalManifest docs.identityManifest = .ok manifest ∧
        Verify.ChainValid I 1000000 v manifest docs.checkpoint rs := by
  rw [Verify.verifyParsedChain_valid_iff_stages]
  exact Verify.stages_valid_iff rfl rfl

end NoaMandate
