import NoaMandate.Kernel.Entry
import NoaMandate.Kernel.TamperEvidence

/-!
# The order of the receipts

The shape, partition and duplicate checks read the receipts in the order of the input and stop at
the first failure, so two orders of one list can be refused for different receipts.  `blurred` keeps
what such refusals share, the status.  Each of these checks passes for both orders, or is refused with
one status for both; once the receipts are indexed by sequence number, the two runs are one run.
-/

namespace NoaMandate

open Pipeline

namespace Verify

/-- A result without its account of what was wrong with the input. -/
def blurred (r : VerifyResult) : VerifyResult :=
  if r.status = .MALFORMED ∨ r.status = .TAMPERED then fail r.status "" none 0 else r

lemma blurred_status (r : VerifyResult) : (blurred r).status = r.status := by
  unfold blurred
  split <;> rfl

lemma blurred_eq {r : VerifyResult} (h : r.status ∈ [.VALID, .UNVERIFIED, .KEY_RETIRED, .UNTRUSTED]) :
    blurred r = r := by
  refine if_neg fun hbad => ?_
  rcases hbad with hbad | hbad <;> simp [hbad] at h

variable {o : VerifyOptions} {rs rs' : List Json}

section stages

variable (h : rs.Perm rs')

include h

lemma admitReceipts_perm : Related List.Perm ((admitReceipts o (.arr rs)).mapError blurred)
    ((admitReceipts o (.arr rs')).mapError blurred) := by
  simp only [admitReceipts, mapError_bind, h.length_eq]
  exact .step fun _ => .step fun _ => .ok h

lemma checkShapes_perm {count : Nat} : Related (fun _ _ => True)
    ((checkShapes count 0 rs).mapError blurred) ((checkShapes count 0 rs').mapError blurred) := by
  refine .of_refusals (d := fail .MALFORMED "" none 0) (errorsIn_checkShapes (fun _ _ => rfl) _ _)
    (errorsIn_checkShapes (fun _ _ => rfl) _ _) ?_ fun _ _ _ _ => trivial
  simp only [checkShapes_eq_ok_iff, h.mem_iff]

/-- Receipts of one partition name the chain of the first one, whichever that is. -/
lemma checkPartition_perm :
    let chain := fun l : List Json => (l.head?.map Receipt.chainId).getD ""
    Related (fun _ _ => chain rs = chain rs') ((checkPartition (chain rs) rs).mapError blurred)
      ((checkPartition (chain rs') rs').mapError blurred) := by
  refine .of_refusals (d := fail .TAMPERED "" none 0) (.refuse rfl) (.refuse rfl) ?_ ?_
  · simp only [checkPartition_eq_ok_iff, exists_const, firstChain_iff]
    simp only [h.mem_iff]
  · intro _ _ hall _
    cases rs' with
    | nil => rw [h.eq_nil]
    | cons r' _ => exact (checkPartition_eq_ok_iff.mp hall r' (h.mem_iff.mpr (.head _))).symm

lemma indexBySeq_perm {chainId : String} {count : Nat} :
    Related (fun b b' => ∀ s, b.lookup s = b'.lookup s)
      ((indexBySeq chainId count [] rs).mapError blurred)
      ((indexBySeq chainId count [] rs').mapError blurred) := by
  have hnodup := (h.map Receipt.seq).nodup_iff
  refine .of_refusals (d := fail .TAMPERED "" none 0) (errorsIn_indexBySeq (fun _ _ => rfl) _ _)
    (errorsIn_indexBySeq (fun _ _ => rfl) _ _) ?_ ?_
  · simp [indexBySeq_eq_ok_iff, hnodup]
  · intro b b' hb hb' s
    simp only [indexBySeq_eq_ok_iff, List.append_nil] at hb hb'
    obtain ⟨rfl, hnd, -⟩ := hb
    obtain ⟨rfl, hnd', -⟩ := hb'
    refine Option.ext fun r => ?_
    rw [lookup_index_iff hnd, lookup_index_iff hnd', h.mem_iff]

end stages

lemma orderFrom_congr {chainId : String} {count : Nat} {b b' : List (Int × Json)}
    (h : ∀ s, b.lookup s = b'.lookup s) (n : Nat) :
    ∀ s, orderFrom chainId count b s n = orderFrom chainId count b' s n := by
  induction n with
  | zero => exact fun _ => rfl
  | succ n ih =>
    intro s
    rw [orderFrom, orderFrom, h, ih]

/-- The stages before the keyring hand on the same of two orders, or refuse both with one status. -/
lemma admitted_perm (h : rs.Perm rs') {manifest : Option Json} :
    Related Eq ((admitted o manifest (.arr rs)).mapError blurred)
      ((admitted o manifest (.arr rs')).mapError blurred) := by
  simp only [admitted, mapError_bind]
  refine .bind (admitReceipts_perm h) fun l l' hp => .step fun _ => ?_
  rw [hp.length_eq]
  refine .bind (checkShapes_perm hp) fun _ _ _ => ?_
  refine .bind (checkPartition_perm hp) fun _ _ hchain => ?_
  dsimp only at hchain
  rw [hchain]
  refine .bind (indexBySeq_perm hp) fun b b' hb => ?_
  rw [orderFrom_congr hb]
  exact .of_eq rfl

variable {I : Intrinsics} {texts : VerifyTexts}

lemma textStages_perm (h : rs.Perm rs') :
    Related Eq ((textStages I o texts (.arr rs)).mapError blurred)
      ((textStages I o texts (.arr rs')).mapError blurred) := by
  simp only [textStages, mapError_bind]
  refine .bind (admitReceipts_perm h) fun l l' hp => ?_
  rw [hp.length_eq]
  refine .step fun checkpoint => .step fun manifest => ?_
  cases readOptional "keyring" texts.keyring with
  | ok keyring =>
    simp only [stages_eq, mapError_bind]
    exact .bind (admitted_perm h) fun _ _ ha => .of_eq (by rw [ha])
  | error reason =>
    simp only [mapError_bind]
    exact .bind (admitted_perm h) fun _ _ ha => .of_eq (by rw [ha])

end Verify

open Verify in
/-- The order of the receipts does not matter. Two texts that list the same receipts get the same
status, and the same result altogether, warnings included, unless that status is `MALFORMED` or
`TAMPERED`. -/
theorem verifyChain_perm (I : Intrinsics) (o : VerifyOptions) (texts : VerifyTexts)
    (text text' : List Char) (rs rs' : List Json)
    (htext : parseDocument text "receipts" = .ok (.arr rs))
    (htext' : parseDocument text' "receipts" = .ok (.arr rs')) (h : rs'.Perm rs) :
    (verifyChain I .native o texts text').status = (verifyChain I .native o texts text).status ∧
      ((verifyChain I .native o texts text).status ∈
          [.VALID, .UNVERIFIED, .KEY_RETIRED, .UNTRUSTED] →
        verifyChain I .native o texts text' = verifyChain I .native o texts text) := by
  have hblurred : blurred (verifyChain I .native o texts text') =
      blurred (verifyChain I .native o texts text) := by
    have hruns := @textStages_perm o rs' rs I texts h
    rw [verifyChain, verifyChain, readReceipts, readReceipts, htext, htext']
    simp only [mapError_ok, ok_bind, pure_bind]
    generalize textStages I o texts (.arr rs') = x at hruns ⊢
    generalize textStages I o texts (.arr rs) = y at hruns ⊢
    cases x with
    | ok r' =>
      cases y with
      | ok r => exact congrArg blurred hruns
      | error r => exact hruns.elim
    | error r' =>
      cases y with
      | ok r => exact hruns.elim
      | error r => exact hruns
  have hstatus : (verifyChain I .native o texts text').status =
      (verifyChain I .native o texts text).status := by
    rw [← blurred_status, hblurred, blurred_status]
  refine ⟨hstatus, fun hmem => ?_⟩
  rwa [blurred_eq (hstatus ▸ hmem), blurred_eq hmem] at hblurred

open SignedTwice in
/-- A chain of two receipts is `VALID` in either order, with one result. -/
theorem verifyChain_perm_swapped :
    let texts : VerifyTexts := ⟨some (Json.render (.obj [("k", .str keyA)])), none, none⟩
    let run := fun rs => verifyChain platform .native {} texts (Json.render (.arr rs))
    (run [genesis sigA0, second sigA1]).status = .VALID ∧
      run [second sigA1, genesis sigA0] = run [genesis sigA0, second sigA1] := by
  have hvalid : (verifyChain platform .native {}
      ⟨some (Json.render (.obj [("k", .str keyA)])), none, none⟩
      (Json.render (.arr [genesis sigA0, second sigA1]))).status = .VALID := by decide +kernel
  exact ⟨hvalid, (verifyChain_perm platform {} _ _ _ [genesis sigA0, second sigA1]
    [second sigA1, genesis sigA0] (by decide +kernel) (by decide +kernel)
    (List.Perm.swap _ _ _)).2 (by rw [hvalid]; decide)⟩

end NoaMandate
