import NoaMandate.Kernel.SafeJsonSound
import NoaMandate.Signer.Sidecar

/-!
# The journal of spent approvals

What is written to the journal is what a restart reads back.  A journal of whole entries is read as
the entries entered one after the other (`load_journalText`); the one other outcome is that the
process refuses to start, which happens when an entry is longer than the parser's ceiling.
-/

namespace NoaMandate

open Pipeline

namespace Signer.Replay

variable {file : String} {seen : Seen} {e : String × Int}

/-! ## The record -/

/-- The record after the given entries were entered in order. -/
def recorded (es : Seen) : Seen := es.foldl (fun seen e => set seen e.1 e.2) []

@[simp] lemma recorded_concat (es : Seen) (e : String × Int) :
    recorded (es ++ [e]) = set (recorded es) e.1 e.2 := by
  simp [recorded]

lemma lookup_set (seen : Seen) (ref k : String) (ms : Int) :
    (set seen ref ms).lookup k = if k = ref then some ms else seen.lookup k :=
  Assoc.lookup_put seen ref k ms

lemma nodup_set (h : (seen.map Prod.fst).Nodup) (ref : String) (ms : Int) :
    ((set seen ref ms).map Prod.fst).Nodup := by
  unfold set
  split
  · rwa [Json.setMember_fst]
  · rename_i hout
    exact Assoc.nodup_append h (Option.not_isSome_iff_eq_none.mp hout) ms

/-- A record with distinct keys is what entering its entries gives. -/
lemma recorded_of_nodup (h : (seen.map Prod.fst).Nodup) : recorded seen = seen := by
  induction seen using List.reverseRecOn with
  | nil => rfl
  | append_singleton es e ih =>
    rw [List.map_append, List.nodup_append] at h
    have hfresh : es.lookup e.1 = none :=
      Assoc.lookup_eq_none_iff.mpr fun hmem => h.2.2 _ hmem e.1 (by simp) rfl
    rw [recorded_concat, ih h.1, set, hfresh]
    rfl

lemma nodup_prune (h : (seen.map Prod.fst).Nodup) (retentionMs nowMs : Int) :
    ((prune retentionMs nowMs seen).map Prod.fst).Nodup :=
  h.sublist (List.Sublist.map _ List.filter_sublist)

/-- Pruning keeps the entries that have not expired. -/
lemma lookup_prune {ref : String} {ms retentionMs nowMs : Int} (h : seen.lookup ref = some ms)
    (hlive : nowMs ≤ expiryFor retentionMs ms) :
    (prune retentionMs nowMs seen).lookup ref = some ms := by
  obtain ⟨l1, l2, rfl, hl1⟩ := List.lookup_eq_some_iff.mp h
  refine List.lookup_eq_some_iff.mpr ⟨prune retentionMs nowMs l1, prune retentionMs nowMs l2, ?_,
    fun m hm => hl1 m (List.mem_of_mem_filter hm)⟩
  have hkeep : (!decide (nowMs > expiryFor retentionMs ms)) = true := by simpa using hlive
  rw [prune, List.filter_append, List.filter_cons, if_pos hkeep]
  rfl

/-! ## Lines -/

lemma lines_append_newline {line : List Char} (h : '\n' ∉ line) (text : List Char) :
    lines (line ++ '\n' :: text) = line :: lines text := by
  induction line with
  | nil => simp [lines]
  | cons c line ih =>
    rw [List.mem_cons, not_or] at h
    rw [List.cons_append, lines, if_neg (Ne.symm h.1), ih h.2]
    rfl

lemma newline_not_mem_escapeChar (c : Char) : '\n' ∉ Json.escapeChar c := by
  unfold Json.escapeChar
  split
  all_goals try decide
  split
  · rename_i hlt
    -- the other control characters are written with four hex digits
    have hall : ∀ n < 0x20, '\n' ∉ '\\' :: 'u' :: (Nat.toDigits 16 n).leftpad 4 '0' := by decide
    exact hall _ hlt
  · rename_i hctl _ _ _ _ hnl _ _
    simp only [List.mem_singleton]
    rintro rfl
    simp_all

lemma newline_not_mem_stringText (s : String) : '\n' ∉ Json.stringText s := by
  simp only [Json.stringText, Json.stringRest, mem_iff, List.mem_append, List.mem_flatMap, not_or]
  refine ⟨by decide, ?_, by decide⟩
  rintro ⟨c, -, hc⟩
  exact newline_not_mem_escapeChar c hc

lemma newline_not_mem_intText (n : Int) : '\n' ∉ Json.intText n := by
  have hdigits : '\n' ∉ Nat.toDigits 10 n.natAbs := fun h =>
    absurd (Nat.isDigit_of_mem_toDigits (by decide) (by decide) h) (by decide)
  unfold Json.intText
  split
  · rw [List.mem_cons, not_or]
    exact ⟨by decide, hdigits⟩
  · exact hdigits

lemma newline_not_mem_entryText (e : String × Int) : '\n' ∉ entryText e := by
  simp only [entryText, Json.render, Json.renderMembers, List.mem_cons, List.mem_append, not_or]
  have hs := newline_not_mem_stringText
  have hn := newline_not_mem_intText
  simp [hs, hn]

lemma lines_journalText (es : Seen) : lines (journalText es) = es.map entryText ++ [[]] := by
  induction es with
  | nil => rfl
  | cons e es ih =>
    have hcons : journalText (e :: es) = entryText e ++ '\n' :: journalText es := by
      simp [journalText]
    rw [hcons, lines_append_newline (newline_not_mem_entryText e), ih]
    rfl

/-! ## Reading back -/

/-- An entry the journal can hold. -/
def Storable (e : String × Int) : Prop := e.1 ≠ "" ∧ e.2.natAbs ≤ Json.maxSafe

/-- An entry is read back as it was written, unless its line is past the parser's ceiling. -/
lemma readEntry_entryText (he : Storable e) {out : String × Int}
    (h : readEntry file (entryText e) = .ok out) : out = e := by
  obtain ⟨ref, ms⟩ := e
  obtain ⟨hne, hsafe⟩ := he
  by_cases hlen : utf8Length (entryText (ref, ms)) ≤ MAX_INPUT_BYTES
  · have hparse : parseDocument (entryText (ref, ms)) "replay journal entry" =
        .ok (.obj [("ref", .str ref), ("approvalMs", .num ms)]) := by
      refine parseDocument_render ?_ ?_ ?_ hlen _
      · rw [Json.distinct_obj]
        simp [Json.Distinct]
      · simp [SafeJson.Allowed, SafeJson.AllowedMembers, SafeJson.forbiddenKeys]
      · rw [Json.fits_obj]
        simpa [Json.Fits] using hsafe
    have hread : readEntry file (entryText (ref, ms)) = .ok (ref, ms) := by
      have hname : asString (some (.str ref)) = some ref := if_neg hne
      rw [readEntry, hparse]
      change (do
        let ref ← demand (asString (some (.str ref))) _
        pure (ref, ms)) = _
      rw [hname]
      rfl
    exact (ok_unique hread h).symm
  · have hrefused : parseDocument (entryText (ref, ms)) "replay journal entry" =
        .error ("replay journal entry" ++ ": input exceeds the " ++ toString MAX_INPUT_BYTES ++
          "-byte ceiling") := if_pos (Nat.lt_of_not_le hlen)
    rw [readEntry, hrefused] at h
    cases h

lemma not_isSpace_entryText (e : String × Int) : (entryText e).all isSpace = false := by
  simp only [entryText, Json.render, List.all_cons]
  rfl

lemma loadLines_entries (es : Seen) (hes : ∀ e ∈ es, Storable e) :
    ∀ {seen out : Seen}, loadLines file seen (es.map entryText ++ [[]]) = .ok out →
      out = es.foldl (fun seen e => set seen e.1 e.2) seen := by
  induction es with
  | nil =>
    intro seen out h
    exact (Except.ok.inj h).symm
  | cons e es ih =>
    intro seen out h
    rw [List.map_cons, List.cons_append, loadLines, not_isSpace_entryText, if_neg (by simp)] at h
    obtain ⟨e', he', hrest⟩ := bind_eq_ok_iff.mp h
    obtain rfl := readEntry_entryText (hes e (.head _)) he'
    exact ih (fun e he => hes e (.tail _ he)) hrest

/-- A process that starts on a journal of whole entries has them in its record. -/
theorem load_journalText {es out : Seen} (hes : ∀ e ∈ es, Storable e)
    (h : load file (some (journalText es)) = .ok out) : out = recorded es := by
  rw [load, lines_journalText] at h
  exact loadLines_entries es hes h

/-! ## A record that was read back -/

/-- A record the journal can hold, with one entry for each approval. -/
structure Sound (seen : Seen) : Prop where
  nodup : (seen.map Prod.fst).Nodup
  storable : ∀ e ∈ seen, Storable e

lemma Sound.set (h : Sound seen) (he : Storable e) : Sound (set seen e.1 e.2) where
  nodup := nodup_set h.nodup _ _
  storable m hm := by
    unfold Replay.set at hm
    split at hm
    · obtain ⟨m0, hm0, rfl⟩ := List.mem_map.mp hm
      split
      · exact he
      · exact h.storable m0 hm0
    · rcases List.mem_append.mp hm with hm | hm
      · exact h.storable m hm
      · obtain rfl := List.mem_singleton.mp hm
        exact he

lemma Sound.prune (h : Sound seen) (retentionMs nowMs : Int) :
    Sound (prune retentionMs nowMs seen) where
  nodup := nodup_prune h.nodup _ _
  storable m hm := h.storable m (List.mem_of_mem_filter hm)

lemma readEntry_storable {line : List Char} (h : readEntry file line = .ok e) : Storable e := by
  simp only [readEntry, ok_iff, Option.filter_eq_some_iff] at h
  obtain ⟨v, ⟨hv, -⟩, ref, href, h⟩ := h
  obtain ⟨-, hne⟩ := nonEmptyStr?_eq_some_iff.mp href
  have hparse : parseDocument line "replay journal entry" = .ok v := by
    cases hp : parseDocument line "replay journal entry" with
    | error _ => rw [hp] at hv; cases hv
    | ok w => rw [hp] at hv; rw [Option.some.inj hv]
  split at h
  · rename_i ms hms
    cases h
    refine ⟨hne, ?_⟩
    have hfits := (parseDocument_wellFormed hparse).fits
    cases v with
    | obj members =>
      rw [Json.get?_obj] at hms
      exact (((Json.fits_obj _ _ _).mp hfits).2 _ (Assoc.mem_of_lookup hms)).2
    | _ => cases hms
  · cases h

lemma loadLines_sound (ls : List (List Char)) :
    ∀ {seen out : Seen}, Sound seen → loadLines file seen ls = .ok out → Sound out := by
  induction ls with
  | nil =>
    intro seen out hseen h
    cases h
    exact hseen
  | cons line ls ih =>
    intro seen out hseen h
    rw [loadLines] at h
    split at h
    · exact ih hseen h
    · obtain ⟨e, he, hrest⟩ := bind_eq_ok_iff.mp h
      exact ih (hseen.set (readEntry_storable he)) hrest

/-- Whatever the journal holds, a record that is read from it is sound. -/
theorem load_sound {journal : Option (List Char)} {out : Seen} (h : load file journal = .ok out) :
    Sound out := by
  have hnil : Sound [] := ⟨by simp, by simp⟩
  cases journal with
  | none =>
    cases h
    exact hnil
  | some text => exact loadLines_sound _ hnil h

end Signer.Replay

end NoaMandate
