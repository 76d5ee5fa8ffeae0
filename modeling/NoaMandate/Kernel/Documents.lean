import NoaMandate.Kernel.StrictBytes
import NoaMandate.Lib.JsValue

/-!
# A document as text and as bytes

A document is handed over as bytes or, for convenience, as a string.  A string is held to the same
ceiling by a scan over its code units, which adds up the length of the UTF-8 encoding, stops at an
unpaired surrogate and ends early above the ceiling.

`text_and_bytes_agree`: the scan accepts the strings that have an encoding within the ceiling, and a
string and its encoding are one document.
-/

namespace NoaMandate

namespace Document

open Pipeline
open SafeJson (toUnits decodeUnits)

inductive Input where
  | text (s : JsString)
  | bytes (bs : List UInt8)
  | other

/-- The length of the UTF-8 encoding on top of `total`, or one above the ceiling; `none` for an
unpaired surrogate. Source: `bytes.ts` `utf8Length`. -/
def scanLength (total : Nat) (units : List Nat) : Option Nat :=
  -- the test at the end of a round, which the first round passes
  if MAX_INPUT_BYTES < total then some total
  else
    match units with
    | [] => some total
    | c :: rest =>
      if c < 0x80 then scanLength (total + 1) rest
      else if c < 0x800 then scanLength (total + 2) rest
      else if 0xd800 ≤ c && c ≤ 0xdbff then
        match rest with
        | next :: rest =>
          if next < 0xdc00 || 0xdfff < next then none else scanLength (total + 4) rest
        | [] => none
      else if 0xdc00 ≤ c && c ≤ 0xdfff then none
      else scanLength (total + 3) rest

/-- The code units of a document's text. Source: `bytes.ts` `decodeDocument`. -/
def decodeDocument (what : String) : Input → Except String (List Nat)
  | .text s => do
    let len ← demand (scanLength 0 (s.map Fin.val))
      (what ++ ": text is not well-formed Unicode (unpaired surrogate)")
    refuse (MAX_INPUT_BYTES < len)
      (what ++ ": input exceeds the " ++ toString MAX_INPUT_BYTES ++ "-byte ceiling")
    return s.map Fin.val
  | .bytes bs => (NoaMandate.decodeDocument .utf8 bs what).map toUnits
  | .other => .error (what ++ ": expected Uint8Array or string — a security-sensitive document is " ++
      "bytes, never a caller-owned object (ADR §3.1)")

/-- Source: `bytes.ts` `parseDocument`. -/
def parseDocument (what : String) (input : Input) : Except String Json := do
  let units ← decodeDocument what input
  match SafeJson.safeParse 64 MAX_INPUT_BYTES units with
  | .ok v => .ok v
  | .error (problem, pos) =>
    .error (what ++ ": " ++ problem.message ++ " (at position " ++ toString pos ++ ")")

/-! ## The scan -/

/-- The scan steps over the units of a character and adds the size of its encoding. -/
lemma scanLength_charUnits {total : Nat} (htotal : total ≤ MAX_INPUT_BYTES) (c : Char)
    (us : List Nat) :
    scanLength total (Json.charUnits c ++ us) = scanLength (total + c.utf8Size) us := by
  have hsurrogate := Json.toNat_not_surrogate c
  have hmax := Json.toNat_lt c
  have hsize : c.utf8Size = if c.toNat < 0x80 then 1 else if c.toNat < 0x800 then 2
      else if c.toNat < 0x10000 then 3 else 4 := by
    simp only [Char.utf8Size, UInt32.le_iff_toNat_le, ← Nat.lt_succ_iff]
    rfl
  rw [Json.charUnits, hsize]
  by_cases hsmall : c.toNat < 0x10000
  · rw [if_pos hsmall, List.singleton_append, scanLength.eq_def, if_neg htotal.not_gt]
    simp only [test_iff, hsmall, if_true]
    split_ifs <;> first | rfl | omega
  · rw [if_neg hsmall, List.cons_append, List.singleton_append, scanLength.eq_def,
      if_neg htotal.not_gt]
    simp only [test_iff]
    split_ifs <;> first | rfl | omega

lemma scanLength_toUnits (cs : List Char) : ∀ {total : Nat}, total ≤ MAX_INPUT_BYTES →
    ∃ n, scanLength total (toUnits cs) = some n ∧
      (MAX_INPUT_BYTES < n ↔ MAX_INPUT_BYTES < total + utf8Length cs) := by
  induction cs with
  | nil =>
    intro total h
    exact ⟨total, by rw [scanLength.eq_def, if_neg h.not_gt]; rfl, Iff.rfl⟩
  | cons c cs ih =>
    intro total htotal
    rw [SafeJson.toUnits_cons, scanLength_charUnits htotal, utf8Length_cons, ← Nat.add_assoc]
    by_cases hlt : MAX_INPUT_BYTES < total + c.utf8Size
    · exact ⟨_, by rw [scanLength.eq_def, if_pos hlt], by omega⟩
    · exact ih (Nat.le_of_not_lt hlt)

/-- Units that the scan adds up to a length within the ceiling have a decoding. -/
lemma isSome_decodeUnits {us : List Nat} (hus : ∀ u ∈ us, u < 0x10000) {total n : Nat}
    (h : scanLength total us = some n) (hn : n ≤ MAX_INPUT_BYTES) : (decodeUnits us).isSome := by
  -- a unit that stands for itself
  have hplain : ∀ {u us}, (u < 0xd800 ∨ 0xdfff < u ∧ u < 0x10000) → (decodeUnits us).isSome →
      (decodeUnits (u :: us)).isSome := by
    intro u us hu hrest
    rw [SafeJson.decodeUnits.eq_def]
    simpa [hu] using hrest
  fun_induction scanLength total us with
  | case1 total us hover =>
    cases h
    omega
  | case2 => rfl
  | case3 total hover u us hu ih | case4 total hover u us hu hu' ih =>
    exact hplain (by omega) (ih (fun v hv => hus v (.tail _ hv)) h)
  | case6 total hover u hu hu' hhigh v us hv ih =>
    have hrest := ih (fun w hw => hus w (.tail _ (.tail _ hw))) h
    simp only [test_iff] at hhigh hv
    rw [SafeJson.decodeUnits.eq_def]
    simp only [test_iff]
    rw [if_neg (by omega), if_pos (by omega), if_pos (by omega), Option.isSome_map]
    exact hrest
  | case9 total hover u us hu hu' hhigh hlow ih =>
    simp only [test_iff] at hhigh hlow
    have hunit := hus u (.head _)
    exact hplain (by omega) (ih (fun v hv => hus v (.tail _ hv)) h)
  | _ => cases h

/-! ## Texts and their encodings -/

lemma length_encode (cs : List Char) : (Utf8Codec.utf8.encode cs).length = utf8Length cs :=
  (SafeJson.utf8Length_eq_utf8ByteSize cs).symm

lemma decodeDocument_text {s : JsString} {cs : List Char} (hs : s.map Fin.val = toUnits cs)
    (what : String) :
    decodeDocument what (.text s) = decodeDocument what (.bytes (Utf8Codec.utf8.encode cs)) := by
  obtain ⟨n, hn, hover⟩ := scanLength_toUnits cs (Nat.zero_le _)
  rw [Nat.zero_add] at hover
  have hdecode : Utf8Codec.utf8.decode (Utf8Codec.utf8.encode cs) = some cs :=
    Utf8Codec.utf8.decode_eq_some_iff.mpr rfl
  simp only [decodeDocument, NoaMandate.decodeDocument, hs, hn, hdecode, length_encode,
    demand, ok_bind, decide_eq_decide.mpr hover]
  by_cases hlt : MAX_INPUT_BYTES < utf8Length cs
  · rw [decide_eq_true hlt]
    rfl
  · rw [decide_eq_false hlt]
    rfl

lemma exists_decodeDocument_text_iff {what : String} {s : JsString} :
    (∃ t, decodeDocument what (.text s) = .ok t) ↔
      ∃ cs, s.map Fin.val = toUnits cs ∧ (Utf8Codec.utf8.encode cs).length ≤ MAX_INPUT_BYTES := by
  have hus : ∀ u ∈ s.map Fin.val, u < 0x10000 := List.forall_mem_map.mpr fun u _ => u.isLt
  constructor
  · rintro ⟨t, ht⟩
    simp only [decodeDocument, ok_iff, test_iff] at ht
    obtain ⟨n, hn, _, hlen, -⟩ := ht
    have hlen : n ≤ MAX_INPUT_BYTES := by simpa using hlen
    obtain ⟨cs, hcs⟩ := Option.isSome_iff_exists.mp (isSome_decodeUnits hus hn hlen)
    have hunits := SafeJson.toUnits_of_decodeUnits hcs
    obtain ⟨m, hm, hover⟩ := scanLength_toUnits cs (Nat.zero_le _)
    rw [hunits, hn, Option.some.injEq] at hm
    refine ⟨cs, hunits.symm, ?_⟩
    rw [length_encode]
    omega
  · rintro ⟨cs, hs, hlen⟩
    rw [decodeDocument_text hs]
    refine ⟨toUnits cs, ?_⟩
    simp only [decodeDocument, NoaMandate.decodeDocument, decide_eq_false hlen.not_gt,
      Utf8Codec.utf8.decode_eq_some_iff.mpr rfl]
    rfl

/-- A string is accepted exactly if it is well-formed Unicode whose encoding is within the ceiling; a
string and its encoding are one document, and so are bytes and the text they decode to. -/
theorem text_and_bytes_agree (what : String) :
    (∀ s : JsString, (∃ t, decodeDocument what (.text s) = .ok t) ↔
      ∃ cs, s.map Fin.val = toUnits cs ∧
        (Utf8Codec.utf8.encode cs).length ≤ MAX_INPUT_BYTES) ∧
    (∀ (s : JsString) (cs : List Char), s.map Fin.val = toUnits cs →
      parseDocument what (.text s) = parseDocument what (.bytes (Utf8Codec.utf8.encode cs))) ∧
    ∀ (bytes : List UInt8) (cs : List Char), Utf8Codec.utf8.decode bytes = some cs →
      parseDocument what (.bytes bytes) = parseDocument what (.text (.ofChars cs)) := by
  have hsame : ∀ (s : JsString) (cs : List Char), s.map Fin.val = toUnits cs →
      parseDocument what (.text s) = parseDocument what (.bytes (Utf8Codec.utf8.encode cs)) := by
    intro s cs hs
    rw [parseDocument, decodeDocument_text hs, ← parseDocument]
  refine ⟨fun s => exists_decodeDocument_text_iff, hsame, fun bytes cs hcs => ?_⟩
  rw [hsame _ cs (JsString.map_val_ofChars cs), Utf8Codec.utf8.decode_eq_some_iff.mp hcs]

end Document

end NoaMandate
