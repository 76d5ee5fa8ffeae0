import Mathlib.Tactic.Lemma
import Mathlib.Tactic.SplitIfs

/-!
# The characters of a text

`Text.chars` lists the characters of a string by structural recursion over its UTF-8 bytes.  It is
`String.toList` (`chars_eq_toList`), in a form the kernel evaluates quickly: scanners and
serialisers that are to be run inside a proof read their strings through it.
-/

namespace Text

/-- Decode UTF-8 bytes that are known to be well formed. -/
def decode : List UInt8 → List Char
  | [] => []
  | b₀ :: bs =>
    if b₀.toNat < 0x80 then Char.ofNat b₀.toNat :: decode bs
    else if b₀.toNat < 0xe0 then
      match bs with
      | b₁ :: bs => Char.ofNat (b₀.toNat % 32 * 64 + b₁.toNat % 64) :: decode bs
      | _ => []
    else if b₀.toNat < 0xf0 then
      match bs with
      | b₁ :: b₂ :: bs =>
        Char.ofNat (b₀.toNat % 16 * 4096 + b₁.toNat % 64 * 64 + b₂.toNat % 64) :: decode bs
      | _ => []
    else
      match bs with
      | b₁ :: b₂ :: b₃ :: bs =>
        Char.ofNat (b₀.toNat % 8 * 262144 + b₁.toNat % 64 * 4096 + b₂.toNat % 64 * 64 +
          b₃.toNat % 64) :: decode bs
      | _ => []

/-- The characters of a text. -/
def chars (s : String) : List Char := decode s.toByteArray.data.toList

lemma toNat_ofNat {n : Nat} (h : n < 0xd800 ∨ 0xdfff < n ∧ n < 0x110000) :
    (Char.ofNat n).toNat = n := by
  have hchar : Char.ofNat n = Char.ofNatAux n h := dif_pos h
  rw [hchar]
  rfl

lemma ofNat_eq {c : Char} {n : Nat} (h : n = c.val.toNat) : Char.ofNat n = c := by
  rw [h]
  exact Char.ofNat_toNat c

lemma decode_utf8EncodeChar (c : Char) (bs : List UInt8) :
    decode (String.utf8EncodeChar c ++ bs) = c :: decode bs := by
  have hmax : c.val.toNat < 0x110000 := by
    rcases c.valid with h | h
    · exact Nat.lt_of_lt_of_le h (by decide)
    · exact h.2
  unfold String.utf8EncodeChar
  simp only
  -- the four lengths of an encoding
  split_ifs with h1 h2 h3
  · rw [List.singleton_append, decode.eq_def]
    simp only [UInt8.toNat_ofNat']
    rw [if_pos (by omega)]
    exact congrArg (· :: decode bs) (ofNat_eq (by omega))
  · rw [List.cons_append, List.singleton_append, decode.eq_def]
    simp only [UInt8.toNat_ofNat']
    rw [if_neg (by omega), if_pos (by omega)]
    exact congrArg (· :: decode bs) (ofNat_eq (by omega))
  · rw [List.cons_append, List.cons_append, List.singleton_append, decode.eq_def]
    simp only [UInt8.toNat_ofNat']
    rw [if_neg (by omega), if_neg (by omega), if_pos (by omega)]
    exact congrArg (· :: decode bs) (ofNat_eq (by omega))
  · rw [List.cons_append, List.cons_append, List.cons_append, List.singleton_append, decode.eq_def]
    simp only [UInt8.toNat_ofNat']
    rw [if_neg (by omega), if_neg (by omega), if_neg (by omega)]
    exact congrArg (· :: decode bs) (ofNat_eq (by omega))

lemma chars_ofList (l : List Char) : chars (String.ofList l) = l := by
  have hdecode : ∀ l : List Char, decode (l.flatMap String.utf8EncodeChar) = l := by
    intro l
    induction l with
    | nil => rfl
    | cons c l ih => rw [List.flatMap_cons, decode_utf8EncodeChar, ih]
  unfold chars
  rw [String.toByteArray_ofList, List.utf8Encode, List.data_toByteArray]
  exact hdecode l

@[simp] lemma chars_eq_toList (s : String) : chars s = s.toList := by
  have h := chars_ofList s.toList
  rwa [String.ofList_toList] at h

lemma chars_injective : Function.Injective chars := by
  intro s t h
  rw [chars_eq_toList, chars_eq_toList] at h
  exact String.toList_injective h

/-! ## Where a token ends -/

section token

variable {α : Type} {p : α → Bool} {t r : List α} (ht : ∀ c ∈ t, p c = true)
  (hr : ∀ c ∈ r.head?, p c = false)

include ht hr

lemma takeWhile_append : (t ++ r).takeWhile p = t := by
  rw [List.takeWhile_append_of_pos ht]
  cases r with
  | nil => simp
  | cons c r => simp [hr c rfl]

lemma dropWhile_append : (t ++ r).dropWhile p = r := by
  rw [List.dropWhile_append_of_pos ht]
  cases r with
  | nil => rfl
  | cons c r => simp [hr c rfl]

end token

end Text
