import NoaMandate.Kernel.SafeJson

/-!
# The tokens of canonical text

The scanners of the strict parser read the canonical string and number tokens back
(`parseString_stringRest`, `parseNumber_intText`), and a canonical text is not much longer than its
strings.

A number is the one token without a closing delimiter, so the statements about it ask that the text
after it does not continue a number (`Ends`).
-/

namespace NoaMandate

namespace SafeJson

open Json Pipeline

/-- The code units of a text given as its characters. -/
def toUnits (cs : List Char) : List Nat := cs.flatMap charUnits

@[simp] lemma toUnits_nil : toUnits [] = [] := rfl

@[simp] lemma toUnits_cons (c : Char) (cs : List Char) :
    toUnits (c :: cs) = charUnits c ++ toUnits cs := List.flatMap_cons

@[simp] lemma toUnits_append (cs ds : List Char) : toUnits (cs ++ ds) = toUnits cs ++ toUnits ds :=
  List.flatMap_append

/-! ## Strings -/

lemma decodeUnits_charUnits (c : Char) (us : List Nat) :
    decodeUnits (charUnits c ++ us) = (decodeUnits us).map (c :: ·) := by
  have hmax : c.toNat < 0x110000 := by
    rcases c.valid with h | h
    · exact Nat.lt_of_lt_of_le h (by decide)
    · exact h.2
  have hsurrogate := toNat_not_surrogate c
  unfold charUnits
  by_cases hsmall : c.toNat < 0x10000
  · rw [if_pos hsmall, List.singleton_append, decodeUnits.eq_def]
    simp only [Bool.or_eq_true, Bool.and_eq_true, decide_eq_true_eq]
    rw [if_pos (by omega), Char.ofNat_toNat]
  · rw [if_neg hsmall, List.cons_append, List.singleton_append, decodeUnits.eq_def]
    simp only [Bool.or_eq_true, Bool.and_eq_true, decide_eq_true_eq]
    have hback : 0x10000 + (0xD800 + (c.toNat - 0x10000) / 0x400 - 0xd800) * 0x400 +
        (0xDC00 + (c.toNat - 0x10000) % 0x400 - 0xdc00) = c.toNat := by omega
    rw [if_neg (by omega), if_pos (by omega), if_pos (by omega), hback, Char.ofNat_toNat]

lemma decodeUnits_toUnits (cs : List Char) : decodeUnits (toUnits cs) = some cs := by
  induction cs with
  | nil => rfl
  | cons c cs ih => rw [toUnits_cons, decodeUnits_charUnits, ih, Option.map_some]

variable {maxDepth c : Nat}

/-- A unit that stands for itself inside a string token. -/
lemma stringBody_plain (h1 : ¬ c < 0x20) (h2 : c ≠ 0x22) (h3 : c ≠ 0x5c) (text : List Nat) :
    stringBody (c :: text) = (stringBody text).map fun p => (c :: p.1, p.2) := by
  rw [stringBody.eq_def]
  split
  · rename_i h
    cases h
  · rename_i h
    exact absurd (List.cons.inj h).1 h2
  · rename_i h
    exact absurd (List.cons.inj h).1 h3
  · rename_i h
    obtain ⟨rfl, rfl⟩ := List.cons.inj h
    rw [if_neg h1]
    cases stringBody text <;> rfl

/-- The unit an escape sequence stands for. -/
def escaped : List Nat → Option Nat
  | [0x5c, e] => if e = 0x75 then none else shortEscape e
  | [0x5c, 0x75, a, b, c, d] => hex4 a b c d
  | _ => none

lemma stringBody_escaped {us : List Nat} {u : Nat} (h : escaped us = some u) (text : List Nat) :
    stringBody (us ++ text) = (stringBody text).map fun p => (u :: p.1, p.2) := by
  unfold escaped at h
  split at h
  · rename_i e
    rw [Option.ite_none_left_eq_some] at h
    obtain ⟨he, h⟩ := h
    rw [List.cons_append, List.singleton_append, stringBody.eq_def]
    simp only [h]
    cases stringBody text <;> rfl
  · rename_i a b c d
    rw [List.cons_append, List.cons_append, stringBody.eq_def]
    simp only [List.cons_append, List.nil_append, h]
    cases stringBody text <;> rfl
  · cases h

/-- The canonical spelling of a character inside a string token is read back. -/
lemma stringBody_escapeChar (c : Char) (text : List Nat) :
    stringBody (toUnits (escapeChar c) ++ text) =
      (stringBody text).map fun p => (charUnits c ++ p.1, p.2) := by
  have hcontrol : ∀ n < 0x20, escaped (toUnits (escapeChar (Char.ofNat n))) = some n ∧
      charUnits (Char.ofNat n) = [n] := by decide
  by_cases h1 : c.toNat < 0x20
  · obtain ⟨hesc, hunits⟩ := hcontrol c.toNat h1
    rw [Char.ofNat_toNat] at hesc hunits
    rw [stringBody_escaped hesc, hunits]
    rfl
  · by_cases h2 : c = '"'
    · subst h2
      have hesc : escaped [0x5c, 0x22] = some 0x22 := rfl
      exact stringBody_escaped hesc text
    · by_cases h3 : c = '\\'
      · subst h3
        have hesc : escaped [0x5c, 0x5c] = some 0x5c := rfl
        exact stringBody_escaped hesc text
      · have h2' : c.toNat ≠ 0x22 := fun h => h2 (Char.ext (UInt32.toNat_inj.mp h))
        have h3' : c.toNat ≠ 0x5c := fun h => h3 (Char.ext (UInt32.toNat_inj.mp h))
        rw [escapeChar_of_plain h1 h2 h3, toUnits_cons, toUnits_nil, List.append_nil]
        unfold charUnits
        by_cases hsmall : c.toNat < 0x10000
        · rw [if_pos hsmall, List.singleton_append, stringBody_plain h1 h2' h3']
          rfl
        · rw [if_neg hsmall, List.cons_append, List.singleton_append,
            stringBody_plain (by omega) (by omega) (by omega),
            stringBody_plain (by omega) (by omega) (by omega)]
          cases stringBody text <;> rfl

lemma stringBody_stringRest (s : String) (text : List Nat) :
    stringBody (toUnits (stringRest s) ++ text) = .ok (toUnits (Text.chars s), text) := by
  have key : ∀ cs : List Char, stringBody (toUnits (cs.flatMap escapeChar) ++ 0x22 :: text) =
      .ok (toUnits cs, text) := by
    intro cs
    induction cs with
    | nil => rfl
    | cons c cs ih =>
      rw [List.flatMap_cons, toUnits_append, List.append_assoc, stringBody_escapeChar, ih]
      rfl
  have hsplit : toUnits (stringRest s) ++ text =
      toUnits ((Text.chars s).flatMap escapeChar) ++ 0x22 :: text := by
    rw [stringRest, toUnits_append, List.append_assoc]
    rfl
  rw [hsplit, key]

/-- A canonical string token is read back. -/
lemma parseString_stringRest (s : String) (text : List Nat) :
    parseString (toUnits (stringRest s) ++ text) = .ok (s, text) := by
  have hs : String.ofList (Text.chars s) = s := by
    rw [Text.chars_eq_toList, String.ofList_toList]
  unfold parseString
  rw [stringBody_stringRest]
  change (Pipeline.demand (decodeUnits (toUnits (Text.chars s))) _ >>= _) = _
  rw [decodeUnits_toUnits]
  exact congrArg (fun s => Except.ok (s, text)) hs

/-! ## Numbers -/

/-- The text does not continue a number. -/
def Ends (text : List Nat) : Prop :=
  ∀ c ∈ text.head?, isDigit c = false ∧ c ≠ 0x2e ∧ c ≠ 0x65 ∧ c ≠ 0x45

lemma ends_nil : Ends [] := by simp [Ends]

/-- The test for a fraction or an exponent. -/
lemma Ends.head?_ne {text : List Nat} (h : Ends text) :
    (text.head? = some 0x2e || text.head? = some 0x65 || text.head? = some 0x45) = false := by
  cases text with
  | nil => rfl
  | cons c text =>
    obtain ⟨-, h1, h2, h3⟩ := h c rfl
    simp [h1, h2, h3]

lemma toUnits_digits {ds : List Char} (h : ∀ c ∈ ds, c.isDigit = true) :
    toUnits ds = ds.map Char.toNat := by
  induction ds with
  | nil => rfl
  | cons c ds ih =>
    have hc : c.toNat < 0x10000 := by
      have hdigit := h c (.head _)
      simp only [Char.isDigit, Bool.and_eq_true, decide_eq_true_eq] at hdigit
      have hle : c.val.toNat ≤ 57 := hdigit.2
      exact Nat.lt_of_le_of_lt hle (by decide)
    rw [toUnits_cons, ih fun d hd => h d (.tail _ hd), charUnits, if_pos hc]
    rfl

lemma isDigit_toNat {c : Char} (h : c.isDigit = true) : isDigit c.toNat = true := by
  simp only [Char.isDigit, Bool.and_eq_true, decide_eq_true_eq] at h
  have h1 : 48 ≤ c.val.toNat := h.1
  have h2 : c.val.toNat ≤ 57 := h.2
  simp only [isDigit, Bool.and_eq_true, decide_eq_true_eq]
  exact ⟨h1, h2⟩

lemma digitsValue_toDigits (n : Nat) : digitsValue ((Nat.toDigits 10 n).map Char.toNat) = n := by
  have h := Nat.ofDigitChars_toDigits (b := 10) (n := n) (by decide) (by decide)
  rw [Nat.ofDigitChars] at h
  rw [digitsValue, List.foldl_map]
  refine Eq.trans ?_ h
  congr 1
  funext sofar c
  rw [Nat.mul_comm]
  rfl

/-- The first digit of a positive number is not zero. -/
lemma toDigits_eq_cons_pos {n : Nat} (hn : 0 < n) :
    ∃ c t, Nat.toDigits 10 n = c :: t ∧ 0x31 ≤ c.toNat ∧ c.toNat ≤ 0x39 := by
  induction n using Nat.strongRecOn with
  | _ n ih =>
    rw [Nat.toDigits_eq_if (by decide)]
    by_cases hlt : n < 10
    · rw [if_pos hlt]
      refine ⟨n.digitChar, [], rfl, ?_⟩
      have hall : ∀ k < 10, 0 < k → 0x31 ≤ k.digitChar.toNat ∧ k.digitChar.toNat ≤ 0x39 := by decide
      exact hall n hlt hn
    · rw [if_neg hlt]
      obtain ⟨c, t, hct, hc⟩ := ih (n / 10) (by omega) (by omega)
      exact ⟨c, t ++ [(n % 10).digitChar], by rw [hct, List.cons_append], hc⟩

variable {text : List Nat}

lemma span_digits {ds : List Char} (h : ∀ c ∈ ds, c.isDigit = true) (hr : Ends text) :
    ((ds.map Char.toNat) ++ text).takeWhile isDigit = ds.map Char.toNat ∧
      ((ds.map Char.toNat) ++ text).dropWhile isDigit = text := by
  have hds : ∀ c ∈ ds.map Char.toNat, isDigit c = true :=
    List.forall_mem_map.mpr fun c hc => isDigit_toNat (h c hc)
  have htext : ∀ c ∈ text.head?, isDigit c = false := fun c hc => (hr c hc).1
  exact ⟨Text.takeWhile_append hds htext, Text.dropWhile_append hds htext⟩

/-- The digits of a number are read back. -/
lemma integerPart_toDigits (n : Nat) (hr : Ends text) :
    integerPart (toUnits (Nat.toDigits 10 n) ++ text) =
      .ok ((Nat.toDigits 10 n).map Char.toNat, text) := by
  have hdig : ∀ c ∈ Nat.toDigits 10 n, c.isDigit = true :=
    fun c hc => Nat.isDigit_of_mem_toDigits (by decide) (by decide) hc
  rw [toUnits_digits hdig]
  rcases Nat.eq_zero_or_pos n with rfl | hn
  · rfl
  · obtain ⟨c, t, hct, hc1, hc2⟩ := toDigits_eq_cons_pos hn
    rw [hct] at hdig ⊢
    obtain ⟨htake, hdrop⟩ := span_digits (fun d hd => hdig d (.tail _ hd)) hr
    rw [List.map_cons, List.cons_append, integerPart, if_neg (by omega), htake, hdrop]
    simp [hc1, hc2]

/-- A canonical number token is read back. -/
lemma parseNumber_intText {n : Int} (hn : n.natAbs ≤ maxSafe) (hr : Ends text) :
    parseNumber (toUnits (intText n) ++ text) = .ok (n, text) := by
  have hsafe : decide (maxSafe < n.natAbs) = false := by simpa using hn
  unfold intText
  by_cases hneg : n < 0
  · rw [if_pos hneg, toUnits_cons, List.append_assoc]
    change parseNumber (0x2d :: (toUnits (Nat.toDigits 10 n.natAbs) ++ text)) = _
    simp only [parseNumber, List.head?_cons, if_true, List.tail_cons,
      integerPart_toDigits _ hr]
    change (Pipeline.refuse _ _ >>= fun _ => _) = _
    rw [digitsValue_toDigits, hr.head?_ne, hsafe]
    have hval : -(n.natAbs : Int) = n := by omega
    exact congrArg (fun m => Except.ok (m, text)) hval
  · rw [if_neg hneg]
    obtain ⟨c, t, hct, hc⟩ := toDigits_eq_cons n.natAbs
    have hhead : ¬ (toUnits (Nat.toDigits 10 n.natAbs) ++ text).head? = some 0x2d := by
      have hne : c.toNat ≠ 0x2d := by
        have hd := isDigit_toNat hc
        intro he
        rw [he] at hd
        cases hd
      rw [toUnits_digits (fun c hc => Nat.isDigit_of_mem_toDigits (by decide) (by decide) hc), hct]
      simpa using hne
    simp only [parseNumber, if_neg hhead, integerPart_toDigits _ hr]
    change (Pipeline.refuse _ _ >>= fun _ => _) = _
    rw [digitsValue_toDigits, hr.head?_ne, hsafe]
    have hval : (n.natAbs : Int) = n := by omega
    exact congrArg (fun m => Except.ok (m, text)) hval

/-! ## Values -/

mutual

/-- No object in the value has a forbidden member name. -/
def Allowed : Json → Prop
  | .arr xs => AllowedElems xs
  | .obj ms => AllowedMembers ms
  | _ => True

/-- `Allowed` at every element. -/
def AllowedElems : List Json → Prop
  | [] => True
  | x :: xs => Allowed x ∧ AllowedElems xs

/-- `Allowed` at every member, names included. -/
def AllowedMembers : List (String × Json) → Prop
  | [] => True
  | (k, v) :: ms => (k ∉ forbiddenKeys ∧ Allowed v) ∧ AllowedMembers ms

end

lemma allowedElems_iff (xs : List Json) : AllowedElems xs ↔ ∀ x ∈ xs, Allowed x := by
  induction xs with
  | nil => simp [AllowedElems]
  | cons x xs ih => simp [AllowedElems, ih]

lemma allowedMembers_iff (ms : List (String × Json)) :
    AllowedMembers ms ↔ ∀ m ∈ ms, m.1 ∉ forbiddenKeys ∧ Allowed m.2 := by
  induction ms with
  | nil => simp [AllowedMembers]
  | cons m ms ih => obtain ⟨k, v⟩ := m; simp [AllowedMembers, ih]

lemma ends_cons (h : isDigit c = false ∧ c ≠ 0x2e ∧ c ≠ 0x65 ∧ c ≠ 0x45)
    (text : List Nat) : Ends (c :: text) := by
  intro d hd
  rw [List.head?_cons, Option.mem_some_iff] at hd
  exact hd ▸ h

lemma ends_renderElems (xs : List Json) (text : List Nat) :
    Ends (toUnits (renderElems false xs) ++ text) := by
  cases xs with
  | nil => exact ends_cons (c := 0x5d) (by decide) _
  | cons x xs => exact ends_cons (c := 0x2c) (by decide) _

lemma ends_renderMembers (ms : List (String × Json)) (text : List Nat) :
    Ends (toUnits (renderMembers false ms) ++ text) := by
  cases ms with
  | nil => exact ends_cons (c := 0x7d) (by decide) _
  | cons m ms => exact ends_cons (c := 0x2c) (by decide) _

/-- A value that starts as a number is read as one. -/
lemma parseValue_number {fuel depth : Nat} {t rest : List Nat} {n : Int}
    (hdepth : depth ≤ maxDepth) (hskip : skipWs text = c :: t)
    (hc : c = 0x2d ∨ 0x30 ≤ c ∧ c ≤ 0x39) (hnum : parseNumber (c :: t) = .ok (n, rest)) :
    parseValue maxDepth (fuel + 1) depth text = .ok (.num n, rest) := by
  have hne : c ≠ 0x7b ∧ c ≠ 0x5b ∧ c ≠ 0x22 ∧ c ≠ 0x74 ∧ c ≠ 0x66 ∧ c ≠ 0x6e := by omega
  rw [parseValue, if_neg (Nat.not_lt.mpr hdepth), hskip]
  simp only [hne, if_false, decide_false, Bool.or_self, Bool.false_eq_true]
  rw [if_pos (by simpa [isDigit] using hc), hnum]
  rfl

/-! ## Documents -/

/-- A text has no more code units than UTF-8 bytes. -/
lemma length_toUnits_le (cs : List Char) : (toUnits cs).length ≤ utf8Length cs := by
  induction cs with
  | nil => exact le_rfl
  | cons c cs ih =>
    have hc : (charUnits c).length ≤ c.utf8Size := by
      unfold charUnits
      by_cases hsmall : c.toNat < 0x10000
      · rw [if_pos hsmall]
        exact Char.utf8Size_pos c
      · have hbig : ∀ m : UInt32, m.toNat ≤ 65535 → ¬ c.val ≤ m := by
          intro m hm hle
          have hle' : c.val.toNat ≤ m.toNat := hle
          exact hsmall (Nat.lt_of_le_of_lt (Nat.le_trans hle' hm) (by decide))
        rw [if_neg hsmall, Char.utf8Size]
        rw [if_neg (hbig _ (by decide)), if_neg (hbig _ (by decide)), if_neg (hbig _ (by decide))]
        simp
    rw [toUnits_cons, List.length_append, utf8Length, List.map_cons, List.sum_cons]
    exact Nat.add_le_add hc ih

lemma length_le_length_toUnits (cs : List Char) : cs.length ≤ (toUnits cs).length := by
  induction cs with
  | nil => exact le_rfl
  | cons c cs ih =>
    have hc : 1 ≤ (charUnits c).length := by
      unfold charUnits
      split <;> simp
    rw [toUnits_cons, List.length_append, List.length_cons]
    omega

end SafeJson

/-! ## How long a text is -/

lemma utf8Length_append (xs ys : List Char) :
    utf8Length (xs ++ ys) = utf8Length xs + utf8Length ys := by
  simp [utf8Length]

lemma utf8Length_cons (c : Char) (cs : List Char) :
    utf8Length (c :: cs) = c.utf8Size + utf8Length cs := by
  simp [utf8Length]

lemma length_escapeChar_le (c : Char) : (Json.escapeChar c).length ≤ 6 := by
  by_cases hctl : c.toNat < 0x20
  · rw [← Char.ofNat_toNat c]
    generalize c.toNat = n at hctl ⊢
    interval_cases n <;> decide
  · unfold Json.escapeChar
    split
    all_goals simp [hctl]

lemma utf8Length_le (cs : List Char) : utf8Length cs ≤ 4 * cs.length := by
  induction cs with
  | nil => simp [utf8Length]
  | cons c cs ih =>
    have := c.utf8Size_le_four
    rw [utf8Length_cons, List.length_cons]
    omega

/-- A string token is at most 24 bytes long for every unit, plus its quotes. -/
lemma utf8Length_stringText_le (s : String) :
    utf8Length (Json.stringText s) ≤ 24 * (Json.units s).length + 2 := by
  have key : ∀ cs : List Char, utf8Length (cs.flatMap Json.escapeChar) ≤
      24 * (cs.flatMap Json.charUnits).length := by
    intro cs
    induction cs with
    | nil => simp [utf8Length]
    | cons c cs ih =>
      have hesc := utf8Length_le (Json.escapeChar c)
      have hlen := length_escapeChar_le c
      have hunit : 1 ≤ (Json.charUnits c).length := by
        unfold Json.charUnits
        split <;> simp
      rw [List.flatMap_cons, utf8Length_append, List.flatMap_cons, List.length_append]
      omega
  have hquote : utf8Length ['"'] = 1 := by decide
  have := key (Text.chars s)
  rw [Json.stringText, utf8Length_cons, Json.stringRest, utf8Length_append, hquote, Json.units]
  have : ('"' : Char).utf8Size = 1 := by decide
  omega

/-- The length of an object whose names and values are strings of at most `n` units. -/
lemma utf8Length_strings_le {n : Nat} (ms : List (String × String))
    (h : ∀ m ∈ ms, (Json.units m.1).length ≤ n ∧ (Json.units m.2).length ≤ n) (first : Bool) :
    utf8Length (Json.renderMembers first (ms.map fun m => (m.1, .str m.2))) ≤
      ms.length * (48 * n + 6) + 1 := by
  have hpunct : utf8Length [','] = 1 ∧ utf8Length ['\x7d'] = 1 ∧ Char.utf8Size ':' = 1 := by decide
  induction ms generalizing first with
  | nil => simp [Json.renderMembers, hpunct]
  | cons m ms ih =>
    have hm := h m (.head _)
    have hname := utf8Length_stringText_le m.1
    have hvalue := utf8Length_stringText_le m.2
    have hrest := ih (fun x hx => h x (.tail _ hx)) false
    have hsep : utf8Length (if first then [] else [',']) ≤ 1 := by
      cases first
      · exact hpunct.1.le
      · simp [utf8Length]
    simp only [List.map_cons, Json.renderMembers, Json.render, utf8Length_append, utf8Length_cons,
      hpunct, List.length_cons, Nat.add_mul, Nat.one_mul]
    omega

end NoaMandate
