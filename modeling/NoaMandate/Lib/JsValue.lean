import NoaMandate.Lib.Canonical

/-!
# The values of a scripting language that JSON texts describe

A string is a list of 16-bit code units, well formed or not, and a number is a binary64 number.

* `JsString.codePoints` walks a string by code points; a surrogate without its partner stands for
  itself.  `codePoints_injective`: nothing is lost.
* `JsString.quote` is the string token in which a lone surrogate is escaped, so the text is always
  well formed; `quote_append_inj` reads a token off the front of a text.
* `JsNumber` has the finite numbers, a second zero and the two infinities that a literal past the
  range is read as.  How a finite number is written is a parameter; `Numerals` is what is asked of
  it, and `exactText` meets it (`numerals_exactText`).
* `JsValue.plain` reads the second zero as zero and an infinity as `null`.
-/

/-! ## Strings -/

/-- A string: its UTF-16 code units. -/
abbrev JsString := List (Fin 0x10000)

instance neZero_codeUnits : NeZero 0x10000 := ⟨by decide⟩

instance : LawfulBEq JsString := inferInstance

namespace JsString

/-- The string of a text. -/
def ofString (s : String) : JsString := (Json.units s).map (Fin.ofNat 0x10000)

/-- The string of a list of characters. -/
def ofChars (cs : List Char) : JsString := (cs.flatMap Json.charUnits).map (Fin.ofNat 0x10000)

lemma map_val_ofChars (cs : List Char) : (ofChars cs).map Fin.val = cs.flatMap Json.charUnits := by
  rw [ofChars, List.map_map]
  refine (List.map_congr_left fun u hu => Nat.mod_eq_of_lt ?_).trans (List.map_id _)
  obtain ⟨c, -, hc⟩ := List.mem_flatMap.mp hu
  have hmax := Json.toNat_lt c
  unfold Json.charUnits at hc
  split at hc
  · rw [List.mem_singleton.mp hc]
    assumption
  · rcases List.mem_cons.mp hc with h | h
    · omega
    · rw [List.mem_singleton] at h
      omega

lemma ofString_injective : Function.Injective ofString := by
  intro s t h
  apply Json.units_injective
  have hval := congrArg (List.map Fin.val) h
  rwa [ofString, Json.units, ← ofChars, map_val_ofChars, ofString, Json.units, ← ofChars,
    map_val_ofChars] at hval

lemma ofChars_injective : Function.Injective ofChars := by
  have hstring : ∀ cs, ofChars cs = ofString (String.ofList cs) := by
    intro cs
    rw [ofString, Json.units, Text.chars_ofList, ofChars]
  intro cs ds h
  rw [hstring, hstring] at h
  exact String.ofList_injective (ofString_injective h)

/-- Is the code unit the first half of a pair? -/
def isHigh (u : Fin 0x10000) : Bool := 0xD800 ≤ u.val && u.val < 0xDC00

/-- Is the code unit the second half of a pair? -/
def isLow (u : Fin 0x10000) : Bool := 0xDC00 ≤ u.val && u.val < 0xE000

/-- The code points of a string, a surrogate that is not part of a pair included. -/
def codePoints : JsString → List Nat
  | [] => []
  | [u] => [u.val]
  | u :: l :: us =>
    if isHigh u && isLow l then
      (0x10000 + (u.val - 0xD800) * 0x400 + (l.val - 0xDC00)) :: codePoints us
    else u.val :: codePoints (l :: us)

/-- Is the code point a surrogate? -/
def isSurrogate (n : Nat) : Bool := 0xD800 ≤ n && n < 0xE000

/-- Is every surrogate part of a pair? -/
def isWellFormed (s : JsString) : Bool := (codePoints s).all fun n => !isSurrogate n

/-- The text a well-formed string is. -/
def toString? (s : JsString) : Option String :=
  if isWellFormed s then some (String.ofList ((codePoints s).map Char.ofNat)) else none

/-- The code units of a code point. -/
def pointUnits (n : Nat) : List Nat :=
  if n < 0x10000 then [n]
  else [0xD800 + (n - 0x10000) / 0x400, 0xDC00 + (n - 0x10000) % 0x400]

lemma pointUnits_of_unit (u : Fin 0x10000) : pointUnits u.val = [u.val] := if_pos u.isLt

lemma pointUnits_pair {u l : Fin 0x10000} (h : (isHigh u && isLow l) = true) :
    pointUnits (0x10000 + (u.val - 0xD800) * 0x400 + (l.val - 0xDC00)) = [u.val, l.val] := by
  simp only [isHigh, isLow, Bool.and_eq_true, decide_eq_true_eq] at h
  have hnot : ¬ 0x10000 + (u.val - 0xD800) * 0x400 + (l.val - 0xDC00) < 0x10000 := by omega
  rw [pointUnits, if_neg hnot, List.cons.injEq, List.cons.injEq]
  exact ⟨by omega, by omega, rfl⟩

/-- The code points spell the string. -/
lemma flatMap_pointUnits (s : JsString) : (codePoints s).flatMap pointUnits = s.map Fin.val := by
  induction s using codePoints.induct with
  | case1 => rfl
  | case2 u => simp [codePoints, pointUnits_of_unit]
  | case3 u l us h ih => rw [codePoints, if_pos h, List.flatMap_cons, pointUnits_pair h, ih]; rfl
  | case4 u l us h ih =>
    rw [codePoints, if_neg h, List.flatMap_cons, pointUnits_of_unit, ih]
    rfl

lemma codePoints_injective : Function.Injective codePoints := by
  intro s t h
  refine List.map_injective_iff.mpr Fin.val_injective ?_
  rw [← flatMap_pointUnits, ← flatMap_pointUnits, h]

lemma codePoints_lt (s : JsString) : ∀ n ∈ codePoints s, n < 0x110000 := by
  induction s using codePoints.induct with
  | case1 =>
    intro n hn
    cases hn
  | case2 u =>
    intro n hn
    have hu := u.isLt
    rw [codePoints, List.mem_singleton] at hn
    omega
  | case3 u l us h ih =>
    intro n hn
    rw [codePoints, if_pos h] at hn
    rcases List.mem_cons.mp hn with hn | hn
    · simp only [isHigh, isLow, Bool.and_eq_true, decide_eq_true_eq] at h
      omega
    · exact ih n hn
  | case4 u l us h ih =>
    intro n hn
    have hu := u.isLt
    rw [codePoints, if_neg h] at hn
    rcases List.mem_cons.mp hn with hn | hn
    · omega
    · exact ih n hn

/-! ### String tokens -/

/-- Four hexadecimal digits. -/
def hex4 (n : Nat) : List Char :=
  [Nat.digitChar (n / 0x1000 % 16), Nat.digitChar (n / 0x100 % 16), Nat.digitChar (n / 0x10 % 16),
    Nat.digitChar (n % 16)]

/-- A code point inside a string token; a surrogate is escaped by its number. -/
def escapePoint (n : Nat) : List Char :=
  if isSurrogate n then '\\' :: 'u' :: hex4 n else Json.escapeChar (Char.ofNat n)

/-- A string token. -/
def quote (s : JsString) : List Char := '"' :: ((codePoints s).flatMap escapePoint ++ ['"'])

lemma digitChar_inj : ∀ a < 16, ∀ b < 16, Nat.digitChar a = Nat.digitChar b → a = b := by
  decide

variable {n : Nat}

lemma hex4_inj {m : Nat} (hm : m < 0x10000) (hn : n < 0x10000) (h : hex4 m = hex4 n) : m = n := by
  simp only [hex4, List.cons.injEq, and_true] at h
  obtain ⟨h3, h₂, h1, h0⟩ := h
  have d3 := digitChar_inj _ (Nat.mod_lt _ (by decide)) _ (Nat.mod_lt _ (by decide)) h3
  have d2 := digitChar_inj _ (Nat.mod_lt _ (by decide)) _ (Nat.mod_lt _ (by decide)) h₂
  have d1 := digitChar_inj _ (Nat.mod_lt _ (by decide)) _ (Nat.mod_lt _ (by decide)) h1
  have d0 := digitChar_inj _ (Nat.mod_lt _ (by decide)) _ (Nat.mod_lt _ (by decide)) h0
  omega

lemma isSurrogate_iff : isSurrogate n = true ↔ 0xD800 ≤ n ∧ n < 0xE000 := by
  simp [isSurrogate]

/-- The token of a surrogate starts with a letter that no other escape has in that place. -/
lemma hex4_of_isSurrogate (h : isSurrogate n = true) :
    ∃ a b c, hex4 n = ['d', a, b, c] := by
  obtain ⟨hlo, hhi⟩ := isSurrogate_iff.mp h
  have hd : n / 0x1000 % 16 = 13 := by omega
  exact ⟨_, _, _, by rw [hex4, hd]; rfl⟩

lemma toNat_ofNat_of_not_isSurrogate (hn : n < 0x110000) (h : isSurrogate n = false) :
    (Char.ofNat n).toNat = n := by
  have hs : ¬ (0xD800 ≤ n ∧ n < 0xE000) := by
    rw [← isSurrogate_iff, h]
    exact Bool.false_ne_true
  exact Text.toNat_ofNat (by omega)

/-- An escaped character is never taken for an escaped surrogate. -/
lemma escapeChar_append_ne (c : Char) (h : isSurrogate n = true) (r r' : List Char) :
    Json.escapeChar c ++ r ≠ '\\' :: 'u' :: hex4 n ++ r' := by
  intro heq
  obtain ⟨x, y, z, hn⟩ := hex4_of_isSurrogate h
  have hread := Json.unescape_escapeChar c r
  rw [heq, hn] at hread
  have hc : c = '\\' := by
    simpa [Json.unescape, eq_comm] using congrArg (Option.map Prod.fst) hread
  subst hc
  exact absurd (List.cons.inj (List.cons.inj heq).2).1 (by decide)

lemma escapePoint_append_inj {m : Nat} (hm : m < 0x110000) (hn : n < 0x110000)
    {r r' : List Char} (h : escapePoint m ++ r = escapePoint n ++ r') : m = n ∧ r = r' := by
  unfold escapePoint at h
  cases hsm : isSurrogate m with
  | true =>
    cases hsn : isSurrogate n with
    | true =>
      rw [hsm, hsn, if_pos rfl, if_pos rfl] at h
      obtain ⟨hhex, hr⟩ := List.append_inj (List.cons.inj (List.cons.inj h).2).2 rfl
      have hm' := (isSurrogate_iff.mp hsm).2
      have hn' := (isSurrogate_iff.mp hsn).2
      exact ⟨hex4_inj (by omega) (by omega) hhex, hr⟩
    | false =>
      rw [hsm, hsn, if_pos rfl, if_neg Bool.false_ne_true] at h
      exact absurd h.symm (escapeChar_append_ne _ hsm _ _)
  | false =>
    cases hsn : isSurrogate n with
    | true =>
      rw [hsm, hsn, if_pos rfl, if_neg Bool.false_ne_true] at h
      exact absurd h (escapeChar_append_ne _ hsn _ _)
    | false =>
      rw [hsm, hsn, if_neg Bool.false_ne_true, if_neg Bool.false_ne_true] at h
      have hread := congrArg Json.unescape h
      rw [Json.unescape_escapeChar, Json.unescape_escapeChar, Option.some.injEq,
        Prod.mk.injEq] at hread
      refine ⟨?_, hread.2⟩
      rw [← toNat_ofNat_of_not_isSurrogate hm hsm, ← toNat_ofNat_of_not_isSurrogate hn hsn,
        hread.1]

lemma escapePoint_ne_quote (n : Nat) (r r' : List Char) : escapePoint n ++ r ≠ '"' :: r' := by
  unfold escapePoint
  split
  · intro h
    exact absurd (List.cons.inj h).1 (by decide)
  · exact Json.escapeChar_head_ne_quote _ r r'

lemma flatMap_escapePoint_inj : ∀ (l l' : List Nat) (r r' : List Char),
    (∀ n ∈ l, n < 0x110000) → (∀ n ∈ l', n < 0x110000) →
    l.flatMap escapePoint ++ '"' :: r = l'.flatMap escapePoint ++ '"' :: r' → l = l' ∧ r = r' := by
  intro l
  induction l with
  | nil =>
    intro l' r r' _ _ h
    cases l' with
    | nil => exact ⟨rfl, (List.cons.inj h).2⟩
    | cons n l' =>
      rw [List.flatMap_cons, List.append_assoc] at h
      exact absurd h.symm (escapePoint_ne_quote n _ _)
  | cons m l ih =>
    intro l' r r' hl hl' h
    cases l' with
    | nil =>
      rw [List.flatMap_cons, List.append_assoc] at h
      exact absurd h (escapePoint_ne_quote m _ _)
    | cons n l' =>
      rw [List.flatMap_cons, List.flatMap_cons, List.append_assoc, List.append_assoc] at h
      obtain ⟨rfl, hrest⟩ := escapePoint_append_inj (hl m (.head _))
        (hl' n (.head _)) h
      obtain ⟨rfl, hr⟩ := ih l' r r' (fun k hk => hl k (.tail _ hk))
        (fun k hk => hl' k (.tail _ hk)) hrest
      exact ⟨rfl, hr⟩

/-- A string token can be read off the front of a text. -/
lemma quote_append_inj {s t : JsString} {r r' : List Char} (h : quote s ++ r = quote t ++ r') :
    s = t ∧ r = r' := by
  unfold quote at h
  rw [List.cons_append, List.cons_append, List.append_assoc, List.append_assoc] at h
  obtain ⟨hpoints, hr⟩ := flatMap_escapePoint_inj _ _ r r' (codePoints_lt s) (codePoints_lt t)
    (List.cons.inj h).2
  exact ⟨codePoints_injective hpoints, hr⟩

end JsString

/-! ## Numbers -/

/-- The numbers that binary64 holds exactly: 53 significant bits, exponents from -1074 on, below
`2 ^ 1024`. -/
def Binary64.holds : Dyadic → Bool
  | .zero => true
  | .ofOdd n k _ =>
    n.natAbs < 2 ^ 53 && k ≤ 1074 && decide ((n.natAbs.log2 : Int) + 1 - k ≤ 1024)

/-- A finite binary64 number, with one zero. -/
abbrev Binary64 := { d : Dyadic // Binary64.holds d = true }

namespace Binary64

def zero : Binary64 := ⟨.zero, rfl⟩

/-- The integer a number is, if it is one. -/
def int? : Dyadic → Option Int
  | .zero => some 0
  | .ofOdd n k _ => if k ≤ 0 then some (n * 2 ^ (-k).toNat) else none

end Binary64

/-- A number that is read from a JSON text: finite, the second zero, or past the range. -/
inductive JsNumber where
  | finite (d : Binary64)
  | negZero
  | infinite (negative : Bool)
  deriving DecidableEq

namespace JsNumber

def isFinite : JsNumber → Bool
  | .infinite _ => false
  | _ => true

/-- The integer a number is, if it is one; both zeros are zero. -/
def int? : JsNumber → Option Int
  | .finite d => Binary64.int? d.val
  | .negZero => some 0
  | .infinite _ => none

/-- Is the number an integer in the range in which no two integers share a number? -/
def isSafeInteger (n : JsNumber) : Bool :=
  match n.int? with
  | some i => i.natAbs ≤ Json.maxSafe
  | none => false

/-- A number as a text, given how the finite ones are written. -/
def toText (numberText : Dyadic → List Char) : JsNumber → List Char
  | .finite d => numberText d.val
  | .negZero => ['0']
  | .infinite false => Text.chars "Infinity"
  | .infinite true => Text.chars "-Infinity"

/-- What is asked of the text of a finite number: it is made of number characters, tells the number,
and is the plain decimal text for integers in the exact range. -/
structure Numerals (numberText : Dyadic → List Char) : Prop where
  chars : ∀ d : Binary64, ∀ c ∈ numberText d.val, ValueTree.isNumeral c = true
  ne_nil : ∀ d : Binary64, numberText d.val ≠ []
  injective : ∀ d e : Binary64, numberText d.val = numberText e.val → d = e
  int : ∀ (d : Binary64) (i : Int), Binary64.int? d.val = some i → i.natAbs ≤ Json.maxSafe →
    numberText d.val = Json.intText i

end JsNumber

/-! ### Numbers written out exactly -/

/-- The last `k` decimal digits of a number. -/
def lastDigits : Nat → Nat → List Char
  | 0, _ => []
  | k + 1, r => lastDigits k (r / 10) ++ [Nat.digitChar (r % 10)]

lemma length_lastDigits (k r : Nat) : (lastDigits k r).length = k := by
  induction k generalizing r with
  | zero => rfl
  | succ k ih => rw [lastDigits, List.length_append, ih]; rfl

lemma isDigit_digitChar : ∀ n < 10, (Nat.digitChar n).isDigit = true := by
  decide

variable {c : Char}

lemma isDigit_of_mem_lastDigits {k r : Nat} (h : c ∈ lastDigits k r) :
    c.isDigit = true := by
  induction k generalizing r with
  | zero => cases h
  | succ k ih =>
    rw [lastDigits, List.mem_append] at h
    rcases h with h | h
    · exact ih h
    · rw [List.mem_singleton.mp h]
      exact isDigit_digitChar _ (Nat.mod_lt _ (by decide))

lemma lastDigits_inj {k a b : Nat} (ha : a < 10 ^ k) (hb : b < 10 ^ k)
    (h : lastDigits k a = lastDigits k b) : a = b := by
  induction k generalizing a b with
  | zero => omega
  | succ k ih =>
    rw [Nat.pow_succ] at ha hb
    rw [lastDigits, lastDigits] at h
    obtain ⟨hinit, hlast⟩ := List.append_inj' h rfl
    have hdiv := ih (a := a / 10) (b := b / 10) (by omega) (by omega) hinit
    have hmod := JsString.digitChar_inj (a % 10) (by omega) (b % 10) (by omega)
      (List.cons.inj hlast).1
    omega

/-- A fraction with `k` decimals: its sign, its whole part, the point and the decimals. -/
def fractionText (negative : Bool) (k a : Nat) : List Char :=
  (if negative then ['-'] else []) ++
    (Nat.toDigits 10 (a / 10 ^ k) ++ '.' :: lastDigits k (a % 10 ^ k))

/-- A dyadic number written out exactly, with as many decimals as it has. -/
def exactText : Dyadic → List Char
  | .zero => ['0']
  | .ofOdd n k _ =>
    if k ≤ 0 then Json.intText (n * 2 ^ (-k).toNat)
    else fractionText (n < 0) k.toNat (n.natAbs * 5 ^ k.toNat)

lemma isDigit_of_mem_toDigits (h : c ∈ Nat.toDigits 10 n) : c.isDigit = true :=
  Nat.isDigit_of_mem_toDigits (by decide) (by decide) h

lemma isNumeral_of_isDigit (h : c.isDigit = true) : ValueTree.isNumeral c = true := by
  rw [ValueTree.isNumeral, h, Bool.true_or]

lemma isNumeral_of_mem_intText {i : Int} (h : c ∈ Json.intText i) :
    ValueTree.isNumeral c = true := by
  unfold Json.intText at h
  split at h
  · rcases List.mem_cons.mp h with rfl | h
    · decide
    · exact isNumeral_of_isDigit (isDigit_of_mem_toDigits h)
  · exact isNumeral_of_isDigit (isDigit_of_mem_toDigits h)

lemma isNumeral_of_mem_fractionText {negative : Bool} {k a : Nat}
    (h : c ∈ fractionText negative k a) : ValueTree.isNumeral c = true := by
  unfold fractionText at h
  rcases List.mem_append.mp h with h | h
  · cases negative with
    | true => rw [List.mem_singleton.mp h]; decide
    | false => cases h
  · rcases List.mem_append.mp h with h | h
    · exact isNumeral_of_isDigit (isDigit_of_mem_toDigits h)
    · rcases List.mem_cons.mp h with rfl | h
      · decide
      · exact isNumeral_of_isDigit (isDigit_of_mem_lastDigits h)

/-- A whole number has no point in it. -/
lemma intText_ne_fractionText (i : Int) (negative : Bool) (k a : Nat) :
    Json.intText i ≠ fractionText negative k a := by
  intro h
  have hpoint : '.' ∈ Json.intText i := by
    rw [h, fractionText]
    simp
  unfold Json.intText at hpoint
  split at hpoint
  · rcases List.mem_cons.mp hpoint with h | h
    · cases h
    · exact absurd (isDigit_of_mem_toDigits h) (by decide)
  · exact absurd (isDigit_of_mem_toDigits hpoint) (by decide)

lemma fractionText_inj {s t : Bool} {k l a b : Nat} (h : fractionText s k a = fractionText t l b) :
    s = t ∧ k = l ∧ a = b := by
  have hminus : ∀ (m n : Nat) (r r' : List Char),
      '-' :: (Nat.toDigits 10 m ++ r) ≠ Nat.toDigits 10 n ++ r' := by
    intro m n r r' hcon
    obtain ⟨c, ds, hc, hdig⟩ := Json.toDigits_eq_cons n
    rw [hc, List.cons_append, List.cons.injEq] at hcon
    rw [← hcon.1] at hdig
    cases hdig
  have hsame : ∀ {k l a b : Nat}, Nat.toDigits 10 (a / 10 ^ k) ++ '.' :: lastDigits k (a % 10 ^ k) =
      Nat.toDigits 10 (b / 10 ^ l) ++ '.' :: lastDigits l (b % 10 ^ l) → k = l ∧ a = b := by
    intro k l a b h
    obtain ⟨hdiv, hrest⟩ := Json.digits_append_inj (Json.noDigitHead_cons (by decide))
      (Json.noDigitHead_cons (by decide)) h
    have hdec := (List.cons.inj hrest).2
    have hkl : k = l := by
      rw [← length_lastDigits k (a % 10 ^ k), hdec, length_lastDigits]
    subst hkl
    have hmod := lastDigits_inj (Nat.mod_lt _ (Nat.pow_pos (by decide)))
      (Nat.mod_lt _ (Nat.pow_pos (by decide))) hdec
    refine ⟨rfl, ?_⟩
    rw [← Nat.div_add_mod a (10 ^ k), ← Nat.div_add_mod b (10 ^ k), hdiv, hmod]
  unfold fractionText at h
  cases s with
  | true =>
    cases t with
    | true => exact ⟨rfl, hsame (List.cons.inj h).2⟩
    | false => exact absurd h (hminus _ _ _ _)
  | false =>
    cases t with
    | true => exact absurd h.symm (hminus _ _ _ _)
    | false => exact ⟨rfl, hsame h⟩

lemma odd_mul_pow_inj {m n : Int} (hm : m % 2 = 1) (hn : n % 2 = 1) {a b : Nat}
    (h : m * 2 ^ a = n * 2 ^ b) : m = n ∧ a = b := by
  have heven : ∀ (x y : Int) (c : Nat), x % 2 = 1 → x * 2 ^ 0 ≠ y * 2 ^ (c + 1) := by
    intro x y c hx hxy
    rw [Int.pow_zero, Int.mul_one, Int.pow_succ, ← Int.mul_assoc] at hxy
    omega
  induction a generalizing b with
  | zero =>
    cases b with
    | zero => exact ⟨by simpa using h, rfl⟩
    | succ b => exact absurd h (heven m n b hm)
  | succ a ih =>
    cases b with
    | zero => exact absurd h.symm (heven n m a hn)
    | succ b =>
      rw [Int.pow_succ, Int.pow_succ, ← Int.mul_assoc, ← Int.mul_assoc] at h
      obtain ⟨hmn, hab⟩ := ih (Int.eq_of_mul_eq_mul_right (by decide) h)
      exact ⟨hmn, congrArg (· + 1) hab⟩

lemma intText_inj {i j : Int} (h : Json.intText i = Json.intText j) : i = j :=
  (Json.intText_append_inj Json.noDigitHead_nil Json.noDigitHead_nil (congrArg (· ++ []) h)).1

lemma odd_mul_pow_ne_zero {n : Int} (hn : n % 2 = 1) (a : Nat) : n * 2 ^ a ≠ 0 := by
  have h2 : (2 : Int) ^ a ≠ 0 := Int.pow_ne_zero (by decide)
  exact Int.mul_ne_zero (by omega) h2

lemma exactText_injective : Function.Injective exactText := by
  have hzero : ∀ (n k : Int) (hn : n % 2 = 1), exactText .zero ≠ exactText (.ofOdd n k hn) := by
    intro n k hn h
    rw [show exactText .zero = Json.intText 0 from rfl, exactText] at h
    split at h
    · exact odd_mul_pow_ne_zero hn _ (intText_inj h).symm
    · exact intText_ne_fractionText _ _ _ _ h
  intro d e h
  cases d with
  | zero =>
    cases e with
    | zero => rfl
    | ofOdd m l hm => exact absurd h (hzero m l hm)
  | ofOdd n k hn =>
    cases e with
    | zero => exact absurd h.symm (hzero n k hn)
    | ofOdd m l hm =>
      rw [exactText, exactText] at h
      split at h
      · split at h
        · obtain ⟨rfl, hkl⟩ := odd_mul_pow_inj hn hm (intText_inj h)
          obtain rfl : k = l := by omega
          rfl
        · exact absurd h (intText_ne_fractionText _ _ _ _)
      · split at h
        · exact absurd h.symm (intText_ne_fractionText _ _ _ _)
        · obtain ⟨hsign, hkl, habs⟩ := fractionText_inj h
          rw [hkl] at habs
          have habs' := Nat.eq_of_mul_eq_mul_right (Nat.pow_pos (by decide)) habs
          have hsign' : n < 0 ↔ m < 0 := by simpa using hsign
          obtain rfl : n = m := by omega
          obtain rfl : k = l := by omega
          rfl

lemma intText_ne_nil (i : Int) : Json.intText i ≠ [] := by
  unfold Json.intText
  split
  · exact List.cons_ne_nil _ _
  · exact Nat.toDigits_ne_nil

/-- Numbers written out exactly meet what is asked of number texts. -/
theorem numerals_exactText : JsNumber.Numerals exactText where
  chars := by
    rintro ⟨d, _⟩ c hc
    cases d with
    | zero => rw [List.mem_singleton.mp hc]; decide
    | ofOdd n k hn =>
      simp only [exactText] at hc
      split at hc
      · exact isNumeral_of_mem_intText hc
      · exact isNumeral_of_mem_fractionText hc
  ne_nil := by
    rintro ⟨d, _⟩
    cases d with
    | zero => exact List.cons_ne_nil _ _
    | ofOdd n k hn =>
      simp only [exactText]
      split
      · exact intText_ne_nil _
      · simp [fractionText]
  injective := fun d e h => Subtype.ext (exactText_injective h)
  int := by
    rintro ⟨d, _⟩ i hi -
    cases d with
    | zero => cases hi; rfl
    | ofOdd n k hn =>
      simp only [Binary64.int?, Option.ite_none_right_eq_some, Option.some.injEq] at hi
      simp only [exactText, if_pos hi.1, hi.2]

/-! ## Values -/

/-- A value that is read from a JSON text. -/
abbrev JsValue := ValueTree JsString JsNumber

/-- A JSON value: its numbers are finite, with one zero. -/
abbrev PlainValue := ValueTree JsString Binary64

namespace JsValue

/-- A number as it is written into a text: one zero, and `null` for what is past the range. -/
def plainNumber : JsNumber → PlainValue
  | .finite d => .num d
  | .negZero => .num Binary64.zero
  | .infinite _ => .null

/-- The value with the second zero read as zero and a number past the range as `null`. -/
def plain (v : JsValue) : PlainValue := v.mapNum plainNumber

/-- A JSON value as it is read. -/
def ofPlain (v : PlainValue) : JsValue := v.mapNum fun d => .num (.finite d)

lemma plain_ofPlain (v : PlainValue) : plain (ofPlain v) = v := by
  rw [plain, ofPlain, ValueTree.mapNum_mapNum]
  exact ValueTree.mapNum_num v

mutual

/-- The value as a document of integers and well-formed texts, if it is one. -/
def toJson? : JsValue → Option Json
  | .null => some .null
  | .bool b => some (.bool b)
  | .num n => n.int?.map .num
  | .str s => s.toString?.map .str
  | .arr xs => (toJsonElems? xs).map .arr
  | .obj ms => (toJsonMembers? ms).map .obj

def toJsonElems? : List JsValue → Option (List Json)
  | [] => some []
  | x :: xs => do
    let v ← toJson? x
    let vs ← toJsonElems? xs
    return v :: vs

def toJsonMembers? : List (JsString × JsValue) → Option (List (String × Json))
  | [] => some []
  | (k, x) :: ms => do
    let name ← k.toString?
    let v ← toJson? x
    let vs ← toJsonMembers? ms
    return (name, v) :: vs

end

end JsValue
