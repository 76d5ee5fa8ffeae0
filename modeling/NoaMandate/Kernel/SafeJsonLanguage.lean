import Mathlib.Data.List.Induction
import NoaMandate.Kernel.SafeJsonCanonical
import NoaMandate.Lib.Rfc8259

/-!
# The language of the strict parser

What the parser accepts, the JSON grammar reads as a document that keeps the parser's rules
(`Strict`), and the parser returns the value that document denotes.

The rules are about the document: how deep it is nested, which numerals, names and strings it holds.
The nesting of a value is the number of arrays and objects around it, so a document of limit `64` may
hold an empty array inside 64 others.

Each scanner comes with a lemma that relates what it returns to the grammar's relation of the same
part.  The parser itself is then shown sound by induction on fuel, one step lemma per parser.
-/

namespace NoaMandate

open Pipeline

namespace SafeJson

open Rfc8259

/-! ## The rules -/

/-- The units are those of a sequence of Unicode scalar values. -/
def WellFormedUnits (us : List Nat) : Prop := ∃ s, Json.units s = us

/-- A document the parser accepts inside `depth` arrays and objects. -/
inductive Strict (maxDepth : Nat) : Nat → Doc → Prop
  | null {depth : Nat} : depth ≤ maxDepth → Strict maxDepth depth .null
  | bool {depth : Nat} {b : Bool} : depth ≤ maxDepth → Strict maxDepth depth (.bool b)
  | num {depth : Nat} {x : Numeral} : depth ≤ maxDepth → x.frac = none → x.exp = none →
      |x.value| ≤ (Json.maxSafe : ℚ) → Strict maxDepth depth (.num x)
  | str {depth : Nat} {us : List Nat} : depth ≤ maxDepth → WellFormedUnits us →
      Strict maxDepth depth (.str us)
  | arr {depth : Nat} {ds : List Doc} : depth ≤ maxDepth →
      (∀ d ∈ ds, Strict maxDepth (depth + 1) d) → Strict maxDepth depth (.arr ds)
  | obj {depth : Nat} {ms : List (List Nat × Doc)} : depth ≤ maxDepth →
      (ms.map Prod.fst).Nodup →
      (∀ m ∈ ms, WellFormedUnits m.1 ∧ m.1 ∉ forbiddenKeys.map Json.units) →
      (∀ m ∈ ms, Strict maxDepth (depth + 1) m.2) → Strict maxDepth depth (.obj ms)

/-! ## White space -/

lemma ws_skipWs (text : List Nat) : Ws text (skipWs text) := by
  induction text with
  | nil => exact .nil _
  | cons c text ih =>
    rw [skipWs]
    split
    · rename_i hc
      refine .cons ?_ ih
      simpa [IsWs, or_assoc] using hc
    · exact .nil _

lemma noWs_skipWs (text : List Nat) : NoWs (skipWs text) := by
  induction text with
  | nil => simp [Starts, skipWs]
  | cons c text ih =>
    rw [skipWs]
    split
    · exact ih
    · rename_i hc
      refine starts_cons.mpr ?_
      simpa [IsWs, or_assoc] using hc

/-- The scanner passes over exactly the white space of the grammar. -/
lemma skipWs_eq {text rest : List Nat} (h : Ws text rest) (hrest : NoWs rest) :
    skipWs text = rest :=
  (ws_skipWs text).unique h (noWs_skipWs text) hrest

/-! ## Strings -/

lemma hexValue_eq_some_iff {c d : Nat} : hexValue c = some d ↔ HexDigit c d := by
  constructor
  · intro h
    unfold hexValue at h
    simp only [test_iff] at h
    split_ifs at h with h1 h2 h3
    · cases h
      have := HexDigit.digit (d := c - 0x30) (by omega)
      rwa [Nat.add_sub_cancel' h1.1] at this
    · cases h
      have := HexDigit.upper (d := c - 0x41) (by omega)
      rwa [Nat.add_sub_cancel' h2.1, show 10 + (c - 0x41) = c - 0x37 by omega] at this
    · cases h
      have := HexDigit.lower (d := c - 0x61) (by omega)
      rwa [Nat.add_sub_cancel' h3.1, show 10 + (c - 0x61) = c - 0x57 by omega] at this
  · rintro (hd | hd | hd)
    all_goals
      unfold hexValue
      simp only [test_iff]
    · rw [if_pos (by omega), Nat.add_sub_cancel_left]
    · rw [if_neg (by omega), if_pos (by omega)]
      congr 1
      omega
    · rw [if_neg (by omega), if_neg (by omega), if_pos (by omega)]
      congr 1
      omega

lemma shortEscape_eq_some_iff {e u : Nat} : shortEscape e = some u ↔ (e, u) ∈ escapes := by
  constructor
  · intro h
    unfold shortEscape at h
    split at h <;> first | (obtain rfl := Option.some.inj h; simp [escapes]) | cases h
  · intro h
    simp only [escapes, mem_iff, Prod.mk.injEq] at h
    rcases h with ⟨rfl, rfl⟩ | ⟨rfl, rfl⟩ | ⟨rfl, rfl⟩ | ⟨rfl, rfl⟩ | ⟨rfl, rfl⟩ | ⟨rfl, rfl⟩ |
      ⟨rfl, rfl⟩ | ⟨rfl, rfl⟩ <;> rfl

lemma hex4_eq_some_iff {a b c d u : Nat} : hex4 a b c d = some u ↔ ∃ d1 d2 d3 d4,
    HexDigit a d1 ∧ HexDigit b d2 ∧ HexDigit c d3 ∧ HexDigit d d4 ∧
      ((d1 * 16 + d2) * 16 + d3) * 16 + d4 = u := by
  simp only [hex4, Option.bind_eq_bind, Option.bind_eq_some_iff, Option.pure_def, Option.some.injEq,
    hexValue_eq_some_iff]
  constructor
  · rintro ⟨d1, h1, d2, h2, d3, h3, d4, h4, rfl⟩
    exact ⟨d1, d2, d3, d4, h1, h2, h3, h4, rfl⟩
  · rintro ⟨d1, d2, d3, d4, h1, h2, h3, h4, rfl⟩
    exact ⟨d1, h1, d2, h2, d3, h3, d4, h4, rfl⟩

lemma chars_of_stringBody {text us rest : List Nat} (h : stringBody text = .ok (us, rest)) :
    Chars text us rest := by
  induction text using stringBody.induct generalizing us with
  | case1 => cases h
  | case2 text =>
    cases h
    exact .close _
  | case3 => cases h
  | case4 a b c d text u hu ih =>
    have hbody := @stringBody_escaped [0x5c, 0x75, a, b, c, d] u hu text
    obtain ⟨⟨us', rest'⟩, htext, ⟨⟩⟩ := map_eq_ok_iff.mp (hbody.symm.trans h)
    obtain ⟨d1, d2, d3, d4, h1, h2, h3, h4, rfl⟩ := hex4_eq_some_iff.mp hu
    exact .hex h1 h2 h3 h4 (ih htext)
  | case5 a b c d text hu => rw [stringBody] at h; simp [hu] at h
  | case6 text hshort =>
    rw [stringBody] at h
    · cases h
    · exact hshort
  | case7 e text hne u hu ih =>
    have hescaped : escaped [0x5c, e] = some u := by simp only [escaped, if_neg hne, hu]
    have hbody := stringBody_escaped hescaped text
    obtain ⟨⟨us', rest'⟩, htext, ⟨⟩⟩ := map_eq_ok_iff.mp (hbody.symm.trans h)
    exact .escaped (shortEscape_eq_some_iff.mp hu) (ih htext)
  | case8 e text hne hu =>
    rw [stringBody, hu] at h
    · cases h
    · exact hne
  | case9 c text hquote hescape hcontrol =>
    rw [stringBody, if_pos hcontrol] at h
    · cases h
    · exact hquote
    · exact hescape
  | case10 c text hquote hescape hcontrol ih =>
    rw [stringBody_plain hcontrol hquote hescape] at h
    obtain ⟨⟨us', rest'⟩, htext, ⟨⟩⟩ := map_eq_ok_iff.mp h
    exact .unescaped (by omega) hquote hescape (ih htext)

lemma stringBody_of_chars {text us rest : List Nat} (h : Chars text us rest) :
    stringBody text = .ok (us, rest) := by
  induction h with
  | close => rw [stringBody]
  | unescaped hc hquote hescape _ ih =>
    rw [stringBody_plain (by omega) hquote hescape, ih]
    rfl
  | @escaped e u text us rest he _ ih =>
    have hescaped : escaped [0x5c, e] = some u := by
      simp only [escaped, if_neg (ne_of_mem_escapes he), shortEscape_eq_some_iff.mpr he]
    have hbody := stringBody_escaped hescaped text
    rw [ih] at hbody
    exact hbody
  | @hex a b c d d1 d2 d3 d4 text us rest h1 h2 h3 h4 _ ih =>
    have hescaped : escaped [0x5c, 0x75, a, b, c, d] = some _ :=
      hex4_eq_some_iff.mpr ⟨d1, d2, d3, d4, h1, h2, h3, h4, rfl⟩
    have hbody := stringBody_escaped hescaped text
    rw [ih] at hbody
    exact hbody

lemma toUnits_of_decodeUnits {us : List Nat} {cs : List Char} (h : decodeUnits us = some cs) :
    toUnits cs = us := by
  induction us using decodeUnits.induct generalizing cs with
  | case1 =>
    cases h
    rfl
  | case2 u us hu ih =>
    rw [decodeUnits.eq_def] at h
    simp only [hu, if_true, Option.map_eq_some_iff] at h
    obtain ⟨cs, hcs, rfl⟩ := h
    simp only [test_iff] at hu
    rw [toUnits_cons, ih hcs, Json.charUnits, Text.toNat_ofNat (by omega), if_pos (by omega)]
    rfl
  | case3 u hu hhigh v us hv ih =>
    rw [decodeUnits.eq_def] at h
    simp only [hu, hhigh, hv, if_true, if_false, Bool.false_eq_true, Option.map_eq_some_iff] at h
    obtain ⟨cs, hcs, rfl⟩ := h
    simp only [test_iff] at hu hv
    rw [toUnits_cons, ih hcs, Json.charUnits, Text.toNat_ofNat (by omega), if_neg (by omega)]
    simp only [List.cons_append, List.nil_append, List.cons.injEq, and_true]
    omega
  | case4 u hu hhigh v us hv =>
    rw [decodeUnits.eq_def] at h
    simp [hu, hhigh, hv] at h
  | case5 u hu hhigh =>
    rw [decodeUnits.eq_def] at h
    simp [hu, hhigh] at h
  | case6 u us hu hlow =>
    rw [decodeUnits.eq_def] at h
    simp [hu, hlow] at h

/-- A string token is read as the string of its units. -/
lemma parseString_eq_ok_iff {text rest : List Nat} {s : String} :
    parseString text = .ok (s, rest) ↔ Chars text (Json.units s) rest := by
  simp only [parseString, ok_iff, Prod.mk.injEq, Prod.exists]
  constructor
  · rintro ⟨us, rest', hbody, cs, hcs, rfl, rfl⟩
    have hunits : Json.units (String.ofList cs) = us := by
      rw [Json.units, Text.chars_eq_toList, String.toList_ofList]
      exact toUnits_of_decodeUnits hcs
    rw [hunits]
    exact chars_of_stringBody hbody
  · intro h
    refine ⟨_, _, stringBody_of_chars h, Text.chars s, decodeUnits_toUnits _, ?_, rfl⟩
    rw [Text.chars_eq_toList, String.ofList_toList]

/-! ## Numbers -/

lemma digitsValue_map (ds : List Nat) : digitsValue (ds.map (0x30 + ·)) = decimal ds := by
  induction ds using List.reverseRecOn with
  | nil => rfl
  | append_singleton ds d ih =>
    rw [digitsValue, List.map_append, List.foldl_append, ← digitsValue, ih,
      decimal_append_singleton]
    simp

/-- The digits at the start of a text. -/
lemma digits_span (text : List Nat) : ∃ ds, text.takeWhile isDigit = ds.map (0x30 + ·) ∧
    Digits text ds (text.dropWhile isDigit) ∧ NoDigit (text.dropWhile isDigit) := by
  induction text with
  | nil => exact ⟨[], rfl, .nil _, by simp [Starts]⟩
  | cons c text ih =>
    by_cases hc : isDigit c = true
    · obtain ⟨ds, htake, hdigits, hstop⟩ := ih
      have hrange : 0x30 ≤ c ∧ c ≤ 0x39 := by simpa [isDigit] using hc
      have hcons := Digits.cons (d := c - 0x30) (by omega) hdigits
      rw [Nat.add_sub_cancel' hrange.1] at hcons
      refine ⟨(c - 0x30) :: ds, ?_, ?_, ?_⟩
      · rw [List.takeWhile_cons_of_pos hc, htake, List.map_cons, Nat.add_sub_cancel' hrange.1]
      · rwa [List.dropWhile_cons_of_pos hc]
      · rwa [List.dropWhile_cons_of_pos hc]
    · refine ⟨[], ?_, ?_, ?_⟩
      · rw [List.takeWhile_cons_of_neg hc]
        rfl
      · rw [List.dropWhile_cons_of_neg hc]
        exact .nil _
      · rw [List.dropWhile_cons_of_neg hc]
        refine starts_cons.mpr ?_
        simp only [isDigit, test_iff] at hc
        omega

lemma intPart_of_integerPart {text ds rest : List Nat} (h : integerPart text = .ok (ds, rest)) :
    ∃ ds', ds = ds'.map (0x30 + ·) ∧ IntPart text ds' rest := by
  unfold integerPart at h
  split at h
  · cases h
  rename_i c text
  split at h
  · rename_i hc
    cases h
    subst hc
    exact ⟨[0], rfl, .zero _⟩
  split at h
  · rename_i hc
    cases h
    have hrange : 0x31 ≤ c ∧ c ≤ 0x39 := by simpa using hc
    obtain ⟨ds', htake, hdigits, -⟩ := digits_span text
    have hint := IntPart.digits (d := c - 0x30) (by omega) (by omega) hdigits
    have hback : 0x30 + (c - 0x30) = c := by omega
    rw [hback] at hint
    exact ⟨(c - 0x30) :: ds', by rw [htake, List.map_cons, hback], hint⟩
  · cases h

lemma integerPart_of_intPart {text ds rest : List Nat} (h : IntPart text ds rest)
    (hrest : NoDigit rest) : integerPart text = .ok (ds.map (0x30 + ·), rest) := by
  cases h with
  | zero => rfl
  | @digits d text ds rest h1 h2 hds =>
    obtain ⟨ds', htake, hdigits, hstop⟩ := digits_span text
    obtain ⟨rfl, hdrop⟩ := hds.unique hdigits hrest hstop
    have hrange : (decide (0x31 ≤ 0x30 + d) && decide (0x30 + d ≤ 0x39)) = true := by
      simp only [test_iff]
      omega
    simp only [integerPart]
    rw [if_neg (by omega), if_pos hrange, htake, ← hdrop, List.map_cons]

lemma parseNumber_safe {text rest : List Nat} {n : Int} (h : parseNumber text = .ok (n, rest)) :
    n.natAbs ≤ Json.maxSafe := by
  simp only [parseNumber, ok_iff, Prod.mk.injEq, decide_eq_false_iff_not, not_lt] at h
  obtain ⟨⟨ds, _⟩, _, _, _, _, hsafe, rfl, rfl⟩ := h
  split <;> simpa using hsafe

/-- A number token is read as an integer without fraction and exponent. -/
lemma number_of_parseNumber {text rest : List Nat} {n : Int}
    (h : parseNumber text = .ok (n, rest)) : ∃ x, Number text x rest ∧ x.frac = none ∧
      x.exp = none ∧ x.value = n ∧ |x.value| ≤ (Json.maxSafe : ℚ) := by
  have hsafe := parseNumber_safe h
  simp only [parseNumber, ok_iff, Prod.mk.injEq, Prod.exists] at h
  obtain ⟨_, rest', hpart, _, -, _, -, hn, rfl⟩ := h
  obtain ⟨ds, rfl, hint⟩ := intPart_of_integerPart hpart
  rw [digitsValue_map] at hn
  have hnumber : ∃ neg, Number text ⟨neg, ds, none, none⟩ rest' ∧
      n = if neg then -(decimal ds : ℤ) else decimal ds := by
    by_cases hminus : text.head? = some 0x2d
    · obtain ⟨text, rfl⟩ := List.head?_eq_some_iff.mp hminus
      simp only [hminus, if_true, List.tail_cons] at hint hn
      exact ⟨true, .mk (.present _) hint (.absent _) (.absent _), hn.symm⟩
    · simp only [hminus, if_false] at hint hn
      exact ⟨false, .mk (.absent _) hint (.absent _) (.absent _), hn.symm⟩
  obtain ⟨neg, hnumber, hn⟩ := hnumber
  have hvalue : Numeral.value ⟨neg, ds, none, none⟩ = n := by
    rw [Numeral.value_of_integer rfl rfl, hn]
  refine ⟨_, hnumber, rfl, rfl, hvalue, ?_⟩
  rw [hvalue, ← Int.cast_abs, Int.abs_eq_natAbs]
  exact_mod_cast hsafe

lemma parseNumber_of_number {text rest : List Nat} {x : Numeral} {n : Int} (h : Number text x rest)
    (hfrac : x.frac = none) (hexp : x.exp = none) (hn : x.value = n)
    (hsafe : |x.value| ≤ (Json.maxSafe : ℚ)) (hrest : Ends rest) :
    parseNumber text = .ok (n, rest) := by
  obtain ⟨hminus, hint, hfrac', hexp'⟩ := h
  dsimp only at hfrac hexp
  subst hfrac hexp
  cases hfrac'
  cases hexp'
  rename_i t ds neg
  rw [Numeral.value_of_integer rfl rfl] at hn hsafe
  have hn : (if neg then -(decimal ds : ℤ) else decimal ds) = n := by exact_mod_cast hn
  have hsafe : decimal ds ≤ Json.maxSafe := by
    rw [← Int.cast_abs, Int.abs_eq_natAbs] at hsafe
    have habs : (if neg then -(decimal ds : ℤ) else decimal ds).natAbs = decimal ds := by
      cases neg <;> simp
    rw [habs] at hsafe
    exact_mod_cast hsafe
  have hdigit : NoDigit rest := by
    intro c hc
    have hdigit := (hrest c hc).1
    simp only [isDigit, Bool.and_eq_false_iff, decide_eq_false_iff_not] at hdigit
    omega
  have hpart := integerPart_of_intPart hint hdigit
  have hsign : (text.head? = some 0x2d ↔ neg = true) ∧ (if neg then text.tail else text) = t := by
    cases hminus with
    | present => exact ⟨by simp, rfl⟩
    | absent =>
      obtain ⟨c, t', rfl, h1, -⟩ := hint.head
      refine ⟨?_, rfl⟩
      simp only [List.head?_cons, Option.some.injEq, Bool.false_eq_true, iff_false]
      omega
  simp only [parseNumber, ok_iff, Prod.mk.injEq, Prod.exists, hsign.1, hsign.2]
  exact ⟨_, _, hpart, (), hrest.head?_ne, (), by simpa [digitsValue_map] using hsafe,
    by rw [digitsValue_map]; exact hn, rfl⟩

/-! ## Literals -/

lemma afterLiteral_eq_some_iff {lit text rest : List Nat} :
    afterLiteral lit text = some rest ↔ text = lit ++ rest := by
  unfold afterLiteral
  constructor
  · intro h
    obtain ⟨htake, hdrop⟩ := Option.ite_none_right_eq_some.mp h
    have hsplit := (List.take_append_drop lit.length text).symm
    rwa [htake, Option.some.inj hdrop] at hsplit
  · rintro rfl
    simp

lemma parseNull_eq_ok_iff {text rest : List Nat} :
    parseNull text = .ok rest ↔ Value text .null rest := by
  rw [parseNull, demand_eq_ok_iff, afterLiteral_eq_some_iff, value_null_iff]
  rfl

lemma parseBool_eq_ok_iff {text rest : List Nat} {b : Bool} :
    parseBool text = .ok (b, rest) ↔ Value text (.bool b) rest := by
  rw [value_bool_iff]
  unfold parseBool
  cases htrue : afterLiteral [0x74, 0x72, 0x75, 0x65] text with
  | some rest' =>
    obtain rfl := afterLiteral_eq_some_iff.mp htrue
    cases b <;> simp
  | none =>
    have hnot : ∀ r, text ≠ 0x74 :: 0x72 :: 0x75 :: 0x65 :: r := fun r hr =>
      by
      simp [(@afterLiteral_eq_some_iff [0x74, 0x72, 0x75, 0x65] text r).mpr hr] at htrue
    cases hfalse : afterLiteral [0x66, 0x61, 0x6c, 0x73, 0x65] text with
    | some rest' =>
      obtain rfl := afterLiteral_eq_some_iff.mp hfalse
      cases b <;> simp
    | none =>
      have hnot' : ∀ r, text ≠ 0x66 :: 0x61 :: 0x6c :: 0x73 :: 0x65 :: r := fun r hr =>
        by
        simp [(@afterLiteral_eq_some_iff [0x66, 0x61, 0x6c, 0x73, 0x65] text r).mpr hr] at hfalse
      cases b <;> simp [hnot, hnot']

/-! ## The parser is sound -/

variable {ms : List (List Nat × Doc)} {maxDepth : Nat} {ns : List (String × Json)}

lemma denotesMembers_names
    (h : DenotesMembers ms ns) : ms.map Prod.fst = ns.map fun n => Json.units n.1 := by
  induction ms generalizing ns with
  | nil => cases h; rfl
  | cons m ms ih =>
    cases h with
    | cons k hd hms => rw [List.map_cons, List.map_cons, ih hms]

/-- The names the parser returns are distinct and allowed, and none was seen before. -/
lemma parseMembers_names {fuel depth : Nat} {seen : List String} {text rest : List Nat}
    (h : parseMembers maxDepth fuel depth seen text = .ok (ns, rest)) :
    (ns.map Prod.fst).Nodup ∧ ∀ n ∈ ns, n.1 ∉ seen ∧ n.1 ∉ forbiddenKeys := by
  induction fuel generalizing seen text ns rest with
  | zero => simp [parseMembers] at h
  | succ fuel ih =>
    rw [parseMembers] at h
    split at h
    · simp only [ok_iff] at h
      obtain ⟨⟨key, _⟩, -, _, hforbidden, _, hseen, h⟩ := h
      have hkey : key ∉ seen ∧ key ∉ forbiddenKeys :=
        ⟨by simpa using hseen, by simpa using hforbidden⟩
      simp only at h
      split at h
      · simp only [bind_eq_ok_iff] at h
        obtain ⟨_, -, h⟩ := h
        split at h
        · simp only [ok_iff, Prod.mk.injEq] at h
          obtain ⟨⟨ns', _⟩, hns, rfl, -⟩ := h
          obtain ⟨hnodup, hnames⟩ := ih hns
          refine ⟨List.nodup_cons.mpr ⟨fun hin => ?_, hnodup⟩, List.forall_mem_cons.mpr ⟨hkey,
            fun n hn => ⟨fun hin => (hnames n hn).1 (.tail _ hin), (hnames n hn).2⟩⟩⟩
          obtain ⟨n, hn, rfl⟩ := List.mem_map.mp hin
          exact (hnames n hn).1 (.head _)
        · simp only [pure_eq_ok_iff, Prod.mk.injEq] at h
          obtain ⟨rfl, -⟩ := h
          exact ⟨by simp, by simpa using hkey⟩
        · cases h
      · cases h
    · cases h

/-- The rules for names, from the names the parser returned. -/
lemma strict_obj {depth : Nat} (hdepth : depth ≤ maxDepth) (hden : DenotesMembers ms ns)
    (hnodup : (ns.map Prod.fst).Nodup) (hallowed : ∀ n ∈ ns, n.1 ∉ forbiddenKeys)
    (hvalues : ∀ m ∈ ms, Strict maxDepth (depth + 1) m.2) : Strict maxDepth depth (.obj ms) := by
  have hnames := denotesMembers_names hden
  refine .obj hdepth ?_ (fun m hm => ?_) hvalues
  · have hnodup := hnodup.map Json.units_injective
    rw [List.map_map] at hnodup
    rw [hnames]
    exact hnodup
  · have hmem : m.1 ∈ ns.map fun n => Json.units n.1 := hnames ▸ List.mem_map_of_mem hm
    obtain ⟨n, hn, hname⟩ := List.mem_map.mp hmem
    refine ⟨⟨n.1, hname⟩, fun hforbidden => ?_⟩
    obtain ⟨k, hk, hunits⟩ := List.mem_map.mp hforbidden
    obtain rfl := Json.units_injective (hunits.trans hname.symm)
    exact hallowed n hn hk

/-- The text starts with a value that keeps the rules. -/
def Reads (maxDepth depth : Nat) (text : List Nat) (v : Json) (rest : List Nat) : Prop :=
  ∃ t d, Ws text t ∧ Value t d rest ∧ Strict maxDepth depth d ∧ Denotes d v

def ReadsElems (maxDepth depth : Nat) (text : List Nat) (vs : List Json) (rest : List Nat) : Prop :=
  ∃ ds, Elems text ds rest ∧ (∀ d ∈ ds, Strict maxDepth (depth + 1) d) ∧ DenotesElems ds vs

def ReadsMembers (maxDepth depth : Nat) (text : List Nat) (ns : List (String × Json))
    (rest : List Nat) : Prop :=
  ∃ ms, Members text ms rest ∧ (∀ m ∈ ms, Strict maxDepth (depth + 1) m.2) ∧ DenotesMembers ms ns

section step

/-! One call of each parser, on the assumption that the calls it makes are sound. -/

variable {maxDepth fuel depth : Nat}
  (hvalue : ∀ depth text v rest, parseValue maxDepth fuel depth text = .ok (v, rest) →
    Reads maxDepth depth text v rest)
  (hmembers : ∀ depth seen text ms rest,
    parseMembers maxDepth fuel depth seen text = .ok (ms, rest) →
    ReadsMembers maxDepth depth text ms rest)
  (helems : ∀ depth text xs rest, parseElems maxDepth fuel depth text = .ok (xs, rest) →
    ReadsElems maxDepth depth text xs rest)

include hmembers helems in
lemma reads_parseValue {text rest : List Nat} {v : Json}
    (h : parseValue maxDepth (fuel + 1) depth text = .ok (v, rest)) :
    Reads maxDepth depth text v rest := by
  rw [parseValue] at h
  split at h
  · cases h
  rename_i hdepth
  have hdepth : depth ≤ maxDepth := Nat.le_of_not_lt hdepth
  have hws := ws_skipWs text
  split at h
  · cases h
  rename_i c text' htext
  rw [htext] at hws
  split at h
  · -- an object
    rename_i hc
    subst hc
    have hgap := ws_skipWs text'
    split at h
    · rename_i rest' hclose
      cases h
      rw [hclose] at hgap
      exact ⟨_, _, hws, .emptyObject hgap, .obj hdepth (by simp) (by simp) (by simp), .obj .nil⟩
    · obtain ⟨⟨ns, _⟩, hns, ⟨⟩⟩ := map_eq_ok_iff.mp h
      obtain ⟨ms, hms, hstrict, hden⟩ := hmembers _ _ _ _ _ hns
      obtain ⟨hnodup, hnames⟩ := parseMembers_names hns
      exact ⟨_, _, hws, .object (hgap.members hms),
        strict_obj hdepth hden hnodup (fun n hn => (hnames n hn).2) hstrict, .obj hden⟩
  split at h
  · -- an array
    rename_i hc
    subst hc
    have hgap := ws_skipWs text'
    split at h
    · rename_i rest' hclose
      cases h
      rw [hclose] at hgap
      exact ⟨_, _, hws, .emptyArray hgap, .arr hdepth (by simp), .arr .nil⟩
    · obtain ⟨⟨xs, _⟩, hxs, ⟨⟩⟩ := map_eq_ok_iff.mp h
      obtain ⟨ds, hds, hstrict, hden⟩ := helems _ _ _ _ hxs
      exact ⟨_, _, hws, .array (hgap.elems hds), .arr hdepth hstrict, .arr hden⟩
  split at h
  · rename_i hc
    subst hc
    obtain ⟨⟨s, _⟩, hs, ⟨⟩⟩ := map_eq_ok_iff.mp h
    exact ⟨_, _, hws, .string (parseString_eq_ok_iff.mp hs), .str hdepth ⟨s, rfl⟩, .str s⟩
  split at h
  · obtain ⟨⟨b, _⟩, hb, ⟨⟩⟩ := map_eq_ok_iff.mp h
    exact ⟨_, _, hws, parseBool_eq_ok_iff.mp hb, .bool hdepth, .bool b⟩
  split at h
  · obtain ⟨_, hnull, ⟨⟩⟩ := map_eq_ok_iff.mp h
    exact ⟨_, _, hws, parseNull_eq_ok_iff.mp hnull, .null hdepth, .null⟩
  split at h
  · obtain ⟨⟨n, _⟩, hn, ⟨⟩⟩ := map_eq_ok_iff.mp h
    obtain ⟨x, hx, hfrac, hexp, hval, hsafe⟩ := number_of_parseNumber hn
    exact ⟨_, _, hws, .number hx, .num hdepth hfrac hexp hsafe, .num hval⟩
  · cases h

include hvalue hmembers in
lemma reads_parseMembers {seen : List String} {text rest : List Nat}
    (h : parseMembers maxDepth (fuel + 1) depth seen text = .ok (ns, rest)) :
    ReadsMembers maxDepth depth text ns rest := by
  rw [parseMembers] at h
  have hquote := ws_skipWs text
  split at h
  · rename_i t1 ht1
    rw [ht1] at hquote
    simp only [ok_iff] at h
    obtain ⟨⟨key, t2⟩, hkey, _, -, _, -, h⟩ := h
    have hname := parseString_eq_ok_iff.mp hkey
    have hcolon := ws_skipWs t2
    simp only at h
    split at h
    · rename_i t3 ht3
      rw [ht3] at hcolon
      simp only [bind_eq_ok_iff] at h
      obtain ⟨⟨v, t5⟩, hv, h⟩ := h
      obtain ⟨t4, d, hgap, hd, hstrict, hden⟩ := hvalue _ _ _ _ hv
      have hafter := ws_skipWs t5
      simp only at h
      split at h
      · rename_i t6 ht6
        rw [ht6] at hafter
        simp only [ok_iff, Prod.mk.injEq] at h
        obtain ⟨⟨ns', _⟩, hns, rfl, rfl⟩ := h
        obtain ⟨ms, hms, hstricts, hdens⟩ := hmembers _ _ _ _ _ hns
        exact ⟨_, .more hquote hname hcolon hgap hd hafter hms,
          List.forall_mem_cons.mpr ⟨hstrict, hstricts⟩, .cons key hden hdens⟩
      · rename_i ht6
        rw [ht6] at hafter
        simp only [pure_eq_ok_iff, Prod.mk.injEq] at h
        obtain ⟨rfl, rfl⟩ := h
        exact ⟨_, .last hquote hname hcolon hgap hd hafter, by simpa using hstrict,
          .cons key hden .nil⟩
      · cases h
    · cases h
  · cases h

include hvalue helems in
lemma reads_parseElems {text rest : List Nat} {xs : List Json}
    (h : parseElems maxDepth (fuel + 1) depth text = .ok (xs, rest)) :
    ReadsElems maxDepth depth text xs rest := by
  rw [parseElems] at h
  simp only [bind_eq_ok_iff] at h
  obtain ⟨⟨v, t2⟩, hv, h⟩ := h
  obtain ⟨t1, d, hgap, hd, hstrict, hden⟩ := hvalue _ _ _ _ hv
  have hafter := ws_skipWs t2
  simp only at h
  split at h
  · rename_i t3 ht3
    rw [ht3] at hafter
    simp only [ok_iff, Prod.mk.injEq] at h
    obtain ⟨⟨xs', _⟩, hxs, rfl, rfl⟩ := h
    obtain ⟨ds, hds, hstricts, hdens⟩ := helems _ _ _ _ hxs
    exact ⟨_, .more hgap hd hafter hds, List.forall_mem_cons.mpr ⟨hstrict, hstricts⟩,
      .cons hden hdens⟩
  · rename_i ht3
    rw [ht3] at hafter
    simp only [pure_eq_ok_iff, Prod.mk.injEq] at h
    obtain ⟨rfl, rfl⟩ := h
    exact ⟨_, .last hgap hd hafter, by simpa using hstrict, .cons hden .nil⟩
  · cases h

end step

/-- What the three parsers return, the grammar reads. -/
lemma parse_reads (maxDepth fuel : Nat) :
    (∀ depth text v rest, parseValue maxDepth fuel depth text = .ok (v, rest) →
      Reads maxDepth depth text v rest) ∧
    (∀ depth seen text ms rest, parseMembers maxDepth fuel depth seen text = .ok (ms, rest) →
      ReadsMembers maxDepth depth text ms rest) ∧
    (∀ depth text xs rest, parseElems maxDepth fuel depth text = .ok (xs, rest) →
      ReadsElems maxDepth depth text xs rest) := by
  induction fuel with
  | zero =>
    refine ⟨?_, ?_, ?_⟩ <;> intros <;> simp_all [parseValue, parseMembers, parseElems]
  | succ fuel ih =>
    obtain ⟨hvalue, hmembers, helems⟩ := ih
    exact ⟨fun _ _ _ _ => reads_parseValue hmembers helems,
      fun _ _ _ _ _ => reads_parseMembers hvalue hmembers,
      fun _ _ _ _ => reads_parseElems hvalue helems⟩

end SafeJson

end NoaMandate
