import Mathlib.Algebra.Order.Field.Rat
import Mathlib.Data.Nat.Digits.Defs
import NoaMandate.Lib.Canonical

/-!
# The JSON grammar

RFC 8259 over UTF-16 code units.  A nonterminal is a relation between a text, what it stands for and
the text that is left: `Value text d rest` says that the text is a value, read as `d`, followed by
`rest`.  The rules carry the names and the code points of the RFC's grammar.

A `Doc` is what the grammar reads, before any rule of a particular program: numerals with their
fraction and exponent, strings as code units, objects as lists of members that may repeat a name.
`Denotes` relates it to the JSON value it stands for.

* `Value.unique`, `JsonText.unique`: the grammar is unambiguous.  A number has no closing delimiter,
  so the statement for values asks that the texts after them do not continue a number (`Follow`).
-/

namespace Rfc8259

/-! ## The grammar -/

def IsWs (c : Nat) : Prop := c = 0x20 ∨ c = 0x09 ∨ c = 0x0a ∨ c = 0x0d

/-- `ws = *( %x20 / %x09 / %x0A / %x0D )` -/
inductive Ws : List Nat → List Nat → Prop
  | nil (text : List Nat) : Ws text text
  | cons {c : Nat} {text rest : List Nat} : IsWs c → Ws text rest → Ws (c :: text) rest

/-- `*DIGIT`, read as the values of the digits. -/
inductive Digits : List Nat → List Nat → List Nat → Prop
  | nil (text : List Nat) : Digits text [] text
  | cons {d : Nat} {text ds rest : List Nat} :
      d ≤ 9 → Digits text ds rest → Digits ((0x30 + d) :: text) (d :: ds) rest

/-- `[ minus ]` -/
inductive Minus : List Nat → Bool → List Nat → Prop
  | present (rest : List Nat) : Minus (0x2d :: rest) true rest
  | absent (rest : List Nat) : Minus rest false rest

/-- `int = zero / ( digit1-9 *DIGIT )` -/
inductive IntPart : List Nat → List Nat → List Nat → Prop
  | zero (rest : List Nat) : IntPart (0x30 :: rest) [0] rest
  | digits {d : Nat} {text ds rest : List Nat} :
      1 ≤ d → d ≤ 9 → Digits text ds rest → IntPart ((0x30 + d) :: text) (d :: ds) rest

/-- `[ frac ]` with `frac = decimal-point 1*DIGIT` -/
inductive Frac : List Nat → Option (List Nat) → List Nat → Prop
  | absent (rest : List Nat) : Frac rest none rest
  | present {text ds rest : List Nat} :
      Digits text ds rest → ds ≠ [] → Frac (0x2e :: text) (some ds) rest

/-- `[ minus / plus ]` -/
inductive ExpSign : List Nat → Bool → List Nat → Prop
  | minus (rest : List Nat) : ExpSign (0x2d :: rest) true rest
  | plus (rest : List Nat) : ExpSign (0x2b :: rest) false rest
  | absent (rest : List Nat) : ExpSign rest false rest

/-- `[ exp ]` with `exp = e [ minus / plus ] 1*DIGIT` -/
inductive Exp : List Nat → Option (Bool × List Nat) → List Nat → Prop
  | absent (rest : List Nat) : Exp rest none rest
  | present {e : Nat} {neg : Bool} {text text' ds rest : List Nat} :
      e = 0x65 ∨ e = 0x45 → ExpSign text neg text' → Digits text' ds rest → ds ≠ [] →
      Exp (e :: text) (some (neg, ds)) rest

/-- A number as it is written: the digits of its parts. -/
structure Numeral where
  negative : Bool
  int : List Nat
  frac : Option (List Nat)
  exp : Option (Bool × List Nat)

/-- `number = [ minus ] int [ frac ] [ exp ]` -/
inductive Number : List Nat → Numeral → List Nat → Prop
  | mk {text t₁ t₂ t₃ rest int : List Nat} {negative : Bool} {frac : Option (List Nat)}
      {exp : Option (Bool × List Nat)} :
      Minus text negative t₁ → IntPart t₁ int t₂ → Frac t₂ frac t₃ → Exp t₃ exp rest →
      Number text ⟨negative, int, frac, exp⟩ rest

/-- The letters after the escape character and what they stand for. -/
def escapes : List (Nat × Nat) :=
  [(0x22, 0x22), (0x5c, 0x5c), (0x2f, 0x2f), (0x62, 0x08), (0x66, 0x0c), (0x6e, 0x0a), (0x72, 0x0d),
    (0x74, 0x09)]

/-- `HEXDIG`, in either case. -/
inductive HexDigit : Nat → Nat → Prop
  | digit {d : Nat} : d ≤ 9 → HexDigit (0x30 + d) d
  | upper {d : Nat} : d ≤ 5 → HexDigit (0x41 + d) (10 + d)
  | lower {d : Nat} : d ≤ 5 → HexDigit (0x61 + d) (10 + d)

/-- `*char quotation-mark`, read as the code units of the string. -/
inductive Chars : List Nat → List Nat → List Nat → Prop
  | close (rest : List Nat) : Chars (0x22 :: rest) [] rest
  | unescaped {c : Nat} {text us rest : List Nat} :
      0x20 ≤ c → c ≠ 0x22 → c ≠ 0x5c → Chars text us rest → Chars (c :: text) (c :: us) rest
  | escaped {e u : Nat} {text us rest : List Nat} :
      (e, u) ∈ escapes → Chars text us rest → Chars (0x5c :: e :: text) (u :: us) rest
  | hex {h₁ h₂ h₃ h₄ d₁ d₂ d₃ d₄ : Nat} {text us rest : List Nat} :
      HexDigit h₁ d₁ → HexDigit h₂ d₂ → HexDigit h₃ d₃ → HexDigit h₄ d₄ → Chars text us rest →
      Chars (0x5c :: 0x75 :: h₁ :: h₂ :: h₃ :: h₄ :: text)
        ((((d₁ * 16 + d₂) * 16 + d₃) * 16 + d₄) :: us) rest

/-- What a text is read as. -/
inductive Doc where
  | null
  | bool (b : Bool)
  | num (x : Numeral)
  | str (us : List Nat)
  | arr (ds : List Doc)
  | obj (ms : List (List Nat × Doc))

mutual

/-- `value = false / null / true / object / array / number / string` -/
inductive Value : List Nat → Doc → List Nat → Prop
  | null (rest : List Nat) : Value (0x6e :: 0x75 :: 0x6c :: 0x6c :: rest) .null rest
  | true (rest : List Nat) : Value (0x74 :: 0x72 :: 0x75 :: 0x65 :: rest) (.bool true) rest
  | false (rest : List Nat) :
      Value (0x66 :: 0x61 :: 0x6c :: 0x73 :: 0x65 :: rest) (.bool false) rest
  | number {text rest : List Nat} {x : Numeral} : Number text x rest → Value text (.num x) rest
  | string {text us rest : List Nat} : Chars text us rest → Value (0x22 :: text) (.str us) rest
  | emptyArray {text rest : List Nat} : Ws text (0x5d :: rest) → Value (0x5b :: text) (.arr []) rest
  | array {text rest : List Nat} {ds : List Doc} :
      Elems text ds rest → Value (0x5b :: text) (.arr ds) rest
  | emptyObject {text rest : List Nat} :
      Ws text (0x7d :: rest) → Value (0x7b :: text) (.obj []) rest
  | object {text rest : List Nat} {ms : List (List Nat × Doc)} :
      Members text ms rest → Value (0x7b :: text) (.obj ms) rest

/-- `value *( value-separator value ) end-array`, with the white space around the values. -/
inductive Elems : List Nat → List Doc → List Nat → Prop
  | last {text t₁ t₂ rest : List Nat} {d : Doc} :
      Ws text t₁ → Value t₁ d t₂ → Ws t₂ (0x5d :: rest) → Elems text [d] rest
  | more {text t₁ t₂ t₃ rest : List Nat} {d : Doc} {ds : List Doc} :
      Ws text t₁ → Value t₁ d t₂ → Ws t₂ (0x2c :: t₃) → Elems t₃ ds rest →
      Elems text (d :: ds) rest

/-- `member *( value-separator member ) end-object` with `member = string name-separator value`. -/
inductive Members : List Nat → List (List Nat × Doc) → List Nat → Prop
  | last {text t₁ t₂ t₃ t₄ t₅ rest name : List Nat} {d : Doc} :
      Ws text (0x22 :: t₁) → Chars t₁ name t₂ → Ws t₂ (0x3a :: t₃) → Ws t₃ t₄ → Value t₄ d t₅ →
      Ws t₅ (0x7d :: rest) → Members text [(name, d)] rest
  | more {text t₁ t₂ t₃ t₄ t₅ t₆ rest name : List Nat} {d : Doc} {ms : List (List Nat × Doc)} :
      Ws text (0x22 :: t₁) → Chars t₁ name t₂ → Ws t₂ (0x3a :: t₃) → Ws t₃ t₄ → Value t₄ d t₅ →
      Ws t₅ (0x2c :: t₆) → Members t₆ ms rest → Members text ((name, d) :: ms) rest

end

/-- `JSON-text = ws value ws` -/
inductive JsonText : List Nat → Doc → Prop
  | mk {text t₁ t₂ : List Nat} {d : Doc} : Ws text t₁ → Value t₁ d t₂ → Ws t₂ [] → JsonText text d

/-! ## What a document denotes -/

/-- The number a run of digits denotes. -/
def decimal (ds : List Nat) : Nat := Nat.ofDigits 10 ds.reverse

/-- The number a numeral denotes. -/
def Numeral.value (x : Numeral) : ℚ :=
  let fraction : ℚ := (x.frac.map fun ds => (decimal ds : ℚ) / 10 ^ ds.length).getD 0
  let exponent : ℤ := (x.exp.map fun e => if e.1 then -(decimal e.2 : ℤ) else decimal e.2).getD 0
  (if x.negative then -1 else 1) * (decimal x.int + fraction) * 10 ^ exponent

lemma decimal_append_singleton (ds : List Nat) (d : Nat) :
    decimal (ds ++ [d]) = decimal ds * 10 + d := by
  rw [decimal, decimal, List.reverse_append, List.reverse_singleton, List.singleton_append,
    Nat.ofDigits_cons]
  omega

variable {x : Numeral} {c : Nat} {e : Option (Bool × List Nat)} {f : Option (List Nat)} {neg : Bool}
   {ds : List Doc} {d : Doc}

/-- A numeral without fraction and exponent is an integer. -/
lemma Numeral.value_of_integer (hfrac : x.frac = none) (hexp : x.exp = none) :
    x.value = ((if x.negative then -(decimal x.int : ℤ) else decimal x.int : ℤ) : ℚ) := by
  cases hneg : x.negative <;> simp [Numeral.value, hfrac, hexp, hneg]

mutual

/-- The value a document stands for, when all its numbers are integers and all its strings are
well-formed Unicode. -/
inductive Denotes : Doc → Json → Prop
  | null : Denotes .null .null
  | bool (b : Bool) : Denotes (.bool b) (.bool b)
  | num {x : Numeral} {n : ℤ} : x.value = n → Denotes (.num x) (.num n)
  | str (s : String) : Denotes (.str (Json.units s)) (.str s)
  | arr {ds : List Doc} {vs : List Json} : DenotesElems ds vs → Denotes (.arr ds) (.arr vs)
  | obj {ms : List (List Nat × Doc)} {ns : List (String × Json)} :
      DenotesMembers ms ns → Denotes (.obj ms) (.obj ns)

inductive DenotesElems : List Doc → List Json → Prop
  | nil : DenotesElems [] []
  | cons {d : Doc} {v : Json} {ds : List Doc} {vs : List Json} :
      Denotes d v → DenotesElems ds vs → DenotesElems (d :: ds) (v :: vs)

inductive DenotesMembers : List (List Nat × Doc) → List (String × Json) → Prop
  | nil : DenotesMembers [] []
  | cons {d : Doc} {v : Json} {ms : List (List Nat × Doc)} {ns : List (String × Json)} (k : String) :
      Denotes d v → DenotesMembers ms ns → DenotesMembers ((Json.units k, d) :: ms) ((k, v) :: ns)

end

/-! ## Induction -/

/-- Induction on a document, with the hypothesis at every element and every member. -/
@[elab_as_elim]
theorem Doc.ind {P : Doc → Prop} (null : P .null) (bool : ∀ b, P (.bool b)) (num : ∀ x, P (.num x))
    (str : ∀ us, P (.str us)) (arr : ∀ ds, (∀ d ∈ ds, P d) → P (.arr ds))
    (obj : ∀ ms : List (List Nat × Doc), (∀ m ∈ ms, P m.2) → P (.obj ms)) (d : Doc) : P d :=
  @Doc.rec P (fun ds => ∀ d ∈ ds, P d) (fun ms => ∀ m ∈ ms, P m.2) (fun m => P m.2)
    null bool num str arr obj
    (fun _ h => absurd h List.not_mem_nil)
    (fun _ _ hd hds _ h => (List.mem_cons.mp h).elim (fun e => e ▸ hd) (hds _))
    (fun _ h => absurd h List.not_mem_nil)
    (fun _ _ hm hms _ h => (List.mem_cons.mp h).elim (fun e => e ▸ hm) (hms _))
    (fun _ _ hd => hd) d

/-! ## The first unit of a text -/

/-- The text is empty or starts with a unit that satisfies `P`. -/
def Starts (P : Nat → Prop) (text : List Nat) : Prop := ∀ c ∈ text.head?, P c

variable {text rest rest' ds us : List Nat}

lemma starts_cons {P : Nat → Prop} : Starts P (c :: text) ↔ P c := by
  simp [Starts]

lemma Starts.mono {P Q : Nat → Prop} (h : Starts P text) (hPQ : ∀ c, P c → Q c) :
    Starts Q text := fun c hc => hPQ c (h c hc)

/-- What may stand after a value: white space, a separator or a closing delimiter. -/
def IsFollow (c : Nat) : Prop := IsWs c ∨ c = 0x2c ∨ c = 0x5d ∨ c = 0x7d

abbrev Follow (text : List Nat) : Prop := Starts IsFollow text

abbrev NoWs (text : List Nat) : Prop := Starts (fun c => ¬ IsWs c) text

lemma Ws.follow (h : Ws text rest) (hrest : Follow rest) : Follow text := by
  cases h with
  | nil => exact hrest
  | cons hc _ => exact starts_cons.mpr (.inl hc)

/-- White space ends at the first unit that is none. -/
lemma Ws.unique (h : Ws text rest) (h' : Ws text rest')
    (hrest : NoWs rest) (hrest' : NoWs rest') : rest = rest' := by
  induction h with
  | nil =>
    cases h' with
    | nil => rfl
    | cons hc _ => exact absurd hc (starts_cons.mp hrest)
  | cons hc _ ih =>
    cases h' with
    | nil => exact absurd hc (starts_cons.mp hrest')
    | cons _ h' => exact ih h' hrest

/-! ## Numbers -/

lemma Digits.unique {ds' : List Nat} (h : Digits text ds rest)
    (h' : Digits text ds' rest') (hrest : Starts (fun c => c < 0x30 ∨ 0x39 < c) rest)
    (hrest' : Starts (fun c => c < 0x30 ∨ 0x39 < c) rest') : ds = ds' ∧ rest = rest' := by
  induction h generalizing ds' with
  | nil text =>
    cases h' with
    | nil => exact ⟨rfl, rfl⟩
    | cons hd _ => have := starts_cons.mp hrest; omega
  | @cons d text ds rest hd _ ih =>
    generalize htext : (0x30 + d) :: text = text' at h'
    cases h' with
    | nil => subst htext; have := starts_cons.mp hrest'; omega
    | @cons d' _ ds' _ hd' h' =>
      obtain ⟨hdd, rfl⟩ := List.cons.inj htext
      obtain rfl : d = d' := by omega
      obtain ⟨rfl, rfl⟩ := ih h' hrest
      exact ⟨rfl, rfl⟩

/-- After the digits of a number. -/
abbrev NoDigit (text : List Nat) : Prop := Starts (fun c => c < 0x30 ∨ 0x39 < c) text

lemma Follow.noDigit (h : Follow text) : NoDigit text :=
  h.mono fun c hc => by unfold IsFollow IsWs at hc; omega

lemma Exp.starts (h : Exp text e rest)
    (hrest : Follow rest) : Starts (fun c => IsFollow c ∨ c = 0x65 ∨ c = 0x45) text := by
  cases h with
  | absent => exact hrest.mono fun c hc => .inl hc
  | present he _ _ _ => exact starts_cons.mpr (.inr he)

lemma Frac.starts (h : Frac text f rest)
    (hrest : Starts (fun c => IsFollow c ∨ c = 0x65 ∨ c = 0x45) rest) : NoDigit text := by
  cases h with
  | absent => exact hrest.mono fun c hc => by unfold IsFollow IsWs at hc; omega
  | present _ _ => exact starts_cons.mpr (by decide)

lemma Digits.starts (h : Digits text ds rest) (hne : ds ≠ []) :
    Starts (fun c => 0x30 ≤ c ∧ c ≤ 0x39) text := by
  cases h with
  | nil => exact absurd rfl hne
  | cons hd _ => exact starts_cons.mpr (by omega)

lemma IntPart.head (h : IntPart text ds rest) :
    ∃ c text', text = c :: text' ∧ 0x30 ≤ c ∧ c ≤ 0x39 := by
  cases h with
  | zero => exact ⟨_, _, rfl, by decide, by decide⟩
  | digits h₁ h₂ _ => exact ⟨_, _, rfl, by omega, by omega⟩

lemma IntPart.unique {ds' : List Nat} (h : IntPart text ds rest)
    (h' : IntPart text ds' rest') (hrest : NoDigit rest) (hrest' : NoDigit rest') :
    ds = ds' ∧ rest = rest' := by
  generalize htext : text = text' at h'
  cases h with
  | zero =>
    cases h' with
    | zero => exact ⟨rfl, (List.cons.inj htext).2⟩
    | digits h₁ _ _ => have := (List.cons.inj htext).1; omega
  | digits h₁ h₂ hds =>
    cases h' with
    | zero => have := (List.cons.inj htext).1; omega
    | digits h1' h2' hds' =>
      obtain ⟨hd, rfl⟩ := List.cons.inj htext
      obtain ⟨rfl, rfl⟩ := hds.unique hds' hrest hrest'
      exact ⟨by rw [Nat.add_left_cancel hd], rfl⟩

lemma ExpSign.unique {neg neg' : Bool} (h : ExpSign text neg rest)
    (h' : ExpSign text neg' rest') (hrest : Starts (fun c => 0x30 ≤ c ∧ c ≤ 0x39) rest)
    (hrest' : Starts (fun c => 0x30 ≤ c ∧ c ≤ 0x39) rest') : neg = neg' ∧ rest = rest' := by
  have hsign : ∀ {c t}, Starts (fun c => 0x30 ≤ c ∧ c ≤ 0x39) (c :: t) → c ≠ 0x2d ∧ c ≠ 0x2b :=
    fun h => by have := starts_cons.mp h; omega
  generalize htext : text = text' at h'
  cases h with
  | minus =>
    cases h' with
    | minus => exact ⟨rfl, (List.cons.inj htext).2⟩
    | plus => simp at htext
    | absent => subst htext; exact absurd rfl (hsign hrest').1
  | plus =>
    cases h' with
    | minus => simp at htext
    | plus => exact ⟨rfl, (List.cons.inj htext).2⟩
    | absent => subst htext; exact absurd rfl (hsign hrest').2
  | absent =>
    cases h' with
    | minus => subst htext; exact absurd rfl (hsign hrest).1
    | plus => subst htext; exact absurd rfl (hsign hrest).2
    | absent => exact ⟨rfl, htext⟩

lemma Exp.unique {e e' : Option (Bool × List Nat)}
    (h : Exp text e rest) (h' : Exp text e' rest') (hrest : Follow rest) (hrest' : Follow rest') :
    e = e' ∧ rest = rest' := by
  have hletter : ∀ {c t}, Follow (c :: t) → ¬ (c = 0x65 ∨ c = 0x45) := fun h => by
    have := starts_cons.mp h
    unfold IsFollow IsWs at this
    omega
  generalize htext : text = text' at h'
  cases h with
  | absent =>
    cases h' with
    | absent => exact ⟨rfl, htext⟩
    | present he _ _ _ => subst htext; exact absurd he (hletter hrest)
  | present he hsign hds hne =>
    cases h' with
    | absent => subst htext; exact absurd he (hletter hrest')
    | present _ hsign' hds' hne' =>
      obtain ⟨-, rfl⟩ := List.cons.inj htext
      obtain ⟨rfl, rfl⟩ := hsign.unique hsign' (hds.starts hne) (hds'.starts hne')
      obtain ⟨rfl, rfl⟩ := hds.unique hds' hrest.noDigit hrest'.noDigit
      exact ⟨rfl, rfl⟩

lemma Frac.unique {f f' : Option (List Nat)} (h : Frac text f rest)
    (h' : Frac text f' rest') (hrest : Starts (fun c => IsFollow c ∨ c = 0x65 ∨ c = 0x45) rest)
    (hrest' : Starts (fun c => IsFollow c ∨ c = 0x65 ∨ c = 0x45) rest') : f = f' ∧ rest = rest' := by
  have hpoint : ∀ {c t}, Starts (fun c => IsFollow c ∨ c = 0x65 ∨ c = 0x45) (c :: t) → c ≠ 0x2e :=
    fun h => by
      have := starts_cons.mp h
      unfold IsFollow IsWs at this
      omega
  have hdigit : ∀ {t}, Starts (fun c => IsFollow c ∨ c = 0x65 ∨ c = 0x45) t → NoDigit t :=
    fun h => h.mono fun c hc => by unfold IsFollow IsWs at hc; omega
  generalize htext : text = text' at h'
  cases h with
  | absent =>
    cases h' with
    | absent => exact ⟨rfl, htext⟩
    | present _ _ => subst htext; exact absurd rfl (hpoint hrest)
  | present hds hne =>
    cases h' with
    | absent => subst htext; exact absurd rfl (hpoint hrest')
    | present hds' _ =>
      obtain ⟨-, rfl⟩ := List.cons.inj htext
      obtain ⟨rfl, rfl⟩ := hds.unique hds' (hdigit hrest) (hdigit hrest')
      exact ⟨rfl, rfl⟩

lemma Minus.unique {neg neg' : Bool} (h : Minus text neg rest)
    (h' : Minus text neg' rest') (hrest : rest.head? ≠ some 0x2d) (hrest' : rest'.head? ≠ some 0x2d) :
    neg = neg' ∧ rest = rest' := by
  generalize htext : text = text' at h'
  cases h with
  | present =>
    cases h' with
    | present => exact ⟨rfl, (List.cons.inj htext).2⟩
    | absent => subst htext; exact absurd rfl hrest'
  | absent =>
    cases h' with
    | present => subst htext; exact absurd rfl hrest
    | absent => exact ⟨rfl, htext⟩

lemma Number.unique {x x' : Numeral} (h : Number text x rest)
    (h' : Number text x' rest') (hrest : Follow rest) (hrest' : Follow rest') :
    x = x' ∧ rest = rest' := by
  have hminus : ∀ {t ds r}, IntPart t ds r → t.head? ≠ some 0x2d := by
    intro t ds r h
    obtain ⟨c, t', rfl, h₁, -⟩ := h.head
    rw [List.head?_cons, ne_eq, Option.some.injEq]
    omega
  obtain ⟨hneg, hint, hfrac, hexp⟩ := h
  obtain ⟨hneg', hint', hfrac', hexp'⟩ := h'
  obtain ⟨rfl, rfl⟩ := hneg.unique hneg' (hminus hint) (hminus hint')
  have hafter := hexp.starts hrest
  have hafter' := hexp'.starts hrest'
  obtain ⟨rfl, rfl⟩ := hint.unique hint' (hfrac.starts hafter) (hfrac'.starts hafter')
  obtain ⟨rfl, rfl⟩ := hfrac.unique hfrac' hafter hafter'
  obtain ⟨rfl, rfl⟩ := hexp.unique hexp' hrest hrest'
  exact ⟨rfl, rfl⟩

/-! ## Strings -/

lemma HexDigit.unique {c d d' : Nat} (h : HexDigit c d) (h' : HexDigit c d') : d = d' := by
  generalize hc : c = c' at h'
  cases h <;> cases h' <;> omega

lemma ne_of_mem_escapes {e u : Nat} (h : (e, u) ∈ escapes) : e ≠ 0x75 := by
  rintro rfl
  simp [escapes] at h

lemma unique_of_mem_escapes {e u u' : Nat} (h : (e, u) ∈ escapes) (h' : (e, u') ∈ escapes) :
    u = u' := by
  simp only [escapes, List.mem_cons, Prod.mk.injEq, List.not_mem_nil, or_false] at h h'
  omega

lemma Chars.unique {us' : List Nat} (h : Chars text us rest)
    (h' : Chars text us' rest') : us = us' ∧ rest = rest' := by
  induction h generalizing us' with
  | close rest =>
    generalize htext : 0x22 :: rest = text' at h'
    cases h' with
    | close => exact ⟨rfl, (List.cons.inj htext).2⟩
    | unescaped _ hquote _ _ => exact absurd (List.cons.inj htext).1.symm hquote
    | escaped _ _ => simp at htext
    | hex _ _ _ _ _ => simp at htext
  | @unescaped c text us rest hc hquote hescape _ ih =>
    generalize htext : c :: text = text' at h'
    cases h' with
    | close => exact absurd (List.cons.inj htext).1 hquote
    | unescaped _ _ _ h' =>
      obtain ⟨rfl, rfl⟩ := List.cons.inj htext
      obtain ⟨rfl, rfl⟩ := ih h'
      exact ⟨rfl, rfl⟩
    | escaped _ _ => exact absurd (List.cons.inj htext).1 hescape
    | hex _ _ _ _ _ => exact absurd (List.cons.inj htext).1 hescape
  | @escaped e u text us rest he _ ih =>
    generalize htext : 0x5c :: e :: text = text' at h'
    cases h' with
    | close => simp at htext
    | unescaped _ _ hescape _ => exact absurd (List.cons.inj htext).1.symm hescape
    | escaped he' h' =>
      obtain ⟨-, hrest⟩ := List.cons.inj htext
      obtain ⟨rfl, rfl⟩ := List.cons.inj hrest
      obtain ⟨rfl, rfl⟩ := ih h'
      exact ⟨by rw [unique_of_mem_escapes he he'], rfl⟩
    | hex _ _ _ _ _ =>
      exact absurd (List.cons.inj (List.cons.inj htext).2).1 (ne_of_mem_escapes he)
  | @hex a b c d _ _ _ _ text us rest h₁ h₂ h₃ h₄ _ ih =>
    generalize htext : 0x5c :: 0x75 :: a :: b :: c :: d :: text = text' at h'
    cases h' with
    | close => simp at htext
    | unescaped _ _ hescape _ => exact absurd (List.cons.inj htext).1.symm hescape
    | escaped he _ =>
      exact absurd (List.cons.inj (List.cons.inj htext).2).1.symm (ne_of_mem_escapes he)
    | hex h1' h2' h3' h4' h' =>
      simp only [List.cons.injEq, true_and] at htext
      obtain ⟨rfl, rfl, rfl, rfl, rfl⟩ := htext
      obtain ⟨rfl, rfl⟩ := ih h'
      rw [h₁.unique h1', h₂.unique h2', h₃.unique h3', h₄.unique h4']
      exact ⟨rfl, rfl⟩

/-! ## Values -/

lemma value_null_iff : Value text .null rest ↔ text = 0x6e :: 0x75 :: 0x6c :: 0x6c :: rest := by
  constructor
  · rintro ⟨⟩
    rfl
  · rintro rfl
    exact .null _

lemma value_bool_iff {b : Bool} : Value text (.bool b) rest ↔ text =
      if b then 0x74 :: 0x72 :: 0x75 :: 0x65 :: rest
      else 0x66 :: 0x61 :: 0x6c :: 0x73 :: 0x65 :: rest := by
  constructor
  · rintro ⟨⟩ <;> rfl
  · rintro rfl
    cases b
    · exact .false _
    · exact .true _

lemma value_num_iff : Value text (.num x) rest ↔ Number text x rest := by
  constructor
  · rintro ⟨⟩
    assumption
  · exact .number

lemma value_str_iff :
    Value text (.str us) rest ↔ ∃ text', text = 0x22 :: text' ∧ Chars text' us rest := by
  constructor
  · rintro ⟨⟩
    exact ⟨_, rfl, ‹_›⟩
  · rintro ⟨text', rfl, h⟩
    exact .string h

lemma value_arr_iff {ds : List Doc} : Value text (.arr ds) rest ↔ ∃ text', text = 0x5b :: text' ∧
      (ds = [] ∧ Ws text' (0x5d :: rest) ∨ Elems text' ds rest) := by
  constructor
  · rintro ⟨⟩
    · exact ⟨_, rfl, .inl ⟨rfl, ‹_›⟩⟩
    · exact ⟨_, rfl, .inr ‹_›⟩
  · rintro ⟨text', rfl, ⟨rfl, h⟩ | h⟩
    · exact .emptyArray h
    · exact .array h

variable {ms : List (List Nat × Doc)}

lemma value_obj_iff : Value text (.obj ms) rest ↔ ∃ text', text = 0x7b :: text' ∧
      (ms = [] ∧ Ws text' (0x7d :: rest) ∨ Members text' ms rest) := by
  constructor
  · rintro ⟨⟩
    · exact ⟨_, rfl, .inl ⟨rfl, ‹_›⟩⟩
    · exact ⟨_, rfl, .inr ‹_›⟩
  · rintro ⟨text', rfl, ⟨rfl, h⟩ | h⟩
    · exact .emptyObject h
    · exact .object h

/-- Which constructor a document is built with, the two booleans apart. -/
def Doc.kind : Doc → Nat
  | .null => 0
  | .bool true => 1
  | .bool false => 2
  | .num _ => 3
  | .str _ => 4
  | .arr _ => 5
  | .obj _ => 6

/-- The kind of document that starts with a unit. -/
def unitKind (c : Nat) : Nat :=
  if c = 0x6e then 0 else if c = 0x74 then 1 else if c = 0x66 then 2 else if c = 0x22 then 4
  else if c = 0x5b then 5 else if c = 0x7b then 6 else 3

lemma Number.head (h : Number text x rest) :
    ∃ c text', text = c :: text' ∧ (c = 0x2d ∨ 0x30 ≤ c ∧ c ≤ 0x39) := by
  obtain ⟨hminus, hint, -, -⟩ := h
  cases hminus with
  | present => exact ⟨_, _, rfl, .inl rfl⟩
  | absent =>
    obtain ⟨c, text', rfl, hc⟩ := hint.head
    exact ⟨c, text', rfl, .inr hc⟩

/-- A value starts with a unit that tells its kind, and with neither white space nor a delimiter. -/
lemma Value.head (h : Value text d rest) :
    ∃ c text', text = c :: text' ∧ unitKind c = d.kind ∧ ¬ IsFollow c := by
  have hfollow : ∀ {c}, IsFollow c ↔
      c = 0x20 ∨ c = 0x09 ∨ c = 0x0a ∨ c = 0x0d ∨ c = 0x2c ∨ c = 0x5d ∨ c = 0x7d := by
    intro c
    unfold IsFollow IsWs
    omega
  cases h with
  | number h =>
    obtain ⟨c, text', rfl, hc⟩ := h.head
    refine ⟨c, text', rfl, ?_, by rw [hfollow]; omega⟩
    unfold unitKind
    rw [if_neg (by omega), if_neg (by omega), if_neg (by omega), if_neg (by omega),
      if_neg (by omega), if_neg (by omega)]
    rfl
  | _ => exact ⟨_, _, rfl, rfl, by rw [hfollow]; decide⟩

lemma Value.noWs (h : Value text d rest) : NoWs text := by
  obtain ⟨c, text', rfl, -, hc⟩ := h.head
  exact starts_cons.mpr fun hws => hc (.inl hws)

/-- The grammar reads the document in one way. -/
def Unique (d : Doc) : Prop :=
  ∀ text d' rest rest', Value text d rest → Value text d' rest' → Follow rest → Follow rest' →
    d = d' ∧ rest = rest'

/-- A delimiter is not white space and may follow a value. -/
lemma noWs_cons (h : c = 0x22 ∨ c = 0x3a ∨ c = 0x2c ∨ c = 0x5d ∨ c = 0x7d) :
    NoWs (c :: text) :=
  starts_cons.mpr (by unfold IsWs; omega)

lemma follow_cons (h : c = 0x2c ∨ c = 0x5d ∨ c = 0x7d) : Follow (c :: text) :=
  starts_cons.mpr (.inr h)

lemma not_elems_nil : ¬ Elems text [] rest := by rintro ⟨⟩

lemma not_members_nil : ¬ Members text [] rest := by rintro ⟨⟩

lemma elems_cons_iff {d : Doc} {ds : List Doc} :
    Elems text (d :: ds) rest ↔ ∃ t₁ t₂, Ws text t₁ ∧ Value t₁ d t₂ ∧
      (ds = [] ∧ Ws t₂ (0x5d :: rest) ∨ ∃ t₃, Ws t₂ (0x2c :: t₃) ∧ Elems t₃ ds rest) := by
  constructor
  · rintro ⟨⟩
    · exact ⟨_, _, ‹_›, ‹_›, .inl ⟨rfl, ‹_›⟩⟩
    · exact ⟨_, _, ‹_›, ‹_›, .inr ⟨_, ‹_›, ‹_›⟩⟩
  · rintro ⟨t₁, t₂, hws, hd, ⟨rfl, hclose⟩ | ⟨t₃, hcomma, hds⟩⟩
    · exact .last hws hd hclose
    · exact .more hws hd hcomma hds

lemma members_cons_iff {name : List Nat} :
    Members text ((name, d) :: ms) rest ↔ ∃ t₁ t₂ t₃ t₄ t₅, Ws text (0x22 :: t₁) ∧
      Chars t₁ name t₂ ∧ Ws t₂ (0x3a :: t₃) ∧ Ws t₃ t₄ ∧ Value t₄ d t₅ ∧
      (ms = [] ∧ Ws t₅ (0x7d :: rest) ∨ ∃ t₆, Ws t₅ (0x2c :: t₆) ∧ Members t₆ ms rest) := by
  constructor
  · rintro ⟨⟩
    · exact ⟨_, _, _, _, _, ‹_›, ‹_›, ‹_›, ‹_›, ‹_›, .inl ⟨rfl, ‹_›⟩⟩
    · exact ⟨_, _, _, _, _, ‹_›, ‹_›, ‹_›, ‹_›, ‹_›, .inr ⟨_, ‹_›, ‹_›⟩⟩
  · rintro ⟨t₁, t₂, t₃, t₄, t₅, hws, hname, hcolon, hgap, hd, ⟨rfl, hclose⟩ | ⟨t₆, hcomma, hms⟩⟩
    · exact .last hws hname hcolon hgap hd hclose
    · exact .more hws hname hcolon hgap hd hcomma hms

/-- What comes after an element or a member decides whether it is the last one. -/
lemma Ws.delimiter {c' : Nat} (h : Ws text (c :: rest))
    (h' : Ws text (c' :: rest')) (hc : c = 0x2c ∨ c = 0x5d ∨ c = 0x7d)
    (hc' : c' = 0x2c ∨ c' = 0x5d ∨ c' = 0x7d) : c = c' ∧ rest = rest' := by
  have heq := h.unique h' (noWs_cons (by omega)) (noWs_cons (by omega))
  exact List.cons.inj heq

/-- After an element or a member: the closing delimiter, or a comma and the others. -/
lemma follow_of_more {α : Type} {close : Nat} (hclose : close = 0x5d ∨ close = 0x7d) {xs : List α}
    {R : List Nat → List α → List Nat → Prop} (h : xs = [] ∧ Ws text (close :: rest) ∨
      ∃ t, Ws text (0x2c :: t) ∧ R t xs rest) : Follow text := by
  rcases h with ⟨-, h⟩ | ⟨t, h, -⟩
  · exact h.follow (follow_cons (by omega))
  · exact h.follow (follow_cons (by decide))

lemma more_unique {α : Type} {close : Nat} (hclose : close = 0x5d ∨ close = 0x7d) {xs xs' : List α}
    {R : List Nat → List α → List Nat → Prop}
    (hR : ∀ {t}, R t xs rest → R t xs' rest' → xs = xs' ∧ rest = rest')
    (h : xs = [] ∧ Ws text (close :: rest) ∨ ∃ t, Ws text (0x2c :: t) ∧ R t xs rest)
    (h' : xs' = [] ∧ Ws text (close :: rest') ∨ ∃ t, Ws text (0x2c :: t) ∧ R t xs' rest') :
    xs = xs' ∧ rest = rest' := by
  rcases h with ⟨rfl, h⟩ | ⟨t, h, hrest⟩ <;> rcases h' with ⟨rfl, h'⟩ | ⟨t', h', hrest'⟩
  · exact ⟨rfl, (h.delimiter h' (by omega) (by omega)).2⟩
  · have := (h.delimiter h' (by omega) (by decide)).1
    omega
  · have := (h.delimiter h' (by decide) (by omega)).1
    omega
  · obtain ⟨-, rfl⟩ := h.delimiter h' (by decide) (by decide)
    exact hR hrest hrest'

lemma Elems.unique {ds ds' : List Doc} (hds : ∀ d ∈ ds, Unique d)
    (h : Elems text ds rest) (h' : Elems text ds' rest') : ds = ds' ∧ rest = rest' := by
  induction ds generalizing ds' text with
  | nil => exact absurd h not_elems_nil
  | cons d ds ih =>
    cases ds' with
    | nil => exact absurd h' not_elems_nil
    | cons d' ds' =>
      obtain ⟨t1, t2, hws, hd, hmore⟩ := elems_cons_iff.mp h
      obtain ⟨t1', t2', hws', hd', hmore'⟩ := elems_cons_iff.mp h'
      obtain rfl := hws.unique hws' hd.noWs hd'.noWs
      obtain ⟨rfl, rfl⟩ := hds d (.head _) _ _ _ _ hd hd' (follow_of_more (by decide) hmore)
        (follow_of_more (by decide) hmore')
      obtain ⟨rfl, rfl⟩ := more_unique (by decide) (ih fun e he => hds e (.tail _ he)) hmore hmore'
      exact ⟨rfl, rfl⟩

lemma Members.unique {ms' : List (List Nat × Doc)} (hms : ∀ m ∈ ms, Unique m.2)
    (h : Members text ms rest) (h' : Members text ms' rest') : ms = ms' ∧ rest = rest' := by
  induction ms generalizing ms' text with
  | nil => exact absurd h not_members_nil
  | cons m ms ih =>
    obtain ⟨name, d⟩ := m
    cases ms' with
    | nil => exact absurd h' not_members_nil
    | cons m' ms' =>
      obtain ⟨name', d'⟩ := m'
      obtain ⟨t1, t2, t3, t4, t5, hws, hname, hcolon, hgap, hd, hmore⟩ := members_cons_iff.mp h
      obtain ⟨u1, u2, u3, u4, u5, hws', hname', hcolon', hgap', hd', hmore'⟩ :=
        members_cons_iff.mp h'
      obtain ⟨-, rfl⟩ := List.cons.inj
        (hws.unique hws' (noWs_cons (by decide)) (noWs_cons (by decide)))
      obtain ⟨rfl, rfl⟩ := hname.unique hname'
      obtain ⟨-, rfl⟩ := List.cons.inj
        (hcolon.unique hcolon' (noWs_cons (by decide)) (noWs_cons (by decide)))
      obtain rfl := hgap.unique hgap' hd.noWs hd'.noWs
      obtain ⟨rfl, rfl⟩ := hms (name, d) (.head _) _ _ _ _ hd hd' (follow_of_more (by decide) hmore)
        (follow_of_more (by decide) hmore')
      obtain ⟨rfl, rfl⟩ := more_unique (by decide) (ih fun m hm => hms m (.tail _ hm)) hmore hmore'
      exact ⟨rfl, rfl⟩

/-- An empty array is not read as one with elements. -/
lemma not_elems_of_close {ds : List Doc}
    (hclose : Ws text (0x5d :: rest)) : ¬ Elems text ds rest' := by
  intro h
  cases ds with
  | nil => exact not_elems_nil h
  | cons d ds =>
    obtain ⟨t₁, t₂, hws, hd, -⟩ := elems_cons_iff.mp h
    obtain ⟨c, t, rfl, -, hc⟩ := hd.head
    have heq := hclose.unique hws (noWs_cons (by decide)) hd.noWs
    exact hc (starts_cons.mp (heq ▸ follow_cons (by decide)))

/-- An empty object is not read as one with members. -/
lemma not_members_of_close (hclose : Ws text (0x7d :: rest)) : ¬ Members text ms rest' := by
  intro h
  cases ms with
  | nil => exact not_members_nil h
  | cons m ms =>
    obtain ⟨t₁, _, _, _, _, hws, -⟩ := members_cons_iff.mp h
    have heq := hclose.unique hws (noWs_cons (by decide)) (noWs_cons (by decide))
    exact absurd (List.cons.inj heq).1 (by decide)

/-- After an opening delimiter: the closing one, or what stands between them. -/
lemma closed_unique {α : Type} {close : Nat} (hclose : close = 0x5d ∨ close = 0x7d) {xs xs' : List α}
    {R : List Nat → List α → List Nat → Prop}
    (h : xs = [] ∧ Ws text (close :: rest) ∨ R text xs rest)
    (h' : xs' = [] ∧ Ws text (close :: rest') ∨ R text xs' rest')
    (hnot : ∀ {t r r' xs}, Ws t (close :: r) → ¬ R t xs r')
    (hR : R text xs rest → R text xs' rest' → xs = xs' ∧ rest = rest') : xs = xs' ∧ rest = rest' := by
  rcases h with ⟨rfl, h⟩ | h <;> rcases h' with ⟨rfl, h'⟩ | h'
  · exact ⟨rfl, (h.delimiter h' (by omega) (by omega)).2⟩
  · exact absurd h' (hnot h)
  · exact absurd h (hnot h')
  · exact hR h h'

/-- A text that starts with a value starts with one value. -/
theorem Value.unique (d : Doc) : Unique d := by
  -- the first unit tells the kind
  have hkind : ∀ {text rest rest' : List Nat} {d d' : Doc}, Value text d rest →
      Value text d' rest' → d.kind = d'.kind := by
    intro text rest rest' d d' h h'
    obtain ⟨c, t, rfl, hc, -⟩ := h.head
    obtain ⟨c', t', heq, hc', -⟩ := h'.head
    obtain ⟨rfl, -⟩ := List.cons.inj heq
    exact hc.symm.trans hc'
  induction d using Doc.ind with
  | null =>
    intro text d' rest rest' h h' _ _
    have hk := hkind h h'
    cases d' with
    | null => rw [value_null_iff] at h h'; simpa [h] using h'
    | bool b => cases b <;> cases hk
    | _ => cases hk
  | bool b =>
    intro text d' rest rest' h h' _ _
    have hk := hkind h h'
    cases d' with
    | bool b' =>
      obtain rfl : b = b' := by cases b <;> cases b' <;> first | rfl | cases hk
      rw [value_bool_iff] at h h'
      cases b <;> simpa [h] using h'
    | _ => cases b <;> cases hk
  | num x =>
    intro text d' rest rest' h h' hrest hrest'
    have hk := hkind h h'
    cases d' with
    | num x' =>
      obtain ⟨rfl, rfl⟩ := (value_num_iff.mp h).unique (value_num_iff.mp h') hrest hrest'
      exact ⟨rfl, rfl⟩
    | bool b => cases b <;> cases hk
    | _ => cases hk
  | str us =>
    intro text d' rest rest' h h' _ _
    have hk := hkind h h'
    cases d' with
    | str us' =>
      obtain ⟨t, rfl, hbody⟩ := value_str_iff.mp h
      obtain ⟨t', heq, hbody'⟩ := value_str_iff.mp h'
      obtain ⟨-, rfl⟩ := List.cons.inj heq
      obtain ⟨rfl, rfl⟩ := hbody.unique hbody'
      exact ⟨rfl, rfl⟩
    | bool b => cases b <;> cases hk
    | _ => cases hk
  | arr ds ih =>
    intro text d' rest rest' h h' _ _
    have hk := hkind h h'
    cases d' with
    | arr ds' =>
      obtain ⟨t, rfl, hbody⟩ := value_arr_iff.mp h
      obtain ⟨t', heq, hbody'⟩ := value_arr_iff.mp h'
      obtain ⟨-, rfl⟩ := List.cons.inj heq
      obtain ⟨rfl, rfl⟩ := closed_unique (by decide) hbody hbody' not_elems_of_close
        fun h h' => h.unique ih h'
      exact ⟨rfl, rfl⟩
    | bool b => cases b <;> cases hk
    | _ => cases hk
  | obj ms ih =>
    intro text d' rest rest' h h' _ _
    have hk := hkind h h'
    cases d' with
    | obj ms' =>
      obtain ⟨t, rfl, hbody⟩ := value_obj_iff.mp h
      obtain ⟨t', heq, hbody'⟩ := value_obj_iff.mp h'
      obtain ⟨-, rfl⟩ := List.cons.inj heq
      obtain ⟨rfl, rfl⟩ := closed_unique (by decide) hbody hbody' not_members_of_close
        fun h h' => h.unique ih h'
      exact ⟨rfl, rfl⟩
    | bool b => cases b <;> cases hk
    | _ => cases hk

/-- A text is read in one way. -/
theorem JsonText.unique {d d' : Doc} (h : JsonText text d) (h' : JsonText text d') : d = d' := by
  obtain ⟨hws, hd, hend⟩ := h
  obtain ⟨hws', hd', hend'⟩ := h'
  obtain rfl := hws.unique hws' hd.noWs hd'.noWs
  have hfollow : Follow [] := by simp [Starts]
  exact (Value.unique d _ _ _ _ hd hd' (hend.follow hfollow) (hend'.follow hfollow)).1

/-! ## White space before a list -/

lemma Ws.trans {t₁ t₂ t₃ : List Nat} (h : Ws t₁ t₂) (h' : Ws t₂ t₃) : Ws t₁ t₃ := by
  induction h with
  | nil => exact h'
  | cons hc _ ih => exact .cons hc (ih h')

lemma Ws.elems {t : List Nat} {ds : List Doc} (hws : Ws text t) (h : Elems t ds rest) :
    Elems text ds rest := by
  cases h with
  | last hgap hd hclose => exact .last (hws.trans hgap) hd hclose
  | more hgap hd hcomma hds => exact .more (hws.trans hgap) hd hcomma hds

lemma Ws.members {t : List Nat} (hws : Ws text t)
    (h : Members t ms rest) : Members text ms rest := by
  cases h with
  | last hquote hname hcolon hgap hd hclose =>
    exact .last (hws.trans hquote) hname hcolon hgap hd hclose
  | more hquote hname hcolon hgap hd hcomma hms =>
    exact .more (hws.trans hquote) hname hcolon hgap hd hcomma hms

/-! ## How much of a text is read -/

lemma Ws.length_le (h : Ws text rest) : rest.length ≤ text.length := by
  induction h with
  | nil => exact le_rfl
  | cons _ _ ih => exact ih.trans (Nat.le_succ _)

lemma Digits.length_eq (h : Digits text ds rest) : text.length = ds.length + rest.length := by
  induction h with
  | nil => simp
  | cons _ _ ih => simp only [List.length_cons]; omega

lemma IntPart.length_eq (h : IntPart text ds rest) :
    text.length = ds.length + rest.length ∧ ds ≠ [] := by
  cases h with
  | zero => exact ⟨by simp only [List.length_cons, List.length_nil]; omega, List.cons_ne_nil _ _⟩
  | digits _ _ hds =>
    have := hds.length_eq
    exact ⟨by simp only [List.length_cons]; omega, List.cons_ne_nil _ _⟩

/-- The document takes up some of the text. -/
def Consumes (d : Doc) : Prop := ∀ {text rest : List Nat}, Value text d rest → rest.length < text.length

end Rfc8259
