import NoaMandate.Lib.Json
import NoaMandate.Lib.Tree
import Mathlib.Tactic.IntervalCases

/-!
# Canonical JSON text

RFC 8785 serialisation of integer JSON with a nesting limit, and the two facts a program that
hashes canonical text relies on.

* `Json.Eqv v w`: the values are equal up to the order of object members.  It is stated through
  `Json.norm`, which sorts the members of every object by the UTF-16 code units of their names.
* `Json.eqv_of_serialize_eq` — **canonical text determines the value**: two values with the same
  canonical text are `Eqv`.
* `Json.serialize_eq_of_eqv` — `Eqv` values that both serialise have the same text.

The serialiser fails (`none`) on nesting deeper than the limit and on integers outside the range
in which a double is exact; `Json.exists_serialize` says that nothing else makes it fail.

The injectivity proof never mentions a parser.  `render` is the serialiser without its checks on
an already sorted value, and `render_append_inj` reads a rendered value off the front of a text:
every token is self-delimiting, except that a number needs a non-digit after it.
-/

namespace Json

/-! ## The order of member names -/

/-- The UTF-16 code units of one character. -/
def charUnits (c : Char) : List Nat :=
  if c.toNat < 0x10000 then [c.toNat]
  else [0xD800 + (c.toNat - 0x10000) / 0x400, 0xDC00 + (c.toNat - 0x10000) % 0x400]

/-- The UTF-16 code units of a string. -/
def units (s : String) : List Nat := (Text.chars s).flatMap charUnits

/-- A character is never a surrogate code point. -/
lemma toNat_not_surrogate (c : Char) : c.toNat < 0xD800 ∨ 0xDFFF < c.toNat := by
  rcases c.valid with h | h
  · exact Or.inl h
  · exact Or.inr h.1

lemma toNat_lt (c : Char) : c.toNat < 0x110000 := by
  rcases c.valid with h | h
  · exact h.trans (by decide)
  · exact h.2

variable {c : Char} {α : Type} {ms : List (String × Json)} {v : Json}

/-- The encoding of a character can be read off the front of a unit sequence. -/
lemma charUnits_append_inj {d : Char} {r r' : List Nat}
    (h : charUnits c ++ r = charUnits d ++ r') : c = d ∧ r = r' := by
  have hc := toNat_not_surrogate c
  have hd := toNat_not_surrogate d
  have hcd : c.toNat = d.toNat ∧ r = r' := by
    unfold charUnits at h
    split_ifs at h with h1 h2 h2
    · simp only [List.cons_append, List.nil_append, List.cons.injEq] at h
      exact h
    · simp only [List.cons_append, List.nil_append, List.cons.injEq] at h
      have hlt := toNat_lt d
      omega
    · simp only [List.cons_append, List.nil_append, List.cons.injEq] at h
      have hlt := toNat_lt c
      omega
    · simp only [List.cons_append, List.nil_append, List.cons.injEq] at h
      obtain ⟨h3, h4, h5⟩ := h
      exact ⟨by omega, h5⟩
  exact ⟨Char.ext (UInt32.toNat_inj.mp hcd.1), hcd.2⟩

/-- Different strings have different code units. -/
lemma units_injective : Function.Injective units := by
  have key : ∀ l l' : List Char, l.flatMap charUnits = l'.flatMap charUnits → l = l' := by
    have hne : ∀ c, charUnits c ≠ [] := fun c => by unfold charUnits; split_ifs <;> simp
    intro l
    induction l with
    | nil =>
      intro l' h
      cases l' with
      | nil => rfl
      | cons d l' => simp [hne d] at h
    | cons c l ih =>
      intro l' h
      cases l' with
      | nil => simp [hne c] at h
      | cons d l' =>
        simp only [List.flatMap_cons] at h
        obtain ⟨rfl, hrest⟩ := charUnits_append_inj h
        rw [ih l' hrest]
  intro s t h
  exact Text.chars_injective (key _ _ h)

/-- `a` comes no later than `b` in the order of UTF-16 code units. -/
def KeyLe {α : Type} (a b : String × α) : Prop :=
  @LE.le (List Nat) List.instLE (units a.1) (units b.1)

instance {α : Type} : DecidableRel (KeyLe (α := α)) := fun a b =>
  inferInstanceAs (Decidable (@LE.le (List Nat) List.instLE (units a.1) (units b.1)))

instance {α : Type} : Std.Total (KeyLe (α := α)) := ⟨fun a b => List.le_total (units a.1) (units b.1)⟩

instance {α : Type} : IsTrans (String × α) KeyLe := ⟨fun _ _ _ => List.le_trans⟩

/-- The members of an object, sorted by name. -/
def sortMembers {α : Type} (ms : List (String × α)) : List (String × α) := ms.insertionSort KeyLe

lemma sortMembers_perm (ms : List (String × α)) : (sortMembers ms).Perm ms :=
  List.perm_insertionSort _ ms

/-- Members whose names are in order stay where they are. -/
lemma sortMembers_of_sorted {ms : List (String × α)}
    (h : (ms.map Prod.fst).Pairwise fun a b => @LE.le (List Nat) List.instLE (units a) (units b)) :
    sortMembers ms = ms := by
  rw [List.pairwise_map] at h
  exact List.Pairwise.insertionSort_eq h

/-- Sorting looks at the names only. -/
lemma sortMembers_map {β : Type} (f : α → β) (ms : List (String × α)) :
    sortMembers (ms.map fun m => (m.1, f m.2)) = (sortMembers ms).map fun m => (m.1, f m.2) :=
  (List.map_insertionSort KeyLe KeyLe (fun m : String × α => (m.1, f m.2)) ms
    (fun _ _ _ _ => Iff.rfl)).symm

/-- Looking a name up is not affected by sorting, when no name is repeated. -/
lemma lookup_sortMembers {ms : List (String × α)} (h : (ms.map Prod.fst).Nodup)
    (k : String) : (sortMembers ms).lookup k = ms.lookup k := by
  have hperm := sortMembers_perm ms
  have hnd : ((sortMembers ms).map Prod.fst).Nodup := (hperm.map Prod.fst).nodup_iff.mpr h
  ext v
  rw [Assoc.lookup_eq_some_iff hnd, Assoc.lookup_eq_some_iff h, hperm.mem_iff]

/-! ## The serialiser -/

/-- Integers of larger absolute value are not exact in a double. -/
def maxSafe : Nat := 2 ^ 53 - 1

/-- The decimal text of an integer; zero has one text. -/
def intText (n : Int) : List Char :=
  if n < 0 then '-' :: Nat.toDigits 10 n.natAbs else Nat.toDigits 10 n.natAbs

/-- One character inside a string token: the two mandatory escapes, the short escapes, the
four-digit escape for the other control characters, and everything else as it is. -/
def escapeChar (c : Char) : List Char :=
  match c.toNat with
  | 0x22 => ['\\', '"']
  | 0x5c => ['\\', '\\']
  | 0x08 => ['\\', 'b']
  | 0x0c => ['\\', 'f']
  | 0x0a => ['\\', 'n']
  | 0x0d => ['\\', 'r']
  | 0x09 => ['\\', 't']
  | code =>
    if code < 0x20 then '\\' :: 'u' :: (Nat.toDigits 16 code).leftpad 4 '0' else [c]

/-- A string token without its opening quote. -/
def stringRest (s : String) : List Char := (Text.chars s).flatMap escapeChar ++ ['"']

/-- A string token. -/
def stringText (s : String) : List Char := '"' :: stringRest s

/-- The members of an object, already serialised, joined with commas and closed. -/
def joinMembers : Bool → List (String × List Char) → List Char
  | _, [] => ['\x7d']
  | first, (k, t) :: ms =>
    (if first then [] else [',']) ++ (stringText k ++ ':' :: (t ++ joinMembers false ms))

mutual

/-- The canonical text of a value at nesting depth `depth`; `none` when the nesting exceeds
`limit` or an integer is out of range. -/
def serialize (limit depth : Nat) (v : Json) : Option (List Char) :=
  if limit < depth then none
  else
    match v with
    | .null => some ['n', 'u', 'l', 'l']
    | .bool true => some ['t', 'r', 'u', 'e']
    | .bool false => some ['f', 'a', 'l', 's', 'e']
    | .num n => if n.natAbs ≤ maxSafe then some (intText n) else none
    | .str s => some (stringText s)
    | .arr xs => (serializeElems limit (depth + 1) true xs).map ('[' :: ·)
    | .obj ms =>
      (serializeMembers limit (depth + 1) ms).map fun ts => '\x7b' :: joinMembers true (sortMembers ts)

/-- The elements of an array, joined with commas and closed. -/
def serializeElems (limit depth : Nat) (first : Bool) : List Json → Option (List Char)
  | [] => some [']']
  | x :: xs => do
    let t ← serialize limit depth x
    let rest ← serializeElems limit depth false xs
    return (if first then [] else [',']) ++ (t ++ rest)

/-- The members of an object with their values serialised, in document order. -/
def serializeMembers (limit depth : Nat) : List (String × Json) → Option (List (String × List Char))
  | [] => some []
  | (k, v) :: ms => do
    let t ← serialize limit depth v
    let rest ← serializeMembers limit depth ms
    return (k, t) :: rest

end

/-- The canonical text of a value, as the list of its characters. -/
def canonicalText (limit : Nat) (v : Json) : Option (List Char) := serialize limit 0 v

/-! ## Equality up to member order -/

mutual

/-- The value with the members of every object sorted by name. -/
def norm : Json → Json
  | .arr xs => .arr (normElems xs)
  | .obj ms => .obj (sortMembers (normMembers ms))
  | v => v

/-- `norm` at every element. -/
def normElems : List Json → List Json
  | [] => []
  | x :: xs => norm x :: normElems xs

/-- `norm` at every member. -/
def normMembers : List (String × Json) → List (String × Json)
  | [] => []
  | (k, v) :: ms => (k, norm v) :: normMembers ms

end

lemma normElems_eq_map (xs : List Json) : normElems xs = xs.map norm := by
  induction xs with
  | nil => rfl
  | cons x xs ih => simp [normElems, ih]

lemma normMembers_eq_map (ms : List (String × Json)) :
    normMembers ms = ms.map fun m => (m.1, norm m.2) := by
  induction ms with
  | nil => rfl
  | cons m ms ih => simp [normMembers, ih]

lemma norm_arr (xs : List Json) : norm (.arr xs) = .arr (xs.map norm) := by
  rw [norm, normElems_eq_map]

lemma norm_obj (ms : List (String × Json)) :
    norm (.obj ms) = .obj ((sortMembers ms).map fun m => (m.1, norm m.2)) := by
  rw [norm, normMembers_eq_map, sortMembers_map]

/-- The values are equal up to the order of object members. -/
def Eqv (v w : Json) : Prop := norm v = norm w

instance (v w : Json) : Decidable (Eqv v w) := inferInstanceAs (Decidable (norm v = norm w))

lemma Eqv.refl (v : Json) : Eqv v v := rfl

variable {v w : Json}

lemma Eqv.symm (h : Eqv v w) : Eqv w v := Eq.symm h

lemma Eqv.trans {u : Json} (h : Eqv u v) (h' : Eqv v w) : Eqv u w := Eq.trans h h'

lemma lookup_norm (h : (ms.map Prod.fst).Nodup) (k : String) :
    (sortMembers (normMembers ms)).lookup k = (ms.lookup k).map norm := by
  rw [normMembers_eq_map, sortMembers_map, Assoc.lookup_map _ fun _ => norm, lookup_sortMembers h]

/-- Two objects are equal up to member order when they have the same members, up to member
order. -/
theorem eqv_obj_iff {ns : List (String × Json)} (hms : (ms.map Prod.fst).Nodup)
    (hns : (ns.map Prod.fst).Nodup) :
    Eqv (.obj ms) (.obj ns) ↔ ∀ k, (ms.lookup k).map norm = (ns.lookup k).map norm := by
  have hfst : ∀ l : List (String × Json), (sortMembers (normMembers l)).map Prod.fst =
      (sortMembers l).map Prod.fst := by
    intro l
    rw [normMembers_eq_map, sortMembers_map, List.map_map]
    rfl
  have hnd : ∀ l : List (String × Json), (l.map Prod.fst).Nodup →
      ((sortMembers (normMembers l)).map Prod.fst).Nodup := by
    intro l hl
    rw [hfst]
    exact ((sortMembers_perm l).map Prod.fst).nodup_iff.mpr hl
  constructor
  · intro h k
    have hsort : sortMembers (normMembers ms) = sortMembers (normMembers ns) := by
      have h' : norm (.obj ms) = norm (.obj ns) := h
      rw [norm, norm] at h'
      exact Json.obj.inj h'
    rw [← lookup_norm hms, ← lookup_norm hns, hsort]
  · intro h
    have hmem : ∀ m, m ∈ sortMembers (normMembers ms) ↔ m ∈ sortMembers (normMembers ns) := by
      rintro ⟨k, v⟩
      rw [← Assoc.lookup_eq_some_iff (hnd ms hms), ← Assoc.lookup_eq_some_iff (hnd ns hns),
        lookup_norm hms, lookup_norm hns, h k]
    have hperm := (List.perm_ext_iff_of_nodup (List.Nodup.of_map _ (hnd ms hms))
      (List.Nodup.of_map _ (hnd ns hns))).mpr hmem
    have hsorted : ∀ l : List (String × Json), (sortMembers l).Pairwise KeyLe :=
      fun l => List.pairwise_insertionSort KeyLe l
    -- two sorted lists with the same members; equal names mean equal members
    have heq := hperm.eq_of_pairwise (fun a b ha hb hab hba => by
      have hkey : a.1 = b.1 := units_injective (List.le_antisymm hab hba)
      have hb' := (Assoc.lookup_eq_some_iff (hnd ms hms) (k := b.1) (v := b.2)).mpr ((hmem b).mpr hb)
      have ha' := (Assoc.lookup_eq_some_iff (hnd ms hms) (k := a.1) (v := a.2)).mpr ha
      rw [hkey, hb', Option.some.injEq] at ha'
      exact Prod.ext hkey ha'.symm) (hsorted _) (hsorted _)
    change norm (.obj ms) = norm (.obj ns)
    rw [norm, norm, heq]

/-- Values equal up to member order have equal members, up to member order. -/
lemma Eqv.get? (h : Eqv v w) (hv : v.Distinct) (hw : w.Distinct) (k : String) :
    (v.get? k).map norm = (w.get? k).map norm := by
  cases v with
  | obj ms =>
    cases w with
    | obj ns =>
      exact (eqv_obj_iff ((distinct_obj ms).mp hv).1 ((distinct_obj ns).mp hw).1).mp h k
    | _ => cases h
  | _ =>
    cases w with
    | obj ns => cases h
    | _ => rfl

/-- Values equal up to member order agree along every path, up to member order. -/
lemma Eqv.path? (path : List String) : ∀ {v w : Json}, Eqv v w → v.Distinct → w.Distinct →
    (v.path? path).map norm = (w.path? path).map norm := by
  induction path with
  | nil =>
    intro v w h _ _
    exact congrArg some h
  | cons k ks ih =>
    intro v w h hv hw
    have hget := h.get? hv hw k
    rw [Json.path?, Json.path?]
    cases hvk : v.get? k with
    | none =>
      rw [hvk, Option.map_none] at hget
      rw [Option.map_eq_none_iff.mp hget.symm]
    | some a =>
      rw [hvk, Option.map_some] at hget
      obtain ⟨b, hwk, hab⟩ := Option.map_eq_some_iff.mp hget.symm
      rw [hwk, Option.bind_some, Option.bind_some]
      exact ih hab.symm (hv.get? hvk) (hw.get? hwk)

lemma asStr?_norm (v : Json) : (norm v).asStr? = v.asStr? := by
  cases v <;> rfl

/-- The string at a path does not depend on member order. -/
lemma Eqv.strAt? (h : Eqv v w) (hv : v.Distinct) (hw : w.Distinct)
    (path : List String) : v.strAt? path = w.strAt? path := by
  have hpath := congrArg (fun o => o.bind asStr?) (h.path? path hv hw)
  simpa [Json.strAt?, Option.bind_map, Function.comp_def, asStr?_norm] using hpath

/-- The integer at a path does not depend on member order. -/
lemma Eqv.numAt (h : Eqv v w) (hv : v.Distinct) (hw : w.Distinct)
    (path : List String) : v.numAt path = w.numAt path := by
  have hpath := h.path? path hv hw
  unfold Json.numAt
  rcases hx : v.path? path with _ | x <;> rcases hy : w.path? path with _ | y <;>
    rw [hx, hy] at hpath
  · cases hpath
  · cases hpath
  · have hxy : norm x = norm y := Option.some.inj hpath
    cases x <;> cases y <;> simp_all [norm]

/-! ## Rendering a sorted value -/

mutual

/-- The text of a value as it stands, with no check and no sorting. -/
def render : Json → List Char
  | .null => ['n', 'u', 'l', 'l']
  | .bool true => ['t', 'r', 'u', 'e']
  | .bool false => ['f', 'a', 'l', 's', 'e']
  | .num n => intText n
  | .str s => stringText s
  | .arr xs => '[' :: renderElems true xs
  | .obj ms => '\x7b' :: renderMembers true ms

/-- `render` at the elements of an array, joined with commas and closed. -/
def renderElems : Bool → List Json → List Char
  | _, [] => [']']
  | first, x :: xs => (if first then [] else [',']) ++ (render x ++ renderElems false xs)

/-- `render` at the members of an object, joined with commas and closed. -/
def renderMembers : Bool → List (String × Json) → List Char
  | _, [] => ['\x7d']
  | first, (k, v) :: ms =>
    (if first then [] else [',']) ++
      (stringText k ++ ':' :: (render v ++ renderMembers false ms))

end

lemma joinMembers_map_render (first : Bool) (ms : List (String × Json)) :
    joinMembers first (ms.map fun m => (m.1, render m.2)) = renderMembers first ms := by
  induction ms generalizing first with
  | nil => rfl
  | cons m ms ih => obtain ⟨k, v⟩ := m; simp [joinMembers, renderMembers, ih]

lemma serializeElems_eq (limit : Nat) (xs : List Json)
    (h : ∀ x ∈ xs, ∀ depth t, serialize limit depth x = some t → t = render (norm x)) :
    ∀ depth first t, serializeElems limit depth first xs = some t →
      t = renderElems first (xs.map norm) := by
  induction xs with
  | nil => intro depth first t ht; simpa [serializeElems, renderElems, eq_comm] using ht
  | cons x xs ih =>
    intro depth first t ht
    simp only [serializeElems, bind, Option.bind_eq_some_iff, pure, Option.some.injEq] at ht
    obtain ⟨tx, htx, rest, hrest, rfl⟩ := ht
    have hx := h x (.head _) depth tx htx
    have hxs := ih (fun y hy => h y (.tail _ hy)) depth false rest hrest
    simp [renderElems, hx, hxs]

lemma serializeMembers_eq (limit : Nat) (ms : List (String × Json))
    (h : ∀ m ∈ ms, ∀ depth t, serialize limit depth m.2 = some t → t = render (norm m.2)) :
    ∀ depth ts, serializeMembers limit depth ms = some ts →
      ts = ms.map fun m => (m.1, render (norm m.2)) := by
  induction ms with
  | nil => intro depth ts hts; simpa [serializeMembers, eq_comm] using hts
  | cons m ms ih =>
    obtain ⟨k, v⟩ := m
    intro depth ts hts
    simp only [serializeMembers, bind, Option.bind_eq_some_iff, pure, Option.some.injEq] at hts
    obtain ⟨tv, htv, rest, hrest, rfl⟩ := hts
    have hv := h (k, v) (.head _) depth tv htv
    have hms := ih (fun y hy => h y (.tail _ hy)) depth rest hrest
    simp [hv, hms]

/-- The serialiser sorts, then renders. -/
lemma serialize_eq_render (limit : Nat) (v : Json) :
    ∀ depth t, serialize limit depth v = some t → t = render (norm v) := by
  induction v using Json.ind with
  | null =>
    intro depth t ht
    simp only [serialize, Option.ite_none_left_eq_some, Option.some.injEq] at ht
    exact ht.2.symm
  | bool b =>
    intro depth t ht
    cases b <;> simp only [serialize, Option.ite_none_left_eq_some, Option.some.injEq] at ht <;>
      exact ht.2.symm
  | num n =>
    intro depth t ht
    simp only [serialize, Option.ite_none_left_eq_some, Option.ite_none_right_eq_some,
      Option.some.injEq] at ht
    exact ht.2.2.symm
  | str s =>
    intro depth t ht
    simp only [serialize, Option.ite_none_left_eq_some, Option.some.injEq] at ht
    exact ht.2.symm
  | arr xs ih =>
    intro depth t ht
    simp only [serialize, Option.ite_none_left_eq_some, Option.map_eq_some_iff] at ht
    obtain ⟨-, u, hu, rfl⟩ := ht
    rw [norm_arr, render, serializeElems_eq limit xs ih _ _ _ hu]
  | obj ms ih =>
    intro depth t ht
    simp only [serialize, Option.ite_none_left_eq_some, Option.map_eq_some_iff] at ht
    obtain ⟨-, ts, hts, rfl⟩ := ht
    rw [norm_obj, render, serializeMembers_eq limit ms ih _ _ hts,
      sortMembers_map (fun v => render (norm v)), ← joinMembers_map_render, List.map_map]
    rfl

/-! ## Reading a rendered value off the front of a text

A rendered value is followed by a comma, a closing bracket or nothing; none of these is a digit,
which is what delimits a number. -/

/-- The text does not start with a digit. -/
def NoDigitHead (r : List Char) : Prop := ∀ c ∈ r.head?, c.isDigit = false

lemma noDigitHead_nil : NoDigitHead [] := by simp [NoDigitHead]

variable {r r' : List Char}

lemma noDigitHead_cons (h : c.isDigit = false) : NoDigitHead (c :: r) := by
  simpa [NoDigitHead] using h

lemma digits_append_inj {a b : Nat} (hr : NoDigitHead r) (hr' : NoDigitHead r')
    (h : Nat.toDigits 10 a ++ r = Nat.toDigits 10 b ++ r') : a = b ∧ r = r' := by
  have hdig : ∀ n : Nat, ∀ c ∈ Nat.toDigits 10 n, c.isDigit = true :=
    fun n c hc => Nat.isDigit_of_mem_toDigits (by decide) (by decide) hc
  have hds : Nat.toDigits 10 a = Nat.toDigits 10 b := by
    rw [← Text.takeWhile_append (hdig a) hr, h, Text.takeWhile_append (hdig b) hr']
  refine ⟨?_, ?_⟩
  · have ha := Nat.ofDigitChars_toDigits (b := 10) (n := a) (by decide) (by decide)
    rw [hds, Nat.ofDigitChars_toDigits (by decide) (by decide)] at ha
    exact ha.symm
  · rw [hds] at h
    exact List.append_cancel_left h

lemma toString_injective : Function.Injective (toString : Nat → String) := by
  intro m n h
  have hnat : ∀ k : Nat, (toString k).toList = Nat.toDigits 10 k := fun k => String.toList_ofList
  have happend : Nat.toDigits 10 m ++ [] = Nat.toDigits 10 n ++ [] := by
    rw [List.append_nil, List.append_nil, ← hnat, ← hnat, h]
  exact (digits_append_inj noDigitHead_nil noDigitHead_nil happend).1

lemma toDigits_eq_cons (n : Nat) : ∃ c t, Nat.toDigits 10 n = c :: t ∧ c.isDigit = true := by
  cases h : Nat.toDigits 10 n with
  | nil => exact absurd h Nat.toDigits_ne_nil
  | cons c t =>
    refine ⟨c, t, rfl, ?_⟩
    exact Nat.isDigit_of_mem_toDigits (b := 10) (n := n) (by decide) (by decide)
      (by rw [h]; exact .head _)

lemma intText_append_inj {m n : Int} (hr : NoDigitHead r)
    (hr' : NoDigitHead r') (h : intText m ++ r = intText n ++ r') : m = n ∧ r = r' := by
  have hminus : ∀ (a b : Nat) (t t' : List Char),
      '-' :: (Nat.toDigits 10 a ++ t) ≠ Nat.toDigits 10 b ++ t' := by
    intro a b t t' hcon
    obtain ⟨c, ds, hc, hdig⟩ := toDigits_eq_cons b
    rw [hc, List.cons_append, List.cons.injEq] at hcon
    rw [← hcon.1] at hdig
    cases hdig
  unfold intText at h
  split_ifs at h with hm hn hn
  · rw [List.cons_append, List.cons_append, List.cons.injEq] at h
    obtain ⟨hab, hrr⟩ := digits_append_inj hr hr' h.2
    exact ⟨by omega, hrr⟩
  · exact absurd h (hminus _ _ _ _)
  · exact absurd h.symm (hminus _ _ _ _)
  · obtain ⟨hab, hrr⟩ := digits_append_inj hr hr' h
    exact ⟨by omega, hrr⟩

/-! ### Strings -/

/-- Read one escaped character off the front of a text. -/
def unescape : List Char → Option (Char × List Char)
  | '\\' :: '"' :: r => some ('"', r)
  | '\\' :: '\\' :: r => some ('\\', r)
  | '\\' :: 'b' :: r => some (Char.ofNat 0x08, r)
  | '\\' :: 'f' :: r => some (Char.ofNat 0x0c, r)
  | '\\' :: 'n' :: r => some (Char.ofNat 0x0a, r)
  | '\\' :: 'r' :: r => some (Char.ofNat 0x0d, r)
  | '\\' :: 't' :: r => some (Char.ofNat 0x09, r)
  | '\\' :: 'u' :: '0' :: '0' :: a :: b :: r =>
    some (Char.ofNat ((a.toNat - '0'.toNat) * 16 +
      if b.isDigit then b.toNat - '0'.toNat else b.toNat - 'a'.toNat + 10), r)
  | c :: r => some (c, r)
  | [] => none

lemma unescape_escape_control (n : Nat) (hn : n < 0x20) (r : List Char) :
    unescape (escapeChar (Char.ofNat n) ++ r) = some (Char.ofNat n, r) := by
  interval_cases n <;> rfl

lemma escapeChar_of_plain (h₁ : ¬ c.toNat < 0x20) (h₂ : c ≠ '"') (h₃ : c ≠ '\\') :
    escapeChar c = [c] := by
  have h2' : c.toNat ≠ 0x22 := fun h => h₂ (Char.ext (UInt32.toNat_inj.mp h))
  have h3' : c.toNat ≠ 0x5c := fun h => h₃ (Char.ext (UInt32.toNat_inj.mp h))
  unfold escapeChar
  split <;> first | omega | simp_all

lemma unescape_escapeChar (c : Char) (r : List Char) :
    unescape (escapeChar c ++ r) = some (c, r) := by
  by_cases h₁ : c.toNat < 0x20
  · rw [← Char.ofNat_toNat c]
    exact unescape_escape_control c.toNat h₁ r
  · by_cases h₂ : c = '"'
    · subst h₂; rfl
    · by_cases h₃ : c = '\\'
      · subst h₃; rfl
      · rw [escapeChar_of_plain h₁ h₂ h₃, List.singleton_append]
        unfold unescape
        split <;> simp_all

lemma escapeChar_head_ne_quote (c : Char) (r r' : List Char) : escapeChar c ++ r ≠ '"' :: r' := by
  intro h
  have hc := unescape_escapeChar c r
  rw [h] at hc
  have hq : c = '"' := by
    simpa [unescape, eq_comm] using (congrArg (Option.map Prod.fst) hc)
  subst hq
  have hhead : some '\\' = some '"' := congrArg List.head? h
  cases hhead

lemma stringRest_append_inj {s t : String}
    (h : stringRest s ++ r = stringRest t ++ r') : s = t ∧ r = r' := by
  have key : ∀ (l l' r r' : List Char), l.flatMap escapeChar ++ '"' :: r =
      l'.flatMap escapeChar ++ '"' :: r' → l = l' ∧ r = r' := by
    intro l
    induction l with
    | nil =>
      intro l' r r' h
      cases l' with
      | nil => simpa using h
      | cons d l' =>
        rw [List.flatMap_cons, List.append_assoc] at h
        exact absurd h.symm (escapeChar_head_ne_quote d _ _)
    | cons c l ih =>
      intro l' r r' h
      cases l' with
      | nil =>
        rw [List.flatMap_cons, List.append_assoc] at h
        exact absurd h (escapeChar_head_ne_quote c _ _)
      | cons d l' =>
        rw [List.flatMap_cons, List.flatMap_cons, List.append_assoc, List.append_assoc] at h
        have hu := congrArg unescape h
        rw [unescape_escapeChar, unescape_escapeChar, Option.some.injEq, Prod.mk.injEq] at hu
        obtain ⟨hl, hr⟩ := ih l' r r' hu.2
        exact ⟨by rw [hu.1, hl], hr⟩
  unfold stringRest at h
  rw [List.append_assoc, List.append_assoc] at h
  obtain ⟨hl, hr⟩ := key _ _ _ _ h
  exact ⟨Text.chars_injective hl, hr⟩

/-! ### Values -/

/-- Which constructor a value is built with, the two booleans apart. -/
def kind : Json → Nat
  | .null => 0
  | .bool true => 1
  | .bool false => 2
  | .num _ => 3
  | .str _ => 4
  | .arr _ => 5
  | .obj _ => 6

/-- The constructor a text starting with `c` renders; `7` when none does. -/
def headKind (c : Char) : Nat :=
  if c = 'n' then 0 else if c = 't' then 1 else if c = 'f' then 2
  else if c = '-' ∨ c.isDigit then 3 else if c = '"' then 4 else if c = '[' then 5
  else if c = '\x7b' then 6 else 7

lemma headKind_of_isDigit (h : c.isDigit = true) : headKind c = 3 := by
  have hn : c ≠ 'n' := by rintro rfl; cases h
  have ht : c ≠ 't' := by rintro rfl; cases h
  have hf : c ≠ 'f' := by rintro rfl; cases h
  simp [headKind, hn, ht, hf, h]

/-- The first character of a rendered value tells its constructor. -/
lemma render_eq_cons (v : Json) : ∃ c t, render v = c :: t ∧ headKind c = kind v := by
  cases v with
  | null => exact ⟨'n', _, rfl, by decide⟩
  | bool b =>
    cases b
    · exact ⟨'f', _, rfl, by decide⟩
    · exact ⟨'t', _, rfl, by decide⟩
  | num n =>
    obtain ⟨c, t, hct, hc⟩ := toDigits_eq_cons n.natAbs
    by_cases hn : n < 0
    · exact ⟨'-', Nat.toDigits 10 n.natAbs, by simp [render, intText, hn], rfl⟩
    · exact ⟨c, t, by simp [render, intText, hn, hct], headKind_of_isDigit hc⟩
  | str s => exact ⟨'"', _, rfl, rfl⟩
  | arr xs => exact ⟨'[', _, rfl, rfl⟩
  | obj ms => exact ⟨'\x7b', _, rfl, rfl⟩

lemma kind_eq_of_render_append {w : Json}
    (h : render v ++ r = render w ++ r') : kind v = kind w := by
  obtain ⟨c, t, hv, hc⟩ := render_eq_cons v
  obtain ⟨d, u, hw, hd⟩ := render_eq_cons w
  rw [hv, hw, List.cons_append, List.cons_append, List.cons.injEq] at h
  rw [← hc, ← hd, h.1]

/-- A rendered value can be read off the front of a text that goes on with a non-digit. -/
def Readable (v : Json) : Prop :=
  ∀ (w : Json) (r r' : List Char), NoDigitHead r → NoDigitHead r' →
    render v ++ r = render w ++ r' → v = w ∧ r = r'

lemma renderElems_eq_joined (first : Bool) (xs : List Json) :
    renderElems first xs = ValueTree.joined ']' first (xs.map render) := by
  induction xs generalizing first with
  | nil => rfl
  | cons x xs ih => rw [renderElems, ih, List.map_cons, ValueTree.joined]

lemma renderMembers_eq_joined (first : Bool) (ms : List (String × Json)) :
    renderMembers first ms =
      ValueTree.joined '\x7d' first (ms.map fun m => stringText m.1 ++ ':' :: render m.2) := by
  induction ms generalizing first with
  | nil => rfl
  | cons m ms ih =>
    rw [renderMembers, ih, List.map_cons, ValueTree.joined, List.append_assoc, List.cons_append]

lemma noDigitHead_of_ends (h : ValueTree.Ends r) : NoDigitHead r := by
  intro c hc
  have hnumeral := h c hc
  simp only [ValueTree.isNumeral, Bool.or_eq_false_iff] at hnumeral
  exact hnumeral.1

/-- Every rendered value is self-delimiting. -/
theorem render_append_inj (v : Json) : Readable v := by
  induction v using Json.ind with
  | null =>
    intro w r r' _ _ h
    have hk := kind_eq_of_render_append h
    cases w with
    | null => exact ⟨rfl, List.append_cancel_left h⟩
    | bool b => cases b <;> simp [kind] at hk
    | _ => simp [kind] at hk
  | bool b =>
    intro w r r' _ _ h
    have hk := kind_eq_of_render_append h
    cases w with
    | bool b' =>
      have hb : b = b' := by cases b <;> cases b' <;> simp [kind] at hk <;> rfl
      subst hb
      exact ⟨rfl, List.append_cancel_left h⟩
    | _ => cases b <;> simp [kind] at hk
  | num n =>
    intro w r r' hr hr' h
    have hk := kind_eq_of_render_append h
    cases w with
    | num m =>
      obtain ⟨rfl, hrr⟩ := intText_append_inj hr hr' h
      exact ⟨rfl, hrr⟩
    | bool b => cases b <;> simp [kind] at hk
    | _ => simp [kind] at hk
  | str s =>
    intro w r r' _ _ h
    have hk := kind_eq_of_render_append h
    cases w with
    | str t =>
      obtain ⟨rfl, hrr⟩ := stringRest_append_inj (List.cons.inj h).2
      exact ⟨rfl, hrr⟩
    | bool b => cases b <;> simp [kind] at hk
    | _ => simp [kind] at hk
  | arr xs ih =>
    intro w r r' _ _ h
    have hk := kind_eq_of_render_append h
    cases w with
    | arr ys =>
      rw [render, render, renderElems_eq_joined, renderElems_eq_joined] at h
      have hhead : ∀ y, ∃ c t, render y = c :: t ∧ c ≠ ']' := by
        intro y
        obtain ⟨c, t, hy, hc⟩ := render_eq_cons y
        refine ⟨c, t, hy, ?_⟩
        rintro rfl
        cases y with
        | bool b => cases b <;> cases hc
        | _ => cases hc
      obtain ⟨hxs, hrr⟩ := ValueTree.joined_append_inj (g := id) (by decide) (by decide) hhead
        (fun x hx y r r' hr hr' => ih x hx y r r' (noDigitHead_of_ends hr) (noDigitHead_of_ends hr'))
        true ys r r' (List.cons.inj h).2
      rw [List.map_id, List.map_id] at hxs
      exact ⟨congrArg Json.arr hxs, hrr⟩
    | bool b => cases b <;> simp [kind] at hk
    | _ => simp [kind] at hk
  | obj ms ih =>
    intro w r r' _ _ h
    have hk := kind_eq_of_render_append h
    cases w with
    | obj ns =>
      rw [render, render, renderMembers_eq_joined, renderMembers_eq_joined] at h
      -- a member is its name, the colon and its value
      have hread : ∀ m ∈ ms, ∀ (n : String × Json) (r r' : List Char), ValueTree.Ends r →
          ValueTree.Ends r' → stringText m.1 ++ ':' :: render m.2 ++ r =
            stringText n.1 ++ ':' :: render n.2 ++ r' → m = n ∧ r = r' := by
        intro m hm n r r' hr hr' h
        simp only [stringText, List.append_assoc, List.cons_append] at h
        obtain ⟨hname, hvalue⟩ := stringRest_append_inj (List.cons.inj h).2
        obtain ⟨hv, hrr⟩ := ih m hm n.2 r r' (noDigitHead_of_ends hr) (noDigitHead_of_ends hr')
          (List.cons.inj hvalue).2
        exact ⟨Prod.ext hname hv, hrr⟩
      obtain ⟨hms, hrr⟩ := ValueTree.joined_append_inj (g := id) (by decide) (by decide)
        (fun n => ⟨'"', _, rfl, by decide⟩) hread true ns r r' (List.cons.inj h).2
      rw [List.map_id, List.map_id] at hms
      exact ⟨congrArg Json.obj hms, hrr⟩
    | bool b => cases b <;> simp [kind] at hk
    | _ => simp [kind] at hk

/-! ## Canonical text determines the value -/

/-- Values with the same canonical text are equal up to member order. -/
theorem eqv_of_canonicalText_eq {limit limit' : Nat} {w : Json} {t : List Char}
    (hv : canonicalText limit v = some t) (hw : canonicalText limit' w = some t) : Eqv v w := by
  have htt := (serialize_eq_render limit v 0 t hv).symm.trans (serialize_eq_render limit' w 0 t hw)
  refine (render_append_inj (norm v) (norm w) [] [] noDigitHead_nil noDigitHead_nil ?_).1
  rw [htt]

/-- Values equal up to member order have the same canonical text, when both have one. -/
theorem canonicalText_eq_of_eqv {limit limit' : Nat} {w : Json} {t u : List Char} (h : Eqv v w)
    (hv : canonicalText limit v = some t) (hw : canonicalText limit' w = some u) : t = u := by
  rw [serialize_eq_render limit v 0 t hv, serialize_eq_render limit' w 0 u hw, h]

/-! ## When the serialiser succeeds -/

mutual

/-- The value, standing at nesting depth `depth`, is nested at most `limit` deep and all its
integers are in range. -/
def Fits (limit depth : Nat) : Json → Prop
  | .num n => depth ≤ limit ∧ n.natAbs ≤ maxSafe
  | .arr xs => depth ≤ limit ∧ FitsElems limit (depth + 1) xs
  | .obj ms => depth ≤ limit ∧ FitsMembers limit (depth + 1) ms
  | _ => depth ≤ limit

/-- `Fits` at every element. -/
def FitsElems (limit depth : Nat) : List Json → Prop
  | [] => True
  | x :: xs => Fits limit depth x ∧ FitsElems limit depth xs

/-- `Fits` at every member. -/
def FitsMembers (limit depth : Nat) : List (String × Json) → Prop
  | [] => True
  | (_, v) :: ms => Fits limit depth v ∧ FitsMembers limit depth ms

end

lemma fitsElems_iff (limit depth : Nat) (xs : List Json) :
    FitsElems limit depth xs ↔ ∀ x ∈ xs, Fits limit depth x := by
  induction xs with
  | nil => simp [FitsElems]
  | cons x xs ih => simp [FitsElems, ih]

lemma fitsMembers_iff (limit depth : Nat) (ms : List (String × Json)) :
    FitsMembers limit depth ms ↔ ∀ m ∈ ms, Fits limit depth m.2 := by
  induction ms with
  | nil => simp [FitsMembers]
  | cons m ms ih => obtain ⟨k, v⟩ := m; simp [FitsMembers, ih]

@[simp] lemma fits_arr (limit depth : Nat) (xs : List Json) :
    Fits limit depth (.arr xs) ↔ depth ≤ limit ∧ ∀ x ∈ xs, Fits limit (depth + 1) x := by
  rw [Fits, fitsElems_iff]

@[simp] lemma fits_obj (limit depth : Nat) (ms : List (String × Json)) :
    Fits limit depth (.obj ms) ↔ depth ≤ limit ∧ ∀ m ∈ ms, Fits limit (depth + 1) m.2 := by
  rw [Fits, fitsMembers_iff]

variable {limit : Nat}

lemma exists_serializeElems (xs : List Json)
    (h : ∀ x ∈ xs, ∀ depth, Fits limit depth x → ∃ t, serialize limit depth x = some t) :
    ∀ depth first, (∀ x ∈ xs, Fits limit depth x) →
      ∃ t, serializeElems limit depth first xs = some t := by
  induction xs with
  | nil => intro depth first _; exact ⟨_, rfl⟩
  | cons x xs ih =>
    intro depth first hfit
    obtain ⟨t, ht⟩ := h x (.head _) depth (hfit x (.head _))
    obtain ⟨rest, hrest⟩ := ih (fun y hy => h y (.tail _ hy)) depth false
      (fun y hy => hfit y (.tail _ hy))
    exact ⟨_, by simp only [serializeElems, ht, hrest]; rfl⟩

lemma exists_serializeMembers (ms : List (String × Json))
    (h : ∀ m ∈ ms, ∀ depth, Fits limit depth m.2 → ∃ t, serialize limit depth m.2 = some t) :
    ∀ depth, (∀ m ∈ ms, Fits limit depth m.2) → ∃ ts, serializeMembers limit depth ms = some ts := by
  induction ms with
  | nil => intro depth _; exact ⟨_, rfl⟩
  | cons m ms ih =>
    obtain ⟨k, v⟩ := m
    intro depth hfit
    obtain ⟨t, ht⟩ := h (k, v) (.head _) depth (hfit (k, v) (.head _))
    obtain ⟨rest, hrest⟩ := ih (fun y hy => h y (.tail _ hy)) depth
      (fun y hy => hfit y (.tail _ hy))
    exact ⟨_, by simp only [serializeMembers, ht, hrest]; rfl⟩

/-- A value that fits has a text. -/
theorem exists_serialize (v : Json) :
    ∀ depth, Fits limit depth v → ∃ t, serialize limit depth v = some t := by
  induction v using Json.ind with
  | null =>
    intro depth h
    exact ⟨_, by simp only [serialize, if_neg (Nat.not_lt.mpr h)]; rfl⟩
  | bool b =>
    intro depth h
    cases b <;> exact ⟨_, by simp only [serialize, if_neg (Nat.not_lt.mpr h)]; rfl⟩
  | num n =>
    intro depth h
    exact ⟨_, by simp only [serialize, if_neg (Nat.not_lt.mpr h.1), if_pos h.2]; rfl⟩
  | str s =>
    intro depth h
    exact ⟨_, by simp only [serialize, if_neg (Nat.not_lt.mpr h)]; rfl⟩
  | arr xs ih =>
    intro depth h
    rw [fits_arr] at h
    obtain ⟨t, ht⟩ := exists_serializeElems xs ih (depth + 1) true h.2
    exact ⟨_, by simp only [serialize, if_neg (Nat.not_lt.mpr h.1), ht, Option.map_some]; rfl⟩
  | obj ms ih =>
    intro depth h
    rw [fits_obj] at h
    obtain ⟨ts, hts⟩ := exists_serializeMembers ms ih (depth + 1) h.2
    exact ⟨_, by simp only [serialize, if_neg (Nat.not_lt.mpr h.1), hts, Option.map_some]; rfl⟩

theorem exists_canonicalText (h : Fits limit 0 v) :
    ∃ t, canonicalText limit v = some t :=
  exists_serialize v 0 h

/-! ## The normal form -/

lemma sortMembers_sortMembers (ms : List (String × α)) :
    sortMembers (sortMembers ms) = sortMembers ms :=
  List.Pairwise.insertionSort_eq (List.pairwise_insertionSort KeyLe ms)

lemma norm_norm (v : Json) : norm (norm v) = norm v := by
  induction v using Json.ind with
  | arr xs ih =>
    rw [norm_arr, norm_arr, List.map_map]
    exact congrArg Json.arr (List.map_congr_left fun x hx => ih x hx)
  | obj ms ih =>
    rw [norm_obj, norm_obj, sortMembers_map, sortMembers_sortMembers, List.map_map]
    refine congrArg Json.obj (List.map_congr_left fun m hm => ?_)
    exact congrArg (Prod.mk m.1) (ih m ((sortMembers_perm ms).mem_iff.mp hm))
  | _ => rfl

lemma eqv_norm (v : Json) : Eqv (norm v) v := norm_norm v

/-- The members of a normal form are the normal forms of the members. -/
lemma exists_mem_of_mem_norm {m : String × Json}
    (h : m ∈ (sortMembers ms).map fun m => (m.1, norm m.2)) : ∃ m' ∈ ms, m = (m'.1, norm m'.2) := by
  obtain ⟨m', hm', rfl⟩ := List.mem_map.mp h
  exact ⟨m', (sortMembers_perm ms).mem_iff.mp hm', rfl⟩

lemma Distinct.norm (h : v.Distinct) : (norm v).Distinct := by
  induction v using Json.ind with
  | arr xs ih =>
    rw [norm_arr, distinct_arr]
    intro x hx
    obtain ⟨x', hx', rfl⟩ := List.mem_map.mp hx
    exact ih x' hx' ((distinct_arr xs).mp h x' hx')
  | obj ms ih =>
    obtain ⟨hnodup, hms⟩ := (distinct_obj ms).mp h
    rw [norm_obj, distinct_obj]
    refine ⟨?_, fun m hm => ?_⟩
    · rw [List.map_map]
      exact ((sortMembers_perm ms).map Prod.fst).nodup_iff.mpr hnodup
    · obtain ⟨m', hm', rfl⟩ := exists_mem_of_mem_norm hm
      exact ih m' hm' (hms m' hm')
  | _ => trivial

lemma Fits.norm :
    ∀ {depth : Nat}, Fits limit depth v → Fits limit depth (norm v) := by
  induction v using Json.ind with
  | arr xs ih =>
    intro depth h
    obtain ⟨hdepth, hxs⟩ := (fits_arr limit depth xs).mp h
    rw [norm_arr, fits_arr]
    refine ⟨hdepth, fun x hx => ?_⟩
    obtain ⟨x', hx', rfl⟩ := List.mem_map.mp hx
    exact ih x' hx' (hxs x' hx')
  | obj ms ih =>
    intro depth h
    obtain ⟨hdepth, hms⟩ := (fits_obj limit depth ms).mp h
    rw [norm_obj, fits_obj]
    refine ⟨hdepth, fun m hm => ?_⟩
    obtain ⟨m', hm', rfl⟩ := exists_mem_of_mem_norm hm
    exact ih m' hm' (hms m' hm')
  | _ => exact fun h => h

end Json
