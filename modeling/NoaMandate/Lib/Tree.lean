import Mathlib.Data.List.Sort
import Mathlib.Data.List.Lex
import Mathlib.Order.Fin.Basic
import NoaMandate.Lib.Text

/-!
# Trees of JSON shape and their sorted texts

Values of JSON shape over arbitrary types of strings `σ` and of numbers `ν`, and the text in which
the members of every object stand in the order of their names.

* `ValueTree.norm canon`: the members of every object sorted and every number `n` replaced by `canon n`,
  so `ValueTree.Eqv v w` says that the two values are equal ignoring member order and the
  differences between numbers that `canon` forgets.  `eqv_obj_iff` says it member by member.
* `ValueTree.text L`: the sorted text of a value, over a lexicon `L` that says how a number and a string
  are written; `ValueTree.mapNum` reads the numbers of a value as something else first.
* `ValueTree.text_eq_iff`: over a faithful lexicon two values have the same text exactly if they are
  equal in that sense.  The proof reads a text off the front of a longer one (`text_append_inj`):
  every token ends by itself, except a number, which ends where no more number characters follow.
* `ValueTree.write`: a writer of the same form that may refuse numbers, strings and deep nesting; where
  it does not refuse it writes the sorted text (`write_eq_text`).
-/

/-- A value of JSON shape; the members of an object are in the order in which a loop meets them. -/
inductive ValueTree (σ ν : Type) where
  | null
  | bool (b : Bool)
  | num (n : ν)
  | str (s : σ)
  | arr (xs : List (ValueTree σ ν))
  | obj (ms : List (σ × ValueTree σ ν))

namespace ValueTree

variable {σ ν : Type}

/-- Induction on a tree, with the hypothesis at every element and every member. -/
@[elab_as_elim]
theorem ind {P : ValueTree σ ν → Prop} (null : P .null) (bool : ∀ b, P (.bool b))
    (num : ∀ n, P (.num n)) (str : ∀ s, P (.str s)) (arr : ∀ xs, (∀ x ∈ xs, P x) → P (.arr xs))
    (obj : ∀ ms : List (σ × ValueTree σ ν), (∀ m ∈ ms, P m.2) → P (.obj ms)) (v : ValueTree σ ν) : P v :=
  @ValueTree.rec σ ν P (fun xs => ∀ x ∈ xs, P x) (fun ms => ∀ m ∈ ms, P m.2) (fun m => P m.2)
    null bool num str arr obj
    (fun _ h => absurd h List.not_mem_nil)
    (fun _ _ hx hxs _ h => (List.mem_cons.mp h).elim (fun e => e ▸ hx) (hxs _))
    (fun _ h => absurd h List.not_mem_nil)
    (fun _ _ hm hms _ h => (List.mem_cons.mp h).elim (fun e => e ▸ hm) (hms _))
    (fun _ _ hv => hv) v

/-! ## Sorting by name -/

section sorting

variable [LinearOrder σ] {α β : Type}

/-- The name of `a` comes no later than the name of `b`. -/
def NameLe (a b : σ × α) : Prop := a.1 ≤ b.1

instance : DecidableRel (NameLe (σ := σ) (α := α)) := fun a b =>
  inferInstanceAs (Decidable (a.1 ≤ b.1))

instance : Std.Total (NameLe (σ := σ) (α := α)) := ⟨fun a b => le_total a.1 b.1⟩

instance : IsTrans (σ × α) NameLe := ⟨fun _ _ _ hab hbc => le_trans hab hbc⟩

/-- Members in the order of their names. -/
def sortByName (ms : List (σ × α)) : List (σ × α) := ms.insertionSort NameLe

lemma sortByName_perm (ms : List (σ × α)) : (sortByName ms).Perm ms :=
  List.perm_insertionSort NameLe ms

lemma mem_sortByName {ms : List (σ × α)} {m : σ × α} : m ∈ sortByName ms ↔ m ∈ ms :=
  (sortByName_perm ms).mem_iff

/-- Sorting looks at the names only. -/
lemma sortByName_map (f : σ × α → β) (ms : List (σ × α)) :
    sortByName (ms.map fun m => (m.1, f m)) = (sortByName ms).map fun m => (m.1, f m) :=
  (List.map_insertionSort NameLe NameLe (fun m : σ × α => (m.1, f m)) ms
    fun _ _ _ _ => Iff.rfl).symm

lemma sortByName_sortByName (ms : List (σ × α)) : sortByName (sortByName ms) = sortByName ms :=
  List.Pairwise.insertionSort_eq (List.pairwise_insertionSort NameLe ms)

end sorting

/-! ## Equality up to member order -/

section norm

variable [LinearOrder σ]

mutual

/-- The value with the members of every object sorted. -/
def norm : ValueTree σ ν → ValueTree σ ν
  | .arr xs => .arr (normElems xs)
  | .obj ms => .obj (sortByName (normMembers ms))
  | v => v

/-- `norm` at every element. -/
def normElems : List (ValueTree σ ν) → List (ValueTree σ ν)
  | [] => []
  | x :: xs => norm x :: normElems xs

/-- `norm` at every member. -/
def normMembers : List (σ × ValueTree σ ν) → List (σ × ValueTree σ ν)
  | [] => []
  | (k, v) :: ms => (k, norm v) :: normMembers ms

end

lemma normElems_eq_map (xs : List (ValueTree σ ν)) : normElems xs = xs.map norm := by
  induction xs with
  | nil => rfl
  | cons x xs ih => rw [normElems, ih, List.map_cons]

lemma normMembers_eq_map (ms : List (σ × ValueTree σ ν)) :
    normMembers ms = ms.map fun m => (m.1, norm m.2) := by
  induction ms with
  | nil => rfl
  | cons m ms ih => rw [normMembers, ih, List.map_cons]

lemma norm_arr (xs : List (ValueTree σ ν)) : norm (.arr xs) = .arr (xs.map norm) := by
  rw [norm, normElems_eq_map]

lemma norm_obj (ms : List (σ × ValueTree σ ν)) :
    norm (.obj ms) = .obj ((sortByName ms).map fun m => (m.1, norm m.2)) := by
  rw [norm, normMembers_eq_map, sortByName_map]

/-- The values are equal ignoring member order. -/
def Eqv (v w : ValueTree σ ν) : Prop := norm v = norm w

lemma Eqv.symm {v w : ValueTree σ ν} (h : Eqv v w) : Eqv w v := Eq.symm h

lemma norm_norm (v : ValueTree σ ν) : norm (norm v) = norm v := by
  induction v using ValueTree.ind with
  | arr xs ih =>
    rw [norm_arr, norm_arr, List.map_map]
    exact congrArg ValueTree.arr (List.map_congr_left ih)
  | obj ms ih =>
    rw [norm_obj, norm_obj, sortByName_map, sortByName_sortByName, List.map_map]
    refine congrArg ValueTree.obj (List.map_congr_left fun m hm => ?_)
    show (m.1, norm (norm m.2)) = (m.1, norm m.2)
    rw [ih m (mem_sortByName.mp hm)]
  | _ => rfl

/-- A member of an object has its like in every object that is equal up to member order. -/
lemma Eqv.exists_mem {ms ns : List (σ × ValueTree σ ν)} (h : Eqv (.obj ms) (.obj ns)) {k : σ}
    {v : ValueTree σ ν} (hv : (k, v) ∈ ms) : ∃ w, (k, w) ∈ ns ∧ Eqv v w := by
  unfold Eqv at h
  rw [norm_obj, norm_obj, ValueTree.obj.injEq] at h
  have hmem : (k, norm v) ∈ (sortByName ms).map fun m => (m.1, norm m.2) :=
    List.mem_map.mpr ⟨(k, v), mem_sortByName.mpr hv, rfl⟩
  rw [h] at hmem
  obtain ⟨⟨l, w⟩, hw, heq⟩ := List.mem_map.mp hmem
  obtain ⟨rfl, hvw⟩ := Prod.mk.inj heq
  exact ⟨w, mem_sortByName.mp hw, hvw.symm⟩

end norm

/-! ## The sorted text -/

/-- How numbers and strings are written. -/
structure Lexicon (σ ν : Type) where
  num : ν → List Char
  str : σ → List Char

/-- Texts joined with commas and closed. -/
def joined (close : Char) : Bool → List (List Char) → List Char
  | _, [] => [close]
  | first, t :: ts => (if first then [] else [',']) ++ (t ++ joined close false ts)

/-- A member: its name, a colon and the text of its value. -/
def memberText (L : Lexicon σ ν) (m : σ × List Char) : List Char := L.str m.1 ++ ':' :: m.2

section text

variable [LinearOrder σ] (L : Lexicon σ ν)

mutual

/-- The text of a value, the members of every object in the order of their names. -/
def text : ValueTree σ ν → List Char
  | .null => ['n', 'u', 'l', 'l']
  | .bool true => ['t', 'r', 'u', 'e']
  | .bool false => ['f', 'a', 'l', 's', 'e']
  | .num n => L.num n
  | .str s => L.str s
  | .arr xs => '[' :: joined ']' true (textElems xs)
  | .obj ms => '\x7b' :: joined '\x7d' true ((sortByName (textMembers ms)).map (memberText L))

/-- The texts of the elements of an array. -/
def textElems : List (ValueTree σ ν) → List (List Char)
  | [] => []
  | x :: xs => text x :: textElems xs

/-- The members of an object with the texts of their values. -/
def textMembers : List (σ × ValueTree σ ν) → List (σ × List Char)
  | [] => []
  | (k, v) :: ms => (k, text v) :: textMembers ms

end

lemma textElems_eq_map (xs : List (ValueTree σ ν)) : textElems L xs = xs.map (text L) := by
  induction xs with
  | nil => rfl
  | cons x xs ih => rw [textElems, ih, List.map_cons]

lemma textMembers_eq_map (ms : List (σ × ValueTree σ ν)) :
    textMembers L ms = ms.map fun m => (m.1, text L m.2) := by
  induction ms with
  | nil => rfl
  | cons m ms ih => rw [textMembers, ih, List.map_cons]

lemma text_arr (xs : List (ValueTree σ ν)) :
    text L (.arr xs) = '[' :: joined ']' true (xs.map (text L)) := by
  rw [text, textElems_eq_map]

lemma text_obj (ms : List (σ × ValueTree σ ν)) : text L (.obj ms) =
      '\x7b' :: joined '\x7d' true ((sortByName ms).map fun m => memberText L (m.1, text L m.2)) := by
  rw [text, textMembers_eq_map, sortByName_map, List.map_map]
  rfl

end text

/-! ## Reading numbers as something else -/

section numbers

variable {μ : Type} (f : ν → ValueTree σ μ)

mutual

/-- The value with every number `n` read as `f n`. -/
def mapNum : ValueTree σ ν → ValueTree σ μ
  | .null => .null
  | .bool b => .bool b
  | .num n => f n
  | .str s => .str s
  | .arr xs => .arr (mapNumElems xs)
  | .obj ms => .obj (mapNumMembers ms)

/-- `mapNum` at every element. -/
def mapNumElems : List (ValueTree σ ν) → List (ValueTree σ μ)
  | [] => []
  | x :: xs => mapNum x :: mapNumElems xs

/-- `mapNum` at every member. -/
def mapNumMembers : List (σ × ValueTree σ ν) → List (σ × ValueTree σ μ)
  | [] => []
  | (k, v) :: ms => (k, mapNum v) :: mapNumMembers ms

end

lemma mapNum_arr (xs : List (ValueTree σ ν)) : mapNum f (.arr xs) = .arr (xs.map (mapNum f)) := by
  have h : ∀ ys : List (ValueTree σ ν), mapNumElems f ys = ys.map (mapNum f) := by
    intro ys
    induction ys with
    | nil => rfl
    | cons y ys ih => rw [mapNumElems, ih, List.map_cons]
  rw [mapNum, h]

lemma mapNum_obj (ms : List (σ × ValueTree σ ν)) :
    mapNum f (.obj ms) = .obj (ms.map fun m => (m.1, mapNum f m.2)) := by
  have h : ∀ ns : List (σ × ValueTree σ ν),
      mapNumMembers f ns = ns.map fun m => (m.1, mapNum f m.2) := by
    intro ns
    induction ns with
    | nil => rfl
    | cons n ns ih => rw [mapNumMembers, ih, List.map_cons]
  rw [mapNum, h]

/-- Reading numbers twice. -/
lemma mapNum_mapNum {ρ : Type} (g : μ → ValueTree σ ρ) (v : ValueTree σ ν) :
    mapNum g (mapNum f v) = mapNum (fun n => mapNum g (f n)) v := by
  induction v using ValueTree.ind with
  | arr xs ih =>
    rw [mapNum_arr, mapNum_arr, mapNum_arr, List.map_map]
    exact congrArg ValueTree.arr (List.map_congr_left ih)
  | obj ms ih =>
    rw [mapNum_obj, mapNum_obj, mapNum_obj, List.map_map]
    refine congrArg ValueTree.obj (List.map_congr_left fun m hm => ?_)
    show (m.1, mapNum g (mapNum f m.2)) = _
    rw [ih m hm]
  | _ => rfl

/-- Reading every number as itself. -/
lemma mapNum_num (v : ValueTree σ ν) : mapNum ValueTree.num v = v := by
  induction v using ValueTree.ind with
  | arr xs ih =>
    rw [mapNum_arr, List.map_congr_left ih, List.map_id']
  | obj ms ih =>
    rw [mapNum_obj]
    refine congrArg ValueTree.obj ((List.map_congr_left fun m hm => ?_).trans (List.map_id ms))
    rw [ih m hm]
    rfl
  | _ => rfl

/-- Writing a number as what it is read as is writing the value that was read. -/
lemma text_mapNum [LinearOrder σ] {L : Lexicon σ ν} {M : Lexicon σ μ}
    (hnum : ∀ n, L.num n = text M (f n)) (hstr : ∀ s, L.str s = M.str s) (v : ValueTree σ ν) :
    text L v = text M (mapNum f v) := by
  induction v using ValueTree.ind with
  | null => rfl
  | bool b => cases b <;> rfl
  | num n => exact hnum n
  | str s => exact hstr s
  | arr xs ih =>
    rw [mapNum_arr, text_arr, text_arr, List.map_map]
    exact congrArg (fun ts => '[' :: joined ']' true ts) (List.map_congr_left ih)
  | obj ms ih =>
    rw [mapNum_obj, text_obj, text_obj, sortByName_map, List.map_map]
    refine congrArg (fun ts => '\x7b' :: joined '\x7d' true ts) (List.map_congr_left ?_)
    intro m hm
    show L.str m.1 ++ ':' :: text L m.2 = M.str m.1 ++ ':' :: text M (mapNum f m.2)
    rw [hstr, ih m (mem_sortByName.mp hm)]

end numbers

/-! ## Reading a text off the front of a longer one -/

/-- A character that a number may be written with. -/
def isNumeral (c : Char) : Bool := c.isDigit || c ∈ ['+', '-', '.', 'e']

/-- The text does not go on with a number character. -/
def Ends (r : List Char) : Prop := ∀ c ∈ r.head?, isNumeral c = false

lemma ends_nil : Ends [] := by
  intro c hc
  cases hc

lemma ends_cons {c : Char} {r : List Char} (h : isNumeral c = false) : Ends (c :: r) := by
  intro d hd
  cases hd
  exact h

lemma numeral_append_inj {t u r r' : List Char} (ht : ∀ c ∈ t, isNumeral c = true)
    (hu : ∀ c ∈ u, isNumeral c = true) (hr : Ends r) (hr' : Ends r') (h : t ++ r = u ++ r') :
    t = u ∧ r = r' := by
  have htu : t = u := by rw [← Text.takeWhile_append ht hr, h, Text.takeWhile_append hu hr']
  subst htu
  exact ⟨rfl, List.append_cancel_left h⟩

/-- A lexicon in which every token tells what it stands for and can be told from what follows it. -/
structure Lexicon.Faithful (L : Lexicon σ ν) : Prop where
  num_chars : ∀ n, ∀ c ∈ L.num n, isNumeral c = true
  num_ne_nil : ∀ n, L.num n ≠ []
  num_injective : ∀ m n, L.num m = L.num n → m = n
  str_head : ∀ s, ∃ t, L.str s = '"' :: t
  str_append_inj : ∀ s t r r', L.str s ++ r = L.str t ++ r' → s = t ∧ r = r'

/-- Joined texts can be read off one by one, where each of them can. -/
lemma joined_append_inj {α γ : Type} {close : Char} {f : α → List Char} {g : α → γ}
    (hclose : isNumeral close = false) (hcomma : close ≠ ',') {xs : List α}
    (hhead : ∀ y, ∃ c t, f y = c :: t ∧ c ≠ close)
    (hread : ∀ x ∈ xs, ∀ y r r', Ends r → Ends r' → f x ++ r = f y ++ r' → g x = g y ∧ r = r') :
    ∀ (first : Bool) (ys : List α) (r r' : List Char),
      joined close first (xs.map f) ++ r = joined close first (ys.map f) ++ r' →
        xs.map g = ys.map g ∧ r = r' := by
  have hends : ∀ (zs : List α) (r : List Char), Ends (joined close false (zs.map f) ++ r) := by
    intro zs r
    cases zs with
    | nil => exact ends_cons hclose
    | cons z zs => exact ends_cons (by decide)
  have hne : ∀ (first : Bool) (z : α) (zs : List α) (r r' : List Char),
      close :: r ≠ joined close first ((z :: zs).map f) ++ r' := by
    intro first z zs r r' h
    cases first with
    | false => exact hcomma (List.cons.inj h).1
    | true =>
      obtain ⟨c, t, hz, hc⟩ := hhead z
      rw [List.map_cons, joined, hz] at h
      exact hc (List.cons.inj h).1.symm
  induction xs with
  | nil =>
    intro first ys r r' h
    cases ys with
    | nil => exact ⟨rfl, (List.cons.inj h).2⟩
    | cons y ys => exact absurd h (hne first y ys r r')
  | cons x xs ih =>
    intro first ys r r' h
    cases ys with
    | nil => exact absurd h.symm (hne first x xs r' r)
    | cons y ys =>
      simp only [List.map_cons, joined, List.append_assoc] at h
      obtain ⟨hxy, hrest⟩ := hread x (.head _) y _ _ (hends xs r) (hends ys r')
        (List.append_cancel_left h)
      obtain ⟨hxs, hr⟩ := ih (fun z hz => hread z (.tail _ hz)) false ys r r' hrest
      refine ⟨?_, hr⟩
      rw [List.map_cons, List.map_cons, hxy, hxs]

/-! ### The first character of a text -/

/-- Which constructor a value is built with, the two booleans apart. -/
def kind : ValueTree σ ν → Nat
  | .null => 0
  | .bool true => 1
  | .bool false => 2
  | .num _ => 3
  | .str _ => 4
  | .arr _ => 5
  | .obj _ => 6

lemma kind_ne_seven (v : ValueTree σ ν) : kind v ≠ 7 := by
  cases v with
  | bool b => cases b <;> simp [kind]
  | _ => simp [kind]

/-- The constructor a text starting with `c` writes; `7` when none does. -/
def headKind (c : Char) : Nat :=
  if c = 'n' then 0 else if c = 't' then 1 else if c = 'f' then 2
  else if isNumeral c then 3 else if c = '"' then 4 else if c = '[' then 5
  else if c = '\x7b' then 6 else 7

lemma headKind_of_isNumeral {c : Char} (h : isNumeral c = true) : headKind c = 3 := by
  have hn : c ≠ 'n' := by rintro rfl; cases h
  have ht : c ≠ 't' := by rintro rfl; cases h
  have hf : c ≠ 'f' := by rintro rfl; cases h
  simp [headKind, hn, ht, hf, h]

section reading

variable [LinearOrder σ] {L : Lexicon σ ν}

/-- The first character of a text tells the constructor. -/
lemma text_eq_cons (hL : L.Faithful) (v : ValueTree σ ν) :
    ∃ c t, text L v = c :: t ∧ headKind c = kind v := by
  cases v with
  | null => exact ⟨'n', _, rfl, rfl⟩
  | bool b =>
    cases b with
    | false => exact ⟨'f', _, rfl, rfl⟩
    | true => exact ⟨'t', _, rfl, rfl⟩
  | num n =>
    obtain ⟨c, t, hct⟩ := List.exists_cons_of_ne_nil (hL.num_ne_nil n)
    refine ⟨c, t, hct, headKind_of_isNumeral (hL.num_chars n c ?_)⟩
    rw [hct]
    exact .head _
  | str s =>
    obtain ⟨t, ht⟩ := hL.str_head s
    exact ⟨'"', t, ht, rfl⟩
  | arr xs => exact ⟨'[', _, text_arr L xs, rfl⟩
  | obj ms => exact ⟨'\x7b', _, text_obj L ms, rfl⟩

lemma kind_eq_of_text_append (hL : L.Faithful) {v w : ValueTree σ ν} {r r' : List Char}
    (h : text L v ++ r = text L w ++ r') : kind v = kind w := by
  obtain ⟨c, t, hv, hc⟩ := text_eq_cons hL v
  obtain ⟨d, u, hw, hd⟩ := text_eq_cons hL w
  rw [hv, hw, List.cons_append, List.cons_append, List.cons.injEq] at h
  rw [← hc, ← hd, h.1]

/-- The text of a value does not start with a character that starts none. -/
lemma exists_head_ne (hL : L.Faithful) {close : Char} (hclose : headKind close = 7)
    (v : ValueTree σ ν) : ∃ c t, text L v = c :: t ∧ c ≠ close := by
  obtain ⟨c, t, hv, hc⟩ := text_eq_cons hL v
  refine ⟨c, t, hv, ?_⟩
  rintro rfl
  exact kind_ne_seven v (hc.symm.trans hclose)

/-- **A text can be read off the front of a longer one**, up to what the text does not tell. -/
theorem text_append_inj (hL : L.Faithful) (v : ValueTree σ ν) :
    ∀ (w : ValueTree σ ν) (r r' : List Char), Ends r → Ends r' → text L v ++ r = text L w ++ r' →
      norm v = norm w ∧ r = r' := by
  induction v using ValueTree.ind with
  | null =>
    intro w r r' _ _ h
    have hk := kind_eq_of_text_append hL h
    cases w with
    | null => exact ⟨rfl, List.append_cancel_left h⟩
    | bool b => cases b <;> simp [kind] at hk
    | _ => simp [kind] at hk
  | bool b =>
    intro w r r' _ _ h
    have hk := kind_eq_of_text_append hL h
    cases w with
    | bool b' =>
      have hb : b = b' := by cases b <;> cases b' <;> simp [kind] at hk <;> rfl
      subst hb
      exact ⟨rfl, List.append_cancel_left h⟩
    | _ => cases b <;> simp [kind] at hk
  | num n =>
    intro w r r' hr hr' h
    have hk := kind_eq_of_text_append hL h
    cases w with
    | num m =>
      rw [text, text] at h
      obtain ⟨hnm, hrr⟩ :=
        numeral_append_inj (hL.num_chars n) (hL.num_chars m) hr hr' h
      refine ⟨?_, hrr⟩
      rw [hL.num_injective n m hnm]
    | bool b => cases b <;> simp [kind] at hk
    | _ => simp [kind] at hk
  | str s =>
    intro w r r' _ _ h
    have hk := kind_eq_of_text_append hL h
    cases w with
    | str t =>
      rw [text, text] at h
      obtain ⟨rfl, hrr⟩ := hL.str_append_inj s t r r' h
      exact ⟨rfl, hrr⟩
    | bool b => cases b <;> simp [kind] at hk
    | _ => simp [kind] at hk
  | arr xs ih =>
    intro w r r' _ _ h
    have hk := kind_eq_of_text_append hL h
    cases w with
    | arr ys =>
      rw [text_arr, text_arr] at h
      obtain ⟨hxs, hrr⟩ := joined_append_inj (by decide) (by decide)
        (exists_head_ne hL (by decide)) ih true ys r r' (List.cons.inj h).2
      refine ⟨?_, hrr⟩
      rw [norm_arr, norm_arr, hxs]
    | bool b => cases b <;> simp [kind] at hk
    | _ => simp [kind] at hk
  | obj ms ih =>
    intro w r r' _ _ h
    have hk := kind_eq_of_text_append hL h
    cases w with
    | obj ns =>
      rw [text_obj, text_obj] at h
      -- a member is its name, the colon and its value
      have hread : ∀ m ∈ sortByName ms, ∀ (n : σ × ValueTree σ ν) (r r' : List Char), Ends r → Ends r' →
          memberText L (m.1, text L m.2) ++ r = memberText L (n.1, text L n.2) ++ r' →
          (m.1, norm m.2) = (n.1, norm n.2) ∧ r = r' := by
        intro m hm n r r' hr hr' h
        simp only [memberText, List.append_assoc, List.cons_append] at h
        obtain ⟨hname, hvalue⟩ := hL.str_append_inj _ _ _ _ h
        obtain ⟨hnorm, hrr⟩ := ih m (mem_sortByName.mp hm) n.2 r r' hr hr' (List.cons.inj hvalue).2
        exact ⟨by rw [hname, hnorm], hrr⟩
      have hhead : ∀ n : σ × ValueTree σ ν, ∃ c t,
          memberText L (n.1, text L n.2) = c :: t ∧ c ≠ '\x7d' := by
        intro n
        obtain ⟨t, ht⟩ := hL.str_head n.1
        exact ⟨'"', _, by rw [memberText, ht, List.cons_append], by decide⟩
      obtain ⟨hms, hrr⟩ := joined_append_inj (by decide) (by decide) hhead hread true
        (sortByName ns) r r' (List.cons.inj h).2
      refine ⟨?_, hrr⟩
      rw [norm_obj, norm_obj, hms]
    | bool b => cases b <;> simp [kind] at hk
    | _ => simp [kind] at hk

/-- The text depends on the normal form only. -/
lemma text_norm (L : Lexicon σ ν) (v : ValueTree σ ν) : text L (norm v) = text L v := by
  induction v using ValueTree.ind with
  | arr xs ih =>
    rw [norm_arr, text_arr, text_arr, List.map_map]
    exact congrArg (fun ts => '[' :: joined ']' true ts) (List.map_congr_left ih)
  | obj ms ih =>
    rw [norm_obj, text_obj, text_obj, sortByName_map, sortByName_sortByName, List.map_map]
    refine congrArg (fun ts => '\x7b' :: joined '\x7d' true ts) (List.map_congr_left ?_)
    intro m hm
    show memberText L (m.1, text L (norm m.2)) = memberText L (m.1, text L m.2)
    rw [ih m (mem_sortByName.mp hm)]
  | _ => rfl

/-- **The sorted text tells a value** from every other one that is not equal up to member order. -/
theorem text_eq_iff (hL : L.Faithful) (v w : ValueTree σ ν) : text L v = text L w ↔ Eqv v w := by
  constructor
  · intro h
    exact (text_append_inj hL v w [] [] ends_nil ends_nil (congrArg (· ++ []) h)).1
  · intro h
    rw [← text_norm L v, ← text_norm L w, show norm v = norm w from h]

end reading

/-! ## Writers that refuse -/

/-- A writer that may refuse a number, a string, or nesting below `limit`. -/
structure Writer (σ ν : Type) where
  num : ν → Option (List Char)
  str : σ → Option (List Char)
  limit : Nat

section writing

variable [LinearOrder σ] (W : Writer σ ν)

mutual

/-- The text of a value at nesting depth `depth`; `none` when something in it is refused. -/
def write (depth : Nat) (v : ValueTree σ ν) : Option (List Char) :=
  if W.limit < depth then none
  else
    match v with
    | .null => some ['n', 'u', 'l', 'l']
    | .bool true => some ['t', 'r', 'u', 'e']
    | .bool false => some ['f', 'a', 'l', 's', 'e']
    | .num n => W.num n
    | .str s => W.str s
    | .arr xs => (writeElems (depth + 1) xs).map fun ts => '[' :: joined ']' true ts
    | .obj ms =>
      (writeMembers (depth + 1) ms).map fun ts =>
        '\x7b' :: joined '\x7d' true ((sortByName ts).map fun m => m.2)

/-- The elements of an array. -/
def writeElems (depth : Nat) : List (ValueTree σ ν) → Option (List (List Char))
  | [] => some []
  | x :: xs => do
    let t ← write depth x
    let ts ← writeElems depth xs
    return t :: ts

/-- The members of an object, each with its name and its whole text. -/
def writeMembers (depth : Nat) : List (σ × ValueTree σ ν) → Option (List (σ × List Char))
  | [] => some []
  | (k, v) :: ms => do
    let name ← W.str k
    let t ← write depth v
    let ts ← writeMembers depth ms
    return (k, name ++ ':' :: t) :: ts

end

variable {W} {L : Lexicon σ ν}

/-- **Where a writer does not refuse it writes the sorted text**, if its tokens are the lexicon's. -/
theorem write_eq_text (hnum : ∀ n t, W.num n = some t → t = L.num n)
    (hstr : ∀ s t, W.str s = some t → t = L.str s) (v : ValueTree σ ν) :
    ∀ depth t, write W depth v = some t → t = text L v := by
  induction v using ValueTree.ind with
  | null =>
    intro depth t ht
    simp only [write, Option.ite_none_left_eq_some, Option.some.injEq] at ht
    exact ht.2.symm
  | bool b =>
    intro depth t ht
    cases b <;> simp only [write, Option.ite_none_left_eq_some, Option.some.injEq] at ht <;>
      exact ht.2.symm
  | num n =>
    intro depth t ht
    simp only [write, Option.ite_none_left_eq_some] at ht
    rw [text]
    exact hnum n t ht.2
  | str s =>
    intro depth t ht
    simp only [write, Option.ite_none_left_eq_some] at ht
    rw [text]
    exact hstr s t ht.2
  | arr xs ih =>
    intro depth t ht
    simp only [write, Option.ite_none_left_eq_some, Option.map_eq_some_iff] at ht
    obtain ⟨-, ts, hts, rfl⟩ := ht
    have helems : ∀ ys : List (ValueTree σ ν), (∀ y ∈ ys, y ∈ xs) → ∀ us,
        writeElems W (depth + 1) ys = some us → us = ys.map (text L) := by
      intro ys
      induction ys with
      | nil => intro _ us hus; simpa [writeElems, eq_comm] using hus
      | cons y ys ihy =>
        intro hmem us hus
        simp only [writeElems, bind, Option.bind_eq_some_iff, pure, Option.some.injEq] at hus
        obtain ⟨u, hu, rest, hrest, rfl⟩ := hus
        rw [ih y (hmem y (.head _)) _ u hu,
          ihy (fun z hz => hmem z (.tail _ hz)) rest hrest, List.map_cons]
    rw [text_arr, helems xs (fun _ h => h) ts hts]
  | obj ms ih =>
    intro depth t ht
    simp only [write, Option.ite_none_left_eq_some, Option.map_eq_some_iff] at ht
    obtain ⟨-, ts, hts, rfl⟩ := ht
    have hmembers : ∀ ns : List (σ × ValueTree σ ν), (∀ n ∈ ns, n ∈ ms) → ∀ us,
        writeMembers W (depth + 1) ns = some us →
        us = ns.map fun m => (m.1, memberText L (m.1, text L m.2)) := by
      intro ns
      induction ns with
      | nil => intro _ us hus; simpa [writeMembers, eq_comm] using hus
      | cons n ns ihn =>
        obtain ⟨k, v⟩ := n
        intro hmem us hus
        simp only [writeMembers, bind, Option.bind_eq_some_iff, pure, Option.some.injEq] at hus
        obtain ⟨name, hname, u, hu, rest, hrest, rfl⟩ := hus
        rw [hstr k name hname, ih (k, v) (hmem _ (.head _)) _ u hu,
          ihn (fun z hz => hmem z (.tail _ hz)) rest hrest]
        rfl
    rw [text_obj, hmembers ms (fun _ h => h) ts hts, sortByName_map, List.map_map]
    rfl

end writing

end ValueTree
