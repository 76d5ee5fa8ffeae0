import NoaMandate.Lib.Tree
import Mathlib.Data.List.Nodup

/-!
# The leaves of a tree and the names of their paths

A tree of JSON shape is often handed on as a flat table: one entry for each leaf, under a name that
spells the path to it.

* `KeyPath.spell sep base path` writes the steps of a path one after the other, each behind a separator.
  `spell_injective`: the spelling tells the path, as long as no step contains the separator.
* `ValueTree.leaves index v`: the leaves of a value with their paths, in the order in which a walk meets
  them; `index` names the elements of an array.  An array has the leaves of the object whose members
  are its elements under those names (`leaves_arr`), so most proofs treat objects only.
* `ValueTree.Distinct`: no object repeats a name.  Then no two leaves have one path (`nodup_leaves`).
-/

/-! ## Spelling a path -/

namespace KeyPath

variable {α : Type}

/-- The path below `base`, with a separator before every step. -/
def spell (sep : α) (base : List α) (path : List (List α)) : List α :=
  base ++ path.flatMap (sep :: ·)

@[simp] lemma spell_nil (sep : α) (base : List α) : spell sep base [] = base :=
  List.append_nil base

lemma spell_cons (sep : α) (base step : List α) (path : List (List α)) :
    spell sep base (step :: path) = spell sep (base ++ sep :: step) path := by
  simp [spell]

section injective

variable [DecidableEq α] {sep : α}

/-- Up to the next separator only the first step is read. -/
lemma takeWhile_step {step : List α} (hstep : sep ∉ step) (path : List (List α)) :
    (step ++ path.flatMap (sep :: ·)).takeWhile (· ≠ sep) = step := by
  have hall : ∀ a ∈ step, decide (a ≠ sep) = true := by
    intro a ha
    exact decide_eq_true fun h => hstep (h ▸ ha)
  rw [List.takeWhile_append_of_pos hall]
  cases path with
  | nil => simp
  | cons s path => simp

/-- **The spelling tells the path.** -/
theorem spell_injective {base : List α} {path path' : List (List α)}
    (h : ∀ step ∈ path, sep ∉ step) (h' : ∀ step ∈ path', sep ∉ step)
    (heq : spell sep base path = spell sep base path') : path = path' := by
  replace heq := List.append_cancel_left heq
  induction path generalizing path' with
  | nil =>
    cases path' with
    | nil => rfl
    | cons step' path' => simp at heq
  | cons step path ih =>
    cases path' with
    | nil => simp at heq
    | cons step' path' =>
      simp only [List.flatMap_cons, List.cons_append, List.cons.injEq, true_and] at heq
      have hstep : step = step' := by
        rw [← takeWhile_step (h step (.head _)) path, heq,
          takeWhile_step (h' step' List.mem_cons_self) path']
      subst hstep
      rw [ih (fun s hs => h s (.tail _ hs))
        (fun s hs => h' s (.tail _ hs)) (List.append_cancel_left heq)]

end injective

end KeyPath

/-! ## The leaves of a tree -/

namespace ValueTree

variable {σ ν : Type} (index : Nat → σ)

/-- Is there nothing inside the value? -/
def isLeaf : ValueTree σ ν → Bool
  | .arr _ => false
  | .obj _ => false
  | _ => true

/-- The elements of an array from position `i` on, as members named by their positions. -/
def named : Nat → List (ValueTree σ ν) → List (σ × ValueTree σ ν)
  | _, [] => []
  | i, x :: xs => (index i, x) :: named (i + 1) xs

/-- A leaf, seen from one level above. -/
def under (name : σ) (leaf : List σ × ValueTree σ ν) : List σ × ValueTree σ ν := (name :: leaf.1, leaf.2)

mutual

/-- The leaves of a value, each with the path that leads to it. -/
def leaves : ValueTree σ ν → List (List σ × ValueTree σ ν)
  | .null => [([], .null)]
  | .bool b => [([], .bool b)]
  | .num n => [([], .num n)]
  | .str s => [([], .str s)]
  | .arr xs => leavesElems 0 xs
  | .obj ms => leavesMembers ms

/-- The leaves of the elements from position `i` on. -/
def leavesElems (i : Nat) : List (ValueTree σ ν) → List (List σ × ValueTree σ ν)
  | [] => []
  | x :: xs => (leaves x).map (under (index i)) ++ leavesElems (i + 1) xs

/-- The leaves of the members. -/
def leavesMembers : List (σ × ValueTree σ ν) → List (List σ × ValueTree σ ν)
  | [] => []
  | (k, v) :: ms => (leaves v).map (under k) ++ leavesMembers ms

end

variable {index}

lemma leavesElems_eq (i : Nat) (xs : List (ValueTree σ ν)) :
    leavesElems index i xs = leavesMembers index (named index i xs) := by
  induction xs generalizing i with
  | nil => rfl
  | cons x xs ih => rw [leavesElems, named, leavesMembers, ih]

/-- An array has the leaves of the object with its elements as members. -/
lemma leaves_arr (xs : List (ValueTree σ ν)) :
    leaves index (.arr xs) = leaves index (.obj (named index 0 xs)) := by
  rw [leaves, leaves, leavesElems_eq]

lemma leaves_obj_cons (m : σ × ValueTree σ ν) (ms : List (σ × ValueTree σ ν)) :
    leaves index (.obj (m :: ms)) =
      (leaves index m.2).map (under m.1) ++ leaves index (.obj ms) := by
  rw [leaves, leaves, leavesMembers]

lemma leaves_obj (ms : List (σ × ValueTree σ ν)) :
    leaves index (.obj ms) = ms.flatMap fun m => (leaves index m.2).map (under m.1) := by
  induction ms with
  | nil => rfl
  | cons m ms ih => rw [leaves_obj_cons, ih, List.flatMap_cons]

lemma map_snd_named (i : Nat) (xs : List (ValueTree σ ν)) : (named index i xs).map Prod.snd = xs := by
  induction xs generalizing i with
  | nil => rfl
  | cons x xs ih => rw [named, List.map_cons, ih]

lemma map_fst_named (i : Nat) (xs : List (ValueTree σ ν)) :
    (named index i xs).map Prod.fst = (List.range' i xs.length).map index := by
  induction xs generalizing i with
  | nil => rfl
  | cons x xs ih => rw [named, List.map_cons, ih, List.length_cons, List.range'_succ, List.map_cons]

lemma snd_mem_of_mem_named {i : Nat} {xs : List (ValueTree σ ν)} {m : σ × ValueTree σ ν}
    (h : m ∈ named index i xs) : m.2 ∈ xs := by
  have hmem : m.2 ∈ (named index i xs).map Prod.snd := List.mem_map_of_mem h
  rwa [map_snd_named] at hmem

lemma isLeaf_of_mem_leaves (v : ValueTree σ ν) : ∀ l ∈ leaves index v, l.2.isLeaf = true := by
  have hmembers : ∀ ms : List (σ × ValueTree σ ν), (∀ m ∈ ms, ∀ l ∈ leaves index m.2, l.2.isLeaf = true) →
      ∀ l ∈ leaves index (.obj ms), l.2.isLeaf = true := by
    intro ms ih l hl
    rw [leaves_obj] at hl
    obtain ⟨m, hm, hl⟩ := List.mem_flatMap.mp hl
    obtain ⟨l', hl', rfl⟩ := List.mem_map.mp hl
    exact ih m hm l' hl'
  induction v using ValueTree.ind with
  | arr xs ih =>
    rw [leaves_arr]
    exact hmembers _ fun m hm => ih m.2 (snd_mem_of_mem_named hm)
  | obj ms ih => exact hmembers ms ih
  | _ =>
    intro l hl
    rw [leaves, List.mem_singleton] at hl
    rw [hl]
    rfl

/-! ## Distinct names -/

/-- No object inside the value repeats a name. -/
inductive Distinct : ValueTree σ ν → Prop
  | null : Distinct .null
  | bool (b : Bool) : Distinct (.bool b)
  | num (n : ν) : Distinct (.num n)
  | str (s : σ) : Distinct (.str s)
  | arr {xs : List (ValueTree σ ν)} (elems : ∀ x ∈ xs, Distinct x) : Distinct (.arr xs)
  | obj {ms : List (σ × ValueTree σ ν)} (names : (ms.map Prod.fst).Nodup)
      (members : ∀ m ∈ ms, Distinct m.2) : Distinct (.obj ms)

lemma nodup_leaves_obj {ms : List (σ × ValueTree σ ν)} (names : (ms.map Prod.fst).Nodup)
    (members : ∀ m ∈ ms, ((leaves index m.2).map Prod.fst).Nodup) :
    ((leaves index (.obj ms)).map Prod.fst).Nodup := by
  have hpaths : (leaves index (.obj ms)).map Prod.fst =
      ms.flatMap fun m => ((leaves index m.2).map Prod.fst).map (m.1 :: ·) := by
    rw [leaves_obj, List.map_flatMap]
    simp only [List.map_map]
    rfl
  rw [hpaths, List.nodup_flatMap]
  constructor
  · intro m hm
    exact (members m hm).map fun p q h => (List.cons.inj h).2
  · refine (List.pairwise_map.mp names).imp fun {a b} hne => ?_
    intro path ha hb
    obtain ⟨p, -, rfl⟩ := List.mem_map.mp ha
    obtain ⟨q, -, hq⟩ := List.mem_map.mp hb
    exact hne (List.cons.inj hq).1.symm

/-- **No two leaves have one path.** -/
theorem nodup_leaves (hindex : Function.Injective index) {v : ValueTree σ ν} (h : v.Distinct) :
    ((leaves index v).map Prod.fst).Nodup := by
  induction h with
  | arr elems ih =>
    rw [leaves_arr]
    refine nodup_leaves_obj ?_ fun m hm => ih m.2 (snd_mem_of_mem_named hm)
    rw [map_fst_named]
    exact List.Nodup.map hindex List.nodup_range'
  | obj names members ih => exact nodup_leaves_obj names ih
  | _ =>
    rw [leaves]
    exact List.nodup_singleton _

end ValueTree
