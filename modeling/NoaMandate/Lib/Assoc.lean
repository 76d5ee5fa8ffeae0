import Mathlib.Data.List.Nodup
import Mathlib.Tactic.Lemma

/-!
# Association lists

What a lookup finds in a list of entries, and what it finds after the entries were changed: every
value (`lookup_map`), the value of one key (`lookup_replace`, `lookup_put`) or the keys that are there
(`lookup_filter`).  Where no two entries share a key, a lookup finds every entry
(`lookup_eq_some_iff`).
-/

namespace Assoc

variable {κ ν ω : Type} {es : List (κ × ν)} {k : κ} {v : ν}

lemma mem_of_lookup [BEq κ] [LawfulBEq κ] (h : es.lookup k = some v) : (k, v) ∈ es := by
  obtain ⟨front, back, rfl, -⟩ := List.lookup_eq_some_iff.mp h
  simp

variable [DecidableEq κ]

lemma lookup_eq_none_iff : es.lookup k = none ↔ k ∉ es.map Prod.fst := by
  rw [List.lookup_eq_none_iff, List.mem_map]
  constructor
  · rintro h ⟨e, he, rfl⟩
    exact bne_iff_ne.mp (h e he) rfl
  · exact fun h e he => bne_iff_ne.mpr fun heq => h ⟨e, he, heq.symm⟩

/-- With distinct keys, looking a key up finds exactly the entry that carries it. -/
lemma lookup_eq_some_iff (h : (es.map Prod.fst).Nodup) : es.lookup k = some v ↔ (k, v) ∈ es := by
  refine ⟨mem_of_lookup, fun hv => ?_⟩
  induction es with
  | nil => cases hv
  | cons e es ih =>
    rw [List.map_cons, List.nodup_cons] at h
    rw [List.lookup_cons]
    rcases List.mem_cons.mp hv with rfl | hv
    · simp
    · have hk : k ≠ e.1 := fun heq => h.1 (heq ▸ List.mem_map_of_mem hv)
      rw [beq_false_of_ne hk]
      exact ih h.2 hv

lemma lookup_map (es : List (κ × ν)) (f : κ → ν → ω) (k : κ) :
    (es.map fun e => (e.1, f e.1 e.2)).lookup k = (es.lookup k).map (f k) := by
  induction es with
  | nil => rfl
  | cons e es ih =>
    rw [List.map_cons, List.lookup_cons, List.lookup_cons]
    by_cases h : k = e.1
    · subst h
      simp
    · rw [beq_false_of_ne h]
      exact ih

lemma lookup_filter (es : List (κ × ν)) (p : κ → Bool) (k : κ) :
    (es.filter fun e => p e.1).lookup k = if p k then es.lookup k else none := by
  induction es with
  | nil => simp
  | cons e es ih =>
    obtain ⟨a, b⟩ := e
    by_cases h : k = a
    · subst h
      cases hp : p k with
      | true => simp [hp]
      | false => simp [hp, ih]
    · have hk := beq_false_of_ne h
      cases hp : p a with
      | true => simp [hp, List.lookup_cons, hk, ih]
      | false => simp [hp, List.lookup_cons, hk, ih]

section write

variable (es) (k l : κ) (v : ν)

lemma map_fst_replace :
    (es.map fun e => if e.1 = k then (k, v) else e).map Prod.fst = es.map Prod.fst := by
  rw [List.map_map]
  refine List.map_congr_left fun e _ => ?_
  by_cases h : e.1 = k
  · simp [h]
  · simp [h]

lemma lookup_replace : (es.map fun e => if e.1 = k then (k, v) else e).lookup l =
    if l = k then (es.lookup k).map fun _ => v else es.lookup l := by
  induction es with
  | nil => simp
  | cons e es ih =>
    rw [List.map_cons, List.lookup_cons, List.lookup_cons, List.lookup_cons, ih]
    by_cases hk : e.1 = k
    · by_cases hl : l = k
      · simp [hk, hl]
      · simp [hk, hl, beq_false_of_ne hl]
    · by_cases hl : l = e.1
      · simp [hk, hl]
      · simp [hk, beq_false_of_ne hl, beq_false_of_ne (Ne.symm hk)]

/-- Writing a key: in place if it is there, else at the end. -/
lemma lookup_put : (if (es.lookup k).isSome then es.map fun e => if e.1 = k then (k, v) else e
      else es ++ [(k, v)]).lookup l = if l = k then some v else es.lookup l := by
  cases h : es.lookup k with
  | some w => simp [lookup_replace, h]
  | none =>
    by_cases hl : l = k
    · simp [List.lookup_append, hl, h]
    · simp [List.lookup_append, List.lookup_cons, hl, beq_false_of_ne hl]

end write

lemma nodup_append (h : (es.map Prod.fst).Nodup) (hk : es.lookup k = none) (v : ν) :
    ((es ++ [(k, v)]).map Prod.fst).Nodup := by
  rw [List.map_append]
  refine List.nodup_append.mpr ⟨h, List.nodup_singleton _, fun a ha b hb hab => ?_⟩
  obtain rfl := List.mem_singleton.mp hb
  exact lookup_eq_none_iff.mp hk (hab ▸ ha)

end Assoc
