import NoaMandate.Lib.Assoc

/-!
# Tables

A table is a finite map that keeps its entries in the order in which their keys were first written,
as the maps of a scripting language do: writing a key again replaces the value where it stands.

`get?_set` is what a proof about a program that writes tables needs; `mem_entries_iff` and
`mem_values_iff` translate between the entries that a loop walks and the keys that a lookup finds.

`keep` is the part of a table whose entries satisfy a predicate and `mapValues` changes every value;
both keep the order of the entries.  `keep_set_of_pos` and `keep_set_of_neg` say how a write is seen
in a part.

A write is undone by `restore`, which puts back what a key had before, or removes it (`restore_set`).
A table whose keys are told by its values can be read back from the list of its values
(`ofEntries_values`), and an index of it can be made again from the same list (`ofEntries_index`).
-/

/-- A finite map; every key has one entry. -/
structure Table (κ ν : Type) where
  entries : List (κ × ν)
  nodup : (entries.map Prod.fst).Nodup

namespace Table

variable {κ ν : Type}

def empty : Table κ ν := ⟨[], List.nodup_nil⟩

/-- The values in the order of their keys. -/
def values (t : Table κ ν) : List ν := t.entries.map Prod.snd

lemma ext_entries {t u : Table κ ν} (h : t.entries = u.entries) : t = u := by
  cases t
  cases u
  cases h
  rfl

/-- The entries that satisfy a predicate. -/
def keep (p : κ → ν → Bool) (t : Table κ ν) : Table κ ν where
  entries := t.entries.filter fun e => p e.1 e.2
  nodup := (List.filter_sublist.map Prod.fst).nodup t.nodup

lemma entries_keep (p : κ → ν → Bool) (t : Table κ ν) :
    (t.keep p).entries = t.entries.filter fun e => p e.1 e.2 := rfl

/-- The values of a part that is chosen by value. -/
lemma values_keep (p : ν → Bool) (t : Table κ ν) :
    (t.keep fun _ v => p v).values = t.values.filter p := by
  rw [values, values, keep, List.filter_map]
  rfl

/-- The table with every value changed. -/
def mapValues (f : ν → ν) (t : Table κ ν) : Table κ ν where
  entries := t.entries.map fun e => (e.1, f e.2)
  nodup := by
    rw [List.map_map]
    exact t.nodup

lemma mapValues_mapValues (f g : ν → ν) (t : Table κ ν) :
    (t.mapValues f).mapValues g = t.mapValues (g ∘ f) := by
  apply ext_entries
  show (t.entries.map _).map _ = t.entries.map _
  rw [List.map_map]
  rfl

/-- Changing values that stay in or out of a part. -/
lemma keep_mapValues {p : ν → Bool} {f : ν → ν} (h : ∀ v, p (f v) = p v) (t : Table κ ν) :
    (t.mapValues f).keep (fun _ v => p v) = (t.keep fun _ v => p v).mapValues f := by
  apply ext_entries
  show (t.entries.map _).filter _ = (t.entries.filter _).map _
  rw [List.filter_map]
  refine congrArg (List.map _) (List.filter_congr fun e _ => ?_)
  exact h e.2

variable [DecidableEq κ] {t : Table κ ν} {k l : κ} {v w : ν}

def get? (t : Table κ ν) (k : κ) : Option ν := t.entries.lookup k

/-- The entries with the value of a key replaced. -/
def replaced (k : κ) (v : ν) (es : List (κ × ν)) : List (κ × ν) :=
  es.map fun e => if e.1 = k then (k, v) else e

lemma map_fst_replaced (k : κ) (v : ν) (es : List (κ × ν)) :
    (replaced k v es).map Prod.fst = es.map Prod.fst := Assoc.map_fst_replace es k v

/-- Write a key. -/
def set (t : Table κ ν) (k : κ) (v : ν) : Table κ ν :=
  match h : t.entries.lookup k with
  | some _ => ⟨replaced k v t.entries, by rw [map_fst_replaced]; exact t.nodup⟩
  | none => ⟨t.entries ++ [(k, v)], Assoc.nodup_append t.nodup h v⟩

@[simp] lemma get?_empty : (empty : Table κ ν).get? k = none := rfl

lemma get?_set (t : Table κ ν) (k l : κ) (v : ν) :
    (t.set k v).get? l = if l = k then some v else t.get? l := by
  have hput := Assoc.lookup_put t.entries k l v
  unfold set get?
  split
  · rename_i w hw
    rwa [hw] at hput
  · rename_i hnone
    rwa [hnone] at hput

@[simp] lemma get?_set_self (t : Table κ ν) (k : κ) (v : ν) : (t.set k v).get? k = some v := by
  rw [get?_set, if_pos rfl]

lemma get?_set_of_ne (t : Table κ ν) (h : l ≠ k) (v : ν) : (t.set k v).get? l = t.get? l := by
  rw [get?_set, if_neg h]

/-- The entries are the keys that a lookup finds. -/
lemma mem_entries_iff : (k, v) ∈ t.entries ↔ t.get? k = some v :=
  (Assoc.lookup_eq_some_iff t.nodup).symm

lemma mem_values_iff : v ∈ t.values ↔ ∃ k, t.get? k = some v := by
  simp [values, ← mem_entries_iff]

/-! ## Order -/

/-- A new key is written at the end. -/
lemma entries_set_of_none (h : t.get? k = none) (v : ν) :
    (t.set k v).entries = t.entries ++ [(k, v)] := by
  unfold set
  split
  · rename_i w hw
    rw [get?, hw] at h
    cases h
  · rfl

/-- A key that is there is written where it stands. -/
lemma entries_set_of_some (h : t.get? k = some w) (v : ν) :
    (t.set k v).entries = replaced k v t.entries := by
  unfold set
  split
  · rfl
  · rename_i hnone
    rw [get?, hnone] at h
    cases h

/-- Writing what is there changes nothing. -/
lemma set_of_get? (h : t.get? k = some v) : t.set k v = t := by
  apply ext_entries
  rw [entries_set_of_some h, replaced]
  conv_rhs => rw [← List.map_id t.entries]
  refine List.map_congr_left fun e he => ?_
  by_cases hk : e.1 = k
  · obtain ⟨a, b⟩ := e
    have hk : a = k := hk
    subst hk
    rw [mem_entries_iff, h] at he
    cases he
    simp
  · rw [if_neg hk]
    rfl

/-! ## Writing one table into another -/

/-- Every entry of `u` written into `t`. -/
def assign (t u : Table κ ν) : Table κ ν := u.entries.foldl (fun t e => t.set e.1 e.2) t

lemma get?_foldl_set (es : List (κ × ν)) : ∀ t : Table κ ν, (es.map Prod.fst).Nodup →
    (es.foldl (fun t e => t.set e.1 e.2) t).get? k = (es.lookup k).or (t.get? k) := by
  induction es with
  | nil =>
    intro t _
    rfl
  | cons e es ih =>
    intro t hnodup
    rw [List.map_cons, List.nodup_cons] at hnodup
    rw [List.foldl_cons, ih _ hnodup.2, get?_set, List.lookup_cons]
    by_cases hk : k = e.1
    · have hnone : es.lookup k = none := Assoc.lookup_eq_none_iff.mpr (hk ▸ hnodup.1)
      rw [hnone, if_pos hk, hk, beq_self_eq_true]
      rfl
    · have hbeq : (k == e.1) = false := beq_false_of_ne hk
      rw [if_neg hk, hbeq]

lemma get?_assign (t u : Table κ ν) (k : κ) : (t.assign u).get? k = (u.get? k).or (t.get? k) :=
  get?_foldl_set u.entries t u.nodup

/-! ## Parts -/

lemma get?_keep (p : κ → ν → Bool) (t : Table κ ν) (k : κ) :
    (t.keep p).get? k = (t.get? k).filter (p k) := by
  apply Option.ext
  intro v
  rw [← mem_entries_iff, Option.filter_eq_some_iff, ← mem_entries_iff]
  exact List.mem_filter

/-- A write into the part. -/
lemma keep_set_of_pos {p : κ → ν → Bool} (hv : p k v = true)
    (hold : ∀ w, t.get? k = some w → p k w = true) : (t.set k v).keep p = (t.keep p).set k v := by
  apply ext_entries
  cases hget : t.get? k with
  | none =>
    have hkeep : (t.keep p).get? k = none := by
      rw [get?_keep, hget]
      rfl
    rw [entries_set_of_none hkeep, entries_keep, entries_set_of_none hget, List.filter_append]
    simp [entries_keep, hv]
  | some w =>
    have hkeep : (t.keep p).get? k = some w := by
      rw [get?_keep, hget, Option.filter_some, if_pos (hold w hget)]
    rw [entries_set_of_some hkeep, entries_keep, entries_set_of_some hget, replaced, List.filter_map]
    refine congrArg (List.map _) (List.filter_congr fun e he => ?_)
    by_cases hk : e.1 = k
    · obtain ⟨a, b⟩ := e
      have hk : a = k := hk
      subst hk
      have hb := mem_entries_iff.mp he
      simp [hv, hold b hb]
    · simp [hk]

/-- A write outside the part. -/
lemma keep_set_of_neg {p : κ → ν → Bool} (hv : p k v = false)
    (hold : ∀ w, t.get? k = some w → p k w = false) : (t.set k v).keep p = t.keep p := by
  apply ext_entries
  cases hget : t.get? k with
  | none =>
    rw [entries_keep, entries_set_of_none hget, List.filter_append]
    simp [entries_keep, hv]
  | some w =>
    rw [entries_keep, entries_set_of_some hget, replaced, List.filter_map]
    have hsame : ∀ e ∈ t.entries, p e.1 e.2 = true → (if e.1 = k then (k, v) else e) = e := by
      rintro ⟨a, b⟩ he hp
      refine if_neg fun hk => ?_
      have hk : a = k := hk
      subst hk
      rw [hold b (mem_entries_iff.mp he)] at hp
      cases hp
    have hfilter : t.entries.filter ((fun e => p e.1 e.2) ∘ fun e => if e.1 = k then (k, v) else e) =
        t.entries.filter fun e => p e.1 e.2 := by
      refine List.filter_congr fun e he => ?_
      by_cases hk : e.1 = k
      · obtain ⟨a, b⟩ := e
        have hk : a = k := hk
        subst hk
        simp [hv, hold b (mem_entries_iff.mp he)]
      · simp [hk]
    rw [hfilter]
    conv_rhs => rw [entries_keep, ← List.map_id (t.entries.filter _)]
    refine List.map_congr_left fun e he => ?_
    exact hsame e (List.mem_filter.mp he).1 (List.mem_filter.mp he).2

/-! ## Changing every value -/

lemma get?_mapValues (f : ν → ν) (t : Table κ ν) (k : κ) :
    (t.mapValues f).get? k = (t.get? k).map f := Assoc.lookup_map t.entries (fun _ => f) k

lemma mapValues_congr {f g : ν → ν} (h : ∀ k v, t.get? k = some v → f v = g v) :
    t.mapValues f = t.mapValues g := by
  apply ext_entries
  refine List.map_congr_left fun e he => ?_
  rw [h e.1 e.2 (mem_entries_iff.mp he)]

lemma mapValues_eq_self {f : ν → ν} (h : ∀ k v, t.get? k = some v → f v = v) :
    t.mapValues f = t := by
  rw [mapValues_congr h]
  exact ext_entries (List.map_id t.entries)

/-! ## Undoing a write -/

/-- The table without a key. -/
def erase (t : Table κ ν) (k : κ) : Table κ ν := t.keep fun l _ => l ≠ k

lemma get?_erase (t : Table κ ν) (k l : κ) :
    (t.erase k).get? l = if l = k then none else t.get? l := by
  rw [erase, get?_keep]
  by_cases h : l = k
  · rw [if_pos h, h]
    cases t.get? k <;> simp
  · rw [if_neg h]
    cases t.get? l <;> simp [h]

/-- Put back what a key had. -/
def restore (t : Table κ ν) (k : κ) : Option ν → Table κ ν
  | some v => t.set k v
  | none => t.erase k

lemma set_set (t : Table κ ν) (k : κ) (v w : ν) : (t.set k v).set k w = t.set k w := by
  apply ext_entries
  rw [entries_set_of_some (get?_set_self t k v)]
  cases hget : t.get? k with
  | none =>
    have hother : ∀ e ∈ t.entries, (if e.1 = k then (k, w) else e) = e := by
      rintro ⟨a, b⟩ he
      refine if_neg fun hk => ?_
      have hk : a = k := hk
      rw [← hk, mem_entries_iff.mp he] at hget
      cases hget
    rw [entries_set_of_none hget, entries_set_of_none hget, replaced, List.map_append]
    congr 1
    · conv_rhs => rw [← List.map_id t.entries]
      exact List.map_congr_left hother
    · simp
  | some u =>
    rw [entries_set_of_some hget, entries_set_of_some hget, replaced, replaced, replaced,
      List.map_map]
    refine List.map_congr_left fun e _ => ?_
    by_cases hk : e.1 = k
    · simp [hk]
    · simp [hk]

/-- Restoring undoes a write, also where the key stands. -/
lemma restore_set (t : Table κ ν) (k : κ) (v : ν) : (t.set k v).restore k (t.get? k) = t := by
  cases hget : t.get? k with
  | some w =>
    show (t.set k v).set k w = t
    rw [set_set, set_of_get? hget]
  | none =>
    apply ext_entries
    show ((t.set k v).keep _).entries = t.entries
    rw [entries_keep, entries_set_of_none hget, List.filter_append]
    have hkept : t.entries.filter (fun e => e.1 ≠ k) = t.entries := by
      refine List.filter_eq_self.mpr fun e he => ?_
      refine decide_eq_true fun hk => ?_
      rw [← hk, mem_entries_iff.mp (show (e.1, e.2) ∈ t.entries from he)] at hget
      cases hget
    rw [hkept]
    simp

/-! ## Reading back -/

/-- The table of a list of entries, written one after another. -/
def ofEntries (es : List (κ × ν)) : Table κ ν := es.foldl (fun t e => t.set e.1 e.2) empty

lemma entries_foldl_set (es : List (κ × ν)) (t : Table κ ν)
    (h : ((t.entries ++ es).map Prod.fst).Nodup) :
    (es.foldl (fun t e => t.set e.1 e.2) t).entries = t.entries ++ es := by
  induction es generalizing t with
  | nil => simp
  | cons e es ih =>
    have hnew : t.get? e.1 = none := by
      cases hget : t.get? e.1 with
      | none => rfl
      | some w =>
        have hmem := List.mem_map_of_mem (f := Prod.fst) (mem_entries_iff.mpr hget)
        rw [List.map_append, List.nodup_append] at h
        exact absurd rfl (h.2.2 _ hmem _ (.head _))
    have hset := entries_set_of_none hnew e.2
    rw [List.foldl_cons, ih]
    · rw [hset, List.append_assoc]
      rfl
    · rw [hset, List.append_assoc]
      exact h

/-- A table is what its entries make. -/
lemma ofEntries_entries (t : Table κ ν) : ofEntries t.entries = t := by
  apply ext_entries
  exact entries_foldl_set t.entries empty t.nodup

/-- The key of every value is told by the value. -/
def KeyedBy (f : ν → κ) (t : Table κ ν) : Prop := ∀ k v, t.get? k = some v → f v = k

lemma keyedBy_empty (f : ν → κ) : (empty : Table κ ν).KeyedBy f := fun _ _ h => by cases h

lemma KeyedBy.set {f : ν → κ} (h : t.KeyedBy f) (v : ν) : (t.set (f v) v).KeyedBy f := by
  intro k w hw
  rw [get?_set] at hw
  split at hw
  · rename_i hk
    cases hw
    exact hk.symm
  · exact h k w hw

lemma ofEntries_values {f : ν → κ} (h : t.KeyedBy f) :
    ofEntries (t.values.map fun v => (f v, v)) = t := by
  have hentries : t.values.map (fun v => (f v, v)) = t.entries := by
    rw [values, List.map_map]
    conv_rhs => rw [← List.map_id t.entries]
    refine List.map_congr_left fun e he => ?_
    show (f e.2, e.2) = e
    rw [h e.1 e.2 (mem_entries_iff.mp he)]
  rw [hentries, ofEntries_entries]

/-! ## Indexes -/

section index

variable {ι : Type} [DecidableEq ι] {index : Table ι κ} {g : ν → ι}

/-- The index has, in the order of the table, the key of each value under the value's own name. -/
def IndexedBy (g : ν → ι) (t : Table κ ν) (index : Table ι κ) : Prop :=
  index.entries = t.entries.map fun e => (g e.2, e.1)

lemma IndexedBy.get?_eq_some_iff (h : IndexedBy g t index) {i : ι} :
    index.get? i = some k ↔ ∃ v, t.get? k = some v ∧ g v = i := by
  rw [← mem_entries_iff, h]
  constructor
  · intro hmem
    obtain ⟨⟨a, b⟩, he, heq⟩ := List.mem_map.mp hmem
    cases heq
    exact ⟨b, mem_entries_iff.mp he, rfl⟩
  · rintro ⟨v, hv, rfl⟩
    exact List.mem_map.mpr ⟨(k, v), mem_entries_iff.mpr hv, rfl⟩

/-- Writing a new value under a name that is not in use. -/
lemma IndexedBy.set_new (h : IndexedBy g t index) (hk : t.get? k = none)
    (hi : index.get? (g v) = none) : IndexedBy g (t.set k v) (index.set (g v) k) := by
  unfold IndexedBy
  rw [entries_set_of_none hk, entries_set_of_none hi, h, List.map_append]
  rfl

/-- Writing a value in the place of one of the same name. -/
lemma IndexedBy.set_old (h : IndexedBy g t index) (hk : t.get? k = some w) (hg : g w = g v) :
    IndexedBy g (t.set k v) (index.set (g v) k) := by
  have hindex : index.get? (g v) = some k := h.get?_eq_some_iff.mpr ⟨w, hk, hg⟩
  unfold IndexedBy
  rw [set_of_get? hindex, h, entries_set_of_some hk, replaced, List.map_map]
  refine List.map_congr_left fun e he => ?_
  show (g e.2, e.1) = (g (if e.1 = k then (k, v) else e).2, (if e.1 = k then (k, v) else e).1)
  by_cases heq : e.1 = k
  · have he' := mem_entries_iff.mp (show (e.1, e.2) ∈ t.entries from he)
    rw [heq, hk] at he'
    rw [if_pos heq, ← Option.some.inj he', hg, heq]
  · rw [if_neg heq]

lemma ofEntries_index {f : ν → κ} (hf : t.KeyedBy f) (h : IndexedBy g t index) :
    ofEntries (t.values.map fun v => (g v, f v)) = index := by
  have hentries : t.values.map (fun v => (g v, f v)) = index.entries := by
    rw [h, values, List.map_map]
    refine List.map_congr_left fun e he => ?_
    show (g e.2, f e.2) = (g e.2, e.1)
    rw [hf e.1 e.2 (mem_entries_iff.mp he)]
  rw [hentries, ofEntries_entries]

end index

end Table
