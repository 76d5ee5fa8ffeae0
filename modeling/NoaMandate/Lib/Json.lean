import Mathlib.Data.List.Basic
import NoaMandate.Lib.Assoc

/-!
# JSON values

The values a strict JSON reader hands to a program: integers only, and objects as finite lists
of members in document order.  Nothing in this file is about a particular program.

* `Json.get?` and `Json.keys` are the two ways a program looks into an object.
* `Json.Distinct` says that no object, at any depth, repeats a member name.  A strict reader
  rejects such a document, so a program that starts from a parsed document may rely on it.
* `Json.ind` is the induction principle every recursive fact below is proved with: one case per
  constructor, with the hypothesis available at every element and at every member.
-/

/-- A JSON value whose numbers are integers. -/
inductive Json where
  | null
  | bool (b : Bool)
  | num (n : Int)
  | str (s : String)
  | arr (xs : List Json)
  | obj (ms : List (String × Json))
  deriving Inhabited

namespace Json

/-! ## Induction -/

/-- Induction on a JSON value, with the hypothesis at every element and every member. -/
@[elab_as_elim]
theorem ind {P : Json → Prop} (null : P .null) (bool : ∀ b, P (.bool b))
    (num : ∀ n, P (.num n)) (str : ∀ s, P (.str s)) (arr : ∀ xs, (∀ x ∈ xs, P x) → P (.arr xs))
    (obj : ∀ ms : List (String × Json), (∀ m ∈ ms, P m.2) → P (.obj ms)) (v : Json) : P v :=
  @Json.rec P (fun xs => ∀ x ∈ xs, P x) (fun ms => ∀ m ∈ ms, P m.2) (fun m => P m.2)
    null bool num str arr obj
    (fun _ h => absurd h List.not_mem_nil)
    (fun _ _ hx hxs _ h => (List.mem_cons.mp h).elim (fun e => e ▸ hx) (hxs _))
    (fun _ h => absurd h List.not_mem_nil)
    (fun _ _ hm hms _ h => (List.mem_cons.mp h).elim (fun e => e ▸ hm) (hms _))
    (fun _ _ hv => hv) v

/-! ## Decidable equality -/

mutual

/-- Equality of values, as a decision. -/
def beq : Json → Json → Bool
  | .null, .null => true
  | .bool a, .bool b => a == b
  | .num a, .num b => a == b
  | .str a, .str b => a == b
  | .arr xs, .arr ys => beqElems xs ys
  | .obj ms, .obj ns => beqMembers ms ns
  | _, _ => false

/-- Equality of element lists. -/
def beqElems : List Json → List Json → Bool
  | [], [] => true
  | x :: xs, y :: ys => beq x y && beqElems xs ys
  | _, _ => false

/-- Equality of member lists, order included. -/
def beqMembers : List (String × Json) → List (String × Json) → Bool
  | [], [] => true
  | (k, v) :: ms, (l, w) :: ns => k == l && beq v w && beqMembers ms ns
  | _, _ => false

end

lemma beqElems_iff (xs : List Json) (h : ∀ x ∈ xs, ∀ y, beq x y = true ↔ x = y) :
    ∀ ys, beqElems xs ys = true ↔ xs = ys := by
  induction xs with
  | nil => intro ys; cases ys <;> simp [beqElems]
  | cons x xs ih =>
    intro ys
    cases ys with
    | nil => simp [beqElems]
    | cons y ys =>
      have hx := h x (.head _) y
      have hxs := ih (fun z hz => h z (.tail _ hz)) ys
      simp [beqElems, hx, hxs]

lemma beqMembers_iff (ms : List (String × Json)) (h : ∀ m ∈ ms, ∀ y, beq m.2 y = true ↔ m.2 = y) :
    ∀ ns, beqMembers ms ns = true ↔ ms = ns := by
  induction ms with
  | nil => intro ns; cases ns <;> simp [beqMembers]
  | cons m ms ih =>
    obtain ⟨k, v⟩ := m
    intro ns
    cases ns with
    | nil => simp [beqMembers]
    | cons n ns =>
      obtain ⟨l, w⟩ := n
      have hv := h (k, v) (.head _) w
      have hms := ih (fun z hz => h z (.tail _ hz)) ns
      simp [beqMembers, hv, hms, and_assoc]

lemma beq_iff (v : Json) : ∀ w, beq v w = true ↔ v = w := by
  induction v using Json.ind with
  | null => intro w; cases w <;> simp [beq]
  | bool b => intro w; cases w <;> simp [beq]
  | num n => intro w; cases w <;> simp [beq]
  | str s => intro w; cases w <;> simp [beq]
  | arr xs ih =>
    intro w
    cases w <;> simp [beq]
    exact beqElems_iff xs ih _
  | obj ms ih =>
    intro w
    cases w <;> simp [beq]
    exact beqMembers_iff ms ih _

instance : DecidableEq Json := fun v w => decidable_of_iff (beq v w = true) (beq_iff v w)

/-! ## Looking into an object -/

variable {α : Type}

/-- The member `k` of an object; `none` when the value has no such member. -/
def get? (v : Json) (k : String) : Option Json :=
  match v with
  | .obj ms => ms.lookup k
  | _ => none

/-- The member names of an object, in document order. -/
def keys : Json → List String
  | .obj ms => ms.map Prod.fst
  | _ => []

/-- Is the value an object (neither an array nor a scalar)? -/
def isObj : Json → Bool
  | .obj _ => true
  | _ => false

/-- The string a value is, if it is one. -/
def asStr? : Json → Option String
  | .str s => some s
  | _ => none

/-- The member `k` of an object, when that member is a string. -/
def getStr? (v : Json) (k : String) : Option String :=
  (v.get? k).bind asStr?

/-- Follow member names into a value. -/
def path? (v : Json) : List String → Option Json
  | [] => some v
  | k :: ks => (v.get? k).bind fun w => path? w ks

/-- The string at a path, if there is one. -/
def strAt? (v : Json) (path : List String) : Option String := (v.path? path).bind asStr?

/-- The string at a path; the empty string when there is none. -/
def strAt (v : Json) (path : List String) : String := (v.strAt? path).getD ""

/-- The integer at a path; zero when there is none. -/
def numAt (v : Json) (path : List String) : Int :=
  match v.path? path with
  | some (.num n) => n
  | _ => 0

/-- A value that is neither an array nor an object. -/
def isScalar : Json → Bool
  | .arr _ => false
  | .obj _ => false
  | _ => true

/-- Strict equality of two values read from documents that were parsed separately, `none` for an
absent one: two arrays or two objects are never the same value. -/
def same : Option Json → Option Json → Bool
  | none, none => true
  | some v, some w => v.isScalar && v == w
  | _, _ => false

/-- The members with the value of `k` replaced; `k` must be there. -/
def setMember {α : Type} (ms : List (String × α)) (k : String) (v : α) : List (String × α) :=
  ms.map fun m => if m.1 = k then (k, v) else m

/-- The members other than `k`. -/
def eraseMember {α : Type} (ms : List (String × α)) (k : String) : List (String × α) :=
  ms.filter fun m => m.1 ≠ k

lemma setMember_fst (ms : List (String × α)) (k : String) (v : α) :
    (setMember ms k v).map Prod.fst = ms.map Prod.fst := Assoc.map_fst_replace ms k v

lemma lookup_setMember (ms : List (String × α)) (k l : String) (v : α) :
    (setMember ms k v).lookup l = if l = k then (ms.lookup k).map fun _ => v else ms.lookup l :=
  Assoc.lookup_replace ms k l v

lemma lookup_eraseMember (ms : List (String × α)) (k l : String) :
    (eraseMember ms k).lookup l = if l = k then none else ms.lookup l := by
  rw [eraseMember, Assoc.lookup_filter ms (fun a => a ≠ k)]
  by_cases h : l = k
  · simp [h]
  · simp [h]

lemma eraseMember_nodup {ms : List (String × α)} (h : (ms.map Prod.fst).Nodup)
    (k : String) : ((eraseMember ms k).map Prod.fst).Nodup :=
  h.sublist (List.filter_sublist.map _)

@[simp] lemma get?_obj (ms : List (String × Json)) (k : String) :
    (Json.obj ms).get? k = ms.lookup k := rfl

@[simp] lemma keys_obj (ms : List (String × Json)) : (Json.obj ms).keys = ms.map Prod.fst := rfl

lemma asStr?_eq_some {v : Json} {s : String} : v.asStr? = some s ↔ v = .str s := by
  cases v <;> simp [asStr?]

lemma getStr?_eq_some {v : Json} {k s : String} : v.getStr? k = some s ↔ v.get? k = some (.str s) := by
  simp [getStr?, Option.bind_eq_some_iff, asStr?_eq_some]

lemma eq_of_same {a b : Option Json} (h : same a b = true) : a = b := by
  unfold same at h
  split at h
  · rfl
  · rw [Bool.and_eq_true, beq_iff_eq] at h
    rw [h.2]
  · cases h

lemma same_str_right {a : Option Json} {s : String} :
    same a (some (.str s)) = true ↔ a = some (.str s) := by
  refine ⟨eq_of_same, ?_⟩
  rintro rfl
  simp [same, isScalar]

/-! ## Member names are distinct -/

mutual

/-- No object inside the value repeats a member name. -/
def Distinct : Json → Prop
  | .arr xs => DistinctElems xs
  | .obj ms => (ms.map Prod.fst).Nodup ∧ DistinctMembers ms
  | _ => True

/-- `Distinct` at every element. -/
def DistinctElems : List Json → Prop
  | [] => True
  | x :: xs => Distinct x ∧ DistinctElems xs

/-- `Distinct` at every member. -/
def DistinctMembers : List (String × Json) → Prop
  | [] => True
  | (_, v) :: ms => Distinct v ∧ DistinctMembers ms

end

lemma distinctElems_iff (xs : List Json) : DistinctElems xs ↔ ∀ x ∈ xs, Distinct x := by
  induction xs with
  | nil => simp [DistinctElems]
  | cons x xs ih => simp [DistinctElems, ih]

lemma distinctMembers_iff (ms : List (String × Json)) :
    DistinctMembers ms ↔ ∀ m ∈ ms, Distinct m.2 := by
  induction ms with
  | nil => simp [DistinctMembers]
  | cons m ms ih => obtain ⟨k, v⟩ := m; simp [DistinctMembers, ih]

@[simp] lemma distinct_arr (xs : List Json) : (Json.arr xs).Distinct ↔ ∀ x ∈ xs, Distinct x := by
  rw [Distinct, distinctElems_iff]

@[simp] lemma distinct_obj (ms : List (String × Json)) :
    (Json.obj ms).Distinct ↔ (ms.map Prod.fst).Nodup ∧ ∀ m ∈ ms, Distinct m.2 := by
  rw [Distinct, distinctMembers_iff]

lemma Distinct.get? {v w : Json} {k : String} (h : v.Distinct) (hw : v.get? k = some w) :
    w.Distinct := by
  cases v with
  | obj ms => exact ((distinct_obj _).mp h).2 _ (Assoc.mem_of_lookup hw)
  | _ => cases hw

end Json
