import NoaMandate.Adapter.ApprovalRules
import NoaMandate.Adapter.ParamsHash
import NoaMandate.Lib.Paths

/-!
# The arguments of a call as policy inputs

A policy reads a flat table of scalars, so the arguments of a call are projected into one: every
leaf under the dotted path that leads to it, at most `MAX_ARGS_FLATTEN_ENTRIES` of them and none
below `MAX_ARGS_FLATTEN_DEPTH`.

The walk carries one table and one counter through all levels of the arguments, and asks at every
level whether the budget is spent.  `flatten_eq_foldl` takes that apart: the walk is a fold of its
own scalar case over the list of leaves, so the tree recursion is gone and what is left is a list of
writes.  `entries_flatten` then says what the writes leave behind, provided that no two of them have
one path; that is what `findAmbiguousDottedArgKey` is there for (`dotFree_of_mem_leaves`).
-/

namespace NoaMandate.Adapter

/-! ## The walk -/

/-- Source: `pre-check.mjs`. -/
def MAX_ARGS_FLATTEN_DEPTH : Nat := 32

/-- Source: `pre-check.mjs`. -/
def MAX_ARGS_FLATTEN_ENTRIES : Nat := 2000

/-- The character between the steps of a path. -/
def dot : Fin 0x10000 := 0x2E

/-- A position of an array as a step of a path. -/
def indexKey (i : Nat) : JsString := .ofChars (Nat.toDigits 10 i)

/-- The table that is filled and the number of its writes. -/
structure Flattened where
  out : Inputs := .empty
  count : Nat := 0

def Flattened.put (st : Flattened) (path : JsString) (v : JsValue) : Flattened :=
  ⟨st.out.set path v, st.count + 1⟩

/-- Is there room for one more leaf at this depth? -/
def Flattened.spent (st : Flattened) (depth : Nat) : Bool :=
  MAX_ARGS_FLATTEN_ENTRIES ≤ st.count || MAX_ARGS_FLATTEN_DEPTH < depth

section walk

variable (P : AdapterPlatform)

/-- A number as a policy input: a safe integer as it is, another finite number as its decimal
text, and nothing for a number past the range. -/
def projectNumber (n : JsNumber) : Option JsValue :=
  if n.isSafeInteger then some (.num n)
  else if n.isFinite then some (.str (.ofChars (canonicalDecimalNumberString P n)))
  else none

/-- The number case: the counter moves if the path is in the table afterwards. -/
def Flattened.putNumber (st : Flattened) (path : JsString) (n : JsNumber) : Flattened :=
  match projectNumber P n with
  | some v => st.put path v
  | none => if (st.out.get? path).isSome then { st with count := st.count + 1 } else st

mutual

/-- Source: `pre-check.mjs` `flattenArgsToPolicyInputs`. -/
def flattenArgsToPolicyInputs (args : JsValue) (path : JsString) (depth : Nat) (st : Flattened) :
    Flattened :=
  if st.spent depth then st
  else
    match args with
    | .null => st
    | .str s => st.put path (.str s)
    | .bool b => st.put path (.bool b)
    | .num n => st.putNumber P path n
    | .arr xs => flattenElems xs path 0 depth st
    | .obj ms => flattenMembers ms path depth st

/-- The elements of an array at `depth`, from position `i` on. -/
def flattenElems (xs : List JsValue) (path : JsString) (i depth : Nat) (st : Flattened) :
    Flattened :=
  match xs with
  | [] => st
  | x :: xs =>
    if MAX_ARGS_FLATTEN_ENTRIES ≤ st.count then st
    else
      flattenElems xs path (i + 1) depth
        (flattenArgsToPolicyInputs x (path ++ dot :: indexKey i) (depth + 1) st)

/-- The members of an object at `depth`; a name with a dot is passed over. -/
def flattenMembers (ms : List (JsString × JsValue)) (path : JsString) (depth : Nat)
    (st : Flattened) : Flattened :=
  match ms with
  | [] => st
  | (k, v) :: ms =>
    if MAX_ARGS_FLATTEN_ENTRIES ≤ st.count then st
    else if dot ∈ k then flattenMembers ms path depth st
    else
      flattenMembers ms path depth
        (flattenArgsToPolicyInputs v (path ++ dot :: k) (depth + 1) st)

end

mutual

/-- The path of the first member whose name has a dot in it.
Source: `pre-check.mjs` `findAmbiguousDottedArgKey`. -/
def findAmbiguousDottedArgKey (args : JsValue) (path : JsString) (depth : Nat) : Option JsString :=
  if MAX_ARGS_FLATTEN_DEPTH < depth then none
  else
    match args with
    | .arr xs => findDottedInElems xs path 0 depth
    | .obj ms => findDottedInMembers ms path depth
    | _ => none

def findDottedInElems (xs : List JsValue) (path : JsString) (i depth : Nat) : Option JsString :=
  match xs with
  | [] => none
  | x :: xs =>
    (findAmbiguousDottedArgKey x (path ++ dot :: indexKey i) (depth + 1)).or
      (findDottedInElems xs path (i + 1) depth)

def findDottedInMembers (ms : List (JsString × JsValue)) (path : JsString) (depth : Nat) :
    Option JsString :=
  match ms with
  | [] => none
  | (k, v) :: ms =>
    if dot ∈ k then some (path ++ dot :: k)
    else
      (findAmbiguousDottedArgKey v (path ++ dot :: k) (depth + 1)).or
        (findDottedInMembers ms path depth)

end

end walk

/-! ## Positions -/

lemma indexKey_injective : Function.Injective indexKey := by
  intro i j h
  have hdigits : Nat.toDigits 10 i ++ [] = Nat.toDigits 10 j ++ [] := by
    rw [List.append_nil, List.append_nil]
    exact JsString.ofChars_injective h
  exact (Json.digits_append_inj Json.noDigitHead_nil Json.noDigitHead_nil hdigits).1

lemma dot_not_mem_indexKey (i : Nat) : dot ∉ indexKey i := by
  intro h
  obtain ⟨u, hu, hdot⟩ := List.mem_map.mp h
  obtain ⟨c, hc, hu⟩ := List.mem_flatMap.mp hu
  have hdigit := isDigit_of_mem_toDigits hc
  have hrange : 48 ≤ c.toNat ∧ c.toNat ≤ 57 := by
    simp only [Char.isDigit, Bool.and_eq_true, decide_eq_true_eq] at hdigit
    exact hdigit
  rw [Json.charUnits, if_pos (by omega), List.mem_singleton] at hu
  subst hu
  have hval : c.toNat % 0x10000 = 46 := congrArg Fin.val hdot
  omega

section proofs

variable {P : AdapterPlatform}

lemma flattenElems_eq (xs : List JsValue) (path : JsString) (i depth : Nat) (st : Flattened) :
    flattenElems P xs path i depth st =
      flattenMembers P (ValueTree.named indexKey i xs) path depth st := by
  induction xs generalizing i st with
  | nil => rfl
  | cons x xs ih =>
    rw [flattenElems, ValueTree.named, flattenMembers, if_neg (dot_not_mem_indexKey i), ih]

lemma findDottedInElems_eq (xs : List JsValue) (path : JsString) (i depth : Nat) :
    findDottedInElems xs path i depth =
      findDottedInMembers (ValueTree.named indexKey i xs) path depth := by
  induction xs generalizing i with
  | nil => rfl
  | cons x xs ih =>
    rw [findDottedInElems, ValueTree.named, findDottedInMembers, if_neg (dot_not_mem_indexKey i), ih]

variable {depth : Nat} {ms : List (JsString × JsValue)}

lemma findDottedInMembers_cons {k path : JsString} {v : JsValue} (h : findDottedInMembers ((k, v) :: ms) path depth = none) :
    dot ∉ k ∧ findAmbiguousDottedArgKey v (path ++ dot :: k) (depth + 1) = none ∧
      findDottedInMembers ms path depth = none := by
  rw [findDottedInMembers] at h
  split at h
  · cases h
  · next hdot =>
    rw [Option.or_eq_none_iff] at h
    exact ⟨hdot, h⟩

/-! ## The walk is a fold over the leaves -/

/-- The scalar case of the walk, for a leaf below `base`. -/
def visit (P : AdapterPlatform) (base : JsString) (depth : Nat) (st : Flattened)
    (l : List JsString × JsValue) : Flattened :=
  flattenArgsToPolicyInputs P l.2 (KeyPath.spell dot base l.1) (depth + l.1.length) st

variable {st : Flattened}

lemma flatten_of_spent (h : st.spent depth = true) (v : JsValue)
    (path : JsString) : flattenArgsToPolicyInputs P v path depth st = st := by
  rw [flattenArgsToPolicyInputs.eq_def, if_pos h]

lemma spent_add (h : st.spent depth = true) (n : Nat) : st.spent (depth + n) = true := by
  simp only [Flattened.spent, Bool.or_eq_true, decide_eq_true_eq] at h ⊢
  omega

lemma spent_of_count (h : MAX_ARGS_FLATTEN_ENTRIES ≤ st.count) (depth : Nat) :
    st.spent depth = true := by
  rw [Flattened.spent, decide_eq_true h, Bool.true_or]

/-- Once the budget is spent nothing more is written. -/
lemma foldl_visit_of_spent (h : st.spent depth = true)
    (base : JsString) (L : List (List JsString × JsValue)) :
    L.foldl (visit P base depth) st = st := by
  induction L with
  | nil => rfl
  | cons l L ih =>
    rw [List.foldl_cons, visit, flatten_of_spent (spent_add h _), ih]

lemma visit_under (base k : JsString) (depth : Nat) (st : Flattened) (l : List JsString × JsValue) :
    visit P base depth st (ValueTree.under k l) = visit P (base ++ dot :: k) (depth + 1) st l := by
  have hdepth : depth + (l.1.length + 1) = depth + 1 + l.1.length := by omega
  rw [visit, visit, ValueTree.under, KeyPath.spell_cons, List.length_cons, hdepth]

/-- The walk below `v`, wherever the names have no dots, is the fold over its leaves. -/
def FoldsLeaves (P : AdapterPlatform) (v : JsValue) : Prop :=
  ∀ base depth st, findAmbiguousDottedArgKey v base depth = none →
    flattenArgsToPolicyInputs P v base depth st =
      (ValueTree.leaves indexKey v).foldl (visit P base depth) st

lemma flattenMembers_eq_foldl
    (ih : ∀ m ∈ ms, FoldsLeaves P m.2) (base : JsString) (depth : Nat) (st : Flattened)
    (h : findDottedInMembers ms base depth = none) : flattenMembers P ms base depth st =
      (ValueTree.leaves indexKey (.obj ms)).foldl (visit P base depth) st := by
  induction ms generalizing st with
  | nil => rfl
  | cons m ms ihms =>
    obtain ⟨k, v⟩ := m
    obtain ⟨hdot, hv, hms⟩ := findDottedInMembers_cons h
    rw [flattenMembers]
    split
    · next hcount => rw [foldl_visit_of_spent (spent_of_count hcount depth)]
    · rw [ValueTree.leaves_obj_cons, List.foldl_append, List.foldl_map]
      simp only [visit_under]
      rw [← ih (k, v) (.head _) _ _ _ hv]
      exact ihms (fun m hm => ih m (.tail _ hm)) _ hms

/-- The object case of the induction; an array is the object with its elements as members. -/
lemma foldsLeaves_members {v : JsValue} (ih : ∀ m ∈ ms, FoldsLeaves P m.2)
    (hleaves : ValueTree.leaves indexKey v = ValueTree.leaves indexKey (.obj ms))
    (hflatten : ∀ base depth st, st.spent depth = false →
      flattenArgsToPolicyInputs P v base depth st = flattenMembers P ms base depth st)
    (hfind : ∀ base depth, depth ≤ MAX_ARGS_FLATTEN_DEPTH →
      findAmbiguousDottedArgKey v base depth = findDottedInMembers ms base depth) :
    FoldsLeaves P v := by
  intro base depth st hnone
  cases hspent : st.spent depth with
  | true => rw [flatten_of_spent hspent, foldl_visit_of_spent hspent]
  | false =>
    have hdepth : depth ≤ MAX_ARGS_FLATTEN_DEPTH := by
      simp only [Flattened.spent, Bool.or_eq_false_iff, decide_eq_false_iff_not] at hspent
      omega
    rw [hfind base depth hdepth] at hnone
    rw [hflatten base depth st hspent, hleaves, flattenMembers_eq_foldl ih base depth st hnone]

/-- **The walk is the fold of its scalar case over the leaves.** -/
lemma flatten_eq_foldl (v : JsValue) : FoldsLeaves P v := by
  induction v using ValueTree.ind with
  | arr xs ih =>
    refine foldsLeaves_members (fun m hm => ih m.2 (ValueTree.snd_mem_of_mem_named hm))
      (ValueTree.leaves_arr xs) ?_ ?_
    · intro base depth st hspent
      rw [flattenArgsToPolicyInputs, hspent, if_neg Bool.false_ne_true, flattenElems_eq]
    · intro base depth hdepth
      rw [findAmbiguousDottedArgKey, if_neg (Nat.not_lt.mpr hdepth), findDottedInElems_eq]
  | obj ms ih =>
    refine foldsLeaves_members ih rfl ?_ ?_
    · intro base depth st hspent
      rw [flattenArgsToPolicyInputs, hspent, if_neg Bool.false_ne_true]
    · intro base depth hdepth
      rw [findAmbiguousDottedArgKey, if_neg (Nat.not_lt.mpr hdepth)]
  | _ =>
    intro base depth st _
    rw [ValueTree.leaves, List.foldl_cons, List.foldl_nil, visit, KeyPath.spell_nil, List.length_nil,
      Nat.add_zero]

/-! ## Names without dots -/

/-- Within the depth bound the guard has seen every name. -/
lemma dotFree_of_mem_leaves (v : JsValue) : ∀ base depth,
    findAmbiguousDottedArgKey v base depth = none → ∀ l ∈ ValueTree.leaves indexKey v,
      depth + l.1.length ≤ MAX_ARGS_FLATTEN_DEPTH → ∀ step ∈ l.1, dot ∉ step := by
  have hmembers : ∀ ms : List (JsString × JsValue),
      (∀ m ∈ ms, ∀ base depth, findAmbiguousDottedArgKey m.2 base depth = none →
        ∀ l ∈ ValueTree.leaves indexKey m.2, depth + l.1.length ≤ MAX_ARGS_FLATTEN_DEPTH →
          ∀ step ∈ l.1, dot ∉ step) →
      ∀ base depth, findDottedInMembers ms base depth = none →
        ∀ l ∈ ValueTree.leaves indexKey (.obj ms), depth + l.1.length ≤ MAX_ARGS_FLATTEN_DEPTH →
          ∀ step ∈ l.1, dot ∉ step := by
    intro ms
    induction ms with
    | nil =>
      intro _ base depth _ l hl
      cases hl
    | cons m ms ihms =>
      intro ih base depth hnone l hl hdepth
      obtain ⟨k, v⟩ := m
      obtain ⟨hdot, hv, hms⟩ := findDottedInMembers_cons hnone
      rw [ValueTree.leaves_obj_cons, List.mem_append] at hl
      rcases hl with hl | hl
      · obtain ⟨l', hl', rfl⟩ := List.mem_map.mp hl
        intro step hstep
        rcases List.mem_cons.mp hstep with rfl | hstep
        · exact hdot
        · refine ih (k, v) (.head _) _ _ hv l' hl' ?_ step hstep
          have hlen : (ValueTree.under (k, v).1 l').1.length = l'.1.length + 1 := rfl
          omega
      · exact ihms (fun m hm => ih m (.tail _ hm)) base depth hms l hl hdepth
  induction v using ValueTree.ind with
  | arr xs ih =>
    intro base depth hnone l hl hdepth
    rw [findAmbiguousDottedArgKey, if_neg (by omega), findDottedInElems_eq] at hnone
    rw [ValueTree.leaves_arr] at hl
    exact hmembers _ (fun m hm => ih m.2 (ValueTree.snd_mem_of_mem_named hm)) base depth hnone l hl
      hdepth
  | obj ms ih =>
    intro base depth hnone l hl hdepth
    rw [findAmbiguousDottedArgKey, if_neg (by omega)] at hnone
    exact hmembers ms ih base depth hnone l hl hdepth
  | _ =>
    intro base depth _ l hl _ step hstep
    rw [ValueTree.leaves, List.mem_singleton] at hl
    rw [hl] at hstep
    cases hstep

/-! ## What the walk leaves in the table -/

/-- A leaf as a policy input; `null` and numbers past the range are none. -/
def projectLeaf (P : AdapterPlatform) : JsValue → Option JsValue
  | .str s => some (.str s)
  | .bool b => some (.bool b)
  | .num n => projectNumber P n
  | _ => none

variable {base : JsString}

/-- A leaf within the depth bound, at a path that is not in the table. -/
lemma visit_leaf {l : List JsString × JsValue}
    (hleaf : l.2.isLeaf = true) (hdepth : l.1.length ≤ MAX_ARGS_FLATTEN_DEPTH)
    (hcount : st.count < MAX_ARGS_FLATTEN_ENTRIES)
    (hfresh : st.out.get? (KeyPath.spell dot base l.1) = none) : visit P base 0 st l =
      match projectLeaf P l.2 with
      | some v => st.put (KeyPath.spell dot base l.1) v
      | none => st := by
  have hspent : st.spent (0 + l.1.length) = false := by
    simp only [Flattened.spent, Bool.or_eq_false_iff, decide_eq_false_iff_not]
    omega
  obtain ⟨path, v⟩ := l
  rw [visit, flattenArgsToPolicyInputs.eq_def, hspent, if_neg Bool.false_ne_true]
  cases v with
  | num n =>
    simp only [Flattened.putNumber, projectLeaf]
    cases projectNumber P n with
    | some w => rfl
    | none => simp [hfresh]
  | arr xs => cases hleaf
  | obj ms => cases hleaf
  | _ => rfl

/-- The leaves of a list that are policy inputs. -/
def projected (P : AdapterPlatform) (L : List (List JsString × JsValue)) :
    List (List JsString × JsValue) :=
  L.filterMap fun l => (projectLeaf P l.2).map fun v => (l.1, v)

/-- The entry of a leaf. -/
def spelled (base : JsString) (l : List JsString × JsValue) : JsString × JsValue :=
  (KeyPath.spell dot base l.1, l.2)

/-- The writes of a list of leaves with different paths: the first that fit are appended. -/
lemma entries_foldl_visit (base : JsString) (L : List (List JsString × JsValue)) :
    ∀ st : Flattened, (∀ l ∈ L, l.2.isLeaf = true ∧ l.1.length ≤ MAX_ARGS_FLATTEN_DEPTH) →
      (L.map fun l => KeyPath.spell dot base l.1).Nodup →
      (∀ l ∈ L, st.out.get? (KeyPath.spell dot base l.1) = none) →
      (L.foldl (visit P base 0) st).out.entries = st.out.entries ++
        ((projected P L).take (MAX_ARGS_FLATTEN_ENTRIES - st.count)).map (spelled base) := by
  induction L with
  | nil =>
    intro st _ _ _
    simp [projected]
  | cons l L ih =>
    intro st hleaves hnodup hfresh
    rw [List.map_cons, List.nodup_cons] at hnodup
    have hfreshL : ∀ l' ∈ L, st.out.get? (KeyPath.spell dot base l'.1) = none :=
      fun l' hl' => hfresh l' (.tail _ hl')
    have hleavesL := fun l' hl' => hleaves l' (List.mem_cons_of_mem l hl')
    by_cases hcount : MAX_ARGS_FLATTEN_ENTRIES ≤ st.count
    · have hspent : st.spent 0 = true := spent_of_count hcount 0
      rw [foldl_visit_of_spent hspent, Nat.sub_eq_zero_of_le hcount]
      simp
    have hvisit := visit_leaf (P := P) (hleaves l (.head _)).1
      (hleaves l (.head _)).2 (Nat.not_le.mp hcount) (hfresh l (.head _))
    rw [List.foldl_cons, hvisit]
    cases hproj : projectLeaf P l.2 with
    | none =>
      have hprojected : projected P (l :: L) = projected P L := by
        simp [projected, hproj]
      rw [hprojected]
      exact ih st hleavesL hnodup.2 hfreshL
    | some v =>
      have hprojected : projected P (l :: L) = (l.1, v) :: projected P L := by
        simp [projected, hproj]
      have hfresh' : ∀ l' ∈ L,
          (st.put (KeyPath.spell dot base l.1) v).out.get? (KeyPath.spell dot base l'.1) = none := by
        intro l' hl'
        rw [Flattened.put, Table.get?_set_of_ne]
        · exact hfreshL l' hl'
        · intro heq
          exact hnodup.1 (heq ▸ List.mem_map_of_mem (f := fun l => KeyPath.spell dot base l.1) hl')
      have hroom : MAX_ARGS_FLATTEN_ENTRIES - st.count =
          MAX_ARGS_FLATTEN_ENTRIES - (st.count + 1) + 1 := by omega
      have hentries : (st.put (KeyPath.spell dot base l.1) v).out.entries =
          st.out.entries ++ [(KeyPath.spell dot base l.1, v)] :=
        Table.entries_set_of_none (hfresh l (.head _)) v
      show (List.foldl _ (st.put (KeyPath.spell dot base l.1) v) L).out.entries = _
      rw [ih _ hleavesL hnodup.2 hfresh', hentries, hprojected, hroom, List.take_succ_cons,
        List.map_cons, List.append_assoc]
      rfl

/-- The leaves within the depth bound. -/
def reachable (args : JsValue) : List (List JsString × JsValue) :=
  (ValueTree.leaves indexKey args).filter fun l => l.1.length ≤ MAX_ARGS_FLATTEN_DEPTH

/-- The leaves of the arguments that the policy is shown, with the values it is shown. -/
def shownLeaves (P : AdapterPlatform) (args : JsValue) : List (List JsString × JsValue) :=
  (projected P (reachable args)).take MAX_ARGS_FLATTEN_ENTRIES

lemma foldl_visit_reachable (base : JsString) (st : Flattened) (args : JsValue) :
    (ValueTree.leaves indexKey args).foldl (visit P base 0) st =
      (reachable args).foldl (visit P base 0) st := by
  rw [reachable, List.foldl_filter]
  congr 1
  funext st l
  split
  · rfl
  · next hdeep =>
    refine flatten_of_spent ?_ _ _
    simp only [decide_eq_true_eq] at hdeep
    rw [Flattened.spent, decide_eq_true (show MAX_ARGS_FLATTEN_DEPTH < 0 + l.1.length by omega),
      Bool.or_true]

/-- Different leaves within the depth bound have different spellings. -/
lemma nodup_spell_reachable {args : JsValue} (hdistinct : args.Distinct)
    (hguard : findAmbiguousDottedArgKey args base 0 = none) :
    ((reachable args).map fun l => KeyPath.spell dot base l.1).Nodup := by
  have hpaths : ((reachable args).map Prod.fst).Nodup :=
    (ValueTree.nodup_leaves indexKey_injective hdistinct).sublist (List.filter_sublist.map _)
  have hfree : ∀ path ∈ (reachable args).map Prod.fst, ∀ step ∈ path, dot ∉ step := by
    intro path hpath
    obtain ⟨l, hl, rfl⟩ := List.mem_map.mp hpath
    obtain ⟨hl, hdepth⟩ := List.mem_filter.mp hl
    refine dotFree_of_mem_leaves args base 0 hguard l hl ?_
    rw [Nat.zero_add]
    exact of_decide_eq_true hdepth
  rw [show (fun l : List JsString × JsValue => KeyPath.spell dot base l.1) =
    KeyPath.spell dot base ∘ Prod.fst from rfl, ← List.map_map]
  exact List.Nodup.map_on (fun p hp q hq h => KeyPath.spell_injective (hfree p hp) (hfree q hq) h)
    hpaths

/-- **What the walk leaves in the table**: the leaves that are shown, in the order of the walk,
each under its own path. -/
theorem entries_flatten {args : JsValue} (hdistinct : args.Distinct)
    (hguard : findAmbiguousDottedArgKey args base 0 = none) :
    (flattenArgsToPolicyInputs P args base 0 {}).out.entries =
      (shownLeaves P args).map (spelled base) := by
  rw [flatten_eq_foldl args base 0 {} hguard, foldl_visit_reachable,
    entries_foldl_visit base (reachable args) {} ?_ (nodup_spell_reachable hdistinct hguard)
      (fun _ _ => rfl)]
  · rfl
  · intro l hl
    obtain ⟨hl, hdepth⟩ := List.mem_filter.mp hl
    exact ⟨ValueTree.isLeaf_of_mem_leaves args l hl, of_decide_eq_true hdepth⟩

end proofs

end NoaMandate.Adapter
