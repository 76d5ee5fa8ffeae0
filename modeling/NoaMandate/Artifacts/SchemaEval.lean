import NoaMandate.Lib.Canonical
import NoaMandate.Lib.Pipeline

/-!
# The schema evaluator

A model of `schema-eval.ts`: the evaluator of the JSON-Schema subset in which the artifact schemas
are written.  A schema is itself a JSON value.  The evaluator collects errors and throws only on a
reference it cannot follow, a pattern that is no regular expression or a node that is no schema; its
entry point turns a throw into an error.  A chain of references may be circular, so the evaluation
runs on the stack depth of the platform and throws when that is used up.

What the verifiers rest on is closure: a value with a member that a schema does not admit is never
accepted (`evalSchema_ne_nil_of_closedTo`).  What an accepted value looks like inside is read off the
schema node by node, with one lemma per keyword about `Admits`.
-/

namespace NoaMandate

open Pipeline

/-- What the evaluator takes from its platform. -/
structure SchemaPlatform where
  /-- `new RegExp(pattern).test(value)`; `none` where the pattern is no regular expression. -/
  regexTest : String → String → Option Bool
  /-- The number of nested calls the stack holds. -/
  stackDepth : Nat

namespace SchemaEval

/-! ## Texts -/

/-- `String(v)` of a value read from a document, in refusal texts. -/
def shown : Option Json → String
  | none => "undefined"
  | some (.str s) => s
  | some v => String.ofList (Json.render v)

/-- `JSON.stringify(v)` of a value read from a document, in refusal texts. -/
def quoted : Option Json → String
  | none => "undefined"
  | some v => String.ofList (Json.render v)

/-- A value the source counts as true. -/
def truthy? : Option Json → Option Json
  | some .null => none
  | some (.bool false) => none
  | some (.num 0) => none
  | some (.str "") => none
  | v => v

/-! ## The keywords of one node -/

def typeName : Json → String
  | .null => "null"
  | .arr _ => "array"
  | .obj _ => "object"
  | .str _ => "string"
  | .num _ => "number"
  | .bool _ => "boolean"

def matchesType (v : Json) : Json → Bool
  | .str "object" => v.isObj
  | .str "array" => match v with | .arr _ => true | _ => false
  | .str "string" => v.asStr?.isSome
  | .str "integer" => match v with | .num n => n.natAbs ≤ Json.maxSafe | _ => false
  | .str "number" => match v with | .num _ => true | _ => false
  | .str "boolean" => match v with | .bool _ => true | _ => false
  | .str "null" => match v with | .null => true | _ => false
  | _ => false

/-- The error of a type mismatch, after which no other keyword is looked at. -/
def typeError (schema value : Json) (path : String) : Option String :=
  (schema.get? "type").bind fun t =>
    let types := match t with | .arr ts => ts | t => [t]
    if types.any (matchesType value) then none
    else some (path ++ ": expected type " ++ "|".intercalate (types.map fun t => shown (some t)) ++
      ", got " ++ typeName value)

def constErrors (schema value : Json) (path : String) : List String :=
  match schema.get? "const" with
  | none => []
  | some c =>
    if Json.same (some value) (some c) then [] else [path ++ ": must equal " ++ quoted (some c)]

def enumErrors (schema value : Json) (path : String) : List String :=
  match schema.get? "enum" with
  | some (.arr cs) =>
    if cs.any fun c => Json.same (some c) (some value) then []
    else [path ++ ": must be one of " ++ quoted (some (.arr cs))]
  | _ => []

variable (S : SchemaPlatform)

def patternErrors (schema value : Json) (path : String) : Except String (List String) :=
  match schema.getStr? "pattern", value with
  | some p, .str s => do
    let ok ← demand (S.regexTest p s) ("Invalid regular expression: /" ++ p ++ "/")
    return if ok then [] else [path ++ ": does not match /" ++ p ++ "/"]
  | _, _ => .ok []

def boundErrors (schema value : Json) (path : String) : List String :=
  match value with
  | .num n =>
    (match schema.get? "minimum" with
      | some (.num lo) => if n < lo then [path ++ ": < minimum " ++ toString lo] else []
      | _ => []) ++
    (match schema.get? "maximum" with
      | some (.num hi) => if hi < n then [path ++ ": > maximum " ++ toString hi] else []
      | _ => [])
  | _ => []

def minItemsErrors (schema value : Json) (path : String) : List String :=
  match value, schema.get? "minItems" with
  | .arr xs, some (.num k) =>
    if (xs.length : Int) < k then
      [path ++ ": needs ≥" ++ toString k ++ " items, got " ++ toString xs.length]
    else []
  | _, _ => []

/-- The names a schema requires; iterating anything but a list throws. -/
def requiredNames (schema : Json) : Except String (List Json) :=
  match schema.get? "required" with
  | none => .ok []
  | some .null => .ok []
  | some (.arr rs) => .ok rs
  | some _ => .error "required is not iterable"

def missingErrors (required : List Json) (value : Json) (path : String) : List String :=
  required.filterMap fun r =>
    if (value.get? (shown (some r))).isSome then none
    else some (path ++ ": missing required \"" ++ shown (some r) ++ "\"")

/-- Exactly one branch must report nothing. -/
def oneOfErrors (path : String) (results : List (List String)) : List String :=
  let matched := results.countP List.isEmpty
  if matched = 1 then []
  else
    [path ++ ": matched " ++ toString matched ++ " oneOf branches (expected exactly 1)" ++
      match (results.filter fun r => !r.isEmpty).getLast? with
      | some (e :: _) => if matched = 0 then " — e.g. " ++ e else ""
      | _ => ""]

/-! ## References -/

def isRefChar (c : Char) : Bool := c.isAlphanum || c = '_' || c = '-'

/-- The name in a reference `#/$defs/<name>`. -/
def refName (ref : String) : Option String :=
  let cs := Text.chars ref
  let name := cs.drop 8
  if cs.take 8 = Text.chars "#/$defs/" ∧ name ≠ [] ∧ name.all isRefChar then
    some (String.ofList name)
  else none

def resolveRef (root : Json) (ref : String) : Except String Json := do
  let name ← demand (refName ref)
    ("schema-eval: unsupported $ref \"" ++ ref ++ "\" (only #/$defs/<name>)")
  demand (truthy? (root.path? ["$defs", name]))
    ("schema-eval: $ref target not found \"" ++ ref ++ "\"")

/-! ## The recursion -/

/-- The elements of a list under the `items` schema; `sub` evaluates a value under a schema. -/
def itemErrors (sub : Json → Json → String → Except String (List String)) (schema value : Json)
    (path : String) : Except String (List String) :=
  let under (items : Json) (xs : List Json) : Except String (List String) :=
    (xs.zipIdx.mapM fun x => sub items x.1 (path ++ "[" ++ toString x.2 ++ "]")).map List.flatten
  match value, schema.get? "items" with
  | .arr xs, some (.obj ms) => under (.obj ms) xs
  | .arr xs, some (.arr ss) => under (.arr ss) xs
  | _, _ => .ok []

/-- One member of an object, under its own schema or the one for the members not listed. -/
def memberErrors (sub : Json → Json → String → Except String (List String)) (schema : Json)
    (path : String) (m : String × Json) : Except String (List String) :=
  match schema.path? ["properties", m.1] with
  | some s => sub s m.2 (path ++ "." ++ m.1)
  | none =>
    match schema.get? "additionalProperties" with
    | some (.bool false) => .ok [path ++ ": unknown property \"" ++ m.1 ++ "\""]
    | some (.obj ms) => sub (.obj ms) m.2 (path ++ "." ++ m.1)
    | some (.arr ss) => sub (.arr ss) m.2 (path ++ "." ++ m.1)
    | _ => .ok []

/-- The members of an object. -/
def objectErrors (sub : Json → Json → String → Except String (List String)) (schema value : Json)
    (path : String) : Except String (List String) :=
  match value with
  | .obj ms => do
    let required ← requiredNames schema
    let members ← ms.mapM (memberErrors sub schema path)
    return missingErrors required value path ++ members.flatten
  | _ => .ok []

/-- The keywords of a node that is neither a reference nor a choice. -/
def keywordErrors (sub : Json → Json → String → Except String (List String))
    (schema value : Json) (path : String) : Except String (List String) :=
  match typeError schema value path with
  | some e => .ok [e]
  | none => do
    refuse schema.isScalar
      ("Cannot use 'in' operator to search for 'const' in " ++ shown (some schema))
    let pattern ← patternErrors S schema value path
    let items ← itemErrors sub schema value path
    let members ← objectErrors sub schema value path
    return constErrors schema value path ++ enumErrors schema value path ++ pattern ++
      boundErrors schema value path ++ minItemsErrors schema value path ++ items ++ members

/-- The errors of a value under a node of the schema `root`. Source: `schema-eval.ts` `evalNode`. -/
def evalNode (S : SchemaPlatform) (root : Json) :
    Nat → Json → Json → String → Except String (List String)
  | 0, _, _, _ => .error "Maximum call stack size exceeded"
  | depth + 1, schema, value, path =>
    match schema, schema.getStr? "$ref", schema.get? "oneOf" with
    | .null, _, _ => .error "Cannot read properties of null (reading '$ref')"
    | _, some ref, _ => do
      let target ← resolveRef root ref
      evalNode S root depth target value path
    | _, none, some (.arr subs) =>
      (subs.mapM fun s => evalNode S root depth s value path).map (oneOfErrors path)
    | _, none, _ =>
      keywordErrors S (fun s v p => evalNode S root depth s v p) schema value path

/-- The errors of a value under a schema; none means that it is accepted.
Source: `schema-eval.ts` `evalSchema`. -/
def evalSchema (schema value : Json) : List String :=
  match evalNode S schema S.stackDepth schema value "$" with
  | .ok errors => errors
  | .error message => ["schema-eval error: " ++ message]

variable {S : SchemaPlatform} {root schema value w : Json} {k path : String} {errors : List String}

/-! ## One step of the evaluator -/

/-- The results of a pipeline that went through a list, element by element. -/
lemma map_of_mapM {α β : Type} {f : α → Except String β} {xs : List α} {ys : List β}
    (h : xs.mapM f = .ok ys) : xs.map f = ys.map .ok := by
  induction xs generalizing ys with
  | nil =>
    obtain rfl : [] = ys := by simpa using h
    rfl
  | cons x xs ih =>
    simp only [List.mapM_cons, ok_iff] at h
    obtain ⟨y, hy, ys, hys, rfl⟩ := h
    rw [List.map_cons, List.map_cons, hy, ih hys]

lemma exists_mem_of_mapM {α β : Type} {f : α → Except String β} {x : α} (xs : List α) {ys : List β}
    (h : xs.mapM f = .ok ys) (hx : x ∈ xs) : ∃ y ∈ ys, f x = .ok y := by
  have hmem := List.mem_map_of_mem (f := f) hx
  rw [map_of_mapM h] at hmem
  simpa [eq_comm] using hmem

lemma exists_of_mem_mapM {α β : Type} {f : α → Except String β} {y : β} (xs : List α) {ys : List β}
    (h : xs.mapM f = .ok ys) (hy : y ∈ ys) : ∃ x ∈ xs, f x = .ok y := by
  have hmem := List.mem_map_of_mem (f := Except.ok (ε := String)) hy
  rw [← map_of_mapM h] at hmem
  simpa using hmem

section step

variable {depth : Nat} (h : evalNode S root depth schema value path = .ok errors)
include h

lemma evalNode_ref {ref : String} {target : Json} (href : schema.getStr? "$ref" = some ref)
    (htarget : resolveRef root ref = .ok target) :
    ∃ d, evalNode S root d target value path = .ok errors := by
  cases depth with
  | zero => cases h
  | succ depth =>
    unfold evalNode at h
    split at h
    · cases h
    · rename_i hsome
      obtain rfl := Option.mem_unique href hsome
      simp only [htarget, ok_bind] at h
      exact ⟨depth, h⟩
    · exact absurd (href.symm.trans ‹_›) (by simp)
    · exact absurd (href.symm.trans ‹_›) (by simp)

variable (href : schema.getStr? "$ref" = none)
include href

lemma evalNode_oneOf {subs : List Json} (hone : schema.get? "oneOf" = some (.arr subs)) :
    ∃ d results, (subs.mapM fun s => evalNode S root d s value path) = .ok results ∧
      oneOfErrors path results = errors := by
  cases depth with
  | zero => cases h
  | succ depth =>
    unfold evalNode at h
    split at h
    · cases h
    · exact absurd (href.symm.trans ‹_›) (by simp)
    · rename_i hone'
      obtain rfl := Json.arr.inj (Option.mem_unique hone hone')
      exact ⟨depth, map_eq_ok_iff.mp h⟩
    · rename_i hother; exact absurd hone (hother subs)

lemma evalNode_plain (hone : schema.get? "oneOf" = none) :
    ∃ d, keywordErrors S (fun s v p => evalNode S root d s v p) schema value path = .ok errors := by
  cases depth with
  | zero => cases h
  | succ depth =>
    unfold evalNode at h
    split at h
    · cases h
    · exact absurd (href.symm.trans ‹_›) (by simp)
    · rename_i hone'; exact absurd (hone.symm.trans hone') (by simp)
    · exact ⟨depth, h⟩

end step

/-! ## Closed schemas -/

/-- A node that is neither a reference nor a choice and does not admit the member `k`. -/
def closedNode (k : String) (schema : Json) : Bool :=
  (schema.getStr? "$ref").isNone && (schema.get? "oneOf").isNone &&
    Json.same (schema.get? "additionalProperties") (some (.bool false)) &&
    (schema.path? ["properties", k]).isNone

/-- A schema that does not admit the member `k`: a closed node, or a choice among closed nodes. -/
def closedTo (k : String) (schema : Json) : Bool :=
  closedNode k schema ||
    (schema.getStr? "$ref").isNone &&
      match schema.get? "oneOf" with
      | some (.arr subs) => subs.all (closedNode k)
      | _ => false

/-- A closed node reports a member it does not admit. -/
lemma objectErrors_ne_nil {sub : Json → Json → String → Except String (List String)}
    (hprops : schema.path? ["properties", k] = none)
    (hadd : schema.get? "additionalProperties" = some (.bool false))
    (hk : value.get? k = some w) (h : objectErrors sub schema value path = .ok errors) :
    errors ≠ [] := by
  unfold objectErrors at h
  split at h
  · rename_i ms
    simp only [ok_iff] at h
    obtain ⟨_, _, results, hresults, rfl⟩ := h
    obtain ⟨r, hr, hrk⟩ := exists_mem_of_mapM ms hresults (Assoc.mem_of_lookup hk)
    have hrne : r ≠ [] := by
      rw [memberErrors, hprops, hadd] at hrk
      cases hrk
      simp
    intro hnil
    obtain ⟨-, hflat⟩ := List.append_eq_nil_iff.mp hnil
    exact hrne (List.flatten_eq_nil_iff.mp hflat r hr)
  · -- only an object has members
    cases value <;> simp_all [Json.get?]

lemma evalNode_ne_nil_of_closedNode {depth : Nat} (hclosed : closedNode k schema = true)
    (hk : value.get? k = some w) (h : evalNode S root depth schema value path = .ok errors) :
    errors ≠ [] := by
  simp only [closedNode, Bool.and_eq_true, Option.isNone_iff_eq_none] at hclosed
  obtain ⟨⟨⟨href, hone⟩, hadd⟩, hprops⟩ := hclosed
  obtain ⟨d, h⟩ := evalNode_plain h href hone
  unfold keywordErrors at h
  split at h
  · cases h
    simp
  · simp only [ok_iff] at h
    obtain ⟨_, _, _, _, _, _, members, hmembers, rfl⟩ := h
    intro hnil
    exact objectErrors_ne_nil hprops (Json.eq_of_same hadd) hk hmembers
      (List.append_eq_nil_iff.mp hnil).2

lemma evalNode_ne_nil_of_closedTo {depth : Nat} (hclosed : closedTo k schema = true)
    (hk : value.get? k = some w) (h : evalNode S root depth schema value path = .ok errors) :
    errors ≠ [] := by
  rcases Bool.or_eq_true_iff.mp hclosed with hnode | hchoice
  · exact evalNode_ne_nil_of_closedNode hnode hk h
  obtain ⟨href, hbranches⟩ := Bool.and_eq_true_iff.mp hchoice
  split at hbranches
  · rename_i subs hone
    rw [Option.isNone_iff_eq_none] at href
    obtain ⟨d, results, hresults, rfl⟩ := evalNode_oneOf h href hone
    -- every branch reports the member, so none of them matches
    have hnone : results.countP List.isEmpty = 0 := by
      refine List.countP_eq_zero.mpr fun r hr hempty => ?_
      obtain ⟨s, hs, hrun⟩ := exists_of_mem_mapM subs hresults hr
      exact evalNode_ne_nil_of_closedNode (List.all_eq_true.mp hbranches s hs) hk hrun
        (List.isEmpty_iff.mp hempty)
    simp [oneOfErrors, hnone]
  · cases hbranches

/-- A schema that does not admit a member accepts no value with that member. -/
theorem evalSchema_ne_nil_of_closedTo (hclosed : closedTo k schema = true)
    (hk : value.get? k = some w) : evalSchema S schema value ≠ [] := by
  unfold evalSchema
  split
  · rename_i errors h
    exact evalNode_ne_nil_of_closedTo hclosed hk h
  · simp

/-! ## What an accepted value satisfies -/

/-- The evaluator accepts the value under a node of the schema `root`. -/
def Admits (S : SchemaPlatform) (root schema value : Json) : Prop :=
  ∃ depth path, evalNode S root depth schema value path = .ok []

/-- A node that is neither a reference nor a choice. -/
def plainNode (schema : Json) : Bool :=
  (schema.getStr? "$ref").isNone && (schema.get? "oneOf").isNone

lemma admits_of_evalSchema (h : evalSchema S schema value = []) : Admits S schema schema value := by
  unfold evalSchema at h
  split at h
  · rename_i errors hrun
    subst h
    exact ⟨_, _, hrun⟩
  · cases h

lemma Admits.ref {ref : String} {target : Json} (h : Admits S root schema value)
    (href : schema.getStr? "$ref" = some ref) (htarget : resolveRef root ref = .ok target) :
    Admits S root target value := by
  obtain ⟨depth, path, hrun⟩ := h
  obtain ⟨d, hrun⟩ := evalNode_ref hrun href htarget
  exact ⟨d, path, hrun⟩

lemma Admits.oneOf {subs : List Json} (h : Admits S root schema value)
    (href : schema.getStr? "$ref" = none) (hone : schema.get? "oneOf" = some (.arr subs)) :
    ∃ s ∈ subs, Admits S root s value := by
  obtain ⟨depth, path, hrun⟩ := h
  obtain ⟨d, results, hresults, hnil⟩ := evalNode_oneOf hrun href hone
  have hmatched : results.countP List.isEmpty = 1 := by
    by_contra hne
    simp [oneOfErrors, hne] at hnil
  obtain ⟨r, hr, hempty⟩ := List.countP_pos_iff.mp (hmatched ▸ Nat.one_pos)
  obtain ⟨s, hs, hsub⟩ := exists_of_mem_mapM subs hresults hr
  rw [List.isEmpty_iff.mp hempty] at hsub
  exact ⟨s, hs, d, path, hsub⟩

variable (h : Admits S root schema value) (hplain : plainNode schema = true)

include h hplain in
/-- The keywords of a plain node report nothing. -/
lemma Admits.plain :
    ∃ depth path, typeError schema value path = none ∧ constErrors schema value path = [] ∧
      enumErrors schema value path = [] ∧
      itemErrors (fun s v p => evalNode S root depth s v p) schema value path = .ok [] ∧
      objectErrors (fun s v p => evalNode S root depth s v p) schema value path = .ok [] := by
  obtain ⟨href, hone⟩ := Bool.and_eq_true_iff.mp hplain
  rw [Option.isNone_iff_eq_none] at href hone
  obtain ⟨depth, path, hrun⟩ := h
  obtain ⟨d, hrun⟩ := evalNode_plain hrun href hone
  unfold keywordErrors at hrun
  split at hrun
  · exact absurd (Except.ok.inj hrun) (by simp)
  · rename_i htype
    simp only [ok_iff] at hrun
    obtain ⟨_, -, pattern, -, items, hitems, members, hmembers, hnil⟩ := hrun
    simp only [List.append_eq_nil_iff] at hnil
    obtain ⟨⟨⟨⟨⟨⟨hconst, henum⟩, -⟩, -⟩, -⟩, rfl⟩, rfl⟩ := hnil
    exact ⟨d, path, htype, hconst, henum, hitems, hmembers⟩

include h hplain in
lemma Admits.enum {cs : List Json} (henum : schema.get? "enum" = some (.arr cs)) :
    value ∈ cs := by
  obtain ⟨_, _, -, -, herrors, -, -⟩ := h.plain hplain
  simp only [enumErrors, henum] at herrors
  split at herrors
  · rename_i hany
    obtain ⟨c, hc, hsame⟩ := List.any_eq_true.mp hany
    obtain rfl := Option.some.inj (Json.eq_of_same hsame)
    exact hc
  · cases herrors

include h hplain in
/-- A value of one admitted type has that type. -/
lemma Admits.type {t : String}
    (htype : schema.get? "type" = some (.str t)) : matchesType value (.str t) = true := by
  obtain ⟨_, path, hnone, -, -, -, -⟩ := h.plain hplain
  rw [typeError, htype, Option.bind_some] at hnone
  simp only [List.any_cons, List.any_nil, Bool.or_false] at hnone
  by_contra hne
  rw [if_neg hne] at hnone
  cases hnone

lemma Admits.items {ms : List (String × Json)} {xs : List Json} {x : Json}
    (h : Admits S root schema (.arr xs)) (hplain : plainNode schema = true)
    (hitems : schema.get? "items" = some (.obj ms)) (hx : x ∈ xs) : Admits S root (.obj ms) x := by
  obtain ⟨depth, path, -, -, -, herrors, -⟩ := h.plain hplain
  simp only [itemErrors, hitems] at herrors
  obtain ⟨results, hresults, hflat⟩ := map_eq_ok_iff.mp herrors
  obtain ⟨i, hi, rfl⟩ := List.mem_iff_getElem.mp hx
  have hmem : (xs[i], i) ∈ xs.zipIdx := by
    rw [List.mk_mem_zipIdx_iff_getElem?]
    exact List.getElem?_eq_getElem hi
  obtain ⟨r, hr, hrun⟩ := exists_mem_of_mapM xs.zipIdx hresults hmem
  rw [List.flatten_eq_nil_iff.mp hflat r hr] at hrun
  exact ⟨depth, _, hrun⟩

include h hplain in
lemma Admits.member {s : Json}
    (hprop : schema.path? ["properties", k] = some s) (hk : value.get? k = some w) :
    Admits S root s w := by
  obtain ⟨depth, path, -, -, -, -, herrors⟩ := h.plain hplain
  cases value with
  | obj ms =>
    simp only [objectErrors, ok_iff] at herrors
    obtain ⟨_, -, results, hresults, hnil⟩ := herrors
    obtain ⟨r, hr, hrun⟩ := exists_mem_of_mapM ms hresults (Assoc.mem_of_lookup hk)
    rw [memberErrors, hprop,
      List.flatten_eq_nil_iff.mp (List.append_eq_nil_iff.mp hnil).2 r hr] at hrun
    exact ⟨depth, _, hrun⟩
  | _ => simp [Json.get?] at hk

include h hplain in
lemma Admits.required {rs : List Json} (hobj : value.isObj = true)
    (hreq : schema.get? "required" = some (.arr rs)) (hk : Json.str k ∈ rs) :
    ∃ w, value.get? k = some w := by
  obtain ⟨depth, path, -, -, -, -, herrors⟩ := h.plain hplain
  cases value with
  | obj ms =>
    simp only [objectErrors, requiredNames, hreq, ok_iff] at herrors
    obtain ⟨_, hrs, _, -, hnil⟩ := herrors
    cases hrs
    have hnone := List.filterMap_eq_nil_iff.mp (List.append_eq_nil_iff.mp hnil).1 _ hk
    refine Option.isSome_iff_exists.mp ?_
    by_contra hne
    rw [shown, if_neg hne] at hnone
    cases hnone
  | _ => cases hobj

end SchemaEval

end NoaMandate
