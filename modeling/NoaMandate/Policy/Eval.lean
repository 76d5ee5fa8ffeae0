import NoaMandate.Kernel.SafeJsonSound
import NoaMandate.Kernel.Receipt
import Mathlib.Data.List.Dedup

/-!
# The reference policy evaluator

A model of `policy/dsl.ts`, `policy/validate.ts` and `policy/eval.ts`.  A policy is a list of rules
with a verdict each; the first rule whose condition holds of the inputs decides, and without one the
verdict is DENY.  `validatePolicyParsed` returns the policy a document is read as; the texts of its
errors are left out.  The condition of a rule is a tree of connectives over tests of one input each.

A comparison of values of different types throws, and a throw ends the whole evaluation with DENY.
What a throw and a fired rule report are different constructors of `Fired`, although a rule may be
called `eval-error` and then reports that text.

* Evaluation depends on the inputs only through the tests (`matchCondition_congr`), so a policy reads
  its read set and nothing else (`evaluate_reads_only_readSet`).
* A policy that is tightened allows no more than before (`evaluate_of_tightened`).
-/

namespace NoaMandate

namespace PolicyDsl

/-! ## The language -/

inductive Scalar where
  | str (s : String)
  | num (n : Int)
  | bool (b : Bool)
  deriving DecidableEq

inductive ScalarType where
  | string
  | number
  | boolean
  deriving DecidableEq

/-- The `typeof` of a scalar. -/
def Scalar.type : Scalar → ScalarType
  | .str _ => .string
  | .num _ => .number
  | .bool _ => .boolean

inductive CmpOp where
  | eq
  | ne
  | lt
  | le
  | gt
  | ge
  deriving DecidableEq

/-- A test of one input. -/
inductive Test where
  | cmp (op : CmpOp) (value : Scalar)
  | isIn (values : List Scalar)
  | present
  | absent
  deriving DecidableEq

inductive Condition where
  | test (path : String) (test : Test)
  | and (clauses : List Condition)
  | or (clauses : List Condition)
  | not (clause : Condition)

inductive Verdict where
  | ALLOW
  | DENY
  deriving DecidableEq

/-- A rule; its members `when` and `then`. -/
structure Rule where
  id : String
  condition : Condition
  verdict : Verdict

structure Policy where
  id : String
  requiredPaths : List String
  rules : List Rule

def POLICY_SPEC : String := "noa.policy/0.2"

def DEFAULT_VERDICT : Verdict := .DENY

/-! ## Validation -/

/-- A string, a boolean or a safe integer. Source: `isScalar`. -/
def asScalar? : Json → Option Scalar
  | .str s => some (.str s)
  | .bool b => some (.bool b)
  | .num n => if n.natAbs ≤ Json.maxSafe then some (.num n) else none
  | _ => none

/-- A non-empty string. -/
def nonEmpty? : Json → Option String
  | .str s => if s = "" then none else some s
  | _ => none

def items? : Json → Option (List Json)
  | .arr xs => some xs
  | _ => none

def noExtraKeys (allowed : List String) (v : Json) : Bool := v.keys.all allowed.contains

def CmpOp.ofText? : String → Option CmpOp
  | "eq" => some .eq
  | "ne" => some .ne
  | "lt" => some .lt
  | "le" => some .le
  | "gt" => some .gt
  | "ge" => some .ge
  | _ => none

/-- The test `op` of a condition without clauses; the values of `in` are of one type. -/
def readTest (op : String) (c : Json) : Option Test := do
  if op = "exists" then
    guard (noExtraKeys ["op", "path"] c)
    return .present
  else if op = "absent" then
    guard (noExtraKeys ["op", "path"] c)
    return .absent
  else if op = "in" then
    guard (noExtraKeys ["op", "path", "values"] c)
    let values ← (← (← c.get? "values") |> items?).mapM asScalar?
    guard (values ≠ [] ∧ ∀ v ∈ values, ∀ w ∈ values, v.type = w.type)
    return .isIn values
  else
    let op ← CmpOp.ofText? op
    guard (noExtraKeys ["op", "path", "value"] c)
    return .cmp op (← (← c.get? "value") |> asScalar?)

/-- The condition of a document, which is nested less than `fuel` deep. Source: `validateCondition`. -/
def readCondition : Nat → Json → Option Condition
  | 0, _ => none
  | fuel + 1, c => do
    let op ← c.getStr? "op"
    if op = "and" ∨ op = "or" then
      guard (noExtraKeys ["op", "clauses"] c)
      let clauses ← (← (← c.get? "clauses") |> items?).mapM (readCondition fuel)
      guard (!clauses.isEmpty)
      return if op = "and" then .and clauses else .or clauses
    else if op = "not" then
      guard (noExtraKeys ["op", "clause"] c)
      return .not (← readCondition fuel (← c.get? "clause"))
    else
      let path ← (← c.get? "path") |> nonEmpty?
      return .test path (← readTest op c)

def Verdict.ofJson? : Json → Option Verdict
  | .str "ALLOW" => some .ALLOW
  | .str "DENY" => some .DENY
  | _ => none

def readRule (r : Json) : Option Rule := do
  guard (noExtraKeys ["id", "when", "then"] r)
  let id ← (r.get? "id").bind nonEmpty?
  let verdict ← (r.get? "then").bind Verdict.ofJson?
  let condition ← (r.get? "when").bind (readCondition (MAX_DEPTH + 1))
  return { id, condition, verdict }

/-- The policy of a document, if the validator accepts it. Source: `validatePolicyParsed`. -/
def validatePolicyParsed (p : Json) : Option Policy := do
  guard (noExtraKeys ["spec", "id", "requiredPaths", "rules"] p)
  guard (p.getStr? "spec" = some POLICY_SPEC)
  let id ← (p.get? "id").bind nonEmpty?
  let requiredPaths ← ((p.get? "requiredPaths").bind items?).bind (List.mapM nonEmpty?)
  let rules ← ((p.get? "rules").bind items?).bind (List.mapM readRule)
  guard (rules.map Rule.id).Nodup
  guard (canonicalize p).isSome
  return { id, requiredPaths, rules }

lemma readRule_eq_some_iff {r : Json} {q : Rule} : readRule r = some q ↔
    noExtraKeys ["id", "when", "then"] r = true ∧ (r.get? "id").bind nonEmpty? = some q.id ∧
      (r.get? "then").bind Verdict.ofJson? = some q.verdict ∧
      (r.get? "when").bind (readCondition (MAX_DEPTH + 1)) = some q.condition := by
  obtain ⟨id, condition, verdict⟩ := q
  unfold readRule
  generalize (r.get? "id").bind nonEmpty? = a
  generalize (r.get? "then").bind Verdict.ofJson? = b
  generalize (r.get? "when").bind (readCondition (MAX_DEPTH + 1)) = c
  by_cases hkeys : noExtraKeys ["id", "when", "then"] r = true <;> cases a <;> cases b <;> cases c <;>
    simp [hkeys, guard, and_comm]

lemma validatePolicyParsed_eq_some_iff {p : Json} {q : Policy} : validatePolicyParsed p = some q ↔
    noExtraKeys ["spec", "id", "requiredPaths", "rules"] p = true ∧
      p.getStr? "spec" = some POLICY_SPEC ∧ (p.get? "id").bind nonEmpty? = some q.id ∧
      ((p.get? "requiredPaths").bind items?).bind (List.mapM nonEmpty?) = some q.requiredPaths ∧
      ((p.get? "rules").bind items?).bind (List.mapM readRule) = some q.rules ∧
      (q.rules.map Rule.id).Nodup ∧ (canonicalize p).isSome := by
  obtain ⟨id, paths, rules⟩ := q
  unfold validatePolicyParsed
  generalize (p.get? "id").bind nonEmpty? = a
  generalize ((p.get? "requiredPaths").bind items?).bind (List.mapM nonEmpty?) = b
  generalize ((p.get? "rules").bind items?).bind (List.mapM readRule) = c
  generalize (canonicalize p).isSome = d
  by_cases hkeys : noExtraKeys ["spec", "id", "requiredPaths", "rules"] p = true <;>
    by_cases hspec : p.getStr? "spec" = some POLICY_SPEC <;> cases a <;> cases b <;> cases c <;>
    cases d <;> simp [hkeys, hspec, guard]
  split_ifs <;> grind

/-! ## The read set -/

mutual

/-- The tests of a condition, with the paths they look at. -/
def Condition.tests : Condition → List (String × Test)
  | .test path test => [(path, test)]
  | .and clauses => clauseTests clauses
  | .or clauses => clauseTests clauses
  | .not clause => clause.tests

def clauseTests : List Condition → List (String × Test)
  | [] => []
  | c :: cs => c.tests ++ clauseTests cs

end

/-- Every path a policy may look at, sorted. Source: `readSet`. -/
def readSet (p : Policy) : List String :=
  (p.requiredPaths ++ p.rules.flatMap fun r => r.condition.tests.map Prod.fst).dedup.insertionSort
    fun a b => @LE.le (List Nat) List.instLE (Json.units a) (Json.units b)

/-! ## Evaluation -/

/-- The inputs: the members of the inputs document. -/
abbrev Inputs := List (String × Json)

/-- The scalar at a path. -/
def ownGet (inputs : Inputs) (path : String) : Option Scalar := (inputs.lookup path).bind asScalar?

/-- The order of two scalars of one type; the comparison of different types throws. -/
def cmp : Scalar → Scalar → Option Ordering
  | .num a, .num b => some (if a < b then .lt else if b < a then .gt else .eq)
  | .bool a, .bool b => some (compare a b)
  | .str s, .str t =>
    let before (a b : String) : Bool := List.lex (Json.units a) (Json.units b) fun m n => m < n
    some (if before s t then .lt else if before t s then .gt else .eq)
  | _, _ => none

def CmpOp.holds : CmpOp → Ordering → Bool
  | .eq, o => o = .eq
  | .ne, o => o ≠ .eq
  | .lt, o => o = .lt
  | .le, o => o ≠ .gt
  | .gt, o => o = .gt
  | .ge, o => o ≠ .lt

/-- Whether the value is one of the listed ones; `none` when a comparison throws. -/
def anyEqual (v : Scalar) : List Scalar → Option Bool
  | [] => some false
  | x :: xs =>
    match cmp v x with
    | none => none
    | some o => if o = .eq then some true else anyEqual v xs

/-- A test of what is at its path; `none` when a comparison throws. -/
def matchTest (inputs : Inputs) : String × Test → Option Bool
  | (path, .present) => some (ownGet inputs path).isSome
  | (path, .absent) => some (ownGet inputs path).isNone
  | (path, .isIn values) =>
    match ownGet inputs path with
    | none => some false
    | some v => anyEqual v values
  | (path, .cmp op value) =>
    match ownGet inputs path with
    | none => some false
    | some v => (cmp v value).map op.holds

mutual

/-- Whether a condition holds; `none` when a comparison throws. Source: `match`. -/
def matchCondition (inputs : Inputs) : Condition → Option Bool
  | .test path test => matchTest inputs (path, test)
  | .and clauses => matchEvery inputs clauses
  | .or clauses => matchSome inputs clauses
  | .not clause => (matchCondition inputs clause).map not

def matchEvery (inputs : Inputs) : List Condition → Option Bool
  | [] => some true
  | c :: cs =>
    match matchCondition inputs c with
    | some true => matchEvery inputs cs
    | stop => stop

def matchSome (inputs : Inputs) : List Condition → Option Bool
  | [] => some false
  | c :: cs =>
    match matchCondition inputs c with
    | some false => matchSome inputs cs
    | stop => stop

end

/-- What a result reports as `ruleFired`. -/
inductive Fired where
  | policyInvalid
  | inputInvalid
  | requiredInputAbsent (path : String)
  | evalError
  | rule (id : String)
  | nothing
  deriving DecidableEq

/-- The result of an evaluation; the name of the engine, which is a constant, is left out. -/
structure EvalResult where
  verdict : Verdict
  ruleFired : Fired
  deriving DecidableEq

/-- The first rule that holds decides. -/
def fire (inputs : Inputs) : List Rule → EvalResult
  | [] => ⟨DEFAULT_VERDICT, .nothing⟩
  | rule :: rules =>
    match matchCondition inputs rule.condition with
    | none => ⟨.DENY, .evalError⟩
    | some true => ⟨rule.verdict, .rule rule.id⟩
    | some false => fire inputs rules

/-- The evaluation of an accepted policy on an object. -/
def evaluateAccepted (p : Policy) (inputs : Inputs) : EvalResult :=
  match p.requiredPaths.find? fun path => (inputs.lookup path).isNone with
  | some path => ⟨.DENY, .requiredInputAbsent path⟩
  | none =>
    if inputs.all fun m => (asScalar? m.2).isSome then fire inputs p.rules
    else ⟨.DENY, .evalError⟩

def evaluateParsed (policy inputs : Json) : EvalResult :=
  match validatePolicyParsed policy with
  | none => ⟨.DENY, .policyInvalid⟩
  | some p =>
    match inputs with
    | .obj members => evaluateAccepted p members
    | _ => ⟨.DENY, .inputInvalid⟩

/-- Source: `evaluate`. -/
def evaluate (policy inputs : List Char) : EvalResult :=
  match parseDocument policy "policy" with
  | .error _ => ⟨.DENY, .policyInvalid⟩
  | .ok p =>
    match parseDocument inputs "inputs" with
    | .error _ => ⟨.DENY, .evalError⟩
    | .ok i => evaluateParsed p i

lemma evaluate_of_parsed {policy inputs : List Char} {p i : Json}
    (hp : parseDocument policy "policy" = .ok p) (hi : parseDocument inputs "inputs" = .ok i) :
    evaluate policy inputs = evaluateParsed p i := by
  rw [evaluate, hp]
  dsimp only
  rw [hi]

/-! ## A policy reads its read set -/

section Reads

variable {inputs inputs' : Inputs}

mutual

/-- A condition depends on the inputs through its tests. -/
lemma matchCondition_congr : (c : Condition) →
    (∀ t ∈ c.tests, matchTest inputs t = matchTest inputs' t) →
    matchCondition inputs c = matchCondition inputs' c
  | .test path test, h => h (path, test) (by simp [Condition.tests])
  | .and cs, h => by
    rw [Condition.tests] at h
    rw [matchCondition, matchCondition, (matchClauses_congr cs h).1]
  | .or cs, h => by
    rw [Condition.tests] at h
    rw [matchCondition, matchCondition, (matchClauses_congr cs h).2]
  | .not c, h => by
    rw [Condition.tests] at h
    rw [matchCondition, matchCondition, matchCondition_congr c h]

lemma matchClauses_congr : (cs : List Condition) →
    (∀ t ∈ clauseTests cs, matchTest inputs t = matchTest inputs' t) →
    matchEvery inputs cs = matchEvery inputs' cs ∧ matchSome inputs cs = matchSome inputs' cs
  | [], _ => ⟨rfl, rfl⟩
  | c :: cs, h => by
    rw [clauseTests] at h
    have hc := matchCondition_congr c fun t ht => h t (List.mem_append_left _ ht)
    have hcs := matchClauses_congr cs fun t ht => h t (List.mem_append_right _ ht)
    rw [matchEvery, matchEvery, matchSome, matchSome, hc, hcs.1, hcs.2]
    exact ⟨rfl, rfl⟩

end

lemma matchTest_congr {t : String × Test} (h : inputs.lookup t.1 = inputs'.lookup t.1) :
    matchTest inputs t = matchTest inputs' t := by
  obtain ⟨path, test⟩ := t
  have hget : ownGet inputs path = ownGet inputs' path := congrArg (·.bind asScalar?) h
  cases test <;> rw [matchTest, matchTest, hget]

lemma mem_readSet {p : Policy} {path : String} : path ∈ readSet p ↔
      path ∈ p.requiredPaths ∨ ∃ r ∈ p.rules, ∃ t ∈ r.condition.tests, t.1 = path := by
  simp [readSet, List.mem_insertionSort]

lemma fire_congr (rules : List Rule)
    (h : ∀ r ∈ rules, ∀ t ∈ r.condition.tests, inputs.lookup t.1 = inputs'.lookup t.1) :
    fire inputs rules = fire inputs' rules := by
  induction rules with
  | nil => rfl
  | cons r rules ih =>
    have hr := matchCondition_congr r.condition fun t ht =>
      matchTest_congr (h r (.head _) t ht)
    rw [fire, fire, hr, ih fun r hr => h r (.tail _ hr)]

/-! ## When no comparison throws -/

lemma isSome_cmp {a b : Scalar} (h : a.type = b.type) : (cmp a b).isSome := by
  cases a <;> cases b <;> first | rfl | cases h

lemma isSome_anyEqual {v : Scalar} {xs : List Scalar} (h : ∀ x ∈ xs, v.type = x.type) :
    (anyEqual v xs).isSome := by
  induction xs with
  | nil => rfl
  | cons x xs ih =>
    obtain ⟨o, ho⟩ := Option.isSome_iff_exists.mp (isSome_cmp (h x (.head _)))
    rw [anyEqual, ho]
    dsimp only
    split
    · rfl
    · exact ih fun y hy => h y (.tail _ hy)

/-- The values a test compares its input with. -/
def Test.values : Test → List Scalar
  | .cmp _ value => [value]
  | .isIn values => values
  | _ => []

lemma isSome_matchTest {t : String × Test}
    (h : ∀ v ∈ ownGet inputs t.1, ∀ x ∈ t.2.values, v.type = x.type) :
    (matchTest inputs t).isSome := by
  obtain ⟨path, test⟩ := t
  cases test with
  | cmp op value =>
    rw [matchTest]
    split
    · rfl
    · rename_i v hv
      rw [Option.isSome_map]
      exact isSome_cmp (h v hv value (List.mem_singleton_self _))
  | isIn values =>
    rw [matchTest]
    split
    · rfl
    · rename_i v hv
      exact isSome_anyEqual (h v hv)
  | _ => rfl

mutual

lemma isSome_matchCondition : (c : Condition) → (∀ t ∈ c.tests, (matchTest inputs t).isSome) →
    (matchCondition inputs c).isSome
  | .test path test, h => h (path, test) (by simp [Condition.tests])
  | .and cs, h => by
    rw [Condition.tests] at h
    exact (isSome_matchClauses cs h).1
  | .or cs, h => by
    rw [Condition.tests] at h
    exact (isSome_matchClauses cs h).2
  | .not c, h => by
    rw [Condition.tests] at h
    rw [matchCondition, Option.isSome_map]
    exact isSome_matchCondition c h

lemma isSome_matchClauses : (cs : List Condition) →
    (∀ t ∈ clauseTests cs, (matchTest inputs t).isSome) →
    (matchEvery inputs cs).isSome ∧ (matchSome inputs cs).isSome
  | [], _ => ⟨rfl, rfl⟩
  | c :: cs, h => by
    rw [clauseTests] at h
    have hc := isSome_matchCondition c fun t ht => h t (List.mem_append_left _ ht)
    have hcs := isSome_matchClauses cs fun t ht => h t (List.mem_append_right _ ht)
    obtain ⟨b, hb⟩ := Option.isSome_iff_exists.mp hc
    rw [matchEvery, matchSome, hb]
    cases b
    · exact ⟨rfl, hcs.2⟩
    · exact ⟨hcs.1, rfl⟩

end

lemma fire_ne_evalError (rules : List Rule)
    (h : ∀ r ∈ rules, (matchCondition inputs r.condition).isSome) :
    (fire inputs rules).ruleFired ≠ .evalError := by
  induction rules with
  | nil => exact Fired.noConfusion
  | cons r rules ih =>
    obtain ⟨b, hb⟩ := Option.isSome_iff_exists.mp (h r (.head _))
    rw [fire, hb]
    cases b
    · exact ih fun r hr => h r (.tail _ hr)
    · exact Fired.noConfusion

end Reads

/-- The inputs are a flat object of scalars. -/
def Flat (inputs : Inputs) : Prop := ∀ m ∈ inputs, (asScalar? m.2).isSome

/-- Every input a rule compares has the type of what it is compared with. -/
def WellTyped (p : Policy) (inputs : Inputs) : Prop :=
  ∀ r ∈ p.rules, ∀ t ∈ r.condition.tests, ∀ v ∈ ownGet inputs t.1, ∀ x ∈ t.2.values, v.type = x.type

/-- Two flat inputs that agree on the read set of an accepted policy are judged alike, and no
evaluation ends in a throw when every compared input has the type of the rule's value. -/
theorem evaluate_reads_only_readSet {text first second : List Char} {doc : Json} {p : Policy}
    {inputs inputs' : Inputs} (hdoc : parseDocument text "policy" = .ok doc)
    (hp : validatePolicyParsed doc = some p)
    (hfirst : parseDocument first "inputs" = .ok (.obj inputs))
    (hsecond : parseDocument second "inputs" = .ok (.obj inputs'))
    (hflat : Flat inputs) (hflat' : Flat inputs') :
    ((∀ path ∈ readSet p, inputs.lookup path = inputs'.lookup path) →
      evaluate text first = evaluate text second) ∧
    (WellTyped p inputs → (evaluate text first).ruleFired ≠ .evalError) := by
  have hrun : ∀ {t : List Char} {i : Inputs}, parseDocument t "inputs" = .ok (.obj i) → Flat i →
      evaluate text t =
        match p.requiredPaths.find? fun path => (i.lookup path).isNone with
        | some path => ⟨.DENY, .requiredInputAbsent path⟩
        | none => fire i p.rules := by
    intro t i ht hi
    have hall : (i.all fun m => (asScalar? m.2).isSome) = true := List.all_eq_true.mpr hi
    rw [evaluate_of_parsed hdoc ht, evaluateParsed, hp]
    simp only [evaluateAccepted, hall, if_true]
  rw [hrun hfirst hflat]
  refine ⟨fun hagree => ?_, fun htyped => ?_⟩
  · have hrequired : (p.requiredPaths.find? fun path => (inputs.lookup path).isNone) =
        p.requiredPaths.find? fun path => (inputs'.lookup path).isNone := by
      rw [← List.head?_filter, ← List.head?_filter]
      refine congrArg List.head? (List.filter_congr fun path hpath => ?_)
      rw [hagree path (mem_readSet.mpr (.inl hpath))]
    have hfire := fire_congr p.rules fun r hr t ht =>
      hagree t.1 (mem_readSet.mpr (.inr ⟨r, hr, t, ht, rfl⟩))
    rw [hrun hsecond hflat', hrequired, hfire]
  · split
    · exact Fired.noConfusion
    · exact fire_ne_evalError p.rules fun r hr =>
        isSome_matchCondition r.condition fun t ht => isSome_matchTest (htyped r hr t ht)

namespace Sample

def small : Json :=
  .obj [("id", .str "small"), ("then", .str "ALLOW"), ("when", .obj [("op", .str "le"),
    ("path", .str "amount"), ("value", .num 10)])]

def blocked : Json :=
  .obj [("id", .str "blocked"), ("then", .str "DENY"), ("when", .obj [("op", .str "in"),
    ("path", .str "payee"), ("values", .arr [.str "eve"])])]

def policyDoc (paths rules : List Json) : Json :=
  .obj [("id", .str "p"), ("requiredPaths", .arr paths), ("rules", .arr rules),
    ("spec", .str POLICY_SPEC)]

def tight : Json := policyDoc [.str "payee"] [blocked, small]

def accepted : Policy where
  id := "p"
  requiredPaths := ["payee"]
  rules := [⟨"blocked", .test "payee" (.isIn [.str "eve"]), .DENY⟩,
    ⟨"small", .test "amount" (.cmp .le (.num 10)), .ALLOW⟩]

def inputs : Inputs := [("amount", .num 5), ("payee", .str "bob")]

def more : Inputs := [("amount", .num 5), ("note", .bool true), ("payee", .str "bob")]

lemma parsed : parseDocument (Json.render tight) "policy" = .ok tight ∧
    parseDocument (Json.render (policyDoc [] [small])) "policy" = .ok (policyDoc [] [small]) ∧
    parseDocument (Json.render (.obj inputs)) "inputs" = .ok (.obj inputs) ∧
    parseDocument (Json.render (.obj more)) "inputs" = .ok (.obj more) := by
  refine ⟨?_, ?_, ?_, ?_⟩ <;> exact parseDocument_of_textBound (by decide +kernel) _

end Sample

/-- An input the policy does not name makes no difference. -/
theorem evaluate_reads_only_readSet_sample :
    evaluate (Json.render Sample.tight) (Json.render (.obj Sample.inputs)) =
      evaluate (Json.render Sample.tight) (Json.render (.obj Sample.more)) ∧
    (evaluate (Json.render Sample.tight) (Json.render (.obj Sample.inputs))).ruleFired ≠ .evalError := by
  obtain ⟨htight, -, hinputs, hmore⟩ := Sample.parsed
  have hreads := evaluate_reads_only_readSet (p := Sample.accepted) htight rfl hinputs hmore
    (by unfold Flat; decide) (by unfold Flat; decide)
  exact ⟨hreads.1 (by decide), hreads.2 (by unfold WellTyped; decide)⟩

/-! ## Tightening -/

/-- The second list is the first with elements changed and elements inserted. -/
inductive Amended {α : Type} (changed : α → α → Prop) (inserted : α → Prop) : List α → List α → Prop
  | nil : Amended changed inserted [] []
  | next {x y : α} {xs ys : List α} :
    y = x ∨ changed x y → Amended changed inserted xs ys → Amended changed inserted (x :: xs) (y :: ys)
  | insert {y : α} {xs ys : List α} :
    inserted y → Amended changed inserted xs ys → Amended changed inserted xs (y :: ys)

/-- A rule document that allows, changed to deny. -/
def Denied (r q : Json) : Prop :=
  ∃ ms, r = .obj ms ∧ ms.lookup "then" = some (.str "ALLOW") ∧
    q = .obj (Json.setMember ms "then" (.str "DENY"))

/-- A policy document and a tightened one: required paths are added, rules that deny are inserted, and
rules that allow are changed to deny. -/
def Tightened (P Q : Json) : Prop :=
  ∃ ms paths paths' rules rules', P = .obj ms ∧ ms.lookup "requiredPaths" = some (.arr paths) ∧
    ms.lookup "rules" = some (.arr rules) ∧
    Q = .obj (Json.setMember (Json.setMember ms "requiredPaths" (.arr paths')) "rules" (.arr rules')) ∧
    Amended (fun _ _ => False) (fun _ => True) paths paths' ∧
    Amended Denied (fun d => d.get? "then" = some (.str "DENY")) rules rules'

section Amended

variable {α β : Type} {c : α → α → Prop} {i : α → Prop} {xs ys : List α}

lemma Amended.sublist {g : α → β} (h : Amended c i xs ys) (hc : ∀ x y, c x y → g y = g x) :
    (xs.map g).Sublist (ys.map g) := by
  induction h with
  | nil => exact List.Sublist.refl _
  | next hxy _ ih =>
    rw [List.map_cons, List.map_cons, hxy.elim (congrArg g) (hc _ _)]
    exact ih.cons_cons _
  | insert _ _ ih => exact ih.cons _

/-- Amended lists are read as amended lists. -/
lemma Amended.read {f : α → Option β} {d : β → β → Prop} {j : β → Prop} (h : Amended c i xs ys)
    (hc : ∀ {x y b}, c x y → f y = some b → ∃ a, f x = some a ∧ d a b)
    (hi : ∀ {y b}, i y → f y = some b → j b) :
    ∀ {bs : List β}, ys.mapM f = some bs → ∃ as, xs.mapM f = some as ∧ Amended d j as bs := by
  induction h with
  | nil =>
    rintro bs ⟨⟩
    exact ⟨[], rfl, .nil⟩
  | @next x y _ _ hxy _ ih =>
    intro bs hbs
    simp only [List.mapM_cons, Option.bind_eq_bind, Option.bind_eq_some_iff] at hbs
    obtain ⟨b, hb, bs', hbs', ⟨⟩⟩ := hbs
    obtain ⟨as, has, hamended⟩ := ih hbs'
    obtain ⟨a, ha, hab⟩ : ∃ a, f x = some a ∧ (b = a ∨ d a b) := by
      rcases hxy with rfl | hxy
      · exact ⟨b, hb, .inl rfl⟩
      · obtain ⟨a, ha, hab⟩ := hc hxy hb
        exact ⟨a, ha, .inr hab⟩
    exact ⟨a :: as, by simp [List.mapM_cons, ha, has], .next hab hamended⟩
  | insert hy _ ih =>
    intro bs hbs
    simp only [List.mapM_cons, Option.bind_eq_bind, Option.bind_eq_some_iff] at hbs
    obtain ⟨b, hb, bs', hbs', ⟨⟩⟩ := hbs
    obtain ⟨as, has, hamended⟩ := ih hbs'
    exact ⟨as, has, .insert (hi hy hb) hamended⟩

end Amended

/-- `Amended` of the rules that were read. -/
abbrev Tighter : List Rule → List Rule → Prop :=
  Amended (fun r q => q = { r with verdict := .DENY }) fun d => d.verdict = .DENY

/-- A walk of the tighter rules that ends in ALLOW ends at a rule of the others, which the others reach
too: no rule before it held, and no comparison threw. -/
lemma fire_of_tighter {inputs : Inputs} {ps qs : List Rule} (h : Tighter ps qs)
    (hallow : (fire inputs qs).verdict = .ALLOW) : fire inputs ps = fire inputs qs := by
  induction h with
  | nil => rfl
  | @next r q _ _ hrq _ ih =>
    have hcondition : q.condition = r.condition := by rcases hrq with rfl | rfl <;> rfl
    rw [fire] at hallow ⊢
    rw [fire]
    cases hm : matchCondition inputs r.condition with
    | none => simp only [hcondition, hm]
    | some b =>
      simp only [hcondition, hm] at hallow ⊢
      cases b with
      | true =>
        rcases hrq with rfl | rfl
        · rfl
        · cases hallow
      | false => exact ih hallow
  | @insert d _ _ hd _ ih =>
    rw [fire] at hallow ⊢
    cases hm : matchCondition inputs d.condition with
    | none => rw [hm] at hallow; cases hallow
    | some b =>
      simp only [hm] at hallow
      cases b with
      | true => rw [hd] at hallow; cases hallow
      | false => exact ih hallow

/-- A rule changed to deny is read as the rule with the other verdict. -/
lemma readRule_denied {d e : Json} {q : Rule} (h : Denied d e) (hq : readRule e = some q) :
    ∃ r, readRule d = some r ∧ q = { r with verdict := .DENY } := by
  obtain ⟨ms, rfl, hthen, rfl⟩ := h
  obtain ⟨hkeys, hid, hverdict, hwhen⟩ := readRule_eq_some_iff.mp hq
  simp only [noExtraKeys, Json.keys_obj, Json.setMember_fst, Json.get?_obj, Json.lookup_setMember,
    hthen] at hkeys hid hverdict hwhen
  refine ⟨{ q with verdict := .ALLOW }, readRule_eq_some_iff.mpr ⟨hkeys, hid, ?_, hwhen⟩, ?_⟩
  · rw [Json.get?_obj, hthen]
    rfl
  · obtain ⟨id, condition, verdict⟩ := q
    cases hverdict
    rfl

lemma verdict_of_readRule {d : Json} {q : Rule} (hthen : d.get? "then" = some (.str "DENY"))
    (hq : readRule d = some q) : q.verdict = .DENY := by
  obtain ⟨-, -, hverdict, -⟩ := readRule_eq_some_iff.mp hq
  rw [hthen] at hverdict
  exact (Option.some.inj hverdict).symm

/-- The document a valid policy was tightened from is a valid policy. -/
lemma Tightened.validated {P Q : Json} {q : Policy} (h : Tightened P Q)
    (hP : (canonicalize P).isSome) (hq : validatePolicyParsed Q = some q) :
    ∃ p, validatePolicyParsed P = some p ∧ p.requiredPaths.Sublist q.requiredPaths ∧
      Tighter p.rules q.rules := by
  obtain ⟨ms, paths, paths', rules, rules', rfl, hpaths, hrules, rfl, hadded, htight⟩ := h
  obtain ⟨hkeys, hspec, hid, hqpaths, hqrules, hnodup, -⟩ := validatePolicyParsed_eq_some_iff.mp hq
  simp only [noExtraKeys, Json.keys_obj, Json.setMember_fst, Json.getStr?, Json.get?_obj,
    Json.lookup_setMember, hpaths, hrules] at hkeys hspec hid hqpaths hqrules
  obtain ⟨ppaths, hppaths, hsub⟩ := hadded.read (d := fun _ _ => False) (j := fun _ => True)
    (fun h => h.elim) (fun _ _ => trivial) hqpaths
  obtain ⟨prules, hprules, htighter⟩ := htight.read readRule_denied verdict_of_readRule hqrules
  have hids := htighter.sublist (g := Rule.id) fun r q hrq => by rw [hrq]
  refine ⟨⟨q.id, ppaths, prules⟩, ?_, by
    simpa using hsub.sublist (g := id) fun _ _ h => h.elim, htighter⟩
  refine validatePolicyParsed_eq_some_iff.mpr
    ⟨hkeys, hspec, hid, ?_, ?_, hids.nodup hnodup, hP⟩
  · rw [Json.get?_obj, hpaths]
    exact hppaths
  · rw [Json.get?_obj, hrules]
    exact hprules

/-- A policy that is tightened allows nothing that it did not allow before: where the tightened policy
answers ALLOW, the policy answers ALLOW by the same rule. -/
theorem evaluate_of_tightened {first second inputs : List Char} {P Q : Json}
    (hP : parseDocument first "policy" = .ok P) (hQ : parseDocument second "policy" = .ok Q)
    (h : Tightened P Q) (hallow : (evaluate second inputs).verdict = .ALLOW) :
    evaluate first inputs = evaluate second inputs := by
  have hcanon : (canonicalize P).isSome := by
    obtain ⟨t, ht⟩ := Json.exists_canonicalText (parseDocument_wellFormed hP).fits
    exact Option.isSome_iff_exists.mpr ⟨t, ht⟩
  cases hi : parseDocument inputs "inputs" with
  | error e => simp [evaluate, hQ, hi] at hallow
  | ok i =>
    rw [evaluate_of_parsed hQ hi] at hallow ⊢
    rw [evaluate_of_parsed hP hi]
    rw [evaluateParsed] at hallow
    cases hq : validatePolicyParsed Q with
    | none => rw [hq] at hallow; cases hallow
    | some q =>
      obtain ⟨p, hp, hpaths, hrules⟩ := h.validated hcanon hq
      rw [hq] at hallow
      rw [evaluateParsed, evaluateParsed, hp, hq]
      cases i with
      | obj members =>
        dsimp only [evaluateAccepted] at hallow ⊢
        cases hfind : q.requiredPaths.find? fun path => (members.lookup path).isNone with
        | some path => rw [hfind] at hallow; cases hallow
        | none =>
          have hfind' : (p.requiredPaths.find? fun path => (members.lookup path).isNone) = none :=
            List.find?_eq_none.mpr fun path hpath =>
              List.find?_eq_none.mp hfind path (hpaths.subset hpath)
          rw [hfind] at hallow
          rw [hfind']
          dsimp only at hallow ⊢
          split at hallow
          · rename_i hall
            rw [if_pos hall, if_pos hall]
            exact fire_of_tighter hrules hallow
          · cases hallow
      | _ => rfl

/-- A payment both policies allow. -/
theorem evaluate_of_tightened_sample :
    evaluate (Json.render (Sample.policyDoc [] [Sample.small])) (Json.render (.obj Sample.inputs)) =
      evaluate (Json.render Sample.tight) (Json.render (.obj Sample.inputs)) ∧
    (evaluate (Json.render Sample.tight) (Json.render (.obj Sample.inputs))).verdict = .ALLOW := by
  obtain ⟨htight, hloose, hinputs, -⟩ := Sample.parsed
  have hallow : (evaluate (Json.render Sample.tight)
      (Json.render (.obj Sample.inputs))).verdict = .ALLOW := by
    rw [evaluate_of_parsed htight hinputs]
    decide
  refine ⟨evaluate_of_tightened hloose htight ?_ hallow, hallow⟩
  exact ⟨_, [], _, [Sample.small], _, rfl, rfl, rfl, rfl, .insert trivial .nil,
    .insert rfl (.next (.inl rfl) .nil)⟩

end PolicyDsl

end NoaMandate
