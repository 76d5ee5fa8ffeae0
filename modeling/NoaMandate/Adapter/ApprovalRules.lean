import NoaMandate.Lib.JsValue
import NoaMandate.Lib.Table

/-!
# Approval rules

A rule set says which calls wait for a human.  `compileApprovalRules` reads a JSON value into a
snapshot of checked rules or refuses it as a whole with one message for each fault, and
`matchApprovalRule` looks for the first rule that holds a call.  A rule set that cannot be compiled
holds every call; an absent one holds none.

A compiled rule carries what the compiler has checked, so a rule that cannot be evaluated cannot be
built, and compiling a snapshot gives the snapshot back (`compileApprovalRules_value`).  What a rule
set holds is a matter of its rules and not of their order (`holds_iff`).
-/

namespace NoaMandate.Adapter

/-- A text of the source as the string it is. -/
def js (s : String) : JsString := JsString.ofString s

lemma js_injective : Function.Injective js := JsString.ofString_injective

lemma js_beq_false {s t : String} (h : s ≠ t) : (js s == js t) = false :=
  beq_false_of_ne (js_injective.ne h)

/-! ## Compiled rules -/

/-- How the action of a call is compared: `exact`, `prefix` or `suffix` in the source. -/
inductive MatchType where
  | exact
  | startsWith
  | endsWith
  deriving DecidableEq

inductive ThresholdOp where
  | ge
  | gt
  deriving DecidableEq

/-- Which actions a rule is about. -/
structure RuleMatch where
  type : MatchType
  action : JsString
  action_ne : action ≠ []
  deriving DecidableEq

/-- From which value on a rule holds a call. -/
structure Threshold where
  path : JsString
  op : ThresholdOp
  value : Binary64
  path_ne : path ≠ []
  value_safe : (JsNumber.finite value).isSafeInteger = true
  deriving DecidableEq

/-- The members of a rule that the compiler reads. -/
def ruleFields : List JsString := [js "id", js "match", js "threshold"]

/-- A value that is neither an array nor an object. -/
def isScalar : PlainValue → Bool
  | .arr _ => false
  | .obj _ => false
  | _ => true

/-- Is the member carried through by the compiler? -/
def isExtra (m : JsString × PlainValue) : Bool := !(m.1 ∈ ruleFields) && isScalar m.2

/-- A rule after its check. Source: `approval-rules.mjs` `compileRule`. -/
structure CompiledRule where
  /-- The other members of the rule, as far as they are scalars. -/
  extras : List (JsString × PlainValue)
  id : JsString
  applies : RuleMatch
  threshold : Option Threshold
  extras_ok : ∀ m ∈ extras, isExtra m = true
  id_ne : id ≠ []

/-! ## The compiler -/

/-- The messages of a part that was refused. -/
def faults {α : Type} : Except (List JsString) α → List JsString
  | .ok _ => []
  | .error es => es

/-- The members of a plain record. Source: `approval-rules.mjs` `isPlainRecord`. -/
def record? : PlainValue → Option (List (JsString × PlainValue))
  | .obj ms => some ms
  | _ => none

/-- Source: `approval-rules.mjs` `requiredOwnField`, on JSON values. -/
def requiredOwnField (ms : List (JsString × PlainValue)) (key : String) (place : JsString) :
    Except (List JsString) PlainValue :=
  match ms.lookup (js key) with
  | some v => .ok v
  | none => .error [place ++ js "." ++ js key ++ js ": must be an OWN DATA property of the rule (this one is absent) — a rule set is plain data, and a field that is computed or inherited can answer one way while it is checked and another way while it is used"]

/-- A string that is not empty. -/
def nonEmpty? : PlainValue → Option { s : JsString // s ≠ [] }
  | .str s => if h : s = [] then none else some ⟨s, h⟩
  | _ => none

/-- Source: `approval-rules.mjs` `MATCH_TYPES`. -/
def matchType? (v : PlainValue) : Option MatchType :=
  match v with
  | .str s =>
    if s = js "exact" then some .exact
    else if s = js "prefix" then some .startsWith
    else if s = js "suffix" then some .endsWith
    else none
  | _ => none

/-- Source: `approval-rules.mjs` `THRESHOLD_OPS`. -/
def thresholdOp? (v : PlainValue) : Option ThresholdOp :=
  match v with
  | .str s => if s = js "ge" then some .ge else if s = js "gt" then some .gt else none
  | _ => none

/-- A number that is a safe integer. -/
def safeInteger? : PlainValue → Option { d : Binary64 // (JsNumber.finite d).isSafeInteger = true }
  | .num d => if h : (JsNumber.finite d).isSafeInteger = true then some ⟨d, h⟩ else none
  | _ => none

/-- A checked part, or its message. -/
def checked {α β : Type} (part : Except (List JsString) α) (read : α → Option β)
    (message : JsString) : Except (List JsString) β :=
  match part with
  | .error es => .error es
  | .ok v =>
    match read v with
    | some b => .ok b
    | none => .error [message]

def compileMatch (v : PlainValue) (place : JsString) : Except (List JsString) RuleMatch :=
  let typeMessage := place ++ js ".match.type: must be \"exact\", \"prefix\", or \"suffix\""
  match record? v with
  | none => .error [typeMessage]
  | some ms =>
    let typeField := requiredOwnField ms "type" (place ++ js ".match")
    let actionField := requiredOwnField ms "action" (place ++ js ".match")
    let action := checked actionField nonEmpty? (place ++ js ".match.action: non-empty string")
    match checked typeField matchType? typeMessage, action with
    | .ok type, .ok action => .ok ⟨type, action.val, action.property⟩
    | .ok _, .error es => .error es
    -- a type that is there and wrong is reported before the action is looked at
    | .error es, action =>
      match typeField with
      | .ok _ => .error (faults actionField ++ es)
      | .error _ => .error (es ++ faults action)

/-- The message about a field that is there and wrong. -/
def wrong {α β : Type} (field : Except (List JsString) α) (part : Except (List JsString) β) :
    List JsString :=
  match field with
  | .ok _ => faults part
  | .error _ => []

def compileThreshold (v : PlainValue) (place : JsString) : Except (List JsString) Threshold :=
  match record? v with
  | none => .error [place ++ js ".threshold: must be an object"]
  | some ms =>
    let pathField := requiredOwnField ms "path" (place ++ js ".threshold")
    let opField := requiredOwnField ms "op" (place ++ js ".threshold")
    let valueField := requiredOwnField ms "value" (place ++ js ".threshold")
    let path := checked pathField nonEmpty? (place ++ js ".threshold.path: non-empty string")
    let op := checked opField thresholdOp? (place ++ js ".threshold.op: must be \"ge\" or \"gt\"")
    let value := checked valueField safeInteger? (place ++ js ".threshold.value: safe integer")
    match path, op, value with
    | .ok path, .ok op, .ok value => .ok ⟨path.val, op, value.val, path.property, value.property⟩
    | path, op, value =>
      .error (faults pathField ++ faults opField ++ faults valueField ++
        (wrong pathField path ++ wrong opField op ++ wrong valueField value))

/-- The place of a rule in the messages about it. -/
def rulePlace (idx : Nat) : JsString := js ("approvalRules[" ++ toString idx ++ "]")

def ruleId (ms : List (JsString × PlainValue)) (place : JsString) :
    Except (List JsString) { s : JsString // s ≠ [] } :=
  checked (requiredOwnField ms "id" place) nonEmpty? (place ++ js ".id: non-empty string")

def ruleMatch (ms : List (JsString × PlainValue)) (place : JsString) :
    Except (List JsString) RuleMatch :=
  match requiredOwnField ms "match" place with
  | .ok m => compileMatch m place
  | .error es => .error es

/-- A rule without a threshold holds every call it matches. -/
def ruleThreshold (ms : List (JsString × PlainValue)) (place : JsString) :
    Except (List JsString) (Option Threshold) :=
  match ms.lookup (js "threshold") with
  | none => .ok none
  | some t => (compileThreshold t place).map some

/-- Source: `approval-rules.mjs` `compileRule`. -/
def compileRule (raw : PlainValue) (idx : Nat) : Except (List JsString) CompiledRule :=
  let place := rulePlace idx
  match record? raw with
  | none => .error [place ++ js ": must be an object"]
  | some ms =>
    match ruleId ms place, ruleMatch ms place, ruleThreshold ms place with
    | .ok id, .ok applies, .ok threshold =>
      .ok { extras := ms.filter isExtra, id := id.val, applies, threshold
            extras_ok := fun _ hm => (List.mem_filter.mp hm).2
            id_ne := id.property }
    | id, applies, threshold => .error (faults id ++ faults applies ++ faults threshold)

/-- The loop of the compiler: the messages so far and the rules so far, with the ids of the rules
that were kept. -/
def compileFrom (idx : Nat) (seen : List JsString) :
    List PlainValue → List JsString × List CompiledRule
  | [] => ([], [])
  | raw :: rest =>
    match compileRule raw idx with
    | .error es =>
      let r := compileFrom (idx + 1) seen rest
      (es ++ r.1, r.2)
    | .ok rule =>
      if rule.id ∈ seen then
        let r := compileFrom (idx + 1) seen rest
        ((rulePlace idx ++ js ".id: duplicate rule id \"" ++ rule.id ++ js "\"") :: r.1, r.2)
      else
        let r := compileFrom (idx + 1) (rule.id :: seen) rest
        (r.1, rule :: r.2)

lemma compileFrom_nodup (raws : List PlainValue) : ∀ (idx : Nat) (seen : List JsString),
    ((compileFrom idx seen raws).2.map CompiledRule.id).Nodup ∧
      ∀ r ∈ (compileFrom idx seen raws).2, r.id ∉ seen := by
  induction raws with
  | nil =>
    intro idx seen
    exact ⟨List.nodup_nil, fun r hr => absurd hr List.not_mem_nil⟩
  | cons raw rest ih =>
    intro idx seen
    rw [compileFrom]
    split
    · exact ih (idx + 1) seen
    · next rule _ =>
      split
      · exact ih (idx + 1) seen
      · next hnew =>
        obtain ⟨hnd, hfresh⟩ := ih (idx + 1) (rule.id :: seen)
        refine ⟨?_, ?_⟩
        · refine List.nodup_cons.mpr ⟨?_, hnd⟩
          intro hmem
          obtain ⟨r, hr, hid⟩ := List.mem_map.mp hmem
          exact hfresh r hr (hid ▸ List.mem_cons_self)
        · intro r hr
          rcases List.mem_cons.mp hr with rfl | hr
          · exact hnew
          · exact fun hseen => hfresh r hr (.tail _ hseen)

/-- A compiled rule set: the ids of its rules are distinct. -/
structure Snapshot where
  rules : List CompiledRule
  nodup : (rules.map CompiledRule.id).Nodup

/-- Source: `approval-rules.mjs` `compileApprovalRules`. -/
def compileApprovalRules (v : PlainValue) : Except (List JsString) Snapshot :=
  match v with
  | .arr raws =>
    let r := compileFrom 0 [] raws
    if r.1.isEmpty then .ok ⟨r.2, (compileFrom_nodup raws 0 []).1⟩ else .error r.1
  | _ => .error [js "approvalRules: must be an array"]

/-! ## A snapshot is a value again -/

def MatchType.name : MatchType → JsString
  | .exact => js "exact"
  | .startsWith => js "prefix"
  | .endsWith => js "suffix"

def ThresholdOp.name : ThresholdOp → JsString
  | .ge => js "ge"
  | .gt => js "gt"

def RuleMatch.value (m : RuleMatch) : PlainValue :=
  .obj [(js "type", .str m.type.name), (js "action", .str m.action)]

def Threshold.toValue (t : Threshold) : PlainValue :=
  .obj [(js "path", .str t.path), (js "op", .str t.op.name), (js "value", .num t.value)]

/-- The members of the object a compiled rule is. -/
def CompiledRule.members (r : CompiledRule) : List (JsString × PlainValue) :=
  r.extras ++ ((js "id", .str r.id) :: (js "match", r.applies.value) ::
    (r.threshold.map fun t => (js "threshold", t.toValue)).toList)

/-- The object a compiled rule is. -/
def CompiledRule.value (r : CompiledRule) : PlainValue := .obj r.members

/-- The array a snapshot is. -/
def Snapshot.value (s : Snapshot) : PlainValue := .arr (s.rules.map CompiledRule.value)

lemma nonEmpty?_str {s : JsString} (h : s ≠ []) : nonEmpty? (.str s) = some ⟨s, h⟩ := by
  rw [nonEmpty?, dif_neg h]

lemma matchType?_name (t : MatchType) : matchType? (.str t.name) = some t := by
  cases t <;> decide

lemma thresholdOp?_name (op : ThresholdOp) : thresholdOp? (.str op.name) = some op := by
  cases op <;> decide

lemma requiredOwnField_eq {ms : List (JsString × PlainValue)} {key : String} {v : PlainValue}
    (h : ms.lookup (js key) = some v) (place : JsString) :
    requiredOwnField ms key place = .ok v := by
  rw [requiredOwnField, h]

lemma compileMatch_value (m : RuleMatch) (place : JsString) :
    compileMatch m.value place = .ok m := by
  have htype : requiredOwnField [(js "type", .str m.type.name), (js "action", .str m.action)]
      "type" (place ++ js ".match") = .ok (.str m.type.name) :=
    requiredOwnField_eq (List.lookup_cons_self ..) _
  have hne : (js "action" == js "type") = false := js_beq_false (by decide)
  have haction : requiredOwnField [(js "type", .str m.type.name), (js "action", .str m.action)]
      "action" (place ++ js ".match") = .ok (.str m.action) := by
    refine requiredOwnField_eq ?_ _
    rw [List.lookup_cons, hne, List.lookup_cons_self]
  simp only [compileMatch, RuleMatch.value, record?, htype, haction, checked, matchType?_name,
    nonEmpty?_str m.action_ne]

lemma compileThreshold_value (t : Threshold) (place : JsString) :
    compileThreshold t.toValue place = .ok t := by
  have hop : (js "op" == js "path") = false := js_beq_false (by decide)
  have hvp : (js "value" == js "path") = false := js_beq_false (by decide)
  have hvo : (js "value" == js "op") = false := js_beq_false (by decide)
  have hpath : requiredOwnField
      [(js "path", .str t.path), (js "op", .str t.op.name), (js "value", .num t.value)]
      "path" (place ++ js ".threshold") = .ok (.str t.path) :=
    requiredOwnField_eq (List.lookup_cons_self ..) _
  have hop' : requiredOwnField
      [(js "path", .str t.path), (js "op", .str t.op.name), (js "value", .num t.value)]
      "op" (place ++ js ".threshold") = .ok (.str t.op.name) := by
    refine requiredOwnField_eq ?_ _
    rw [List.lookup_cons, hop, List.lookup_cons_self]
  have hvalue : requiredOwnField
      [(js "path", .str t.path), (js "op", .str t.op.name), (js "value", .num t.value)]
      "value" (place ++ js ".threshold") = .ok (.num t.value) := by
    refine requiredOwnField_eq ?_ _
    rw [List.lookup_cons, hvp, List.lookup_cons, hvo, List.lookup_cons_self]
  simp only [compileThreshold, Threshold.toValue, record?, hpath, hop', hvalue, checked,
    nonEmpty?_str t.path_ne, thresholdOp?_name, safeInteger?, dif_pos t.value_safe]

/-- The members that the compiler reads are not among the carried ones. -/
lemma CompiledRule.lookup_members (r : CompiledRule) {key : JsString} (hkey : key ∈ ruleFields) :
    r.members.lookup key = ((js "id", .str r.id) :: (js "match", r.applies.value) ::
      (r.threshold.map fun t => (js "threshold", t.toValue)).toList).lookup key := by
  have hnone : r.extras.lookup key = none := by
    rw [List.lookup_eq_none_iff]
    intro m hm
    have hextra := r.extras_ok m hm
    simp only [isExtra, Bool.and_eq_true, Bool.not_eq_true', decide_eq_false_iff_not] at hextra
    exact bne_iff_ne.mpr fun h => hextra.1 (h ▸ hkey)
  rw [CompiledRule.members, List.lookup_append, hnone, Option.none_or]

lemma CompiledRule.mem_members_iff (r : CompiledRule) {key : JsString} (hkey : key ∈ ruleFields)
    (v : PlainValue) : (key, v) ∈ r.members ↔ (key, v) ∈ (js "id", .str r.id) ::
      (js "match", r.applies.value) ::
        (r.threshold.map fun t => (js "threshold", t.toValue)).toList := by
  rw [CompiledRule.members, List.mem_append]
  constructor
  · rintro (hextra | hfield)
    · have hok := r.extras_ok _ hextra
      simp [isExtra, hkey] at hok
    · exact hfield
  · exact Or.inr

/-- The match of a rule is its member of that name. -/
lemma CompiledRule.mem_members_match (r : CompiledRule) (v : PlainValue) :
    (js "match", v) ∈ r.members ↔ v = r.applies.value := by
  have hid : js "match" ≠ js "id" := js_injective.ne (by decide)
  have hthreshold : js "threshold" ≠ js "match" := js_injective.ne (by decide)
  rw [r.mem_members_iff (by simp [ruleFields])]
  simp [hid, hthreshold]

/-- The threshold of a rule is its member of that name. -/
lemma CompiledRule.mem_members_threshold (r : CompiledRule) (v : PlainValue) :
    (js "threshold", v) ∈ r.members ↔ ∃ t, r.threshold = some t ∧ v = t.toValue := by
  have hid : js "threshold" ≠ js "id" := js_injective.ne (by decide)
  have hmatch : js "threshold" ≠ js "match" := js_injective.ne (by decide)
  rw [r.mem_members_iff (by simp [ruleFields])]
  simp [hid, hmatch, @eq_comm _ v]

lemma CompiledRule.filter_members (r : CompiledRule) : r.members.filter isExtra = r.extras := by
  have hfield : ∀ m ∈ (js "id", ValueTree.str r.id) :: (js "match", r.applies.value) ::
      (r.threshold.map fun t => (js "threshold", t.toValue)).toList, ¬ isExtra m = true := by
    intro m hm
    have hmem : m.1 ∈ ruleFields := by
      rcases List.mem_cons.mp hm with rfl | hm
      · exact .head _
      · rcases List.mem_cons.mp hm with rfl | hm
        · exact .tail _ (.head _)
        · obtain ⟨t, -, rfl⟩ := Option.map_eq_some_iff.mp (Option.mem_toList.mp hm)
          exact .tail _ (.tail _ (.head _))
    simp [isExtra, hmem]
  rw [CompiledRule.members, List.filter_append, List.filter_eq_self.mpr r.extras_ok,
    List.filter_eq_nil_iff.mpr hfield, List.append_nil]

lemma ruleId_members (r : CompiledRule) (place : JsString) :
    ruleId r.members place = .ok ⟨r.id, r.id_ne⟩ := by
  have hlookup : r.members.lookup (js "id") = some (.str r.id) :=
    (r.lookup_members (.head _)).trans (List.lookup_cons_self ..)
  rw [ruleId, requiredOwnField_eq hlookup]
  simp only [checked, nonEmpty?_str r.id_ne]

lemma ruleMatch_members (r : CompiledRule) (place : JsString) :
    ruleMatch r.members place = .ok r.applies := by
  have hne : (js "match" == js "id") = false := js_beq_false (by decide)
  have hlookup : r.members.lookup (js "match") = some r.applies.value := by
    rw [r.lookup_members (.tail _ (.head _)), List.lookup_cons, hne,
      List.lookup_cons_self]
  rw [ruleMatch, requiredOwnField_eq hlookup]
  exact compileMatch_value r.applies place

lemma ruleThreshold_members (r : CompiledRule) (place : JsString) :
    ruleThreshold r.members place = .ok r.threshold := by
  have hid : (js "threshold" == js "id") = false := js_beq_false (by decide)
  have hmatch : (js "threshold" == js "match") = false := js_beq_false (by decide)
  have hlookup : r.members.lookup (js "threshold") = r.threshold.map Threshold.toValue := by
    rw [r.lookup_members (by simp [ruleFields]), List.lookup_cons, hid, List.lookup_cons, hmatch]
    cases r.threshold with
    | none => rfl
    | some t => exact List.lookup_cons_self ..
  rw [ruleThreshold, hlookup]
  cases r.threshold with
  | none => rfl
  | some t =>
    show (compileThreshold t.toValue place).map some = .ok (some t)
    rw [compileThreshold_value]
    rfl

/-- Compiling a compiled rule gives it back. -/
lemma compileRule_value (r : CompiledRule) (idx : Nat) : compileRule r.value idx = .ok r := by
  simp only [compileRule, CompiledRule.value, record?, ruleId_members, ruleMatch_members,
    ruleThreshold_members, r.filter_members]

lemma compileFrom_value (rs : List CompiledRule) : ∀ (idx : Nat) (seen : List JsString),
    (rs.map CompiledRule.id).Nodup → (∀ r ∈ rs, r.id ∉ seen) →
    compileFrom idx seen (rs.map CompiledRule.value) = ([], rs) := by
  induction rs with
  | nil =>
    intro idx seen _ _
    rfl
  | cons r rs ih =>
    intro idx seen hnd hseen
    obtain ⟨hnew, hnd⟩ := List.nodup_cons.mp hnd
    have hrest : ∀ s ∈ rs, s.id ∉ r.id :: seen := by
      intro s hs hmem
      rcases List.mem_cons.mp hmem with hid | hmem
      · exact hnew (hid ▸ List.mem_map_of_mem hs)
      · exact hseen s (.tail _ hs) hmem
    rw [List.map_cons, compileFrom, compileRule_value]
    simp only [if_neg (hseen r List.mem_cons_self), ih (idx + 1) (r.id :: seen) hnd hrest]

/-- **Compiling a snapshot gives it back.** -/
theorem compileApprovalRules_value (s : Snapshot) : compileApprovalRules s.value = .ok s := by
  have h := compileFrom_value s.rules 0 [] s.nodup fun _ _ => List.not_mem_nil
  simp only [compileApprovalRules, Snapshot.value, h]
  rfl

/-! ## Matching -/

/-- The policy inputs of a call: its name, its amount and the leaves of its arguments by path. -/
abbrev Inputs := Table JsString JsValue

def RuleMatch.covers (m : RuleMatch) (actionId : JsString) : Bool :=
  match m.type with
  | .exact => actionId == m.action
  | .startsWith => m.action.isPrefixOf actionId
  | .endsWith => m.action.isSuffixOf actionId

/-- The integer a threshold compares with. -/
def Threshold.bound (t : Threshold) : Int := ((JsNumber.finite t.value).int?).getD 0

/-- Is the value at the path in the held range? An absent value is not; a value that is not a safe
integer always is. -/
def Threshold.reached (t : Threshold) (inputs : Inputs) : Bool :=
  match inputs.get? t.path with
  | none => false
  | some (.num n) =>
    if n.isSafeInteger then
      match t.op with
      | .ge => t.bound ≤ n.int?.getD 0
      | .gt => t.bound < n.int?.getD 0
    else true
  | some _ => true

/-- Does the rule hold the call? -/
def CompiledRule.holds (r : CompiledRule) (actionId : JsString) (inputs : Inputs) : Bool :=
  r.applies.covers actionId && r.threshold.all fun t => t.reached inputs

/-- The first rule that holds the call. Source: `approval-rules.mjs` `matchCompiled`. -/
def matchCompiled (s : Snapshot) (actionId : JsString) (inputs : Inputs) : Option CompiledRule :=
  s.rules.find? fun r => r.holds actionId inputs

/-- What a caller configures: nothing, a JSON value, or a snapshot. -/
inductive RuleSet where
  | absent
  | value (v : PlainValue)
  | compiled (s : Snapshot)

/-- What holds a call: a rule, or a rule set that cannot be read
(`approval-rules.mjs` `UNUSABLE_RULE_SET`). -/
inductive HeldBy where
  | rule (r : CompiledRule)
  | unusable

def HeldBy.id : HeldBy → JsString
  | .rule r => r.id
  | .unusable => js "approval-rules-unusable"

/-- Source: `approval-rules.mjs` `matchApprovalRule`. -/
def matchApprovalRule (rules : RuleSet) (actionId : JsString) (inputs : Inputs) : Option HeldBy :=
  match rules with
  | .absent => none
  | .value .null => none
  | .compiled s => (matchCompiled s actionId inputs).map .rule
  | .value v =>
    match compileApprovalRules v with
    | .error _ => some .unusable
    | .ok s => (matchCompiled s actionId inputs).map .rule

/-- Does the rule set hold the call? -/
def RuleSet.holds (rules : RuleSet) (actionId : JsString) (inputs : Inputs) : Bool :=
  (matchApprovalRule rules actionId inputs).isSome

/-- A snapshot holds a call if one of its rules does. -/
lemma matchCompiled_isSome_iff (s : Snapshot) (actionId : JsString) (inputs : Inputs) :
    (matchCompiled s actionId inputs).isSome = true ↔
      ∃ r ∈ s.rules, r.holds actionId inputs = true := by
  rw [matchCompiled, List.find?_isSome]

/-- **A snapshot holds a call if one of its rules does**, wherever it stands. -/
lemma holds_iff (s : Snapshot) (actionId : JsString) (inputs : Inputs) :
    (RuleSet.compiled s).holds actionId inputs = true ↔
      ∃ r ∈ s.rules, r.holds actionId inputs = true := by
  rw [← matchCompiled_isSome_iff, RuleSet.holds, matchApprovalRule, Option.isSome_map]

end NoaMandate.Adapter
