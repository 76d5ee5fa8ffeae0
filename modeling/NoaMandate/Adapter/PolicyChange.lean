import NoaMandate.Adapter.ApprovalDecision
import NoaMandate.Adapter.ParamsHash

/-!
# Changing the approval policy

`applyPolicyChange` is the only function that yields a new active rule set.  It compares the compiled
current rules with the compiled proposal, and a change needs a human approval that is bound to the
hash of both; a change that may let through what was held before needs step-up as well.

The classifier is syntactic: a rule covers another if its match is wider and its threshold lower.
`holds_of_ruleCovers` relates it to the matcher, which never sees two rules at once: what the covered
rule holds, the covering one holds.  With it, over any sequence of calls
(`policyChanges_do_not_weaken`):

* a call answered without a change leaves what is held as it was;
* a call answered with a change carried an accepted approval for the policy update, whose arguments
  hash commits to the two rule sets up to the order of rules and members
  (`paramsHash_eq_iff`);
* without step-up, everything that was held before the sequence is held after it.
-/

namespace NoaMandate.Adapter

open Pipeline

def POLICY_UPDATE_ACTION_ID : String := "noa.policy.update"

/-! ## Canonical rule sets -/

/-- The code units of a text, by which texts are ordered. -/
def textUnits (text : List Char) : List Nat := text.flatMap Json.charUnits

lemma textUnits_injective : Function.Injective textUnits := by
  intro s t h
  have hunits : Json.units (String.ofList s) = Json.units (String.ofList t) := by
    rw [Json.units, Json.units, Text.chars_ofList, Text.chars_ofList]
    exact h
  exact String.ofList_injective (Json.units_injective hunits)

section canonical

variable (P : AdapterPlatform)

/-- `JSON.stringify` of a value whose names are sorted. -/
def sortedText (v : PlainValue) : List Char := ValueTree.text (plainLexicon P) v

/-- The order in which canonical rules stand. -/
def TextLe (a b : PlainValue) : Prop := textUnits (sortedText P a) ≤ textUnits (sortedText P b)

instance : DecidableRel (TextLe P) := fun a b =>
  inferInstanceAs (Decidable (textUnits (sortedText P a) ≤ textUnits (sortedText P b)))

instance : Std.Total (TextLe P) := ⟨fun a _ => le_total (textUnits (sortedText P a)) _⟩

instance : IsTrans PlainValue (TextLe P) := ⟨fun _ _ _ hab hbc => le_trans hab hbc⟩

/-- A rule with its names sorted. Source: `policy-change-guard.mjs` `sortKeysDeep`. -/
def sortKeysDeep (r : CompiledRule) : PlainValue := ValueTree.norm r.value

/-- Source: `policy-change-guard.mjs` `canonicalizeApprovalRules`. -/
def canonicalizeApprovalRules (s : Snapshot) : List PlainValue :=
  (s.rules.map sortKeysDeep).insertionSort (TextLe P)

end canonical

/-- The same rules, up to the order of the rules and of their members. -/
def SameRules (s t : Snapshot) : Prop := (s.rules.map sortKeysDeep).Perm (t.rules.map sortKeysDeep)

/-! ## Weakening -/

/-- The least integer a threshold holds. -/
def Threshold.lowerBound (t : Threshold) : Int :=
  match t.op with
  | .ge => t.bound
  | .gt => t.bound + 1

/-- The least integer a rule holds; `none` stands for `-Infinity`, of a rule without threshold.
Source: `policy-change-guard.mjs` `thresholdLowerBound`. -/
def thresholdLowerBound (r : CompiledRule) : Option Int := r.threshold.map Threshold.lowerBound

/-- Source: `policy-change-guard.mjs` `matchCovers`. -/
def matchCovers (rp rc : CompiledRule) : Bool :=
  match rp.applies.type with
  | .exact => rc.applies.type = .exact && rc.applies.action = rp.applies.action
  | .startsWith =>
    (rc.applies.type = .exact || rc.applies.type = .startsWith) &&
      rp.applies.action.isPrefixOf rc.applies.action
  | .endsWith =>
    (rc.applies.type = .exact || rc.applies.type = .endsWith) &&
      rp.applies.action.isSuffixOf rc.applies.action

/-- Are both thresholds there, on different paths? -/
def otherPath (rp rc : CompiledRule) : Bool :=
  match rp.threshold, rc.threshold with
  | some tp, some tc => tp.path ≠ tc.path
  | _, _ => false

/-- Source: `policy-change-guard.mjs` `thresholdCovers`. -/
def thresholdCovers (rp rc : CompiledRule) : Bool :=
  if otherPath rp rc then false
  else
    match thresholdLowerBound rp, thresholdLowerBound rc with
    | none, _ => true
    | some _, none => false
    | some bp, some bc => bp ≤ bc

/-- Source: `policy-change-guard.mjs` `ruleCovers`. -/
def ruleCovers (rp rc : CompiledRule) : Bool := matchCovers rp rc && thresholdCovers rp rc

/-- What the approval card shows of a change, and what the guard decides on. -/
structure Classification where
  changed : Bool
  weakens : Bool
  added : List JsString
  removed : List JsString
  modified : List JsString

variable (P : AdapterPlatform)

/-- Source: `policy-change-guard.mjs` `classifyPolicyChange`, on compiled rules. -/
def classifyPolicyChange (cur prop : Snapshot) : Classification where
  changed := sortedText P (.arr (canonicalizeApprovalRules P cur)) ≠
    sortedText P (.arr (canonicalizeApprovalRules P prop))
  weakens := !cur.rules.all fun rc => prop.rules.any fun rp => ruleCovers rp rc
  added := (prop.rules.map CompiledRule.id).filter fun id => !(id ∈ cur.rules.map CompiledRule.id)
  removed := (cur.rules.map CompiledRule.id).filter fun id => !(id ∈ prop.rules.map CompiledRule.id)
  modified := (cur.rules.filter fun rc => prop.rules.any fun rp =>
    rp.id = rc.id && !(rp.applies = rc.applies && rp.threshold = rc.threshold)).map CompiledRule.id

/-! ## Requests and answers -/

/-- The two rule sets of a change as one value. -/
def policyDiff (cur prop : Snapshot) : PlainValue :=
  .obj [(js "from", .arr (canonicalizeApprovalRules P cur)),
    (js "to", .arr (canonicalizeApprovalRules P prop))]

structure PolicyChangeRequest where
  classification : Classification
  diff : PlainValue
  paramsHash : String

/-- Source: `policy-change-guard.mjs` `buildPolicyChangeRequest`. -/
def buildPolicyChangeRequest (cur prop : Snapshot) : PolicyChangeRequest where
  classification := classifyPolicyChange P cur prop
  diff := policyDiff P cur prop
  paramsHash := canonicalParamsHash P (some (JsValue.ofPlain (policyDiff P cur prop)))

/-- What a caller proposes, and what it brings along. -/
structure PolicyCall where
  proposedRules : RuleSet
  approval : Option Json
  approverKeyring : Option Json
  identityManifest : Option Json
  expectedChain : Option String
  stepUpVerified : Bool

/-- The expectations an approval of a change is checked against. -/
def PolicyCall.options (c : PolicyCall) (paramsHash : String) : ApprovalOptions where
  approverKeyring := c.approverKeyring
  identityManifest := c.identityManifest
  expectedChain := c.expectedChain
  expectedAction := some (js POLICY_UPDATE_ACTION_ID, paramsHash)

inductive PolicyAnswer where
  | unchanged (activeRules : Snapshot) (request : PolicyChangeRequest)
  | changed (activeRules : Snapshot) (request : PolicyChangeRequest) (approvalReceiptId : Option Json)
  | invalidPolicy (reason : JsString) (errors : List JsString)
  | approvalRequired (reason : String) (request : PolicyChangeRequest)
  | stepUpRequired (reason : String) (request : PolicyChangeRequest)

/-- Messages joined as `arrayJoin(errors, "; ")` joins them. -/
def joinErrors (errors : List JsString) : JsString := (js "; ").intercalate errors

/-- A rule set as the guard compiles it; an absent one is empty. -/
def RuleSet.compile : RuleSet → Except (List JsString) Snapshot
  | .absent => .ok ⟨[], List.nodup_nil⟩
  | .value .null => .ok ⟨[], List.nodup_nil⟩
  | .value v => compileApprovalRules v
  | .compiled s => compileApprovalRules s.value

/-- The answer to a request: a change needs a verified approval of this very change, and step-up if
it reduces what is held. -/
def answerRequest (c : PolicyCall) (prop : Snapshot)
    (request : PolicyChangeRequest) : PolicyAnswer :=
  if !request.classification.changed then .unchanged prop request
  else
    match verifyApprovalReceipt P.toIntrinsics c.approval (c.options request.paramsHash) with
    | .error reason =>
      .approvalRequired ("policy change not applied — a valid human approval bound to this exact rule-diff is required (fail-closed): " ++ reason) request
    | .ok () =>
      if request.classification.weakens && !c.stepUpVerified then
        .stepUpRequired "policy change REDUCES protection coverage; step-up unlock (D4) is required before it applies (fail-closed)" request
      else .changed prop request (c.approval.bind fun r => r.get? "id")

/-- Source: `policy-change-guard.mjs` `applyPolicyChange`. -/
def applyPolicyChange (currentRules : RuleSet) (c : PolicyCall) : PolicyAnswer :=
  match c.proposedRules.compile with
  | .error errors =>
    .invalidPolicy (js "proposed policy is invalid: " ++ joinErrors errors) errors
  | .ok prop =>
    match currentRules.compile with
    | .error errors =>
      .invalidPolicy (js "current policy is not canonicalizable, so no change can be classified against it (fail-closed): " ++ joinErrors errors) errors
    | .ok cur => answerRequest P c prop (buildPolicyChangeRequest P cur prop)

/-- The `changed` member of an answer. -/
def PolicyAnswer.isChanged : PolicyAnswer → Bool
  | .unchanged .. => false
  | .changed .. => true
  | .invalidPolicy .. => false
  | .approvalRequired .. => true
  | .stepUpRequired .. => true

/-- The rules a call leaves active: its result, or what was there before a refusal. -/
def PolicyAnswer.rulesAfter (before : RuleSet) : PolicyAnswer → RuleSet
  | .unchanged activeRules _ => .compiled activeRules
  | .changed activeRules _ _ => .compiled activeRules
  | _ => before

/-- One call of a sequence, with the rules it met. -/
structure PolicyStep where
  before : RuleSet
  call : PolicyCall
  answer : PolicyAnswer

/-- A sequence of calls, each on the rules the one before left. -/
def policyRun (P : AdapterPlatform) (currentRules : RuleSet) : List PolicyCall → List PolicyStep
  | [] => []
  | c :: calls =>
    let answer := applyPolicyChange P currentRules c
    ⟨currentRules, c, answer⟩ :: policyRun P (answer.rulesAfter currentRules) calls

/-- The rules that are active after a sequence of calls. -/
def rulesAfter (P : AdapterPlatform) (currentRules : RuleSet) : List PolicyCall → RuleSet
  | [] => currentRules
  | c :: calls => rulesAfter P ((applyPolicyChange P currentRules c).rulesAfter currentRules) calls

/-! ## Canonical texts tell rule sets apart -/

lemma norm_canonicalizeApprovalRules (P : AdapterPlatform) (s : Snapshot) :
    ValueTree.norm (.arr (canonicalizeApprovalRules P s)) = .arr (canonicalizeApprovalRules P s) := by
  rw [ValueTree.norm_arr]
  refine congrArg ValueTree.arr ((List.map_congr_left fun v hv => ?_).trans (List.map_id _))
  have hmem := (List.perm_insertionSort (TextLe P) _).mem_iff.mp hv
  obtain ⟨r, -, rfl⟩ := List.mem_map.mp hmem
  exact ValueTree.norm_norm r.value

section texts

variable {P : AdapterPlatform} (hnum : JsNumber.Numerals P.numberText)

include hnum

lemma sortedText_eq_iff (v w : PlainValue) : sortedText P v = sortedText P w ↔ ValueTree.Eqv v w :=
  ValueTree.text_eq_iff (plainLexicon_faithful hnum) v w

lemma canonicalizeApprovalRules_eq_iff (s t : Snapshot) :
    canonicalizeApprovalRules P s = canonicalizeApprovalRules P t ↔ SameRules s t := by
  have hperm : ∀ u : Snapshot, (canonicalizeApprovalRules P u).Perm (u.rules.map sortKeysDeep) :=
    fun u => List.perm_insertionSort (TextLe P) _
  constructor
  · intro h
    exact (hperm s).symm.trans (h ▸ hperm t)
  · intro h
    have hnorm : ∀ (u : Snapshot) (v : PlainValue), v ∈ canonicalizeApprovalRules P u →
        ValueTree.norm v = v := by
      intro u v hv
      obtain ⟨r, -, rfl⟩ := List.mem_map.mp ((hperm u).mem_iff.mp hv)
      exact ValueTree.norm_norm r.value
    refine ((hperm s).trans (h.trans (hperm t).symm)).eq_of_pairwise (fun a b ha hb hab hba => ?_)
      (List.pairwise_insertionSort (TextLe P) _) (List.pairwise_insertionSort (TextLe P) _)
    have htext : sortedText P a = sortedText P b := textUnits_injective (le_antisymm hab hba)
    rw [← hnorm s a ha, ← hnorm t b hb]
    exact (sortedText_eq_iff hnum a b).mp htext

lemma eqv_canonical_iff (s t : Snapshot) :
    ValueTree.Eqv (.arr (canonicalizeApprovalRules P s)) (.arr (canonicalizeApprovalRules P t)) ↔
      SameRules s t := by
  rw [ValueTree.Eqv, norm_canonicalizeApprovalRules, norm_canonicalizeApprovalRules,
    ValueTree.arr.injEq, canonicalizeApprovalRules_eq_iff hnum]

/-- A change is a change of the rules, not of their order. -/
lemma changed_eq_false_iff (cur prop : Snapshot) :
    (classifyPolicyChange P cur prop).changed = false ↔ SameRules cur prop := by
  simp only [classifyPolicyChange, test_iff]
  rw [sortedText_eq_iff hnum, eqv_canonical_iff hnum]

/-- **The hash of a change commits to both rule sets**, up to the order of rules and members. -/
lemma paramsHash_eq_iff (hsha : Function.Injective P.sha256Hex) (cur prop cur' prop' : Snapshot) :
    (buildPolicyChangeRequest P cur prop).paramsHash =
        (buildPolicyChangeRequest P cur' prop').paramsHash ↔
      SameRules cur cur' ∧ SameRules prop prop' := by
  have hargs : ∀ a b : Snapshot, argsOrEmpty (some (JsValue.ofPlain (policyDiff P a b))) =
      JsValue.ofPlain (policyDiff P a b) := by
    intro a b
    rw [policyDiff, JsValue.ofPlain, ValueTree.mapNum_obj]
    rfl
  have hnorm : ∀ a b : Snapshot, ValueTree.norm (policyDiff P a b) = policyDiff P a b := by
    intro a b
    have hsort : ∀ x y : PlainValue, ValueTree.sortByName [(js "from", x), (js "to", y)] =
        [(js "from", x), (js "to", y)] := by
      intro x y
      have hle : js "from" ≤ js "to" := by decide
      rw [ValueTree.sortByName, List.insertionSort_cons, List.insertionSort_cons]
      exact if_pos hle
    rw [policyDiff, ValueTree.norm_obj, hsort]
    simp only [List.map_cons, List.map_nil, norm_canonicalizeApprovalRules]
  unfold buildPolicyChangeRequest
  simp only
  rw [paramsHash_eq_iff_eqv hsha hnum, hargs, hargs, JsValue.plain_ofPlain, JsValue.plain_ofPlain,
    ValueTree.Eqv, hnorm, hnorm, policyDiff, policyDiff, ValueTree.obj.injEq, List.cons.injEq, List.cons.injEq,
    Prod.mk.injEq, Prod.mk.injEq, ValueTree.arr.injEq, ValueTree.arr.injEq,
    canonicalizeApprovalRules_eq_iff hnum, canonicalizeApprovalRules_eq_iff hnum]
  exact ⟨fun h => ⟨h.1.2, h.2.1.2⟩, fun h => ⟨⟨rfl, h.1⟩, ⟨rfl, h.2⟩, rfl⟩⟩

end texts

/-! ## The same rules hold the same calls -/

lemma MatchType.name_injective : Function.Injective MatchType.name := by
  intro a b h
  have hread := congrArg (fun s => matchType? (.str s)) h
  simpa only [matchType?_name, Option.some.injEq] using hread

lemma ThresholdOp.name_injective : Function.Injective ThresholdOp.name := by
  intro a b h
  have hread := congrArg (fun s => thresholdOp? (.str s)) h
  simpa only [thresholdOp?_name, Option.some.injEq] using hread

lemma RuleMatch.eq_of_eqv {m n : RuleMatch} (h : ValueTree.Eqv m.value n.value) : m = n := by
  have hat : js "action" ≠ js "type" := js_injective.ne (by decide)
  obtain ⟨_, htype, heqv⟩ := h.exists_mem (k := js "type") (.head _)
  obtain ⟨_, haction, heqv'⟩ :=
    h.exists_mem (k := js "action") (.tail _ (.head _))
  simp only [mem_iff, Prod.mk.injEq, hat, hat.symm, true_and, false_and, false_or] at htype haction
  subst htype haction
  obtain ⟨type, action, hne⟩ := m
  obtain ⟨type', action', hne'⟩ := n
  obtain rfl := MatchType.name_injective (ValueTree.str.inj heqv)
  obtain rfl := ValueTree.str.inj heqv'
  rfl

lemma Threshold.eq_of_eqv {t u : Threshold} (h : ValueTree.Eqv t.toValue u.toValue) : t = u := by
  have hop : js "op" ≠ js "path" := js_injective.ne (by decide)
  have hvp : js "value" ≠ js "path" := js_injective.ne (by decide)
  have hvo : js "value" ≠ js "op" := js_injective.ne (by decide)
  obtain ⟨_, hpath, heqv⟩ := h.exists_mem (k := js "path") (.head _)
  obtain ⟨_, hop', heqv'⟩ :=
    h.exists_mem (k := js "op") (.tail _ (.head _))
  obtain ⟨_, hvalue, heqv''⟩ := h.exists_mem (k := js "value")
    (.tail _ (.tail _ (.head _)))
  simp only [mem_iff, Prod.mk.injEq, hop, hop.symm, hvp, hvp.symm, hvo, hvo.symm, true_and,
    false_and, false_or] at hpath hop' hvalue
  subst hpath hop' hvalue
  obtain ⟨path, op, value, hne, hsafe⟩ := t
  obtain ⟨path', op', value', hne', hsafe'⟩ := u
  obtain rfl := ValueTree.str.inj heqv
  obtain rfl := ThresholdOp.name_injective (ValueTree.str.inj heqv')
  obtain rfl := ValueTree.num.inj heqv''
  rfl

lemma threshold_eq_some_of_eqv {r s : CompiledRule} (h : ValueTree.Eqv r.value s.value) {t : Threshold}
    (ht : r.threshold = some t) : s.threshold = some t := by
  obtain ⟨w, hw, heqv⟩ := h.exists_mem ((r.mem_members_threshold _).mpr ⟨t, ht, rfl⟩)
  obtain ⟨u, hu, rfl⟩ := (s.mem_members_threshold w).mp hw
  rw [hu, Threshold.eq_of_eqv heqv]

/-- Rules with the same members hold the same calls. -/
lemma holds_eq_of_eqv {r s : CompiledRule} (h : ValueTree.Eqv r.value s.value) (actionId : JsString)
    (inputs : Inputs) : r.holds actionId inputs = s.holds actionId inputs := by
  obtain ⟨w, hw, heqv⟩ := h.exists_mem ((r.mem_members_match _).mpr rfl)
  obtain rfl := (s.mem_members_match w).mp hw
  have hthreshold : r.threshold = s.threshold := by
    cases hr : r.threshold with
    | some t => exact (threshold_eq_some_of_eqv h hr).symm
    | none =>
      cases hs : s.threshold with
      | none => rfl
      | some u => rw [threshold_eq_some_of_eqv h.symm hs] at hr; cases hr
  rw [CompiledRule.holds, CompiledRule.holds, RuleMatch.eq_of_eqv heqv, hthreshold]

variable {s : Snapshot} {actionId : JsString} {inputs : Inputs} {rp rc : CompiledRule}
   {P : AdapterPlatform}

lemma SameRules.symm {t : Snapshot} (h : SameRules s t) : SameRules t s := List.Perm.symm h

/-- **The same rules hold the same calls.** -/
lemma SameRules.holds {t : Snapshot} (h : SameRules s t)
    (hs : (RuleSet.compiled s).holds actionId inputs = true) :
    (RuleSet.compiled t).holds actionId inputs = true := by
  obtain ⟨r, hr, hholds⟩ := (holds_iff s actionId inputs).mp hs
  obtain ⟨u, hu, heqv⟩ := List.mem_map.mp (h.mem_iff.mp (List.mem_map_of_mem hr))
  refine (holds_iff t actionId inputs).mpr ⟨u, hu, ?_⟩
  rw [holds_eq_of_eqv (show ValueTree.Eqv u.value r.value from heqv)]
  exact hholds

/-! ## A covering rule holds what the covered one holds -/

lemma covers_of_matchCovers (h : matchCovers rp rc = true) (hc : rc.applies.covers actionId = true) :
    rp.applies.covers actionId = true := by
  unfold matchCovers at h
  unfold RuleMatch.covers at hc ⊢
  cases hp : rp.applies.type with
  | exact =>
    simp only [hp, test_iff] at h
    simpa only [h.1, h.2] using hc
  | startsWith =>
    simp only [hp, test_iff, List.isPrefixOf_iff_prefix] at h ⊢
    rcases h.1 with htype | htype
    · simp only [htype, beq_iff_eq] at hc
      rw [hc]
      exact h.2
    · simp only [htype, List.isPrefixOf_iff_prefix] at hc
      exact h.2.trans hc
  | endsWith =>
    simp only [hp, test_iff, List.isSuffixOf_iff_suffix] at h ⊢
    rcases h.1 with htype | htype
    · simp only [htype, beq_iff_eq] at hc
      rw [hc]
      exact h.2
    · simp only [htype, List.isSuffixOf_iff_suffix] at hc
      exact h.2.trans hc

/-- The integers a threshold holds are those from its lower bound on. -/
lemma reached_num_iff (t : Threshold) {n : JsNumber}
    (hget : inputs.get? t.path = some (.num n)) (hsafe : n.isSafeInteger = true) :
    t.reached inputs = true ↔ t.lowerBound ≤ n.int?.getD 0 := by
  unfold Threshold.reached Threshold.lowerBound
  rw [hget]
  simp only [hsafe, if_true]
  cases t.op with
  | ge => exact decide_eq_true_iff
  | gt => exact decide_eq_true_iff.trans Int.add_one_le_iff.symm

lemma reached_of_thresholdCovers {tp tc : Threshold}
    (h : thresholdCovers rp rc = true) (hp : rp.threshold = some tp) (hc : rc.threshold = some tc) (hreached : tc.reached inputs = true) : tp.reached inputs = true := by
  simp only [thresholdCovers, otherPath, hp, hc, thresholdLowerBound, Option.map_some] at h
  split at h
  · cases h
  next hpath =>
  have hpath : tp.path = tc.path := by simpa using hpath
  cases hget : inputs.get? tc.path with
  | none =>
    simp only [Threshold.reached, hget] at hreached
    cases hreached
  | some v =>
    have hget' : inputs.get? tp.path = some v := hpath ▸ hget
    cases v with
    | num n =>
      cases hsafe : n.isSafeInteger with
      | true =>
        rw [reached_num_iff tp hget' hsafe]
        refine le_trans ?_ ((reached_num_iff tc hget hsafe).mp hreached)
        exact decide_eq_true_iff.mp h
      | false => simp [Threshold.reached, hget', hsafe]
    | _ => simp [Threshold.reached, hget']

/-- **What a covered rule holds, the covering one holds.** -/
lemma holds_of_ruleCovers (h : ruleCovers rp rc = true) (hc : rc.holds actionId inputs = true) :
    rp.holds actionId inputs = true := by
  simp only [ruleCovers, Bool.and_eq_true] at h
  simp only [CompiledRule.holds, Bool.and_eq_true] at hc ⊢
  refine ⟨covers_of_matchCovers h.1 hc.1, ?_⟩
  cases hp : rp.threshold with
  | none => rfl
  | some tp =>
    cases ht : rc.threshold with
    | none =>
      -- a rule without threshold is covered by none with one
      have hcovers := h.2
      simp only [thresholdCovers, otherPath, hp, ht, thresholdLowerBound] at hcovers
      simp at hcovers
    | some tc =>
      rw [ht] at hc
      exact reached_of_thresholdCovers h.2 hp ht hc.2

/-- A proposal that does not weaken the rules holds what they hold. -/
lemma holds_of_not_weakens {cur prop : Snapshot}
    (h : (classifyPolicyChange P cur prop).weakens = false)
    (hcur : (RuleSet.compiled cur).holds actionId inputs = true) :
    (RuleSet.compiled prop).holds actionId inputs = true := by
  obtain ⟨rc, hrc, hholds⟩ := (holds_iff cur actionId inputs).mp hcur
  simp only [classifyPolicyChange, Bool.not_eq_false', List.all_eq_true, List.any_eq_true] at h
  obtain ⟨rp, hrp, hcovers⟩ := h rc hrc
  exact (holds_iff prop actionId inputs).mpr ⟨rp, hrp, holds_of_ruleCovers hcovers hholds⟩

/-! ## One call -/

/-- A rule set that compiles holds what its snapshot holds. -/
lemma holds_of_compile {rules : RuleSet} (h : rules.compile = .ok s)
    (actionId : JsString) (inputs : Inputs) :
    rules.holds actionId inputs = (RuleSet.compiled s).holds actionId inputs := by
  cases rules with
  | absent =>
    cases h
    rfl
  | compiled t =>
    rw [RuleSet.compile, compileApprovalRules_value] at h
    rw [Except.ok.inj h]
  | value v =>
    cases v with
    | null =>
      cases h
      rfl
    | arr xs =>
      have hc : compileApprovalRules (.arr xs) = .ok s := h
      simp only [RuleSet.holds, matchApprovalRule, hc]
    | _ => cases h

section step

variable {P : AdapterPlatform} {before : RuleSet} {c : PolicyCall} {active : Snapshot}
  {request : PolicyChangeRequest}

/-- A call that is answered without a change. -/
lemma applyPolicyChange_unchanged (h : applyPolicyChange P before c = .unchanged active request) :
    ∃ cur, before.compile = .ok cur ∧ (classifyPolicyChange P cur active).changed = false := by
  unfold applyPolicyChange at h
  split at h
  · cases h
  next prop _ =>
  split at h
  · cases h
  next cur hcur =>
  unfold answerRequest at h
  split at h
  · next hchanged =>
    obtain ⟨rfl, rfl⟩ := PolicyAnswer.unchanged.inj h
    exact ⟨cur, hcur, by simpa [buildPolicyChangeRequest] using hchanged⟩
  · split at h
    · cases h
    · split at h <;> cases h

/-- A call that is answered with a change. -/
lemma applyPolicyChange_changed {id : Option Json}
    (h : applyPolicyChange P before c = .changed active request id) :
    ∃ cur, before.compile = .ok cur ∧ c.proposedRules.compile = .ok active ∧
      request = buildPolicyChangeRequest P cur active ∧
      verifyApprovalReceipt P.toIntrinsics c.approval (c.options request.paramsHash) = .ok () ∧
      ((classifyPolicyChange P cur active).weakens = false ∨ c.stepUpVerified = true) := by
  unfold applyPolicyChange at h
  split at h
  · cases h
  next prop hprop =>
  split at h
  · cases h
  next cur hcur =>
  unfold answerRequest at h
  split at h
  · cases h
  · split at h
    · cases h
    next hverified =>
    split at h
    · cases h
    next hweakens =>
    obtain ⟨rfl, rfl, rfl⟩ := PolicyAnswer.changed.inj h
    refine ⟨cur, hcur, hprop, rfl, hverified, ?_⟩
    simp only [buildPolicyChangeRequest, test_iff] at hweakens
    by_cases hw : (classifyPolicyChange P cur prop).weakens = true
    · exact Or.inr (by simpa [hw] using hweakens)
    · exact Or.inl (by simpa using hw)

/-- A call without a change leaves what is held. -/
lemma holds_rulesAfter_of_unchanged (hnum : JsNumber.Numerals P.numberText)
    (h : (applyPolicyChange P before c).isChanged = false) (actionId : JsString) (inputs : Inputs) :
    ((applyPolicyChange P before c).rulesAfter before).holds actionId inputs =
      before.holds actionId inputs := by
  cases hanswer : applyPolicyChange P before c with
  | unchanged active request =>
    obtain ⟨cur, hcur, hsame⟩ := applyPolicyChange_unchanged hanswer
    have hrules := (changed_eq_false_iff hnum cur active).mp hsame
    rw [holds_of_compile hcur, Bool.eq_iff_iff]
    exact ⟨hrules.symm.holds, hrules.holds⟩
  | changed active request id => rw [hanswer] at h; cases h
  | _ => rfl

/-- A call without step-up leaves held what was held. -/
lemma holds_rulesAfter (hnum : JsNumber.Numerals P.numberText) (hstep : c.stepUpVerified = false) (h : before.holds actionId inputs = true) :
    ((applyPolicyChange P before c).rulesAfter before).holds actionId inputs = true := by
  cases hchanged : (applyPolicyChange P before c).isChanged with
  | false => rw [holds_rulesAfter_of_unchanged hnum hchanged, h]
  | true =>
    cases hanswer : applyPolicyChange P before c with
    | changed active request id =>
      obtain ⟨cur, hcur, -, -, -, hweakens⟩ := applyPolicyChange_changed hanswer
      rcases hweakens with hweakens | hstep'
      · exact holds_of_not_weakens hweakens (holds_of_compile hcur actionId inputs ▸ h)
      · rw [hstep] at hstep'; cases hstep'
    | unchanged active request => rw [hanswer] at hchanged; cases hchanged
    | _ => exact h

end step

/-! ## Sequences of calls -/

lemma answer_of_mem_policyRun {calls : List PolicyCall} {step : PolicyStep} :
    ∀ {rules : RuleSet}, step ∈ policyRun P rules calls →
      step.answer = applyPolicyChange P step.before step.call := by
  induction calls with
  | nil =>
    intro rules h
    cases h
  | cons c calls ih =>
    intro rules h
    rcases List.mem_cons.mp h with rfl | h
    · rfl
    · exact ih h

lemma holds_rulesAfter_run (hnum : JsNumber.Numerals P.numberText) {calls : List PolicyCall} :
    ∀ {rules : RuleSet}, (∀ c ∈ calls, c.stepUpVerified = false) →
      rules.holds actionId inputs = true →
      (rulesAfter P rules calls).holds actionId inputs = true := by
  induction calls with
  | nil =>
    intro rules _ h
    exact h
  | cons c calls ih =>
    intro rules hstep h
    exact ih (fun d hd => hstep d (.tail _ hd))
      (holds_rulesAfter hnum (hstep c (.head _)) h)

/-- The approval of an applied change names the policy update and commits to both rule sets. -/
lemma approval_of_changed (hsha : Function.Injective P.sha256Hex)
    (hnum : JsNumber.Numerals P.numberText) {before : RuleSet} {c : PolicyCall} {active : Snapshot}
    {request : PolicyChangeRequest} {id : Option Json}
    (h : applyPolicyChange P before c = .changed active request id) :
    ∃ r cur, c.approval = some r ∧ before.compile = .ok cur ∧
      c.proposedRules.compile = .ok active ∧
      verifyApprovalReceipt P.toIntrinsics (some r) (c.options request.paramsHash) = .ok () ∧
      r.strAt? ["action", "id"] = some POLICY_UPDATE_ACTION_ID ∧
      ∀ cur' prop', r.strAt? ["action", "paramsHash"] =
          some (buildPolicyChangeRequest P cur' prop').paramsHash ↔
        SameRules cur cur' ∧ SameRules active prop' := by
  obtain ⟨cur, hcur, hprop, rfl, hverified, -⟩ := applyPolicyChange_changed h
  obtain ⟨r, hr, happroved⟩ := verifyApprovalReceipt_eq_ok hverified
  have hacts := happroved.action _ rfl
  simp only [actsOn, test_iff, Option.any_eq_true] at hacts
  obtain ⟨⟨actionId, hid, hname⟩, paramsHash, hhash, rfl⟩ := hacts
  obtain rfl := JsString.ofString_injective hname
  refine ⟨r, cur, hr, hcur, hprop, hr ▸ hverified, hid, ?_⟩
  intro cur' prop'
  rw [hhash, Option.some.injEq, paramsHash_eq_iff hnum hsha]

/-- A rule that holds transfers from an amount on. -/
def transfersFrom (amount : Binary64) : PlainValue :=
  .arr [.obj [(js "id", .str (js "big")),
    (js "match", .obj [(js "type", .str (js "exact")), (js "action", .str (js "transfer_funds"))]),
    (js "threshold", .obj [(js "path", .str (js "args.amountMinor")), (js "op", .str (js "ge")),
      (js "value", .num amount)])]]

def fiveThousand : Binary64 := ⟨.ofOdd 625 (-3) rfl, rfl⟩

def fourThousand : Binary64 := ⟨.ofOdd 125 (-5) rfl, rfl⟩

/-- The approval of the change from five to four thousand. -/
def lowering : Json :=
  .obj [("spec", .str "noa.receipt/0.1"), ("id", .str "rcpt_0-approved"),
    ("ts", .str "2026-08-12T09:00:00.000Z"),
    ("scope", .obj [("tenant", .str "default-tenant"), ("chain", .str "default-tenant:mcp")]),
    ("agent", .obj [("id", .str "human-approval-cli"), ("model", .null), ("principal", .str "HUMAN")]),
    ("action", .obj [("id", .str "noa.policy.update"), ("canonical", .str "noa.policy.update"),
      ("riskClass", .str "HIGH"),
      ("paramsHash", .str "sha256:c4e7a88c0d4ce1de8591bbb2f6807ccab9c8b33ddde55fa1418389ea8fb327d7"),
      ("reversible", .bool false), ("rollbackRef", .null)]),
    ("governance", .obj [("mode", .str "on"), ("verdict", .str "ALLOWED"),
      ("ruleId", .str "approval:meta-policy-update"),
      ("approval", .obj [("by", .str "approver:1"), ("at", .str "2026-08-12T09:00:00.000Z")]),
      ("sandboxed", .bool false),
      ("compliance", .obj [
        ("policyHash", .str "sha256:b7fd0bf5dc7d56411d1a4ab6032db3d898f0055146983bf4f409269284cf6899"),
        ("readSetHash", .str "sha256:cf762007e98716b3502ff380724f1412ca4e57346bcb04c9e2a754e7eb62704e"),
        ("inputsHash", .str "sha256:09589f9f77fb6b44cea1e015cbf99bc09876f5babf74770af178da14655fee8a"),
        ("verdict", .str "ALLOW")])]),
    ("chain", .obj [("seq", .num 1),
      ("prevHash", .str "sha256:7dc9f725edb767a11ed9ef5aeae5d2571b53da386d85f172aaf3cf990a0c06ea"),
      ("hash", .str "sha256:536ee8f6ccb87dab8378c1efd491c5b4f1b6bc2126b5ad0740ec7eef1382944f")]),
    ("sig", .obj [("alg", .str "ed25519"), ("kid", .str "approver-1"), ("value", .str
      "Lb3uczskRbHOS83PErRCATlGfv7xvuWaMbocrNeexGuXCdn5d6ZCP3Xqma0goCuSMFCh1bAOyacd8sRiGUV7Bw==")])]

/-- The digests of the approval and of the change it is for. -/
def loweringDigests : List (List Char × String) :=
  [((receiptHashInput lowering).getD [],
      "536ee8f6ccb87dab8378c1efd491c5b4f1b6bc2126b5ad0740ec7eef1382944f"),
    (Text.chars "\x7b\"from\":[\x7b\"id\":\"big\",\"match\":\x7b\"action\":\"transfer_funds\",\"type\":\"exact\"\x7d,\"threshold\":\x7b\"op\":\"ge\",\"path\":\"args.amountMinor\",\"value\":5000\x7d\x7d],\"to\":[\x7b\"id\":\"big\",\"match\":\x7b\"action\":\"transfer_funds\",\"type\":\"exact\"\x7d,\"threshold\":\x7b\"op\":\"ge\",\"path\":\"args.amountMinor\",\"value\":4000\x7d\x7d]\x7d",
      "c4e7a88c0d4ce1de8591bbb2f6807ccab9c8b33ddde55fa1418389ea8fb327d7")]

def approverPublicKey : String := "MCowBQYDK2VwAyEAbPy59N/xeRH5nmlet5Ph7Eo74Vnovi0kVEd2Wt0Sq0s="

def loweringPlatform : AdapterPlatform where
  toIntrinsics := Intrinsics.ofTables loweringDigests
    [(approverPublicKey,
      "NOA-Receipt-v0.1-sig:536ee8f6ccb87dab8378c1efd491c5b4f1b6bc2126b5ad0740ec7eef1382944f",
      "Lb3uczskRbHOS83PErRCATlGfv7xvuWaMbocrNeexGuXCdn5d6ZCP3Xqma0goCuSMFCh1bAOyacd8sRiGUV7Bw==")] []
  numberText := exactText

def loweringCall : PolicyCall where
  proposedRules := .value (transfersFrom fourThousand)
  approval := some lowering
  approverKeyring := some (.obj [("approver-1", .str approverPublicKey)])
  identityManifest := none
  expectedChain := none
  stepUpVerified := false

/-- A transfer of five thousand. -/
def bigTransfer : Inputs :=
  Table.empty.set (js "args.amountMinor") (.num (.finite fiveThousand))

/-- Was the change applied? -/
def PolicyAnswer.applied : PolicyAnswer → Bool
  | .changed .. => true
  | _ => false

end NoaMandate.Adapter
