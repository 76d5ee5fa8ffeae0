import NoaMandate.Adapter.Flatten
import NoaMandate.Kernel.Builder

/-!
# The policy decision point

`preCheck` decides a tool call before it runs and answers with a signed receipt of the decision.
`computeReceiptPlan` is everything up to the signature: the inputs a policy is evaluated on, the
guards that deny without asking the policy, and the hold of an approval rule on what the policy
allows.

The policy engine is a parameter (`PolicyEngine`): what it answers on given inputs is another
component's matter.  What it is *given* is settled here.  `preCheck_shows_leaves`: either the
engine is asked, and then its inputs hold the leaves of the arguments, each under its own dotted path,
up to the stated bounds on depth and number; or a guard denies, and the receipt commits to nothing.
-/

namespace NoaMandate.Adapter

open Pipeline

/-! ## Parameters -/

/-- The platform of an adapter that signs its own receipts. -/
structure GatePlatform extends AdapterPlatform, SigningPlatform

/-- What the engine answers. -/
structure Evaluation where
  allow : Bool
  ruleFired : Option String
  engine : String
  deriving DecidableEq, Repr

/-- The commitment of a receipt to the policy and the inputs of its decision. -/
structure Compliance where
  policyHash : String
  readSetHash : String
  inputsHash : String
  verdict : String

def Compliance.toJson (c : Compliance) : Json :=
  .obj [("policyHash", .str c.policyHash), ("readSetHash", .str c.readSetHash),
    ("inputsHash", .str c.inputsHash), ("verdict", .str c.verdict)]

/-- The policy engine; `none` where the source throws. -/
structure PolicyEngine (π : Type) where
  evaluate : π → Inputs → Evaluation
  complianceCommit : π → Inputs → Option Compliance
  policyHash : π → Option String

structure ToolCall where
  name : JsString
  args : Option JsValue
  agentId : Option JsString

structure PlanOptions (π : Type) where
  policy : π
  seq : Int
  tenant : String
  chain : Option String
  ts : String
  approvalRules : RuleSet
  suppressApprovalHold : Bool

/-! ## The inputs of the policy -/

/-- Why a call is denied without asking the policy. -/
inductive InputGuard where
  | invalidActionName
  | ambiguousDottedKey
  | uncanonicalizable
  deriving DecidableEq, Repr

def InputGuard.evaluation : InputGuard → Evaluation
  | .invalidActionName => ⟨false, some "invalid-action-name", "toolcall-read-guard"⟩
  | .ambiguousDottedKey =>
    ⟨false, some "args-flatten-ambiguous-dotted-key", "args-flatten-ambiguity-guard"⟩
  | .uncanonicalizable => ⟨false, some "args-uncanonicalizable", "args-canonicalization-guard"⟩

/-- `args?.amountMinor`. -/
def amountMinor? : Option JsValue → Option JsValue
  | some (.obj ms) => ms.lookup (js "amountMinor")
  | _ => none

/-- The inputs that are set by hand. -/
def baseInputs (call : ToolCall) : Inputs :=
  let inputs : Inputs := Table.empty.set (js "action") (.str call.name)
  match amountMinor? call.args with
  | some v => inputs.set (js "amountMinor") v
  | none => inputs

/-- The table of the arguments; there is nothing in it for a call without arguments. -/
def flattenedArgs (P : AdapterPlatform) : Option JsValue → Inputs
  | none => .empty
  | some args => (flattenArgsToPolicyInputs P args (js "args") 0 {}).out

def hasAmbiguousKey : Option JsValue → Bool
  | none => false
  | some args => (findAmbiguousDottedArgKey args (js "args") 0).isSome

/-- The inputs the policy is evaluated on, or the guard that denies first. -/
def policyInputs (P : AdapterPlatform) (call : ToolCall) : Except InputGuard Inputs := do
  refuse call.name.isEmpty .invalidActionName
  refuse (hasAmbiguousKey call.args) .ambiguousDottedKey
  refuse (canonicalParamsHash P call.args == uncanonicalizableArgsSentinel P) .uncanonicalizable
  return (baseInputs call).assign (flattenedArgs P call.args)

/-! ## The decision -/

inductive Decision where
  | allow
  | deny
  | deferred
  deriving DecidableEq, Repr

/-- What is known of a call before its receipt is built. -/
structure Plan where
  /-- The inputs the engine was asked with, if it was asked. -/
  evaluated : Option Inputs
  evaluation : Evaluation
  inputs : Inputs
  heldRule : Option HeldBy
  compliance : Option Compliance

/-- Source: `pre-check.mjs` `computeReceiptPlan`. -/
def computeReceiptPlan {π : Type} (P : AdapterPlatform) (E : PolicyEngine π) (call : ToolCall)
    (opts : PlanOptions π) : Plan :=
  match policyInputs P call with
  | .error guard =>
    { evaluated := none
      evaluation := guard.evaluation
      inputs := baseInputs call
      heldRule := none
      compliance := none }
  | .ok inputs =>
    { evaluated := some inputs
      evaluation := E.evaluate opts.policy inputs
      inputs
      heldRule :=
        if (E.evaluate opts.policy inputs).allow && !opts.suppressApprovalHold then
          matchApprovalRule opts.approvalRules call.name inputs
        else none
      compliance := E.complianceCommit opts.policy inputs }

/-- `finalDecision`. -/
def Plan.decision (plan : Plan) : Decision :=
  if plan.heldRule.isSome then .deferred else if plan.evaluation.allow then .allow else .deny

lemma Plan.decision_eq_allow_iff (plan : Plan) :
    plan.decision = .allow ↔ plan.heldRule = none ∧ plan.evaluation.allow = true := by
  unfold decision
  cases plan.heldRule with
  | none => cases plan.evaluation.allow <;> simp
  | some rule => simp

/-- The texts of a receipt that come from the call; `none` when one of them is ill formed, which no
receipt can hold. -/
structure ReceiptTexts where
  actionId : String
  agentId : String
  ruleId : String

def actionText? (call : ToolCall) : Option String :=
  if call.name.isEmpty then some "unknown-action" else call.name.toString?

def agentText? (call : ToolCall) : Option String :=
  match call.agentId with
  | none => some "mcp-agent"
  | some agentId => if agentId.isEmpty then some "mcp-agent" else agentId.toString?

def Plan.ruleText? (plan : Plan) : Option String :=
  match plan.heldRule with
  | some rule => rule.id.toString?.map fun id => "approval:" ++ id
  | none => some (plan.evaluation.ruleFired.getD "default-deny")

def Plan.texts? (plan : Plan) (call : ToolCall) : Option ReceiptTexts := do
  let actionId ← actionText? call
  let agentId ← agentText? call
  let ruleId ← plan.ruleText?
  return ⟨actionId, agentId, ruleId⟩

def Decision.verdict : Decision → String
  | .allow => "ALLOWED"
  | .deferred => "DEFERRED"
  | .deny => "BLOCKED"

def Decision.riskClass : Decision → String
  | .allow => "LOW"
  | _ => "HIGH"

/-- The `governance` of the receipt. -/
def Plan.governance (plan : Plan) (ruleId : String) : Json :=
  .obj [("mode", .str "on"), ("verdict", .str plan.decision.verdict), ("ruleId", .str ruleId),
    ("approval", .null), ("sandboxed", .bool false),
    ("compliance", (plan.compliance.map Compliance.toJson).getD .null)]

lemma Plan.distinct_governance (plan : Plan) (ruleId : String) :
    (plan.governance ruleId).Distinct := by
  cases h : plan.compliance with
  | none => simp [governance, h, Json.Distinct]
  | some c => simp [governance, h, Compliance.toJson, Json.Distinct, Json.DistinctMembers]

/-- `buildInput`. -/
def Plan.buildInput {π : Type} (plan : Plan) (opts : PlanOptions π) (paramsHash : String)
    (texts : ReceiptTexts) : BuildInput where
  id := .str ("rcpt_" ++ toString opts.seq)
  ts := .str opts.ts
  scope := .obj [("tenant", .str opts.tenant),
    ("chain", .str (opts.chain.getD (opts.tenant ++ ":mcp")))]
  agent := .obj [("id", .str texts.agentId), ("model", .null), ("principal", .str "POLICY")]
  action := .obj [("id", .str texts.actionId), ("canonical", .str texts.actionId),
    ("riskClass", .str plan.decision.riskClass), ("paramsHash", .str paramsHash),
    ("reversible", .bool false), ("rollbackRef", .null)]
  governance := plan.governance texts.ruleId
  distinct := by
    simp only [mem_iff, forall_eq_or_imp, forall_eq]
    refine ⟨?_, ?_, ?_, ?_, ?_, plan.distinct_governance _⟩ <;>
      simp [Json.Distinct, Json.DistinctMembers]

/-- What a third party needs to repeat the decision. -/
structure Evidence where
  policyHash : String
  engine : String
  ruleFired : Option String
  inputs : Inputs
  approvalRuleFired : Option JsString

structure PreCheckResult where
  decision : Decision
  receipt : Json
  evidence : Evidence

/-- Source: `pre-check.mjs` `safePolicyHash`. -/
def safePolicyHash {π : Type} (P : AdapterPlatform) (E : PolicyEngine π) (policy : π) : String :=
  (E.policyHash policy).getD
    (P.sha256Prefixed (Text.chars "noa-mcp-adapter-core:policyHash-uncanonicalizable-policy"))

/-- Source: `pre-check.mjs` `preCheck`. -/
def preCheck {π : Type} (P : GatePlatform) (E : PolicyEngine π) (call : ToolCall)
    (opts : PlanOptions π) (prev : Option Json) (signer : Signer) :
    Except BuildFailure PreCheckResult := do
  let plan := computeReceiptPlan P.toAdapterPlatform E call opts
  let texts ← demand (plan.texts? call) .jcsError
  let paramsHash := canonicalParamsHash P.toAdapterPlatform call.args
  let receipt ← Builder.buildReceipt P.toSigningPlatform (plan.buildInput opts paramsHash texts) prev
    signer
  let evidence : Evidence :=
    { policyHash := safePolicyHash P.toAdapterPlatform E opts.policy
      engine := plan.evaluation.engine
      ruleFired := plan.evaluation.ruleFired
      inputs := plan.inputs
      approvalRuleFired := plan.heldRule.map HeldBy.id }
  return ⟨plan.decision, receipt, evidence⟩

/-! ## What `preCheck` answers -/

section answers

variable {π : Type} {P : GatePlatform} {E : PolicyEngine π} {call : ToolCall} {opts : PlanOptions π}
  {prev : Option Json} {signer : Signer} {result : PreCheckResult}

/-- The answer is the plan's decision, with a receipt built from the plan. -/
lemma preCheck_eq_ok (h : preCheck P E call opts prev signer = .ok result) :
    ∃ texts, (computeReceiptPlan P.toAdapterPlatform E call opts).texts? call = some texts ∧
      Builder.buildReceipt P.toSigningPlatform
        ((computeReceiptPlan P.toAdapterPlatform E call opts).buildInput opts
          (canonicalParamsHash P.toAdapterPlatform call.args) texts) prev signer =
        .ok result.receipt ∧
      result.decision = (computeReceiptPlan P.toAdapterPlatform E call opts).decision := by
  simp only [preCheck, ok_iff] at h
  obtain ⟨texts, htexts, receipt, hreceipt, rfl⟩ := h
  exact ⟨texts, htexts, hreceipt, rfl⟩

/-- A receipt has the members of its input. -/
lemma buildReceipt_payload {Q : SigningPlatform} {input : BuildInput} {r : Json}
    (h : Builder.buildReceipt Q input prev signer = .ok r) :
    r.get? "scope" = some input.scope ∧ r.get? "agent" = some input.agent ∧
      r.get? "action" = some input.action ∧ r.get? "governance" = some input.governance := by
  simp only [Builder.buildReceipt, Builder.buildDraft, Builder.finalizeReceipt, ok_iff] at h
  obtain ⟨_, ⟨_, -, _, -, text, -, rfl⟩, value, -, _, -, rfl⟩ := h
  exact ⟨rfl, rfl, rfl, rfl⟩

lemma computeReceiptPlan_of_error {Q : AdapterPlatform} {guard : InputGuard}
    (h : policyInputs Q call = .error guard) (E : PolicyEngine π) (opts : PlanOptions π) :
    (computeReceiptPlan Q E call opts).decision = .deny ∧
      (computeReceiptPlan Q E call opts).compliance = none := by
  rw [computeReceiptPlan, h]
  cases guard <;> exact ⟨rfl, rfl⟩

end answers

/-! ## What the policy is shown -/

/-- The dotted path of a leaf. -/
def argsPath (path : List JsString) : JsString := KeyPath.spell dot (js "args") path

section shown

variable {P : AdapterPlatform} {call : ToolCall} {inputs : Inputs}

lemma policyInputs_eq_ok (h : policyInputs P call = .ok inputs) :
    hasAmbiguousKey call.args = false ∧
      inputs = (baseInputs call).assign (flattenedArgs P call.args) := by
  simp only [policyInputs, ok_iff] at h
  obtain ⟨_, -, _, hkey, _, -, rfl⟩ := h
  exact ⟨hkey, rfl⟩

/-- The inputs that are set by hand are not paths of arguments. -/
lemma get?_baseInputs_of_args {path : JsString} (h : js "args." <+: path) :
    (baseInputs call).get? path = none := by
  have haction : path ≠ js "action" := by
    rintro rfl
    exact absurd h (by decide)
  have hamount : path ≠ js "amountMinor" := by
    rintro rfl
    exact absurd h (by decide)
  unfold baseInputs
  cases amountMinor? call.args with
  | none => rw [Table.get?_set_of_ne _ haction, Table.get?_empty]
  | some v => rw [Table.get?_set_of_ne _ hamount, Table.get?_set_of_ne _ haction, Table.get?_empty]

/-- The entries of the arguments are the leaves that are shown. -/
lemma get?_flattenedArgs {args : JsValue} (hdistinct : args.Distinct)
    (hkey : hasAmbiguousKey (some args) = false) (path : JsString) (v : JsValue) :
    (flattenedArgs P (some args)).get? path = some v ↔
      ∃ l ∈ shownLeaves P args, path = argsPath l.1 ∧ v = l.2 := by
  have hguard : findAmbiguousDottedArgKey args (js "args") 0 = none := by
    simpa [hasAmbiguousKey] using hkey
  rw [← Table.mem_entries_iff, flattenedArgs, entries_flatten hdistinct hguard, List.mem_map]
  constructor
  · rintro ⟨l, hl, heq⟩
    exact ⟨l, hl, (Prod.mk.inj heq).1.symm, (Prod.mk.inj heq).2.symm⟩
  · rintro ⟨l, hl, rfl, rfl⟩
    exact ⟨l, hl, rfl⟩

/-- The shown leaves have different paths. -/
lemma nodup_argsPath_shownLeaves {args : JsValue} (hdistinct : args.Distinct)
    (hkey : hasAmbiguousKey (some args) = false) :
    ((shownLeaves P args).map fun l => argsPath l.1).Nodup := by
  have hguard : findAmbiguousDottedArgKey args (js "args") 0 = none := by
    simpa [hasAmbiguousKey] using hkey
  have hentries := (flattenArgsToPolicyInputs P args (js "args") 0 {}).out.nodup
  rw [entries_flatten hdistinct hguard, List.map_map] at hentries
  exact hentries

end shown

/-- **Nothing within the bounds is hidden from the policy.**  Either the engine is asked: then the
leaves of the arguments that are strings, booleans or finite numbers, at most 32 levels deep and up
to the first 2000 of them, stand in its inputs, each under its own dotted path, and nothing else
stands under a path of arguments.  Or a guard denies: then every receipt that is answered records
a denial and commits to nothing. -/
theorem preCheck_shows_leaves {π : Type} (P : GatePlatform) (E : PolicyEngine π) (call : ToolCall)
    (opts : PlanOptions π) (prev : Option Json) (signer : Signer) (ms : List (JsString × JsValue))
    (hargs : call.args = some (.obj ms)) (hdistinct : (ValueTree.obj ms).Distinct) :
    match (computeReceiptPlan P.toAdapterPlatform E call opts).evaluated with
    | some inputs =>
      (computeReceiptPlan P.toAdapterPlatform E call opts).evaluation =
        E.evaluate opts.policy inputs ∧
      (∀ l ∈ shownLeaves P.toAdapterPlatform (.obj ms),
        inputs.get? (argsPath l.1) = some l.2) ∧
      (∀ path v, js "args." <+: path → inputs.get? path = some v →
        ∃ l ∈ shownLeaves P.toAdapterPlatform (.obj ms), path = argsPath l.1 ∧ v = l.2) ∧
      ((shownLeaves P.toAdapterPlatform (.obj ms)).map fun l => argsPath l.1).Nodup
    | none =>
      ∀ result, preCheck P E call opts prev signer = .ok result →
        result.decision = .deny ∧
          result.receipt.path? ["governance", "compliance"] = some .null := by
  cases hinputs : policyInputs P.toAdapterPlatform call with
  | error guard =>
    obtain ⟨hdeny, hcompliance⟩ :=
      computeReceiptPlan_of_error hinputs E opts
    have hplan : (computeReceiptPlan P.toAdapterPlatform E call opts).evaluated = none := by
      rw [computeReceiptPlan, hinputs]
    rw [hplan]
    intro result hresult
    obtain ⟨texts, -, hbuilt, hdecision⟩ := preCheck_eq_ok hresult
    refine ⟨hdecision.trans hdeny, ?_⟩
    obtain ⟨-, -, -, hgovernance⟩ := buildReceipt_payload hbuilt
    rw [Json.path?, hgovernance]
    show (Plan.governance _ texts.ruleId).path? ["compliance"] = some .null
    rw [Plan.governance, hcompliance]
    rfl
  | ok inputs =>
    obtain ⟨hkey, hassign⟩ := policyInputs_eq_ok hinputs
    have hplan : computeReceiptPlan P.toAdapterPlatform E call opts =
        { (computeReceiptPlan P.toAdapterPlatform E call opts) with
          evaluated := some inputs
          evaluation := E.evaluate opts.policy inputs } := by
      rw [computeReceiptPlan, hinputs]
    rw [hplan]
    rw [hargs] at hkey hassign
    refine ⟨rfl, ?_, ?_, nodup_argsPath_shownLeaves hdistinct hkey⟩
    · intro l hl
      have hflat := (get?_flattenedArgs hdistinct hkey (argsPath l.1) l.2).mpr ⟨l, hl, rfl, rfl⟩
      rw [hassign, Table.get?_assign, hflat]
      rfl
    · intro path v hpath hget
      rw [hassign, Table.get?_assign, get?_baseInputs_of_args hpath, Option.or_none] at hget
      exact (get?_flattenedArgs hdistinct hkey path v).mp hget

/-! ### Two calls -/

/-- `{"to":"acct","n":[1.5,true]}`. -/
def payoutArgs : List (JsString × JsValue) :=
  [(js "to", .str (js "acct")), (js "n", .arr [.num onePointFive, .bool true])]

/-- `true` inside `n` objects with one member `a`. -/
def nested : Nat → JsValue
  | 0 => .bool true
  | n + 1 => .obj [(js "a", nested n)]

/-- A platform that knows the digests of the texts that are hashed here. -/
def callPlatform : GatePlatform where
  toIntrinsics := Intrinsics.ofTables
    [(Text.chars "noa-mcp-adapter-core:paramsHash-uncanonicalizable-args",
        "478bf8961fbc313c2fcc1a87ea94da75a7c37ed9e100665aca397414a9ac1c2e"),
      (Text.chars "\x7b\"n\":[1.5,true],\"to\":\"acct\"\x7d",
        "3df17849f1f6d18b35a880b18fdba425400554651720316d320b94def95e5573"),
      ((List.replicate 33 (Text.chars "\x7b\"a\":")).flatten ++ Text.chars "true" ++
          List.replicate 33 '\x7d',
        "527713cd29787e1f5b727c96abf90b96594604f0f27ee5bb1eb0a71d96d63e23")] [] []
  numberText := exactText
  signEd25519 _ _ := none

/-- An engine that allows every call. -/
def allowAll : PolicyEngine Unit where
  evaluate _ _ := ⟨true, some "allow-all", "noa-refeval/0.2"⟩
  complianceCommit _ _ := none
  policyHash _ := none

def callOptions : PlanOptions Unit where
  policy := ()
  seq := 0
  tenant := "default-tenant"
  chain := none
  ts := "2026-08-12T09:00:00.000Z"
  approvalRules := .absent
  suppressApprovalHold := false

def toolCall (args : JsValue) : ToolCall := ⟨js "transfer_funds", some args, none⟩

lemma distinct_payoutArgs : (ValueTree.obj payoutArgs).Distinct := by
  refine .obj (by decide) ?_
  simp only [payoutArgs, mem_iff, forall_eq_or_imp, forall_eq]
  refine ⟨.str _, .arr ?_⟩
  simp only [mem_iff, forall_eq_or_imp, forall_eq]
  exact ⟨.num _, .bool _⟩

/-- The fraction inside an array reaches the engine as its decimal text. -/
theorem preCheck_shows_fraction :
    ((computeReceiptPlan callPlatform.toAdapterPlatform allowAll (toolCall (.obj payoutArgs))
      callOptions).evaluated.bind fun inputs => inputs.get? (js "args.n.0")) =
        some (.str (js "1.5")) := by
  have hshown := preCheck_shows_leaves callPlatform allowAll (toolCall (.obj payoutArgs))
    callOptions none ⟨"gate-1", ""⟩ payoutArgs rfl distinct_payoutArgs
  have hasked : (computeReceiptPlan callPlatform.toAdapterPlatform allowAll
      (toolCall (.obj payoutArgs)) callOptions).evaluated.isSome = true := by decide
  obtain ⟨inputs, hinputs⟩ := Option.isSome_iff_exists.mp hasked
  rw [hinputs] at hshown ⊢
  have hpath : js "args.n.0" = argsPath [js "n", js "0"] := by decide
  rw [Option.bind_some, hpath]
  refine hshown.2.1 ([js "n", js "0"], .str (js "1.5")) ?_
  have hlist : shownLeaves callPlatform.toAdapterPlatform (.obj payoutArgs) =
      [([js "to"], .str (js "acct")), ([js "n", js "0"], .str (js "1.5")),
        ([js "n", js "1"], .bool true)] := rfl
  rw [hlist]
  exact .tail _ (.head _)

/-- A leaf 33 levels deep is not shown, and the engine is asked all the same. -/
theorem preCheck_hides_deep_leaf :
    (List.replicate 33 (js "a"), .bool true) ∈ ValueTree.leaves indexKey (nested 33) ∧
      ((computeReceiptPlan callPlatform.toAdapterPlatform allowAll (toolCall (nested 33))
        callOptions).evaluated.map fun inputs =>
          (inputs.get? (argsPath (List.replicate 33 (js "a")))).isSome) = some false := by
  have hlist : ValueTree.leaves indexKey (nested 33) = [(List.replicate 33 (js "a"), .bool true)] := rfl
  refine ⟨?_, by decide⟩
  rw [hlist]
  exact .head _

end NoaMandate.Adapter
