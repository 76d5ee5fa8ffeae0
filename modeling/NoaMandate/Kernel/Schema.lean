import NoaMandate.Kernel.Scan

/-!
# The closed receipt shape

`validateReceiptShapeParsed` is the structural validator of `schema.ts`: it walks a parsed value
and collects every complaint, in the source's order and with the source's texts.  A receipt is
accepted when it collects none.

`ReceiptShape` says the same thing without an error list: exactly the listed members at every
level, each with its type, and the four rules that tie fields together.
`validateReceiptShapeParsed_eq_nil_iff` connects the two; everything downstream uses
`ReceiptShape` only.
-/

namespace NoaMandate

/-- The `spec` of a receipt. -/
def RECEIPT_SPEC : String := "noa.receipt/0.1"

namespace Schema

/-! ## The validator -/

/-- One complaint when `bad` holds. -/
def complain (bad : Bool) (msg : String) : List String := if bad then [msg] else []

/-- A string with the given property. -/
def strWith (p : String → Bool) : Option Json → Bool
  | some (.str s) => p s
  | _ => false

/-- Any string. -/
def str (v : Option Json) : Bool := strWith (fun _ => true) v

/-- A non-empty string. -/
def nonEmptyStr (v : Option Json) : Bool := strWith (fun s => s ≠ "") v

/-- One of the listed strings. -/
def membership (values : List String) (v : Option Json) : Bool := strWith values.contains v

def isBool : Option Json → Bool
  | some (.bool _) => true
  | _ => false

/-- Absent, or `null`, or satisfying `p`. -/
def optionalOr (p : Option Json → Bool) : Option Json → Bool
  | none => true
  | some .null => true
  | v => p v

def riskClasses : List String := ["LOW", "MEDIUM", "HIGH", "CRITICAL", "IRREVERSIBLE"]

def principals : List String := ["HUMAN", "SERVICE", "POLICY", "SANDBOX_SIM"]

def modes : List String := ["off", "shadow", "approvals_on", "on"]

def verdicts : List String :=
  ["ALLOWED", "BLOCKED", "DEFERRED", "EXECUTED", "FAILED", "ROLLED_BACK", "SIMULATED"]

/-- Complain about every member that is not listed and every required one that is missing. -/
def checkExactKeys (obj : Json) (required optional : List String) (path : String) : List String :=
  ((obj.keys.filter fun k => !(required ++ optional).contains k).map fun k =>
      path ++ ": unknown field \"" ++ k ++ "\"") ++
    ((required.filter fun k => (obj.get? k).isNone).map fun k =>
      path ++ ": missing required field \"" ++ k ++ "\"")

/-- Run `checks` on an object, or complain that there is none. -/
def onObject (v : Option Json) (missing : String) (checks : Json → List String) : List String :=
  match v with
  | some (.obj ms) => checks (.obj ms)
  | _ => [missing]

def scopeErrors (scope : Json) : List String :=
  checkExactKeys scope ["chain"] ["tenant"] "receipt.scope" ++
  complain (!nonEmptyStr (scope.get? "chain")) "receipt.scope.chain: non-empty string" ++
  complain ((scope.get? "tenant").isSome && !str (scope.get? "tenant"))
    "receipt.scope.tenant: string"

def agentErrors (agent : Json) : List String :=
  checkExactKeys agent ["id", "principal"] ["model"] "receipt.agent" ++
  complain (!nonEmptyStr (agent.get? "id")) "receipt.agent.id: non-empty string" ++
  complain (!membership principals (agent.get? "principal"))
    "receipt.agent.principal: invalid enum" ++
  complain (!optionalOr str (agent.get? "model")) "receipt.agent.model: string or null"

def actionErrors (action : Json) : List String :=
  checkExactKeys action ["id", "canonical", "riskClass", "paramsHash", "reversible"]
    ["rollbackRef"] "receipt.action" ++
  complain (!nonEmptyStr (action.get? "id")) "receipt.action.id: non-empty string" ++
  complain (!nonEmptyStr (action.get? "canonical"))
    "receipt.action.canonical: non-empty string" ++
  complain (!membership riskClasses (action.get? "riskClass"))
    "receipt.action.riskClass: invalid enum" ++
  complain (!strWith Scan.isParamsHash (action.get? "paramsHash"))
    "receipt.action.paramsHash: must match (sha256|hmac-sha256):<64 hex>" ++
  complain (!isBool (action.get? "reversible")) "receipt.action.reversible: boolean" ++
  complain (!optionalOr str (action.get? "rollbackRef"))
    "receipt.action.rollbackRef: string or null"

def approvalErrors (approval : Json) : List String :=
  checkExactKeys approval ["by", "at"] [] "receipt.governance.approval" ++
  complain (!str (approval.get? "by")) "receipt.governance.approval.by: string" ++
  complain (!strWith Scan.isRfc3339Instant (approval.get? "at"))
    "receipt.governance.approval.at: RFC 3339 UTC"

def complianceErrors (c : Json) : List String :=
  checkExactKeys c ["policyHash", "readSetHash", "inputsHash"] ["verdict"]
    "receipt.governance.compliance" ++
  (["policyHash", "readSetHash", "inputsHash"].flatMap fun k =>
    complain (!strWith Scan.isSha256Hash (c.get? k))
      ("receipt.governance.compliance." ++ k ++ ": sha256:<64 hex>")) ++
  complain ((c.get? "verdict").isSome && !membership ["ALLOW", "DENY"] (c.get? "verdict"))
    "receipt.governance.compliance.verdict: must be \"ALLOW\" or \"DENY\""

/-- Run `checks` on a member that may be absent or `null`. -/
def onOptionalObject (v : Option Json) (missing : String) (checks : Json → List String) :
    List String :=
  match v with
  | none => []
  | some .null => []
  | v => onObject v missing checks

def governanceErrors (governance : Json) : List String :=
  checkExactKeys governance ["mode", "verdict", "sandboxed"] ["ruleId", "approval", "compliance"]
    "receipt.governance" ++
  complain (!membership modes (governance.get? "mode")) "receipt.governance.mode: invalid enum" ++
  complain (!membership verdicts (governance.get? "verdict"))
    "receipt.governance.verdict: invalid enum" ++
  complain (!isBool (governance.get? "sandboxed")) "receipt.governance.sandboxed: boolean" ++
  complain (!optionalOr str (governance.get? "ruleId"))
    "receipt.governance.ruleId: string or null" ++
  onOptionalObject (governance.get? "approval") "receipt.governance.approval: object or null"
    approvalErrors ++
  onOptionalObject (governance.get? "compliance")
    "receipt.governance.compliance: object or null" complianceErrors

/-- A member that is present and not `null`. -/
def presentNonNull : Option Json → Bool
  | none => false
  | some .null => false
  | _ => true

/-- The rules that tie fields together; checked when the three objects are objects. -/
def crossFieldErrors (agent action governance : Json) : List String :=
  let principal := agent.get? "principal"
  let verdict := governance.get? "verdict"
  let sandboxed := governance.get? "sandboxed"
  let reversible := action.get? "reversible"
  complain (principal = some (.str "SANDBOX_SIM") && sandboxed = some (.bool false))
    "receipt.governance.sandboxed: must be true when agent.principal is \"SANDBOX_SIM\"" ++
  complain (verdict = some (.str "SIMULATED") && sandboxed = some (.bool false))
    "receipt.governance.sandboxed: must be true when governance.verdict is \"SIMULATED\"" ++
  complain (reversible = some (.bool false) && presentNonNull (action.get? "rollbackRef"))
    "receipt.action.rollbackRef: must be absent or null when action.reversible is false" ++
  complain (verdict = some (.str "ROLLED_BACK") && reversible = some (.bool false))
    "receipt.action.reversible: must be true when governance.verdict is \"ROLLED_BACK\""

/-- A non-negative safe integer. -/
def isSeq : Option Json → Bool
  | some (.num n) => n.natAbs ≤ Json.maxSafe && !(n < 0)
  | _ => false

/-- `null`, or a string with the given property; an absent member is neither. -/
def nullOrStrWith (p : String → Bool) : Option Json → Bool
  | some .null => true
  | v => strWith p v

def chainErrors (chain : Json) : List String :=
  checkExactKeys chain ["seq", "prevHash", "hash"] [] "receipt.chain" ++
  complain (!isSeq (chain.get? "seq")) "receipt.chain.seq: non-negative safe integer" ++
  complain (!nullOrStrWith Scan.isSha256Hash (chain.get? "prevHash"))
    "receipt.chain.prevHash: sha256:<64 hex> or null" ++
  complain (!strWith Scan.isSha256Hash (chain.get? "hash")) "receipt.chain.hash: sha256:<64 hex>"

def sigErrors (sig : Json) : List String :=
  checkExactKeys sig ["alg", "kid", "value"] [] "receipt.sig" ++
  complain (sig.get? "alg" ≠ some (.str "ed25519")) "receipt.sig.alg: must be \"ed25519\"" ++
  complain (!nonEmptyStr (sig.get? "kid")) "receipt.sig.kid: non-empty string" ++
  complain (!nonEmptyStr (sig.get? "value")) "receipt.sig.value: non-empty string"

/-- Every complaint about a parsed value that should be a receipt.
Source: `schema.ts` `validateReceiptShapeParsed`; the receipt is accepted when the list is empty. -/
def validateReceiptShapeParsed (r : Json) : List String :=
  match r with
  | .obj _ =>
    checkExactKeys r
      ["spec", "id", "ts", "scope", "agent", "action", "governance", "chain", "sig"] []
      "receipt" ++
    complain (r.get? "spec" ≠ some (.str RECEIPT_SPEC))
      ("receipt.spec: must be \"" ++ RECEIPT_SPEC ++ "\"") ++
    complain (!strWith (fun s => s ≠ "" && (Text.chars s).length ≤ 128) (r.get? "id"))
      "receipt.id: non-empty string ≤128 chars" ++
    complain (!strWith Scan.isRfc3339Instant (r.get? "ts"))
      "receipt.ts: must be RFC 3339 UTC timestamp" ++
    onObject (r.get? "scope") "receipt.scope: object required" scopeErrors ++
    onObject (r.get? "agent") "receipt.agent: object required" agentErrors ++
    onObject (r.get? "action") "receipt.action: object required" actionErrors ++
    onObject (r.get? "governance") "receipt.governance: object required" governanceErrors ++
    (match r.get? "agent", r.get? "action", r.get? "governance" with
      | some (.obj a), some (.obj b), some (.obj c) =>
        crossFieldErrors (.obj a) (.obj b) (.obj c)
      | _, _, _ => []) ++
    onObject (r.get? "chain") "receipt.chain: object required" chainErrors ++
    onObject (r.get? "sig")
      "receipt.sig: object required (signatures are mandatory in v0.1)" sigErrors
  | _ => ["receipt: not an object"]

/-! ## The shape, without the error list -/

/-- The members are exactly `required`, and some of `optional`. -/
structure Closed (v : Json) (required optional : List String) : Prop where
  /-- No other member. -/
  listed : ∀ k ∈ v.keys, k ∈ required ++ optional
  /-- All required members. -/
  present : ∀ k ∈ required, (v.get? k).isSome

structure ScopeShape (scope : Json) : Prop where
  closed : Closed scope ["chain"] ["tenant"]
  chain : ∃ s, scope.get? "chain" = some (.str s) ∧ s ≠ ""
  tenant : ∀ w, scope.get? "tenant" = some w → ∃ s, w = .str s

structure AgentShape (agent : Json) : Prop where
  closed : Closed agent ["id", "principal"] ["model"]
  id : ∃ s, agent.get? "id" = some (.str s) ∧ s ≠ ""
  principal : ∃ s, agent.get? "principal" = some (.str s) ∧ s ∈ principals
  model : ∀ w, agent.get? "model" = some w → w = .null ∨ ∃ s, w = .str s

structure ActionShape (action : Json) : Prop where
  closed : Closed action ["id", "canonical", "riskClass", "paramsHash", "reversible"]
    ["rollbackRef"]
  id : ∃ s, action.get? "id" = some (.str s) ∧ s ≠ ""
  canonical : ∃ s, action.get? "canonical" = some (.str s) ∧ s ≠ ""
  riskClass : ∃ s, action.get? "riskClass" = some (.str s) ∧ s ∈ riskClasses
  paramsHash : ∃ s, action.get? "paramsHash" = some (.str s) ∧ Scan.isParamsHash s = true
  reversible : ∃ b, action.get? "reversible" = some (.bool b)
  rollbackRef : ∀ w, action.get? "rollbackRef" = some w → w = .null ∨ ∃ s, w = .str s

structure ApprovalShape (approval : Json) : Prop where
  closed : Closed approval ["by", "at"] []
  approver : ∃ s, approval.get? "by" = some (.str s)
  instant : ∃ s, approval.get? "at" = some (.str s) ∧ Scan.isRfc3339Instant s = true

structure ComplianceShape (c : Json) : Prop where
  closed : Closed c ["policyHash", "readSetHash", "inputsHash"] ["verdict"]
  hashes : ∀ k ∈ ["policyHash", "readSetHash", "inputsHash"],
    ∃ s, c.get? k = some (.str s) ∧ Scan.isSha256Hash s = true
  verdict : ∀ w, c.get? "verdict" = some w → w = .str "ALLOW" ∨ w = .str "DENY"

structure GovernanceShape (governance : Json) : Prop where
  closed : Closed governance ["mode", "verdict", "sandboxed"] ["ruleId", "approval", "compliance"]
  mode : ∃ s, governance.get? "mode" = some (.str s) ∧ s ∈ modes
  verdict : ∃ s, governance.get? "verdict" = some (.str s) ∧ s ∈ verdicts
  sandboxed : ∃ b, governance.get? "sandboxed" = some (.bool b)
  ruleId : ∀ w, governance.get? "ruleId" = some w → w = .null ∨ ∃ s, w = .str s
  approval : ∀ w, governance.get? "approval" = some w →
    w = .null ∨ ∃ ms, w = .obj ms ∧ ApprovalShape (.obj ms)
  compliance : ∀ w, governance.get? "compliance" = some w →
    w = .null ∨ ∃ ms, w = .obj ms ∧ ComplianceShape (.obj ms)

/-- The rules that tie fields of different sub-objects together. -/
structure CrossFieldShape (agent action governance : Json) : Prop where
  sandboxSim : agent.get? "principal" = some (.str "SANDBOX_SIM") →
    governance.get? "sandboxed" ≠ some (.bool false)
  simulated : governance.get? "verdict" = some (.str "SIMULATED") →
    governance.get? "sandboxed" ≠ some (.bool false)
  irreversible : action.get? "reversible" = some (.bool false) →
    ∀ w, action.get? "rollbackRef" = some w → w = .null
  rolledBack : governance.get? "verdict" = some (.str "ROLLED_BACK") →
    action.get? "reversible" ≠ some (.bool false)

structure ChainShape (chain : Json) : Prop where
  closed : Closed chain ["seq", "prevHash", "hash"] []
  seq : ∃ n : Nat, chain.get? "seq" = some (.num n) ∧ n ≤ Json.maxSafe
  prevHash : chain.get? "prevHash" = some .null ∨
    ∃ s, chain.get? "prevHash" = some (.str s) ∧ Scan.isSha256Hash s = true
  hash : ∃ s, chain.get? "hash" = some (.str s) ∧ Scan.isSha256Hash s = true

structure SigShape (sig : Json) : Prop where
  closed : Closed sig ["alg", "kid", "value"] []
  alg : sig.get? "alg" = some (.str "ed25519")
  kid : ∃ s, sig.get? "kid" = some (.str s) ∧ s ≠ ""
  value : ∃ s, sig.get? "value" = some (.str s) ∧ s ≠ ""

/-- The closed receipt shape. -/
structure ReceiptShape (r : Json) : Prop where
  object : ∃ ms, r = .obj ms
  closed : Closed r
    ["spec", "id", "ts", "scope", "agent", "action", "governance", "chain", "sig"] []
  spec : r.get? "spec" = some (.str RECEIPT_SPEC)
  id : ∃ s, r.get? "id" = some (.str s) ∧ s ≠ "" ∧ s.length ≤ 128
  ts : ∃ s, r.get? "ts" = some (.str s) ∧ Scan.isRfc3339Instant s = true
  scope : ∃ ms, r.get? "scope" = some (.obj ms) ∧ ScopeShape (.obj ms)
  parts : ∃ agent action governance, r.get? "agent" = some (.obj agent) ∧
    r.get? "action" = some (.obj action) ∧ r.get? "governance" = some (.obj governance) ∧
    AgentShape (.obj agent) ∧ ActionShape (.obj action) ∧ GovernanceShape (.obj governance) ∧
    CrossFieldShape (.obj agent) (.obj action) (.obj governance)
  chain : ∃ ms, r.get? "chain" = some (.obj ms) ∧ ChainShape (.obj ms)
  sig : ∃ ms, r.get? "sig" = some (.obj ms) ∧ SigShape (.obj ms)

/-! ## The validator decides the shape -/

@[simp] lemma complain_eq_nil {bad : Bool} {msg : String} : complain bad msg = [] ↔ bad = false := by
  cases bad <;> simp [complain]

variable {v : Option Json}

lemma strWith_iff {p : String → Bool} :
    strWith p v = true ↔ ∃ s, v = some (.str s) ∧ p s = true := by
  rcases v with _ | v
  · simp [strWith]
  · cases v <;> simp [strWith]

lemma str_iff : str v = true ↔ ∃ s, v = some (.str s) := by
  simp [str, strWith_iff]

lemma nonEmptyStr_iff : nonEmptyStr v = true ↔ ∃ s, v = some (.str s) ∧ s ≠ "" := by
  simp [nonEmptyStr, strWith_iff]

lemma membership_iff {values : List String} :
    membership values v = true ↔ ∃ s, v = some (.str s) ∧ s ∈ values := by
  simp [membership, strWith_iff]

lemma isBool_iff : isBool v = true ↔ ∃ b, v = some (.bool b) := by
  rcases v with _ | v
  · simp [isBool]
  · cases v <;> simp [isBool]

lemma optionalOr_str_iff :
    optionalOr str v = true ↔ ∀ w, v = some w → w = .null ∨ ∃ s, w = .str s := by
  rcases v with _ | v
  · simp [optionalOr]
  · cases v <;> simp [optionalOr, str_iff]

lemma isSome_and_not_str_iff :
    (v.isSome && !str v) = false ↔ ∀ w, v = some w → ∃ s, w = .str s := by
  rcases v with _ | v
  · simp
  · cases v <;> simp [str, strWith]

lemma isSeq_iff : isSeq v = true ↔ ∃ n : Nat, v = some (.num n) ∧ n ≤ Json.maxSafe := by
  rcases v with _ | v
  · simp [isSeq]
  · cases v with
    | num n =>
      simp only [isSeq, Bool.and_eq_true, decide_eq_true_eq, Bool.not_eq_true',
        decide_eq_false_iff_not, not_lt, Option.some.injEq, Json.num.injEq]
      constructor
      · rintro ⟨h, hn⟩
        exact ⟨n.natAbs, by omega, h⟩
      · rintro ⟨m, rfl, h⟩
        exact ⟨by simpa using h, by omega⟩
    | _ => simp [isSeq]

lemma nullOrStrWith_iff {p : String → Bool} :
    nullOrStrWith p v = true ↔ v = some .null ∨ ∃ s, v = some (.str s) ∧ p s = true := by
  rcases v with _ | v
  · simp [nullOrStrWith, strWith]
  · cases v <;> simp [nullOrStrWith, strWith]

lemma checkExactKeys_eq_nil_iff {v : Json} {required optional : List String} {path : String} :
    checkExactKeys v required optional path = [] ↔ Closed v required optional := by
  simp only [checkExactKeys, List.append_eq_nil_iff, List.map_eq_nil_iff, List.filter_eq_nil_iff]
  constructor
  all_goals
    rintro ⟨h1, h2⟩
    refine ⟨fun k hk => ?_, fun k hk => ?_⟩
    · simpa [or_iff_not_imp_left] using h1 k hk
    · simpa [Option.isSome_iff_ne_none] using h2 k hk

lemma onObject_eq_nil_iff {missing : String} {checks : Json → List String} :
    onObject v missing checks = [] ↔ ∃ ms, v = some (.obj ms) ∧ checks (.obj ms) = [] := by
  rcases v with _ | v
  · simp [onObject]
  · cases v <;> simp [onObject]

lemma onOptionalObject_eq_nil_iff {missing : String} {checks : Json → List String} :
    onOptionalObject v missing checks = [] ↔
      ∀ w, v = some w → w = .null ∨ ∃ ms, w = .obj ms ∧ checks (.obj ms) = [] := by
  rcases v with _ | v
  · simp [onOptionalObject]
  · cases v <;> simp [onOptionalObject, onObject]

/-- Nothing is complained of. -/
lemma errors_iff : (∀ {l l' : List String}, l ++ l' = [] ↔ l = [] ∧ l' = []) ∧
    (∀ {bad : Bool} {msg : String}, complain bad msg = [] ↔ bad = false) ∧
    (∀ {b : Bool}, (!b) = false ↔ b = true) ∧
    (∀ {v : Json} {required optional : List String} {path : String},
      checkExactKeys v required optional path = [] ↔ Closed v required optional) ∧
    ∀ {p q r : Prop}, (p ∧ q) ∧ r ↔ p ∧ q ∧ r :=
  ⟨List.append_eq_nil_iff, complain_eq_nil, by simp, checkExactKeys_eq_nil_iff, and_assoc⟩

attribute [mk_iff] ScopeShape AgentShape ActionShape ApprovalShape ComplianceShape GovernanceShape
  CrossFieldShape ChainShape SigShape

lemma scopeErrors_eq_nil_iff {v : Json} : scopeErrors v = [] ↔ ScopeShape v := by
  simp only [scopeErrors, errors_iff, nonEmptyStr_iff, isSome_and_not_str_iff, scopeShape_iff]

lemma agentErrors_eq_nil_iff {v : Json} : agentErrors v = [] ↔ AgentShape v := by
  simp only [agentErrors, errors_iff, nonEmptyStr_iff, membership_iff, optionalOr_str_iff,
    agentShape_iff]

lemma actionErrors_eq_nil_iff {v : Json} : actionErrors v = [] ↔ ActionShape v := by
  simp only [actionErrors, errors_iff, nonEmptyStr_iff, membership_iff, optionalOr_str_iff,
    strWith_iff, isBool_iff, actionShape_iff]

lemma approvalErrors_eq_nil_iff {v : Json} : approvalErrors v = [] ↔ ApprovalShape v := by
  simp only [approvalErrors, errors_iff, str_iff, strWith_iff, approvalShape_iff]

lemma complianceErrors_eq_nil_iff {v : Json} : complianceErrors v = [] ↔ ComplianceShape v := by
  have hverdict : ((v.get? "verdict").isSome && !membership ["ALLOW", "DENY"] (v.get? "verdict"))
      = false ↔ ∀ w, v.get? "verdict" = some w → w = .str "ALLOW" ∨ w = .str "DENY" := by
    rcases v.get? "verdict" with _ | w
    · simp
    · cases w <;> simp [membership, strWith, or_iff_not_imp_left]
  simp only [complianceErrors, errors_iff, hverdict, List.flatMap_eq_nil_iff, strWith_iff,
    complianceShape_iff]

lemma governanceErrors_eq_nil_iff {v : Json} : governanceErrors v = [] ↔ GovernanceShape v := by
  simp only [governanceErrors, errors_iff, membership_iff, optionalOr_str_iff, isBool_iff,
    onOptionalObject_eq_nil_iff, approvalErrors_eq_nil_iff, complianceErrors_eq_nil_iff,
    governanceShape_iff]

lemma presentNonNull_eq_false_iff : presentNonNull v = false ↔ ∀ w, v = some w → w = .null := by
  rcases v with _ | v
  · simp [presentNonNull]
  · cases v <;> simp [presentNonNull]

lemma crossFieldErrors_eq_nil_iff {a b c : Json} :
    crossFieldErrors a b c = [] ↔ CrossFieldShape a b c := by
  simp only [crossFieldErrors, errors_iff, Bool.and_eq_false_imp, decide_eq_true_eq,
    decide_eq_false_iff_not, presentNonNull_eq_false_iff, crossFieldShape_iff, ne_eq]

lemma chainErrors_eq_nil_iff {v : Json} : chainErrors v = [] ↔ ChainShape v := by
  simp only [chainErrors, errors_iff, isSeq_iff, nullOrStrWith_iff, strWith_iff, chainShape_iff]

lemma sigErrors_eq_nil_iff {v : Json} : sigErrors v = [] ↔ SigShape v := by
  simp only [sigErrors, errors_iff, nonEmptyStr_iff, ne_eq, decide_not, decide_eq_true_eq,
    sigShape_iff]

/-- **The validator accepts exactly the closed receipt shape.** -/
theorem validateReceiptShapeParsed_eq_nil_iff (r : Json) :
    validateReceiptShapeParsed r = [] ↔ ReceiptShape r := by
  cases r with
  | obj ms =>
    simp only [validateReceiptShapeParsed, errors_iff, strWith_iff, onObject_eq_nil_iff,
      scopeErrors_eq_nil_iff, agentErrors_eq_nil_iff, actionErrors_eq_nil_iff,
      governanceErrors_eq_nil_iff, chainErrors_eq_nil_iff, sigErrors_eq_nil_iff, ne_eq,
      decide_not, decide_eq_true_eq, Bool.and_eq_true]
    constructor
    · rintro ⟨hclosed, hspec, hid, hts, hscope, ⟨ag, hag, hag'⟩, ⟨ac, hac, hac'⟩,
        ⟨gov, hgov, hgov'⟩, hcross, hchain, hsig⟩
      rw [hag, hac, hgov] at hcross
      exact ⟨⟨ms, rfl⟩, hclosed, hspec, by simpa [String.length] using hid, hts, hscope,
        ⟨ag, ac, gov, hag, hac, hgov, hag', hac', hgov', crossFieldErrors_eq_nil_iff.mp hcross⟩,
        hchain, hsig⟩
    · rintro ⟨-, hclosed, hspec, hid, hts, hscope,
        ⟨ag, ac, gov, hag, hac, hgov, hag', hac', hgov', hcross⟩, hchain, hsig⟩
      refine ⟨hclosed, hspec, by simpa [String.length] using hid, hts, hscope, ⟨ag, hag, hag'⟩,
        ⟨ac, hac, hac'⟩, ⟨gov, hgov, hgov'⟩, ?_, hchain, hsig⟩
      rw [hag, hac, hgov]
      exact crossFieldErrors_eq_nil_iff.mpr hcross
  | _ =>
    simp only [validateReceiptShapeParsed, List.cons_ne_self, false_iff]
    rintro ⟨⟨ms, h⟩, -⟩
    cases h

end Schema

end NoaMandate
