import NoaMandate.Adapter.PendingStore
import NoaMandate.Adapter.SessionChain
import NoaMandate.Lib.Program

/-!
# The proxy's handling of tool calls

`handleCallTool` stands between a host and a tool server.  A call is decided by `preCheck` on top of
the session's chain, the receipt is persisted, the chain is advanced, and only then is the call
forwarded.  A call that an approval rule holds is deferred; when the pending store says that the
outstanding request of the session was approved, the same call comes again, the approval is spent,
verified and adopted as the head of the chain, and the hold is not asked a second time.

The calls of one session run one after the other.  Everything else may happen while one of them waits:
other sessions use the same store, idle sessions are swept, and the pending store is rewritten.
`CallWorld` is what one call meets: the texts that its reads of the pending store return, the clock,
whether its writes succeed, and what others do to the session store while it waits.

`forwarded_only_if_approved`: in every run, a call that is forwarded was allowed by the policy, its
decision receipt was persisted before, and it was either held by no rule or covered by an approval
that was adopted within the same call.
-/

namespace NoaMandate.Proxy

open Adapter Pipeline Program

/-! ## The proxy and its surroundings -/

/-- What the proxy takes from its platform. -/
structure ProxyPlatform extends GatePlatform, PendingPlatform

/-- The configuration of a proxy that persists its receipts. -/
structure ProxyConfig (π : Type) extends SessionConfig π where
  agentId : Option String
  /-- Is a pending store configured? -/
  pendingStore : Bool
  approverKeyring : Option Json
  approverIdentityManifest : Option Json

/-- `agentId ?? sessionId`. -/
def ProxyConfig.effectiveAgentId {π : Type} (cfg : ProxyConfig π) : String :=
  cfg.agentId.getD cfg.sessionId

/-- `tools/call` of the host. -/
structure Request where
  name : JsString
  args : Option JsValue

/-- The call that is decided. -/
def ProxyConfig.toolCall {π : Type} (cfg : ProxyConfig π) (request : Request) : ToolCall :=
  ⟨request.name, request.args, some (js cfg.effectiveAgentId)⟩

/-- What another session does to the store. -/
abbrev ForeignCall {π : Type} (cfg : ProxyConfig π) :=
  { c : StoreCall String String Json // c.IsForeign cfg.tenant cfg.sessionId }

/-- What a tool call meets. -/
structure CallWorld {π : Type} (cfg : ProxyConfig π) where
  /-- The pending store at the lookup. -/
  atLookup : PendingFile
  /-- The pending store at the consumption. -/
  atConsumption : PendingFile
  /-- Can the consumption be written? -/
  consumed : Bool
  /-- Can the adopted approval be persisted? -/
  approvalPersisted : Bool
  /-- Can the decision receipt be persisted? -/
  receiptPersisted : Bool
  /-- Can a deferred call be recorded? -/
  deferredRecorded : Bool
  /-- The clock at the consumption. -/
  now : Int
  /-- The readings of the store's clock, in the order of the calls of the store. -/
  clock : Nat → Int
  /-- The time of the decision receipt. -/
  ts : String
  /-- What others do while the approval is persisted. -/
  duringApproval : List (ForeignCall cfg)
  /-- What others do while the decision receipt is signed and persisted. -/
  duringReceipt : List (ForeignCall cfg)

/-- Why a call is answered with an error. -/
inductive Rejection where
  | pendingStoreUnreadable (e : PendingStoreError)
  | outstanding (id : JsString) (status : PendingStatus)
  | notConsumed (e : PendingStoreError)
  | invalidApproval (reason : String)
  | approvalNotPersisted
  | chainMovedOn
  | preCheckFailed (failure : BuildFailure)
  | receiptNotPersisted
  | deferredNotRecorded
  | heldForApproval
  | denied
  deriving DecidableEq

/-- What a call does that others can see. -/
inductive Effect where
  | persisted (receipt : Json)
  | adopted (receipt : Json) (head : Head Json)

/-- The state a call runs on: the session store, and what the call did so far. -/
structure CallState where
  store : SessionStore
  effects : List Effect := []

abbrev CallM := EStateM Rejection CallState

def onStore {α : Type} (f : SessionStore → α × SessionStore) : CallM α :=
  onState fun s => ((f s.store).1, { s with store := (f s.store).2 })

def emit (e : Effect) : CallM Unit := onState fun s => ((), { s with effects := s.effects ++ [e] })

/-- Wait, while others use the store. -/
def await {π : Type} {cfg : ProxyConfig π} (calls : List (ForeignCall cfg)) : CallM Unit :=
  onStore fun s => ((), StoreCall.execAll cfg.limits (calls.map Subtype.val) s)

section handler

variable {π : Type} (P : ProxyPlatform) (E : PolicyEngine π) (cfg : ProxyConfig π)

/-! ## The approval of a held call -/

/-- Source: `approval-rules.mjs` `tryIdentifyToolCallForTicketLookup`. -/
def tryIdentify (call : ToolCall) : Option (JsString × String) :=
  if call.name.isEmpty then none
  else some (call.name, canonicalParamsHash P.toAdapterPlatform call.args)

/-- Is the record about this call? -/
def matchesThisCall (call : ToolCall) (record : PendingRecord) : Bool :=
  (tryIdentify P call).any fun identified =>
    isStr record.actionId identified.1 && isStr record.paramsHash (js identified.2)

/-- `prev ? prev.scope.chain : undefined`. -/
def expectedChain (head : Head Json) : Option String :=
  head.prev.bind fun prev => prev.strAt? ["scope", "chain"]

/-- What the approval of a call is checked against. -/
def approvalOptions (call : ToolCall) (head : Head Json) : ApprovalOptions where
  approverKeyring := cfg.approverKeyring
  identityManifest := cfg.approverIdentityManifest
  expectedChain := expectedChain head
  expectedAction := some (call.name, canonicalParamsHash P.toAdapterPlatform call.args)

/-- Verify what the pending store offers as the approval; a value that no receipt can be is refused. -/
def checkApproval (call : ToolCall) (head : Head Json) (offered : Option JsValue) :
    Except String Json :=
  match offered with
  | none => do
    verifyApprovalReceipt P.toIntrinsics none (approvalOptions P cfg call head)
    .error "approval receipt is not an object"
  | some v => do
    let receipt ← demand v.toJson? "approval receipt is not canonicalizable"
    verifyApprovalReceipt P.toIntrinsics (some receipt) (approvalOptions P cfg call head)
    return receipt

/-- Spend, verify, persist and adopt the approval of an outstanding call. -/
def adoptApproval (call : ToolCall) (w : CallWorld cfg) (record : PendingRecord) : CallM Unit := do
  let consumed ← fromExcept (consumeApprovalTicket P.toPendingPlatform w.atConsumption record.id w.now
    (js cfg.sessionId) (js cfg.tenant) w.consumed) .notConsumed
  let head ← onStore (cfg.peek (w.clock 0))
  let receipt ← fromExcept (checkApproval P cfg call head consumed.allowedReceipt) .invalidApproval
  await w.duringApproval
  require w.approvalPersisted .approvalNotPersisted
  emit (.persisted receipt)
  let adopted ← onStore (cfg.adoptApprovedReceipt (w.clock 1) (w.clock 2) receipt head.segmentId)
  let extended ← fromExcept (demand adopted ()) fun _ => .chainMovedOn
  emit (.adopted receipt extended)

/-- The part before the decision: is the hold already answered? -/
def resolveOutstanding (call : ToolCall) (w : CallWorld cfg) : CallM Bool :=
  if cfg.pendingStore then do
    let outstanding ← fromExcept (findOutstanding P.toPendingPlatform w.atLookup (js cfg.tenant)
      (js cfg.effectiveAgentId) (js cfg.sessionId)) .pendingStoreUnreadable
    match outstanding with
    | none => pure false
    | some record => do
      require (record.status = .approved && matchesThisCall P call record)
        (.outstanding record.id record.status)
      adoptApproval P cfg call w record
      pure true
  else pure false

/-! ## The decision -/

/-- Answer the host; only an allowed call gets past this. -/
def answer (w : CallWorld cfg) (decision : Decision) : CallM Unit :=
  match decision with
  | .allow => pure ()
  | .deny => raise .denied
  | .deferred => do
    require (!cfg.pendingStore || w.deferredRecorded) .deferredNotRecorded
    raise .heldForApproval

/-- A call that returns is forwarded to the tool server.
Source: `create-proxy-server.mjs` `handleCallTool`. -/
def handleCallTool (request : Request) (w : CallWorld cfg) : CallM Unit := do
  let call := cfg.toolCall request
  let suppressApprovalHold ← resolveOutstanding P cfg call w
  let head ← onStore (cfg.peek (w.clock 3))
  let prepared ← fromExcept
    (cfg.prepareSessionReceipt P.toGatePlatform E call head w.ts suppressApprovalHold) .preCheckFailed
  await w.duringReceipt
  require w.receiptPersisted .receiptNotPersisted
  emit (.persisted prepared.receipt)
  let _ ← onStore (cfg.commitSessionReceipt (w.clock 4) prepared.receipt head.segmentId)
  answer cfg w prepared.decision

/-! ## Runs -/

/-- What happens to the proxy and its store. -/
inductive Event where
  | call (request : Request) (w : CallWorld cfg)
  | disconnect
  | foreign (c : ForeignCall cfg)

/-- What is known of a call that was handled. -/
structure Report where
  request : Request
  effects : List Effect
  forwarded : Bool

def step (s : SessionStore) : Event cfg → Option Report × SessionStore
  | .call request w =>
    match handleCallTool P E cfg request w { store := s } with
    | .ok _ s' => (some ⟨request, s'.effects, true⟩, s'.store)
    | .error _ s' => (some ⟨request, s'.effects, false⟩, s'.store)
  | .disconnect => (none, s.endSession cfg.tenant cfg.sessionId)
  | .foreign c => (none, c.val.exec cfg.limits s)

/-- The calls of a run, in order. -/
def run (s : SessionStore) : List (Event cfg) → List Report
  | [] => []
  | e :: es => (step P E cfg s e).1.toList ++ run (step P E cfg s e).2 es

end handler

/-! ## What a forwarded call has behind it -/

section forwarded

variable {π : Type} (P : ProxyPlatform) (E : PolicyEngine π) (cfg : ProxyConfig π)

/-- The receipt is an approval of this call, and it extends the head. -/
structure Adoption (call : ToolCall) (receipt : Json) (head : Head Json) : Prop where
  verdict : receipt.path? ["governance", "verdict"] = some (.str "ALLOWED")
  signed : ∃ keyring hashInput, cfg.approverKeyring = some keyring ∧
    receiptHashInput receipt = some hashInput ∧
    SignedByCurrentKey P.toIntrinsics keyring receipt hashInput
  listed : ∀ manifest, cfg.approverIdentityManifest = some manifest →
    manifestLists manifest (Receipt.agentId receipt) (Receipt.kid receipt) = true
  action : actsOn receipt (call.name, canonicalParamsHash P.toAdapterPlatform call.args) = true
  prevHash : receipt.path? ["chain", "prevHash"] = head.prevHash
  seq : receipt.path? ["chain", "seq"] = some (.num head.seq)

/-- The receipt records that the call was allowed. -/
structure RecordsAllowed (call : ToolCall) (receipt : Json) : Prop where
  verdict : receipt.path? ["governance", "verdict"] = some (.str "ALLOWED")
  actionId : ∃ name, call.name.toString? = some name ∧
    receipt.path? ["action", "id"] = some (.str name)
  paramsHash : receipt.path? ["action", "paramsHash"] =
    some (.str (canonicalParamsHash P.toAdapterPlatform call.args))

/-- What a call needs to be forwarded. -/
structure Justified (call : ToolCall) (effects : List Effect) : Prop where
  allowed : ∃ inputs, policyInputs P.toAdapterPlatform call = .ok inputs ∧
    (E.evaluate cfg.policy inputs).allow = true ∧
    (matchApprovalRule cfg.approvalRules call.name inputs = none ∨
      ∃ receipt head, .adopted receipt head ∈ effects ∧ Adoption P cfg call receipt head)
  persisted : ∃ front receipt, effects = front ++ [.persisted receipt] ∧
    RecordsAllowed P call receipt

variable {P E cfg} {call : ToolCall} {w : CallWorld cfg} {s s' : CallState}

lemma checkApproval_eq_ok {head : Head Json} {offered : Option JsValue} {receipt : Json}
    (h : checkApproval P cfg call head offered = .ok receipt) :
    offered.bind JsValue.toJson? = some receipt ∧
      Approved P.toIntrinsics (approvalOptions P cfg call head) receipt := by
  cases offered with
  | none =>
    simp only [checkApproval, bind_eq_ok_iff] at h
    obtain ⟨_, -, h⟩ := h
    cases h
  | some v =>
    simp only [checkApproval, ok_iff] at h
    obtain ⟨r, hr, u, hverified, rfl⟩ := h
    obtain ⟨r', heq, happroved⟩ := verifyApprovalReceipt_eq_ok hverified
    cases heq
    exact ⟨hr, happroved⟩

lemma adoption_of_approved {head extended : Head Json} {receipt : Json}
    (h : Approved P.toIntrinsics (approvalOptions P cfg call head) receipt)
    (hprev : receipt.path? ["chain", "prevHash"] = extended.prevHash)
    (hseq : receipt.path? ["chain", "seq"] = some (.num extended.seq)) :
    Adoption P cfg call receipt extended := by
  obtain ⟨keyring, hashInput, hkeyring, hinput, -, hsigned⟩ := h.signed
  exact
    { verdict := h.verdict
      signed := ⟨keyring, hashInput, hkeyring, hinput, hsigned⟩
      listed := h.listed
      action := h.action _ rfl
      prevHash := hprev
      seq := hseq }

/-- An adopted approval is an approval of the call that extends the head. -/
lemma adoptApproval_eq_ok {record : PendingRecord} {u : Unit}
    (h : adoptApproval P cfg call w record s = .ok u s') :
    ∃ receipt head, .adopted receipt head ∈ s'.effects ∧ Adoption P cfg call receipt head := by
  simp only [adoptApproval, bind_returns_iff, fromExcept_returns_iff, require_returns_iff, emit,
    await, onStore, onState_returns_iff, demand_eq_ok_iff] at h
  obtain ⟨consumed, _, ⟨-, rfl⟩, head, _, ⟨rfl, rfl⟩, receipt, _, ⟨hcheck, rfl⟩, _, _, ⟨-, rfl⟩, _, _,
    ⟨-, rfl⟩, _, _, ⟨-, rfl⟩, adopted, _, ⟨rfl, rfl⟩, extended, _, ⟨hadopted, rfl⟩, -, rfl⟩ := h
  obtain ⟨-, happroved⟩ := checkApproval_eq_ok hcheck
  refine ⟨receipt, extended, List.mem_append_right _ (.head _), ?_⟩
  rcases SessionConfig.adoptApprovedReceipt_cases _ _ receipt _ _ with hnone | ⟨_, hsome, -, hprev, hseq, -⟩
  · rw [hnone] at hadopted
    cases hadopted
  · rw [hsome] at hadopted
    cases hadopted
    exact adoption_of_approved happroved hprev hseq

/-- The hold is answered only by an adoption within the call. -/
lemma resolveOutstanding_eq_ok (h : resolveOutstanding P cfg call w s = .ok true s') :
    ∃ receipt head, .adopted receipt head ∈ s'.effects ∧ Adoption P cfg call receipt head := by
  unfold resolveOutstanding at h
  split at h
  · simp only [bind_returns_iff, fromExcept_returns_iff] at h
    obtain ⟨outstanding, _, ⟨-, rfl⟩, h⟩ := h
    cases outstanding with
    | none =>
      rw [pure_returns_iff] at h
      exact absurd h.1 (by decide)
    | some record =>
      simp only [bind_returns_iff, require_returns_iff, pure_returns_iff] at h
      obtain ⟨_, _, ⟨-, rfl⟩, _, _, hadopt, -, rfl⟩ := h
      exact adoptApproval_eq_ok hadopt
  · rw [pure_returns_iff] at h
    exact absurd h.1 (by decide)

/-- A decision to allow: the policy allows the call, and a rule that holds it was suppressed. -/
lemma plan_allow {Q : AdapterPlatform} {opts : PlanOptions π}
    (h : (computeReceiptPlan Q E call opts).decision = .allow) :
    ∃ inputs, policyInputs Q call = .ok inputs ∧ (E.evaluate opts.policy inputs).allow = true ∧
      (opts.suppressApprovalHold = false →
        matchApprovalRule opts.approvalRules call.name inputs = none) := by
  cases hinputs : policyInputs Q call with
  | error guard =>
    rw [(computeReceiptPlan_of_error hinputs E opts).1] at h
    cases h
  | ok inputs =>
    have hplan : (computeReceiptPlan Q E call opts).evaluation = E.evaluate opts.policy inputs ∧
        (computeReceiptPlan Q E call opts).heldRule =
          if (E.evaluate opts.policy inputs).allow && !opts.suppressApprovalHold then
            matchApprovalRule opts.approvalRules call.name inputs
          else none := by
      rw [computeReceiptPlan, hinputs]
      exact ⟨rfl, rfl⟩
    rw [Plan.decision_eq_allow_iff, hplan.1, hplan.2] at h
    obtain ⟨hheld, hallow⟩ := h
    refine ⟨inputs, rfl, hallow, fun hsuppress => ?_⟩
    rw [hallow, hsuppress] at hheld
    exact hheld

/-- The receipt of an allowed call. -/
lemma recordsAllowed_of_prepared {head : Head Json} {ts : String} {suppress : Bool}
    {prepared : PreCheckResult}
    (h : cfg.prepareSessionReceipt P.toGatePlatform E call head ts suppress = .ok prepared)
    (hallow : prepared.decision = .allow) : RecordsAllowed P call prepared.receipt := by
  obtain ⟨texts, htexts, hbuilt, hdecision⟩ := preCheck_eq_ok h
  rw [hallow] at hdecision
  obtain ⟨-, -, haction, hgovernance⟩ := buildReceipt_payload hbuilt
  obtain ⟨inputs, hinputs, -⟩ := plan_allow hdecision.symm
  have hname : actionText? call = call.name.toString? := by
    rw [actionText?, if_neg]
    simp only [policyInputs, ok_iff] at hinputs
    obtain ⟨_, hempty, -⟩ := hinputs
    rw [hempty]
    exact Bool.false_ne_true
  refine ⟨?_, ⟨texts.actionId, ?_, ?_⟩, ?_⟩
  · rw [Json.path?, hgovernance]
    show some (Json.str (Plan.decision _).verdict) = _
    rw [← hdecision]
    rfl
  · rw [← hname]
    simp only [Plan.texts?, bind, Option.bind_eq_some_iff] at htexts
    obtain ⟨actionId, hactionId, agentId, -, ruleId, -, htexts⟩ := htexts
    cases htexts
    exact hactionId
  · rw [Json.path?, haction]
    rfl
  · rw [Json.path?, haction]
    rfl

/-- **A call that is forwarded is justified.** -/
lemma justified_of_handleCallTool {request : Request} {u : Unit}
    (h : handleCallTool P E cfg request w s = .ok u s') :
    Justified P E cfg (cfg.toolCall request) s'.effects := by
  simp only [handleCallTool, bind_returns_iff, fromExcept_returns_iff, require_returns_iff, emit,
    await, onStore, onState_returns_iff] at h
  obtain ⟨suppress, s₁, hresolved, head, _, ⟨rfl, rfl⟩, prepared, _, ⟨hprepared, rfl⟩, _, _,
    ⟨-, rfl⟩, _, _, ⟨-, rfl⟩, _, _, ⟨-, rfl⟩, _, _, ⟨-, rfl⟩, hanswer⟩ := h
  -- only an allowed call gets past the answer, and the answer leaves the state as it is
  have hallow : prepared.decision = .allow := by
    cases hdecision : prepared.decision with
    | allow => rfl
    | deny =>
      rw [hdecision, answer, raise_returns_iff] at hanswer
      exact hanswer.elim
    | deferred =>
      rw [hdecision] at hanswer
      simp only [answer, bind_returns_iff, require_returns_iff, raise_returns_iff] at hanswer
      obtain ⟨_, _, -, hanswer⟩ := hanswer
      exact hanswer.elim
  rw [hallow, answer, pure_returns_iff] at hanswer
  obtain ⟨-, rfl⟩ := hanswer
  obtain ⟨_, -, -, hdecision⟩ := preCheck_eq_ok hprepared
  obtain ⟨inputs, hinputs, heval, hheld⟩ := plan_allow (hdecision.symm.trans hallow)
  refine ⟨⟨inputs, hinputs, heval, ?_⟩, ⟨_, prepared.receipt, rfl,
    recordsAllowed_of_prepared hprepared hallow⟩⟩
  cases suppress with
  | false => exact .inl (hheld rfl)
  | true =>
    obtain ⟨receipt, adopted, hmem, hadoption⟩ := resolveOutstanding_eq_ok hresolved
    exact .inr ⟨receipt, adopted, List.mem_append_left _ hmem, hadoption⟩

end forwarded

/-- **No held call runs unapproved.**  In every run of the proxy, from any store, whatever its reads
of the pending store return and its writes do: a call that was forwarded was allowed by the policy;
its decision receipt was persisted, as the last thing before; and either no approval rule holds it or,
within the same call, an `ALLOWED` receipt was adopted that is signed under a current key of the
approver keyring, listed in the manifest if there is one, about this action and these arguments, and
extends the head of the session's chain. -/
theorem forwarded_only_if_approved {π : Type} (P : ProxyPlatform) (E : PolicyEngine π)
    (cfg : ProxyConfig π) (store : SessionStore) (events : List (Event cfg)) (report : Report)
    (hreport : report ∈ run P E cfg store events) (hforwarded : report.forwarded = true) :
    Justified P E cfg (cfg.toolCall report.request) report.effects := by
  induction events generalizing store with
  | nil => cases hreport
  | cons event events ih =>
    rw [run, List.mem_append] at hreport
    rcases hreport with hhere | hlater
    · cases event with
      | call request w =>
        unfold step at hhere
        cases hrun : handleCallTool P E cfg request w { store } with
        | ok u s' =>
          simp only [hrun] at hhere
          obtain rfl := List.mem_singleton.mp hhere
          exact justified_of_handleCallTool hrun
        | error e s' =>
          simp only [hrun] at hhere
          obtain rfl := List.mem_singleton.mp hhere
          cases hforwarded
      | disconnect => cases hhere
      | foreign c => cases hhere
    · exact ih _ hlater

/-! ### A held call, approved and made again -/

namespace Sample

def tenant : String := "default-tenant"

def at9 : String := "2026-08-12T09:00:00.000Z"

def paramsHash : String := "sha256:d90089e3ec61fe21ca9038abe51be0b911e9d3dc57a1c6fcd8474954e39e863f"

def compliance : Compliance where
  policyHash := "sha256:b6ff695d54bb839870d72f56011b1dc6dc51d326c49ff6c7d070357bb7cbc3a3"
  readSetHash := "sha256:cf762007e98716b3502ff380724f1412ca4e57346bcb04c9e2a754e7eb62704e"
  inputsHash := "sha256:db54b97c9dfa1c4c1ba419c5ae921774dcf27f763ed79fa53282245f849550e3"
  verdict := "ALLOW"

/-- A receipt about the transfer. -/
def receipt (id chain agentId principal riskClass : String) (governance : List (String × Json))
    (seq : Int) (prevHash : Json) (hash kid value : String) : Json :=
  .obj [("spec", .str "noa.receipt/0.1"), ("id", .str id), ("ts", .str at9),
    ("scope", .obj [("tenant", .str tenant), ("chain", .str chain)]),
    ("agent", .obj [("id", .str agentId), ("model", .null), ("principal", .str principal)]),
    ("action", .obj [("id", .str "transfer_funds"), ("canonical", .str "transfer_funds"),
      ("riskClass", .str riskClass), ("paramsHash", .str paramsHash), ("reversible", .bool false),
      ("rollbackRef", .null)]),
    ("governance", .obj governance),
    ("chain", .obj [("seq", .num seq), ("prevHash", prevHash), ("hash", .str hash)]),
    ("sig", .obj [("alg", .str "ed25519"), ("kid", .str kid), ("value", .str value)])]

/-- A decision of the proxy. -/
def decision (id chain riskClass verdict ruleId : String) (seq : Int) (prevHash : Json)
    (hash value : String) : Json :=
  receipt id chain "s1" "POLICY" riskClass
    [("mode", .str "on"), ("verdict", .str verdict), ("ruleId", .str ruleId), ("approval", .null),
      ("sandboxed", .bool false), ("compliance", compliance.toJson)] seq prevHash hash "gate-1" value

/-- An approval by a human. -/
def approval (chain : String) (compliance : Json) (seq : Int) (prevHash : Json)
    (hash value : String) : Json :=
  receipt "rcpt_0-approved" chain "human-approval-cli" "HUMAN" "HIGH"
    [("mode", .str "on"), ("verdict", .str "ALLOWED"), ("ruleId", .str "approval:big"),
      ("approval", .obj [("by", .str "approver:1"), ("at", .str at9)]), ("sandboxed", .bool false),
      ("compliance", compliance)] seq prevHash hash "approver-1" value

def segment1 : String := "default-tenant:s1#tok-seg1"

def heldHash : String := "ca87624a079a5362cff2e7f0836cc2b3328e8ffe206cb7695c06f5f499a46a75"

def approvedHash : String := "0864ef8b1162b31da37ff129015de4bcd7486952144449597a04fdf4347371a7"

def approvedSig : String :=
  "wo5fwKCcDqMK8CkILdnYM3W+KcxCmGRQYIrD/gC5i5jZohrB6kOLTamaTaACpPZ5AXDBChLDca/NdTg30eO9DA=="

/-- The approval of the held call. -/
def approved : Json :=
  approval segment1 compliance.toJson 1 (.str ("sha256:" ++ heldHash)) ("sha256:" ++ approvedHash)
    approvedSig

def hashText (r : Json) : List Char := (receiptHashInput r).getD []

/-- The digests of the texts that are hashed in this run. -/
def digests : List (List Char × String) :=
  [(Text.chars "\x7b\"to\":\"acct\"\x7d",
      "d90089e3ec61fe21ca9038abe51be0b911e9d3dc57a1c6fcd8474954e39e863f"),
    (Text.chars "noa-mcp-adapter-core:paramsHash-uncanonicalizable-args",
      "478bf8961fbc313c2fcc1a87ea94da75a7c37ed9e100665aca397414a9ac1c2e"),
    (hashText (decision "rcpt_0" segment1 "HIGH" "DEFERRED" "approval:big" 0 .null "" ""), heldHash),
    (hashText approved, approvedHash),
    (hashText (decision "rcpt_2" segment1 "LOW" "ALLOWED" "allow-transfer" 2
        (.str ("sha256:" ++ approvedHash)) "" ""),
      "9df25803455585153a16509f2e423c984f6ada9417422cb6da44dba5e8817e4b")]

/-- What the proxy's key signs. -/
def signatures : List (String × String) :=
  [("NOA-Receipt-v0.1-sig:" ++ heldHash,
      "4Kbcp+ix637w5aHAFfVi0q0J/JZWSlzrC8zPcA/OEc/ISUEOzuc+eWVaXYQRLzkHUpDym88e7qyEAzHX31zfCA=="),
    ("NOA-Receipt-v0.1-sig:9df25803455585153a16509f2e423c984f6ada9417422cb6da44dba5e8817e4b",
      "D6uCAetFl/3WSd/262hW1EdkuZK20C+v7+z8cOTYuiv4h0EPtrtZHO+9vcovifLv3qTxHCgGytwJe0Id2VJxAA==")]

def approverKey : String := "MCowBQYDK2VwAyEAbPy59N/xeRH5nmlet5Ph7Eo74Vnovi0kVEd2Wt0Sq0s="

mutual

/-- A document of the sample as a value; its numbers are zero and one. -/
def value : Json → JsValue
  | .null => .null
  | .bool b => .bool b
  | .num n => .num (if n = 0 then .finite Binary64.zero else .finite ⟨.ofOdd 1 0 rfl, rfl⟩)
  | .str s => .str (js s)
  | .arr xs => .arr (values xs)
  | .obj ms => .obj (members ms)

def values : List Json → List JsValue
  | [] => []
  | x :: xs => value x :: values xs

def members : List (String × Json) → List (JsString × JsValue)
  | [] => []
  | (k, v) :: ms => (js k, value v) :: members ms

end

/-- The two events of an approved request. -/
def created : JsValue :=
  value (.obj [("event", .str "created"), ("id", .str "rcpt_0"), ("sessionId", .str "s1"),
    ("tenant", .str tenant), ("agentId", .str "s1"), ("actionId", .str "transfer_funds"),
    ("paramsHash", .str paramsHash)])

def granted (allowedReceipt : Json) : JsValue :=
  value (.obj [("event", .str "approved"), ("id", .str "rcpt_0"), ("tenant", .str tenant),
    ("sessionId", .str "s1"), ("ticketExpiresAt", .str "2026-08-12T10:00:00.000Z"),
    ("allowedReceipt", allowedReceipt)])

/-- The platform before JSON texts are read. -/
def gate (digests : List (List Char × String)) (verified : List (String × String × String))
    (signatures : List (String × String)) : GatePlatform where
  toIntrinsics := Intrinsics.ofTables digests verified []
  numberText := exactText
  signEd25519 _ message := signatures.lookup message

/-- The line of an event. -/
def line (P : AdapterPlatform) (v : JsValue) : JsString := .ofChars (jsonStringifyValue P v)

/-- A platform that reads the lines of the given events. -/
def platform (G : GatePlatform) (events : List JsValue) : ProxyPlatform where
  toGatePlatform := G
  jsonParse text := (events.map fun v => (line G.toAdapterPlatform v, v)).lookup text
  dateOf
    | some (.str t) => if t = js "2026-08-12T10:00:00.000Z" then some 1786528800000 else none
    | _ => none

/-- A file with the given events. -/
def file (P : AdapterPlatform) (events : List JsValue) : PendingFile :=
  .text (events.flatMap fun v => line P v ++ [0xA])

def engine : PolicyEngine Unit where
  evaluate _ _ := ⟨true, some "allow-transfer", "noa-refeval/0.2"⟩
  complianceCommit _ _ := some compliance
  policyHash _ := some compliance.policyHash

/-- One rule that holds every transfer. -/
def rules : RuleSet :=
  .value (.arr [.obj [(js "id", .str (js "big")),
    (js "match", .obj [(js "type", .str (js "exact")), (js "action", .str (js "transfer_funds"))])]])

def config : ProxyConfig Unit where
  sessionId := "s1"
  tenant := tenant
  instanceToken := "tok"
  limits := ⟨3600000, 10000⟩
  signer := ⟨"gate-1", "MC4CAQAwBQYDK2VwBCIEIMl04XuOcyHOjBKYPePQ7UoomCH1ebvgklsBgaS8jo2A"⟩
  policy := ()
  approvalRules := rules
  agentId := none
  pendingStore := true
  approverKeyring := some (.obj [("approver-1", .str approverKey)])
  approverIdentityManifest := none

/-- A world in which every write succeeds. -/
def world (file : PendingFile) : CallWorld config where
  atLookup := file
  atConsumption := file
  consumed := true
  approvalPersisted := true
  receiptPersisted := true
  deferredRecorded := true
  now := 1786525200000
  clock _ := 1786525200000
  ts := at9
  duringApproval := []
  duringReceipt := []

def transfer : Request := ⟨js "transfer_funds", some (.obj [(js "to", .str (js "acct"))])⟩

def gate1 : GatePlatform :=
  gate digests [(approverKey, "NOA-Receipt-v0.1-sig:" ++ approvedHash, approvedSig)] signatures

def platform1 : ProxyPlatform := platform gate1 [created, granted approved]

/-- The transfer is held, approved, and made again. -/
def approvedRun : List (Event config) :=
  [.call transfer (world .missing),
    .call transfer (world (file gate1.toAdapterPlatform [created, granted approved]))]

end Sample

open Sample in
/-- The first call is held; the second is forwarded, after an adoption. -/
theorem forwarded_only_if_approved_held : (run platform1 engine config {} approvedRun).map
        (fun report => (report.forwarded, report.effects.length)) = [(false, 1), (true, 3)] ∧
      ∃ report ∈ run platform1 engine config {} approvedRun, report.forwarded = true ∧
        Justified platform1 engine config (config.toolCall report.request) report.effects := by
  have hrun : (run platform1 engine config {} approvedRun).map
      (fun report => (report.forwarded, report.effects.length)) = [(false, 1), (true, 3)] := by
    decide +kernel
  refine ⟨hrun, ?_⟩
  have hmem : (true, 3) ∈ (run platform1 engine config {} approvedRun).map
      (fun report => (report.forwarded, report.effects.length)) := by
    rw [hrun]
    decide
  obtain ⟨report, hreport, heq⟩ := List.mem_map.mp hmem
  have hforwarded : report.forwarded = true := (Prod.mk.inj heq).1
  exact ⟨report, hreport, hforwarded, forwarded_only_if_approved platform1 engine config {}
    approvedRun report hreport hforwarded⟩

end NoaMandate.Proxy
