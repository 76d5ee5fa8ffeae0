import NoaMandate.Proxy.CallTool

/-!
# One approval, one execution

An approval is spent in the pending store, but the pending store is a file that anybody may rewrite.
What keeps an approval from being used twice is the chain: an approval extends one head, the head
moves when it is adopted, and a new segment of the session has a new chain id.

That works for approvals that follow a receipt, because `verifyApprovalReceipt` compares their chain
id with that of the head.  An approval that is the first receipt of its chain has no head to be compared
with; every new segment of the session accepts it again (`genesis_approval_adopted_twice`).

`adopted_at_most_once` is the case in between: in every run in which the pending store offers only
approvals that name a previous receipt, each is adopted at most once.  `Inv` is the invariant: the head of
the session is on the chain of its segment, and whatever was adopted in the live segment has a smaller
sequence number than the head.
-/

namespace NoaMandate.Proxy

open Adapter Pipeline Program

/-- What was adopted, each with the segment it was adopted in. -/
def adoptions (effects : List Effect) : List (Json × Nat) :=
  effects.filterMap fun
    | .adopted receipt head => some (receipt, head.segmentId)
    | .persisted _ => none

/-- The place that a receipt claims in a chain. -/
def place (receipt : Json) : String × Int := (Receipt.chainId receipt, Receipt.seq receipt)

section invariant

variable {π : Type} (cfg : ProxyConfig π)

/-- The head of the session, if it is live, is on the chain of its segment. -/
structure OnOwnChain (s : SessionStore) : Prop where
  bound : ∀ head, cfg.head? s = some head → head.segmentId ≤ s.segmentCounter
  chain : ∀ head prev, cfg.head? s = some head → head.prev = some prev →
    prev.strAt? ["scope", "chain"] = some (cfg.chain head.segmentId)

/-- The invariant of a run, over what was adopted so far. -/
structure Inv (adopted : List (Json × Nat)) (s : SessionStore) : Prop extends OnOwnChain cfg s where
  segment : ∀ a ∈ adopted, a.2 ≤ s.segmentCounter ∧ Receipt.chainId a.1 = cfg.chain a.2
  spent : ∀ a ∈ adopted, ∀ head, cfg.head? s = some head → head.segmentId = a.2 →
    Receipt.seq a.1 < head.seq
  distinct : adopted.Pairwise fun a b => place a.1 ≠ place b.1

variable {cfg} {adopted : List (Json × Nat)} {s s' : SessionStore}

lemma inv_of_onOwnChain (h : OnOwnChain cfg s) : Inv cfg [] s where
  toOnOwnChain := h
  segment _ ha := absurd ha List.not_mem_nil
  spent _ ha := absurd ha List.not_mem_nil
  distinct := .nil

/-! ## Steps keep the invariant -/

lemma Inv.disturbed (h : Inv cfg adopted s)
    (hd : ChainStore.Disturbed cfg.tenant cfg.sessionId s s') : Inv cfg adopted s' := by
  -- a live head is the head that was there before
  have hold : ∀ head, cfg.head? s' = some head → cfg.head? s = some head := by
    intro head hhead
    rcases hd.head with heq | hgone
    · exact heq.symm.trans hhead
    · cases hgone.symm.trans hhead
  exact
    { bound := fun head hhead => (h.bound head (hold head hhead)).trans hd.counter
      chain := fun head prev hhead => h.chain head prev (hold head hhead)
      segment := fun a ha => ⟨(h.segment a ha).1.trans hd.counter, (h.segment a ha).2⟩
      spent := fun a ha head hhead => h.spent a ha head (hold head hhead)
      distinct := h.distinct }

lemma Inv.peek (h : Inv cfg adopted s) (now : Int) : Inv cfg adopted (cfg.peek now s).2 := by
  have hhead : cfg.head? (cfg.peek now s).2 = some (cfg.peek now s).1 :=
    (ChainStore.peek_cases cfg.limits now).1
  rcases (ChainStore.peek_cases (s := s) (t := cfg.tenant) (i := cfg.sessionId) cfg.limits now).2 with
    ⟨hold, hcounter⟩ | ⟨-, hnew, hcounter⟩
  · exact h.disturbed ⟨hcounter.ge, .inl (hhead.trans hold.symm)⟩
  · -- a new segment: nothing was adopted in it
    have hlive : ∀ head, cfg.head? (cfg.peek now s).2 = some head →
        head = ⟨none, 0, s.segmentCounter + 1⟩ := by
      intro head hhead'
      exact (Option.mem_unique hhead hhead').symm.trans hnew
    have hcounter' : (cfg.peek now s).2.segmentCounter = s.segmentCounter + 1 := hcounter
    refine ⟨⟨?_, ?_⟩, ?_, ?_, h.distinct⟩
    · intro head hhead'
      rw [hlive head hhead', hcounter']
    · intro head prev hhead' hprev
      rw [hlive head hhead'] at hprev
      cases hprev
    · intro a ha
      rw [hcounter']
      exact ⟨(h.segment a ha).1.trans (Nat.le_succ _), (h.segment a ha).2⟩
    · intro a ha head hhead' hsegment
      have hle := (h.segment a ha).1
      rw [hlive head hhead'] at hsegment
      have hsegment' : s.segmentCounter + 1 = a.2 := hsegment
      omega

variable {receipt : Json}

variable {head : Head Json}

/-- The head moves to a receipt on the chain of its segment. -/
lemma Inv.move (h : Inv cfg adopted s) (hhead : cfg.head? s = some head) (hcounter : s'.segmentCounter = s.segmentCounter)
    (hnew : cfg.head? s' = some ⟨some receipt, head.seq + 1, head.segmentId⟩)
    (hchain : receipt.strAt? ["scope", "chain"] = some (cfg.chain head.segmentId)) :
    Inv cfg adopted s' := by
  have hlive : ∀ head', cfg.head? s' = some head' →
      head' = ⟨some receipt, head.seq + 1, head.segmentId⟩ := by
    intro head' hhead'
    exact (Option.mem_unique hnew hhead').symm
  refine ⟨⟨?_, ?_⟩, ?_, ?_, h.distinct⟩
  · intro head' hhead'
    rw [hlive head' hhead', hcounter]
    exact h.bound head hhead
  · intro head' prev hhead' hprev
    rw [hlive head' hhead'] at hprev ⊢
    cases hprev
    exact hchain
  · intro a ha
    rw [hcounter]
    exact h.segment a ha
  · intro a ha head' hhead' hsegment
    rw [hlive head' hhead'] at hsegment ⊢
    exact (h.spent a ha head hhead hsegment).trans (Int.lt_succ _)

lemma Inv.commit (h : Inv cfg adopted s) (now : Int) {segmentId : Nat}
    (hchain : receipt.strAt? ["scope", "chain"] = some (cfg.chain segmentId)) :
    Inv cfg adopted (cfg.commitSessionReceipt now receipt segmentId s).2 := by
  rcases ChainStore.advance_cases (s := s) (t := cfg.tenant) (i := cfg.sessionId) cfg.limits now
    receipt segmentId with ⟨-, hcounter, head, hhead, rfl, hnew⟩ | hfalse
  · exact h.move hhead hcounter hnew hchain
  · unfold SessionConfig.commitSessionReceipt
    rw [hfalse]
    exact h

/-- An adopted receipt takes a place that no receipt before it took. -/
lemma Inv.adopt (h : Inv cfg adopted s) (hhead : cfg.head? s = some head) (hcounter : s'.segmentCounter = s.segmentCounter)
    (hnew : cfg.head? s' = some ⟨some receipt, head.seq + 1, head.segmentId⟩)
    (hchain : receipt.strAt? ["scope", "chain"] = some (cfg.chain head.segmentId))
    (hseq : Receipt.seq receipt = head.seq) :
    Inv cfg (adopted ++ [(receipt, head.segmentId)]) s' := by
  have hmoved := h.move hhead hcounter hnew hchain
  have hid : Receipt.chainId receipt = cfg.chain head.segmentId := by
    rw [Receipt.chainId, Json.strAt, hchain, Option.getD_some]
  refine ⟨hmoved.toOnOwnChain, ?_, ?_, ?_⟩
  · intro a ha
    rcases List.mem_append.mp ha with ha | ha
    · exact hmoved.segment a ha
    · rw [List.mem_singleton.mp ha, hcounter]
      exact ⟨h.bound head hhead, hid⟩
  · intro a ha head' hhead' hsegment
    rcases List.mem_append.mp ha with ha | ha
    · exact hmoved.spent a ha head' hhead' hsegment
    · rw [List.mem_singleton.mp ha, ← Option.mem_unique hnew hhead', hseq]
      exact Int.lt_succ _
  · rw [List.pairwise_append]
    refine ⟨h.distinct, List.pairwise_singleton _ _, ?_⟩
    intro a ha b hb heq
    rw [List.mem_singleton.mp hb] at heq
    obtain ⟨hchains, hseqs⟩ := Prod.mk.inj heq
    have hsegment : a.2 = head.segmentId := by
      apply defaultChain_injective cfg.tenant cfg.sessionId cfg.instanceToken
      exact (h.segment a ha).2.symm.trans (hchains.trans hid)
    have hspent := h.spent a ha head hhead hsegment.symm
    rw [hseqs, hseq] at hspent
    exact lt_irrefl _ hspent

end invariant

/-! ## A call keeps the invariant -/

section calls

variable {π : Type} {P : ProxyPlatform} {E : PolicyEngine π} {cfg : ProxyConfig π}
  {past : List (Json × Nat)} {call : ToolCall} {w : CallWorld cfg}

/-- What a pending store offers follows a receipt: no offered approval is the first of its chain. -/
def offersChained (P : ProxyPlatform) (file : PendingFile) : Bool :=
  match loadPendingIndex P.toPendingPlatform file with
  | .error _ => true
  | .ok index => index.all fun e => (e.2.allowedReceipt.bind JsValue.toJson?).all fun receipt =>
    receipt.path? ["chain", "prevHash"] ≠ some .null

lemma chained_of_offersChained {file : PendingFile} (h : offersChained P file = true)
    {index : List (JsString × PendingRecord)}
    (hindex : loadPendingIndex P.toPendingPlatform file = .ok index) {e : JsString × PendingRecord}
    (he : e ∈ index) {receipt : Json}
    (hreceipt : e.2.allowedReceipt.bind JsValue.toJson? = some receipt) :
    receipt.path? ["chain", "prevHash"] ≠ some .null := by
  rw [offersChained, hindex] at h
  have hall := List.all_eq_true.mp h e he
  rw [hreceipt, Option.all_some] at hall
  exact of_decide_eq_true hall

/-- The invariant in the middle of a call. -/
def Safe (cfg : ProxyConfig π) (past : List (Json × Nat)) (s : CallState) : Prop :=
  Inv cfg (past ++ adoptions s.effects) s.store

lemma consumed_mem {Q : PendingPlatform} {file : PendingFile} {id sessionId tenant : JsString}
    {now : Int} {appended : Bool} {record : PendingRecord}
    (h : consumeApprovalTicket Q file id now sessionId tenant appended = .ok record) :
    ∃ index key, loadPendingIndex Q file = .ok index ∧ (key, record) ∈ index := by
  simp only [consumeApprovalTicket, ok_iff] at h
  obtain ⟨index, hindex, record, hlookup, _, -, _, -, _, -, _, -, rfl⟩ := h
  exact ⟨_, _, hindex, Assoc.mem_of_lookup hlookup⟩

lemma adoptions_append_persisted (effects : List Effect) (receipt : Json) :
    adoptions (effects ++ [.persisted receipt]) = adoptions effects := by
  simp [adoptions]

lemma adoptions_append_adopted (effects : List Effect) (receipt : Json) (head : Head Json) :
    adoptions (effects ++ [.adopted receipt head]) =
      adoptions effects ++ [(receipt, head.segmentId)] := by
  simp [adoptions]

lemma spec_await {pre : CallState → Prop} {post : Unit → CallState → Prop} {err : CallState → Prop}
    {calls : List (ForeignCall cfg)}
    (h : ∀ s store, pre s → ChainStore.Disturbed cfg.tenant cfg.sessionId s.store store →
      post () { s with store }) : Spec pre (await calls) post err := by
  apply Spec.onState
  intro s hs
  apply h s _ hs
  apply StoreCall.disturbed_execAll
  intro c hc
  obtain ⟨c', -, rfl⟩ := List.mem_map.mp hc
  exact c'.property

/-- The look at the head before an approval is checked against it. -/
def Looked (cfg : ProxyConfig π) (past : List (Json × Nat)) (head : Head Json) (s : CallState) :
    Prop :=
  Safe cfg past s ∧ cfg.head? s.store = some head

/-- After the wait: the head is as it was looked at, or the session is gone. -/
def Waited (cfg : ProxyConfig π) (past : List (Json × Nat)) (head : Head Json) (s : CallState) :
    Prop :=
  Safe cfg past s ∧ head.segmentId ≤ s.store.segmentCounter ∧
    (cfg.head? s.store = some head ∨ cfg.head? s.store = none) ∧
    ∀ prev, head.prev = some prev →
      prev.strAt? ["scope", "chain"] = some (cfg.chain head.segmentId)

lemma waited_of_looked {s : CallState} {store : SessionStore} (h : Looked cfg past head s)
    (hd : ChainStore.Disturbed cfg.tenant cfg.sessionId s.store store) :
    Waited cfg past head { s with store } := by
  obtain ⟨hsafe, hhead⟩ := h
  refine ⟨hsafe.disturbed hd, (hsafe.bound head hhead).trans hd.counter, ?_, ?_⟩
  · rcases hd.head with heq | hgone
    · exact .inl (heq.trans hhead)
    · exact .inr hgone
  · intro prev hprev
    exact hsafe.chain head prev hhead hprev

/-- An adoption after the wait. -/
lemma safe_adopt {receipt : Json} {s : CallState} (h : Waited cfg past head s)
    (happroved : Approved P.toIntrinsics (approvalOptions P cfg call head) receipt)
    (hchained : receipt.path? ["chain", "prevHash"] ≠ some .null) (peekedAt advancedAt : Int) :
    (cfg.adoptApprovedReceipt peekedAt advancedAt receipt head.segmentId s.store).1 = none ∧
        Inv cfg (past ++ adoptions s.effects)
          (cfg.adoptApprovedReceipt peekedAt advancedAt receipt head.segmentId s.store).2 ∨
      ∃ extended,
        (cfg.adoptApprovedReceipt peekedAt advancedAt receipt head.segmentId s.store).1 =
          some extended ∧
        Inv cfg (past ++ adoptions s.effects ++ [(receipt, extended.segmentId)])
          (cfg.adoptApprovedReceipt peekedAt advancedAt receipt head.segmentId s.store).2 := by
  obtain ⟨hsafe, hbound, hlive, hchain⟩ := h
  have hpeeked := ChainStore.peek_cases (s := s.store) (t := cfg.tenant) (i := cfg.sessionId)
    cfg.limits peekedAt
  rcases SessionConfig.adoptApprovedReceipt_cases peekedAt advancedAt receipt head.segmentId
    s.store with hnone | ⟨s', hsome, hsegment, hprev, hseq, hcounter, hnew⟩
  · rw [hnone]
    exact .inl ⟨rfl, hsafe.peek peekedAt⟩
  · rw [hsome]
    refine .inr ⟨_, rfl, ?_⟩
    -- the segment did not change, so the head is the one that was looked at
    have hsame : (cfg.peek peekedAt s.store).1 = head := by
      rcases hpeeked.2 with ⟨hold, -⟩ | ⟨-, hfresh, -⟩
      · rcases hlive with hlive | hgone
        · exact Option.mem_unique hold hlive
        · cases hgone.symm.trans hold
      · have hfresh' : (cfg.peek peekedAt s.store).1.segmentId = s.store.segmentCounter + 1 :=
          congrArg Head.segmentId hfresh
        omega
    rw [hsame] at hprev hseq hnew ⊢
    have hseq' : Receipt.seq receipt = head.seq := by
      rw [Receipt.seq, Json.numAt, hseq]
    refine (hsafe.peek peekedAt).adopt ?_ hcounter hnew ?_ hseq'
    · exact hpeeked.1.trans (congrArg some hsame)
    · cases hcase : head.prev with
      | none =>
        rw [Head.prevHash, hcase] at hprev
        exact absurd hprev hchained
      | some prev =>
        have hexpected : expectedChain head = some (cfg.chain head.segmentId) := by
          rw [expectedChain, hcase, Option.bind_some, hchain prev hcase]
        have hid := happroved.chain _ hexpected
        rw [Receipt.chainId, Json.strAt] at hid
        cases hstr : receipt.strAt? ["scope", "chain"] with
        | none =>
          rw [hstr, Option.getD_none] at hid
          exact absurd hid.symm (defaultChain_ne_empty _ _ _ _)
        | some chain =>
          rw [hstr, Option.getD_some] at hid
          rw [hid]

lemma spec_adoptApproval (hoffers : offersChained P w.atConsumption = true) (record : PendingRecord) :
    Spec (Safe cfg past) (adoptApproval P cfg call w record) (fun _ => Safe cfg past)
      (Safe cfg past) := by
  unfold adoptApproval
  refine Spec.bind_fromExcept (fun _ h => h) fun consumed hconsumed => ?_
  have hpeek : Spec (Safe cfg past) (onStore (cfg.peek (w.clock 0)) : CallM (Head Json))
      (Looked cfg past) (Safe cfg past) :=
    Spec.onState fun s hs => ⟨hs.peek _, (ChainStore.peek_cases cfg.limits (w.clock 0)).1⟩
  refine hpeek.bind fun head => ?_
  refine Spec.bind_fromExcept (fun _ h => h.1) fun receipt hcheck => ?_
  obtain ⟨hoffered, happroved⟩ := checkApproval_eq_ok hcheck
  have hchained : receipt.path? ["chain", "prevHash"] ≠ some .null := by
    obtain ⟨index, key, hindex, hmem⟩ := consumed_mem hconsumed
    exact chained_of_offersChained hoffers hindex hmem hoffered
  have hawait : Spec (Looked cfg past head) (await w.duringApproval) (fun _ => Waited cfg past head)
      (Safe cfg past) :=
    spec_await fun s store hs hd => waited_of_looked hs hd
  refine hawait.bind fun _ => ?_
  refine Spec.bind_require (fun _ h => h.1) ?_
  have hpersist : Spec (Waited cfg past head) (emit (.persisted receipt))
      (fun _ => Waited cfg past head) (Safe cfg past) := by
    apply Spec.onState
    intro s hs
    obtain ⟨hsafe, hrest⟩ := hs
    refine ⟨?_, hrest⟩
    show Inv cfg (past ++ adoptions (s.effects ++ [.persisted receipt])) s.store
    rw [adoptions_append_persisted]
    exact hsafe
  refine hpersist.bind fun _ => ?_
  have hadopt : Spec (Waited cfg past head)
      (onStore (cfg.adoptApprovedReceipt (w.clock 1) (w.clock 2) receipt head.segmentId) :
        CallM (Option (Head Json)))
      (fun adopted s => adopted = none ∧ Safe cfg past s ∨ ∃ extended, adopted = some extended ∧
        Inv cfg (past ++ adoptions s.effects ++ [(receipt, extended.segmentId)]) s.store)
      (Safe cfg past) :=
    Spec.onState fun s hs => safe_adopt hs happroved hchained _ _
  refine hadopt.bind fun adopted => ?_
  cases adopted with
  | none =>
    intro s hs
    rcases hs with ⟨-, hsafe⟩ | ⟨_, h, -⟩
    · exact hsafe
    · cases h
  | some extended =>
    intro s hs
    rcases hs with ⟨h, -⟩ | ⟨_, heq, hinv⟩
    · cases h
    · cases heq
      show Inv cfg (past ++ adoptions (s.effects ++ [.adopted receipt extended])) s.store
      rw [adoptions_append_adopted, ← List.append_assoc]
      exact hinv

lemma spec_resolveOutstanding (hoffers : offersChained P w.atConsumption = true) :
    Spec (Safe cfg past) (resolveOutstanding P cfg call w) (fun _ => Safe cfg past)
      (Safe cfg past) := by
  unfold resolveOutstanding
  split
  · refine Spec.bind_fromExcept (fun _ h => h) fun outstanding _ => ?_
    cases outstanding with
    | none => exact Spec.pure fun _ h => h
    | some record =>
      refine Spec.bind_require (fun _ h => h) ?_
      exact (spec_adoptApproval hoffers record).bind fun _ => Spec.pure fun _ h => h
  · exact Spec.pure fun _ h => h

lemma spec_answer (decision : Decision) :
    Spec (Safe cfg past) (answer cfg w decision) (fun _ => Safe cfg past) (Safe cfg past) := by
  cases decision with
  | allow => exact Spec.pure fun _ h => h
  | deny => exact Spec.raise fun _ h => h
  | deferred =>
    refine Spec.bind_require (fun _ h => h) ?_
    exact Spec.raise fun _ h => h

/-- **Every call keeps the invariant**, whether it is forwarded or not. -/
lemma spec_handleCallTool (hoffers : offersChained P w.atConsumption = true) (request : Request) :
    Spec (Safe cfg past) (handleCallTool P E cfg request w) (fun _ => Safe cfg past)
      (Safe cfg past) := by
  unfold handleCallTool
  refine (spec_resolveOutstanding hoffers).bind fun suppress => ?_
  have hpeek : Spec (Safe cfg past) (onStore (cfg.peek (w.clock 3)) : CallM (Head Json))
      (fun _ => Safe cfg past) (Safe cfg past) :=
    Spec.onState fun s hs => hs.peek _
  refine hpeek.bind fun head => ?_
  refine Spec.bind_fromExcept (fun _ h => h) fun prepared hprepared => ?_
  have hawait : Spec (Safe cfg past) (await w.duringReceipt) (fun _ => Safe cfg past)
      (Safe cfg past) :=
    spec_await fun s store hs hd => hs.disturbed hd
  refine hawait.bind fun _ => ?_
  refine Spec.bind_require (fun _ h => h) ?_
  have hpersist : Spec (Safe cfg past) (emit (.persisted prepared.receipt))
      (fun _ => Safe cfg past) (Safe cfg past) := by
    apply Spec.onState
    intro s hs
    show Inv cfg (past ++ adoptions (s.effects ++ [.persisted prepared.receipt])) s.store
    rw [adoptions_append_persisted]
    exact hs
  refine hpersist.bind fun _ => ?_
  have hcommit : Spec (Safe cfg past)
      (onStore (cfg.commitSessionReceipt (w.clock 4) prepared.receipt head.segmentId) : CallM Bool)
      (fun _ => Safe cfg past) (Safe cfg past) :=
    Spec.onState fun s hs =>
      hs.commit _ (SessionConfig.chain_of_prepareSessionReceipt hprepared)
  exact hcommit.bind fun _ => spec_answer prepared.decision

end calls

/-! ## Runs -/

section runs

variable {π : Type} {P : ProxyPlatform} {E : PolicyEngine π} {cfg : ProxyConfig π}

/-- Everything that a run offers as an approval follows a receipt. -/
def Event.offersChained (P : ProxyPlatform) : Event cfg → Bool
  | .call _ w => Proxy.offersChained P w.atConsumption
  | _ => true

/-- The approvals that were adopted in a run, each with its segment. -/
def adoptedIn (reports : List Report) : List (Json × Nat) :=
  reports.flatMap fun report => adoptions report.effects

/-- One event keeps the invariant. -/
lemma inv_step {past : List (Json × Nat)} {store : SessionStore} {event : Event cfg}
    (h : Inv cfg past store) (hoffers : event.offersChained P = true) :
    Inv cfg (past ++ adoptedIn (step P E cfg store event).1.toList) (step P E cfg store event).2 := by
  cases event with
  | call request w =>
    have hstart : Safe cfg past { store } := by
      show Inv cfg (past ++ adoptions []) store
      rw [show adoptions [] = [] from rfl, List.append_nil]
      exact h
    have hcall := spec_handleCallTool (E := E) hoffers request { store } hstart
    cases hrun : handleCallTool P E cfg request w { store } with
    | ok u s' =>
      rw [hrun] at hcall
      simpa [step, hrun, adoptedIn, Safe] using hcall
    | error e s' =>
      rw [hrun] at hcall
      simpa [step, hrun, adoptedIn, Safe] using hcall
  | disconnect =>
    have hended := h.disturbed
      (ChainStore.disturbed_endSession (s := store) cfg.tenant cfg.sessionId)
    simpa [step, adoptedIn] using hended
  | foreign c =>
    have hforeign := h.disturbed (StoreCall.disturbed c.property cfg.limits store)
    simpa [step, adoptedIn] using hforeign

/-- No two adoptions of a run claim one place. -/
lemma pairwise_adoptedIn_run (events : List (Event cfg)) :
    ∀ (past : List (Json × Nat)) (store : SessionStore), Inv cfg past store →
      (∀ event ∈ events, event.offersChained P = true) →
      (past ++ adoptedIn (run P E cfg store events)).Pairwise fun a b => place a.1 ≠ place b.1 := by
  induction events with
  | nil =>
    intro past store h _
    rw [run, adoptedIn, List.flatMap_nil, List.append_nil]
    exact h.distinct
  | cons event events ih =>
    intro past store h hoffers
    have hstep := inv_step (E := E) h (hoffers event (.head _))
    have hrest := ih _ _ hstep fun e he => hoffers e (.tail _ he)
    rw [run, adoptedIn, List.flatMap_append]
    rw [List.append_assoc] at hrest
    exact hrest

end runs

/-- **One approval, one execution**, for approvals that follow a receipt.  In every run of the proxy,
from a store whose head for the session is on the chain of its own segment, in which the pending store
offers no approval that is the first receipt of its chain: no receipt is adopted twice.  Even two
different documents are not both adopted if they claim one place, a chain id and a sequence number. -/
theorem adopted_at_most_once {π : Type} (P : ProxyPlatform) (E : PolicyEngine π)
    (cfg : ProxyConfig π) (store : SessionStore) (events : List (Event cfg))
    (hstore : OnOwnChain cfg store) (hoffers : ∀ event ∈ events, event.offersChained P = true) :
    ((adoptedIn (run P E cfg store events)).map Prod.fst).Nodup ∧
      (adoptedIn (run P E cfg store events)).Pairwise fun a b => place a.1 ≠ place b.1 := by
  have hplaces : (adoptedIn (run P E cfg store events)).Pairwise
      fun a b => place a.1 ≠ place b.1 := by
    have hrun := pairwise_adoptedIn_run (E := E) events [] store (inv_of_onOwnChain hstore) hoffers
    rwa [List.nil_append] at hrun
  refine ⟨?_, hplaces⟩
  rw [List.Nodup, List.pairwise_map]
  refine hplaces.imp fun hne heq => ?_
  exact hne (congrArg place heq)

lemma onOwnChain_empty {π : Type} (cfg : ProxyConfig π) : OnOwnChain cfg {} where
  bound _ h := by cases h
  chain _ _ h := by cases h

open Sample in
/-- The approval of a held call is adopted in its run, once. -/
theorem adopted_at_most_once_approved :
    (adoptedIn (run platform1 engine config {} approvedRun)).map Prod.fst = [approved] ∧
      ((adoptedIn (run platform1 engine config {} approvedRun)).map Prod.fst).Nodup := by
  have hoffers : ∀ event ∈ approvedRun, event.offersChained platform1 = true := by
    rw [← List.all_eq_true]
    decide +kernel
  exact ⟨by decide +kernel,
    (adopted_at_most_once platform1 engine config {} approvedRun (onOwnChain_empty config) hoffers).1⟩

/-! ### An approval that is the first of its chain -/

namespace Sample

def genesisHash : String := "2c0fec11850bb83377069e48cf2db8edc9a933b5d49bc9178b438c96da4b4ee6"

def genesisSig : String :=
  "Zp4pQkLXDOMzhYPMTugKIWJFf799pgsznmNoLaPVYIEvVFDl7Vj6hpZiRIja7IE1K1L+MCGuk3Di++gwoMHeAw=="

/-- An approval of the transfer that follows nothing. -/
def genesis : Json := approval "c" .null 0 .null ("sha256:" ++ genesisHash) genesisSig

def segment2 : String := "default-tenant:s1#tok-seg2"

def onGenesis (chain : String) : Json :=
  decision "rcpt_1" chain "LOW" "ALLOWED" "allow-transfer" 1 (.str ("sha256:" ++ genesisHash)) "" ""

def genesisDigests : List (List Char × String) :=
  [(Text.chars "\x7b\"to\":\"acct\"\x7d",
      "d90089e3ec61fe21ca9038abe51be0b911e9d3dc57a1c6fcd8474954e39e863f"),
    (Text.chars "noa-mcp-adapter-core:paramsHash-uncanonicalizable-args",
      "478bf8961fbc313c2fcc1a87ea94da75a7c37ed9e100665aca397414a9ac1c2e"),
    (hashText genesis, genesisHash),
    (hashText (onGenesis segment1),
      "7259bdbb3ded570833088dd9a7ef08b6fc08e328f7e0e8a9e56cdf70ab8b8409"),
    (hashText (onGenesis segment2),
      "5e36622c2918fdbd7c7eef48617e088f5ea1d00e90be5bf05b1bed50465a9fd5")]

def gate2 : GatePlatform :=
  gate genesisDigests [(approverKey, "NOA-Receipt-v0.1-sig:" ++ genesisHash, genesisSig)]
    [("NOA-Receipt-v0.1-sig:7259bdbb3ded570833088dd9a7ef08b6fc08e328f7e0e8a9e56cdf70ab8b8409",
        "yDchaMp0sgwVfaOs0xkHsAUvddpSyo1W5P1h2gNMruqVSiwY4mmm55+jWW/4iEyYaY1hCokT0Hv0Jv8cl5a5DQ=="),
      ("NOA-Receipt-v0.1-sig:5e36622c2918fdbd7c7eef48617e088f5ea1d00e90be5bf05b1bed50465a9fd5",
        "zsyT6GSzZvRDAdmBZZAcTsFTs/uUByDL9EZMSJvviKFLD7a4RB3lJwET+Qb6FonNhL021o73ybw8t9/R7RpfAg==")]

def platform2 : ProxyPlatform := platform gate2 [created, granted genesis]

def genesisFile : PendingFile := file gate2.toAdapterPlatform [created, granted genesis]

/-- The transfer, a disconnect, and the transfer again with the same pending store. -/
def genesisRun : List (Event config) :=
  [.call transfer (world genesisFile), .disconnect, .call transfer (world genesisFile)]

end Sample

open Sample in
/-- One approval lets two calls past the hold: the chain of a new segment has no receipt that the
approval would have to follow. -/
theorem genesis_approval_adopted_twice : Function.Injective platform2.sha256Hex ∧
      (run platform2 engine config {} genesisRun).map
          (fun report => (report.forwarded, (adoptions report.effects).map Prod.fst)) =
        [(true, [genesis]), (true, [genesis])] :=
  ⟨tableDigest_injective (by decide +kernel) (by decide +kernel), by decide +kernel⟩

end NoaMandate.Proxy
