import NoaMandate.Adapter.ApprovalDecision
import NoaMandate.Adapter.PreCheck
import NoaMandate.Adapter.SessionStore

/-!
# Receipts of a session

The head of a session's chain, as the session store keeps it, is the place where the next receipt is
built: `prepareSessionReceipt` decides a call on top of it, and the chain id of the receipt names the
segment.  `adoptApprovedReceipt` moves the head to a receipt that somebody else built, if that receipt
extends the head.
-/

namespace NoaMandate.Adapter

open Pipeline

/-- The store of sessions, by tenant and session id. -/
abbrev SessionStore := ChainStore String String Json

/-- Source: `session-store.mjs` `resolveSessionContext`. -/
def defaultChain (tenant sessionId instanceToken : String) (segmentId : Nat) : String :=
  tenant ++ ":" ++ sessionId ++ "#" ++ instanceToken ++ "-seg" ++ toString segmentId

/-- **Segments have different chain ids.** -/
lemma defaultChain_injective (tenant sessionId instanceToken : String) :
    Function.Injective (defaultChain tenant sessionId instanceToken) := by
  intro m n h
  have hlist := congrArg String.toList h
  simp only [defaultChain, String.toList_append] at hlist
  exact Json.toString_injective (String.toList_inj.mp (List.append_cancel_left hlist))

lemma defaultChain_ne_empty (tenant sessionId instanceToken : String) (segmentId : Nat) :
    defaultChain tenant sessionId instanceToken segmentId ≠ "" := by
  intro h
  have hlist := congrArg String.toList h
  simp [defaultChain] at hlist

/-- `prev ? prev.chain.hash : null`. -/
def Head.prevHash (head : Head Json) : Option Json :=
  match head.prev with
  | none => some .null
  | some prev => prev.path? ["chain", "hash"]

/-- What does not change from call to call of one session. -/
structure SessionConfig (π : Type) where
  sessionId : String
  tenant : String
  instanceToken : String
  limits : StoreConfig
  signer : Signer
  policy : π
  approvalRules : RuleSet

namespace SessionConfig

variable {π : Type} (cfg : SessionConfig π)

def chain (segmentId : Nat) : String :=
  defaultChain cfg.tenant cfg.sessionId cfg.instanceToken segmentId

def peek (now : Int) (s : SessionStore) : Head Json × SessionStore :=
  s.peek cfg.limits now cfg.tenant cfg.sessionId

def head? (s : SessionStore) : Option (Head Json) := s.head? cfg.tenant cfg.sessionId

/-- Source: `session-store.mjs` `commitSessionReceipt`. -/
def commitSessionReceipt (now : Int) (receipt : Json) (segmentId : Nat) (s : SessionStore) :
    Bool × SessionStore :=
  s.advance cfg.limits now cfg.tenant cfg.sessionId receipt (some segmentId)

/-- What `prepareSessionReceipt` hands to `preCheck`. -/
def planOptions (head : Head Json) (ts : String) (suppressApprovalHold : Bool) : PlanOptions π where
  policy := cfg.policy
  seq := head.seq
  tenant := cfg.tenant
  chain := some (cfg.chain head.segmentId)
  ts := ts
  approvalRules := cfg.approvalRules
  suppressApprovalHold := suppressApprovalHold

/-- The decision on top of a head. Source: `session-store.mjs` `prepareSessionReceipt`, after its
look at the head. -/
def prepareSessionReceipt (P : GatePlatform) (E : PolicyEngine π) (call : ToolCall)
    (head : Head Json) (ts : String) (suppressApprovalHold : Bool) :
    Except BuildFailure PreCheckResult :=
  preCheck P E call (cfg.planOptions head ts suppressApprovalHold) head.prev cfg.signer

/-- Move the head to a receipt that extends it. The source returns the receipt; here the answer is the
head that was extended. Source: `session-store.mjs` `adoptApprovedReceipt`. -/
def adoptApprovedReceipt (peekedAt advancedAt : Int) (receipt : Json) (expectedSegmentId : Nat)
    (s : SessionStore) : Option (Head Json) × SessionStore :=
  let (head, s) := cfg.peek peekedAt s
  if head.segmentId ≠ expectedSegmentId then (none, s)
  else if !Json.same (receipt.path? ["chain", "prevHash"]) head.prevHash then (none, s)
  else if receipt.path? ["chain", "seq"] ≠ some (.num head.seq) then (none, s)
  else
    let (advanced, s) := cfg.commitSessionReceipt advancedAt receipt expectedSegmentId s
    (if advanced then some head else none, s)

variable {cfg}

/-- A prepared receipt names the segment of the head it was built on. -/
lemma chain_of_prepareSessionReceipt {P : GatePlatform} {E : PolicyEngine π} {call : ToolCall}
    {head : Head Json} {ts : String} {suppress : Bool} {result : PreCheckResult}
    (h : cfg.prepareSessionReceipt P E call head ts suppress = .ok result) :
    result.receipt.strAt? ["scope", "chain"] = some (cfg.chain head.segmentId) := by
  obtain ⟨texts, -, hbuilt, -⟩ := preCheck_eq_ok h
  rw [Json.strAt?, Json.path?, (buildReceipt_payload hbuilt).1]
  rfl

/-- An adoption: either the head is only looked at, or the receipt extends it and becomes the head. -/
lemma adoptApprovedReceipt_cases (peekedAt advancedAt : Int) (receipt : Json)
    (expectedSegmentId : Nat) (s : SessionStore) :
    cfg.adoptApprovedReceipt peekedAt advancedAt receipt expectedSegmentId s =
        (none, (cfg.peek peekedAt s).2) ∨
      ∃ s', cfg.adoptApprovedReceipt peekedAt advancedAt receipt expectedSegmentId s =
          (some (cfg.peek peekedAt s).1, s') ∧
        (cfg.peek peekedAt s).1.segmentId = expectedSegmentId ∧
        receipt.path? ["chain", "prevHash"] = (cfg.peek peekedAt s).1.prevHash ∧
        receipt.path? ["chain", "seq"] = some (.num (cfg.peek peekedAt s).1.seq) ∧
        s'.segmentCounter = (cfg.peek peekedAt s).2.segmentCounter ∧
        cfg.head? s' = some ⟨some receipt, (cfg.peek peekedAt s).1.seq + 1, expectedSegmentId⟩ := by
  have hhead : cfg.head? (cfg.peek peekedAt s).2 = some (cfg.peek peekedAt s).1 :=
    (ChainStore.peek_cases cfg.limits peekedAt).1
  unfold adoptApprovedReceipt
  generalize cfg.peek peekedAt s = p at hhead ⊢
  obtain ⟨head, s1⟩ := p
  simp only
  split
  · exact .inl rfl
  · next hsegment =>
    split
    · exact .inl rfl
    · next hprev =>
      split
      · exact .inl rfl
      · next hseq =>
        rcases ChainStore.advance_cases (s := s1) (t := cfg.tenant) (i := cfg.sessionId)
          cfg.limits advancedAt receipt expectedSegmentId with
          ⟨htrue, hcounter, h, hold, -, hnew⟩ | hfalse
        · have hheq : h = head := Option.mem_unique hold hhead
          subst hheq
          refine .inr ⟨(cfg.commitSessionReceipt advancedAt receipt expectedSegmentId s1).2,
            ?_, not_not.mp hsegment, ?_, not_not.mp hseq, hcounter, hnew⟩
          · unfold commitSessionReceipt
            rw [htrue, if_pos rfl]
          · exact Json.eq_of_same (by simpa using hprev)
        · refine .inl ?_
          unfold commitSessionReceipt
          rw [hfalse]
          rfl

end SessionConfig

end NoaMandate.Adapter
