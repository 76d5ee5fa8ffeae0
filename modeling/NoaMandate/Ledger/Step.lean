import NoaMandate.Ledger.Owner

/-!
# What one commit does to the owner's state

`Step` lists the three things a commit can do, each with everything that was checked before: nothing,
a refused row, or an executed row with the two balances moved.  A sealer that commits again finds the
owner busy and changes nothing (`Sealer.run_of_busy`), so `request_step` holds whatever the sealer
does, and an invariant that every `Step` keeps holds after every sequence of requests
(`requests_induction`).
-/

namespace NoaMandate

open Pipeline

namespace Owner

variable {E : Env}

/-- While the owner is busy, foreign sealing code cannot change its state. -/
lemma Sealer.run_of_busy (sealer : Sealer) : ∀ {s : State}, s.busy = true → (sealer.run E s).1 = s := by
  induction sealer with
  | done result => intro s _; rfl
  | commit call sealer next _ ih =>
    intro s hs
    -- the commit inside is refused on its first line, whatever it was called with
    have hrefused : ∀ runSeal, (Owner.commit E runSeal call s).1 = s := by
      intro runSeal
      rw [Owner.commit, if_pos hs]
    rw [Sealer.run]
    simp only [hrefused]
    exact ih _ hs

/-- What one commit can do to the state, with what was checked before. -/
inductive Step (E : Env) (call : Call) (s : State) : State → Prop where
  | unchanged : Step E call s s
  | refused {atIso : String} {authority : VerifiedEffectAuthority} {c : LedgerCommit}
      {code : LedgerRefusalCode}
      (instant : E.toISOString call.clock = some atIso)
      (authorized : verifyEffectAuthority E call.input atIso = .ok authority)
      (fresh : s.consumed authority.keys = false)
      (derived : deriveLedgerCommit E authority call.clock = .ok c) :
      Step E call s (s.refusedRow c call.newId atIso code).1
  | executed {atIso : String} {authority : VerifiedEffectAuthority} {c : LedgerCommit}
      {fromBalance toBalance : Int} {ex cons : Option Json} {attestation : EffectAttestation}
      (instant : E.toISOString call.clock = some atIso)
      (authorized : verifyEffectAuthority E call.input atIso = .ok authority)
      (fresh : s.consumed authority.keys = false)
      (derived : deriveLedgerCommit E authority call.clock = .ok c)
      (debited : s.balances.lookup c.fromAccount = some fromBalance)
      (credited : s.balances.lookup c.toAccount = some toBalance)
      (funds : (c.units : Int) ≤ fromBalance)
      (attested : verifyEffectAttestation E ex cons authority.verified atIso
        s.recordedReceiptIds.contains = .ok attestation) :
      Step E call s (s.executedRow c call.newId atIso fromBalance toBalance attestation).1

/-- No replay means that none of the three keys is consumed. -/
lemma consumed_of_replay?_none {s : State} {k : Keys} (h : s.replay? k = none) :
    s.consumed k = false := by
  unfold State.replay? at h
  simp only at h
  split at h
  · cases h
  · rw [Option.map_eq_none_iff] at h
    unfold State.consumed
    generalize s.envelopeIndex.lookup k.envelope = byEnvelope at h ⊢
    generalize s.decisionIndex.lookup k.decision = byDecision at h ⊢
    generalize s.grantIndex.lookup k.grant = byGrant at h ⊢
    cases byEnvelope <;> cases byDecision <;> cases byGrant <;> simp_all

section busy

/-! Every write leaves the busy mark alone, so a commit on an idle owner reads as a commit without
the mark. -/

variable {runSeal : Int → VerifiedAuthority → State → State × SealResult} {call : Call} {s : State}

lemma sealAndWrite_step (hseal : ∀ a v (s : State), s.busy = true → (runSeal a v s).1 = s)
    {atIso : String} {authority : VerifiedEffectAuthority} {c : LedgerCommit}
    {fromBalance toBalance : Int} (hbusy : s.busy = true)
    (instant : E.toISOString call.clock = some atIso)
    (authorized : verifyEffectAuthority E call.input atIso = .ok authority)
    (derived : deriveLedgerCommit E authority call.clock = .ok c)
    (debited : s.balances.lookup c.fromAccount = some fromBalance)
    (credited : s.balances.lookup c.toAccount = some toBalance)
    (funds : (c.units : Int) ≤ fromBalance) : Step E call s
      (sealAndWrite E runSeal call atIso authority c fromBalance toBalance s).1 := by
  have hs := hseal call.clock authority.verified s hbusy
  unfold sealAndWrite
  split
  · rename_i s' hrun
    rw [hrun] at hs
    exact hs ▸ Step.unchanged
  · rename_i s' hrun
    rw [hrun] at hs
    exact hs ▸ Step.unchanged
  · rename_i s' ex cons hrun
    rw [hrun] at hs
    obtain rfl : s' = s := hs
    split
    · exact Step.unchanged
    · rename_i attestation attested
      split
      · exact Step.unchanged
      · rename_i hfresh
        exact Step.executed instant authorized (by simpa using hfresh) derived debited credited funds
          attested

lemma commitOnce_step (hseal : ∀ a v (s : State), s.busy = true → (runSeal a v s).1 = s)
    (hbusy : s.busy = true) : Step E call s (commitOnce E runSeal call s).1 := by
  unfold commitOnce
  split
  · exact Step.unchanged
  rename_i atIso instant
  split
  · exact Step.unchanged
  rename_i authority authorized
  split
  · exact Step.unchanged
  rename_i hreplay
  have fresh := consumed_of_replay?_none hreplay
  split
  · exact Step.unchanged
  rename_i c derived
  unfold settle
  split
  · rename_i fromBalance toBalance debited credited
    split
    · exact Step.refused instant authorized fresh derived
    · rename_i hfunds
      exact sealAndWrite_step hseal hbusy instant authorized derived debited credited
        (Int.not_lt.mp hfunds)
  · exact Step.refused instant authorized fresh derived

/-- The busy mark can be taken off both ends of a step. -/
lemma Step.idle {s t : State} (hidle : s.busy = false) (h : Step E call { s with busy := true } t) :
    Step E call s { t with busy := false } := by
  obtain ⟨balances, rows, rowsById, envelopeIndex, decisionIndex, grantIndex, ids, busy⟩ := s
  obtain rfl : busy = false := hidle
  cases h with
  | unchanged => exact Step.unchanged
  | @refused atIso authority c code instant authorized fresh derived =>
    exact @Step.refused E call ⟨balances, rows, rowsById, envelopeIndex, decisionIndex, grantIndex,
      ids, false⟩ atIso authority c code instant authorized fresh derived
  | @executed atIso authority c fromBalance toBalance ex cons attestation instant authorized fresh
      derived debited credited funds attested =>
      exact @Step.executed E call ⟨balances, rows, rowsById, envelopeIndex, decisionIndex, grantIndex,
        ids, false⟩ atIso authority c fromBalance toBalance ex cons attestation instant authorized
        fresh derived debited credited funds attested

end busy

/-- A request to an idle owner is one step, whatever its sealer does, and leaves the owner idle. -/
theorem request_step {s : State} (hidle : s.busy = false) (r : Request) :
    Step E r.call s (s.request E r) ∧ (s.request E r).busy = false := by
  have hseal : ∀ a v (t : State), t.busy = true → ((r.sealer a v).run E t).1 = t :=
    fun a v t ht => Sealer.run_of_busy _ ht
  have hstep : Step E r.call { s with busy := true } _ := commitOnce_step hseal rfl
  simp only [State.request, commit, hidle]
  exact ⟨hstep.idle hidle, rfl⟩

/-- What holds of an idle owner at the start and is kept by every step of the requests made holds
after them. -/
theorem requests_induction {P : State → Prop} {s : State} (rs : List Request)
    (hidle : s.busy = false) (start : P s)
    (step : ∀ r ∈ rs, ∀ s s', P s → Step E r.call s s' → P s') : P (s.requests E rs) := by
  induction rs generalizing s with
  | nil => exact start
  | cons r rs ih =>
    have hr := request_step (E := E) hidle r
    have hfirst := step r (.head _) _ _ start hr.1
    exact ih hr.2 hfirst fun r' hr' => step r' (.tail _ hr')

/-- A new owner holds the balances of its definition and nothing else. -/
lemma create_new {accounts : Json} {s0 : State} (h : create E accounts = .ok s0) :
    (∃ total, checkLedgerDefinition E.toIntrinsics (.str E.ledger) accounts =
      .ok (s0.balances, total)) ∧ s0 = { balances := s0.balances } := by
  rw [create, bind_eq_ok_iff] at h
  obtain ⟨_, _, h⟩ := h
  cases hdef : checkLedgerDefinition E.toIntrinsics (.str E.ledger) accounts with
  | error detail =>
    rw [hdef] at h
    cases h
  | ok r =>
    obtain ⟨balances, total⟩ := r
    rw [hdef] at h
    cases h
    exact ⟨⟨total, rfl⟩, rfl⟩

/-- A new owner is known by its balances. -/
lemma create_of_balances {accounts : Json} {balances : List (String × Int)}
    (h : (create E accounts).toOption.map State.balances = some balances) :
    create E accounts = .ok { balances } := by
  cases hcreate : create E accounts with
  | error e =>
    rw [hcreate] at h
    cases h
  | ok s =>
    rw [hcreate] at h
    obtain ⟨-, hnew⟩ := create_new hcreate
    rw [hnew, Option.some.inj h]

/-! ## What was derived -/

/-- Everything `deriveLedgerCommit` checks, and what it returns. -/
theorem deriveLedgerCommit_eq_ok {authority : VerifiedEffectAuthority} {instant : Int}
    {c : LedgerCommit} (h : deriveLedgerCommit E authority instant = .ok c) :
    ∃ p : Transfer.LedgerTransferParams,
      beforeBoth instant (E.dateParse ((authority.verified.grant.getStr? "expiresAt").getD ""))
        (E.dateParse ((authority.verified.envelope.getStr? "expiresAt").getD "")) = true ∧
      p.text = Text.chars authority.input.canonicalParams ∧
      authority.verified.grant.getStr? "paramsHash" = some (E.sha256Prefixed p.text) ∧
      p.ledger = E.ledger ∧
      c = commitOf authority ⟨E.sha256Prefixed p.text, p.text, p, p.display⟩ := by
  simp only [deriveLedgerCommit, ok_iff] at h
  obtain ⟨_, hexpiry, r, hr, _, hmatch, _, hledger, _, _, hc⟩ := h
  have hok : Transfer.projectLedgerTransfer E.toIntrinsics
      (Text.chars authority.input.canonicalParams) = .ok r := by
    revert hr
    cases Transfer.projectLedgerTransfer E.toIntrinsics
        (Text.chars authority.input.canonicalParams) with
    | error e => intro hr; cases hr
    | ok r' => intro hr; exact congrArg Except.ok (Option.some.inj hr)
  obtain ⟨v, p, _, _, _, rfl⟩ := Transfer.projectLedgerTransfer_eq_ok_iff.mp hok
  simp only [test_iff] at hmatch
  exact ⟨p, by simpa using hexpiry, hmatch.1, hmatch.2, by simpa using hledger, hc.symm⟩

end Owner

end NoaMandate
