import NoaMandate.Relay.Holds

/-!
# What a decision is bound to

A decision receipt names an action, not a hold.  It is tied to a hold by class: on a hold that was
opened with a deferred receipt it has to link to that receipt, and no two holds carry deferred
receipts with one hash (`binding_targets_sound`), so there it decides one hold.

A hold that was opened without a deferred receipt has nothing to link to.  Two such holds of one agent
for one action are told apart by nothing in the receipt, and the relay records one signed approval on
both (`one_approval_two_holds`).  That is the only way (`decision_binds_one_hold`): a receipt that is
on a hold binds another exactly if the two are such twins, and where no hold is opened beside a twin,
no receipt is ever on two holds.
-/

namespace NoaMandate

namespace Relay

open Pipeline

variable {P : RelayPlatform} {cfg : RelayConfig} {s s' : Store} {c : Call} {past : History}

/-- The hash a decision on the hold has to link to. -/
def HoldRecord.target (h : HoldRecord) : Option String := h.deferredReceipt.bind chainHash

/-! ## One call -/

variable {h' h : HoldRecord}

variable {id : String}

/-- A hold after a call was opened by it, or continues one from before. -/
lemma HoldMove.prior {o : Option HoldRecord} (h : HoldMove P cfg s c id o (some h')) :
    (∃ hold, o = some hold ∧ hold.Continues h') ∨
      o = none ∧ ∃ clock agent key input, c = .createHold clock id agent key input ∧
        checkHold P cfg (clock 0) id agent key input s = .ok h' := by
  cases o with
  | some hold =>
    obtain ⟨hold', heq, hcontinues⟩ := h.continues
    cases heq
    exact .inl ⟨hold, rfl, hcontinues⟩
  | none =>
    cases h with
    | opened call_eq checked => exact .inr ⟨rfl, _, _, _, _, call_eq, checked⟩

variable {r : Json}

/-- A receipt that is on a hold after a call was on it before, or is the one the call decided with. -/
lemma HoldMove.receipt {o : Option HoldRecord}
    (h : HoldMove P cfg s c id o (some h')) (hr : h'.decisionReceipt = some r) :
    (∃ hold, o = some hold ∧ hold.Continues h' ∧ hold.decisionReceipt = some r) ∨
      ∃ clock device input hold verdict kid signer, c = .decide clock device id input ∧ o = some hold ∧
        hold.Continues h' ∧ device.agentId = some hold.agentId ∧
        Checked P s device hold r verdict kid signer := by
  cases h with
  | same => exact .inl ⟨h', rfl, .refl h', hr⟩
  | opened _ checked => cases (checkHold_eq_ok checked).undecided.symm.trans hr
  | @expired hold _ _ _ pending =>
    exact .inl ⟨hold, rfl, ⟨rfl, rfl, rfl, rfl, fun hne => absurd pending hne⟩, hr⟩
  | @decided _ _ _ _ hold _ _ _ _ call_eq owned pending _ checked =>
    cases hr
    exact .inr ⟨_, _, _, hold, _, _, _, call_eq, rfl,
      ⟨rfl, rfl, rfl, rfl, fun hne => absurd pending hne⟩, owned, checked⟩

/-- A target that some hold has is not free. -/
lemma deferredReused_of_target {hash : String}
    (hh : s.holds.get? id = some h) (htarget : h.target = some hash) : deferredReused s hash = true := by
  obtain ⟨deferred, hdeferred, hhash⟩ := Option.bind_eq_some_iff.mp htarget
  refine List.any_eq_true.mpr ⟨h, Store.mem_listHolds.mpr ⟨⟨id, hh⟩, fun _ hnone => by cases hnone⟩, ?_⟩
  rw [hdeferred]
  simpa using hhash

lemma Binds.of_continues (hbinds : Binds h r) (hh' : h.Continues h') : Binds h' r := by
  refine ⟨?_, ?_, ?_, ?_⟩
  · rw [hh'.action_eq]
    exact hbinds.canonical
  · rw [hh'.action_eq]
    exact hbinds.paramsHash
  · rw [hh'.deferred_eq]
    exact hbinds.chained
  · rw [hh'.deferred_eq]
    exact hbinds.unchained

/-! ## Every run -/

/-- The device that signed the receipt, and the agent it is bound to. -/
def SignedFor (s : Store) (r : Json) (agentId : String) : Prop :=
  ∃ kid id d, r.path? ["sig", "kid"] = some (.str kid) ∧ s.devices.get? id = some d ∧ d.kid = kid ∧
    d.agentId = some agentId

lemma SignedFor.extends {agentId : String} (h : SignedFor s r agentId)
    (hs : s.Extends s') : SignedFor s' r agentId := by
  obtain ⟨kid, id, d, hkid, hd, hdkid, hagent⟩ := h
  obtain ⟨d', hd', hcontinues⟩ := hs.devices id d hd
  exact ⟨kid, id, d', hkid, hd', hcontinues.kid_eq.trans hdkid, hcontinues.agentId _ hagent⟩

/-- One receipt was signed for one agent. -/
lemma SignedFor.agent_unique {a a' : String} (hs : Registered s) (h : SignedFor s r a)
    (h' : SignedFor s r a') : a = a' := by
  obtain ⟨kid, id, d, hkid, hd, hdkid, hagent⟩ := h
  obtain ⟨kid', id', d', hkid', hd', hdkid', hagent'⟩ := h'
  rw [hkid] at hkid'
  cases hkid'
  obtain rfl := hs.kid_unique hd hd' (hdkid.trans hdkid'.symm)
  rw [hd] at hd'
  cases hd'
  exact Option.mem_unique hagent hagent'

/-- Targets are unique, and a recorded receipt binds its hold and was signed for its agent. -/
structure Bound (s : Store) : Prop where
  target_unique : ∀ id id' h h' hash, s.holds.get? id = some h → s.holds.get? id' = some h' →
    h.target = some hash → h'.target = some hash → id = id'
  binds : ∀ id h r, s.holds.get? id = some h → h.decisionReceipt = some r → Binds h r
  signed : ∀ id h r, s.holds.get? id = some h → h.decisionReceipt = some r → SignedFor s r h.agentId

lemma HoldRecord.Continues.target_eq (hh' : h.Continues h') : h'.target = h.target := by
  unfold HoldRecord.target
  rw [hh'.deferred_eq]

/-- Opening a hold does not take a target that is in use. -/
lemma target_unique_step {s' : Store} (hs : Bound s)
    (hmove : ∀ id, HoldMove P cfg s c id (s.holds.get? id) (s'.holds.get? id)) {id' : String} {hash : String} (hh : s'.holds.get? id = some h)
    (hh' : s'.holds.get? id' = some h') (htarget : h.target = some hash)
    (htarget' : h'.target = some hash) : id = id' := by
  have hprior := (hh ▸ hmove id).prior
  have hprior' := (hh' ▸ hmove id').prior
  rcases hprior with ⟨old, hold, hcontinues⟩ | ⟨-, clock, agent, key, input, hcall, hchecked⟩
  · rw [hcontinues.target_eq] at htarget
    rcases hprior' with ⟨old', hold', hcontinues'⟩ | ⟨-, _, _, _, _, -, hchecked'⟩
    · rw [hcontinues'.target_eq] at htarget'
      exact hs.target_unique id id' old old' hash hold hold' htarget htarget'
    · have hfree := (checkHold_eq_ok hchecked').unique hash htarget'
      rw [deferredReused_of_target hold htarget] at hfree
      cases hfree
  · rcases hprior' with ⟨old', hold', hcontinues'⟩ | ⟨-, _, _, _, _, hcall', -⟩
    · rw [hcontinues'.target_eq] at htarget'
      have hfree := (checkHold_eq_ok hchecked).unique hash htarget
      rw [deferredReused_of_target hold' htarget'] at hfree
      cases hfree
    · -- one call opens one hold
      rw [hcall] at hcall'
      cases hcall'
      rfl

lemma bound_empty : Bound {} where
  target_unique _ _ _ _ _ h := by cases h
  binds _ _ _ h := by cases h
  signed _ _ _ h := by cases h

lemma run_bound (hrun : (relay P cfg).Run past) : Bound ((relay P cfg).state past) := by
  induction hrun with
  | start => exact bound_empty
  | @serve past c run hallowed ih =>
    have hregistered := (run_registered run).1
    have hgrounded := run_grounded run hallowed
    have hmove := serve_hold_move run hallowed
    have hextends := ((serve_effect P cfg past c).registered hregistered hgrounded).2
    refine ⟨fun id id' h h' hash hh hh' => ?_, fun id h r hh hr => ?_, fun id h r hh hr => ?_⟩
    · exact target_unique_step ih hmove hh hh'
    · rcases (show HoldMove P cfg _ c id _ (some h) from hh ▸ hmove id).receipt hr with
        ⟨old, hold, hcontinues, hr⟩ | ⟨_, _, _, old, _, _, _, -, -, hcontinues, -, hchecked⟩
      · exact (ih.binds id old r hold hr).of_continues hcontinues
      · exact hchecked.binds.of_continues hcontinues
    · rcases (show HoldMove P cfg _ c id _ (some h) from hh ▸ hmove id).receipt hr with
        ⟨old, hold, hcontinues, hr⟩ |
        ⟨clock, device, input, old, _, kid, signer, rfl, -, hcontinues, howned, hchecked⟩
      · rw [hcontinues.agentId_eq]
        exact (ih.signed id old r hold hr).extends hextends
      · rw [hcontinues.agentId_eq]
        obtain ⟨hkid, hclaimed⟩ := hchecked.claimed hregistered hgrounded howned
        obtain ⟨hstored, -⟩ := hregistered.getDeviceByKid_eq_some hchecked.registered
        exact SignedFor.extends ⟨kid, signer.id, signer, hchecked.kid_eq, hstored, hkid, hclaimed⟩
          hextends

/-- What holds of binding targets after a run of the relay. -/
structure BindingTargetsSound (M : Service Store Call (Option EngineResult)) (past : History) :
    Prop where
  /-- No two holds carry deferred receipts with the same chain hash. -/
  target_unique : ∀ id id' h h' deferred deferred' hash, (M.state past).holds.get? id = some h →
    (M.state past).holds.get? id' = some h' → h.deferredReceipt = some deferred →
    h'.deferredReceipt = some deferred' → chainHash deferred = some hash →
    chainHash deferred' = some hash → id = id'
  /-- A decision receipt with a previous hash is on the one hold whose deferred receipt has it. -/
  chained : ∀ id h r hash, (M.state past).holds.get? id = some h → h.decisionReceipt = some r →
    chainPrevHash r = some hash →
    (∃ deferred, h.deferredReceipt = some deferred ∧ chainHash deferred = some hash) ∧
      ∀ id' h' deferred, (M.state past).holds.get? id' = some h' →
        h'.deferredReceipt = some deferred → chainHash deferred = some hash → id' = id
  /-- One without is only on holds opened without a deferred receipt. -/
  unchained : ∀ id h r, (M.state past).holds.get? id = some h → h.decisionReceipt = some r →
    chainPrevHash r = none → h.deferredReceipt = none

theorem binding_targets_sound (P : RelayPlatform) (cfg : RelayConfig) (past : History)
    (hrun : (relay P cfg).Run past) : BindingTargetsSound (relay P cfg) past := by
  have hbound := run_bound hrun
  have hunique : ∀ id id' h h' deferred deferred' hash,
      ((relay P cfg).state past).holds.get? id = some h →
      ((relay P cfg).state past).holds.get? id' = some h' → h.deferredReceipt = some deferred →
      h'.deferredReceipt = some deferred' → chainHash deferred = some hash →
      chainHash deferred' = some hash → id = id' := by
    intro id id' h h' deferred deferred' hash hh hh' hdeferred hdeferred' hhash hhash'
    refine hbound.target_unique id id' h h' hash hh hh' ?_ ?_
    · rw [HoldRecord.target, hdeferred]
      exact hhash
    · rw [HoldRecord.target, hdeferred']
      exact hhash'
  refine ⟨hunique, fun id h r hash hh hr hprev => ?_, fun id h r hh hr hprev => ?_⟩
  · have hbinds := hbound.binds id h r hh hr
    cases hdeferred : h.deferredReceipt with
    | none =>
      rw [hbinds.unchained hdeferred] at hprev
      cases hprev
    | some deferred =>
      obtain ⟨hash', hhash, hprev'⟩ := hbinds.chained deferred hdeferred
      rw [hprev] at hprev'
      cases hprev'
      refine ⟨⟨deferred, rfl, hhash⟩, fun id' h' deferred' hh' hdeferred' hhash' => ?_⟩
      exact hunique id' id h' h deferred' deferred hash hh' hh hdeferred' hdeferred hhash' hhash
  · have hbinds := hbound.binds id h r hh hr
    cases hdeferred : h.deferredReceipt with
    | none => rfl
    | some deferred =>
      obtain ⟨hash, -, hsome⟩ := hbinds.chained deferred hdeferred
      rw [hprev] at hsome
      cases hsome

/-! ## One receipt and two holds -/

/-- Two holds without a deferred receipt, for one action. -/
structure BareTwins (h h' : HoldRecord) : Prop where
  bare : h.deferredReceipt = none
  bare' : h'.deferredReceipt = none
  canonical : h.action.canonical = h'.action.canonical
  paramsHash : h.action.paramsHash = h'.action.paramsHash

lemma checkBinding_eq_ok_iff : checkBinding h r = .ok () ↔ Binds h r := by
  refine ⟨checkBinding_eq_ok, fun hbinds => ?_⟩
  have haction : (Decidable.decide (r.path? ["action", "canonical"] ≠ some (.str h.action.canonical)) ||
      Decidable.decide (r.path? ["action", "paramsHash"] ≠ some (.str h.action.paramsHash))) = false := by
    simp [hbinds.canonical, hbinds.paramsHash]
  unfold checkBinding
  rw [haction, refuse_false, ok_bind]
  cases hdeferred : h.deferredReceipt with
  | none => simp [hbinds.unchained hdeferred, refuse]
  | some deferred =>
    obtain ⟨hash, hhash, hprev⟩ := hbinds.chained deferred hdeferred
    simp [hhash, hprev, refuse, demand, bind, Except.bind]

/-- The receipt on a hold binds another hold exactly if the two are twins. -/
lemma binds_iff_bareTwins (hs : Bound s) {id' : String}
    (hne : id ≠ id') (hh : s.holds.get? id = some h) (hh' : s.holds.get? id' = some h')
    (hr : h.decisionReceipt = some r) : Binds h' r ↔ BareTwins h h' := by
  have hbinds := hs.binds id h r hh hr
  constructor
  · intro hbinds'
    have hcanonical : h.action.canonical = h'.action.canonical := by
      have heq := hbinds.canonical.symm.trans hbinds'.canonical
      simpa using heq
    have hparams : h.action.paramsHash = h'.action.paramsHash := by
      have heq := hbinds.paramsHash.symm.trans hbinds'.paramsHash
      simpa using heq
    cases hdeferred : h.deferredReceipt with
    | none =>
      have hprev := hbinds.unchained hdeferred
      cases hdeferred' : h'.deferredReceipt with
      | none => exact ⟨hdeferred, hdeferred', hcanonical, hparams⟩
      | some deferred' =>
        obtain ⟨hash, -, hsome⟩ := hbinds'.chained deferred' hdeferred'
        rw [hprev] at hsome
        cases hsome
    | some deferred =>
      obtain ⟨hash, hhash, hprev⟩ := hbinds.chained deferred hdeferred
      cases hdeferred' : h'.deferredReceipt with
      | none =>
        rw [hbinds'.unchained hdeferred'] at hprev
        cases hprev
      | some deferred' =>
        -- both link to one hash, and targets are unique
        obtain ⟨hash', hhash', hprev'⟩ := hbinds'.chained deferred' hdeferred'
        rw [hprev] at hprev'
        cases hprev'
        refine absurd (hs.target_unique id id' h h' hash hh hh' ?_ ?_) hne
        · rw [HoldRecord.target, hdeferred]
          exact hhash
        · rw [HoldRecord.target, hdeferred']
          exact hhash'
  · intro htwins
    refine ⟨?_, ?_, fun deferred hdeferred => ?_, fun _ => hbinds.unchained htwins.bare⟩
    · rw [← htwins.canonical]
      exact hbinds.canonical
    · rw [← htwins.paramsHash]
      exact hbinds.paramsHash
    · rw [htwins.bare'] at hdeferred
      cases hdeferred

/-- The call, if it opens a hold, opens no twin of a hold of the same agent. -/
def OpensNoTwin (P : RelayPlatform) (cfg : RelayConfig) (e : Served Store Call (Option EngineResult)) :
    Prop :=
  ∀ clock newId agent key input hold, e.call = .createHold clock newId agent key input →
    checkHold P cfg (clock 0) newId agent key input e.before = .ok hold →
    ∀ id h, e.before.holds.get? id = some h → h.agentId = agent.id → ¬ BareTwins h hold

/-- No two holds of one agent are twins. -/
def NoTwins (s : Store) : Prop :=
  ∀ id id' h h', s.holds.get? id = some h → s.holds.get? id' = some h' → h.agentId = h'.agentId →
    BareTwins h h' → id = id'

lemma BareTwins.symm (htwins : BareTwins h h') : BareTwins h' h :=
  ⟨htwins.bare', htwins.bare, htwins.canonical.symm, htwins.paramsHash.symm⟩

/-- Holds that continue are twins only if they were. -/
lemma BareTwins.of_continues {k : HoldRecord} (htwins : BareTwins h' k) (hh' : h.Continues h') :
    BareTwins h k := by
  obtain ⟨hbare, hbare', hcanonical, hparams⟩ := htwins
  rw [hh'.deferred_eq] at hbare
  rw [hh'.action_eq] at hcanonical hparams
  exact ⟨hbare, hbare', hcanonical, hparams⟩

/-- Where no twin is opened there is none. -/
lemma run_noTwins (hrun : (relay P cfg).Run past) (hopens : ∀ e ∈ past, OpensNoTwin P cfg e) :
    NoTwins ((relay P cfg).state past) := by
  induction hrun with
  | start => exact fun _ _ _ _ h => by cases h
  | @serve past c run hallowed ih =>
    have hnone := ih fun e he => hopens e (.tail _ he)
    have hopen := hopens _ (.head _)
    have hmove := serve_hold_move run hallowed
    -- a hold the call opens has no twin among the holds that were there
    have hnew : ∀ {clock id agent key input h id' old' h'},
        c = .createHold clock id agent key input →
        checkHold P cfg (clock 0) id agent key input ((relay P cfg).state past) = .ok h →
        ((relay P cfg).state past).holds.get? id' = some old' → old'.Continues h' →
        h.agentId = h'.agentId → ¬ BareTwins h h' := by
      intro clock id agent key input h id' old' h' hcall hchecked hold' hcontinues hagent htwins
      refine hopen clock id agent key input h hcall hchecked id' old' hold' ?_
        (htwins.symm.of_continues hcontinues)
      rw [← hcontinues.agentId_eq, ← hagent]
      exact (checkHold_eq_ok hchecked).agentId_eq
    intro id id' h h' hh hh' hagent htwins
    have hprior := (show HoldMove P cfg _ c id _ (some h) from hh ▸ hmove id).prior
    have hprior' := (show HoldMove P cfg _ c id' _ (some h') from hh' ▸ hmove id').prior
    rcases hprior with ⟨old, hold, hcontinues⟩ | ⟨-, clock, agent, key, input, hcall, hchecked⟩
    · rcases hprior' with ⟨old', hold', hcontinues'⟩ | ⟨-, _, _, _, _, hcall', hchecked'⟩
      · refine hnone id id' old old' hold hold' ?_
          ((htwins.of_continues hcontinues).symm.of_continues hcontinues').symm
        rw [← hcontinues.agentId_eq, ← hcontinues'.agentId_eq]
        exact hagent
      · exact absurd htwins.symm (hnew hcall' hchecked' hold hcontinues hagent.symm)
    · rcases hprior' with ⟨old', hold', hcontinues'⟩ | ⟨-, _, _, _, _, hcall', -⟩
      · exact absurd htwins (hnew hcall hchecked hold' hcontinues' hagent)
      · rw [hcall] at hcall'
        cases hcall'
        rfl

/-- In every run, a decision receipt that is on one hold binds another exactly if the two are twins;
and if no call of the run opens a twin of a hold of the same agent, no receipt is on two holds. -/
theorem decision_binds_one_hold (P : RelayPlatform) (cfg : RelayConfig) (past : History)
    (hrun : (relay P cfg).Run past) :
    (∀ id id' h h' r, id ≠ id' → ((relay P cfg).state past).holds.get? id = some h →
      ((relay P cfg).state past).holds.get? id' = some h' → h.decisionReceipt = some r →
      (checkBinding h' r = .ok () ↔ BareTwins h h')) ∧ ((∀ e ∈ past, OpensNoTwin P cfg e) →
      ∀ id id' h h' r, ((relay P cfg).state past).holds.get? id = some h →
        ((relay P cfg).state past).holds.get? id' = some h' → h.decisionReceipt = some r →
        h'.decisionReceipt = some r → id = id') := by
  have hbound := run_bound hrun
  constructor
  · intro id id' h h' r hne hh hh' hr
    exact checkBinding_eq_ok_iff.trans (binds_iff_bareTwins hbound hne hh hh' hr)
  · intro hopens id id' h h' r hh hh' hr hr'
    by_contra hne
    have hagent : h.agentId = h'.agentId :=
      SignedFor.agent_unique (run_registered hrun).1 (hbound.signed id h r hh hr)
        (hbound.signed id' h' r hh' hr')
    have htwins := (binds_iff_bareTwins hbound hne hh hh' hr).mp (hbound.binds id' h' r hh' hr')
    exact hne (run_noTwins hrun hopens id id' h h' hh hh' hagent htwins)

/-! ## Sample runs -/

namespace SampleRelay

/-- The phone's approval of the first hold is presented for the second. -/
def approvingTwice : List Call := .decide (fun _ => 2) device "hold-2" decisionRequest :: approving

abbrev approvedTwice : History := (relay platform config).play approvingTwice

lemma playable_approvingTwice : (relay platform config).Playable approvingTwice := by
  refine ⟨⟨_, ⟨[], _, rfl, rfl⟩, ?_⟩, playable_approving⟩
  decide

/-- The decision receipt of a hold after a run. -/
def receiptAfter (past : History) (id : String) : Option Json :=
  ((Served.final {} past).holds.get? id).bind HoldRecord.decisionReceipt

/-- One hold, opened and approved. -/
def approvingOne : List Call :=
  .decide (fun _ => 1) device "hold-1" decisionRequest ::
    .createHold (fun _ => 0) "hold-1" agent (some "key-1") holdRequest :: enrolment

abbrev approvedOne : History := (relay platform config).play approvingOne

lemma playable_approvingOne : (relay platform config).Playable approvingOne := by
  refine ⟨⟨_, ⟨[], _, rfl, rfl⟩, ?_⟩, playable_opening.2⟩
  decide

lemma enrolled_no_holds (id : String) : (Served.final {} enrolled).holds.get? id = none := by
  have hempty : (Served.final {} enrolled).holds.entries.isEmpty = true := by decide
  rw [Table.get?, List.isEmpty_iff.mp hempty]
  rfl

/-- The call is a request for a hold. -/
def opens : Call → Bool
  | .createHold .. => true
  | _ => false

lemma opensNoTwin_of_opens {e : Served Store Call (Option EngineResult)} (h : opens e.call = false) :
    OpensNoTwin platform config e := by
  intro clock newId agent key input hold hcall
  rw [hcall] at h
  cases h

lemma approvedOne_opensNoTwin : ∀ e ∈ approvedOne, OpensNoTwin platform config e := by
  intro e he
  rcases List.mem_cons.mp he with rfl | he
  · exact opensNoTwin_of_opens rfl
  rcases List.mem_cons.mp he with rfl | he
  · intro _ _ _ _ _ _ _ _ id h hh
    cases (enrolled_no_holds id).symm.trans hh
  · have hcalls : ∀ c ∈ enrolment, opens c = false := by decide
    exact opensNoTwin_of_opens (hcalls _ (Service.call_of_mem_play he))

end SampleRelay

theorem binding_targets_sound_approved :
    SampleRelay.receiptAfter SampleRelay.approved "hold-1" = some SampleRelay.approval.norm ∧
      BindingTargetsSound (relay SampleRelay.platform SampleRelay.config) SampleRelay.approved :=
  ⟨by decide, binding_targets_sound SampleRelay.platform SampleRelay.config
    SampleRelay.approved (Service.run_play SampleRelay.playable_approving)⟩

theorem decision_binds_one_hold_approved :
    SampleRelay.statusAfter SampleRelay.approvedOne "hold-1" = some .APPROVED ∧
      ∀ id id' h h' r,
        ((relay SampleRelay.platform SampleRelay.config).state SampleRelay.approvedOne).holds.get? id =
          some h →
        ((relay SampleRelay.platform SampleRelay.config).state SampleRelay.approvedOne).holds.get? id' =
          some h' →
        h.decisionReceipt = some r → h'.decisionReceipt = some r → id = id' :=
  ⟨by decide, (decision_binds_one_hold SampleRelay.platform SampleRelay.config
    SampleRelay.approvedOne (Service.run_play SampleRelay.playable_approvingOne)).2
      SampleRelay.approvedOne_opensNoTwin⟩

/-- One signed approval is recorded on two holds, and both are approved. -/
theorem one_approval_two_holds :
    (relay SampleRelay.platform SampleRelay.config).Run SampleRelay.approvedTwice ∧
      SampleRelay.receiptAfter SampleRelay.approvedTwice "hold-1" = some SampleRelay.approval.norm ∧
      SampleRelay.receiptAfter SampleRelay.approvedTwice "hold-2" = some SampleRelay.approval.norm ∧
      SampleRelay.statusAfter SampleRelay.approvedTwice "hold-1" = some .APPROVED ∧
      SampleRelay.statusAfter SampleRelay.approvedTwice "hold-2" = some .APPROVED :=
  ⟨Service.run_play SampleRelay.playable_approvingTwice, by decide, by decide,
    by decide, by decide⟩

end Relay

end NoaMandate
