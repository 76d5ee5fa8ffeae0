import NoaMandate.Relay.Registry

/-!
# The hold machine of the relay

A hold is opened pending and leaves that state once: it runs out, or a device decides it.  Several
routes write holds, and every route that reads one may close it first, so what can happen to the hold
under one id is said once, for any call (`HoldMove`, `Effect.hold_move`).

From that: a hold that is not pending is never written again (`HoldRecord.Continues`), and a hold that
became approved or denied did so in a `decide` whose receipt passed every check at that moment
(`Decision`).  A device is looked up before the request is read; that it is still bound to the agent
of the hold comes from the registry, where that binding is written once.
-/

namespace NoaMandate

namespace Relay

open Pipeline

variable {P : RelayPlatform} {cfg : RelayConfig} {s s' : Store} {c : Call} {past : History}

/-! ## Opening and deciding -/

/-- What is true of a hold that was just opened. -/
structure Opens (s : Store) (newId : String) (agent : AgentRecord) (hold : HoldRecord) : Prop where
  id_eq : hold.id = newId
  agentId_eq : hold.agentId = agent.id
  pending : hold.status = .PENDING
  undecided : hold.decisionReceipt = none
  unique : ∀ hash, hold.deferredReceipt.bind chainHash = some hash → deferredReused s hash = false

variable {hold h : HoldRecord}

lemma checkHold_eq_ok {now : Int} {newId : String} {agent : AgentRecord}
    {idempotencyKey : Option String} {input : Json}
    (h : checkHold P cfg now newId agent idempotencyKey input s = .ok hold) :
    Opens s newId agent hold := by
  simp only [checkHold, ok_iff] at h
  obtain ⟨key, -, -, -, -, -, action, -, requestHash, -, -, -, ttl, -, -, -, display, -, -, hunique,
    rfl⟩ := h
  refine ⟨rfl, rfl, rfl, rfl, fun hash hhash => ?_⟩
  rw [show (parseReceiptOrNull (input.get? "deferredReceipt")).bind chainHash = some hash from hhash]
    at hunique
  exact hunique

lemma PhoneVerdict.ofText?_eq_some {t : String} {v : PhoneVerdict} (h : ofText? t = some v) :
    t = v.text := by
  unfold ofText? at h
  split at h
  · cases h
    rfl
  · cases h
    rfl
  · cases h

/-- The decision receipt binds the hold: it links to the hold's deferred receipt if there is one, and
to nothing otherwise. -/
structure Binds (hold : HoldRecord) (receipt : Json) : Prop where
  canonical : receipt.path? ["action", "canonical"] = some (.str hold.action.canonical)
  paramsHash : receipt.path? ["action", "paramsHash"] = some (.str hold.action.paramsHash)
  chained : ∀ deferred, hold.deferredReceipt = some deferred →
    ∃ hash, chainHash deferred = some hash ∧ chainPrevHash receipt = some hash
  unchained : hold.deferredReceipt = none → chainPrevHash receipt = none

lemma checkBinding_eq_ok {receipt : Json}
    (h : checkBinding hold receipt = .ok ()) : Binds hold receipt := by
  simp only [checkBinding, ok_iff] at h
  obtain ⟨-, haction, h⟩ := h
  simp only [test_iff] at haction
  cases hdeferred : hold.deferredReceipt with
  | none =>
    simp only [hdeferred, refuse_eq_ok_iff] at h
    refine ⟨haction.1, haction.2, fun deferred hsome => ?_, fun _ => by simpa using h⟩
    rw [hdeferred] at hsome
    cases hsome
  | some deferred =>
    simp only [hdeferred, ok_iff] at h
    obtain ⟨hash, hhash, hprev⟩ := h
    refine ⟨haction.1, haction.2, fun deferred' hsome => ?_, fun hnone => ?_⟩
    · rw [hdeferred] at hsome
      cases hsome
      exact ⟨hash, hhash, by simpa using hprev⟩
    · rw [hdeferred] at hnone
      cases hnone

/-- What the checks on a decision establish, in the store at that moment. -/
structure Checked (P : RelayPlatform) (s : Store) (device : DeviceRecord) (hold : HoldRecord)
    (receipt : Json) (verdict : PhoneVerdict) (kid : String) (signer : DeviceRecord) : Prop where
  verdict_eq : receipt.strAt? ["governance", "verdict"] = some verdict.text
  kid_eq : receipt.path? ["sig", "kid"] = some (.str kid)
  registered : s.getDeviceByKid kid = some signer
  verified : P.verifyReceiptSignature receipt signer.publicKeyHex = true
  active : signer.revokedAt = none
  presented : signer.id = device.id
  binds : Binds hold receipt

lemma asString_eq_some {v : Option Json} {t : String} (h : asString v = some t) :
    v = some (.str t) := by
  unfold asString at h
  split at h
  · split at h
    · cases h
    · cases h
      rfl
  · cases h

variable {verdict : PhoneVerdict}

lemma checkDecision_eq_ok {device : DeviceRecord} {input receipt : Json} (h : checkDecision P device hold input s = .ok (receipt, verdict)) :
    ∃ kid signer, Checked P s device hold receipt verdict kid signer := by
  simp only [checkDecision, checkSigner, ok_iff, Prod.mk.injEq] at h
  obtain ⟨-, -, receipt', -, kid, hkid, verdict', hverdict, -, ⟨signer, hsigner, -, hverified, -, hactive,
    hpresented⟩, _, hbinding, rfl, rfl⟩ := h
  obtain ⟨text, htext, hof⟩ := Option.bind_eq_some_iff.mp hverdict
  obtain rfl := PhoneVerdict.ofText?_eq_some hof
  exact ⟨kid, signer, htext, asString_eq_some hkid, hsigner, by simpa using hverified,
    by simpa using hactive, by simpa using hpresented, checkBinding_eq_ok hbinding⟩

/-! ## Closing -/

/-- Every hold stands under its own id. -/
def HoldsKeyed (s : Store) : Prop := ∀ id h, s.holds.get? id = some h → h.id = id

/-- The holds of the list are in the store, each once. -/
structure Listed (s : Store) (l : List (HoldRecord × Int × Int)) : Prop where
  stored : ∀ x ∈ l, s.holds.get? x.1.id = some x.1
  nodup : (l.map fun x => x.1.id).Nodup

lemma lazyExpire_get? (now time : Int) (h : HoldRecord) (id : String) :
    (lazyExpire now time h s).2.holds.get? id =
      if id = h.id ∧ h.status = .PENDING ∧ now ≥ h.expiresAt then some (h.closed time)
      else s.holds.get? id := by
  unfold lazyExpire
  by_cases hexpired : h.status = .PENDING ∧ now ≥ h.expiresAt
  · rw [if_pos hexpired, Store.getHold_putHold]
    simp only [hexpired, and_true]
    rfl
  · rw [if_neg hexpired, if_neg fun hand => hexpired hand.2]

/-- The holds of the rest have other ids, so they are still as they were listed. -/
lemma Listed.rest {now time : Int} {l : List (HoldRecord × Int × Int)}
    (hl : Listed s ((h, now, time) :: l)) : Listed (lazyExpire now time h s).2 l := by
  have hnodup := List.nodup_cons.mp hl.nodup
  refine ⟨fun y hy => ?_, hnodup.2⟩
  have hne : y.1.id ≠ h.id := by
    intro heq
    exact hnodup.1 (List.mem_map.mpr ⟨y, hy, heq⟩)
  rw [lazyExpire_get?, if_neg fun hand => hne hand.1]
  exact hl.stored y (.tail _ hy)

/-- Closing a list of holds: a hold of the list that has run out is closed, and no other hold is
written. -/
lemma expireAll_get? {l : List (HoldRecord × Int × Int)} (hl : Listed s l) (n : Nat) (id : String) :
    (expireAll l n s).2.holds.get? id = s.holds.get? id ∨
      ∃ h now time, (h, now, time) ∈ l ∧ h.id = id ∧ h.status = .PENDING ∧ now ≥ h.expiresAt ∧
        (expireAll l n s).2.holds.get? id = some (h.closed time) := by
  induction l generalizing n s with
  | nil => exact .inl rfl
  | cons x l ih =>
    obtain ⟨h, now, time⟩ := x
    rcases ih hl.rest (if (lazyExpire now time h s).1.status ≠ h.status then n + 1 else n) with
      hsame | ⟨h', now', time', hmem, hid, hpending, hlate, hget⟩
    · rw [lazyExpire_get?] at hsame
      by_cases hexpired : id = h.id ∧ h.status = .PENDING ∧ now ≥ h.expiresAt
      · rw [if_pos hexpired] at hsame
        exact .inr ⟨h, now, time, .head _, hexpired.1.symm, hexpired.2.1, hexpired.2.2,
          hsame⟩
      · rw [if_neg hexpired] at hsame
        exact .inl hsame
    · exact .inr ⟨h', now', time', .tail _ hmem, hid, hpending, hlate, hget⟩

variable {id : String}

/-- Reading one hold lists it. -/
lemma listed_single (hs : HoldsKeyed s) {p : HoldRecord → Bool} {now time : Int} :
    Listed s (((s.getHold id).filter p).toList.map (·, now, time)) := by
  cases hhold : (s.getHold id).filter p with
  | none => exact ⟨fun x hx => (List.not_mem_nil hx).elim, List.nodup_nil⟩
  | some h =>
    have hstored : s.holds.get? id = some h := (Option.filter_eq_some_iff.mp hhold).1
    refine ⟨fun x hx => ?_, List.nodup_singleton _⟩
    obtain rfl := List.mem_singleton.mp hx
    show s.holds.get? h.id = some h
    rw [hs id h hstored]
    exact hstored

lemma HoldsKeyed.values_nodup (hs : HoldsKeyed s) : (s.holds.values.map HoldRecord.id).Nodup := by
  have hids : s.holds.values.map HoldRecord.id = s.holds.entries.map Prod.fst := by
    rw [Table.values, List.map_map]
    refine List.map_congr_left fun e he => ?_
    exact hs e.1 e.2 (Table.mem_entries_iff.mp he)
  rw [hids]
  exact s.holds.nodup

/-- The sweep lists the pending holds. -/
lemma listed_pending (hs : HoldsKeyed s) (clock : Nat → Int) :
    Listed s (pendingReadings clock s) := by
  constructor
  · intro x hx
    unfold pendingReadings at hx
    obtain ⟨⟨h, i⟩, hmem, rfl⟩ := List.mem_map.mp hx
    have hlisted : h ∈ s.listHolds (some .PENDING) := (List.mem_zipIdx' hmem).2 ▸ List.getElem_mem _
    obtain ⟨⟨id, hid⟩, -⟩ := Store.mem_listHolds.mp hlisted
    show s.holds.get? h.id = some h
    rw [hs id h hid]
    exact hid
  · have hids : (pendingReadings clock s).map (fun x => x.1.id) =
        (s.listHolds (some .PENDING)).map HoldRecord.id := by
      rw [pendingReadings, List.map_map]
      conv_rhs => rw [← List.zipIdx_map_fst 0 (s.listHolds (some .PENDING)), List.map_map]
      rfl
    rw [hids]
    exact (List.filter_sublist.map _).nodup hs.values_nodup

lemma Call.listed (hs : HoldsKeyed s) (c : Call) : Listed s (c.expiring s) := by
  cases c with
  | getHold | wait | decide => exact listed_single hs
  | sweepExpired clock => exact listed_pending hs clock
  | _ => exact ⟨fun x hx => (List.not_mem_nil hx).elim, List.nodup_nil⟩

/-! ## What can happen to a hold -/

/-- The hold under one id, before and after a call. -/
inductive HoldMove (P : RelayPlatform) (cfg : RelayConfig) (s : Store) (c : Call) (id : String) :
    Option HoldRecord → Option HoldRecord → Prop
  | same (o : Option HoldRecord) : HoldMove P cfg s c id o o
  | opened {clock : Nat → Int} {agent : AgentRecord} {idempotencyKey : Option String} {input : Json}
      {hold : HoldRecord} (call_eq : c = .createHold clock id agent idempotencyKey input)
      (checked : checkHold P cfg (clock 0) id agent idempotencyKey input s = .ok hold) :
      HoldMove P cfg s c id none (some hold)
  | expired {hold : HoldRecord} {now time : Int} (looked : (hold, now, time) ∈ c.expiring s)
      (pending : hold.status = .PENDING) (late : now ≥ hold.expiresAt) :
      HoldMove P cfg s c id (some hold) (some (hold.closed time))
  | decided {clock : Nat → Int} {device : DeviceRecord} {input receipt : Json} {hold : HoldRecord}
      {artifact : Option Json} {verdict : PhoneVerdict} {kid : String} {signer : DeviceRecord}
      (call_eq : c = .decide clock device id input) (owned : device.agentId = some hold.agentId)
      (pending : hold.status = .PENDING) (inTime : clock 0 < hold.expiresAt)
      (checked : Checked P s device hold receipt verdict kid signer) :
      HoldMove P cfg s c id (some hold) (some (hold.decided receipt artifact verdict (clock 2)))

/-- A write of one hold, seen from any id. -/
lemma putHold_move (id : String)
    (h : HoldMove P cfg s c hold.id (s.holds.get? hold.id) (some hold)) :
    HoldMove P cfg s c id (s.holds.get? id) ((s.putHold hold).holds.get? id) := by
  rw [Store.getHold_putHold]
  by_cases hid : id = hold.id
  · rw [if_pos hid, hid]
    exact h
  · rw [if_neg hid]
    exact .same _

lemma HoldEffect.hold_move (h : HoldEffect P cfg s c s') (hs : HoldsKeyed s) (hc : c.Grounded s)
    (id : String) : HoldMove P cfg s c id (s.holds.get? id) (s'.holds.get? id) := by
  cases h with
  | opened checked =>
    have hid := (checkHold_eq_ok checked).id_eq
    apply putHold_move
    rw [hid, (hc : FreshIn s.holds _).2]
    exact .opened rfl checked
  | expired =>
    rcases expireAll_get? (c.listed hs) 0 id with hsame | ⟨h, now, time, hmem, rfl, hpending, hlate, hget⟩
    · rw [hsame]
      exact .same _
    · rw [hget, (c.listed hs).stored _ hmem]
      exact .expired hmem hpending hlate
  | @decided _ _ _ _ _ hold _ _ stored owned pending inTime checked =>
    obtain ⟨kid, signer, hchecked⟩ := checkDecision_eq_ok checked
    obtain rfl := hs _ hold stored
    apply putHold_move
    show HoldMove P cfg s _ hold.id (s.holds.get? hold.id) _
    rw [stored]
    exact .decided rfl owned pending inTime hchecked

lemma RegistryEffect.holds {r : EngineResult} (h : RegistryEffect P cfg s c r s') :
    s'.holds = s.holds := by
  cases h <;> rfl

lemma Effect.hold_move {r : Option EngineResult} (h : Effect P cfg s c r s') (hs : HoldsKeyed s)
    (hc : c.Grounded s) (id : String) :
    HoldMove P cfg s c id (s.holds.get? id) (s'.holds.get? id) := by
  cases h with
  | registry effect =>
    rw [effect.holds]
    exact .same _
  | hold _ effect => exact effect.hold_move hs hc id
  | other => exact .same _

/-! ## Holds over time -/

/-- What stays of a hold: who opened it and for what, and everything once it is not pending. -/
structure HoldRecord.Continues (h h' : HoldRecord) : Prop where
  id_eq : h'.id = h.id
  agentId_eq : h'.agentId = h.agentId
  action_eq : h'.action = h.action
  deferred_eq : h'.deferredReceipt = h.deferredReceipt
  settled : h.status ≠ .PENDING → h' = h

lemma HoldRecord.Continues.refl (h : HoldRecord) : h.Continues h :=
  ⟨rfl, rfl, rfl, rfl, fun _ => rfl⟩

lemma HoldRecord.Continues.trans {h' h'' : HoldRecord} (hh' : h.Continues h')
    (hh'' : h'.Continues h'') : h.Continues h'' := by
  refine ⟨hh''.id_eq.trans hh'.id_eq, hh''.agentId_eq.trans hh'.agentId_eq,
    hh''.action_eq.trans hh'.action_eq, hh''.deferred_eq.trans hh'.deferred_eq, fun hsettled => ?_⟩
  obtain rfl := hh'.settled hsettled
  exact hh''.settled hsettled

variable {o o' : Option HoldRecord}

lemma HoldMove.continues
    (hmove : HoldMove P cfg s c id (some h) o) : ∃ h', o = some h' ∧ h.Continues h' := by
  cases hmove with
  | same => exact ⟨h, rfl, .refl h⟩
  | expired _ pending => exact ⟨_, rfl, rfl, rfl, rfl, rfl, fun hne => absurd pending hne⟩
  | decided _ _ pending => exact ⟨_, rfl, rfl, rfl, rfl, rfl, fun hne => absurd pending hne⟩

lemma HoldMove.id_eq {h' : HoldRecord}
    (hmove : HoldMove P cfg s c id o (some h')) (ho : ∀ h, o = some h → h.id = id) : h'.id = id := by
  cases hmove with
  | same => exact ho h' rfl
  | opened _ checked => exact (checkHold_eq_ok checked).id_eq
  | @expired hold => exact ho hold rfl
  | @decided _ _ _ _ hold => exact ho hold rfl

/-- The holds of the one store continue in the other. -/
def HoldsExtend (s s' : Store) : Prop :=
  ∀ id h, s.holds.get? id = some h → ∃ h', s'.holds.get? id = some h' ∧ h.Continues h'

/-- In every run holds stand under their ids, and continue what they were at any point of the run. -/
lemma run_holds (hrun : (relay P cfg).Run past) : HoldsKeyed ((relay P cfg).state past) ∧
      ∀ s, Served.Passes {} past s → HoldsExtend s ((relay P cfg).state past) := by
  refine hrun.invariant_ordered (fun _ _ h => by cases h) (fun s id h hh => ⟨h, hh, .refl h⟩)
    (fun s t u hst htu id h hh => ?_) fun past c run hallowed hs _ => ⟨fun id h hh => ?_, fun id h hh => ?_⟩
  · obtain ⟨h', hh', hcontinues⟩ := hst id h hh
    obtain ⟨h'', hh'', hcontinues'⟩ := htu id h' hh'
    exact ⟨h'', hh'', hcontinues.trans hcontinues'⟩
  · have hmove := (serve_effect P cfg past c).hold_move hs (run_grounded run hallowed) id
    have hh : ((relay P cfg).serve past c).after.holds.get? id = some h := hh
    rw [hh] at hmove
    exact hmove.id_eq (hs id)
  · have hmove := (serve_effect P cfg past c).hold_move hs (run_grounded run hallowed) id
    rw [hh] at hmove
    exact hmove.continues

/-- What an allowed call does to a hold. -/
lemma serve_hold_move (hrun : (relay P cfg).Run past) (hallowed : c.Allowed past) (id : String) :
    HoldMove P cfg ((relay P cfg).state past) c id (((relay P cfg).state past).holds.get? id)
      (((relay P cfg).serve past c).after.holds.get? id) :=
  (serve_effect P cfg past c).hold_move (run_holds hrun).1 (run_grounded hrun hallowed) id

/-! ## The machine -/

/-- The call moves the hold to the status. -/
def Becomes (e : Served Store Call (Option EngineResult)) (id : String) (status : HoldStatus) : Prop :=
  (e.before.holds.get? id).map HoldRecord.status ≠ some status ∧
    (e.after.holds.get? id).map HoldRecord.status = some status

/-- The call moves the hold out of the pending status. -/
def LeavesPending (e : Served Store Call (Option EngineResult)) (id : String) : Prop :=
  (e.before.holds.get? id).map HoldRecord.status = some .PENDING ∧
    (e.after.holds.get? id).map HoldRecord.status ≠ some .PENDING

/-- The call decides the hold, with a receipt that passed every check in the store it was made on:
the presenting device is the one registered for the receipt's key id, is not revoked, and is claimed by
the agent that owns the hold. -/
structure Decision (P : RelayPlatform) (e : Served Store Call (Option EngineResult)) (id : String)
    (verdict : PhoneVerdict) (clock : Nat → Int) (device : DeviceRecord) (input receipt : Json)
    (hold : HoldRecord) (kid : String) (signer : DeviceRecord) : Prop where
  call_eq : e.call = .decide clock device id input
  stored : e.before.holds.get? id = some hold
  recorded : ∃ hold', e.after.holds.get? id = some hold' ∧ hold'.decisionReceipt = some receipt
  checked : Checked P e.before device hold receipt verdict kid signer
  kid_of_signer : signer.kid = kid
  claimed : signer.agentId = some hold.agentId
  inTime : clock 0 < hold.expiresAt

/-- What holds of the holds in a run of the relay. -/
structure HoldMachineSound (P : RelayPlatform) (M : Service Store Call (Option EngineResult))
    (past : History) : Prop where
  /-- A hold leaves the pending status at most once. -/
  leaves_once : past.Pairwise fun e e' => ∀ id, LeavesPending e id → ¬ LeavesPending e' id
  /-- After that its status, decision receipt and decision artifact never change. -/
  settled : ∀ later earlier id h, past = later ++ earlier → (M.state earlier).holds.get? id = some h →
    h.status ≠ .PENDING → ∃ h', (M.state past).holds.get? id = some h' ∧ h'.status = h.status ∧
      h'.decisionReceipt = h.decisionReceipt ∧ h'.decisionArtifact = h.decisionArtifact
  /-- It becomes approved or denied only through a decision with that verdict. -/
  decided : ∀ later e earlier id verdict, past = later ++ e :: earlier → Becomes e id verdict.status →
    ∃ clock device input receipt hold kid signer,
      Decision P e id verdict clock device input receipt hold kid signer
  /-- It becomes expired only in a call that read the clock at or after its expiry. -/
  expired : ∀ later e earlier id, past = later ++ e :: earlier → Becomes e id .EXPIRED →
    ∃ hold now time, e.before.holds.get? id = some hold ∧ (hold, now, time) ∈ e.call.expiring e.before ∧
      now ≥ hold.expiresAt

lemma PhoneVerdict.status_injective {v v' : PhoneVerdict} (h : v.status = v'.status) : v = v' := by
  cases v <;> cases v' <;> first | rfl | cases h

lemma PhoneVerdict.status_ne (v : PhoneVerdict) : v.status ≠ .PENDING ∧ v.status ≠ .EXPIRED := by
  cases v <;> decide

/-- The device that presents a decision is bound, in the store, to the agent of the hold. -/
lemma Checked.claimed {device : DeviceRecord} {receipt : Json} {kid : String} {signer : DeviceRecord}
    (h : Checked P s device hold receipt verdict kid signer) (hs : Registered s)
    (hdevice : ∃ d, s.devices.get? device.id = some d ∧ device.Continues d)
    (howned : device.agentId = some hold.agentId) :
    signer.kid = kid ∧ signer.agentId = some hold.agentId := by
  obtain ⟨hsigner, hkid⟩ := hs.getDeviceByKid_eq_some h.registered
  obtain ⟨d, hd, hcontinues⟩ := hdevice
  rw [h.presented, hd] at hsigner
  cases hsigner
  exact ⟨hkid, hcontinues.agentId _ howned⟩

/-- A hold takes the status of a verdict only in a decision. -/
lemma HoldMove.decision
    (h : HoldMove P cfg s c id o o') (hbefore : o.map HoldRecord.status ≠ some verdict.status)
    (hafter : o'.map HoldRecord.status = some verdict.status) :
    ∃ clock device input receipt hold artifact kid signer, c = .decide clock device id input ∧
      o = some hold ∧ o' = some (hold.decided receipt artifact verdict (clock 2)) ∧
      device.agentId = some hold.agentId ∧ clock 0 < hold.expiresAt ∧
      Checked P s device hold receipt verdict kid signer := by
  cases h with
  | same => exact absurd hafter hbefore
  | opened _ checked =>
    have hpending := Option.some.inj hafter
    rw [(checkHold_eq_ok checked).pending] at hpending
    exact absurd hpending.symm verdict.status_ne.1
  | expired => exact absurd (Option.some.inj hafter).symm verdict.status_ne.2
  | decided call_eq owned _ inTime checked =>
    obtain rfl := PhoneVerdict.status_injective (Option.some.inj hafter)
    exact ⟨_, _, _, _, _, _, _, _, call_eq, rfl, rfl, owned, inTime, checked⟩

/-- A hold becomes expired only after its expiry. -/
lemma HoldMove.late (h : HoldMove P cfg s c id o o')
    (hbefore : o.map HoldRecord.status ≠ some .EXPIRED)
    (hafter : o'.map HoldRecord.status = some .EXPIRED) :
    ∃ hold now time, o = some hold ∧ (hold, now, time) ∈ c.expiring s ∧ now ≥ hold.expiresAt := by
  cases h with
  | same => exact absurd hafter hbefore
  | opened _ checked =>
    have hpending := Option.some.inj hafter
    rw [(checkHold_eq_ok checked).pending] at hpending
    cases hpending
  | expired looked _ late => exact ⟨_, _, _, rfl, looked, late⟩
  | @decided _ _ _ _ _ _ verdict => exact absurd (Option.some.inj hafter) verdict.status_ne.2

/-- A hold that left the pending status is in the store, with another status. -/
lemma HoldMove.left (h : HoldMove P cfg s c id o o')
    (hbefore : o.map HoldRecord.status = some .PENDING)
    (hafter : o'.map HoldRecord.status ≠ some .PENDING) :
    ∃ hold', o' = some hold' ∧ hold'.status ≠ .PENDING := by
  obtain ⟨hold, rfl, -⟩ := Option.map_eq_some_iff.mp hbefore
  obtain ⟨hold', rfl, -⟩ := h.continues
  exact ⟨hold', rfl, fun hpending => hafter (congrArg some hpending)⟩

theorem hold_machine_sound (P : RelayPlatform) (cfg : RelayConfig) (past : History)
    (hrun : (relay P cfg).Run past) : HoldMachineSound P (relay P cfg) past where
  leaves_once := by
    refine hrun.pairwise fun past c run hallowed e he id hleaves hleaves' => ?_
    obtain ⟨earlier, later, rfl⟩ := List.append_of_mem he
    obtain ⟨run', c', hallowed', rfl⟩ := run.served_at
    -- after the earlier call the hold is settled, and it still is when the later one is served
    obtain ⟨hold, hhold, hsettled⟩ := (serve_hold_move run' hallowed' id).left hleaves'.1 hleaves'.2
    have hpasses : Served.Passes {} (earlier ++ (relay P cfg).serve later c' :: later)
        ((relay P cfg).serve later c').after := ⟨earlier, _, rfl, rfl⟩
    obtain ⟨hold', hhold', hcontinues⟩ := (run_holds run).2 _ hpasses id hold hhold
    obtain rfl := hcontinues.settled hsettled
    have hpending : (((relay P cfg).state (earlier ++ (relay P cfg).serve later c' :: later)).holds.get?
      id).map HoldRecord.status = some .PENDING := hleaves.1
    rw [hhold'] at hpending
    exact hsettled (Option.some.inj hpending)
  settled later earlier id h hsplit hh hne := by
    have hpasses : Served.Passes {} past ((relay P cfg).state earlier) := ⟨later, earlier, hsplit, rfl⟩
    obtain ⟨h', hh', hcontinues⟩ := (run_holds hrun).2 _ hpasses id h hh
    obtain rfl := hcontinues.settled hne
    exact ⟨h', hh', rfl, rfl, rfl⟩
  decided later e earlier id verdict hsplit hbecomes := by
    subst hsplit
    obtain ⟨run, c, hallowed, rfl⟩ := hrun.served_at
    obtain ⟨clock, device, input, receipt, hold, artifact, kid, signer, rfl, hstored, hrecorded, howned,
      hinTime, hchecked⟩ := (serve_hold_move run hallowed id).decision hbecomes.1 hbecomes.2
    have hgrounded : (Call.decide clock device id input).Grounded ((relay P cfg).state earlier) :=
      run_grounded run hallowed
    obtain ⟨hkid, hclaimed⟩ := hchecked.claimed (run_registered run).1 hgrounded howned
    exact ⟨clock, device, input, receipt, hold, kid, signer, rfl, hstored, ⟨_, hrecorded, rfl⟩, hchecked,
      hkid, hclaimed, hinTime⟩
  expired later e earlier id hsplit hbecomes := by
    subst hsplit
    obtain ⟨run, c, hallowed, rfl⟩ := hrun.served_at
    exact (serve_hold_move run hallowed id).late hbecomes.1 hbecomes.2

/-! ## A sample run -/

namespace SampleRelay

def actionJson : Json :=
  .obj [("canonical", .str "pay.invoice"), ("riskClass", .str "HIGH"), ("paramsHash", .str
    "sha256:00112233445566778899aabbccddeeff00112233445566778899aabbccddeeff")]

/-- A request for a hold, without a deferred receipt. -/
def holdRequest : Json := .obj [("action", actionJson)]

/-- The approval of the phone; it links to no receipt. -/
def approval : Json :=
  .obj [("spec", .str "noa.receipt/0.1"), ("action", actionJson),
    ("governance", .obj [("verdict", .str "ALLOWED")]),
    ("sig", .obj [("kid", .str "phone-1"), ("value", .str "")])]

def decisionRequest : Json := .obj [("receipt", approval)]

/-- The agent opens two holds for the same action. -/
def opening : List Call :=
  [.createHold (fun _ => 0) "hold-2" agent (some "key-2") holdRequest,
    .createHold (fun _ => 0) "hold-1" agent (some "key-1") holdRequest] ++ enrolment

/-- The phone approves the first. -/
def approving : List Call := .decide (fun _ => 1) device "hold-1" decisionRequest :: opening

abbrev opened : History := (relay platform config).play opening

abbrev approved : History := (relay platform config).play approving

/-- The status of a hold after a run. -/
def statusAfter (past : History) (id : String) : Option HoldStatus :=
  ((Served.final {} past).holds.get? id).map HoldRecord.status

lemma playable_opening : (relay platform config).Playable opening := by
  refine ⟨⟨⟨by decide, Option.isNone_iff_eq_none.mp ?_⟩, ⟨_, ⟨[], _, rfl, rfl⟩, ?_⟩⟩,
    ⟨⟨by decide, Option.isNone_iff_eq_none.mp ?_⟩, ⟨_, ⟨[], _, rfl, rfl⟩, ?_⟩⟩, playable_enrolment⟩
  · decide
  · decide
  · decide
  · exact enrolled_agents

lemma playable_approving : (relay platform config).Playable approving := by
  refine ⟨⟨_, ⟨[], _, rfl, rfl⟩, ?_⟩, playable_opening⟩
  decide

end SampleRelay

theorem hold_machine_sound_approved :
    SampleRelay.statusAfter SampleRelay.opened "hold-1" = some .PENDING ∧
      SampleRelay.statusAfter SampleRelay.approved "hold-1" = some .APPROVED ∧
      HoldMachineSound SampleRelay.platform (relay SampleRelay.platform SampleRelay.config)
        SampleRelay.approved :=
  ⟨by decide, by decide, hold_machine_sound SampleRelay.platform SampleRelay.config
    SampleRelay.approved (Service.run_play SampleRelay.playable_approving)⟩

end Relay

end NoaMandate
