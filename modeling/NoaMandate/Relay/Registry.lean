import NoaMandate.Relay.Calls

/-!
# The device registry

What holds of agents, devices and tokens in every run of the relay.

* **Devices** (`Registered`): every device stands under its own id and is the one its key id leads to,
  so no two devices share a key id; a device of a tenant is bound to an agent of that tenant.
* **Records over time** (`Store.Extends`): an agent's record never changes; a device keeps its key id
  and tenant, and keeps its agent and the time of its revocation once it has them.
* **Tokens** (`used_of_redeemed`, `used_of_redeemedDevice`): a token that was redeemed stays used, so
  it is redeemed once.
* **Enrolment** (`tenanted_enrolled`): a device of a tenant was enrolled with a token that was issued
  for that tenant and the device's key id.

The first two are proved together (`run_registered`), since a device that revokes itself is written
back from a record the caller was looked up with.
-/

namespace NoaMandate

namespace Relay

variable {P : RelayPlatform} {cfg : RelayConfig} {s s' : Store} {c : Call}

/-! ## What calls on holds leave alone -/

/-- Agents, devices and tokens are the same. -/
structure SameRegistry (s s' : Store) : Prop where
  agents : s'.agents = s.agents
  devices : s'.devices = s.devices
  devicesByKid : s'.devicesByKid = s.devicesByKid
  pairings : s'.pairings = s.pairings
  devicePairings : s'.devicePairings = s.devicePairings

lemma SameRegistry.refl : SameRegistry s s := ⟨rfl, rfl, rfl, rfl, rfl⟩

lemma SameRegistry.trans {s'' : Store} (h : SameRegistry s s') (h' : SameRegistry s' s'') :
    SameRegistry s s'' :=
  ⟨h'.agents.trans h.agents, h'.devices.trans h.devices, h'.devicesByKid.trans h.devicesByKid,
    h'.pairings.trans h.pairings, h'.devicePairings.trans h.devicePairings⟩

lemma putHold_sameRegistry (h : HoldRecord) : SameRegistry s (s.putHold h) :=
  ⟨rfl, rfl, rfl, rfl, rfl⟩

lemma lazyExpire_sameRegistry (now time : Int) (h : HoldRecord) :
    SameRegistry s (lazyExpire now time h s).2 := by
  unfold lazyExpire
  split
  · exact putHold_sameRegistry _
  · exact SameRegistry.refl

lemma expireAll_sameRegistry (l : List (HoldRecord × Int × Int)) (n : Nat) :
    SameRegistry s (expireAll l n s).2 := by
  induction l generalizing n s with
  | nil => exact SameRegistry.refl
  | cons x l ih => exact (lazyExpire_sameRegistry _ _ _).trans (ih _)

lemma HoldEffect.sameRegistry (h : HoldEffect P cfg s c s') : SameRegistry s s' := by
  cases h with
  | opened => exact putHold_sameRegistry _
  | expired => exact expireAll_sameRegistry _ _
  | decided => exact putHold_sameRegistry _

/-- A call writes the registry, or leaves it alone and redeems nothing. -/
lemma Effect.registry_cases {r : Option EngineResult} (h : Effect P cfg s c r s') :
    (∃ a, r = some a ∧ RegistryEffect P cfg s c a s') ∨
      SameRegistry s s' ∧ (c.redeems = true → ∀ a, r = some a → 400 ≤ a.status) := by
  cases h with
  | registry effect => exact .inl ⟨_, rfl, effect⟩
  | hold unredeemed effect =>
    refine .inr ⟨effect.sameRegistry, fun h => ?_⟩
    rw [unredeemed] at h
    cases h
  | other unredeemed => exact .inr ⟨⟨rfl, rfl, rfl, rfl, rfl⟩, unredeemed⟩

/-! ## Devices -/

/-- What stays of a device's record. -/
structure DeviceRecord.Continues (d d' : DeviceRecord) : Prop where
  id_eq : d'.id = d.id
  kid_eq : d'.kid = d.kid
  tenant_eq : d'.tenant = d.tenant
  agentId : ∀ a, d.agentId = some a → d'.agentId = some a
  revokedAt : ∀ t, d.revokedAt = some t → d'.revokedAt = some t

lemma DeviceRecord.Continues.refl (d : DeviceRecord) : d.Continues d :=
  ⟨rfl, rfl, rfl, fun _ h => h, fun _ h => h⟩

variable {d d' : DeviceRecord} {e : Served Store Call (Option EngineResult)} {random kid : String}

lemma DeviceRecord.Continues.trans {d'' : DeviceRecord} (h : d.Continues d')
    (h' : d'.Continues d'') : d.Continues d'' :=
  ⟨h'.id_eq.trans h.id_eq, h'.kid_eq.trans h.kid_eq, h'.tenant_eq.trans h.tenant_eq,
    fun a ha => h'.agentId a (h.agentId a ha), fun t ht => h'.revokedAt t (h.revokedAt t ht)⟩

/-- A device of a tenant that is bound to an agent is bound to one of that tenant. -/
def InTenant (s : Store) (d : DeviceRecord) : Prop :=
  ∀ t a, d.tenant = some t → d.agentId = some a →
    ∃ agent, s.agents.get? a = some agent ∧ agent.tenant = some t

/-- The tables of the registry fit together. -/
structure Registered (s : Store) : Prop where
  keyed : ∀ id d, s.devices.get? id = some d → d.id = id ∧ id ≠ ""
  indexed : ∀ id d, s.devices.get? id = some d → s.devicesByKid.get? d.kid = some id
  known : ∀ kid id, s.devicesByKid.get? kid = some id → ∃ d, s.devices.get? id = some d ∧ d.kid = kid
  inTenant : ∀ id d, s.devices.get? id = some d → InTenant s d
  pairingKeyed : ∀ token p, s.pairings.get? token = some p → p.token = token

lemma Registered.kid_unique (hs : Registered s) {id id' : String}
    (h : s.devices.get? id = some d) (h' : s.devices.get? id' = some d') (hkid : d.kid = d'.kid) :
    id = id' := by
  have hid := hs.indexed id d h
  rw [hkid, hs.indexed id' d' h'] at hid
  exact (Option.some.inj hid).symm

lemma Registered.getDeviceByKid_eq_some (hs : Registered s)
    (h : s.getDeviceByKid kid = some d) : s.devices.get? d.id = some d ∧ d.kid = kid := by
  unfold Store.getDeviceByKid at h
  obtain ⟨id, hid, hd⟩ := Option.bind_eq_some_iff.mp h
  have hindex : s.devicesByKid.get? kid = some id := (Option.filter_eq_some_iff.mp hid).1
  obtain ⟨d', hd', hkid⟩ := hs.known kid id hindex
  rw [hd] at hd'
  cases hd'
  rw [(hs.keyed id d hd).1]
  exact ⟨hd, hkid⟩

lemma Registered.getDeviceByKid_eq_none (hs : Registered s)
    (h : s.getDeviceByKid kid = none) : s.devicesByKid.get? kid = none := by
  cases hindex : s.devicesByKid.get? kid with
  | none => rfl
  | some id =>
    obtain ⟨d, hd, -⟩ := hs.known kid id hindex
    have hne : id ≠ "" := (hs.keyed id d hd).2
    simp [Store.getDeviceByKid, hindex, hne, hd] at h

/-- What holds of a call in the store it is made on. -/
def Call.Grounded (s : Store) : Call → Prop
  | .createPairing _ random _ => FreshIn s.pairings ("noa_pair_" ++ random)
  | .redeemPairing _ newId _ _ => FreshIn s.agents newId
  | .redeemDevicePairing _ newId _ _ => FreshIn s.devices newId
  | .registerDevice _ newId _ _ => FreshIn s.devices newId
  | .claimDevice agent _ => s.agents.get? agent.id = some agent
  | .revokeSelf _ device => ∃ d, s.devices.get? device.id = some d ∧ device.Continues d
  | .createHold _ newId _ _ _ => FreshIn s.holds newId
  | .decide _ device _ _ => ∃ d, s.devices.get? device.id = some d ∧ device.Continues d
  | _ => True

/-- A record that may be written: of a new device, or continuing the one that is there. -/
structure DeviceWrite (s : Store) (d : DeviceRecord) : Prop where
  prior : (FreshIn s.devices d.id ∧ s.devicesByKid.get? d.kid = none) ∨
    ∃ old, s.devices.get? d.id = some old ∧ old.Continues d
  inTenant : InTenant s d

lemma DeviceWrite.fresh (hs : Registered s) (hid : FreshIn s.devices d.id)
    (hkid : s.getDeviceByKid d.kid = none) (hagent : d.agentId = none) : DeviceWrite s d where
  prior := .inl ⟨hid, hs.getDeviceByKid_eq_none hkid⟩
  inTenant t a _ ha := by
    rw [hagent] at ha
    cases ha

/-- Writing back a stored record with the same agent. -/
lemma DeviceWrite.update (hs : Registered s)
    (hd : s.devices.get? d.id = some d) (hcontinues : d.Continues d')
    (hagent : d'.agentId = d.agentId) : DeviceWrite s d' where
  prior := by
    rw [hcontinues.id_eq]
    exact .inr ⟨d, hd, hcontinues⟩
  inTenant t a ht ha :=
    hs.inTenant _ d hd t a (hcontinues.tenant_eq ▸ ht) (hagent ▸ ha)

variable {r : EngineResult}

/-- A call writes at most one device. One that redeems no device token leaves the device's key. -/
lemma RegistryEffect.device (h : RegistryEffect P cfg s c r s')
    (hs : Registered s) (hc : c.Grounded s) :
    (s'.devices = s.devices ∧ s'.devicesByKid = s.devicesByKid) ∨
      ∃ d, DeviceWrite s d ∧ s'.devices = (s.putDevice d).devices ∧
        s'.devicesByKid = (s.putDevice d).devicesByKid ∧
        ((∀ clock newId random input, c ≠ .redeemDevicePairing clock newId random input) →
          ∀ old, s.devices.get? d.id = some old → d.publicKeyHex = old.publicKeyHex) := by
  cases h with
  | paired => exact .inl ⟨rfl, rfl⟩
  | redeemed => exact .inl ⟨rfl, rfl⟩
  | devicePaired => exact .inl ⟨rfl, rfl⟩
  | reminted _ known _ _ =>
    refine .inr ⟨_, ?_, rfl, rfl, fun h => absurd rfl (h _ _ _ _)⟩
    obtain ⟨hstored, -⟩ := hs.getDeviceByKid_eq_some known
    exact .update hs hstored ⟨rfl, rfl, rfl, fun _ h => h, fun _ h => h⟩ rfl
  | enrolled _ unknown id_eq kid_eq _ _ unclaimed _ =>
    exact .inr ⟨_, .fresh hs (id_eq ▸ hc) (kid_eq ▸ unknown) unclaimed, rfl, rfl,
      fun h => absurd rfl (h _ _ _ _)⟩
  | @registered _ _ _ _ d _ unknown id_eq _ unclaimed _ =>
    have hfresh : FreshIn s.devices d.id := id_eq ▸ hc
    refine .inr ⟨_, .fresh hs hfresh unknown unclaimed, rfl, rfl, fun _ old hold => ?_⟩
    rw [hfresh.2] at hold
    cases hold
  | @claimed agent deviceId d _ stored unclaimed inTenant =>
    have hstored : s.devices.get? d.id = some d := by
      rw [(hs.keyed _ _ stored).1]
      exact stored
    refine .inr ⟨_, ?_, rfl, rfl, fun _ old hold => ?_⟩
    · refine ⟨.inr ⟨d, hstored, rfl, rfl, rfl, fun a ha => ?_, fun _ h => h⟩, ?_⟩
      · rw [unclaimed] at ha
        cases ha
      · rintro t a ht ⟨⟩
        exact ⟨agent, hc, inTenant t ht⟩
    · cases hstored.symm.trans hold
      rfl
  | @revoked _ device d _ current active =>
    -- the caller's record is in the store, so what is written back is the stored one
    obtain ⟨d', hd', -⟩ := hc
    rw [hd', Option.getD_some] at current
    subst current
    have hstored : s.devices.get? d'.id = some d' := by
      rw [(hs.keyed _ _ hd').1]
      exact hd'
    refine .inr ⟨_, ?_, rfl, rfl, fun _ old hold => ?_⟩
    · refine .update hs hstored ⟨rfl, rfl, rfl, fun _ h => h, fun t ht => ?_⟩ rfl
      rw [active] at ht
      cases ht
    · cases hstored.symm.trans hold
      rfl

/-! ## Records over time -/

/-- What stays of the registry. -/
structure Store.Extends (s s' : Store) : Prop where
  agents : ∀ id a, s.agents.get? id = some a → s'.agents.get? id = some a
  devices : ∀ id d, s.devices.get? id = some d → ∃ d', s'.devices.get? id = some d' ∧ d.Continues d'

lemma Store.Extends.refl (s : Store) : s.Extends s :=
  ⟨fun _ _ h => h, fun _ d h => ⟨d, h, .refl d⟩⟩

lemma Store.Extends.trans {s s' s'' : Store} (h : s.Extends s') (h' : s'.Extends s'') :
    s.Extends s'' := by
  refine ⟨fun id a ha => h'.agents id a (h.agents id a ha), fun id d hd => ?_⟩
  obtain ⟨d', hd', hcontinues⟩ := h.devices id d hd
  obtain ⟨d'', hd'', hcontinues'⟩ := h'.devices id d' hd'
  exact ⟨d'', hd'', hcontinues.trans hcontinues'⟩

lemma SameRegistry.extends (h : SameRegistry s s') : s.Extends s' := by
  refine ⟨fun id a ha => ?_, fun id d hd => ⟨d, ?_, .refl d⟩⟩
  · rw [h.agents]
    exact ha
  · rw [h.devices]
    exact hd

lemma SameRegistry.registered (h : SameRegistry s s') (hs : Registered s) : Registered s' := by
  obtain ⟨hagents, hdevices, hkids, hpairings, -⟩ := h
  refine ⟨?_, ?_, ?_, ?_, ?_⟩
  · rw [hdevices]
    exact hs.keyed
  · rw [hdevices, hkids]
    exact hs.indexed
  · rw [hdevices, hkids]
    exact hs.known
  · unfold InTenant
    rw [hdevices, hagents]
    exact hs.inTenant
  · rw [hpairings]
    exact hs.pairingKeyed

/-- A new agent has a new id. -/
lemma RegistryEffect.agents (h : RegistryEffect P cfg s c r s')
    (hc : c.Grounded s) {id : String} {a : AgentRecord} (ha : s.agents.get? id = some a) :
    s'.agents.get? id = some a := by
  cases h with
  | @redeemed _ newId _ _ _ _ agent _ _ _ _ id_eq _ =>
    have hne : id ≠ agent.id := by
      rintro rfl
      rw [id_eq, (hc : FreshIn s.agents newId).2] at ha
      cases ha
    exact (Table.get?_set_of_ne _ hne _).trans ha
  | _ => exact ha

/-- A pairing stands under its token. -/
lemma RegistryEffect.pairingKeyed (h : RegistryEffect P cfg s c r s')
    (hs : Registered s) : ∀ token p, s'.pairings.get? token = some p → p.token = token := by
  have hput : ∀ (q : PairingRecord) token p,
      (s.pairings.set q.token q).get? token = some p → p.token = token := by
    intro q token p hp
    rw [Table.get?_set] at hp
    split at hp
    · cases hp
      exact Eq.symm ‹_›
    · exact hs.pairingKeyed token p hp
  cases h with
  | paired => exact hput _
  | redeemed => exact hput _
  | _ => exact hs.pairingKeyed

section write

variable {d : DeviceRecord} (hs : Registered s) (hd : DeviceWrite s d)

include hs hd

lemma DeviceWrite.id_ne : d.id ≠ "" := by
  rcases hd.prior with ⟨hfresh, -⟩ | ⟨old, hold, -⟩
  · exact hfresh.1
  · exact (hs.keyed _ _ hold).2

/-- No other device has the key id. -/
lemma DeviceWrite.kid_ne {id : String} (hd' : s.devices.get? id = some d')
    (hid : id ≠ d.id) : d'.kid ≠ d.kid := by
  intro hkid
  rcases hd.prior with ⟨-, hnone⟩ | ⟨old, hold, hcontinues⟩
  · have hindex := hs.indexed id d' hd'
    rw [hkid, hnone] at hindex
    cases hindex
  · exact hid (hs.kid_unique hd' hold (hkid.trans hcontinues.kid_eq))

omit hs in
/-- The key id of the device that is written over. -/
lemma DeviceWrite.kid_eq {old : DeviceRecord} (hold : s.devices.get? d.id = some old) :
    old.kid = d.kid := by
  rcases hd.prior with ⟨hfresh, -⟩ | ⟨old', hold', hcontinues⟩
  · rw [hfresh.2] at hold
    cases hold
  · rw [hold] at hold'
    cases hold'
    exact hcontinues.kid_eq.symm

lemma DeviceWrite.registered (hdevices : s'.devices = (s.putDevice d).devices)
    (hkids : s'.devicesByKid = (s.putDevice d).devicesByKid)
    (hagents : ∀ id a, s.agents.get? id = some a → s'.agents.get? id = some a)
    (hpairings : ∀ token p, s'.pairings.get? token = some p → p.token = token) : Registered s' := by
  have hwritten : ∀ id d', s'.devices.get? id = some d' →
      id = d.id ∧ d' = d ∨ id ≠ d.id ∧ s.devices.get? id = some d' := by
    intro id d' hd'
    rw [hdevices, Store.getDevice_putDevice] at hd'
    split at hd'
    · exact .inl ⟨‹_›, (Option.some.inj hd').symm⟩
    · exact .inr ⟨‹_›, hd'⟩
  refine ⟨fun id d' hd' => ?_, fun id d' hd' => ?_, fun kid id hkid => ?_, fun id d' hd' t a ht ha => ?_,
    hpairings⟩
  · rcases hwritten id d' hd' with ⟨rfl, rfl⟩ | ⟨-, hold⟩
    · exact ⟨rfl, hd.id_ne hs⟩
    · exact hs.keyed id d' hold
  · rw [hkids, Store.kid_putDevice]
    rcases hwritten id d' hd' with ⟨rfl, rfl⟩ | ⟨hid, hold⟩
    · rw [if_pos rfl]
    · rw [if_neg (hd.kid_ne hs hold hid)]
      exact hs.indexed id d' hold
  · rw [hkids, Store.kid_putDevice] at hkid
    rw [hdevices, Store.getDevice_putDevice]
    split at hkid
    · cases hkid
      exact ⟨d, if_pos rfl, Eq.symm ‹_›⟩
    · rename_i hne
      obtain ⟨old, hold, rfl⟩ := hs.known kid id hkid
      have hid : id ≠ d.id := fun hid => hne (hd.kid_eq (hid ▸ hold))
      exact ⟨old, (if_neg hid).trans hold, rfl⟩
  · have hbound : ∃ agent, s.agents.get? a = some agent ∧ agent.tenant = some t := by
      rcases hwritten id d' hd' with ⟨-, rfl⟩ | ⟨-, hold⟩
      · exact hd.inTenant t a ht ha
      · exact hs.inTenant id d' hold t a ht ha
    obtain ⟨agent, hagent, htenant⟩ := hbound
    exact ⟨agent, hagents a agent hagent, htenant⟩

omit hs in
lemma DeviceWrite.devices (hdevices : s'.devices = (s.putDevice d).devices) (id : String)
    (old : DeviceRecord) (hold : s.devices.get? id = some old) :
    ∃ d', s'.devices.get? id = some d' ∧ old.Continues d' := by
  rw [hdevices, Store.getDevice_putDevice]
  by_cases hid : id = d.id
  · subst hid
    rcases hd.prior with ⟨hfresh, -⟩ | ⟨old', hold', hcontinues⟩
    · rw [hfresh.2] at hold
      cases hold
    · rw [hold] at hold'
      cases hold'
      exact ⟨d, if_pos rfl, hcontinues⟩
  · exact ⟨old, (if_neg hid).trans hold, .refl old⟩

end write

/-- One call keeps the registry in order and moves it along. -/
lemma Effect.registered {r : Option EngineResult} (h : Effect P cfg s c r s') (hs : Registered s)
    (hc : c.Grounded s) : Registered s' ∧ s.Extends s' := by
  rcases h.registry_cases with ⟨a, -, heffect⟩ | ⟨hsame, -⟩
  · have hagents : ∀ id a, s.agents.get? id = some a → s'.agents.get? id = some a :=
      fun _ _ ha => heffect.agents hc ha
    have hpairings := heffect.pairingKeyed hs
    rcases heffect.device hs hc with ⟨hdevices, hkids⟩ | ⟨d, hd, hdevices, hkids, -⟩
    · refine ⟨⟨?_, ?_, ?_, ?_, hpairings⟩, hagents, fun id d hd => ⟨d, hdevices ▸ hd, .refl d⟩⟩
      · rw [hdevices]
        exact hs.keyed
      · rw [hdevices, hkids]
        exact hs.indexed
      · rw [hdevices, hkids]
        exact hs.known
      · intro id d hd t a ht ha
        obtain ⟨agent, hagent, htenant⟩ := hs.inTenant id d (hdevices ▸ hd) t a ht ha
        exact ⟨agent, hagents a agent hagent, htenant⟩
    · exact ⟨hd.registered hs hdevices hkids hagents hpairings, hagents, hd.devices hdevices⟩
  · exact ⟨hsame.registered hs, hsame.extends⟩

lemma registered_empty : Registered {} where
  keyed _ _ h := by cases h
  indexed _ _ h := by cases h
  known _ _ h := by cases h
  inTenant _ _ h := by cases h
  pairingKeyed _ _ h := by cases h

/-! ## Runs -/

variable {past later : History}

lemma serve_effect (P : RelayPlatform) (cfg : RelayConfig) (past : History) (c : Call) :
    Effect P cfg ((relay P cfg).state past) c ((relay P cfg).serve past c).answer
      ((relay P cfg).serve past c).after :=
  exec_effect c

/-- What the caller was looked up with still says who the caller is. -/
lemma Call.Allowed.grounded (h : c.Allowed past)
    (hextends : ∀ s, Served.Passes {} past s → s.Extends (Served.final {} past)) :
    c.Grounded (Served.final {} past) := by
  cases c with
  | claimDevice agent deviceId =>
    obtain ⟨s, hs, hagent⟩ := h
    exact (hextends s hs).agents _ _ hagent
  | revokeSelf clock device =>
    obtain ⟨s, hs, hdevice⟩ := h
    exact (hextends s hs).devices _ _ hdevice
  | decide clock device holdId input =>
    obtain ⟨s, hs, hdevice⟩ := h
    exact (hextends s hs).devices _ _ hdevice
  | createHold clock newId agent key input => exact h.1
  | createPairing | redeemPairing | redeemDevicePairing | registerDevice => exact h
  | _ => trivial

/-- In every run the registry is in order, and extends what it was at any point of the run. -/
lemma run_registered (h : (relay P cfg).Run past) : Registered ((relay P cfg).state past) ∧
      ∀ s, Served.Passes {} past s → s.Extends ((relay P cfg).state past) :=
  h.invariant_ordered registered_empty Store.Extends.refl (fun _ _ _ => Store.Extends.trans)
    fun _ c _ hallowed hs hextends => (exec_effect c).registered hs (hallowed.grounded hextends)

/-- What holds of an allowed call in the store it is served on. -/
lemma run_grounded (h : (relay P cfg).Run past) (hc : c.Allowed past) :
    c.Grounded ((relay P cfg).state past) :=
  hc.grounded (run_registered h).2

/-- What was served in a run. -/
lemma run_served (h : (relay P cfg).Run past)
    (he : e ∈ past) : Registered e.before ∧ e.call.Grounded e.before ∧
      exec P cfg e.call e.before = (e.answer, e.after) := by
  obtain ⟨later, earlier, -, hearlier, hallowed, heq⟩ := h.of_mem he
  rw [heq]
  exact ⟨(run_registered hearlier).1, run_grounded hearlier hallowed, rfl⟩

/-! ## Agent tokens -/

/-- The call redeemed the agent token. -/
def RedeemsPairing (e : Served Store Call (Option EngineResult)) (token : String) : Prop :=
  ∃ clock newId random input r, e.call = .redeemPairing clock newId random input ∧
    asString (input.get? "token") = some token ∧ e.answer = some r ∧ r.status < 400

/-- The token is in the store, marked as used. -/
def UsedPairing (s : Store) (token : String) : Prop :=
  ∃ p, s.pairings.get? token = some p ∧ p.usedAt ≠ none

variable {token : String}

/-- A used token stays used. -/
lemma Effect.usedPairing {r : Option EngineResult} (h : Effect P cfg s c r s') (hc : c.Grounded s) (hused : UsedPairing s token) : UsedPairing s' token := by
  obtain ⟨p, hp, hne⟩ := hused
  rcases h.registry_cases with ⟨a, -, heffect⟩ | ⟨hsame, -⟩
  · cases heffect with
    | @paired _ random _ q _ token_eq _ =>
      have hfresh : token ≠ q.token := by
        rintro rfl
        rw [token_eq, (hc : FreshIn s.pairings ("noa_pair_" ++ random)).2] at hp
        cases hp
      exact ⟨p, (Table.get?_set_of_ne _ hfresh _).trans hp, hne⟩
    | @redeemed clock _ _ _ _ q agent _ _ _ _ _ _ =>
      by_cases htoken : token = q.token
      · refine ⟨{ q with usedAt := some (clock 2) }, ?_, by simp⟩
        rw [htoken]
        exact Table.get?_set_self _ _ _
      · exact ⟨p, (Table.get?_set_of_ne _ htoken _).trans hp, hne⟩
    | _ => exact ⟨p, hp, hne⟩
  · exact ⟨p, hsame.pairings ▸ hp, hne⟩

variable {r : EngineResult}

/-- A call that redeems a token finds it unused and marks it. -/
lemma Effect.redeemsPairing {clock : Nat → Int} {newId : String} {input : Json}
    (h : Effect P cfg s (.redeemPairing clock newId random input) (some r) s') (hs : Registered s)
    (htoken : asString (input.get? "token") = some token) (hstatus : r.status < 400) :
    ¬ UsedPairing s token ∧ UsedPairing s' token := by
  rcases h.registry_cases with ⟨a, -, heffect⟩ | ⟨-, hrefused⟩
  · cases heffect with
    | @redeemed _ _ _ _ _ q _ _ presented stored unused =>
      rw [htoken] at presented
      cases presented
      constructor
      · rintro ⟨p, hp, hne⟩
        rw [stored] at hp
        cases hp
        exact hne unused
      · refine ⟨{ q with usedAt := some (clock 2) }, ?_, Option.some_ne_none (clock 2)⟩
        rw [Store.getPairing_putPairing, if_pos (hs.pairingKeyed _ _ stored).symm]
  · exact absurd (hrefused rfl r rfl) (not_le.mpr hstatus)

lemma serve_redeemsPairing (hrun : (relay P cfg).Run past)
    (h : RedeemsPairing ((relay P cfg).serve past c) token) :
    ¬ UsedPairing ((relay P cfg).state past) token ∧
      UsedPairing (exec P cfg c ((relay P cfg).state past)).2 token := by
  obtain ⟨clock, newId, random, input, r, rfl, htoken, hanswer, hstatus⟩ := h
  have heffect := serve_effect P cfg past (.redeemPairing clock newId random input)
  rw [hanswer] at heffect
  exact heffect.redeemsPairing (run_registered hrun).1 htoken hstatus

/-- A token that was redeemed is used. -/
lemma used_of_redeemed (hrun : (relay P cfg).Run past) (he : e ∈ past) (h : RedeemsPairing e token) :
    UsedPairing ((relay P cfg).state past) token := by
  induction hrun with
  | start => cases he
  | serve run hallowed ih =>
    rcases List.mem_cons.mp he with rfl | he
    · exact (serve_redeemsPairing run h).2
    · exact (exec_effect _).usedPairing (run_grounded run hallowed) (ih he)

/-! ## Device tokens -/

/-- The call issued the device token for a tenant and a key id. -/
def Issues (e : Served Store Call (Option EngineResult)) (token tenant kid : String) : Prop :=
  ∃ clock random input r, e.call = .createDevicePairing clock random input ∧ e.answer = some r ∧
    r.status = 201 ∧ token = DEVICE_TOKEN_PREFIX ++ random ∧
    asString (input.get? "tenant") = some tenant ∧ asString (input.get? "kid") = some kid

/-- The call redeemed the device token. -/
def RedeemsDevicePairing (e : Served Store Call (Option EngineResult)) (token : String) : Prop :=
  ∃ clock newId random input r, e.call = .redeemDevicePairing clock newId random input ∧
    asString (input.get? "token") = some token ∧ e.answer = some r ∧ r.status < 400

/-- Every device token in the store stands under its hash and was issued for its tenant and key. -/
def TokensIssued (P : RelayPlatform) (past : History) (s : Store) : Prop :=
  ∀ hash p, s.devicePairings.get? hash = some p → p.tokenHash = hash ∧
    ∃ token, hash = P.hashSecret token ∧ ∃ e ∈ past, Issues e token p.tenant p.kid

/-- The hash of the token is in the store, marked as used. -/
def UsedDevicePairing (P : RelayPlatform) (s : Store) (token : String) : Prop :=
  ∃ p, s.devicePairings.get? (P.hashSecret token) = some p ∧ p.usedAt ≠ none

/-- The device tokens a call writes: a new one, or one that was presented, marked as used. -/
lemma RegistryEffect.devicePairings (h : RegistryEffect P cfg s c r s') :
    s'.devicePairings = s.devicePairings ∨
    (∃ clock random input p, c = .createDevicePairing clock random input ∧ r.status = 201 ∧
      p.tokenHash = P.hashSecret (DEVICE_TOKEN_PREFIX ++ random) ∧
      asString (input.get? "tenant") = some p.tenant ∧ asString (input.get? "kid") = some p.kid ∧
      s'.devicePairings = s.devicePairings.set p.tokenHash p) ∨
    ∃ clock newId random input token p time, c = .redeemDevicePairing clock newId random input ∧
      asString (input.get? "token") = some token ∧
      s.devicePairings.get? (P.hashSecret token) = some p ∧ p.usedAt = none ∧
      s'.devicePairings = s.devicePairings.set p.tokenHash { p with usedAt := some time } := by
  cases h with
  | devicePaired tokenHash tenant kid unused =>
    exact .inr (.inl ⟨_, _, _, _, rfl, rfl, tokenHash, tenant, kid, rfl⟩)
  | reminted presented =>
    exact .inr (.inr ⟨_, _, _, _, _, _, _, rfl, presented.token_eq, presented.stored,
      presented.unused, rfl⟩)
  | enrolled presented =>
    exact .inr (.inr ⟨_, _, _, _, _, _, _, rfl, presented.token_eq, presented.stored,
      presented.unused, rfl⟩)
  | _ => exact .inl rfl

/-- A redeemed device token is the unused one that was presented. -/
lemma RegistryEffect.presentedToken {clock : Nat → Int} {newId : String} {input : Json} (h : RegistryEffect P cfg s (.redeemDevicePairing clock newId random input) r s')
    (htoken : asString (input.get? "token") = some token) :
    ∃ p time, s.devicePairings.get? (P.hashSecret token) = some p ∧ p.usedAt = none ∧
      s'.devicePairings = s.devicePairings.set p.tokenHash { p with usedAt := some time } := by
  cases h with
  | reminted presented =>
    obtain rfl := Option.mem_unique htoken presented.token_eq
    exact ⟨_, _, presented.stored, presented.unused, rfl⟩
  | enrolled presented =>
    obtain rfl := Option.mem_unique htoken presented.token_eq
    exact ⟨_, _, presented.stored, presented.unused, rfl⟩

/-- In every run, the tokens in the store were issued. -/
lemma run_tokensIssued (hrun : (relay P cfg).Run past) :
    TokensIssued P past ((relay P cfg).state past) := by
  induction hrun with
  | start => exact fun _ _ h => by cases h
  | @serve past c run hallowed ih =>
    intro hash p hp
    have hmono : ∀ {hash} {p : DevicePairingRecord},
        ((relay P cfg).state past).devicePairings.get? hash = some p → p.tokenHash = hash ∧
        ∃ token, hash = P.hashSecret token ∧
          ∃ e ∈ (relay P cfg).serve past c :: past, Issues e token p.tenant p.kid := by
      intro hash p hp
      obtain ⟨hhash, token, htoken, e, he, hissues⟩ := ih hash p hp
      exact ⟨hhash, token, htoken, e, .tail _ he, hissues⟩
    have hp : (exec P cfg c ((relay P cfg).state past)).2.devicePairings.get? hash = some p := hp
    rcases (exec_effect c).registry_cases with ⟨a, hanswer, heffect⟩ | ⟨hsame, -⟩
    · rcases heffect.devicePairings with hsame | ⟨clock, random, input, q, rfl, hstatus, hhash,
        htenant, hkid, hset⟩ | ⟨_, _, _, _, token, q, time, rfl, -, hq, -, hset⟩
      · exact hmono (hsame ▸ hp)
      · rw [hset, Table.get?_set] at hp
        split at hp
        · cases hp
          exact ⟨Eq.symm ‹_›, _, ‹hash = _›.trans hhash, _, .head _, clock, random, input,
            a, rfl, hanswer, hstatus, rfl, htenant, hkid⟩
        · exact hmono hp
      · rw [hset, Table.get?_set] at hp
        split at hp
        · cases hp
          obtain ⟨hhash, hissued⟩ := hmono hq
          rename_i heq
          exact ⟨heq.symm, (heq.trans hhash) ▸ hissued⟩
        · exact hmono hp
    · exact hmono (hsame.devicePairings ▸ hp)

section injective

variable (hinj : Function.Injective P.hashSecret)

include hinj

variable {token : String}

/-- A token that is in the store was drawn before. -/
lemma token_ne_of_fresh (hrun : (relay P cfg).Run past) {p : DevicePairingRecord}
    (hp : ((relay P cfg).state past).devicePairings.get? (P.hashSecret token) = some p)
    (hfresh : FreshToken past random) : token ≠ DEVICE_TOKEN_PREFIX ++ random := by
  rintro rfl
  obtain ⟨-, token', htoken, e, he, clock, random', input, -, hcall, -, -, rfl, -⟩ :=
    run_tokensIssued hrun _ p hp
  have heq : random = random' := (String.append_right_inj _).mp (hinj htoken)
  exact hfresh e he clock input (heq ▸ hcall)

/-- A used token stays used. -/
lemma serve_usedDevicePairing (hrun : (relay P cfg).Run past) (hallowed : c.Allowed past) (hused : UsedDevicePairing P ((relay P cfg).state past) token) :
    UsedDevicePairing P ((relay P cfg).serve past c).after token := by
  obtain ⟨p, hp, hne⟩ := hused
  rcases (serve_effect P cfg past c).registry_cases with ⟨a, -, heffect⟩ | ⟨hsame, -⟩
  · rcases heffect.devicePairings with hsame | ⟨clock, random, input, q, rfl, -, hhash, -, -, hset⟩ |
      ⟨_, _, _, _, _, q, time, -, -, -, -, hset⟩
    · exact ⟨p, hsame ▸ hp, hne⟩
    · have hother : P.hashSecret token ≠ q.tokenHash := by
        rw [hhash]
        exact fun h => token_ne_of_fresh hinj hrun hp hallowed (hinj h)
      exact ⟨p, by rw [hset, Table.get?_set_of_ne _ hother, hp], hne⟩
    · by_cases hq : P.hashSecret token = q.tokenHash
      · refine ⟨{ q with usedAt := some time }, ?_, Option.some_ne_none time⟩
        rw [hset, hq, Table.get?_set_self]
      · exact ⟨p, by rw [hset, Table.get?_set_of_ne _ hq, hp], hne⟩
  · exact ⟨p, hsame.devicePairings ▸ hp, hne⟩

omit hinj in
/-- A call that redeems a device token finds it unused and marks it. -/
lemma serve_redeemsDevicePairing (hrun : (relay P cfg).Run past)
    (h : RedeemsDevicePairing ((relay P cfg).serve past c) token) :
    ¬ UsedDevicePairing P ((relay P cfg).state past) token ∧
      UsedDevicePairing P ((relay P cfg).serve past c).after token := by
  obtain ⟨clock, newId, random, input, r, rfl, htoken, hanswer, hstatus⟩ := h
  have heffect := serve_effect P cfg past (.redeemDevicePairing clock newId random input)
  rw [hanswer] at heffect
  rcases heffect.registry_cases with ⟨a, -, heffect⟩ | ⟨-, hrefused⟩
  · obtain ⟨q, time, hq, hunused, hset⟩ := heffect.presentedToken htoken
    constructor
    · rintro ⟨p, hp, hne⟩
      rw [hq] at hp
      cases hp
      exact hne hunused
    · refine ⟨{ q with usedAt := some time }, ?_, Option.some_ne_none time⟩
      rw [hset, (run_tokensIssued hrun _ q hq).1, Table.get?_set_self]
  · exact absurd (hrefused rfl r rfl) (not_le.mpr hstatus)

/-- A device token that was redeemed is used. -/
lemma used_of_redeemedDevice (hrun : (relay P cfg).Run past) (he : e ∈ past) (h : RedeemsDevicePairing e token) :
    UsedDevicePairing P ((relay P cfg).state past) token := by
  induction hrun with
  | start => cases he
  | serve run hallowed ih =>
    rcases List.mem_cons.mp he with rfl | he
    · exact (serve_redeemsDevicePairing run h).2
    · exact serve_usedDevicePairing hinj run hallowed (ih he)

end injective

/-! ## Enrolment -/

/-- The call enrolled the device, with the token. -/
def Enrols (e : Served Store Call (Option EngineResult)) (id token : String) : Prop :=
  ∃ clock random input r, e.call = .redeemDevicePairing clock id random input ∧
    asString (input.get? "token") = some token ∧ e.answer = some r ∧ r.status = 201 ∧
    e.before.devices.get? id = none ∧ e.after.devices.get? id ≠ none

/-- At some point of the run the device was enrolled, with a token that had been issued for the tenant
and the key id. -/
def EnrolledFor (past : History) (id tenant kid : String) : Prop :=
  ∃ later e earlier token, past = later ++ e :: earlier ∧ Enrols e id token ∧
    ∃ e₀ ∈ earlier, Issues e₀ token tenant kid

lemma EnrolledFor.cons {id tenant : String} (h : EnrolledFor past id tenant kid)
    (e : Served Store Call (Option EngineResult)) : EnrolledFor (e :: past) id tenant kid := by
  obtain ⟨later, e', earlier, token, rfl, henrols, hissued⟩ := h
  exact ⟨e :: later, e', earlier, token, rfl, henrols, hissued⟩

/-- The device that a write adds is the one that is written. -/
lemma eq_of_new {id : String} (hnew : s.devices.get? id = none)
    (hd : (s.putDevice d').devices.get? id = some d) : id = d'.id ∧ d = d' := by
  rw [Store.getDevice_putDevice] at hd
  split at hd
  · exact ⟨‹_›, (Option.some.inj hd).symm⟩
  · rw [hnew] at hd
    cases hd

/-- A new device of a tenant is enrolled with a token of that tenant and key id. -/
lemma RegistryEffect.enrols {r : EngineResult} (h : RegistryEffect P cfg s c r s')
    (hs : Registered s) (hc : c.Grounded s) {id t : String}
    (hnew : s.devices.get? id = none) (hd : s'.devices.get? id = some d) (ht : d.tenant = some t) :
    ∃ clock random input token p, c = .redeemDevicePairing clock id random input ∧
      asString (input.get? "token") = some token ∧ r.status = 201 ∧
      s.devicePairings.get? (P.hashSecret token) = some p ∧ p.tenant = t ∧ p.kid = d.kid := by
  cases h with
  | paired => cases hnew.symm.trans hd
  | redeemed => cases hnew.symm.trans hd
  | devicePaired => cases hnew.symm.trans hd
  | reminted _ known =>
    obtain ⟨hstored, -⟩ := hs.getDeviceByKid_eq_some known
    obtain ⟨rfl, -⟩ := eq_of_new hnew hd
    cases hnew.symm.trans hstored
  | enrolled presented _ id_eq kid_eq _ tenant_eq =>
    obtain ⟨rfl, rfl⟩ := eq_of_new hnew hd
    subst id_eq
    have htenant := Option.mem_unique tenant_eq ht
    exact ⟨_, _, _, _, _, rfl, presented.token_eq, rfl, presented.stored, htenant, kid_eq.symm⟩
  | registered _ _ untenanted =>
    obtain ⟨-, rfl⟩ := eq_of_new hnew hd
    cases untenanted.symm.trans ht
  | claimed stored =>
    obtain ⟨rfl, -⟩ := eq_of_new hnew hd
    rw [(hs.keyed _ _ stored).1] at hnew
    cases hnew.symm.trans stored
  | revoked current =>
    obtain ⟨old, hold, -⟩ := hc
    obtain ⟨rfl, -⟩ := eq_of_new hnew hd
    rw [hold] at current
    subst current
    rw [Option.getD_some, (hs.keyed _ _ hold).1] at hnew
    cases hnew.symm.trans hold

/-- A device of a tenant was enrolled with a token issued for that tenant and the device's key id. -/
lemma tenanted_enrolled (hinj : Function.Injective P.hashSecret) (hrun : (relay P cfg).Run past)
    {id t : String} (hd : ((relay P cfg).state past).devices.get? id = some d)
    (ht : d.tenant = some t) : EnrolledFor past id t d.kid := by
  induction hrun generalizing d with
  | start => cases hd
  | @serve past c run hallowed ih =>
    have hs := (run_registered run).1
    have hc := run_grounded run hallowed
    have heffect := serve_effect P cfg past c
    cases hbefore : ((relay P cfg).state past).devices.get? id with
    | some old =>
      obtain ⟨d', hd', hcontinues⟩ := (heffect.registered hs hc).2.devices id old hbefore
      obtain rfl := Option.mem_unique hd hd'
      rw [hcontinues.kid_eq]
      exact (ih hbefore (hcontinues.tenant_eq ▸ ht)).cons _
    | none =>
      rcases heffect.registry_cases with ⟨r, hr, heffect⟩ | ⟨hsame, -⟩
      · obtain ⟨clock, random, input, token, p, rfl, htoken, hstatus, hp, rfl, hkid⟩ :=
          heffect.enrols hs hc hbefore hd ht
        obtain ⟨-, token', htoken', hissued⟩ := run_tokensIssued run _ p hp
        obtain rfl := hinj htoken'
        refine ⟨[], _, past, token, rfl, ⟨clock, random, input, r, rfl, htoken, hr, hstatus, hbefore,
          ?_⟩, hkid ▸ hissued⟩
        exact Option.ne_none_iff_exists'.mpr ⟨d, hd⟩
      · have hd : ((relay P cfg).serve past c).after.devices.get? id = some d := hd
        rw [hsame.devices, hbefore] at hd
        cases hd

/-! ## The registry in every run -/

/-- What holds of a run of the relay and the store it leads to. -/
structure RegistrySound (M : Service Store Call (Option EngineResult)) (past : History) : Prop where
  /-- No two devices share a key id. -/
  kid_unique : ∀ id id' d d', (M.state past).devices.get? id = some d →
    (M.state past).devices.get? id' = some d' → d.kid = d'.kid → id = id'
  /-- From any point of the run on, a device keeps its key id and tenant, and its agent and the time
  of its revocation once it has them. -/
  written_once : ∀ later earlier id d, past = later ++ earlier →
    (M.state earlier).devices.get? id = some d → ∃ d', (M.state past).devices.get? id = some d' ∧
      d'.kid = d.kid ∧ d'.tenant = d.tenant ∧ (∀ a, d.agentId = some a → d'.agentId = some a) ∧
      ∀ t, d.revokedAt = some t → d'.revokedAt = some t
  /-- A device with a tenant is bound only to an agent of that tenant. -/
  bound_in_tenant : ∀ id d t a, (M.state past).devices.get? id = some d → d.tenant = some t →
    d.agentId = some a → ∃ agent, (M.state past).agents.get? a = some agent ∧ agent.tenant = some t
  /-- No two calls redeem one agent token. -/
  pairing_once : past.Pairwise fun e e' =>
    ∀ token, RedeemsPairing e token → ¬ RedeemsPairing e' token
  /-- No two calls redeem one device token. -/
  device_pairing_once : past.Pairwise fun e e' =>
    ∀ token, RedeemsDevicePairing e token → ¬ RedeemsDevicePairing e' token
  /-- A device with a tenant was enrolled by a token issued for exactly its tenant and key id. -/
  enrolled_by_issued : ∀ id d t, (M.state past).devices.get? id = some d → d.tenant = some t →
    EnrolledFor past id t d.kid

theorem registry_sound (P : RelayPlatform) (cfg : RelayConfig)
    (hinj : Function.Injective P.hashSecret) (past : History) (hrun : (relay P cfg).Run past) :
    RegistrySound (relay P cfg) past where
  kid_unique _ _ _ _ hd hd' hkid := (run_registered hrun).1.kid_unique hd hd' hkid
  written_once later earlier id d hsplit hd := by
    have hpasses : Served.Passes {} past ((relay P cfg).state earlier) := ⟨later, earlier, hsplit, rfl⟩
    obtain ⟨d', hd', hcontinues⟩ := ((run_registered hrun).2 _ hpasses).devices id d hd
    exact ⟨d', hd', hcontinues.kid_eq, hcontinues.tenant_eq, hcontinues.agentId, hcontinues.revokedAt⟩
  bound_in_tenant id d t a hd := (run_registered hrun).1.inTenant id d hd t a
  pairing_once := by
    refine hrun.pairwise fun past c run _ e he token h h' => ?_
    exact (serve_redeemsPairing run h).1 (used_of_redeemed run he h')
  device_pairing_once := by
    refine hrun.pairwise fun past c run _ e he token h h' => ?_
    exact (serve_redeemsDevicePairing run h).1 (used_of_redeemedDevice hinj run he h')
  enrolled_by_issued _ _ _ hd ht := tenanted_enrolled hinj hrun hd ht

/-! ## A sample run -/

namespace SampleRelay

/-- A platform that takes a secret for its own hash, and every signature. -/
def platform : RelayPlatform :=
  { Intrinsics.ofTables [] [] [] with
    hashSecret := id
    verifyReceiptSignature := fun _ _ => true
    isStrictEd25519PublicKeyHex := fun _ => true
    toISOString := fun time => toString time }

lemma platform_injective : Function.Injective platform.sha256Hex :=
  show Function.Injective (tableDigest []) from tableDigest_injective (by simp) (by simp)

def config : RelayConfig where
  defaultTtlMs := 900000
  minTtlMs := 60000
  maxTtlMs := 3600000
  maxPendingPerAgent := 25
  pairingTokenTtlMs := 600000
  deviceTokenTtlMs := 600000

def agent : AgentRecord where
  id := "agent-1"
  name := "bookkeeper"
  apiKeyHash := "noa_agent_key"
  ownerDevice := none
  tenant := some "acme"
  createdAt := 0

def device : DeviceRecord where
  id := "device-1"
  kid := "phone-1"
  publicKeyHex := "00112233445566778899aabbccddeeff00112233445566778899aabbccddeeff"
  custodyTier := "software-native"
  tenant := some "acme"
  deviceSecretHash := "noa_device_secret"
  agentId := some "agent-1"
  revokedAt := none
  createdAt := 0

/-- A phone and an agent of one tenant are enrolled, and the agent claims the phone. -/
def enrolment : List Call :=
  [.claimDevice agent "device-1",
    .redeemPairing (fun _ => 0) "agent-1" "key"
      (.obj [("token", .str "noa_pair_a"), ("name", .str "bookkeeper")]),
    .createPairing (fun _ => 0) "a" (.obj [("tenant", .str "acme")]),
    .redeemDevicePairing (fun _ => 0) "device-1" "secret"
      (.obj [("token", .str "noa_devpair_b"), ("kid", .str "phone-1"),
        ("publicKeyHex", .str device.publicKeyHex)]),
    .createDevicePairing (fun _ => 0) "b" (.obj [("tenant", .str "acme"), ("kid", .str "phone-1")])]

abbrev enrolled : History := (relay platform config).play enrolment

lemma enrolled_agents : (Served.final {} enrolled).agents.get? "agent-1" = some agent := by
  decide

lemma enrolled_devices : (Served.final {} enrolled).devices.get? "device-1" = some device := by
  decide

lemma playable_enrolment : (relay platform config).Playable enrolment := by
  refine ⟨⟨_, ⟨[], _, rfl, rfl⟩, ?_⟩, ⟨?_, ?_⟩, ⟨?_, ?_⟩, ⟨?_, ?_⟩, ?_, trivial⟩
  · decide
  · decide
  · decide
  · decide
  · decide
  · decide
  · decide
  · exact fun e he => by cases he

end SampleRelay

theorem registry_sound_enrolled :
    (Served.final {} SampleRelay.enrolled).devices.get? "device-1" = some SampleRelay.device ∧
      RegistrySound (relay SampleRelay.platform SampleRelay.config) SampleRelay.enrolled :=
  ⟨SampleRelay.enrolled_devices, registry_sound SampleRelay.platform SampleRelay.config
    (fun _ _ h => h) SampleRelay.enrolled (Service.run_play SampleRelay.playable_enrolment)⟩

end Relay

end NoaMandate
