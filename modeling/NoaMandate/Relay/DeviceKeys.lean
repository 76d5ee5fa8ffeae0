import NoaMandate.Relay.Registry

/-!
# The key registered for a key id

A device pairing token names a key id.  `redeemDevicePairing` reads this as the key itself: its comment
says that a leaked token is worthless without the phone's private key.  The key id is only a name,
though, and the recovery path writes the key of the request over the one that is registered.

* `Store.registeredKey` — the public key that decisions under a key id are verified with.
* `KeysKept` — no call of the run replaced a registered key, and no token was redeemed for a registered
  key id by the holder of another key.
* `Call.KeepsKey` — the call does not re-mint a device with another key.
* `keysKept_iff` — a run keeps its keys exactly when each of its calls does not.

Every other way of writing a device leaves the key alone (`RegistryEffect.registeredKey`).
-/

namespace NoaMandate

namespace Relay

open Pipeline

/-- The public key registered for a key id. -/
def Store.registeredKey (s : Store) (kid : String) : Option String :=
  (s.getDeviceByKid kid).map (·.publicKeyHex)

/-- Registered keys stay, and a token is of no use to the holder of another key. -/
structure KeysKept (past : History) : Prop where
  kept : ∀ e ∈ past, ∀ kid key, e.before.registeredKey kid = some key →
    e.after.registeredKey kid = some key
  useless : ∀ e ∈ past, ∀ clock newId random input kid key,
    e.call = .redeemDevicePairing clock newId random input →
    asString (input.get? "kid") = some kid → e.before.registeredKey kid = some key →
    asString (input.get? "publicKeyHex") ≠ some key →
    ∃ r, e.answer = some r ∧ 400 ≤ r.status

/-- The request re-mints the device: its token is taken, and the device of its key id is one of the
token's tenant that was not revoked. -/
def Remints (P : RelayPlatform) (s : Store) (now : Int) (input : Json) (d : DeviceRecord)
    (publicKeyHex : String) : Prop :=
  ∃ token p, TokenAccepted P s now input token p publicKeyHex ∧ s.getDeviceByKid p.kid = some d ∧
    d.tenant = some p.tenant ∧ d.revokedAt = none

/-- A device is re-minted only with the key it has. -/
def Call.KeepsKey (P : RelayPlatform) (s : Store) : Call → Prop
  | .redeemDevicePairing clock _ _ input =>
    ∀ d publicKeyHex, Remints P s (clock 0) input d publicKeyHex → publicKeyHex = d.publicKeyHex
  | _ => True

variable {P : RelayPlatform} {cfg : RelayConfig} {s s' : Store} {c : Call}

variable {kid key : String} {d : DeviceRecord}

lemma registeredKey_eq_some (h : s.registeredKey kid = some key) :
    ∃ d, s.getDeviceByKid kid = some d ∧ d.publicKeyHex = key := by
  unfold Store.registeredKey at h
  exact Option.map_eq_some_iff.mp h

/-- Writing a device sets the key of its key id and no other. -/
lemma DeviceWrite.registeredKey (hs : Registered s) (hd : DeviceWrite s d)
    (hdevices : s'.devices = (s.putDevice d).devices)
    (hkids : s'.devicesByKid = (s.putDevice d).devicesByKid) (kid : String) :
    s'.registeredKey kid = if kid = d.kid then some d.publicKeyHex else s.registeredKey kid := by
  unfold Store.registeredKey Store.getDeviceByKid
  rw [hdevices, hkids, Store.kid_putDevice]
  by_cases hkid : kid = d.kid
  · rw [if_pos hkid, if_pos hkid, Option.filter_some, if_pos (by simpa using hd.id_ne hs),
      Option.bind_some, Store.getDevice_putDevice, if_pos rfl]
    rfl
  · rw [if_neg hkid, if_neg hkid]
    cases hindex : s.devicesByKid.get? kid with
    | none => rfl
    | some id =>
      obtain ⟨old, hold, hold_kid⟩ := hs.known kid id hindex
      have hid : id ≠ d.id := by
        rintro rfl
        exact hkid (hold_kid ▸ hd.kid_eq hold)
      rw [Option.filter_some]
      split
      · rw [Option.bind_some, Option.bind_some, Store.getDevice_putDevice, if_neg hid]
      · rfl

lemma SameRegistry.registeredKey (h : SameRegistry s s') (kid : String) :
    s'.registeredKey kid = s.registeredKey kid := by
  unfold Store.registeredKey Store.getDeviceByKid
  rw [h.devices, h.devicesByKid]

/-- The device that a key id is registered for. -/
lemma Registered.getDeviceByKid_kid (hs : Registered s) {id : String}
    (h : s.devices.get? id = some d) : s.getDeviceByKid d.kid = some d := by
  unfold Store.getDeviceByKid
  rw [hs.indexed id d h, Option.filter_some, if_pos (by simpa using (hs.keyed id d h).2),
    Option.bind_some, h]

/-- Writing a device that has the key of the one it replaces leaves every registered key. -/
lemma DeviceWrite.registeredKey_of_key_eq (hs : Registered s)
    (hd : DeviceWrite s d) (hdevices : s'.devices = (s.putDevice d).devices)
    (hkids : s'.devicesByKid = (s.putDevice d).devicesByKid)
    (hsame : ∀ old, s.devices.get? d.id = some old → d.publicKeyHex = old.publicKeyHex) (hkey : s.registeredKey kid = some key) : s'.registeredKey kid = some key := by
  rw [hd.registeredKey hs hdevices hkids]
  by_cases hkid : kid = d.kid
  · subst hkid
    rw [if_pos rfl]
    obtain ⟨old, hold, rfl⟩ := registeredKey_eq_some hkey
    rcases hd.prior with ⟨-, hnone⟩ | ⟨stored, hstored, hcontinues⟩
    · rw [Store.getDeviceByKid, hnone] at hold
      cases hold
    · have hdevice := hs.getDeviceByKid_kid hstored
      rw [← hcontinues.kid_eq, hold] at hdevice
      cases hdevice
      rw [hsame old hstored]
  · rw [if_neg hkid]
    exact hkey

/-- A call that redeems no device token leaves the registered keys. -/
lemma Effect.registeredKey {r : Option EngineResult} (h : Effect P cfg s c r s') (hs : Registered s)
    (hc : c.Grounded s)
    (hcall : ∀ clock newId random input, c ≠ .redeemDevicePairing clock newId random input) (hkey : s.registeredKey kid = some key) : s'.registeredKey kid = some key := by
  rcases h.registry_cases with ⟨a, -, heffect⟩ | ⟨hsame, -⟩
  · rcases heffect.device hs hc with ⟨hdevices, hkids⟩ | ⟨d, hd, hdevices, hkids, hsame⟩
    · rw [Store.registeredKey, Store.getDeviceByKid, hdevices, hkids]
      exact hkey
    · exact hd.registeredKey_of_key_eq hs hdevices hkids (hsame hcall) hkey
  · rw [hsame.registeredKey]
    exact hkey

section redeem

variable {clock : Nat → Int} {newId random : String} {input : Json} {d : DeviceRecord} {key : String}

/-- A request that re-mints is not refused. -/
lemma Remints.accepted (h : Remints P s (clock 0) input d key) :
    (redeemDevicePairing P clock newId random input s).1.status = 200 := by
  obtain ⟨token, p, haccepted, hd, htenant, hactive⟩ := h
  unfold redeemDevicePairing
  rw [haccepted.isObj, haccepted.token_eq, haccepted.kid_eq, haccepted.publicKey_eq]
  simp [refuse_false, ok_bind, haccepted.wellFormed, haccepted.checked, hd, htenant, hactive, demand,
    answered, enrolled]

lemma Remints.registered (hs : Registered s) {now : Int} (h : Remints P s now input d key) :
    s.registeredKey d.kid = some d.publicKeyHex := by
  obtain ⟨token, p, -, hd, -⟩ := h
  rw [(hs.getDeviceByKid_eq_some hd).2, Store.registeredKey, hd]
  rfl

/-- Re-minting registers the key of the request. -/
lemma Remints.registeredKey (hs : Registered s) (h : Remints P s (clock 0) input d key)
    (kid : String) : (redeemDevicePairing P clock newId random input s).2.registeredKey kid =
      if kid = d.kid then some key else s.registeredKey kid := by
  have haccepted : (redeemDevicePairing P clock newId random input s).1.status = 200 := h.accepted
  obtain ⟨token, p, hp, hd, -⟩ := h
  rcases redeemDevicePairing_cases clock newId random input with
    ⟨hrefused, -⟩ | ⟨token', p', key', hp', ⟨d', hd', -, -, heq⟩ | ⟨hnone, -⟩⟩
  · rw [haccepted] at hrefused
    exact absurd hrefused (by decide)
  · -- the request determines the key id, so the two readings of it are of one device
    cases hp.publicKey_eq.symm.trans hp'.publicKey_eq
    rw [Option.mem_unique hp.kid_eq hp'.kid_eq] at hd
    cases hd.symm.trans hd'
    rw [heq]
    have hstored := (hs.getDeviceByKid_eq_some hd).1
    have hwrite : DeviceWrite s { d with
        publicKeyHex := key
        custodyTier := (asString (input.get? "custodyTier")).getD "software-native"
        deviceSecretHash := P.hashSecret ("noa_device_" ++ random) } :=
      .update hs hstored ⟨rfl, rfl, rfl, fun _ h => h, fun _ h => h⟩ rfl
    exact hwrite.registeredKey hs rfl rfl kid
  · rw [← Option.mem_unique hp.kid_eq hp'.kid_eq, hd] at hnone
    cases hnone

/-- A request that re-mints nothing is refused where the key id is registered, and registers no other
key. -/
lemma redeemDevicePairing_registeredKey (hs : Registered s) (hid : FreshIn s.devices newId)
    (h : ∀ d key, ¬Remints P s (clock 0) input d key)
    (hkey : s.registeredKey kid = some key) :
    (redeemDevicePairing P clock newId random input s).2.registeredKey kid = some key ∧
      (asString (input.get? "kid") = some kid →
        400 ≤ (redeemDevicePairing P clock newId random input s).1.status) := by
  rcases redeemDevicePairing_cases clock newId random input with
    ⟨hrefused, hkept⟩ | ⟨token, p, key', hp, ⟨d, hd, htenant, hactive, -⟩ | ⟨hnone, heq⟩⟩
  · rw [hkept]
    exact ⟨hkey, fun _ => hrefused⟩
  · exact absurd ⟨token, p, hp, hd, htenant, hactive⟩ (h d key')
  · obtain ⟨old, hold, -⟩ := registeredKey_eq_some hkey
    have hne : kid ≠ p.kid := by
      rintro rfl
      rw [hnone] at hold
      cases hold
    rw [heq]
    refine ⟨?_, fun hkid => absurd (Option.mem_unique hkid hp.kid_eq) hne⟩
    have hwrite : DeviceWrite s
        { id := newId, kid := p.kid, publicKeyHex := key'
          custodyTier := (asString (input.get? "custodyTier")).getD "software-native"
          tenant := some p.tenant
          deviceSecretHash := P.hashSecret ("noa_device_" ++ random)
          agentId := none
          revokedAt := none
          createdAt := clock 1 } := .fresh hs hid hnone rfl
    exact (hwrite.registeredKey hs rfl rfl kid).trans ((if_neg hne).trans hkey)

end redeem

/-! ## Runs -/

variable {past : History}

/-- What is served after a run keeps the registered keys when it re-mints no device with another
key. -/
lemma Call.KeepsKey.kept (cfg : RelayConfig) (hs : Registered s) (hc : c.Grounded s) (h : c.KeepsKey P s) (hkey : s.registeredKey kid = some key) :
    (exec P cfg c s).2.registeredKey kid = some key := by
  cases c with
  | redeemDevicePairing clock newId random input =>
    show (Relay.redeemDevicePairing P clock newId random input s).2.registeredKey kid = some key
    by_cases hremints : ∃ d key, Remints P s (clock 0) input d key
    · obtain ⟨d, key', hremints⟩ := hremints
      rw [hremints.registeredKey hs]
      split
      · rename_i hkid
        rw [h d key' hremints, ← hremints.registered hs, ← hkid]
        exact hkey
      · exact hkey
    · exact (redeemDevicePairing_registeredKey hs hc
        (fun d key hremints' => hremints ⟨d, key, hremints'⟩) hkey).1
  | _ => exact (exec_effect _).registeredKey hs hc (by simp) hkey

/-- A call that keeps the registered keys re-mints no device with another key. -/
lemma Call.keepsKey_of_kept (P : RelayPlatform) (cfg : RelayConfig) (hs : Registered s)
    (h : ∀ kid key, s.registeredKey kid = some key →
      (exec P cfg c s).2.registeredKey kid = some key) : c.KeepsKey P s := by
  cases c with
  | redeemDevicePairing clock newId random input =>
    intro d key hremints
    have hkept : (Relay.redeemDevicePairing P clock newId random input s).2.registeredKey d.kid =
      some d.publicKeyHex := h _ _ (hremints.registered hs)
    rw [hremints.registeredKey hs, if_pos rfl] at hkept
    exact Option.some.inj hkept
  | _ => trivial

/-- A token is of no use to the holder of another key, when the call re-mints no device with another
key. -/
lemma Call.KeepsKey.refused (hs : Registered s) {clock : Nat → Int} {newId random : String}
    {input : Json} (hid : FreshIn s.devices newId)
    (h : (Call.redeemDevicePairing clock newId random input).KeepsKey P s)
    (hkid : asString (input.get? "kid") = some kid) (hkey : s.registeredKey kid = some key)
    (hother : asString (input.get? "publicKeyHex") ≠ some key) :
    400 ≤ (Relay.redeemDevicePairing P clock newId random input s).1.status := by
  refine (redeemDevicePairing_registeredKey hs hid (fun d key' hremints => hother ?_) hkey).2 hkid
  have hsame := h d key' hremints
  obtain ⟨token, p, hp, hd, -⟩ := hremints
  obtain ⟨old, hold, rfl⟩ := registeredKey_eq_some hkey
  rw [hp.publicKey_eq, hsame]
  rw [← Option.mem_unique hkid hp.kid_eq, hold] at hd
  cases hd
  rfl

namespace SampleRelay

/-- A key of someone else. -/
def otherKey : String := "ffeeddccbbaa99887766554433221100ffeeddccbbaa99887766554433221100"

/-- The operator issues a second token for the phone, and someone else redeems it. -/
def takeover : List Call :=
  .redeemDevicePairing (fun _ => 0) "device-2" "other"
      (.obj [("token", .str "noa_devpair_c"), ("kid", .str "phone-1"),
        ("publicKeyHex", .str otherKey)]) ::
    .createDevicePairing (fun _ => 0) "c" (.obj [("tenant", .str "acme"), ("kid", .str "phone-1")]) ::
    enrolment

abbrev takenOver : History := (relay platform config).play takeover

/-- The key id is registered with the phone's key before the last call and with the other one after. -/
lemma takenOver_keys :
    (takenOver.head?.map fun e => (e.before.registeredKey "phone-1", e.after.registeredKey "phone-1")) =
      some (some device.publicKeyHex, some otherKey) := by
  decide

lemma playable_takeover : (relay platform config).Playable takeover := by
  refine ⟨⟨by decide, by decide⟩, fun e he clock input hcall => ?_, playable_enrolment⟩
  have hmem := Service.call_of_mem_play he
  rw [hcall] at hmem
  simp [enrolment] at hmem

end SampleRelay

end Relay

end NoaMandate
