import NoaMandate.Lib.Service
import NoaMandate.Relay.Engine

/-!
# Calls on the relay

The relay serves calls one after another on one store.  A call carries what the engine is given: the
readings of the clock, the random texts, the request and, for an authenticated route, the record of
the caller.  The server looks the caller up before it has read the body, so the record may be the
store's at an earlier point of the run (`KnownAgent`, `KnownDevice`).

What a call can do to the store is said once (`exec_effect`): it enrols or binds a device, opens,
closes or decides holds, or leaves devices, tokens and holds alone.  The results about runs of the
relay are derived from that.
-/

namespace NoaMandate

namespace Relay

open Pipeline

/-- A call of the engine. A wait that times out reads the hold once more, which is a call of
`getHold`. -/
inductive Call where
  | createPairing (clock : Nat → Int) (random : String) (input : Json)
  | redeemPairing (clock : Nat → Int) (newId random : String) (input : Json)
  | createDevicePairing (clock : Nat → Int) (random : String) (input : Json)
  | redeemDevicePairing (clock : Nat → Int) (newId random : String) (input : Json)
  | registerDevice (clock : Nat → Int) (newId random : String) (input : Json)
  | claimDevice (agent : AgentRecord) (deviceId : String)
  | registerPush (clock : Nat → Int) (deviceId : String) (input : Json)
  | revokeSelf (clock : Nat → Int) (device : DeviceRecord)
  | createHold (clock : Nat → Int) (newId : String) (agent : AgentRecord)
      (idempotencyKey : Option String) (input : Json)
  | getHold (clock : Nat → Int) (agent : AgentRecord) (id : String)
  | wait (clock : Nat → Int) (agent : AgentRecord) (id : String)
  | getDisplay (device : DeviceRecord) (id : String)
  | getHoldContext (device : DeviceRecord) (id : String)
  | listPending (clock : Nat → Int) (device : DeviceRecord)
  | decide (clock : Nat → Int) (device : DeviceRecord) (holdId : String) (input : Json)
  | sweepExpired (clock : Nat → Int)
  | putManifest (clock : Nat → Int) (agent : AgentRecord) (input : Json)
  | getManifest (tenant : String)
  | getTrust (tenant : String)

/-- An operation that always answers. -/
def answering (x : EngineResult × Store) : Option EngineResult × Store := (some x.1, x.2)

def exec (P : RelayPlatform) (cfg : RelayConfig) : Call → Store → Option EngineResult × Store
  | .createPairing clock random input, s => answering (createPairing P cfg clock random input s)
  | .redeemPairing clock newId random input, s =>
    answering (redeemPairing P clock newId random input s)
  | .createDevicePairing clock random input, s =>
    answering (createDevicePairing P cfg clock random input s)
  | .redeemDevicePairing clock newId random input, s =>
    answering (redeemDevicePairing P clock newId random input s)
  | .registerDevice clock newId random input, s =>
    answering (registerDevice P clock newId random input s)
  | .claimDevice agent deviceId, s => answering (claimDevice agent deviceId s)
  | .registerPush clock deviceId input, s => answering (registerPush clock deviceId input s)
  | .revokeSelf clock device, s => answering (revokeSelf clock device s)
  | .createHold clock newId agent idempotencyKey input, s =>
    answering (createHold P cfg clock newId agent idempotencyKey input s)
  | .getHold clock agent id, s => answering (getHold P clock agent id s)
  | .wait clock agent id, s => wait P clock agent id s
  | .getDisplay device id, s => (some (getDisplay device id s), s)
  | .getHoldContext device id, s => (some (getHoldContext device id s), s)
  | .listPending clock device, s => (some (listPending P clock device s), s)
  | .decide clock device holdId input, s => answering (decide P clock device holdId input s)
  | .sweepExpired clock, s => (none, (sweepExpired clock s).2)
  | .putManifest clock agent input, s => answering (putManifest P clock agent input s)
  | .getManifest tenant, s => (some (getManifest tenant s), s)
  | .getTrust tenant, s => (some (getTrust tenant s), s)

/-! ## Runs -/

/-- What the relay has served, the latest first. -/
abbrev History := List (Served Store Call (Option EngineResult))

/-- The agent's record is or was in the store. -/
def KnownAgent (past : History) (agent : AgentRecord) : Prop :=
  ∃ s, Served.Passes {} past s ∧ s.agents.get? agent.id = some agent

/-- The device's record is or was in the store. -/
def KnownDevice (past : History) (device : DeviceRecord) : Prop :=
  ∃ s, Served.Passes {} past s ∧ s.devices.get? device.id = some device

/-- The id is not empty and names no entry of the table. -/
def FreshIn {ν : Type} (t : Table String ν) (id : String) : Prop := id ≠ "" ∧ t.get? id = none

/-- No earlier call issued a device token from the same random text. -/
def FreshToken (past : History) (random : String) : Prop :=
  ∀ e ∈ past, ∀ clock input, e.call ≠ .createDevicePairing clock random input

/-- Callers are known, and generated ids and tokens are fresh. -/
def Call.Allowed (past : History) : Call → Prop
  | .createPairing _ random _ => FreshIn (Served.final {} past).pairings ("noa_pair_" ++ random)
  | .redeemPairing _ newId _ _ => FreshIn (Served.final {} past).agents newId
  | .createDevicePairing _ random _ => FreshToken past random
  | .redeemDevicePairing _ newId _ _ => FreshIn (Served.final {} past).devices newId
  | .registerDevice _ newId _ _ => FreshIn (Served.final {} past).devices newId
  | .claimDevice agent _ => KnownAgent past agent
  | .revokeSelf _ device => KnownDevice past device
  | .createHold _ newId agent _ _ => FreshIn (Served.final {} past).holds newId ∧ KnownAgent past agent
  | .getHold _ agent _ => KnownAgent past agent
  | .wait _ agent _ => KnownAgent past agent
  | .getDisplay device _ => KnownDevice past device
  | .getHoldContext device _ => KnownDevice past device
  | .listPending _ device => KnownDevice past device
  | .decide _ device _ _ => KnownDevice past device
  | .putManifest _ agent _ => KnownAgent past agent
  | _ => True

/-- The relay over the in-memory store, which starts empty. -/
def relay (P : RelayPlatform) (cfg : RelayConfig) : Service Store Call (Option EngineResult) where
  init := {}
  exec := exec P cfg
  allowed := Call.Allowed

/-! ## What a call can do -/

/-- A device token that a request presents with its key, and that the store takes as unused. -/
structure Presented (P : RelayPlatform) (s : Store) (input : Json) (token : String)
    (p : DevicePairingRecord) (publicKeyHex custodyTier : String) : Prop where
  token_eq : asString (input.get? "token") = some token
  kid_eq : asString (input.get? "kid") = some p.kid
  publicKey_eq : asString (input.get? "publicKeyHex") = some publicKeyHex
  custodyTier_eq : (asString (input.get? "custodyTier")).getD "software-native" = custodyTier
  stored : s.devicePairings.get? (P.hashSecret token) = some p
  unused : p.usedAt = none

/-- What the calls on agents, devices and tokens write. -/
inductive RegistryEffect (P : RelayPlatform) (cfg : RelayConfig) (s : Store) :
    Call → EngineResult → Store → Prop
  | paired {clock : Nat → Int} {random : String} {input : Json} {p : PairingRecord} {r : EngineResult}
      (token : p.token = "noa_pair_" ++ random) (unused : p.usedAt = none) :
      RegistryEffect P cfg s (.createPairing clock random input) r (s.putPairing p)
  | redeemed {clock : Nat → Int} {newId random : String} {input : Json} {token : String}
      {p : PairingRecord} {agent : AgentRecord} {r : EngineResult}
      (presented : asString (input.get? "token") = some token)
      (stored : s.pairings.get? token = some p) (unused : p.usedAt = none)
      (id_eq : agent.id = newId) (tenant_eq : agent.tenant = p.tenant) :
      RegistryEffect P cfg s (.redeemPairing clock newId random input) r
        ((s.putAgent agent).putPairing { p with usedAt := some (clock 2) })
  | devicePaired {clock : Nat → Int} {random : String} {input : Json} {p : DevicePairingRecord}
      {expiresAt : String}
      (tokenHash : p.tokenHash = P.hashSecret (DEVICE_TOKEN_PREFIX ++ random))
      (tenant : asString (input.get? "tenant") = some p.tenant)
      (kid : asString (input.get? "kid") = some p.kid) (unused : p.usedAt = none) :
      RegistryEffect P cfg s (.createDevicePairing clock random input)
        ⟨201, .obj [("token", .str (DEVICE_TOKEN_PREFIX ++ random)), ("expiresAt", .str expiresAt)]⟩
        (s.putDevicePairing p)
  | reminted {clock : Nat → Int} {newId random : String} {input : Json}
      {token publicKeyHex custodyTier secret : String} {p : DevicePairingRecord} {d : DeviceRecord}
      (presented : Presented P s input token p publicKeyHex custodyTier)
      (known : s.getDeviceByKid p.kid = some d) (tenant : d.tenant = some p.tenant)
      (active : d.revokedAt = none) :
      RegistryEffect P cfg s (.redeemDevicePairing clock newId random input)
        (enrolled 200 d.id secret true)
        ((s.putDevice { d with
          publicKeyHex, custodyTier, deviceSecretHash := P.hashSecret secret }).putDevicePairing
            { p with usedAt := some (clock 1) })
  | enrolled {clock : Nat → Int} {newId random : String} {input : Json}
      {token publicKeyHex custodyTier secret : String} {p : DevicePairingRecord} {d : DeviceRecord}
      (presented : Presented P s input token p publicKeyHex custodyTier)
      (unknown : s.getDeviceByKid p.kid = none) (id_eq : d.id = newId) (kid_eq : d.kid = p.kid)
      (key_eq : d.publicKeyHex = publicKeyHex) (tenant_eq : d.tenant = some p.tenant)
      (unclaimed : d.agentId = none) (active : d.revokedAt = none) :
      RegistryEffect P cfg s (.redeemDevicePairing clock newId random input)
        (enrolled 201 newId secret false)
        ((s.putDevice d).putDevicePairing { p with usedAt := some (clock 2) })
  | registered {clock : Nat → Int} {newId random : String} {input : Json} {d : DeviceRecord}
      {r : EngineResult} (unknown : s.getDeviceByKid d.kid = none) (id_eq : d.id = newId)
      (untenanted : d.tenant = none) (unclaimed : d.agentId = none) (active : d.revokedAt = none) :
      RegistryEffect P cfg s (.registerDevice clock newId random input) r (s.putDevice d)
  | claimed {agent : AgentRecord} {deviceId : String} {d : DeviceRecord} {r : EngineResult}
      (stored : s.devices.get? deviceId = some d) (unclaimed : d.agentId = none)
      (inTenant : ∀ t, d.tenant = some t → agent.tenant = some t) :
      RegistryEffect P cfg s (.claimDevice agent deviceId) r
        (s.putDevice { d with agentId := some agent.id })
  | revoked {clock : Nat → Int} {device d : DeviceRecord} {r : EngineResult}
      (current : (s.devices.get? device.id).getD device = d) (active : d.revokedAt = none) :
      RegistryEffect P cfg s (.revokeSelf clock device) r
        (s.putDevice { d with revokedAt := some (clock 0) })

/-- The holds a call looks at to see whether they have run out, with the readings of the clock it
does so with. -/
def Call.expiring : Call → Store → List (HoldRecord × Int × Int)
  | .getHold clock agent id, s =>
    ((s.getHold id).filter (ownsHold agent)).toList.map (·, clock 0, clock 1)
  | .wait clock agent id, s =>
    ((s.getHold id).filter (ownsHold agent)).toList.map (·, clock 0, clock 1)
  | .decide clock device id _, s =>
    ((s.getHold id).filter (deviceOwnsHold device)).toList.map (·, clock 0, clock 1)
  | .sweepExpired clock, s => pendingReadings clock s
  | _, _ => []

/-- What the calls on holds write. -/
inductive HoldEffect (P : RelayPlatform) (cfg : RelayConfig) (s : Store) : Call → Store → Prop
  | opened {clock : Nat → Int} {newId : String} {agent : AgentRecord}
      {idempotencyKey : Option String} {input : Json} {hold : HoldRecord}
      (checked : checkHold P cfg (clock 0) newId agent idempotencyKey input s = .ok hold) :
      HoldEffect P cfg s (.createHold clock newId agent idempotencyKey input) (s.putHold hold)
  | expired {c : Call} : HoldEffect P cfg s c (expireAll (c.expiring s) 0 s).2
  | decided {clock : Nat → Int} {device : DeviceRecord} {holdId : String} {input receipt : Json}
      {hold : HoldRecord} {artifact : Option Json} {verdict : PhoneVerdict}
      (stored : s.holds.get? holdId = some hold) (owned : device.agentId = some hold.agentId)
      (pending : hold.status = .PENDING) (inTime : clock 0 < hold.expiresAt)
      (checked : checkDecision P device hold input s = .ok (receipt, verdict)) :
      HoldEffect P cfg s (.decide clock device holdId input)
        (s.putHold (hold.decided receipt artifact verdict (clock 2)))

/-- The call redeems a token. -/
def Call.redeems : Call → Bool
  | .redeemPairing .. | .redeemDevicePairing .. => true
  | _ => false

/-- What a call answers and leaves. Subscriptions and manifests are not looked at here; a token is
redeemed only by an effect on the registry. -/
inductive Effect (P : RelayPlatform) (cfg : RelayConfig) (s : Store) :
    Call → Option EngineResult → Store → Prop
  | registry {c : Call} {r : EngineResult} {s' : Store} (effect : RegistryEffect P cfg s c r s') :
      Effect P cfg s c (some r) s'
  | hold {c : Call} {r : Option EngineResult} {s' : Store} (unredeemed : c.redeems = false)
      (effect : HoldEffect P cfg s c s') : Effect P cfg s c r s'
  | other {c : Call} {r : Option EngineResult} {push : Table String PushSubscriptionRecord}
      {manifests : Table String KeyManifestRecord}
      (unredeemed : c.redeems = true → ∀ a, r = some a → 400 ≤ a.status) :
      Effect P cfg s c r { s with push, manifests }

section effects

variable {P : RelayPlatform} {cfg : RelayConfig} {s : Store}

lemma Effect.kept {c : Call} {r : Option EngineResult}
    (h : c.redeems = true → ∀ a, r = some a → 400 ≤ a.status) : Effect P cfg s c r s :=
  show Effect P cfg s c r { s with push := s.push, manifests := s.manifests } from .other h

lemma answered_cases (s : Store) (x : Except EngineResult (EngineResult × Store)) :
    (∃ r, x = .error r ∧ answered s x = (r, s)) ∨ ∃ y, x = .ok y ∧ answered s x = y := by
  cases x with
  | error r => exact .inl ⟨r, rfl, rfl⟩
  | ok y => exact .inr ⟨y, rfl, rfl⟩

/-- A call that redeems nothing keeps the store when it is refused. -/
lemma Effect.answered {c : Call} {x : Except EngineResult (EngineResult × Store)}
    (hc : c.redeems = false) (h : ∀ y, x = .ok y → Effect P cfg s c (some y.1) y.2) :
    Effect P cfg s c (some (answered s x).1) (answered s x).2 := by
  cases x with
  | error r => exact Effect.kept fun hr => by rw [hc] at hr; cases hr
  | ok y => exact h y rfl

/-! ### Agents and devices -/

lemma createPairing_effect (clock : Nat → Int) (random : String) (input : Json) :
    Effect P cfg s (.createPairing clock random input)
      (some (createPairing P cfg clock random input s).1)
      (createPairing P cfg clock random input s).2 :=
  .registry (.paired rfl rfl)

lemma redeemPairing_effect (clock : Nat → Int) (newId random : String) (input : Json) :
    Effect P cfg s (.redeemPairing clock newId random input)
      (some (redeemPairing P clock newId random input s).1)
      (redeemPairing P clock newId random input s).2 := by
  unfold redeemPairing
  rcases answered_cases s _ with ⟨r, hr, heq⟩ | ⟨y, hy, heq⟩
  · rw [heq]
    refine Effect.kept fun _ a ha => ?_
    cases ha
    exact ErrorsIn.bind (P := fun r : EngineResult => 400 ≤ r.status)
      (.refuses rfl) (fun _ => .demanding rfl fun _ =>
      .demanding rfl fun _ => .demanding rfl fun _ =>
      .refusing rfl <| .bind (.refuses rfl) fun _ => .ok) r hr
  · rw [heq]
    simp only [ok_iff] at hy
    obtain ⟨-, -, token, htoken, name, -, p, hp, -, hunused, -, -, rfl⟩ := hy
    exact .registry (.redeemed htoken hp (by simpa using hunused) rfl rfl)

lemma createDevicePairing_effect (clock : Nat → Int) (random : String) (input : Json) :
    Effect P cfg s (.createDevicePairing clock random input)
      (some (createDevicePairing P cfg clock random input s).1)
      (createDevicePairing P cfg clock random input s).2 := by
  unfold createDevicePairing
  refine .answered rfl fun y hy => ?_
  simp only [ok_iff] at hy
  obtain ⟨-, -, tenant, htenant, kid, hkid, rfl⟩ := hy
  exact .registry (.devicePaired rfl htenant hkid rfl)

variable {now : Int}

lemma checkDeviceToken_eq_ok {token kid : String} {p : DevicePairingRecord}
    (h : checkDeviceToken P now token kid s = .ok p) :
    s.devicePairings.get? (P.hashSecret token) = some p ∧ p.usedAt = none ∧ p.kid = kid := by
  simp only [checkDeviceToken, ok_iff] at h
  obtain ⟨-, -, record, hrecord, -, hunused, -, -, -, hkid, rfl⟩ := h
  exact ⟨hrecord, by simpa using hunused, by simpa using hkid⟩

lemma checkDeviceToken_errors {token kid : String} :
    ErrorsIn (fun r : EngineResult => 400 ≤ r.status) (checkDeviceToken P now token kid s) :=
  .refusing rfl <|
  .demanding rfl fun _ =>
  .refusing rfl <|
  .refusing rfl <|
  .refusing rfl .ok

/-- What a device token is redeemed on: the request is complete, its key is well formed, and the relay
takes its token for its key id. -/
structure TokenAccepted (P : RelayPlatform) (s : Store) (now : Int) (input : Json) (token : String)
    (p : DevicePairingRecord) (publicKeyHex : String) : Prop where
  isObj : input.isObj = true
  token_eq : asString (input.get? "token") = some token
  kid_eq : asString (input.get? "kid") = some p.kid
  publicKey_eq : asString (input.get? "publicKeyHex") = some publicKeyHex
  wellFormed : checkPublicKey P publicKeyHex = .ok ()
  checked : checkDeviceToken P now token p.kid s = .ok p

lemma TokenAccepted.presented {input : Json} {token publicKeyHex : String}
    {p : DevicePairingRecord} (h : TokenAccepted P s now input token p publicKeyHex) :
    Presented P s input token p publicKeyHex
      ((asString (input.get? "custodyTier")).getD "software-native") := by
  obtain ⟨hstored, hunused, -⟩ := checkDeviceToken_eq_ok h.checked
  exact ⟨h.token_eq, h.kid_eq, h.publicKey_eq, rfl, hstored, hunused⟩

/-- A redemption is refused, re-mints the device of the key id, or enrols one. -/
lemma redeemDevicePairing_cases (clock : Nat → Int) (newId random : String) (input : Json) :
    (400 ≤ (redeemDevicePairing P clock newId random input s).1.status ∧
        (redeemDevicePairing P clock newId random input s).2 = s) ∨
      ∃ token p publicKeyHex, TokenAccepted P s (clock 0) input token p publicKeyHex ∧
        ((∃ d, s.getDeviceByKid p.kid = some d ∧ d.tenant = some p.tenant ∧ d.revokedAt = none ∧
            redeemDevicePairing P clock newId random input s =
              (enrolled 200 d.id ("noa_device_" ++ random) true,
                (s.putDevice { d with
                  publicKeyHex
                  custodyTier := (asString (input.get? "custodyTier")).getD "software-native"
                  deviceSecretHash := P.hashSecret ("noa_device_" ++ random) }).putDevicePairing
                    { p with usedAt := some (clock 1) })) ∨
          (s.getDeviceByKid p.kid = none ∧
            redeemDevicePairing P clock newId random input s =
              (enrolled 201 newId ("noa_device_" ++ random) false,
                (s.putDevice
                  { id := newId, kid := p.kid, publicKeyHex
                    custodyTier := (asString (input.get? "custodyTier")).getD "software-native"
                    tenant := some p.tenant
                    deviceSecretHash := P.hashSecret ("noa_device_" ++ random)
                    agentId := none
                    revokedAt := none
                    createdAt := clock 1 }).putDevicePairing
                      { p with usedAt := some (clock 2) }))) := by
  unfold redeemDevicePairing
  rcases answered_cases s _ with ⟨r, hr, heq⟩ | ⟨y, hy, heq⟩
  · refine .inl ?_
    rw [heq]
    refine ⟨ErrorsIn.bind (P := fun r : EngineResult => 400 ≤ r.status)
      (.refuses rfl) (fun _ => .demanding rfl fun _ =>
      .demanding rfl fun _ => .demanding rfl fun _ =>
      .refusing rfl <| .bind checkDeviceToken_errors fun _ => ?_) r hr, rfl⟩
    split
    · exact .refusing rfl <|
        .refusing rfl .ok
    · exact .ok
  · refine .inr ?_
    rw [heq]
    simp only [ok_iff] at hy
    obtain ⟨-, hobj, token, htoken, kid, hkid, key, hkey, _, hformed, p, hp, hy⟩ := hy
    obtain ⟨-, -, rfl⟩ := checkDeviceToken_eq_ok hp
    refine ⟨token, p, key, ⟨by simpa using hobj, htoken, hkid, hkey, hformed, hp⟩, ?_⟩
    cases hdevice : s.getDeviceByKid p.kid with
    | some d =>
      simp only [hdevice, ok_iff] at hy
      obtain ⟨-, htenant, -, hactive, rfl⟩ := hy
      exact .inl ⟨d, rfl, by simpa using htenant, by simpa using hactive, rfl⟩
    | none =>
      simp only [hdevice, pure_eq_ok_iff] at hy
      subst hy
      exact .inr ⟨rfl, rfl⟩

lemma redeemDevicePairing_effect (clock : Nat → Int) (newId random : String) (input : Json) :
    Effect P cfg s (.redeemDevicePairing clock newId random input)
      (some (redeemDevicePairing P clock newId random input s).1)
      (redeemDevicePairing P clock newId random input s).2 := by
  rcases redeemDevicePairing_cases clock newId random input with
    ⟨hrefused, hkept⟩ | ⟨token, p, key, haccepted, ⟨d, hd, htenant, hactive, heq⟩ | ⟨hd, heq⟩⟩
  · rw [hkept]
    refine Effect.kept fun _ a ha => ?_
    cases ha
    exact hrefused
  · rw [heq]
    exact .registry (.reminted haccepted.presented hd htenant hactive)
  · rw [heq]
    exact .registry (.enrolled haccepted.presented hd rfl rfl rfl rfl rfl rfl)

lemma registerDevice_effect (clock : Nat → Int) (newId random : String) (input : Json) :
    Effect P cfg s (.registerDevice clock newId random input)
      (some (registerDevice P clock newId random input s).1)
      (registerDevice P clock newId random input s).2 := by
  unfold registerDevice
  refine .answered rfl fun y hy => ?_
  simp only [ok_iff] at hy
  obtain ⟨-, -, kid, hkid, key, hkey, -, -, -, hunknown, rfl⟩ := hy
  exact .registry (.registered (by simpa using hunknown) rfl rfl rfl rfl)

lemma claimDevice_effect (agent : AgentRecord) (deviceId : String) :
    Effect P cfg s (.claimDevice agent deviceId) (some (claimDevice agent deviceId s).1)
      (claimDevice agent deviceId s).2 := by
  unfold claimDevice
  refine .answered rfl fun y hy => ?_
  simp only [ok_iff, Option.filter_eq_some_iff] at hy
  obtain ⟨d, ⟨hd, howner⟩, -, -, -, htenant, hy⟩ := hy
  by_cases hclaimed : d.agentId = some agent.id
  · simp only [if_pos hclaimed, pure_eq_ok_iff] at hy
    subst hy
    exact Effect.kept fun h => by cases h
  · simp only [if_neg hclaimed, pure_eq_ok_iff] at hy
    subst hy
    have hfree : d.agentId = none := by simpa [hclaimed] using howner
    refine .registry (.claimed hd hfree fun t ht => ?_)
    have heq : some t = agent.tenant := by simpa [ht] using htenant
    exact heq.symm

lemma registerPush_effect (clock : Nat → Int) (deviceId : String) (input : Json) :
    Effect P cfg s (.registerPush clock deviceId input) (some (registerPush clock deviceId input s).1)
      (registerPush clock deviceId input s).2 := by
  unfold registerPush
  cases s.getDeviceById deviceId with
  | none => exact Effect.kept fun h => by cases h
  | some d => exact .other fun h => by cases h

lemma revokeSelf_effect (clock : Nat → Int) (device : DeviceRecord) :
    Effect P cfg s (.revokeSelf clock device) (some (revokeSelf clock device s).1)
      (revokeSelf clock device s).2 := by
  unfold revokeSelf
  dsimp only
  by_cases h : ((s.getDeviceById device.id).getD device).revokedAt.isNone
  · rw [if_pos h]
    exact .registry (.revoked rfl (Option.isNone_iff_eq_none.mp h))
  · rw [if_neg h]
    exact Effect.kept fun h => by cases h

/-! ### Holds -/

lemma createHold_effect (clock : Nat → Int) (newId : String) (agent : AgentRecord)
    (idempotencyKey : Option String) (input : Json) :
    Effect P cfg s (.createHold clock newId agent idempotencyKey input)
      (some (createHold P cfg clock newId agent idempotencyKey input s).1)
      (createHold P cfg clock newId agent idempotencyKey input s).2 := by
  unfold createHold
  refine .answered rfl fun y hy => ?_
  simp only [ok_iff] at hy
  obtain ⟨hold, hchecked, rfl⟩ := hy
  exact .hold rfl (.opened hchecked)

/-- Reading one hold, if there is one to read. -/
lemma expired_effect {c : Call} {r : Option EngineResult} {o : Option HoldRecord} {time : Int}
    (hc : c.redeems = false) (hexpiring : c.expiring s = o.toList.map (·, now, time))
    {hold : HoldRecord} (ho : o = some hold) : Effect P cfg s c r (lazyExpire now time hold s).2 := by
  have h : (expireAll (c.expiring s) 0 s).2 = (lazyExpire now time hold s).2 := by
    rw [hexpiring, ho]
    rfl
  rw [← h]
  exact .hold hc .expired

lemma getHold_effect (clock : Nat → Int) (agent : AgentRecord) (id : String) :
    Effect P cfg s (.getHold clock agent id) (some (getHold P clock agent id s).1)
      (getHold P clock agent id s).2 := by
  unfold getHold
  cases hold : (s.getHold id).filter (ownsHold agent) with
  | none => exact Effect.kept fun h => by cases h
  | some hold => exact expired_effect rfl rfl ‹_›

lemma wait_effect (clock : Nat → Int) (agent : AgentRecord) (id : String) :
    Effect P cfg s (.wait clock agent id) (wait P clock agent id s).1 (wait P clock agent id s).2 := by
  unfold wait
  cases hold : (s.getHold id).filter (ownsHold agent) with
  | none => exact Effect.kept fun h => by cases h
  | some hold => exact expired_effect rfl rfl ‹_›

/-- A hold that is pending after the check had time left, and the check did nothing. -/
lemma lazyExpire_of_pending {time : Int} {hold : HoldRecord}
    (h : (lazyExpire now time hold s).1.status = .PENDING) :
    lazyExpire now time hold s = (hold, s) ∧ hold.status = .PENDING ∧ now < hold.expiresAt := by
  unfold lazyExpire at h ⊢
  by_cases hexpired : hold.status = .PENDING ∧ now ≥ hold.expiresAt
  · rw [if_pos hexpired] at h
    cases h
  · rw [if_neg hexpired] at h ⊢
    refine ⟨rfl, h, ?_⟩
    by_contra hnow
    exact hexpired ⟨h, not_lt.mp hnow⟩

lemma decide_effect (clock : Nat → Int) (device : DeviceRecord) (holdId : String) (input : Json) :
    Effect P cfg s (.decide clock device holdId input)
      (some (Relay.decide P clock device holdId input s).1)
      (Relay.decide P clock device holdId input s).2 := by
  unfold Relay.decide
  cases hhold : (s.getHold holdId).filter (deviceOwnsHold device) with
  | none => exact Effect.kept fun h => by cases h
  | some hold =>
    obtain ⟨hstored, howned⟩ := Option.filter_eq_some_iff.mp hhold
    dsimp only
    rcases answered_cases (lazyExpire (clock 0) (clock 1) hold s).2 _ with
      ⟨r, hr, heq⟩ | ⟨y, hy, heq⟩
    · rw [heq]
      exact expired_effect rfl rfl hhold
    · rw [heq]
      simp only [ok_iff] at hy
      obtain ⟨-, hpending, ⟨receipt, verdict⟩, hchecked, rfl⟩ := hy
      obtain ⟨hsame, hwas, htime⟩ := lazyExpire_of_pending (by simpa using hpending)
      rw [hsame] at hchecked ⊢
      exact .hold rfl (.decided hstored (by simpa [deviceOwnsHold] using howned) hwas htime
        hchecked)

/-! ### Manifests -/

lemma publish_eq_ok {record : KeyManifestRecord} {recovery : Bool} {s' : Store}
    (h : publish P record recovery s = .ok s') : ∃ manifests, s' = { s with manifests } := by
  simp only [publish, ok_iff] at h
  obtain ⟨-, -, h⟩ := h
  unfold Store.putManifest at h
  dsimp only at h
  split at h
  · cases h
    exact ⟨_, rfl⟩
  · split at h
    · cases h
      exact ⟨_, rfl⟩
    · cases h
      exact ⟨s.manifests, rfl⟩
    · cases h

lemma putManifest_effect (clock : Nat → Int) (agent : AgentRecord) (input : Json) :
    Effect P cfg s (.putManifest clock agent input) (some (putManifest P clock agent input s).1)
      (putManifest P clock agent input s).2 := by
  unfold putManifest
  refine .answered rfl fun y hy => ?_
  simp only [ok_iff] at hy
  obtain ⟨⟨record, recovery⟩, -, written, hwritten, rfl⟩ := hy
  obtain ⟨manifests, rfl⟩ := publish_eq_ok hwritten
  exact .other fun h => by cases h

/-- What a call can do. -/
lemma exec_effect (c : Call) : Effect P cfg s c (exec P cfg c s).1 (exec P cfg c s).2 := by
  cases c with
  | createPairing clock random input => exact createPairing_effect clock random input
  | redeemPairing clock newId random input => exact redeemPairing_effect clock newId random input
  | createDevicePairing clock random input => exact createDevicePairing_effect clock random input
  | redeemDevicePairing clock newId random input =>
    exact redeemDevicePairing_effect clock newId random input
  | registerDevice clock newId random input => exact registerDevice_effect clock newId random input
  | claimDevice agent deviceId => exact claimDevice_effect agent deviceId
  | registerPush clock deviceId input => exact registerPush_effect clock deviceId input
  | revokeSelf clock device => exact revokeSelf_effect clock device
  | createHold clock newId agent key input => exact createHold_effect clock newId agent key input
  | getHold clock agent id => exact getHold_effect clock agent id
  | wait clock agent id => exact wait_effect clock agent id
  | decide clock device holdId input => exact decide_effect clock device holdId input
  | sweepExpired clock => exact .hold rfl .expired
  | putManifest clock agent input => exact putManifest_effect clock agent input
  | getDisplay | getHoldContext | listPending | getManifest | getTrust =>
    exact Effect.kept fun h => by cases h

end effects

end Relay

end NoaMandate
