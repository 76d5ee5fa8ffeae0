import NoaMandate.Relay.Idempotency

/-!
# The file store

The relay over `file-store.ts`: the maps of the in-memory store, and a snapshot of them on disk that
every write replaces.  A write whose snapshot fails is undone in the maps and thrown to the caller.

The routes are those of the engine; what matters here is which writes a call makes, and in which order
(`writes`).  That the writes of a call are what it does to the store is `put_writes`.  Two routes make
two writes, and the sweep makes one for each hold it closes.  A stored hold that is closed or decided
is changed in place before it is written, so that undoing the write puts back the changed record
(`Write.staged`).

* `rollback_put` — undoing the write of a record of its own restores the maps, with their order.
* `load_snapshot` — the maps and their indexes are read back from a snapshot as they were.
* `failed_calls_leave_returned` — after a call that threw, the maps and the file are as if it had made
  the writes that returned and no other; of all routes only the two that redeem a token can have
  made one.
-/

namespace NoaMandate

namespace Relay

open Pipeline

variable {P : RelayPlatform} {cfg : RelayConfig} {s : Store} {c : Call}

/-! ## Writes -/

/-- A write to the store. -/
inductive Write where
  | agent (a : AgentRecord)
  | device (d : DeviceRecord)
  | push (p : PushSubscriptionRecord)
  | pairing (p : PairingRecord)
  | devicePairing (p : DevicePairingRecord)
  | hold (h : HoldRecord)
  /-- The stored hold itself, after it was changed. -/
  | changedHold (h : HoldRecord)
  | manifest (rec : KeyManifestRecord)

namespace Write

/-- The maps after the write. -/
def put : Write → Store → Store
  | .agent a, s => s.putAgent a
  | .device d, s => s.putDevice d
  | .push p, s => s.putPush p
  | .pairing p, s => s.putPairing p
  | .devicePairing p, s => s.putDevicePairing p
  | .hold h, s => s.putHold h
  | .changedHold h, s => s.putHold h
  | .manifest rec, s => { s with manifests := s.manifests.set rec.tenant rec }

/-- The maps when the write is asked for: a hold that is changed in place shows already. -/
def staged : Write → Store → Store
  | .changedHold h, s => { s with holds := s.holds.set h.id h }
  | _, s => s

/-- Undo the write on the maps `s`, from what the maps `old` had. -/
def rollback : Write → Store → Store → Store
  | .agent a, old, s => { s with agents := s.agents.restore a.id (old.agents.get? a.id) }
  | .device d, old, s =>
    { s with
      devices := s.devices.restore d.id (old.devices.get? d.id)
      devicesByKid := s.devicesByKid.restore d.kid (old.devicesByKid.get? d.kid) }
  | .push p, old, s => { s with push := s.push.restore p.deviceId (old.push.get? p.deviceId) }
  | .pairing p, old, s => { s with pairings := s.pairings.restore p.token (old.pairings.get? p.token) }
  | .devicePairing p, old, s =>
    { s with
      devicePairings := s.devicePairings.restore p.tokenHash (old.devicePairings.get? p.tokenHash) }
  | .hold h, old, s | .changedHold h, old, s =>
    { s with
      holds := s.holds.restore h.id (old.holds.get? h.id)
      holdsByIdem := s.holdsByIdem.restore (Store.idemKey h.agentId h.idempotencyKey)
        (old.holdsByIdem.get? (Store.idemKey h.agentId h.idempotencyKey)) }
  | .manifest rec, old, s =>
    { s with manifests := s.manifests.restore rec.tenant (old.manifests.get? rec.tenant) }

/-- The write is of a stored hold that was changed in place. -/
def inPlace : Write → Bool
  | .changedHold _ => true
  | _ => false

end Write

/-- The maps after some writes. -/
def putAll (ws : List Write) (s : Store) : Store := ws.foldl (fun s w => w.put s) s

/-! ## The writes of a call -/

/-- The record that a call left under a key. -/
def left {ν : Type} (t : Table String ν) (k : String) (w : ν → Write) : List Write :=
  (t.get? k).toList.map w

/-- The write that closes a hold, if it has run out. -/
def closing (x : HoldRecord × Int × Int) : Option Write :=
  if x.1.status = .PENDING ∧ x.2.1 ≥ x.1.expiresAt then some (.changedHold (x.1.closed x.2.2)) else none

/-- The holds that a call closes because they have run out. -/
def closings (c : Call) (s : Store) : List Write := (c.expiring s).filterMap closing

/-- The writes of a call, in their order. -/
def writes (P : RelayPlatform) (cfg : RelayConfig) (c : Call) (s : Store) : List Write :=
  let served := exec P cfg c s
  let status := served.1.map EngineResult.status
  let after := served.2
  match c with
  | .createPairing _ random _ => left after.pairings ("noa_pair_" ++ random) .pairing
  | .redeemPairing _ newId _ input =>
    if status = some 200 then
      left after.agents newId .agent ++
        (asString (input.get? "token")).toList.flatMap (left after.pairings · .pairing)
    else []
  | .createDevicePairing _ random _ =>
    if status = some 201 then
      left after.devicePairings (P.hashSecret (DEVICE_TOKEN_PREFIX ++ random)) .devicePairing
    else []
  | .redeemDevicePairing _ _ _ input =>
    if status = some 200 ∨ status = some 201 then
      ((asString (input.get? "kid")).bind after.getDeviceByKid).toList.map .device ++
        (asString (input.get? "token")).toList.flatMap fun token =>
          left after.devicePairings (P.hashSecret token) .devicePairing
    else []
  | .registerDevice _ newId _ _ =>
    if status = some 201 then left after.devices newId .device else []
  | .claimDevice agent deviceId =>
    if status = some 200 ∧ (s.getDeviceById deviceId).bind DeviceRecord.agentId ≠ some agent.id then
      left after.devices deviceId .device
    else []
  | .registerPush _ deviceId _ =>
    if status = some 204 then left after.push deviceId .push else []
  | .revokeSelf _ device =>
    if ((s.getDeviceById device.id).getD device).revokedAt.isNone then
      left after.devices device.id .device
    else []
  | .createHold _ newId _ _ _ => if status = some 201 then left after.holds newId .hold else []
  | .decide _ _ holdId _ =>
    closings c s ++ if status = some 200 then left after.holds holdId .changedHold else []
  | .putManifest clock agent input =>
    match checkManifest P (clock 0) agent input s with
    | .error _ => []
    | .ok (record, recovery) =>
      if recovery ∨ classifyManifestPut P (s.getLatestManifest record.tenant) record = .stored then
        [.manifest record]
      else []
  | _ => closings c s

/-! ## The file -/

/-- What is on disk. Source: `file-store.ts` `Snapshot`. -/
structure Snapshot where
  agents : List AgentRecord
  devices : List DeviceRecord
  push : List PushSubscriptionRecord
  pairings : List PairingRecord
  devicePairings : List DevicePairingRecord
  holds : List HoldRecord
  manifests : List KeyManifestRecord

def snapshot (s : Store) : Snapshot where
  agents := s.agents.values
  devices := s.devices.values
  push := s.push.values
  pairings := s.pairings.values
  devicePairings := s.devicePairings.values
  holds := s.holds.values
  manifests := s.manifests.values

/-- The maps of a snapshot. Source: `file-store.ts` `rebuildIndexes`. -/
def rebuildIndexes (snap : Snapshot) : Store where
  agents := .ofEntries (snap.agents.map fun a => (a.id, a))
  devices := .ofEntries (snap.devices.map fun d => (d.id, d))
  devicesByKid := .ofEntries (snap.devices.map fun d => (d.kid, d.id))
  push := .ofEntries (snap.push.map fun p => (p.deviceId, p))
  pairings := .ofEntries (snap.pairings.map fun p => (p.token, p))
  devicePairings := .ofEntries (snap.devicePairings.map fun p => (p.tokenHash, p))
  holds := .ofEntries (snap.holds.map fun h => (h.id, h))
  holdsByIdem := .ofEntries (snap.holds.map fun h =>
    (Store.idemKey h.agentId h.idempotencyKey, h.id))
  manifests := .ofEntries (snap.manifests.map fun m => (m.tenant, m))

structure FileState where
  maps : Store
  file : Snapshot

/-- A write whose snapshot reaches the disk. -/
def FileState.written (σ : FileState) (w : Write) : FileState :=
  let maps := w.put (w.staged σ.maps)
  ⟨maps, snapshot maps⟩

/-- A write whose snapshot fails. Source: `file-store.ts` `persistOrRollback`. -/
def FileState.failed (σ : FileState) (w : Write) : FileState :=
  let old := w.staged σ.maps
  ⟨w.rollback old (w.put old), σ.file⟩

/-- The writes of a list that return, and the one after them that fails, if any. -/
def attempt (fails : Nat → Bool) : Nat → List Write → List Write × Option Write
  | _, [] => ([], none)
  | i, w :: ws =>
    if fails i then ([], some w)
    else
      let (returned, failing) := attempt fails (i + 1) ws
      (w :: returned, failing)

/-- A call, with the writes of it that fail, or a restart on the file. -/
inductive FileCall where
  | call (fails : Nat → Bool) (c : Call)
  | restart

inductive Outcome where
  | returned (r : Option EngineResult)
  | threw
  | restarted

/-- What a call over the file store answers and leaves. -/
def fileExec (P : RelayPlatform) (cfg : RelayConfig) : FileCall → FileState → Outcome × FileState
  | .restart, σ => (.restarted, ⟨rebuildIndexes σ.file, σ.file⟩)
  | .call fails c, σ =>
    let (returned, failing) := attempt fails 0 (writes P cfg c σ.maps)
    let σ' := returned.foldl FileState.written σ
    match failing with
    | none => (.returned (exec P cfg c σ.maps).1, σ')
    | some w => (.threw, σ'.failed w)

/-- The relay over a file store that starts with no file. Callers are in the store, and generated ids
and tokens are fresh. -/
def fileRelay (P : RelayPlatform) (cfg : RelayConfig) : Service FileState FileCall Outcome where
  init := ⟨{}, snapshot {}⟩
  exec := fileExec P cfg
  allowed past
    | .call _ c => c.Grounded (Served.final ⟨{}, snapshot {}⟩ past).maps
    | .restart => True

/-! ## One write -/

lemma put_staged (w : Write) (s : Store) : w.put (w.staged s) = w.put s := by
  cases w with
  | changedHold h =>
    show Store.putHold { s with holds := s.holds.set h.id h } h = s.putHold h
    unfold Store.putHold
    rw [Table.set_set]
  | _ => rfl

/-- Undoing a write restores the maps, with their order. -/
lemma rollback_put (w : Write) (s : Store) : w.rollback s (w.put s) = s := by
  cases w with
  | device d =>
    simp only [Write.put, Write.rollback, Store.putDevice, Table.restore_set]
  | hold h | changedHold h =>
    simp only [Write.put, Write.rollback, Store.putHold, Table.restore_set]
  | agent | push | pairing | devicePairing | manifest =>
    simp only [Write.put, Write.rollback, Store.putAgent, Store.putPush, Store.putPairing,
      Store.putDevicePairing, Table.restore_set]

variable {w : Write}

/-- A write that fails leaves the maps and the file, unless it was of a hold that was changed in
place. -/
lemma failed_eq {σ : FileState} (hw : w.inPlace = false) : σ.failed w = σ := by
  have hstaged : w.staged σ.maps = σ.maps := by
    cases w with
    | changedHold h => cases hw
    | _ => rfl
  show (⟨w.rollback (w.staged σ.maps) (w.put (w.staged σ.maps)), σ.file⟩ : FileState) = σ
  rw [hstaged, rollback_put]

/-! ## Reading a snapshot back -/

/-- Records stand under their own keys, and the indexes are those of the records. -/
structure Aligned (s : Store) : Prop where
  agents : s.agents.KeyedBy AgentRecord.id
  devices : s.devices.KeyedBy DeviceRecord.id
  deviceNamed : ∀ id d, s.devices.get? id = some d → id ≠ ""
  kids : Table.IndexedBy DeviceRecord.kid s.devices s.devicesByKid
  push : s.push.KeyedBy PushSubscriptionRecord.deviceId
  pairings : s.pairings.KeyedBy PairingRecord.token
  devicePairings : s.devicePairings.KeyedBy DevicePairingRecord.tokenHash
  holds : s.holds.KeyedBy HoldRecord.id
  holdNamed : ∀ id h, s.holds.get? id = some h → id ≠ ""
  idem : Table.IndexedBy (fun h : HoldRecord => Store.idemKey h.agentId h.idempotencyKey) s.holds
    s.holdsByIdem
  manifests : s.manifests.KeyedBy KeyManifestRecord.tenant

/-- The maps and their indexes are read back from a snapshot as they were. -/
lemma load_snapshot (h : Aligned s) : rebuildIndexes (snapshot s) = s := by
  unfold rebuildIndexes snapshot
  simp only [Table.ofEntries_values h.agents, Table.ofEntries_values h.devices,
    Table.ofEntries_index h.devices h.kids, Table.ofEntries_values h.push,
    Table.ofEntries_values h.pairings, Table.ofEntries_values h.devicePairings,
    Table.ofEntries_values h.holds, Table.ofEntries_index h.holds h.idem,
    Table.ofEntries_values h.manifests]

lemma aligned_empty : Aligned {} where
  agents := Table.keyedBy_empty _
  devices := Table.keyedBy_empty _
  deviceNamed _ _ h := by cases h
  kids := rfl
  push := Table.keyedBy_empty _
  pairings := Table.keyedBy_empty _
  devicePairings := Table.keyedBy_empty _
  holds := Table.keyedBy_empty _
  holdNamed _ _ h := by cases h
  idem := rfl
  manifests := Table.keyedBy_empty _

/-- A write that keeps the indexes: of a new record under names that are not in use, or of one in the
place of a record with its names. -/
def Write.Fits (s : Store) : Write → Prop
  | .device d =>
    d.id ≠ "" ∧ ((s.devices.get? d.id = none ∧ s.devicesByKid.get? d.kid = none) ∨
      ∃ old, s.devices.get? d.id = some old ∧ old.kid = d.kid)
  | .hold h =>
    h.id ≠ "" ∧ s.holds.get? h.id = none ∧
      s.holdsByIdem.get? (Store.idemKey h.agentId h.idempotencyKey) = none
  | .changedHold h =>
    ∃ old, s.holds.get? h.id = some old ∧ old.agentId = h.agentId ∧
      old.idempotencyKey = h.idempotencyKey
  | _ => True

/-- A name that is not empty stays so when a record is written under one that is not. -/
lemma named_set {ν : Type} {t : Table String ν} (h : ∀ k v, t.get? k = some v → k ≠ "") {k : String}
    (hk : k ≠ "") (v : ν) : ∀ l w, (t.set k v).get? l = some w → l ≠ "" := by
  intro l w hw
  rw [Table.get?_set] at hw
  split at hw
  · rename_i heq
    rw [heq]
    exact hk
  · exact h l w hw

lemma Aligned.put (h : Aligned s) (hw : w.Fits s) : Aligned (w.put s) := by
  cases w with
  | agent a => exact { h with agents := h.agents.set a }
  | push p => exact { h with push := h.push.set p }
  | pairing p => exact { h with pairings := h.pairings.set p }
  | devicePairing p => exact { h with devicePairings := h.devicePairings.set p }
  | manifest rec => exact { h with manifests := h.manifests.set rec }
  | device d =>
    obtain ⟨hne, hfits⟩ := hw
    refine { h with
      devices := h.devices.set d
      deviceNamed := named_set h.deviceNamed hne d
      kids := ?_ }
    rcases hfits with ⟨hnew, hkid⟩ | ⟨old, hold, hkid⟩
    · exact h.kids.set_new hnew hkid
    · exact h.kids.set_old hold hkid
  | hold g =>
    obtain ⟨hne, hnew, hkey⟩ := hw
    exact { h with
      holds := h.holds.set g
      holdNamed := named_set h.holdNamed hne g
      idem := h.idem.set_new hnew hkey }
  | changedHold g =>
    obtain ⟨old, hold, hagent, hkey⟩ := hw
    exact { h with
      holds := h.holds.set g
      holdNamed := named_set h.holdNamed (h.holdNamed _ old hold) g
      idem := h.idem.set_old hold (by rw [hagent, hkey]) }

/-- Each write of the list fits the maps that it comes to. -/
def Fitting : Store → List Write → Prop
  | _, [] => True
  | s, w :: ws => w.Fits s ∧ Fitting (w.put s) ws

lemma Aligned.holdsKeyed (h : Aligned s) : HoldsKeyed s := h.holds

lemma Aligned.getDeviceByKid_eq_some (h : Aligned s) {kid : String} {d : DeviceRecord} :
    s.getDeviceByKid kid = some d ↔ s.devices.get? d.id = some d ∧ d.kid = kid := by
  unfold Store.getDeviceByKid
  constructor
  · intro hd
    obtain ⟨id, hid, hget⟩ := Option.bind_eq_some_iff.mp hd
    obtain ⟨d', hd', hkid⟩ := h.kids.get?_eq_some_iff.mp (Option.filter_eq_some_iff.mp hid).1
    cases hget.symm.trans hd'
    rw [h.devices id d hget]
    exact ⟨hget, hkid⟩
  · rintro ⟨hd, rfl⟩
    rw [h.kids.get?_eq_some_iff.mpr ⟨d, hd, rfl⟩, Option.filter_some,
      if_pos (by simpa using h.deviceNamed d.id d hd), Option.bind_some, hd]

lemma Aligned.kid_eq_none (h : Aligned s) {kid : String} (hkid : s.getDeviceByKid kid = none) :
    s.devicesByKid.get? kid = none := by
  cases hindex : s.devicesByKid.get? kid with
  | none => rfl
  | some id =>
    obtain ⟨d, hd, hdk⟩ := h.kids.get?_eq_some_iff.mp hindex
    have hd' : s.devices.get? d.id = some d := by
      rw [h.devices id d hd]
      exact hd
    rw [h.getDeviceByKid_eq_some.mpr ⟨hd', hdk⟩] at hkid
    cases hkid

lemma Aligned.idemIndexed (h : Aligned s) : IdemIndexed s where
  indexed id g hg := h.idem.get?_eq_some_iff.mpr ⟨g, hg, rfl⟩
  known k id hk := by
    obtain ⟨g, hg, hkey⟩ := h.idem.get?_eq_some_iff.mp hk
    exact ⟨h.holdNamed id g hg, g, hg, hkey⟩

/-! ## The writes of a call are what it does -/

/-- The writes of the call are what it does to the store, and each keeps the indexes. -/
structure Accounted (P : RelayPlatform) (cfg : RelayConfig) (s : Store) (c : Call) : Prop where
  put : putAll (writes P cfg c s) s = (exec P cfg c s).2
  fits : Fitting s (writes P cfg c s)

lemma Accounted.of_eq (ws : List Write) (hws : writes P cfg c s = ws)
    (hput : putAll ws s = (exec P cfg c s).2) (hfits : Fitting s ws) : Accounted P cfg s c :=
  ⟨by rw [hws]; exact hput, by rw [hws]; exact hfits⟩

lemma left_of_get? {ν : Type} {t : Table String ν} {k : String} {v : ν} (h : t.get? k = some v)
    (w : ν → Write) : left t k w = [w v] := by
  unfold left
  rw [h]
  rfl

lemma createPairing_accounted (clock : Nat → Int) (random : String) (input : Json) :
    Accounted P cfg s (.createPairing clock random input) :=
  .of_eq _ (left_of_get? (Table.get?_set_self _ _ _) _) rfl ⟨trivial, trivial⟩

/-- A refusal makes no write. -/
lemma Accounted.refused (hws : writes P cfg c s = []) (hkept : (exec P cfg c s).2 = s) :
    Accounted P cfg s c := .of_eq [] hws hkept.symm trivial

section refusals

variable {r : EngineResult} (hws : (∀ n < 400, (exec P cfg c s).1.map EngineResult.status ≠ some n) →
  writes P cfg c s = [])
include hws

/-- Writes are made at the statuses below 400 only. -/
lemma Accounted.of_refusal (hr : (exec P cfg c s).1 = some r) (hrefused : 400 ≤ r.status)
    (hkept : (exec P cfg c s).2 = s) : Accounted P cfg s c := by
  refine .refused (hws fun n hn heq => ?_) hkept
  rw [hr, Option.map_some, Option.some.injEq] at heq
  omega

lemma Accounted.of_error {x : Except EngineResult (EngineResult × Store)} (hr : x = .error r)
    (hexec : exec P cfg c s = answering (answered s x))
    (herrors : ErrorsIn (fun r : EngineResult => 400 ≤ r.status) x) : Accounted P cfg s c := by
  subst hr
  exact .of_refusal hws (r := r) (by rw [hexec]; rfl) (herrors r rfl) (by rw [hexec]; rfl)

end refusals

variable (h : Aligned s) (clock : Nat → Int)

include h clock in
lemma redeemPairing_accounted (newId random : String)
    (input : Json) : Accounted P cfg s (.redeemPairing clock newId random input) := by
  rcases answered_cases s _ with ⟨r, hr, heq⟩ | ⟨y, hy, heq⟩
  · exact .of_error (fun h => if_neg (h 200 (by decide))) hr rfl <|
      .refusing rfl <| .demanding rfl fun _ => .demanding rfl fun _ => .demanding rfl fun _ =>
        .refusing rfl <| .bind (.refuses rfl) fun _ => .ok
  · have heq : redeemPairing P clock newId random input s = y := heq
    simp only [ok_iff] at hy
    obtain ⟨-, -, token, htoken, name, -, p, hp, -, -, -, -, rfl⟩ := hy
    obtain rfl : p.token = token := h.pairings token p hp
    let agent : AgentRecord :=
      { id := newId
        name
        apiKeyHash := P.hashSecret ("noa_agent_" ++ random)
        ownerDevice := none
        tenant := p.tenant
        createdAt := clock 1 }
    refine .of_eq [.agent agent, .pairing { p with usedAt := some (clock 2) }] ?_ ?_
      ⟨trivial, trivial, trivial⟩
    · simp [writes, exec, answering, heq, htoken, left, Store.putPairing, Store.putAgent, agent]
    · simp only [exec, answering, heq]
      rfl

lemma createDevicePairing_accounted (clock : Nat → Int) (random : String) (input : Json) :
    Accounted P cfg s (.createDevicePairing clock random input) := by
  rcases answered_cases s _ with ⟨r, hr, heq⟩ | ⟨y, hy, heq⟩
  · exact .of_error (fun h => if_neg (h 201 (by decide))) hr rfl <|
      .refusing rfl <| .demanding rfl fun _ => .demanding rfl fun _ => .ok
  · have heq : createDevicePairing P cfg clock random input s = y := heq
    simp only [ok_iff] at hy
    obtain ⟨-, -, tenant, -, kid, -, rfl⟩ := hy
    let record : DevicePairingRecord :=
      { tokenHash := P.hashSecret (DEVICE_TOKEN_PREFIX ++ random)
        tenant, kid
        usedAt := none
        expiresAt := clock 0 + cfg.deviceTokenTtlMs
        createdAt := clock 1 }
    refine .of_eq [.devicePairing record] ?_ ?_ ⟨trivial, trivial⟩
    · simp [writes, exec, answering, heq, left, Store.putDevicePairing, record]
    · simp only [exec, answering, heq]
      rfl

/-- A record of a device in the place of one with its key id. -/
lemma fits_device (h : Aligned s) {id : String} {old d : DeviceRecord}
    (hold : s.devices.get? id = some old) (hid : d.id = old.id) (hkid : d.kid = old.kid) :
    (Write.device d).Fits s := by
  have hstored : s.devices.get? d.id = some old := by
    rw [hid, h.devices id old hold]
    exact hold
  exact ⟨h.deviceNamed _ old hstored, .inr ⟨old, hstored, hkid.symm⟩⟩

variable {newId : String}

include h clock in
lemma redeemDevicePairing_accounted
    (random : String) (input : Json) (hfresh : FreshIn s.devices newId) :
    Accounted P cfg s (.redeemDevicePairing clock newId random input) := by
  rcases redeemDevicePairing_cases (P := P) (s := s) clock newId random input with
    ⟨hrefused, hkept⟩ | ⟨token, p, key, haccepted, hcases⟩
  · exact .of_refusal (fun h => if_neg (not_or.mpr ⟨h 200 (by decide), h 201 (by decide)⟩)) rfl
      hrefused hkept
  · have hp : s.devicePairings.get? (P.hashSecret token) = some p := haccepted.presented.stored
    have hhash : p.tokenHash = P.hashSecret token := h.devicePairings _ p hp
    -- the device is found by its key id once it is written
    have hmade : ∀ (d : DeviceRecord) (time : Int) (r : EngineResult), (Write.device d).Fits s →
        d.kid = p.kid → (r.status = 200 ∨ r.status = 201) →
        redeemDevicePairing P clock newId random input s =
          (r, (s.putDevice d).putDevicePairing { p with usedAt := some time }) →
        Accounted P cfg s (.redeemDevicePairing clock newId random input) := by
      intro d time r hfits hkid hstatus heq
      have hfound : ((s.putDevice d).putDevicePairing { p with usedAt := some time }).getDeviceByKid
          p.kid = some d :=
        (h.put hfits).getDeviceByKid_eq_some.mpr ⟨Table.get?_set_self _ _ _, hkid⟩
      refine .of_eq [.device d, .devicePairing { p with usedAt := some time }] ?_ ?_
        ⟨hfits, trivial, trivial⟩
      · have htoken : left ((s.putDevice d).putDevicePairing { p with usedAt := some time }).devicePairings
            (P.hashSecret token) .devicePairing = [.devicePairing { p with usedAt := some time }] := by
          refine left_of_get? ?_ _
          show ((s.putDevice d).devicePairings.set p.tokenHash _).get? _ = _
          rw [hhash]
          exact Table.get?_set_self _ _ _
        simp only [writes, exec, answering, heq, Option.map_some, Option.some.injEq]
        rw [if_pos hstatus, haccepted.token_eq, haccepted.kid_eq]
        simp [hfound, htoken]
      · simp only [exec, answering, heq]
        rfl
    rcases hcases with ⟨d, hd, -, -, heq⟩ | ⟨hd, heq⟩
    · obtain ⟨hstored, hkid⟩ := h.getDeviceByKid_eq_some.mp hd
      refine hmade _ _ _ ?_ ?_ (.inl rfl) heq
      · exact fits_device h hstored rfl rfl
      · exact hkid
    · refine hmade _ _ _ ?_ rfl (.inr rfl) heq
      exact ⟨hfresh.1, .inl ⟨hfresh.2, h.kid_eq_none hd⟩⟩

include h clock in
lemma registerDevice_accounted (random : String) (input : Json) (hfresh : FreshIn s.devices newId) :
    Accounted P cfg s (.registerDevice clock newId random input) := by
  rcases answered_cases s _ with ⟨r, hr, heq⟩ | ⟨y, hy, heq⟩
  · exact .of_error (fun h => if_neg (h 201 (by decide))) hr rfl <|
      .refusing rfl <| .demanding rfl fun _ => .demanding rfl fun _ => .refusing rfl <|
        .refusing rfl .ok
  · have heq : registerDevice P clock newId random input s = y := heq
    simp only [ok_iff] at hy
    obtain ⟨-, -, kid, -, key, -, -, -, -, hunknown, rfl⟩ := hy
    have hkid : s.getDeviceByKid kid = none := by simpa using hunknown
    let device : DeviceRecord :=
      { id := newId, kid
        publicKeyHex := key
        custodyTier := (asString (input.get? "custodyTier")).getD "software-browser"
        deviceSecretHash := P.hashSecret ("noa_device_" ++ random)
        tenant := none
        agentId := none
        revokedAt := none
        createdAt := clock 0 }
    refine .of_eq [.device device] ?_ ?_
      ⟨⟨hfresh.1, .inl ⟨hfresh.2, h.kid_eq_none hkid⟩⟩, trivial⟩
    · simp [writes, exec, answering, heq, left, Store.putDevice, device]
    · simp only [exec, answering, heq]
      rfl

lemma claimDevice_accounted (h : Aligned s) (agent : AgentRecord) (deviceId : String) :
    Accounted P cfg s (.claimDevice agent deviceId) := by
  rcases answered_cases s _ with ⟨r, hr, heq⟩ | ⟨y, hy, heq⟩
  · refine .of_error (fun h => if_neg fun hn => h 200 (by decide) hn.1) hr rfl <|
      .demanding rfl fun d => .refusing rfl <| .refusing rfl ?_
    split
    · exact .ok
    · exact .ok
  · have heq : claimDevice agent deviceId s = y := heq
    simp only [ok_iff, Option.filter_eq_some_iff] at hy
    obtain ⟨d, ⟨hd, -⟩, -, -, -, -, hy⟩ := hy
    by_cases hclaimed : d.agentId = some agent.id
    · simp only [if_pos hclaimed, pure_eq_ok_iff] at hy
      subst hy
      refine .refused ?_ (by simp only [exec, answering, heq])
      simp [writes, hd, hclaimed]
    · simp only [if_neg hclaimed, pure_eq_ok_iff] at hy
      subst hy
      obtain rfl : d.id = deviceId := h.devices deviceId d hd
      refine .of_eq [.device { d with agentId := some agent.id }] ?_ ?_
        ⟨fits_device h hd rfl rfl, trivial⟩
      · simp [writes, exec, answering, heq, hd, hclaimed, claimed, left, Store.putDevice]
      · simp only [exec, answering, heq]
        rfl

lemma registerPush_accounted (clock : Nat → Int) (deviceId : String) (input : Json) :
    Accounted P cfg s (.registerPush clock deviceId input) := by
  cases hd : s.getDeviceById deviceId with
  | none =>
    have heq : registerPush clock deviceId input s = (err 404 "UNKNOWN_DEVICE", s) := by
      simp only [registerPush, hd]
    refine .refused ?_ (by simp only [exec, answering, heq])
    simp [writes, exec, answering, heq, err]
  | some d =>
    let record : PushSubscriptionRecord :=
      { deviceId
        subscription := (Artifact.present? (input.get? "subscription")).getD input
        createdAt := clock 0 }
    have heq : registerPush clock deviceId input s = (⟨204, .null⟩, s.putPush record) := by
      simp only [registerPush, hd, record]
    refine .of_eq [.push record] ?_ ?_ ⟨trivial, trivial⟩
    · simp [writes, exec, answering, heq, left, Store.putPush, record]
    · simp only [exec, answering, heq]
      rfl

include h clock in
lemma revokeSelf_accounted {device d : DeviceRecord}
    (hd : s.devices.get? device.id = some d) : Accounted P cfg s (.revokeSelf clock device) := by
  have hcurrent : (s.getDeviceById device.id).getD device = d := by
    unfold Store.getDeviceById
    rw [hd]
    rfl
  by_cases hactive : d.revokedAt.isNone
  · have heq : revokeSelf clock device s =
        (⟨204, .null⟩, s.putDevice { d with revokedAt := some (clock 0) }) := by
      simp only [revokeSelf, hcurrent, if_pos hactive]
    refine .of_eq [.device { d with revokedAt := some (clock 0) }] ?_ ?_
      ⟨fits_device h hd rfl rfl, trivial⟩
    · have hid : d.id = device.id := h.devices _ d hd
      simp [writes, exec, answering, heq, hcurrent, hactive, left, Store.putDevice, hid]
    · simp only [exec, answering, heq]
      rfl
  · refine .refused ?_ ?_
    · simp only [writes, hcurrent]
      rw [if_neg hactive]
    · simp only [exec, answering, revokeSelf, hcurrent]
      rw [if_neg hactive]

include h clock in
lemma createHold_accounted (agent : AgentRecord)
    (key : Option String) (input : Json) (hfresh : FreshIn s.holds newId) :
    Accounted P cfg s (.createHold clock newId agent key input) := by
  rcases @createHold_cases P cfg s clock newId agent key input with
    ⟨hold, hchecked, heq⟩ | ⟨g, -, heq⟩ | ⟨hrefused, hkept⟩
  · have hopens := checkHold_eq_ok hchecked
    obtain ⟨-, -, -, hunused, -⟩ := checkHold_carries hchecked
    rw [← hopens.agentId_eq] at hunused
    have hid := hopens.id_eq
    subst hid
    refine .of_eq [.hold hold] ?_ ?_
      ⟨⟨hfresh.1, hfresh.2, getHoldByIdem_eq_none h.idemIndexed hunused⟩, trivial⟩
    · simp [writes, exec, answering, heq, left, Store.putHold]
    · simp only [exec, answering, heq]
      rfl
  · refine .refused ?_ (by simp only [exec, answering, heq])
    simp [writes, exec, answering, heq, replayed]
  · exact .of_refusal (fun h => if_neg (h 201 (by decide))) rfl hrefused hkept

lemma putManifest_accounted (clock : Nat → Int) (agent : AgentRecord) (input : Json) :
    Accounted P cfg s (.putManifest clock agent input) := by
  cases hcheck : checkManifest P (clock 0) agent input s with
  | error r =>
    refine .refused ?_ ?_
    · simp only [writes, hcheck]
    · simp only [exec, answering, putManifest, hcheck, error_bind, answered]
  | ok x =>
    obtain ⟨record, recovery⟩ := x
    by_cases hstored : recovery = true ∨
        classifyManifestPut P (s.getLatestManifest record.tenant) record = .stored
    · refine .of_eq [.manifest record] ?_ ?_ ⟨trivial, trivial⟩
      · simp only [writes, hcheck]
        rw [if_pos hstored]
      · have hpublish : publish P record recovery s =
            .ok { s with manifests := s.manifests.set record.tenant record } := by
          rcases hstored with rfl | hclass
          · simp [publish, Store.putManifest, mapError_ok, refuse_false, ok_bind]
          · unfold Store.getLatestManifest at hclass
            cases recovery with
            | true => simp [publish, Store.putManifest, mapError_ok, refuse_false, ok_bind]
            | false =>
              simp [publish, Store.getLatestManifest, Store.putManifest, hclass, mapError_ok,
                refuse_false, ok_bind]
        simp only [exec, answering, putManifest, hcheck, ok_bind, hpublish, answered, pure, Except.pure]
        rfl
    · have hnot := not_or.mp hstored
      have hrecovery : recovery = false := by simpa using hnot.1
      subst hrecovery
      refine .refused ?_ ?_
      · simp only [writes, hcheck]
        rw [if_neg hstored]
      · have hpublish : ∀ s', publish P record false s = .ok s' → s' = s := by
          intro s' hs'
          simp only [publish, ok_iff] at hs'
          obtain ⟨-, -, hput⟩ := hs'
          unfold Store.getLatestManifest at hnot
          cases hclass : classifyManifestPut P (s.manifests.get? record.tenant) record with
          | stored => exact absurd hclass hnot.2
          | idempotent =>
            simp only [Store.putManifest, hclass] at hput
            cases hput
            rfl
          | stale | equivocation =>
            simp only [Store.putManifest, hclass] at hput
            cases hput
        simp only [exec, answering, putManifest, hcheck, ok_bind]
        cases hp : publish P record false s with
        | error r => rfl
        | ok s' =>
          obtain rfl := hpublish s' hp
          rfl

/-- Closing the holds of a list is writing those of them that have run out. -/
lemma expireAll_accounted {l : List (HoldRecord × Int × Int)} (hl : Listed s l) (n : Nat) :
    putAll (l.filterMap closing) s = (expireAll l n s).2 ∧ Fitting s (l.filterMap closing) := by
  induction l generalizing s n with
  | nil => exact ⟨rfl, trivial⟩
  | cons x l ih =>
    obtain ⟨h, now, time⟩ := x
    have hrest := hl.rest
    have hstored : s.holds.get? h.id = some h := hl.stored _ (.head _)
    unfold expireAll
    by_cases hexpired : h.status = .PENDING ∧ now ≥ h.expiresAt
    · have heq : lazyExpire now time h s = (h.closed time, s.putHold (h.closed time)) := if_pos hexpired
      have hclosing : closing (h, now, time) = some (.changedHold (h.closed time)) := if_pos hexpired
      rw [heq] at hrest ⊢
      rw [List.filterMap_cons_some hclosing]
      obtain ⟨hput, hfits⟩ := ih hrest (if (h.closed time).status ≠ h.status then n + 1 else n)
      exact ⟨hput, ⟨h, hstored, rfl, rfl⟩, hfits⟩
    · have heq : lazyExpire now time h s = (h, s) := if_neg hexpired
      have hclosing : closing (h, now, time) = none := if_neg hexpired
      rw [heq] at hrest ⊢
      rw [List.filterMap_cons_none hclosing]
      exact ih hrest _

lemma closings_accounted (h : Aligned s) (c : Call) :
    putAll (closings c s) s = (expireAll (c.expiring s) 0 s).2 ∧ Fitting s (closings c s) :=
  expireAll_accounted (c.listed h.holdsKeyed) 0

/-- A call that reads one hold, and does nothing else, leaves what closing it leaves. -/
lemma accounted_of_closing (h : Aligned s) (hws : writes P cfg c s = closings c s)
    (hexec : (exec P cfg c s).2 = (expireAll (c.expiring s) 0 s).2) : Accounted P cfg s c := by
  obtain ⟨hput, hfits⟩ := closings_accounted h c
  exact .of_eq _ hws (hput.trans hexec.symm) hfits

include h clock in
lemma getHold_accounted (agent : AgentRecord) (id : String) :
    Accounted P cfg s (.getHold clock agent id) := by
  refine accounted_of_closing h rfl ?_
  simp only [exec, answering, Relay.getHold, Call.expiring]
  cases (s.getHold id).filter (ownsHold agent) with
  | none => rfl
  | some g => rfl

include h clock in
lemma wait_accounted (agent : AgentRecord) (id : String) :
    Accounted P cfg s (.wait clock agent id) := by
  refine accounted_of_closing h rfl ?_
  simp only [exec, Relay.wait, Call.expiring]
  cases (s.getHold id).filter (ownsHold agent) with
  | none => rfl
  | some g => rfl

lemma checkDecision_errors {device : DeviceRecord} {hold : HoldRecord} {input : Json} :
    ErrorsIn (fun r : EngineResult => 400 ≤ r.status) (checkDecision P device hold input s) := by
  unfold checkDecision decisionReceipt checkSigner checkBinding
  refine .refusing rfl ?_
  refine .bind (.demanding rfl fun _ =>
    .demanding rfl fun _ => .demands rfl) fun _ => ?_
  refine .demanding rfl fun _ => ?_
  refine .demanding rfl fun _ => ?_
  refine .bind (.demanding rfl fun _ =>
    .refusing rfl <|
    .refusing rfl <| .refuses rfl) fun _ => ?_
  refine .bind (.refusing rfl ?_) fun _ => .ok
  split
  · exact .refuses rfl
  · exact .demanding rfl fun _ => .refuses rfl

include h clock in
lemma decide_accounted (device : DeviceRecord) (id : String)
    (input : Json) : Accounted P cfg s (.decide clock device id input) := by
  obtain ⟨hput, hfits⟩ := closings_accounted h (.decide clock device id input)
  cases hfound : (s.getHold id).filter (deviceOwnsHold device) with
  | none =>
    have heq : Relay.decide P clock device id input s = (unknownHold, s) := by
      simp only [Relay.decide, hfound]
    refine .refused ?_ (by simp only [exec, answering, heq])
    simp [writes, closings, Call.expiring, hfound, exec, answering, heq, unknownHold, err]
  | some g =>
    have hstored : s.holds.get? id = some g := (Option.filter_eq_some_iff.mp hfound).1
    obtain rfl : g.id = id := h.holds id g hstored
    by_cases hexpired : g.status = .PENDING ∧ clock 0 ≥ g.expiresAt
    · have hlazy : lazyExpire (clock 0) (clock 1) g s =
          (g.closed (clock 1), s.putHold (g.closed (clock 1))) := if_pos hexpired
      have heq : Relay.decide P clock device g.id input s =
          (err 409 "HOLD_EXPIRED" [("lifecycle", .str (lifecycleOf .EXPIRED))],
            s.putHold (g.closed (clock 1))) := by
        simp only [Relay.decide, hfound, hlazy]
        rfl
      refine .of_eq [.changedHold (g.closed (clock 1))] ?_ ?_ ⟨⟨g, hstored, rfl, rfl⟩, trivial⟩
      · simp [writes, closings, closing, Call.expiring, hfound, hexpired, exec, answering, heq, err]
      · simp only [exec, answering, heq]
        rfl
    · have hlazy : lazyExpire (clock 0) (clock 1) g s = (g, s) := if_neg hexpired
      have hclosings : closings (.decide clock device g.id input) s = [] := by
        simp [closings, closing, Call.expiring, hfound, hexpired]
      rcases answered_cases s _ with ⟨r, hr, heq⟩ | ⟨y, hy, heq⟩
      · refine .of_error (fun h => ?_) hr ?_ ?_
        · simp only [writes, hclosings]
          exact if_neg (h 200 (by decide))
        · simp only [exec, Relay.decide, hfound, hlazy]
          rfl
        · exact .bind (.refuse (show 400 ≤ 409 by decide)) fun _ =>
            .bind checkDecision_errors fun _ => .ok
      · have heq : Relay.decide P clock device g.id input s = y := by
          simp only [Relay.decide, hfound, hlazy]
          exact heq
        simp only [ok_iff] at hy
        obtain ⟨-, -, ⟨receipt, verdict⟩, -, ⟨⟩⟩ := hy
        refine .of_eq [.changedHold (g.decided receipt ((Artifact.present?
          (input.get? "decisionArtifact")).bind inertSnapshot) verdict (clock 2))] ?_ ?_
          ⟨⟨g, hstored, rfl, rfl⟩, trivial⟩
        · simp only [writes, hclosings, exec, answering, heq, Option.map_some, if_true]
          exact left_of_get? (Table.get?_set_self _ _ _) _
        · simp only [exec, answering, heq]
          rfl

/-- The writes of a call are what it does to the store, and keep the indexes. -/
lemma exec_accounted (h : Aligned s) (hc : c.Grounded s) : Accounted P cfg s c := by
  cases c with
  | createPairing clock random input => exact createPairing_accounted clock random input
  | redeemPairing clock newId random input => exact redeemPairing_accounted h clock newId random input
  | createDevicePairing clock random input => exact createDevicePairing_accounted clock random input
  | redeemDevicePairing clock newId random input =>
    exact redeemDevicePairing_accounted h clock random input hc
  | registerDevice clock newId random input => exact registerDevice_accounted h clock random input hc
  | claimDevice agent deviceId => exact claimDevice_accounted h agent deviceId
  | registerPush clock deviceId input => exact registerPush_accounted clock deviceId input
  | revokeSelf clock device =>
    obtain ⟨d, hd, -⟩ := hc
    exact revokeSelf_accounted h clock hd
  | createHold clock newId agent key input => exact createHold_accounted h clock agent key input hc
  | getHold clock agent id => exact getHold_accounted h clock agent id
  | wait clock agent id => exact wait_accounted h clock agent id
  | decide clock device id input => exact decide_accounted h clock device id input
  | sweepExpired clock => exact accounted_of_closing h rfl rfl
  | putManifest clock agent input => exact putManifest_accounted clock agent input
  | getDisplay | getHoldContext | listPending | getManifest | getTrust => exact .refused rfl rfl

/-! ## Runs -/

variable {σ : FileState} {past : List (Served FileState FileCall Outcome)}

/-- The maps are in order, and the file holds them. -/
structure Synced (σ : FileState) : Prop where
  aligned : Aligned σ.maps
  file_eq : σ.file = snapshot σ.maps

lemma Synced.written (h : Synced σ) (hw : w.Fits σ.maps) : Synced (σ.written w) := by
  refine ⟨?_, rfl⟩
  show Aligned (w.put (w.staged σ.maps))
  rw [put_staged]
  exact h.aligned.put hw

lemma written_foldl (h : Synced σ) {ws : List Write} (hws : Fitting σ.maps ws) :
    Synced (ws.foldl FileState.written σ) ∧
      (ws.foldl FileState.written σ).maps = putAll ws σ.maps := by
  induction ws generalizing σ with
  | nil => exact ⟨h, rfl⟩
  | cons w ws ih =>
    have hmaps : (σ.written w).maps = w.put σ.maps := put_staged w σ.maps
    obtain ⟨hsynced, heq⟩ := ih (h.written hws.1) (hmaps ▸ hws.2)
    refine ⟨hsynced, heq.trans ?_⟩
    rw [hmaps]
    rfl

/-- The writes that return come first; then the one that fails. -/
lemma attempt_initial (fails : Nat → Bool) (i : Nat) (ws : List Write) :
    (attempt fails i ws).1 ++ (attempt fails i ws).2.toList <+: ws := by
  induction ws generalizing i with
  | nil => exact List.prefix_rfl
  | cons v ws ih =>
    unfold attempt
    cases hfails : fails i with
    | true => exact ⟨ws, rfl⟩
    | false => exact List.cons_prefix_cons.mpr ⟨rfl, ih (i + 1)⟩

lemma Fitting.of_isPrefix {ws vs : List Write} (h : Fitting s ws) (hp : vs <+: ws) : Fitting s vs := by
  induction vs generalizing s ws with
  | nil => trivial
  | cons v vs ih =>
    obtain ⟨rest, rfl⟩ := hp
    exact ⟨h.1, ih h.2 ⟨rest, rfl⟩⟩

/-- The writes of the call that return, on the maps. -/
def returnedWrites (P : RelayPlatform) (cfg : RelayConfig) (s : Store) : FileCall → List Write
  | .call fails c => (attempt fails 0 (writes P cfg c s)).1
  | .restart => []

/-- The write of the call that fails, on the maps. -/
def failingWrite (P : RelayPlatform) (cfg : RelayConfig) (s : Store) : FileCall → Option Write
  | .call fails c => (attempt fails 0 (writes P cfg c s)).2
  | .restart => none

/-- The maps with the writes of a call that return. -/
def putReturned (P : RelayPlatform) (cfg : RelayConfig) (c : FileCall) (s : Store) : Store :=
  putAll (returnedWrites P cfg s c) s

/-- No write of the call fails that changes a stored hold. -/
def NoHoldLost (P : RelayPlatform) (cfg : RelayConfig) (s : Store) (c : FileCall) : Prop :=
  ∀ w, failingWrite P cfg s c = some w → w.inPlace = false

/-- A call leaves the writes of it that return. -/
lemma fileExec_eq (h : Synced σ) {c : FileCall} (hc : ∀ fails d, c = .call fails d → d.Grounded σ.maps)
    (hlost : NoHoldLost P cfg σ.maps c) :
    Synced (fileExec P cfg c σ).2 ∧ (fileExec P cfg c σ).2.maps = putReturned P cfg c σ.maps := by
  cases c with
  | restart =>
    have hsame : rebuildIndexes σ.file = σ.maps := by
      rw [h.file_eq]
      exact load_snapshot h.aligned
    refine ⟨⟨?_, ?_⟩, hsame⟩
    · show Aligned (rebuildIndexes σ.file)
      rw [hsame]
      exact h.aligned
    · show σ.file = snapshot (rebuildIndexes σ.file)
      rw [hsame]
      exact h.file_eq
  | call fails d =>
    have haccounted : Accounted P cfg σ.maps d := exec_accounted h.aligned (hc fails d rfl)
    have hreturned := (List.prefix_append _ _).trans (attempt_initial fails 0 (writes P cfg d σ.maps))
    have hafter : (fileExec P cfg (.call fails d) σ).2 =
        (attempt fails 0 (writes P cfg d σ.maps)).1.foldl FileState.written σ := by
      simp only [fileExec]
      cases hw : (attempt fails 0 (writes P cfg d σ.maps)).2 with
      | none => rfl
      | some w => exact failed_eq (hlost w hw)
    rw [hafter]
    exact written_foldl h (haccounted.fits.of_isPrefix hreturned)

/-- A record that is written at once is the only write of its route, unless the route redeems a
token. -/
lemma returnedWrites_eq_nil {fails : Nat → Bool} (hc : c.redeems = false)
    (hw : failingWrite P cfg s (.call fails c) = some w) (hplace : w.inPlace = false) :
    returnedWrites P cfg s (.call fails c) = [] := by
  have hprefix := attempt_initial fails 0 (writes P cfg c s)
  rw [show (attempt fails 0 (writes P cfg c s)).2 = some w from hw] at hprefix
  have hmem : w ∈ writes P cfg c s := hprefix.subset (List.mem_append_right _ (.head _))
  -- a route with one write cannot have made it before it fails
  have hsingle : (writes P cfg c s).length ≤ 1 → returnedWrites P cfg s (.call fails c) = [] := by
    intro hle
    have hlen := hprefix.length_le
    rw [List.length_append] at hlen
    simp only [Option.toList_some, List.length_singleton] at hlen
    exact List.length_eq_zero_iff.mp (show (attempt fails 0 (writes P cfg c s)).1.length = 0 by omega)
  have hleft : ∀ {ν : Type} (t : Table String ν) (k : String) (f : ν → Write),
      (left t k f).length ≤ 1 := by
    intro ν t k f
    unfold left
    cases t.get? k with
    | none => simp
    | some v => simp
  -- closing and deciding are writes of stored holds
  have hclosing : w ∉ closings c s := by
    intro hclosing
    obtain ⟨x, -, hx⟩ := List.mem_filterMap.mp hclosing
    unfold closing at hx
    split at hx
    · cases hx
      cases hplace
    · cases hx
  cases c with
  | redeemPairing | redeemDevicePairing => cases hc
  | createPairing => exact hsingle (hleft _ _ _)
  | createDevicePairing | registerDevice | registerPush | createHold | claimDevice | revokeSelf =>
    apply hsingle
    simp only [writes]
    split
    · exact hleft _ _ _
    · exact Nat.zero_le 1
  | putManifest =>
    apply hsingle
    simp only [writes]
    split
    · exact Nat.zero_le 1
    · split
      · exact Nat.le_refl 1
      · exact Nat.zero_le 1
  | decide clock device id input =>
    simp only [writes] at hmem
    rcases List.mem_append.mp hmem with hmem | hmem
    · exact absurd hmem hclosing
    · split at hmem
      · obtain ⟨h, -, rfl⟩ := List.mem_map.mp hmem
        cases hplace
      · cases hmem
  | _ => exact absurd hmem hclosing

/-- The answers of the relay that goes on from a state. -/
def answersFrom (P : RelayPlatform) (cfg : RelayConfig) (σ : FileState) (later : List FileCall) :
    List (FileCall × Outcome) :=
  { fileRelay P cfg with init := σ }.answers (fun _ => true) later

/-- From the state every route answers as from the maps `s`, and a restart loads them. -/
structure ActsAs (P : RelayPlatform) (cfg : RelayConfig) (σ : FileState) (s : Store) : Prop where
  reads : ∀ later, answersFrom P cfg σ later = answersFrom P cfg ⟨s, snapshot s⟩ later
  restarts : rebuildIndexes σ.file = s

lemma Synced.actsAs (h : Synced σ) : ActsAs P cfg σ σ.maps := by
  obtain ⟨maps, file⟩ := σ
  obtain rfl : file = snapshot maps := h.file_eq
  exact ⟨fun _ => rfl, load_snapshot h.aligned⟩

lemma run_synced (hrun : (fileRelay P cfg).Run past)
    (hlost : ∀ e ∈ past, NoHoldLost P cfg e.before.maps e.call) :
    Synced ((fileRelay P cfg).state past) := by
  induction hrun with
  | start => exact ⟨aligned_empty, rfl⟩
  | serve run hallowed ih =>
    have hsynced := ih fun e he => hlost e (.tail _ he)
    refine (fileExec_eq hsynced ?_ (hlost _ (.head _))).1
    rintro fails d rfl
    exact hallowed

/-- After a call that threw, every route answers, and a restart loads, as if the call had made only the
writes that returned; these are none unless the call redeems a token. No write failed that changed a
stored hold. -/
theorem failed_calls_leave_returned (P : RelayPlatform) (cfg : RelayConfig)
    (past : List (Served FileState FileCall Outcome)) (e : Served FileState FileCall Outcome)
    (hrun : (fileRelay P cfg).Run (e :: past))
    (hlost : ∀ e' ∈ e :: past, NoHoldLost P cfg e'.before.maps e'.call)
    (hthrew : e.answer = .threw) : ActsAs P cfg e.after (putReturned P cfg e.call e.before.maps) ∧
      ((∀ fails c, e.call = .call fails c → c.redeems = false) →
        putReturned P cfg e.call e.before.maps = e.before.maps) := by
  have hbefore : Synced e.before := by
    rw [hrun.before_eq]
    exact run_synced hrun.tail fun e' he' => hlost e' (.tail _ he')
  have hallowed := hrun.head.1
  have hexec : fileExec P cfg e.call e.before = (e.answer, e.after) := hrun.exec_eq
  have hlost := hlost e (.head _)
  obtain ⟨hsynced, hmaps⟩ := fileExec_eq (c := e.call) hbefore
    (fun fails d hd => by
      rw [hd] at hallowed
      rw [hrun.before_eq]
      exact hallowed) hlost
  rw [hexec] at hsynced hmaps
  constructor
  · rw [← hmaps]
    exact hsynced.actsAs
  · intro hredeems
    cases hcall : e.call with
    | restart =>
      rw [hcall, hthrew] at hexec
      cases hexec
    | call fails c =>
      cases hw : failingWrite P cfg e.before.maps e.call with
      | none =>
        rw [hcall] at hexec hw
        simp only [fileExec, show (attempt fails 0 (writes P cfg c e.before.maps)).2 = none from hw,
          hthrew] at hexec
        cases hexec
      | some w =>
        have hplace := hlost w hw
        rw [hcall] at hw
        show putAll (returnedWrites P cfg e.before.maps (.call fails c)) e.before.maps = _
        rw [returnedWrites_eq_nil (hredeems fails c hcall) hw hplace]
        rfl

namespace SampleRelay

/-- A token is issued. -/
def issuing (fails : Nat → Bool) : FileCall :=
  .call fails (.createPairing (fun _ => 0) "a" (.obj [("tenant", .str "acme")]))

/-- The token is redeemed, and the second write fails. -/
def redeeming : FileCall :=
  .call (fun i => i == 1) (.redeemPairing (fun _ => 0) "agent-1" "key"
    (.obj [("token", .str "noa_pair_a"), ("name", .str "bookkeeper")]))

abbrev issued : List (Served FileState FileCall Outcome) :=
  (fileRelay platform config).play [issuing fun _ => false]

abbrev redeemed : Served FileState FileCall Outcome := (fileRelay platform config).serve issued redeeming

lemma run_redeemed : (fileRelay platform config).Run (redeemed :: issued) := by
  refine .serve (.serve .start ?_) ?_
  · exact ⟨by decide, rfl⟩
  · exact ⟨by decide, rfl⟩

/-- The agent is in the maps and in the file. -/
lemma redeemed_agents : redeemed.before.maps.agents.get? "agent-1" = none ∧
      ((rebuildIndexes redeemed.after.file).agents.get? "agent-1").isSome = true ∧
      (failingWrite platform config redeemed.before.maps redeemed.call).isSome = true := by
  decide

end SampleRelay

/-- A token that is not issued leaves no trace. -/
theorem failed_calls_leave_returned_issuing : ActsAs SampleRelay.platform SampleRelay.config
      ((fileRelay SampleRelay.platform SampleRelay.config).serve []
        (SampleRelay.issuing fun _ => true)).after {} := by
  obtain ⟨hacts, hnone⟩ := failed_calls_leave_returned SampleRelay.platform SampleRelay.config []
    ((fileRelay SampleRelay.platform SampleRelay.config).serve [] (SampleRelay.issuing fun _ => true))
    (.serve .start ⟨by decide, rfl⟩)
    (fun e he w hw => by
      obtain rfl := List.mem_singleton.mp he
      cases hw
      rfl) rfl
  rw [hnone fun fails c hc => by cases hc; rfl] at hacts
  exact hacts

/-- A redemption whose second write fails leaves the agent. -/
theorem redeemed_agent_left : (fileRelay SampleRelay.platform SampleRelay.config).Run
        (SampleRelay.redeemed :: SampleRelay.issued) ∧
      SampleRelay.redeemed.answer = .threw ∧
      ¬ActsAs SampleRelay.platform SampleRelay.config SampleRelay.redeemed.after
        SampleRelay.redeemed.before.maps := by
  obtain ⟨hbefore, hafter, hfailing⟩ := SampleRelay.redeemed_agents
  refine ⟨SampleRelay.run_redeemed, ?_, fun h => ?_⟩
  · obtain ⟨w, hw⟩ := Option.isSome_iff_exists.mp hfailing
    show (fileExec SampleRelay.platform SampleRelay.config SampleRelay.redeeming
      SampleRelay.redeemed.before).1 = .threw
    simp only [SampleRelay.redeeming, fileExec]
    rw [show (attempt _ 0 _).2 = some w from hw]
  · rw [h.restarts, hbefore] at hafter
    cases hafter

end Relay

end NoaMandate
