import NoaMandate.Relay.Idempotency

/-!
# Agents do not observe each other's holds

All agents share one table of holds.  Listings, counters, the check for a reused deferred receipt and
the sweep walk the whole table; nevertheless an agent and its devices are answered as if no other
agent had called.

The part of the store that is an agent's is a store of its own (`Store.only`): the holds of the agent
and the entries of the index under its keys, in their order.  An agent's call acts on that part as it
acts on the store (`exec_only`), a call of another agent does not change the part
(`exec_only_of_other`), and a sweep closes in both what has run out (`sweep_only`).  The two runs are
compared by `Service.answers_filter`.

A sweep reads the clock anew for each hold it looks at.  Two runs with different holds read it
differently often, so the readings are given for each hold (`HoldCall.sweepExpired`); every sweep is
one of that form (`exists_readings`).
-/

namespace NoaMandate

namespace Relay

open Pipeline

variable {P : RelayPlatform} {cfg : RelayConfig} {s : Store} {a : String}

/-! ## Calls on holds -/

/-- A call on holds. A sweep is given the two readings of the clock for the hold of each id. -/
inductive HoldCall where
  | createHold (clock : Nat → Int) (newId : String) (agent : AgentRecord)
      (idempotencyKey : Option String) (input : Json)
  | getHold (clock : Nat → Int) (agent : AgentRecord) (id : String)
  | getDisplay (device : DeviceRecord) (id : String)
  | getHoldContext (device : DeviceRecord) (id : String)
  | listPending (clock : Nat → Int) (device : DeviceRecord)
  | decide (clock : Nat → Int) (device : DeviceRecord) (holdId : String) (input : Json)
  | sweepExpired (readings : String → Int × Int)

/-- The clock of a sweep that walks the holds of the list, each with its readings. -/
def sweepClock (readings : String → Int × Int) (holds : List HoldRecord) (n : Nat) : Int :=
  match holds[n / 2]? with
  | some h => if n % 2 = 0 then (readings h.id).1 else (readings h.id).2
  | none => 0

namespace HoldCall

/-- The call of the engine, on a store. -/
def call (s : Store) : HoldCall → Call
  | .createHold clock newId agent idempotencyKey input =>
    .createHold clock newId agent idempotencyKey input
  | .getHold clock agent id => .getHold clock agent id
  | .getDisplay device id => .getDisplay device id
  | .getHoldContext device id => .getHoldContext device id
  | .listPending clock device => .listPending clock device
  | .decide clock device holdId input => .decide clock device holdId input
  | .sweepExpired readings => .sweepExpired (sweepClock readings (s.listHolds (some .PENDING)))

/-- The agent that calls, itself or through a device it has claimed. -/
def owner : HoldCall → Option String
  | .createHold _ _ agent _ _ => some agent.id
  | .getHold _ agent _ => some agent.id
  | .getDisplay device _ => device.agentId
  | .getHoldContext device _ => device.agentId
  | .listPending _ device => device.agentId
  | .decide _ device _ _ => device.agentId
  | .sweepExpired _ => none

/-- The call is made by the agent or one of its devices. -/
def isOf (a : String) (c : HoldCall) : Bool := c.owner = some a

/-- The call is a sweep, or made by the agent or one of its devices. -/
def isKept (a : String) : HoldCall → Bool
  | .sweepExpired _ => true
  | c => c.isOf a

/-- The id that the call draws. -/
def newId? : HoldCall → Option String
  | .createHold _ newId _ _ _ => some newId
  | _ => none

/-- The chain hash of the deferred receipt that the call submits. -/
def submitted : HoldCall → Option String
  | .createHold _ _ _ _ input => (parseReceiptOrNull (input.get? "deferredReceipt")).bind chainHash
  | _ => none

/-- The caller is one of the agents and claimed devices of the store. -/
def CalledFrom (base : Store) : HoldCall → Prop
  | .createHold _ _ agent _ _ => base.agents.get? agent.id = some agent
  | .getHold _ agent _ => base.agents.get? agent.id = some agent
  | .getDisplay device _ => base.devices.get? device.id = some device ∧ device.agentId.isSome
  | .getHoldContext device _ => base.devices.get? device.id = some device ∧ device.agentId.isSome
  | .listPending _ device => base.devices.get? device.id = some device ∧ device.agentId.isSome
  | .decide _ device _ _ => base.devices.get? device.id = some device ∧ device.agentId.isSome
  | .sweepExpired _ => True

end HoldCall

/-- The hold routes of the relay, on agents and devices that stay as they are. -/
def holdRelay (P : RelayPlatform) (cfg : RelayConfig) (base : Store) :
    Service Store HoldCall (Option EngineResult) where
  init := base
  exec c s := exec P cfg (c.call s) s
  allowed _ c := c.CalledFrom base

/-- Calls by known callers that draw fresh ids, and of which no two agents submit deferred receipts
with one chain hash. -/
structure Separate (base : Store) (calls : List HoldCall) : Prop where
  calledFrom : ∀ c ∈ calls, c.CalledFrom base
  named : ∀ id ∈ calls.filterMap HoldCall.newId?, id ≠ ""
  fresh : (calls.filterMap HoldCall.newId?).Nodup
  apart : ∀ c ∈ calls, ∀ c' ∈ calls, ∀ hash, c.submitted = some hash → c'.submitted = some hash →
    c.owner = c'.owner

/-! ## Sweeps -/

/-- The hold after a sweep. -/
def HoldRecord.swept (readings : String → Int × Int) (h : HoldRecord) : HoldRecord :=
  if h.status = .PENDING ∧ (readings h.id).1 ≥ h.expiresAt then h.closed (readings h.id).2 else h

/-- The store with every hold changed. -/
def Store.mapHolds (f : HoldRecord → HoldRecord) (s : Store) : Store :=
  { s with holds := s.holds.mapValues f }

lemma mapHolds_congr {f g : HoldRecord → HoldRecord}
    (h : ∀ id x, s.holds.get? id = some x → f x = g x) : s.mapHolds f = s.mapHolds g := by
  unfold Store.mapHolds
  rw [Table.mapValues_congr h]

lemma mapHolds_eq_self {f : HoldRecord → HoldRecord}
    (h : ∀ id x, s.holds.get? id = some x → f x = x) : s.mapHolds f = s := by
  unfold Store.mapHolds
  rw [Table.mapValues_eq_self h]

lemma mapHolds_mapHolds (f g : HoldRecord → HoldRecord) (s : Store) :
    (s.mapHolds f).mapHolds g = s.mapHolds (g ∘ f) := by
  unfold Store.mapHolds
  rw [Table.mapValues_mapValues]

lemma HoldRecord.swept_id (readings : String → Int × Int) (h : HoldRecord) :
    (h.swept readings).id = h.id ∧ (h.swept readings).agentId = h.agentId := by
  unfold HoldRecord.swept
  split
  · exact ⟨rfl, rfl⟩
  · exact ⟨rfl, rfl⟩

/-- With that clock each hold of the list is looked at with its own readings. -/
lemma pendingReadings_sweepClock (readings : String → Int × Int) (s : Store) :
    pendingReadings (sweepClock readings (s.listHolds (some .PENDING))) s =
      (s.listHolds (some .PENDING)).map fun h => (h, readings h.id) := by
  unfold pendingReadings
  generalize s.listHolds (some .PENDING) = holds
  apply List.ext_getElem
  · simp
  · intro i hi _
    have hlt : i < holds.length := by simpa using hi
    have hodd : (2 * i + 1) / 2 = i := by omega
    simp [sweepClock, hodd, List.getElem?_eq_getElem hlt]

/-- A sweep looks at each hold once, so its clock can be told by the ids of the holds. -/
lemma exists_readings (hs : HoldsKeyed s) (clock : Nat → Int) : ∃ readings, sweepExpired clock s =
      sweepExpired (sweepClock readings (s.listHolds (some .PENDING))) s := by
  have hnodup : ((s.listHolds (some .PENDING)).map HoldRecord.id).Nodup :=
    (List.filter_sublist.map _).nodup hs.values_nodup
  let place (id : String) : Nat := ((s.listHolds (some .PENDING)).map HoldRecord.id).idxOf id
  refine ⟨fun id => (clock (2 * place id), clock (2 * place id + 1)), ?_⟩
  unfold sweepExpired
  rw [pendingReadings_sweepClock]
  refine congrArg (fun l => expireAll l 0 s) ?_
  unfold pendingReadings
  apply List.ext_getElem
  · simp
  · intro i hi _
    have hlt : i < (s.listHolds (some .PENDING)).length := by simpa using hi
    have hplace : place (s.listHolds (some .PENDING))[i].id = i := by
      have hget := hnodup.idxOf_getElem i (by simpa using hlt)
      rw [List.getElem_map] at hget
      exact hget
    simp [hplace]

variable {h : HoldRecord}

lemma HoldsKeyed.lazyExpire (hs : HoldsKeyed s) {now time : Int} :
    HoldsKeyed (Relay.lazyExpire now time h s).2 := by
  intro id g hg
  rw [lazyExpire_get?] at hg
  split at hg
  · rename_i hand
    cases hg
    exact hand.1.symm
  · exact hs id g hg

lemma IdemIndexed.lazyExpire (hs : IdemIndexed s) {now time : Int}
    (hstored : s.holds.get? h.id = some h) : IdemIndexed (Relay.lazyExpire now time h s).2 := by
  unfold Relay.lazyExpire
  split
  · exact hs.rewritten hstored rfl rfl rfl
  · exact hs

/-- Writing a stored hold back changes its record, where it stands, and nothing else. -/
lemma putHold_eq (hkeyed : HoldsKeyed s) (hindexed : IdemIndexed s) {g : HoldRecord}
    (hstored : s.holds.get? h.id = some h) (hid : g.id = h.id) (hagent : g.agentId = h.agentId)
    (hkey : g.idempotencyKey = h.idempotencyKey) :
    s.putHold g = s.mapHolds fun x => if x.id = h.id then g else x := by
  have hindex : s.holdsByIdem.set (Store.idemKey g.agentId g.idempotencyKey) g.id =
      s.holdsByIdem := by
    rw [hagent, hkey, hid]
    exact Table.set_of_get? (hindexed.indexed h.id h hstored)
  have hholds : s.holds.set g.id g =
      s.holds.mapValues fun x => if x.id = h.id then g else x := by
    apply Table.ext_entries
    rw [hid, Table.entries_set_of_some hstored]
    refine List.map_congr_left fun e he => ?_
    show _ = (e.1, if e.2.id = h.id then g else e.2)
    rw [hkeyed e.1 e.2 (Table.mem_entries_iff.mp he)]
    by_cases heq : e.1 = h.id
    · rw [if_pos heq, if_pos heq, heq]
    · rw [if_neg heq, if_neg heq]
  unfold Store.putHold Store.mapHolds
  rw [hindex, hholds]

variable (hkeyed : HoldsKeyed s) (hindexed : IdemIndexed s) (readings : String → Int × Int)

include hkeyed hindexed readings in
lemma lazyExpire_eq (hstored : s.holds.get? h.id = some h) :
    (lazyExpire (readings h.id).1 (readings h.id).2 h s).2 =
      s.mapHolds fun g => if g.id = h.id then g.swept readings else g := by
  have hself : ∀ id g, s.holds.get? id = some g → g.id = h.id → g = h := by
    intro id g hg heq
    rw [hkeyed id g hg] at heq
    rw [heq, hstored] at hg
    exact (Option.some.inj hg).symm
  unfold lazyExpire
  by_cases hexpired : h.status = .PENDING ∧ (readings h.id).1 ≥ h.expiresAt
  · rw [if_pos hexpired]
    show s.putHold (h.closed (readings h.id).2) = _
    rw [putHold_eq (g := h.closed (readings h.id).2) hkeyed hindexed hstored rfl rfl rfl]
    refine mapHolds_congr fun id g hg => ?_
    by_cases heq : g.id = h.id
    · rw [if_pos heq, if_pos heq, hself id g hg heq, HoldRecord.swept, if_pos hexpired]
    · rw [if_neg heq, if_neg heq]
  · rw [if_neg hexpired]
    refine (mapHolds_eq_self fun id g hg => ?_).symm
    by_cases heq : g.id = h.id
    · rw [if_pos heq, hself id g hg heq, HoldRecord.swept, if_neg hexpired]
    · rw [if_neg heq]

include hkeyed hindexed readings in
/-- Closing the holds of a list. -/
lemma expireAll_eq {l : List HoldRecord}
    (hl : Listed s (l.map fun h => (h, readings h.id))) (n : Nat) :
    (expireAll (l.map fun h => (h, readings h.id)) n s).2 =
      s.mapHolds fun g => if g.id ∈ l.map HoldRecord.id then g.swept readings else g := by
  induction l generalizing s n with
  | nil => exact (mapHolds_eq_self fun _ g _ => if_neg List.not_mem_nil).symm
  | cons h l ih =>
    have hstored : s.holds.get? h.id = some h := hl.stored _ (.head _)
    have hnew : h.id ∉ l.map HoldRecord.id := by
      have hnodup := hl.nodup
      rw [List.map_map] at hnodup
      exact (List.nodup_cons.mp hnodup).1
    refine (ih hkeyed.lazyExpire (hindexed.lazyExpire hstored) hl.rest _).trans ?_
    rw [lazyExpire_eq hkeyed hindexed readings hstored, mapHolds_mapHolds]
    refine mapHolds_congr fun id g _ => ?_
    show _ = if g.id ∈ h.id :: l.map HoldRecord.id then g.swept readings else g
    rw [Function.comp_apply]
    by_cases heq : g.id = h.id
    · rw [if_pos heq, (g.swept_id readings).1, heq, if_neg hnew, if_pos (.head _)]
    · rw [if_neg heq]
      by_cases hmem : g.id ∈ l.map HoldRecord.id
      · rw [if_pos hmem, if_pos (.tail _ hmem)]
      · rw [if_neg hmem, if_neg (List.not_mem_cons_of_ne_of_not_mem heq hmem)]

include hkeyed hindexed readings in
/-- A sweep looks at every hold. -/
lemma sweep_eq :
    exec P cfg ((HoldCall.sweepExpired readings).call s) s =
      (none, s.mapHolds (HoldRecord.swept readings)) := by
  have hlisted := listed_pending hkeyed (sweepClock readings (s.listHolds (some .PENDING)))
  show (none, (sweepExpired _ s).2) = _
  rw [pendingReadings_sweepClock] at hlisted
  rw [sweepExpired, pendingReadings_sweepClock, expireAll_eq hkeyed hindexed readings hlisted]
  refine congrArg (none, ·) (mapHolds_congr fun id g hg => ?_)
  by_cases hmem : g.id ∈ (s.listHolds (some .PENDING)).map HoldRecord.id
  · rw [if_pos hmem]
  · rw [if_neg hmem, HoldRecord.swept, if_neg]
    rintro ⟨hpending, -⟩
    refine hmem (List.mem_map_of_mem (Store.mem_listHolds.mpr ⟨⟨id, hg⟩, ?_⟩))
    rintro t ⟨⟩
    exact hpending

/-! ## The part of an agent -/

/-- The key of the index is one of the agent's. -/
def isIdemKeyOf (a k : String) : Bool := (Text.chars (Store.idemKey a "")).isPrefixOf (Text.chars k)

lemma isIdemKeyOf_idemKey (a b key : String) :
    isIdemKeyOf a (Store.idemKey b key) = true ↔ b = a := by
  unfold isIdemKeyOf
  rw [List.isPrefixOf_iff_prefix, Text.chars_eq_toList, Text.chars_eq_toList]
  constructor
  · rintro ⟨rest, hrest⟩
    have hkey : Store.idemKey a (String.ofList rest) = Store.idemKey b key := by
      apply String.toList_inj.mp
      rw [← hrest, toList_idemKey, toList_idemKey]
      simp
    exact (idemKey_injective hkey).1.symm
  · rintro rfl
    refine ⟨key.toList, ?_⟩
    rw [toList_idemKey, toList_idemKey]
    simp

/-- The holds of an agent and its entries of the index. -/
def Store.only (s : Store) (a : String) : Store :=
  { s with
    holds := s.holds.keep fun _ h => h.agentId = a
    holdsByIdem := s.holdsByIdem.keep fun k _ => isIdemKeyOf a k }

lemma getHold_only (id : String) :
    (s.only a).holds.get? id = (s.holds.get? id).filter fun h => h.agentId = a :=
  Table.get?_keep _ _ _

lemma idem_only (k : String) : (s.only a).holdsByIdem.get? k =
      (s.holdsByIdem.get? k).filter fun _ => isIdemKeyOf a k :=
  Table.get?_keep _ _ _

/-- Whoever only asks for holds of the agent finds them in its part. -/
lemma filter_getHold_only {p : HoldRecord → Bool} (hp : ∀ h, p h = true ↔ h.agentId = a)
    (id : String) : ((s.only a).getHold id).filter p = (s.getHold id).filter p := by
  unfold Store.getHold
  rw [getHold_only, Option.filter_filter]
  refine congrArg (Option.filter · _) (funext fun h => ?_)
  rw [Bool.eq_iff_iff]
  simp [hp]

lemma values_only : (s.only a).holds.values = s.holds.values.filter fun h => h.agentId = a :=
  Table.values_keep _ _

/-- Opening or writing back a hold of the agent. -/
lemma only_putHold (ha : h.agentId = a) (hold : ∀ g, s.holds.get? h.id = some g → g.agentId = a) :
    (s.putHold h).only a = (s.only a).putHold h := by
  unfold Store.putHold Store.only
  have hkey := (isIdemKeyOf_idemKey a h.agentId h.idempotencyKey).mpr ha
  rw [Table.keep_set_of_pos (by simpa using ha) (by simpa using hold),
    Table.keep_set_of_pos (p := fun k _ => isIdemKeyOf a k) hkey fun _ _ => hkey]

/-- Opening or writing back a hold of another agent. -/
lemma only_putHold_of_other (ha : h.agentId ≠ a)
    (hold : ∀ g, s.holds.get? h.id = some g → g.agentId ≠ a) : (s.putHold h).only a = s.only a := by
  have hkey : isIdemKeyOf a (Store.idemKey h.agentId h.idempotencyKey) = false :=
    Bool.eq_false_iff.mpr fun h => ha ((isIdemKeyOf_idemKey _ _ _).mp h)
  unfold Store.putHold Store.only
  rw [Table.keep_set_of_neg (by simpa using ha) (by simpa using hold),
    Table.keep_set_of_neg (p := fun k _ => isIdemKeyOf a k) hkey fun _ _ => hkey]

lemma HoldsKeyed.only (hs : HoldsKeyed s) : HoldsKeyed (s.only a) := by
  intro id h hh
  rw [getHold_only, Option.filter_eq_some_iff] at hh
  exact hs id h hh.1

lemma IdemIndexed.only (hs : IdemIndexed s) : IdemIndexed (s.only a) where
  indexed id h hh := by
    rw [getHold_only, Option.filter_eq_some_iff] at hh
    rw [idem_only, hs.indexed id h hh.1, Option.filter_some, if_pos]
    exact (isIdemKeyOf_idemKey _ _ _).mpr (of_decide_eq_true hh.2)
  known k id hk := by
    rw [idem_only, Option.filter_eq_some_iff] at hk
    obtain ⟨hne, h, hh, hkey⟩ := hs.known k id hk.1
    refine ⟨hne, h, ?_, hkey⟩
    rw [getHold_only, hh, Option.filter_some, if_pos]
    have hof : isIdemKeyOf a (Store.idemKey h.agentId h.idempotencyKey) = true := hkey ▸ hk.2
    exact decide_eq_true ((isIdemKeyOf_idemKey _ _ _).mp hof)

/-! ## Calls on the part -/

include hkeyed hindexed readings in
lemma sweep_only :
    exec P cfg ((HoldCall.sweepExpired readings).call (s.only a)) (s.only a) =
      (none, (exec P cfg ((HoldCall.sweepExpired readings).call s) s).2.only a) := by
  rw [sweep_eq hkeyed.only hindexed.only, sweep_eq hkeyed hindexed]
  refine congrArg (none, ·) ?_
  unfold Store.mapHolds Store.only
  rw [Table.keep_mapValues (p := fun h : HoldRecord => (h.agentId = a : Bool)) fun h => by
    rw [(h.swept_id readings).2]]

/-- Closing a hold of the agent that has run out. -/
lemma lazyExpire_only (hstored : s.holds.get? h.id = some h) (ha : h.agentId = a) (now time : Int) :
    lazyExpire now time h (s.only a) =
      ((lazyExpire now time h s).1, (lazyExpire now time h s).2.only a) := by
  unfold lazyExpire
  split
  · refine congrArg (h.closed time, ·) (only_putHold (h := h.closed time) ha fun g hg => ?_).symm
    cases hstored.symm.trans hg
    exact ha
  · rfl

/-- Closing a hold of another agent that has run out. -/
lemma lazyExpire_only_of_other (hstored : s.holds.get? h.id = some h)
    (ha : h.agentId ≠ a) (now time : Int) : (lazyExpire now time h s).2.only a = s.only a := by
  unfold lazyExpire
  split
  · refine only_putHold_of_other (h := h.closed time) ha fun g hg => ?_
    cases hstored.symm.trans hg
    exact ha
  · rfl

/-- The hold that is returned is the one that is stored. -/
lemma lazyExpire_stored (hstored : s.holds.get? h.id = some h) (now time : Int) :
    (lazyExpire now time h s).2.holds.get? h.id = some (lazyExpire now time h s).1 ∧
      (lazyExpire now time h s).1.id = h.id ∧ (lazyExpire now time h s).1.agentId = h.agentId := by
  unfold lazyExpire
  split
  · exact ⟨Table.get?_set_self _ _ _, rfl, rfl⟩
  · exact ⟨hstored, rfl, rfl⟩

/-- A hold that is found is stored under its id. -/
lemma stored_of_filter (hkeyed : HoldsKeyed s) {p : HoldRecord → Bool} {id : String} (hfound : (s.getHold id).filter p = some h) :
    s.holds.get? h.id = some h ∧ p h = true := by
  rw [Option.filter_eq_some_iff] at hfound
  have hstored : s.holds.get? id = some h := hfound.1
  rw [hkeyed id h hstored]
  exact ⟨hstored, hfound.2⟩

lemma getHold_exec_only (hkeyed : HoldsKeyed s) (clock : Nat → Int) {agent : AgentRecord}
    (ha : agent.id = a) (id : String) : getHold P clock agent id (s.only a) =
      ((getHold P clock agent id s).1, (getHold P clock agent id s).2.only a) := by
  have hp : ∀ h, ownsHold agent h = true ↔ h.agentId = a := by simp [ownsHold, ha]
  unfold getHold
  rw [filter_getHold_only hp]
  cases hfound : (s.getHold id).filter (ownsHold agent) with
  | none => rfl
  | some h =>
    obtain ⟨hstored, howned⟩ := stored_of_filter hkeyed hfound
    simp only [lazyExpire_only hstored ((hp h).mp howned)]

lemma decide_only (hkeyed : HoldsKeyed s) (clock : Nat → Int) {device : DeviceRecord}
    (ha : device.agentId = some a) (id : String) (input : Json) :
    decide P clock device id input (s.only a) =
      ((decide P clock device id input s).1, (decide P clock device id input s).2.only a) := by
  have hp : ∀ h, deviceOwnsHold device h = true ↔ h.agentId = a := by
    simp [deviceOwnsHold, ha, eq_comm]
  unfold decide
  rw [filter_getHold_only hp]
  cases hfound : (s.getHold id).filter (deviceOwnsHold device) with
  | none => rfl
  | some h =>
    obtain ⟨hstored, howned⟩ := stored_of_filter hkeyed hfound
    obtain ⟨hkept, hid, hagent⟩ := lazyExpire_stored hstored (clock 0) (clock 1)
    simp only [lazyExpire_only hstored ((hp h).mp howned)]
    generalize lazyExpire (clock 0) (clock 1) h s = x at hkept hid hagent
    obtain ⟨g, s'⟩ := x
    have hg : g.agentId = a := hagent.trans ((hp h).mp howned)
    -- what a decision is checked against is not about holds
    have hcheck : checkDecision P device g input (s'.only a) = checkDecision P device g input s' :=
      rfl
    rw [hcheck]
    by_cases hpending : g.status = .PENDING
    · cases checkDecision P device g input s' with
      | error r => simp [hpending, refuse_false, ok_bind, answered]
      | ok y =>
        let artifact := (Artifact.present? (input.get? "decisionArtifact")).bind inertSnapshot
        have hput := only_putHold (s := s') (h := g.decided y.1 artifact y.2 (clock 2)) hg
          fun g' hg' => by
            cases hkept.symm.trans (hid ▸ hg')
            exact hg
        simp only [hpending, ne_eq, not_true_eq_false, decide_false, refuse_false, ok_bind, answered]
        exact congrArg (_, ·) hput.symm
    · simp [hpending, refuse, answered, error_bind]

lemma getHoldByIdem_only (hindexed : IdemIndexed s) (key : String) :
    (s.only a).getHoldByIdem a key = s.getHoldByIdem a key := by
  apply Option.ext
  intro h
  rw [getHoldByIdem_eq_some_iff hindexed, getHoldByIdem_eq_some_iff hindexed.only]
  refine and_congr_left fun hof => exists_congr fun id => ?_
  rw [getHold_only, Option.filter_eq_some_iff]
  exact and_iff_left (decide_eq_true hof.1)

lemma countPending_only : (s.only a).countPending a = s.countPending a := by
  unfold Store.countPending
  rw [values_only, List.countP_filter]
  refine List.countP_congr fun h _ => ?_
  simp [and_comm]

/-- No other agent's hold carries a deferred receipt with the hash. -/
def Unshared (s : Store) (a hash : String) : Prop :=
  ∀ id h, s.holds.get? id = some h → h.deferredReceipt.bind chainHash = some hash → h.agentId = a

lemma deferredReused_only {hash : String} (hhash : Unshared s a hash) :
    deferredReused (s.only a) hash = deferredReused s hash := by
  have hall : ∀ t : Store, t.listHolds none = t.holds.values := by simp [Store.listHolds]
  unfold deferredReused
  rw [hall, hall, values_only, Bool.eq_iff_iff, List.any_eq_true, List.any_eq_true]
  constructor
  · rintro ⟨h, hmem, hh⟩
    exact ⟨h, (List.mem_filter.mp hmem).1, hh⟩
  · rintro ⟨h, hmem, hh⟩
    obtain ⟨id, hid⟩ := Table.mem_values_iff.mp hmem
    have ha : h.agentId = a := by
      refine hhash id h hid ?_
      cases hr : h.deferredReceipt with
      | none =>
        rw [hr] at hh
        cases hh
      | some r =>
        rw [hr] at hh
        exact of_decide_eq_true hh
    exact ⟨h, List.mem_filter.mpr ⟨hmem, decide_eq_true ha⟩, hh⟩

lemma createHold_only (hindexed : IdemIndexed s) (clock : Nat → Int) {newId : String}
    {agent : AgentRecord} (ha : agent.id = a) (idempotencyKey : Option String) {input : Json}
    (hfresh : FreshIn s.holds newId)
    (hhash : ∀ hash, (parseReceiptOrNull (input.get? "deferredReceipt")).bind chainHash = some hash →
      Unshared s a hash) : createHold P cfg clock newId agent idempotencyKey input (s.only a) =
      ((createHold P cfg clock newId agent idempotencyKey input s).1,
        (createHold P cfg clock newId agent idempotencyKey input s).2.only a) := by
  have hreused : ((parseReceiptOrNull (input.get? "deferredReceipt")).bind chainHash).any
        (deferredReused (s.only a)) =
      ((parseReceiptOrNull (input.get? "deferredReceipt")).bind chainHash).any (deferredReused s) := by
    cases hsubmitted : (parseReceiptOrNull (input.get? "deferredReceipt")).bind chainHash with
    | none => rfl
    | some hash => exact deferredReused_only (hhash hash hsubmitted)
  have hcheck : checkHold P cfg (clock 0) newId agent idempotencyKey input (s.only a) =
      checkHold P cfg (clock 0) newId agent idempotencyKey input s := by
    unfold checkHold
    simp only [ha, getHoldByIdem_only hindexed, countPending_only, hreused]
  unfold createHold
  rw [hcheck]
  cases hopened : checkHold P cfg (clock 0) newId agent idempotencyKey input s with
  | error r => rfl
  | ok hold =>
    have hopens := checkHold_eq_ok hopened
    refine congrArg (_, ·) (only_putHold (hopens.agentId_eq.trans ha) fun g hg => ?_).symm
    rw [hopens.id_eq, hfresh.2] at hg
    cases hg

lemma listPending_only (clock : Nat → Int) {device : DeviceRecord} (ha : device.agentId = some a) :
    listPending P clock device (s.only a) = listPending P clock device s := by
  have hrows : ((s.only a).listHolds (some .PENDING)).filter (fun h =>
        deviceOwnsHold device h && clock 0 < h.expiresAt) =
      (s.listHolds (some .PENDING)).filter fun h => deviceOwnsHold device h && clock 0 < h.expiresAt := by
    unfold Store.listHolds
    rw [values_only, List.filter_filter, List.filter_filter, List.filter_filter]
    refine List.filter_congr fun h _ => ?_
    by_cases hh : h.agentId = a
    · simp [hh]
    · simp [hh, deviceOwnsHold, ha, Ne.symm hh]
  unfold listPending
  rw [hrows]

/-- What a call of the agent answers and does is the same on its part of the store. -/
lemma exec_only (hkeyed : HoldsKeyed s) (hindexed : IdemIndexed s) {c : HoldCall}
    (hc : c.isOf a = true) (hfresh : ∀ id, c.newId? = some id → FreshIn s.holds id)
    (hhash : ∀ hash, c.submitted = some hash → Unshared s a hash) :
    exec P cfg (c.call (s.only a)) (s.only a) =
      ((exec P cfg (c.call s) s).1, (exec P cfg (c.call s) s).2.only a) := by
  have howner : c.owner = some a := of_decide_eq_true hc
  have hp : ∀ device : DeviceRecord, device.agentId = some a →
      ∀ h, deviceOwnsHold device h = true ↔ h.agentId = a := by
    intro device hdevice
    simp [deviceOwnsHold, hdevice, eq_comm]
  cases c with
  | createHold clock newId agent key input =>
    exact congrArg answering
      (createHold_only hindexed clock (Option.some.inj howner) key (hfresh newId rfl) hhash)
  | getHold clock agent id =>
    exact congrArg answering (getHold_exec_only hkeyed clock (Option.some.inj howner) id)
  | getDisplay device id =>
    refine congrArg (fun r => (some r, s.only a)) ?_
    unfold getDisplay
    rw [filter_getHold_only (hp device howner)]
  | getHoldContext device id =>
    refine congrArg (fun r => (some r, s.only a)) ?_
    unfold getHoldContext
    rw [filter_getHold_only (hp device howner)]
  | listPending clock device =>
    exact congrArg (fun r => (some r, s.only a)) (listPending_only clock howner)
  | decide clock device id input =>
    exact congrArg answering (decide_only hkeyed clock howner id input)
  | sweepExpired readings => cases howner

/-- What a call of another agent does is not seen in the part. -/
lemma exec_only_of_other (hkeyed : HoldsKeyed s) {c : HoldCall} (hc : c.isKept a = false)
    (hfresh : ∀ id, c.newId? = some id → FreshIn s.holds id) :
    (exec P cfg (c.call s) s).2.only a = s.only a := by
  cases c with
  | createHold clock newId agent key input =>
    have ha : agent.id ≠ a := by simpa [HoldCall.isKept, HoldCall.isOf, HoldCall.owner] using hc
    show (createHold P cfg clock newId agent key input s).2.only a = _
    unfold createHold
    cases hopened : checkHold P cfg (clock 0) newId agent key input s with
    | error r => rfl
    | ok hold =>
      have hopens := checkHold_eq_ok hopened
      refine only_putHold_of_other (hopens.agentId_eq.trans_ne ha) fun g hg => ?_
      rw [hopens.id_eq, (hfresh newId rfl).2] at hg
      cases hg
  | getHold clock agent id =>
    have ha : agent.id ≠ a := by simpa [HoldCall.isKept, HoldCall.isOf, HoldCall.owner] using hc
    show (getHold P clock agent id s).2.only a = _
    unfold getHold
    cases hfound : (s.getHold id).filter (ownsHold agent) with
    | none => rfl
    | some h =>
      obtain ⟨hstored, howned⟩ := stored_of_filter hkeyed hfound
      exact lazyExpire_only_of_other hstored (of_decide_eq_true howned |>.trans_ne ha) _ _
  | getDisplay device id => rfl
  | getHoldContext device id => rfl
  | listPending clock device => rfl
  | decide clock device id input =>
    have ha : device.agentId ≠ some a := of_decide_eq_false hc
    show (decide P clock device id input s).2.only a = _
    unfold decide
    cases hfound : (s.getHold id).filter (deviceOwnsHold device) with
    | none => rfl
    | some h =>
      obtain ⟨hstored, howned⟩ := stored_of_filter hkeyed hfound
      have hh : h.agentId ≠ a := fun heq => ha ((of_decide_eq_true howned).trans (by rw [heq]))
      obtain ⟨hkept, hid, hagent⟩ := lazyExpire_stored hstored (clock 0) (clock 1)
      have hexpired := lazyExpire_only_of_other hstored hh (clock 0) (clock 1)
      dsimp only
      generalize lazyExpire (clock 0) (clock 1) h s = x at hkept hid hagent hexpired
      obtain ⟨g, s'⟩ := x
      have hg : g.agentId ≠ a := hagent.trans_ne hh
      rw [← hexpired]
      rcases answered_cases s' _ with ⟨r, -, heq⟩ | ⟨y, hy, heq⟩
      · rw [heq]
      · rw [heq]
        simp only [ok_iff] at hy
        obtain ⟨-, -, ⟨receipt, verdict⟩, -, rfl⟩ := hy
        refine only_putHold_of_other hg fun g' hg' => ?_
        cases hkept.symm.trans (hid ▸ hg')
        exact hg
  | sweepExpired readings => cases hc

/-! ## Runs -/

/-- What is true of the store after the calls of a run. -/
structure Tracked (base : Store) (cs : List HoldCall) (s : Store) : Prop where
  registry : SameRegistry base s
  keyed : HoldsKeyed s
  indexed : IdemIndexed s
  /-- Every hold was opened by one of the calls. -/
  opened : ∀ id h, s.holds.get? id = some h → ∃ c ∈ cs, c.newId? = some id ∧
    c.owner = some h.agentId ∧ c.submitted = h.deferredReceipt.bind chainHash

section tracked

variable {base : Store} {calls cs : List HoldCall} {c : HoldCall}

lemma Tracked.start (hholds : base.holds = .empty) (hidem : base.holdsByIdem = .empty) :
    Tracked base [] base where
  registry := SameRegistry.refl
  keyed id h hh := by
    rw [hholds] at hh
    cases hh
  indexed := by
    constructor
    · intro id h hh
      rw [hholds] at hh
      cases hh
    · intro k id hk
      rw [hidem] at hk
      cases hk
  opened id h hh := by
    rw [hholds] at hh
    cases hh

variable (ht : Tracked base cs s) (hcalls : Separate base calls) (hsuffix : c :: cs <:+ calls)

include ht hcalls hsuffix in
/-- The id that a call draws is not in use. -/
lemma Tracked.fresh {id : String} (hid : c.newId? = some id) : FreshIn s.holds id := by
  have hmem : c ∈ calls := hsuffix.subset (.head _)
  refine ⟨hcalls.named id (List.mem_filterMap.mpr ⟨c, hmem, hid⟩), ?_⟩
  cases hold : s.holds.get? id with
  | none => rfl
  | some g =>
    obtain ⟨c', hc', hid', -⟩ := ht.opened id g hold
    have hnodup := (hsuffix.sublist.filterMap HoldCall.newId?).nodup hcalls.fresh
    rw [List.filterMap_cons_some hid, List.nodup_cons] at hnodup
    exact absurd (List.mem_filterMap.mpr ⟨c', hc', hid'⟩) hnodup.1

include ht hcalls hsuffix in
lemma Tracked.grounded : (c.call s).Grounded s := by
  have hcalled := hcalls.calledFrom c (hsuffix.subset (.head _))
  cases c with
  | createHold clock newId agent key input => exact ht.fresh hcalls hsuffix rfl
  | decide clock device id input =>
    refine ⟨device, ?_, .refl device⟩
    rw [ht.registry.devices]
    exact hcalled.1
  | _ => trivial

include ht hcalls hsuffix in
/-- A deferred receipt that a call submits is on no hold of another agent. -/
lemma Tracked.unshared (howner : c.owner = some a) {hash : String}
    (hsubmitted : c.submitted = some hash) : Unshared s a hash := by
  intro id g hg hhash
  obtain ⟨c', hc', -, howner', hsubmitted'⟩ := ht.opened id g hg
  have hsame := hcalls.apart c (hsuffix.subset (.head _)) c'
    (hsuffix.subset (.tail _ hc')) hash hsubmitted (hsubmitted'.trans hhash)
  rw [howner, howner'] at hsame
  exact (Option.some.inj hsame).symm

/-- The calls on holds do not write the registry. -/
lemma call_sameRegistry (c : HoldCall) : SameRegistry s (exec P cfg (c.call s) s).2 := by
  rcases (exec_effect (P := P) (c.call s)).registry_cases with ⟨r, -, heffect⟩ | ⟨hsame, -⟩
  · cases c with
    | _ => cases heffect
  · exact hsame

include ht hcalls hsuffix in
lemma Tracked.served : Tracked base (c :: cs) (exec P cfg (c.call s) s).2 := by
  have hgrounded := ht.grounded hcalls hsuffix
  have heffect : Effect P cfg s (c.call s) _ _ := exec_effect (c.call s)
  have hmove := heffect.hold_move ht.keyed hgrounded
  refine ⟨ht.registry.trans (call_sameRegistry c), fun id g hg => ?_,
    heffect.idemIndexed ht.indexed ht.keyed hgrounded, fun id g hg => ?_⟩
  · have hmove := hmove id
    rw [hg] at hmove
    exact hmove.id_eq (ht.keyed id)
  · have hmove := hmove id
    rw [hg] at hmove
    generalize hbefore : s.holds.get? id = before at hmove
    have hearlier : ∀ g' : HoldRecord, s.holds.get? id = some g' → g.agentId = g'.agentId →
        g.deferredReceipt = g'.deferredReceipt → ∃ c' ∈ c :: cs, c'.newId? = some id ∧
          c'.owner = some g.agentId ∧ c'.submitted = g.deferredReceipt.bind chainHash := by
      intro g' hg' hagent hdeferred
      obtain ⟨c', hc', hrest⟩ := ht.opened id g' hg'
      rw [hagent, hdeferred]
      exact ⟨c', .tail _ hc', hrest⟩
    cases hmove with
    | same => exact hearlier g hbefore rfl rfl
    | expired => exact hearlier _ hbefore rfl rfl
    | decided => exact hearlier _ hbefore rfl rfl
    | opened call_eq checked =>
      have hopens := checkHold_eq_ok checked
      have hcarries := (checkHold_carries checked).1
      refine ⟨c, .head _, ?_⟩
      cases c with
      | createHold =>
        cases call_eq
        refine ⟨rfl, ?_, ?_⟩
        · rw [hopens.agentId_eq]
          rfl
        · rw [hcarries.deferredReceipt]
          rfl
      | _ => cases call_eq

end tracked

/-- The calls of the other agents do not show in the part of the store that is the agent's. -/
lemma hides_others {base : Store} {calls : List HoldCall} (hholds : base.holds = .empty)
    (hidem : base.holdsByIdem = .empty) (hcalls : Separate base calls) (a : String) :
    (holdRelay P cfg base).Hides (HoldCall.isKept a) (HoldCall.isOf a) (Store.only · a)
      (Tracked base) calls where
  init := Tracked.start hholds hidem
  view_init := by
    show base.only a = base
    unfold Store.only
    rw [hholds, hidem]
    cases base
    cases hholds
    cases hidem
    rfl
  keeps c cs s hsuffix h := h.served hcalls hsuffix
  acts c cs s hsuffix h hkept := by
    show (exec P cfg (c.call s) s).2.only a = (exec P cfg (c.call (s.only a)) (s.only a)).2
    cases c with
    | sweepExpired readings => rw [sweep_only h.keyed h.indexed]
    | _ =>
      rw [exec_only h.keyed h.indexed hkept (fun id hid => h.fresh hcalls hsuffix hid)
        fun hash hsubmitted => h.unshared hcalls hsuffix (of_decide_eq_true hkept) hsubmitted]
  shows c cs s hsuffix h hseen := by
    constructor
    · cases c with
      | sweepExpired readings => rfl
      | _ => exact hseen
    · show (exec P cfg (c.call (s.only a)) (s.only a)).1 = (exec P cfg (c.call s) s).1
      rw [exec_only h.keyed h.indexed hseen (fun id hid => h.fresh hcalls hsuffix hid)
        fun hash hsubmitted => h.unshared hcalls hsuffix (of_decide_eq_true hseen) hsubmitted]
  hides c cs s hsuffix h hleft :=
    exec_only_of_other h.keyed hleft fun id hid => h.fresh hcalls hsuffix hid

/-- Leaving out the calls of all other agents and their devices changes no answer to an agent and its
devices. -/
theorem answers_without_others (P : RelayPlatform) (cfg : RelayConfig) (base : Store)
    (hholds : base.holds = .empty) (hidem : base.holdsByIdem = .empty) (calls : List HoldCall)
    (hcalls : Separate base calls) (a : String) :
    (holdRelay P cfg base).answers (HoldCall.isOf a) (calls.filter (HoldCall.isKept a)) =
      (holdRelay P cfg base).answers (HoldCall.isOf a) calls :=
  Service.answers_filter (hides_others hholds hidem hcalls a)

namespace SampleRelay

/-- Another agent, of another tenant. -/
def rival : AgentRecord where
  id := "agent-2"
  name := "trader"
  apiKeyHash := "noa_agent_other"
  ownerDevice := none
  tenant := some "zenith"
  createdAt := 0

/-- Two agents, of which the first has claimed a phone. -/
def shared : Store where
  agents := (Table.empty.set "agent-1" agent).set "agent-2" rival
  devices := Table.empty.set "device-1" device
  devicesByKid := Table.empty.set "phone-1" "device-1"

/-- Both agents open a hold under one key; the first agent and its phone read, before and after a
sweep. -/
def traffic : List HoldCall :=
  [.listPending (fun _ => 1) device, .sweepExpired fun _ => (1, 1), .getHold (fun _ => 1) agent "hold-1",
    .createHold (fun _ => 0) "hold-1" agent (some "key-1") holdRequest,
    .createHold (fun _ => 0) "hold-2" rival (some "key-1") holdRequest]

lemma separate_traffic : Separate shared traffic where
  calledFrom c hc := by
    simp only [traffic, mem_iff] at hc
    rcases hc with rfl | rfl | rfl | rfl | rfl
    · exact ⟨by decide, rfl⟩
    · trivial
    · show shared.agents.get? "agent-1" = some agent
      decide
    · show shared.agents.get? "agent-1" = some agent
      decide
    · show shared.agents.get? "agent-2" = some rival
      decide
  named := by decide
  fresh := by decide
  apart c hc c' _ hash hhash := by
    simp only [traffic, mem_iff] at hc
    rcases hc with rfl | rfl | rfl | rfl | rfl
    all_goals cases hhash

end SampleRelay

theorem answers_without_others_shared :
    ((holdRelay SampleRelay.platform SampleRelay.config SampleRelay.shared).answers
        (HoldCall.isOf "agent-1") (SampleRelay.traffic.filter (HoldCall.isKept "agent-1"))).map
          (fun x => x.2.map EngineResult.status) = [some 200, some 200, some 201] ∧
      (SampleRelay.traffic.filter (HoldCall.isKept "agent-1")).length < SampleRelay.traffic.length := by
  refine ⟨?_, by decide⟩
  rw [answers_without_others _ _ SampleRelay.shared rfl rfl _ SampleRelay.separate_traffic]
  decide

end Relay

end NoaMandate
