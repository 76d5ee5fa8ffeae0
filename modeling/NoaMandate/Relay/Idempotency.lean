import NoaMandate.Relay.Holds

/-!
# Idempotency keys

A request for a hold carries an idempotency key.  The relay answers a repeated key with the hold it
opened before, if the request is the same, and with a conflict otherwise.  Requests are compared by a
hash over the action and the envelope; the deferred receipt, the sealed display and the time to live
are not part of it.

* `run_opened` — every stored hold was opened by a request of the run, and still carries what that
  request said.
* `getHoldByIdem_eq_some_iff` — the index finds the hold of an agent's key, and no other.
* `IdempotencyKept` — requests that are answered with a hold under one key name one hold and say the
  same; a request that says something else is refused with 409.
* `idempotencyKept_iff` — this holds of a run exactly when each request that repeats a key with the
  action and the envelope of the hold also repeats the rest.
-/

namespace NoaMandate

namespace Relay

open Pipeline

variable {P : RelayPlatform} {cfg : RelayConfig} {s s' : Store} {c : Call} {past : History}

/-! ## The index -/

lemma prefix_eq_of_units {xs ys r r' : List Char} (h : xs ++ r = ys ++ r')
    (hlen : (xs.flatMap Json.charUnits).length = (ys.flatMap Json.charUnits).length) : xs = ys := by
  have hpos : ∀ c, 0 < (Json.charUnits c).length := by
    intro c
    unfold Json.charUnits
    split <;> simp
  induction xs generalizing ys with
  | nil =>
    cases ys with
    | nil => rfl
    | cons y ys =>
      have hy := hpos y
      simp only [List.flatMap_nil, List.flatMap_cons, List.length_nil, List.length_append] at hlen
      omega
  | cons x xs ih =>
    cases ys with
    | nil =>
      have hx := hpos x
      simp only [List.flatMap_nil, List.flatMap_cons, List.length_nil, List.length_append] at hlen
      omega
    | cons y ys =>
      simp only [List.cons_append, List.cons.injEq] at h
      obtain ⟨rfl, h⟩ := h
      simp only [List.flatMap_cons, List.length_append, Nat.add_left_cancel_iff] at hlen
      rw [ih h hlen]

lemma toList_idemKey (agentId key : String) : (Store.idemKey agentId key).toList =
      Nat.toDigits 10 (Json.units agentId).length ++ ':' :: (agentId.toList ++ ':' :: key.toList) := by
  simp [Store.idemKey, String.toList_append]

variable {agentId hash newId id : String}

variable {key : String}

/-- The length in front of the agent's id keeps the two parts of an index key apart. -/
lemma idemKey_injective {agentId' key' : String}
    (h : Store.idemKey agentId key = Store.idemKey agentId' key') :
    agentId = agentId' ∧ key = key' := by
  have hlist := congrArg String.toList h
  rw [toList_idemKey, toList_idemKey] at hlist
  have hcolon : ∀ r, Json.NoDigitHead (':' :: r) := fun r => Json.noDigitHead_cons rfl
  obtain ⟨hlen, hrest⟩ := Json.digits_append_inj (hcolon _) (hcolon _) hlist
  have hrest := (List.cons.inj hrest).2
  unfold Json.units at hlen
  rw [Text.chars_eq_toList, Text.chars_eq_toList] at hlen
  have hagent := prefix_eq_of_units hrest hlen
  rw [hagent] at hrest
  have hkey := (List.cons.inj (List.append_cancel_left hrest)).2
  exact ⟨String.toList_inj.mp hagent, String.toList_inj.mp hkey⟩

/-- The index and the holds fit together. -/
structure IdemIndexed (s : Store) : Prop where
  indexed : ∀ id h, s.holds.get? id = some h →
    s.holdsByIdem.get? (Store.idemKey h.agentId h.idempotencyKey) = some id
  known : ∀ k id, s.holdsByIdem.get? k = some id →
    id ≠ "" ∧ ∃ h, s.holds.get? id = some h ∧ Store.idemKey h.agentId h.idempotencyKey = k

variable {h : HoldRecord}

/-- The index finds the hold of an agent's key, and no other. -/
lemma getHoldByIdem_eq_some_iff (hs : IdemIndexed s) :
    s.getHoldByIdem agentId key = some h ↔
      (∃ id, s.holds.get? id = some h) ∧ h.agentId = agentId ∧ h.idempotencyKey = key := by
  unfold Store.getHoldByIdem
  constructor
  · intro hget
    obtain ⟨id, hid, hh⟩ := Option.bind_eq_some_iff.mp hget
    obtain ⟨-, h', hh', hkey⟩ := hs.known _ id (Option.filter_eq_some_iff.mp hid).1
    cases hh.symm.trans hh'
    exact ⟨⟨id, hh⟩, idemKey_injective hkey⟩
  · rintro ⟨⟨id, hh⟩, rfl, rfl⟩
    have hid := hs.indexed id h hh
    rw [hid, Option.filter_some, if_pos (by simpa using (hs.known _ id hid).1), Option.bind_some, hh]

lemma getHoldByIdem_eq_none (hs : IdemIndexed s) (h : s.getHoldByIdem agentId key = none) :
    s.holdsByIdem.get? (Store.idemKey agentId key) = none := by
  cases hindex : s.holdsByIdem.get? (Store.idemKey agentId key) with
  | none => rfl
  | some id =>
    obtain ⟨hne, hold, hhold, -⟩ := hs.known _ id hindex
    unfold Store.getHoldByIdem at h
    rw [hindex, Option.filter_some, if_pos (by simpa using hne), Option.bind_some, hhold] at h
    cases h

lemma idem_putHold (h : HoldRecord) (k : String) : (s.putHold h).holdsByIdem.get? k =
      if k = Store.idemKey h.agentId h.idempotencyKey then some h.id else s.holdsByIdem.get? k :=
  Table.get?_set _ _ _ _

/-- Opening a hold under a key that is not in use. -/
lemma IdemIndexed.opened (hs : IdemIndexed s) (hid : FreshIn s.holds h.id)
    (hkey : s.getHoldByIdem h.agentId h.idempotencyKey = none) : IdemIndexed (s.putHold h) := by
  have hnone := getHoldByIdem_eq_none hs hkey
  constructor
  · intro id h' hh'
    rw [Store.getHold_putHold] at hh'
    rw [idem_putHold]
    split at hh'
    · rename_i heq
      cases hh'
      rw [if_pos rfl, heq]
    · have hindex := hs.indexed id h' hh'
      rw [if_neg, hindex]
      intro heq
      rw [heq, hnone] at hindex
      cases hindex
  · intro k id hk
    rw [idem_putHold] at hk
    rw [Store.getHold_putHold]
    split at hk
    · rename_i heq
      cases hk
      exact ⟨hid.1, h, if_pos rfl, heq.symm⟩
    · obtain ⟨hne, h', hh', heq⟩ := hs.known k id hk
      refine ⟨hne, h', ?_, heq⟩
      rw [if_neg, hh']
      rintro rfl
      rw [hid.2] at hh'
      cases hh'

/-- Writing a stored hold back under its own key. -/
lemma IdemIndexed.rewritten (hs : IdemIndexed s) {h' : HoldRecord}
    (hstored : s.holds.get? h.id = some h) (hid : h'.id = h.id) (hagent : h'.agentId = h.agentId)
    (hkey : h'.idempotencyKey = h.idempotencyKey) : IdemIndexed (s.putHold h') := by
  have hindex := hs.indexed h.id h hstored
  have hsame : ∀ k, (s.putHold h').holdsByIdem.get? k = s.holdsByIdem.get? k := by
    intro k
    rw [idem_putHold, hid, hagent, hkey]
    split
    · rename_i heq
      rw [heq, hindex]
    · rfl
  constructor
  · intro id g hg
    rw [hsame]
    rw [Store.getHold_putHold, hid] at hg
    split at hg
    · rename_i heq
      cases hg
      rw [hagent, hkey, heq]
      exact hindex
    · exact hs.indexed id g hg
  · intro k id hk
    rw [hsame] at hk
    obtain ⟨hne, g, hg, heq⟩ := hs.known k id hk
    rw [Store.getHold_putHold, hid]
    by_cases heqid : id = h.id
    · rw [heqid, hstored] at hg
      cases hg
      exact ⟨hne, h', if_pos heqid, by rw [hagent, hkey]; exact heq⟩
    · exact ⟨hne, g, by rw [if_neg heqid, hg], heq⟩

lemma IdemIndexed.expireAll {l : List (HoldRecord × Int × Int)} (hs : IdemIndexed s)
    (hl : Listed s l) (n : Nat) : IdemIndexed (Relay.expireAll l n s).2 := by
  induction l generalizing s n with
  | nil => exact hs
  | cons x l ih =>
    obtain ⟨h, now, time⟩ := x
    refine ih ?_ hl.rest _
    unfold lazyExpire
    split
    · exact hs.rewritten (hl.stored _ (.head _)) rfl rfl rfl
    · exact hs

/-! ## What a request says -/

/-- The relay can read the request up to its hash: it is an object with a well-formed action and no
plaintext display. -/
structure Readable (P : RelayPlatform) (input : Json) (action : HoldAction) (hash : String) : Prop where
  isObj : input.isObj = true
  undisplayed : Artifact.present? (input.get? "display") = none
  action_eq : parseAction (input.get? "action") = .ok action
  hash_eq : safeRefHash P (.obj [("action", action.json),
    ("envelope", (input.get? "holdEnvelope").getD .null)]) = some hash

/-- The hold carries what the request says. -/
structure Carries (P : RelayPlatform) (cfg : RelayConfig) (input : Json) (h : HoldRecord) : Prop where
  readable : Readable P input h.action h.requestHash
  deferredReceipt : h.deferredReceipt = parseReceiptOrNull (input.get? "deferredReceipt")
  encryptedDisplay : h.encryptedDisplay = input.get? "encryptedDisplay"
  ttl : holdTtl cfg (input.get? "ttlMs") = .ok (h.expiresAt - h.createdAt)

/-- The hold as it was opened. -/
def HoldRecord.asOpened (h : HoldRecord) : HoldRecord :=
  { h with
    status := .PENDING
    decisionReceipt := none
    decisionArtifact := none
    reasonCode := none
    decidedAt := none }

lemma checkEncryptedDisplay_eq_ok {envelope display o : Option Json}
    (h : checkEncryptedDisplay P envelope display = .ok o) : o = display := by
  cases display with
  | none =>
    cases h
    rfl
  | some d =>
    simp only [checkEncryptedDisplay, ok_iff] at h
    obtain ⟨-, -, hash, -, -, -, rfl⟩ := h
    rfl

lemma refuseReplay_eq_ok {existing : Option HoldRecord}
    (h : refuseReplay P existing hash = .ok ()) : existing = none := by
  cases existing with
  | none => rfl
  | some e => cases h

variable {input input' : Json}

/-- A hold is opened under a key that is not in use, with what the request says. -/
lemma checkHold_carries {now : Int} {agent : AgentRecord}
    {idempotencyKey : Option String} {hold : HoldRecord}
    (h : checkHold P cfg now newId agent idempotencyKey input s = .ok hold) :
    Carries P cfg input hold ∧ idempotencyKey = some hold.idempotencyKey ∧
      hold.idempotencyKey ≠ "" ∧ s.getHoldByIdem agent.id hold.idempotencyKey = none ∧
      hold.asOpened = hold := by
  simp only [checkHold, ok_iff, Option.filter_eq_some_iff] at h
  obtain ⟨key, ⟨hkey, hne⟩, -, hobj, -, hdisplay, action, haction, hash, hhash, _, hunused, ttl, httl,
    -, -, display, hsealed, -, -, rfl⟩ := h
  refine ⟨⟨⟨by simpa using hobj, by simpa using hdisplay, haction, hhash⟩, rfl,
    checkEncryptedDisplay_eq_ok hsealed, ?_⟩, hkey, by simpa using hne, refuseReplay_eq_ok hunused, rfl⟩
  rw [httl]
  exact congrArg Except.ok (show ttl = now + ttl - now by omega)

variable {action : HoldAction}

/-- A request that repeats a key is answered from the hold of that key. -/
lemma checkHold_of_replay {now : Int} {agent : AgentRecord} (hkey : key ≠ "") (hread : Readable P input action hash)
    (hh : s.getHoldByIdem agent.id key = some h) :
    checkHold P cfg now newId agent (some key) input s = .error (replayed P h hash) := by
  unfold checkHold
  rw [Option.filter_some, if_pos (by simpa using hkey), hread.isObj, hread.undisplayed,
    hread.action_eq]
  simp only [demand, Bool.not_true, refuse_false, ok_bind, mapError_ok, Option.isSome_none,
    hread.hash_eq, hh, refuseReplay, error_bind]

/-- The request was replayed from the hold of its key. -/
structure Replays (P : RelayPlatform) (s : Store) (agent : AgentRecord)
    (idempotencyKey : Option String) (input : Json) (h : HoldRecord) : Prop where
  used : ∃ key, idempotencyKey = some key ∧ key ≠ "" ∧ s.getHoldByIdem agent.id key = some h
  readable : ∃ action, Readable P input action h.requestHash

lemma replayed_status (h : HoldRecord) (hash : String) :
    (replayed P h hash).status = if h.requestHash = hash then 200 else 409 := by
  unfold replayed
  split <;> rfl

/-- A request is refused with an error, or replayed. -/
lemma checkHold_errors {now : Int} {agent : AgentRecord} {idempotencyKey : Option String} :
    ErrorsIn (fun r => 400 ≤ r.status ∨
        ∃ h, Replays P s agent idempotencyKey input h ∧ r = replayed P h h.requestHash)
      (checkHold P cfg now newId agent idempotencyKey input s) := by
  unfold checkHold
  refine .bind_of_ok (.demand (.inl (by decide))) fun key hkey => ?_
  refine .bind_of_ok (.refuse (.inl (by decide))) fun _ hobj => ?_
  refine .bind_of_ok (.refuse (.inl (by decide))) fun _ hdisplay => ?_
  refine .bind_of_ok (.mapError fun _ => .inl (show 400 ≤ 422 by decide)) fun action haction => ?_
  refine .bind_of_ok (.demand (.inl (by decide))) fun hash hhash => ?_
  refine .bind ?_ fun _ => ?_
  · -- the key was used before
    cases hexisting : s.getHoldByIdem agent.id key with
    | none => exact .ok
    | some h =>
      refine .error ?_
      by_cases hsame : h.requestHash = hash
      · subst hsame
        rw [demand_eq_ok_iff, Option.filter_eq_some_iff] at hkey
        rw [refuse_eq_ok_iff] at hobj hdisplay
        rw [mapError_eq_ok_iff] at haction
        rw [demand_eq_ok_iff] at hhash
        exact .inr ⟨h, ⟨⟨key, hkey.1, by simpa using hkey.2, hexisting⟩, action, by simpa using hobj,
          by simpa using hdisplay, haction, hhash⟩, rfl⟩
      · refine .inl ?_
        rw [replayed_status, if_neg hsame]
        decide
  · refine .bind ?_ fun _ => ?_
    · unfold holdTtl
      split
      · exact .ok
      · split
        · exact .error (.inl (show 400 ≤ 422 by decide))
        · exact .ok
      · exact .error (.inl (by decide))
    · refine .bind (.refuse (.inl (show 400 ≤ 429 by decide))) fun _ => ?_
      refine .bind ?_ fun _ => .bind (.refuse (.inl (by decide))) fun _ =>
        .ok
      unfold checkEncryptedDisplay
      split
      · exact .ok
      · exact .bind (.refuse (.inl (by decide))) fun _ =>
          .bind (.demand (.inl (by decide))) fun _ =>
          .bind (.refuse (.inl (by decide))) fun _ => .ok

/-- A request opens a hold, is replayed, or is refused with an error. -/
lemma createHold_cases (clock : Nat → Int) (newId : String) (agent : AgentRecord)
    (idempotencyKey : Option String) (input : Json) :
    (∃ hold, checkHold P cfg (clock 0) newId agent idempotencyKey input s = .ok hold ∧
        createHold P cfg clock newId agent idempotencyKey input s =
          (⟨201, .obj [("holdId", .str hold.id), ("lifecycle", .str hold.status.text),
            ("expiresAt", .str (P.toISOString hold.expiresAt))]⟩, s.putHold hold)) ∨
      (∃ h, Replays P s agent idempotencyKey input h ∧
        createHold P cfg clock newId agent idempotencyKey input s =
          (replayed P h h.requestHash, s)) ∨
      400 ≤ (createHold P cfg clock newId agent idempotencyKey input s).1.status ∧
        (createHold P cfg clock newId agent idempotencyKey input s).2 = s := by
  unfold createHold
  cases hcheck : checkHold P cfg (clock 0) newId agent idempotencyKey input s with
  | ok hold => exact .inl ⟨hold, rfl, rfl⟩
  | error r =>
    rcases checkHold_errors r hcheck with hstatus | ⟨h, hreplays, rfl⟩
    · exact .inr (.inr ⟨hstatus, rfl⟩)
    · exact .inr (.inl ⟨h, hreplays, rfl⟩)

/-! ## Holds as they were opened -/

/-- The call opened the hold as it was then. -/
def OpenedBy (P : RelayPlatform) (cfg : RelayConfig) (h : HoldRecord)
    (e : Served Store Call (Option EngineResult)) : Prop :=
  ∃ clock agent idempotencyKey input,
    e.call = .createHold clock h.id agent idempotencyKey input ∧
    checkHold P cfg (clock 0) h.id agent idempotencyKey input e.before = .ok h.asOpened

/-- Every stored hold was opened by a call of the run. -/
lemma run_opened (hrun : (relay P cfg).Run past)
    (hh : ((relay P cfg).state past).holds.get? id = some h) : ∃ e ∈ past, OpenedBy P cfg h e := by
  induction hrun generalizing h with
  | start => cases hh
  | @serve past c run hallowed ih =>
    have hmove := serve_hold_move run hallowed id
    have hkeyed := (run_holds (Service.Run.serve run hallowed)).1 id h hh
    have hh : ((relay P cfg).serve past c).after.holds.get? id = some h := hh
    -- what is stored before the call was opened before it
    have hearlier : ∀ g : HoldRecord, ((relay P cfg).state past).holds.get? id = some g →
        g.id = h.id → g.asOpened = h.asOpened →
        ∃ e ∈ (relay P cfg).serve past c :: past, OpenedBy P cfg h e := by
      intro g hg hid hopened
      obtain ⟨e, he, clock, agent, key, input, hcall, hchecked⟩ := ih hg
      refine ⟨e, .tail _ he, clock, agent, key, input, ?_, ?_⟩
      · rw [hcall, hid]
      · rw [← hid, ← hopened]
        exact hchecked
    rw [hh] at hmove
    generalize hbefore : ((relay P cfg).state past).holds.get? id = before at hmove
    cases hmove with
    | same => exact hearlier h hbefore rfl rfl
    | @opened clock agent key input _ call_eq checked =>
      subst hkeyed
      refine ⟨_, .head _, clock, agent, key, input, call_eq, ?_⟩
      obtain ⟨-, -, -, -, hopened⟩ := checkHold_carries checked
      rw [hopened]
      exact checked
    | expired => exact hearlier _ hbefore rfl rfl
    | decided => exact hearlier _ hbefore rfl rfl

/-- In every run the index is in order. -/
lemma Effect.idemIndexed {r : Option EngineResult} (h : Effect P cfg s c r s') (hs : IdemIndexed s)
    (hkeyed : HoldsKeyed s) (hc : c.Grounded s) : IdemIndexed s' := by
  cases h with
  | registry effect =>
    have hindex : s'.holdsByIdem = s.holdsByIdem := by cases effect <;> rfl
    exact ⟨by rw [effect.holds, hindex]; exact hs.indexed,
      by rw [effect.holds, hindex]; exact hs.known⟩
  | other => exact ⟨hs.indexed, hs.known⟩
  | hold _ effect =>
    cases effect with
    | opened checked =>
      have hopens := checkHold_eq_ok checked
      obtain ⟨-, -, -, hunused, -⟩ := checkHold_carries checked
      rw [← hopens.agentId_eq] at hunused
      exact hs.opened (hopens.id_eq ▸ hc) hunused
    | expired => exact hs.expireAll (c.listed hkeyed) 0
    | @decided _ _ _ _ _ hold _ _ stored =>
      obtain rfl := hkeyed _ hold stored
      exact hs.rewritten stored rfl rfl rfl

lemma idemIndexed_empty : IdemIndexed {} where
  indexed _ _ h := by cases h
  known _ _ h := by cases h

lemma run_idemIndexed (hrun : (relay P cfg).Run past) : IdemIndexed ((relay P cfg).state past) := by
  refine hrun.invariant idemIndexed_empty fun past c run hallowed hs => ?_
  exact (serve_effect P cfg past c).idemIndexed hs (run_holds run).1 (run_grounded run hallowed)

/-! ## Requests under one key -/

/-- The requests ask for the same hold, as the relay reads them. Values are compared up to the order
of members. -/
structure SameBody (cfg : RelayConfig) (a b : Json) : Prop where
  action : ∃ action, parseAction (a.get? "action") = .ok action ∧
    parseAction (b.get? "action") = .ok action
  holdEnvelope : ((a.get? "holdEnvelope").getD .null).Eqv ((b.get? "holdEnvelope").getD .null)
  deferredReceipt : (parseReceiptOrNull (a.get? "deferredReceipt")).map Json.norm =
    (parseReceiptOrNull (b.get? "deferredReceipt")).map Json.norm
  encryptedDisplay : (a.get? "encryptedDisplay").map Json.norm =
    (b.get? "encryptedDisplay").map Json.norm
  ttl : ∃ ttl, holdTtl cfg (a.get? "ttlMs") = .ok ttl ∧ holdTtl cfg (b.get? "ttlMs") = .ok ttl

/-- The call asked for a hold under the agent's key and was answered with the hold of that id. -/
structure AnsweredHold (e : Served Store Call (Option EngineResult)) (agentId key : String)
    (input : Json) (id : String) : Prop where
  call : ∃ clock newId agent, e.call = .createHold clock newId agent (some key) input ∧
    agent.id = agentId
  answer : ∃ r, e.answer = some r ∧ (r.status = 201 ∨ r.status = 200) ∧
    r.body.get? "holdId" = some (.str id)

/-- Requests answered with a hold under one key name one hold and say the same, and a request that
says something else than one that was answered is refused with 409. -/
structure IdempotencyKept (P : RelayPlatform) (cfg : RelayConfig) (past : History) : Prop where
  agree : ∀ e ∈ past, ∀ e' ∈ past, ∀ agentId key input input' id id',
    AnsweredHold e agentId key input id → AnsweredHold e' agentId key input' id' →
    id = id' ∧ SameBody cfg input input'
  conflict : past.Pairwise fun later earlier =>
    ∀ agentId key input id clock newId agent input' action hash,
      AnsweredHold earlier agentId key input id →
      later.call = .createHold clock newId agent (some key) input' → agent.id = agentId →
      Readable P input' action hash → ¬SameBody cfg input input' →
      ∃ r, later.answer = some r ∧ r.status = 409

/-- The request repeats what the hash leaves out. -/
structure Repeats (cfg : RelayConfig) (input : Json) (h : HoldRecord) : Prop where
  deferredReceipt : h.deferredReceipt.map Json.norm =
    (parseReceiptOrNull (input.get? "deferredReceipt")).map Json.norm
  encryptedDisplay : h.encryptedDisplay.map Json.norm = (input.get? "encryptedDisplay").map Json.norm
  ttl : holdTtl cfg (input.get? "ttlMs") = .ok (h.expiresAt - h.createdAt)

/-- A request with the key and the hash of a hold repeats the deferred receipt, the display and the
time to live of that hold. -/
def Call.RepeatsRequest (P : RelayPlatform) (cfg : RelayConfig) (s : Store) : Call → Prop
  | .createHold _ _ agent idempotencyKey input =>
    ∀ h, Replays P s agent idempotencyKey input h → Repeats cfg input h
  | _ => True

/-- What the request says is what the hold was opened with. -/
structure Says (P : RelayPlatform) (cfg : RelayConfig) (input : Json) (h : HoldRecord) : Prop where
  readable : Readable P input h.action h.requestHash
  repeats : Repeats cfg input h

lemma Carries.stated (hc : Carries P cfg input h) : Says P cfg input h :=
  ⟨hc.readable, by rw [hc.deferredReceipt], by rw [hc.encryptedDisplay], hc.ttl⟩

lemma RiskClass.text_injective {a b : RiskClass} (h : a.text = b.text) : a = b := by
  cases a <;> cases b <;> first | rfl | exact absurd h (by decide)

lemma HoldAction.eq_of_json_eqv {a b : HoldAction} (h : a.json.Eqv b.json) : a = b := by
  have hget := (Json.eqv_obj_iff (by simp) (by simp)).mp h
  have hcanonical := hget "canonical"
  have hrisk := hget "riskClass"
  have hparams := hget "paramsHash"
  simp only [List.lookup_cons, beq_self_eq_true, Option.map_some, Json.norm, Option.some.injEq,
    Json.str.injEq] at hcanonical
  simp [List.lookup_cons, Json.norm] at hrisk hparams
  obtain ⟨canonical, risk, params⟩ := a
  obtain ⟨canonical', risk', params'⟩ := b
  cases hcanonical
  cases hparams
  cases RiskClass.text_injective hrisk
  rfl

/-- The hash of a request determines its action and its envelope. -/
lemma Readable.eq_of_hash (hinj : Function.Injective P.sha256Hex)
    {action' : HoldAction} (h : Readable P input action hash)
    (h' : Readable P input' action' hash) : action = action' ∧
      ((input.get? "holdEnvelope").getD .null).Eqv ((input'.get? "holdEnvelope").getD .null) := by
  have hget := (Json.eqv_obj_iff (by simp) (by simp)).mp
    (eqv_of_refHash_eq hinj h.hash_eq h'.hash_eq)
  have haction := hget "action"
  have henvelope := hget "envelope"
  simp only [List.lookup_cons, beq_self_eq_true, Option.map_some, Option.some.injEq] at haction
  simp [List.lookup_cons] at henvelope
  exact ⟨HoldAction.eq_of_json_eqv haction, henvelope⟩

/-- Two requests that say what one hold was opened with say the same. -/
lemma Says.sameBody (hinj : Function.Injective P.sha256Hex)
    (hs : Says P cfg input h) (hs' : Says P cfg input' h) : SameBody cfg input input' where
  action := ⟨h.action, hs.readable.action_eq, hs'.readable.action_eq⟩
  holdEnvelope := (hs.readable.eq_of_hash hinj hs'.readable).2
  deferredReceipt := hs.repeats.deferredReceipt.symm.trans hs'.repeats.deferredReceipt
  encryptedDisplay := hs.repeats.encryptedDisplay.symm.trans hs'.repeats.encryptedDisplay
  ttl := ⟨_, hs.repeats.ttl, hs'.repeats.ttl⟩

lemma HoldMove.asOpened {o : Option HoldRecord}
    (hmove : HoldMove P cfg s c id (some h) o) : ∃ h', o = some h' ∧ h'.asOpened = h.asOpened := by
  cases hmove with
  | same => exact ⟨h, rfl, rfl⟩
  | expired => exact ⟨_, rfl, rfl⟩
  | decided => exact ⟨_, rfl, rfl⟩

/-! ## Runs -/

/-- The hold under the id is that of the agent's key, and was opened with what the request says. -/
def Settled (P : RelayPlatform) (cfg : RelayConfig) (s : Store) (agentId key : String) (input : Json)
    (id : String) : Prop :=
  ∃ h, s.holds.get? id = some h ∧ h.asOpened.agentId = agentId ∧ h.asOpened.idempotencyKey = key ∧
    Says P cfg input h.asOpened

variable (hinj : Function.Injective P.sha256Hex) (hrun : (relay P cfg).Run past)

include hinj hrun in
/-- A replayed request says what its hold was opened with, if it repeats what the hash leaves out. -/
lemma Replays.stated {agent : AgentRecord} {key : Option String}
    (hreplays : Replays P ((relay P cfg).state past) agent key input h)
    (hrepeats : Repeats cfg input h) : Says P cfg input h.asOpened := by
  obtain ⟨k, -, -, hget⟩ := hreplays.used
  obtain ⟨action, hread⟩ := hreplays.readable
  obtain ⟨⟨id, hstored⟩, -⟩ := (getHoldByIdem_eq_some_iff (run_idemIndexed hrun)).mp hget
  obtain ⟨e, -, clock, agent', key', input', -, hchecked⟩ := run_opened hrun hstored
  obtain ⟨hcarries, -⟩ := checkHold_carries hchecked
  obtain ⟨rfl, -⟩ := hread.eq_of_hash hinj hcarries.readable
  exact ⟨hread, hrepeats.deferredReceipt, hrepeats.encryptedDisplay, hrepeats.ttl⟩

include hinj hrun in
/-- A request that is answered with a hold is settled by it, if it repeats what the hash leaves
out. -/
lemma serve_settled
    (hrepeats : c.RepeatsRequest P cfg ((relay P cfg).state past)) (h : AnsweredHold ((relay P cfg).serve past c) agentId key input id) :
    Settled P cfg ((relay P cfg).serve past c).after agentId key input id := by
  obtain ⟨clock, newId, agent, hcall, rfl⟩ := h.call
  obtain ⟨r, hanswer, hstatus, hid⟩ := h.answer
  have hcall : c = .createHold clock newId agent (some key) input := hcall
  subst hcall
  have hr : (createHold P cfg clock newId agent (some key) input ((relay P cfg).state past)).1 = r :=
    Option.some.inj hanswer
  show Settled P cfg
    (createHold P cfg clock newId agent (some key) input ((relay P cfg).state past)).2 agent.id key
      input id
  rcases createHold_cases clock newId agent (some key) input with
    ⟨hold, hchecked, heq⟩ | ⟨g, hreplays, heq⟩ | ⟨hrefused, -⟩
  · -- a new hold
    rw [heq] at hr ⊢
    subst hr
    obtain ⟨hcarries, hkey, -, -, hopened⟩ := checkHold_carries hchecked
    have hholdId : hold.id = id := by simpa [Json.get?, List.lookup_cons] using hid
    refine ⟨hold, ?_, (checkHold_eq_ok hchecked).agentId_eq, ?_, hopened.symm ▸ hcarries.stated⟩
    · rw [Store.getHold_putHold, if_pos hholdId.symm]
    · exact (Option.some.inj hkey).symm
  · -- the hold of the key
    rw [heq] at hr ⊢
    subst hr
    obtain ⟨k, hkey, -, hget⟩ := hreplays.used
    cases hkey
    obtain ⟨⟨id', hstored⟩, hagent, hkey⟩ :=
      (getHoldByIdem_eq_some_iff (run_idemIndexed hrun)).mp hget
    have hholdId : g.id = id := by
      simpa [replayed, Json.get?, List.lookup_cons] using hid
    refine ⟨g, ?_, hagent, hkey, hreplays.stated hinj hrun (hrepeats g hreplays)⟩
    rw [← hholdId, (run_holds hrun).1 id' g hstored]
    exact hstored
  · rw [hr] at hrefused
    omega

variable {e : Served Store Call (Option EngineResult)}

include hinj hrun in
/-- In a run whose requests repeat what the hash leaves out, every request that was answered with a
hold is settled by it. -/
lemma run_settled
    (hrepeats : ∀ e ∈ past, e.call.RepeatsRequest P cfg e.before) (he : e ∈ past) (h : AnsweredHold e agentId key input id) :
    Settled P cfg ((relay P cfg).state past) agentId key input id := by
  induction hrun with
  | start => cases he
  | @serve past c run hallowed ih =>
    rcases List.mem_cons.mp he with rfl | he
    · exact serve_settled hinj run (hrepeats _ (.head _)) h
    · obtain ⟨g, hg, hagent, hkey, hstates⟩ :=
        ih (fun e he => hrepeats e (.tail _ he)) he
      have hmove := serve_hold_move run hallowed id
      rw [hg] at hmove
      obtain ⟨g', hg', hopened⟩ := hmove.asOpened
      refine ⟨g', hg', ?_⟩
      rw [hopened]
      exact ⟨hagent, hkey, hstates⟩

/-- A hold that was opened by a call was its answer. -/
lemma OpenedBy.answered (hrun : (relay P cfg).Run past) (he : e ∈ past)
    (hopened : OpenedBy P cfg h e) :
    ∃ input, AnsweredHold e h.agentId h.idempotencyKey input h.id ∧ Carries P cfg input h := by
  obtain ⟨clock, agent, key, input, hcall, hchecked⟩ := hopened
  obtain ⟨hcarries, hkey, -⟩ := checkHold_carries hchecked
  have hagent := (checkHold_eq_ok hchecked).agentId_eq
  obtain ⟨-, -, hexec⟩ := run_served hrun he
  rw [hcall] at hexec
  have hanswer : some (createHold P cfg clock h.id agent key input e.before).1 = e.answer :=
    congrArg Prod.fst hexec
  refine ⟨input, ⟨⟨clock, h.id, agent, ?_, hagent.symm⟩, _, hanswer.symm, ?_⟩, ?_⟩
  · rw [hcall, hkey]
    rfl
  · unfold createHold
    rw [hchecked]
    exact ⟨.inl rfl, rfl⟩
  · exact ⟨hcarries.readable, hcarries.deferredReceipt, hcarries.encryptedDisplay, hcarries.ttl⟩

include hinj hrun in
/-- A request under the key of a settled one that says something else is refused with 409. -/
lemma serve_conflict {clock : Nat → Int} {agent : AgentRecord}
    (hrepeats : (Call.createHold clock newId agent (some key) input').RepeatsRequest P cfg
      ((relay P cfg).state past))
    (hsettled : Settled P cfg ((relay P cfg).state past) agent.id key input id)
    (hread : Readable P input' action hash) (hother : ¬SameBody cfg input input') :
    (createHold P cfg clock newId agent (some key) input' ((relay P cfg).state past)).1.status =
      409 := by
  obtain ⟨h, hstored, hagent, hkey, hstates⟩ := hsettled
  have hget : ((relay P cfg).state past).getHoldByIdem agent.id key = some h :=
    (getHoldByIdem_eq_some_iff (run_idemIndexed hrun)).mpr ⟨⟨id, hstored⟩, hagent, hkey⟩
  have hne : key ≠ "" := by
    obtain ⟨e, -, clock, agent', key', input', -, hchecked⟩ := run_opened hrun hstored
    obtain ⟨-, -, hne, -⟩ := checkHold_carries hchecked
    rw [hkey] at hne
    exact hne
  unfold createHold
  rw [checkHold_of_replay hne hread hget]
  show (replayed P h hash).status = 409
  rw [replayed_status, if_neg]
  rintro rfl
  have hreplays : Replays P ((relay P cfg).state past) agent (some key) input' h :=
    ⟨⟨key, rfl, hne, hget⟩, action, hread⟩
  exact hother (hstates.sameBody hinj (hreplays.stated hinj hrun (hrepeats h hreplays)))

/-- A request that was replayed from a hold was answered with it. -/
lemma Replays.answered (hrun : (relay P cfg).Run past) (he : e ∈ past) {clock : Nat → Int} {agent : AgentRecord} {key : Option String}
    (hcall : e.call = .createHold clock newId agent key input)
    (hreplays : Replays P e.before agent key input h) :
    ∃ k, key = some k ∧ AnsweredHold e agent.id k input h.id := by
  obtain ⟨k, rfl, hne, hget⟩ := hreplays.used
  obtain ⟨action, hread⟩ := hreplays.readable
  obtain ⟨-, -, hexec⟩ := run_served hrun he
  rw [hcall] at hexec
  have hanswer : some (createHold P cfg clock newId agent (some k) input e.before).1 = e.answer :=
    congrArg Prod.fst hexec
  unfold createHold at hanswer
  rw [checkHold_of_replay hne hread hget] at hanswer
  refine ⟨k, rfl, ⟨clock, newId, agent, hcall, rfl⟩, replayed P h h.requestHash, hanswer.symm, ?_⟩
  unfold replayed
  rw [if_pos rfl]
  exact ⟨.inr rfl, rfl⟩

/-- A run keeps its idempotency keys exactly when every request that repeats a key with the hash of its
hold also repeats the deferred receipt, the display and the time to live. -/
theorem idempotencyKept_iff (P : RelayPlatform) (cfg : RelayConfig)
    (hinj : Function.Injective P.sha256Hex) (past : History) (hrun : (relay P cfg).Run past) :
    IdempotencyKept P cfg past ↔ ∀ e ∈ past, e.call.RepeatsRequest P cfg e.before := by
  constructor
  · intro hkept e he
    cases hcall : e.call with
    | createHold clock newId agent key input =>
      intro h hreplays
      obtain ⟨k, rfl, hanswered⟩ := hreplays.answered hrun he hcall
      obtain ⟨later, earlier, rfl⟩ := List.append_of_mem he
      have hhead : (relay P cfg).Run (e :: earlier) := hrun.suffix
      -- the call that opened the hold of the key was answered with it too
      obtain ⟨k', hk', -, hget⟩ := hreplays.used
      cases hk'
      rw [hhead.before_eq] at hget
      obtain ⟨⟨id, hstored⟩, hagent, hkey⟩ :=
        (getHoldByIdem_eq_some_iff (run_idemIndexed hhead.tail)).mp hget
      obtain ⟨e₀, he₀, hopened⟩ := run_opened hhead.tail hstored
      obtain ⟨input₀, hanswered₀, hcarries⟩ := hopened.answered hhead.tail he₀
      rw [hagent, hkey] at hanswered₀
      have he₀ : e₀ ∈ later ++ e :: earlier := by simp [he₀]
      obtain ⟨-, hsame⟩ := hkept.agree e₀ he₀ e he _ _ _ _ _ _ hanswered₀ hanswered
      refine ⟨?_, ?_, ?_⟩
      · rw [hcarries.deferredReceipt]
        exact hsame.deferredReceipt
      · rw [hcarries.encryptedDisplay]
        exact hsame.encryptedDisplay
      · obtain ⟨ttl, httl, httl'⟩ := hsame.ttl
        rw [httl', ← httl]
        exact hcarries.ttl
    | _ => trivial
  · intro hrepeats
    constructor
    · intro e he e' he' agentId key input input' id id' h h'
      obtain ⟨g, hg, hagent, hkey, hstates⟩ := run_settled hinj hrun hrepeats he h
      obtain ⟨g', hg', hagent', hkey', hstates'⟩ := run_settled hinj hrun hrepeats he' h'
      have hindex := (run_idemIndexed hrun).indexed id g hg
      have hindex' := (run_idemIndexed hrun).indexed id' g' hg'
      rw [show g.agentId = agentId from hagent, show g.idempotencyKey = key from hkey] at hindex
      rw [show g'.agentId = agentId from hagent', show g'.idempotencyKey = key from hkey', hindex]
        at hindex'
      cases hindex'
      cases hg.symm.trans hg'
      exact ⟨rfl, hstates.sameBody hinj hstates'⟩
    · induction hrun with
      | start => exact List.Pairwise.nil
      | @serve past c run hallowed ih =>
        have hearlier : ∀ e ∈ past, e.call.RepeatsRequest P cfg e.before :=
          fun e he => hrepeats e (.tail _ he)
        refine List.Pairwise.cons (fun e he => ?_) (ih hearlier)
        intro agentId key input id clock newId agent input' action hash h hcall hagent hread hother
        subst hagent
        have hcall : c = .createHold clock newId agent (some key) input' := hcall
        subst hcall
        exact ⟨_, rfl, serve_conflict hinj run (hrepeats _ (.head _))
          (run_settled hinj run hearlier he h) hread hother⟩

/-! ## Sample runs -/

namespace SampleRelay

/-- The agent opens a hold. -/
def first : List Call :=
  .createHold (fun _ => 0) "hold-1" agent (some "key-1") holdRequest :: enrolment

/-- The agent sends a request again, under the same key. -/
def again (input : Json) : List Call :=
  .createHold (fun _ => 0) "hold-2" agent (some "key-1") input :: first

/-- The request with a time to live of its own. -/
def longRequest : Json := .obj [("action", actionJson), ("ttlMs", .num 3600000)]

abbrev repeated : History := (relay platform config).play (again holdRequest)

abbrev conflicting : History := (relay platform config).play (again longRequest)

/-- What a stored hold has of a request beyond its hash. -/
def rest (h : HoldRecord) : Bool × Bool × Int :=
  (h.deferredReceipt.isNone, h.encryptedDisplay.isNone, h.expiresAt - h.createdAt)

lemma first_holds :
    (((relay platform config).state ((relay platform config).play first)).holds.get? "hold-2").isNone ∧
      (((relay platform config).state ((relay platform config).play first)).getHoldByIdem "agent-1"
        "key-1").map rest = some (true, true, 900000) ∧
      (((relay platform config).state enrolled).holds.get? "hold-1").isNone ∧
      (((relay platform config).state enrolled).getHoldByIdem "agent-1" "key-1").isNone ∧
      ((relay platform config).state ((relay platform config).play first)).agents.get? "agent-1" =
        some agent := by
  decide

/-- Both requests are answered with the first hold. -/
lemma conflicting_answers :
    ((conflicting.take 2).map fun e => e.answer.map fun r => (r.status, r.body.get? "holdId")) =
      [some (200, some (.str "hold-1")), some (201, some (.str "hold-1"))] := by
  decide +kernel

lemma playable_again (input : Json) : (relay platform config).Playable (again input) := by
  obtain ⟨hfresh, -, hfresh', -, hagent⟩ := first_holds
  exact ⟨⟨⟨by decide, Option.isNone_iff_eq_none.mp hfresh⟩, ⟨_, ⟨[], _, rfl, rfl⟩, hagent⟩⟩,
    ⟨⟨by decide, Option.isNone_iff_eq_none.mp hfresh'⟩, ⟨_, ⟨[], _, rfl, rfl⟩, enrolled_agents⟩⟩,
    playable_enrolment⟩

end SampleRelay

theorem idempotencyKept_iff_repeated :
    IdempotencyKept SampleRelay.platform SampleRelay.config SampleRelay.repeated := by
  refine (idempotencyKept_iff SampleRelay.platform SampleRelay.config SampleRelay.platform_injective _
    (Service.run_play (SampleRelay.playable_again _))).mpr fun e he => ?_
  obtain ⟨-, hheld, -, hunused, -⟩ := SampleRelay.first_holds
  simp only [SampleRelay.again, SampleRelay.first, SampleRelay.enrolment, Service.play,
    mem_iff] at he
  rcases he with rfl | rfl | rfl | rfl | rfl | rfl | rfl
  · -- the second request, on the hold the first one opened
    rintro h ⟨⟨key, ⟨⟩, -, hget⟩, -⟩
    have hget : ((relay SampleRelay.platform SampleRelay.config).state
        ((relay SampleRelay.platform SampleRelay.config).play SampleRelay.first)).getHoldByIdem
          "agent-1" "key-1" = some h := hget
    rw [hget, Option.map_some, Option.some.injEq, SampleRelay.rest, Prod.mk.injEq, Prod.mk.injEq,
      Option.isNone_iff_eq_none, Option.isNone_iff_eq_none] at hheld
    obtain ⟨hdeferred, hdisplay, httl⟩ := hheld
    exact ⟨by rw [hdeferred]; rfl, by rw [hdisplay]; rfl, by rw [httl]; rfl⟩
  · rintro h ⟨⟨key, ⟨⟩, -, hget⟩, -⟩
    have hget : ((relay SampleRelay.platform SampleRelay.config).state
        SampleRelay.enrolled).getHoldByIdem "agent-1" "key-1" = some h := hget
    rw [hget] at hunused
    cases hunused
  all_goals trivial

/-- A request with another time to live is answered with the hold of the first one. -/
theorem other_ttl_replayed :
    (relay SampleRelay.platform SampleRelay.config).Run SampleRelay.conflicting ∧
      ¬IdempotencyKept SampleRelay.platform SampleRelay.config SampleRelay.conflicting := by
  refine ⟨Service.run_play (SampleRelay.playable_again _), fun h => ?_⟩
  obtain ⟨hsecond, hanswers⟩ := List.cons.inj SampleRelay.conflicting_answers
  obtain ⟨hfirst, -⟩ := List.cons.inj hanswers
  obtain ⟨r, hr, hrest⟩ := Option.map_eq_some_iff.mp hsecond
  obtain ⟨r', hr', hrest'⟩ := Option.map_eq_some_iff.mp hfirst
  obtain ⟨hstatus, hid⟩ := Prod.mk.inj hrest
  obtain ⟨hstatus', hid'⟩ := Prod.mk.inj hrest'
  obtain ⟨-, hsame⟩ := h.agree _ (.head _) _ (.tail _ (.head _))
    "agent-1" "key-1" SampleRelay.longRequest SampleRelay.holdRequest _ _
    ⟨⟨_, _, _, rfl, rfl⟩, r, hr, .inr hstatus, hid⟩
    ⟨⟨_, _, _, rfl, rfl⟩, r', hr', .inl hstatus', hid'⟩
  obtain ⟨ttl, httl, httl'⟩ := hsame.ttl
  cases httl
  cases httl'

end Relay

end NoaMandate
