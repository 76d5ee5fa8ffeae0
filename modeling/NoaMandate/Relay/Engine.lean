import NoaMandate.Relay.Store

/-!
# The relay engine

The operations of `engine.ts` on the in-memory store, as functions from the store to an answer and the
store after it.  An operation is given the readings of the clock in the order in which it takes them,
and the random texts it makes ids and tokens of.  Pushed notifications, log lines and the promises of
waiting callers are not part of the store and left out.

A refusal leaves the store as it is, except that a hold that has run out is closed first, by
whichever operation comes upon it (`lazyExpire`).
-/

namespace NoaMandate

namespace Relay

open Pipeline

/-- Source: `config.ts`. -/
structure RelayConfig where
  defaultTtlMs : Int
  minTtlMs : Int
  maxTtlMs : Int
  maxPendingPerAgent : Nat
  pairingTokenTtlMs : Int
  deviceTokenTtlMs : Int

structure EngineResult where
  status : Nat
  body : Json

def err (status : Nat) (error : String) (extra : List (String × Json) := []) : EngineResult :=
  ⟨status, .obj (("error", .str error) :: extra)⟩

/-- A refusal that says more. -/
def detailed (status : Nat) (error detail : String) (extra : List (String × Json) := []) :
    EngineResult :=
  err status error (("detail", .str detail) :: extra)

/-- A text that is not empty. -/
def asString : Option Json → Option String
  | some (.str t) => if t = "" then none else some t
  | _ => none

/-- The fields a request lacks. -/
def missingFields (names : List String) (extra : List (String × Json) := []) : EngineResult :=
  err 400 "MISSING_FIELDS" (("need", .arr (names.map .str)) :: extra)

/-- The answer of an operation that was refused or went through, on the store it started from. -/
def answered (s : Store) : Except EngineResult (EngineResult × Store) → EngineResult × Store
  | .error refusal => (refusal, s)
  | .ok served => served

/-- Source: `engine.ts` `lifecycleOf`. -/
def lifecycleOf (status : HoldStatus) : String :=
  if status = .APPROVED ∨ status = .DENIED then "DECIDED" else status.text

/-! ## Agents -/

variable (P : RelayPlatform) (cfg : RelayConfig)

def createPairing (clock : Nat → Int) (random : String)
    (input : Json) (s : Store) : EngineResult × Store :=
  let token := "noa_pair_" ++ random
  let expiresAt := clock 0 + cfg.pairingTokenTtlMs
  (⟨201, .obj [("token", .str token), ("expiresAt", .str (P.toISOString expiresAt))]⟩,
    s.putPairing
      { token
        agentHint := asString (input.get? "agentHint")
        tenant := asString (input.get? "tenant")
        usedAt := none
        expiresAt
        createdAt := clock 1 })

def redeemPairing (clock : Nat → Int) (newId random : String) (input : Json)
    (s : Store) : EngineResult × Store :=
  answered s do
    refuse (!input.isObj) (err 400 "BAD_REQUEST")
    let token ← demand (asString (input.get? "token")) (missingFields ["token", "name"])
    let name ← demand (asString (input.get? "name")) (missingFields ["token", "name"])
    let pairing ← demand (s.getPairing token) (err 404 "UNKNOWN_PAIRING_TOKEN")
    refuse pairing.usedAt.isSome (err 409 "PAIRING_TOKEN_ALREADY_USED")
    refuse (clock 0 > pairing.expiresAt) (err 410 "PAIRING_TOKEN_EXPIRED")
    let apiKey := "noa_agent_" ++ random
    let agent : AgentRecord :=
      { id := newId
        name
        apiKeyHash := P.hashSecret apiKey
        ownerDevice := none
        tenant := pairing.tenant
        createdAt := clock 1 }
    return (⟨200, .obj [("agentId", .str agent.id), ("apiKey", .str apiKey)]⟩,
      (s.putAgent agent).putPairing { pairing with usedAt := some (clock 2) })

/-! ## Devices -/

def DEVICE_TOKEN_PREFIX : String := "noa_devpair_"

def createDevicePairing (clock : Nat → Int) (random : String)
    (input : Json) (s : Store) : EngineResult × Store :=
  answered s do
    refuse (!input.isObj) (err 400 "BAD_REQUEST")
    let missing := missingFields ["tenant", "kid"] [("detail", .str ("a device token must name the " ++
      "tenant it scopes the device to and the ONLY key permitted to redeem it; a tenant-less device " ++
      "is claimable by any tenant, and an unbound token is usable by anyone who obtains the paste " ++
      "bundle"))]
    let tenant ← demand (asString (input.get? "tenant")) missing
    let kid ← demand (asString (input.get? "kid")) missing
    let token := DEVICE_TOKEN_PREFIX ++ random
    let expiresAt := clock 0 + cfg.deviceTokenTtlMs
    return (⟨201, .obj [("token", .str token), ("expiresAt", .str (P.toISOString expiresAt))]⟩,
      s.putDevicePairing
        { tokenHash := P.hashSecret token, tenant, kid, usedAt := none, expiresAt
          createdAt := clock 1 })

/-- The public key of an enrolling device: 32 bytes in lowercase hex, and a strict point. -/
def checkPublicKey (publicKeyHex : String) : Except EngineResult Unit :=
  refuse (!Scan.isHex64 publicKeyHex || !P.isStrictEd25519PublicKeyHex publicKeyHex)
    (err 422 "BAD_PUBLIC_KEY")

/-- The device token of a request, not used and not run out, and bound to the key that presents it. -/
def checkDeviceToken (now : Int) (token kid : String) (s : Store) :
    Except EngineResult DevicePairingRecord := do
  refuse (!(Text.chars DEVICE_TOKEN_PREFIX).isPrefixOf (Text.chars token))
    (detailed 422 "WRONG_TOKEN_TYPE" ("this route redeems device-pairing tokens only; an agent " ++
      "pairing token is a different authority"))
  let record ← demand (s.getDevicePairingByHash (P.hashSecret token)) (err 404 "UNKNOWN_DEVICE_TOKEN")
  refuse record.usedAt.isSome
    (detailed 409 "DEVICE_TOKEN_ALREADY_USED" ("a device token is single-use. If the response to " ++
      "the first redemption was lost, the operator issues a FRESH token for the same kid — that " ++
      "re-mints the secret onto the existing device rather than creating a second one"))
  refuse (now > record.expiresAt) (err 410 "DEVICE_TOKEN_EXPIRED")
  refuse (record.kid ≠ kid) (err 403 "DEVICE_TOKEN_KID_MISMATCH")
  return record

/-- What a redeemed device token answers. -/
def enrolled (status : Nat) (deviceId deviceSecret : String) (reminted : Bool) : EngineResult :=
  ⟨status, .obj [("deviceId", .str deviceId), ("deviceSecret", .str deviceSecret),
    ("reminted", .bool reminted)]⟩

/-- A token redeemed for a key that is enrolled already re-mints the device's secret. -/
def redeemDevicePairing (clock : Nat → Int) (newId random : String)
    (input : Json) (s : Store) : EngineResult × Store :=
  answered s do
    refuse (!input.isObj) (err 400 "BAD_REQUEST")
    let missing := missingFields ["token", "kid", "publicKeyHex"]
    let token ← demand (asString (input.get? "token")) missing
    let kid ← demand (asString (input.get? "kid")) missing
    let publicKeyHex ← demand (asString (input.get? "publicKeyHex")) missing
    let custodyTier := (asString (input.get? "custodyTier")).getD "software-native"
    checkPublicKey P publicKeyHex
    let record ← checkDeviceToken P (clock 0) token kid s
    let deviceSecret := "noa_device_" ++ random
    match s.getDeviceByKid kid with
    | some existing =>
      refuse (existing.tenant ≠ some record.tenant) (err 404 "UNKNOWN_DEVICE_TOKEN")
      refuse existing.revokedAt.isSome (err 403 "DEVICE_REVOKED")
      return (enrolled 200 existing.id deviceSecret true,
        (s.putDevice { existing with
          publicKeyHex, custodyTier, deviceSecretHash := P.hashSecret deviceSecret }).putDevicePairing
            { record with usedAt := some (clock 1) })
    | none =>
      return (enrolled 201 newId deviceSecret false,
        (s.putDevice
          { id := newId, kid, publicKeyHex, custodyTier
            tenant := some record.tenant
            deviceSecretHash := P.hashSecret deviceSecret
            agentId := none
            revokedAt := none
            createdAt := clock 1 }).putDevicePairing { record with usedAt := some (clock 2) })

/-- The untenanted enrolment of development set-ups. -/
def registerDevice (clock : Nat → Int) (newId random : String) (input : Json)
    (s : Store) : EngineResult × Store :=
  answered s do
    refuse (!input.isObj) (err 400 "BAD_REQUEST")
    let kid ← demand (asString (input.get? "kid")) (missingFields ["kid", "publicKeyHex"])
    let publicKeyHex ← demand (asString (input.get? "publicKeyHex"))
      (missingFields ["kid", "publicKeyHex"])
    let custodyTier := (asString (input.get? "custodyTier")).getD "software-browser"
    checkPublicKey P publicKeyHex
    refuse (s.getDeviceByKid kid).isSome (err 409 "KID_ALREADY_REGISTERED")
    let deviceSecret := "noa_device_" ++ random
    return (⟨201, .obj [("deviceId", .str newId), ("deviceSecret", .str deviceSecret)]⟩,
      s.putDevice
        { id := newId, kid, publicKeyHex, custodyTier
          deviceSecretHash := P.hashSecret deviceSecret
          tenant := none
          agentId := none
          revokedAt := none
          createdAt := clock 0 })

/-- What a claim answers. -/
def claimed (deviceId : String) (idempotent : Bool) : EngineResult :=
  ⟨200, .obj [("deviceId", .str deviceId), ("claimed", .bool true), ("idempotent", .bool idempotent)]⟩

/-- An agent claims a device that no other agent has claimed; a device of a tenant, only an agent of
that tenant. -/
def claimDevice (agent : AgentRecord) (deviceId : String) (s : Store) : EngineResult × Store :=
  answered s do
    let device ← demand ((s.getDeviceById deviceId).filter fun d =>
        d.agentId = none ∨ d.agentId = some agent.id) (err 404 "UNKNOWN_DEVICE")
    refuse device.revokedAt.isSome (err 403 "DEVICE_REVOKED")
    refuse (device.tenant.isSome && device.tenant ≠ agent.tenant) (err 404 "UNKNOWN_DEVICE")
    if device.agentId = some agent.id then return (claimed device.id true, s)
    else return (claimed device.id false, s.putDevice { device with agentId := some agent.id })

def registerPush (clock : Nat → Int) (deviceId : String) (input : Json) (s : Store) :
    EngineResult × Store :=
  match s.getDeviceById deviceId with
  | none => (err 404 "UNKNOWN_DEVICE", s)
  | some _ =>
    let subscription := (Artifact.present? (input.get? "subscription")).getD input
    (⟨204, .null⟩, s.putPush { deviceId, subscription, createdAt := clock 0 })

/-- A device revokes itself, once. -/
def revokeSelf (clock : Nat → Int) (device : DeviceRecord) (s : Store) : EngineResult × Store :=
  let current := (s.getDeviceById device.id).getD device
  (⟨204, .null⟩,
    if current.revokedAt.isNone then s.putDevice { current with revokedAt := some (clock 0) } else s)

/-! ## Opening holds -/

/-- Source: `engine.ts` `parseAction`. -/
def parseAction (v : Option Json) : Except String HoldAction := do
  let v ← demand (v.filter Json.isObj) "MISSING_ACTION"
  let canonical ← demand (asString (v.get? "canonical")) "INCOMPLETE_ACTION"
  let riskText ← demand (asString (v.get? "riskClass")) "INCOMPLETE_ACTION"
  let paramsHash ← demand (asString (v.get? "paramsHash")) "INCOMPLETE_ACTION"
  let riskClass ← demand (RiskClass.ofText? riskText) "BAD_RISK_CLASS"
  refuse (!Scan.isParamsHash paramsHash) "BAD_PARAMS_HASH"
  return { canonical, riskClass, paramsHash }

/-- Source: `engine.ts` `parseReceiptOrNull`. -/
def parseReceiptOrNull (v : Option Json) : Option Json :=
  v.filter fun r => r.isObj && r.get? "spec" = some (.str "noa.receipt/0.1")

/-- The hash a receipt claims for itself, when it is a text. -/
def chainHash (receipt : Json) : Option String := receipt.strAt? ["chain", "hash"]

/-- The hash a receipt links to, when it is a text. -/
def chainPrevHash (receipt : Json) : Option String := receipt.strAt? ["chain", "prevHash"]

/-- The time a hold is given. -/
def holdTtl : Option Json → Except EngineResult Int
  | none => .ok cfg.defaultTtlMs
  | some (.num ttl) =>
    if ttl < cfg.minTtlMs ∨ ttl > cfg.maxTtlMs then
      .error (err 422 "TTL_OUT_OF_RANGE" [("minMs", .num cfg.minTtlMs), ("maxMs", .num cfg.maxTtlMs)])
    else .ok ttl
  | some _ => .error (err 422 "BAD_TTL")

/-- The sealed display of a hold, which the envelope may name by hash. -/
def checkEncryptedDisplay (envelope : Option Json) : Option Json → Except EngineResult (Option Json)
  | none => .ok none
  | some display => do
    refuse (!display.isObj || display.get? "spec" ≠ some (.str "noa.encrypted-display/0.1"))
      (err 422 "BAD_ENCRYPTED_DISPLAY")
    let hash ← demand (safeRefHash P display)
      (detailed 422 "BAD_ENCRYPTED_DISPLAY" "not JCS-canonicalizable")
    let named := SchemaEval.truthy? (envelope.bind (·.get? "displayCiphertextHash"))
    refuse (named.any (· ≠ .str hash))
      (detailed 422 "DISPLAY_HASH_MISMATCH"
        "refHash(encryptedDisplay) != holdEnvelope.displayCiphertextHash (F2)")
    return some display

/-- Another hold carries a deferred receipt that claims the hash. -/
def deferredReused (s : Store) (hash : String) : Bool :=
  (s.listHolds none).any fun h => h.deferredReceipt.any fun r => chainHash r = some hash

/-- What a request for a hold answers when its idempotency key was used before. -/
def replayed (existing : HoldRecord) (requestHash : String) : EngineResult :=
  if existing.requestHash = requestHash then
    ⟨200, .obj [("holdId", .str existing.id), ("lifecycle", .str (lifecycleOf existing.status)),
      ("expiresAt", .str (P.toISOString existing.expiresAt)), ("idempotent", .bool true)]⟩
  else
    detailed 409 "IDEMPOTENCY_CONFLICT" "same Idempotency-Key with a different body"

/-- Answer a request whose idempotency key has opened a hold. -/
def refuseReplay (existing : Option HoldRecord) (requestHash : String) : Except EngineResult Unit :=
  match existing with
  | some existing => .error (replayed P existing requestHash)
  | none => .ok ()

/-- The checks on a request for a hold, and the hold it opens. -/
def checkHold (now : Int) (newId : String)
    (agent : AgentRecord) (idempotencyKey : Option String) (input : Json) (s : Store) :
    Except EngineResult HoldRecord := do
  let idempotencyKey ← demand (idempotencyKey.filter (· ≠ "")) (err 400 "MISSING_IDEMPOTENCY_KEY")
  refuse (!input.isObj) (err 400 "BAD_REQUEST")
  refuse (Artifact.present? (input.get? "display")).isSome
    (detailed 422 "PLAINTEXT_DISPLAY_FORBIDDEN" ("display must be HPKE-encrypted by the gate " ++
      "before it reaches the relay (send encryptedDisplay)"))
  let action ← (parseAction (input.get? "action")).mapError (err 422 ·)
  let requestHash ← demand
    (safeRefHash P (.obj [("action", action.json),
      ("envelope", (input.get? "holdEnvelope").getD .null)]))
    (detailed 422 "MALFORMED_BODY" "body is not JCS-canonicalizable")
  -- a key that was used before is answered here, before the rest of the body is looked at
  refuseReplay P (s.getHoldByIdem agent.id idempotencyKey) requestHash
  let ttlMs ← holdTtl cfg (input.get? "ttlMs")
  refuse (s.countPending agent.id ≥ cfg.maxPendingPerAgent)
    (err 429 "MAX_PENDING_EXCEEDED" [("maxPendingPerAgent", .num cfg.maxPendingPerAgent)])
  let envelope := (input.get? "holdEnvelope").filter Json.isObj
  let encryptedDisplay ← checkEncryptedDisplay P envelope (input.get? "encryptedDisplay")
  let deferredReceipt := parseReceiptOrNull (input.get? "deferredReceipt")
  refuse ((deferredReceipt.bind chainHash).any (deferredReused s))
    (detailed 409 "DEFERRED_RECEIPT_REUSED" ("this deferred receipt already opened another " ++
      "hold; a hold's binding target must be unique, or an approval of that hold could be " ++
      "replayed onto this one"))
  return {
    id := newId
    agentId := agent.id
    idempotencyKey, requestHash
    status := .PENDING
    action
    holdEnvelope := envelope
    deferredReceipt, encryptedDisplay
    decisionReceipt := none
    decisionArtifact := none
    reasonCode := none
    expiresAt := now + ttlMs
    decidedAt := none
    createdAt := now }

/-- Source: `engine.ts` `createHold`. -/
def createHold (clock : Nat → Int) (newId : String)
    (agent : AgentRecord) (idempotencyKey : Option String) (input : Json) (s : Store) :
    EngineResult × Store :=
  answered s do
    let hold ← checkHold P cfg (clock 0) newId agent idempotencyKey input s
    return (⟨201, .obj [("holdId", .str hold.id), ("lifecycle", .str hold.status.text),
      ("expiresAt", .str (P.toISOString hold.expiresAt))]⟩, s.putHold hold)

/-! ## Reading holds -/

/-- The hold, closed because its time ran out. -/
def HoldRecord.closed (hold : HoldRecord) (time : Int) : HoldRecord :=
  { hold with status := .EXPIRED, reasonCode := some .APPROVAL_TIMEOUT, decidedAt := some time }

/-- Close a hold that has run out. Source: `engine.ts` `lazyExpire`; the clock is read once to see
whether it has and once for the time of the closing. -/
def lazyExpire (now time : Int) (hold : HoldRecord) (s : Store) : HoldRecord × Store :=
  if hold.status = .PENDING ∧ now ≥ hold.expiresAt then
    (hold.closed time, s.putHold (hold.closed time))
  else (hold, s)

/-- Close the holds of a list that have run out, each with its own readings of the clock, and count
them. -/
def expireAll : List (HoldRecord × Int × Int) → Nat → Store → Nat × Store
  | [], n, s => (n, s)
  | (h, now, time) :: rest, n, s =>
    let (closed, s) := lazyExpire now time h s
    expireAll rest (if closed.status ≠ h.status then n + 1 else n) s

/-- The pending holds, each with the readings of the clock it is looked at with. -/
def pendingReadings (clock : Nat → Int) (s : Store) : List (HoldRecord × Int × Int) :=
  (s.listHolds (some .PENDING)).zipIdx.map fun (h, i) => (h, clock (2 * i), clock (2 * i + 1))

def sweepExpired (clock : Nat → Int) (s : Store) : Nat × Store :=
  expireAll (pendingReadings clock s) 0 s

def holdView (hold : HoldRecord) : Json :=
  .obj [("holdId", .str hold.id), ("lifecycle", .str (lifecycleOf hold.status)),
    ("action", hold.action.json), ("expiresAt", .str (P.toISOString hold.expiresAt)),
    ("decidedAt", (hold.decidedAt.map fun t => Json.str (P.toISOString t)).getD .null),
    ("decisionReceipt", hold.decisionReceipt.getD .null),
    ("decisionArtifact", hold.decisionArtifact.getD .null)]

/-- The hold is the agent's. -/
def ownsHold (agent : AgentRecord) (hold : HoldRecord) : Bool := hold.agentId = agent.id

/-- The device was claimed by the agent whose hold it is. -/
def deviceOwnsHold (device : DeviceRecord) (hold : HoldRecord) : Bool :=
  device.agentId = some hold.agentId

def unknownHold : EngineResult := err 404 "UNKNOWN_HOLD"

def getHold (clock : Nat → Int) (agent : AgentRecord) (id : String) (s : Store) :
    EngineResult × Store :=
  match (s.getHold id).filter (ownsHold agent) with
  | none => (unknownHold, s)
  | some hold =>
    let (hold, s) := lazyExpire (clock 0) (clock 1) hold s
    (⟨200, holdView P hold⟩, s)

/-- The part of a long poll before the caller waits; no answer means that it does. When the wait
times out, the hold is read as `getHold` reads it. -/
def wait (clock : Nat → Int) (agent : AgentRecord) (id : String) (s : Store) :
    Option EngineResult × Store :=
  match (s.getHold id).filter (ownsHold agent) with
  | none => (some unknownHold, s)
  | some hold =>
    let (hold, s) := lazyExpire (clock 0) (clock 1) hold s
    (if hold.status = .PENDING then none else some ⟨200, holdView P hold⟩, s)

def getDisplay (device : DeviceRecord) (id : String) (s : Store) : EngineResult :=
  match (s.getHold id).filter (deviceOwnsHold device) with
  | none => unknownHold
  | some hold =>
    match hold.encryptedDisplay with
    | none => err 404 "NO_ENCRYPTED_DISPLAY"
    | some display => ⟨200, display⟩

def getHoldContext (device : DeviceRecord) (id : String) (s : Store) : EngineResult :=
  match (s.getHold id).filter (deviceOwnsHold device) with
  | none => unknownHold
  | some hold =>
    match hold.holdEnvelope, hold.deferredReceipt with
    | some envelope, some deferred =>
      ⟨200, .obj [("holdEnvelope", envelope), ("deferredReceipt", deferred)]⟩
    | _, _ => err 404 "NO_HOLD_CONTEXT"

/-- A row of the list of pending holds. -/
def pendingRow (hold : HoldRecord) : Json :=
  .obj [("holdId", .str hold.id), ("canonical", .str hold.action.canonical),
    ("riskClass", .str hold.action.riskClass.text), ("paramsHash", .str hold.action.paramsHash),
    ("expiresAt", .str (P.toISOString hold.expiresAt))]

def listPending (clock : Nat → Int) (device : DeviceRecord) (s : Store) : EngineResult :=
  let rows := (s.listHolds (some .PENDING)).filter fun h =>
    deviceOwnsHold device h && clock 0 < h.expiresAt
  ⟨200, .obj [("holds", .arr (rows.map (pendingRow P)))]⟩

/-! ## Decisions -/

/-- The verdicts a decision may carry. -/
inductive PhoneVerdict where
  | ALLOWED
  | BLOCKED
  deriving DecidableEq

def PhoneVerdict.text : PhoneVerdict → String
  | .ALLOWED => "ALLOWED"
  | .BLOCKED => "BLOCKED"

def PhoneVerdict.ofText? : String → Option PhoneVerdict
  | "ALLOWED" => some .ALLOWED
  | "BLOCKED" => some .BLOCKED
  | _ => none

/-- The status a verdict gives a hold. -/
def PhoneVerdict.status : PhoneVerdict → HoldStatus
  | .ALLOWED => .APPROVED
  | .BLOCKED => .DENIED

def PhoneVerdict.reasonCode : PhoneVerdict → HoldReasonCode
  | .ALLOWED => .HUMAN_APPROVED_INTENT_NOT_EXECUTION_BOUND
  | .BLOCKED => .HUMAN_DENIED

/-- The hold, decided by a receipt. -/
def HoldRecord.decided (hold : HoldRecord) (receipt : Json) (artifact : Option Json)
    (verdict : PhoneVerdict) (time : Int) : HoldRecord :=
  { hold with
    decisionReceipt := some receipt
    decisionArtifact := artifact
    status := verdict.status
    reasonCode := some verdict.reasonCode
    decidedAt := some time }

/-- The receipt of a request, as an inert copy. -/
def decisionReceipt (input : Json) : Except EngineResult Json := do
  let raw ← demand ((input.get? "receipt").filter Json.isObj) (err 422 "BAD_OR_MISSING_RECEIPT")
  let inert ← demand (inertSnapshot raw)
    (detailed 422 "MALFORMED_RECEIPT" "the receipt is not JCS-canonicalizable plain data")
  demand (parseReceiptOrNull (some inert)) (err 422 "BAD_OR_MISSING_RECEIPT")

/-- The receipt is signed by the presenting device, under the key now registered for its key id. -/
def checkSigner (device : DeviceRecord) (kid : String) (receipt : Json)
    (s : Store) : Except EngineResult Unit := do
  let signer ← demand (s.getDeviceByKid kid) (err 422 "UNKNOWN_SIGNER_KID")
  refuse (!P.verifyReceiptSignature receipt signer.publicKeyHex) (err 422 "UNVERIFIED_SIGNATURE")
  refuse signer.revokedAt.isSome (err 403 "DEVICE_REVOKED")
  refuse (signer.id ≠ device.id) (err 403 "DEVICE_MISMATCH")

/-- The receipt is about the action of the hold and, by class, about the hold: on a hold opened with a
deferred receipt it links to that receipt, on one opened without it links to nothing. -/
def checkBinding (hold : HoldRecord) (receipt : Json) : Except EngineResult Unit := do
  refuse (receipt.path? ["action", "canonical"] ≠ some (.str hold.action.canonical) ||
      receipt.path? ["action", "paramsHash"] ≠ some (.str hold.action.paramsHash))
    (err 422 "ACTION_BINDING_MISMATCH")
  match hold.deferredReceipt with
  | none =>
    refuse (chainPrevHash receipt).isSome
      (detailed 422 "ACTION_BINDING_MISMATCH" ("this hold carries no deferred receipt, so a " ++
        "decision chained onto one belongs to a different hold; an approval of a gate-opened " ++
        "hold is not an approval of this one"))
  | some deferred =>
    let hash ← demand (chainHash deferred)
      (detailed 422 "ACTION_BINDING_MISMATCH" ("this hold's deferred receipt has no readable " ++
        "chain hash, so no decision can be bound to it"))
    refuse (chainPrevHash receipt ≠ some hash)
      (detailed 422 "ACTION_BINDING_MISMATCH" ("the decision does not chain onto THIS hold's " ++
        "deferred receipt; an approval of another hold with the same action is not an approval " ++
        "of this one"))

/-- The checks on a decision; the hold is pending. -/
def checkDecision (device : DeviceRecord) (hold : HoldRecord) (input : Json)
    (s : Store) : Except EngineResult (Json × PhoneVerdict) := do
  refuse (!input.isObj) (err 400 "BAD_REQUEST")
  let receipt ← decisionReceipt input
  let kid ← demand (asString (receipt.path? ["sig", "kid"])) (err 422 "RECEIPT_MISSING_SIG")
  let verdict ← demand ((receipt.strAt? ["governance", "verdict"]).bind PhoneVerdict.ofText?)
    (detailed 422 "UNEXPECTED_VERDICT" "phone decision must be ALLOWED or BLOCKED")
  checkSigner P device kid receipt s
  checkBinding hold receipt
  return (receipt, verdict)

/-- Source: `engine.ts` `decide`. -/
def decide (clock : Nat → Int) (device : DeviceRecord) (holdId : String)
    (input : Json) (s : Store) : EngineResult × Store :=
  match (s.getHold holdId).filter (deviceOwnsHold device) with
  | none => (unknownHold, s)
  | some hold =>
    let (hold, s) := lazyExpire (clock 0) (clock 1) hold s
    answered s do
      refuse (hold.status ≠ .PENDING)
        (err 409 (if hold.status = .EXPIRED then "HOLD_EXPIRED" else "HOLD_ALREADY_RESOLVED")
          [("lifecycle", .str (lifecycleOf hold.status))])
      let (receipt, verdict) ← checkDecision P device hold input s
      let artifact := (Artifact.present? (input.get? "decisionArtifact")).bind inertSnapshot
      let hold := hold.decided receipt artifact verdict (clock 2)
      return (⟨200, holdView P hold⟩, s.putHold hold)

/-! ## Manifests -/

def MAX_VERSION_JUMP : Int := 1000

def MAX_GENESIS_VERSION : Int := 16

def MAX_SANE_VERSION : Int := 1000000

/-- The version of a manifest. -/
def manifestVersion (manifest : Json) : Except EngineResult Int :=
  match manifest.get? "version" with
  | some (.num version) =>
    if version.natAbs ≤ Json.maxSafe ∧ 0 ≤ version then .ok version
    else .error (detailed 422 "BAD_MANIFEST_VERSION" "version must be a non-negative safe integer")
  | _ => .error (err 422 "MANIFEST_MISSING_VERSION")

/-- The delegation that comes with a manifest of the tenant. -/
def checkManifestDelegation (tenant : String) : Option Json → Except EngineResult (Option Json)
  | none => .ok none
  | some d => do
    refuse (!d.isObj || d.get? "spec" ≠ some (.str "noa.key-delegation/0.1"))
      (err 422 "BAD_DELEGATION")
    let named ← demand (asString (d.get? "tenant"))
      (detailed 422 "BAD_DELEGATION" ("delegation.tenant is required (noa.key-delegation/0.1) — " ++
        "an omitted tenant cannot bypass the cross-tenant guard"))
    refuse (named ≠ tenant)
      (detailed 422 "BAD_DELEGATION" "delegation.tenant does not match manifest.tenant")
    return some d

/-- A stored record from before the version bound, which no publish could follow. -/
def unreachable (cur : KeyManifestRecord) : Bool :=
  cur.version > MAX_SANE_VERSION && !cur.publishedUnderVersionBound

/-- A tenant opens at a small version and then advances in bounded steps. -/
def checkVersionBound (cur : Option KeyManifestRecord) (version : Int) : Except EngineResult Unit :=
  match cur.filter (!unreachable ·) with
  | none =>
    refuse (version > MAX_GENESIS_VERSION)
      (detailed 422 "BAD_MANIFEST_VERSION" ("a tenant's first manifest must open at a " ++
        "genesis-scale version (<= " ++ toString MAX_GENESIS_VERSION ++ ")")
        [("currentVersion", (cur.map fun c => Json.num c.version).getD .null),
          ("attemptedVersion", .num version), ("maxAcceptedVersion", .num MAX_GENESIS_VERSION)])
  | some cur =>
    refuse (version > cur.version + MAX_VERSION_JUMP)
      (detailed 422 "BAD_MANIFEST_VERSION" ("version advances too far in one publish (max +" ++
        toString MAX_VERSION_JUMP ++ " beyond the stored version)")
        [("currentVersion", .num cur.version), ("attemptedVersion", .num version),
          ("maxAcceptedVersion", .num (cur.version + MAX_VERSION_JUMP))])

/-- What a publish that conflicts with the stored record answers. -/
def conflictResult (outcome : ManifestPutOutcome) (current : Option KeyManifestRecord)
    (rec : KeyManifestRecord) : EngineResult :=
  let currentVersion := (current.map fun c => Json.num c.version).getD .null
  if outcome = .stale then
    detailed 409 "STALE_MANIFEST_VERSION" "manifest version is older than the currently-stored version"
      [("currentVersion", currentVersion), ("attemptedVersion", .num rec.version)]
  else
    detailed 409 "MANIFEST_EQUIVOCATION"
      "manifest version already exists with different manifest or delegation content"
      [("currentVersion", currentVersion), ("attemptedVersion", .num rec.version),
        ("currentRefHash", (current.map fun c => Json.str c.refHash).getD .null),
        ("attemptedRefHash", .str rec.refHash)]

/-- The checks on a publish: the record to store, and whether it replaces an unreachable one. -/
def checkManifest (now : Int) (agent : AgentRecord) (input : Json) (s : Store) :
    Except EngineResult (KeyManifestRecord × Bool) := do
  refuse (!input.isObj) (err 400 "BAD_REQUEST")
  let manifest ← demand ((input.get? "manifest").filter fun m =>
    m.isObj && m.get? "spec" = some (.str "noa.key-manifest/0.1")) (err 422 "BAD_MANIFEST")
  let tenant := (asString (manifest.get? "tenant")).getD "default"
  refuse (agent.tenant ≠ some tenant)
    (detailed 403 "TENANT_NOT_AUTHORIZED"
      "this agent credential is not scoped to the tenant named in the manifest")
  let version ← manifestVersion manifest
  let manifestHash ← demand (safeRefHash P manifest)
    (detailed 422 "BAD_MANIFEST" "not JCS-canonicalizable")
  let given ← checkManifestDelegation tenant (input.get? "delegation")
  let cur := s.getLatestManifest tenant
  checkVersionBound cur version
  -- a publish of the stored version without a delegation keeps the stored one
  let delegation :=
    match cur with
    | some c => if version = c.version ∧ (input.get? "delegation").isNone then c.delegation else given
    | none => given
  return (
    { tenant, version, manifest, delegation, refHash := manifestHash, createdAt := now
      publishedUnderVersionBound := true },
    cur.any unreachable)

/-- Store a checked record. The engine classifies the publish first and the store does so again. -/
def publish (record : KeyManifestRecord) (recovery : Bool) (s : Store) :
    Except EngineResult Store := do
  let cur := s.getLatestManifest record.tenant
  let preflight := classifyManifestPut P cur record
  refuse (!recovery && (preflight = .stale || preflight = .equivocation))
    (conflictResult preflight cur record)
  (s.putManifest P record recovery).mapError fun e => conflictResult e.1 e.2 record

/-- Source: `engine.ts` `putManifest`. -/
def putManifest (clock : Nat → Int) (agent : AgentRecord) (input : Json)
    (s : Store) : EngineResult × Store :=
  answered s do
    let (record, recovery) ← checkManifest P (clock 0) agent input s
    let written ← publish P record recovery s
    return (⟨200, .obj [("tenant", .str record.tenant), ("version", .num record.version),
      ("refHash", .str record.refHash)]⟩, written)

def getManifest (tenant : String) (s : Store) : EngineResult :=
  match s.getLatestManifest tenant with
  | none => err 404 "NO_MANIFEST"
  | some rec => ⟨200, rec.manifest⟩

def getTrust (tenant : String) (s : Store) : EngineResult :=
  match s.getLatestManifest tenant with
  | none => err 404 "NO_MANIFEST"
  | some rec =>
    match rec.delegation with
    | none => err 404 "NO_DELEGATION"
    | some delegation => ⟨200, .obj [("manifest", rec.manifest), ("delegation", delegation)]⟩

end Relay

end NoaMandate
