import NoaMandate.Lib.Table
import NoaMandate.Artifacts.Verify

/-!
# The relay's store

The records of `types.ts` and the in-memory store of `store.ts`: nine maps and the writes on them.
Times are milliseconds.  A member that the source sets to `null` is an `Option` here, and a stored
document is the JSON value it is.
-/

namespace NoaMandate

namespace Relay

/-- What the relay takes from its platform: the secret hash, signature verification, the strict key
check and the text of an instant. -/
structure RelayPlatform extends Intrinsics where
  /-- `auth.ts` `hashSecret`. -/
  hashSecret : String → String
  /-- `crypto.ts` `verifyReceiptSignature`: receipt, public key. -/
  verifyReceiptSignature : Json → String → Bool
  /-- `crypto.ts` `isStrictEd25519PublicKeyHex`. -/
  isStrictEd25519PublicKeyHex : String → Bool
  /-- `new Date(ms).toISOString()`. -/
  toISOString : Int → String

variable (P : RelayPlatform)

/-- `refHash` of a value; `none` where it has no canonical form. Source: `crypto.ts` `safeRefHash`. -/
def safeRefHash (v : Json) : Option String := refHash P.toIntrinsics v

/-- A copy read back from the canonical form; `none` where there is none. Source: `crypto.ts`
`inertSnapshot`. -/
def inertSnapshot (v : Json) : Option Json := (canonicalize v).map fun _ => v.norm

/-! ## Records -/

inductive HoldStatus where
  | PENDING
  | APPROVED
  | DENIED
  | EXPIRED
  | CANCELLED_LOCAL_STATE_LOST
  deriving DecidableEq

def HoldStatus.text : HoldStatus → String
  | .PENDING => "PENDING"
  | .APPROVED => "APPROVED"
  | .DENIED => "DENIED"
  | .EXPIRED => "EXPIRED"
  | .CANCELLED_LOCAL_STATE_LOST => "CANCELLED_LOCAL_STATE_LOST"

inductive HoldReasonCode where
  | HUMAN_APPROVED
  | HUMAN_APPROVED_INTENT_NOT_EXECUTION_BOUND
  | HUMAN_DENIED
  | APPROVAL_TIMEOUT
  | LOCAL_STATE_LOST
  deriving DecidableEq

inductive RiskClass where
  | LOW
  | MEDIUM
  | HIGH
  | CRITICAL
  | IRREVERSIBLE
  deriving DecidableEq

namespace RiskClass

/-- Source: `engine.ts` `RISK_CLASSES`. -/
def all : List RiskClass := [.LOW, .MEDIUM, .HIGH, .CRITICAL, .IRREVERSIBLE]

def text : RiskClass → String
  | .LOW => "LOW"
  | .MEDIUM => "MEDIUM"
  | .HIGH => "HIGH"
  | .CRITICAL => "CRITICAL"
  | .IRREVERSIBLE => "IRREVERSIBLE"

def ofText? (s : String) : Option RiskClass := all.find? fun r => r.text = s

end RiskClass

structure HoldAction where
  canonical : String
  riskClass : RiskClass
  paramsHash : String
  deriving DecidableEq

def HoldAction.json (a : HoldAction) : Json :=
  .obj [("canonical", .str a.canonical), ("riskClass", .str a.riskClass.text),
    ("paramsHash", .str a.paramsHash)]

structure HoldRecord where
  id : String
  agentId : String
  idempotencyKey : String
  requestHash : String
  status : HoldStatus
  action : HoldAction
  holdEnvelope : Option Json
  deferredReceipt : Option Json
  encryptedDisplay : Option Json
  decisionReceipt : Option Json
  decisionArtifact : Option Json
  reasonCode : Option HoldReasonCode
  expiresAt : Int
  decidedAt : Option Int
  createdAt : Int

structure AgentRecord where
  id : String
  name : String
  apiKeyHash : String
  ownerDevice : Option String
  tenant : Option String
  createdAt : Int
  deriving DecidableEq

structure DeviceRecord where
  id : String
  kid : String
  publicKeyHex : String
  custodyTier : String
  tenant : Option String
  deviceSecretHash : String
  /-- The agent that claimed the device. -/
  agentId : Option String
  revokedAt : Option Int
  createdAt : Int
  deriving DecidableEq

structure PushSubscriptionRecord where
  deviceId : String
  subscription : Json
  createdAt : Int

structure DevicePairingRecord where
  tokenHash : String
  tenant : String
  kid : String
  usedAt : Option Int
  expiresAt : Int
  createdAt : Int
  deriving DecidableEq

structure PairingRecord where
  token : String
  agentHint : Option String
  tenant : Option String
  usedAt : Option Int
  expiresAt : Int
  createdAt : Int
  deriving DecidableEq

structure KeyManifestRecord where
  tenant : String
  version : Int
  manifest : Json
  delegation : Option Json
  refHash : String
  createdAt : Int
  /-- Set by every publish that went through the version bound. -/
  publishedUnderVersionBound : Bool

/-! ## The store -/

/-- Source: `store.ts` `InMemoryStore`. -/
structure Store where
  agents : Table String AgentRecord := .empty
  devices : Table String DeviceRecord := .empty
  /-- The id of the device with a key id. -/
  devicesByKid : Table String String := .empty
  push : Table String PushSubscriptionRecord := .empty
  pairings : Table String PairingRecord := .empty
  devicePairings : Table String DevicePairingRecord := .empty
  holds : Table String HoldRecord := .empty
  /-- The id of the hold an agent opened under an idempotency key. -/
  holdsByIdem : Table String String := .empty
  manifests : Table String KeyManifestRecord := .empty

namespace Store

variable (s : Store)

def putAgent (a : AgentRecord) : Store := { s with agents := s.agents.set a.id a }

def putDevice (d : DeviceRecord) : Store :=
  { s with devices := s.devices.set d.id d, devicesByKid := s.devicesByKid.set d.kid d.id }

def getDeviceById (id : String) : Option DeviceRecord := s.devices.get? id

/-- An empty id counts as none. -/
def getDeviceByKid (kid : String) : Option DeviceRecord :=
  ((s.devicesByKid.get? kid).filter (· ≠ "")).bind s.devices.get?

def putPush (p : PushSubscriptionRecord) : Store := { s with push := s.push.set p.deviceId p }

def putPairing (p : PairingRecord) : Store := { s with pairings := s.pairings.set p.token p }

def getPairing (token : String) : Option PairingRecord := s.pairings.get? token

def putDevicePairing (p : DevicePairingRecord) : Store :=
  { s with devicePairings := s.devicePairings.set p.tokenHash p }

def getDevicePairingByHash (tokenHash : String) : Option DevicePairingRecord :=
  s.devicePairings.get? tokenHash

/-- The key of the idempotency index; the length of the agent's id, in UTF-16 units, comes first. -/
def idemKey (agentId idempotencyKey : String) : String :=
  toString (Json.units agentId).length ++ ":" ++ agentId ++ ":" ++ idempotencyKey

def putHold (h : HoldRecord) : Store :=
  { s with
    holds := s.holds.set h.id h
    holdsByIdem := s.holdsByIdem.set (idemKey h.agentId h.idempotencyKey) h.id }

def getHold (id : String) : Option HoldRecord := s.holds.get? id

def getHoldByIdem (agentId idempotencyKey : String) : Option HoldRecord :=
  ((s.holdsByIdem.get? (idemKey agentId idempotencyKey)).filter (· ≠ "")).bind s.holds.get?

/-- All holds, or those of a status. -/
def listHolds (status : Option HoldStatus) : List HoldRecord :=
  s.holds.values.filter fun h => status.all (h.status = ·)

def countPending (agentId : String) : Nat :=
  s.holds.values.countP fun h => h.agentId = agentId && h.status = .PENDING

def getLatestManifest (tenant : String) : Option KeyManifestRecord := s.manifests.get? tenant

end Store

/-! ## Publishing manifests -/

inductive ManifestPutOutcome where
  | stored
  | idempotent
  | stale
  | equivocation
  deriving DecidableEq

/-- Source: `store.ts` `optionalCanonicalValueEqual`. -/
def optionalCanonicalValueEqual (a b : Option Json) : Bool :=
  match Artifact.present? a, Artifact.present? b with
  | none, none => true
  | some a, some b =>
    match safeRefHash P a, safeRefHash P b with
    | some x, some y => x = y
    | _, _ => false
  | _, _ => false

/-- Source: `store.ts` `classifyManifestPut`. -/
def classifyManifestPut (current : Option KeyManifestRecord)
    (next : KeyManifestRecord) : ManifestPutOutcome :=
  match current with
  | none => .stored
  | some current =>
    if next.version > current.version then .stored
    else if next.version < current.version then .stale
    else
      let sameManifest : Bool :=
        match safeRefHash P current.manifest, safeRefHash P next.manifest with
        | some x, some y => current.refHash = x && next.refHash = y && x = y
        | _, _ => false
      if sameManifest && optionalCanonicalValueEqual P current.delegation next.delegation then
        .idempotent
      else .equivocation

/-- Write a manifest; a write that is refused is the error, with the record that is kept. -/
def Store.putManifest (s : Store) (rec : KeyManifestRecord) (recovery : Bool) :
    Except (ManifestPutOutcome × Option KeyManifestRecord) Store :=
  let cur := s.manifests.get? rec.tenant
  let written : Store := { s with manifests := s.manifests.set rec.tenant rec }
  if recovery then .ok written
  else
    match classifyManifestPut P cur rec with
    | .stored => .ok written
    | .idempotent => .ok s
    | outcome => .error (outcome, cur)

/-! ## Reading what was written -/

namespace Store

variable {s : Store} {k : String}

lemma getDevice_putDevice (d : DeviceRecord) :
    (s.putDevice d).devices.get? k = if k = d.id then some d else s.devices.get? k :=
  Table.get?_set _ _ _ _

lemma kid_putDevice (d : DeviceRecord) :
    (s.putDevice d).devicesByKid.get? k = if k = d.kid then some d.id else s.devicesByKid.get? k :=
  Table.get?_set _ _ _ _

lemma getHold_putHold (h : HoldRecord) :
    (s.putHold h).holds.get? k = if k = h.id then some h else s.holds.get? k :=
  Table.get?_set _ _ _ _

lemma getPairing_putPairing (p : PairingRecord) :
    (s.putPairing p).pairings.get? k = if k = p.token then some p else s.pairings.get? k :=
  Table.get?_set _ _ _ _

lemma mem_listHolds {status : Option HoldStatus} {h : HoldRecord} :
    h ∈ s.listHolds status ↔ (∃ id, s.holds.get? id = some h) ∧ ∀ t, status = some t → h.status = t := by
  simp [listHolds, Table.mem_values_iff, Option.all_eq_true]

end Store

end Relay

end NoaMandate
