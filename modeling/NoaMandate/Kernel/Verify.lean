import NoaMandate.Kernel.Receipt

/-!
# Verifying a chain of receipts

`verifyParsedChain` is the native verifier of `verify.ts` on parsed documents: admission, shapes,
one partition, reordering by sequence number, the tenant scan, the keyring, the walk in sequence
order, the checkpoint, and the final verdict.  Each stage either hands on or stops with the result
that ends the whole verification, in the source's order, with the source's texts and warnings.

Reading the input bytes, and the option record that carries them, come before this function in
the source and are not part of it.
-/

namespace NoaMandate

open Pipeline

/-- The verdict. -/
inductive VerifyStatus where
  | VALID
  | UNVERIFIED
  | UNTRUSTED
  | TAMPERED
  | MALFORMED
  | KEY_RETIRED
  deriving DecidableEq

/-- The result of a verification. -/
structure VerifyResult where
  status : VerifyStatus
  chain : Option String
  count : Nat
  signaturesVerified : Bool
  tailChecked : Bool
  badSeq : Option Int
  reason : Option String
  warnings : List String

/-- The options that are not documents, with the source's defaults. -/
structure VerifyOptions where
  maxReceipts : Nat := 1000000
  requireTenantConsistency : Bool := true
  requireNFC : Bool := false

/-- The documents a caller may supply besides the receipts. -/
structure VerifyDocuments where
  keyring : Option Json
  checkpoint : Option Json
  identityManifest : Option Json

/-- A verdict that stops the verification. -/
def fail (status : VerifyStatus) (reason : String) (chain : Option String) (count : Nat)
    (badSeq : Option Int := none) : VerifyResult :=
  { status, chain, count, signaturesVerified := false, tailChecked := false, badSeq,
    reason := some reason, warnings := [] }

namespace Verify

def RECEIPT_SIG_DOMAIN : String := "NOA-Receipt-v0.1-sig"

def CHECKPOINT_SIG_DOMAIN : String := "NOA-Checkpoint-v0.1-sig"

/-! ## Admission -/

/-- The receipts, when they are a list of admissible length. -/
def admitReceipts (o : VerifyOptions) (receipts : Json) : Except VerifyResult (List Json) :=
  match receipts with
  | .arr rs => do
    refuse (rs.length = 0) (fail .MALFORMED "empty receipt array" none 0)
    refuse (rs.length > o.maxReceipts)
      (fail .MALFORMED ("too many receipts (>" ++ toString o.maxReceipts ++ ")") none rs.length)
    return rs
  | _ => .error (fail .MALFORMED "input is not an array of receipts" none 0)

/-- The strings of an array, when all its elements are strings. -/
def strings? : Json → Option (List String)
  | .arr xs => xs.mapM Json.asStr?
  | _ => none

/-- The entries of an identity manifest: the key ids of every agent. -/
def manifestEntries : List (String × Json) → Except VerifyResult (List (String × List String))
  | [] => .ok []
  | (aid, kids) :: rest => do
    let ks ← demand (strings? kids)
      (fail .MALFORMED ("identityManifest[\"" ++ aid ++ "\"] must be an array of kid strings") none 0)
    let es ← manifestEntries rest
    return (aid, ks) :: es

/-- Read an identity manifest. -/
def admitManifest (m : Json) : Except VerifyResult (List (String × List String)) := do
  let ms ← demand (members? (some m))
    (fail .MALFORMED "identityManifest must be an object (agent.id -> kid[])" none 0)
  manifestEntries ms

/-- `admitManifest` on an optional document. -/
def admitOptionalManifest : Option Json → Except VerifyResult (Option (List (String × List String)))
  | none => .ok none
  | some m => (admitManifest m).map some

/-- Every element has the closed receipt shape; `idx` is the index of the first one. -/
def checkShapes (count : Nat) : Nat → List Json → Except VerifyResult Unit
  | _, [] => .ok ()
  | idx, r :: rs => do
    let errors := Schema.validateReceiptShapeParsed r
    refuse (!errors.isEmpty)
      (fail .MALFORMED ("receipt[" ++ toString idx ++ "]: " ++ "; ".intercalate errors) none count
        (some idx))
    checkShapes count (idx + 1) rs

/-- All receipts name one chain. -/
def checkPartition (chainId : String) (rs : List Json) : Except VerifyResult Unit :=
  refuse (rs.any fun r => Receipt.chainId r ≠ chainId)
    (fail .TAMPERED "multiple chain partitions in one input" (some chainId) rs.length)

/-! ## Ordering by sequence number -/

/-- Index the receipts by sequence number, refusing a duplicate. -/
def indexBySeq (chainId : String) (count : Nat) :
    List (Int × Json) → List Json → Except VerifyResult (List (Int × Json))
  | bySeq, [] => .ok bySeq
  | bySeq, r :: rs => do
    let s := Receipt.seq r
    refuse (bySeq.lookup s).isSome
      (fail .TAMPERED ("duplicate seq " ++ toString s) (some chainId) count (some s))
    indexBySeq chainId count ((s, r) :: bySeq) rs

/-- The receipts with the sequence numbers `s`, `s + 1`, …, `n` of them. -/
def orderFrom (chainId : String) (count : Nat) (bySeq : List (Int × Json)) :
    Nat → Nat → Except VerifyResult (List Json)
  | _, 0 => .ok []
  | s, n + 1 => do
    let r ← demand (bySeq.lookup (s : Int))
      (fail .TAMPERED ("seq gap: missing seq " ++ toString s) (some chainId) count (some s))
    let rest ← orderFrom chainId count bySeq (s + 1) n
    return r :: rest

/-! ## The tenant scan -/

/-- What the tenant scan remembers. -/
structure TenantScan where
  /-- The tenant and sequence number of the last receipt that carries one. -/
  lastPresent : Option (String × Int) := none
  /-- The tenant and sequence number of the previous receipt. -/
  prev : Option (Option String × Int) := none
  messages : List String := []

def describeTenant : Option String → String
  | none => "(none)"
  | some t => jsonStringify t

def driftMessage (s : Int) (t : Option String) (s' : Int) (t' : Option String) : String :=
  "tenant-drift: seq " ++ toString s ++ " " ++ describeTenant t ++ " -> seq " ++ toString s' ++
    " " ++ describeTenant t'

/-- The message about a tenant that differs from the previous receipt's. -/
def adjacentDrift (st : TenantScan) (s : Int) (t : Option String) : List String :=
  match st.prev with
  | some (t₀, s₀) => if t ≠ t₀ then [driftMessage s₀ t₀ s t] else []
  | none => []

/-- The message about a present tenant that differs from the last present one. -/
def presentDrift (st : TenantScan) (s : Int) (cur : String) : Option String :=
  match st.lastPresent with
  | some (t₀, s₀) => if cur ≠ t₀ then some (driftMessage s₀ (some t₀) s (some cur)) else none
  | none => none

/-- One step of the scan: a present tenant different from the last present one is refused, or
reported when the caller asked for that. -/
def tenantStep (o : VerifyOptions) (chainId : String) (count : Nat) (st : TenantScan) (r : Json) :
    Except VerifyResult TenantScan :=
  let s := Receipt.seq r
  let t := Receipt.tenant r
  let messages := st.messages ++ adjacentDrift st s t
  match t with
  | none => .ok { st with prev := some (t, s), messages }
  | some cur => do
    let drift := presentDrift st s cur
    refuse (drift.isSome && o.requireTenantConsistency)
      (fail .TAMPERED (drift.getD "") (some chainId) count (some s))
    return {
      lastPresent := some (cur, s)
      prev := some (t, s)
      messages :=
        match drift with
        | some msg => if messages.contains msg then messages else messages ++ [msg]
        | none => messages }

/-- The scan over the ordered receipts. -/
def tenantScan (o : VerifyOptions) (chainId : String) (count : Nat) :
    TenantScan → List Json → Except VerifyResult TenantScan
  | st, [] => .ok st
  | st, r :: rs => do
    let st' ← tenantStep o chainId count st r
    tenantScan o chainId count st' rs

variable (I : Intrinsics)

/-- Read the keyring. -/
def admitKeyring (chainId : String) (count : Nat) :
    Option Json → Except VerifyResult (Option ParsedVerificationKeyring)
  | none => .ok none
  | some k =>
    match parseVerificationKeyring I "keyring" k with
    | .ok v => .ok (some v)
    | .error reason => .error (fail .MALFORMED reason (some chainId) count)

/-! ## Unicode normal form -/

/-- ASCII text is in normal form; other text is compared with its normal form. -/
def isNFC (s : String) : Bool :=
  if (Json.units s).all fun c => c ≤ 0x7f then true else I.normalizeNFC s = s

mutual

/-- The paths of the strings inside a value that are not in normal form, added to `out` up to a
limit. Source: `nfc.ts` `nonNfcPaths`. -/
def nonNfcPaths (I : Intrinsics) (limit : Nat) (path : String) (out : List String) (v : Json) :
    List String :=
  if limit ≤ out.length then out
  else
    match v with
    | .str s => if isNFC I s then out else out ++ [path]
    | .arr xs => nonNfcElems I limit path 0 out xs
    | .obj ms => nonNfcMembers I limit path out ms
    | _ => out

/-- `nonNfcPaths` at the elements of an array. -/
def nonNfcElems (I : Intrinsics) (limit : Nat) (path : String) (i : Nat) (out : List String) :
    List Json → List String
  | [] => out
  | x :: xs =>
    if limit ≤ out.length then out
    else
      nonNfcElems I limit path (i + 1)
        (nonNfcPaths I limit (path ++ "[" ++ toString i ++ "]") out x) xs

/-- `nonNfcPaths` at the members of an object, names included. -/
def nonNfcMembers (I : Intrinsics) (limit : Nat) (path : String) (out : List String) :
    List (String × Json) → List String
  | [] => out
  | (k, v) :: ms =>
    if limit ≤ out.length then out
    else
      let child := if path = "" then k else path ++ "." ++ k
      let out := if isNFC I k then out else out ++ [child ++ " (member name)"]
      nonNfcMembers I limit path (nonNfcPaths I limit child out v) ms

end

/-- The parts of a receipt whose strings are checked for normal form. -/
def nfcSubject (r : Json) : Json :=
  .obj (["id", "ts", "scope", "agent", "action", "governance"].filterMap fun k =>
    (r.get? k).map fun v => (k, v))

/-- The strings of a receipt that are not in normal form. -/
def nonNfcOf (r : Json) : List String :=
  nonNfcPaths I 16 "" [] (nfcSubject r) ++
    (if isNFC I (Receipt.kid r) then [] else ["sig.kid"])

/-! ## The walk in sequence order -/

/-- What the walk remembers. -/
structure WalkState where
  prev : Option Json := none
  /-- The key id of every agent met so far. -/
  pinnedKid : List (String × String) := []
  seenIds : List String := []
  /-- The first receipt signed by a retired key: its sequence number and key id. -/
  retired : Option (Int × String) := none
  warnings : List String := []

/-- The documents and names the walk works with. -/
structure WalkContext where
  chainId : String
  count : Nat
  verification : Option ParsedVerificationKeyring
  manifest : Option (List (String × List String))

/-- Does the manifest list the key id for the agent? -/
def authorizes (manifest : List (String × List String)) (agentId kid : String) : Bool :=
  match manifest.lookup agentId with
  | some allowed => allowed.contains kid
  | none => false

/-- Key continuity: the first receipt of an agent pins its key id. -/
def pinKid (c : WalkContext) (pinned : List (String × String)) (r : Json) :
    Except VerifyResult (List (String × String)) :=
  match pinned.lookup (Receipt.agentId r) with
  | none => .ok ((Receipt.agentId r, Receipt.kid r) :: pinned)
  | some kid => do
    refuse (kid ≠ Receipt.kid r)
      (fail .TAMPERED ("key swap for agent \"" ++ Receipt.agentId r ++ "\" (kid " ++ kid ++
        " -> " ++ Receipt.kid r ++ ")") (some c.chainId) c.count (some (Receipt.seq r)))
    return pinned

/-- Authenticate a receipt against the keyring, and remember the first retired key. -/
def authenticate (c : WalkContext) (hashInput : List Char)
    (retired : Option (Int × String)) (r : Json) : Except VerifyResult (Option (Int × String)) :=
  match c.verification with
  | none => .ok retired
  | some v => do
    let pub ← demand ((v.keyring.lookup (Receipt.kid r)).filter fun p => p ≠ "")
      (fail .TAMPERED ("unknown signing key \"" ++ Receipt.kid r ++ "\" not in keyring")
        (some c.chainId) c.count (some (Receipt.seq r)))
    refuse (!I.verifyEd25519 pub (I.signingMessage RECEIPT_SIG_DOMAIN hashInput)
        (Receipt.sigValue r))
      (fail .TAMPERED ("invalid signature (kid " ++ Receipt.kid r ++ ")") (some c.chainId)
        c.count (some (Receipt.seq r)))
    return if retired.isNone && v.retiredKids.contains (Receipt.kid r) then
        some (Receipt.seq r, Receipt.kid r)
      else retired

/-- The manifest must list the pair of agent and key id, when there is a keyring to trust it by. -/
def checkIdentity (c : WalkContext) (r : Json) : Except VerifyResult Unit :=
  match c.verification, c.manifest with
  | some _, some m =>
    refuse (!authorizes m (Receipt.agentId r) (Receipt.kid r))
      (fail .UNTRUSTED ("agent \"" ++ Receipt.agentId r ++
        "\" is not authorized for signing key \"" ++ Receipt.kid r ++ "\" (identity manifest)")
        (some c.chainId) c.count (some (Receipt.seq r)))
  | _, _ => .ok ()

/-- The genesis has no predecessor; every other receipt names its predecessor's hash. -/
def checkLinkage (c : WalkContext) (prev : Option Json) (r : Json) : Except VerifyResult Unit :=
  if Receipt.seq r = 0 then
    refuse (Receipt.prevHash r).isSome
      (fail .TAMPERED "genesis prevHash must be null" (some c.chainId) c.count (some 0))
  else
    refuse (Receipt.prevHash r ≠ prev.map Receipt.hash)
      (fail .TAMPERED ("broken linkage at seq " ++ toString (Receipt.seq r)) (some c.chainId)
        c.count (some (Receipt.seq r)))

/-- Warnings about the timestamp and the id. -/
def softWarnings (st : WalkState) (r : Json) : List String :=
  let s := toString (Receipt.seq r)
  (match st.prev with
    | some p =>
      match Scan.tsOrder (Receipt.ts p) (Receipt.ts r) with
      | .backwards => ["ts-backwards: seq " ++ s]
      | .notComparable => ["ts-not-comparable: seq " ++ s]
      | .ok => []
    | none => []) ++
  (if st.seenIds.contains (Receipt.id r) then ["duplicate-id: seq " ++ s] else [])

/-- One receipt of the walk. -/
def walkStep (o : VerifyOptions) (c : WalkContext) (st : WalkState) (r : Json) :
    Except VerifyResult WalkState := do
  let s := Receipt.seq r
  let hashInput ← demand (receiptHashInput r)
    (fail .MALFORMED "receipt contains non-canonicalizable content" (some c.chainId) c.count (some s))
  refuse (I.sha256Prefixed hashInput ≠ Receipt.hash r)
    (fail .TAMPERED "hash mismatch (content altered)" (some c.chainId) c.count (some s))
  let nonNfc := nonNfcOf I r
  refuse (o.requireNFC && !nonNfc.isEmpty)
    (fail .MALFORMED ("non-NFC string(s) at seq " ++ toString s ++ ": " ++ ", ".intercalate nonNfc)
      (some c.chainId) c.count (some s))
  let pinnedKid ← pinKid c st.pinnedKid r
  let retired ← authenticate I c hashInput st.retired r
  checkIdentity c r
  checkLinkage c st.prev r
  return {
    prev := some r
    pinnedKid
    seenIds := if st.seenIds.contains (Receipt.id r) then st.seenIds else Receipt.id r :: st.seenIds
    retired
    warnings := st.warnings ++
      (nonNfc.map fun f => "non-nfc: seq " ++ toString s ++ " field " ++ f) ++ softWarnings st r }

/-- The walk over the ordered receipts. -/
def walk (I : Intrinsics) (o : VerifyOptions) (c : WalkContext) :
    WalkState → List Json → Except VerifyResult WalkState
  | st, [] => .ok st
  | st, r :: rs => do
    let st' ← walkStep I o c st r
    walk I o c st' rs

/-! ## The checkpoint -/

/-- The verdict on a checkpoint by itself. -/
inductive CheckpointVerdict where
  | ok
  | unverified
  | retired
  | badSpec
  | malformed
  | badSignature
  deriving DecidableEq

/-- The source's name for a verdict. -/
def CheckpointVerdict.text : CheckpointVerdict → String
  | .ok => "ok"
  | .unverified => "unverified"
  | .retired => "retired signing key"
  | .badSpec => "bad spec"
  | .malformed => "malformed checkpoint"
  | .badSignature => "bad checkpoint signature"

def CHECKPOINT_KEYS : List String := ["spec", "chain", "highestSeq", "headHash", "ts", "sig"]

/-- Verify a parsed checkpoint. Source: `verify.ts` `verifyCheckpointParsed`. -/
def verifyCheckpointParsed (verification : Option ParsedVerificationKeyring)
    (cp : Json) : Except CheckpointVerdict CheckpointVerdict := do
  let c ← demand (members? (some cp)) .malformed
  refuse (c.any fun m => !CHECKPOINT_KEYS.contains m.1) .malformed
  refuse (c.lookup "spec" ≠ some (.str "noa.checkpoint/0.1")) .badSpec
  refuse (!Schema.nonEmptyStr (c.lookup "chain")) .malformed
  refuse (!Schema.isSeq (c.lookup "highestSeq")) .malformed
  refuse (!Schema.strWith Scan.isSha256Hash (c.lookup "headHash")) .malformed
  refuse (!Schema.strWith Scan.isRfc3339Instant (c.lookup "ts")) .malformed
  let sig ← demand (members? (c.lookup "sig")) .malformed
  refuse (sig.any fun m => m.1 ≠ "alg" && m.1 ≠ "kid" && m.1 ≠ "value") .malformed
  refuse (sig.lookup "alg" ≠ some (.str "ed25519")) .malformed
  let kid ← demand (nonEmptyStr? (sig.lookup "kid")) .malformed
  let value ← demand (nonEmptyStr? (sig.lookup "value")) .malformed
  let v ← demand verification .unverified
  let pub ← demand ((v.keyring.lookup kid).filter fun p => p ≠ "") .unverified
  let hashInput ← demand (checkpointHashInput cp) .malformed
  refuse (!I.verifyEd25519 pub (I.signingMessage CHECKPOINT_SIG_DOMAIN hashInput) value)
    .badSignature
  return if v.retiredKids.contains kid then .retired else .ok

/-- The verdict, whichever way it was reached. -/
def checkpointVerdict (verification : Option ParsedVerificationKeyring)
    (cp : Json) : CheckpointVerdict :=
  match verifyCheckpointParsed I verification cp with
  | .ok v => v
  | .error v => v

/-- What the checkpoint stage adds to the result. -/
structure TailCheck where
  tailChecked : Bool
  /-- A retired key: `true` when it signed the checkpoint, with sequence number and key id. -/
  retired : Option (Bool × Int × String)
  warnings : List String

def kidLevelWarning (retired : Bool) : String :=
  if retired then
    "checkpoint authenticated but no identityManifest supplied: checkpoint authority is KID-LEVEL — any keyring-trusted key can mint a checkpoint over any head, so this checkpoint does not show that the chain opener certified the tail (supply an identityManifest to bind checkpoint authority to the chain opener)"
  else
    "checkpoint authenticated but no identityManifest supplied: the tail check is KID-LEVEL — any keyring-trusted key can mint a checkpoint over any head, so a co-trusted key holder can truncate the tail and still produce tailChecked:true (supply an identityManifest to bind checkpoint authority to the chain opener)"

/-- The identity check of a checkpoint: its key id must be listed for the agent of the genesis. -/
def checkOpener (c : WalkContext) (genesis head cp : Json) (agents : List String) :
    Except VerifyResult (List String) :=
  match c.verification, c.manifest with
  | some _, some m => do
    refuse (!authorizes m (Receipt.agentId genesis) (Receipt.kid cp))
      (fail .UNTRUSTED ("checkpoint signing key \"" ++ Receipt.kid cp ++
        "\" is not authorized for chain opener (genesis) agent \"" ++ Receipt.agentId genesis ++
        "\" (identity manifest)") (some c.chainId) c.count (some (Receipt.seq head)))
    return if agents.dedup.length > 1 then
        ["checkpoint completeness is opener-scoped: the chain has more than one agent.id, and a co-agent's tail is NOT separately certified by the opener's checkpoint (the opener dropping a co-agent's tail needs the v1.0 external anchor)"]
      else []
  | _, _ => .ok []

/-- The checkpoint against the chain it should close. -/
def checkTail (c : WalkContext) (genesis head : Json) (agents : List String)
    (retired : Option (Int × String)) (checkpoint : Option Json) : Except VerifyResult TailCheck :=
  let receiptRetired := retired.map fun p => (false, p)
  match checkpoint with
  | none =>
    .ok ⟨false, receiptRetired,
      ["no checkpoint supplied: tail-truncation (deleting most-recent receipts) cannot be detected offline"]⟩
  | some cp => do
    refuse (!cp.isObj) (fail .MALFORMED "checkpoint must be an object" (some c.chainId) c.count)
    let verdict := checkpointVerdict I c.verification cp
    refuse (verdict = .badSpec || verdict = .malformed)
      (fail .TAMPERED ("checkpoint invalid: " ++ verdict.text) (some c.chainId) c.count)
    let keyRetired : Bool := verdict = .retired
    let verdict := if keyRetired then .ok else verdict
    refuse (c.verification.isSome && verdict ≠ .ok)
      (fail .TAMPERED ("checkpoint not authenticated against keyring (" ++ verdict.text ++ ")")
        (some c.chainId) c.count)
    refuse (cp.strAt ["chain"] ≠ c.chainId)
      (fail .TAMPERED "checkpoint chain mismatch" (some c.chainId) c.count)
    refuse (cp.numAt ["highestSeq"] ≠ Receipt.seq head || cp.strAt ["headHash"] ≠ Receipt.hash head)
      (fail .TAMPERED "chain head does not match checkpoint (tail truncated/extended)"
        (some c.chainId) c.count (some (Receipt.seq head)))
    let openerWarnings ← checkOpener c genesis head cp agents
    let retired := if keyRetired && receiptRetired.isNone then
        some (true, Receipt.seq head, Receipt.kid cp)
      else receiptRetired
    return ⟨verdict = .ok, retired, openerWarnings ++
      (if verdict ≠ .ok then
        ["checkpoint present but not authenticated (no keyring) — tail NOT verified"]
      else if c.manifest.isNone then [kidLevelWarning retired.isSome]
      else [])⟩

/-! ## The final verdict -/

/-- The subject of a retirement. -/
def subject (checkpoint : Bool) : String := if checkpoint then "checkpoint" else "receipt"

def keyRetiredWarning (checkpoint : Bool) (kid : String) (seq : Int) : String :=
  "key-retired: seq " ++ toString seq ++ " kid \"" ++ kid ++ "\" (" ++ subject checkpoint ++
    "): the signature authenticates, but the trust root retired this key. " ++
    "Current use is refused, and this result does not establish when the signature was made. For historical attribution " ++
    "re-run with --purpose historical (library: verifyHistoricalChain) and an independently trusted checkpoint witness."

def keyRetiredReason (checkpoint : Bool) (kid : String) : String :=
  (if checkpoint then "checkpoint signing key" else "signing key") ++ " \"" ++ kid ++
    "\" is retired; signer-chosen " ++ subject checkpoint ++ " time is not an independent witness. " ++
    "The signature authenticates against the retired key's retained public material, but current use is refused; " ++
    "for historical attribution use --purpose historical (verifyHistoricalChain) with an independently trusted checkpoint witness"

/-- The warnings that close every result that is not a refusal. -/
def closingWarnings (c : WalkContext) (retired : Option (Bool × Int × String)) : List String :=
  (match retired with
    | some (cp, seq, kid) => [keyRetiredWarning cp kid seq]
    | none => []) ++
  ["fork/equivocation is not detectable offline: this verifies the branch you were given, not that the signer signed no other history at the same seq (needs an external witness — v1.0)"] ++
  (if c.verification.isNone then
    ["no keyring supplied: signatures were NOT authenticated (status UNVERIFIED, not VALID)"]
  else []) ++
  (if c.manifest.isNone then
    [if retired.isSome then
      "no identityManifest supplied: attribution is kid-level — an authenticated signature proves a keyring-trusted key signed, NOT which agent.id (cross-agent impersonation undefended in a multi-key keyring)"
    else
      "no identityManifest supplied: attribution is kid-level — a VALID result proves a keyring-trusted key signed, NOT which agent.id (cross-agent impersonation undefended in a multi-key keyring)"]
  else if c.verification.isNone then
    ["identityManifest supplied but no keyring: identity NOT bound — signatures are unauthenticated, so the (agent.id, kid) pairing was not enforced (status stays UNVERIFIED, never UNTRUSTED)"]
  else [])

/-- The result of a chain that passed every stage. -/
def conclude (c : WalkContext) (warnings : List String) (tail : TailCheck) : VerifyResult :=
  let warnings := warnings ++ tail.warnings ++ closingWarnings c tail.retired
  match tail.retired with
  | some (cp, seq, kid) =>
    { fail .KEY_RETIRED (keyRetiredReason cp kid) (some c.chainId) c.count (some seq) with warnings }
  | none =>
    { status := if c.verification.isSome then .VALID else .UNVERIFIED
      chain := some c.chainId
      count := c.count
      signaturesVerified := c.verification.isSome
      tailChecked := tail.tailChecked
      badSeq := none
      reason := none
      warnings }

/-- The stages in order; an error is the result that stopped the verification. -/
def stages (o : VerifyOptions) (docs : VerifyDocuments) (receipts : Json) :
    Except VerifyResult VerifyResult := do
  let rs ← admitReceipts o receipts
  let manifest ← admitOptionalManifest docs.identityManifest
  checkShapes rs.length 0 rs
  let chainId := (rs.head?.map Receipt.chainId).getD ""
  checkPartition chainId rs
  let bySeq ← indexBySeq chainId rs.length [] rs
  let ordered ← orderFrom chainId rs.length bySeq 0 rs.length
  let tenants ← tenantScan o chainId rs.length {} ordered
  let verification ← admitKeyring I chainId rs.length docs.keyring
  let c : WalkContext := { chainId, count := rs.length, verification, manifest }
  let st ← walk I o c { warnings := tenants.messages } ordered
  let genesis := ordered.head?.getD .null
  let head := ordered.getLast?.getD .null
  let tail ← checkTail I c genesis head (ordered.map Receipt.agentId) st.retired docs.checkpoint
  return conclude c st.warnings tail

end Verify

/-- Verify a parsed receipt list against parsed documents.
Source: `verify.ts` `verifyParsedChain`. -/
def verifyParsedChain (I : Intrinsics) (o : VerifyOptions) (docs : VerifyDocuments)
    (receipts : Json) : VerifyResult :=
  match Verify.stages I o docs receipts with
  | .ok r => r
  | .error r => r

end NoaMandate
