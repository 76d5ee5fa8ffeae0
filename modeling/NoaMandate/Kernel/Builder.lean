import NoaMandate.Kernel.Verify

/-!
# Building receipts and checkpoints

`buildReceipt` and `buildCheckpoint` are the producing side of the kernel (`builder.ts`): a draft is
completed with its place in the chain, hashed, signed, and checked against the shape rules before it
leaves the builder.

What a caller supplies is any value, not only one of the right shape, so the parts of an input are
JSON values.  A value has each member name once; `BuildInput` carries that.  Cloning such a value
gives the same value, so the builder's clone does not appear here.
-/

namespace NoaMandate

open Pipeline

/-- The platform of a producer: it can also sign. `none` when the private key cannot be used, where
the source throws. -/
structure SigningPlatform extends Intrinsics where
  signEd25519 : String → String → Option String

structure Signer where
  kid : String
  privateKey : String

/-- What a caller supplies for one receipt. -/
structure BuildInput where
  id : Json
  ts : Json
  scope : Json
  agent : Json
  action : Json
  governance : Json
  distinct : ∀ v ∈ [id, ts, scope, agent, action, governance], v.Distinct

/-- Why nothing was built: the builder's own refusal, a value without canonical text, or a key that
cannot sign. -/
inductive BuildFailure where
  | builderError (message : String) (errors : List String)
  | jcsError
  | signError
  deriving DecidableEq

namespace Builder

/-! ## Receipts -/

/-- The caller's part of a receipt. -/
def payload (input : BuildInput) : List (String × Json) :=
  [("id", input.id), ("ts", input.ts), ("scope", input.scope), ("agent", input.agent),
    ("action", input.action), ("governance", input.governance)]

/-- A receipt under construction; `hash` and `value` are empty until they are computed. -/
structure Draft where
  input : BuildInput
  seq : Int
  prevHash : Json
  kid : String
  hash : String := ""
  value : String := ""

def Draft.toJson (d : Draft) : Json :=
  .obj ([("spec", .str RECEIPT_SPEC)] ++ payload d.input ++
    [("chain", .obj [("seq", .num d.seq), ("prevHash", d.prevHash),
      ("hash", .str d.hash)]),
    ("sig", .obj [("alg", .str "ed25519"), ("kid", .str d.kid), ("value", .str d.value)])])

variable (P : SigningPlatform)

/-- Producers emit normal form: the payload and the signer's key id are checked before anything is
hashed. -/
def checkNFC (input : BuildInput) (kid : String) : Except BuildFailure Unit :=
  let nonNfc := Verify.nonNfcPaths P.toIntrinsics 16 "" [] (.obj (payload input)) ++
    (if Verify.isNFC P.toIntrinsics kid then [] else ["sig.kid"])
  refuse (!nonNfc.isEmpty) (.builderError
    ("buildReceipt: refusing to sign a payload with non-NFC strings (the profile requires producers to emit Unicode NFC): "
      ++ ", ".intercalate nonNfc) nonNfc)

/-- `prev ? prev.chain.hash : null`. -/
def previousHash : Option Json → Option Json
  | none => some .null
  | some prev => prev.path? ["chain", "hash"]

/-- The draft with its hash, and the text that was hashed. A previous hash that is missing has no
canonical text. Source: `builder.ts` `buildDraft`. -/
def buildDraft (input : BuildInput) (prev : Option Json) (kid : String) :
    Except BuildFailure (Draft × List Char) := do
  checkNFC P input kid
  let seq := match prev with
    | some p => Receipt.seq p + 1
    | none => 0
  let prevHash ← demand (previousHash prev) .jcsError
  let draft : Draft := { input, seq, prevHash, kid }
  let hashInput ← demand (receiptHashInput draft.toJson) .jcsError
  return ({ draft with hash := P.sha256Prefixed hashInput }, hashInput)

/-- A receipt that fails the verifier's shape check is not returned.
Source: `builder.ts` `finalizeReceipt`. -/
def finalizeReceipt (draft : Json) : Except BuildFailure Json := do
  let errors := Schema.validateReceiptShapeParsed draft
  refuse (!errors.isEmpty) (.builderError
    ("buildReceipt: refusing to return a signed receipt that fails its own verifier's structural check: "
      ++ "; ".intercalate errors) errors)
  return draft

/-- Build the next receipt of a chain. Source: `builder.ts` `buildReceipt`. -/
def buildReceipt (input : BuildInput) (prev : Option Json) (signer : Signer) :
    Except BuildFailure Json := do
  let (draft, hashInput) ← buildDraft P input prev signer.kid
  let value ← demand
    (P.signEd25519 signer.privateKey (P.signingMessage Verify.RECEIPT_SIG_DOMAIN hashInput)) .signError
  finalizeReceipt { draft with value }.toJson

/-- Receipts built one after the other, each on the previous result. -/
def buildChain (P : SigningPlatform) :
    Option Json → List (BuildInput × Signer) → Except BuildFailure (List Json)
  | _, [] => .ok []
  | prev, (input, signer) :: drafts => do
    let r ← buildReceipt P input prev signer
    let rs ← buildChain P (some r) drafts
    return r :: rs

/-! ## Checkpoints -/

/-- A checkpoint with the given signature. -/
def checkpoint (chain : String) (highestSeq : Int) (headHash ts kid value : String) : Json :=
  .obj [("spec", .str "noa.checkpoint/0.1"), ("chain", .str chain), ("highestSeq", .num highestSeq),
    ("headHash", .str headHash), ("ts", .str ts),
    ("sig", .obj [("alg", .str "ed25519"), ("kid", .str kid), ("value", .str value)])]

/-- The builder's own copy of the checkpoint shape. Source: `builder.ts` `checkpointDraftErrors`. -/
def checkpointDraftErrors (cp : Json) : List String :=
  let sig := (cp.get? "sig").getD .null
  Schema.complain (cp.get? "spec" ≠ some (.str "noa.checkpoint/0.1"))
    "checkpoint.spec: must be \"noa.checkpoint/0.1\"" ++
  Schema.complain (!Schema.nonEmptyStr (cp.get? "chain")) "checkpoint.chain: non-empty string" ++
  Schema.complain (!Schema.isSeq (cp.get? "highestSeq"))
    "checkpoint.highestSeq: non-negative safe integer" ++
  Schema.complain (!Schema.strWith Scan.isSha256Hash (cp.get? "headHash"))
    "checkpoint.headHash: sha256:<64 hex>" ++
  Schema.complain (!Schema.strWith Scan.isRfc3339Instant (cp.get? "ts"))
    "checkpoint.ts: must be RFC 3339 UTC timestamp" ++
  Schema.complain (sig.get? "alg" ≠ some (.str "ed25519")) "checkpoint.sig.alg: must be \"ed25519\"" ++
  Schema.complain (!Schema.nonEmptyStr (sig.get? "kid")) "checkpoint.sig.kid: non-empty string" ++
  Schema.complain (!Schema.nonEmptyStr (sig.get? "value")) "checkpoint.sig.value: non-empty string"

/-- Build a checkpoint over the head of a chain. Source: `builder.ts` `buildCheckpoint`. -/
def buildCheckpoint (P : SigningPlatform) (head : Json) (ts : String) (signer : Signer) :
    Except BuildFailure Json := do
  let draft := checkpoint (Receipt.chainId head) (Receipt.seq head) (Receipt.hash head) ts signer.kid
  let hashInput ← demand (checkpointHashInput (draft "")) .jcsError
  let value ← demand
    (P.signEd25519 signer.privateKey (P.signingMessage Verify.CHECKPOINT_SIG_DOMAIN hashInput))
    .signError
  let errors := checkpointDraftErrors (draft value)
  refuse (!errors.isEmpty) (.builderError
    ("buildCheckpoint: refusing to return a signed checkpoint that fails its own verifier's structural check: "
      ++ "; ".intercalate errors) errors)
  return draft value

end Builder

end NoaMandate
