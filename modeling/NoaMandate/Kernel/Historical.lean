import NoaMandate.Kernel.Entry

/-!
# Historical verification

`verifyHistoricalChain` answers a different question than `verifyChain`: not whether the signing keys
may be used now, but whether an independent witness shows that the receipts were signed while they
could be.  The receipts are verified with the public material a lifecycle retains; the checkpoint is
verified under a keyring of its own; and the checkpoint's instant is compared with the activation and
the retirement of every key that signed a receipt it covers.

Every document may be missing, or may fail to be read, so a document is an optional reading.  A
refusal carries its code and what was established before it.
-/

namespace NoaMandate

open Pipeline

/-- The platform, with what key separation compares: the bytes of a base64 text and their digest. -/
structure HistoricalPlatform extends Intrinsics where
  decodeBase64 : String → List UInt8
  sha256HexBytes : List UInt8 → String

inductive HistoricalVerificationClassification where
  | VERIFIED
  | PARTIAL
  | UNVERIFIED
  | CONFLICT
  | INVALID
  deriving DecidableEq

inductive HistoricalVerificationCode where
  | HEAD_ANCHORED
  | PREFIX_ANCHORED
  | NO_WITNESS
  | WITNESS_ROOT_NOT_PROVIDED
  | WITNESS_ROOT_INVALID
  | WITNESS_KEY_NOT_TRUSTED
  | WITNESS_KEY_NOT_SEPARATE
  | WITNESS_KEY_RETIRED
  | CHECKPOINT_BEFORE_ACTIVATION
  | CHECKPOINT_AFTER_RETIREMENT
  | CHECKPOINT_AHEAD
  | CHECKPOINT_CONFLICT
  | RECEIPT_ROOT_NOT_PROVIDED
  | RECEIPT_ROOT_INVALID
  | RECEIPT_MALFORMED
  | RECEIPT_INTEGRITY_FAILURE
  | RECEIPT_IDENTITY_UNTRUSTED
  | WITNESS_MALFORMED
  | WITNESS_INTEGRITY_FAILURE
  deriving DecidableEq

inductive HistoricalIntegrity where
  | INTACT
  | BROKEN
  | UNANSWERED
  deriving DecidableEq

inductive HistoricalCompleteness where
  | UNANSWERED
  | PREFIX_ANCHORED
  | HEAD_ANCHORED
  | CONFLICT
  deriving DecidableEq

inductive HistoricalAttribution where
  | ATTRIBUTABLE_AS_OF
  | UNATTRIBUTABLE
  deriving DecidableEq

inductive HistoricalEvidenceAvailability where
  | NOT_PROVIDED
  | AVAILABLE
  | MISSING_RELATIVE_TO_CHECKPOINT
  deriving DecidableEq

structure HistoricalVerificationDimensions where
  integrity : HistoricalIntegrity
  completeness : HistoricalCompleteness
  attribution : HistoricalAttribution
  /-- A lifecycle was supplied. -/
  retirement : Bool
  /-- A checkpoint was supplied. -/
  witness : Bool
  availability : HistoricalEvidenceAvailability
  deriving DecidableEq

structure HistoricalVerificationResult where
  classification : HistoricalVerificationClassification
  code : HistoricalVerificationCode
  dimensions : HistoricalVerificationDimensions
  chain : Option String
  count : Nat
  attributedThroughSeq : Option Int := none
  asOf : Option String := none
  deriving DecidableEq

/-- The documents of a request, each as what reading it gave. -/
structure HistoricalDocuments where
  keyring : Option (Except String Json)
  checkpoint : Option (Except String Json)
  checkpointKeyring : Option (Except String Json)
  identityManifest : Option (Except String Json)

namespace Historical

/-- What is known of a request while it is answered: whether a lifecycle and a checkpoint were
supplied, and the chain the verifier reported. -/
structure Progress where
  retirement : Bool := false
  witness : Bool
  chain : Option String := none
  count : Nat := 0

/-- A refusal. -/
def refusal (p : Progress) (classification : HistoricalVerificationClassification)
    (code : HistoricalVerificationCode) (integrity : HistoricalIntegrity)
    (completeness : HistoricalCompleteness := .UNANSWERED)
    (availability : HistoricalEvidenceAvailability :=
      if p.witness then .AVAILABLE else .NOT_PROVIDED) : HistoricalVerificationResult :=
  { classification, code, chain := p.chain, count := p.count
    dimensions := ⟨integrity, completeness, .UNATTRIBUTABLE, p.retirement, p.witness, availability⟩ }

/-- The public material of a keyring as a static key map. -/
def retainedKeyring (v : ParsedVerificationKeyring) : Json :=
  .obj (v.keyring.map fun e => (e.1, .str e.2))

/-- A trust root with no key retired. Source: `verify.ts` `retainedPublicMaterial`. -/
def retainedPublicMaterial (v : ParsedVerificationKeyring) : ParsedVerificationKeyring :=
  { v with retiredKids := [] }

/-- The receipts, when they were read and are a list. -/
def receiptList : Except String Json → Option (List Json)
  | .ok (.arr rs) => some rs
  | _ => none

def readManifest : Option (Except String Json) → Except String (Option Json)
  | none => .ok none
  | some d => d.map some

variable (I : Intrinsics)

/-- The chain verification on the retained key map, without a checkpoint. -/
def chainStages (o : VerifyOptions) (v : ParsedVerificationKeyring)
    (identityManifest : Option (Except String Json)) (receipts : Json) :
    Except VerifyResult VerifyResult := do
  let rs ← Verify.admitReceipts o receipts
  let manifest ← (readManifest identityManifest).mapError
    fun reason => fail .MALFORMED reason none rs.length
  Verify.stages I o ⟨some (retainedKeyring v), none, manifest⟩ receipts

def chainResult (o : VerifyOptions) (v : ParsedVerificationKeyring)
    (identityManifest : Option (Except String Json)) (receipts : Json) : VerifyResult :=
  match chainStages I o v identityManifest receipts with
  | .ok r => r
  | .error r => r

/-- The receipts must verify; the refusal tells tampering and identity apart from the rest. -/
def checkChain (p : Progress) (result : VerifyResult) : Except HistoricalVerificationResult Unit :=
  refuse (result.status ≠ .VALID || result.signaturesVerified ≠ true)
    (match result.status with
      | .TAMPERED => refusal p .INVALID .RECEIPT_INTEGRITY_FAILURE .BROKEN
      | .UNTRUSTED => refusal p .INVALID .RECEIPT_IDENTITY_UNTRUSTED .UNANSWERED
      | _ => refusal p .INVALID .RECEIPT_MALFORMED .UNANSWERED)

/-- `mapGet(bySeq, s)`: the last receipt with the sequence number. -/
def bySeq (rs : List Json) (s : Int) : Option Json := rs.reverse.find? fun r => Receipt.seq r = s

/-- The receipts in sequence order. -/
def inOrder (rs : List Json) : Option (List Json) :=
  (List.range rs.length).mapM fun (s : Nat) => bySeq rs s

/-- The checkpoint's verdict under the witness keyring's retained material. -/
def checkWitness (p : Progress) (witness : ParsedVerificationKeyring) (cp : Json) :
    Except HistoricalVerificationResult String := do
  let verdict := Verify.checkpointVerdict I (some (retainedPublicMaterial witness)) cp
  refuse (verdict = .unverified) (refusal p .UNVERIFIED .WITNESS_KEY_NOT_TRUSTED .UNANSWERED)
  refuse (verdict = .badSpec || verdict = .malformed)
    (refusal p .INVALID .WITNESS_MALFORMED .BROKEN)
  refuse (verdict ≠ .ok) (refusal p .INVALID .WITNESS_INTEGRITY_FAILURE .BROKEN)
  demand (witness.keyring.lookup (Receipt.kid cp))
    (refusal p .UNVERIFIED .WITNESS_KEY_NOT_TRUSTED .UNANSWERED)

/-- The witness is none of the receipt signers, by key id and by key material. -/
def separated (P : HistoricalPlatform) (v : ParsedVerificationKeyring) (cp : Json)
    (witnessPublicKey : String) (ordered : List Json) : Bool :=
  let fingerprint (publicKey : String) : String := P.sha256HexBytes (P.decodeBase64 publicKey)
  !ordered.any fun r => Receipt.kid cp = Receipt.kid r ||
    fingerprint witnessPublicKey = fingerprint ((v.keyring.lookup (Receipt.kid r)).getD "")

/-- The checkpoint names a receipt of this chain; the answer is its sequence number. -/
def checkFrontier (p : Progress) (rs : List Json) (head cp : Json) :
    Except HistoricalVerificationResult Int := do
  refuse (cp.strAt ["chain"] ≠ Receipt.chainId head)
    (refusal p .CONFLICT .CHECKPOINT_CONFLICT .INTACT .CONFLICT)
  let highestSeq := cp.numAt ["highestSeq"]
  refuse (highestSeq > Receipt.seq head)
    (refusal p .CONFLICT .CHECKPOINT_AHEAD .INTACT .CONFLICT .MISSING_RELATIVE_TO_CHECKPOINT)
  refuse ((bySeq rs highestSeq).map Receipt.hash ≠ some (cp.strAt ["headHash"]))
    (refusal p .CONFLICT .CHECKPOINT_CONFLICT .INTACT .CONFLICT)
  return highestSeq

/-- Is the instant before a declared activation? A bound that cannot be read counts as missed. -/
def beforeActivation (instant : Option Int) (validFrom : Option (Option String)) : Bool :=
  match validFrom with
  | some (some text) =>
    match instant, lifecycleInstantNanos I text with
    | some t, some a => t < a
    | _, _ => true
  | _ => false

/-- Is the instant at or after a declared retirement? -/
def afterRetirement (instant : Option Int) (retiredAt : Option (Option String)) : Bool :=
  match retiredAt with
  | some (some text) =>
    match instant, lifecycleInstantNanos I text with
    | some t, some r => t ≥ r
    | _, _ => true
  | _ => false

/-- The receipts the checkpoint covers: sequence numbers `0, …, highestSeq`. -/
def covered (rs : List Json) (highestSeq : Int) : List Json :=
  (List.range (highestSeq.toNat + 1)).filterMap fun (s : Nat) => bySeq rs s

/-- The checkpoint's instant against the witness key and the keys of the covered receipts. -/
def checkInstant (p : Progress) (v witness : ParsedVerificationKeyring) (cp : Json)
    (completeness : HistoricalCompleteness) (receipts : List Json) :
    Except HistoricalVerificationResult Unit := do
  let instant := lifecycleInstantNanos I (cp.strAt ["ts"])
  refuse (beforeActivation I instant (witness.validFromByKid.lookup (Receipt.kid cp)) ||
      receipts.any fun r => beforeActivation I instant (v.validFromByKid.lookup (Receipt.kid r)))
    (refusal p .UNVERIFIED .CHECKPOINT_BEFORE_ACTIVATION .INTACT completeness)
  refuse (instant.isNone ||
      receipts.any fun r => afterRetirement I instant (v.retiredAtByKid.lookup (Receipt.kid r)))
    (refusal p .UNVERIFIED .CHECKPOINT_AFTER_RETIREMENT .INTACT completeness)

/-- The stages in order; an error is a refusal. -/
def stages (P : HistoricalPlatform) (o : VerifyOptions) (docs : HistoricalDocuments)
    (receipts : Except String Json) :
    Except HistoricalVerificationResult HistoricalVerificationResult := do
  let I := P.toIntrinsics
  let witnessGiven := docs.checkpoint.isSome
  let keyring ← demand docs.keyring
    (refusal { witness := witnessGiven } .UNVERIFIED .RECEIPT_ROOT_NOT_PROVIDED .UNANSWERED)
  let v ← (keyring >>= parseVerificationKeyring I "keyring").mapError fun _ =>
    refusal { witness := witnessGiven } .INVALID .RECEIPT_ROOT_INVALID .UNANSWERED
  let p₀ : Progress := { retirement := v.lifecycle, witness := witnessGiven }
  let rs ← demand (receiptList receipts)
    (refusal p₀ .INVALID .RECEIPT_MALFORMED .UNANSWERED)
  let result := chainResult I o v docs.identityManifest (.arr rs)
  let p : Progress := { p₀ with chain := result.chain, count := result.count }
  checkChain p result
  let ordered ← demand (inOrder rs) (refusal p .INVALID .RECEIPT_INTEGRITY_FAILURE .BROKEN)
  let head := ordered.getLast?.getD .null
  let checkpoint ← demand docs.checkpoint (refusal p .UNVERIFIED .NO_WITNESS .INTACT)
  let witnessKeyring ← demand docs.checkpointKeyring
    (refusal p .UNVERIFIED .WITNESS_ROOT_NOT_PROVIDED .UNANSWERED)
  let witness ← (witnessKeyring >>= parseVerificationKeyring I "checkpointKeyring").mapError
    fun _ => refusal p .UNVERIFIED .WITNESS_ROOT_INVALID .UNANSWERED
  let cp ← demand (checkpoint.toOption.filter Json.isObj)
    (refusal p .INVALID .WITNESS_MALFORMED .BROKEN)
  let witnessPublicKey ← checkWitness I p witness cp
  refuse (!separated P v cp witnessPublicKey ordered)
    (refusal p .UNVERIFIED .WITNESS_KEY_NOT_SEPARATE .INTACT)
  refuse (witness.retiredKids.contains (Receipt.kid cp))
    (refusal p .UNVERIFIED .WITNESS_KEY_RETIRED .INTACT)
  let highestSeq ← checkFrontier p rs head cp
  let atHead : Bool := highestSeq = Receipt.seq head
  let completeness : HistoricalCompleteness := if atHead then .HEAD_ANCHORED else .PREFIX_ANCHORED
  checkInstant I p v witness cp completeness (covered rs highestSeq)
  return {
    classification := if atHead then .VERIFIED else .PARTIAL
    code := if atHead then .HEAD_ANCHORED else .PREFIX_ANCHORED
    dimensions := ⟨.INTACT, completeness, .ATTRIBUTABLE_AS_OF, v.lifecycle, true, .AVAILABLE⟩
    chain := p.chain
    count := p.count
    attributedThroughSeq := some highestSeq
    asOf := some (cp.strAt ["ts"]) }

end Historical

/-- Historical verification. Source: `verify.ts` `verifyHistoricalChain`. -/
def verifyHistoricalChain (P : HistoricalPlatform) (o : VerifyOptions) (docs : HistoricalDocuments)
    (receipts : Except String Json) : HistoricalVerificationResult :=
  match Historical.stages P o docs receipts with
  | .ok r => r
  | .error r => r

end NoaMandate
