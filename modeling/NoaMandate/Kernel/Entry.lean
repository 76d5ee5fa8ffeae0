import NoaMandate.Kernel.SafeJson
import NoaMandate.Kernel.Verify

/-!
# Verifying texts

`verifyChain` is the public entry of `verify.ts`: the receipts and every document of the options are
texts, each read by the strict parser at the moment the source reads it.  The checkpoint and the
manifest are read before the receipts are looked at; the keyring is read after they were ordered, so
a chain that is out of order is reported even when the keyring is unreadable.

`stages_eq` splits the verifier at that point, into what depends on the keyring and what does not.
-/

namespace NoaMandate

open Pipeline

/-- How the bytes of the input are read. -/
inductive VerifyProfile where
  | native
  | strictBytes
  deriving DecidableEq

/-- The documents a caller may supply besides the receipts, as texts. -/
structure VerifyTexts where
  keyring : Option (List Char)
  checkpoint : Option (List Char)
  identityManifest : Option (List Char)

/-- `parseDocument` on an optional text. -/
def readOptional (what : String) : Option (List Char) → Except String (Option Json)
  | none => .ok none
  | some text => (parseDocument text what).map some

namespace Verify

/-- What is known of the receipts when the keyring is read. -/
structure Admitted where
  count : Nat
  manifest : Option (List (String × List String))
  chainId : String
  ordered : List Json
  tenants : TenantScan

/-- The stages before the keyring. -/
def admitted (o : VerifyOptions) (identityManifest : Option Json) (receipts : Json) :
    Except VerifyResult Admitted := do
  let rs ← admitReceipts o receipts
  let manifest ← admitOptionalManifest identityManifest
  checkShapes rs.length 0 rs
  let chainId := (rs.head?.map Receipt.chainId).getD ""
  checkPartition chainId rs
  let bySeq ← indexBySeq chainId rs.length [] rs
  let ordered ← orderFrom chainId rs.length bySeq 0 rs.length
  let tenants ← tenantScan o chainId rs.length {} ordered
  return ⟨rs.length, manifest, chainId, ordered, tenants⟩

/-- The stages after it. -/
def judged (I : Intrinsics) (o : VerifyOptions) (a : Admitted)
    (verification : Option ParsedVerificationKeyring) (checkpoint : Option Json) :
    Except VerifyResult VerifyResult := do
  let c : WalkContext := ⟨a.chainId, a.count, verification, a.manifest⟩
  let st ← walk I o c { warnings := a.tenants.messages } a.ordered
  let genesis := a.ordered.head?.getD .null
  let head := a.ordered.getLast?.getD .null
  let tail ← checkTail I c genesis head (a.ordered.map Receipt.agentId) st.retired checkpoint
  return conclude c st.warnings tail

lemma stages_eq (I : Intrinsics) (o : VerifyOptions) (docs : VerifyDocuments) (receipts : Json) :
    stages I o docs receipts = (do
      let a ← admitted o docs.identityManifest receipts
      let verification ← admitKeyring I a.chainId a.count docs.keyring
      judged I o a verification docs.checkpoint) := by
  simp only [stages, admitted, judged, bind_assoc, pure_bind]

/-- The stages on texts. Source: `verify.ts` `verifyParsedChain`, which is given the texts. -/
def textStages (I : Intrinsics) (o : VerifyOptions) (texts : VerifyTexts) (receipts : Json) :
    Except VerifyResult VerifyResult := do
  let rs ← admitReceipts o receipts
  let checkpoint ← (readOptional "checkpoint" texts.checkpoint).mapError
    fun reason => fail .MALFORMED reason none rs.length
  let identityManifest ← (readOptional "identityManifest" texts.identityManifest).mapError
    fun reason => fail .MALFORMED reason none rs.length
  match readOptional "keyring" texts.keyring with
  | .ok keyring => stages I o ⟨keyring, checkpoint, identityManifest⟩ receipts
  | .error reason => do
    let a ← admitted o identityManifest receipts
    .error (fail .MALFORMED reason (some a.chainId) a.count)

/-- The strict profile: the whole input is the canonical text of what it parses to.
Source: `verify.ts` `verifyStrictBytesChain`. -/
def checkBytes (text : List Char) (receipts : Json) : Except VerifyResult Unit := do
  let canonical ← demand (canonicalize receipts)
    (fail .MALFORMED "NON_CANONICAL_BYTES: receipts: the parsed input has no JCS serialization" none 0)
  refuse (canonical ≠ text)
    (fail .MALFORMED ("NON_CANONICAL_BYTES: receipts: the input bytes are not the UTF-8 JCS " ++
      "serialization of the parsed chain") none 0)

/-- Reading the receipts. -/
def readReceipts (profile : VerifyProfile) (text : List Char) : Except VerifyResult Json := do
  let receipts ← (parseDocument text "receipts").mapError fun reason => fail .MALFORMED reason none 0
  match profile with
  | .native => return receipts
  | .strictBytes =>
    checkBytes text receipts
    return receipts

end Verify

/-- Verify a text of receipts. Source: `verify.ts` `verifyChain`. -/
def verifyChain (I : Intrinsics) (profile : VerifyProfile) (o : VerifyOptions) (texts : VerifyTexts)
    (text : List Char) : VerifyResult :=
  match (do Verify.textStages I o texts (← Verify.readReceipts profile text)) with
  | .ok r => r
  | .error r => r

lemma verifyChain_of_ok {I : Intrinsics} {profile : VerifyProfile} {o : VerifyOptions}
    {texts : VerifyTexts} {text : List Char} {r : VerifyResult}
    (h : (do Verify.textStages I o texts (← Verify.readReceipts profile text)) = .ok r) :
    verifyChain I profile o texts text = r := by
  rw [verifyChain, h]

end NoaMandate
