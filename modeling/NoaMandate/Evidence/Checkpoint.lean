import NoaMandate.Evidence.Execution

/-!
# The anchor of a bundle

Steps 15 to 19 of `steps.ts` and the two routes of `verify-evidence.ts` around them.  The receipts must
verify as a chain under the manifest's receipt keys, and the checkpoint under the external checkpoint
keyring; a checkpoint at the head of the chain is what a negative outcome rests on.

In an audit, receipts whose signer has since been retired go through `verifyHistoricalChain` instead,
and step 18 then forgives the retirement of a key that signed receipts only, provided the historical
verification attributes the whole chain.
-/

namespace NoaMandate

open Pipeline

namespace Evidence

/-- A checkpoint against a keyring, both as documents. Source: `verify.ts` `verifyCheckpoint`. -/
def verifyCheckpoint (I : Intrinsics) (cp keyring : Json) : Verify.CheckpointVerdict :=
  match parseVerificationKeyring I "keyring" keyring with
  | .error _ => .malformed
  | .ok v => Verify.checkpointVerdict I (some v) cp

/-! ## Step 17: the chain and its checkpoint -/

/-- The checkpoint names the head of the chain. -/
def headMatch (cp head : Json) : Bool :=
  asStr (cp.get? "chain") = asStr (head.path? ["scope", "chain"]) &&
    Json.same (cp.get? "highestSeq") (head.path? ["chain", "seq"]) &&
    asStr (cp.get? "headHash") = asStr (head.path? ["chain", "hash"])

/-- What the checkpoint step hands on: whether the checkpoint closes the chain, and the historical
verification if there was one. -/
structure Anchoring where
  reconciled : Bool
  historical : Option HistoricalVerificationResult

/-- Note whether the checkpoint closes the chain. -/
def noteReconciled (reconciled : Bool) : EvidenceCheck Unit :=
  Check.note fun r => { r with checkpointReconciled := some reconciled }

/-- What the verdict on the checkpoint means for the bundle: whether it closes the chain. -/
def judgeCheckpoint (cp head : Json) (verdict : Verify.CheckpointVerdict) : EvidenceCheck Bool := do
  let S := StepName.STEP_17_CHECKPOINT_RECONCILE
  stopWhen (verdict = .malformed || verdict = .badSpec)
    ⟨S, .E_CHECKPOINT_RECONCILE, "checkpoint structurally invalid: " ++ verdict.text⟩
  if verdict = .ok then
    stopWhen (!headMatch cp head)
      ⟨S, .E_CHECKPOINT_RECONCILE,
        "authenticated checkpoint does not match the chain head (tail truncated/extended)"⟩
    noteReconciled true
    return true
  else
    stopWhen (verdict = .badSignature)
      ⟨S, .E_CHECKPOINT_RECONCILE,
        "checkpoint signature does not verify against the external checkpoint keyring"⟩
    stopWhen (verdict = .retired)
      ⟨S, .E_CHECKPOINT_RECONCILE, "checkpoint signing key is retired; signer-chosen checkpoint " ++
        "time is not an independent witness"⟩
    noteReconciled false
    Check.note (Report.warn · ("checkpoint signer not in the supplied --checkpoint-keyring: no " ++
      "trusted tail anchor (VALID_SEGMENT_ONLY for positive outcomes; INCONCLUSIVE for negatives)"))
    return false

variable (P : EvidencePlatform) (s : Setup)

/-- The receipts as a chain under the given keys. -/
def chainVerdict (keyring : Json) : VerifyResult :=
  verifyParsedChain P.toIntrinsics {} ⟨some keyring, none, none⟩ (.arr s.orderedChain)

/-- Source: `steps.ts` `step17_checkpointReconcile`. -/
def step17_checkpointReconcile (trust : Trust) : EvidenceCheck Anchoring := do
  let S := StepName.STEP_17_CHECKPOINT_RECONCILE
  let genesis := s.orderedChain.head?.getD .null
  stopWhen (genesis.path? ["chain", "seq"] ≠ some (.num 0) ||
      genesis.path? ["chain", "prevHash"] ≠ some .null)
    ⟨S, .E_CHECKPOINT_RECONCILE,
      "chain is not genesis-rooted (deferred receipt is not seq 0 / prevHash null)"⟩
  let chainRes := chainVerdict P s trust.receiptKeyring
  stopWhen (chainRes.status ≠ .VALID)
    ⟨S, .E_CHECKPOINT_RECONCILE, "receipt chain not VALID: " ++ chainRes.status.text ++
      (match chainRes.reason with | none => "" | some reason => " (" ++ reason ++ ")")⟩
  let cp := (s.doc "checkpoint").getD .null
  let reconciled ← judgeCheckpoint cp s.headReceipt
    (verifyCheckpoint P.toIntrinsics cp s.checkpointKeyring)
  if 1 < (s.orderedChain.map fun r => asStr (r.path? ["agent", "id"])).dedup.length then
    Check.note (Report.warn · ("checkpoint completeness is opener-scoped (F6): the chain has more " ++
      "than one agent.id; a co-agent's tail is not separately certified by the opener's " ++
      "checkpoint (needs the P2 external anchor)"))
  return ⟨reconciled, none⟩

/-! ## The historical route -/

/-- The kid that signed a document. Source: `verify-evidence.ts` `signerKid`. -/
def signerKid (v : Json) : Option String := asStr (v.path? ["sig", "kid"])

/-- Is a receipt signed with a key the manifest lists as revoked? Source: `verify-evidence.ts`
`hasRetiredReceiptSigner`. -/
def hasRetiredReceiptSigner (trust : Trust) : Bool :=
  s.orderedChain.any fun r =>
    match (signerKid r).bind fun kid => (receiptKeys trust.manifestKeys).lookup kid with
    | some entry => (Artifact.present? (entry.get? "retiredAt")).isSome
    | none => false

/-- The historical verification of a bundle's receipts and checkpoint. -/
def historicalResult (trust : Trust) : HistoricalVerificationResult :=
  verifyHistoricalChain P.toHistoricalPlatform {}
    { keyring := some (.ok trust.receiptKeyring)
      checkpoint := some (.ok ((s.doc "checkpoint").getD .null))
      checkpointKeyring := some (.ok s.checkpointKeyring)
      identityManifest := none }
    (.ok (.arr s.orderedChain))

/-- The answers that leave a bundle without a trusted anchor, but do not speak against it. -/
def noAnchorCodes : List HistoricalVerificationCode :=
  [.WITNESS_KEY_NOT_TRUSTED, .WITNESS_ROOT_INVALID, .WITNESS_ROOT_NOT_PROVIDED,
    .WITNESS_KEY_NOT_SEPARATE, .WITNESS_KEY_RETIRED, .NO_WITNESS]

/-- Source: `verify-evidence.ts` `historicalCheckpointReconcile`. -/
def historicalCheckpointReconcile (trust : Trust) : EvidenceCheck Anchoring := do
  let h := historicalResult P s trust
  Check.note fun r => { r with historical := some h }
  if h.dimensions.completeness = .HEAD_ANCHORED then
    noteReconciled true
    return ⟨true, some h⟩
  else if h.dimensions.completeness = .PREFIX_ANCHORED then
    noteReconciled false
    Check.note (Report.warn · ("historical checkpoint authenticates a lower receipt prefix only " ++
      "(PARTIAL / PREFIX_ANCHORED); the presented head is not tail-anchored"))
    return ⟨false, some h⟩
  else if noAnchorCodes.contains h.code then
    noteReconciled false
    Check.note (Report.warn · ("historical checkpoint did not establish a separately trusted " ++
      "receipt-history anchor (" ++ h.code.text ++ ")"))
    return ⟨false, some h⟩
  else
    need none
      ⟨.STEP_17_CHECKPOINT_RECONCILE, .E_CHECKPOINT_RECONCILE,
        "historical receipt/checkpoint verification failed (" ++ h.code.text ++ "; integrity=" ++
          h.dimensions.integrity.text ++ "; completeness=" ++ h.dimensions.completeness.text ++ ")"⟩

/-- Source: `verify-evidence.ts` `runCheckpointStep`. -/
def runCheckpointStep (trust : Trust) : EvidenceCheck Anchoring :=
  if s.purpose ≠ .audit ∨ hasRetiredReceiptSigner s trust = false then
    step17_checkpointReconcile P s trust
  else historicalCheckpointReconcile P s trust

/-! ## Steps 15 and 16: negative outcomes -/

/-- Source: `steps.ts` `step15_negativeOutcomePrinciple`. -/
def step15_negativeOutcomePrinciple (anchoring : Anchoring) : Except StepFailure Unit :=
  stopWhen (s.outcome.negative && !anchoring.reconciled)
    ⟨.STEP_15_NEGATIVE_OUTCOME_PRINCIPLE, .E_INCONCLUSIVE_NO_CHECKPOINT,
      "non-executed outcome " ++ s.outcome.text ++ " has no trusted checkpoint over the chain " ++
        "head — INCONCLUSIVE (a missing positive artifact never proves a negative; Hold " ++
        "Resolution is not a substitute)"⟩

def MAX_FUTURE_SKEW_MS : Int := 5 * 60 * 1000

/-- Source: `steps.ts` `step16_checkpointFreshness`. -/
def step16_checkpointFreshness : Except StepFailure Unit := do
  let S := StepName.STEP_16_CHECKPOINT_FRESHNESS
  let age := do
    let now ← P.dateParse s.now
    let ts ← parseTime P.toIntrinsics (s.bundle.path? ["checkpoint", "ts"])
    return now - ts
  stopWhen (age.any fun ms => ms < -MAX_FUTURE_SKEW_MS)
    ⟨S, .E_STALE_CHECKPOINT, "checkpoint.ts is " ++ toString ((500 - age.getD 0) / 1000) ++
      "s in the future (verifier now=" ++ s.now ++ "), beyond the " ++
      toString (MAX_FUTURE_SKEW_MS / 1000) ++ "s clock-skew tolerance — a forward-dated checkpoint " ++
      "is not a credible anchor"⟩
  stopWhen (s.outcome.negative && !age.any fun ms => ms ≤ s.maxAgeMs)
    ⟨S, .E_STALE_CHECKPOINT, "non-executed outcome " ++ s.outcome.text ++ ": the checkpoint is " ++
      "stale (older than max-age) — it cannot prove non-execution; INCONCLUSIVE"⟩

/-! ## Step 18: the keys are good now -/

/-- The key may be used at the verifier's own time. Source: `steps.ts` `keyAuthorizedAt`. -/
def keyAuthorizedAt (I : Intrinsics) (kid now : String) (nowMs : Int) (entry : KeyEntry) :
    Except String Unit := do
  match entry.validFrom with
  | none => pure ()
  | some validFrom =>
    let fromMs ← demand (I.dateParse validFrom)
      ("signing key \"" ++ kid ++ "\" has an unparseable validFrom (" ++ validFrom ++ ")")
    refuse (nowMs < fromMs)
      ("signing key \"" ++ kid ++ "\" was evaluated at trusted time " ++ now ++
        ", before its validFrom (" ++ validFrom ++ ") — authorization-time check (F10) fails")
  Artifact.checkUnrevoked kid entry.revokedAt

/-- The checkpoint verifies under a key of the artifact keyring. Source: `steps.ts`
`checkpointSignedByManifestKey`. -/
def checkpointSignedByManifestKey (I : Intrinsics) (cp : Json) (kid : String) (entry : KeyEntry) :
    Bool :=
  verifyCheckpoint I cp (.obj [(kid, .str entry.publicKey)]) = .ok

/-- The members of a bundle whose keys are looked at. -/
def datedArtifacts : List String :=
  ["holdEnvelope", "decisionArtifact", "holdResolution", "executionGrant", "executionConsumption",
    "executionUncertainty"]

/-- The keys the bundle's signatures were made with. -/
def usedKids (keyring : List (String × KeyEntry)) (reconciled : Bool) : List String :=
  let cpKid := (signerKid ((s.doc "checkpoint").getD .null)).filter fun kid =>
    reconciled || (keyring.lookup kid).any fun entry =>
      checkpointSignedByManifestKey P.toIntrinsics ((s.doc "checkpoint").getD .null) kid entry
  (datedArtifacts.filterMap (fun k => (s.doc k).bind signerKid) ++
    s.orderedChain.filterMap signerKid ++ cpKid.toList).filter (· ≠ "")

/-- The keys in use may be used at the verifier's own time. -/
def checkUsedKids (P : EvidencePlatform) (s : Setup) (keyring : List (String × KeyEntry))
    (nowMs : Int) : List String → Except StepFailure Unit
  | [] => .ok ()
  | kid :: rest => do
    match keyring.lookup kid with
    | none => pure ()
    | some entry =>
      (keyAuthorizedAt P.toIntrinsics kid s.now nowMs entry).mapError fun reason =>
        ⟨.STEP_18_TEMPORAL_AUTHORIZATION, .E_TEMPORAL_AUTH, reason⟩
    checkUsedKids P s keyring nowMs rest

/-- Source: `steps.ts` `step18_temporalAuthorization`, under the given keyring. -/
def step18_temporalAuthorization
    (keyring : List (String × KeyEntry)) (reconciled : Bool) : Except StepFailure Unit := do
  let nowMs ← need (P.dateParse s.now)
    ⟨.STEP_18_TEMPORAL_AUTHORIZATION, .E_TEMPORAL_AUTH, "verifier-owned now is unparseable"⟩
  checkUsedKids P s keyring nowMs (usedKids P s keyring reconciled)

/-- The keys that signed a member of the bundle other than its receipts. -/
def sideArtifactKids : List String :=
  match s.bundle with
  | .obj ms => (ms.filter fun m => !(ReceiptRole.all.map ReceiptRole.field).contains m.1).filterMap
      fun m => signerKid m.2
  | _ => []

/-- The key signed receipts, and nothing else. -/
def receiptOnly (kid : String) : Bool :=
  (s.orderedChain.filterMap signerKid).contains kid && !(sideArtifactKids s).contains kid

/-- The artifact keyring with the keys that signed receipts only unrevoked. -/
def projectedKeyring (keyring : List (String × KeyEntry)) : List (String × KeyEntry) :=
  keyring.map fun e => if receiptOnly s e.1 then (e.1, { e.2 with revokedAt := none }) else e

/-- Source: `verify-evidence.ts` `historicalTemporalAuthorization`. -/
def historicalTemporalAuthorization (trust : Trust)
    (reconciled : Bool) (h : HistoricalVerificationResult) : EvidenceCheck Unit :=
  if h.dimensions.integrity = .INTACT ∧ h.dimensions.completeness = .HEAD_ANCHORED ∧
      h.dimensions.attribution = .ATTRIBUTABLE_AS_OF ∧
      (trust.resolvedKeyring.any fun e => receiptOnly s e.1 && e.2.revokedAt.isSome) then do
    step18_temporalAuthorization P s (projectedKeyring s trust.resolvedKeyring) reconciled
    Check.note (Report.warn · ("retired receipt-only signer was attributed as of a separately " ++
      "trusted checkpoint that strictly predates retirement; this audit result grants no current " ++
      "signing authority"))
  else step18_temporalAuthorization P s trust.resolvedKeyring reconciled

/-- Step 18 as the pipeline runs it. -/
def runTemporalStep (trust : Trust) (anchoring : Anchoring) : EvidenceCheck Unit :=
  match anchoring.historical with
  | some h => historicalTemporalAuthorization P s trust anchoring.reconciled h
  | none => step18_temporalAuthorization P s trust.resolvedKeyring anchoring.reconciled

/-! ## Step 19: every receipt was read through its role -/

/-- Source: `steps.ts` `step19_receiptRoleIntegrity`. -/
def step19_receiptRoleIntegrity : EvidenceCheck Unit := do
  let asserted := (← Check.record).rolesAsserted
  let role := ReceiptRole.all.find? fun role =>
    (s.doc role.field).isSome && !asserted.contains role
  stopWhen role.isSome
    ⟨.STEP_19_RECEIPT_ROLE_INTEGRITY, .E_RECEIPT_ROLE, "the bundle carries \"" ++
      (role.map ReceiptRole.field).getD "" ++ "\" for outcome " ++ s.outcome.text ++
      " but no step routed it through the receipt-role chokepoint — its signer's verdict was never " ++
      "checked against the role the bundle assigns it, so a positive verdict here would cover a " ++
      "receipt nothing examined"⟩

end Evidence

end NoaMandate
