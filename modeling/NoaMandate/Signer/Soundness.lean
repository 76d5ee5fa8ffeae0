import NoaMandate.Kernel.TamperEvidence
import NoaMandate.Kernel.SafeJsonSound
import NoaMandate.Artifacts.Accepted
import NoaMandate.Artifacts.Schemas
import NoaMandate.Ledger.Approved
import NoaMandate.Signer.Sidecar

/-!
# A signed grant is backed by an approval

Each part of the policy check is read as what it establishes, and the parts are put together as
`GrantBackedBy`: what an approver signed, under which key, and how the grant is bound to it.

The signer verifies the deferred receipt and the approval as a chain of two, and the chain verifier
orders receipts by sequence number, whatever order they are presented in.  The approval therefore
extends the deferred receipt only when it is not itself the first receipt of its chain; that is the
one part of `GrantBackedBy` the signer does not establish.
-/

namespace NoaMandate

open Pipeline

/-! ## Reference hashes -/

/-- The hash by which other artifacts name a receipt is the hash the chain verifier recomputes. -/
lemma receiptRefHash_eq {I : Intrinsics} {r : Json} (h : Schema.ReceiptShape r) :
    receiptRefHash I r = recomputedHash I r := by
  obtain ⟨ms, chain, sig, rfl, hchain, hsig, -⟩ := Receipt.exists_parts h
  have hsig' : (Json.setMember ms "chain" (.obj (Json.eraseMember chain "hash"))).lookup "sig" =
      some (.obj sig) := by
    rw [Json.lookup_setMember]
    simpa using hsig
  simp only [receiptRefHash, recomputedHash, receiptHashInput, Receipt.preimage, deleteIn, hchain,
    hsig, hsig', Option.bind_some]

namespace Signer

variable {P : Platform} {D : Deps}

variable {s : String} {trust : GrantSignerTrust} {nowMs : Int}

lemma asString_eq_some {v : Option Json} (h : asString v = some s) :
    v = some (.str s) :=
  (nonEmptyStr?_eq_some_iff.mp h).1

lemma strAt?_of_path? {v : Json} {path : List String}
    (h : v.path? path = some (.str s)) : v.strAt? path = some s := by
  rw [Json.strAt?, h]
  rfl

lemma strAt?_of_asString {v : Json} {path : List String}
    (h : asString (v.path? path) = some s) : v.strAt? path = some s :=
  strAt?_of_path? (asString_eq_some h)

lemma getStr?_of_asString {v : Json} {k : String} (h : asString (v.get? k) = some s) :
    v.getStr? k = some s :=
  Json.getStr?_eq_some.mpr (asString_eq_some h)

/-! ## What each part establishes -/

section readings

variable {grant env : Json} {p : Proof} {a : Approval} {nowMs : Int} {nowIso : String}

lemma checkApproval_eq_ok {receipt : Json} (h : checkApproval trust receipt = .ok a) :
    receipt.strAt? ["governance", "verdict"] = some "ALLOWED" ∧
      receipt.strAt? ["agent", "principal"] = some "HUMAN" ∧
      receipt.strAt? ["action", "paramsHash"] = some a.paramsHash ∧
      receipt.strAt? ["action", "riskClass"] = some a.riskClass ∧
      receipt.strAt? ["governance", "approval", "by"] = some a.kid ∧
      receipt.strAt? ["governance", "approval", "at"] = some a.at' ∧
      receipt.strAt? ["sig", "kid"] = some a.kid ∧
      ∃ entry, trust.keyring.lookup a.kid = some entry ∧ entry.type = .APPROVER ∧
        trust.receiptKeyring.strAt? ["keys", a.kid, "publicKey"] = some entry.publicKey := by
  simp only [checkApproval, ok_iff, test_iff, Option.filter_eq_some_iff] at h
  obtain ⟨_, hverdict, _, hhuman, _, -, params, hparams, risk, hrisk, by', hby, at', hat, kid, hkid,
    _, rfl, entry, ⟨hentry, htype⟩, _, hring, rfl⟩ := h
  exact ⟨strAt?_of_path? (Json.eq_of_same hverdict), strAt?_of_path? (Json.eq_of_same hhuman),
    strAt?_of_asString hparams, strAt?_of_asString hrisk, strAt?_of_asString hby,
    strAt?_of_asString hat, strAt?_of_asString hkid, entry, hentry, htype, hring⟩

lemma checkFresh_eq_ok {approvalAt : String} {approvalMs : Int}
    (h : checkFresh P D nowMs approvalAt = .ok approvalMs) :
    P.dateParse approvalAt = some approvalMs ∧ nowMs - approvalMs ≤ D.maxApprovalAgeMs := by
  simp only [checkFresh, ok_iff, decide_eq_false_iff_not, not_lt] at h
  obtain ⟨_, hparse, _, -, _, hage, rfl⟩ := h
  exact ⟨hparse, by omega⟩

lemma checkChain_eq_ok {u : Unit} (h : checkChain P trust p = .ok u) :
    (∃ ring, parseVerificationKeyring P.toIntrinsics "keyring" trust.receiptKeyring = .ok ring ∧
      Verify.ChainValid P.toIntrinsics 1000000 ring none none
        [p.deferredReceipt, p.approvalReceipt]) ∧
      ∃ hash, receiptRefHash P.toIntrinsics p.deferredReceipt = some hash ∧
        p.holdEnvelope.getStr? "deferredReceiptHash" = some hash := by
  simp only [checkChain, ok_iff, test_iff] at h
  obtain ⟨_, hvalid, hash, hhash, hbound⟩ := h
  refine ⟨?_, hash, hhash, getStr?_of_asString hbound⟩
  obtain ⟨rs, ring, manifest, hrs, ⟨k, hk, hparse⟩, hman, hchain⟩ :=
    (Verify.stages_valid_iff rfl rfl).mp
      ((Verify.verifyParsedChain_valid_iff_stages _ _ _ _).mp hvalid)
  obtain rfl := Json.arr.inj hrs
  cases hk
  cases hman
  exact ⟨ring, hparse, hchain⟩

/-- An instant that was read is the instant of a text field. -/
lemma instantOf_eq_some (hempty : P.dateParse "" = none) {doc : Json} {field : String} {t : Int}
    (h : instantOf P doc field = some t) :
    ∃ text, doc.getStr? field = some text ∧ P.dateParse text = some t := by
  unfold instantOf at h
  cases htext : asString (doc.get? field) with
  | none => rw [htext, Option.getD_none, hempty] at h; cases h
  | some text =>
    rw [htext] at h
    exact ⟨text, getStr?_of_asString htext, h⟩

lemma checkEnvelope_eq_ok {expiry : Int}
    (h : checkEnvelope P D nowMs nowIso grant env = .ok expiry) :
    (∃ spec m, Artifact.Accepted P.toArtifactPlatform (envelopeContext D nowIso) env spec m) ∧
      env.get? "mode" = some (.str "ENFORCED") ∧ instantOf P env "expiresAt" = some expiry ∧
      (∃ hash, refHash P.toIntrinsics env = some hash ∧
        grant.getStr? "holdEnvelopeHash" = some hash) ∧
      grant.get? "holdId" = env.get? "holdId" := by
  simp only [checkEnvelope, ok_iff, test_iff] at h
  obtain ⟨_, hverified, _, hmode, _, hexpiry, _, -, hash, hhash, _, hbound, _, hhold, rfl⟩ := h
  exact ⟨Artifact.verifyArtifact_eq_ok hverified, Json.eq_of_same hmode, hexpiry,
    ⟨hash, hhash, getStr?_of_asString hbound⟩, Json.eq_of_same hhold⟩

lemma checkDecision_eq_ok {u : Unit} (h : checkDecision P D nowIso a p = .ok u) :
    (∃ spec m, Artifact.Accepted P.toArtifactPlatform
      (decisionContext D nowIso a.riskClass p.holdEnvelope) p.decisionArtifact spec m) ∧
      p.decisionArtifact.get? "approverKid" = some (.str a.kid) := by
  simp only [checkDecision, ok_iff, Bool.not_eq_false'] at h
  obtain ⟨_, hverified, hkid⟩ := h
  exact ⟨Artifact.verifyArtifact_eq_ok hverified, Json.eq_of_same hkid⟩

lemma checkGrantBindings_eq_ok {receipt : Json} {ref : String}
    (h : checkGrantBindings P grant a receipt = .ok ref) :
    receiptRefHash P.toIntrinsics receipt = some ref ∧
      grant.getStr? "approvalReceiptHash" = some ref ∧
      grant.getStr? "paramsHash" = some a.paramsHash := by
  simp only [checkGrantBindings, ok_iff, test_iff] at h
  obtain ⟨_, hhash, _, hbound, _, hparams, rfl⟩ := h
  exact ⟨hhash, getStr?_of_asString hbound, Json.getStr?_eq_some.mpr (Json.eq_of_same hparams)⟩

/-- The window of a grant: issued near the signer's clock, for a bounded time, within the hold. -/
def WindowOk (P : Platform) (D : Deps) (nowMs expiry : Int) (grant : Json) : Prop :=
  ∃ issued expires, instantOf P grant "issuedAt" = some issued ∧
    instantOf P grant "expiresAt" = some expires ∧ issued < expires ∧
    |issued - nowMs| ≤ CLOCK_SKEW_MS ∧ expires - issued ≤ D.maxGrantTtlMs ∧ expires ≤ expiry

lemma checkWindow_eq_ok {expiry : Int} {u : Unit}
    (h : checkWindow P D nowMs expiry grant = .ok u) : WindowOk P D nowMs expiry grant := by
  simp only [checkWindow, ok_iff, decide_eq_false_iff_not, not_le, not_lt] at h
  obtain ⟨issued, hissued, expires, hexpires, _, hlater, _, hskew, _, httl, hhold⟩ := h
  refine ⟨issued, expires, hissued, hexpires, hlater, ?_, by omega, by omega⟩
  rw [Int.abs_eq_natAbs]
  omega

end readings

/-! ## From the answer back to the request -/

/-- The four documents a request line presents as proof. -/
def requestProof (line : List Char) : Option Proof := do
  let req ← (parseDocument line "request").toOption
  let proof ← record? req "proof"
  (readProof proof).toOption

variable {artifact doc req : Json}

/-- A signed document repeats every member of the submitted one. -/
lemma signArtifact_eq_ok {domain : String}
    (h : signArtifact P D domain artifact = .ok doc) {k : String} (hk : k ≠ "sig") :
    doc.get? k = artifact.get? k := by
  cases artifact with
  | obj ms =>
    simp only [signArtifact, ok_iff] at h
    obtain ⟨_, -, _, -, _, -, rfl⟩ := h
    rw [Json.get?_obj, Json.get?_obj, List.lookup_append]
    have hlast : (k == "sig") = false := beq_eq_false_iff_ne.mpr hk
    rw [List.lookup_cons, hlast]
    exact Option.or_none
  | _ => cases h

/-- The specs that are signed are named by the document. -/
lemma executionDomainFor_eq_ok {spec : Option Json} {name domain : String}
    (h : executionDomainFor spec = .ok (name, domain)) : spec = some (.str name) := by
  simp only [executionDomainFor, ok_iff, Prod.mk.injEq, Option.bind_eq_some_iff] at h
  obtain ⟨_, ⟨v, rfl, hv⟩, _, -, _, -, rfl, rfl⟩ := h
  rw [Json.asStr?_eq_some.mp hv]

/-- What a prepared answer was made from. -/
lemma prepareSigned_eq_ok {op : Op} {pr : Prepared} (h : prepareSigned P D nowMs req op = .ok pr) :
    ∃ artifact spec, record? req "artifact" = some artifact ∧
      artifact.get? "spec" = some (.str spec) ∧
      claimOf P D nowMs req artifact spec op = .ok pr.claim ∧
      ∀ k ≠ "sig", pr.signed.get? k = artifact.get? k := by
  simp only [prepareSigned, ok_iff] at h
  obtain ⟨artifact, hartifact, ⟨spec, domain⟩, hdomain, claim, hclaim, signed, hsigned, _, -, _, -,
    rfl⟩ := h
  exact ⟨artifact, spec, hartifact, executionDomainFor_eq_ok hdomain, hclaim,
    fun k hk => signArtifact_eq_ok hsigned hk⟩

variable {line : List Char}

lemma prepare_eq_ok {pr : Prepared} (h : prepare P D nowMs line = .ok pr) :
    ∃ req op, parseDocument line "request" = .ok req ∧ req.getStr? "op" = some (Op.text op) ∧
      prepareSigned P D nowMs req op = .ok pr := by
  simp only [prepare, ok_iff] at h
  obtain ⟨req, hreq, _, -, h⟩ := h
  split at h
  · cases h
  · rename_i hop; exact ⟨req, .signGrant, hreq, hop, h⟩
  · rename_i hop; exact ⟨req, .signAttestation, hreq, hop, h⟩
  · cases h

/-- Only a grant request is answered with a grant, and its policy check passed. -/
lemma claimOf_grant {op : Op} {claim : Option (String × Int)}
    (h : claimOf P D nowMs req artifact EXECUTION_GRANT_SPEC op = .ok claim) :
    op = .signGrant ∧ ∃ proof c, record? req "proof" = some proof ∧ claim = some c ∧
      validateGrantRequest P D nowMs artifact proof = .ok c := by
  cases op with
  | signAttestation =>
    simp only [claimOf, ok_iff] at h
    obtain ⟨_, hne, -⟩ := h
    simp at hne
  | signGrant =>
    simp only [claimOf, ok_iff] at h
    obtain ⟨_, -, proof, hproof, c, hc, rfl⟩ := h
    exact ⟨rfl, proof, c, hproof, rfl, hc⟩

/-- An attestation spends no approval. -/
lemma claimOf_other {op : Op} {spec : String}
    {c : String × Int} (h : claimOf P D nowMs req artifact spec op = .ok (some c)) :
    spec = EXECUTION_GRANT_SPEC := by
  cases op with
  | signAttestation =>
    simp only [claimOf, ok_iff] at h
    obtain ⟨_, -, hnone⟩ := h
    cases hnone
  | signGrant =>
    simp only [claimOf, ok_iff, test_iff] at h
    obtain ⟨_, hspec, -⟩ := h
    exact hspec

/-- What `prepare` stops with is never a document. -/
lemma prepare_ne_artifact (doc : Json) :
    prepare P D nowMs line ≠ .error (.artifact doc) := by
  intro h
  have hclaim : ∀ req artifact spec op,
      ErrorsIn (· ≠ .artifact doc) (claimOf P D nowMs req artifact spec op) := by
    intro req artifact spec op
    cases op with
    | signAttestation => exact (ErrorsIn.refuse (by simp)).bind fun _ => ErrorsIn.ok
    | signGrant =>
      exact (ErrorsIn.refuse (by simp)).bind fun _ => (ErrorsIn.demand (by simp)).bind fun _ =>
        (ErrorsIn.mapError (by simp)).bind fun _ => ErrorsIn.ok
  have hsigned : ∀ req op, ErrorsIn (· ≠ .artifact doc) (prepareSigned P D nowMs req op) :=
    fun req op => (ErrorsIn.demand (by simp)).bind fun _ => (ErrorsIn.mapError (by simp)).bind
      fun _ => (hclaim _ _ _ _).bind fun _ => (ErrorsIn.mapError (by simp)).bind fun _ =>
        (ErrorsIn.demand (by simp)).bind fun _ => (ErrorsIn.refuse (by simp)).bind fun _ =>
          ErrorsIn.ok
  have hall : ErrorsIn (· ≠ .artifact doc) (prepare P D nowMs line) := by
    refine (ErrorsIn.mapError (by simp)).bind fun req => (ErrorsIn.refuse (by simp)).bind fun _ => ?_
    split
    · exact ErrorsIn.error (by simp)
    · exact hsigned _ _
    · exact hsigned _ _
    · exact ErrorsIn.error (by simp)
  exact hall _ h rfl

/-- A document in an answer is one that was prepared. -/
lemma handle_eq_artifact {now₁ now₂ : Int} {fails : Option String} {s : Store} (h : (handleGrantSignerRequest P D now₁ now₂ fails s line).1 = .artifact doc) :
    ∃ claim, prepare P D now₁ line = .ok ⟨doc, claim⟩ := by
  unfold handleGrantSignerRequest at h
  split at h
  · rename_i answer hprep
    -- a refusal carries no document
    obtain rfl : answer = .artifact doc := h
    exact absurd hprep (prepare_ne_artifact doc)
  · rename_i hprep
    obtain rfl := Response.artifact.inj h
    exact ⟨_, hprep⟩
  · rename_i hprep
    dsimp only at h
    split at h
    · cases h
    · cases h
    · cases h
    · obtain rfl := Response.artifact.inj h
      exact ⟨_, hprep⟩

/-! ## The approval behind a grant -/

/-- What stands behind the signed grant `doc`: the documents presented with it, and the approver `kid`
whose key `entry` both keyrings hold. -/
structure GrantBackedBy (P : Platform) (D : Deps) (nowMs : Int) (doc : Json) (p : Proof)
    (kid : String) (entry : KeyEntry) : Prop where
  /-- The receipt allows, in the name of a human, and names the approver. -/
  allowed : p.approvalReceipt.strAt? ["governance", "verdict"] = some "ALLOWED" ∧
    p.approvalReceipt.strAt? ["agent", "principal"] = some "HUMAN" ∧
    p.approvalReceipt.strAt? ["governance", "approval", "by"] = some kid
  /-- Both keyrings give the approver one public key. -/
  oneKey : D.trust.keyring.lookup kid = some entry ∧
    ∃ ring, parseVerificationKeyring P.toIntrinsics "keyring" D.trust.receiptKeyring = .ok ring ∧
      ring.keyring.lookup kid = some entry.publicKey
  /-- The receipt verifies under that key. -/
  receiptVerifies : Receipt.kid p.approvalReceipt = kid ∧
    ∃ text, receiptHashInput p.approvalReceipt = some text ∧
      P.verifyEd25519 entry.publicKey (P.signingMessage Verify.RECEIPT_SIG_DOMAIN text)
        (Receipt.sigValue p.approvalReceipt) = true
  /-- So does the decision, which approves. -/
  decisionVerifies : p.decisionArtifact.getStr? "spec" = some "noa.decision/0.1" ∧
    p.decisionArtifact.getStr? "decision" = some "APPROVE" ∧
    p.decisionArtifact.getStr? "approverKid" = some kid ∧
    ∃ text value, canonicalize (Artifact.withoutSig p.decisionArtifact) = some text ∧
      p.decisionArtifact.strAt? ["sig", "value"] = some value ∧
      P.verifyEd25519 entry.publicKey (P.signingMessage "NOA-Decision-v0.1-sig" text) value = true
  /-- The key is an approver's, of the tier of the receipt's risk class. -/
  tier : entry.type = .APPROVER ∧ ∃ risk, p.approvalReceipt.strAt? ["action", "riskClass"] = some risk ∧
    ∃ role ∈ Artifact.requiredApproverRole (some risk), role ∈ entry.roles
  /-- The envelope is an enforced one of this tenant. -/
  envelope : p.holdEnvelope.getStr? "spec" = some "noa.hold/0.1" ∧
    p.holdEnvelope.getStr? "mode" = some "ENFORCED" ∧
    p.holdEnvelope.getStr? "tenant" = some D.trust.tenant
  /-- The decision and the grant are bound to that envelope and to no other. -/
  envelopeBound : ∃ hash, refHash P.toIntrinsics p.holdEnvelope = some hash ∧
    p.decisionArtifact.getStr? "holdEnvelopeHash" = some hash ∧
    doc.getStr? "holdEnvelopeHash" = some hash ∧
    ∀ other, refHash P.toIntrinsics other = some hash → other.Eqv p.holdEnvelope
  /-- The envelope commits to the deferred receipt, and the ALLOWED receipt extends it. -/
  extended : ∃ hash, receiptRefHash P.toIntrinsics p.deferredReceipt = some hash ∧
    p.holdEnvelope.getStr? "deferredReceiptHash" = some hash ∧
    Receipt.prevHash p.approvalReceipt = some hash ∧
    Receipt.seq p.approvalReceipt = Receipt.seq p.deferredReceipt + 1
  /-- The grant carries the parameters and the hash of the receipt, and the envelope's hold. -/
  bound : (∃ params, p.approvalReceipt.strAt? ["action", "paramsHash"] = some params ∧
      doc.getStr? "paramsHash" = some params) ∧
    (∃ ref, receiptRefHash P.toIntrinsics p.approvalReceipt = some ref ∧
      doc.getStr? "approvalReceiptHash" = some ref) ∧
    doc.get? "holdId" = p.holdEnvelope.get? "holdId"
  /-- The grant is issued near the signer's clock, for a bounded time, and ends within the hold. -/
  window : ∃ issuedAt expiresAt holdExpiresAt issued expires holdExpires,
    doc.getStr? "issuedAt" = some issuedAt ∧ P.dateParse issuedAt = some issued ∧
    doc.getStr? "expiresAt" = some expiresAt ∧ P.dateParse expiresAt = some expires ∧
    p.holdEnvelope.getStr? "expiresAt" = some holdExpiresAt ∧
    P.dateParse holdExpiresAt = some holdExpires ∧
    |issued - nowMs| ≤ CLOCK_SKEW_MS ∧ issued < expires ∧ expires - issued ≤ D.maxGrantTtlMs ∧
    expires ≤ holdExpires

/-- In a chain of two, the second receipt extends the first exactly when it does not open the
chain. -/
lemma extends_iff {I : Intrinsics} {bound : Nat} {ring : ParsedVerificationKeyring} {d a : Json}
    (h : Verify.ChainValid I bound ring none none [d, a]) :
    (Receipt.prevHash a = some (Receipt.hash d) ∧ Receipt.seq a = Receipt.seq d + 1) ↔
      Receipt.seq a ≠ 0 := by
  have htwo : [Receipt.seq d, Receipt.seq a].Perm [0, 1] := h.contiguous
  have ha : Receipt.seq a ∈ [(0 : Int), 1] := htwo.mem_iff.mp (by simp)
  have hd : Receipt.seq d ∈ [(0 : Int), 1] := htwo.mem_iff.mp (by simp)
  have hnd : [Receipt.seq d, Receipt.seq a].Nodup := htwo.nodup_iff.mpr (by decide)
  simp only [List.nodup_cons, mem_iff] at ha hd hnd
  constructor
  · rintro ⟨-, hseq⟩
    omega
  · intro hne
    have hseq : Receipt.seq a = Receipt.seq d + 1 := by omega
    exact ⟨h.linked d (by simp) a (by simp) hseq, hseq⟩

/-- The approver's key verifies the approval receipt. -/
lemma receipt_verifies {ring : ParsedVerificationKeyring} {d a : Json}
    {kid : String} {entry : KeyEntry}
    (hparse : parseVerificationKeyring P.toIntrinsics "keyring" trust.receiptKeyring = .ok ring)
    (hchain : Verify.ChainValid P.toIntrinsics 1000000 ring none none [d, a])
    (hkid : a.strAt? ["sig", "kid"] = some kid)
    (hkey : trust.receiptKeyring.strAt? ["keys", kid, "publicKey"] = some entry.publicKey) :
    ring.keyring.lookup kid = some entry.publicKey ∧ Receipt.kid a = kid ∧
      ∃ text, receiptHashInput a = some text ∧
        P.verifyEd25519 entry.publicKey (P.signingMessage Verify.RECEIPT_SIG_DOMAIN text)
          (Receipt.sigValue a) = true := by
  have hlookup := parseVerificationKeyring_lookup hparse hkey
  have hk : Receipt.kid a = kid := by rw [Receipt.kid, Json.strAt, hkid]; rfl
  obtain ⟨pub, text, hpub, htext, hverified, -⟩ := hchain.authentic a (by simp)
  rw [hk, hlookup] at hpub
  cases hpub
  exact ⟨hlookup, hk, text, htext, hverified⟩

/-- The decision verifies under the key of the approver it names, at the tier of the risk class. -/
lemma decision_verifies {nowIso risk kid : String} {env decision : Json} {entry : KeyEntry}
    {spec : String} {m : ArtifactMeta}
    (hkinds : Artifact.OnlyKindWith "decision" "noa.decision/0.1" D.schemas)
    (h : Artifact.Accepted P.toArtifactPlatform (decisionContext D nowIso risk env) decision spec m)
    (hkid : decision.get? "approverKid" = some (.str kid))
    (hentry : D.trust.keyring.lookup kid = some entry) :
    decision.getStr? "spec" = some "noa.decision/0.1" ∧
      decision.getStr? "decision" = some "APPROVE" ∧
      (∃ text value, canonicalize (Artifact.withoutSig decision) = some text ∧
        decision.strAt? ["sig", "value"] = some value ∧
        P.verifyEd25519 entry.publicKey (P.signingMessage "NOA-Decision-v0.1-sig" text) value =
          true) ∧
      ∃ role ∈ Artifact.requiredApproverRole (some risk), role ∈ entry.roles := by
  have happrove : decision.path? ["decision"] = some (.str "APPROVE") :=
    h.equals (["decision"], .str "APPROVE") (by simp [decisionContext])
  have hget : decision.get? "decision" = some (.str "APPROVE") := by
    simpa [Json.path?] using happrove
  obtain rfl := h.spec_eq hkinds hget
  obtain ⟨hspec, hmeta⟩ := h.kind
  obtain rfl : _ = m := Option.some.inj hmeta
  obtain ⟨kid', entry', hsigned⟩ := h.signed "NOA-Decision-v0.1-sig" rfl
  -- the decision names its own signer, so its key is the one of `approverKid`
  have hsame : some (Json.str kid) = some (.str kid') :=
    hkid.symm.trans (hsigned.identity "approverKid" rfl)
  obtain rfl := Json.str.inj (Option.some.inj hsame)
  obtain rfl := Option.mem_unique hentry hsigned.known
  exact ⟨hspec, Json.getStr?_eq_some.mpr hget, hsigned.verified, hsigned.role _ rfl⟩

/-- A policy check that passed: the proof is there, and it backs the grant exactly when the approval
does not open its chain. -/
theorem validateGrantRequest_eq_ok (hsha : Function.Injective P.sha256Hex)
    (hempty : P.dateParse "" = none)
    (hdecision : Artifact.OnlyKindWith "decision" "noa.decision/0.1" D.schemas)
    (hhold : Artifact.OnlyKindWith "mode" "noa.hold/0.1" D.schemas) {grant proof : Json} {c : String × Int}
    (h : validateGrantRequest P D nowMs grant proof = .ok c)
    (hdoc : ∀ k ≠ "sig", doc.get? k = grant.get? k) :
    ∃ p, readProof proof = .ok p ∧ ((∃ kid entry, GrantBackedBy P D nowMs doc p kid entry) ↔
      Receipt.seq p.approvalReceipt ≠ 0) := by
  simp only [validateGrantRequest, ok_iff] at h
  obtain ⟨nowIso, -, _, -, p, hp, a, ha, approvalMs, -, _, hchain, expiry, henv, _, hdec, ref, hbind,
    _, hwin, rfl⟩ := h
  obtain ⟨hverdict, hhuman, hparams, hrisk, hby, -, hkid, entry, hentry, htype, hring⟩ :=
    checkApproval_eq_ok ha
  obtain ⟨⟨ring, hparse, hvalid⟩, dhash, hdhash, hdbound⟩ := checkChain_eq_ok hchain
  obtain ⟨⟨espec, em, heaccepted⟩, hmode, hexpiry, ⟨ehash, hehash, hebound⟩, hholdId⟩ :=
    checkEnvelope_eq_ok henv
  obtain ⟨⟨dspec, dm, hdaccepted⟩, happroverKid⟩ := checkDecision_eq_ok hdec
  obtain ⟨href, hrefbound, hparamsbound⟩ := checkGrantBindings_eq_ok hbind
  obtain ⟨issued, expires, hissued, hexpires, hlater, hskew, httl, hwithin⟩ := checkWindow_eq_ok hwin
  have hshape := hvalid.shape p.deferredReceipt (by simp)
  have hdhash' : Receipt.hash p.deferredReceipt = dhash := by
    rw [receiptRefHash_eq hshape, hvalid.hash _ (by simp)] at hdhash
    exact Option.some.inj hdhash
  have hstr : ∀ k ≠ "sig", doc.getStr? k = grant.getStr? k := fun k hk => by
    rw [Json.getStr?, Json.getStr?, hdoc k hk]
  refine ⟨p, hp, fun hbacked => ?_, fun hseq => ⟨a.kid, entry, ?_⟩⟩
  · obtain ⟨_, _, hbacked⟩ := hbacked
    obtain ⟨hash, hh, -, hprev, hseq⟩ := hbacked.extended
    rw [hdhash] at hh
    exact (extends_iff hvalid).mp ⟨by rw [hprev, hdhash', Option.some.inj hh], hseq⟩
  obtain ⟨hlookup, hreceiptKid, hreceipt⟩ := receipt_verifies hparse hvalid hkid hring
  obtain ⟨hdspec, happrove, hdverified, htier⟩ :=
    decision_verifies hdecision hdaccepted happroverKid hentry
  obtain ⟨hprev, hsucc⟩ := (extends_iff hvalid).mpr hseq
  obtain rfl := heaccepted.spec_eq hhold hmode
  have htenant : p.holdEnvelope.path? ["tenant"] = some (.str D.trust.tenant) :=
    heaccepted.equals (["tenant"], .str D.trust.tenant) (by simp [envelopeContext])
  obtain ⟨bhash, hbhash, hbpath, -⟩ := hdaccepted.refHashes _ (.head _)
  have hbe : bhash = ehash := Option.mem_unique hbhash hehash
  subst hbe
  obtain ⟨issuedAt, hissuedAt, hissuedMs⟩ := instantOf_eq_some hempty hissued
  obtain ⟨expiresAt, hexpiresAt, hexpiresMs⟩ := instantOf_eq_some hempty hexpires
  obtain ⟨holdExpiresAt, hholdExpiresAt, hholdMs⟩ := instantOf_eq_some hempty hexpiry
  exact
    { allowed := ⟨hverdict, hhuman, hby⟩
      oneKey := ⟨hentry, ring, hparse, hlookup⟩
      receiptVerifies := ⟨hreceiptKid, hreceipt⟩
      decisionVerifies := ⟨hdspec, happrove, Json.getStr?_eq_some.mpr happroverKid, hdverified⟩
      tier := ⟨htype, a.riskClass, hrisk, htier⟩
      envelope := ⟨heaccepted.kind.1, Json.getStr?_eq_some.mpr hmode,
        Json.getStr?_eq_some.mpr (by simpa [Json.path?] using htenant)⟩
      envelopeBound := ⟨bhash, hehash, Json.getStr?_eq_some.mpr (by simpa [Json.path?] using hbpath),
        (hstr _ (by decide)).trans hebound, fun other hother => eqv_of_refHash_eq hsha hother hehash⟩
      extended := ⟨dhash, hdhash, hdbound, hdhash' ▸ hprev, hsucc⟩
      bound := ⟨⟨a.paramsHash, hparams, (hstr _ (by decide)).trans hparamsbound⟩,
        ⟨ref, href, (hstr _ (by decide)).trans hrefbound⟩, (hdoc _ (by decide)).trans hholdId⟩
      window := ⟨issuedAt, expiresAt, holdExpiresAt, issued, expires, expiry,
        (hstr _ (by decide)).trans hissuedAt, hissuedMs, (hstr _ (by decide)).trans hexpiresAt,
        hexpiresMs, hholdExpiresAt, hholdMs, hskew, hlater, httl, hwithin⟩ }

end Signer

open Signer in
/-- Whatever line the signer is sent, when it answers with a signed execution grant, the line was a
grant request, never one for an attestation, and the documents it carried as proof back the grant
exactly when the approval receipt does not open its chain. -/
theorem signed_grant_backed_iff (P : Platform) (D : Deps) (hsha : Function.Injective P.sha256Hex)
    (hempty : P.dateParse "" = none)
    (hdecision : Artifact.OnlyKindWith "decision" "noa.decision/0.1" D.schemas)
    (hhold : Artifact.OnlyKindWith "mode" "noa.hold/0.1" D.schemas) (now₁ now₂ : Int)
    (appendFails : Option String) (s : Store) (line : List Char) (doc : Json)
    (h : (handleGrantSignerRequest P D now₁ now₂ appendFails s line).1 = .artifact doc)
    (hspec : doc.getStr? "spec" = some EXECUTION_GRANT_SPEC) :
    (∃ req, parseDocument line "request" = .ok req ∧ req.getStr? "op" = some "sign-grant") ∧
      ∃ p, requestProof line = some p ∧
        ((∃ kid entry, GrantBackedBy P D now₁ doc p kid entry) ↔
          Receipt.seq p.approvalReceipt ≠ 0) := by
  obtain ⟨claim, hprepare⟩ := handle_eq_artifact h
  obtain ⟨req, op, hreq, hop, hsigned⟩ := prepare_eq_ok hprepare
  obtain ⟨artifact, spec, -, hartifact, hclaim, hdoc⟩ := prepareSigned_eq_ok hsigned
  have hname : some (Json.str spec) = some (.str EXECUTION_GRANT_SPEC) := by
    rw [← hartifact, ← hdoc "spec" (by decide)]
    exact Json.getStr?_eq_some.mp hspec
  obtain rfl := Json.str.inj (Option.some.inj hname)
  obtain ⟨rfl, proof, c, hproof, -, hvalid⟩ := claimOf_grant hclaim
  obtain ⟨p, hp, hiff⟩ := validateGrantRequest_eq_ok hsha hempty hdecision hhold hvalid hdoc
  refine ⟨⟨req, hreq, hop⟩, p, ?_, hiff⟩
  simp [requestProof, hreq, hproof, hp, Except.toOption]

namespace Signer

/-! ## Requests of the shipped signer -/

namespace SampleRequest

open Owner.SampleCommit (Signed sha sig deferred approval envelope decision tenantScope now gateKid
  approverKid lifecycleKey paramsHex)
open Schemas (rfc3339 holdSchema decisionSchema grantSchema)

/-- The documents of a request the way the gate makes them. -/
def honest : Signed :=
  { Owner.SampleCommit.honest with
    deferredSig :=
      "d90mIyQz/tWAkEtFRU9IOTbFSrymRx/JNjLPQw39cJ5mAXZtLJTT/oCqZBiYbBW/NOIKLG5NIAyF3nA4YFI+Cg=="
    approvalSig :=
      "5l1kONWXpJp5kSjiPj3q6VucXhvpND1ZZxqCMILpup6VbrYvWpuH+m35BD61hi83efb0ppKJRT9H2fnPbFvYAw=="
    envelope := "b1f74c313d1fe0213fa706d77ea7d1d0c90b5181c333f1370c15a6eb67798db9"
    envelopeSig :=
      "MkWoZsNEe+hmwgIbbkeZ+6wrAoYtImnED5BrUcBZhH5YfkgjGB1ZIZd+s/PlZxeTBnAsYM9qtxSxS2iXGrklBA=="
    decisionSig :=
      "nzmfCserL9VL0dqDqfczTPCDc/mEAvPbiQjJ/89O3DtnpYjsecMrnGwTTJuDThS+S0xJQm4GYfPL00tqZZ3dAA==" }

/-- The documents of a request whose approval opens the chain. -/
def reversed : Signed :=
  { honest with
    deferred := "ce3e0dd48b221f70f0d31686949085e7c5ba0f59ba62d00da98d30e3aa4ea658"
    deferredSig :=
      "1nC5PnaMN1OLOrqm3s81R9foRc2cKkQtHjWejQgzbD+l3eSs9MmUdIAVxqHIrbjGTDJ54sZXkqX+t9URKIy9Aw=="
    approval := "c4e581e4903fc00074bdcf255f210c8f1ddbe9db7178cd5d15e67950cd864e64"
    approvalSig :=
      "MpdO3gsluo3jLvOhBqOuSf/bSK41JVlV7/b9x9r8fSjEubFqUHGbI7oRFVRCJEundAUbcBPG8ud7XspoNxrVCg=="
    envelope := "e6084a8e64eedfb5938a7695e1f9252d76f6452450e0fa0d2f5909bbfa71cb15"
    envelopeSig :=
      "/rynzh3qdjgpK0SbL8qFghQAUeLqH1rp9BPQsqqILRmtw4Q9Z9tDgUdphQpOn1r6jyjgnAj+khJoF0/6FsnCDQ=="
    decisionSig :=
      "1YsWigdPRC1KR8EymJff1nxpX7WIt2r/ngAkI3qcIt3XgcVDenHAfOZ2XFS7r0cTjra5EKMxPLjkUXwNlPzCCg==" }

def gateKey : String := "MCowBQYDK2VwAyEA4fQX6aIsFMRun+HIZosGhLFy0Gmm1ufCKHouG6CUeVE="

def approverKey : String := "MCowBQYDK2VwAyEAe9UP89WJQpgUJyBJXGe6QjOPDvHipELabU66IryV/Vs="

/-- A grant to be signed. -/
def grant (x : Signed) (grantId nonce : String) : Json :=
  .obj [("spec", .str "noa.execution-grant/0.1"), ("grantId", .str grantId),
    ("holdId", .str "fx.0-00000001"), ("paramsHash", sha paramsHex),
    ("holdEnvelopeHash", sha x.envelope), ("approvalReceiptHash", sha x.approval),
    ("issuedAt", .str now), ("expiresAt", .str "2026-07-14T12:05:00.000Z"), ("maxUses", .num 1),
    ("nonce", .str nonce)]

def secondGrant : Json :=
  grant honest "fx.0-00000006" "0000000000000000000000000000000000000000000000000000000000000001"

def firstGrant (x : Signed) : Json :=
  grant x "fx.0-00000005" "af72bcc9c8475b6ef8c3b36418df4f789246f0df431838941e3b658b3f3256c1"

/-- The proof of a request: the receipts in the order the gate makes them. -/
def inOrder : Proof :=
  ⟨envelope honest, decision honest, deferred honest 0 .null,
    approval honest tenantScope 1 (sha honest.deferred)⟩

/-- The proof of a request whose approval opens the chain, with the deferred receipt linked onto
it. -/
def outOfOrder : Proof :=
  ⟨envelope reversed, decision reversed, deferred reversed 1 (sha reversed.approval),
    approval reversed tenantScope 0 .null⟩

def request (artifact : Json) (p : Proof) : Json :=
  .obj [("op", .str "sign-grant"), ("artifact", artifact),
    ("proof", .obj [("holdEnvelope", p.holdEnvelope), ("decisionArtifact", p.decisionArtifact),
      ("deferredReceipt", p.deferredReceipt), ("approvalReceipt", p.approvalReceipt)])]

/-- The request line. -/
def line (artifact : Json) (p : Proof) : List Char := Json.render (request artifact p)

/-- A document and the digests of what is signed in it. -/
def digest (doc : Json) (hex : String) : List Char × String := ((canonicalize doc).getD [], hex)

/-- The digests and the signatures of a request's documents; `envelopeHex` and `decisionHex` are the
digests of the texts that were signed. -/
def digests (x : Signed) (p : Proof) (envelopeHex decisionHex : String) :
    List (List Char × String) :=
  [((receiptHashInput p.deferredReceipt).getD [], x.deferred),
    ((receiptHashInput p.approvalReceipt).getD [], x.approval), digest p.holdEnvelope x.envelope,
    digest (Artifact.withoutSig p.holdEnvelope) envelopeHex,
    digest (Artifact.withoutSig p.decisionArtifact) decisionHex]

def signatures (x : Signed) (envelopeHex decisionHex : String) : List (String × String × String) :=
  [(gateKey, "NOA-Receipt-v0.1-sig:" ++ x.deferred, x.deferredSig),
    (approverKey, "NOA-Receipt-v0.1-sig:" ++ x.approval, x.approvalSig),
    (gateKey, "NOA-Hold-v0.1-sig:" ++ envelopeHex, x.envelopeSig),
    (approverKey, "NOA-Decision-v0.1-sig:" ++ decisionHex, x.decisionSig)]

/-- The patterns of the published schemas, on the texts of the documents above. -/
def regexTest (pattern text : String) : Option Bool :=
  let upTo (n : Nat) : Bool := text ≠ "" && text.length ≤ n && !(Text.chars text).contains '\n'
  [("^sha256:[0-9a-f]\x7b64\x7d$", Scan.isSha256Hash text),
    ("^(sha256|hmac-sha256):[0-9a-f]\x7b64\x7d$", Scan.isParamsHash text),
    ("^[0-9a-f]\x7b64\x7d$", Scan.isHex64 text), ("^.\x7b1,128\x7d$", upTo 128),
    ("^.\x7b1,256\x7d$", upTo 256), ("^.\x7b1,512\x7d$", upTo 512),
    (rfc3339, Scan.isRfc3339Instant text)].lookup pattern

/-- The signer's configuration. -/
def deps : Deps where
  identity := ⟨"grant-signer-example-1", "private", "MCowBQYDK2VwAyEAJfg+wj2850Hjr1HIwsyjlqR74ZJMuUZ5cX2qDcUxUtY="⟩
  trust := {
    tenant := "tenant-example-1"
    keyring := [(gateKid, ⟨gateKey, .GATE, ["hold-signer", "execution-signer"],
        some "2026-07-14T11:00:00.000Z", none⟩),
      (approverKid, ⟨approverKey, .APPROVER, ["approve-critical"],
        some "2026-07-14T11:00:00.000Z", none⟩)]
    receiptKeyring := .obj [("spec", .str "noa.signing-key-lifecycle/0.1"),
      ("keys", .obj [(gateKid, lifecycleKey gateKey), (approverKid, lifecycleKey approverKey)])] }
  schemas := [("noa.hold/0.1", holdSchema), ("noa.decision/0.1", decisionSchema),
    ("noa.execution-grant/0.1", grantSchema)]
  maxApprovalAgeMs := 900000
  maxGrantTtlMs := 300000

/-- The instant of `now`. -/
def nowMs : Int := 1784030400000

/-- The platform on the given digests and signatures, and on the signatures `made` by the signer:
digest of the signed text and signature. -/
def platform (digests : List (List Char × String)) (signatures : List (String × String × String))
    (made : List (String × String)) : Platform where
  toIntrinsics := .ofTables digests signatures [(now, nowMs),
    ("2026-07-14T12:05:00.000Z", 1784030700000), ("2026-07-14T12:15:00.000Z", 1784031300000)]
  regexTest
  stackDepth := 100
  isStrictEd25519PublicKey key := key = gateKey || key = approverKey
  toISOString ms := if ms = nowMs then some now else none
  signEd25519 _ message :=
    (made.map fun m => ("NOA-ExecGrant-v0.1-sig:" ++ m.1, m.2)).lookup message

def honestPlatform : Platform :=
  platform
    (digests honest inOrder "b66a490f429a3f6c243d28463546b23e91c97741edf5436b0af28930bc1f4d37"
      "2661255f85dadff7b7e26d536a2bd23cf909035b7b492c9755e1b58e5eeff3b5" ++
      [digest (firstGrant honest)
        "e031878ae77672c35fcdee79859180242d9fd32647c88995fe9dfb4a94eafa18",
        digest secondGrant "8d342ba67987fa0ee1fa64c442dbdca5211d3ea09113d72850d5ac05c5f4adf5"])
    (signatures honest "b66a490f429a3f6c243d28463546b23e91c97741edf5436b0af28930bc1f4d37"
      "2661255f85dadff7b7e26d536a2bd23cf909035b7b492c9755e1b58e5eeff3b5")
    [("e031878ae77672c35fcdee79859180242d9fd32647c88995fe9dfb4a94eafa18",
      "bO3eTy6oJjYWLly51HLrskQHeBR9PobImeuNhcPgRfAfex3Yzhw2a/jA8EXXQ3q9izLmXAumU3AgFd4hRGq7Dw=="),
      ("8d342ba67987fa0ee1fa64c442dbdca5211d3ea09113d72850d5ac05c5f4adf5",
      "GK7dKCoenJdqKSsIvypAxND+2NEztEciNJs0HhRbRLsAomesjPnwJe0qFiQGrQ718KCHfpdyuqni5RZwxlnSCg==")]

def reversedPlatform : Platform :=
  platform
    (digests reversed outOfOrder "d6af7ed0eb4d8d248dc3b440f92e7e6790f5993c63735241c8143ea555446952"
      "b0ffb2e3d8be27bbc4798c7d9ccb8c2ee4d4243bebc55e8b950373b86c9b31e5" ++
      [digest (firstGrant reversed)
        "2722f4f73daaa2e0c7948d6ca3ea845adfb8858200b8291e326c3692ddc4f6ad"])
    (signatures reversed "d6af7ed0eb4d8d248dc3b440f92e7e6790f5993c63735241c8143ea555446952"
      "b0ffb2e3d8be27bbc4798c7d9ccb8c2ee4d4243bebc55e8b950373b86c9b31e5")
    [("2722f4f73daaa2e0c7948d6ca3ea845adfb8858200b8291e326c3692ddc4f6ad",
      "GLCve4fHWcl51HgSZL7wHE/Psc3Z400bsXYcrvhnO9nPXq1+8qd3C67gerRJEE9ZA5WzJQ6EruL9MgMgugqfBg==")]

/-- A document with the signer's signature. -/
def signed (doc : Json) (value : String) : Json :=
  match doc with
  | .obj ms => .obj (ms ++ [("sig", sig "grant-signer-example-1" value)])
  | v => v

def honestSigned : Json :=
  signed (firstGrant honest)
    "bO3eTy6oJjYWLly51HLrskQHeBR9PobImeuNhcPgRfAfex3Yzhw2a/jA8EXXQ3q9izLmXAumU3AgFd4hRGq7Dw=="

def reversedSigned : Json :=
  signed (firstGrant reversed)
    "GLCve4fHWcl51HgSZL7wHE/Psc3Z400bsXYcrvhnO9nPXq1+8qd3C67gerRJEE9ZA5WzJQ6EruL9MgMgugqfBg=="

lemma requestProof_line {artifact : Json} {p : Proof}
    (hparse : parseDocument (line artifact p) "request" = .ok (request artifact p))
    (hproof : [p.holdEnvelope, p.decisionArtifact, p.deferredReceipt, p.approvalReceipt].all
      Json.isObj = true) : requestProof (line artifact p) = some p := by
  simp only [List.all_cons, List.all_nil, Bool.and_true, Bool.and_eq_true] at hproof
  obtain ⟨henv, hdec, hdef, happ⟩ := hproof
  have hread : ∀ (k : String) (v : Json) (ms : List (String × Json)), ms.lookup k = some v →
      v.isObj = true → record? (.obj ms) k = some v := fun k v ms hk hv => by
    rw [record?, Json.get?_obj, hk, Option.filter_some, if_pos hv]
  rw [requestProof, hparse]
  simp only [Except.toOption, Option.bind_eq_bind, Option.bind_some, request]
  rw [hread "proof" _ _ rfl rfl, Option.bind_some, readProof, hread _ _ _ rfl henv,
    hread _ _ _ rfl hdec, hread _ _ _ rfl hdef, hread _ _ _ rfl happ]
  rfl

lemma prepare_line {P : Platform} {now : Int} {artifact : Json} {p : Proof}
    (hparse : parseDocument (line artifact p) "request" = .ok (request artifact p)) :
    prepare P deps now (line artifact p) =
      prepareSigned P deps now (request artifact p) .signGrant := by
  rw [prepare, hparse]
  rfl

lemma parse_honest : parseDocument (line (firstGrant honest) inOrder) "request" =
    .ok (request (firstGrant honest) inOrder) :=
  parseDocument_of_textBound (by decide +kernel) _

lemma prepare_honest : prepare honestPlatform deps nowMs (line (firstGrant honest) inOrder) =
    .ok ⟨honestSigned, some ("sha256:" ++ honest.approval, nowMs)⟩ := by
  rw [prepare_line parse_honest]
  decide +kernel

end SampleRequest

end Signer

open Signer SampleRequest in
/-- The request the gate makes is answered with a grant, which the documents back. -/
theorem signed_grant_backed_in_order :
    (handleGrantSignerRequest honestPlatform deps nowMs nowMs none ⟨[], none⟩
        (line (firstGrant honest) inOrder)).1 = .artifact honestSigned ∧
      requestProof (line (firstGrant honest) inOrder) = some inOrder ∧
      ∃ kid entry, GrantBackedBy honestPlatform deps nowMs honestSigned inOrder kid entry := by
  have hproof : requestProof (line (firstGrant honest) inOrder) = some inOrder :=
    requestProof_line parse_honest (by decide +kernel)
  have hanswer : (handleGrantSignerRequest honestPlatform deps nowMs nowMs none ⟨[], none⟩
      (line (firstGrant honest) inOrder)).1 = .artifact honestSigned := by
    rw [handleGrantSignerRequest, prepare_honest]
    rfl
  have hinj : Function.Injective honestPlatform.sha256Hex :=
    tableDigest_injective (by decide +kernel) (by decide +kernel)
  obtain ⟨-, p, hp, hiff⟩ := signed_grant_backed_iff honestPlatform deps hinj (by decide +kernel)
    (by decide +kernel) (by decide +kernel) nowMs nowMs none ⟨[], none⟩ _ _ hanswer
    (by decide +kernel)
  obtain rfl := Option.mem_unique hproof hp
  exact ⟨hanswer, hproof, hiff.mpr (by decide +kernel)⟩

open Signer SampleRequest in
/-- A request whose approval opens the chain, with the deferred receipt linked onto it, is answered
with a grant too. -/
theorem signed_grant_before_deferral : Function.Injective reversedPlatform.sha256Hex ∧
    (handleGrantSignerRequest reversedPlatform deps nowMs nowMs none ⟨[], none⟩
        (line (firstGrant reversed) outOfOrder)).1 = .artifact reversedSigned ∧
      reversedSigned.getStr? "spec" = some EXECUTION_GRANT_SPEC ∧
      requestProof (line (firstGrant reversed) outOfOrder) = some outOfOrder ∧
      Receipt.prevHash outOfOrder.approvalReceipt = none ∧
      Receipt.prevHash outOfOrder.deferredReceipt =
        some (Receipt.hash outOfOrder.approvalReceipt) ∧
      ∀ kid entry, ¬ GrantBackedBy reversedPlatform deps nowMs reversedSigned outOfOrder kid entry := by
  have hparse : parseDocument (line (firstGrant reversed) outOfOrder) "request" =
      .ok (request (firstGrant reversed) outOfOrder) :=
    parseDocument_of_textBound (by decide +kernel) _
  have hprepare : prepare reversedPlatform deps nowMs (line (firstGrant reversed) outOfOrder) =
      .ok ⟨reversedSigned, some ("sha256:" ++ reversed.approval, nowMs)⟩ := by
    rw [prepare_line hparse]
    decide +kernel
  have hnone : Receipt.prevHash outOfOrder.approvalReceipt = none := by decide +kernel
  refine ⟨tableDigest_injective (by decide +kernel) (by decide +kernel), ?_, by decide +kernel,
    requestProof_line hparse (by decide +kernel), hnone, by decide +kernel, fun kid entry h => ?_⟩
  · rw [handleGrantSignerRequest, hprepare]
    rfl
  · obtain ⟨hash, -, -, hprev, -⟩ := h.extended
    rw [hnone] at hprev
    cases hprev

end NoaMandate
