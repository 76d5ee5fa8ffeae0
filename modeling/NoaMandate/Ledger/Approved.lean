import NoaMandate.Kernel.Verdict
import NoaMandate.Ledger.Step

/-!
# Every movement was approved

An executed row is traced back to the documents of the commit that wrote it.  `SignedAuthority` is
everything the authority check establishes about them and `Attested` everything the check of the
signed attestation establishes; each is read off its pipeline once.  `ApprovedMovement` is what
follows for the row: who approved which transfer, under which key, until when, and what the gate
signed for it.

The chain verifier orders receipts by sequence number, whatever order they are presented in.  The
executed receipt therefore links onto the approval only when the approval is not the first receipt
of its chain.
-/

namespace NoaMandate

open Pipeline

namespace Owner

variable {E : Env}

/-! ## The receipt chain -/

/-- An accepted list of receipts is a valid chain under the receipt keyring. -/
lemma chainValid_eq_true {rs : List Json} (h : chainValid E rs = true) :
    ∃ ring, parseVerificationKeyring E.toIntrinsics "keyring" E.trust.receiptKeyring = .ok ring ∧
      Verify.ChainValid E.toIntrinsics 1000000 ring none none rs := by
  rw [chainValid, Bool.and_eq_true, decide_eq_true_eq, decide_eq_true_eq] at h
  obtain ⟨rs', ring, manifest, hrs, ⟨k, hk, hparse⟩, hman, hvalid⟩ :=
    (Verify.stages_valid_iff rfl rfl).mp ((Verify.verifyParsedChain_valid_iff_stages _ _ _ _).mp h.2)
  obtain rfl := Json.arr.inj hrs
  cases hk
  cases hman
  exact ⟨ring, hparse, hvalid⟩

/-! ## The signed authority -/

/-- Everything the authority check establishes about the documents of a commit; `kid` is the deciding
approver and `display` the sealed display. -/
structure SignedAuthority (E : Env) (input : EffectCommitInput) (nowIso : String)
    (v : VerifiedAuthority) (keys : Keys) (kid : String) (display : Json) : Prop where
  presentedEnvelope : input.holdEnvelope = some v.envelope
  presentedDeferred : input.deferredReceipt = some v.deferred
  presentedApproval : input.approvalReceipt = some v.approval
  presentedGrant : input.grant = some v.grant
  presentedDecision : input.decisionArtifact = some v.decision
  presentedDisplay : input.encryptedDisplay = some display
  envelopeVerified : E.verifyArtifact v.envelope (verificationContext E nowIso) = true
  tenant : v.envelope.getStr? "tenant" = some E.trust.tenant
  gate : v.envelope.getStr? "gateKid" = some E.trust.gateKid
  mode : v.envelope.getStr? "mode" = some "ENFORCED"
  deferredBound : ∃ hash, receiptRefHash E.toIntrinsics v.deferred = some hash ∧
    v.envelope.getStr? "deferredReceiptHash" = some hash
  chain : chainValid E [v.deferred, v.approval] = true
  allowed : v.approval.strAt? ["governance", "verdict"] = some "ALLOWED"
  action : sameAction v.approval v.deferred = true
  grantVerified : E.verifyArtifact v.grant (verificationContext E nowIso) = true
  envelopeHash : refHash E.toIntrinsics v.envelope = some keys.envelope
  grantEnvelope : v.grant.getStr? "holdEnvelopeHash" = some keys.envelope
  grantHold : v.grant.getStr? "holdId" = some input.holdId
  grantApproval : ∃ hash, receiptRefHash E.toIntrinsics v.approval = some hash ∧
    v.grant.getStr? "approvalReceiptHash" = some hash
  grantParams : v.grant.getStr? "paramsHash" = v.deferred.strAt? ["action", "paramsHash"]
  decisionVerified :
    E.verifyArtifact v.decision (decisionContext E nowIso v.envelope v.deferred v.grant) = true
  approve : v.decision.getStr? "decision" = some "APPROVE"
  decisionKid : v.decision.getStr? "approverKid" = some kid
  approvalKid : v.approval.strAt? ["sig", "kid"] = some kid
  approvalBy : v.approval.strAt? ["governance", "approval", "by"] = some kid
  human : v.approval.strAt? ["agent", "principal"] = some "HUMAN"
  oneKey : ∃ entry, E.trust.keyring.lookup kid = some entry ∧
    E.trust.receiptKeyring.strAt? ["keys", kid, "publicKey"] = some entry.publicKey
  displayBound : ∃ hash, virtualHash E.toIntrinsics display = some hash ∧
    v.envelope.getStr? "displayCiphertextHash" = some hash
  recipient : displayNames display kid = true

lemma snapshotOf_eq_some {value : Option Json} {v : Json} (h : snapshotOf value = some v) :
    value = some v :=
  (Option.filter_eq_some_iff.mp h).1

/-- The four bindings of a grant. -/
lemma checkBindings_eq_ok {grant : Json} {u : Unit} (bs : List (String × Option String)) :
    checkBindings grant bs = .ok u → ∀ b ∈ bs, grant.getStr? b.1 = b.2 := by
  refine forall_of_checks (fun b bs h => ?_) bs
  simp only [checkBindings, ok_iff, test_iff] at h
  obtain ⟨_, ⟨_, hfield⟩, hrest⟩ := h
  exact ⟨hfield, hrest⟩

section readings

/-! Each check, read as what it establishes. -/

variable {input : EffectCommitInput} {nowIso kid : String} {env deferred approval grant decision : Json}

lemma checkEnvelope_eq_ok (h : checkEnvelope E input nowIso = .ok env) :
    input.holdEnvelope = some env ∧ E.verifyArtifact env (verificationContext E nowIso) = true ∧
      env.getStr? "tenant" = some E.trust.tenant ∧ env.getStr? "gateKid" = some E.trust.gateKid := by
  simp only [checkEnvelope, ok_iff, test_iff] at h
  obtain ⟨_, hsnap, _, hverified, _, ⟨htenant, hgate⟩, _, _, _, _, rfl⟩ := h
  exact ⟨snapshotOf_eq_some hsnap, hverified, htenant, hgate⟩

lemma checkDeferred_eq_ok (h : checkDeferred E input env = .ok deferred) :
    input.deferredReceipt = some deferred ∧
      (∃ hash, receiptRefHash E.toIntrinsics deferred = some hash ∧
        env.getStr? "deferredReceiptHash" = some hash) ∧
      env.getStr? "mode" = some "ENFORCED" := by
  simp only [checkDeferred, ok_iff, test_iff] at h
  obtain ⟨_, hsnap, hash, hhash, _, ⟨hbound, _⟩, _, ⟨⟨hmode, _⟩, _⟩, rfl⟩ := h
  exact ⟨snapshotOf_eq_some hsnap, ⟨hash, hhash, hbound⟩, hmode⟩

lemma checkApproval_eq_ok (h : checkApproval E input deferred = .ok approval) :
    input.approvalReceipt = some approval ∧ chainValid E [deferred, approval] = true ∧
      approval.strAt? ["governance", "verdict"] = some "ALLOWED" ∧
      sameAction approval deferred = true := by
  simp only [checkApproval, ok_iff, test_iff] at h
  obtain ⟨_, hsnap, _, hchain, _, hverdict, _, haction, rfl⟩ := h
  exact ⟨snapshotOf_eq_some hsnap, hchain, hverdict, haction⟩

lemma checkGrant_eq_ok {envelopeHash : String}
    (h : checkGrant E input nowIso env deferred approval = .ok (grant, envelopeHash)) :
    input.grant = some grant ∧ E.verifyArtifact grant (verificationContext E nowIso) = true ∧
      refHash E.toIntrinsics env = some envelopeHash ∧
      grant.getStr? "holdEnvelopeHash" = some envelopeHash ∧
      grant.getStr? "holdId" = some input.holdId ∧
      (∃ hash, receiptRefHash E.toIntrinsics approval = some hash ∧
        grant.getStr? "approvalReceiptHash" = some hash) ∧
      grant.getStr? "paramsHash" = deferred.strAt? ["action", "paramsHash"] := by
  simp only [checkGrant, ok_iff, Bool.not_eq_false', Prod.mk.injEq] at h
  obtain ⟨_, hsnap, _, hverified, _, henv, hash, hhash, _, hbindings, rfl, rfl⟩ := h
  have hb := checkBindings_eq_ok _ hbindings
  simp only [List.forall_mem_cons, List.not_mem_nil, false_implies, implies_true, and_true] at hb
  exact ⟨snapshotOf_eq_some hsnap, hverified, henv, hb.2.1, hb.1, ⟨hash, hhash, hb.2.2.1⟩, hb.2.2.2⟩

lemma checkDecision_eq_ok (h : checkDecision E input nowIso env deferred grant = .ok decision) :
    input.decisionArtifact = some decision ∧
      E.verifyArtifact decision (decisionContext E nowIso env deferred grant) = true ∧
      decision.getStr? "decision" = some "APPROVE" := by
  simp only [checkDecision, ok_iff, test_iff] at h
  obtain ⟨_, hsnap, _, hverified, _, happrove, rfl⟩ := h
  exact ⟨snapshotOf_eq_some hsnap, hverified, happrove⟩

lemma checkApprover_eq_ok (h : checkApprover E approval decision = .ok kid) :
    decision.getStr? "approverKid" = some kid ∧ approval.strAt? ["sig", "kid"] = some kid ∧
      approval.strAt? ["governance", "approval", "by"] = some kid ∧
      approval.strAt? ["agent", "principal"] = some "HUMAN" ∧
      ∃ entry, E.trust.keyring.lookup kid = some entry ∧
        E.trust.receiptKeyring.strAt? ["keys", kid, "publicKey"] = some entry.publicKey := by
  simp only [checkApprover, ok_iff, test_iff, Option.map_eq_some_iff] at h
  obtain ⟨_, hkid, _, ⟨⟨hsig, hby⟩, hhuman⟩, _, ⟨entry, hentry, rfl⟩, _, hring, rfl⟩ := h
  exact ⟨hkid, hsig, hby, hhuman, entry, hentry, hring⟩

lemma checkDisplay_eq_ok {u : Unit} (h : checkDisplay E input env kid = .ok u) :
    ∃ display, input.encryptedDisplay = some display ∧
      (∃ hash, virtualHash E.toIntrinsics display = some hash ∧
        env.getStr? "displayCiphertextHash" = some hash) ∧
      displayNames display kid = true := by
  simp only [checkDisplay, ok_iff, test_iff] at h
  obtain ⟨display, hsnap, hash, hhash, _, hbound, hnames⟩ := h
  exact ⟨display, snapshotOf_eq_some hsnap, ⟨hash, hhash, hbound⟩, hnames⟩

end readings

/-- The authority check, read as what it establishes. -/
theorem verifySignedAuthority_eq_ok {input : EffectCommitInput} {nowIso : String}
    {v : VerifiedAuthority} {keys : Keys}
    (h : verifySignedAuthority E input nowIso = .ok (v, keys)) :
    ∃ kid display, SignedAuthority E input nowIso v keys kid display := by
  simp only [verifySignedAuthority, ok_iff, Prod.mk.injEq] at h
  obtain ⟨env, henv, deferred, hdeferred, approval, happroval, ⟨grant, envelopeHash⟩, hgrant,
    decision, hdecision, kid, hkid, _, hdisplay, _, _, rfl, rfl⟩ := h
  obtain ⟨presentedEnvelope, envelopeVerified, tenant, gate⟩ := checkEnvelope_eq_ok henv
  obtain ⟨presentedDeferred, deferredBound, mode⟩ := checkDeferred_eq_ok hdeferred
  obtain ⟨presentedApproval, chain, allowed, action⟩ := checkApproval_eq_ok happroval
  obtain ⟨presentedGrant, grantVerified, envelopeHash, grantEnvelope, grantHold, grantApproval,
    grantParams⟩ := checkGrant_eq_ok hgrant
  obtain ⟨presentedDecision, decisionVerified, approve⟩ := checkDecision_eq_ok hdecision
  obtain ⟨decisionKid, approvalKid, approvalBy, human, oneKey⟩ := checkApprover_eq_ok hkid
  obtain ⟨display, presentedDisplay, displayBound, recipient⟩ := checkDisplay_eq_ok hdisplay
  exact ⟨kid, display, ⟨presentedEnvelope, presentedDeferred, presentedApproval, presentedGrant,
    presentedDecision, presentedDisplay, envelopeVerified, tenant, gate, mode, deferredBound, chain,
    allowed, action, grantVerified, envelopeHash, grantEnvelope, grantHold, grantApproval,
    grantParams, decisionVerified, approve, decisionKid, approvalKid, approvalBy, human, oneKey,
    displayBound, recipient⟩⟩

/-! ## What was signed -/

/-- Everything the check of the attestation establishes. -/
structure Attested (E : Env) (v : VerifiedAuthority) (nowIso : String) (att : EffectAttestation) :
    Prop where
  time : att.executedReceipt.getStr? "ts" = some nowIso
  chain : chainValid E [v.deferred, v.approval, att.executedReceipt] = true
  signer : att.executedReceipt.strAt? ["sig", "kid"] = some E.trust.gateKid
  verdict : att.executedReceipt.strAt? ["governance", "verdict"] = some "EXECUTED"
  action : sameAction att.executedReceipt v.deferred = true
  scope : sameScope att.executedReceipt v.deferred = true
  consumption : E.verifyArtifact att.executionConsumption (verificationContext E nowIso) = true
  consumedGrant : ∃ hash, refHash E.toIntrinsics v.grant = some hash ∧
    att.executionConsumption.getStr? "grantHash" = some hash
  consumedAttempt : ∃ hash, receiptRefHash E.toIntrinsics att.executedReceipt = some hash ∧
    att.executionConsumption.getStr? "attemptReceiptHash" = some hash

/-- The check of the attestation, read as what it establishes. -/
theorem verifyEffectAttestation_eq_ok {ex cons : Option Json} {v : VerifiedAuthority}
    {nowIso : String} {recorded : String → Bool} {att : EffectAttestation}
    (h : verifyEffectAttestation E ex cons v nowIso recorded = .ok att) :
    Attested E v nowIso att := by
  simp only [verifyEffectAttestation, checkExecuted, checkConsumption, ok_iff, test_iff] at h
  obtain ⟨ex, _, cons, _, _, ⟨_, ⟨htime, _⟩, _, _, _, _, _, hchain, _, hsigner, _, hverdict, _, _, _,
    haction, hscope⟩, _, ⟨_, hcons, grantHash, hgrant, attemptHash, hattempt,
    ⟨hgrant', hattempt'⟩, _⟩, rfl⟩ := h
  exact ⟨htime, hchain, hsigner, hverdict, haction, hscope, hcons, ⟨grantHash, hgrant, hgrant'⟩,
    ⟨attemptHash, hattempt, hattempt'⟩⟩

/-! ## The row and its documents -/

/-- What stands behind an executed row: the documents of the commit that wrote it. -/
structure ApprovedMovement (E : Env) (row : LedgerRow) (call : Call) (input : EffectCommitInput)
    (v : VerifiedAuthority) (display : Json) (p : Transfer.LedgerTransferParams) (kid : String)
    (att : EffectAttestation) : Prop where
  /-- The documents are the ones that were presented. -/
  presented : call.input = some input ∧ input.holdEnvelope = some v.envelope ∧
    input.deferredReceipt = some v.deferred ∧ input.approvalReceipt = some v.approval ∧
    input.decisionArtifact = some v.decision ∧ input.grant = some v.grant ∧
    input.encryptedDisplay = some display
  /-- The row is the transfer `p`. -/
  transfer : row.ledger = p.ledger ∧ row.fromAccount = p.fromAccount ∧
    row.toAccount = p.toAccount ∧ row.amount = p.amount ∧ row.unit = p.unit.text
  /-- The hash of `p` is in the deferred receipt, the approval receipt and the grant. -/
  paramsHash : v.deferred.strAt? ["action", "paramsHash"] = some (E.sha256Prefixed p.text) ∧
    v.approval.strAt? ["action", "paramsHash"] = some (E.sha256Prefixed p.text) ∧
    v.grant.getStr? "paramsHash" = some (E.sha256Prefixed p.text)
  /-- No other transfer has that hash. -/
  onlyTransfer : ∀ q : Transfer.LedgerTransferParams,
    E.sha256Prefixed q.text = E.sha256Prefixed p.text → q = p
  /-- The approval allows, in the name of a human, the approver `kid`. -/
  allowed : v.approval.strAt? ["governance", "verdict"] = some "ALLOWED" ∧
    v.approval.strAt? ["agent", "principal"] = some "HUMAN" ∧
    v.approval.strAt? ["governance", "approval", "by"] = some kid ∧
    v.approval.strAt? ["sig", "kid"] = some kid
  /-- Both keyrings give `kid` one key, and the approval is signed with it. -/
  approvalSigned : ∃ entry text, E.trust.keyring.lookup kid = some entry ∧
    receiptHashInput v.approval = some text ∧
    E.verifyEd25519 entry.publicKey (E.signingMessage Verify.RECEIPT_SIG_DOMAIN text)
      (Receipt.sigValue v.approval) = true
  /-- The grant verifies and is bound to the envelope the row records. -/
  grant : E.verifyArtifact v.grant (verificationContext E row.committedAt) = true ∧
    v.grant.getStr? "holdEnvelopeHash" = some row.holdEnvelopeHash
  /-- That envelope verifies, is this tenant's, and binds the deferred receipt. -/
  envelope : E.verifyArtifact v.envelope (verificationContext E row.committedAt) = true ∧
    refHash E.toIntrinsics v.envelope = some row.holdEnvelopeHash ∧
    v.envelope.getStr? "tenant" = some E.trust.tenant ∧
    ∃ hash, receiptRefHash E.toIntrinsics v.deferred = some hash ∧
      v.envelope.getStr? "deferredReceiptHash" = some hash
  /-- The decision of the same approver approves; it verifies in the context that demands the tier of
  the deferred risk class and the binding to that envelope and tenant. -/
  decision : v.decision.getStr? "decision" = some "APPROVE" ∧
    v.decision.getStr? "approverKid" = some kid ∧
    E.verifyArtifact v.decision
      (decisionContext E row.committedAt v.envelope v.deferred v.grant) = true
  /-- The approver is a recipient of the display the envelope binds. -/
  recipient : displayNames display kid = true ∧
    ∃ hash, virtualHash E.toIntrinsics display = some hash ∧
      v.envelope.getStr? "displayCiphertextHash" = some hash
  /-- The commit was made before both expiries. -/
  inTime : E.toISOString call.clock = some row.committedAt ∧
    ∀ doc ∈ [v.grant, v.envelope], ∃ text expiry, doc.getStr? "expiresAt" = some text ∧
      E.dateParse text = some expiry ∧ call.clock < expiry
  recorded : row.attestation = some att
  /-- The executed receipt is signed by the gate. -/
  executedSigned : att.executedReceipt.strAt? ["sig", "kid"] = some E.trust.gateKid ∧
    att.executedReceipt.strAt? ["governance", "verdict"] = some "EXECUTED" ∧
    ∃ ring, parseVerificationKeyring E.toIntrinsics "keyring" E.trust.receiptKeyring = .ok ring ∧
      Verify.Authentic E.toIntrinsics ring Verify.RECEIPT_SIG_DOMAIN
        (Receipt.kid att.executedReceipt) (receiptHashInput att.executedReceipt)
        (Receipt.sigValue att.executedReceipt)
  /-- It repeats the five action members of the approval. -/
  executedAction : ∀ f ∈ ACTION_FIELDS,
    att.executedReceipt.path? ["action", f] = v.approval.path? ["action", f]
  /-- It repeats the approval's chain and the deferred receipt's tenant, and no receipt of the three
  names another tenant. -/
  executedScope : Receipt.chainId att.executedReceipt = Receipt.chainId v.approval ∧
    Receipt.tenant att.executedReceipt = Receipt.tenant v.deferred ∧
    ∀ t t', Receipt.tenant att.executedReceipt = some t → Receipt.tenant v.approval = some t' → t = t'
  /-- It links onto the approval, unless the approval opens the chain. -/
  executedLinks : Receipt.seq v.approval ≠ 0 →
    Receipt.prevHash att.executedReceipt = some (Receipt.hash v.approval)

/-- In a chain of three that extends a chain of two, the third links onto the second, unless the
second opens the chain. -/
lemma prevHash_of_extends {I : Intrinsics} {bound bound' : Nat} {ring ring' : ParsedVerificationKeyring}
    {d a ex : Json} (h2 : Verify.ChainValid I bound ring none none [d, a])
    (h3 : Verify.ChainValid I bound' ring' none none [d, a, ex]) (hseq : Receipt.seq a ≠ 0) :
    Receipt.prevHash ex = some (Receipt.hash a) := by
  have htwo : [Receipt.seq d, Receipt.seq a].Perm [0, 1] := h2.contiguous
  have hthree : [Receipt.seq d, Receipt.seq a, Receipt.seq ex].Perm [0, 1, 2] := h3.contiguous
  have ha : Receipt.seq a ∈ [(0 : Int), 1] := htwo.mem_iff.mp (by simp)
  have hex : Receipt.seq ex ∈ [(0 : Int), 1, 2] := hthree.mem_iff.mp (by simp)
  have hd : Receipt.seq d ∈ [(0 : Int), 1] := htwo.mem_iff.mp (by simp)
  have hnd : [Receipt.seq d, Receipt.seq a, Receipt.seq ex].Nodup :=
    hthree.nodup_iff.mpr (by decide)
  simp only [List.nodup_cons, mem_iff, not_or] at ha hex hd hnd
  exact h3.linked a (by simp) ex (by simp) (by omega)

lemma sameAction_eq {r r' : Json} (h : sameAction r r' = true) :
    ∀ f ∈ ACTION_FIELDS, r.path? ["action", f] = r'.path? ["action", f] := by
  intro f hf
  have hfield := List.all_eq_true.mp h f hf
  exact Json.eq_of_same (Bool.and_eq_true_iff.mp hfield).2

lemma strAt?_of_path?_eq {r r' : Json} {path : List String} (h : r.path? path = r'.path? path) :
    r.strAt? path = r'.strAt? path := by
  rw [Json.strAt?, Json.strAt?, h]

/-- `sha256:` and the digest determine the transfer. -/
lemma transfer_eq_of_hash_eq (hinj : Function.Injective E.sha256Hex)
    {p q : Transfer.LedgerTransferParams}
    (h : E.sha256Prefixed q.text = E.sha256Prefixed p.text) : q = p :=
  Transfer.text_injective (hinj ((String.append_right_inj "sha256:").mp h))

lemma lt_of_beforeBoth {instant : Int} {a b : Option Int} (h : beforeBoth instant a b = true) :
    ∃ x y, a = some x ∧ b = some y ∧ instant < x ∧ instant < y := by
  unfold beforeBoth at h
  split at h
  · rename_i x y
    exact ⟨x, y, rfl, rfl, lt_min_iff.mp (of_decide_eq_true h)⟩
  · cases h

/-- An expiry that was read from a document was there. -/
lemma expiresAt_of_dateParse (hdate : E.dateParse "" = none) {doc : Json} {x : Int}
    (h : E.dateParse ((doc.getStr? "expiresAt").getD "") = some x) :
    ∃ text, doc.getStr? "expiresAt" = some text ∧ E.dateParse text = some x := by
  cases hdoc : doc.getStr? "expiresAt" with
  | none =>
    rw [hdoc, Option.getD_none, hdate] at h
    cases h
  | some text => exact ⟨text, rfl, by rwa [hdoc] at h⟩

/-- The input an authority came from, and the signed documents in it. -/
lemma verifyEffectAuthority_eq_ok {input : Option EffectCommitInput} {nowIso : String}
    {authority : VerifiedEffectAuthority}
    (h : verifyEffectAuthority E input nowIso = .ok authority) : input = some authority.input ∧
      verifySignedAuthority E authority.input nowIso = .ok (authority.verified, authority.keys) := by
  simp only [verifyEffectAuthority, ok_iff] at h
  obtain ⟨snap, hsnap, _, _, ⟨verified, keys⟩, hsigned, _, _, rfl⟩ := h
  exact ⟨hsnap, hsigned⟩

/-- The row an executing commit writes has an approved movement behind it. -/
theorem approved_of_executed (hinj : Function.Injective E.sha256Hex) (hdate : E.dateParse "" = none)
    {call : Call} {atIso effectId : String} {authority : VerifiedEffectAuthority} {c : LedgerCommit}
    {ex cons : Option Json} {recorded : String → Bool} {att : EffectAttestation} {sequence : Nat}
    (instant : E.toISOString call.clock = some atIso)
    (authorized : verifyEffectAuthority E call.input atIso = .ok authority)
    (derived : deriveLedgerCommit E authority call.clock = .ok c)
    (attested : verifyEffectAttestation E ex cons authority.verified atIso recorded = .ok att) :
    ∃ input v display p kid, ApprovedMovement E
      (rowOf c effectId sequence atIso .EXECUTED none (some att)) call input v display p kid att := by
  obtain ⟨hinput, hsigned⟩ := verifyEffectAuthority_eq_ok authorized
  obtain ⟨kid, display, hauth⟩ := verifySignedAuthority_eq_ok hsigned
  obtain ⟨p, hexpiry, _, hparams, _, rfl⟩ := deriveLedgerCommit_eq_ok derived
  have hatt := verifyEffectAttestation_eq_ok attested
  obtain ⟨ring, hring, hchain⟩ := chainValid_eq_true hauth.chain
  obtain ⟨ring', hring', hchain'⟩ := chainValid_eq_true hatt.chain
  have hdeferred := hauth.grantParams.symm.trans hparams
  have happroval := sameAction_eq hauth.action
  refine ⟨authority.input, authority.verified, display, p, kid, ?_⟩
  constructor
  case presented =>
    exact ⟨hinput, hauth.presentedEnvelope, hauth.presentedDeferred, hauth.presentedApproval,
      hauth.presentedDecision, hauth.presentedGrant, hauth.presentedDisplay⟩
  case transfer => exact ⟨rfl, rfl, rfl, rfl, rfl⟩
  case paramsHash =>
    refine ⟨hdeferred, ?_, hparams⟩
    rw [strAt?_of_path?_eq (happroval "paramsHash" (by decide))]
    exact hdeferred
  case onlyTransfer => exact fun q hq => transfer_eq_of_hash_eq hinj hq
  case allowed => exact ⟨hauth.allowed, hauth.human, hauth.approvalBy, hauth.approvalKid⟩
  case approvalSigned =>
    obtain ⟨entry, hentry, hpub⟩ := hauth.oneKey
    obtain ⟨pub, text, hlookup, htext, hverify, _⟩ :=
      hchain.authentic authority.verified.approval (by simp)
    have hkid : Receipt.kid authority.verified.approval = kid := by
      rw [Receipt.kid, Json.strAt, hauth.approvalKid, Option.getD_some]
    rw [hkid, parseVerificationKeyring_lookup hring hpub] at hlookup
    cases hlookup
    exact ⟨entry, text, hentry, htext, hverify⟩
  case grant => exact ⟨hauth.grantVerified, hauth.grantEnvelope⟩
  case envelope =>
    exact ⟨hauth.envelopeVerified, hauth.envelopeHash, hauth.tenant, hauth.deferredBound⟩
  case decision => exact ⟨hauth.approve, hauth.decisionKid, hauth.decisionVerified⟩
  case recipient => exact ⟨hauth.recipient, hauth.displayBound⟩
  case inTime =>
    obtain ⟨x, y, hx, hy, hltx, hlty⟩ := lt_of_beforeBoth hexpiry
    obtain ⟨tx, htx, hpx⟩ := expiresAt_of_dateParse hdate hx
    obtain ⟨ty, hty, hpy⟩ := expiresAt_of_dateParse hdate hy
    refine ⟨instant, fun doc hdoc => ?_⟩
    rcases List.mem_pair.mp hdoc with rfl | rfl
    · exact ⟨tx, x, htx, hpx, hltx⟩
    · exact ⟨ty, y, hty, hpy, hlty⟩
  case recorded => rfl
  case executedSigned =>
    exact ⟨hatt.signer, hatt.verdict, ring', hring', hchain'.authentic _ (by simp)⟩
  case executedAction =>
    intro f hf
    exact (sameAction_eq hatt.action f hf).trans (happroval f hf).symm
  case executedScope =>
    have hscope := hatt.scope
    simp only [sameScope, test_iff] at hscope
    refine ⟨hchain'.oneChain _ (by simp) _ (by simp), hscope.1.1, ?_⟩
    exact fun t t' => hchain'.oneTenant _ (by simp) _ (by simp) t t'
  case executedLinks => exact prevHash_of_extends hchain hchain'

/-- Every commit keeps: each executed row has an approved movement behind it, made by one of the
calls. -/
lemma step_approved (hinj : Function.Injective E.sha256Hex) (hdate : E.dateParse "" = none)
    {calls : List Call} {call : Call} (hcall : call ∈ calls) {s s' : State}
    (h : ∀ row ∈ s.rows, row.outcome = .EXECUTED → ∃ c ∈ calls, ∃ input v display p kid att,
      ApprovedMovement E row c input v display p kid att) (hstep : Step E call s s') :
    ∀ row ∈ s'.rows, row.outcome = .EXECUTED → ∃ c ∈ calls, ∃ input v display p kid att,
      ApprovedMovement E row c input v display p kid att := by
  cases hstep with
  | unchanged => exact h
  | refused _ _ _ _ =>
    intro row hrow hout
    rcases List.mem_append.mp hrow with hrow | hrow
    · exact h row hrow hout
    · obtain rfl := List.mem_singleton.mp hrow
      cases hout
  | executed instant authorized _ derived _ _ _ attested =>
    intro row hrow hout
    rcases List.mem_append.mp hrow with hrow | hrow
    · exact h row hrow hout
    · obtain rfl := List.mem_singleton.mp hrow
      obtain ⟨input, v, display, p, kid, hmove⟩ :=
        approved_of_executed hinj hdate instant authorized derived attested
      exact ⟨call, hcall, input, v, display, p, kid, _, hmove⟩

end Owner

namespace Owner

namespace SampleCommit

/-- The digests and signatures of the documents of one commit. -/
structure Signed where
  deferred : String
  deferredSig : String
  approval : String
  approvalSig : String
  envelope : String
  envelopeSig : String
  decision : String
  decisionSig : String
  grant : String
  grantSig : String
  executed : String
  executedSig : String
  consumptionSig : String

/-- The documents of a commit the way the gate makes them. -/
def honest : Signed where
  deferred := "78596395e389d672ecd244a689a47d3054cd5a6768ef7d7bd08185f0570daa3e"
  deferredSig :=
    "i5FqNfM/1p7x9VRF8FAYFyYdFoDstrqablDOGuiEEi/w3P6dJlzuSX6GCIFbZAh/Kvy2Oul+x7kOf3x6k8xQCQ=="
  approval := "5d554c9cb3d2afbd0194adb93c3a134776a38eb92eca4f1cd816553a764cf456"
  approvalSig :=
    "0oYy5T06qZFD2tX6ABFnzqhhxOA4gX6ZOEXpkF6tifQa84w0uNIMujMivX9WgwrNZpW9Iqd5YNr4TILQlh+vCA=="
  envelope := "bfa5b204ef91df156d0e6fc3cc5dfcf72f8ca62042f2ea3e24d846265b80b795"
  envelopeSig :=
    "5s6kq0H7p3j+2mdMgVO77mZ27VZ0EilQ+oBVqASS9WE8DKbSCwtOi+AcXxWhUY9jVjsHPOXymK/xsPPXvIGlAQ=="
  decision := "d43230512dfe710f87dade951755d39b30aaa4e074dab99fd6c04571ed704c9f"
  decisionSig :=
    "I/Ts0w5k709RuPwTNktCIw5b5CjK4MD5eiCh5/TKteU+gbj2vmq8acnrPn8tWLZDk8lXnyIXMboX7zZVd5sSCQ=="
  grant := "ae8057091bed75c0ab33d9120f6dd3c62093b50b43d0f4f3cfa6126708788d1c"
  grantSig :=
    "wZVKervfcenUNERL7sl5nrGNVVB5cadJJP/infIp9LLtj7IGdxg9uB3sJBbMKpfF1LxMYC3SQNUNTOx0daE0Ag=="
  executed := "007d560f8fa9f61563ef80a462aadbe423065d82712f90b09c52e5cbda6e72ba"
  executedSig :=
    "S4xkEGTvv8YvxiunV/SuSBbrRfMMaxgM2Y3+NU8WGl4SiRBbYATGVrqm1Wu2sGyKQV2gBka80/OKxxcIHnOsDg=="
  consumptionSig :=
    "kpnFJRfSK7deb44ToNgx9by7D0q0T6/vQR//c06Kzc9ULHSfH9toOMiEjbEAoWTvMGY7Kwcal2mMndg7SucKAg=="

/-- The documents of a commit whose approval opens the chain and names no tenant. -/
def swapped : Signed where
  deferred := "1937127e72d0d45efaf807619d6ff23e56c99f326707786b5567a87ff0407cc5"
  deferredSig :=
    "QIpPCE8PaK2in5EcUaZBKiggabZaekqOb1wBjDOlPUDtmAlpdxPBOI+5N/7mZphXTHOqhqMNqU6sJdBWfgwxBg=="
  approval := "a1fcbb397641ecea21124bdedb510d2a25be77ccf1dbf7990d18fd46197d01ee"
  approvalSig :=
    "oSWZejzRhLxZD+cw69EcDsVAN45bLDYLsWsdRgiBiLSgYcsHuETDPakDHUABNzi9uoxv7bhYeDvpKyigDgURCQ=="
  envelope := "f976a107a59f33467ee997c9b970537c91e438e127ee55d86f07e5b405a3e353"
  envelopeSig :=
    "92QPD8kGzcU7lBVNdmER5hRlqkQ5l8TVUqvFaOZERs0xPcLAblE3OwDEK5EEWpu+RrablStlSkimPyuJ15mTCA=="
  decision := "9221ce1530eb8af03466e5cf13d14735846aa595f6507cfa737e33fc96d94d1a"
  decisionSig :=
    "VhQiejKEqncJUwenvs/dQU3u8q57ER6XX/0cfXaehVH5E5pNbr2tSTG4WrI+13BE0i4WxJiJ97/LaeVXJAnvBQ=="
  grant := "81859482cfba5f18f69548019029f7f17fcaf779282cf679a74464b3eb633f8f"
  grantSig :=
    "K/whwUkjiOivXmK3DkVCCmAvg165YRp7WnaBtfHp0ybBIXoAb22L3xY6bxAYByr3HqYNFowj1bhv54dPahZeBg=="
  executed := "64f4e79f0d0f52c2bf1378ece36600072f2f7b12e032c40e4d668eb56854fcf4"
  executedSig :=
    "3BxeURB3F0fLYCebDC6KZlJp1zyZAVN3SbTs94ZHHbs8GW7C2uLVVeDFbj5XGZhWeH2hv+q/olMZVdXb1b+8Ag=="
  consumptionSig :=
    "Lb4bxts1MEAn88jgYpAxCqazMyPzthxRPN6qXrUZJQrmnN5pFHdjwHKNuY6ZQEdsXPWcF7UKOu0bPtTEKQyIAA=="

def gateKid : String := "gate-example-1"

def approverKid : String := "approver-example-1"

def gateKey : String := "MCowBQYDK2VwAyEAsPHdAm3rT5Wyp5Zf8QQeNJlIz1qbhrSCynKpJT74j6s="

def approverKey : String := "MCowBQYDK2VwAyEAVIeMjEXoqCu3hcjm+XL4OEd2umPZQDooLPWLr3plFnI="

def now : String := "2026-07-14T12:00:00.000Z"

def sha (hex : String) : Json := .str ("sha256:" ++ hex)

def params : Transfer.LedgerTransferParams where
  amount := "100"
  fromAccount := "acct-example-1"
  ledger := "ledger-example-1"
  salt := "000102030405060708090a0b0c0d0e0f"
  toAccount := "acct-example-2"
  unit := .XTS
  amount_ok := by decide
  from_ok := by decide
  ledger_ok := by decide
  salt_ok := by decide
  to_ok := by decide
  distinct := by decide

def paramsHex : String := "66320981c8de23d0ac8e82f2ff6007265d84e50f4df520dcc3d8a1a4c8acfe9b"

def displayHex : String := "59f83658f4939b307948bc248f5ed893f25f5a6c691038fd25fafb2a8952f606"

def sig (kid value : String) : Json :=
  .obj [("alg", .str "ed25519"), ("kid", .str kid), ("value", .str value)]

/-- A receipt about the held transfer. -/
def receipt (id : String) (scope : List (String × Json)) (agentId principal verdict : String)
    (ruleId approval : Json) (seq : Int) (prevHash : Json) (hash kid value : String) : Json :=
  .obj [("spec", .str "noa.receipt/0.1"), ("id", .str id), ("ts", .str now), ("scope", .obj scope),
    ("agent", .obj [("id", .str agentId), ("model", .null), ("principal", .str principal)]),
    ("action", .obj [("id", .str "fx.0-00000002"), ("canonical", .str "noa.ledger.transfer"),
      ("riskClass", .str "HIGH"), ("paramsHash", sha paramsHex), ("reversible", .bool false),
      ("rollbackRef", .null)]),
    ("governance", .obj [("mode", .str "approvals_on"), ("verdict", .str verdict),
      ("ruleId", ruleId), ("approval", approval), ("sandboxed", .bool false)]),
    ("chain", .obj [("seq", .num seq), ("prevHash", prevHash), ("hash", sha hash)]),
    ("sig", sig kid value)]

def chainScope : List (String × Json) := [("chain", .str "chain-example-1")]

def tenantScope : List (String × Json) := ("tenant", .str "tenant-example-1") :: chainScope

def deferred (x : Signed) (seq : Int) (prevHash : Json) : Json :=
  receipt "fx.0-00000003" tenantScope "agent-example-1" "SERVICE" "DEFERRED" .null .null seq prevHash
    x.deferred gateKid x.deferredSig

def approval (x : Signed) (scope : List (String × Json)) (seq : Int) (prevHash : Json) : Json :=
  receipt "verdict-fx.0-00000003" scope "approver-human-1" "HUMAN" "ALLOWED" (.str "human-approved")
    (.obj [("by", .str approverKid), ("at", .str now)]) seq prevHash x.approval approverKid
    x.approvalSig

def executed (x : Signed) (prevHash : Json) : Json :=
  receipt "sealed-1" tenantScope "agent-example-1" "SERVICE" "EXECUTED" .null .null 2 prevHash
    x.executed gateKid x.executedSig

def actionSchema : ProjectionIdentity :=
  ⟨"noa.ledger.transfer.schema", 1,
    "sha256:0c7070fe8cf3684b269f8c2127ec372c637be30a194a61d47da4ac08efa02af0"⟩

def displayProjection : ProjectionIdentity :=
  ⟨"noa.ledger.transfer.display", 1,
    "sha256:593498a0106d5e0e9a0e891497c060bc6f00b1b2748d66d9d42bb0316f2c2b1a"⟩

def identity (p : ProjectionIdentity) : Json :=
  .obj [("id", .str p.id), ("version", .num p.version), ("hash", .str p.hash)]

def keyManifestHash : String :=
  "sha256:2222222222222222222222222222222222222222222222222222222222222222"

def envelope (x : Signed) : Json :=
  .obj [("spec", .str "noa.hold/0.1"), ("holdId", .str "fx.0-00000001"),
    ("deferredReceiptId", .str "fx.0-00000003"), ("deferredReceiptHash", sha x.deferred),
    ("mode", .str "ENFORCED"), ("displayCiphertextHash", sha displayHex),
    ("actionSchema", identity actionSchema), ("displayProjection", identity displayProjection),
    ("canonicalization", .str "JCS-RFC8785"), ("keyManifestVersion", .num 2),
    ("keyManifestHash", .str keyManifestHash), ("tenant", .str "tenant-example-1"),
    ("expiresAt", .str "2026-07-14T12:15:00.000Z"), ("nonce", .str "fx.0-00000004"),
    ("gateKid", .str gateKid), ("sig", sig gateKid x.envelopeSig)]

def decision (x : Signed) : Json :=
  .obj [("spec", .str "noa.decision/0.1"), ("holdEnvelopeHash", sha x.envelope),
    ("decision", .str "APPROVE"), ("reasonCode", .str "vendor-verified"),
    ("reasonEncryption", .null), ("decidedAt", .str now), ("approverKid", .str approverKid),
    ("sig", sig approverKid x.decisionSig)]

def grant (x : Signed) : Json :=
  .obj [("spec", .str "noa.execution-grant/0.1"), ("grantId", .str "fx.0-00000005"),
    ("holdId", .str "fx.0-00000001"), ("paramsHash", sha paramsHex),
    ("holdEnvelopeHash", sha x.envelope), ("approvalReceiptHash", sha x.approval),
    ("issuedAt", .str now), ("expiresAt", .str "2026-07-14T12:05:00.000Z"), ("maxUses", .num 1),
    ("nonce", .str "af72bcc9c8475b6ef8c3b36418df4f789246f0df431838941e3b658b3f3256c1"),
    ("sig", sig gateKid x.grantSig)]

def consumption (x : Signed) : Json :=
  .obj [("spec", .str "noa.execution-consumption/0.1"), ("grantHash", sha x.grant),
    ("consumedAt", .str now), ("attemptReceiptHash", sha x.executed), ("result", .str "DISPATCHED"),
    ("sig", sig gateKid x.consumptionSig)]

def recipient (kid : String) : Json :=
  .obj [("kid", .str kid), ("enc", .str "ZW5jYXBzdWxhdGVk"), ("wrappedCek", .str "d3JhcHBlZC1jZWs")]

def display : Json :=
  .obj [("spec", .str "noa.encrypted-display/0.1"), ("tenant", .str "tenant-example-1"),
    ("holdId", .str "fx.0-00000001"), ("deferredReceiptHash", sha honest.deferred),
    ("expiresAt", .str "2026-07-14T12:15:00.000Z"),
    ("suite", .obj [("kem", .num 32), ("kdf", .num 1), ("aead", .num 3)]),
    ("payload", .obj [("nonce", .str "AAAAAAAAAAAAAAAA"),
      ("ciphertext", .str ("eyJBY3Rpb24iOiJub2EubGVkZ2VyLnRyYW5zZmVyIiwiTGVkZ2VyIjoibGVkZ2VyLWV4" ++
        "YW1wbGUtMSIsIkZyb20iOiJhY2N0LWV4YW1wbGUtMSIsIlRvIjoiYWNjdC1leGFtcGxlLTIiLCJBbW91bnQiOiIx" ++
        "MDAgWFRTIiwiU2FsdCI6IjAwMDEwMjAzMDQwNTA2MDcwODA5MGEwYjBjMGQwZTBmIn0="))]),
    ("recipients", .arr [recipient approverKid, recipient "audit-example-1"]),
    ("aadHash", sha "ecf57bde98e9b393fb35fd71f1a7ad0fb8bb4667806915e93aeda545e2a89ab6")]

/-- The three receipts of a commit. -/
structure Receipts where
  deferred : Json
  approval : Json
  executed : Json

def inOrder : Receipts where
  deferred := deferred honest 0 .null
  approval := approval honest tenantScope 1 (sha honest.deferred)
  executed := executed honest (sha honest.approval)

def outOfOrder : Receipts where
  deferred := deferred swapped 1 (sha swapped.approval)
  approval := approval swapped chainScope 0 .null
  executed := executed swapped (sha swapped.deferred)

/-- The digests of the documents. -/
def digests (x : Signed) (r : Receipts) : List (List Char × String) :=
  [((receiptHashInput r.deferred).getD [], x.deferred),
    ((receiptHashInput r.approval).getD [], x.approval),
    ((receiptHashInput r.executed).getD [], x.executed),
    ((canonicalize (envelope x)).getD [], x.envelope),
    ((canonicalize (decision x)).getD [], x.decision), ((canonicalize (grant x)).getD [], x.grant),
    ((canonicalize display).getD [], displayHex), (params.text, paramsHex)]

/-- The signatures of the receipts. -/
def signatures (x : Signed) : List (String × String × String) :=
  [(gateKey, "NOA-Receipt-v0.1-sig:" ++ x.deferred, x.deferredSig),
    (approverKey, "NOA-Receipt-v0.1-sig:" ++ x.approval, x.approvalSig),
    (gateKey, "NOA-Receipt-v0.1-sig:" ++ x.executed, x.executedSig)]

def lifecycleKey (key : String) : Json := .obj [("publicKey", .str key), ("retiredAt", .null)]

/-- The owner's surroundings: the artifact verifier accepts these documents. -/
def env (x : Signed) (r : Receipts) : Env where
  toIntrinsics := .ofTables (digests x r) (signatures x) [(now, 1784030400000),
    ("2026-07-14T12:05:00.000Z", 1784030700000), ("2026-07-14T12:15:00.000Z", 1784031300000)]
  verifyArtifact _ _ := true
  toISOString ms := if ms = 1784030400000 then some now else none
  schemas := []
  trust := {
    tenant := "tenant-example-1", gateKid, keyManifestVersion := 2, keyManifestHash,
    bootId := "fx.0-00000000", uptimeResetAt := now,
    keyring := [(gateKid, ⟨gateKey, .GATE, ["hold-signer", "execution-signer"],
        some "2026-07-14T11:00:00.000Z", none⟩),
      (approverKid, ⟨approverKey, .APPROVER, ["approve-critical"],
        some "2026-07-14T11:00:00.000Z", none⟩)],
    receiptKeyring := .obj [("spec", .str "noa.signing-key-lifecycle/0.1"),
      ("keys", .obj [(gateKid, lifecycleKey gateKey), (approverKid, lifecycleKey approverKey)])],
    pinned := true }
  registered := ⟨"noa.ledger.transfer", actionSchema, displayProjection⟩
  ledger := "ledger-example-1"

/-- The commit, sealed with the given attestation. -/
def request (x : Signed) (r : Receipts) : Request where
  call := {
    clock := 1784030400000, newId := "fx.0-00000006"
    input := some {
      holdId := "fx.0-00000001", holdBootId := "fx.0-00000000",
      canonicalParams := String.ofList params.text, holdEnvelope := some (envelope x),
      deferredReceipt := some r.deferred, encryptedDisplay := some display,
      decisionArtifact := some (decision x), approvalReceipt := some r.approval,
      grant := some (grant x) } }
  sealer _ _ := .done (.returned (some r.executed) (some (consumption x)))

def accounts : Json := .obj [("acct-example-1", .num 1000), ("acct-example-2", .num 0)]

def opening : State := { balances := [("acct-example-1", 1000), ("acct-example-2", 0)] }

end SampleCommit

end Owner

end NoaMandate
