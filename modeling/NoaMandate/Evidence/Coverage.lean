import NoaMandate.Evidence.Attempts
import NoaMandate.Evidence.Enrolment

/-!
# Nothing rides along unexamined

Every member of an accepted bundle was authenticated.  The container admits nineteen names; an
outcome admits the mandatory ones and its own.  Each admitted member is looked at by some step:
receipts in the chain and through their role, the other documents by their signature, a params
preimage beside the settlement evidence it bounds.

Side documents are verified by the kind they name themselves, so for each place in the bundle it has
to be seen that a document of another kind would not have passed.  Most steps read a field that one
kind alone admits (`OnlyKindWithAll`).  Settlement evidence is the exception: the verifier reads none
of its fields, and two kinds are not signed at all, so its kind rests on the reconciler
(`accepted_unsigned_settlement`).
-/

namespace NoaMandate

open Pipeline
open SchemaEval (shown)

namespace Evidence

variable {P : EvidencePlatform} {s : Setup} {tenant : String} {trust : Trust}
  {decision : Option Json} {anchoring : Anchoring} {r r' : Report} {del man env : Json}

/-! ## What is shown -/

/-- The members of every bundle. -/
def mandatoryFields : List String :=
  ["spec", "outcome", "holdEnvelope", "deferredReceipt", "holdResolution", "checkpoint",
    "keyManifest", "keyDelegation"]

/-- The kind of document each signed member is, receipts and the checkpoint apart. -/
def memberSpecs : List (String × String) :=
  [("keyDelegation", "noa.key-delegation/0.1"), ("keyManifest", "noa.key-manifest/0.1"),
    ("holdEnvelope", "noa.hold/0.1"), ("holdResolution", "noa.hold-resolution/0.1"),
    ("decisionArtifact", "noa.decision/0.1"), ("executionGrant", "noa.execution-grant/0.1"),
    ("executionConsumption", "noa.execution-consumption/0.1"),
    ("executionUncertainty", "noa.execution-uncertainty/0.1"),
    ("settlementEvidence", "noa.settlement-evidence/0.1")]

/-- The roles of which the signer of a kind holds one. -/
def signerRoles (spec : String) (m : ArtifactMeta) : Option (List String) :=
  if spec = "noa.decision/0.1" then some ["approve-high", "approve-critical"]
  else m.signerRole.map fun role => [role]

/-- A key of the external root, the key the delegation names, or a key the manifest lists. -/
inductive TrustedKey (root : List (String × KeyEntry)) (del man : Json) (kid : String)
    (entry : KeyEntry) : Prop
  | root (known : root.lookup kid = some entry)
  | delegated (named : del.get? "delegatedKid" = some (.str kid))
      (publicKey : del.get? "delegatedPublicKey" = some (.str entry.publicKey))
      (roles : entry.roles = (elements (del.get? "permissions")).filterMap Json.asStr?)
  | listed (key : Json) (mem : key ∈ elements (man.get? "keys"))
      (reads : manifestKeyEntry key = some (kid, entry))

/-- The document is of the kind and a trusted key signed it, one that is not revoked and has the type
and a role of the kind. -/
def SignedAs (P : EvidencePlatform) (root : List (String × KeyEntry)) (del man : Json)
    (spec : String) (doc : Json) : Prop :=
  ∃ m domain kid entry, doc.getStr? "spec" = some spec ∧ ARTIFACTS.lookup spec = some m ∧
    m.domain = some domain ∧ doc.strAt? ["sig", "kid"] = some kid ∧
    TrustedKey root del man kid entry ∧ entry.revokedAt = none ∧
    SignedUnder P.toIntrinsics entry.publicKey domain doc ∧
    (∀ type, m.signerType = some type → entry.type = type) ∧
    ∀ roles, signerRoles spec m = some roles → ∃ role ∈ roles, role ∈ entry.roles

/-- How a member of the bundle was authenticated. -/
inductive Authenticated (P : EvidencePlatform) (s : Setup) (del man : Json) : String → Json → Prop
  /-- The receipt is in the chain that verified and attests the verdict of its role. -/
  | receipt (role : ReceiptRole) (w : Json) (mem : w ∈ s.receipts)
      (chain : ReceiptsVerify P.toIntrinsics (elements (man.get? "keys")) s.receipts)
      (verdict : w.path? ["governance", "verdict"] = some (.str role.verdict)) :
      Authenticated P s del man role.field w
  | document (k spec : String) (w : Json) (kind : memberSpecs.lookup k = some spec)
      (signed : SignedAs P s.rootKeyring del man spec w) : Authenticated P s del man k w
  /-- A preimage has no signature: it is there only beside settlement evidence that has. -/
  | preimage (w evidence : Json) (beside : s.doc "settlementEvidence" = some evidence)
      (signed : SignedAs P s.rootKeyring del man "noa.settlement-evidence/0.1" evidence) :
      Authenticated P s del man "actionParamsPreimage" w

/-! ## The names the container admits -/

variable {w doc : Json} {k : String}

lemma container_key (hc : Contained P s) (hk : s.doc k = some w) :
    k ∈ mandatoryFields ++ OPTIONAL_ARTIFACT_FIELDS := by
  by_contra hnot
  obtain ⟨props, hprops⟩ : ∃ props, CONTAINER_SCHEMA.get? "properties" = some (.obj props) ∧
      ∀ p ∈ props, p.1 ∈ mandatoryFields ++ OPTIONAL_ARTIFACT_FIELDS := ⟨_, rfl, by decide⟩
  have hlookup : props.lookup k = none :=
    List.lookup_eq_none_iff.mpr fun p hp => bne_iff_ne.mpr fun heq => hnot (heq ▸ hprops.2 p hp)
  have hclosed : SchemaEval.closedNode k CONTAINER_SCHEMA = true := by
    have hnone : CONTAINER_SCHEMA.path? ["properties", k] = none := by
      have hget : (Json.obj props).get? k = none := hlookup
      simp [Json.path?, hprops.1, hget]
    simp only [SchemaEval.closedNode, hnone]
    decide
  refine SchemaEval.evalSchema_ne_nil_of_closedTo ?_ hk hc
  rw [SchemaEval.closedTo, hclosed, Bool.true_or]

variable (h : Passed P s tenant trust decision anchoring) (hc : Contained P s)

include h in
/-- What the outcome's own step forbids is not there. -/
lemma Passed.stepOwnedAbsent (hk : k ∈ STEP_OWNED_ABSENCE s.outcome) : s.doc k = none := by
  have absent : ∀ {failure : StepFailure} {u : Unit}, checkNoExecution s failure = .ok u →
      k ∈ STEP_OWNED_EXECUTION_ABSENCE → s.doc k = none := by
    intro failure u hnone hmem
    rw [checkNoExecution, refuse_eq_ok_iff, List.any_eq_false] at hnone
    simpa using hnone k hmem
  cases hout : s.outcome with
  | CANCELLED_LOCAL_STATE_LOST =>
    rw [hout] at hk
    obtain ⟨r, r', h9⟩ := h.step9
    simp only [step9_cancelled, if_pos hout, Check.ok_iff] at h9
    obtain ⟨_, _, -, _, _, -, _, _, -, hnone, -⟩ := h9
    exact absent hnone hk
  | UNKNOWN_AFTER_DISPATCH =>
    rw [hout] at hk
    obtain ⟨r, r', h12⟩ := h.step12
    simp only [step12_unknown, if_pos hout, Check.ok_iff] at h12
    obtain ⟨_, _, -, _, _, -, _, _, -, _, _, -, _, _, -, _, _, -, _, _, -, _, _, -, _, _, -, hnone,
      -⟩ := h12
    exact absent hnone hk
  | GRANT_EXPIRED_NO_CONSUMPTION_EVIDENCE =>
    rw [hout] at hk
    obtain ⟨r, r', h13⟩ := h.step13
    simp only [step13_grantExpired, if_pos hout, Check.ok_iff] at h13
    obtain ⟨_, _, -, _, _, -, _, _, -, _, _, -, _, _, -, hnone, -⟩ := h13
    exact absent hnone hk
  | APPROVED_NO_EXECUTION_EVIDENCE =>
    rw [hout] at hk
    obtain ⟨r, r', h14⟩ := h.step14
    simp only [step14_approvedNoExec, if_pos hout, Check.ok_iff] at h14
    obtain ⟨_, _, -, _, _, -, _, _, -, hnone, -⟩ := h14
    exact absent hnone hk
  | _ => rw [hout] at hk; exact absurd hk List.not_mem_nil

include h in
/-- An optional member is there only if the outcome admits it. -/
lemma Passed.optional (hfield : k ∈ OPTIONAL_ARTIFACT_FIELDS) (hk : s.doc k = some w) :
    k ∈ OUTCOME_ARTIFACT_UNION s.outcome := by
  rcases h.union hfield (by rw [hk]; rfl) with hin | habsent
  · exact hin
  · rw [h.stepOwnedAbsent habsent] at hk
    cases hk

/-! ## Receipts -/

variable {S : StepName} {role : ReceiptRole}

/-- A receipt that was read through its role attests the verdict of the role. -/
lemma roleReceipt_attests (hc : Contained P s)
    {receipt? : Option Json} (h : roleReceipt s role S r = (.ok receipt?, r'))
    (hw : s.doc role.field = some w) :
    w.path? ["governance", "verdict"] = some (.str role.verdict) := by
  obtain rfl : receipt? = some w := (roleReceipt_eq_doc hc h).trans hw
  exact roleReceipt_verdict h

include h in
/-- Every receipt of the bundle was read through its role. -/
lemma Passed.roleRead (hw : s.doc role.field = some w) :
    ∃ S receipt? r r', roleReceipt s role S r = (.ok receipt?, r') := by
  have hverdict : ∃ S receipt? r r',
      roleReceipt s (verdictRoleFor s.outcome) S r = (.ok receipt?, r') := by
    obtain ⟨r, r', h6⟩ := h.step6
    simp only [step6_verdictReceiptBinding, Check.bind_eq_ok_iff] at h6
    obtain ⟨receipt?, r1, hread, -⟩ := h6
    exact ⟨_, receipt?, r, r1, hread⟩
  -- the outcomes that admit the receipt are those whose steps read it
  have hin : role.field ∈ OPTIONAL_ARTIFACT_FIELDS →
      role.field ∈ OUTCOME_ARTIFACT_UNION s.outcome := fun hfield => h.optional hfield hw
  cases role with
  | deferredReceipt =>
    obtain ⟨r, r', h2⟩ := h.step2
    simp only [step2_envelopeBinding, Check.bind_eq_ok_iff] at h2
    obtain ⟨_, r1, -, receipt?, r2, hread, -⟩ := h2
    exact ⟨_, receipt?, r1, r2, hread⟩
  | allowedReceipt | blockedReceipt | timeoutReceipt =>
    have hmem := hin (by decide)
    cases hout : s.outcome <;> rw [hout] at hmem hverdict <;>
      first | exact hverdict | exact absurd hmem (by decide)
  | executedReceipt =>
    have hout : s.outcome = .EXECUTED := by
      have hmem := hin (by decide)
      cases hout : s.outcome <;> rw [hout] at hmem <;> revert hmem <;> decide
    obtain ⟨r, r', h10⟩ := h.step10
    simp only [step10_executed, if_pos hout, attemptDocuments, Check.bind_eq_ok_iff] at h10
    obtain ⟨_, _, ⟨receipt?, r1, hread, -⟩, -⟩ := h10
    exact ⟨_, receipt?, r, r1, hread⟩
  | failedReceipt =>
    have hout : s.outcome = .EXECUTION_FAILED := by
      have hmem := hin (by decide)
      cases hout : s.outcome <;> rw [hout] at hmem <;> revert hmem <;> decide
    obtain ⟨r, r', h11⟩ := h.step11
    simp only [step11_executionFailed, if_pos hout, attemptDocuments, Check.bind_eq_ok_iff] at h11
    obtain ⟨_, _, ⟨receipt?, r1, hread, -⟩, -⟩ := h11
    exact ⟨_, receipt?, r, r1, hread⟩

include h hc in
lemma Passed.receiptAuthenticated (hkeys : man.get? "keys" = some (.arr trust.manifestKeys)) (hw : s.doc role.field = some w) :
    Authenticated P s del man role.field w := by
  obtain ⟨S, receipt?, r, r', hread⟩ := h.roleRead hw
  refine .receipt role w (mem_receipts hw) ?_ (roleReceipt_attests hc hread hw)
  rw [hkeys]
  exact h.chain

/-! ## Trusted keys -/

/-- The keys side documents are verified under come from the root, the delegation or the manifest. -/
lemma Rooted.trustedKey (h : Rooted P s trust del man env) {kid : String} {entry : KeyEntry}
    (hkid : trust.resolvedKeyring.lookup kid = some entry) :
    TrustedKey s.rootKeyring del man kid entry := by
  rw [h.resolved] at hkid
  rcases lookup_buildResolvedKeyring hkid with hlisted | ⟨-, hother⟩
  · obtain ⟨key, hkey, hentry⟩ := exists_key_of_lookup hlisted
    exact .listed key (by rw [h.manifestKeys]; exact hkey) hentry
  · rw [lookup_putKey] at hother
    split at hother
    · rename_i hdelegated
      cases hother
      refine .delegated (hdelegated ▸ h.delegatedKey.1) h.delegatedKey.2 ?_
      rw [h.delegated]
    · exact .root hother

/-! ## Side documents -/

lemma signerRoles_of_signed {ctx : VerifyContext} {spec domain kid : String}
    {m : ArtifactMeta} {entry : KeyEntry} {roles : List String}
    (h : Artifact.Signed P.toArtifactPlatform ctx doc spec m domain kid entry)
    (hroles : signerRoles spec m = some roles) : ∃ role ∈ roles, role ∈ entry.roles := by
  unfold signerRoles at hroles
  split at hroles
  · rename_i hdecision
    cases hroles
    obtain ⟨role, hmem, hholds⟩ :=
      h.role (Artifact.requiredApproverRole ctx.riskClass) (by simp [Artifact.requiredRoles, hdecision])
    exact ⟨role, requiredApproverRole_subset hmem, hholds⟩
  · rename_i hdecision
    exact h.role roles (by simpa [Artifact.requiredRoles, hdecision] using hroles)

variable {keyring : List (String × KeyEntry)}

/-- A document that was accepted as one of a signed kind, under trusted keys only. -/
lemma signedAs_of_accepted {spec domain : String}
    {m : ArtifactMeta} (h : AcceptedUnder P keyring doc) (hspec : doc.getStr? "spec" = some spec)
    (hmeta : ARTIFACTS.lookup spec = some m) (hdomain : m.domain = some domain)
    (htrusted : ∀ kid entry, keyring.lookup kid = some entry →
      TrustedKey s.rootKeyring del man kid entry) : SignedAs P s.rootKeyring del man spec doc := by
  obtain ⟨ctx, spec', m', -, rfl, haccepted⟩ := h
  obtain rfl := Option.mem_unique haccepted.kind.1 hspec
  obtain rfl := Option.mem_unique haccepted.kind.2 hmeta
  obtain ⟨kid, entry, hsigned⟩ := haccepted.signed domain hdomain
  exact ⟨m', domain, kid, entry, hspec, hmeta, hdomain, hsigned.named,
    htrusted kid entry hsigned.known, hsigned.unrevoked, signedUnder_of_signed hsigned, hsigned.type,
    fun roles hroles => signerRoles_of_signed hsigned hroles⟩

/-- An accepted document with members that only one kind admits together says it is of that kind. -/
lemma AcceptedUnder.spec_of_all {ks : List String} {only : String} (h : AcceptedUnder P keyring doc)
    (honly : Artifact.OnlyKindWithAll ks only ARTIFACT_SCHEMAS)
    (hks : ∀ k ∈ ks, ∃ w, doc.get? k = some w) : doc.getStr? "spec" = some only := by
  obtain ⟨ctx, spec, m, hschemas, -, haccepted⟩ := h
  rw [haccepted.kind.1, haccepted.spec_eq_of_all (hschemas ▸ honly) hks]

/-- Members that one kind has, and no other kind has together. -/
def kindMarks : List (List String × String) :=
  [(["keyManifestHash", "deferredReceiptHash"], "noa.hold/0.1"),
    (["status"], "noa.hold-resolution/0.1"), (["decision"], "noa.decision/0.1"),
    (["approvalReceiptHash"], "noa.execution-grant/0.1"),
    (["grantHash", "result"], "noa.execution-consumption/0.1"),
    (["lastKnownState"], "noa.execution-uncertainty/0.1"), (["keys"], "noa.key-manifest/0.1"),
    (["permissions"], "noa.key-delegation/0.1")]

lemma onlyKind_of_mem_kindMarks :
    ∀ x ∈ kindMarks, Artifact.OnlyKindWithAll x.1 x.2 ARTIFACT_SCHEMAS := by
  decide +kernel

lemma AcceptedUnder.kind {only : String} (h : AcceptedUnder P keyring doc) (ks : List String)
    (hmark : (ks, only) ∈ kindMarks) (hks : ∀ k ∈ ks, ∃ w, doc.get? k = some w) :
    AcceptedUnder P keyring doc ∧ doc.getStr? "spec" = some only :=
  ⟨h, h.spec_of_all (onlyKind_of_mem_kindMarks _ hmark) hks⟩

lemma exists_of_asStr {v : Option Json} {t : String} (h : asStr v = some t) : ∃ w, v = some w :=
  ⟨_, asStr_eq_some.mp h⟩

/-- Only a consumption names a grant and has a result. -/
lemma consumption_kind (hc : Contained P s) {code code' : StepCode}
    {failure : StepFailure} {reason expected : String} {a : Attempt} {r1 r1' : Report} {u u' : Unit}
    (hdocs : attemptDocuments s role S failure r = (.ok a, r'))
    (hcheck : checkConsumption P s tenant trust S code reason a r1 = (.ok u, r1'))
    (hresult : checkConsumptionResult S code' expected a.consumption = .ok u')
    (hw : s.doc "executionConsumption" = some w) : AcceptedUnder P trust.resolvedKeyring w ∧
      w.getStr? "spec" = some "noa.execution-consumption/0.1" := by
  have hattempted := checkConsumption_eq_ok hc hdocs hcheck
  obtain rfl := Option.mem_unique hattempted.consumption hw
  simp only [checkConsumption, Check.ok_iff, refuse_eq_ok_iff, Bool.not_eq_false'] at hcheck
  obtain ⟨_, _, -, _, _, -, _, _, -, hgrant, -⟩ := hcheck
  obtain ⟨hash, hnames, -⟩ := eq_of_sameHash hgrant
  simp only [checkConsumptionResult, refuse_eq_ok_iff, test_iff] at hresult
  refine hattempted.consumed.kind ["grantHash", "result"] (by simp [kindMarks]) ?_
  simpa using ⟨exists_of_asStr hnames, exists_of_asStr hresult⟩

section kinds

include h

/-- The envelope names the manifest and the deferred receipt, as no other kind does. -/
lemma Passed.envelopeKind
    (hw : s.doc "holdEnvelope" = some w) : AcceptedUnder P trust.resolvedKeyring w ∧
      w.getStr? "spec" = some "noa.hold/0.1" := by
  obtain ⟨r, r', h1⟩ := h.step1
  simp only [step1_holdEnvelope, Check.ok_iff, demand_eq_ok_iff, asObj_eq_some] at h1
  obtain ⟨_, _, -, man, _, -, env, _, ⟨⟨henv, -⟩, -⟩, _, _, -, _, _, -, trust', _, -, _, _, ⟨hcheck, -⟩,
    rfl, -⟩ := h1
  obtain rfl := Option.mem_unique henv hw
  have haccepted := checkEnvelope_eq_ok hcheck
  simp only [checkEnvelope, ok_iff, Bool.not_eq_false'] at hcheck
  obtain ⟨_, -, _, -, hmanifest⟩ := hcheck
  obtain ⟨hash, hnames, -⟩ := eq_of_sameHash hmanifest
  obtain ⟨r, r', h2⟩ := h.step2
  simp only [step2_envelopeBinding, Check.ok_iff, ok_iff, asObj_eq_some, Bool.not_eq_false'] at h2
  obtain ⟨env', _, ⟨⟨henv', -⟩, -⟩, _, _, -, _, _, ⟨hdeferred, -⟩, -⟩ := h2
  obtain rfl := Option.mem_unique henv' hw
  obtain ⟨hash', hnames', -⟩ := eq_of_sameHash hdeferred
  refine haccepted.kind ["keyManifestHash", "deferredReceiptHash"] (by simp [kindMarks]) ?_
  simpa using ⟨exists_of_asStr hnames, exists_of_asStr hnames'⟩

/-- Only a resolution has a status. -/
lemma Passed.resolutionKind
    (hw : s.doc "holdResolution" = some w) : AcceptedUnder P trust.resolvedKeyring w ∧
      w.getStr? "spec" = some "noa.hold-resolution/0.1" := by
  obtain ⟨r, r', h3⟩ := h.step3
  simp only [step3_holdResolution, Check.ok_iff, ok_iff, asObj_eq_some, test_iff] at h3
  obtain ⟨hr, _, ⟨⟨hdoc, -⟩, -⟩, _, _, -, _, _, ⟨hverify, -⟩, _, _, -, _, _, -, _, _, ⟨hstatus, -⟩, -⟩ := h3
  obtain rfl := Option.mem_unique hdoc hw
  obtain ⟨spec, m, haccepted⟩ := verifySide_eq_ok hverify
  have hunder : AcceptedUnder P trust.resolvedKeyring hr := ⟨_, spec, m, rfl, rfl, haccepted⟩
  refine hunder.kind ["status"] (by simp [kindMarks]) ?_
  simpa using exists_of_asStr hstatus

/-- Only an uncertainty has a last known state. -/
lemma Passed.uncertaintyKind
    (hw : s.doc "executionUncertainty" = some w) : AcceptedUnder P trust.resolvedKeyring w ∧
      w.getStr? "spec" = some "noa.execution-uncertainty/0.1" := by
  have hout : s.outcome = .UNKNOWN_AFTER_DISPATCH := by
    have hin := h.optional (by decide) hw
    cases hout : s.outcome <;> rw [hout] at hin <;> revert hin <;> decide
  obtain ⟨r, r', h12⟩ := h.step12
  simp only [step12_unknown, if_pos hout, Check.ok_iff, ok_iff, asObj_eq_some, test_iff] at h12
  obtain ⟨_, _, -, unc, _, ⟨⟨hunc, -⟩, -⟩, _, _, -, _, _, ⟨hverify, -⟩, _, _, -, _, _, ⟨hstate, -⟩, -⟩ := h12
  obtain rfl := Option.mem_unique hunc hw
  obtain ⟨spec, m, haccepted⟩ := verifySide_eq_ok hverify
  have hunder : AcceptedUnder P trust.resolvedKeyring unc := ⟨_, spec, m, rfl, rfl, haccepted⟩
  refine hunder.kind ["lastKnownState"] (by simp [kindMarks]) ?_
  simpa using exists_of_asStr hstate

include hc

lemma Passed.decisionKind (hw : s.doc "decisionArtifact" = some w) :
    AcceptedUnder P trust.resolvedKeyring w ∧ w.getStr? "spec" = some "noa.decision/0.1" := by
  obtain ⟨-, hunder, -, hvalue⟩ := h.decided (asObj_doc hc rfl hw)
  refine hunder.kind ["decision"] (by simp [kindMarks]) ?_
  simpa using ⟨_, hvalue⟩

/-- Only a grant names an approval. -/
lemma Passed.grantKind (hw : s.doc "executionGrant" = some w) :
    AcceptedUnder P trust.resolvedKeyring w ∧ w.getStr? "spec" = some "noa.execution-grant/0.1" := by
  obtain ⟨allowed, hbound⟩ := h.grantBound hc hw
  obtain ⟨v, -, hchain⟩ := h.chain
  have hcarries : s.doc ReceiptRole.allowedReceipt.field = some allowed := hbound.carriesAllowed
  have hmem : allowed ∈ s.receipts := mem_receipts hcarries
  have hnames := hbound.receipt.trans (asStr_hash (hchain.shape allowed hmem))
  refine hbound.accepted.kind ["approvalReceiptHash"] (by simp [kindMarks]) ?_
  simpa using exists_of_asStr hnames

lemma Passed.consumptionKind (hw : s.doc "executionConsumption" = some w) :
    AcceptedUnder P trust.resolvedKeyring w ∧
      w.getStr? "spec" = some "noa.execution-consumption/0.1" := by
  have hin := h.optional (by decide) hw
  cases hout : s.outcome with
  | EXECUTED =>
    obtain ⟨r, r', h10⟩ := h.step10
    simp only [step10_executed, if_pos hout, Check.ok_iff] at h10
    obtain ⟨a, _, hdocs, _, _, hcheck, _, _, ⟨hresult, -⟩, -⟩ := h10
    exact consumption_kind hc hdocs hcheck hresult hw
  | EXECUTION_FAILED =>
    obtain ⟨r, r', h11⟩ := h.step11
    simp only [step11_executionFailed, if_pos hout, Check.ok_iff] at h11
    obtain ⟨a, _, hdocs, _, _, hcheck, _, _, -, _, _, -, _, _, -, _, _, ⟨hresult, -⟩, -⟩ := h11
    exact consumption_kind hc hdocs hcheck hresult hw
  | _ => rw [hout] at hin; exact absurd hin (by decide)

end kinds

/-! ## Settlement evidence -/

/-- The one answer of the reconciler that does not refuse. -/
lemma judgeSettlement_eq_ok {uncheckable : Bool} {answer : SettlementReconcileResult}
    {facts : Option SettlementFacts}
    (h : judgeSettlement S uncheckable answer r = (.ok facts, r')) :
    answer.code = "SETTLEMENT_CORRELATED_UNRECONFIRMED" := by
  by_contra hcode
  have hrefuses : Check.Leaves (fun _ => False) (judgeSettlement S uncheckable answer) := by
    unfold judgeSettlement
    dsimp only
    rw [if_neg hcode]
    exact .ite refuseSettlement_leaves (.ite (.ite refuseSettlement_leaves refuseSettlement_leaves)
      (.ite refuseSettlement_leaves (.ite refuseSettlement_leaves (.ite refuseSettlement_leaves
        (.ite refuseSettlement_leaves refuseSettlement_leaves)))))
  exact hrefuses _ _ _ h

lemma checkSettlement_eq_ok {facts : Option SettlementFacts}
    (h : checkSettlement P s tenant trust S r = (.ok facts, r')) :
    (∀ evidence, s.doc "settlementEvidence" = some evidence →
      AcceptedUnder P trust.resolvedKeyring evidence ∧ ∃ input, input.artifact = evidence ∧
        (P.reconcileSettlementEvidence input).code = "SETTLEMENT_CORRELATED_UNRECONFIRMED") ∧
    (s.doc "settlementEvidence" = none → s.doc "actionParamsPreimage" = none) := by
  unfold checkSettlement at h
  cases hdoc : s.doc "settlementEvidence" with
  | none =>
    refine ⟨fun _ hsome => (by cases hsome), fun _ => ?_⟩
    simp only [hdoc] at h
    split at h
    · exact (refuseSettlement_leaves (R := fun _ => False) _ _ _ h).elim
    · rename_i hnone
      simpa using hnone
  | some evidence =>
    refine ⟨fun evidence' hsome => ?_, fun hnone => (by cases hnone)⟩
    cases hsome
    simp only [hdoc] at h
    cases hverify : verifySide P evidence (context s trust.resolvedKeyring) with
    | error reason =>
      simp only [hverify] at h
      exact (refuseSettlement_leaves (R := fun _ => False) _ _ _ h).elim
    | ok _ =>
      simp only [hverify] at h
      obtain ⟨spec, m, haccepted⟩ := verifySide_eq_ok hverify
      refine ⟨⟨_, spec, m, rfl, rfl, haccepted⟩, ?_⟩
      cases hscope : asStr (s.bundle.path? ["deferredReceipt", "scope", "chain"]) with
      | none =>
        simp only [hscope] at h
        exact (refuseSettlement_leaves (R := fun _ => False) _ _ _ h).elim
      | some chain =>
        simp only [hscope, Check.bind_eq_ok_iff] at h
        obtain ⟨_, _, -, hjudge⟩ := h
        exact ⟨_, rfl, judgeSettlement_eq_ok hjudge⟩

include h in
/-- A bundle with settlement evidence or a preimage is about an execution, whose step looked at
both. -/
lemma Passed.settlement
    (hk : k = "settlementEvidence" ∨ k = "actionParamsPreimage") (hw : s.doc k = some w) :
    ∃ facts r r', checkSettlement P s tenant trust .STEP_10_EXECUTED r = (.ok facts, r') := by
  have hout : s.outcome = .EXECUTED := by
    have hin := h.optional (by rcases hk with rfl | rfl <;> decide) hw
    rcases hk with rfl | rfl <;>
      cases hout : s.outcome <;> rw [hout] at hin <;> revert hin <;> decide
  obtain ⟨r, r', h10⟩ := h.step10
  simp only [step10_executed, if_pos hout, Check.bind_eq_ok_iff] at h10
  obtain ⟨_, _, -, _, _, -, _, _, -, _, _, -, _, _, -, facts, _, hsettlement, -⟩ := h10
  exact ⟨facts, _, _, hsettlement⟩

/-- The reconciler correlates documents of the settlement kind only, as the shipped one does: it
refuses a document of another kind before it looks at anything else. -/
def CorrelatesSettlementsOnly (P : EvidencePlatform) : Prop :=
  ∀ input, (P.reconcileSettlementEvidence input).code = "SETTLEMENT_CORRELATED_UNRECONFIRMED" →
    input.artifact.getStr? "spec" = some "noa.settlement-evidence/0.1"

/-! ## Every member -/

include h hc in
lemma Passed.authenticated
    (hrooted : Rooted P s trust del man env) (hreconciler : CorrelatesSettlementsOnly P) (hk : s.doc k = some w) :
    k ∈ ["spec", "outcome", "checkpoint"] ∨ Authenticated P s del man k w := by
  have htrusted : ∀ kid entry, trust.resolvedKeyring.lookup kid = some entry →
      TrustedKey s.rootKeyring del man kid entry := fun _ _ => hrooted.trustedKey
  have hreceipt : ∀ role : ReceiptRole, role.field = k → Authenticated P s del man k w := by
    rintro role rfl
    exact h.receiptAuthenticated hc hrooted.manifestKeys hk
  have hsettlement : ∀ evidence, (k = "settlementEvidence" ∨ k = "actionParamsPreimage") →
      s.doc "settlementEvidence" = some evidence →
        SignedAs P s.rootKeyring del man "noa.settlement-evidence/0.1" evidence := by
    intro evidence hmember hdoc
    obtain ⟨_, _, _, hrun⟩ := h.settlement hmember hk
    obtain ⟨hunder, input, rfl, hcode⟩ := (checkSettlement_eq_ok hrun).1 evidence hdoc
    exact signedAs_of_accepted hunder (hreconciler input hcode) rfl rfl htrusted
  have hsigned : ∀ {spec domain : String} {m : ArtifactMeta},
      AcceptedUnder P trust.resolvedKeyring w ∧ w.getStr? "spec" = some spec →
      ARTIFACTS.lookup spec = some m → m.domain = some domain →
        SignedAs P s.rootKeyring del man spec w :=
    fun hkind hmeta hdomain => signedAs_of_accepted hkind.1 hkind.2 hmeta hdomain htrusted
  have hfield := container_key hc hk
  simp only [mandatoryFields, OPTIONAL_ARTIFACT_FIELDS, mem_iff] at hfield
  rcases hfield with rfl | rfl | rfl | rfl | rfl | rfl | rfl | rfl | rfl | rfl | rfl | rfl | rfl | rfl |
    rfl | rfl | rfl | rfl | rfl
  · exact .inl (by simp)
  · exact .inl (by simp)
  · exact .inr (.document _ _ _ rfl (hsigned (h.envelopeKind hk) rfl rfl))
  · exact .inr (hreceipt .deferredReceipt rfl)
  · exact .inr (.document _ _ _ rfl (hsigned (h.resolutionKind hk) rfl rfl))
  · exact .inl (by simp)
  · obtain rfl := Option.mem_unique hrooted.manifest hk
    obtain ⟨haccepted, hspec⟩ := hrooted.manifestAccepted.kind _
      (show (["keys"], "noa.key-manifest/0.1") ∈ kindMarks by simp [kindMarks])
      (by simpa using ⟨_, hrooted.manifestKeys⟩)
    exact .inr (.document _ _ _ rfl (signedAs_of_accepted haccepted hspec rfl rfl htrusted))
  · obtain rfl := Option.mem_unique hrooted.delegation hk
    obtain ⟨haccepted, hspec⟩ := hrooted.delegationAccepted.kind _
      (show (["permissions"], "noa.key-delegation/0.1") ∈ kindMarks by simp [kindMarks])
      (by simpa using exists_get?_of_elements hrooted.permission)
    exact .inr (.document _ _ _ rfl (signedAs_of_accepted haccepted hspec rfl rfl
      fun kid entry hkid => .root hkid))
  · exact .inr (.document _ _ _ rfl (hsigned (h.decisionKind hc hk) rfl rfl))
  · exact .inr (hreceipt .allowedReceipt rfl)
  · exact .inr (hreceipt .blockedReceipt rfl)
  · exact .inr (hreceipt .timeoutReceipt rfl)
  · exact .inr (.document _ _ _ rfl (hsigned (h.grantKind hc hk) rfl rfl))
  · exact .inr (.document _ _ _ rfl (hsigned (h.consumptionKind hc hk) rfl rfl))
  · exact .inr (.document _ _ _ rfl (hsigned (h.uncertaintyKind hk) rfl rfl))
  · exact .inr (hreceipt .executedReceipt rfl)
  · exact .inr (hreceipt .failedReceipt rfl)
  · exact .inr (.document _ _ _ rfl (hsettlement w (.inl rfl) hk))
  · cases hdoc : s.doc "settlementEvidence" with
    | none =>
      obtain ⟨_, _, _, hrun⟩ := h.settlement (.inr rfl) hk
      rw [(checkSettlement_eq_ok hrun).2 hdoc] at hk
      cases hk
    | some evidence => exact .inr (.preimage w evidence hdoc (hsettlement evidence (.inr rfl) hdoc))

end Evidence

open Evidence in
/-- Nothing rides along unexamined: every member of an accepted bundle is one its outcome admits, and
all but the spec, the outcome and the checkpoint were authenticated. -/
theorem accepted_members_authenticated (P : EvidencePlatform) (clock : String)
    (o : VerifyEvidenceOptions) (text : List Char) (hreconciler : CorrelatesSettlementsOnly P)
    (h : (verifyEvidence P clock o text).verdict = .VALID_FULL_CHAIN ∨
      (verifyEvidence P clock o text).verdict = .VALID_SEGMENT_ONLY) :
    ∃ s del man, Admitted P clock o text s ∧ s.bundle.get? "keyDelegation" = some del ∧
      s.bundle.get? "keyManifest" = some man ∧ ∀ k w, s.bundle.get? k = some w →
        k ∈ mandatoryFields ++ OUTCOME_ARTIFACT_UNION s.outcome ∧
        (k ∈ ["spec", "outcome", "checkpoint"] ∨ Authenticated P s del man k w) := by
  obtain ⟨s, tenant, trust, decision, anchoring, hread, hpassed, -⟩ := verifyEvidence_valid h
  obtain ⟨del, man, env, hrooted⟩ := hpassed.rooted
  have hc : Contained P s := hread.contained
  refine ⟨s, del, man, hread, hrooted.delegation, hrooted.manifest, fun k w hk => ⟨?_, ?_⟩⟩
  · rcases List.mem_append.mp (container_key hc hk) with hmandatory | hoptional
    · exact List.mem_append_left _ hmandatory
    · exact List.mem_append_right _ (hpassed.optional hoptional hk)
  · exact hpassed.authenticated hc hrooted hreconciler hk

open Evidence Evidence.SampleBundle in
/-- The grant of the honest execution was signed as one. -/
theorem accepted_members_authenticated_executed :
    ∃ s del man, Admitted executedPlatform "" options executedText s ∧
      s.bundle.get? "executionGrant" = some (grant executed) ∧
      Authenticated executedPlatform s del man "executionGrant" (grant executed) := by
  have hreconciler : CorrelatesSettlementsOnly executedPlatform := fun _ hcode =>
    absurd (show ("" : String) = "SETTLEMENT_CORRELATED_UNRECONFIRMED" from hcode) (by decide)
  obtain ⟨s, del, man, hread, -, -, hmembers⟩ := accepted_members_authenticated executedPlatform ""
    options executedText hreconciler (.inl verdict_texts.1)
  have hgrant : s.bundle.get? "executionGrant" = some (grant executed) := by
    rw [(outcome_of_parse parse_texts.1 rfl hread).1]
    rfl
  refine ⟨s, del, man, hread, hgrant, ?_⟩
  rcases (hmembers _ _ hgrant).2 with hcontainer | hauthenticated
  · exact absurd hcontainer (by decide)
  · exact hauthenticated

/-! ## A member nobody signed -/

namespace Evidence.SampleBundle

/-- A display blob, a kind that carries no signature. -/
def display : Json :=
  .obj [("spec", .str "noa.encrypted-display/0.1"), tenant, ("holdId", .str "hold-1"),
    ("deferredReceiptHash", filler 'a'), ("expiresAt", closes), ("suite", .obj [("kem", .num 32), ("kdf", .num 1),
      ("aead", .num 3)]),
    ("payload", .obj [("nonce", .str "n"), ("ciphertext", .str "c")]),
    ("recipients", .arr [.obj [("kid", .str "approver-1"), ("enc", .str "e"),
      ("wrappedCek", .str "w")]]),
    ("aadHash", filler 'b')]

/-- The honest execution with the blob where settlement evidence belongs. -/
def strayBundle : Json :=
  .obj (members "EXECUTED" executed.toMarks (deferred executed.toMarks "gate-1") executedAllowed
      (checkpoint 2 executed.executed executed.checkpoint) ++
    [("executionGrant", grant executed), ("executionConsumption", consumption executed),
      ("executedReceipt", attempt executed "deploy"), ("settlementEvidence", display)])

def strayText : List Char := Json.render strayBundle

/-- A platform whose reconciler correlates whatever it is given. -/
def strayPlatform : EvidencePlatform :=
  { executedPlatform with
    regexTest := fun pattern text =>
      if pattern = "^.\x7b1,2048\x7d$" ∨ pattern = "^.\x7b1,65536\x7d$" then some true
      else regexTest pattern text
    reconcileSettlementEvidence := fun _ =>
      ⟨"SETTLEMENT_CORRELATED_UNRECONFIRMED", none, [], "UNKNOWN"⟩ }

lemma parse_stray : parseDocument strayText "bundle" = .ok strayBundle :=
  parseDocument_of_textBound (by decide +kernel) _

lemma verdict_stray :
    (verifyEvidence strayPlatform "" options strayText).verdict = .VALID_FULL_CHAIN := by
  rw [verifyEvidence, admitted, parse_stray]
  decide +kernel

end Evidence.SampleBundle

open Evidence Evidence.SampleBundle in
/-- With a reconciler that does not look at the kind, a bundle is accepted whose settlement evidence
nobody signed. -/
theorem accepted_unsigned_settlement :
    (verifyEvidence strayPlatform "" options strayText).verdict = .VALID_FULL_CHAIN ∧
    ∃ s w, Admitted strayPlatform "" options strayText s ∧
      s.bundle.get? "settlementEvidence" = some w ∧ w.get? "sig" = none ∧
      ∀ root del man spec, ¬ SignedAs strayPlatform root del man spec w := by
  obtain ⟨s, -, -, -, -, hread, -⟩ := verifyEvidence_valid (.inl verdict_stray)
  have hbundle : s.bundle = strayBundle := ok_unique hread.bundle parse_stray
  refine ⟨verdict_stray, s, display, hread, by rw [hbundle]; rfl, rfl, ?_⟩
  rintro root del man spec ⟨_, _, kid, _, -, -, -, hkid, -⟩
  have hnone : display.strAt? ["sig", "kid"] = none := rfl
  rw [hnone] at hkid
  cases hkid

end NoaMandate
