import NoaMandate.Evidence.Anchor

/-!
# Who approved an accepted bundle

An accepted bundle goes back to the external root: a root key signed the delegation, the delegated key
signed the manifest (`Rooted.delegationSigned`, `Rooted.manifestSigned`).  The manifest cannot list the
delegated key under a role of its own, because its schema gives no key of a manifest the role that signs
manifests.

A bundle with a verdict receipt also carries the approver's decision, signed with the same key as the
receipt.  The decision is verified under the artifact keyring and the receipt under the receipt keyring;
that the two hold the same public key, although key ids may be repeated in a manifest, is
`exists_approver`.
-/

namespace NoaMandate

open Pipeline
open SchemaEval (Admits shown)

namespace Evidence

variable {P : EvidencePlatform} {s : Setup} {tenant : String} {trust : Trust}
  {decision : Option Json} {anchoring : Anchoring} {r r' : Report} {I : Intrinsics}
  {del man env : Json}

/-! ## What is shown -/

/-- The signature of an artifact verifies under the public key. -/
def SignedUnder (I : Intrinsics) (publicKey domain : String) (doc : Json) : Prop :=
  ∃ input value, canonicalize (Artifact.withoutSig doc) = some input ∧
    doc.strAt? ["sig", "value"] = some value ∧
    I.verifyEd25519 publicKey (I.signingMessage domain input) value = true

/-- The signature of a receipt verifies under the public key. -/
def ReceiptSignedUnder (I : Intrinsics) (publicKey : String) (receipt : Json) : Prop :=
  ∃ input, receiptHashInput receipt = some input ∧
    I.verifyEd25519 publicKey (I.signingMessage Verify.RECEIPT_SIG_DOMAIN input)
      (Receipt.sigValue receipt) = true

/-- A key of the external root signed the delegation, which covers manifests and the verifier's own time,
and the delegated key signed the manifest. -/
structure RootedManifest (P : EvidencePlatform) (s : Setup) (del man : Json) : Prop where
  delegation : s.bundle.get? "keyDelegation" = some del
  manifest : s.bundle.get? "keyManifest" = some man
  root : ∃ kid entry, s.rootKeyring.lookup kid = some entry ∧
    del.strAt? ["sig", "kid"] = some kid ∧
    SignedUnder P.toIntrinsics entry.publicKey "NOA-KeyDelegation-v0.1-sig" del
  permission : Json.str "key-manifest-sign" ∈ elements (del.get? "permissions")
  window : ∃ opens now closes, parseTime P.toIntrinsics (del.get? "validFrom") = some opens ∧
    P.dateParse s.now = some now ∧ parseTime P.toIntrinsics (del.get? "expiresAt") = some closes ∧
    opens ≤ now ∧ now ≤ closes
  signed : ∃ publicKey, del.get? "delegatedPublicKey" = some (.str publicKey) ∧
    SignedUnder P.toIntrinsics publicKey "NOA-KeyManifest-v0.1-sig" man

/-- A manifest key that may decide an action of the risk class. -/
structure MayApprove (riskClass : Option String) (key : Json) : Prop where
  type : key.get? "type" = some (.str "APPROVER")
  tier : ∃ role ∈ Artifact.requiredApproverRole riskClass, Json.str role ∈ elements (key.get? "roles")
  unrevoked : Artifact.present? (key.get? "revokedAt") = none

/-- The verdict receipt is an approver's: one manifest key signed it and the decision, the decision is
about the envelope, and the receipt about the deferred action. -/
structure HumanVerdict (P : EvidencePlatform) (s : Setup) (man : Json) (value : String)
    (receipt : Json) : Prop where
  approver : ∃ keys key publicKey decision, man.get? "keys" = some (.arr keys) ∧ key ∈ keys ∧
    MayApprove s.riskClass key ∧ key.get? "publicKey" = some (.str publicKey) ∧
    s.bundle.get? "decisionArtifact" = some decision ∧
    decision.get? "decision" = some (.str value) ∧
    SignedUnder P.toIntrinsics publicKey "NOA-Decision-v0.1-sig" decision ∧
    ReceiptSignedUnder P.toIntrinsics publicKey receipt ∧
    ∃ env hash, s.bundle.get? "holdEnvelope" = some env ∧ refHash P.toIntrinsics env = some hash ∧
      decision.get? "holdEnvelopeHash" = some (.str hash)
  deferred : ∃ env deferred hash, s.bundle.get? "holdEnvelope" = some env ∧
    s.bundle.get? "deferredReceipt" = some deferred ∧
    receiptRefHash P.toIntrinsics deferred = some hash ∧
    env.get? "deferredReceiptHash" = some (.str hash) ∧
    ∀ path ∈ [["action", "id"], ["action", "canonical"], ["action", "paramsHash"],
      ["scope", "chain"]], receipt.path? path = deferred.path? path
  grant : ∀ grant, s.bundle.get? "executionGrant" = some grant →
    grant.get? "approvalReceiptHash" = some (.str (Receipt.hash receipt)) ∧
    grant.get? "paramsHash" = receipt.path? ["action", "paramsHash"] ∧
    ∃ env hash, s.bundle.get? "holdEnvelope" = some env ∧ refHash P.toIntrinsics env = some hash ∧
      grant.get? "holdEnvelopeHash" = some (.str hash)

/-! ## From the root to the manifest -/

variable {entry : KeyEntry} {kid k value : String} {doc w key receipt : Json}

lemma signedUnder_of_signed {ctx : VerifyContext} {spec domain : String} {m : ArtifactMeta}
    (h : Artifact.Signed P.toArtifactPlatform ctx doc spec m domain kid entry) :
    SignedUnder P.toIntrinsics entry.publicKey domain doc := h.verified

lemma only_delegation : Artifact.OnlyKindWith "permissions" "noa.key-delegation/0.1" ARTIFACT_SCHEMAS := by
  decide +kernel

lemma only_manifest : Artifact.OnlyKindWith "keys" "noa.key-manifest/0.1" ARTIFACT_SCHEMAS := by
  decide +kernel

lemma only_decision : Artifact.OnlyKindWith "decision" "noa.decision/0.1" ARTIFACT_SCHEMAS := by
  decide +kernel

/-- The signature of an accepted document of a given kind. -/
lemma signed_of_only {keyring : List (String × KeyEntry)} {only domain : String}
    {m : ArtifactMeta} (h : AcceptedUnder P keyring doc)
    (honly : Artifact.OnlyKindWith k only ARTIFACT_SCHEMAS) (hk : doc.get? k = some w)
    (hmeta : ARTIFACTS.lookup only = some m) (hdomain : m.domain = some domain) :
    ∃ ctx kid entry, ctx.keyring = keyring ∧
      Artifact.Signed P.toArtifactPlatform ctx doc only m domain kid entry := by
  obtain ⟨ctx, m', -, hkeyring, haccepted⟩ := h.of_only honly hk
  obtain rfl := Option.mem_unique haccepted.kind.2 hmeta
  obtain ⟨kid, entry, hsigned⟩ := haccepted.signed domain hdomain
  exact ⟨ctx, kid, entry, hkeyring, hsigned⟩

/-- An accepted document of a given kind has the shape its schema gives it. -/
lemma admits_of_only {keyring : List (String × KeyEntry)} {schema : Json} {only : String}
    (h : AcceptedUnder P keyring doc) (honly : Artifact.OnlyKindWith k only ARTIFACT_SCHEMAS)
    (hk : doc.get? k = some w) (hschema : ARTIFACT_SCHEMAS.lookup only = some schema) :
    Admits P.toSchemaPlatform schema schema doc := by
  obtain ⟨ctx, m, hschemas, -, haccepted⟩ := h.of_only honly hk
  obtain ⟨schema', hlookup, hshape⟩ := haccepted.shape
  rw [hschemas] at hlookup
  obtain rfl := Option.mem_unique hlookup hschema
  exact SchemaEval.admits_of_evalSchema hshape

lemma exists_get?_of_elements {v : Json} {x : Json} (h : x ∈ elements (v.get? k)) :
    ∃ w, v.get? k = some w := by
  cases hk : v.get? k with
  | none => rw [hk] at h; cases h
  | some w => exact ⟨w, rfl⟩

/-- A key of the root signed the delegation. -/
lemma Rooted.delegationSigned (h : Rooted P s trust del man env) :
    ∃ kid entry, s.rootKeyring.lookup kid = some entry ∧ del.strAt? ["sig", "kid"] = some kid ∧
      SignedUnder P.toIntrinsics entry.publicKey "NOA-KeyDelegation-v0.1-sig" del := by
  obtain ⟨w, hw⟩ := exists_get?_of_elements h.permission
  obtain ⟨ctx, kid, entry, hkeyring, hsigned⟩ :=
    signed_of_only h.delegationAccepted only_delegation hw rfl rfl
  exact ⟨kid, entry, hkeyring ▸ hsigned.known, hsigned.named, signedUnder_of_signed hsigned⟩

/-- The delegated key, as the delegation states it. -/
lemma Rooted.delegatedKey (h : Rooted P s trust del man env) :
    del.get? "delegatedKid" = some (.str trust.delegation.delegatedKid) ∧
      del.get? "delegatedPublicKey" = some (.str trust.delegation.delegatedPublicKey) := by
  obtain ⟨w, hw⟩ := exists_get?_of_elements h.permission
  have hadmits := admits_of_only h.delegationAccepted only_delegation hw rfl
  have hobj : del.isObj = true := hadmits.type rfl rfl
  obtain ⟨kid, hkid⟩ := hadmits.required (k := "delegatedKid") rfl hobj rfl (by decide)
  obtain ⟨pub, hpub⟩ := hadmits.required (k := "delegatedPublicKey") rfl hobj rfl (by decide)
  have htext : ∀ v, SchemaEval.matchesType v (.str "string") = true → v = .str (shown (some v)) := by
    intro v hv
    cases v with
    | str t => rfl
    | _ => cases hv
  rw [h.delegated, hkid, hpub]
  exact ⟨congrArg some (htext _ ((hadmits.member rfl rfl hkid).type rfl rfl)),
    congrArg some (htext _ ((hadmits.member rfl rfl hpub).type rfl rfl))⟩

/-! ### The keys of a manifest -/

lemma Rooted.manifestAdmits (h : Rooted P s trust del man env) :
    Admits P.toSchemaPlatform Schemas.keyManifestSchema Schemas.keyManifestSchema man :=
  admits_of_only h.manifestAccepted only_manifest h.manifestKeys rfl

/-- A manifest lists gates, approvers and auditors. -/
lemma Rooted.keyAdmits (h : Rooted P s trust del man env)
    (hkey : key ∈ trust.manifestKeys) : ∃ type roles keys,
      (type, roles) ∈ [("GATE", ["hold-signer", "execution-signer", "settlement-observer"]),
        ("APPROVER", ["approve-high", "approve-critical"]), ("AUDIT", ["audit-decrypt"])] ∧
      Admits P.toSchemaPlatform Schemas.keyManifestSchema (Schemas.manifestKey type roles keys) key := by
  have hkeys := h.manifestAdmits.member (k := "keys") rfl rfl h.manifestKeys
  have hentry := (hkeys.items rfl rfl hkey).ref rfl rfl
  obtain ⟨node, hnode, hadmits⟩ := hentry.oneOf rfl rfl
  simp only [mem_iff] at hnode
  rcases hnode with rfl | rfl | rfl
  · exact ⟨_, _, _, by simp, hadmits⟩
  · exact ⟨_, _, _, by simp, hadmits⟩
  · exact ⟨_, _, _, by simp, hadmits⟩

/-- The roles of a manifest key are those of its type. -/
lemma Rooted.role_mem (h : Rooted P s trust del man env) {role : Json}
    (hkey : key ∈ trust.manifestKeys) (hrole : role ∈ elements (key.get? "roles")) :
    role ∈ ["hold-signer", "execution-signer", "settlement-observer", "approve-high",
      "approve-critical", "audit-decrypt"].map Json.str := by
  obtain ⟨type, roles, keys, htype, hadmits⟩ := h.keyAdmits hkey
  obtain ⟨w, hw⟩ := exists_get?_of_elements hrole
  have hroles := hadmits.member (k := "roles") rfl rfl hw
  rw [hw] at hrole
  cases w with
  | arr xs =>
    have hmem := (hroles.items rfl rfl hrole).enum rfl rfl
    simp only [mem_iff, Prod.mk.injEq] at htype
    rcases htype with ⟨-, rfl⟩ | ⟨-, rfl⟩ | ⟨-, rfl⟩
    all_goals
      simp only [List.map_cons, List.map_nil, mem_iff] at hmem ⊢
      tauto
  | _ => cases hrole

lemma manifestKeyEntry_eq_some (h : manifestKeyEntry key = some (kid, entry)) : kidOf key = kid ∧
      key.get? "publicKey" = some (.str entry.publicKey) ∧
      (∃ t, key.get? "type" = some (.str t) ∧ signerTypeOf? t = some entry.type) ∧
      entry.roles = (elements (key.get? "roles")).filterMap Json.asStr? ∧
      entry.validFrom = nullable (key.get? "validFrom") ∧
      entry.revokedAt = nullable (key.get? "revokedAt") := by
  simp only [manifestKeyEntry, Option.bind_eq_bind, Option.bind_eq_some_iff, Option.pure_def,
    Option.some.injEq, Prod.mk.injEq] at h
  obtain ⟨pub, hpub, type, ⟨t, ht, htype⟩, rfl, rfl⟩ := h
  exact ⟨rfl, Json.getStr?_eq_some.mp hpub, ⟨t, Json.getStr?_eq_some.mp ht, htype⟩, rfl, rfl, rfl⟩

variable {keys : List Json}

/-- A key id of the artifact keyring is a manifest key's, or one the manifest does not list. -/
lemma lookup_buildResolvedKeyring {root : List (String × KeyEntry)} {delegation : DelegationDoc}
    (h : (buildResolvedKeyring root delegation keys).lookup kid = some entry) :
    ((keys.filterMap manifestKeyEntry).reverse.lookup kid = some entry) ∨
      (keys.filterMap manifestKeyEntry).reverse.lookup kid = none ∧
        (putKey root delegation.delegatedKid ⟨delegation.delegatedPublicKey, .DELEGATED,
          delegation.permissions, some delegation.validFrom, none⟩).lookup kid = some entry := by
  rw [buildResolvedKeyring, lookup_putKeys] at h
  cases hm : (keys.filterMap manifestKeyEntry).reverse.lookup kid with
  | some e => exact .inl (by rwa [hm] at h)
  | none => exact .inr ⟨rfl, by rwa [hm] at h⟩

lemma exists_key_of_lookup (h : (keys.filterMap manifestKeyEntry).reverse.lookup kid = some entry) :
    ∃ key ∈ keys, manifestKeyEntry key = some (kid, entry) := by
  exact List.mem_filterMap.mp (List.mem_reverse.mp (Assoc.mem_of_lookup h))

/-- The delegated key signed the manifest. -/
lemma Rooted.manifestSigned (h : Rooted P s trust del man env) :
    SignedUnder P.toIntrinsics trust.delegation.delegatedPublicKey "NOA-KeyManifest-v0.1-sig" man := by
  obtain ⟨ctx, kid, entry, hkeyring, hsigned⟩ :=
    signed_of_only h.manifestAccepted only_manifest h.manifestKeys rfl rfl
  have hkid : kid = trust.delegation.delegatedKid := by
    have hnamed := hsigned.named
    rw [Json.strAt?, h.manifestKid] at hnamed
    exact (Option.some.inj hnamed).symm
  obtain ⟨role, hrole, hmem⟩ := hsigned.role ["key-manifest-sign"] rfl
  obtain rfl := List.mem_singleton.mp hrole
  have hknown := hsigned.known
  rw [hkeyring, h.resolved] at hknown
  rcases lookup_buildResolvedKeyring hknown with hmanifest | ⟨-, hdelegated⟩
  · -- no manifest key has the role
    obtain ⟨key, hkey, hentry⟩ := exists_key_of_lookup hmanifest
    obtain ⟨-, -, -, hroles, -⟩ := manifestKeyEntry_eq_some hentry
    rw [hroles, List.mem_filterMap] at hmem
    obtain ⟨v, hv, hstr⟩ := hmem
    obtain rfl := Json.asStr?_eq_some.mp hstr
    exact absurd (h.role_mem hkey hv) (by decide)
  · rw [lookup_putKey, if_pos hkid] at hdelegated
    cases hdelegated
    exact signedUnder_of_signed hsigned

variable (h : Passed P s tenant trust decision anchoring)

include h in
lemma Passed.rootedManifest :
    ∃ del man, RootedManifest P s del man ∧ man.get? "keys" = some (.arr trust.manifestKeys) := by
  obtain ⟨del, man, env, hrooted⟩ := h.rooted
  exact ⟨del, man,
    { delegation := hrooted.delegation
      manifest := hrooted.manifest
      root := hrooted.delegationSigned
      permission := hrooted.permission
      window := hrooted.window
      signed := ⟨_, hrooted.delegatedKey.2, hrooted.manifestSigned⟩ }, hrooted.manifestKeys⟩

/-! ## Receipts in their roles -/

variable {role : ReceiptRole} {S : StepName}

lemma roleReceipt_eq_ok {receipt? : Option Json} (h : roleReceipt s role S r = (.ok receipt?, r')) :
    (∀ receipt, receipt? = some receipt → s.doc role.field = some receipt) ∧
      ∀ receipt, s.doc role.field = some receipt → receipt.isObj = true →
        receipt? = some receipt := by
  simp only [roleReceipt, Check.ok_iff, mapError_eq_ok_iff] at h
  obtain ⟨found, _, ⟨hassert, -⟩, _, _, -, rfl, -⟩ := h
  unfold assertReceiptRole at hassert
  unfold Setup.doc
  split at hassert
  · split at hassert
    · cases hassert
    · cases hassert
      rename_i hnone _
      refine ⟨fun _ hr => (Option.some_ne_none _ hr.symm).elim, fun receipt hr => ?_⟩
      simp [hnone] at hr
  · split at hassert
    · cases hassert
    · cases hassert
      rename_i hnull _
      refine ⟨fun _ hr => (Option.some_ne_none _ hr.symm).elim, fun receipt hr hobj => ?_⟩
      obtain rfl := Option.mem_unique hnull hr
      cases hobj
  · rename_i receipt _ hsome
    simp only [ok_iff] at hassert
    obtain ⟨_, -, _, -, rfl⟩ := hassert
    refine ⟨fun receipt' hr => ?_, fun receipt' hr _ => ?_⟩
    · rw [hsome, hr]
    · rw [← hr, hsome]

/-- The documents of a contained bundle are objects. -/
def Contained (P : EvidencePlatform) (s : Setup) : Prop :=
  SchemaEval.evalSchema P.toSchemaPlatform CONTAINER_SCHEMA s.bundle = []

lemma Contained.receipt_isObj (hc : Contained P s)
    (h : s.doc role.field = some receipt) : receipt.isObj = true :=
  container_isObj hc (by cases role <;> rfl) h

/-- In a contained bundle the receipt read through its role is the member of that name. -/
lemma roleReceipt_eq_doc (hc : Contained P s)
    {receipt? : Option Json} (h : roleReceipt s role S r = (.ok receipt?, r')) :
    receipt? = s.doc role.field := by
  obtain ⟨hsome, hdoc⟩ := roleReceipt_eq_ok h
  cases hd : s.doc role.field with
  | some receipt => exact hdoc receipt hd (hc.receipt_isObj hd)
  | none =>
    cases receipt? with
    | none => rfl
    | some receipt => exact absurd (hd.symm.trans (hsome receipt rfl)) (by simp)

lemma asObj_doc (hc : Contained P s)
    (hprop : CONTAINER_SCHEMA.path? ["properties", k] = some (Schemas.typed "object"))
    (hk : s.doc k = some w) : asObj (s.doc k) = some w :=
  asObj_eq_some.mpr ⟨hk, container_isObj hc hprop hk⟩

/-- The decision a receipt of a human verdict goes with. -/
def verdictValue : ReceiptRole → Option String
  | .allowedReceipt => some "APPROVE"
  | .blockedReceipt => some "DENY"
  | _ => none

lemma verdictValue_allowed : verdictValue .allowedReceipt = some "APPROVE" := rfl

lemma verdictValue_blocked : verdictValue .blockedReceipt = some "DENY" := rfl

variable (hc : Contained P s) (hrole : verdictValue role = some value)
  (hreceipt : s.doc role.field = some receipt)

include h hrole hreceipt in
/-- A verdict receipt is there only for the outcomes it decides. -/
lemma Passed.verdictRole :
    verdictRoleFor s.outcome = role ∧ (s.outcome = .DENIED ↔ value = "DENY") := by
  have hunion : role.field ∈ OPTIONAL_ARTIFACT_FIELDS →
      role.field ∈ OUTCOME_ARTIFACT_UNION s.outcome ∨ role.field ∈ STEP_OWNED_ABSENCE s.outcome :=
    fun hmem => h.union hmem (by rw [hreceipt]; rfl)
  cases role with
  | allowedReceipt =>
    cases hrole
    have hin := hunion (by decide)
    cases houtcome : s.outcome <;> rw [houtcome] at hin <;> revert hin <;> decide
  | blockedReceipt =>
    cases hrole
    have hin := hunion (by decide)
    cases houtcome : s.outcome <;> rw [houtcome] at hin <;> revert hin <;> decide
  | _ => cases hrole

/-! ## Steps 3 to 6 -/

include h hc hrole hreceipt in
/-- A bundle with a verdict receipt carries a decision. -/
lemma Passed.decisionPresent : ∃ d, asObj (s.doc "decisionArtifact") = some d := by
  obtain ⟨r, r', h3⟩ := h.step3
  simp only [step3_holdResolution, Check.ok_iff] at h3
  obtain ⟨hr, _, -, env, _, -, _, _, -, _, _, -, _, _, -, _, _, -, _, _, ⟨hdecision, -⟩, -⟩ := h3
  simp only [checkDecisionHash, ok_iff] at hdecision
  obtain ⟨_, hhuman, -⟩ := hdecision
  have hcarries : (asObj (s.doc "allowedReceipt")).isSome = true ∨
      (asObj (s.doc "blockedReceipt")).isSome = true := by
    cases role with
    | allowedReceipt => exact .inl (Option.isSome_iff_exists.mpr ⟨_, asObj_doc hc rfl hreceipt⟩)
    | blockedReceipt => exact .inr (Option.isSome_iff_exists.mpr ⟨_, asObj_doc hc rfl hreceipt⟩)
    | _ => cases hrole
  refine Option.isSome_iff_exists.mp ?_
  by_contra hnone
  rw [Bool.not_eq_true, Option.isSome_eq_false_iff] at hnone
  rcases hcarries with hc | hc <;> simp [hc, hnone] at hhuman

include h in
/-- The decision of an accepted bundle is authentic, about its envelope, and the one its outcome
needs. -/
lemma Passed.decided {d : Json} (hd : asObj (s.doc "decisionArtifact") = some d) :
    decision = some d ∧ AcceptedUnder P trust.resolvedKeyring d ∧
      (∃ hash, refHash P.toIntrinsics ((s.doc "holdEnvelope").getD .null) = some hash ∧
        d.get? "holdEnvelopeHash" = some (.str hash)) ∧
      d.get? "decision" = some (.str (if s.outcome = .DENIED then "DENY" else "APPROVE")) := by
  have h4 := h.step4
  simp only [step4_decision, hd, ok_iff] at h4
  obtain ⟨_, hverify, h4⟩ := h4
  obtain ⟨spec, m, haccepted⟩ := verifySide_eq_ok hverify
  obtain ⟨hash, hhash, hpath, -⟩ := haccepted.refHashes (envelopeRef s tenant) (by simp)
  refine ⟨?_, ⟨_, spec, m, rfl, rfl, haccepted⟩, ⟨hash, hhash, ?_⟩, ?_⟩
  · split at h4 <;> simp only [ok_iff] at h4 <;>
      obtain ⟨_, -, rfl⟩ := h4 <;> rfl
  · simpa [envelopeRef, Json.path?] using hpath
  · split at h4 <;> rename_i hdenied <;>
      simp only [ok_iff, test_iff] at h4 <;>
      obtain ⟨_, hvalue, -⟩ := h4
    · rw [if_pos hdenied]
      exact asStr_eq_some.mp hvalue
    · rw [if_neg hdenied]
      exact asStr_eq_some.mp hvalue

lemma requiredApproverRole_subset {riskClass : Option String} {role : String}
    (h : role ∈ Artifact.requiredApproverRole riskClass) :
    role ∈ Artifact.requiredApproverRole none := by
  unfold Artifact.requiredApproverRole at h
  split at h
  · rw [List.mem_singleton.mp h]
    decide
  · exact h

variable {u : Unit}

/-- The tier an action needs, given that its approver has one of the approver roles at all. -/
lemma checkTier_eq_ok {riskClass : Option String} (h : checkTier riskClass entry = .ok u)
    (hany : ∃ role ∈ Artifact.requiredApproverRole none, role ∈ entry.roles) :
    ∃ role ∈ Artifact.requiredApproverRole riskClass, role ∈ entry.roles := by
  simp only [checkTier, ok_iff] at h
  obtain ⟨_, hcritical, -⟩ := h
  unfold Artifact.requiredApproverRole
  split
  · rename_i hclass
    rw [hclass, Bool.true_and, Bool.not_eq_false', List.contains_iff_mem] at hcritical
    exact ⟨_, .head _, hcritical⟩
  · exact hany

include h hc hrole hreceipt in
/-- The approver of the decision signed the verdict receipt, and has the tier the action needs. -/
lemma Passed.approver {d : Json} (hd : asObj (s.doc "decisionArtifact") = some d) :
    ∃ kid entry, receipt.path? ["sig", "kid"] = some (.str kid) ∧
      d.get? "approverKid" = some (.str kid) ∧
      trust.resolvedKeyring.lookup kid = some entry ∧ entry.type = .APPROVER ∧
      (∃ role ∈ Artifact.requiredApproverRole s.riskClass, role ∈ entry.roles) ∧
      entry.revokedAt = none ∧
      SignedUnder P.toIntrinsics entry.publicKey "NOA-Decision-v0.1-sig" d := by
  obtain ⟨rfl, haccepted, -, hvalue⟩ := h.decided hd
  obtain ⟨ctx, kid, entry, hkeyring, hsigned⟩ :=
    signed_of_only haccepted only_decision hvalue rfl rfl
  obtain ⟨hverdict, -⟩ := h.verdictRole hrole hreceipt
  obtain ⟨r, r', h5⟩ := h.step5
  simp only [step5_approverRole, Check.ok_iff, ok_iff, test_iff] at h5
  obtain ⟨receipt?, _, hread, approverKid, _, ⟨happrover, -⟩, _, _, ⟨hsame, -⟩, h5⟩ := h5
  obtain rfl : receipt? = some receipt := by
    rw [roleReceipt_eq_doc hc hread, hverdict, hreceipt]
  have hkid : kid = approverKid := by
    have hnamed : asStr (d.path? ["sig", "kid"]) = some kid := hsigned.named
    exact Option.mem_unique hnamed hsame.symm
  simp only [Check.ok_iff, ok_iff, test_iff] at h5
  obtain ⟨_, _, ⟨hreceiptKid, -⟩, entry', _, ⟨hentry, -⟩, htier, -⟩ := h5
  obtain ⟨hlookup, htype⟩ := Option.filter_eq_some_iff.mp hentry
  have hknown := hsigned.known
  rw [hkeyring, hkid] at hknown
  obtain rfl := Option.mem_unique hknown hlookup
  refine ⟨approverKid, entry, asStr_eq_some.mp hreceiptKid, asStr_eq_some.mp happrover, hlookup,
    by simpa using htype, ?_, hsigned.unrevoked, signedUnder_of_signed hsigned⟩
  obtain ⟨approves, hmem, hholds⟩ := hsigned.role (Artifact.requiredApproverRole ctx.riskClass) rfl
  exact checkTier_eq_ok htier ⟨approves, requiredApproverRole_subset hmem, hholds⟩

/-! ### One key in two keyrings -/

/-- The keys of the external root are root keys. -/
lemma rootEntry_type {m : String × Json} {e : String × KeyEntry} (h : rootEntry m = some e) :
    e.2.type = .ROOT := by
  unfold rootEntry at h
  split at h
  · cases h
    rfl
  · split at h
    · obtain ⟨pub, -, rfl⟩ := Option.map_eq_some_iff.mp h
      rfl
    · cases h
  · cases h

lemma asRootKeyEntryMap_type {text : List Char} {e : String × KeyEntry}
    (h : e ∈ asRootKeyEntryMap text) : e.2.type = .ROOT := by
  unfold asRootKeyEntryMap at h
  split at h
  · obtain ⟨m, -, hm⟩ := List.mem_filterMap.mp h
    exact rootEntry_type hm
  · cases h

lemma receiptKeyEntry_sub {b : Json}
    (h : receiptKeyEntry key = some (kid, b)) : ∃ a, manifestKeyEntry key = some (kid, a) := by
  simp only [receiptKeyEntry, Option.bind_eq_bind, Option.bind_eq_some_iff] at h
  obtain ⟨type, ⟨t, ht, htype⟩, h⟩ := h
  split at h
  · simp only [Option.bind_eq_some_iff, Option.pure_def, Option.some.injEq, Prod.mk.injEq] at h
    obtain ⟨pub, hpub, rfl, -⟩ := h
    refine ⟨⟨pub, type, (elements (key.get? "roles")).filterMap Json.asStr?,
      nullable (key.get? "validFrom"), nullable (key.get? "revokedAt")⟩, ?_⟩
    simp [manifestKeyEntry, hpub, ht, htype]
  · cases h

/-- An approver's key as an entry of the receipt keyring. -/
lemma receiptKeyEntry_of_approver
    (h : manifestKeyEntry key = some (kid, entry)) (htype : entry.type = .APPROVER) :
    ∃ b, receiptKeyEntry key = some (kid, b) ∧
      b.get? "publicKey" = some (.str entry.publicKey) := by
  obtain ⟨hkid, hpub, ⟨t, ht, htypeOf⟩, -⟩ := manifestKeyEntry_eq_some h
  rw [htype] at htypeOf
  refine ⟨.obj ([("publicKey", .str entry.publicKey), ("retiredAt", orNull (key.get? "revokedAt"))] ++
    (key.get? "validFrom").toList.map fun v => ("validFrom", v)), ?_, rfl⟩
  simp [receiptKeyEntry, Json.getStr?, ht, hpub, htypeOf, hkid, Json.asStr?]

/-- An approver of the artifact keyring is a key of the manifest, and the receipt keyring holds its public
key under the same id. -/
lemma exists_approver {root : List (String × KeyEntry)} {delegation : DelegationDoc} {v : ParsedVerificationKeyring}
    (hroot : ∀ e ∈ root, e.2.type = .ROOT)
    (h : (buildResolvedKeyring root delegation keys).lookup kid = some entry)
    (htype : entry.type = .APPROVER)
    (hv : parseVerificationKeyring I "keyring" (buildReceiptKeyring keys) = .ok v) :
    (∃ key ∈ keys, manifestKeyEntry key = some (kid, entry)) ∧
      v.keyring.lookup kid = some entry.publicKey := by
  rcases lookup_buildResolvedKeyring h with hmanifest | ⟨-, hother⟩
  · rw [← List.filterMap_reverse] at hmanifest
    obtain ⟨key, hkey, hentry, hlast⟩ :=
      lookup_filterMap (fun key kid b => receiptKeyEntry_sub) keys.reverse hmanifest
    obtain ⟨b, hb, hpub⟩ := receiptKeyEntry_of_approver hentry htype
    refine ⟨⟨key, List.mem_reverse.mp hkey, hentry⟩, parseVerificationKeyring_lookup hv ?_⟩
    have hlookup : (receiptKeys keys).lookup kid = some b := by
      rw [receiptKeys, lookup_putKeys, ← List.filterMap_reverse, hlast b hb]
      rfl
    have hkeys : (buildReceiptKeyring keys).get? "keys" = some (.obj (receiptKeys keys)) := rfl
    simp [Json.strAt?, Json.path?, hkeys, hlookup, hpub, Json.asStr?]
  · -- neither the root's keys nor the delegated key is an approver's
    rw [lookup_putKey] at hother
    split at hother
    · cases hother
      cases htype
    · exact absurd ((hroot _ (Assoc.mem_of_lookup hother)).symm.trans htype) (by decide)

/-! ### The receipt and what it is about -/

lemma checkActionFields_eq_ok {deferred : Json} :
    ∀ paths : List (List String), checkActionFields deferred receipt paths = .ok u →
      ∀ path ∈ paths, receipt.path? path = deferred.path? path := by
  refine forall_of_checks fun path paths h => ?_
  simp only [checkActionFields, ok_iff, Bool.not_eq_false'] at h
  obtain ⟨_, hsame, hrest⟩ := h
  exact ⟨(Json.eq_of_same hsame).symm, hrest⟩

lemma eq_of_sameHash {a b : Option String} (h : sameHash a b = true) : ∃ t, a = some t ∧ b = some t := by
  unfold sameHash at h
  split at h
  · rename_i x y
    obtain rfl : x = y := by simpa using h
    exact ⟨x, rfl, rfl⟩
  · cases h

include h hc hrole hreceipt in
/-- The verdict receipt repeats the action and the chain of the deferred receipt that the envelope
names. -/
lemma Passed.bound :
    ∃ env deferred hash, s.doc "holdEnvelope" = some env ∧ s.doc "deferredReceipt" = some deferred ∧
      receiptRefHash P.toIntrinsics deferred = some hash ∧
      env.get? "deferredReceiptHash" = some (.str hash) ∧
      ∀ path ∈ [["action", "id"], ["action", "canonical"], ["action", "paramsHash"],
        ["scope", "chain"]], receipt.path? path = deferred.path? path := by
  obtain ⟨r, r', h2⟩ := h.step2
  simp only [step2_envelopeBinding, Check.ok_iff, ok_iff, asObj_eq_some, Bool.not_eq_false'] at h2
  obtain ⟨env, _, ⟨⟨henv, -⟩, -⟩, deferred?, _, hread, _, _, ⟨hhash, -⟩, -⟩ := h2
  obtain ⟨r, r', h6⟩ := h.step6
  simp only [step6_verdictReceiptBinding, Check.ok_iff, demand_eq_ok_iff, asObj_eq_some] at h6
  obtain ⟨receipt?, _, hverdict, deferred, _, ⟨⟨hdeferred, -⟩, -⟩, h6⟩ := h6
  obtain rfl : deferred? = some deferred := by rw [roleReceipt_eq_doc hc hread]; exact hdeferred
  obtain rfl : receipt? = some receipt := by
    rw [roleReceipt_eq_doc hc hverdict, (h.verdictRole hrole hreceipt).1, hreceipt]
  obtain ⟨hash, hnamed, hcomputed⟩ := eq_of_sameHash hhash
  simp only [Check.ok_iff, refuse_eq_ok_iff, Bool.not_eq_false'] at h6
  obtain ⟨_, _, ⟨hfields, -⟩, hchain, -⟩ := h6
  refine ⟨env, deferred, hash, henv, hdeferred, hcomputed, asStr_eq_some.mp hnamed,
    fun path hpath => ?_⟩
  have hmem : path ∈ boundActionFields ∨ path = ["scope", "chain"] := by
    simpa [boundActionFields, or_assoc] using hpath
  rcases hmem with hmem | rfl
  · exact checkActionFields_eq_ok _ hfields path hmem
  · exact Json.eq_of_same hchain

/-! ## Grants -/

/-- A grant that passed is bound to the receipt that allowed it and to the envelope. -/
structure GrantBound (P : EvidencePlatform) (s : Setup) (trust : Trust) (grant allowed : Json) :
    Prop where
  carriesGrant : s.doc "executionGrant" = some grant
  carriesAllowed : s.doc "allowedReceipt" = some allowed
  accepted : AcceptedUnder P trust.resolvedKeyring grant
  receipt : asStr (grant.get? "approvalReceiptHash") = asStr (allowed.path? ["chain", "hash"])
  params : asStr (grant.get? "paramsHash") = asStr (allowed.path? ["action", "paramsHash"])
  envelope : ∃ hash, refHash P.toIntrinsics ((s.doc "holdEnvelope").getD .null) = some hash ∧
    grant.get? "holdEnvelopeHash" = some (.str hash)

lemma checkGrantBinding_eq_ok (hc : Contained P s) {code : StepCode}
    (h : checkGrantBinding P s tenant trust S code r = (.ok u, r')) :
    ∃ grant allowed, GrantBound P s trust grant allowed := by
  simp only [checkGrantBinding, Check.ok_iff, ok_iff, asObj_eq_some, test_iff] at h
  obtain ⟨allowed?, _, hread, grant, _, ⟨⟨hgrant, -⟩, -⟩, allowed, _, ⟨rfl, -⟩, _, _, ⟨hverify, -⟩, _, _,
    ⟨hreceipt, -⟩, _, _, ⟨hparams, -⟩, -⟩ := h
  obtain ⟨spec, m, haccepted⟩ := verifySide_eq_ok hverify
  obtain ⟨hash, hhash, hpath, -⟩ := haccepted.refHashes (envelopeRef s tenant) (by simp)
  exact ⟨grant, allowed,
    { carriesGrant := hgrant
      carriesAllowed := (roleReceipt_eq_doc hc hread).symm
      accepted := ⟨_, spec, m, rfl, rfl, haccepted⟩
      receipt := hreceipt
      params := hparams
      envelope := ⟨hash, hhash, by simpa [envelopeRef, Json.path?] using hpath⟩ }⟩

/-- The documents of an attempt are members of the bundle. -/
lemma attemptDocuments_eq_ok (hc : Contained P s) {failure : StepFailure} {a : Attempt}
    (h : attemptDocuments s role S failure r = (.ok a, r')) :
    s.doc "executionGrant" = some a.grant ∧ s.doc "executionConsumption" = some a.consumption ∧
      s.doc role.field = some a.receipt ∧ s.doc "allowedReceipt" = some a.allowed := by
  simp only [attemptDocuments, Check.ok_iff, demand_eq_ok_iff, asObj_eq_some] at h
  obtain ⟨receipt?, _, hreceipt, allowed?, _, hallowed, grant, _, ⟨⟨hgrant, -⟩, -⟩, consumption, _,
    ⟨⟨hconsumption, -⟩, -⟩, receipt, _, ⟨rfl, -⟩, allowed, _, ⟨rfl, -⟩, rfl, -⟩ := h
  exact ⟨hgrant, hconsumption, (roleReceipt_eq_doc hc hreceipt).symm,
    (roleReceipt_eq_doc hc hallowed).symm⟩

/-- What step 10 or 11 establishes of an attempt. -/
structure Attempted (P : EvidencePlatform) (s : Setup) (trust : Trust) (role : ReceiptRole)
    (a : Attempt) : Prop where
  grant : s.doc "executionGrant" = some a.grant
  consumption : s.doc "executionConsumption" = some a.consumption
  receipt : s.doc role.field = some a.receipt
  allowed : s.doc "allowedReceipt" = some a.allowed
  bound : GrantBound P s trust a.grant a.allowed
  consumed : AcceptedUnder P trust.resolvedKeyring a.consumption

lemma checkConsumption_eq_ok (hc : Contained P s)
    {code : StepCode} {failure : StepFailure} {reason : String} {a : Attempt} {r1 r1' : Report} (hdocs : attemptDocuments s role S failure r = (.ok a, r'))
    (h : checkConsumption P s tenant trust S code reason a r1 = (.ok u, r1')) :
    Attempted P s trust role a := by
  obtain ⟨hgrant, hconsumption, hreceipt, hallowed⟩ := attemptDocuments_eq_ok hc hdocs
  simp only [checkConsumption, Check.ok_iff, mapError_eq_ok_iff] at h
  obtain ⟨_, _, hbinding, _, _, ⟨hverify, -⟩, -⟩ := h
  obtain ⟨grant, allowed, hbound⟩ := checkGrantBinding_eq_ok hc hbinding
  obtain rfl := Option.mem_unique hbound.carriesGrant hgrant
  obtain rfl := Option.mem_unique hbound.carriesAllowed hallowed
  obtain ⟨spec, m, haccepted⟩ := verifySide_eq_ok hverify
  exact ⟨hgrant, hconsumption, hreceipt, hallowed, hbound, _, spec, m, rfl, rfl, haccepted⟩

section outcomes

include h hc

lemma Passed.executed (ho : s.outcome = .EXECUTED) : ∃ a, Attempted P s trust .executedReceipt a := by
  obtain ⟨r, r', h10⟩ := h.step10
  rw [step10_executed, if_pos ho] at h10
  simp only [Check.bind_eq_ok_iff] at h10
  obtain ⟨a, _, hdocs, _, _, hconsumption, -⟩ := h10
  exact ⟨a, checkConsumption_eq_ok hc hdocs hconsumption⟩

lemma Passed.failed (ho : s.outcome = .EXECUTION_FAILED) : ∃ a, Attempted P s trust .failedReceipt a := by
  obtain ⟨r, r', h11⟩ := h.step11
  rw [step11_executionFailed, if_pos ho] at h11
  simp only [Check.bind_eq_ok_iff] at h11
  obtain ⟨a, _, hdocs, _, _, hconsumption, -⟩ := h11
  exact ⟨a, checkConsumption_eq_ok hc hdocs hconsumption⟩

lemma Passed.unknown (ho : s.outcome = .UNKNOWN_AFTER_DISPATCH) :
    (∃ grant allowed, GrantBound P s trust grant allowed) ∧
      ∃ unc, s.doc "executionUncertainty" = some unc ∧
        AcceptedUnder P trust.resolvedKeyring unc := by
  obtain ⟨r, r', h12⟩ := h.step12
  rw [step12_unknown, if_pos ho] at h12
  simp only [Check.ok_iff, ok_iff, asObj_eq_some] at h12
  obtain ⟨grant, _, -, unc, _, ⟨⟨hunc, -⟩, -⟩, _, _, hbinding, _, _, ⟨hverify, -⟩, -⟩ := h12
  obtain ⟨spec, m, haccepted⟩ := verifySide_eq_ok hverify
  exact ⟨checkGrantBinding_eq_ok hc hbinding, unc, hunc, _, spec, m, rfl, rfl, haccepted⟩

lemma Passed.grantExpired (ho : s.outcome = .GRANT_EXPIRED_NO_CONSUMPTION_EVIDENCE) :
    ∃ grant allowed, GrantBound P s trust grant allowed := by
  obtain ⟨r, r', h13⟩ := h.step13
  rw [step13_grantExpired, if_pos ho] at h13
  simp only [Check.bind_eq_ok_iff] at h13
  obtain ⟨_, _, -, _, _, -, _, _, -, _, _, hbinding, -⟩ := h13
  exact checkGrantBinding_eq_ok hc hbinding

lemma Passed.approvedOnly (ho : s.outcome = .APPROVED_NO_EXECUTION_EVIDENCE) :
    ∃ allowed, s.doc "allowedReceipt" = some allowed := by
  obtain ⟨r, r', h14⟩ := h.step14
  rw [step14_approvedNoExec, if_pos ho] at h14
  simp only [Check.ok_iff, refuse_eq_ok_iff] at h14
  obtain ⟨allowed?, _, hread, _, _, ⟨hsome, -⟩, -⟩ := h14
  rw [roleReceipt_eq_doc hc hread] at hsome
  exact Option.isSome_iff_exists.mp (Option.isNone_eq_false_iff.mp hsome)

/-- Whatever grant a bundle carries is bound. -/
lemma Passed.grantBound {grant : Json} (hgrant : s.doc "executionGrant" = some grant) :
    ∃ allowed, GrantBound P s trust grant allowed := by
  have hunion : "executionGrant" ∈ OUTCOME_ARTIFACT_UNION s.outcome ∨
      "executionGrant" ∈ STEP_OWNED_ABSENCE s.outcome :=
    h.union (by decide) (by rw [hgrant]; rfl)
  have hbound : ∃ grant allowed, GrantBound P s trust grant allowed := by
    cases ho : s.outcome with
    | EXECUTED =>
      obtain ⟨a, ha⟩ := h.executed hc ho
      exact ⟨_, _, ha.bound⟩
    | EXECUTION_FAILED =>
      obtain ⟨a, ha⟩ := h.failed hc ho
      exact ⟨_, _, ha.bound⟩
    | UNKNOWN_AFTER_DISPATCH => exact (h.unknown hc ho).1
    | GRANT_EXPIRED_NO_CONSUMPTION_EVIDENCE => exact h.grantExpired hc ho
    | _ => rw [ho] at hunion; exact absurd hunion (by decide)
  obtain ⟨grant', allowed, hbound⟩ := hbound
  obtain rfl := Option.mem_unique hbound.carriesGrant hgrant
  exact ⟨allowed, hbound⟩

/-- Every outcome but a denial, an expiry and a cancellation rests on an allowed receipt. -/
lemma Passed.allowed (hdenied : s.outcome ≠ .DENIED) (hexpired : s.outcome ≠ .EXPIRED)
    (hcancelled : s.outcome ≠ .CANCELLED_LOCAL_STATE_LOST) :
    ∃ allowed, s.doc "allowedReceipt" = some allowed := by
  cases ho : s.outcome with
  | EXECUTED =>
    obtain ⟨a, ha⟩ := h.executed hc ho
    exact ⟨_, ha.allowed⟩
  | EXECUTION_FAILED =>
    obtain ⟨a, ha⟩ := h.failed hc ho
    exact ⟨_, ha.allowed⟩
  | UNKNOWN_AFTER_DISPATCH =>
    obtain ⟨⟨_, allowed, hbound⟩, -⟩ := h.unknown hc ho
    exact ⟨allowed, hbound.carriesAllowed⟩
  | GRANT_EXPIRED_NO_CONSUMPTION_EVIDENCE =>
    obtain ⟨_, allowed, hbound⟩ := h.grantExpired hc ho
    exact ⟨allowed, hbound.carriesAllowed⟩
  | APPROVED_NO_EXECUTION_EVIDENCE => exact h.approvedOnly hc ho
  | DENIED => exact absurd ho hdenied
  | EXPIRED => exact absurd ho hexpired
  | CANCELLED_LOCAL_STATE_LOST => exact absurd ho hcancelled

end outcomes

/-! ## The verdict of a human -/

lemma signerTypeOf?_eq_some {t : String} {type : SignerType} (h : signerTypeOf? t = some type) :
    type.text = t := by
  simpa using List.find?_some h

lemma present?_of_nullable {v : Option Json} (h : nullable v = none) : Artifact.present? v = none := by
  rcases v with _ | v
  · rfl
  · cases v with
    | null => rfl
    | _ => simp [nullable] at h

lemma mem_receipts (h : s.doc role.field = some receipt) : receipt ∈ s.receipts := by
  unfold Setup.receipts
  cases role with
  | deferredReceipt => exact List.mem_append_left _ (by rw [show s.doc "deferredReceipt" = _ from h]; simp)
  | _ => exact List.mem_append_right _ (List.mem_filterMap.mpr ⟨_, by decide, h⟩)

lemma kid_of_path
    (h : receipt.path? ["sig", "kid"] = some (.str kid)) : Receipt.kid receipt = kid := by
  simp [Receipt.kid, Json.strAt, Json.strAt?, h, Json.asStr?]

lemma asStr_hash (h : Schema.ReceiptShape receipt) :
    asStr (receipt.path? ["chain", "hash"]) = some (Receipt.hash receipt) := by
  obtain ⟨ms, hms, hhash⟩ := h.hash_eq
  simp [asStr, Json.path?, hms, hhash, Json.asStr?]

lemma exists_paramsHash (h : Schema.ReceiptShape receipt) :
    ∃ t, receipt.path? ["action", "paramsHash"] = some (.str t) := by
  obtain ⟨agent, ms, governance, -, hms, -, -, haction, -⟩ := h.parts
  obtain ⟨t, ht, -⟩ := haction.paramsHash
  exact ⟨t, by simpa [Json.path?, hms] using ht⟩

include h hc in
/-- A verdict receipt of an accepted bundle is an approver's. -/
lemma Passed.humanVerdict (hroot : ∀ e ∈ s.rootKeyring, e.2.type = .ROOT)
    (hkeys : man.get? "keys" = some (.arr trust.manifestKeys)) (hrole : verdictValue role = some value)
    (hreceipt : s.doc role.field = some receipt) : HumanVerdict P s man value receipt := by
  obtain ⟨d, hd⟩ := h.decisionPresent hc hrole hreceipt
  obtain ⟨kid, entry, hkid, -, hlookup, htype, ⟨approves, htier, hholds⟩, hunrevoked, hsigned⟩ :=
    h.approver hc hrole hreceipt hd
  obtain ⟨-, -, ⟨envHash, henvHash, hnamesEnv⟩, hvalue⟩ := h.decided hd
  obtain ⟨hverdict, hdenied⟩ := h.verdictRole hrole hreceipt
  obtain ⟨env, deferred, hash, henv, hdeferred, hbound⟩ := h.bound hc hrole hreceipt
  rw [henv, Option.getD_some] at henvHash
  obtain ⟨del, man', env', hrooted⟩ := h.rooted
  rw [hrooted.resolved] at hlookup
  obtain ⟨v, hv, hchain⟩ := h.chain
  obtain ⟨⟨key, hkey, hentry⟩, hpub⟩ := exists_approver hroot hlookup htype hv
  obtain ⟨-, hkeyPub, ⟨t, ht, htypeOf⟩, hroles, -, hrevoked⟩ := manifestKeyEntry_eq_some hentry
  have hmem := mem_receipts hreceipt
  refine ⟨⟨trust.manifestKeys, key, entry.publicKey, d, hkeys, hkey, ?_, hkeyPub,
    (asObj_eq_some.mp hd).1, ?_, hsigned, ?_, env, envHash, henv, henvHash, hnamesEnv⟩,
    ⟨env, deferred, hash, henv, hdeferred, hbound⟩, fun grant hgrant => ?_⟩
  · refine ⟨?_, ⟨approves, htier, ?_⟩, present?_of_nullable (hrevoked.symm.trans hunrevoked)⟩
    · rw [ht, ← signerTypeOf?_eq_some htypeOf, htype]
      rfl
    · rw [hroles, List.mem_filterMap] at hholds
      obtain ⟨w, hw, hstr⟩ := hholds
      rwa [← Json.asStr?_eq_some.mp hstr]
  · rw [hvalue]
    by_cases ho : s.outcome = .DENIED
    · rw [if_pos ho, hdenied.mp ho]
    · rw [if_neg ho]
      cases role with
      | allowedReceipt => rw [← Option.some.inj hrole]
      | blockedReceipt => exact absurd (hdenied.mpr (Option.some.inj hrole).symm) ho
      | _ => cases hrole
  · obtain ⟨pub, input, hknown, hinput, hverify, -⟩ := hchain.authentic receipt hmem
    rw [kid_of_path hkid] at hknown
    obtain rfl := Option.mem_unique hpub hknown
    exact ⟨input, hinput, hverify⟩
  · obtain ⟨allowed, hgrantBound⟩ := h.grantBound hc hgrant
    have hallowed : role = .allowedReceipt := by
      rw [← hverdict]
      exact (h.verdictRole verdictValue_allowed hgrantBound.carriesAllowed).1
    subst hallowed
    obtain rfl := Option.mem_unique hgrantBound.carriesAllowed hreceipt
    have hshape := hchain.shape allowed hmem
    obtain ⟨params, hparams⟩ := exists_paramsHash hshape
    obtain ⟨grantEnvHash, hgrantEnv, hnames⟩ := hgrantBound.envelope
    rw [henv, Option.getD_some] at hgrantEnv
    refine ⟨asStr_eq_some.mp (hgrantBound.receipt.trans (asStr_hash hshape)), ?_, env, grantEnvHash,
      henv, hgrantEnv, hnames⟩
    rw [hparams]
    exact asStr_eq_some.mp (hgrantBound.params.trans (asStr_eq_some.mpr hparams))

end Evidence

/-- Human approval is proven.  An accepted bundle goes back to the external root, carries an allowed
receipt unless it was denied, expired or cancelled, and every allowed or blocked receipt it carries is
the verdict of one approver of the manifest, with the tier the action needs and not revoked, on the
action that was deferred. -/
theorem accepted_human_approval (P : EvidencePlatform) (clock : String) (o : VerifyEvidenceOptions)
    (text : List Char) (h : (verifyEvidence P clock o text).verdict = .VALID_FULL_CHAIN ∨
      (verifyEvidence P clock o text).verdict = .VALID_SEGMENT_ONLY) :
    ∃ (s : Evidence.Setup) (del man : Json), Evidence.Admitted P clock o text s ∧
      Evidence.RootedManifest P s del man ∧
      (s.outcome ≠ .DENIED → s.outcome ≠ .EXPIRED → s.outcome ≠ .CANCELLED_LOCAL_STATE_LOST →
        ∃ allowed, s.bundle.get? "allowedReceipt" = some allowed) ∧
      (∀ receipt, s.bundle.get? "allowedReceipt" = some receipt →
        Evidence.HumanVerdict P s man "APPROVE" receipt) ∧
      ∀ receipt, s.bundle.get? "blockedReceipt" = some receipt →
        Evidence.HumanVerdict P s man "DENY" receipt := by
  obtain ⟨s, tenant, trust, decision, anchoring, hread, hpassed, -⟩ :=
    Evidence.verifyEvidence_valid h
  obtain ⟨del, man, hrooted, hkeys⟩ := hpassed.rootedManifest
  have hc : Evidence.Contained P s := hread.contained
  have hroot : ∀ e ∈ s.rootKeyring, e.2.type = .ROOT := fun e he => by
    rw [hread.rootKeyring] at he
    exact Evidence.asRootKeyEntryMap_type he
  refine ⟨s, del, man, hread, hrooted, hpassed.allowed hc, fun receipt hreceipt => ?_,
    fun receipt hreceipt => ?_⟩
  · exact hpassed.humanVerdict hc hroot hkeys Evidence.verdictValue_allowed hreceipt
  · exact hpassed.humanVerdict hc hroot hkeys Evidence.verdictValue_blocked hreceipt

open Evidence Evidence.SampleBundle in
/-- The allowed receipt of the approval is the verdict of the approver the manifest lists. -/
theorem accepted_human_approval_approved :
    ∃ s del man, Admitted approvedPlatform "" options approvedText s ∧
      RootedManifest approvedPlatform s del man ∧
      HumanVerdict approvedPlatform s man "APPROVE" approvedAllowed := by
  obtain ⟨s, del, man, hread, hrooted, -, hallowed, -⟩ :=
    accepted_human_approval approvedPlatform "" options approvedText (.inl verdict_approved)
  refine ⟨s, del, man, hread, hrooted, hallowed approvedAllowed ?_⟩
  rw [(outcome_approved hread).1]
  rfl

end NoaMandate
