import NoaMandate.Artifacts.Verify

/-!
# What an accepted artifact establishes

The verifier is read once: `Accepted` lists what holds of an artifact that it accepted, layer by
layer, and `Signed` what holds of its signature.  Nothing later unfolds the verifier.
-/

namespace NoaMandate

open Pipeline
open SchemaEval (evalSchema closedTo)

namespace Artifact

variable {P : ArtifactPlatform} {ctx : VerifyContext} {doc : Json} {spec : String} {m : ArtifactMeta}

/-- The signature of an artifact of the kind `spec` verifies under the key `entry` of `kid`. -/
structure Signed (P : ArtifactPlatform) (ctx : VerifyContext) (doc : Json) (spec : String)
    (m : ArtifactMeta) (domain kid : String) (entry : KeyEntry) : Prop where
  named : doc.strAt? ["sig", "kid"] = some kid
  /-- The artifact names its own signer. -/
  identity : ∀ path, signerIdentityPath spec doc = some path → doc.get? path = some (.str kid)
  known : ctx.keyring.lookup kid = some entry
  verified : ∃ input value, canonicalize (withoutSig doc) = some input ∧
    doc.strAt? ["sig", "value"] = some value ∧
    P.verifyEd25519 entry.publicKey (P.signingMessage domain input) value = true
  unrevoked : entry.revokedAt = none
  type : ∀ t, m.signerType = some t → entry.type = t
  role : ∀ roles, requiredRoles ctx spec m = some roles → ∃ r ∈ roles, r ∈ entry.roles

/-- An artifact the verifier accepted. -/
structure Accepted (P : ArtifactPlatform) (ctx : VerifyContext) (doc : Json) (spec : String)
    (m : ArtifactMeta) : Prop where
  kind : doc.getStr? "spec" = some spec ∧ ARTIFACTS.lookup spec = some m
  shape : ∃ schema, ctx.schemas.lookup spec = some schema ∧
    evalSchema P.toSchemaPlatform schema doc = []
  signed : ∀ domain, m.domain = some domain → ∃ kid entry, Signed P ctx doc spec m domain kid entry
  /-- The documents it names by hash are the ones the context gives. -/
  refHashes : ∀ rc ∈ ctx.refHashChecks, ∃ hash, computeRefHash P.toIntrinsics rc.rule rc.artifact =
    some hash ∧ doc.path? rc.path = some (.str hash) ∧
      ∀ e ∈ rc.refEquals, rc.artifact.path? e.1 = some e.2
  equals : ∀ e ∈ ctx.equals, doc.path? e.1 = some e.2

lemma sigOf_eq_some {kid value : String} (h : sigOf doc = some (kid, value)) :
    doc.strAt? ["sig", "kid"] = some kid ∧ doc.strAt? ["sig", "value"] = some value := by
  unfold sigOf at h
  split at h
  · rename_i hkid hvalue
    obtain ⟨rfl, rfl⟩ := Prod.mk.inj (Option.some.inj h)
    exact ⟨hkid, hvalue⟩
  · cases h

variable {u : Unit}

/-- A key that passes is not revoked, and has the type and one of the roles the kind needs. -/
lemma checkKeyState_eq_ok {timeSchema : Option Json} {kid : String} {entry : KeyEntry}
    (h : checkKeyState P ctx timeSchema doc spec m kid entry = .ok u) :
    entry.revokedAt = none ∧ (∀ t, m.signerType = some t → entry.type = t) ∧
      ∀ roles, requiredRoles ctx spec m = some roles → ∃ r ∈ roles, r ∈ entry.roles := by
  simp only [checkKeyState, bind_eq_ok_iff] at h
  obtain ⟨_, -, _, hrevoked, _, htype, hrole⟩ := h
  refine ⟨?_, fun t ht => ?_, fun roles hroles => ?_⟩
  · cases hr : entry.revokedAt with
    | none => rfl
    | some at' => rw [hr] at hrevoked; cases hrevoked
  · rw [ht] at htype
    simpa [checkSignerType] using htype
  · rw [hroles] at hrole
    simpa [checkSignerRole] using hrole

lemma checkSignature_eq_ok {timeSchema : Option Json} {domain : String}
    (h : checkSignature P ctx timeSchema doc spec m domain = .ok u) :
    ∃ kid entry, Signed P ctx doc spec m domain kid entry := by
  simp only [checkSignature, ok_iff, Bool.not_eq_false'] at h
  obtain ⟨⟨kid, value⟩, hsig, _, hidentity, entry, hentry, _, -, _, -, input, hinput, _, hverified,
    hstate⟩ := h
  obtain ⟨hkid, hvalue⟩ := sigOf_eq_some hsig
  obtain ⟨hrevoked, htype, hrole⟩ := checkKeyState_eq_ok hstate
  refine ⟨kid, entry, hkid, fun path hpath => ?_, hentry, ⟨input, value, hinput, hvalue, hverified⟩,
    hrevoked, htype, hrole⟩
  rw [hpath] at hidentity
  exact Json.eq_of_same (by simpa [checkIdentity] using hidentity)

lemma checkRefEquals_eq_ok {rc : RefHashCheck} (es : List (List String × Json)) :
    checkRefEquals rc es = .ok u → ∀ e ∈ es, rc.artifact.path? e.1 = some e.2 := by
  refine forall_of_checks (fun e es h => ?_) es
  simp only [checkRefEquals, ok_iff, Bool.not_eq_false'] at h
  obtain ⟨_, hsame, hrest⟩ := h
  exact ⟨Json.eq_of_same hsame, hrest⟩

lemma checkEquals_eq_ok (es : List (List String × Json)) :
    checkEquals doc es = .ok u → ∀ e ∈ es, doc.path? e.1 = some e.2 := by
  refine forall_of_checks (fun e es h => ?_) es
  simp only [checkEquals, ok_iff, Bool.not_eq_false'] at h
  obtain ⟨_, hsame, hrest⟩ := h
  exact ⟨Json.eq_of_same hsame, hrest⟩

lemma checkRefHashes_eq_ok {I : Intrinsics} (rcs : List RefHashCheck) :
    checkRefHashes I doc rcs = .ok u → ∀ rc ∈ rcs, ∃ hash,
      computeRefHash I rc.rule rc.artifact = some hash ∧ doc.path? rc.path = some (.str hash) ∧
        ∀ e ∈ rc.refEquals, rc.artifact.path? e.1 = some e.2 := by
  refine forall_of_checks (fun rc rcs h => ?_) rcs
  simp only [checkRefHashes, ok_iff, Bool.not_eq_false'] at h
  obtain ⟨hash, hhash, _, hsame, _, hequals, hrest⟩ := h
  exact ⟨⟨hash, hhash, Json.eq_of_same hsame, checkRefEquals_eq_ok _ hequals⟩, hrest⟩

lemma truthy?_eq_some {v : Option Json} {w : Json} (h : SchemaEval.truthy? v = some w) :
    v = some w := by
  unfold SchemaEval.truthy? at h
  split at h <;> first | exact h | cases h

/-- The verifier, read as what it establishes. -/
theorem verifyArtifact_eq_ok (h : verifyArtifact P doc ctx = .ok u) :
    ∃ spec m, Accepted P ctx doc spec m := by
  simp only [verifyArtifact, ok_iff, Bool.not_eq_false', List.isEmpty_iff] at h
  obtain ⟨_, -, ⟨spec, m⟩, hkind, schema, hschema, _, hshape, _, hsig, _, hrefs, _, -, _, hequals,
    -⟩ := h
  simp only [kindOf, Option.bind_eq_some_iff, Option.map_eq_some_iff, Prod.mk.injEq] at hkind
  obtain ⟨spec, hspec, m, hmeta, rfl, rfl⟩ := hkind
  refine ⟨spec, m, ⟨hspec, hmeta⟩, ⟨schema, truthy?_eq_some hschema, hshape⟩, fun domain hdomain => ?_,
    checkRefHashes_eq_ok _ hrefs, checkEquals_eq_ok _ hequals⟩
  rw [hdomain] at hsig
  exact checkSignature_eq_ok hsig

/-- Among the kinds with a schema, only `spec` admits the member `k`. -/
def OnlyKindWith (k spec : String) (schemas : List (String × Json)) : Prop :=
  ∀ e ∈ schemas, e.1 ≠ spec → closedTo k e.2 = true

instance (k spec : String) (schemas : List (String × Json)) :
    Decidable (OnlyKindWith k spec schemas) :=
  inferInstanceAs (Decidable (∀ e ∈ schemas, e.1 ≠ spec → closedTo k e.2 = true))

/-- Among the kinds with a schema, only `spec` admits all of the members `ks`. -/
def OnlyKindWithAll (ks : List String) (spec : String) (schemas : List (String × Json)) : Prop :=
  ∀ e ∈ schemas, e.1 ≠ spec → ∃ k ∈ ks, closedTo k e.2 = true

instance (ks : List String) (spec : String) (schemas : List (String × Json)) :
    Decidable (OnlyKindWithAll ks spec schemas) :=
  inferInstanceAs (Decidable (∀ e ∈ schemas, e.1 ≠ spec → ∃ k ∈ ks, closedTo k e.2 = true))

/-- An accepted artifact with members that only one kind admits together is of that kind. -/
lemma Accepted.spec_eq_of_all {ks : List String} {only : String} (h : Accepted P ctx doc spec m)
    (honly : OnlyKindWithAll ks only ctx.schemas) (hks : ∀ k ∈ ks, ∃ w, doc.get? k = some w) :
    spec = only := by
  by_contra hne
  obtain ⟨schema, hschema, hshape⟩ := h.shape
  obtain ⟨k, hk, hclosed⟩ := honly _ (Assoc.mem_of_lookup hschema) hne
  obtain ⟨w, hw⟩ := hks k hk
  exact SchemaEval.evalSchema_ne_nil_of_closedTo hclosed hw hshape

/-- An accepted artifact with a member that only one kind admits is of that kind. -/
lemma Accepted.spec_eq {k only : String} {w : Json} (h : Accepted P ctx doc spec m)
    (honly : OnlyKindWith k only ctx.schemas) (hk : doc.get? k = some w) : spec = only := by
  have hall : OnlyKindWithAll [k] only ctx.schemas := fun e he hne => ⟨k, by simp, honly e he hne⟩
  exact h.spec_eq_of_all hall (by simpa using ⟨w, hk⟩)

end Artifact

end NoaMandate
