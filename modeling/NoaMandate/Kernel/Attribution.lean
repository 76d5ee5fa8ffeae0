import NoaMandate.Kernel.Historical
import NoaMandate.Kernel.Retirement

/-!
# What historical attribution says

`Attributable` states what a checkpoint has to show about a chain before its receipts are attributed
as of the checkpoint's instant, and `historical_attribution_iff` that the verifier attributes exactly
then.

The receipts are verified on a static key map made from the keyring's public material.  That map is
read as a lifecycle when a key id `spec` has the lifecycle's own spec as its public key, and the
verification then fails; this is the one keyring for which the answer is not the one under the keyring
without its retirements (`retained_of_spec`).
-/

namespace NoaMandate

open Pipeline

namespace Historical

variable {I : Intrinsics} {v : ParsedVerificationKeyring} {rs : List Json}

/-! ## The retained key map -/

/-- The keyring the retained key map is read as. -/
def static (v : ParsedVerificationKeyring) : ParsedVerificationKeyring :=
  ⟨v.keyring, [], [], [], false⟩

lemma parseStaticKeys_retained (label : String) (keys : List (String × String))
    (h : ∀ e ∈ keys, e.2 ≠ "") :
    parseStaticKeys label (keys.map fun e => (e.1, .str e.2)) = .ok keys := by
  induction keys with
  | nil => rfl
  | cons e keys ih =>
    have hpub : nonEmptyStr? (some (.str e.2)) = some e.2 := if_neg (h e (.head _))
    rw [List.map_cons, parseStaticKeys, hpub,
      ih fun e he => h e (.tail _ he)]
    rfl

lemma lookup_retained (keys : List (String × String)) (k : String) :
    (keys.map fun e => (e.1, Json.str e.2)).lookup k = (keys.lookup k).map Json.str :=
  Assoc.lookup_map keys (fun _ => Json.str) k

variable {label : String}

variable {w : ParsedVerificationKeyring} {k : Json} {s : Int} {ordered : List Json}
   {docs : HistoricalDocuments} {classification : HistoricalVerificationClassification}
   {code : HistoricalVerificationCode} {integrity : HistoricalIntegrity}

/-- A key map with the lifecycle's spec under `spec` is refused. -/
lemma retained_of_spec (hspec : v.keyring.lookup "spec" = some SIGNING_KEY_LIFECYCLE_SPEC) :
    parseVerificationKeyring I label (retainedKeyring v) ≠ .ok w := by
  intro h
  simp only [parseVerificationKeyring, retainedKeyring, members?, ok_iff] at h
  obtain ⟨top, htop, h⟩ := h
  cases htop
  have hlooks : looksLikeLifecycle (v.keyring.map fun e => (e.1, Json.str e.2)) = true := by
    simp [looksLikeLifecycle, lookup_retained, hspec]
  rw [if_pos hlooks] at h
  simp only [parseLifecycle, ok_iff, lookup_retained] at h
  obtain ⟨_, -, entries, hentries, -⟩ := h
  -- the member `keys`, if there is one, is a public key and not an object
  cases hkeys : v.keyring.lookup "keys" with
  | none => rw [hkeys] at hentries; cases hentries
  | some pub => rw [hkeys] at hentries; cases hentries

lemma parseVerificationKeyring_retained (hne : ∀ e ∈ v.keyring, e.2 ≠ "")
    (hspec : v.keyring.lookup "spec" ≠ some SIGNING_KEY_LIFECYCLE_SPEC) :
    parseVerificationKeyring I label (retainedKeyring v) = .ok (static v) := by
  have hlooks : looksLikeLifecycle (v.keyring.map fun e => (e.1, Json.str e.2)) = false := by
    have hspec' : ¬ (v.keyring.map fun e => (e.1, Json.str e.2)).lookup "spec" =
        some (.str SIGNING_KEY_LIFECYCLE_SPEC) := by
      rw [lookup_retained, Option.map_eq_some_iff]
      rintro ⟨s, hs, heq⟩
      exact hspec (hs.trans (congrArg some (Json.str.inj heq)))
    have hkeys : "keys" ∈ (v.keyring.map fun e => (e.1, Json.str e.2)).map Prod.fst →
        Schema.str ((v.keyring.map fun e => (e.1, Json.str e.2)).lookup "keys") = true := by
      intro hmem
      rw [lookup_retained]
      rw [List.map_map] at hmem
      cases hpub : v.keyring.lookup "keys" with
      | none => exact absurd hmem (Assoc.lookup_eq_none_iff.mp hpub)
      | some pub => rfl
    simp only [looksLikeLifecycle, hspec', decide_false, Bool.false_or, Bool.and_eq_false_iff,
      Bool.not_eq_false']
    by_cases hmem : "keys" ∈ (v.keyring.map fun e => (e.1, Json.str e.2)).map Prod.fst
    · exact Or.inr (hkeys hmem)
    · left
      simpa using hmem
  simp only [parseVerificationKeyring, retainedKeyring, members?, ok_iff]
  refine ⟨_, rfl, ?_⟩
  rw [hlooks, if_neg (by decide)]
  simp only [parseStaticKeys_retained label v.keyring hne, ok_iff]
  exact ⟨_, rfl, rfl⟩

/-! ## The chain -/

lemma authentic_of_same {v : ParsedVerificationKeyring} (hk : v.keyring = w.keyring)
    (hr : v.retiredKids = w.retiredKids) {domain kid value : String} {input : Option (List Char)}
    (h : Verify.Authentic I v domain kid input value) : Verify.Authentic I w domain kid input value := by
  unfold Verify.Authentic at h ⊢
  rwa [← hk, ← hr]

/-- A chain verifies under keyrings that agree on keys and retirements. -/
lemma chainValid_of_same {v : ParsedVerificationKeyring} (hk : v.keyring = w.keyring)
    (hr : v.retiredKids = w.retiredKids) {bound : Nat}
    {manifest : Option (List (String × List String))} {checkpoint : Option Json}
    (h : Verify.ChainValid I bound v manifest checkpoint rs) :
    Verify.ChainValid I bound w manifest checkpoint rs :=
  { h with
    authentic := fun r hr' => authentic_of_same hk hr (h.authentic r hr')
    closed := fun cp hcp =>
      { h.closed cp hcp with authentic := authentic_of_same hk hr (h.closed cp hcp).authentic } }

lemma clearKeys_str {m : String × Json} {s : String} (h : m.2 = .str s) :
    (if m.1 = "keys" then clearKeys m.2 else m.2) = m.2 := by
  rw [h]
  split
  · rfl
  · rfl

/-- Without its retirements, a keyring has the same keys and none is retired. -/
lemma parse_withoutRetirement (h : parseVerificationKeyring I label k = .ok v) :
    ∃ w, parseVerificationKeyring I label (withoutRetirement k) = .ok w ∧
      w.keyring = v.keyring ∧ w.retiredKids = [] := by
  cases hlife : v.lifecycle with
  | true => exact ⟨_, parseVerificationKeyring_withoutRetirement h hlife, rfl, rfl⟩
  | false =>
    obtain ⟨top, rfl, ⟨hlife', -⟩ | ⟨keys, hkeys, rfl⟩⟩ := parseVerificationKeyring_cases h
    · rw [hlife] at hlife'
      cases hlife'
    · refine ⟨_, ?_, rfl, rfl⟩
      have hmap : top.map (fun m => (m.1, if m.1 = "keys" then clearKeys m.2 else m.2)) = top := by
        refine (List.map_congr_left fun m hm => ?_).trans (List.map_id top)
        obtain ⟨s, hs⟩ := parseStaticKeys_str top hkeys m hm
        rw [clearKeys_str hs]
        rfl
      rw [withoutRetirement, hmap]
      exact h

/-- What a chain without a checkpoint has to be. -/
lemma valid_withoutRetirement_iff {manifest : Option Json}
    (h : parseVerificationKeyring I "keyring" k = .ok v) :
    (verifyParsedChain I {} ⟨some (withoutRetirement k), none, manifest⟩ (.arr rs)).status = .VALID ↔
      ∃ m, Verify.admitOptionalManifest manifest = .ok m ∧
        Verify.ChainValid I 1000000 (static v) m none rs := by
  rw [Verify.verifyParsedChain_valid_iff_stages, Verify.stages_valid_iff rfl rfl]
  obtain ⟨w, hw, hkeys, hretired⟩ := parse_withoutRetirement h
  constructor
  · rintro ⟨rs', v', m, hrs, ⟨k', hk', hparse⟩, hm, hvalid⟩
    obtain rfl := Json.arr.inj hrs
    cases hk'
    obtain rfl := ok_unique hw hparse
    exact ⟨m, hm, chainValid_of_same (w := static v) hkeys hretired hvalid⟩
  · rintro ⟨m, hm, hvalid⟩
    exact ⟨rs, w, m, rfl, ⟨_, rfl, hw⟩, hm,
      chainValid_of_same (v := static v) hkeys.symm hretired.symm hvalid⟩

lemma stages_signaturesVerified {o : VerifyOptions} {docs : VerifyDocuments} {receipts : Json}
    {res : VerifyResult} (h : Verify.stages I o docs receipts = .ok res)
    (hvalid : res.status = .VALID) : res.signaturesVerified = true := by
  rw [Verify.stages_eq] at h
  simp only [Verify.judged, ok_iff] at h
  obtain ⟨a, -, verification, -, st, -, tail, -, rfl⟩ := h
  obtain ⟨hclean, hsome⟩ := Verify.conclude_valid_iff.mp hvalid
  unfold Verify.conclude
  rw [hclean]
  exact hsome

/-- The receipts pass the retained key map exactly when they verify without the retirements and the
map is not mistaken for a lifecycle. -/
lemma chainResult_valid_iff {identityManifest : Option (Except String Json)}
    (h : parseVerificationKeyring I "keyring" k = .ok v) :
    ((chainResult I {} v identityManifest (.arr rs)).status = .VALID ∧
        (chainResult I {} v identityManifest (.arr rs)).signaturesVerified = true) ↔
      v.keyring.lookup "spec" ≠ some SIGNING_KEY_LIFECYCLE_SPEC ∧
        ∃ manifest m, readManifest identityManifest = .ok manifest ∧
          Verify.admitOptionalManifest manifest = .ok m ∧
          Verify.ChainValid I 1000000 (static v) m none rs := by
  have hne := publicKey_ne_empty h
  constructor
  · rintro ⟨hvalid, -⟩
    unfold chainResult at hvalid
    cases hstages : chainStages I {} v identityManifest (.arr rs) with
    | error e =>
      have hnot : ErrorsIn Verify.NotValid (chainStages I {} v identityManifest (.arr rs)) :=
        .bind (Verify.errorsIn_admitReceipts _ _) fun _ =>
          .bind (.mapError fun _ => Verify.notValid_fail (by decide)) fun _ =>
            Verify.errorsIn_stages _ _ _ _
      rw [hstages] at hvalid
      exact absurd hvalid (hnot e hstages)
    | ok res =>
      rw [hstages] at hvalid
      simp only [chainStages, ok_iff] at hstages
      obtain ⟨_, -, manifest, hmanifest, hstages⟩ := hstages
      obtain ⟨rs', w, m, hrs, ⟨k', hk', hparse⟩, hm, hchain⟩ :=
        (Verify.stages_valid_iff rfl rfl).mp ⟨res, hstages, hvalid⟩
      obtain rfl := Json.arr.inj hrs
      cases hk'
      have hspec : v.keyring.lookup "spec" ≠ some SIGNING_KEY_LIFECYCLE_SPEC := fun hspec =>
        retained_of_spec hspec hparse
      rw [parseVerificationKeyring_retained hne hspec, Except.ok.injEq] at hparse
      exact ⟨hspec, manifest, m, hmanifest, hm, hparse ▸ hchain⟩
  · rintro ⟨hspec, manifest, m, hmanifest, hm, hchain⟩
    have hrun : ∃ res, Verify.stages I {} ⟨some (retainedKeyring v), none, manifest⟩ (.arr rs) = .ok res ∧
        res.status = .VALID := (Verify.stages_valid_iff rfl rfl).mpr
      ⟨rs, static v, m, rfl, ⟨_, rfl, parseVerificationKeyring_retained hne hspec⟩, hm, hchain⟩
    obtain ⟨res, hstages, hvalid⟩ := hrun
    have hreceipts : Verify.admitReceipts {} (.arr rs) = .ok rs :=
      Verify.admitReceipts_eq_ok_iff.mpr ⟨rfl, hchain.nonempty, hchain.bounded⟩
    have hrun : chainStages I {} v identityManifest (.arr rs) = .ok res := by
      rw [chainStages, hreceipts, hmanifest]
      exact hstages
    rw [chainResult, hrun]
    exact ⟨hvalid, stages_signaturesVerified hstages hvalid⟩

/-! ## The receipts by sequence number -/

lemma mapM_eq_some_of_forall {α β : Type} {f : α → Option β} {g : α → β} (l : List α)
    (h : ∀ a ∈ l, f a = some (g a)) : l.mapM f = some (l.map g) := by
  induction l with
  | nil => rfl
  | cons a l ih =>
    rw [List.mapM_cons, h a (.head _), ih fun b hb => h b (.tail _ hb)]
    rfl

section ordered

variable {ordered : List Json} (h : Verify.Ordered rs ordered)

include h

lemma bySeq_eq_some_iff {r : Json} :
    bySeq rs s = some r ↔ r ∈ rs ∧ Receipt.seq r = s := by
  constructor
  · intro hfind
    refine ⟨List.mem_reverse.mp (List.mem_of_find?_eq_some hfind), ?_⟩
    simpa using List.find?_some hfind
  · rintro ⟨hr, hs⟩
    cases hfind : bySeq rs s with
    | none =>
      have hnone := List.find?_eq_none.mp hfind r (List.mem_reverse.mpr hr)
      exact absurd hs (by simpa using hnone)
    | some r' =>
      have hmem := List.mem_reverse.mp (List.mem_of_find?_eq_some hfind)
      have hs' : Receipt.seq r' = s := by simpa using List.find?_some hfind
      rw [h.eq_of_seq_eq hmem hr (hs'.trans hs.symm)]

lemma inOrder_eq : inOrder rs = some ordered := by
  have hlen : ordered.length = rs.length := h.perm.length_eq
  have hget : ordered = (List.range rs.length).map fun i => ordered.getD i .null := by
    refine List.ext_getElem (by simp [hlen]) fun i hi _ => ?_
    simp [List.getElem?_eq_getElem hi]
  unfold inOrder
  rw [mapM_eq_some_of_forall (g := fun i => ordered.getD i .null), ← hget]
  intro i hi
  have hi' : i < ordered.length := by
    rw [hlen]
    exact List.mem_range.mp hi
  have hsome : ordered[i]? = some (ordered.getD i .null) := by
    simp [List.getElem?_eq_getElem hi']
  exact (bySeq_eq_some_iff h).mpr
    ⟨h.perm.mem_iff.mp (List.mem_of_getElem? hsome), h.seq_getElem? hsome⟩

/-- The covered receipts are those up to the frontier. -/
lemma mem_covered_iff (hs : 0 ≤ s) {r : Json} :
    r ∈ covered rs s ↔ r ∈ rs ∧ Receipt.seq r ≤ s := by
  simp only [covered, List.mem_filterMap, List.mem_range, bySeq_eq_some_iff h]
  constructor
  · rintro ⟨i, hi, hr, hseq⟩
    exact ⟨hr, by omega⟩
  · rintro ⟨hr, hle⟩
    obtain ⟨i, hi⟩ := List.mem_iff_getElem?.mp (h.perm.mem_iff.mpr hr)
    have hseq := h.seq_getElem? hi
    exact ⟨i, by omega, hr, hseq⟩

end ordered

/-! ## The witness -/

/-- The instant is not before the declared activation, if there is one. -/
def NotBefore (I : Intrinsics) (t : Int) (validFrom : Option (Option String)) : Prop :=
  ∀ text, validFrom = some (some text) → ∃ a, lifecycleInstantNanos I text = some a ∧ a ≤ t

/-- The instant is strictly before the declared retirement, if there is one. -/
def Before (I : Intrinsics) (t : Int) (retiredAt : Option (Option String)) : Prop :=
  ∀ text, retiredAt = some (some text) → ∃ a, lifecycleInstantNanos I text = some a ∧ t < a

lemma beforeActivation_eq_false_iff {t : Int} {validFrom : Option (Option String)} :
    beforeActivation I (some t) validFrom = false ↔ NotBefore I t validFrom := by
  unfold beforeActivation NotBefore
  rcases validFrom with _ | _ | text
  · simp
  · simp
  · cases hn : lifecycleInstantNanos I text with
    | none => simp [hn]
    | some a => simp [hn]

lemma afterRetirement_eq_false_iff {t : Int} {retiredAt : Option (Option String)} :
    afterRetirement I (some t) retiredAt = false ↔ Before I t retiredAt := by
  unfold afterRetirement Before
  rcases retiredAt with _ | _ | text
  · simp
  · simp
  · cases hn : lifecycleInstantNanos I text with
    | none => simp [hn]
    | some a => simp [hn]

/-- The checkpoint `cp`, under the witness keyring, shows of the chain `rs`, under the receipt keyring
`v`, that the receipts up to sequence number `s` were signed in time. -/
structure Attributable (P : HistoricalPlatform) (v witness : ParsedVerificationKeyring)
    (rs : List Json) (cp : Json) (s : Int) : Prop where
  shape : Verify.CheckpointShape cp
  /-- It verifies under a witness key that is not retired. -/
  authentic : Verify.Authentic P.toIntrinsics witness Verify.CHECKPOINT_SIG_DOMAIN (Receipt.kid cp)
    (checkpointHashInput cp) (Receipt.sigValue cp)
  /-- The witness key differs from every receipt signer, in key id and in the digest of its bytes. -/
  separate : ∀ r ∈ rs, Receipt.kid cp ≠ Receipt.kid r ∧
    ∀ pub pub', witness.keyring.lookup (Receipt.kid cp) = some pub →
      v.keyring.lookup (Receipt.kid r) = some pub' →
      P.sha256HexBytes (P.decodeBase64 pub) ≠ P.sha256HexBytes (P.decodeBase64 pub')
  /-- It names the chain, and the hash of the receipt at sequence number `s`. -/
  frontier : ∃ r ∈ rs, Receipt.seq r = s ∧ cp.strAt ["chain"] = Receipt.chainId r ∧
    cp.numAt ["highestSeq"] = s ∧ cp.strAt ["headHash"] = Receipt.hash r
  /-- Its instant can be read, and lies within the bounds of the witness key and of every key that
  signed a receipt up to `s`. -/
  instant : ∃ t, lifecycleInstantNanos P.toIntrinsics (cp.strAt ["ts"]) = some t ∧
    NotBefore P.toIntrinsics t (witness.validFromByKid.lookup (Receipt.kid cp)) ∧
    ∀ r ∈ rs, Receipt.seq r ≤ s →
      NotBefore P.toIntrinsics t (v.validFromByKid.lookup (Receipt.kid r)) ∧
      Before P.toIntrinsics t (v.retiredAtByKid.lookup (Receipt.kid r))

variable {P : HistoricalPlatform} {p : Progress} {witness : ParsedVerificationKeyring} {cp : Json}

lemma checkWitness_eq_ok_iff (hne : ∀ e ∈ witness.keyring, e.2 ≠ "") {pub : String} :
    checkWitness I p witness cp = .ok pub ↔
      Verify.CheckpointShape cp ∧ witness.keyring.lookup (Receipt.kid cp) = some pub ∧
        ∃ input, checkpointHashInput cp = some input ∧
          I.verifyEd25519 pub (I.signingMessage Verify.CHECKPOINT_SIG_DOMAIN input)
            (Receipt.sigValue cp) = true := by
  have hverdict := @Verify.checkpointVerdict_eq_ok_iff I cp (retainedPublicMaterial witness) hne
  simp only [checkWitness, ok_iff]
  constructor
  · rintro ⟨_, -, _, -, _, hok, hpub⟩
    simp only [test_iff] at hok
    obtain ⟨hshape, pub', input, hpub', hinput, hverify, -⟩ := hverdict.mp hok
    obtain rfl := Option.mem_unique hpub hpub'
    exact ⟨hshape, hpub, input, hinput, hverify⟩
  · rintro ⟨hshape, hpub, input, hinput, hverify⟩
    have hok := hverdict.mpr ⟨hshape, pub, input, hpub, hinput, hverify, by simp [retainedPublicMaterial]⟩
    exact ⟨(), by simp [hok], (), by simp [hok], (), by simp [hok], hpub⟩

lemma separated_eq_true_iff {pub : String}
    (hpub : witness.keyring.lookup (Receipt.kid cp) = some pub)
    (hkeys : ∀ r ∈ ordered, ∃ pub', v.keyring.lookup (Receipt.kid r) = some pub') :
    separated P v cp pub ordered = true ↔ ∀ r ∈ ordered, Receipt.kid cp ≠ Receipt.kid r ∧
      ∀ q q', witness.keyring.lookup (Receipt.kid cp) = some q →
        v.keyring.lookup (Receipt.kid r) = some q' →
        P.sha256HexBytes (P.decodeBase64 q) ≠ P.sha256HexBytes (P.decodeBase64 q') := by
  simp only [separated, test_iff, List.any_eq_false, not_or]
  refine forall_congr' fun r => forall_congr' fun hr => and_congr_right fun _ => ?_
  obtain ⟨pub', hpub'⟩ := hkeys r hr
  simp [hpub, hpub']

lemma checkInstant_eq_ok_iff {completeness : HistoricalCompleteness} {receipts : List Json}
    {u : Unit} : checkInstant I p v witness cp completeness receipts = .ok u ↔
      ∃ t, lifecycleInstantNanos I (cp.strAt ["ts"]) = some t ∧
        NotBefore I t (witness.validFromByKid.lookup (Receipt.kid cp)) ∧
        ∀ r ∈ receipts, NotBefore I t (v.validFromByKid.lookup (Receipt.kid r)) ∧
          Before I t (v.retiredAtByKid.lookup (Receipt.kid r)) := by
  simp only [checkInstant, ok_iff, Bool.or_eq_false_iff, List.any_eq_false, Bool.not_eq_true]
  cases hts : lifecycleInstantNanos I (cp.strAt ["ts"]) with
  | none => simp
  | some t =>
    simp only [beforeActivation_eq_false_iff, afterRetirement_eq_false_iff, Option.isNone_some,
      Option.some.injEq, exists_eq_left', true_and, exists_const]
    constructor
    · rintro ⟨⟨hwitness, hfrom⟩, hretired⟩
      exact ⟨hwitness, fun r hr => ⟨hfrom r hr, hretired r hr⟩⟩
    · rintro ⟨hwitness, h⟩
      exact ⟨⟨hwitness, fun r hr => (h r hr).1⟩, fun r hr => (h r hr).2⟩

/-- The frontier of a chain: the checkpoint names one of its receipts. -/
lemma checkFrontier_eq_ok_iff (h : Verify.Ordered rs ordered) (hrs : rs ≠ [])
    (hchain : ∀ r ∈ rs, ∀ r' ∈ rs, Receipt.chainId r = Receipt.chainId r') :
    checkFrontier p rs (ordered.getLast?.getD .null) cp = .ok s ↔
      ∃ r ∈ rs, Receipt.seq r = s ∧ cp.strAt ["chain"] = Receipt.chainId r ∧
        cp.numAt ["highestSeq"] = s ∧ cp.strAt ["headHash"] = Receipt.hash r := by
  obtain ⟨hhead, hheadSeq⟩ := h.head hrs
  simp only [checkFrontier, ok_iff, test_iff, Option.map_eq_some_iff, bySeq_eq_some_iff h]
  constructor
  · rintro ⟨_, hc, _, -, _, ⟨r, ⟨hr, hseq⟩, hhash⟩, rfl⟩
    exact ⟨r, hr, hseq, hc.trans (hchain _ hhead _ hr), rfl, hhash.symm⟩
  · rintro ⟨r, hr, hseq, hc, hs, hhash⟩
    obtain ⟨i, hi⟩ := List.mem_iff_getElem?.mp (h.perm.mem_iff.mpr hr)
    have hlt : i < rs.length := by
      rw [← h.perm.length_eq]
      exact (List.getElem?_eq_some_iff.mp hi).1
    have hi' := h.seq_getElem? hi
    refine ⟨(), hc.trans (hchain _ hr _ hhead), (), by omega, (), ⟨r, ⟨hr, by omega⟩, hhash.symm⟩, hs⟩

/-! ## The verdict -/

/-- The documents are there and can be read, and they show that the receipts `rs` up to sequence
number `s` were signed in time. -/
def Establishes (P : HistoricalPlatform) (docs : HistoricalDocuments) (receipts : Except String Json)
    (rs : List Json) (s : Int) : Prop :=
  receipts = .ok (.arr rs) ∧ ∃ k v manifest w witness cp,
    docs.keyring = some (.ok k) ∧ parseVerificationKeyring P.toIntrinsics "keyring" k = .ok v ∧
    v.keyring.lookup "spec" ≠ some SIGNING_KEY_LIFECYCLE_SPEC ∧
    readManifest docs.identityManifest = .ok manifest ∧
    (verifyParsedChain P.toIntrinsics {} ⟨some (withoutRetirement k), none, manifest⟩
      (.arr rs)).status = .VALID ∧
    docs.checkpoint = some (.ok cp) ∧ docs.checkpointKeyring = some (.ok w) ∧
    parseVerificationKeyring P.toIntrinsics "checkpointKeyring" w = .ok witness ∧
    Attributable P v witness rs cp s

/-- The answer to a chain that is attributed through `s`. -/
structure Attributes (res : HistoricalVerificationResult) (rs : List Json) (s : Int) : Prop where
  attribution : res.dimensions.attribution = .ATTRIBUTABLE_AS_OF
  through : res.attributedThroughSeq = some s
  classification : res.classification = if s + 1 = rs.length then .VERIFIED else .PARTIAL

variable {receipts : Except String Json}

lemma receiptList_eq_some_iff : receiptList receipts = some rs ↔ receipts = .ok (.arr rs) := by
  unfold receiptList
  split
  · simp
  · rename_i hne
    simp only [reduceCtorEq, false_iff]
    exact hne rs

lemma filter_isObj_eq_some_iff {d : Except String Json} :
    d.toOption.filter Json.isObj = some cp ↔ d = .ok cp ∧ cp.isObj = true := by
  rw [Option.filter_eq_some_iff]
  cases d with
  | error e => simp [Except.toOption]
  | ok w => simp [Except.toOption]

lemma checkChain_eq_ok_iff {result : VerifyResult} {u : Unit} :
    checkChain p result = .ok u ↔ result.status = .VALID ∧ result.signaturesVerified = true := by
  simp [checkChain]

/-- The receipts of a valid chain, in order, all have a key in the keyring. -/
lemma exists_key (h : Verify.Ordered rs ordered) {bound : Nat}
    {manifest : Option (List (String × List String))}
    (hchain : Verify.ChainValid I bound (static v) manifest none rs) :
    ∀ r ∈ ordered, ∃ pub, v.keyring.lookup (Receipt.kid r) = some pub := by
  intro r hr
  obtain ⟨pub, -, hpub, -⟩ := hchain.authentic r (h.perm.mem_iff.mp hr)
  exact ⟨pub, hpub⟩

lemma atHead_iff (h : Verify.Ordered rs ordered) (hrs : rs ≠ []) (s : Int) :
    s = Receipt.seq (ordered.getLast?.getD .null) ↔ s + 1 = rs.length := by
  have hseq := (h.head hrs).2
  omega

/-- A run to the end establishes what it reports. -/
lemma stages_eq_ok {res : HistoricalVerificationResult} (h : stages P {} docs receipts = .ok res) :
    ∃ rs s, Establishes P docs receipts rs s ∧ Attributes res rs s := by
  simp only [stages, ok_iff, receiptList_eq_some_iff, filter_isObj_eq_some_iff,
    checkChain_eq_ok_iff] at h
  obtain ⟨_, hkeyring, v, ⟨k, rfl, hv⟩, rs, hreceipts, _, hresult, ordered, hordered, _, hcheckpoint, _,
    hwkeyring, witness, ⟨w, rfl, hwitness⟩, cp, ⟨rfl, -⟩, pub, hpub, _, hseparated, _, hretired, s,
    hfrontier, _, hinstant, rfl⟩ := h
  obtain ⟨hspec, manifest, m, hmanifest, hm, hchain⟩ := (chainResult_valid_iff hv).mp hresult
  obtain ⟨ordered', hord⟩ := Verify.exists_ordered_iff.mpr hchain.contiguous
  obtain rfl := Option.some.inj ((inOrder_eq hord).symm.trans hordered)
  have hrs := hchain.nonempty
  obtain ⟨hshape, hlookup, input, hinput, hverify⟩ :=
    (checkWitness_eq_ok_iff (publicKey_ne_empty hwitness)).mp hpub
  have hfrontier' := (checkFrontier_eq_ok_iff hord hrs hchain.oneChain).mp hfrontier
  obtain ⟨t, ht, hfrom, hcovered⟩ := checkInstant_eq_ok_iff.mp hinstant
  have hs : 0 ≤ s := by
    obtain ⟨r, hr, hseq, -⟩ := hfrontier'
    obtain ⟨n, hn⟩ := (hchain.shape r hr).exists_seq
    omega
  have hseparate := (separated_eq_true_iff hlookup (exists_key hord hchain)).mp
    (by simpa using hseparated)
  refine ⟨rs, s, ⟨hreceipts, k, v, manifest, w, witness, cp, hkeyring, hv, hspec, hmanifest, ?_,
    hcheckpoint, hwkeyring, hwitness, ?_⟩, ⟨rfl, rfl, ?_⟩⟩
  · exact (valid_withoutRetirement_iff hv).mpr ⟨m, hm, hchain⟩
  · exact
      { shape := hshape
        authentic := ⟨pub, input, hlookup, hinput, hverify, by simpa using hretired⟩
        separate := fun r hr => hseparate r (hord.perm.mem_iff.mpr hr)
        frontier := hfrontier'
        instant := ⟨t, ht, hfrom, fun r hr hle =>
          hcovered r ((mem_covered_iff hord hs).mpr ⟨hr, hle⟩)⟩ }
  · simp only [decide_eq_true_eq, atHead_iff hord hrs]

/-- Whatever is established is reported. -/
lemma exists_stages (h : Establishes P docs receipts rs s) :
    ∃ res, stages P {} docs receipts = .ok res ∧ Attributes res rs s := by
  obtain ⟨hreceipts, k, v, manifest, w, witness, cp, hkeyring, hv, hspec, hmanifest, hvalid,
    hcheckpoint, hwkeyring, hwitness, ha⟩ := h
  obtain ⟨m, hm, hchain⟩ := (valid_withoutRetirement_iff hv).mp hvalid
  obtain ⟨ordered, hord⟩ := Verify.exists_ordered_iff.mpr hchain.contiguous
  have hrs := hchain.nonempty
  obtain ⟨pub, input, hlookup, hinput, hverify, hretired⟩ := ha.authentic
  obtain ⟨t, ht, hfrom, hcovered⟩ := ha.instant
  have hs : 0 ≤ s := by
    obtain ⟨r, hr, hseq, -⟩ := ha.frontier
    obtain ⟨n, hn⟩ := (hchain.shape r hr).exists_seq
    omega
  have hobj : cp.isObj = true := by
    obtain ⟨ms, rfl⟩ := ha.shape.object
    rfl
  simp only [stages, ok_iff, receiptList_eq_some_iff, filter_isObj_eq_some_iff,
    checkChain_eq_ok_iff]
  refine ⟨_, ⟨_, hkeyring, v, ⟨k, rfl, hv⟩, rs, hreceipts, (), ?_, ordered, inOrder_eq hord, _,
    hcheckpoint, _, hwkeyring, witness, ⟨w, rfl, hwitness⟩, cp, ⟨rfl, hobj⟩, pub, ?_, (), ?_, (), ?_, s,
    ?_, (), ?_, rfl⟩, ⟨rfl, rfl, ?_⟩⟩
  · exact (chainResult_valid_iff hv).mpr ⟨hspec, manifest, m, hmanifest, hm, hchain⟩
  · exact (checkWitness_eq_ok_iff (publicKey_ne_empty hwitness)).mpr
      ⟨ha.shape, hlookup, input, hinput, hverify⟩
  · rw [(separated_eq_true_iff hlookup (exists_key hord hchain)).mpr fun r hr =>
      ha.separate r (hord.perm.mem_iff.mp hr)]
    rfl
  · simpa using hretired
  · exact (checkFrontier_eq_ok_iff hord hrs hchain.oneChain).mpr ha.frontier
  · exact checkInstant_eq_ok_iff.mpr ⟨t, ht, hfrom, fun r hr => by
      obtain ⟨hr', hle⟩ := (mem_covered_iff hord hs).mp hr
      exact hcovered r hr' hle⟩
  · simp only [decide_eq_true_eq, atHead_iff hord hrs]

/-- A refusal attributes nothing. -/
lemma errorsIn_stages (P : HistoricalPlatform) (o : VerifyOptions) (docs : HistoricalDocuments)
    (receipts : Except String Json) :
    ErrorsIn (fun e => e.dimensions.attribution = .UNATTRIBUTABLE) (stages P o docs receipts) := by
  have hwitness : ∀ p witness cp, ErrorsIn (fun e => e.dimensions.attribution = .UNATTRIBUTABLE)
      (checkWitness P.toIntrinsics p witness cp) := fun p witness cp =>
    .bind (.refuse rfl) fun _ => .bind (.refuse rfl) fun _ =>
      .bind (.refuse rfl) fun _ => .demand rfl
  have hchain : ∀ p result, ErrorsIn (fun e => e.dimensions.attribution = .UNATTRIBUTABLE)
      (checkChain p result) := fun p result => .refuse (by split <;> rfl)
  refine .bind (.demand rfl) fun _ => ?_
  refine .bind (.mapError fun _ => rfl) fun _ => ?_
  refine .bind (.demand rfl) fun _ => ?_
  refine .bind (hchain _ _) fun _ => ?_
  refine .bind (.demand rfl) fun _ => ?_
  refine .bind (.demand rfl) fun _ => ?_
  refine .bind (.demand rfl) fun _ => ?_
  refine .bind (.mapError fun _ => rfl) fun _ => ?_
  refine .bind (.demand rfl) fun _ => ?_
  refine .bind (hwitness _ _ _) fun _ => ?_
  refine .bind (.refuse rfl) fun _ => ?_
  refine .bind (.refuse rfl) fun _ => ?_
  refine .bind ?_ fun _ => ?_
  · exact .bind (.refuse rfl) fun _ => .bind (.refuse rfl) fun _ =>
      .bind (.refuse rfl) fun _ => .ok
  refine .bind ?_ fun _ => .ok
  exact .bind (.refuse rfl) fun _ => .refuse rfl

/-! ## The anchor -/

/-- The answers that are about the receipts; every other one is given on a chain that verifies. -/
def receiptCodes : List HistoricalVerificationCode :=
  [.RECEIPT_ROOT_NOT_PROVIDED, .RECEIPT_ROOT_INVALID, .RECEIPT_MALFORMED,
    .RECEIPT_INTEGRITY_FAILURE, .RECEIPT_IDENTITY_UNTRUSTED]

/-- The checkpoint verifies under a witness key that is not retired and signed no receipt, and it names
the head of the chain. -/
structure NamesHead (P : HistoricalPlatform) (v witness : ParsedVerificationKeyring)
    (rs : List Json) (cp : Json) : Prop where
  shape : Verify.CheckpointShape cp
  authentic : Verify.Authentic P.toIntrinsics witness Verify.CHECKPOINT_SIG_DOMAIN (Receipt.kid cp)
    (checkpointHashInput cp) (Receipt.sigValue cp)
  separate : ∀ r ∈ rs, Receipt.kid cp ≠ Receipt.kid r
  head : ∃ r ∈ rs, Receipt.seq r + 1 = rs.length ∧ cp.strAt ["chain"] = Receipt.chainId r ∧
    cp.numAt ["highestSeq"] = Receipt.seq r ∧ cp.strAt ["headHash"] = Receipt.hash r

/-- What an answer rests on: one that is not about the receipts on a chain that verifies, and one that
anchors the head on a checkpoint that names it. -/
def Founded (P : HistoricalPlatform) (docs : HistoricalDocuments) (k : Json) (rs : List Json)
    (res : HistoricalVerificationResult) : Prop :=
  (res.code ∈ receiptCodes → res.dimensions.completeness = .UNANSWERED) ∧
  (res.code ∉ receiptCodes → ∃ v m, parseVerificationKeyring P.toIntrinsics "keyring" k = .ok v ∧
    Verify.ChainValid P.toIntrinsics 1000000 (static v) m none rs ∧
    (res.dimensions.completeness = .HEAD_ANCHORED → ∃ w witness cp,
      docs.checkpointKeyring = some (.ok w) ∧
      parseVerificationKeyring P.toIntrinsics "checkpointKeyring" w = .ok witness ∧
      docs.checkpoint = some (.ok cp) ∧ NamesHead P v witness rs cp))

section founded

variable {docs : HistoricalDocuments} {k : Json}

lemma founded_receipts
    (h : code ∈ receiptCodes) : Founded P docs k rs (refusal p classification code integrity) :=
  ⟨fun _ => rfl, fun hnot => absurd h hnot⟩

/-- A refusal after the chain was verified that anchors nothing. -/
lemma founded_unanchored {m : Option (List (String × List String))} {completeness : HistoricalCompleteness}
    {availability : HistoricalEvidenceAvailability}
    (hv : parseVerificationKeyring P.toIntrinsics "keyring" k = .ok v)
    (hchain : Verify.ChainValid P.toIntrinsics 1000000 (static v) m none rs)
    (hcode : code ∉ receiptCodes) (hne : completeness ≠ .HEAD_ANCHORED) :
    Founded P docs k rs (refusal p classification code integrity completeness availability) :=
  ⟨fun h => absurd h hcode, fun _ => ⟨v, m, hv, hchain, fun h => absurd h hne⟩⟩

/-- Every answer rests on what it should. -/
lemma answers_stages (hk : docs.keyring = some (.ok k)) :
    Answers (Founded P docs k rs) (stages P {} docs (.ok (.arr rs))) := by
  refine .bind (.demand (founded_receipts (by decide))) fun d hd => ?_
  obtain rfl : .ok k = d := Option.some.inj (hk.symm.trans (demand_eq_ok_iff.mp hd))
  refine .bind (.mapError fun _ => founded_receipts (by decide)) fun v hv => ?_
  obtain hv : parseVerificationKeyring P.toIntrinsics "keyring" k = .ok v :=
    mapError_eq_ok_iff.mp hv
  refine .bind (.demand (founded_receipts (by decide))) fun rs' hrs => ?_
  obtain rfl : rs = rs' := Option.some.inj (demand_eq_ok_iff.mp hrs)
  refine .bind (.refuse ?_) fun _ hresult => ?_
  · split
    all_goals exact founded_receipts (by decide)
  obtain ⟨-, manifest, m, -, -, hchain⟩ :=
    (chainResult_valid_iff hv).mp (checkChain_eq_ok_iff.mp hresult)
  refine .bind (.demand (founded_receipts (by decide))) fun ordered hordered => ?_
  obtain ⟨ordered', hord⟩ := Verify.exists_ordered_iff.mpr hchain.contiguous
  obtain rfl := Option.some.inj ((inOrder_eq hord).symm.trans (demand_eq_ok_iff.mp hordered))
  have hrefused : ∀ {p classification code integrity completeness availability},
      code ∉ receiptCodes → completeness ≠ .HEAD_ANCHORED →
      Founded P docs k rs (refusal p classification code integrity completeness availability) :=
    fun hcode hne => founded_unanchored hv hchain hcode hne
  refine .bind (.demand (hrefused (by decide) (by decide))) fun c hc => ?_
  refine .bind (.demand (hrefused (by decide) (by decide))) fun w' hw' => ?_
  refine .bind (.mapError fun _ => hrefused (by decide) (by decide))
    fun witness hwitness => ?_
  refine .bind (.demand (hrefused (by decide) (by decide))) fun cp hcp => ?_
  refine .bind ?_ fun pub hpub => ?_
  · exact .bind (.refuse (hrefused (by decide) (by decide))) fun _ =>
      .bind (.refuse (hrefused (by decide) (by decide))) fun _ =>
      .bind (.refuse (hrefused (by decide) (by decide))) fun _ =>
      .demand (hrefused (by decide) (by decide))
  refine .bind (.refuse (hrefused (by decide) (by decide))) fun _ hseparated => ?_
  refine .bind (.refuse (hrefused (by decide) (by decide))) fun _ hretired => ?_
  refine .bind ?_ fun s hfrontier => ?_
  · exact .bind (.refuse (hrefused (by decide) (by decide))) fun _ =>
      .bind (.refuse (hrefused (by decide) (by decide))) fun _ =>
      .bind (.refuse (hrefused (by decide) (by decide))) fun _ => .ok
  obtain ⟨w, rfl, hparse⟩ := bind_eq_ok_iff.mp (mapError_eq_ok_iff.mp hwitness)
  obtain ⟨rfl, -⟩ := filter_isObj_eq_some_iff.mp (demand_eq_ok_iff.mp hcp)
  obtain ⟨hshape, hlookup, input, hinput, hverify⟩ :=
    (checkWitness_eq_ok_iff (publicKey_ne_empty hparse)).mp hpub
  have hseparate := (separated_eq_true_iff hlookup (exists_key hord hchain)).mp
    (by simpa using hseparated)
  -- from here on the answer anchors the head exactly when the checkpoint names it
  have hanchor : ∀ res : HistoricalVerificationResult, res.code ∉ receiptCodes →
      (res.dimensions.completeness = .HEAD_ANCHORED →
        s = Receipt.seq (ordered'.getLast?.getD .null)) → Founded P docs k rs res := by
    intro res hcode hhead
    refine ⟨fun h => absurd h hcode, fun _ => ⟨v, m, hv, hchain, fun hcomplete => ?_⟩⟩
    refine ⟨w, witness, cp, demand_eq_ok_iff.mp hw', hparse, demand_eq_ok_iff.mp hc, ?_⟩
    have hs := (atHead_iff hord hchain.nonempty s).mp (hhead hcomplete)
    obtain ⟨r, hr, hseq, hnames⟩ :=
      (checkFrontier_eq_ok_iff hord hchain.nonempty hchain.oneChain).mp hfrontier
    exact
      { shape := hshape
        authentic := ⟨pub, input, hlookup, hinput, hverify, by simpa using hretired⟩
        separate := fun r hr => (hseparate r (hord.perm.mem_iff.mpr hr)).1
        head := ⟨r, hr, by omega, hnames.1, by omega, hnames.2.2⟩ }
  refine .bind ?_ fun _ _ => Answers.pure ?_
  · refine .bind (.refuse (hanchor _ (by simp [refusal, receiptCodes]) ?_)) fun _ =>
      .refuse (hanchor _ (by simp [refusal, receiptCodes]) ?_)
    all_goals simp [refusal]
  · refine hanchor _ ?_ ?_
    · simp only
      split <;> decide
    · simp

end founded

/-- An answer of the historical verifier. -/
lemma founded_verifyHistoricalChain (hk : docs.keyring = some (.ok k)) :
    Founded P docs k rs (verifyHistoricalChain P {} docs (.ok (.arr rs))) := by
  have hanswers : Answers (Founded P docs k rs) (stages P {} docs (.ok (.arr rs))) :=
    answers_stages hk
  obtain ⟨herror, hok⟩ := hanswers
  unfold verifyHistoricalChain
  split
  · exact hok _ ‹_›
  · exact herror _ ‹_›

/-! ## A forged checkpoint -/

/-- The answers that speak against the receipts or against the checkpoint. -/
def brokenCodes : List HistoricalVerificationCode :=
  receiptCodes ++ [.WITNESS_MALFORMED, .WITNESS_INTEGRITY_FAILURE]

def Broken (res : HistoricalVerificationResult) : Prop :=
  res.code ∈ brokenCodes ∧ res.dimensions.completeness = .UNANSWERED

lemma broken_refusal (h : code ∈ brokenCodes) : Broken (refusal p classification code integrity) :=
  ⟨h, rfl⟩

lemma checkWitness_forged (hne : ∀ e ∈ witness.keyring, e.2 ≠ "")
    (h : Verify.ForgedUnder I witness cp) :
    ∃ e, checkWitness I p witness cp = .error e ∧ Broken e := by
  have hverdict := @Verify.checkpointVerdict_forged I cp (retainedPublicMaterial witness) hne h
  unfold checkWitness
  rcases hverdict with hverdict | hverdict | hverdict
  all_goals
    rw [hverdict]
    exact ⟨_, rfl, broken_refusal (by decide)⟩

/-- A forged checkpoint is answered as one, unless the receipts were refused before it was read. -/
lemma broken_verifyHistoricalChain {w : Json} {receipts : Except String Json}
    (hcp : docs.checkpoint = some (.ok cp)) (hw : docs.checkpointKeyring = some (.ok w))
    (hwitness : parseVerificationKeyring P.toIntrinsics "checkpointKeyring" w = .ok witness)
    (h : Verify.ForgedUnder P.toIntrinsics witness cp) :
    Broken (verifyHistoricalChain P {} docs receipts) := by
  have hne := publicKey_ne_empty hwitness
  have hanswers : Answers Broken (stages P {} docs receipts) := by
    refine .bind (.demand (broken_refusal (by decide))) fun _ _ => ?_
    refine .bind (.mapError fun _ => broken_refusal (by decide)) fun _ _ => ?_
    refine .bind (.demand (broken_refusal (by decide))) fun _ _ => ?_
    refine .bind (.refuse ?_) fun _ _ => ?_
    · split
      all_goals exact broken_refusal (by decide)
    refine .bind (.demand (broken_refusal (by decide))) fun _ _ => ?_
    -- the checkpoint and its keyring are there, and the keyring can be read
    rw [hcp, hw]
    refine .bind .ok fun c hc => ?_
    obtain rfl : .ok cp = c := Except.ok.inj hc
    refine .bind .ok fun c hc => ?_
    obtain rfl : .ok w = c := Except.ok.inj hc
    rw [ok_bind, hwitness]
    refine .bind .ok fun v hv => ?_
    obtain rfl : witness = v := Except.ok.inj hv
    refine .bind (.demand (broken_refusal (by decide))) fun c hc => ?_
    obtain ⟨hc, -⟩ := filter_isObj_eq_some_iff.mp (demand_eq_ok_iff.mp hc)
    cases hc
    obtain ⟨e, he, hbroken⟩ := checkWitness_forged hne h
    rw [he]
    exact .bind (.error hbroken) fun _ h => by cases h
  unfold verifyHistoricalChain
  split
  · exact hanswers.2 _ ‹_›
  · exact hanswers.1 _ ‹_›

end Historical

/-- Historical attribution is exact: the verifier attributes receipts exactly when the documents
establish that they were signed in time, and it then reports the sequence number they are attributed
through, and whether that is the head of the chain. -/
theorem historical_attribution_iff (P : HistoricalPlatform) (docs : HistoricalDocuments)
    (receipts : Except String Json) :
    ((verifyHistoricalChain P {} docs receipts).dimensions.attribution = .ATTRIBUTABLE_AS_OF ↔
        ∃ rs s, Historical.Establishes P docs receipts rs s) ∧
      ∀ rs s, Historical.Establishes P docs receipts rs s →
        Historical.Attributes (verifyHistoricalChain P {} docs receipts) rs s := by
  have hreports : ∀ rs s, Historical.Establishes P docs receipts rs s →
      Historical.Attributes (verifyHistoricalChain P {} docs receipts) rs s := by
    intro rs s h
    obtain ⟨res, hres, hattr⟩ := Historical.exists_stages h
    rw [verifyHistoricalChain, hres]
    exact hattr
  refine ⟨⟨fun h => ?_, fun ⟨rs, s, h⟩ => (hreports rs s h).attribution⟩, hreports⟩
  unfold verifyHistoricalChain at h
  cases hstages : Historical.stages P {} docs receipts with
  | error e =>
    have hnot := Historical.errorsIn_stages P {} docs receipts e hstages
    rw [hstages, hnot] at h
    cases h
  | ok res =>
    obtain ⟨rs, s, hest, -⟩ := Historical.stages_eq_ok hstages
    exact ⟨rs, s, hest⟩

namespace WitnessSample

/-! ### A checkpoint over a chain whose signer was retired later -/

def lifecycle (more : List (String × Json)) : Json :=
  .obj [("spec", .str SIGNING_KEY_LIFECYCLE_SPEC), ("keys", .obj (("k",
    .obj [("publicKey", .str SignedTwice.keyA), ("retiredAt", .str "2026-02-01T00:00:00Z")]) ::
      more))]

/-- A key id `spec` whose public key is the lifecycle's spec. -/
def specKey : String × Json :=
  ("spec", .obj [("publicKey", .str SIGNING_KEY_LIFECYCLE_SPEC), ("retiredAt", .null)])

def checkpoint : Json :=
  .obj [("spec", .str "noa.checkpoint/0.1"), ("chain", .str "c"), ("highestSeq", .num 1),
    ("headHash", .str ("sha256:" ++ SignedTwice.hash1)), ("ts", .str "2026-01-15T00:00:00Z"),
    ("sig", .obj [("alg", .str "ed25519"), ("kid", .str "w"), ("value", .str SignedTwice.sigB0)])]

def receipts : Json :=
  .arr [SignedTwice.genesis SignedTwice.sigA0, SignedTwice.second SignedTwice.sigA1]

def documents (more : List (String × Json)) : HistoricalDocuments :=
  { keyring := some (.ok (lifecycle more))
    checkpoint := some (.ok checkpoint)
    checkpointKeyring := some (.ok (.obj [("w", .str SignedTwice.keyB)]))
    identityManifest := none }

/-- A platform on which the two keys have different bytes, with the digest of bytes left open. -/
def platform (sha256HexBytes : List UInt8 → String) : HistoricalPlatform :=
  { SignedTwice.platform with
    verifyEd25519 := fun _ _ _ => true
    dateParse := fun s => [("2026-01-15T00:00:00Z", 1768435200000),
      ("2026-02-01T00:00:00Z", 1769904000000)].lookup s
    decodeBase64 := fun s => if s = SignedTwice.keyA then [0] else [1]
    sha256HexBytes }

/-- A digest that tells the two keys apart. -/
def telling (bytes : List UInt8) : String := if bytes = [0] then "0" else "1"

end WitnessSample

open WitnessSample in
/-- The chain is attributed when the digest tells the keys apart. It is not attributed when the keys
differ in their bytes and collide under the digest, nor when the receipt keyring has a key id `spec`
with the lifecycle's spec as its public key, though the chain verifies under that keyring without its
retirements. -/
theorem historical_attribution_needs_digest :
    ((verifyHistoricalChain (platform telling) {} (documents []) (.ok receipts)).dimensions.attribution
        = .ATTRIBUTABLE_AS_OF) ∧
      (platform fun _ => "").decodeBase64 SignedTwice.keyA ≠
        (platform fun _ => "").decodeBase64 SignedTwice.keyB ∧
      (verifyHistoricalChain (platform fun _ => "") {} (documents [])
        (.ok receipts)).dimensions.attribution = .UNATTRIBUTABLE ∧
      (verifyParsedChain (platform telling).toIntrinsics {}
        ⟨some (withoutRetirement (lifecycle [specKey])), none, none⟩ receipts).status = .VALID ∧
      (verifyHistoricalChain (platform telling) {} (documents [specKey])
        (.ok receipts)).dimensions.attribution = .UNATTRIBUTABLE := by
  refine ⟨?_, ?_, ?_, ?_, ?_⟩ <;> decide +kernel

end NoaMandate
