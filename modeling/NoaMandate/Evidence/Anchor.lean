import NoaMandate.Evidence.Passed
import NoaMandate.Kernel.Agreement
import NoaMandate.Kernel.Attribution

/-!
# The anchor of an accepted bundle

Whichever of its two routes the checkpoint step took, the receipts are one chain under the manifest's
keys (`Passed.chain`), and a bundle that counts as reconciled carries a checkpoint that closes it
(`Passed.anchored`).  Steps 15 and 16 make a negative outcome rest on such a checkpoint, and on a fresh
one; the final verdict does the same for a full chain about an attempt.
-/

namespace NoaMandate

open Pipeline

namespace Evidence

variable {P : EvidencePlatform} {s : Setup} {tenant : String} {trust : Trust}
  {decision : Option Json} {anchoring : Anchoring} {r r' : Report} {I : Intrinsics}

/-! ## What an anchor is -/

/-- The checkpoint verifies under a key of the external keyring that is not retired, and it names the
receipt with the highest sequence number. -/
structure Anchors (I : Intrinsics) (keyring : Json) (rs : List Json) (cp : Json) : Prop where
  authentic : ∃ witness, parseVerificationKeyring I "checkpointKeyring" keyring = .ok witness ∧
    Verify.CheckpointShape cp ∧
    Verify.Authentic I witness Verify.CHECKPOINT_SIG_DOMAIN (Receipt.kid cp) (checkpointHashInput cp)
      (Receipt.sigValue cp)
  head : ∃ head ∈ rs, (∀ r ∈ rs, Receipt.seq r ≤ Receipt.seq head) ∧
    cp.strAt ["chain"] = Receipt.chainId head ∧ cp.numAt ["highestSeq"] = Receipt.seq head ∧
    cp.strAt ["headHash"] = Receipt.hash head

/-- The receipts are one chain, from sequence number 0 on, under the public keys the manifest gives to
gates and approvers, whatever was retired since. -/
def ReceiptsVerify (I : Intrinsics) (manifestKeys rs : List Json) : Prop :=
  ∃ v, parseVerificationKeyring I "keyring" (buildReceiptKeyring manifestKeys) = .ok v ∧
    Verify.ChainValid I 1000000 (Historical.static v) none none rs

/-! ## Keyrings -/

lemma parseStaticKeys_label {label label' : String} (ms : List (String × Json)) :
    ∀ {keys}, parseStaticKeys label ms = .ok keys → parseStaticKeys label' ms = .ok keys := by
  induction ms with
  | nil => exact fun h => h
  | cons m ms ih =>
    intro keys h
    simp only [parseStaticKeys, ok_iff] at h ⊢
    obtain ⟨pub, hpub, rest, hrest, rfl⟩ := h
    exact ⟨pub, hpub, rest, ih hrest, rfl⟩

variable {v : ParsedVerificationKeyring}

/-- The label of a keyring is in its refusals only. -/
lemma parseVerificationKeyring_label {label label' : String} {k : Json} (h : parseVerificationKeyring I label k = .ok v) :
    parseVerificationKeyring I label' k = .ok v := by
  simp only [parseVerificationKeyring, ok_iff] at h ⊢
  obtain ⟨top, htop, h⟩ := h
  refine ⟨top, htop, ?_⟩
  split
  · rwa [if_pos ‹_›] at h
  · rw [if_neg ‹_›] at h
    simp only [ok_iff] at h ⊢
    obtain ⟨keys, hkeys, rfl⟩ := h
    exact ⟨keys, parseStaticKeys_label top hkeys, rfl⟩

/-- A chain stays valid when retirements are forgotten. -/
lemma chainValid_static {bound : Nat} {rs : List Json}
    {m : Option (List (String × List String))} (h : Verify.ChainValid I bound v m none rs) :
    Verify.ChainValid I bound (Historical.static v) m none rs :=
  { h with
    authentic := fun r hr => by
      obtain ⟨pub, input, hpub, hinput, hverify, -⟩ := h.authentic r hr
      exact ⟨pub, input, hpub, hinput, hverify, List.not_mem_nil⟩
    closed := fun cp hcp => by cases hcp }

/-! ## The receipts of a bundle -/

lemma orderedChain_perm (s : Setup) : s.orderedChain.Perm s.receipts :=
  List.perm_insertionSort _ _

instance : Std.Total fun a b : Json => Receipt.seq a ≤ Receipt.seq b :=
  ⟨fun a b => le_total (Receipt.seq a) (Receipt.seq b)⟩

instance : IsTrans Json fun a b => Receipt.seq a ≤ Receipt.seq b :=
  ⟨fun _ _ _ => le_trans⟩

/-- The head of the ordered receipts has the highest sequence number. -/
lemma seq_le_headReceipt {s : Setup} {r : Json} (hr : r ∈ s.orderedChain) :
    Receipt.seq r ≤ Receipt.seq s.headReceipt := by
  have hsorted : s.orderedChain.Pairwise fun a b => Receipt.seq a ≤ Receipt.seq b :=
    List.pairwise_insertionSort _ _
  obtain ⟨init, head, hsplit⟩ :=
    (List.eq_nil_or_concat' s.orderedChain).resolve_left (List.ne_nil_of_mem hr)
  have hhead : s.headReceipt = head := by simp [Setup.headReceipt, hsplit]
  rw [hsplit] at hr hsorted
  rw [hhead]
  rcases List.mem_append.mp hr with hr | hr
  · exact (List.pairwise_append.mp hsorted).2.2 r hr head (.head _)
  · rw [List.mem_singleton.mp hr]

lemma headReceipt_mem (h : s.orderedChain ≠ []) : s.headReceipt ∈ s.orderedChain := by
  obtain ⟨init, head, hsplit⟩ := (List.eq_nil_or_concat' s.orderedChain).resolve_left h
  simp [Setup.headReceipt, hsplit]

/-! ## The plain route -/

lemma chainVerdict_valid_iff {keyring : Json} : (chainVerdict P s keyring).status = .VALID ↔
      ∃ v, parseVerificationKeyring P.toIntrinsics "keyring" keyring = .ok v ∧
        Verify.ChainValid P.toIntrinsics 1000000 v none none s.orderedChain := by
  unfold chainVerdict
  rw [Verify.verifyParsedChain_valid_iff_stages, Verify.stages_valid_iff rfl rfl]
  constructor
  · rintro ⟨rs, v, m, hrs, ⟨k, hk, hv⟩, hm, hvalid⟩
    obtain rfl := Json.arr.inj hrs
    cases hk
    obtain rfl : none = m := Except.ok.inj hm
    exact ⟨v, hv, hvalid⟩
  · rintro ⟨v, hv, hvalid⟩
    exact ⟨_, v, none, rfl, ⟨_, rfl, hv⟩, rfl, hvalid⟩

lemma verifyCheckpoint_eq_ok {cp keyring : Json} (h : verifyCheckpoint I cp keyring = .ok) :
    ∃ witness, parseVerificationKeyring I "checkpointKeyring" keyring = .ok witness ∧
      Verify.CheckpointShape cp ∧
      Verify.Authentic I witness Verify.CHECKPOINT_SIG_DOMAIN (Receipt.kid cp)
        (checkpointHashInput cp) (Receipt.sigValue cp) := by
  unfold verifyCheckpoint at h
  split at h
  · cases h
  · rename_i witness hw
    have hne := publicKey_ne_empty hw
    exact ⟨witness, parseVerificationKeyring_label hw,
      (Verify.checkpointVerdict_eq_ok_iff hne).mp h⟩

/-- A checkpoint closes the chain only when it verifies and names the head. -/
lemma judgeCheckpoint_eq_ok {cp head : Json} {verdict : Verify.CheckpointVerdict}
    (h : judgeCheckpoint cp head verdict r = (.ok true, r')) :
    verdict = .ok ∧ headMatch cp head = true := by
  simp only [judgeCheckpoint, Check.ok_iff, refuse_eq_ok_iff] at h
  obtain ⟨_, _, -, h⟩ := h
  split at h
  · rename_i hok
    simp only [Check.ok_iff, refuse_eq_ok_iff, Bool.not_eq_false'] at h
    obtain ⟨_, _, ⟨hmatch, -⟩, -⟩ := h
    exact ⟨hok, hmatch⟩
  · simp at h

lemma get?_eq_path? (v : Json) (k : String) : v.get? k = v.path? [k] := by
  simp [Json.path?]

lemma headMatch_eq_true {cp head : Json} (h : headMatch cp head = true) :
    cp.strAt ["chain"] = Receipt.chainId head ∧ cp.numAt ["highestSeq"] = Receipt.seq head ∧
      cp.strAt ["headHash"] = Receipt.hash head := by
  simp only [headMatch, test_iff, get?_eq_path?] at h
  obtain ⟨⟨hchain, hseq⟩, hhash⟩ := h
  refine ⟨congrArg (Option.getD · "") hchain, ?_, congrArg (Option.getD · "") hhash⟩
  unfold Receipt.seq Json.numAt
  rw [Json.eq_of_same hseq]

/-- The plain checkpoint step. -/
lemma step17_eq_ok (h : step17_checkpointReconcile P s trust r = (.ok anchoring, r')) :
    (∃ v, parseVerificationKeyring P.toIntrinsics "keyring" trust.receiptKeyring = .ok v ∧
      Verify.ChainValid P.toIntrinsics 1000000 v none none s.orderedChain) ∧
    anchoring.historical = none ∧
    (anchoring.reconciled = true → ∃ cp, s.doc "checkpoint" = some cp ∧
      Anchors P.toIntrinsics s.checkpointKeyring s.receipts cp) := by
  simp only [step17_checkpointReconcile, Check.ok_iff, refuse_eq_ok_iff, test_iff] at h
  obtain ⟨_, _, -, _, _, ⟨hvalid, -⟩, reconciled, _, hjudge, h⟩ := h
  obtain ⟨v, hv, hchain⟩ := chainVerdict_valid_iff.mp hvalid
  have hanchoring : anchoring = ⟨reconciled, none⟩ := by
    split at h
    · simp only [Check.ok_iff] at h
      obtain ⟨_, _, -, rfl, -⟩ := h
      rfl
    · exact (Check.pure_eq_ok_iff.mp h).1.symm
  subst hanchoring
  refine ⟨⟨v, hv, hchain⟩, rfl, fun hrec => ?_⟩
  obtain rfl : reconciled = true := hrec
  obtain ⟨hok, hmatch⟩ := judgeCheckpoint_eq_ok hjudge
  obtain ⟨witness, hparse, hshape, hauthentic⟩ := verifyCheckpoint_eq_ok hok
  cases hcp : s.doc "checkpoint" with
  | none =>
    obtain ⟨ms, hms⟩ := hshape.object
    rw [hcp] at hms
    cases hms
  | some cp =>
    rw [hcp] at hshape hauthentic hmatch
    refine ⟨cp, rfl, ⟨witness, hparse, hshape, hauthentic⟩, s.headReceipt,
      (orderedChain_perm s).mem_iff.mp (headReceipt_mem hchain.nonempty), fun r hr => ?_,
      headMatch_eq_true hmatch⟩
    exact seq_le_headReceipt ((orderedChain_perm s).mem_iff.mpr hr)

/-! ## The historical route -/

lemma historicalResult_founded (P : EvidencePlatform) (s : Setup) (trust : Trust) :
    Historical.Founded P.toHistoricalPlatform
      { keyring := some (.ok trust.receiptKeyring)
        checkpoint := some (.ok ((s.doc "checkpoint").getD .null))
        checkpointKeyring := some (.ok s.checkpointKeyring)
        identityManifest := none } trust.receiptKeyring s.orderedChain (historicalResult P s trust) :=
  Historical.founded_verifyHistoricalChain rfl

/-- The historical checkpoint step: the answer is not about the receipts, and it anchors the head if the
bundle counts as reconciled. -/
lemma historicalCheckpointReconcile_eq_ok
    (h : historicalCheckpointReconcile P s trust r = (.ok anchoring, r')) :
    (historicalResult P s trust).code ∉ Historical.receiptCodes ∧
      anchoring.historical = some (historicalResult P s trust) ∧
      (anchoring.reconciled = true →
        (historicalResult P s trust).dimensions.completeness = .HEAD_ANCHORED) := by
  have hanswered : (historicalResult P s trust).dimensions.completeness ≠ .UNANSWERED →
      (historicalResult P s trust).code ∉ Historical.receiptCodes := fun hne hcode =>
    hne ((historicalResult_founded P s trust).1 hcode)
  simp only [historicalCheckpointReconcile, Check.ok_iff] at h
  obtain ⟨_, _, -, h⟩ := h
  split at h
  · rename_i hhead
    simp only [Check.ok_iff] at h
    obtain ⟨_, _, -, rfl, -⟩ := h
    exact ⟨hanswered (by rw [hhead]; decide), rfl, fun _ => hhead⟩
  split at h
  · rename_i hlower
    simp only [Check.ok_iff] at h
    obtain ⟨_, _, -, _, _, -, rfl, -⟩ := h
    exact ⟨hanswered (by rw [hlower]; decide), rfl, fun hrec => by cases hrec⟩
  split at h
  · rename_i hcode
    simp only [Check.ok_iff] at h
    obtain ⟨_, _, -, _, _, -, rfl, -⟩ := h
    refine ⟨fun hmem => ?_, rfl, fun hrec => by cases hrec⟩
    have hdisjoint : ∀ code ∈ noAnchorCodes, code ∉ Historical.receiptCodes := by decide
    exact hdisjoint _ (List.contains_iff_mem.mp hcode) hmem
  · simp at h

lemma chainValid_withoutManifest {bound : Nat} {rs : List Json}
    {m : Option (List (String × List String))} (h : Verify.ChainValid I bound v m none rs) :
    Verify.ChainValid I bound v none none rs :=
  { h with
    identity := fun _ hm => by cases hm
    closed := fun _ hcp => by cases hcp }

/-! ## Either route -/

/-- Either route refuses receipts that are not one chain under the manifest's keys. -/
lemma receiptsVerify_of_checkpointStep (h : runCheckpointStep P s trust r = (.ok anchoring, r')) :
    ReceiptsVerify P.toIntrinsics trust.manifestKeys s.receipts := by
  unfold runCheckpointStep at h
  split at h
  · obtain ⟨⟨v, hv, hchain⟩, -⟩ := step17_eq_ok h
    exact ⟨v, hv, (chainValid_static hchain).perm (orderedChain_perm s).symm⟩
  · obtain ⟨hcode, -⟩ := historicalCheckpointReconcile_eq_ok h
    obtain ⟨v, m, hv, hchain, -⟩ := (historicalResult_founded P s trust).2 hcode
    exact ⟨v, hv, (chainValid_withoutManifest hchain).perm (orderedChain_perm s).symm⟩

variable (h : Passed P s tenant trust decision anchoring)

include h in
/-- The receipts of an accepted bundle are one chain under the manifest's keys. -/
lemma Passed.chain :
    ReceiptsVerify P.toIntrinsics trust.manifestKeys s.receipts := by
  obtain ⟨r, r', h17⟩ := h.step17
  exact receiptsVerify_of_checkpointStep h17

include h in
/-- The checkpoint of a bundle that counts as reconciled closes its receipts. -/
lemma Passed.anchored (hrec : anchoring.reconciled = true) : ∃ cp, s.doc "checkpoint" = some cp ∧
      Anchors P.toIntrinsics s.checkpointKeyring s.receipts cp := by
  obtain ⟨r, r', h17⟩ := h.step17
  unfold runCheckpointStep at h17
  split at h17
  · exact (step17_eq_ok h17).2.2 hrec
  · obtain ⟨hcode, -, hhead⟩ := historicalCheckpointReconcile_eq_ok h17
    obtain ⟨v, m, hv, hchain, hnames⟩ := (historicalResult_founded P s trust).2 hcode
    obtain ⟨w, witness, cp, hw, hwitness, hcp, hnames⟩ := hnames (hhead hrec)
    obtain rfl := Except.ok.inj (Option.some.inj hw)
    obtain rfl := Except.ok.inj (Option.some.inj hcp)
    obtain ⟨head, hmem, hlast, hhead⟩ := hnames.head
    have hperm := orderedChain_perm s
    cases hdoc : s.doc "checkpoint" with
    | none =>
      obtain ⟨ms, hms⟩ := hnames.shape.object
      rw [hdoc] at hms
      cases hms
    | some cp =>
      rw [hdoc] at hnames hhead
      refine ⟨cp, rfl, ⟨witness, hwitness, hnames.shape, hnames.authentic⟩, head,
        hperm.mem_iff.mp hmem, fun r hr => ?_, hhead⟩
      obtain ⟨n, hn, hlt⟩ := hchain.seq_lt (hperm.mem_iff.mpr hr)
      omega

/-! ## Steps 15 and 16 -/

include h in
lemma Passed.reconciled (hneg : s.outcome.negative = true) : anchoring.reconciled = true := by
  have h15 := h.step15
  simpa [step15_negativeOutcomePrinciple, hneg] using h15

include h in
/-- The checkpoint of a negative outcome is recent, and not from the future. -/
lemma Passed.fresh (hneg : s.outcome.negative = true) : ∃ now ts, P.dateParse s.now = some now ∧
      parseTime P.toIntrinsics (s.bundle.path? ["checkpoint", "ts"]) = some ts ∧
      now - ts ≤ s.maxAgeMs ∧ ts - now ≤ MAX_FUTURE_SKEW_MS := by
  have h16 := h.step16
  simp only [step16_checkpointFreshness, ok_iff, hneg, Bool.true_and, Bool.not_eq_false'] at h16
  obtain ⟨_, hskew, hage⟩ := h16
  cases hnow : P.dateParse s.now with
  | none => simp [hnow] at hage
  | some now =>
    cases hts : parseTime P.toIntrinsics (s.bundle.path? ["checkpoint", "ts"]) with
    | none => simp [hnow, hts] at hage
    | some ts =>
      simp only [hnow, hts, Option.bind_eq_bind, Option.bind_some, Option.pure_def, Option.any_some,
        test_iff, not_lt] at hage hskew
      exact ⟨now, ts, rfl, rfl, hage, by omega⟩

end Evidence

/-- A negative needs a fresh anchor.  An accepted bundle whose outcome is not an attempt carries a
checkpoint that verifies under a current external key, names the receipt with the highest sequence
number, and is at most `maxAge` old and at most five minutes ahead; its receipts are one chain under the
manifest's keys.  Every full-chain answer has such a checkpoint and such receipts, apart from the
times. -/
theorem accepted_negative_anchored (P : EvidencePlatform) (clock : String)
    (o : VerifyEvidenceOptions) (text : List Char)
    (h : (verifyEvidence P clock o text).verdict = .VALID_FULL_CHAIN ∨
      (verifyEvidence P clock o text).verdict = .VALID_SEGMENT_ONLY) :
    ∃ s : Evidence.Setup, Evidence.Admitted P clock o text s ∧
      ((s.outcome ≠ .EXECUTED ∧ s.outcome ≠ .EXECUTION_FAILED ∨
          (verifyEvidence P clock o text).verdict = .VALID_FULL_CHAIN) →
        ∃ cp man keys, s.bundle.get? "checkpoint" = some cp ∧
          Evidence.Anchors P.toIntrinsics s.checkpointKeyring s.receipts cp ∧
          s.bundle.get? "keyManifest" = some man ∧ man.get? "keys" = some (.arr keys) ∧
          Evidence.ReceiptsVerify P.toIntrinsics keys s.receipts) ∧
      (s.outcome ≠ .EXECUTED ∧ s.outcome ≠ .EXECUTION_FAILED →
        ∃ now ts, P.dateParse s.now = some now ∧
          Evidence.parseTime P.toIntrinsics (s.bundle.path? ["checkpoint", "ts"]) = some ts ∧
          now - ts ≤ s.maxAgeMs ∧ ts - now ≤ 5 * 60 * 1000) := by
  obtain ⟨s, tenant, trust, decision, anchoring, hread, hpassed, hfull⟩ :=
    Evidence.verifyEvidence_valid h
  have hnegative : s.outcome ≠ .EXECUTED ∧ s.outcome ≠ .EXECUTION_FAILED →
      s.outcome.negative = true := by
    rintro ⟨hexecuted, hfailed⟩
    simp [EvidenceOutcome.negative_eq, EvidenceOutcome.positive, hexecuted, hfailed]
  refine ⟨s, hread, fun hcase => ?_, fun hneg => hpassed.fresh (hnegative hneg)⟩
  have hrec : anchoring.reconciled = true := by
    cases hpos : s.outcome.positive with
    | false => exact hpassed.reconciled (by rw [EvidenceOutcome.negative_eq, hpos]; rfl)
    | true =>
      rcases hcase with hneg | hverdict
      · have := hnegative hneg
        rw [EvidenceOutcome.negative_eq, hpos] at this
        cases this
      · exact hfull hverdict hpos
  obtain ⟨cp, hcp, hanchors⟩ := hpassed.anchored hrec
  obtain ⟨del, man, env, hrooted⟩ := hpassed.rooted
  exact ⟨cp, man, trust.manifestKeys, hcp, hanchors, hrooted.manifest, hrooted.manifestKeys,
    hpassed.chain⟩

/-! ## A bundle

The documents of one hold, with the digests and signatures the repository's own functions give them:
an approval whose deferred receipt was signed with a key retired since, anchored by an outside
witness. -/

namespace Evidence.SampleBundle

/-- What makes one document authentic: the digest of the signed text, the signature, and the digest
of the document with its signature where another document names it. -/
structure Mark where
  input : String
  value : String
  whole : String

/-- The marks of the documents of one bundle. -/
structure Marks where
  deferred : Mark
  envelope : Mark
  decision : Mark
  allowed : Mark
  resolution : Mark
  checkpoint : Mark

def rootKey : String := "MCowBQYDK2VwAyEAyPpja8yO60FIi67Q+/lCjaPNaV6RTNgOanLHUA020YU="

def manifestKey : String := "MCowBQYDK2VwAyEAbndNIh6HgmRh+oHcM5tU+01ppRb1VcG6iR1HOeqzDts="

def retiredKey : String := "MCowBQYDK2VwAyEA3mDkVtMXD0zZWmzs/ZL3bb3hgHZNK3tnQBcnDDycksk="

def gateKey : String := "MCowBQYDK2VwAyEAvoGE7D3tSRYsuEMevci82TKx3opO90vzkeJvA8JA+Ac="

def approverKey : String := "MCowBQYDK2VwAyEA9MpK94OVOYA+/ZFRb5fQKTyn1/bakNvxPtM7n67LZYU="

def witnessKey : String := "MCowBQYDK2VwAyEA3XEmnb/zDwXj0rrhbxtq8p5wHJVGr6Odhpi4XV2HPSQ="

def opened : Json := .str "2026-07-14T10:00:00.000Z"

def acted : Json := .str "2026-07-14T11:00:00.000Z"

def now : String := "2026-07-14T12:00:00.000Z"

def closes : Json := .str "2026-07-20T10:00:00.000Z"

def sha (hex : String) : Json := .str ("sha256:" ++ hex)

def sig (kid value : String) : Json :=
  .obj [("alg", .str "ed25519"), ("kid", .str kid), ("value", .str value)]

/-- A placeholder hash. -/
def filler (c : Char) : Json := .str ("sha256:" ++ String.ofList (List.replicate 64 c))

def tenant : String × Json := ("tenant", .str "tenant-1")

/-! ### The trust documents -/

def delegationMark : Mark :=
  ⟨"434478674a481483e0c5b95f0247dfe1fb91fd954d61f2802c99719a4f53c22c",
   "4vqJWr74A7JSXs4CLdBiAZQoITgs7YMKK4taHzBlNo0YfkX6UDuAgCzQwbWxFpV4nQOfweefzLBKj4n4gRUXBg==", ""⟩

def delegation : Json :=
  .obj [("spec", .str "noa.key-delegation/0.1"), tenant, ("delegatedKid", .str "manifest-1"),
    ("delegatedPublicKey", .str manifestKey), ("permissions", .arr [.str "key-manifest-sign"]),
    ("validFrom", opened), ("expiresAt", closes), ("sig", sig "root-1" delegationMark.value)]

def manifestMark : Mark :=
  ⟨"2951c6b90de1c84352b5b8fc64fc0d890e715dba76b0b836bb26d4c00b24c603",
   "miBnOUyd71hT05WAAtP5CFiZKv4PatBCSMZD6OJJejvXVF/UfxHQSxxR0EeJU3Fj/6QrI374BuULlH2jhwzUAw==",
   "a9457bba77d0aea5d2cd64597608f08053abb0dc1185260af6fae2d1034ba8aa"⟩

def key (kid type : String) (roles : List String) (publicKey : String)
    (more : List (String × Json)) (revokedAt : Json) : Json :=
  .obj ([("kid", .str kid), ("type", .str type), ("roles", .arr (roles.map .str)),
    ("publicKey", .str publicKey)] ++ more ++ [("validFrom", opened), ("revokedAt", revokedAt)])

/-- The manifest lists a gate key in use, a retired one, an approver, and the root's own key as a
retired gate key. -/
def manifest : Json :=
  .obj [("spec", .str "noa.key-manifest/0.1"), tenant, ("version", .num 1), ("issuedAt", opened),
    ("expiresAt", closes), ("previousManifestHash", .null),
    ("keys", .arr
      [key "gate-1" "GATE" ["hold-signer", "execution-signer"] gateKey [] .null,
        key "gate-0" "GATE" ["execution-signer"] retiredKey [] (.str now),
        key "approver-1" "APPROVER" ["approve-high"] approverKey
          [("hpkePublicKey", .str "abababababababababababababababababababababababababababababababab")]
          .null,
        key "root-1" "GATE" ["execution-signer"] rootKey [] (.str now)]),
    ("sig", sig "manifest-1" manifestMark.value)]

/-! ### The documents of a hold -/

def receipt (id agentId principal action verdict : String) (approval : Json) (seq : Int)
    (prevHash : Json) (kid : String) (m : Mark) : Json :=
  .obj [("spec", .str "noa.receipt/0.1"), ("id", .str id), ("ts", acted),
    ("scope", .obj [tenant, ("chain", .str "chain-1")]),
    ("agent", .obj [("id", .str agentId), ("model", .null), ("principal", .str principal)]),
    ("action", .obj [("id", .str action), ("canonical", .str action), ("riskClass", .str "HIGH"),
      ("paramsHash", filler 'a'), ("reversible", .bool false), ("rollbackRef", .null)]),
    ("governance", .obj [("mode", .str "on"), ("verdict", .str verdict), ("ruleId", .null),
      ("approval", approval), ("sandboxed", .bool false)]),
    ("chain", .obj [("seq", .num seq), ("prevHash", prevHash), ("hash", sha m.input)]),
    ("sig", sig kid m.value)]

def deferred (x : Marks) (kid : String) : Json :=
  receipt "deferred-1" "agent-1" "SERVICE" "deploy" "DEFERRED" .null 0 .null kid x.deferred

def allowed (x : Marks) (principal : String) (approval : Json) : Json :=
  receipt "allowed-1" "agent-2" principal "deploy" "ALLOWED" approval 1 (sha x.deferred.input)
    "approver-1" x.allowed

def approvedBy : Json := .obj [("by", .str "approver-1"), ("at", acted)]

def projection (c : Char) : Json :=
  .obj [("id", .str "deploy"), ("version", .num 1), ("hash", filler c)]

def envelope (x : Marks) : Json :=
  .obj [("spec", .str "noa.hold/0.1"), ("holdId", .str "hold-1"),
    ("deferredReceiptId", .str "deferred-1"), ("deferredReceiptHash", sha x.deferred.input),
    ("mode", .str "ENFORCED"), ("displayCiphertextHash", filler 'b'),
    ("actionSchema", projection 'c'), ("displayProjection", projection 'd'),
    ("canonicalization", .str "JCS-RFC8785"), ("keyManifestVersion", .num 1),
    ("keyManifestHash", sha manifestMark.whole), tenant, ("expiresAt", closes),
    ("nonce", .str "nonce-0000000001"), ("gateKid", .str "gate-1"),
    ("sig", sig "gate-1" x.envelope.value)]

def decision (x : Marks) : Json :=
  .obj [("spec", .str "noa.decision/0.1"), ("holdEnvelopeHash", sha x.envelope.whole),
    ("decision", .str "APPROVE"), ("reasonCode", .str "vendor-verified"),
    ("reasonEncryption", .null), ("decidedAt", acted), ("approverKid", .str "approver-1"),
    ("sig", sig "approver-1" x.decision.value)]

def resolution (x : Marks) : Json :=
  .obj [("spec", .str "noa.hold-resolution/0.1"), ("holdId", .str "hold-1"),
    ("holdEnvelopeHash", sha x.envelope.whole), ("decisionArtifactHash", sha x.decision.whole),
    ("verdictReceiptHash", sha x.allowed.input), ("status", .str "APPROVED"),
    ("reasonCode", .null), ("receivedAt", acted), ("keyManifestVersion", .num 1),
    ("keyManifestHash", sha manifestMark.whole), ("sig", sig "gate-1" x.resolution.value)]

/-- A checkpoint of the witness that names the head of the chain. -/
def checkpoint (seq : Int) (head m : Mark) : Json :=
  .obj [("spec", .str "noa.checkpoint/0.1"), ("chain", .str "chain-1"), ("highestSeq", .num seq),
    ("headHash", sha head.input), ("ts", acted), ("sig", sig "witness-1" m.value)]

/-! ### The bundle -/

/-- The members every bundle of an approved hold carries. -/
def members (outcome : String) (x : Marks) (deferred allowed checkpoint : Json) :
    List (String × Json) :=
  [("spec", .str EVIDENCE_SPEC), ("outcome", .str outcome), ("holdEnvelope", envelope x),
    ("deferredReceipt", deferred), ("holdResolution", resolution x), ("keyManifest", manifest),
    ("keyDelegation", delegation), ("decisionArtifact", decision x), ("allowedReceipt", allowed),
    ("checkpoint", checkpoint)]

def root : Json :=
  .obj [("root-1", .obj [("publicKey", .str rootKey), ("type", .str "ROOT"), ("roles", .arr [])])]

def witnesses : Json := .obj [("witness-1", .str witnessKey)]

def options : VerifyEvidenceOptions where
  tenantRoot := Json.render root
  checkpointKeyring := Json.render witnesses
  now := some now

/-! ### The platform -/

/-- A side document's digests. -/
def sideDigests (doc : Json) (m : Mark) : List (List Char × String) :=
  [((canonicalize (Artifact.withoutSig doc)).getD [], m.input),
    ((canonicalize doc).getD [], m.whole)]

def digests (x : Marks) (deferred allowed checkpoint : Json) : List (List Char × String) :=
  [((receiptHashInput deferred).getD [], x.deferred.input),
    ((receiptHashInput allowed).getD [], x.allowed.input),
    ((checkpointHashInput checkpoint).getD [], x.checkpoint.input)] ++
    sideDigests delegation delegationMark ++ sideDigests manifest manifestMark ++
    sideDigests (envelope x) x.envelope ++ sideDigests (decision x) x.decision ++
    sideDigests (resolution x) x.resolution

def signatures (x : Marks) (openerKey : String) : List (String × String × String) :=
  [(rootKey, "NOA-KeyDelegation-v0.1-sig:" ++ delegationMark.input, delegationMark.value),
    (manifestKey, "NOA-KeyManifest-v0.1-sig:" ++ manifestMark.input, manifestMark.value),
    (gateKey, "NOA-Hold-v0.1-sig:" ++ x.envelope.input, x.envelope.value),
    (gateKey, "NOA-HoldResolution-v0.1-sig:" ++ x.resolution.input, x.resolution.value),
    (approverKey, "NOA-Decision-v0.1-sig:" ++ x.decision.input, x.decision.value),
    (openerKey, "NOA-Receipt-v0.1-sig:" ++ x.deferred.input, x.deferred.value),
    (approverKey, "NOA-Receipt-v0.1-sig:" ++ x.allowed.input, x.allowed.value),
    (witnessKey, "NOA-Checkpoint-v0.1-sig:" ++ x.checkpoint.input, x.checkpoint.value)]

/-- The patterns of the published schemas, on the texts of the documents above. -/
def regexTest (pattern text : String) : Option Bool :=
  let upTo (n : Nat) : Bool :=
    match Text.chars text with
    | [] => false
    | cs => cs.length ≤ n && !cs.contains '\n'
  [("^sha256:[0-9a-f]\x7b64\x7d$", Scan.isSha256Hash text),
    ("^(sha256|hmac-sha256):[0-9a-f]\x7b64\x7d$", Scan.isParamsHash text),
    ("^[0-9a-f]\x7b64\x7d$", Scan.isHex64 text), ("^.\x7b1,64\x7d$", upTo 64),
    ("^.\x7b1,128\x7d$", upTo 128), ("^.\x7b1,256\x7d$", upTo 256),
    ("^.\x7b1,512\x7d$", upTo 512), ("^.\x7b1,1024\x7d$", upTo 1024),
    (Schemas.rfc3339, Scan.isRfc3339Instant text)].lookup pattern

/-- The platform on the given digests and signatures. Keys are told apart by their texts, and no
settlement is reconciled. -/
def platform (digests : List (List Char × String)) (signatures : List (String × String × String)) :
    EvidencePlatform where
  toIntrinsics := .ofTables digests signatures
    [("2026-07-14T10:00:00.000Z", 1784023200000), ("2026-07-14T11:00:00.000Z", 1784026800000),
      (now, 1784030400000), ("2026-07-20T10:00:00.000Z", 1784541600000)]
  regexTest
  stackDepth := 100
  isStrictEd25519PublicKey _ := true
  decodeBase64 s := (Text.chars s).map fun c => UInt8.ofNat c.toNat
  sha256HexBytes bytes := String.ofList (bytes.map fun b => Char.ofNat b.toNat)
  reconcileSettlementEvidence _ := ⟨"", none, [], ""⟩

/-! ### The approval -/

def approved : Marks where
  deferred :=
    ⟨"a18336ff4364683e83987b1ced216ba66e1e7cd49e2c28d41fc366b331e9a3cf",
     "C0l/wHXv9IhfQUFwiYzzRXL7flYBooja9fsf1Rc4X45ULYof/OhLmfrxhGZIkCfVSBu/OtypvRmCoHpTkU2gDg==", ""⟩
  envelope :=
    ⟨"594001edc1497d81a43d08a4b7c178a9f6d5fad27a6ead5de7c42bbf66238876",
     "wW/qy4N1UbfAssT+4c56wOSjJaiyqYzq0q2J0h2BYMwjXRia15eBxAbu8wrq34cgl/OQhiwhO8YjMcZq1AtKCQ==",
     "ce7848255d699f8c19d46924b8527a9ec90b23ac8e63d00a70a742482719fcc4"⟩
  decision :=
    ⟨"9c705f067f569e40fd661fb33324d28fbc5605e45cbf16e48109ad30b8e6a392",
     "b/mCs+GFz36/HW+ENF5melmGdEhuVDZka9mJxEjfpo6RCuNDq76P0x0fP3ZOLnm/uYSIZPLTSGH52oJTLsczDw==",
     "ce132319fae5749e5dd8c3970a2d845967b82b856dd2efb3bccbed7ea6cce77a"⟩
  allowed :=
    ⟨"cd9407df3348d9d4a8d6ad37cf21de278c940f2534a547e387aedb4a280eb39b",
     "67V6K1jjXMkvtNCYgIFufkJHsn1xpCTx7ZkF8/rZ6JxnmvxE20Q+X/W0HvuOvT2E4TZwG7Xpk01UUatT+B+bAg==", ""⟩
  resolution :=
    ⟨"8348fed62f7e4e4e6868cb71110d9e0e3fe7a6a507034d3c9f81a11e557b9fe6",
     "DtsKjumscPUayh2HbtfLX528Bt+jNdRTNTsP4aRZL9Xs+drJ//M4au4hCDK1uubnIGsYLStaw3VU0dGVXr9GCA==", ""⟩
  checkpoint :=
    ⟨"de958a3dd340d3f1104fcc51fc5c305d159977770fdc41c35f1aac7e10d4302d",
     "250rjTNDmHrs2wKIwQZe4O4RDWIQZMdFRHoK0Rgs9hS/oAVLyaxDe48PbiakURdgq7Jaouxxv8REcREpGtD0BQ==", ""⟩

def approvedDeferred : Json := deferred approved "gate-0"

def approvedAllowed : Json := allowed approved "HUMAN" approvedBy

def approvedCheckpoint : Json := checkpoint 1 approved.allowed approved.checkpoint

def approvedBundle : Json :=
  .obj (members "APPROVED_NO_EXECUTION_EVIDENCE" approved approvedDeferred approvedAllowed
    approvedCheckpoint)

def approvedPlatform : EvidencePlatform :=
  platform (digests approved approvedDeferred approvedAllowed approvedCheckpoint)
    (signatures approved retiredKey)

def approvedText : List Char := Json.render approvedBundle

lemma parse_approved : parseDocument approvedText "bundle" = .ok approvedBundle :=
  parseDocument_of_textBound (by decide +kernel) _

lemma verdict_approved :
    (verifyEvidence approvedPlatform "" options approvedText).verdict = .VALID_FULL_CHAIN := by
  rw [verifyEvidence, admitted, parse_approved]
  decide +kernel

lemma outcome_approved {s : Setup} (h : Admitted approvedPlatform "" options approvedText s) :
    s.bundle = approvedBundle ∧ s.outcome = .APPROVED_NO_EXECUTION_EVIDENCE := by
  have hbundle : s.bundle = approvedBundle := ok_unique h.bundle parse_approved
  have houtcome := h.outcome
  rw [hbundle] at houtcome
  exact ⟨hbundle, (Option.some.inj houtcome).symm⟩

end Evidence.SampleBundle

open Evidence Evidence.SampleBundle in
/-- The approval is anchored by the witness's checkpoint, and the checkpoint is an hour old. -/
theorem accepted_negative_anchored_approved :
    ∃ s cp, Admitted approvedPlatform "" options approvedText s ∧
      s.outcome = .APPROVED_NO_EXECUTION_EVIDENCE ∧ s.bundle.get? "checkpoint" = some cp ∧
      Anchors approvedPlatform.toIntrinsics s.checkpointKeyring s.receipts cp ∧
      ∃ now ts, approvedPlatform.dateParse s.now = some now ∧ now - ts ≤ s.maxAgeMs := by
  obtain ⟨s, hread, hanchor, hfresh⟩ :=
    accepted_negative_anchored approvedPlatform "" options approvedText (.inl verdict_approved)
  obtain ⟨-, houtcome⟩ := outcome_approved hread
  have hnegative : s.outcome ≠ .EXECUTED ∧ s.outcome ≠ .EXECUTION_FAILED := by
    rw [houtcome]
    decide
  obtain ⟨cp, -, -, hcp, hanchors, -⟩ := hanchor (.inl hnegative)
  obtain ⟨now, ts, hnow, -, hage, -⟩ := hfresh hnegative
  exact ⟨s, cp, hread, houtcome, hcp, hanchors, now, ts, hnow, hage⟩

end NoaMandate
