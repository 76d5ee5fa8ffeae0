import NoaMandate.Kernel.Verify

/-!
# What a valid chain is

`ChainValid` states, without any pipeline, what it means for a list of receipts to be a valid chain
under a keyring, an optional identity manifest and an optional checkpoint.  It quantifies over the
receipts of the list and never over their order: "in sequence order" is said through the sequence
numbers.

The rest of the file gives every stage of the verifier up to the walk its own reading
(`admitReceipts_eq_ok_iff`, `checkShapes_eq_ok_iff`, `orderStage_iff`, `exists_tenantScan_iff`,
`walk_clean_iff`), so that no later proof unfolds a stage.
-/

namespace NoaMandate

open Pipeline

namespace Verify

/-- The manifest lists the key id for the agent. -/
def Lists (manifest : List (String × List String)) (agentId kid : String) : Prop :=
  ∃ kids, manifest.lookup agentId = some kids ∧ kid ∈ kids

/-- A key id whose key is in the keyring and not retired, and under whose key the signature
verifies. -/
def Authentic (I : Intrinsics) (v : ParsedVerificationKeyring) (domain kid : String)
    (hashInput : Option (List Char)) (value : String) : Prop :=
  ∃ pub input, v.keyring.lookup kid = some pub ∧ hashInput = some input ∧
    I.verifyEd25519 pub (I.signingMessage domain input) value = true ∧ kid ∉ v.retiredKids

/-- The closed checkpoint shape. -/
structure CheckpointShape (cp : Json) : Prop where
  object : ∃ ms, cp = .obj ms
  closed : Schema.Closed cp CHECKPOINT_KEYS []
  spec : cp.get? "spec" = some (.str "noa.checkpoint/0.1")
  chain : ∃ s, cp.get? "chain" = some (.str s) ∧ s ≠ ""
  highestSeq : ∃ n : Nat, cp.get? "highestSeq" = some (.num n) ∧ n ≤ Json.maxSafe
  headHash : ∃ s, cp.get? "headHash" = some (.str s) ∧ Scan.isSha256Hash s = true
  ts : ∃ s, cp.get? "ts" = some (.str s) ∧ Scan.isRfc3339Instant s = true
  sig : ∃ ms, cp.get? "sig" = some (.obj ms) ∧ Schema.SigShape (.obj ms)

/-- The checkpoint closes the chain `rs`. -/
structure CheckpointCloses (I : Intrinsics) (v : ParsedVerificationKeyring)
    (manifest : Option (List (String × List String))) (rs : List Json) (cp : Json) : Prop where
  shape : CheckpointShape cp
  authentic : Authentic I v CHECKPOINT_SIG_DOMAIN (Receipt.kid cp) (checkpointHashInput cp)
    (Receipt.sigValue cp)
  /-- It names this chain. -/
  chain : ∀ r ∈ rs, Receipt.chainId r = cp.strAt ["chain"]
  /-- It names the highest sequence number and the hash recorded there. -/
  head : ∃ r ∈ rs, Receipt.seq r + 1 = rs.length ∧ cp.numAt ["highestSeq"] = Receipt.seq r ∧
    cp.strAt ["headHash"] = Receipt.hash r
  /-- It is signed by a key the manifest lists for the agent that opened the chain. -/
  opener : ∀ m, manifest = some m →
    ∃ r ∈ rs, Receipt.seq r = 0 ∧ Lists m (Receipt.agentId r) (Receipt.kid cp)

/-- A valid chain. -/
structure ChainValid (I : Intrinsics) (maxReceipts : Nat) (v : ParsedVerificationKeyring)
    (manifest : Option (List (String × List String))) (checkpoint : Option Json)
    (rs : List Json) : Prop where
  nonempty : rs ≠ []
  bounded : rs.length ≤ maxReceipts
  shape : ∀ r ∈ rs, Schema.ReceiptShape r
  oneChain : ∀ r ∈ rs, ∀ r' ∈ rs, Receipt.chainId r = Receipt.chainId r'
  /-- The sequence numbers are `0, …, n - 1` in some order. -/
  contiguous : (rs.map Receipt.seq).Perm ((List.range rs.length).map Int.ofNat)
  oneTenant : ∀ r ∈ rs, ∀ r' ∈ rs, ∀ t t', Receipt.tenant r = some t →
    Receipt.tenant r' = some t' → t = t'
  hash : ∀ r ∈ rs, recomputedHash I r = some (Receipt.hash r)
  genesis : ∀ r ∈ rs, Receipt.seq r = 0 → Receipt.prevHash r = none
  linked : ∀ r ∈ rs, ∀ r' ∈ rs, Receipt.seq r' = Receipt.seq r + 1 →
    Receipt.prevHash r' = some (Receipt.hash r)
  oneKid : ∀ r ∈ rs, ∀ r' ∈ rs, Receipt.agentId r = Receipt.agentId r' →
    Receipt.kid r = Receipt.kid r'
  authentic : ∀ r ∈ rs, Authentic I v RECEIPT_SIG_DOMAIN (Receipt.kid r) (receiptHashInput r)
    (Receipt.sigValue r)
  identity : ∀ m, manifest = some m → ∀ r ∈ rs, Lists m (Receipt.agentId r) (Receipt.kid r)
  closed : ∀ cp, checkpoint = some cp → CheckpointCloses I v manifest rs cp

/-! ## A stopped verification is never `VALID` -/

/-- The result is not a `VALID` one. -/
def NotValid (r : VerifyResult) : Prop := r.status ≠ .VALID

instance : DecidablePred NotValid := fun _ => inferInstanceAs (Decidable (_ ≠ _))

variable {count : Nat}

lemma notValid_fail {status : VerifyStatus} {reason : String} {chain : Option String} {badSeq : Option Int} (h : status ≠ .VALID) :
    NotValid (fail status reason chain count badSeq) := h

lemma errorsIn_admitReceipts (o : VerifyOptions) (receipts : Json) :
    ErrorsIn NotValid (admitReceipts o receipts) := by
  unfold admitReceipts
  split
  · refine .refusing rfl ?_
    exact .refusing rfl .ok
  · exact .error (notValid_fail (by decide))

lemma errorsIn_manifestEntries (ms : List (String × Json)) :
    ErrorsIn NotValid (manifestEntries ms) := by
  induction ms with
  | nil => exact .ok
  | cons m ms ih =>
    refine .demanding rfl fun _ => ?_
    exact .bind ih fun _ => .ok

lemma errorsIn_admitOptionalManifest (m : Option Json) :
    ErrorsIn NotValid (admitOptionalManifest m) := by
  cases m with
  | none => exact .ok
  | some m =>
    refine .map (.demanding rfl fun ms => ?_)
    exact errorsIn_manifestEntries ms

lemma errorsIn_checkShapes {P : VerifyResult → Prop} {count : Nat}
    (hP : ∀ reason idx, P (fail .MALFORMED reason none count idx)) (rs : List Json) :
    ∀ idx, ErrorsIn P (checkShapes count idx rs) := by
  induction rs with
  | nil => exact fun _ => .ok
  | cons r rs ih =>
    intro idx
    exact .bind (.refuse (hP _ _)) fun _ => ih (idx + 1)

lemma errorsIn_indexBySeq {P : VerifyResult → Prop} {chainId : String} {count : Nat}
    (hP : ∀ reason s, P (fail .TAMPERED reason (some chainId) count s)) (rs : List Json) :
    ∀ bySeq, ErrorsIn P (indexBySeq chainId count bySeq rs) := by
  induction rs with
  | nil => exact fun _ => .ok
  | cons r rs ih =>
    intro bySeq
    exact .bind (.refuse (hP _ _)) fun _ => ih _

lemma errorsIn_orderFrom (chainId : String) (count : Nat) (bySeq : List (Int × Json)) (n : Nat) :
    ∀ s, ErrorsIn NotValid (orderFrom chainId count bySeq s n) := by
  induction n with
  | zero => exact fun _ => .ok
  | succ n ih =>
    intro s
    refine .demanding rfl fun _ => ?_
    exact .bind (ih (s + 1)) fun _ => .ok

lemma errorsIn_tenantStep (o : VerifyOptions) (chainId : String) (count : Nat) (st : TenantScan)
    (r : Json) : ErrorsIn NotValid (tenantStep o chainId count st r) := by
  unfold tenantStep
  simp only
  split
  · exact .ok
  · exact .refusing rfl .ok

lemma errorsIn_tenantScan (o : VerifyOptions) (chainId : String) (count : Nat) (rs : List Json) :
    ∀ st, ErrorsIn NotValid (tenantScan o chainId count st rs) := by
  induction rs with
  | nil => exact fun _ => .ok
  | cons r rs ih =>
    intro st
    exact .bind (errorsIn_tenantStep o chainId count st r) fun st' => ih st'

lemma errorsIn_admitKeyring (I : Intrinsics) (chainId : String) (count : Nat) (k : Option Json) :
    ErrorsIn NotValid (admitKeyring I chainId count k) := by
  cases k with
  | none => exact .ok
  | some k =>
    rw [admitKeyring]
    cases parseVerificationKeyring I "keyring" k with
    | ok v => exact .ok
    | error reason => exact .error (notValid_fail (by decide))

lemma errorsIn_pinKid (c : WalkContext) (pinned : List (String × String)) (r : Json) :
    ErrorsIn NotValid (pinKid c pinned r) := by
  unfold pinKid
  split
  · exact .ok
  · exact .refusing rfl .ok

lemma errorsIn_authenticate (I : Intrinsics) (c : WalkContext) (hashInput : List Char)
    (retired : Option (Int × String)) (r : Json) :
    ErrorsIn NotValid (authenticate I c hashInput retired r) := by
  unfold authenticate
  split
  · exact .ok
  · refine .demanding rfl fun _ => ?_
    exact .refusing rfl .ok

lemma errorsIn_checkIdentity (c : WalkContext) (r : Json) :
    ErrorsIn NotValid (checkIdentity c r) := by
  unfold checkIdentity
  split
  · exact .refuses rfl
  · exact .ok

lemma errorsIn_checkLinkage (c : WalkContext) (prev : Option Json) (r : Json) :
    ErrorsIn NotValid (checkLinkage c prev r) := by
  unfold checkLinkage
  split
  · exact .refuses rfl
  · exact .refuses rfl

lemma errorsIn_walk (I : Intrinsics) (o : VerifyOptions) (c : WalkContext) (rs : List Json) :
    ∀ st, ErrorsIn NotValid (walk I o c st rs) := by
  induction rs with
  | nil => exact fun _ => .ok
  | cons r rs ih =>
    intro st
    refine .bind ?_ fun st' => ih st'
    refine .demanding rfl fun _ => ?_
    refine .refusing rfl ?_
    refine .refusing rfl ?_
    refine .bind (errorsIn_pinKid _ _ _) fun _ => ?_
    refine .bind (errorsIn_authenticate _ _ _ _ _) fun _ => ?_
    refine .bind (errorsIn_checkIdentity _ _) fun _ => ?_
    exact .bind (errorsIn_checkLinkage _ _ _) fun _ => .ok

lemma errorsIn_checkOpener (c : WalkContext) (genesis head cp : Json) (agents : List String) :
    ErrorsIn NotValid (checkOpener c genesis head cp agents) := by
  unfold checkOpener
  split
  · exact .refusing rfl .ok
  · exact .ok

lemma errorsIn_checkTail (I : Intrinsics) (c : WalkContext) (genesis head : Json)
    (agents : List String) (retired : Option (Int × String)) (checkpoint : Option Json) :
    ErrorsIn NotValid (checkTail I c genesis head agents retired checkpoint) := by
  unfold checkTail
  simp only
  split
  · exact .ok
  · refine .refusing rfl ?_
    refine .refusing rfl ?_
    refine .refusing rfl ?_
    refine .refusing rfl ?_
    refine .refusing rfl ?_
    exact .bind (errorsIn_checkOpener _ _ _ _ _) fun _ => .ok

lemma errorsIn_stages (I : Intrinsics) (o : VerifyOptions) (docs : VerifyDocuments)
    (receipts : Json) : ErrorsIn NotValid (stages I o docs receipts) := by
  refine .bind (errorsIn_admitReceipts _ _) fun rs => ?_
  refine .bind (errorsIn_admitOptionalManifest _) fun _ => ?_
  refine .bind (errorsIn_checkShapes (fun _ _ => notValid_fail (by decide)) _ _) fun _ => ?_
  refine .refusing rfl ?_
  refine .bind (errorsIn_indexBySeq (fun _ _ => notValid_fail (by decide)) _ _) fun _ => ?_
  refine .bind (errorsIn_orderFrom _ _ _ _ _) fun _ => ?_
  refine .bind (errorsIn_tenantScan _ _ _ _ _) fun _ => ?_
  refine .bind (errorsIn_admitKeyring _ _ _ _) fun _ => ?_
  refine .bind (errorsIn_walk _ _ _ _ _) fun _ => ?_
  exact .bind (errorsIn_checkTail _ _ _ _ _ _ _) fun _ => .ok

/-- `VALID` is only ever answered at the end of the pipeline. -/
lemma verifyParsedChain_valid_iff_stages (I : Intrinsics) (o : VerifyOptions)
    (docs : VerifyDocuments) (receipts : Json) :
    (verifyParsedChain I o docs receipts).status = .VALID ↔
      ∃ res, stages I o docs receipts = .ok res ∧ res.status = .VALID := by
  unfold verifyParsedChain
  cases h : stages I o docs receipts with
  | ok res => simp
  | error res =>
    have hnot : res.status ≠ .VALID := errorsIn_stages I o docs receipts res h
    simpa using hnot

/-! ## Admission and shapes -/

variable {o : VerifyOptions} {rs : List Json}

lemma admitReceipts_eq_ok_iff {receipts : Json} : admitReceipts o receipts = .ok rs ↔
      receipts = .arr rs ∧ rs ≠ [] ∧ rs.length ≤ o.maxReceipts := by
  cases receipts with
  | arr xs =>
    simp only [admitReceipts, ok_iff, decide_eq_false_iff_not, List.length_eq_zero_iff, gt_iff_lt,
      not_lt, Json.arr.injEq]
    constructor
    · rintro ⟨_, hne, _, hle, rfl⟩
      exact ⟨rfl, hne, hle⟩
    · rintro ⟨rfl, hne, hle⟩
      exact ⟨(), hne, (), hle, rfl⟩
  | _ => simp [admitReceipts]

lemma checkShapes_eq_ok_iff (rs : List Json) :
    ∀ idx u, checkShapes count idx rs = .ok u ↔ ∀ r ∈ rs, Schema.ReceiptShape r := by
  induction rs with
  | nil => intro idx u; simp [checkShapes]
  | cons r rs ih =>
    intro idx u
    simp only [checkShapes, ok_iff, ih, List.forall_mem_cons, Bool.not_eq_false', List.isEmpty_iff,
      Schema.validateReceiptShapeParsed_eq_nil_iff, exists_const]

variable {chainId : String}

lemma checkPartition_eq_ok_iff {u : Unit} :
    checkPartition chainId rs = .ok u ↔ ∀ r ∈ rs, Receipt.chainId r = chainId := by
  simp [checkPartition]

/-! ## Ordering -/

lemma indexBySeq_eq_ok_iff (rs : List Json) : ∀ acc out, indexBySeq chainId count acc rs = .ok out ↔
      out = (rs.map fun r => (Receipt.seq r, r)).reverse ++ acc ∧ (rs.map Receipt.seq).Nodup ∧
        ∀ r ∈ rs, acc.lookup (Receipt.seq r) = none := by
  induction rs with
  | nil => intro acc out; simp [indexBySeq, eq_comm]
  | cons r rs ih =>
    intro acc out
    simp only [indexBySeq, ok_iff, ih, List.map_cons, List.reverse_cons, List.append_assoc,
      List.singleton_append, List.nodup_cons, List.forall_mem_cons, Option.isSome_eq_false_iff,
      Option.isNone_iff_eq_none, exists_const]
    constructor
    · rintro ⟨hacc, hout, hnd, hrest⟩
      have hnew : ∀ r' ∈ rs, Receipt.seq r' ≠ Receipt.seq r ∧
          acc.lookup (Receipt.seq r') = none := by
        intro r' hr'
        have h := hrest r' hr'
        rw [List.lookup_cons] at h
        by_cases he : Receipt.seq r' = Receipt.seq r
        · simp [he] at h
        · have hbeq : (Receipt.seq r' == Receipt.seq r) = false := by simpa using he
          rw [hbeq] at h
          exact ⟨he, h⟩
      refine ⟨hout, ⟨?_, hnd⟩, hacc, fun r' hr' => (hnew r' hr').2⟩
      intro hmem
      obtain ⟨r', hr', he⟩ := List.mem_map.mp hmem
      exact (hnew r' hr').1 he
    · rintro ⟨hout, ⟨hnot, hnd⟩, hacc, hrest⟩
      refine ⟨hacc, hout, hnd, fun r' hr' => ?_⟩
      have hne : Receipt.seq r' ≠ Receipt.seq r := fun he =>
        hnot (List.mem_map.mpr ⟨r', hr', he⟩)
      have hbeq : (Receipt.seq r' == Receipt.seq r) = false := by simpa using hne
      rw [List.lookup_cons, hbeq]
      exact hrest r' hr'

variable {r : Json}

/-- Looking a sequence number up in the index of receipts with distinct numbers. -/
lemma lookup_index_iff (hnd : (rs.map Receipt.seq).Nodup) {s : Int} :
    ((rs.map fun r => (Receipt.seq r, r)).reverse).lookup s = some r ↔
      r ∈ rs ∧ Receipt.seq r = s := by
  have hfst : (((rs.map fun r => (Receipt.seq r, r)).reverse).map Prod.fst).Nodup := by
    rw [List.map_reverse, List.map_map, List.nodup_reverse]
    exact hnd
  rw [Assoc.lookup_eq_some_iff hfst, List.mem_reverse, List.mem_map]
  constructor
  · rintro ⟨r', hr', he⟩
    obtain ⟨rfl, rfl⟩ := Prod.mk.inj he
    exact ⟨hr', rfl⟩
  · rintro ⟨hr, rfl⟩
    exact ⟨r, hr, rfl⟩

lemma orderFrom_eq_ok_iff {bySeq : List (Int × Json)} (n : Nat) :
    ∀ s out, orderFrom chainId count bySeq s n = .ok out ↔
      out.length = n ∧ ∀ i r, out[i]? = some r → bySeq.lookup ((s + i : Nat) : Int) = some r := by
  induction n with
  | zero =>
    intro s out
    simp only [orderFrom, Except.ok.injEq, List.length_eq_zero_iff]
    constructor
    · rintro rfl
      exact ⟨rfl, by simp⟩
    · rintro ⟨rfl, -⟩
      rfl
  | succ n ih =>
    intro s out
    simp only [orderFrom, ok_iff, ih]
    constructor
    · rintro ⟨r, hr, rest, ⟨hlen, hrest⟩, rfl⟩
      refine ⟨by simp [hlen], fun i r' hi => ?_⟩
      cases i with
      | zero =>
        rw [List.getElem?_cons_zero, Option.some.injEq] at hi
        rw [← hi]
        simpa using hr
      | succ i =>
        rw [List.getElem?_cons_succ] at hi
        have h := hrest i r' hi
        rwa [show s + (i + 1) = s + 1 + i by omega]
    · rintro ⟨hlen, hall⟩
      cases out with
      | nil => simp at hlen
      | cons r rest =>
        refine ⟨r, by simpa using hall 0 r rfl, rest, ⟨by simpa using hlen, fun i r' hi => ?_⟩, rfl⟩
        have h := hall (i + 1) r' (by simpa using hi)
        rwa [show s + (i + 1) = s + 1 + i by omega] at h

/-- The ordering stages succeed with the permutation of the receipts that lists them by sequence
number. -/
lemma orderStage_iff {ordered : List Json} :
    (∃ bySeq, indexBySeq chainId rs.length [] rs = .ok bySeq ∧
      orderFrom chainId rs.length bySeq 0 rs.length = .ok ordered) ↔
      ordered.Perm rs ∧ ordered.map Receipt.seq = (List.range rs.length).map Int.ofNat := by
  simp only [indexBySeq_eq_ok_iff, orderFrom_eq_ok_iff, List.append_nil, List.lookup_nil,
    implies_true, and_true, Nat.zero_add]
  constructor
  · rintro ⟨bySeq, ⟨rfl, hnd⟩, hlen, hall⟩
    have hget : ∀ (i : Nat) r, ordered[i]? = some r → r ∈ rs ∧ Receipt.seq r = (i : Int) :=
      fun i r hi => (lookup_index_iff hnd).mp (hall i r hi)
    have hseq : ordered.map Receipt.seq = (List.range rs.length).map Int.ofNat := by
      refine List.ext_getElem? fun i => ?_
      rw [List.getElem?_map, List.getElem?_map]
      by_cases hi : i < rs.length
      · obtain ⟨r, hr⟩ : ∃ r, ordered[i]? = some r :=
          ⟨_, List.getElem?_eq_getElem (hlen ▸ hi)⟩
        rw [hr, List.getElem?_range hi, Option.map_some, Option.map_some, (hget i r hr).2]
        rfl
      · rw [List.getElem?_eq_none (by omega), List.getElem?_eq_none (by simpa using hi)]
        rfl
    have hndOrdered : ordered.Nodup := by
      refine List.Nodup.of_map Receipt.seq ?_
      rw [hseq]
      exact List.nodup_range.map fun _ _ h => Int.ofNat.inj h
    have hsub : ordered ⊆ rs := fun r hr => by
      obtain ⟨i, hi⟩ := List.mem_iff_getElem?.mp hr
      exact (hget i r hi).1
    exact ⟨(List.subperm_of_subset hndOrdered hsub).perm_of_length_le (by omega), hseq⟩
  · rintro ⟨hperm, hseq⟩
    have hnd : (rs.map Receipt.seq).Nodup := by
      rw [← (hperm.map Receipt.seq).nodup_iff, hseq]
      exact List.nodup_range.map fun _ _ h => Int.ofNat.inj h
    refine ⟨_, ⟨rfl, hnd⟩, hperm.length_eq, fun i r hi => ?_⟩
    refine (lookup_index_iff hnd).mpr ⟨hperm.mem_iff.mp (List.mem_iff_getElem?.mpr ⟨i, hi⟩), ?_⟩
    have hmap := congrArg (fun l => l[i]?) hseq
    simp only [List.getElem?_map, hi, Option.map_some] at hmap
    have hlt : i < rs.length := by
      rw [← hperm.length_eq]
      exact (List.getElem?_eq_some_iff.mp hi).1
    rw [List.getElem?_range hlt, Option.map_some, Option.some.injEq] at hmap
    exact hmap

/-! ## The tenant scan -/

/-- The last present tenant after a receipt. -/
def nextPresent (st : TenantScan) (r : Json) : Option (String × Int) :=
  match Receipt.tenant r with
  | none => st.lastPresent
  | some t => some (t, Receipt.seq r)

/-- A receipt whose tenant, if it carries one, is the last present one. -/
def SameTenant (last : Option (String × Int)) (r : Json) : Prop :=
  ∀ t, Receipt.tenant r = some t → ∀ t₀ s₀, last = some (t₀, s₀) → t = t₀

lemma presentDrift_eq_none_iff {st : TenantScan} {s : Int} {cur : String} :
    presentDrift st s cur = none ↔ ∀ t₀ s₀, st.lastPresent = some (t₀, s₀) → cur = t₀ := by
  unfold presentDrift
  cases st.lastPresent with
  | none => simp
  | some p => obtain ⟨t, s'⟩ := p; simp

lemma tenantStep_eq_ok (ho : o.requireTenantConsistency = true) {st st' : TenantScan}
    (h : tenantStep o chainId count st r = .ok st') :
    SameTenant st.lastPresent r ∧ st'.lastPresent = nextPresent st r := by
  unfold tenantStep at h
  cases ht : Receipt.tenant r with
  | none =>
    simp only [ht, Except.ok.injEq] at h
    subst h
    refine ⟨fun t h' => ?_, by simp [nextPresent, ht]⟩
    rw [ht] at h'
    cases h'
  | some cur =>
    simp only [ht, ok_iff, ho, Bool.and_true, Option.isSome_eq_false_iff, Option.isNone_iff_eq_none,
      presentDrift_eq_none_iff] at h
    obtain ⟨_, hdrift, rfl⟩ := h
    refine ⟨fun t h' => ?_, by simp [nextPresent, ht]⟩
    rw [ht, Option.some.injEq] at h'
    exact h' ▸ hdrift

lemma exists_tenantStep {st : TenantScan} (h : SameTenant st.lastPresent r) :
    ∃ st', tenantStep o chainId count st r = .ok st' := by
  unfold tenantStep
  cases ht : Receipt.tenant r with
  | none => exact ⟨_, rfl⟩
  | some cur =>
    have hdrift : presentDrift st (Receipt.seq r) cur = none :=
      presentDrift_eq_none_iff.mpr (h cur ht)
    simp only [hdrift, Option.isSome_none, Bool.false_and]
    exact ⟨_, rfl⟩

/-- With tenant consistency required, the scan succeeds when all tenants that are present agree
with the last present one and with each other. -/
lemma exists_tenantScan_iff (ho : o.requireTenantConsistency = true) (rs : List Json) :
    ∀ st, (∃ st', tenantScan o chainId count st rs = .ok st') ↔
      (∀ r ∈ rs, SameTenant st.lastPresent r) ∧
        ∀ r ∈ rs, ∀ r' ∈ rs, ∀ t t', Receipt.tenant r = some t → Receipt.tenant r' = some t' →
          t = t' := by
  induction rs with
  | nil => intro st; simp [tenantScan]
  | cons r rs ih =>
    intro st
    constructor
    · rintro ⟨st', h⟩
      simp only [tenantScan, bind_eq_ok_iff] at h
      obtain ⟨st1, hstep, hscan⟩ := h
      obtain ⟨hhead, hnext⟩ := tenantStep_eq_ok ho hstep
      obtain ⟨hlast, hpair⟩ := (ih st1).mp ⟨st', hscan⟩
      rw [hnext] at hlast
      -- a tenant present at `r` is the last present one for the rest
      have hfirst : ∀ r' ∈ rs, ∀ t t', Receipt.tenant r = some t →
          Receipt.tenant r' = some t' → t = t' := by
        intro r' hr' t t' ht ht'
        exact (hlast r' hr' t' ht' t (Receipt.seq r) (by simp [nextPresent, ht])).symm
      refine ⟨?_, ?_⟩
      · intro r' hr'
        rcases List.mem_cons.mp hr' with rfl | hr'
        · exact hhead
        · intro t' ht' t₀ s₀ h0
          cases ht : Receipt.tenant r with
          | none => exact hlast r' hr' t' ht' t₀ s₀ (by simpa [nextPresent, ht] using h0)
          | some t => rw [← hfirst r' hr' t t' ht ht', hhead t ht t₀ s₀ h0]
      · intro r1 h1 r2 h2 t1 t2 ht1 ht2
        rcases List.mem_cons.mp h1 with e1 | m1 <;> rcases List.mem_cons.mp h2 with e2 | m2
        · rw [e1] at ht1
          rw [e2, ht1] at ht2
          exact Option.some.inj ht2
        · exact hfirst r2 m2 t1 t2 (e1 ▸ ht1) ht2
        · exact (hfirst r1 m1 t2 t1 (e2 ▸ ht2) ht1).symm
        · exact hpair r1 m1 r2 m2 t1 t2 ht1 ht2
    · rintro ⟨hlast, hpair⟩
      obtain ⟨st1, hstep⟩ : ∃ st1, tenantStep o chainId count st r = .ok st1 :=
        exists_tenantStep (hlast r (.head _))
      have hnext := (tenantStep_eq_ok ho hstep).2
      have hrest : ∃ st', tenantScan o chainId count st1 rs = .ok st' := by
        refine (ih st1).mpr ⟨fun r' hr' => ?_, fun r1 h1 r2 h2 =>
          hpair r1 (.tail _ h1) r2 (.tail _ h2)⟩
        rw [hnext]
        intro t' ht' t₀ s₀ h0
        cases ht : Receipt.tenant r with
        | none =>
          exact hlast r' (.tail _ hr') t' ht' t₀ s₀
            (by simpa [nextPresent, ht] using h0)
        | some t =>
          simp only [nextPresent, ht, Option.some.injEq, Prod.mk.injEq] at h0
          rw [← h0.1]
          exact hpair r' (.tail _ hr') r (.head _) t' t ht' ht
      obtain ⟨st', hst'⟩ := hrest
      exact ⟨st', by simp only [tenantScan, bind_eq_ok_iff]; exact ⟨st1, hstep, hst'⟩⟩

/-! ## The walk -/

/-- What the walk checks of one receipt by itself. -/
structure ReceiptOk (I : Intrinsics) (v : ParsedVerificationKeyring)
    (manifest : Option (List (String × List String))) (r : Json) : Prop where
  hash : recomputedHash I r = some (Receipt.hash r)
  authentic : Authentic I v RECEIPT_SIG_DOMAIN (Receipt.kid r) (receiptHashInput r)
    (Receipt.sigValue r)
  identity : ∀ m, manifest = some m → Lists m (Receipt.agentId r) (Receipt.kid r)

/-- The key id pinned for the receipt's agent, if any, is the receipt's. -/
def Pinned (pinned : List (String × String)) (r : Json) : Prop :=
  ∀ k, pinned.lookup (Receipt.agentId r) = some k → k = Receipt.kid r

/-- The receipt names its predecessor's hash, or none at the genesis. -/
def Linked (prev : Option Json) (r : Json) : Prop :=
  (Receipt.seq r = 0 → Receipt.prevHash r = none) ∧
    (Receipt.seq r ≠ 0 → Receipt.prevHash r = prev.map Receipt.hash)

/-- The pinned key ids after a receipt. -/
def nextPinned (pinned : List (String × String)) (r : Json) : List (String × String) :=
  match pinned.lookup (Receipt.agentId r) with
  | none => (Receipt.agentId r, Receipt.kid r) :: pinned
  | some _ => pinned

lemma authorizes_iff {m : List (String × List String)} {a k : String} :
    authorizes m a k = true ↔ Lists m a k := by
  unfold authorizes Lists
  cases m.lookup a <;> simp

variable {c : WalkContext}

lemma pinKid_eq_ok_iff {pinned out : List (String × String)} :
    pinKid c pinned r = .ok out ↔ Pinned pinned r ∧ out = nextPinned pinned r := by
  unfold pinKid Pinned nextPinned
  cases pinned.lookup (Receipt.agentId r) with
  | none => simp [eq_comm]
  | some k =>
    simp only [ok_iff, exists_const, test_iff, Option.some.injEq, forall_eq']
    exact and_congr_right fun _ => eq_comm

lemma checkLinkage_eq_ok_iff {prev : Option Json} {u : Unit} :
    checkLinkage c prev r = .ok u ↔ Linked prev r := by
  unfold checkLinkage Linked
  by_cases h : Receipt.seq r = 0
  · simp [h]
  · simp [h]

variable {v : ParsedVerificationKeyring}

lemma checkIdentity_eq_ok_iff (hv : c.verification = some v) {u : Unit} :
    checkIdentity c r = .ok u ↔
      ∀ m, c.manifest = some m → Lists m (Receipt.agentId r) (Receipt.kid r) := by
  unfold checkIdentity
  rw [hv]
  cases c.manifest with
  | none => simp
  | some m => simp [authorizes_iff]

lemma lookup_filter_nonEmpty {keys : List (String × String)} (hne : ∀ e ∈ keys, e.2 ≠ "")
    (k : String) : (keys.lookup k).filter (fun p => p ≠ "") = keys.lookup k := by
  cases hl : keys.lookup k with
  | none => rfl
  | some pub =>
    have hpub : pub ≠ "" := hne _ (Assoc.mem_of_lookup hl)
    simp [Option.filter, hpub]

variable {I : Intrinsics}

lemma authenticate_eq_ok_iff
    (hv : c.verification = some v) (hne : ∀ e ∈ v.keyring, e.2 ≠ "") {input : List Char} :
    authenticate I c input none r = .ok none ↔
      ∃ pub, v.keyring.lookup (Receipt.kid r) = some pub ∧
        I.verifyEd25519 pub (I.signingMessage RECEIPT_SIG_DOMAIN input) (Receipt.sigValue r) = true ∧
        Receipt.kid r ∉ v.retiredKids := by
  have hfilter := lookup_filter_nonEmpty hne (Receipt.kid r)
  simp only [authenticate, hv, hfilter, ok_iff, Option.isNone_none, Bool.true_and,
    Bool.not_eq_false', List.contains_iff_mem]
  constructor
  · rintro ⟨pub, hpub, _, hsig, hret⟩
    refine ⟨pub, hpub, hsig, fun hmem => ?_⟩
    rw [if_pos hmem] at hret
    cases hret
  · rintro ⟨pub, hpub, hsig, hret⟩
    exact ⟨pub, hpub, (), hsig, if_neg hret⟩

variable {p : Int × String}

lemma authenticate_retired {input : List Char} {out : Option (Int × String)}
    (h : authenticate I c input (some p) r = .ok out) : out = some p := by
  unfold authenticate at h
  cases hv : c.verification with
  | none => simpa [hv, eq_comm] using h
  | some v =>
    simp only [hv, ok_iff] at h
    obtain ⟨pub, -, _, -, h⟩ := h
    simpa [eq_comm] using h

/-- A step that keeps the retirement record clean checks exactly these things. -/
lemma walkStep_clean_iff (ho : o.requireNFC = false) (hv : c.verification = some v)
    (hne : ∀ e ∈ v.keyring, e.2 ≠ "") {st : WalkState} (hst : st.retired = none) :
    (∃ st', walkStep I o c st r = .ok st' ∧ st'.retired = none ∧ st'.prev = some r ∧
        st'.pinnedKid = nextPinned st.pinnedKid r) ↔
      ReceiptOk I v c.manifest r ∧ Pinned st.pinnedKid r ∧ Linked st.prev r := by
  simp only [walkStep, ok_iff, hst, ho, Bool.false_and, pinKid_eq_ok_iff,
    checkIdentity_eq_ok_iff hv, checkLinkage_eq_ok_iff, test_iff]
  constructor
  · rintro ⟨st', ⟨input, hinput, _, hhash, _, -, pinned, ⟨hpin, -⟩, retired, hauth, _, hid, _,
      hlink, rfl⟩, hret, -, -⟩
    have hret' : retired = none := hret
    rw [hret'] at hauth
    obtain ⟨pub, hpub, hsig, hnot⟩ := (authenticate_eq_ok_iff hv hne).mp hauth
    exact ⟨⟨by rw [recomputedHash, hinput, Option.map_some, hhash], ⟨pub, input, hpub, hinput,
      hsig, hnot⟩, hid⟩, hpin, hlink⟩
  · rintro ⟨⟨hhash, ⟨pub, input, hpub, hinput, hsig, hnot⟩, hid⟩, hpin, hlink⟩
    rw [recomputedHash, hinput, Option.map_some, Option.some.injEq] at hhash
    exact ⟨_, ⟨input, hinput, (), hhash, (), trivial, _, ⟨hpin, rfl⟩, none,
      (authenticate_eq_ok_iff hv hne).mpr ⟨pub, hpub, hsig, hnot⟩, (), hid, (), hlink, rfl⟩,
      rfl, rfl, rfl⟩

lemma walkStep_retired {st st' : WalkState} (hst : st.retired = some p)
    (h : walkStep I o c st r = .ok st') : st'.retired = some p := by
  simp only [walkStep, ok_iff, hst] at h
  obtain ⟨input, -, _, -, _, -, pinned, -, retired, hauth, _, -, _, -, rfl⟩ := h
  exact authenticate_retired hauth

/-- A retired key, once met, is remembered to the end of the walk. -/
lemma walk_retired (rs : List Json) : ∀ {st st' : WalkState}, st.retired = some p →
      walk I o c st rs = .ok st' → st'.retired = some p := by
  induction rs with
  | nil =>
    intro st st' hst h
    rw [walk, Except.ok.injEq] at h
    rw [← h, hst]
  | cons r rs ih =>
    intro st st' hst h
    simp only [walk, bind_eq_ok_iff] at h
    obtain ⟨st1, hstep, hwalk⟩ := h
    exact ih (walkStep_retired hst hstep) hwalk

/-- The checks of the walk, along the list. -/
def WalkOk (I : Intrinsics) (v : ParsedVerificationKeyring)
    (manifest : Option (List (String × List String))) :
    Option Json → List (String × String) → List Json → Prop
  | _, _, [] => True
  | prev, pinned, r :: rs =>
    (ReceiptOk I v manifest r ∧ Pinned pinned r ∧ Linked prev r) ∧
      WalkOk I v manifest (some r) (nextPinned pinned r) rs

lemma walk_clean_iff (ho : o.requireNFC = false) (hv : c.verification = some v)
    (hne : ∀ e ∈ v.keyring, e.2 ≠ "") (rs : List Json) : ∀ st : WalkState, st.retired = none →
      ((∃ st', walk I o c st rs = .ok st' ∧ st'.retired = none) ↔
        WalkOk I v c.manifest st.prev st.pinnedKid rs) := by
  induction rs with
  | nil =>
    intro st hst
    simp only [walk, WalkOk, iff_true]
    exact ⟨st, rfl, hst⟩
  | cons r rs ih =>
    intro st hst
    simp only [walk, bind_eq_ok_iff, WalkOk]
    constructor
    · rintro ⟨st', ⟨st1, hstep, hwalk⟩, hret⟩
      have hst1 : st1.retired = none := by
        cases h : st1.retired with
        | none => rfl
        | some p =>
          rw [walk_retired rs h hwalk] at hret
          cases hret
      have hfields : st1.prev = some r ∧ st1.pinnedKid = nextPinned st.pinnedKid r := by
        simp only [walkStep, ok_iff, pinKid_eq_ok_iff] at hstep
        obtain ⟨_, -, _, -, _, -, _, ⟨-, rfl⟩, _, -, _, -, _, -, rfl⟩ := hstep
        exact ⟨rfl, rfl⟩
      refine ⟨(walkStep_clean_iff ho hv hne hst).mp ⟨st1, hstep, hst1, hfields⟩, ?_⟩
      rw [← hfields.1, ← hfields.2]
      exact (ih st1 hst1).mp ⟨st', hwalk, hret⟩
    · rintro ⟨hhead, hrest⟩
      obtain ⟨st1, hstep, hst1, hprev, hpin⟩ := (walkStep_clean_iff ho hv hne hst).mpr hhead
      rw [← hprev, ← hpin] at hrest
      obtain ⟨st', hwalk, hret⟩ := (ih st1 hst1).mpr hrest
      exact ⟨st', ⟨st1, hstep, hwalk⟩, hret⟩

/-- Every receipt of the list names its predecessor in the list. -/
def LinkedFrom : Option Json → List Json → Prop
  | _, [] => True
  | prev, r :: rs => Linked prev r ∧ LinkedFrom (some r) rs

lemma lookup_nextPinned {pinned : List (String × String)} {a k : String} :
    (nextPinned pinned r).lookup a = some k ↔
      pinned.lookup a = some k ∨
        (pinned.lookup a = none ∧ a = Receipt.agentId r ∧ k = Receipt.kid r) := by
  unfold nextPinned
  by_cases ha : a = Receipt.agentId r
  · subst ha
    cases h : pinned.lookup (Receipt.agentId r) with
    | none => simp [eq_comm]
    | some k' => simp [h]
  · have hbeq : (a == Receipt.agentId r) = false := by simpa using ha
    cases h : pinned.lookup (Receipt.agentId r) with
    | none => simp [List.lookup_cons, hbeq, ha]
    | some k' => simp [ha]

/-- The checks of the walk as statements about the receipts of the list; only the linkage still
speaks of their order. -/
lemma walkOk_iff {manifest : Option (List (String × List String))} (rs : List Json) :
    ∀ prev pinned, WalkOk I v manifest prev pinned rs ↔
      (∀ r ∈ rs, ReceiptOk I v manifest r) ∧ (∀ r ∈ rs, Pinned pinned r) ∧
        (∀ r ∈ rs, ∀ r' ∈ rs, Receipt.agentId r = Receipt.agentId r' →
          Receipt.kid r = Receipt.kid r') ∧ LinkedFrom prev rs := by
  induction rs with
  | nil => intro prev pinned; simp [WalkOk, LinkedFrom]
  | cons r rs ih =>
    intro prev pinned
    simp only [WalkOk, ih, LinkedFrom]
    constructor
    · rintro ⟨⟨hok, hpin, hlink⟩, hoks, hpins, hkids, hlinks⟩
      -- the pin left by `r` is what later receipts of the same agent are held to
      have hsame : ∀ r' ∈ rs, Receipt.agentId r = Receipt.agentId r' →
          Receipt.kid r = Receipt.kid r' := by
        intro r' hr' he
        cases hl : pinned.lookup (Receipt.agentId r) with
        | none =>
          exact hpins r' hr' (Receipt.kid r)
            (lookup_nextPinned.mpr (Or.inr ⟨he ▸ hl, he.symm, rfl⟩))
        | some k =>
          have hk := hpin k hl
          rw [← hk]
          exact hpins r' hr' k (lookup_nextPinned.mpr (Or.inl (he ▸ hl)))
      refine ⟨?_, ?_, ?_, hlink, hlinks⟩
      · intro r' hr'
        rcases List.mem_cons.mp hr' with rfl | hr'
        · exact hok
        · exact hoks r' hr'
      · intro r' hr'
        rcases List.mem_cons.mp hr' with rfl | hr'
        · exact hpin
        · exact fun k hk => hpins r' hr' k (lookup_nextPinned.mpr (Or.inl hk))
      · intro r1 h1 r2 h2 he
        rcases List.mem_cons.mp h1 with e1 | m1 <;> rcases List.mem_cons.mp h2 with e2 | m2
        · rw [e1, e2]
        · rw [e1] at he ⊢
          exact hsame r2 m2 he
        · rw [e2] at he ⊢
          exact (hsame r1 m1 he.symm).symm
        · exact hkids r1 m1 r2 m2 he
    · rintro ⟨hoks, hpins, hkids, hlink, hlinks⟩
      refine ⟨⟨hoks r (.head _), hpins r (.head _), hlink⟩,
        fun r' hr' => hoks r' (.tail _ hr'), fun r' hr' k hk => ?_,
        fun r1 h1 r2 h2 => hkids r1 (.tail _ h1) r2 (.tail _ h2),
        hlinks⟩
      rcases lookup_nextPinned.mp hk with hk | ⟨-, he, rfl⟩
      · exact hpins r' (.tail _ hr') k hk
      · exact hkids r (.head _) r' (.tail _ hr') he.symm

/-- Along a list whose sequence numbers count up from `s`, linkage is a statement about pairs of
receipts with consecutive numbers. -/
lemma linkedFrom_iff (rs : List Json) : ∀ (prev : Option Json) (s : Nat),
    rs.map Receipt.seq = (List.range' s rs.length).map Int.ofNat →
    (prev.isSome ↔ s ≠ 0) → (∀ p, prev = some p → Receipt.seq p + 1 = s) → (LinkedFrom prev rs ↔
      (∀ r ∈ rs, Receipt.seq r = 0 → Receipt.prevHash r = none) ∧
        ∀ r, (r ∈ rs ∨ prev = some r) → ∀ r' ∈ rs, Receipt.seq r' = Receipt.seq r + 1 →
          Receipt.prevHash r' = some (Receipt.hash r)) := by
  induction rs with
  | nil => intro prev s _ _ _; simp [LinkedFrom]
  | cons r rs ih =>
    intro prev s hseq hprev hprevSeq
    simp only [List.map_cons, List.length_cons, List.range'_succ, List.cons.injEq] at hseq
    obtain ⟨hr, hrest⟩ := hseq
    have hr' : Receipt.seq r = (s : Int) := hr
    -- the receipts after `r` have larger numbers
    have hlater : ∀ r' ∈ rs, (s : Int) < Receipt.seq r' := by
      intro r' hmem
      have h := List.mem_map_of_mem (f := Receipt.seq) hmem
      rw [hrest] at h
      obtain ⟨n, hn, hn'⟩ := List.mem_map.mp h
      have hlow := (List.mem_range'_1.mp hn).1
      rw [← hn']
      exact Int.ofNat_lt.mpr hlow
    have htail := ih (some r) (s + 1) hrest (by simp) (fun p hp => by
      cases hp
      rw [hr']
      push_cast
      rfl)
    rw [LinkedFrom, htail]
    constructor
    · rintro ⟨⟨hgen, hlink⟩, hgens, hlinks⟩
      refine ⟨?_, ?_⟩
      · intro r1 h1
        rcases List.mem_cons.mp h1 with e1 | m1
        · rw [e1]
          exact hgen
        · exact hgens r1 m1
      · intro r1 h1 r2 h2 hsucc
        rcases List.mem_cons.mp h2 with e2 | m2
        · -- `r` itself: its predecessor is `prev`
          rw [e2] at hsucc ⊢
          rcases h1 with h1 | h1
          · rcases List.mem_cons.mp h1 with e1 | m1
            · rw [e1] at hsucc
              omega
            · have := hlater r1 m1
              omega
          · have hs := hprevSeq r1 h1
            have hne : Receipt.seq r ≠ 0 := by
              have hs0 : s ≠ 0 := hprev.mp (by rw [h1]; rfl)
              rw [hr']
              exact_mod_cast hs0
            rw [hlink hne, h1, Option.map_some]
        · rcases h1 with h1 | h1
          · rcases List.mem_cons.mp h1 with e1 | m1
            · exact hlinks r1 (Or.inr (by rw [e1])) r2 m2 hsucc
            · exact hlinks r1 (Or.inl m1) r2 m2 hsucc
          · have hs := hprevSeq r1 h1
            have := hlater r2 m2
            omega
    · rintro ⟨hgens, hlinks⟩
      refine ⟨⟨hgens r (.head _), fun hne => ?_⟩,
        fun r1 h1 => hgens r1 (.tail _ h1), fun r1 h1 r2 h2 hsucc => ?_⟩
      · have hs0 : s ≠ 0 := fun h => hne (by rw [hr', h]; rfl)
        obtain ⟨p, hp⟩ := Option.isSome_iff_exists.mp (hprev.mpr hs0)
        rw [hp, Option.map_some]
        exact hlinks p (Or.inr hp) r (.head _) (by rw [hr', ← hprevSeq p hp])
      · rcases h1 with h1 | h1
        · exact hlinks r1 (Or.inl (.tail _ h1)) r2 (.tail _ h2) hsucc
        · rw [Option.some.injEq] at h1
          exact hlinks r1 (Or.inl (by rw [h1]; exact .head _)) r2
            (.tail _ h2) hsucc

end Verify

end NoaMandate
