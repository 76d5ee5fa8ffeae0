import NoaMandate.Kernel.Verdict

/-!
# Tamper evidence

Two valid chains whose highest receipts carry one hash are one chain: they have the same length
and, sequence number by sequence number, the same receipts apart from `sig.value`.

The argument runs backwards along the hash links.  Equal hashes have equal hash inputs, because the
hash function is assumed injective; equal hash inputs come from equivalent documents, because the
canonical form is injective (`Json.eqv_of_canonicalText_eq`); equivalent documents name one
predecessor hash.  `Json.Eqv` is equality of parsed documents: the order in which an object lists
its members is not part of it.
-/

namespace NoaMandate

namespace Receipt

/-- The receipt without `sig.value`. -/
def withoutSigValue (r : Json) : Json :=
  match r with
  | .obj ms =>
    match ms.lookup "sig" with
    | some (.obj sig) => .obj (Json.setMember ms "sig" (.obj (Json.eraseMember sig "value")))
    | _ => r
  | _ => r

/-- Two receipts agree in every field except `sig.value`. -/
def Agree (r r' : Json) : Prop := (withoutSigValue r).Eqv (withoutSigValue r')

variable {r r' : Json}

/-- A receipt of the closed shape, opened at the two objects the hash input strips. -/
lemma exists_parts (h : Schema.ReceiptShape r) : ∃ ms chain sig, r = .obj ms ∧
    ms.lookup "chain" = some (.obj chain) ∧ ms.lookup "sig" = some (.obj sig) ∧
    chain.lookup "hash" = some (.str (hash r)) := by
  obtain ⟨ms, rfl⟩ := h.object
  obtain ⟨chain, hchain, hhash⟩ := h.hash_eq
  obtain ⟨sig, hsig, -⟩ := h.sig
  exact ⟨ms, chain, sig, rfl, hchain, hsig, hhash⟩

/-- Receipts with equivalent hash inputs and one recorded hash agree. -/
lemma agree_of_preimage {p p' : Json} (h : Schema.ReceiptShape r) (h' : Schema.ReceiptShape r')
    (hd : r.Distinct) (hd' : r'.Distinct) (hp : preimage r = some p) (hp' : preimage r' = some p')
    (heqv : p.Eqv p') (hhash : hash r = hash r') : Agree r r' := by
  obtain ⟨ms, chain, sig, rfl, hchain, hsig, hrec⟩ := exists_parts h
  obtain ⟨ms', chain', sig', rfl, hchain', hsig', hrec'⟩ := exists_parts h'
  have hnd := ((Json.distinct_obj ms).mp hd).1
  have hnd' := ((Json.distinct_obj ms').mp hd').1
  have hcd := ((Json.distinct_obj chain).mp (hd.get? hchain)).1
  have hcd' := ((Json.distinct_obj chain').mp (hd'.get? hchain')).1
  simp only [preimage, hchain, hsig, Option.some.injEq] at hp
  simp only [preimage, hchain', hsig', Option.some.injEq] at hp'
  subst hp hp'
  have hlook := (Json.eqv_obj_iff (by simpa [Json.setMember_fst] using hnd)
    (by simpa [Json.setMember_fst] using hnd')).mp heqv
  simp only [Json.lookup_setMember] at hlook
  -- the two `chain` objects: equal without `hash`, and `hash` is the same
  have hchainEqv : Json.norm (.obj chain) = Json.norm (.obj chain') := by
    have hstripped : Json.norm (.obj (Json.eraseMember chain "hash")) =
        Json.norm (.obj (Json.eraseMember chain' "hash")) := by
      simpa [hchain, hchain', hsig, hsig'] using hlook "chain"
    have hrest := (Json.eqv_obj_iff (Json.eraseMember_nodup hcd "hash")
      (Json.eraseMember_nodup hcd' "hash")).mp hstripped
    refine (Json.eqv_obj_iff hcd hcd').mpr fun k => ?_
    by_cases hk : k = "hash"
    · rw [hk, hrec, hrec', hhash]
    · simpa [Json.lookup_eraseMember, hk] using hrest k
  unfold Agree withoutSigValue
  simp only [hsig, hsig']
  refine (Json.eqv_obj_iff (by simpa [Json.setMember_fst] using hnd)
    (by simpa [Json.setMember_fst] using hnd')).mpr fun k => ?_
  rw [Json.lookup_setMember, Json.lookup_setMember]
  by_cases hs : k = "sig"
  · simpa [hs, hsig, hsig'] using hlook "sig"
  · by_cases hc : k = "chain"
    · simp [hc, hchain, hchain', hchainEqv]
    · simpa [hs, hc] using hlook k

/-- `sig.value` is not on the path to the sequence number or to the previous hash. -/
lemma withoutSigValue_path? (r : Json) {k : String} (hk : k ≠ "sig") (ks : List String) :
    (withoutSigValue r).path? (k :: ks) = r.path? (k :: ks) := by
  unfold withoutSigValue
  split
  · split
    · simp [Json.path?, Json.lookup_setMember, hk]
    · rfl
  · rfl

lemma withoutSigValue_distinct (h : r.Distinct) : (withoutSigValue r).Distinct := by
  unfold withoutSigValue
  split
  · rename_i ms
    split
    · rename_i sig hsig
      obtain ⟨hnd, hall⟩ := (Json.distinct_obj ms).mp h
      obtain ⟨hsnd, hsall⟩ := (Json.distinct_obj sig).mp (h.get? hsig)
      refine (Json.distinct_obj _).mpr ⟨by rwa [Json.setMember_fst], fun m hm => ?_⟩
      obtain ⟨m0, hm0, rfl⟩ := List.mem_map.mp hm
      by_cases hk : m0.1 = "sig"
      · rw [if_pos hk]
        refine (Json.distinct_obj _).mpr ⟨Json.eraseMember_nodup hsnd _, fun n hn => ?_⟩
        exact hsall n (List.mem_of_mem_filter hn)
      · rw [if_neg hk]
        exact hall m0 hm0
    · exact h
  · exact h

lemma Agree.strAt? (h : Agree r r') (hd : r.Distinct) (hd' : r'.Distinct) {k : String}
    (hk : k ≠ "sig") (ks : List String) : r.strAt? (k :: ks) = r'.strAt? (k :: ks) := by
  have hstr := Json.Eqv.strAt? h (withoutSigValue_distinct hd) (withoutSigValue_distinct hd') (k :: ks)
  rwa [Json.strAt?, Json.strAt?, withoutSigValue_path? r hk, withoutSigValue_path? r' hk] at hstr

lemma Agree.seq_eq (h : Agree r r') (hd : r.Distinct) (hd' : r'.Distinct) : seq r = seq r' := by
  have hnum := Json.Eqv.numAt h (withoutSigValue_distinct hd) (withoutSigValue_distinct hd')
    ["chain", "seq"]
  rwa [Json.numAt, Json.numAt, withoutSigValue_path? r (by decide),
    withoutSigValue_path? r' (by decide)] at hnum

lemma Agree.prevHash_eq (h : Agree r r') (hd : r.Distinct) (hd' : r'.Distinct) :
    prevHash r = prevHash r' :=
  h.strAt? hd hd' (by decide) ["prevHash"]

end Receipt

/-! ## Equal hashes -/

/-- Receipts that record one hash, and whose hash recomputes, agree. -/
lemma Receipt.agree_of_hash_eq {I : Intrinsics} (hinj : Function.Injective I.sha256Hex)
    {r r' : Json} (h : Schema.ReceiptShape r) (h' : Schema.ReceiptShape r') (hd : r.Distinct)
    (hd' : r'.Distinct) (hrec : recomputedHash I r = some (hash r))
    (hrec' : recomputedHash I r' = some (hash r')) (hhash : hash r = hash r') : Agree r r' := by
  obtain ⟨t, ht, hsha⟩ := Option.map_eq_some_iff.mp hrec
  obtain ⟨t', ht', hsha'⟩ := Option.map_eq_some_iff.mp hrec'
  have htt : t = t' := I.sha256Prefixed_injective hinj (by rw [hsha, hsha', hhash])
  subst htt
  obtain ⟨p, hp, hpt⟩ := Option.bind_eq_some_iff.mp ht
  obtain ⟨p', hp', hpt'⟩ := Option.bind_eq_some_iff.mp ht'
  exact agree_of_preimage h h' hd hd' hp hp' (Json.eqv_of_canonicalText_eq hpt hpt') hhash

/-! ## Backwards along the links -/

namespace Verify.ChainValid

variable {I : Intrinsics} {bound : Nat} {v : ParsedVerificationKeyring}
  {manifest : Option (List (String × List String))} {checkpoint : Option Json} {rs : List Json}

/-- Every number below the length is some receipt's. -/
lemma exists_seq (h : ChainValid I bound v manifest checkpoint rs) {n : Nat} (hn : n < rs.length) :
    ∃ r ∈ rs, Receipt.seq r = n := by
  have hmem : (n : Int) ∈ (List.range rs.length).map Int.ofNat :=
    List.mem_map.mpr ⟨n, List.mem_range.mpr hn, rfl⟩
  exact List.mem_map.mp (h.contiguous.mem_iff.mpr hmem)

/-- Every receipt's number is below the length. -/
lemma seq_lt (h : ChainValid I bound v manifest checkpoint rs) {r : Json} (hr : r ∈ rs) :
    ∃ n : Nat, Receipt.seq r = n ∧ n < rs.length := by
  have hmem := h.contiguous.mem_iff.mp (List.mem_map_of_mem hr)
  obtain ⟨n, hn, hseq⟩ := List.mem_map.mp hmem
  exact ⟨n, hseq.symm, List.mem_range.mp hn⟩

/-- The receipt with the highest number carries the length less one. -/
lemma head_seq (h : ChainValid I bound v manifest checkpoint rs) {head : Json} (hmem : head ∈ rs)
    (hmax : ∀ r ∈ rs, Receipt.seq r ≤ Receipt.seq head) : Receipt.seq head + 1 = rs.length := by
  obtain ⟨n, hn, hlt⟩ := h.seq_lt hmem
  obtain ⟨top, htop, hseq⟩ := h.exists_seq (n := rs.length - 1) (by omega)
  have hle := hmax top htop
  omega

/-- Two receipts with one number are the same. -/
lemma eq_of_seq_eq (h : ChainValid I bound v manifest checkpoint rs) {r r' : Json} (hr : r ∈ rs)
    (hr' : r' ∈ rs) (hs : Receipt.seq r = Receipt.seq r') : r = r' := by
  obtain ⟨ordered, hord⟩ := exists_ordered_iff.mpr h.contiguous
  exact hord.eq_of_seq_eq hr hr' hs

section twoChains

variable {v' : ParsedVerificationKeyring} {manifest' : Option (List (String × List String))}
  {checkpoint' : Option Json} {rs' : List Json}

variable (hinj : Function.Injective I.sha256Hex) (h : ChainValid I bound v manifest checkpoint rs)
  (h' : ChainValid I bound v' manifest' checkpoint' rs') (hd : ∀ r ∈ rs, r.Distinct)

include hinj h h' hd in
lemma agree_of_hash_eq (hd' : ∀ r ∈ rs', r.Distinct) {r r' : Json} (hr : r ∈ rs) (hr' : r' ∈ rs')
    (hhash : Receipt.hash r = Receipt.hash r') : Receipt.Agree r r' :=
  Receipt.agree_of_hash_eq hinj (h.shape r hr) (h'.shape r' hr') (hd r hr) (hd' r' hr')
    (h.hash r hr) (h'.hash r' hr') hhash

include hinj h h' hd in
/-- One link back: receipts with equal hashes have predecessors with equal hashes. -/
lemma hash_eq_pred
    (hd' : ∀ r ∈ rs', r.Distinct) {r r' p p' : Json} (hr : r ∈ rs) (hr' : r' ∈ rs') (hp : p ∈ rs)
    (hp' : p' ∈ rs') (hs : Receipt.seq r = Receipt.seq p + 1)
    (hs' : Receipt.seq r' = Receipt.seq p' + 1) (hhash : Receipt.hash r = Receipt.hash r') :
    Receipt.hash p = Receipt.hash p' := by
  have hagree := agree_of_hash_eq hinj h h' hd hd' hr hr' hhash
  have hprev := hagree.prevHash_eq (hd r hr) (hd' r' hr')
  rw [h.linked p hp r hr hs, h'.linked p' hp' r' hr' hs', Option.some.injEq] at hprev
  exact hprev

include hinj h h' hd in
/-- Down from the heads, receipts with one number have one hash. -/
lemma hash_eq_of_heads
    (hd' : ∀ r ∈ rs', r.Distinct) (hlen : rs.length = rs'.length) {head head' : Json}
    (hhead : head ∈ rs) (hhead' : head' ∈ rs') (hs : Receipt.seq head + 1 = rs.length)
    (hs' : Receipt.seq head' + 1 = rs'.length) (hhash : Receipt.hash head = Receipt.hash head') :
    ∀ k : Nat, ∀ r ∈ rs, ∀ r' ∈ rs', Receipt.seq r + k + 1 = rs.length →
      Receipt.seq r' = Receipt.seq r → Receipt.hash r = Receipt.hash r' := by
  intro k
  induction k with
  | zero =>
    intro r hr r' hr' hk hseq
    rw [h.eq_of_seq_eq hr hhead (by omega), h'.eq_of_seq_eq hr' hhead' (by omega), hhash]
  | succ k ih =>
    intro r hr r' hr' hk hseq
    obtain ⟨n, hn, -⟩ := h.seq_lt hr
    obtain ⟨s, hsmem, hsseq⟩ := h.exists_seq (n := n + 1) (by omega)
    obtain ⟨s', hsmem', hsseq'⟩ := h'.exists_seq (n := n + 1) (by omega)
    have hsucc := ih s hsmem s' hsmem' (by omega) (by omega)
    exact hash_eq_pred hinj h h' hd hd' hsmem hsmem' hr hr' (by omega) (by omega) hsucc

end twoChains

end Verify.ChainValid

/-- Two chains the verifier answers `VALID` for, under any documents, whose highest receipts carry
one hash, have the same number of receipts and agree receipt by receipt in every field except
`sig.value`.  Parsed documents have distinct member names in every object. -/
theorem valid_chains_agree_of_head_hash_eq (I : Intrinsics)
    (hinj : Function.Injective I.sha256Hex) (docs docs' : VerifyDocuments) (rs rs' : List Json)
    (hd : (Json.arr rs).Distinct) (hd' : (Json.arr rs').Distinct)
    (hvalid : (verifyParsedChain I {} docs (.arr rs)).status = .VALID)
    (hvalid' : (verifyParsedChain I {} docs' (.arr rs')).status = .VALID) (head head' : Json)
    (hhead : head ∈ rs) (hmax : ∀ r ∈ rs, Receipt.seq r ≤ Receipt.seq head) (hhead' : head' ∈ rs')
    (hmax' : ∀ r ∈ rs', Receipt.seq r ≤ Receipt.seq head')
    (hhash : Receipt.hash head = Receipt.hash head') : rs.length = rs'.length ∧
      ∀ r ∈ rs, ∀ r' ∈ rs', Receipt.seq r = Receipt.seq r' → Receipt.Agree r r' := by
  rw [Verify.verifyParsedChain_valid_iff_stages, Verify.stages_valid_iff rfl rfl] at hvalid hvalid'
  obtain ⟨_, v, manifest, hrs, -, -, h⟩ := hvalid
  obtain ⟨_, v', manifest', hrs', -, -, h'⟩ := hvalid'
  obtain rfl := Json.arr.inj hrs
  obtain rfl := Json.arr.inj hrs'
  rw [Json.distinct_arr] at hd hd'
  have hs := h.head_seq hhead hmax
  have hs' := h'.head_seq hhead' hmax'
  have hseq := (h.agree_of_hash_eq hinj h' hd hd' hhead hhead' hhash).seq_eq (hd _ hhead) (hd' _ hhead')
  have hlen : rs.length = rs'.length := by omega
  refine ⟨hlen, fun r hr r' hr' hrr => ?_⟩
  obtain ⟨n, hn, hlt⟩ := h.seq_lt hr
  have heq := h.hash_eq_of_heads hinj h' hd hd' hlen hhead hhead' hs hs' hhash
    (rs.length - 1 - n) r hr r' hr' (by omega) hrr.symm
  exact h.agree_of_hash_eq hinj h' hd hd' hr hr' heq

/-! ### A chain signed twice

One chain of two receipts, signed by two keys that two keyrings list under one key id; the second
document lists the receipts in reverse. -/

namespace SignedTwice

/-- The receipts of the chain, up to sequence number, previous hash, hash and signature. -/
def receipt (id ts : String) (seq : Int) (prevHash : Json) (hash value : String) : Json :=
  .obj [("spec", .str "noa.receipt/0.1"), ("id", .str id), ("ts", .str ts),
    ("scope", .obj [("chain", .str "c")]),
    ("agent", .obj [("id", .str "a"), ("principal", .str "SERVICE")]),
    ("action", .obj [("id", .str "x"), ("canonical", .str "x"), ("riskClass", .str "LOW"),
      ("paramsHash",
        .str "sha256:0000000000000000000000000000000000000000000000000000000000000000"),
      ("reversible", .bool false)]),
    ("governance", .obj [("mode", .str "on"), ("verdict", .str "ALLOWED"),
      ("sandboxed", .bool false)]),
    ("chain", .obj [("seq", .num seq), ("prevHash", prevHash), ("hash", .str ("sha256:" ++ hash))]),
    ("sig", .obj [("alg", .str "ed25519"), ("kid", .str "k"), ("value", .str value)])]

def hash0 : String := "cefe1adbb5328d44bba62b81c7bacef56fde9373997669eb8aebb62a9ee02137"

def hash1 : String := "56286e683c3afbd39408a5fd50bf906e4fbd66211144ef92c1c28261d16e52df"

def genesis (value : String) : Json := receipt "r0" "2026-01-01T00:00:00Z" 0 .null hash0 value

def second (value : String) : Json :=
  receipt "r1" "2026-01-01T00:00:01Z" 1 (.str ("sha256:" ++ hash0)) hash1 value

def keyA : String := "MCowBQYDK2VwAyEA0EqyMnQrtKs6E2i9RhXk5tAiSrcaAWuvhSCjMsl3hzc="

def keyB : String := "MCowBQYDK2VwAyEAoJql9HpnWYAv+VX43C0qFKXJnSO+l/hkEn/5ODRVpPA="

def sigA0 : String :=
  "j4xR8LiimkIrhwjYxeIeedDJZqnLz3gBY3sv9aFcmkvQb+zoC6CdFZRKTc+1LOaZqEtcelMFu9h3UZpvJU22Bg=="

def sigA1 : String :=
  "fhl6TKLOSMOK4n1Z+P809kfBAEIJgR9u+Oq+FeVoVCjPwJT6QE/cRvTuhpsBs11UIE27ACuaYK4izzpbzIAyBA=="

def sigB0 : String :=
  "Kpq9PwyCK7zFUgAwxPKDRIiI+QRV6FdQv+e25m7s1fVf5iKvnjo8J6DVUU2g9JJwhoUiYSG2711DrGP4ky3XCg=="

def sigB1 : String :=
  "pss8Cjtf5/6ZRmDRNih2rlXHWkXmf3LGSAMV2+I/hZSUK/dW8blwdi8EU41ZCTfQeVRx8G6JKx/ss/EWZp0fAA=="

def platform : Intrinsics :=
  .ofTables
    [((receiptHashInput (genesis "")).getD [], hash0), ((receiptHashInput (second "")).getD [], hash1)]
    [(keyA, "NOA-Receipt-v0.1-sig:" ++ hash0, sigA0), (keyA, "NOA-Receipt-v0.1-sig:" ++ hash1, sigA1),
      (keyB, "NOA-Receipt-v0.1-sig:" ++ hash0, sigB0), (keyB, "NOA-Receipt-v0.1-sig:" ++ hash1, sigB1)]
    []

def documents (key : String) : VerifyDocuments :=
  { keyring := some (.obj [("k", .str key)]), checkpoint := none, identityManifest := none }

lemma distinct_receipt (id ts : String) (seq : Int) (hash value : String) {prevHash : Json}
    (h : prevHash.Distinct) : (receipt id ts seq prevHash hash value).Distinct := by
  simp [receipt, Json.Distinct, Json.DistinctMembers, h]

end SignedTwice

open SignedTwice in
/-- The two documents are `VALID`, their heads carry one hash, and the receipts agree. -/
theorem valid_chains_agree_signed_twice :
    (verifyParsedChain platform {} (documents keyA) (.arr [genesis sigA0, second sigA1])).status =
        .VALID ∧
      (verifyParsedChain platform {} (documents keyB) (.arr [second sigB1, genesis sigB0])).status =
        .VALID ∧
      Receipt.Agree (genesis sigA0) (genesis sigB0) := by
  have hA : (verifyParsedChain platform {} (documents keyA)
      (.arr [genesis sigA0, second sigA1])).status = .VALID := by decide +kernel
  have hB : (verifyParsedChain platform {} (documents keyB)
      (.arr [second sigB1, genesis sigB0])).status = .VALID := by decide +kernel
  have hinj : Function.Injective platform.sha256Hex :=
    tableDigest_injective (by decide +kernel) (by decide +kernel)
  have hdist : ∀ v, (genesis v).Distinct ∧ (second v).Distinct := fun v =>
    ⟨distinct_receipt _ _ _ _ _ trivial, distinct_receipt _ _ _ _ _ trivial⟩
  have hmax : ∀ v w, ∀ r ∈ [genesis v, second w], Receipt.seq r ≤ Receipt.seq (second w) := by
    intro v w r hr
    rcases List.mem_pair.mp hr with rfl | rfl
    · exact Int.zero_le_ofNat 1
    · exact le_rfl
  have hagree := valid_chains_agree_of_head_hash_eq platform hinj (documents keyA) (documents keyB)
    [genesis sigA0, second sigA1] [second sigB1, genesis sigB0] (by
      simp [hdist]) (by simp [hdist]) hA hB (second sigA1) (second sigB1)
    (List.mem_pair.mpr (Or.inr rfl)) (hmax _ _) (List.mem_pair.mpr (Or.inl rfl))
    (fun r hr => hmax _ _ r (List.mem_pair.mpr (List.mem_pair.mp hr).symm)) rfl
  exact ⟨hA, hB, hagree.2 _ (List.mem_pair.mpr (Or.inl rfl)) _ (List.mem_pair.mpr (Or.inr rfl)) rfl⟩

end NoaMandate
