import NoaMandate.Kernel.Builder
import NoaMandate.Kernel.Retirement

/-!
# The builder and the verifier agree

`built_chain_valid`: receipts built one after the other on one chain verify, from their text and in
any order, and a checkpoint built for the last of them certifies the tail.

The builder's outputs are read off its definition once (`BuiltFrom`, `buildCheckpoint_eq_ok`), the
chain is an induction over the drafts (`Linked`), and the verdict comes from the characterisation of
`VALID`, so nothing here walks through the verifier.  The remaining work is the text: a value of a
closed shape has no forbidden member names and is not nested too deep, so it is read back from its own
text.
-/

namespace NoaMandate

open Pipeline

/-! ## Values of a closed shape are read back -/

namespace Schema

/-- A value the parser reads back from its text, at a nesting depth. -/
def Plain (depth : Nat) (v : Json) : Prop := SafeJson.Allowed v ∧ Json.Fits 64 depth v

variable {depth : Nat}

lemma plain_str (h : depth ≤ 64) (s : String) : Plain depth (.str s) := ⟨trivial, h⟩

lemma plain_null (h : depth ≤ 64) : Plain depth .null := ⟨trivial, h⟩

lemma plain_bool (h : depth ≤ 64) (b : Bool) : Plain depth (.bool b) := ⟨trivial, h⟩

lemma plain_num (h : depth ≤ 64) {n : Nat} (hn : n ≤ Json.maxSafe) : Plain depth (.num n) :=
  ⟨trivial, h, by simpa using hn⟩

/-- A member that was checked to be a string. -/
lemma plain_of_str (h : depth ≤ 64) {v w : Json} {k s : String} (hs : v.get? k = some (.str s))
    (hw : v.get? k = some w) : Plain depth w := by
  obtain rfl := Option.mem_unique hs hw
  exact plain_str h s

lemma plain_nullOrStr (h : depth ≤ 64) {w : Json} (hw : w = .null ∨ ∃ s, w = .str s) :
    Plain depth w := by
  rcases hw with rfl | ⟨s, rfl⟩
  · exact plain_null h
  · exact plain_str h s

lemma plain_arr (h : depth ≤ 64) {xs : List Json} (hxs : ∀ x ∈ xs, Plain (depth + 1) x) :
    Plain depth (.arr xs) :=
  ⟨(SafeJson.allowedElems_iff xs).mpr fun x hx => (hxs x hx).1,
    (Json.fits_arr _ _ _).mpr ⟨h, fun x hx => (hxs x hx).2⟩⟩

/-- An object of a closed shape, from what its members are. -/
lemma plain_of_closed (h : depth ≤ 64) {ms : List (String × Json)} {required optional : List String}
    (hd : (Json.obj ms).Distinct) (hc : Closed (.obj ms) required optional)
    (hnames : ∀ k ∈ required ++ optional, k ∉ SafeJson.forbiddenKeys)
    (hmembers : ∀ k ∈ required ++ optional, ∀ w, (Json.obj ms).get? k = some w → Plain (depth + 1) w) :
    Plain depth (.obj ms) := by
  have hmem : ∀ m ∈ ms, m.1 ∉ SafeJson.forbiddenKeys ∧ Plain (depth + 1) m.2 := by
    intro m hm
    have hlisted := hc.listed m.1 (List.mem_map_of_mem hm)
    have hget : (Json.obj ms).get? m.1 = some m.2 :=
      (Assoc.lookup_eq_some_iff ((Json.distinct_obj ms).mp hd).1).mpr hm
    exact ⟨hnames _ hlisted, hmembers _ hlisted _ hget⟩
  refine ⟨(SafeJson.allowedMembers_iff ms).mpr fun m hm => ⟨(hmem m hm).1, (hmem m hm).2.1⟩, ?_⟩
  exact (Json.fits_obj _ _ _).mpr ⟨h, fun m hm => (hmem m hm).2.2⟩

section shapes

variable {ms : List (String × Json)} (hd : (Json.obj ms).Distinct)

include hd

lemma ScopeShape.plain (h : depth < 64) (hs : ScopeShape (.obj ms)) : Plain depth (.obj ms) := by
  refine plain_of_closed h.le hd hs.closed (by decide) fun k hk w hw => ?_
  obtain ⟨c, hc, -⟩ := hs.chain
  simp only [mem_iff] at hk
  rcases hk with rfl | rfl
  · exact plain_of_str h hc hw
  · obtain ⟨t, rfl⟩ := hs.tenant w hw
    exact plain_str h t

lemma AgentShape.plain (h : depth < 64) (hs : AgentShape (.obj ms)) : Plain depth (.obj ms) := by
  refine plain_of_closed h.le hd hs.closed (by decide) fun k hk w hw => ?_
  obtain ⟨i, hi, -⟩ := hs.id
  obtain ⟨q, hq, -⟩ := hs.principal
  simp only [mem_iff] at hk
  rcases hk with rfl | rfl | rfl
  · exact plain_of_str h hi hw
  · exact plain_of_str h hq hw
  · exact plain_nullOrStr h (hs.model w hw)

lemma ActionShape.plain (h : depth < 64) (hs : ActionShape (.obj ms)) : Plain depth (.obj ms) := by
  refine plain_of_closed h.le hd hs.closed (by decide) fun k hk w hw => ?_
  obtain ⟨i, hi, -⟩ := hs.id
  obtain ⟨c, hc, -⟩ := hs.canonical
  obtain ⟨q, hq, -⟩ := hs.riskClass
  obtain ⟨p, hp, -⟩ := hs.paramsHash
  obtain ⟨b, hb⟩ := hs.reversible
  simp only [mem_iff] at hk
  rcases hk with rfl | rfl | rfl | rfl | rfl | rfl
  · exact plain_of_str h hi hw
  · exact plain_of_str h hc hw
  · exact plain_of_str h hq hw
  · exact plain_of_str h hp hw
  · obtain rfl := Option.mem_unique hb hw
    exact plain_bool h b
  · exact plain_nullOrStr h (hs.rollbackRef w hw)

lemma ApprovalShape.plain (h : depth < 64) (hs : ApprovalShape (.obj ms)) : Plain depth (.obj ms) := by
  refine plain_of_closed h.le hd hs.closed (by decide) fun k hk w hw => ?_
  obtain ⟨a, ha⟩ := hs.approver
  obtain ⟨t, ht, -⟩ := hs.instant
  simp only [mem_iff] at hk
  rcases hk with rfl | rfl
  · exact plain_of_str h ha hw
  · exact plain_of_str h ht hw

lemma ComplianceShape.plain (h : depth < 64) (hs : ComplianceShape (.obj ms)) :
    Plain depth (.obj ms) := by
  refine plain_of_closed h.le hd hs.closed (by decide) fun k hk w hw => ?_
  rcases List.mem_append.mp hk with hk | hk
  · obtain ⟨s, hs, -⟩ := hs.hashes k hk
    exact plain_of_str h hs hw
  · obtain rfl := List.mem_singleton.mp hk
    rcases hs.verdict w hw with rfl | rfl
    · exact plain_str h _
    · exact plain_str h _

lemma GovernanceShape.plain (h : depth + 1 < 64) (hs : GovernanceShape (.obj ms)) :
    Plain depth (.obj ms) := by
  have h' : depth < 64 := by omega
  refine plain_of_closed h'.le hd hs.closed (by decide) fun k hk w hw => ?_
  obtain ⟨m, hm, -⟩ := hs.mode
  obtain ⟨q, hq, -⟩ := hs.verdict
  obtain ⟨b, hb⟩ := hs.sandboxed
  have hdw : w.Distinct := hd.get? hw
  simp only [mem_iff] at hk
  rcases hk with rfl | rfl | rfl | rfl | rfl | rfl
  · exact plain_of_str h' hm hw
  · exact plain_of_str h' hq hw
  · obtain rfl := Option.mem_unique hb hw
    exact plain_bool h' b
  · exact plain_nullOrStr h' (hs.ruleId w hw)
  · rcases hs.approval w hw with rfl | ⟨as, rfl, ha⟩
    · exact plain_null h'
    · exact ha.plain hdw h
  · rcases hs.compliance w hw with rfl | ⟨cs, rfl, hc⟩
    · exact plain_null h'
    · exact hc.plain hdw h

lemma ChainShape.plain (h : depth < 64) (hs : ChainShape (.obj ms)) : Plain depth (.obj ms) := by
  refine plain_of_closed h.le hd hs.closed (by decide) fun k hk w hw => ?_
  obtain ⟨n, hn, hsafe⟩ := hs.seq
  obtain ⟨x, hx, -⟩ := hs.hash
  simp only [mem_iff] at hk
  rcases hk with rfl | rfl | rfl
  · obtain rfl := Option.mem_unique hn hw
    exact plain_num h hsafe
  · rcases hs.prevHash with hp | ⟨p, hp, -⟩
    · obtain rfl := Option.mem_unique hp hw
      exact plain_null h
    · exact plain_of_str h hp hw
  · exact plain_of_str h hx hw

lemma SigShape.plain (h : depth < 64) (hs : SigShape (.obj ms)) : Plain depth (.obj ms) := by
  refine plain_of_closed h.le hd hs.closed (by decide) fun k hk w hw => ?_
  obtain ⟨i, hi, -⟩ := hs.kid
  obtain ⟨x, hx, -⟩ := hs.value
  simp only [mem_iff] at hk
  rcases hk with rfl | rfl | rfl
  · exact plain_of_str h hs.alg hw
  · exact plain_of_str h hi hw
  · exact plain_of_str h hx hw

lemma ReceiptShape.plain (h : depth + 2 < 64) (hs : ReceiptShape (.obj ms)) :
    Plain depth (.obj ms) := by
  have h' : depth < 64 := by omega
  refine plain_of_closed h'.le hd hs.closed (by decide) fun k hk w hw => ?_
  obtain ⟨i, hi, -⟩ := hs.id
  obtain ⟨t, ht, -⟩ := hs.ts
  obtain ⟨scope, hscope, hscope'⟩ := hs.scope
  obtain ⟨agent, action, governance, hagent, haction, hgov, hagent', haction', hgov', -⟩ := hs.parts
  obtain ⟨chain, hchain, hchain'⟩ := hs.chain
  obtain ⟨sig, hsig, hsig'⟩ := hs.sig
  have hdw : w.Distinct := hd.get? hw
  simp only [mem_iff] at hk
  rcases hk with rfl | rfl | rfl | rfl | rfl | rfl | rfl | rfl | rfl
  · exact plain_of_str h' hs.spec hw
  · exact plain_of_str h' hi hw
  · exact plain_of_str h' ht hw
  · obtain rfl := Option.mem_unique hscope hw
    exact hscope'.plain hdw (by omega)
  · obtain rfl := Option.mem_unique hagent hw
    exact hagent'.plain hdw (by omega)
  · obtain rfl := Option.mem_unique haction hw
    exact haction'.plain hdw (by omega)
  · obtain rfl := Option.mem_unique hgov hw
    exact hgov'.plain hdw (by omega)
  · obtain rfl := Option.mem_unique hchain hw
    exact hchain'.plain hdw (by omega)
  · obtain rfl := Option.mem_unique hsig hw
    exact hsig'.plain hdw (by omega)

end shapes

end Schema

/-! ## What the builder returns -/

namespace Builder

variable {P : SigningPlatform} {input : BuildInput} {prev : Option Json} {signer : Signer} {r : Json}

/-- The receipt `r` was built from `input` on top of `prev` by `signer`. -/
structure BuiltFrom (P : SigningPlatform) (input : BuildInput) (prev : Option Json) (signer : Signer)
    (r : Json) : Prop where
  shape : Schema.ReceiptShape r
  distinct : r.Distinct
  seq : Receipt.seq r = (prev.map fun p => Receipt.seq p + 1).getD 0
  prevHash : r.path? ["chain", "prevHash"] = previousHash prev
  chainId : Receipt.chainId r = input.scope.strAt ["chain"]
  tenant : Receipt.tenant r = input.scope.strAt? ["tenant"]
  agentId : Receipt.agentId r = input.agent.strAt ["id"]
  kid : Receipt.kid r = signer.kid
  hash : recomputedHash P.toIntrinsics r = some (Receipt.hash r)
  signed : ∃ text, receiptHashInput r = some text ∧
    P.signEd25519 signer.privateKey (P.signingMessage Verify.RECEIPT_SIG_DOMAIN text) =
      some (Receipt.sigValue r)

/-- The hashed text has neither the hash nor the signature in it. -/
lemma receiptHashInput_toJson (d : Draft) (hash value : String) :
    receiptHashInput { d with hash, value }.toJson = receiptHashInput d.toJson := by
  simp [receiptHashInput, Receipt.preimage, Draft.toJson, payload, List.lookup_cons, Json.setMember,
    Json.eraseMember]

lemma distinct_toJson {d : Draft} (hprev : d.prevHash.Distinct) : d.toJson.Distinct := by
  have hd := d.input.distinct
  simp only [mem_iff, forall_eq_or_imp, forall_eq] at hd
  simp [Draft.toJson, payload, hprev, hd, Json.Distinct, Json.DistinctMembers]

/-- The shape check lets only a text or `null` through as the previous hash. -/
lemma distinct_prevHash {d : Draft} (h : Schema.ReceiptShape d.toJson) : d.prevHash.Distinct := by
  obtain ⟨ms, hms, hchain⟩ := h.chain
  cases hms
  rcases hchain.prevHash with hp | ⟨p, hp, -⟩
  · rw [Option.some.inj (show some d.prevHash = some .null from hp)]
    trivial
  · rw [Option.some.inj (show some d.prevHash = some (.str p) from hp)]
    trivial

lemma buildReceipt_eq_ok (h : buildReceipt P input prev signer = .ok r) :
    BuiltFrom P input prev signer r := by
  simp only [buildReceipt, buildDraft, finalizeReceipt, ok_iff, Bool.not_eq_false',
    List.isEmpty_iff] at h
  obtain ⟨_, ⟨_, -, prevHash, hprev, text, htext, rfl⟩, value, hvalue, _, hshape, rfl⟩ := h
  have hinput := (receiptHashInput_toJson _ (P.sha256Prefixed text) value).trans htext
  have hshape := (Schema.validateReceiptShapeParsed_eq_nil_iff _).mp hshape
  exact
    { shape := hshape
      distinct := distinct_toJson (distinct_prevHash hshape)
      seq := by
        cases prev with
        | none => rfl
        | some p => rfl
      prevHash := hprev.symm
      chainId := rfl
      tenant := rfl
      agentId := rfl
      kid := rfl
      hash := by
        rw [recomputedHash, hinput]
        rfl
      signed := ⟨text, hinput, hvalue⟩ }

/-! ## A chain of results -/

/-- The receipts were built from the drafts one after the other, the first one on `prev`. -/
inductive Chained (P : SigningPlatform) :
    Option Json → List (BuildInput × Signer) → List Json → Prop
  | nil (prev : Option Json) : Chained P prev [] []
  | cons {prev : Option Json} {input : BuildInput} {signer : Signer} {r : Json}
      {drafts : List (BuildInput × Signer)} {rs : List Json} (built : BuiltFrom P input prev signer r)
      (rest : Chained P (some r) drafts rs) : Chained P prev ((input, signer) :: drafts) (r :: rs)

variable {drafts : List (BuildInput × Signer)} {rs : List Json}

lemma buildChain_eq_ok (drafts : List (BuildInput × Signer)) :
    ∀ {prev rs}, buildChain P prev drafts = .ok rs → Chained P prev drafts rs := by
  induction drafts with
  | nil =>
    intro prev rs h
    cases h
    exact .nil prev
  | cons d drafts ih =>
    intro prev rs h
    simp only [buildChain, ok_iff] at h
    obtain ⟨r, hr, rest, hrest, rfl⟩ := h
    exact .cons (buildReceipt_eq_ok hr) (ih hrest)

namespace Chained

lemma length_eq (h : Chained P prev drafts rs) : rs.length = drafts.length := by
  induction h with
  | nil => rfl
  | cons _ _ ih => rw [List.length_cons, List.length_cons, ih]

/-- Every receipt was built from one of the drafts. -/
lemma exists_draft (h : Chained P prev drafts rs) (hr : r ∈ rs) :
    ∃ d ∈ drafts, ∃ prev', BuiltFrom P d.1 prev' d.2 r := by
  induction h with
  | nil => cases hr
  | cons built _ ih =>
    rcases List.mem_cons.mp hr with rfl | hr
    · exact ⟨_, .head _, _, built⟩
    · obtain ⟨d, hd, prev', hbuilt⟩ := ih hr
      exact ⟨d, .tail _ hd, prev', hbuilt⟩

/-- Sequence numbers count up from the one after `prev`. -/
lemma seq_getElem? (h : Chained P prev drafts rs) : ∀ {i : Nat} {r : Json}, rs[i]? = some r →
      Receipt.seq r = (prev.map fun p => Receipt.seq p + 1).getD 0 + i := by
  induction h with
  | nil => intro i r hi; cases hi
  | cons built _ ih =>
    intro i r hi
    cases i with
    | zero =>
      cases hi
      simpa using built.seq
    | succ i =>
      have hseq := ih (List.getElem?_cons_succ.symm.trans hi)
      simp only [Option.map_some, Option.getD_some, built.seq] at hseq
      rw [hseq]
      push_cast
      omega

/-- A receipt built on another names the hash of that one. -/
lemma prevHash_of_builtFrom {input' : BuildInput} {signer' : Signer} {r' : Json}
    (h : BuiltFrom P input prev signer r) (h' : BuiltFrom P input' (some r) signer' r') :
    Receipt.prevHash r' = some (Receipt.hash r) := by
  obtain ⟨ms, hms, hchain⟩ := h.shape.chain
  obtain ⟨hash, hhash, -⟩ := hchain.hash
  have hpath : r.path? ["chain", "hash"] = some (.str hash) := by
    rw [Json.path?, hms, Option.bind_some, Json.path?, hhash]
    rfl
  have hprev : r'.path? ["chain", "prevHash"] = some (.str hash) := h'.prevHash.trans hpath
  rw [Receipt.prevHash, Json.strAt?, hprev, Receipt.hash, Json.strAt, Json.strAt?, hpath]
  rfl

/-- Each receipt names the hash of the one before it. -/
lemma prevHash_getElem? (h : Chained P prev drafts rs) :
    ∀ {i : Nat} {r r' : Json}, rs[i]? = some r → rs[i + 1]? = some r' →
      Receipt.prevHash r' = some (Receipt.hash r) := by
  induction h with
  | nil => intro i r r' hi; cases hi
  | cons built rest ih =>
    intro i r r' hi hi'
    cases i with
    | zero =>
      cases hi
      cases rest with
      | nil => cases hi'
      | cons built' _ =>
        cases hi'
        exact prevHash_of_builtFrom built built'
    | succ i =>
      rw [List.getElem?_cons_succ] at hi hi'
      exact ih hi hi'

lemma map_seq (h : Chained P none drafts rs) :
    rs.map Receipt.seq = (List.range rs.length).map Int.ofNat := by
  refine List.ext_getElem (by simp) fun i hi _ => ?_
  have hlt : i < rs.length := by simpa using hi
  have hseq := h.seq_getElem? (List.getElem?_eq_getElem hlt)
  simpa using hseq

/-- The first receipt has no predecessor. -/
lemma prevHash_of_seq_zero (h : Chained P none drafts rs) (hr : r ∈ rs) (hseq : Receipt.seq r = 0) :
    Receipt.prevHash r = none := by
  obtain ⟨i, hi⟩ := List.mem_iff_getElem?.mp hr
  have hi0 : i = 0 := by
    have := h.seq_getElem? hi
    simp only [Option.map_none, Option.getD_none] at this
    omega
  subst hi0
  cases h with
  | nil => cases hi
  | cons built _ =>
    cases hi
    rw [Receipt.prevHash, Json.strAt?, built.prevHash]
    rfl

lemma linked (h : Chained P none drafts rs) {r' : Json} (hr : r ∈ rs) (hr' : r' ∈ rs)
    (hseq : Receipt.seq r' = Receipt.seq r + 1) : Receipt.prevHash r' = some (Receipt.hash r) := by
  obtain ⟨i, hi⟩ := List.mem_iff_getElem?.mp hr
  obtain ⟨j, hj⟩ := List.mem_iff_getElem?.mp hr'
  have hij : j = i + 1 := by
    have hi' := h.seq_getElem? hi
    have hj' := h.seq_getElem? hj
    omega
  subst hij
  exact h.prevHash_getElem? hi hj

end Chained

/-- The drafts belong together: one chain and one tenant, one key id per agent, and every signer's key
id in the keyring with a public key that verifies what the signer signs. -/
structure Coherent (P : SigningPlatform) (v : ParsedVerificationKeyring)
    (drafts : List (BuildInput × Signer)) : Prop where
  chain : ∀ d ∈ drafts, ∀ d' ∈ drafts, d.1.scope.strAt ["chain"] = d'.1.scope.strAt ["chain"]
  tenant : ∀ d ∈ drafts, ∀ d' ∈ drafts, d.1.scope.strAt? ["tenant"] = d'.1.scope.strAt? ["tenant"]
  oneKid : ∀ d ∈ drafts, ∀ d' ∈ drafts, d.1.agent.strAt ["id"] = d'.1.agent.strAt ["id"] →
    d.2.kid = d'.2.kid
  keys : ∀ d ∈ drafts, ∃ pub, v.keyring.lookup d.2.kid = some pub ∧
    ∀ msg sig, P.signEd25519 d.2.privateKey msg = some sig → P.verifyEd25519 pub msg sig = true

variable {v : ParsedVerificationKeyring}

lemma chainValid_of_chained (h : Chained P none drafts rs) (hc : Coherent P v drafts)
    (hretired : v.retiredKids = []) (hne : drafts ≠ []) {bound : Nat} (hbound : drafts.length ≤ bound) :
    Verify.ChainValid P.toIntrinsics bound v none none rs where
  nonempty := by
    rw [← List.length_pos_iff, h.length_eq, List.length_pos_iff]
    exact hne
  bounded := h.length_eq ▸ hbound
  shape := fun r hr => by
    obtain ⟨_, _, _, hbuilt⟩ := h.exists_draft hr
    exact hbuilt.shape
  oneChain := fun r hr r' hr' => by
    obtain ⟨d, hd, _, hbuilt⟩ := h.exists_draft hr
    obtain ⟨d', hd', _, hbuilt'⟩ := h.exists_draft hr'
    rw [hbuilt.chainId, hbuilt'.chainId, hc.chain d hd d' hd']
  contiguous := List.Perm.of_eq h.map_seq
  oneTenant := fun r hr r' hr' t t' ht ht' => by
    obtain ⟨d, hd, _, hbuilt⟩ := h.exists_draft hr
    obtain ⟨d', hd', _, hbuilt'⟩ := h.exists_draft hr'
    rw [hbuilt.tenant, hc.tenant d hd d' hd', ← hbuilt'.tenant, ht'] at ht
    exact (Option.some.inj ht).symm
  hash := fun r hr => by
    obtain ⟨_, _, _, hbuilt⟩ := h.exists_draft hr
    exact hbuilt.hash
  genesis := fun r hr => h.prevHash_of_seq_zero hr
  linked := fun r hr r' hr' => h.linked hr hr'
  oneKid := fun r hr r' hr' hagent => by
    obtain ⟨d, hd, _, hbuilt⟩ := h.exists_draft hr
    obtain ⟨d', hd', _, hbuilt'⟩ := h.exists_draft hr'
    rw [hbuilt.agentId, hbuilt'.agentId] at hagent
    rw [hbuilt.kid, hbuilt'.kid, hc.oneKid d hd d' hd' hagent]
  authentic := fun r hr => by
    obtain ⟨d, hd, _, hbuilt⟩ := h.exists_draft hr
    obtain ⟨pub, hpub, hpair⟩ := hc.keys d hd
    obtain ⟨text, htext, hsigned⟩ := hbuilt.signed
    rw [hbuilt.kid]
    exact ⟨pub, text, hpub, htext, hpair _ _ hsigned, by simp [hretired]⟩
  identity := fun m hm => by cases hm
  closed := fun cp hcp => by cases hcp

/-! ## The checkpoint -/

lemma checkpointHashInput_checkpoint (chain : String) (n : Int) (hash ts kid value : String) :
    checkpointHashInput (checkpoint chain n hash ts kid value) =
      checkpointHashInput (checkpoint chain n hash ts kid "") := by
  simp [checkpointHashInput, checkpoint, List.lookup_cons, Json.setMember, Json.eraseMember]

/-- The builder's copy of the shape is the verifier's. -/
lemma checkpointShape_of_draft {chain : String} {n : Int} {hash ts kid value : String}
    (h : checkpointDraftErrors (checkpoint chain n hash ts kid value) = []) :
    Verify.CheckpointShape (checkpoint chain n hash ts kid value) := by
  simp only [checkpointDraftErrors, List.append_eq_nil_iff, Schema.complain_eq_nil,
    Bool.not_eq_false', Schema.nonEmptyStr_iff, Schema.isSeq_iff, Schema.strWith_iff] at h
  obtain ⟨⟨⟨⟨⟨⟨⟨-, hchain⟩, hseq⟩, hhash⟩, hts⟩, -⟩, hkid⟩, hvalue⟩ := h
  exact
    { object := ⟨_, rfl⟩
      closed := ⟨by simp [checkpoint, Verify.CHECKPOINT_KEYS], by
        simp [checkpoint, Verify.CHECKPOINT_KEYS, List.lookup_cons]⟩
      spec := rfl
      chain := hchain
      highestSeq := hseq
      headHash := hhash
      ts := hts
      sig := ⟨_, rfl, ⟨by simp, by simp [List.lookup_cons]⟩, rfl, hkid, hvalue⟩ }

lemma distinct_checkpoint (chain : String) (n : Int) (hash ts kid value : String) :
    (checkpoint chain n hash ts kid value).Distinct := by
  simp [checkpoint, Json.Distinct, Json.DistinctMembers]

/-- The checkpoint `cp` was built over the receipt `head` by `signer`. -/
structure CheckpointOf (P : SigningPlatform) (head : Json) (signer : Signer) (cp : Json) : Prop where
  shape : Verify.CheckpointShape cp
  distinct : cp.Distinct
  kid : Receipt.kid cp = signer.kid
  chain : cp.strAt ["chain"] = Receipt.chainId head
  highestSeq : cp.numAt ["highestSeq"] = Receipt.seq head
  headHash : cp.strAt ["headHash"] = Receipt.hash head
  signed : ∃ text, checkpointHashInput cp = some text ∧
    P.signEd25519 signer.privateKey (P.signingMessage Verify.CHECKPOINT_SIG_DOMAIN text) =
      some (Receipt.sigValue cp)

lemma buildCheckpoint_eq_ok {head cp : Json} {ts : String}
    (h : buildCheckpoint P head ts signer = .ok cp) : CheckpointOf P head signer cp := by
  simp only [buildCheckpoint, ok_iff, Bool.not_eq_false', List.isEmpty_iff] at h
  obtain ⟨text, htext, value, hvalue, _, herrors, rfl⟩ := h
  exact
    { shape := checkpointShape_of_draft herrors
      distinct := distinct_checkpoint _ _ _ _ _ _
      kid := rfl
      chain := rfl
      highestSeq := rfl
      headHash := rfl
      signed := ⟨text, (checkpointHashInput_checkpoint _ _ _ _ _ _).trans htext, hvalue⟩ }

/-- The last receipt of a chain has the highest sequence number. -/
lemma Chained.seq_getLast (h : Chained P none drafts rs) {head : Json} (hhead : rs.getLast? = some head) :
    Receipt.seq head + 1 = rs.length := by
  rw [List.getLast?_eq_getElem?] at hhead
  have hseq := h.seq_getElem? hhead
  have hlt := (List.getElem?_eq_some_iff.mp hhead).1
  simp only [Option.map_none, Option.getD_none] at hseq
  omega

/-- A checkpoint over the last receipt, by a key of the chain, closes it. -/
lemma checkpointCloses (h : Chained P none drafts rs) (hc : Coherent P v drafts)
    (hretired : v.retiredKids = []) {head cp : Json} {d : BuildInput × Signer} (hd : d ∈ drafts)
    (hhead : rs.getLast? = some head) (hcp : CheckpointOf P head d.2 cp) :
    Verify.CheckpointCloses P.toIntrinsics v none rs cp where
  shape := hcp.shape
  authentic := by
    obtain ⟨pub, hpub, hpair⟩ := hc.keys d hd
    obtain ⟨text, htext, hsigned⟩ := hcp.signed
    rw [hcp.kid]
    exact ⟨pub, text, hpub, htext, hpair _ _ hsigned, by simp [hretired]⟩
  chain := fun r hr => by
    obtain ⟨d', hd', _, hbuilt⟩ := h.exists_draft hr
    obtain ⟨d'', hd'', _, hbuilt''⟩ := h.exists_draft (List.mem_of_getLast? hhead)
    rw [hcp.chain, hbuilt.chainId, hbuilt''.chainId, hc.chain d' hd' d'' hd'']
  head := ⟨head, List.mem_of_getLast? hhead, h.seq_getLast hhead, hcp.highestSeq, hcp.headHash⟩
  opener := fun m hm => by cases hm

end Builder

/-- A static keyring retires no key. -/
lemma retiredKids_of_static {I : Intrinsics} {label : String} {k : Json} {v : ParsedVerificationKeyring}
    (h : parseVerificationKeyring I label k = .ok v) (hstatic : v.lifecycle = false) :
    v.retiredKids = [] := by
  obtain ⟨_, -, ⟨hlife, -⟩ | ⟨_, -, rfl⟩⟩ := parseVerificationKeyring_cases h
  · rw [hstatic] at hlife
    cases hlife
  · rfl

/-! ## From values to texts -/

namespace Verify

variable {I : Intrinsics} {o : VerifyOptions} {v : ParsedVerificationKeyring} {bound : Nat}
  {manifest : Option (List (String × List String))} {rs rs' : List Json}

lemma CheckpointCloses.perm {cp : Json} (hp : rs'.Perm rs)
    (h : CheckpointCloses I v manifest rs cp) : CheckpointCloses I v manifest rs' cp :=
  { h with
    chain := fun r hr => h.chain r (hp.mem_iff.mp hr)
    head := by
      obtain ⟨r, hr, hrest⟩ := h.head
      exact ⟨r, hp.mem_iff.mpr hr, hp.length_eq ▸ hrest⟩
    opener := fun m hm => by
      obtain ⟨r, hr, hrest⟩ := h.opener m hm
      exact ⟨r, hp.mem_iff.mpr hr, hrest⟩ }

/-- The order of the list does not matter. -/
lemma ChainValid.perm {checkpoint : Option Json} (hp : rs'.Perm rs)
    (h : ChainValid I bound v manifest checkpoint rs) : ChainValid I bound v manifest checkpoint rs' where
  nonempty := fun he => h.nonempty (List.Perm.nil_eq (he ▸ hp)).symm
  bounded := hp.length_eq ▸ h.bounded
  shape := fun r hr => h.shape r (hp.mem_iff.mp hr)
  oneChain := fun r hr r' hr' => h.oneChain r (hp.mem_iff.mp hr) r' (hp.mem_iff.mp hr')
  contiguous := hp.length_eq ▸ (hp.map _).trans h.contiguous
  oneTenant := fun r hr r' hr' => h.oneTenant r (hp.mem_iff.mp hr) r' (hp.mem_iff.mp hr')
  hash := fun r hr => h.hash r (hp.mem_iff.mp hr)
  genesis := fun r hr => h.genesis r (hp.mem_iff.mp hr)
  linked := fun r hr r' hr' => h.linked r (hp.mem_iff.mp hr) r' (hp.mem_iff.mp hr')
  oneKid := fun r hr r' hr' => h.oneKid r (hp.mem_iff.mp hr) r' (hp.mem_iff.mp hr')
  authentic := fun r hr => h.authentic r (hp.mem_iff.mp hr)
  identity := fun m hm r hr => h.identity m hm r (hp.mem_iff.mp hr)
  closed := fun cp hcp => (h.closed cp hcp).perm hp

/-- A `VALID` answer with a checkpoint has the tail checked. -/
lemma stages_tailChecked {docs : VerifyDocuments} {receipts cp : Json} {res : VerifyResult}
    (h : stages I o docs receipts = .ok res) (hvalid : res.status = .VALID)
    (hcp : docs.checkpoint = some cp) : res.tailChecked = true := by
  rw [stages_eq] at h
  simp only [judged, ok_iff, hcp] at h
  obtain ⟨a, -, verification, -, st, -, tail, htail, rfl⟩ := h
  obtain ⟨hclean, hsome⟩ := conclude_valid_iff.mp hvalid
  have htailChecked : tail.tailChecked = true := by
    simp only [checkTail, ok_iff] at htail
    obtain ⟨_, -, _, -, _, hok, _, -, _, -, _, -, rfl⟩ := htail
    rw [hsome, Bool.true_and, decide_eq_false_iff_not, ne_eq, not_not] at hok
    exact decide_eq_true hok
  unfold conclude
  rw [hclean]
  exact htailChecked

/-- A run on texts is the run on what they parse to. -/
lemma verifyChain_of_stages {ktext text : List Char} {k receipts : Json} {cptext : Option (List Char)}
    {cp : Option Json} {res : VerifyResult} (hk : parseDocument ktext "keyring" = .ok k)
    (hcp : readOptional "checkpoint" cptext = .ok cp)
    (htext : parseDocument text "receipts" = .ok receipts)
    (hrun : stages I o ⟨some k, cp, none⟩ receipts = .ok res) :
    verifyChain I .native o ⟨some ktext, cptext, none⟩ text = res := by
  have hread : readReceipts .native text = .ok receipts := by
    rw [readReceipts, htext]
    rfl
  have hstages : textStages I o ⟨some ktext, cptext, none⟩ receipts = .ok res := by
    refine (@textStages_of_keyring I o ktext ⟨none, cptext, none⟩ k hk receipts).trans ?_
    have hrun' := hrun
    simp only [stages, bind_eq_ok_iff] at hrun'
    obtain ⟨rs, hrs, -⟩ := hrun'
    rw [hrs, hcp]
    exact hrun
  exact verifyChain_of_ok (bind_eq_ok_iff.mpr ⟨receipts, hread, hstages⟩)

end Verify

namespace Builder

variable {P : SigningPlatform} {drafts : List (BuildInput × Signer)} {rs shuffled : List Json}

/-- The receipts of a chain are read back from their text. -/
lemma parse_receipts (h : Chained P none drafts rs) (hp : shuffled.Perm rs)
    (hsize : utf8Length (Json.render (.arr shuffled)) ≤ MAX_INPUT_BYTES) :
    parseDocument (Json.render (.arr shuffled)) "receipts" = .ok (.arr shuffled) := by
  have hplain : ∀ r ∈ shuffled, r.Distinct ∧ Schema.Plain 1 r := by
    intro r hr
    obtain ⟨_, _, _, hbuilt⟩ := h.exists_draft (hp.mem_iff.mp hr)
    obtain ⟨ms, rfl⟩ := hbuilt.shape.object
    exact ⟨hbuilt.distinct, hbuilt.shape.plain hbuilt.distinct (by decide)⟩
  obtain ⟨hallow, hfit⟩ := Schema.plain_arr (by decide) fun r hr => (hplain r hr).2
  exact parseDocument_render ((Json.distinct_arr _).mpr fun r hr => (hplain r hr).1) hallow hfit hsize _

/-- So is a checkpoint. -/
lemma parse_checkpoint {head cp : Json} {signer : Signer} (h : CheckpointOf P head signer cp)
    (hsize : utf8Length (Json.render cp) ≤ MAX_INPUT_BYTES) :
    readOptional "checkpoint" (some (Json.render cp)) = .ok (some cp) := by
  have hplain : Schema.Plain 0 cp := by
    obtain ⟨ms, rfl⟩ := h.shape.object
    refine Schema.plain_of_closed (by decide) h.distinct h.shape.closed (by decide) ?_
    intro k hk w hw
    obtain ⟨c, hc, -⟩ := h.shape.chain
    obtain ⟨n, hn, hsafe⟩ := h.shape.highestSeq
    obtain ⟨x, hx, -⟩ := h.shape.headHash
    obtain ⟨t, ht, -⟩ := h.shape.ts
    obtain ⟨sig, hsig, hsig'⟩ := h.shape.sig
    simp only [Verify.CHECKPOINT_KEYS, mem_iff] at hk
    rcases hk with rfl | rfl | rfl | rfl | rfl | rfl
    · exact Schema.plain_of_str (by decide) h.shape.spec hw
    · exact Schema.plain_of_str (by decide) hc hw
    · obtain rfl := Option.mem_unique hn hw
      exact Schema.plain_num (by decide) hsafe
    · exact Schema.plain_of_str (by decide) hx hw
    · exact Schema.plain_of_str (by decide) ht hw
    · obtain rfl := Option.mem_unique hsig hw
      exact hsig'.plain (h.distinct.get? hw) (by decide)
  rw [readOptional, parseDocument_render h.distinct hplain.1 hplain.2 hsize]
  rfl

end Builder

/-- What the builder signs, the verifier accepts. Receipts built one after the other on one chain, with
one signing key id per agent and every key id in a static keyring, are `VALID` from their text, in any
order; with a checkpoint built for the last receipt by one of those keys, the tail is checked as
well. -/
theorem built_chain_valid (P : SigningPlatform) (o : VerifyOptions)
    (htenant : o.requireTenantConsistency = true) (hnfc : o.requireNFC = false)
    (drafts : List (BuildInput × Signer)) (rs shuffled : List Json) (ktext : List Char) (k : Json)
    (v : ParsedVerificationKeyring) (hne : drafts ≠ []) (hbound : drafts.length ≤ o.maxReceipts)
    (hbuilt : Builder.buildChain P none drafts = .ok rs)
    (hk : parseDocument ktext "keyring" = .ok k)
    (hv : parseVerificationKeyring P.toIntrinsics "keyring" k = .ok v) (hstatic : v.lifecycle = false)
    (hcoherent : Builder.Coherent P v drafts) (hperm : shuffled.Perm rs)
    (hsize : utf8Length (Json.render (.arr shuffled)) ≤ MAX_INPUT_BYTES) :
    (verifyChain P.toIntrinsics .native o ⟨some ktext, none, none⟩
        (Json.render (.arr shuffled))).status = .VALID ∧
      ∀ d ∈ drafts, ∀ head, rs.getLast? = some head →
        ∀ ts cp, Builder.buildCheckpoint P head ts d.2 = .ok cp →
          utf8Length (Json.render cp) ≤ MAX_INPUT_BYTES →
          (verifyChain P.toIntrinsics .native o ⟨some ktext, some (Json.render cp), none⟩
              (Json.render (.arr shuffled))).status = .VALID ∧
            (verifyChain P.toIntrinsics .native o ⟨some ktext, some (Json.render cp), none⟩
              (Json.render (.arr shuffled))).tailChecked = true := by
  have hchain := Builder.buildChain_eq_ok drafts hbuilt
  have hretired := retiredKids_of_static hv hstatic
  have htext := Builder.parse_receipts hchain hperm hsize
  have hvalid := Builder.chainValid_of_chained hchain hcoherent hretired hne hbound
  -- one run, with whatever checkpoint closes the chain
  have hrun : ∀ cp : Option Json,
      (∀ c, cp = some c → Verify.CheckpointCloses P.toIntrinsics v none rs c) →
      ∃ res, Verify.stages P.toIntrinsics o ⟨some k, cp, none⟩ (.arr shuffled) = .ok res ∧
        res.status = .VALID := by
    intro cp hcp
    have hclosed : Verify.ChainValid P.toIntrinsics o.maxReceipts v none cp rs :=
      { hvalid with closed := hcp }
    exact (Verify.stages_valid_iff htenant hnfc).mpr
      ⟨shuffled, v, none, rfl, ⟨k, rfl, hv⟩, rfl, hclosed.perm hperm⟩
  refine ⟨?_, ?_⟩
  · obtain ⟨res, hres, hstatus⟩ := hrun none fun c hc => by cases hc
    rw [Verify.verifyChain_of_stages hk rfl htext hres]
    exact hstatus
  · intro d hd head hhead ts cp hcp hcpsize
    have hof := Builder.buildCheckpoint_eq_ok hcp
    obtain ⟨res, hres, hstatus⟩ := hrun (some cp) fun c hc => by
      cases hc
      exact Builder.checkpointCloses hchain hcoherent hretired hd hhead hof
    rw [Verify.verifyChain_of_stages hk (Builder.parse_checkpoint hof hcpsize) htext hres]
    exact ⟨hstatus, Verify.stages_tailChecked hres hstatus rfl⟩

namespace BuiltSample

/-! ### Two receipts and a checkpoint -/

/-- Signing prepends a mark to the message. -/
def platform : SigningPlatform :=
  { SignedTwice.platform with
    verifyEd25519 := fun _ msg sig => sig = "signed:" ++ msg
    signEd25519 := fun _ msg => some ("signed:" ++ msg) }

def input (id ts : String) : BuildInput where
  id := .str id
  ts := .str ts
  scope := .obj [("chain", .str "c")]
  agent := .obj [("id", .str "a"), ("principal", .str "SERVICE")]
  action := .obj [("id", .str "x"), ("canonical", .str "x"), ("riskClass", .str "LOW"),
    ("paramsHash", .str "sha256:0000000000000000000000000000000000000000000000000000000000000000"),
    ("reversible", .bool false)]
  governance := .obj [("mode", .str "on"), ("verdict", .str "ALLOWED"), ("sandboxed", .bool false)]
  distinct := by simp [Json.Distinct, Json.DistinctMembers]

def signer : Signer := ⟨"k", "private"⟩

def drafts : List (BuildInput × Signer) :=
  [(input "r0" "2026-01-01T00:00:00Z", signer), (input "r1" "2026-01-01T00:00:01Z", signer)]

def first : Json := SignedTwice.genesis ("signed:NOA-Receipt-v0.1-sig:" ++ SignedTwice.hash0)

def last : Json := SignedTwice.second ("signed:NOA-Receipt-v0.1-sig:" ++ SignedTwice.hash1)

def keyring : Json := .obj [("k", .str SignedTwice.keyA)]

def unsigned (value : String) : Json :=
  Builder.checkpoint "c" 1 ("sha256:" ++ SignedTwice.hash1) "2026-01-01T00:00:02Z" "k" value

def checkpoint : Json :=
  unsigned ("signed:" ++ platform.signingMessage Verify.CHECKPOINT_SIG_DOMAIN
    ((checkpointHashInput (unsigned "")).getD []))

end BuiltSample

open BuiltSample in
/-- Two drafts are built into a chain, which verifies in reverse order, with and without its
checkpoint. -/
theorem built_chain_valid_reversed : Builder.buildChain platform none drafts = .ok [first, last] ∧
      Builder.buildCheckpoint platform last "2026-01-01T00:00:02Z" signer = .ok checkpoint ∧
      (verifyChain platform.toIntrinsics .native {} ⟨some (Json.render keyring), none, none⟩
        (Json.render (.arr [last, first]))).status = .VALID ∧
      (verifyChain platform.toIntrinsics .native {}
        ⟨some (Json.render keyring), some (Json.render checkpoint), none⟩
        (Json.render (.arr [last, first]))).tailChecked = true := by
  have hbuilt : Builder.buildChain platform none drafts = .ok [first, last] := by decide +kernel
  have hcp : Builder.buildCheckpoint platform last "2026-01-01T00:00:02Z" signer = .ok checkpoint := by
    decide +kernel
  have hk : parseDocument (Json.render keyring) "keyring" = .ok keyring := by decide +kernel
  have hcoherent : Builder.Coherent platform ⟨[("k", SignedTwice.keyA)], [], [], [], false⟩ drafts := by
    refine ⟨by decide +kernel, by decide +kernel, by decide +kernel, fun d hd => ?_⟩
    have hsigner : d.2 = signer := by
      rcases List.mem_pair.mp hd with rfl | rfl
      · rfl
      · rfl
    refine ⟨SignedTwice.keyA, by rw [hsigner]; rfl, fun msg sig hsig => ?_⟩
    cases hsig
    exact decide_eq_true rfl
  have hvalid := built_chain_valid platform {} rfl rfl drafts [first, last] [last, first]
    (Json.render keyring) keyring ⟨[("k", SignedTwice.keyA)], [], [], [], false⟩ (by simp [drafts])
    (by simp [drafts]) hbuilt hk (by decide +kernel) rfl hcoherent (List.Perm.swap _ _ _)
    (by decide +kernel)
  exact ⟨hbuilt, hcp, hvalid.1,
    (hvalid.2 _ (.head _) last rfl _ checkpoint hcp (by decide +kernel)).2⟩

end NoaMandate
