import NoaMandate.Ledger.Step
import Mathlib.Algebra.Order.BigOperators.Group.List

/-!
# Conservation and single use

Whatever is committed, by whom and with whatever sealer, the ledger neither makes nor loses a unit:
every balance is the opening balance moved by the executed rows, the balances keep their sum and stay
exact numbers, the rows are numbered without a gap, and no envelope, decision or grant backs two
rows.

`Conserved` is that as an invariant, with what makes it inductive: the key of every row is in its
index.  `step_conserved` is the step lemma, `requests_conserved` the run lemma.
-/

namespace Json

/-- The sum of the values after one of them is replaced. -/
lemma sum_setMember {ms : List (String × Int)} {k : String} {old : Int} (v : Int)
    (hnd : (ms.map Prod.fst).Nodup) (h : ms.lookup k = some old) :
    ((setMember ms k v).map Prod.snd).sum = (ms.map Prod.snd).sum - old + v := by
  induction ms with
  | nil => simp at h
  | cons m ms ih =>
    obtain ⟨a, w⟩ := m
    rw [List.map_cons, List.nodup_cons] at hnd
    by_cases hka : k = a
    · subst hka
      obtain rfl : w = old := by simpa using h
      have hrest : setMember ms k v = ms := by
        refine (List.map_congr_left fun m hm => if_neg ?_).trans (List.map_id _)
        rintro rfl
        have hin : m.1 ∈ ms.map Prod.fst := List.mem_map_of_mem hm
        exact hnd.1 hin
      have hcons : setMember ((k, w) :: ms) k v = (k, v) :: setMember ms k v := by simp [setMember]
      rw [hcons, hrest, List.map_cons, List.sum_cons, List.map_cons, List.sum_cons]
      omega
    · have hbeq : (k == a) = false := by simpa using hka
      rw [List.lookup_cons, hbeq] at h
      have hcons : setMember ((a, w) :: ms) k v = (a, w) :: setMember ms k v := by
        simp [setMember, Ne.symm hka]
      rw [hcons, List.map_cons, List.sum_cons, ih hnd.2 h, List.map_cons, List.sum_cons]
      omega

lemma mem_setMember {ms : List (String × Int)} {k : String} {v b : Int}
    (h : b ∈ (setMember ms k v).map Prod.snd) : b = v ∨ b ∈ ms.map Prod.snd := by
  obtain ⟨m, hm, rfl⟩ := List.mem_map.mp h
  obtain ⟨m', hm', rfl⟩ := List.mem_map.mp hm
  by_cases hk : m'.1 = k
  · exact Or.inl (by rw [if_pos hk])
  · exact Or.inr (by rw [if_neg hk]; exact List.mem_map_of_mem hm')

end Json

namespace NoaMandate

open Pipeline

namespace Owner

variable {E : Env}

/-! ## What a derived transfer is -/

variable {authority : VerifiedEffectAuthority} {instant : Int}

variable {c : LedgerCommit}

lemma fromAccount_ne_toAccount (h : deriveLedgerCommit E authority instant = .ok c) :
    c.fromAccount ≠ c.toAccount := by
  obtain ⟨p, _, _, _, _, rfl⟩ := deriveLedgerCommit_eq_ok h
  exact p.distinct

lemma units_eq (h : deriveLedgerCommit E authority instant = .ok c) :
    c.units = amountOf c.amount := by
  obtain ⟨p, _, _, _, _, rfl⟩ := deriveLedgerCommit_eq_ok h
  rfl

lemma keys_eq (h : deriveLedgerCommit E authority instant = .ok c) :
    (⟨c.holdEnvelopeHash, c.decisionRefHash, c.grantId⟩ : Keys) = authority.keys := by
  obtain ⟨p, _, _, _, _, rfl⟩ := deriveLedgerCommit_eq_ok h
  rfl

/-! ## The invariant -/

/-- The amounts the executed rows among `rows` took from an account. -/
def sent (rows : List LedgerRow) (account : String) : Int :=
  ((rows.filter fun r => r.outcome = .EXECUTED && r.fromAccount = account).map
    fun r => (amountOf r.amount : Int)).sum

/-- The amounts the executed rows among `rows` brought to an account. -/
def received (rows : List LedgerRow) (account : String) : Int :=
  ((rows.filter fun r => r.outcome = .EXECUTED && r.toAccount = account).map
    fun r => (amountOf r.amount : Int)).sum

/-- The sum of all balances. -/
def State.total (s : State) : Int := (s.balances.map Prod.snd).sum

/-- No two rows share a key, and every key of a row is in its index. -/
structure Unique (rows : List LedgerRow) (key : LedgerRow → String)
    (index : List (String × String)) : Prop where
  nodup : (rows.map key).Nodup
  indexed : ∀ r ∈ rows, (index.lookup (key r)).isSome

/-- The invariant of the owner over its opening balances. -/
structure Conserved (opening : List (String × Int)) (s : State) : Prop where
  accounts : s.balances.map Prod.fst = opening.map Prod.fst
  balance : ∀ a, s.balances.lookup a =
    (opening.lookup a).map fun b => b - sent s.rows a + received s.rows a
  nonneg : ∀ b ∈ s.balances.map Prod.snd, 0 ≤ b
  total : s.total = (opening.map Prod.snd).sum
  numbered : s.rows.map LedgerRow.sequence = List.range' 1 s.rows.length
  envelope : Unique s.rows LedgerRow.holdEnvelopeHash s.envelopeIndex
  decision : Unique s.rows LedgerRow.decisionRefHash s.decisionIndex
  grant : Unique s.rows LedgerRow.grantId s.grantIndex

lemma Unique.write {rows : List LedgerRow} {key : LedgerRow → String}
    {index : List (String × String)} (h : Unique rows key index) {row : LedgerRow} {id : String}
    (hfresh : (index.lookup (key row)).isSome = false) :
    Unique (rows ++ [row]) key ((key row, id) :: index) := by
  constructor
  · rw [List.map_append, List.map_singleton, List.nodup_append]
    refine ⟨h.nodup, by simp, ?_⟩
    intro a ha b hb
    obtain ⟨r, hr, rfl⟩ := List.mem_map.mp ha
    obtain rfl := List.mem_singleton.mp hb
    intro heq
    have := h.indexed r hr
    rw [heq, hfresh] at this
    cases this
  · intro r hr
    rw [List.lookup_cons]
    rcases List.mem_append.mp hr with hr | hr
    · split
      · rfl
      · exact h.indexed r hr
    · obtain rfl := List.mem_singleton.mp hr
      simp

lemma sent_append (rows : List LedgerRow) (row : LedgerRow) (a : String) :
    sent (rows ++ [row]) a = sent rows a +
      if row.outcome = .EXECUTED ∧ row.fromAccount = a then (amountOf row.amount : Int) else 0 := by
  unfold sent
  rw [List.filter_append, List.map_append, List.sum_append]
  by_cases h : row.outcome = .EXECUTED ∧ row.fromAccount = a <;> simp [h]

lemma received_append (rows : List LedgerRow) (row : LedgerRow) (a : String) :
    received (rows ++ [row]) a = received rows a +
      if row.outcome = .EXECUTED ∧ row.toAccount = a then (amountOf row.amount : Int) else 0 := by
  unfold received
  rw [List.filter_append, List.map_append, List.sum_append]
  by_cases h : row.outcome = .EXECUTED ∧ row.toAccount = a <;> simp [h]

/-! ## The step lemma -/

/-- What a ledger definition guarantees about the opening balances. -/
structure Opening (opening : List (String × Int)) : Prop where
  distinct : (opening.map Prod.fst).Nodup
  nonneg : ∀ b ∈ opening.map Prod.snd, 0 ≤ b
  safe : (opening.map Prod.snd).sum ≤ Double.maxSafeInteger

variable {opening : List (String × Int)} {s : State}

/-- A row is written over balances that account for it. -/
lemma Conserved.write (h : Conserved opening s) {row : LedgerRow} {balances : List (String × Int)}
    {ids : List String} (hseq : row.sequence = s.rows.length + 1)
    (hfresh : s.consumed ⟨row.holdEnvelopeHash, row.decisionRefHash, row.grantId⟩ = false)
    (accounts : balances.map Prod.fst = opening.map Prod.fst) (balance : ∀ a, balances.lookup a =
      (opening.lookup a).map fun b => b - sent (s.rows ++ [row]) a + received (s.rows ++ [row]) a)
    (nonneg : ∀ b ∈ balances.map Prod.snd, 0 ≤ b)
    (total : (balances.map Prod.snd).sum = (opening.map Prod.snd).sum) : Conserved opening
      (State.writeRow { s with balances := balances, recordedReceiptIds := ids } row) := by
  simp only [State.consumed, Bool.or_eq_false_iff] at hfresh
  refine ⟨accounts, balance, nonneg, total, ?_, h.envelope.write hfresh.1.1,
    h.decision.write hfresh.1.2, h.grant.write hfresh.2⟩
  change (s.rows ++ [row]).map LedgerRow.sequence = List.range' 1 (s.rows ++ [row]).length
  rw [List.map_append, h.numbered, List.length_append, List.length_singleton, List.range'_1_concat,
    List.map_singleton, hseq, Nat.add_comm]

/-- A refused row moves nothing. -/
lemma Conserved.refusedRow (h : Conserved opening s) (derived : deriveLedgerCommit E authority instant = .ok c)
    (fresh : s.consumed authority.keys = false) (effectId committedAt : String)
    (code : LedgerRefusalCode) :
    Conserved opening (s.refusedRow c effectId committedAt code).1 := by
  refine h.write rfl ?_ h.accounts ?_ h.nonneg h.total
  · exact (congrArg s.consumed (keys_eq derived)).trans fresh
  · intro a
    rw [sent_append, received_append, h.balance]
    simp [rowOf]

/-- The balances after a transfer, exactly. -/
def moved (balances : List (String × Int)) (c : LedgerCommit) (fromBalance toBalance : Int) :
    List (String × Int) :=
  Json.setMember (Json.setMember balances c.fromAccount (fromBalance - c.units)) c.toAccount
    (toBalance + c.units)

section moved

variable {c : LedgerCommit} {fromBalance toBalance : Int}

lemma moved_fst (balances : List (String × Int)) :
    (moved balances c fromBalance toBalance).map Prod.fst = balances.map Prod.fst := by
  rw [moved, Json.setMember_fst, Json.setMember_fst]

variable {balances : List (String × Int)}

lemma moved_total (hnd : (balances.map Prod.fst).Nodup)
    (hne : c.fromAccount ≠ c.toAccount) (debited : balances.lookup c.fromAccount = some fromBalance)
    (credited : balances.lookup c.toAccount = some toBalance) :
    ((moved balances c fromBalance toBalance).map Prod.snd).sum = (balances.map Prod.snd).sum := by
  have hto : (Json.setMember balances c.fromAccount (fromBalance - c.units)).lookup c.toAccount =
      some toBalance := by
    rw [Json.lookup_setMember, if_neg (Ne.symm hne), credited]
  rw [moved, Json.sum_setMember _ (by rw [Json.setMember_fst]; exact hnd) hto,
    Json.sum_setMember _ hnd debited]
  omega

lemma moved_nonneg (hnonneg : ∀ b ∈ balances.map Prod.snd, 0 ≤ b)
    (funds : (c.units : Int) ≤ fromBalance) (hto : 0 ≤ toBalance) :
    ∀ b ∈ (moved balances c fromBalance toBalance).map Prod.snd, 0 ≤ b := by
  intro b hb
  rcases Json.mem_setMember hb with rfl | hb
  · omega
  · rcases Json.mem_setMember hb with rfl | hb
    · omega
    · exact hnonneg b hb

lemma moved_lookup (hne : c.fromAccount ≠ c.toAccount)
    (debited : balances.lookup c.fromAccount = some fromBalance)
    (credited : balances.lookup c.toAccount = some toBalance) (a : String) :
    (moved balances c fromBalance toBalance).lookup a = (balances.lookup a).map fun b =>
      b - (if c.fromAccount = a then (c.units : Int) else 0) +
        (if c.toAccount = a then (c.units : Int) else 0) := by
  rw [moved, Json.lookup_setMember, Json.lookup_setMember, Json.lookup_setMember,
    if_neg (Ne.symm hne)]
  by_cases hto : a = c.toAccount
  · subst hto
    simp [credited, hne]
  · by_cases hfrom : a = c.fromAccount
    · subst hfrom
      simp [debited, hne, Ne.symm hne]
    · simp [hto, hfrom, Ne.symm hto, Ne.symm hfrom]

end moved

/-- No balance exceeds the total. -/
lemma Conserved.le_total (h : Conserved opening s) {b : Int} (hb : b ∈ s.balances.map Prod.snd) :
    b ≤ (opening.map Prod.snd).sum :=
  (List.single_le_sum h.nonneg b hb).trans h.total.le

/-- An executed row moves its amount, in exact arithmetic: the numbers involved never leave the exact
range because the total does not. -/
lemma Conserved.executedRow (hopen : Opening opening) (h : Conserved opening s)
    {authority : VerifiedEffectAuthority} {instant : Int}
    (derived : deriveLedgerCommit E authority instant = .ok c)
    (fresh : s.consumed authority.keys = false) {fromBalance toBalance : Int}
    (debited : s.balances.lookup c.fromAccount = some fromBalance)
    (credited : s.balances.lookup c.toAccount = some toBalance)
    (funds : (c.units : Int) ≤ fromBalance) (effectId committedAt : String)
    (attestation : EffectAttestation) : Conserved opening
      (s.executedRow c effectId committedAt fromBalance toBalance attestation).1 := by
  have hne := fromAccount_ne_toAccount derived
  have hnd : (s.balances.map Prod.fst).Nodup := h.accounts ▸ hopen.distinct
  have hmem : ∀ {a b}, s.balances.lookup a = some b → b ∈ s.balances.map Prod.snd := by
    intro a b hab
    exact List.mem_map_of_mem (f := Prod.snd) ((Assoc.lookup_eq_some_iff hnd).mp hab)
  have hnonneg := moved_nonneg h.nonneg funds (h.nonneg _ (hmem credited))
  have htotal := (moved_total hnd hne debited credited).trans h.total
  have hbalance := moved_lookup hne debited credited
  have hsafe := hopen.safe
  have hfrom : Double.round (fromBalance - c.units) = fromBalance - c.units := by
    refine Double.round_of_le ?_
    have := h.le_total (hmem debited)
    unfold Double.maxSafeInteger at hsafe
    omega
  have hto : Double.round (toBalance + c.units) = toBalance + c.units := by
    refine Double.round_of_le ?_
    have hin : toBalance + c.units ∈ (moved s.balances c fromBalance toBalance).map Prod.snd := by
      have hlook := hbalance c.toAccount
      rw [credited, if_neg hne, if_pos rfl, Option.map_some, Int.sub_zero] at hlook
      refine List.mem_map_of_mem (f := Prod.snd) ((Assoc.lookup_eq_some_iff ?_).mp hlook)
      rw [moved_fst]
      exact hnd
    have hle := List.single_le_sum hnonneg _ hin
    have hge := hnonneg _ hin
    unfold Double.maxSafeInteger at hsafe
    omega
  unfold State.executedRow
  simp only [hfrom, hto]
  refine h.write rfl ?_ ((moved_fst s.balances).trans h.accounts) ?_ hnonneg htotal
  · exact (congrArg s.consumed (keys_eq derived)).trans fresh
  · intro a
    change (moved s.balances c fromBalance toBalance).lookup a = _
    rw [sent_append, received_append, hbalance, h.balance, Option.map_map]
    simp only [rowOf, true_and, ← units_eq derived]
    congr 1
    funext b
    simp only [Function.comp]
    omega

/-- Every commit keeps the invariant. -/
lemma step_conserved (hopen : Opening opening) {call : Call} {s' : State}
    (h : Conserved opening s) (hstep : Step E call s s') : Conserved opening s' := by
  cases hstep with
  | unchanged => exact h
  | refused _ _ fresh derived => exact h.refusedRow derived fresh _ _ _
  | executed _ _ fresh derived debited credited funds _ =>
    exact h.executedRow hopen derived fresh debited credited funds _ _ _

/-! ## The opening balances -/

lemma balance?_eq_some {v : Json} {n : Int} (h : balance? v = some n) : v = .num n ∧ 0 ≤ n := by
  unfold balance? at h
  split at h
  · split at h
    · rename_i hn
      exact ⟨congrArg Json.num (Option.some.inj h), Option.some.inj h ▸ hn.2⟩
    · cases h
  · cases h

/-- The walk over the accounts returns the numbers it met, none negative, and their exact sum. -/
lemma checkAccounts_eq_ok {I : Intrinsics} {ledger : String} (ms : List (String × Json)) :
    ∀ {total : Nat} {r : List (String × Int) × Int}, total ≤ Double.maxSafeInteger →
      checkAccounts I ledger total ms = .ok r →
      ms = r.1.map (fun b => (b.1, Json.num b.2)) ∧ (∀ b ∈ r.1.map Prod.snd, 0 ≤ b) ∧
        total + (r.1.map Prod.snd).sum = r.2 ∧ r.2 ≤ Double.maxSafeInteger := by
  induction ms with
  | nil =>
    intro total r htotal h
    cases h
    simpa using htotal
  | cons m ms ih =>
    obtain ⟨id, v⟩ := m
    intro total r _ h
    simp only [checkAccounts, ok_iff] at h
    obtain ⟨_, _, balance, hbalance, _, hlimit, r', hrest, rfl⟩ := h
    obtain ⟨rfl, hnonneg⟩ := balance?_eq_some hbalance
    obtain ⟨n, rfl⟩ := Int.eq_ofNat_of_zero_le hnonneg
    -- the sum that passed the check was not rounded
    have hexact : total + n ≤ Double.maxSafeInteger := by
      refine Double.le_maxSafeInteger_of_round_le ?_
      simpa using hlimit
    have hround : Double.round ((total : Int) + (n : Int)) = ((total + n : Nat) : Int) := by
      rw [Double.round_of_le, Nat.cast_add]
      unfold Double.maxSafeInteger at hexact
      omega
    rw [hround] at hrest
    obtain ⟨hms, hall, hsum, hsafe⟩ := ih hexact hrest
    refine ⟨by rw [hms]; rfl, ?_, ?_, hsafe⟩
    · simpa using hall
    · rw [List.map_cons, List.sum_cons, ← hsum]
      push_cast
      omega

variable {accounts : Json}

lemma checkLedgerDefinition_eq_ok {I : Intrinsics} {ledger : String} {r : List (String × Int) × Int}
    (h : checkLedgerDefinition I (.str ledger) accounts = .ok r) :
    ∃ ms, accounts = .obj ms ∧ checkAccounts I ledger ((0 : Nat) : Int) ms = .ok r := by
  simp only [checkLedgerDefinition, ok_iff] at h
  obtain ⟨l, hl, ms, hms, h⟩ := h
  obtain rfl : ledger = l := by
    rw [ledgerIdentifier?] at hl
    split at hl
    · exact Option.some.inj hl
    · cases hl
  cases accounts with
  | obj ms' => exact ⟨ms', rfl, Option.some.inj hms ▸ h⟩
  | _ => cases hms

/-- A new owner holds exactly the balances of the accounts it was given, and they are an opening. -/
theorem create_opening {s₀ : State} (hdistinct : accounts.Distinct)
    (h : create E accounts = .ok s₀) :
    accounts = .obj (s₀.balances.map fun b => (b.1, Json.num b.2)) ∧ Opening s₀.balances := by
  obtain ⟨⟨total, hdef⟩, -⟩ := create_new h
  obtain ⟨ms, rfl, hwalk⟩ := checkLedgerDefinition_eq_ok hdef
  obtain ⟨hms, hnonneg, hsum, hsafe⟩ := checkAccounts_eq_ok ms (Nat.zero_le _) hwalk
  have hkeys : ms.map Prod.fst = s₀.balances.map Prod.fst := by rw [hms, List.map_map]; rfl
  refine ⟨congrArg Json.obj hms, ⟨?_, hnonneg, ?_⟩⟩
  · rw [← hkeys]
    exact ((Json.distinct_obj ms).mp hdistinct).1
  · rw [Nat.cast_zero, zero_add] at hsum
    rw [hsum]
    exact hsafe

/-- A new owner meets the invariant. -/
lemma conserved_create {s₀ : State} (hopen : Opening s₀.balances)
    (hnew : s₀ = { balances := s₀.balances }) : Conserved s₀.balances s₀ := by
  rw [hnew]
  refine ⟨rfl, ?_, hopen.nonneg, rfl, rfl, ⟨by simp, by simp⟩, ⟨by simp, by simp⟩,
    ⟨by simp, by simp⟩⟩
  intro a
  simp [sent, received]

/-- Every sequence of requests keeps the invariant. -/
theorem requests_conserved {s₀ : State} (hdistinct : accounts.Distinct)
    (h : create E accounts = .ok s₀) (rs : List Request) :
    Conserved s₀.balances (s₀.requests E rs) := by
  obtain ⟨-, hopen⟩ := create_opening hdistinct h
  obtain ⟨-, hnew⟩ := create_new h
  refine requests_induction rs (by rw [hnew]) (conserved_create hopen hnew) ?_
  intro r _ s s' hs hstep
  exact step_conserved hopen hs hstep

end Owner

namespace Owner.TwoAccounts

def env : Env where
  toIntrinsics := .ofTables [] [] []
  verifyArtifact _ _ := false
  toISOString _ := some "2026-07-14T12:00:00.000Z"
  schemas := []
  trust := ⟨"tenant-example-1", "gate-example-1", 2, "", "boot", "2026-07-14T12:00:00.000Z", [],
    .obj [], true⟩
  registered := ⟨"noa.ledger.transfer", ⟨"", 1, ""⟩, ⟨"", 1, ""⟩⟩
  ledger := "ledger-example-1"

def accounts : Json := .obj [("acct-example-1", .num 1000), ("acct-example-2", .num 0)]

def opening : State := { balances := [("acct-example-1", 1000), ("acct-example-2", 0)] }

/-- A request whose sealer would commit again. -/
def request : Request where
  call := ⟨0, "row", none⟩
  sealer _ _ := .commit ⟨0, "row", none⟩ (fun _ _ => .done .threw) fun _ => .done .threw

end Owner.TwoAccounts

end NoaMandate
