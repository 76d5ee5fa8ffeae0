import NoaMandate.Ledger.Transfer

/-!
# The transfer projection is exact

`TransferDocument` is what `projectLedgerTransfer` accepts.  The forms of its members are stated over
the code units of a string, apart from the loops of the source.  `recovered` reads the members off the
rows.
-/

namespace NoaMandate.Transfer

open Pipeline

/-! ## The forms of the members -/

/-- 1 to 15 digits without a leading zero. -/
def Amount (s : String) : Prop :=
  (∀ u ∈ Json.units s, Scan.isDigit u = true) ∧ (Json.units s).length ∈ Set.Icc 1 15 ∧
    (Json.units s).head? ≠ some 0x30

/-- 1 to 64 letters, digits and hyphens, starting with a letter and not ending in a hyphen. -/
def Identifier (s : String) : Prop :=
  (∀ u ∈ Json.units s, isLowerAlpha u = true ∨ Scan.isDigit u = true ∨ u = 0x2d) ∧
    (Json.units s).length ∈ Set.Icc 1 64 ∧ (∃ c ∈ (Json.units s).head?, isLowerAlpha c = true) ∧
    (Json.units s).getLast? ≠ some 0x2d

/-- 32 lowercase hex digits. -/
def Salt (s : String) : Prop :=
  (∀ u ∈ Json.units s, Scan.isLowerHex u = true) ∧ (Json.units s).length = 32

lemma isAmount_iff {s : String} : isAmount s = true ↔ Amount s := by
  have hmax : MAX_AMOUNT_DIGITS = 15 := rfl
  unfold isAmount Amount
  cases Json.units s with
  | nil => simp
  | cons c cs =>
    simp only [test_iff, List.all_eq_true, Scan.isDigit, hmax, Set.mem_Icc, List.head?_cons]
    grind

lemma isIdentifier_iff {s : String} : isIdentifier s = true ↔ Identifier s := by
  have hhyphen : isLowerAlpha 0x2d = false ∧ Scan.isDigit 0x2d = false := by decide
  have hmax : MAX_IDENTIFIER = 64 := rfl
  unfold isIdentifier Identifier
  cases Json.units s with
  | nil => simp
  | cons c cs =>
    -- the units are the first one, those between and the last one
    rcases List.eq_nil_or_concat' cs with rfl | ⟨mid, l, rfl⟩
    · simp [hmax]
      grind
    · simp [hmax, List.getLast_cons, or_assoc]
      grind

lemma isSalt_iff {s : String} : isSalt s = true ↔ Salt s := by
  simp only [isSalt, Salt, test_iff, List.all_eq_true]
  exact and_comm

/-! ## The document and the rows -/

/-- The document of a transfer: exactly the six members, each of its form, and two accounts. -/
structure TransferDocument (v : Json) : Prop where
  object : v.isObj = true
  closed : ∀ k ∈ v.keys, k ∈ RECOGNIZED_TRANSFER_KEYS
  amount : ∃ s, v.get? "amount" = some (.str s) ∧ Amount s
  accounts : ∃ a b, v.get? "fromAccount" = some (.str a) ∧ v.get? "toAccount" = some (.str b) ∧
    Identifier a ∧ Identifier b ∧ a ≠ b
  ledger : ∃ s, v.get? "ledger" = some (.str s) ∧ Identifier s
  salt : ∃ s, v.get? "salt" = some (.str s) ∧ Salt s
  unit : v.get? "unit" = some (.str "XTS")

lemma exists_checkTransfer_iff {v : Json} :
    v.isObj = true ∧ (∃ p, checkTransfer v = .ok p) ↔ TransferDocument v := by
  constructor
  · rintro ⟨hobj, p, hp⟩
    obtain ⟨hget, hkeys⟩ := checkTransfer_eq_ok_iff.mp hp
    simp only [RECOGNIZED_TRANSFER_KEYS, List.forall_mem_cons] at hget
    obtain ⟨ha, hf, hl, hs, ht, hu, -⟩ := hget
    exact ⟨hobj, hkeys, ⟨_, ha, isAmount_iff.mp p.amount_ok⟩, ⟨_, _, hf, ht,
      isIdentifier_iff.mp p.from_ok, isIdentifier_iff.mp p.to_ok, p.distinct⟩,
      ⟨_, hl, isIdentifier_iff.mp p.ledger_ok⟩, ⟨_, hs, isSalt_iff.mp p.salt_ok⟩, hu⟩
  · intro h
    obtain ⟨amount, ha, amount_ok⟩ := h.amount
    obtain ⟨a, b, hf, ht, from_ok, to_ok, distinct⟩ := h.accounts
    obtain ⟨ledger, hl, ledger_ok⟩ := h.ledger
    obtain ⟨salt, hs, salt_ok⟩ := h.salt
    refine ⟨h.object, ⟨amount, a, ledger, salt, b, .XTS, isAmount_iff.mpr amount_ok,
      isIdentifier_iff.mpr from_ok, isIdentifier_iff.mpr ledger_ok, isSalt_iff.mpr salt_ok,
      isIdentifier_iff.mpr to_ok, distinct⟩, checkTransfer_eq_ok_iff.mpr ⟨?_, h.closed⟩⟩
    simp only [RECOGNIZED_TRANSFER_KEYS, List.forall_mem_cons, ha, hf, hl, hs, ht, h.unit]
    exact ⟨rfl, rfl, rfl, rfl, rfl, rfl, by simp⟩

/-- The code units of a member, read off the rows: the row `Amount` is split at its space. -/
def recovered (rows : List (String × String)) (k : String) : Option (List Nat) :=
  let row name := (rows.lookup name).map Json.units
  if k = "amount" then (row "Amount").map (·.takeWhile (· ≠ 0x20))
  else if k = "unit" then (row "Amount").map fun us => (us.dropWhile (· ≠ 0x20)).tail
  else if k = "fromAccount" then row "From"
  else if k = "toAccount" then row "To"
  else if k = "ledger" then row "Ledger"
  else row "Salt"

lemma recovered_display (p : LedgerTransferParams) :
    ∀ k ∈ RECOGNIZED_TRANSFER_KEYS,
      recovered p.display k = (p.toJson.getStr? k).map Json.units := by
  have hrow : Json.units (p.amount ++ " " ++ p.unit.text) =
      Json.units p.amount ++ 0x20 :: Json.units p.unit.text := by
    simp [Json.units]
    rfl
  have hamount : ∀ u ∈ Json.units p.amount, (u ≠ 0x20 : Bool) = true := by
    intro u hu
    have hdigit := (isAmount_iff.mp p.amount_ok).1 u hu
    simp only [decide_eq_true_eq]
    rintro rfl
    cases hdigit
  simp only [RECOGNIZED_TRANSFER_KEYS, List.forall_mem_cons]
  refine ⟨?_, rfl, rfl, rfl, rfl, ?_, by simp⟩
  · show some ((Json.units (p.amount ++ " " ++ p.unit.text)).takeWhile _) = some (Json.units p.amount)
    rw [hrow, List.takeWhile_append_of_pos hamount]
    simp
  · show some ((Json.units (p.amount ++ " " ++ p.unit.text)).dropWhile _).tail =
      some (Json.units p.unit.text)
    rw [hrow, List.dropWhile_append_of_pos hamount]
    simp

/-! ## Exactness -/

variable {I : Intrinsics} {text : List Char} {v : Json} {r : Projection}

/-- What an accepted text is projected to. -/
lemma exists_params (hv : parseDocument text "params" = .ok v)
    (h : projectLedgerTransfer I text = .ok r) :
    ∃ p : LedgerTransferParams, r = ⟨I.sha256Prefixed p.text, p.text, p, p.display⟩ ∧
      ∀ k ∈ RECOGNIZED_TRANSFER_KEYS, v.get? k = p.toJson.get? k := by
  obtain ⟨w, p, hw, -, hp, rfl⟩ := projectLedgerTransfer_eq_ok_iff.mp h
  obtain rfl : v = w := ok_unique hv hw
  exact ⟨p, rfl, (checkTransfer_eq_ok_iff.mp hp).1⟩

lemma project_canonical (h : projectLedgerTransfer I text = .ok r) :
    projectLedgerTransfer I r.canonical = .ok r := by
  obtain ⟨-, p, -, -, -, rfl⟩ := projectLedgerTransfer_eq_ok_iff.mp h
  exact projectLedgerTransfer_eq_ok_iff.mpr
    ⟨p.toJson, p, parseDocument_text p _, rfl, checkTransfer_toJson p, rfl⟩

/-- The projection accepts the documents of transfers and no others.  Two accepted documents have one
canonical text, one hash, or one display, each exactly when their six members are equal.  The
canonical text is accepted with the same result, and the members can be read off the rows. -/
theorem ledger_transfer_exact (I : Intrinsics) (hsha : Function.Injective I.sha256Hex) :
    (∀ text, (∃ r, projectLedgerTransfer I text = .ok r) ↔
      ∃ v, parseDocument text "params" = .ok v ∧ TransferDocument v) ∧
    (∀ text text' v v' r r', parseDocument text "params" = .ok v →
      parseDocument text' "params" = .ok v' → projectLedgerTransfer I text = .ok r →
      projectLedgerTransfer I text' = .ok r' →
      let same := ∀ k ∈ RECOGNIZED_TRANSFER_KEYS, v.get? k = v'.get? k
      (r.canonical = r'.canonical ↔ same) ∧ (r.paramsHash = r'.paramsHash ↔ same) ∧
        (r.display = r'.display ↔ same)) ∧
    (∀ text r, projectLedgerTransfer I text = .ok r → projectLedgerTransfer I r.canonical = .ok r) ∧
    ∀ text v r, parseDocument text "params" = .ok v → projectLedgerTransfer I text = .ok r →
      ∀ k ∈ RECOGNIZED_TRANSFER_KEYS, recovered r.display k = (v.getStr? k).map Json.units := by
  refine ⟨fun text => ⟨?_, ?_⟩, ?_, fun _ _ => project_canonical, ?_⟩
  · rintro ⟨r, hr⟩
    obtain ⟨v, p, hv, hobj, hp, -⟩ := projectLedgerTransfer_eq_ok_iff.mp hr
    exact ⟨v, hv, exists_checkTransfer_iff.mp ⟨hobj, p, hp⟩⟩
  · rintro ⟨v, hv, hdoc⟩
    obtain ⟨hobj, p, hp⟩ := exists_checkTransfer_iff.mpr hdoc
    exact ⟨_, projectLedgerTransfer_eq_ok_iff.mpr ⟨v, p, hv, hobj, hp, rfl⟩⟩
  · intro text text' v v' r r' hv hv' hr hr' same
    obtain ⟨p, rfl, hget⟩ := exists_params hv hr
    obtain ⟨q, rfl, hget'⟩ := exists_params hv' hr'
    have hsame : p = q ↔ same := by
      constructor
      · rintro rfl k hk
        rw [hget k hk, hget' k hk]
      · intro h
        refine get?_toJson_injective fun k hk => ?_
        rw [← hget k hk, ← hget' k hk, h k hk]
    simp only [← hsame]
    exact ⟨text_injective.eq_iff, ⟨fun h => text_injective (I.sha256Prefixed_injective hsha h),
      fun h => by rw [h]⟩, display_injective.eq_iff⟩
  · intro text v r hv hr k hk
    obtain ⟨p, rfl, hget⟩ := exists_params hv hr
    rw [recovered_display p k hk, Json.getStr?, Json.getStr?, hget k hk]

/-- Twenty-five units from one account to another. -/
def sampleTransfer : LedgerTransferParams :=
  ⟨"25", "alice", "main", "00112233445566778899aabbccddeeff", "bob", .XTS, by decide, by decide,
    by decide, by decide, by decide, by decide⟩

theorem ledger_transfer_exact_sample :
    let I : Intrinsics := ⟨String.ofList, fun _ _ _ => false, fun _ => none, id⟩
    ∃ r, projectLedgerTransfer I sampleTransfer.text = .ok r ∧
      projectLedgerTransfer I r.canonical = .ok r ∧
      recovered r.display "unit" = some (Json.units "XTS") := by
  intro I
  obtain ⟨haccepts, -, hcanonical, hrows⟩ :=
    ledger_transfer_exact I fun _ _ h => String.ofList_injective h
  have hparse := parseDocument_text sampleTransfer "params"
  obtain ⟨r, hr⟩ := (haccepts sampleTransfer.text).mpr ⟨_, hparse, exists_checkTransfer_iff.mp
    ⟨rfl, _, checkTransfer_toJson sampleTransfer⟩⟩
  exact ⟨r, hr, hcanonical _ r hr, hrows _ _ r hparse hr "unit" (by decide)⟩

end NoaMandate.Transfer
