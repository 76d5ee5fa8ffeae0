import NoaMandate.Kernel.Receipt
import NoaMandate.Kernel.SafeJsonComplete

/-!
# The wire form of a ledger transfer

A model of `ledger-transfer.ts`.  A transfer is a tuple of six strings; `LedgerTransferParams` carries
the member rules as fields, so a tuple that breaks one cannot be built.  `projectLedgerTransfer` reads
a text, checks the members, canonicalises the tuple and hashes it, and returns the tuple it reads back
from its own canonical text.

`projectLedgerTransfer_eq_ok_iff` removes that second reading: the returned tuple is the checked one,
and its canonical text is `LedgerTransferParams.text`, which determines the tuple (`text_injective`).
-/

namespace NoaMandate

open Pipeline

namespace Transfer

/-! ## The member rules -/

def MAX_IDENTIFIER : Nat := 64

def MAX_AMOUNT_DIGITS : Nat := 15

def SALT_HEX_LENGTH : Nat := 32

def isLowerAlpha (c : Nat) : Bool := 0x61 ≤ c && c ≤ 0x7a

/-- 1 to 15 digits, the first one not zero. -/
def isAmount (s : String) : Bool :=
  match Json.units s with
  | [] => false
  | c :: cs =>
    cs.length + 1 ≤ MAX_AMOUNT_DIGITS && (0x31 ≤ c && c ≤ 0x39) && cs.all Scan.isDigit

/-- 1 to 64 characters of `[a-z0-9-]`, the first in `[a-z]`, the last in `[a-z0-9]`. -/
def isIdentifier (s : String) : Bool :=
  match Json.units s with
  | [] => false
  | c :: cs =>
    let last := (c :: cs).getLast (List.cons_ne_nil c cs)
    cs.length + 1 ≤ MAX_IDENTIFIER && isLowerAlpha c &&
      (isLowerAlpha last || Scan.isDigit last) &&
      cs.dropLast.all fun d => isLowerAlpha d || Scan.isDigit d || d = 0x2d

/-- Exactly 32 lowercase hex characters. -/
def isSalt (s : String) : Bool :=
  (Json.units s).length = SALT_HEX_LENGTH && (Json.units s).all Scan.isLowerHex

/-- The closed unit enumeration. -/
inductive LedgerTransferUnit where
  | XTS
  deriving DecidableEq

def LedgerTransferUnit.text : LedgerTransferUnit → String
  | .XTS => "XTS"

/-- A string that passes a rule, from a member of a document. -/
def asRule (rule : String → Bool) : Option Json → Option {s : String // rule s = true}
  | some (.str s) => if h : rule s = true then some ⟨s, h⟩ else none
  | _ => none

def asAmount := asRule isAmount

def asIdentifier := asRule isIdentifier

def asSalt := asRule isSalt

def asUnit : Option Json → Option LedgerTransferUnit
  | some (.str s) => if s = "XTS" then some .XTS else none
  | _ => none

/-- The stable refusal codes. -/
inductive LedgerTransferRefusalCode where
  | TRANSFER_PARSE
  | TRANSFER_NOT_OBJECT
  | TRANSFER_AMOUNT_INVALID
  | TRANSFER_FROM_INVALID
  | TRANSFER_LEDGER_INVALID
  | TRANSFER_SALT_INVALID
  | TRANSFER_TO_INVALID
  | TRANSFER_UNIT_INVALID
  | TRANSFER_UNRECOGNIZED_MEMBER
  | TRANSFER_SAME_ACCOUNT
  | TRANSFER_CANONICAL_REPARSE
  deriving DecidableEq

def LedgerTransferRefusalCode.text : LedgerTransferRefusalCode → String
  | .TRANSFER_PARSE => "TRANSFER_PARSE"
  | .TRANSFER_NOT_OBJECT => "TRANSFER_NOT_OBJECT"
  | .TRANSFER_AMOUNT_INVALID => "TRANSFER_AMOUNT_INVALID"
  | .TRANSFER_FROM_INVALID => "TRANSFER_FROM_INVALID"
  | .TRANSFER_LEDGER_INVALID => "TRANSFER_LEDGER_INVALID"
  | .TRANSFER_SALT_INVALID => "TRANSFER_SALT_INVALID"
  | .TRANSFER_TO_INVALID => "TRANSFER_TO_INVALID"
  | .TRANSFER_UNIT_INVALID => "TRANSFER_UNIT_INVALID"
  | .TRANSFER_UNRECOGNIZED_MEMBER => "TRANSFER_UNRECOGNIZED_MEMBER"
  | .TRANSFER_SAME_ACCOUNT => "TRANSFER_SAME_ACCOUNT"
  | .TRANSFER_CANONICAL_REPARSE => "TRANSFER_CANONICAL_REPARSE"

/-- The rule of an identifier member, in refusal texts. -/
def identifierDetail (member : String) : String :=
  member ++ " must be a JSON string of 1 to 64 characters from [a-z0-9-], first [a-z], last [a-z0-9]"

/-- The detail of a refusal that comes without one of its own. -/
def REFUSAL_DETAIL : LedgerTransferRefusalCode → String
  | .TRANSFER_PARSE => "undefined"
  | .TRANSFER_NOT_OBJECT => "params must be a JSON object"
  | .TRANSFER_AMOUNT_INVALID =>
    "amount must be a JSON string of 1 to 15 ASCII digits with no leading zero"
  | .TRANSFER_FROM_INVALID => identifierDetail "fromAccount"
  | .TRANSFER_LEDGER_INVALID => identifierDetail "ledger"
  | .TRANSFER_SALT_INVALID => "salt must be a JSON string of exactly 32 lowercase hex characters"
  | .TRANSFER_TO_INVALID => identifierDetail "toAccount"
  | .TRANSFER_UNIT_INVALID => "unit must be exactly \"XTS\""
  | .TRANSFER_UNRECOGNIZED_MEMBER =>
    "only \x7b amount, fromAccount, ledger, salt, toAccount, unit \x7d are permitted"
  | .TRANSFER_SAME_ACCOUNT => "fromAccount and toAccount must differ"
  | .TRANSFER_CANONICAL_REPARSE => "the canonical form did not re-derive the validated tuple"

/-- A refusal: its code and its reason. -/
structure Refusal where
  code : LedgerTransferRefusalCode
  reason : String

def refusal (code : LedgerTransferRefusalCode) (detail : String := REFUSAL_DETAIL code) : Refusal :=
  ⟨code, code.text ++ ": " ++ detail⟩

/-- The validated six-member tuple. -/
structure LedgerTransferParams where
  amount : String
  fromAccount : String
  ledger : String
  salt : String
  toAccount : String
  unit : LedgerTransferUnit
  amount_ok : isAmount amount = true
  from_ok : isIdentifier fromAccount = true
  ledger_ok : isIdentifier ledger = true
  salt_ok : isSalt salt = true
  to_ok : isIdentifier toAccount = true
  distinct : fromAccount ≠ toAccount

def RECOGNIZED_TRANSFER_KEYS : List String :=
  ["amount", "fromAccount", "ledger", "salt", "toAccount", "unit"]

/-- The member rules in their normative order: the six members, the closed world, the two accounts.
Source: `checkTransfer`. -/
def checkTransfer (o : Json) : Except LedgerTransferRefusalCode LedgerTransferParams := do
  let amount ← demand (asAmount (o.get? "amount")) .TRANSFER_AMOUNT_INVALID
  let fromAccount ← demand (asIdentifier (o.get? "fromAccount")) .TRANSFER_FROM_INVALID
  let ledger ← demand (asIdentifier (o.get? "ledger")) .TRANSFER_LEDGER_INVALID
  let salt ← demand (asSalt (o.get? "salt")) .TRANSFER_SALT_INVALID
  let toAccount ← demand (asIdentifier (o.get? "toAccount")) .TRANSFER_TO_INVALID
  let unit ← demand (asUnit (o.get? "unit")) .TRANSFER_UNIT_INVALID
  refuse (o.keys.any fun k => !RECOGNIZED_TRANSFER_KEYS.contains k) .TRANSFER_UNRECOGNIZED_MEMBER
  if h : fromAccount.1 = toAccount.1 then .error .TRANSFER_SAME_ACCOUNT
  else
    return {
      amount := amount.1, fromAccount := fromAccount.1, ledger := ledger.1, salt := salt.1,
      toAccount := toAccount.1, unit, amount_ok := amount.2, from_ok := fromAccount.2,
      ledger_ok := ledger.2, salt_ok := salt.2, to_ok := toAccount.2, distinct := h }

namespace LedgerTransferParams

variable (p : LedgerTransferParams)

/-- The tuple as a document; the member names are in canonical order. -/
def toJson : Json :=
  .obj [("amount", .str p.amount), ("fromAccount", .str p.fromAccount), ("ledger", .str p.ledger),
    ("salt", .str p.salt), ("toAccount", .str p.toAccount), ("unit", .str p.unit.text)]

/-- The canonical text of the tuple. -/
def text : List Char := Json.render p.toJson

/-- The rows an approver is shown. -/
def display : List (String × String) :=
  [("Action", "noa.ledger.transfer"), ("Ledger", p.ledger), ("From", p.fromAccount),
   ("To", p.toAccount), ("Amount", p.amount ++ " " ++ p.unit.text), ("Salt", p.salt)]

end LedgerTransferParams

/-- The tuple read back from its canonical text; the error is the detail of the refusal. Source:
`transferView`. -/
def transferView (canonical : List Char) : Except String LedgerTransferParams :=
  match parseDocument canonical "canonical params" with
  | .error reason => .error ("canonical params did not re-parse: " ++ reason)
  | .ok v =>
    if !v.isObj then .error "canonical params are not an object"
    else
      match checkTransfer v with
      | .error code => .error ("canonical params failed re-validation (" ++ code.text ++ ")")
      | .ok p => .ok p

/-- What the projection of a transfer yields. The two pinned projection identities, which are
constants, are left out. -/
structure Projection where
  paramsHash : String
  canonical : List Char
  value : LedgerTransferParams
  display : List (String × String)

/-- Validate a transfer, canonicalise it and derive its hash and its display.
Source: `projectLedgerTransfer`. -/
def projectLedgerTransfer (I : Intrinsics) (params : List Char) : Except Refusal Projection :=
  match parseDocument params "params" with
  | .error reason => .error (refusal .TRANSFER_PARSE reason)
  | .ok v =>
    if !v.isObj then .error (refusal .TRANSFER_NOT_OBJECT)
    else
      match checkTransfer v with
      | .error code => .error (refusal code)
      | .ok checked =>
        match canonicalize checked.toJson with
        | none =>
          .error (refusal .TRANSFER_CANONICAL_REPARSE
            "the validated tuple is not JCS-canonicalizable")
        | some canonical =>
          match transferView canonical with
          | .error detail => .error (refusal .TRANSFER_CANONICAL_REPARSE detail)
          | .ok b => .ok ⟨I.sha256Prefixed canonical, canonical, b, b.display⟩

/-! ## The tuple is read back from its own text -/

lemma asRule_str {rule : String → Bool} {s : String} (h : rule s = true) :
    asRule rule (some (.str s)) = some ⟨s, h⟩ := by
  simp [asRule, h]

/-- The member rules accept the document of a tuple and return that tuple. -/
lemma checkTransfer_toJson (p : LedgerTransferParams) : checkTransfer p.toJson = .ok p := by
  have hunit : asUnit (p.toJson.get? "unit") = some p.unit := by
    have hget : p.toJson.get? "unit" = some (.str p.unit.text) := rfl
    rw [hget]
    cases p.unit
    rfl
  have hamount : asAmount (p.toJson.get? "amount") = some ⟨p.amount, p.amount_ok⟩ :=
    asRule_str p.amount_ok
  have hfrom : asIdentifier (p.toJson.get? "fromAccount") = some ⟨p.fromAccount, p.from_ok⟩ :=
    asRule_str p.from_ok
  have hledger : asIdentifier (p.toJson.get? "ledger") = some ⟨p.ledger, p.ledger_ok⟩ :=
    asRule_str p.ledger_ok
  have hsalt : asSalt (p.toJson.get? "salt") = some ⟨p.salt, p.salt_ok⟩ := asRule_str p.salt_ok
  have hto : asIdentifier (p.toJson.get? "toAccount") = some ⟨p.toAccount, p.to_ok⟩ :=
    asRule_str p.to_ok
  have hkeys : (p.toJson.keys.any fun k => !RECOGNIZED_TRANSFER_KEYS.contains k) = false := by
    change (RECOGNIZED_TRANSFER_KEYS.any fun k => !RECOGNIZED_TRANSFER_KEYS.contains k) = false
    decide
  simp only [checkTransfer, hamount, hfrom, hledger, hsalt, hto, hunit, hkeys, demand, ok_bind,
    refuse_false, dif_neg p.distinct]
  rfl

lemma asRule_eq_some {rule : String → Bool} {o : Option Json} {s : {s : String // rule s = true}}
    (h : asRule rule o = some s) : o = some (.str s.1) := by
  unfold asRule at h
  split at h
  · split at h <;> cases h
    rfl
  · cases h

lemma asUnit_eq_some {o : Option Json} {u : LedgerTransferUnit} (h : asUnit o = some u) :
    o = some (.str u.text) := by
  unfold asUnit at h
  split at h
  · split at h <;> cases h
    rename_i hxts
    rw [hxts]
    rfl
  · cases h

/-- The member rules accept a document when its members are those of a tuple. -/
lemma checkTransfer_eq_ok_iff {v : Json} {p : LedgerTransferParams} : checkTransfer v = .ok p ↔
    (∀ k ∈ RECOGNIZED_TRANSFER_KEYS, v.get? k = p.toJson.get? k) ∧
      ∀ k ∈ v.keys, k ∈ RECOGNIZED_TRANSFER_KEYS := by
  have hclosed : (v.keys.any fun k => !RECOGNIZED_TRANSFER_KEYS.contains k) = false ↔
      ∀ k ∈ v.keys, k ∈ RECOGNIZED_TRANSFER_KEYS := by
    simp
  constructor
  · intro h
    simp only [checkTransfer, ok_iff] at h
    obtain ⟨amount, ha, from', hf, ledger, hl, salt, hs, to', ht, unit, hu, _, hkeys, h⟩ := h
    split at h <;> cases h
    refine ⟨?_, hclosed.mp hkeys⟩
    simp only [RECOGNIZED_TRANSFER_KEYS, List.forall_mem_cons, asRule_eq_some ha, asRule_eq_some hf,
      asRule_eq_some hl, asRule_eq_some hs, asRule_eq_some ht, asUnit_eq_some hu]
    exact ⟨rfl, rfl, rfl, rfl, rfl, rfl, by simp⟩
  · rintro ⟨hget, hkeys⟩
    have hp := checkTransfer_toJson p
    simp only [RECOGNIZED_TRANSFER_KEYS, List.forall_mem_cons] at hget
    obtain ⟨ha, hf, hl, hs, ht, hu, -⟩ := hget
    have hboth : (v.keys.any fun k => !RECOGNIZED_TRANSFER_KEYS.contains k) =
        p.toJson.keys.any fun k => !RECOGNIZED_TRANSFER_KEYS.contains k := (hclosed.mpr hkeys).trans rfl
    rw [checkTransfer, ha, hf, hl, hs, ht, hu, hboth]
    exact hp

lemma get?_toJson_injective {p q : LedgerTransferParams}
    (h : ∀ k ∈ RECOGNIZED_TRANSFER_KEYS, p.toJson.get? k = q.toJson.get? k) : p = q := by
  have hp := checkTransfer_eq_ok_iff.mpr ⟨h, fun k hk => hk⟩
  exact Except.ok.inj ((checkTransfer_toJson p).symm.trans hp)

/-- The amount row is the amount, a space and the unit. -/
lemma display_injective : Function.Injective LedgerTransferParams.display := by
  intro p q h
  simp only [LedgerTransferParams.display, List.cons.injEq, Prod.mk.injEq, true_and, and_true] at h
  obtain ⟨hledger, hfrom, hto, hamount, hsalt⟩ := h
  have hunit : p.unit = q.unit := by
    cases p.unit
    cases q.unit
    rfl
  have hamount : p.amount = q.amount := by
    rw [hunit] at hamount
    simpa using hamount
  cases p
  cases q
  simp_all

lemma norm_toJson (p : LedgerTransferParams) : p.toJson.norm = p.toJson := by
  have hsorted : List.Pairwise
      (fun a b : String => @LE.le (List Nat) List.instLE (Json.units a) (Json.units b))
      RECOGNIZED_TRANSFER_KEYS := by decide
  rw [LedgerTransferParams.toJson, Json.norm_obj, Json.sortMembers_of_sorted (by exact hsorted)]
  simp [Json.norm]

lemma fits_toJson (p : LedgerTransferParams) : Json.Fits 64 0 p.toJson := by
  simp [LedgerTransferParams.toJson, Json.Fits]

lemma canonicalize_toJson (p : LedgerTransferParams) : canonicalize p.toJson = some p.text := by
  obtain ⟨t, ht⟩ := Json.exists_canonicalText (fits_toJson p)
  have := Json.serialize_eq_render 64 p.toJson 0 t ht
  rw [norm_toJson] at this
  rw [canonicalize, MAX_DEPTH, ht, this]
  rfl

lemma length_units_of_isIdentifier {s : String} (h : isIdentifier s = true) :
    (Json.units s).length ≤ 64 := by
  unfold isIdentifier at h
  split at h
  · cases h
  · rename_i c cs hu
    simp only [test_iff] at h
    rw [hu, List.length_cons]
    exact h.1.1.1

lemma length_units_of_isAmount {s : String} (h : isAmount s = true) :
    (Json.units s).length ≤ 15 := by
  unfold isAmount at h
  split at h
  · cases h
  · rename_i c cs hu
    simp only [test_iff] at h
    rw [hu, List.length_cons]
    exact h.1.1

lemma length_units_of_isSalt {s : String} (h : isSalt s = true) : (Json.units s).length = 32 := by
  simp only [isSalt, test_iff] at h
  exact h.1

lemma utf8Length_text_le (p : LedgerTransferParams) : utf8Length p.text ≤ MAX_INPUT_BYTES := by
  have hunit : (Json.units p.unit.text).length ≤ 64 := by cases p.unit; decide
  have hbounds : ∀ m ∈ [("amount", p.amount), ("fromAccount", p.fromAccount), ("ledger", p.ledger),
      ("salt", p.salt), ("toAccount", p.toAccount), ("unit", p.unit.text)],
      (Json.units m.1).length ≤ 64 ∧ (Json.units m.2).length ≤ 64 := by
    have hnames : ∀ k ∈ RECOGNIZED_TRANSFER_KEYS, (Json.units k).length ≤ 64 := by decide
    intro m hm
    refine ⟨hnames m.1 (List.mem_map_of_mem (f := Prod.fst) hm), ?_⟩
    simp only [mem_iff] at hm
    rcases hm with rfl | rfl | rfl | rfl | rfl | rfl
    · exact (length_units_of_isAmount p.amount_ok).trans (by decide)
    · exact length_units_of_isIdentifier p.from_ok
    · exact length_units_of_isIdentifier p.ledger_ok
    · exact (length_units_of_isSalt p.salt_ok).le.trans (by decide)
    · exact length_units_of_isIdentifier p.to_ok
    · exact hunit
  have hlen := utf8Length_strings_le _ hbounds true
  have hbrace : Char.utf8Size '\x7b' = 1 := by decide
  change utf8Length ('\x7b' :: Json.renderMembers true _) ≤ MAX_INPUT_BYTES
  rw [utf8Length_cons, hbrace, MAX_INPUT_BYTES]
  simp only [List.length_cons, List.length_nil] at hlen
  simp only [List.map_cons, List.map_nil] at hlen
  omega

lemma parseDocument_text (p : LedgerTransferParams) (what : String) :
    parseDocument p.text what = .ok p.toJson := by
  refine parseDocument_render ?_ ?_ (fits_toJson p) (utf8Length_text_le p) what
  · simp [LedgerTransferParams.toJson, Json.Distinct]
  · simp [LedgerTransferParams.toJson, SafeJson.Allowed, SafeJson.AllowedMembers, SafeJson.forbiddenKeys]

lemma transferView_text (p : LedgerTransferParams) : transferView p.text = .ok p := by
  have hobj : p.toJson.isObj = true := rfl
  rw [transferView, parseDocument_text]
  simp only [hobj, checkTransfer_toJson, Bool.not_true, Bool.false_eq_true, if_false]

/-- The tuple is determined by its canonical text. -/
lemma text_injective : Function.Injective LedgerTransferParams.text := by
  intro p q h
  have hp := transferView_text p
  rw [h, transferView_text] at hp
  exact (Except.ok.inj hp).symm

/-- The projection of a text succeeds exactly when the text is a document the member rules accept,
and then it returns the checked tuple, with its canonical text and the hash of that. -/
theorem projectLedgerTransfer_eq_ok_iff {I : Intrinsics} {params : List Char} {r : Projection} :
    projectLedgerTransfer I params = .ok r ↔
      ∃ v p, parseDocument params "params" = .ok v ∧ v.isObj = true ∧ checkTransfer v = .ok p ∧
        r = ⟨I.sha256Prefixed p.text, p.text, p, p.display⟩ := by
  constructor
  · intro h
    unfold projectLedgerTransfer at h
    split at h
    · cases h
    rename_i v hv
    split at h
    · cases h
    rename_i hobj
    split at h
    · cases h
    rename_i p hp
    rw [canonicalize_toJson] at h
    simp only [transferView_text, Except.ok.injEq] at h
    exact ⟨v, p, hv, by simpa using hobj, hp, h.symm⟩
  · rintro ⟨v, p, hv, hobj, hp, rfl⟩
    simp only [projectLedgerTransfer, hv, hobj, hp, canonicalize_toJson, transferView_text,
      Bool.not_true, Bool.false_eq_true, if_false]

end Transfer

end NoaMandate
