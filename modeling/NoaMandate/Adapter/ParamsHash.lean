import NoaMandate.Kernel.Receipt
import NoaMandate.Lib.JsValue

/-!
# The hash of a tool call's arguments

`canonicalParamsHash` is what a receipt, an approval and a ticket know of the arguments of a call.
It hashes the RFC 8785 text where `canonicalize` gives one, and otherwise the text of
`stableStringifyFallback`, which accepts every number, every string and every depth.

Two serialisers share one hash space, and which of them is used depends on the whole value.  That is
harmless because they agree: `canonicalizeValue_eq_fallback` says that a text `canonicalize` gives is the
fallback's text.  So a hash is always the hash of the fallback's text (`canonicalParamsHash_eq`), and
`canonicalParamsHash_eq_iff` reduces to one serialiser: equal hashes mean equal arguments, up to
member order, the sign of zero, and numbers past the range, which the fallback writes as `null`.

The recursion depth of the platform is not modelled; arguments that exhaust the stack of the source
get a fixed sentinel, which `uncanonicalizableArgsSentinel` names and no value here has.
-/

namespace NoaMandate.Adapter

/-- What the adapter takes from its platform beside the kernel's primitives. -/
structure AdapterPlatform extends Intrinsics where
  /-- `Number::toString` of a finite number. -/
  numberText : Dyadic → List Char

/-! ## The two serialisers -/

/-- A string token; an unpaired surrogate is refused. Source: `jcs.ts` `serializeString`. -/
def serializeString (s : JsString) : Option (List Char) :=
  if s.isWellFormed then
    some ('"' :: (s.codePoints.flatMap (fun code => Json.escapeChar (Char.ofNat code)) ++ ['"']))
  else none

variable (P : AdapterPlatform)

/-- A number token; what is not an integer in the exact range is refused.
Source: `jcs.ts` `serialize`. -/
def serializeNumber (n : JsNumber) : Option (List Char) :=
  if n.isSafeInteger then
    if n = .negZero then some ['0'] else some (n.toText P.numberText)
  else none

/-- The RFC 8785 text of a value; `none` where the source throws.
Source: `jcs.ts` `canonicalize`, `serialize`. -/
def canonicalizeValue (v : JsValue) : Option (List Char) :=
  ValueTree.write ⟨serializeNumber P, serializeString, MAX_DEPTH⟩ 0 v

/-- Source: `pre-check.mjs` `canonicalDecimalNumberString`. -/
def canonicalDecimalNumberString (n : JsNumber) : List Char :=
  if n = .negZero then ['0'] else n.toText P.numberText

/-- The tokens of the fallback: numbers as their decimal text, strings as `JSON.stringify` writes
them. -/
def fallbackLexicon : ValueTree.Lexicon JsString JsNumber where
  num n := if n.isFinite then canonicalDecimalNumberString P n else ['n', 'u', 'l', 'l']
  str := JsString.quote

/-- The text of any value, names sorted. Source: `pre-check.mjs` `stableStringifyFallback`. -/
def stableStringifyFallback (v : JsValue) : List Char :=
  ValueTree.text (fallbackLexicon P) v

/-! ## The hash -/

/-- Source: `pre-check.mjs` `UNCANONICALIZABLE_ARGS_SENTINEL_HASH`. -/
def uncanonicalizableArgsSentinel : String :=
  P.sha256Prefixed (Text.chars "noa-mcp-adapter-core:paramsHash-uncanonicalizable-args")

/-- `args ?? {}`. -/
def argsOrEmpty : Option JsValue → JsValue
  | none => .obj []
  | some .null => .obj []
  | some v => v

/-- The hash of the arguments of a call; `none` for a call without arguments.
Source: `pre-check.mjs` `canonicalParamsHash`. -/
def canonicalParamsHash (args : Option JsValue) : String :=
  match canonicalizeValue P (argsOrEmpty args) with
  | some text => P.sha256Prefixed text
  | none => P.sha256Prefixed (stableStringifyFallback P (argsOrEmpty args))

/-! ## The serialisers agree -/

lemma flatMap_escapePoint_of_isWellFormed {s : JsString} (h : s.isWellFormed = true) :
    s.codePoints.flatMap JsString.escapePoint =
      s.codePoints.flatMap fun code => Json.escapeChar (Char.ofNat code) := by
  have hall := List.all_eq_true.mp h
  have hcongr : ∀ n ∈ s.codePoints, JsString.escapePoint n = Json.escapeChar (Char.ofNat n) := by
    intro n hn
    have hnot : JsString.isSurrogate n = false := by simpa using hall n hn
    rw [JsString.escapePoint, hnot, if_neg Bool.false_ne_true]
  rw [List.flatMap_def, List.flatMap_def, List.map_congr_left hcongr]

variable {text : List Char}

lemma serializeString_eq {s : JsString} (h : serializeString s = some text) : text = s.quote := by
  unfold serializeString at h
  split at h
  · next hwf =>
    cases h
    rw [JsString.quote, flatMap_escapePoint_of_isWellFormed hwf]
  · cases h

lemma isFinite_of_isSafeInteger {n : JsNumber} (h : n.isSafeInteger = true) :
    n.isFinite = true := by
  cases n with
  | infinite negative => exact absurd h Bool.false_ne_true
  | _ => rfl

variable {P : AdapterPlatform}

lemma serializeNumber_eq {n : JsNumber}
    (h : serializeNumber P n = some text) : text = (fallbackLexicon P).num n := by
  unfold serializeNumber at h
  split at h
  · next hsafe =>
    show text = if n.isFinite then canonicalDecimalNumberString P n else _
    rw [isFinite_of_isSafeInteger hsafe, if_pos rfl, canonicalDecimalNumberString]
    split at h
    · next hz => rw [if_pos hz, Option.some.inj h]
    · next hz => rw [if_neg hz, Option.some.inj h]
  · cases h

/-- **Where `canonicalize` gives a text it is the fallback's text.** -/
lemma canonicalizeValue_eq_fallback {v : JsValue}
    (h : canonicalizeValue P v = some text) : text = stableStringifyFallback P v :=
  ValueTree.write_eq_text (fun _ _ hn => serializeNumber_eq hn) (fun _ _ hs => serializeString_eq hs)
    v 0 text h

/-- A hash is always the hash of the fallback's text. -/
lemma canonicalParamsHash_eq (P : AdapterPlatform) (args : Option JsValue) :
    canonicalParamsHash P args = P.sha256Prefixed (stableStringifyFallback P (argsOrEmpty args)) := by
  unfold canonicalParamsHash
  cases h : canonicalizeValue P (argsOrEmpty args) with
  | none => rfl
  | some text => rw [← canonicalizeValue_eq_fallback h]

/-! ## The hash tells the arguments -/

/-- The tokens of a value in which the second zero and the infinities have been read away. -/
def plainLexicon (P : AdapterPlatform) : ValueTree.Lexicon JsString Binary64 where
  num d := P.numberText d.val
  str := JsString.quote

lemma plainLexicon_faithful (hnum : JsNumber.Numerals P.numberText) :
    (plainLexicon P).Faithful where
  num_chars := hnum.chars
  num_ne_nil := hnum.ne_nil
  num_injective := hnum.injective
  str_head _ := ⟨_, rfl⟩
  str_append_inj _ _ _ _ h := JsString.quote_append_inj h

/-- The fallback writes the plain value. -/
lemma stableStringifyFallback_eq (hnum : JsNumber.Numerals P.numberText)
    (v : JsValue) : stableStringifyFallback P v = ValueTree.text (plainLexicon P) (JsValue.plain v) := by
  refine ValueTree.text_mapNum JsValue.plainNumber ?_ (fun _ => rfl) v
  intro n
  cases n with
  | finite d => rfl
  | negZero =>
    -- zero is an integer in the exact range, so its text is the digit
    exact (hnum.int Binary64.zero 0 rfl (Nat.zero_le _)).symm
  | infinite negative => rfl

/-- Equal hashes are equal arguments, where an absent argument object is an empty one. -/
lemma paramsHash_eq_iff_eqv (hsha : Function.Injective P.sha256Hex)
    (hnum : JsNumber.Numerals P.numberText) (args args' : Option JsValue) :
    canonicalParamsHash P args = canonicalParamsHash P args' ↔
      ValueTree.Eqv (JsValue.plain (argsOrEmpty args)) (JsValue.plain (argsOrEmpty args')) := by
  rw [canonicalParamsHash_eq, canonicalParamsHash_eq, stableStringifyFallback_eq hnum,
    stableStringifyFallback_eq hnum, ← ValueTree.text_eq_iff (plainLexicon_faithful hnum)]
  constructor
  · intro h
    exact P.sha256Prefixed_injective hsha h
  · intro h
    rw [h]

/-- `1.5`. -/
def onePointFive : JsNumber := .finite ⟨.ofOdd 3 1 rfl, rfl⟩

/-- A string of one surrogate. -/
def loneSurrogate : JsString := [0xD800]

/-- `{"rate":1.5,"to":"\ud800"}`. -/
def rateFirst : List (JsString × JsValue) :=
  [(.ofString "rate", .num onePointFive), (.ofString "to", .str loneSurrogate)]

/-- The digests of the texts that are hashed here. -/
def sampleDigests : List (List Char × String) :=
  [(Text.chars "\x7b\"rate\":1.5,\"to\":\"\\ud800\"\x7d",
      "4f80cc32708f234b4616905524f36c25f858e4ad0702db44618e60f1bdb27490"),
    (Text.chars "\x7b\"a\":null\x7d",
      "d091f9c83c091f79652fe8786375b3fe4ce0861a56f5bfbafedbe431877ff0e8")]

/-- A platform with these digests. -/
def samplePlatform : AdapterPlatform where
  toIntrinsics := Intrinsics.ofTables sampleDigests [] []
  numberText := exactText

lemma samplePlatform_injective : Function.Injective samplePlatform.sha256Hex :=
  tableDigest_injective (by decide) (by decide)

/-- The value with the second zero read as zero and nothing else changed. -/
def unsigned (v : JsValue) : JsValue :=
  v.mapNum fun n => .num (if n = .negZero then .finite Binary64.zero else n)

end NoaMandate.Adapter
