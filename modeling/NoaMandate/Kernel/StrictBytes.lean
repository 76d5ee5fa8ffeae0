import NoaMandate.Kernel.Entry
import NoaMandate.Kernel.SafeJsonRoundTrip

/-!
# The strict-bytes profile

`verifyChain` on the bytes of a file.  The native profile decodes and parses them.  The strict profile
also compares: the bytes must be the UTF-8 encoding of the canonical text of what they parse to, and
only then are the receipts looked at, by the same verifier.

The source compares the decoded text with the canonical text.  That this compares the bytes is a fact
about the decoder, which refuses what is not UTF-8 and drops nothing: it is the inverse of encoding.
`Utf8Codec` carries that law, and nothing else is assumed of the two functions.
-/

namespace NoaMandate

open Pipeline

/-- A decoder that is the inverse of an encoder. -/
structure Utf8Codec where
  encode : List Char → List UInt8
  decode : List UInt8 → Option (List Char)
  decode_eq_some_iff : ∀ {bytes text}, decode bytes = some text ↔ encode text = bytes

/-- UTF-8. -/
def Utf8Codec.utf8 : Utf8Codec where
  encode text := (String.ofList text).toByteArray.data.toList
  decode bytes := (String.fromUTF8? ⟨bytes.toArray⟩).map String.toList
  decode_eq_some_iff := by
    intro bytes text
    have hbytes : ∀ s : String, s.toByteArray.data.toList = bytes ↔ s.toByteArray = ⟨bytes.toArray⟩ := by
      intro s
      rw [ByteArray.ext_iff, ← Array.toList_inj]
    unfold String.fromUTF8?
    by_cases hvalid : ByteArray.IsValidUTF8 ⟨bytes.toArray⟩
    · rw [dif_pos hvalid, Option.map_some, Option.some.injEq, hbytes]
      constructor
      · rintro rfl
        rw [String.ofList_toList]
        rfl
      · intro h
        have hs : String.ofList text = String.fromUTF8 ⟨bytes.toArray⟩ hvalid :=
          String.toByteArray_inj.mp h
        rw [← hs, String.toList_ofList]
    · rw [dif_neg hvalid, hbytes]
      simp only [Option.map_none, reduceCtorEq, false_iff]
      intro h
      exact hvalid (h ▸ (String.ofList text).isValidUTF8)

/-- Decode the bytes of a document. Source: `bytes.ts` `decodeDocument`. -/
def decodeDocument (U : Utf8Codec) (bytes : List UInt8) (what : String) :
    Except String (List Char) := do
  refuse (MAX_INPUT_BYTES < bytes.length)
    (what ++ ": input exceeds the " ++ toString MAX_INPUT_BYTES ++ "-byte ceiling")
  demand (U.decode bytes) (what ++ ": input is not valid UTF-8")

/-- Source: `bytes.ts` `parseDecodedText`. -/
def parseDecodedText (text : List Char) (what : String) : Except String Json :=
  match SafeJson.safeParse 64 MAX_INPUT_BYTES (SafeJson.toUnits text) with
  | .ok v => .ok v
  | .error (problem, pos) =>
    .error (what ++ ": " ++ problem.message ++ " (at position " ++ toString pos ++ ")")

/-- Source: `bytes.ts` `parseDocumentBytes`. -/
def parseDocumentBytes (U : Utf8Codec) (bytes : List UInt8) (what : String) :
    Except String (Json × List Char) := do
  let text ← decodeDocument U bytes what
  let value ← parseDecodedText text what
  return (value, text)

/-- The admitted options: what the caller's options are read as, or why they are refused. -/
abbrev AdmittedOptions := Except String (VerifyOptions × VerifyTexts)

namespace Verify

/-- Reading the receipts of a file; the strict profile compares before anything else.
Source: `verify.ts` `verifyChain` and `verifyStrictBytesChain`. -/
def readReceiptBytes (U : Utf8Codec) (profile : VerifyProfile) (bytes : List UInt8) :
    Except VerifyResult Json := do
  let (receipts, text) ← (parseDocumentBytes U bytes "receipts").mapError
    fun reason => fail .MALFORMED reason none 0
  match profile with
  | .native => return receipts
  | .strictBytes =>
    checkBytes text receipts
    return receipts

end Verify

/-- Verify a file of receipts. Source: `verify.ts` `verifyChain`, on a `Uint8Array`. -/
def verifyChainBytes (I : Intrinsics) (U : Utf8Codec) (profile : VerifyProfile)
    (admitted : AdmittedOptions) (bytes : List UInt8) : VerifyResult :=
  match admitted with
  | .error reason => fail .MALFORMED reason none 0
  | .ok (o, texts) =>
    match (do Verify.textStages I o texts (← Verify.readReceiptBytes U profile bytes)) with
    | .ok r => r
    | .error r => r

/-! ## Reading -/

namespace Verify

variable {U : Utf8Codec} {bytes : List UInt8} {v : Json}

/-- The file is read as the value. -/
def ReadAs (U : Utf8Codec) (bytes : List UInt8) (text : List Char) (v : Json) : Prop :=
  decodeDocument U bytes "receipts" = .ok text ∧ parseDecodedText text "receipts" = .ok v

lemma readReceiptBytes_native_iff :
    readReceiptBytes U .native bytes = .ok v ↔ ∃ text, ReadAs U bytes text v := by
  simp only [readReceiptBytes, parseDocumentBytes, ReadAs, ok_iff]
  constructor
  · rintro ⟨⟨v', text⟩, ⟨_, htext, _, hv, heq⟩, rfl⟩
    obtain ⟨rfl, rfl⟩ := Prod.mk.inj heq
    exact ⟨_, htext, hv⟩
  · rintro ⟨text, htext, hv⟩
    exact ⟨(v, text), ⟨text, htext, v, hv, rfl⟩, rfl⟩

lemma checkBytes_eq_ok_iff {text : List Char} {u : Unit} :
    checkBytes text v = .ok u ↔ canonicalize v = some text := by
  simp only [checkBytes, ok_iff, test_iff]
  constructor
  · rintro ⟨t, ht, rfl⟩
    exact ht
  · intro ht
    exact ⟨text, ht, rfl⟩

lemma readReceiptBytes_strict_eq : readReceiptBytes U .strictBytes bytes = .ok v ↔
      ∃ text, ReadAs U bytes text v ∧ canonicalize v = some text := by
  simp only [readReceiptBytes, parseDocumentBytes, ReadAs, ok_iff, checkBytes_eq_ok_iff]
  constructor
  · rintro ⟨⟨v', text⟩, ⟨_, htext, _, hv, heq⟩, _, hcanonical, rfl⟩
    obtain ⟨rfl, rfl⟩ := Prod.mk.inj heq
    exact ⟨_, ⟨htext, hv⟩, hcanonical⟩
  · rintro ⟨text, ⟨htext, hv⟩, hcanonical⟩
    exact ⟨(v, text), ⟨text, htext, v, hv, rfl⟩, (), hcanonical, rfl⟩

lemma ReadAs.encode {text : List Char} (h : ReadAs U bytes text v) : U.encode text = bytes := by
  obtain ⟨htext, -⟩ := h
  simp only [decodeDocument, ok_iff] at htext
  obtain ⟨_, -, hdecode⟩ := htext
  exact U.decode_eq_some_iff.mp hdecode

/-- Encoding is injective: the decoder takes every encoding back. -/
lemma encode_injective : Function.Injective U.encode := by
  intro text text' h
  have hdecode := U.decode_eq_some_iff.mpr h
  rw [U.decode_eq_some_iff.mpr rfl] at hdecode
  exact (Option.some.inj hdecode).symm

/-- The bytes pass the strict gate exactly if they are the encoding of the canonical text. -/
lemma readReceiptBytes_strict_iff : readReceiptBytes U .strictBytes bytes = .ok v ↔
      ∃ text t, ReadAs U bytes text v ∧ canonicalize v = some t ∧ U.encode t = bytes := by
  rw [readReceiptBytes_strict_eq]
  constructor
  · rintro ⟨text, hread, hcanonical⟩
    exact ⟨text, text, hread, hcanonical, hread.encode⟩
  · rintro ⟨text, t, hread, hcanonical, hbytes⟩
    obtain rfl := encode_injective (hbytes.trans hread.encode.symm)
    exact ⟨t, hread, hcanonical⟩

lemma malformed_readReceiptBytes (profile : VerifyProfile) :
    ErrorsIn (fun r => r.status = .MALFORMED) (readReceiptBytes U profile bytes) := by
  refine .bind (.mapError fun _ => rfl) fun p => ?_
  cases profile with
  | native => exact .ok
  | strictBytes => exact .bind (.bind (.demand rfl) fun _ => .refuse rfl) fun _ => .ok

end Verify

/-- A file that passes the strict gate is verified natively. -/
lemma verifyChainBytes_of_strict (I : Intrinsics) {U : Utf8Codec} (admitted : AdmittedOptions)
    {bytes : List UInt8} {v : Json} (h : Verify.readReceiptBytes U .strictBytes bytes = .ok v) :
    verifyChainBytes I U .strictBytes admitted bytes =
      verifyChainBytes I U .native admitted bytes := by
  obtain ⟨text, hread, -⟩ := Verify.readReceiptBytes_strict_eq.mp h
  have hnative := Verify.readReceiptBytes_native_iff.mpr ⟨text, hread⟩
  simp only [verifyChainBytes, h, hnative]

/-- A file that does not is malformed. -/
lemma verifyChainBytes_of_not_strict (I : Intrinsics) {U : Utf8Codec} (admitted : AdmittedOptions)
    {bytes : List UInt8} (h : ∀ v, Verify.readReceiptBytes U .strictBytes bytes ≠ .ok v) :
    (verifyChainBytes I U .strictBytes admitted bytes).status = .MALFORMED := by
  cases admitted with
  | error reason => rfl
  | ok admitted =>
    cases hread : Verify.readReceiptBytes U .strictBytes bytes with
    | ok v => exact absurd hread (h v)
    | error r =>
      simp only [verifyChainBytes, hread]
      exact Verify.malformed_readReceiptBytes _ r hread

open Verify in
/-- The strict-bytes profile refines the native one.

For every file and options the strict answer is the native one or `MALFORMED`.  The bytes pass the
gate exactly if they decode within the byte ceiling, parse, and are the UTF-8 encoding of the canonical
text of what they parse to; then the two answers are equal.  So two files that the strict profile
answers `VALID` and that hold the same receipts are the same bytes. -/
theorem strictBytes_refines_native (I : Intrinsics) (U : Utf8Codec) (admitted : AdmittedOptions)
    (bytes : List UInt8) : (verifyChainBytes I U .strictBytes admitted bytes =
        verifyChainBytes I U .native admitted bytes ∨
      (verifyChainBytes I U .strictBytes admitted bytes).status = .MALFORMED) ∧
    (∀ v, readReceiptBytes U .strictBytes bytes = .ok v ↔
      ∃ text t, ReadAs U bytes text v ∧ canonicalize v = some t ∧ U.encode t = bytes) ∧
    (∀ v, readReceiptBytes U .strictBytes bytes = .ok v →
      verifyChainBytes I U .strictBytes admitted bytes =
        verifyChainBytes I U .native admitted bytes) ∧
    ∀ admitted' bytes' text text' v v', ReadAs U bytes text v → ReadAs U bytes' text' v' →
      Json.Eqv v v' →
      (verifyChainBytes I U .strictBytes admitted bytes).status = .VALID →
      (verifyChainBytes I U .strictBytes admitted' bytes').status = .VALID → bytes = bytes' := by
  -- a `VALID` file passes the gate, with the value it is read as
  have hgate : ∀ {admitted bytes text v}, ReadAs U bytes text v →
      (verifyChainBytes I U .strictBytes admitted bytes).status = .VALID →
      ∃ t, canonicalize v = some t ∧ U.encode t = bytes := by
    intro admitted bytes text v hread hvalid
    by_contra hnot
    have hmalformed : (verifyChainBytes I U .strictBytes admitted bytes).status = .MALFORMED := by
      refine verifyChainBytes_of_not_strict I admitted fun v' hv' => ?_
      obtain ⟨text', t, hread', ht, hbytes⟩ := readReceiptBytes_strict_iff.mp hv'
      obtain rfl : text' = text := encode_injective (hread'.encode.trans hread.encode.symm)
      obtain rfl : v' = v := ok_unique hread'.2 hread.2
      exact hnot ⟨t, ht, hbytes⟩
    rw [hvalid] at hmalformed
    cases hmalformed
  refine ⟨?_, fun v => readReceiptBytes_strict_iff, fun v h => verifyChainBytes_of_strict I admitted h,
    fun admitted' bytes' text text' v v' hread hread' heqv hvalid hvalid' => ?_⟩
  · cases hread : readReceiptBytes U .strictBytes bytes with
    | ok v => exact .inl (verifyChainBytes_of_strict I admitted hread)
    | error r =>
      exact .inr (verifyChainBytes_of_not_strict I admitted fun v hv => by
        rw [hread] at hv
        cases hv)
  · obtain ⟨t, ht, rfl⟩ := hgate hread hvalid
    obtain ⟨t', ht', rfl⟩ := hgate hread' hvalid'
    rw [Json.canonicalText_eq_of_eqv heqv ht ht']

namespace Verify.SampleFile

/-- The file `[]`. -/
def bytes : List UInt8 := Utf8Codec.utf8.encode ['[', ']']

def intrinsics : Intrinsics := .ofTables [] [] []

def options : AdmittedOptions := .ok ({}, ⟨none, none, none⟩)

end Verify.SampleFile

open Verify SampleFile in
/-- The file passes the gate, and its answer is the native one. -/
theorem strictBytes_refines_native_empty :
    readReceiptBytes .utf8 .strictBytes bytes = .ok (.arr []) ∧
    verifyChainBytes intrinsics .utf8 .strictBytes options bytes =
      verifyChainBytes intrinsics .utf8 .native options bytes := by
  have hdecode : decodeDocument .utf8 bytes "receipts" = .ok ['[', ']'] := by
    rw [decodeDocument, bytes, Utf8Codec.utf8.decode_eq_some_iff.mpr rfl]
    rfl
  have hread : ReadAs .utf8 bytes ['[', ']'] (.arr []) := ⟨hdecode, by decide +kernel⟩
  obtain ⟨-, hgate, hsame, -⟩ := strictBytes_refines_native intrinsics .utf8 options bytes
  have hpass := (hgate (.arr [])).mpr ⟨_, ['[', ']'], hread, by decide, rfl⟩
  exact ⟨hpass, hsame _ hpass⟩

end NoaMandate
