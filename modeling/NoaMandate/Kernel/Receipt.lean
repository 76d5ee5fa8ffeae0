import NoaMandate.Kernel.Keyring

/-!
# Reading and hashing a receipt

The fields the verifier reads off a receipt whose shape has been checked, and the text it hashes:
the canonical form of the receipt without `chain.hash` and `sig.value` (`canonicalize.ts`).

The accessors are total, with a default that a shape-checked receipt never shows; the
`ReceiptShape.*` lemmas say what each one reads.
-/

namespace NoaMandate

/-- The nesting limit shared by the parser and the canonical form. -/
def MAX_DEPTH : Nat := 64

/-- RFC 8785 text; `none` is the source's `JcsError`. Source: `jcs.ts` `canonicalize`. -/
def canonicalize (v : Json) : Option (List Char) := Json.canonicalText MAX_DEPTH v

namespace Receipt

def id (r : Json) : String := r.strAt ["id"]

def ts (r : Json) : String := r.strAt ["ts"]

def chainId (r : Json) : String := r.strAt ["scope", "chain"]

/-- `scope.tenant`; an absent tenant is `none`. -/
def tenant (r : Json) : Option String := r.strAt? ["scope", "tenant"]

def agentId (r : Json) : String := r.strAt ["agent", "id"]

def seq (r : Json) : Int := r.numAt ["chain", "seq"]

/-- `chain.prevHash`; `null` is `none`. -/
def prevHash (r : Json) : Option String := r.strAt? ["chain", "prevHash"]

def hash (r : Json) : String := r.strAt ["chain", "hash"]

def kid (r : Json) : String := r.strAt ["sig", "kid"]

def sigValue (r : Json) : String := r.strAt ["sig", "value"]

/-- The value that is hashed: everything but `chain.hash` and `sig.value`. `none` when `chain` or
`sig` is not an object, where the source throws. -/
def preimage (r : Json) : Option Json :=
  match r with
  | .obj ms =>
    match ms.lookup "chain", ms.lookup "sig" with
    | some (.obj chain), some (.obj sig) =>
      some (.obj (Json.setMember (Json.setMember ms "chain" (.obj (Json.eraseMember chain "hash")))
        "sig" (.obj (Json.eraseMember sig "value"))))
    | _, _ => none
  | _ => none

end Receipt

/-- The text a receipt's hash and signature cover. Source: `canonicalize.ts` `receiptHashInput`. -/
def receiptHashInput (r : Json) : Option (List Char) := (Receipt.preimage r).bind canonicalize

/-- A checkpoint is hashed without `sig.value`. Source: `canonicalize.ts` `checkpointHashInput`. -/
def checkpointHashInput (cp : Json) : Option (List Char) :=
  match cp with
  | .obj ms =>
    match ms.lookup "sig" with
    | some (.obj sig) =>
      canonicalize (.obj (Json.setMember ms "sig" (.obj (Json.eraseMember sig "value"))))
    | _ => none
  | _ => none

/-- The recomputed `chain.hash`. -/
def recomputedHash (I : Intrinsics) (r : Json) : Option String :=
  (receiptHashInput r).map I.sha256Prefixed

/-! ## What the accessors read on a checked receipt -/

section accessors

variable {r : Json} (h : Schema.ReceiptShape r)

include h

lemma Schema.ReceiptShape.exists_seq : ∃ n : Nat, Receipt.seq r = n := by
  obtain ⟨ms, hms, hshape⟩ := h.chain
  obtain ⟨n, hn, -⟩ := hshape.seq
  refine ⟨n, ?_⟩
  simp [Receipt.seq, Json.numAt, Json.path?, hms, hn]

lemma Schema.ReceiptShape.hash_eq : ∃ ms, r.get? "chain" = some (.obj ms) ∧
    ms.lookup "hash" = some (.str (Receipt.hash r)) := by
  obtain ⟨ms, hms, hshape⟩ := h.chain
  obtain ⟨s, hs, -⟩ := hshape.hash
  refine ⟨ms, hms, ?_⟩
  rw [Json.get?_obj] at hs
  simp [Receipt.hash, Json.strAt, Json.strAt?, Json.path?, hms, hs, Json.asStr?]

end accessors

end NoaMandate
