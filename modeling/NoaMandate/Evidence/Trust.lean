import NoaMandate.Evidence.Bundle

/-!
# The keyrings of the evidence verifier

A model of `trust.ts`.  The only keys trusted from outside are the tenant root and the checkpoint
keyring.  The root signs a delegation, the delegated key signs the manifest, and the manifest lists
the keys every other document is signed with.  From these the verifier derives two keyrings: the
artifact keyring, which side artifacts are verified under, and the receipt keyring, a signing key
lifecycle which the chain verifier reads.

Both are built before the manifest's own signature is checked, so a member of the wrong type may be
met on the way.  The manifest's schema, which is evaluated before any of its keys is used, refuses
such a manifest.

When a key id is listed twice the last entry counts, in both keyrings (`lookup_putKeys`);
`lookup_filterMap` is what relates the two.
-/

namespace NoaMandate

open Pipeline
open SchemaEval (shown)

namespace Evidence

/-! ## Reading documents -/

/-- Source: `steps.ts` `asObj`. -/
def asObj (v : Option Json) : Option Json := v.filter Json.isObj

/-- Source: `steps.ts` `asStr`. -/
def asStr (v : Option Json) : Option String := v.bind Json.asStr?

/-- The elements of a list; nothing when the value is no list. -/
def elements : Option Json → List Json
  | some (.arr xs) => xs
  | _ => []

/-- `v ?? null`, read as a text. -/
def nullable : Option Json → Option String
  | none => none
  | some .null => none
  | some v => some (shown (some v))

lemma asObj_eq_some {v : Option Json} {w : Json} :
    asObj v = some w ↔ v = some w ∧ w.isObj = true := by
  simp [asObj, Option.filter_eq_some_iff]

lemma asStr_eq_some {v : Option Json} {s : String} : asStr v = some s ↔ v = some (.str s) := by
  rcases v with _ | v
  · simp [asStr]
  · cases v <;> simp [asStr, Json.asStr?]

/-! ## Maps from key ids -/

/-- Assign to a key id. -/
def putKey {α : Type} (m : List (String × α)) (kid : String) (v : α) : List (String × α) :=
  if (m.lookup kid).isSome then Json.setMember m kid v else m ++ [(kid, v)]

def putKeys {α : Type} (m : List (String × α)) (es : List (String × α)) : List (String × α) :=
  es.foldl (fun m e => putKey m e.1 e.2) m

section maps

variable {α β γ : Type}

lemma lookup_putKey (m : List (String × α)) (kid other : String) (v : α) :
    (putKey m kid v).lookup other = if other = kid then some v else m.lookup other :=
  Assoc.lookup_put m kid other v

/-- The last assignment to a key id counts. -/
lemma lookup_putKeys (es : List (String × α)) : ∀ (m : List (String × α)) (kid : String),
    (putKeys m es).lookup kid = (es.reverse.lookup kid).or (m.lookup kid) := by
  induction es with
  | nil => intro m kid; simp [putKeys]
  | cons e es ih =>
    obtain ⟨k, v⟩ := e
    intro m kid
    have hstep : putKeys m ((k, v) :: es) = putKeys (putKey m k v) es := rfl
    rw [hstep, ih, lookup_putKey, List.reverse_cons, List.lookup_append]
    cases es.reverse.lookup kid with
    | some w => simp
    | none =>
      by_cases hk : kid = k
      · simp [hk]
      · have hb : (kid == k) = false := by simpa using hk
        simp [hk, List.lookup_cons, hb]

/-- Two readings `f` and `g` of one list, where whatever `g` reads `f` reads under the same key: the
entry that `f` finds under a key is the one that `g` finds, if `g` reads it at all. -/
lemma lookup_filterMap {f : γ → Option (String × α)} {g : γ → Option (String × β)}
    (hsub : ∀ x kid b, g x = some (kid, b) → ∃ a, f x = some (kid, a)) {kid : String} {a : α} :
    ∀ xs : List γ, (xs.filterMap f).lookup kid = some a → ∃ x ∈ xs, f x = some (kid, a) ∧
      ∀ b, g x = some (kid, b) → (xs.filterMap g).lookup kid = some b := by
  intro xs
  induction xs with
  | nil => intro h; cases h
  | cons x xs ih =>
    intro h
    cases hf : f x with
    | none =>
      rw [List.filterMap_cons_none hf] at h
      obtain ⟨y, hy, hfy, hgy⟩ := ih h
      refine ⟨y, .tail _ hy, hfy, fun b hb => ?_⟩
      have hg : g x = none := by
        cases hg : g x with
        | none => rfl
        | some p =>
          obtain ⟨k, b'⟩ := p
          obtain ⟨a', ha'⟩ := hsub x k b' hg
          rw [hf] at ha'
          cases ha'
      rw [List.filterMap_cons_none hg]
      exact hgy b hb
    | some p =>
      obtain ⟨k, a'⟩ := p
      rw [List.filterMap_cons_some hf, List.lookup_cons] at h
      by_cases hk : kid = k
      · subst hk
        obtain rfl : a' = a := by simpa using h
        refine ⟨x, .head _, hf, fun b hb => ?_⟩
        rw [List.filterMap_cons_some hb]
        simp
      · have hb : (kid == k) = false := by simpa using hk
        rw [hb] at h
        obtain ⟨y, hy, hfy, hgy⟩ := ih h
        refine ⟨y, .tail _ hy, hfy, fun b hgb => ?_⟩
        cases hg : g x with
        | none =>
          rw [List.filterMap_cons_none hg]
          exact hgy b hgb
        | some q =>
          obtain ⟨k', b'⟩ := q
          obtain ⟨a'', ha''⟩ := hsub x k' b' hg
          rw [hf] at ha''
          obtain rfl : k = k' := (Prod.mk.inj (Option.some.inj ha'')).1
          rw [List.filterMap_cons_some hg, List.lookup_cons, hb]
          exact hgy b hgb

end maps

/-! ## The external root -/

/-- One entry of the tenant root: a bare public key, or a full entry of type `ROOT`. -/
def rootEntry (m : String × Json) : Option (String × KeyEntry) :=
  match m.2 with
  | .str publicKey => some (m.1, ⟨publicKey, .ROOT, [], none, none⟩)
  | .obj e =>
    if (Json.obj e).getStr? "type" = some "ROOT" then
      ((Json.obj e).getStr? "publicKey").map fun publicKey =>
        (m.1, ⟨publicKey, .ROOT, (elements (e.lookup "roles")).filterMap Json.asStr?,
          nullable (e.lookup "validFrom"), nullable (e.lookup "revokedAt")⟩)
    else none
  | _ => none

/-- The root keys; a document that cannot be read has none. Source: `trust.ts`
`asRootKeyEntryMap`. -/
def asRootKeyEntryMap (text : List Char) : List (String × KeyEntry) :=
  match parseDocument text "tenant root" with
  | .ok (.obj ms) => ms.filterMap rootEntry
  | _ => []

/-! ## The keyrings a manifest gives -/

/-- What the verifier keeps of an accepted delegation. -/
structure DelegationDoc where
  delegatedKid : String
  delegatedPublicKey : String
  permissions : List String
  validFrom : String
  expiresAt : String

def signerTypeOf? (s : String) : Option SignerType :=
  [SignerType.GATE, .APPROVER, .AUDIT, .ROOT, .DELEGATED].find? fun t => t.text = s

/-- The kid of a manifest key, as the name of a member. -/
def kidOf (k : Json) : String := shown (k.get? "kid")

/-- A manifest key as an entry of the artifact keyring. A key without a public key signs nothing. -/
def manifestKeyEntry (k : Json) : Option (String × KeyEntry) := do
  let publicKey ← k.getStr? "publicKey"
  let type ← (k.getStr? "type").bind signerTypeOf?
  return (kidOf k, ⟨publicKey, type, (elements (k.get? "roles")).filterMap Json.asStr?,
    nullable (k.get? "validFrom"), nullable (k.get? "revokedAt")⟩)

/-- The keyring side artifacts are verified under. Source: `trust.ts` `buildResolvedKeyring`. -/
def buildResolvedKeyring (root : List (String × KeyEntry)) (delegation : DelegationDoc)
    (manifestKeys : List Json) : List (String × KeyEntry) :=
  putKeys
    (putKey root delegation.delegatedKid
      ⟨delegation.delegatedPublicKey, .DELEGATED, delegation.permissions,
        some delegation.validFrom, none⟩)
    (manifestKeys.filterMap manifestKeyEntry)

/-- `v ?? null` as a value. -/
def orNull (v : Option Json) : Json := v.getD .null

/-- A manifest key as an entry of the receipt keyring: gates and approvers sign receipts. -/
def receiptKeyEntry (k : Json) : Option (String × Json) := do
  let type ← (k.getStr? "type").bind signerTypeOf?
  if type = .GATE ∨ type = .APPROVER then
    let publicKey ← k.getStr? "publicKey"
    return (kidOf k, .obj ([("publicKey", .str publicKey), ("retiredAt", orNull (k.get? "revokedAt"))] ++
      (k.get? "validFrom").toList.map fun v => ("validFrom", v)))
  else none

/-- The entries of the receipt keyring. -/
def receiptKeys (manifestKeys : List Json) : List (String × Json) :=
  putKeys [] (manifestKeys.filterMap receiptKeyEntry)

/-- The lifecycle receipts are verified under. Source: `trust.ts` `buildReceiptKeyring`. -/
def buildReceiptKeyring (manifestKeys : List Json) : Json :=
  .obj [("spec", .str SIGNING_KEY_LIFECYCLE_SPEC), ("keys", .obj (receiptKeys manifestKeys))]

/-- The public keys of the artifact keyring. Source: `trust.ts` `signingKeyMap`. -/
def signingKeyMap (resolved : List (String × KeyEntry)) : Json :=
  .obj (resolved.map fun e => (e.1, .str e.2.publicKey))

end Evidence

end NoaMandate
