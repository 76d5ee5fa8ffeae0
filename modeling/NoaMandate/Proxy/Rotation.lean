import NoaMandate.Kernel.Retirement
import NoaMandate.Lib.Table

/-!
# Rotating the proxy's signing key

The signer of `rotatable-signer.mjs` has a current key pair and, under their key ids, the public keys
that were rotated out with the instant of it.  The lifecycle it publishes lists them all, the current
one with a `retiredAt` of `null`, and `verifyChain` takes it as keyring.

A rotation refuses a key id that was in use before.  It does not look at the key, so a public key that
was rotated out is current again once it is given under a new key id (`rotated_key_returns`).  This is
the one way it can come back, and while it has not, no chain that only such keys have signed is `VALID`
(`rotated_out_iff`).
-/

namespace NoaMandate

namespace Proxy

open Pipeline Verify

/-- A signing identity of the proxy. -/
structure KeyPair where
  kid : String
  privateKey : String
  publicKey : String

/-- No member is missing; an empty one counts as missing. -/
def KeyPair.complete (p : KeyPair) : Bool := p.kid ≠ "" && p.privateKey ≠ "" && p.publicKey ≠ ""

/-- What the clock returns. -/
inductive ClockReading where
  | notFinite
  | fractional
  | millis (ms : Int)

def ClockReading.check : ClockReading → Except String Int
  | .notFinite => .error "rotate: clock `now()` must return finite epoch milliseconds"
  | .fractional => .error "rotate: clock `now()` must return integer epoch milliseconds"
  | .millis ms => .ok ms

/-- Writing and reading instants. -/
structure InstantPlatform where
  /-- `Date.prototype.toISOString`; `none` where it throws. -/
  toISOString : Int → Option String
  /-- Source: `outcome-receipt.mjs` `parseCanonicalInstant`. -/
  parseCanonicalInstant : String → Option Int

/-- The signer. A retired key id has its public key and the instant of its retirement. -/
structure RotatableSigner where
  current : KeyPair
  retired : Table String (String × String)

/-- Source: `rotatable-signer.mjs` `createRotatableSigner`. -/
def createRotatableSigner (initialKeyPair : KeyPair) : Except String RotatableSigner := do
  refuse (!initialKeyPair.complete) ("createRotatableSigner: `initialKeyPair` with " ++
    "\x7b kid, privateKey, publicKey \x7d is required")
  return ⟨initialKeyPair, .empty⟩

namespace RotatableSigner

/-- Source: `rotatable-signer.mjs` `rotate`. -/
def rotate (P : InstantPlatform) (s : RotatableSigner) (newKeyPair : KeyPair) (now : ClockReading) :
    Except String RotatableSigner := do
  refuse (!newKeyPair.complete)
    "rotate: `newKeyPair` with \x7b kid, privateKey, publicKey \x7d is required"
  refuse (newKeyPair.kid = s.current.kid) ("rotate: new kid \"" ++ newKeyPair.kid ++
    "\" is identical to the current kid — rotation must change the kid")
  refuse (s.retired.get? newKeyPair.kid).isSome ("rotate: kid \"" ++ newKeyPair.kid ++
    "\" was already retired — refusing to re-activate a retired signing identity")
  let nowMs ← now.check
  let retiredAt ← demand (P.toISOString nowMs) "Invalid time value"
  refuse (P.parseCanonicalInstant retiredAt ≠ some nowMs) ("rotate: clock/formatter produced an " ++
    "instant that does not represent `now()`; rotation was not recorded")
  return ⟨newKeyPair, s.retired.set s.current.kid (s.current.publicKey, retiredAt)⟩

/-- Rotations one after another, which all succeed. -/
def rotations (P : InstantPlatform) :
    RotatableSigner → List (KeyPair × ClockReading) → Except String RotatableSigner
  | s, [] => .ok s
  | s, (newKeyPair, now) :: steps => do rotations P (← s.rotate P newKeyPair now) steps

def entry (publicKey : String) (retiredAt : Json) : Json :=
  .obj [("publicKey", .str publicKey), ("retiredAt", retiredAt)]

/-- The keys of the lifecycle: the retired ones, then the current one is assigned. -/
def snapshotKeys (s : RotatableSigner) : List (String × Json) :=
  let keys := s.retired.entries.map fun e => (e.1, entry e.2.1 (.str e.2.2))
  let kid := s.current.kid
  let active := entry s.current.publicKey .null
  if (keys.lookup kid).isSome then Json.setMember keys kid active else keys ++ [(kid, active)]

def verificationLifecycle (s : RotatableSigner) : Json :=
  .obj [("spec", .str SIGNING_KEY_LIFECYCLE_SPEC), ("keys", .obj s.snapshotKeys)]

end RotatableSigner

/-- The signer that was made with `p` and rotated through `steps`. -/
def rotated (P : InstantPlatform) (p : KeyPair) (steps : List (KeyPair × ClockReading)) :
    Except String RotatableSigner := do
  (← createRotatableSigner p).rotations P steps

/-- The key pairs in the order of their use. -/
def keyPairs (p : KeyPair) (steps : List (KeyPair × ClockReading)) : List KeyPair :=
  p :: steps.map Prod.fst

/-- The public keys that were rotated out. -/
def rotatedOut (p : KeyPair) (steps : List (KeyPair × ClockReading)) : List String :=
  (keyPairs p steps).dropLast.map KeyPair.publicKey

/-- The lifecycle has an entry for the public key that is not retired. -/
def Active (lifecycle : Json) (pub : String) : Prop :=
  ∃ kid, lifecycle.strAt? ["keys", kid, "publicKey"] = some pub ∧
    lifecycle.path? ["keys", kid, "retiredAt"] = some .null

/-- The signatures of the receipts in a text verify under no other public keys. -/
def SignedOnlyBy (I : Intrinsics) (text : List Char) (pubs : List String) : Prop :=
  ∀ rs, parseDocument text "receipts" = .ok (.arr rs) → ∀ r ∈ rs, ∀ input pub,
    receiptHashInput r = some input →
    I.verifyEd25519 pub (I.signingMessage RECEIPT_SIG_DOMAIN input) (Receipt.sigValue r) = true →
    pub ∈ pubs

variable {P : InstantPlatform} {p : KeyPair} {steps : List (KeyPair × ClockReading)}
  {s s' : RotatableSigner}

lemma rotations_current (steps : List (KeyPair × ClockReading)) : ∀ {s : RotatableSigner},
    s.rotations P steps = .ok s' → (keyPairs s.current steps).getLast? = some s'.current := by
  induction steps with
  | nil =>
    intro s h
    cases h
    rfl
  | cons step steps ih =>
    intro s h
    simp only [RotatableSigner.rotations, bind_eq_ok_iff] at h
    obtain ⟨s1, hrotate, h⟩ := h
    simp only [RotatableSigner.rotate, ok_iff] at hrotate
    obtain ⟨_, -, _, -, _, -, _, -, _, -, _, -, rfl⟩ := hrotate
    rw [← ih h, keyPairs, List.map_cons, List.getLast?_cons_cons]
    rfl

/-- The last key pair is the current one. -/
lemma rotated_current (h : rotated P p steps = .ok s) :
    (keyPairs p steps).getLast? = some s.current := by
  simp only [rotated, createRotatableSigner, ok_iff] at h
  obtain ⟨_, ⟨_, -, rfl⟩, h⟩ := h
  exact rotations_current steps h

lemma lookup_snapshotKeys (s : RotatableSigner) (kid : String) : s.snapshotKeys.lookup kid =
    if kid = s.current.kid then some (RotatableSigner.entry s.current.publicKey .null)
    else (s.retired.get? kid).map fun e => RotatableSigner.entry e.1 (.str e.2) := by
  have hretired := Assoc.lookup_map s.retired.entries
    (fun _ e => RotatableSigner.entry e.1 (.str e.2)) kid
  rw [Table.get?, ← hretired]
  exact Assoc.lookup_put _ _ _ _

/-- What stands under a key id that is not the current one is retired. -/
lemma retiredIn_or {kid pub : String}
    (h : s.verificationLifecycle.strAt? ["keys", kid, "publicKey"] = some pub) :
    pub = s.current.publicKey ∧ kid = s.current.kid ∨ RetiredIn s.verificationLifecycle kid := by
  have hkeys : ∀ field, s.verificationLifecycle.strAt? ["keys", kid, field] =
      (s.snapshotKeys.lookup kid).bind fun entry => entry.getStr? field := strAt?_entry rfl
  rw [RetiredIn, hkeys]
  rw [hkeys] at h
  rw [lookup_snapshotKeys] at h ⊢
  split_ifs at h ⊢ with hkid
  · exact .inl ⟨(Option.some.inj h).symm, hkid⟩
  · obtain ⟨e, he, -⟩ := Option.bind_eq_some_iff.mp h
    obtain ⟨e, he', rfl⟩ := Option.map_eq_some_iff.mp he
    exact .inr ⟨e.2, by rw [he']; rfl⟩

lemma active_iff {pub : String} :
    Active s.verificationLifecycle pub ↔ pub = s.current.publicKey := by
  constructor
  · rintro ⟨kid, hpub, hnull⟩
    rcases retiredIn_or hpub with ⟨h, -⟩ | ⟨t, ht⟩
    · exact h
    · rw [Json.strAt?, hnull] at ht
      cases ht
  · rintro rfl
    have hself : s.snapshotKeys.lookup s.current.kid =
        some (RotatableSigner.entry s.current.publicKey .null) := by
      rw [lookup_snapshotKeys, if_pos rfl]
    refine ⟨s.current.kid, (strAt?_entry rfl _).trans (by rw [hself]; rfl), ?_⟩
    show (s.snapshotKeys.lookup s.current.kid).bind _ = some Json.null
    rw [hself]
    rfl

/-- A `VALID` chain under the lifecycle has a signature by the current key. -/
lemma current_signed {I : Intrinsics} {profile : VerifyProfile} {o : VerifyOptions}
    {texts : VerifyTexts} {k text : List Char} {pubs : List String}
    (hk : parseDocument k "keyring" = .ok s.verificationLifecycle)
    (hvalid : (verifyChain I profile o { texts with keyring := some k } text).status = .VALID)
    (honly : SignedOnlyBy I text pubs) : s.current.publicKey ∈ pubs := by
  obtain ⟨rs, v, hrs, hne, hv, hauthentic⟩ := verifyChain_authentic hk hvalid
  obtain ⟨r, hr⟩ := List.exists_mem_of_ne_nil rs hne
  obtain ⟨pub, input, hpub, hinput, hsig, hcurrent⟩ := hauthentic r hr
  have hlife : v.lifecycle = true := by
    obtain ⟨top, htop, ⟨h, -⟩ | ⟨keys, hkeys, -⟩⟩ := parseVerificationKeyring_cases hv
    · exact h
    · cases htop
      obtain ⟨t, ht⟩ := parseStaticKeys_str _ hkeys _ (.tail _ (.head _))
      cases ht
  rw [lookup_lifecycle hv hlife] at hpub
  rcases retiredIn_or hpub with ⟨rfl, -⟩ | hretired
  · exact honly rs hrs r hr input _ hinput hsig
  · exact absurd ((mem_retiredKids_iff (parseDocument_wellFormed hk).distinct hv hlife).mpr hretired)
      hcurrent

/-- After any rotations, no public key that was rotated out is active in the lifecycle exactly when
the last key pair has a public key that was not in use before.  Then no text of receipts that verify
under rotated out public keys only is `VALID` with the lifecycle as keyring. -/
theorem rotated_out_iff (P : InstantPlatform) (p : KeyPair) (steps : List (KeyPair × ClockReading))
    (s : RotatableSigner) (hrun : rotated P p steps = .ok s) :
    ((∀ pub ∈ rotatedOut p steps, ¬Active s.verificationLifecycle pub) ↔
      ∀ last, (keyPairs p steps).getLast? = some last → last.publicKey ∉ rotatedOut p steps) ∧
    ((∀ pub ∈ rotatedOut p steps, ¬Active s.verificationLifecycle pub) →
      ∀ (I : Intrinsics) (profile : VerifyProfile) (o : VerifyOptions) (texts : VerifyTexts)
        (k text : List Char), parseDocument k "keyring" = .ok s.verificationLifecycle →
        SignedOnlyBy I text (rotatedOut p steps) →
        (verifyChain I profile o { texts with keyring := some k } text).status ≠ .VALID) := by
  have hlast := rotated_current hrun
  simp only [active_iff, hlast, Option.some.injEq]
  refine ⟨⟨?_, ?_⟩, ?_⟩
  · rintro h _ rfl hmem
    exact h _ hmem rfl
  · rintro h _ hmem rfl
    exact h _ rfl hmem
  · intro h I profile o texts k text hk honly hvalid
    exact h _ (current_signed hk hvalid honly) rfl

namespace RotationSample

/-! ### A key that is rotated out, and given again -/

open SignedTwice RetiredSample

def instants : InstantPlatform where
  toISOString ms := if ms = 1769904000000 then some "2026-02-01T00:00:00.000Z" else none
  parseCanonicalInstant s := if s = "2026-02-01T00:00:00.000Z" then some 1769904000000 else none

def intrinsics : Intrinsics :=
  { SignedTwice.platform with
    dateParse := fun s => [("2026-02-01T00:00:00.000Z", 1769904000000)].lookup s }

def given (kid publicKey : String) : KeyPair × ClockReading :=
  (⟨kid, "private", publicKey⟩, .millis 1769904000000)

lemma signedOnlyBy_keyA {pubs : List String} (h : keyA ∈ pubs) : SignedOnlyBy intrinsics text pubs := by
  intro rs hrs r hr input pub _ hsig
  cases parse_text.symm.trans hrs
  have hvalue : ∀ r ∈ [genesis sigA0, second sigA1], Receipt.sigValue r ∈ [sigA0, sigA1] := by decide
  have hentry := List.contains_iff_mem.mp hsig
  obtain rfl : pub = keyA :=
    (show ∀ e ∈ _, e.2.2 ∈ [sigA0, sigA1] → e.1 = keyA by decide) _ hentry (hvalue r hr)
  exact h

/-- The answer for the chain with the lifecycle as keyring. -/
def verdictUnder (s : RotatableSigner) : VerifyStatus :=
  (verifyChain intrinsics .native {} { noTexts with keyring := some (Json.render s.verificationLifecycle) }
    text).status

end RotationSample

open RotationSample SignedTwice in
/-- A key that was rotated out once is not active, and what it signed is not `VALID`. -/
theorem rotated_out_iff_once : ∃ s, rotated instants (given "k" keyA).1 [given "k1" keyB] = .ok s ∧
    ¬Active s.verificationLifecycle keyA ∧ verdictUnder s ≠ .VALID := by
  refine ⟨_, rfl, ?_⟩
  obtain ⟨hiff, hchain⟩ := rotated_out_iff instants _ _ _
    (show rotated instants (given "k" keyA).1 [given "k1" keyB] = .ok _ from rfl)
  have hout := hiff.mpr fun last hlast => by
    cases hlast
    decide
  exact ⟨hout _ (.head _), hchain hout _ _ _ _ _ _ (by decide +kernel) (signedOnlyBy_keyA (.head _))⟩

open RotationSample SignedTwice in
/-- A key that was rotated out is active again under a new key id, and what it signed is `VALID`. -/
theorem rotated_key_returns : ∃ s,
    rotated instants (given "k0" keyA).1 [given "k1" keyB, given "k" keyA] = .ok s ∧
    keyA ∈ rotatedOut (given "k0" keyA).1 [given "k1" keyB, given "k" keyA] ∧
    Active s.verificationLifecycle keyA ∧
    SignedOnlyBy intrinsics RetiredSample.text
      (rotatedOut (given "k0" keyA).1 [given "k1" keyB, given "k" keyA]) ∧ verdictUnder s = .VALID :=
  ⟨_, rfl, .head _, active_iff.mpr rfl, signedOnlyBy_keyA (.head _), by decide +kernel⟩

end Proxy

end NoaMandate
