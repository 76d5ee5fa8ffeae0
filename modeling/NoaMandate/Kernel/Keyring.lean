import NoaMandate.Kernel.Schema
import NoaMandate.Lib.Pipeline

/-!
# Verification keyrings

`parseVerificationKeyring` reads the trust root a caller supplies: either a static map from key id
to public key, or a signing key lifecycle, in which every key carries an optional activation and
retirement instant.  A lifecycle keeps the public material of retired keys, so that a signature by
one can still be authenticated; which keys are retired is part of the result.

`publicKey_ne_empty` is the one fact the chain verifier needs: an
accepted keyring never holds an empty public key, so "no key" and "not in the keyring" are the
same test.
-/

namespace NoaMandate

open Pipeline

def SIGNING_KEY_LIFECYCLE_SPEC : String := "noa.signing-key-lifecycle/0.1"

/-- A parsed keyring. Source: `verification-keyring.ts` `ParsedVerificationKeyring`. -/
structure ParsedVerificationKeyring where
  keyring : List (String × String)
  retiredKids : List String
  validFromByKid : List (String × Option String)
  retiredAtByKid : List (String × Option String)
  lifecycle : Bool
  deriving DecidableEq

/-- `JSON.stringify` of a well-formed string. -/
def jsonStringify (s : String) : String := String.ofList (Json.stringText s)

variable (I : Intrinsics)

/-- An instant in nanoseconds; `none` when the text is not one. The platform's parser supplies the
milliseconds, the digits after them come from the text. -/
def lifecycleInstantNanos (value : String) : Option Int :=
  if !Scan.isRfc3339Instant value then none
  else
    (I.dateParse value).map fun ms =>
      ms * 1000000 + (Scan.fractionNanos (Json.units value) % 1000000 : Nat)

/-- A non-empty string. -/
def nonEmptyStr? : Option Json → Option String
  | some (.str s) => if s = "" then none else some s
  | _ => none

/-- The entries of a static keyring. -/
def parseStaticKeys (label : String) : List (String × Json) → Except String (List (String × String))
  | [] => .ok []
  | (kid, publicKey) :: rest => do
    let pub ← demand (nonEmptyStr? (some publicKey))
      (label ++ " public key for signing key " ++ jsonStringify kid ++ " must be a non-empty string")
    let keys ← parseStaticKeys label rest
    return (kid, pub) :: keys

/-- One key of a lifecycle. -/
structure LifecycleEntry where
  publicKey : String
  validFrom : Option String
  retiredAt : Option String

/-- `null`, or a text the lifecycle accepts as an instant. -/
def lifecycleInstant : Json → Option (Option String)
  | .null => some none
  | .str s => if (lifecycleInstantNanos I s).isSome then some (some s) else none
  | _ => none

/-- Does the interval end after it begins? Open ends always do. -/
def intervalOk : Option String → Option String → Bool
  | some a, some b =>
    match lifecycleInstantNanos I a, lifecycleInstantNanos I b with
    | some x, some y => x < y
    | _, _ => false
  | _, _ => true

/-- The members of an object. -/
def members? : Option Json → Option (List (String × Json))
  | some (.obj ms) => some ms
  | _ => none

/-- Read one lifecycle entry, with the source's refusals in the source's order. -/
def parseLifecycleEntry (kid : String) (entry : Json) : Except String LifecycleEntry := do
  let who := jsonStringify kid
  let ms ← demand (members? (some entry))
    ("lifecycle entry for signing key " ++ who ++ " must be an object")
  let fields := ms.map Prod.fst
  refuse ((fields.length ≠ 2 && fields.length ≠ 3) || !fields.contains "publicKey" ||
      !fields.contains "retiredAt" || (fields.length = 3 && !fields.contains "validFrom"))
    ("lifecycle entry for signing key " ++ who ++
      " must contain publicKey + retiredAt and only the optional validFrom")
  let publicKey ← demand (nonEmptyStr? (ms.lookup "publicKey"))
    ("lifecycle publicKey for signing key " ++ who ++ " must be a non-empty string")
  let validFrom ← demand
    (lifecycleInstant I (if fields.length = 3 then (ms.lookup "validFrom").getD .null else .null))
    ("lifecycle validFrom for signing key " ++ who ++
      " must be null or a parseable RFC 3339 instant")
  let retiredAt ← demand (lifecycleInstant I ((ms.lookup "retiredAt").getD .null))
    ("lifecycle retiredAt for signing key " ++ who ++
      " must be null or a parseable RFC 3339 instant")
  refuse (!intervalOk I validFrom retiredAt)
    ("lifecycle interval for signing key " ++ who ++ " must satisfy validFrom < retiredAt")
  return ⟨publicKey, validFrom, retiredAt⟩

/-- The entries of a lifecycle. -/
def parseLifecycleEntries (I : Intrinsics) :
    List (String × Json) → Except String (List (String × LifecycleEntry))
  | [] => .ok []
  | (kid, entry) :: rest => do
    let e ← parseLifecycleEntry I kid entry
    let es ← parseLifecycleEntries I rest
    return (kid, e) :: es

/-- Is the document meant as a lifecycle? -/
def looksLikeLifecycle (top : List (String × Json)) : Bool :=
  top.lookup "spec" = some (.str SIGNING_KEY_LIFECYCLE_SPEC) ||
    ((top.map Prod.fst).contains "keys" && !Schema.str (top.lookup "keys"))

/-- Read a signing key lifecycle. -/
def parseLifecycle (top : List (String × Json)) : Except String ParsedVerificationKeyring := do
  let topNames := top.map Prod.fst
  refuse (top.lookup "spec" ≠ some (.str SIGNING_KEY_LIFECYCLE_SPEC) || topNames.length ≠ 2 ||
    !topNames.contains "spec" || !topNames.contains "keys") "malformed signing key lifecycle"
  let entries ← demand (members? (top.lookup "keys")) "signing key lifecycle keys must be an object"
  refuse (entries.length = 0) "signing key lifecycle must contain at least one key"
  let es ← parseLifecycleEntries I entries
  return {
    keyring := es.map fun e => (e.1, e.2.publicKey)
    retiredKids := (es.filter fun e => e.2.retiredAt.isSome).map Prod.fst
    validFromByKid := es.map fun e => (e.1, e.2.validFrom)
    retiredAtByKid := es.map fun e => (e.1, e.2.retiredAt)
    lifecycle := true }

/-- Read a keyring document. Source: `verification-keyring.ts` `parseVerificationKeyring`. -/
def parseVerificationKeyring (label : String) (value : Json) :
    Except String ParsedVerificationKeyring := do
  let top ← demand (members? (some value))
    (label ++ " must be an object (static kid map or atomic signing key lifecycle)")
  if looksLikeLifecycle top then parseLifecycle I top
  else do
    let keyring ← parseStaticKeys label top
    return ⟨keyring, [], [], [], false⟩

/-! ## Accepted keyrings hold no empty public key -/

lemma members?_eq_some {v : Option Json} {ms : List (String × Json)} :
    members? v = some ms ↔ v = some (.obj ms) := by
  rcases v with _ | v
  · simp [members?]
  · cases v <;> simp [members?]

lemma nonEmptyStr?_eq_some_iff {v : Option Json} {s : String} :
    nonEmptyStr? v = some s ↔ v = some (.str s) ∧ s ≠ "" := by
  rcases v with _ | v
  · simp [nonEmptyStr?]
  · cases v with
    | str t =>
      simp only [nonEmptyStr?, Option.ite_none_left_eq_some, Option.some.injEq, Json.str.injEq]
      rw [and_comm]
      exact and_congr_right fun h => by rw [h]
    | _ => simp [nonEmptyStr?]

variable {label kid : String}

lemma parseStaticKeys_ne_empty (ms : List (String × Json)) :
    ∀ {keys}, parseStaticKeys label ms = .ok keys → ∀ e ∈ keys, e.2 ≠ "" := by
  induction ms with
  | nil =>
    intro keys h e he
    cases h
    cases he
  | cons m ms ih =>
    intro keys h e he
    simp only [parseStaticKeys, ok_iff] at h
    obtain ⟨pub, hpub, rest, hrest, rfl⟩ := h
    rcases List.mem_cons.mp he with rfl | he
    · exact (nonEmptyStr?_eq_some_iff.mp hpub).2
    · exact ih hrest e he

variable {I : Intrinsics}

lemma parseLifecycleEntry_ne_empty {entry : Json}
    {e : LifecycleEntry} (h : parseLifecycleEntry I kid entry = .ok e) : e.publicKey ≠ "" := by
  simp only [parseLifecycleEntry, ok_iff] at h
  obtain ⟨ms, -, -, -, pub, hpub, _, -, _, -, -, -, rfl⟩ := h
  exact (nonEmptyStr?_eq_some_iff.mp hpub).2

lemma parseLifecycleEntries_ne_empty (ms : List (String × Json)) :
    ∀ {es}, parseLifecycleEntries I ms = .ok es → ∀ e ∈ es, e.2.publicKey ≠ "" := by
  induction ms with
  | nil =>
    intro es h e he
    cases h
    cases he
  | cons m ms ih =>
    intro es h e he
    simp only [parseLifecycleEntries, ok_iff] at h
    obtain ⟨head, hhead, rest, hrest, rfl⟩ := h
    rcases List.mem_cons.mp he with rfl | he
    · exact parseLifecycleEntry_ne_empty hhead
    · exact ih hrest e he

lemma parseStaticKeys_str (top : List (String × Json)) :
    ∀ {keys}, parseStaticKeys label top = .ok keys → ∀ m ∈ top, ∃ s, m.2 = .str s := by
  induction top with
  | nil => intro keys _ m hm; cases hm
  | cons m0 top ih =>
    intro keys h m hm
    simp only [parseStaticKeys, ok_iff] at h
    obtain ⟨pub, hpub, rest, hrest, -⟩ := h
    rcases List.mem_cons.mp hm with rfl | hm
    · exact ⟨pub, Option.some.inj (nonEmptyStr?_eq_some_iff.mp hpub).1⟩
    · exact ih hrest m hm

variable {value : Json} {k : ParsedVerificationKeyring}

variable (h : parseVerificationKeyring I label value = .ok k)

include h in
/-- An accepted document is a lifecycle or a static key map. -/
lemma parseVerificationKeyring_cases :
    ∃ top, value = .obj top ∧ (k.lifecycle = true ∧ parseLifecycle I top = .ok k ∨
      ∃ keys, parseStaticKeys label top = .ok keys ∧ k = ⟨keys, [], [], [], false⟩) := by
  simp only [parseVerificationKeyring, ok_iff, members?_eq_some, Option.some.injEq] at h
  obtain ⟨top, rfl, h⟩ := h
  refine ⟨top, rfl, ?_⟩
  split_ifs at h
  · refine .inl ⟨?_, h⟩
    simp only [parseLifecycle, ok_iff] at h
    obtain ⟨-, -, _, -, -, -, _, -, rfl⟩ := h
    rfl
  · simp only [ok_iff] at h
    obtain ⟨keys, hkeys, rfl⟩ := h
    exact .inr ⟨keys, hkeys, rfl⟩

include h in
/-- Every public key of an accepted keyring is non-empty. -/
theorem publicKey_ne_empty :
    ∀ e ∈ k.keyring, e.2 ≠ "" := by
  obtain ⟨top, -, ⟨-, h⟩ | ⟨keys, hkeys, rfl⟩⟩ := parseVerificationKeyring_cases h
  · simp only [parseLifecycle, ok_iff] at h
    obtain ⟨-, -, entries, -, -, -, es, hes, rfl⟩ := h
    intro e he
    obtain ⟨e', he', rfl⟩ := List.mem_map.mp he
    exact parseLifecycleEntries_ne_empty entries hes e' he'
  · exact parseStaticKeys_ne_empty top hkeys

/-! ## The key a lifecycle names -/

lemma strAt?_entry {top entries : List (String × Json)} (h : top.lookup "keys" = some (.obj entries))
    (field : String) : (Json.obj top).strAt? ["keys", kid, field] =
      (entries.lookup kid).bind fun entry => entry.getStr? field := by
  simp only [Json.strAt?, Json.path?, Json.get?_obj, h, Option.bind_some, Option.bind_assoc]
  rfl

lemma parseLifecycleEntry_publicKey {entry : Json}
    {e : LifecycleEntry} (h : parseLifecycleEntry I kid entry = .ok e) :
    entry.getStr? "publicKey" = some e.publicKey := by
  simp only [parseLifecycleEntry, ok_iff, members?_eq_some, nonEmptyStr?_eq_some_iff] at h
  obtain ⟨ms, hms, -, -, pub, hpub, _, -, _, -, -, -, rfl⟩ := h
  cases hms
  exact Json.getStr?_eq_some.mpr hpub.1

lemma parseLifecycleEntries_lookup (ms : List (String × Json)) :
    ∀ {es}, parseLifecycleEntries I ms = .ok es →
      (es.map fun e => (e.1, e.2.publicKey)).lookup kid =
        (ms.lookup kid).bind fun entry => entry.getStr? "publicKey" := by
  induction ms with
  | nil =>
    intro es h
    cases h
    rfl
  | cons m ms ih =>
    intro es h
    simp only [parseLifecycleEntries, ok_iff] at h
    obtain ⟨head, hhead, rest, hrest, rfl⟩ := h
    rw [List.map_cons, List.lookup_cons, List.lookup_cons]
    cases kid == m.1 with
    | true => exact (parseLifecycleEntry_publicKey hhead).symm
    | false => exact ih hrest

include h in
/-- The keys of a parsed lifecycle are those of the document. -/
lemma lookup_lifecycle (hlife : k.lifecycle = true) :
    k.keyring.lookup kid = value.strAt? ["keys", kid, "publicKey"] := by
  obtain ⟨top, rfl, ⟨-, h⟩ | ⟨keys, -, rfl⟩⟩ := parseVerificationKeyring_cases h
  · simp only [parseLifecycle, ok_iff, members?_eq_some] at h
    obtain ⟨-, -, entries, hkeys, -, -, es, hes, rfl⟩ := h
    rw [strAt?_entry hkeys]
    exact parseLifecycleEntries_lookup entries hes
  · cases hlife

include h in
/-- The public key a lifecycle document holds for a key id is the one the parsed keyring holds. A
static key map has no such member. -/
theorem parseVerificationKeyring_lookup {pub : String}
    (hpub : value.strAt? ["keys", kid, "publicKey"] = some pub) :
    k.keyring.lookup kid = some pub := by
  rw [← hpub]
  obtain ⟨top, rfl, ⟨hlife, -⟩ | ⟨keys, hkeys, rfl⟩⟩ := parseVerificationKeyring_cases h
  · exact lookup_lifecycle h hlife
  · simp only [Json.strAt?, Json.path?, Option.bind_eq_some_iff] at hpub
    obtain ⟨_, ⟨w, hw, entry, hentry, -⟩, -⟩ := hpub
    obtain ⟨s, hs⟩ := parseStaticKeys_str top hkeys _ (Assoc.mem_of_lookup hw)
    cases hs
    cases hentry

/-! ## Resolving one key -/

/-- The public key of a current key id. A retired one never resolves: its signature is authenticated
first, so that a forgery that names it is reported as one.
Source: `verification-keyring.ts` `resolveVerificationKey`. -/
def resolveVerificationKey (I : Intrinsics) (document : Json) (kid message signature : String) :
    Except String String := do
  let parsed ← parseVerificationKeyring I "keyring" document
  let publicKey := parsed.keyring.lookup kid
  if kid ∈ parsed.retiredKids then do
    refuse (!I.verifyEd25519 (publicKey.getD "") message signature)
      ("invalid signature (kid " ++ jsonStringify kid ++ ")")
    .error ("signing key " ++ jsonStringify kid ++
      " is retired; signer-chosen artifact time is not an independent witness")
  else
    demand (publicKey.filter (· ≠ "")) ("signing key " ++ jsonStringify kid ++ " not in keyring")

/-- A key that resolves is in the keyring and not retired. -/
theorem resolveVerificationKey_eq_ok {document : Json} {message signature pub : String}
    (h : resolveVerificationKey I document kid message signature = .ok pub) :
    ∃ parsed, parseVerificationKeyring I "keyring" document = .ok parsed ∧
      parsed.keyring.lookup kid = some pub ∧ kid ∉ parsed.retiredKids := by
  simp only [resolveVerificationKey, bind_eq_ok_iff] at h
  obtain ⟨parsed, hparsed, h⟩ := h
  split at h
  · simp [bind_eq_ok_iff] at h
  · next hcurrent =>
    rw [demand_eq_ok_iff, Option.filter_eq_some_iff] at h
    exact ⟨parsed, hparsed, h.1, hcurrent⟩

end NoaMandate
