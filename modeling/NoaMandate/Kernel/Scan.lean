import NoaMandate.Lib.Canonical

/-!
# Primitives and format scanners of the receipt kernel

`Intrinsics` collects what the kernel takes from its platform: SHA-256, Ed25519 verification, the
date parser and Unicode normalisation.  Everything below is parametric in it; no property of these
functions is assumed here.

The scanners decide the textual formats of `scan.ts` by walking UTF-16 code units
(`Json.units`), exactly as the source does with `charCodeAt`; an index past the end reads as no
unit at all.
-/

namespace NoaMandate

/-- What the kernel takes from its platform. -/
structure Intrinsics where
  /-- SHA-256 of the UTF-8 bytes of a text, given as its characters; lowercase hex. -/
  sha256Hex : List Char → String
  /-- Ed25519 verification: public key, message, signature. -/
  verifyEd25519 : String → String → String → Bool
  /-- `Date.parse`, in milliseconds; `none` is `NaN`. -/
  dateParse : String → Option Int
  /-- `String.prototype.normalize("NFC")`. -/
  normalizeNFC : String → String

/-- `sha256:` and the hex digest. Source: `hash.ts` `sha256Prefixed`. -/
def Intrinsics.sha256Prefixed (I : Intrinsics) (data : List Char) : String :=
  "sha256:" ++ I.sha256Hex data

lemma Intrinsics.sha256Prefixed_injective {I : Intrinsics}
    (hinj : Function.Injective I.sha256Hex) {s t : List Char}
    (h : I.sha256Prefixed s = I.sha256Prefixed t) : s = t := by
  have happ : "sha256:" ++ I.sha256Hex s = "sha256:" ++ I.sha256Hex t := h
  have hlist := congrArg String.toList happ
  rw [String.toList_append, String.toList_append] at hlist
  exact hinj (String.toList_inj.mp (List.append_cancel_left hlist))

/-- The bytes that are signed for an artifact, with the digest written as hex.
Source: `signing.ts` `signingMessage`. -/
def Intrinsics.signingMessage (I : Intrinsics) (domain : String) (hashInputJcs : List Char) :
    String :=
  domain ++ ":" ++ I.sha256Hex hashInputJcs

/-! ## A platform given by tables

To evaluate the model on given documents, the digests and signatures that occur there are tabulated.
Outside its table the digest is still injective. -/

/-- The tabulated digest, or a text that no table holds. -/
def tableDigest (table : List (List Char × String)) (s : List Char) : String :=
  (table.lookup s).getD ("~" ++ String.ofList s)

lemma tableDigest_injective {table : List (List Char × String)} (hnd : (table.map Prod.snd).Nodup)
    (hfresh : ∀ e ∈ table, e.2.toList.head? ≠ some '~') :
    Function.Injective (tableDigest table) := by
  have hne : ∀ {s d t}, table.lookup s = some d → d ≠ "~" ++ t := by
    intro s d t h heq
    refine hfresh _ (Assoc.mem_of_lookup h) ?_
    rw [heq, String.toList_append]
    rfl
  intro s t h
  unfold tableDigest at h
  cases hs : table.lookup s with
  | none =>
    cases ht : table.lookup t with
    | none =>
      rw [hs, ht, Option.getD_none, Option.getD_none] at h
      have hlist := congrArg String.toList h
      rw [String.toList_append, String.toList_append] at hlist
      exact String.ofList_injective (String.toList_inj.mp (List.append_cancel_left hlist))
    | some d =>
      rw [hs, ht, Option.getD_none, Option.getD_some] at h
      exact absurd h.symm (hne ht)
  | some d =>
    cases ht : table.lookup t with
    | none =>
      rw [hs, ht, Option.getD_none, Option.getD_some] at h
      exact absurd h (hne hs)
    | some d' =>
      rw [hs, ht, Option.getD_some, Option.getD_some] at h
      subst h
      exact congrArg Prod.fst (List.inj_on_of_nodup_map hnd (Assoc.mem_of_lookup hs) (Assoc.mem_of_lookup ht) rfl)

/-- The platform of given digests, signatures (public key, message, signature) and dates. -/
def Intrinsics.ofTables (digests : List (List Char × String))
    (signatures : List (String × String × String)) (dates : List (String × Int)) : Intrinsics where
  sha256Hex := tableDigest digests
  verifyEd25519 pub msg sig := signatures.contains (pub, msg, sig)
  dateParse s := dates.lookup s
  normalizeNFC := id

namespace Scan

/-- The code unit at an index. -/
def unitAt (u : List Nat) (i : Nat) : Option Nat := u[i]?

def isDigit (c : Nat) : Bool := 0x30 ≤ c && c ≤ 0x39

def isLowerHex (c : Nat) : Bool := (0x30 ≤ c && c ≤ 0x39) || (0x61 ≤ c && c ≤ 0x66)

/-- `n` units from `start` on, all satisfying `p`. -/
def run (p : Nat → Bool) (u : List Nat) (start n : Nat) : Bool :=
  (List.range n).all fun i => (unitAt u (start + i)).any p

def lowerHexRun (u : List Nat) (start n : Nat) : Bool := run isLowerHex u start n

def digitRun (u : List Nat) (start n : Nat) : Bool := run isDigit u start n

def hasPrefix (u lit : List Nat) : Bool :=
  if u.length < lit.length then false else u.take lit.length == lit

/-- `sha256:` and 64 lowercase hex digits. -/
def isSha256Hash (s : String) : Bool :=
  let u := Json.units s
  if u.length ≠ 71 then false
  else if !hasPrefix u (Json.units "sha256:") then false
  else lowerHexRun u 7 64

/-- `sha256:` or `hmac-sha256:` and 64 lowercase hex digits. -/
def isParamsHash (s : String) : Bool :=
  let u := Json.units s
  if u.length = 71 && hasPrefix u (Json.units "sha256:") then lowerHexRun u 7 64
  else if u.length = 76 && hasPrefix u (Json.units "hmac-sha256:") then lowerHexRun u 12 64
  else false

/-- Exactly 64 lowercase hex digits. -/
def isHex64 (s : String) : Bool :=
  let u := Json.units s
  if u.length ≠ 64 then false else lowerHexRun u 0 64

/-! ## RFC 3339 -/

/-- The number of consecutive digits from index `i` on. -/
def digitsFrom (u : List Nat) (i : Nat) : Nat := ((u.drop i).takeWhile isDigit).length

/-- The zone designator that starts at index `i` and ends the text. -/
def isZone (u : List Nat) (i : Nat) : Bool :=
  let n := u.length
  let z := unitAt u i
  if z = some 0x5a || z = some 0x7a then i + 1 = n
  else if z ≠ some 0x2b && z ≠ some 0x2d then false
  else if n - i ≠ 6 then false
  else if !digitRun u (i + 1) 2 then false
  else if unitAt u (i + 3) ≠ some 0x3a then false
  else digitRun u (i + 4) 2

/-- The syntax of an RFC 3339 date-time with at most nine fraction digits. -/
def isRfc3339 (s : String) : Bool :=
  let u := Json.units s
  if u.length < 20 then false
  else if !digitRun u 0 4 then false
  else if unitAt u 4 ≠ some 0x2d then false
  else if !digitRun u 5 2 then false
  else if unitAt u 7 ≠ some 0x2d then false
  else if !digitRun u 8 2 then false
  else if unitAt u 10 ≠ some 0x54 && unitAt u 10 ≠ some 0x74 then false
  else if !digitRun u 11 2 then false
  else if unitAt u 13 ≠ some 0x3a then false
  else if !digitRun u 14 2 then false
  else if unitAt u 16 ≠ some 0x3a then false
  else if !digitRun u 17 2 then false
  else if unitAt u 19 = some 0x2e then
    let frac := digitsFrom u 20
    if frac < 1 || frac > 9 then false else isZone u (20 + frac)
  else isZone u 19

/-- The value of a digit; `isRfc3339` has checked that it is one. -/
def digitAt (u : List Nat) (i : Nat) : Nat := (unitAt u i).getD 0x30 - 0x30

def num2 (u : List Nat) (i : Nat) : Nat := digitAt u i * 10 + digitAt u (i + 1)

def num4 (u : List Nat) (i : Nat) : Nat :=
  digitAt u i * 1000 + digitAt u (i + 1) * 100 + digitAt u (i + 2) * 10 + digitAt u (i + 3)

def isLeapYear (y : Nat) : Bool :=
  if y % 4 ≠ 0 then false else if y % 100 ≠ 0 then true else y % 400 = 0

def daysInMonth (year month : Nat) : Nat :=
  if month = 1 || month = 3 || month = 5 || month = 7 || month = 8 || month = 10 || month = 12 then
    31
  else if month = 4 || month = 6 || month = 9 || month = 11 then 30
  else if month = 2 then if isLeapYear year then 29 else 28
  else 0

/-- A syntactically correct date-time whose fields are in range; second 60 is a leap second. -/
def isRfc3339Instant (s : String) : Bool :=
  if !isRfc3339 s then false
  else
    let u := Json.units s
    let n := u.length
    let month := num2 u 5
    let day := num2 u 8
    if month < 1 || month > 12 then false
    else if day < 1 || day > daysInMonth (num4 u 0) month then false
    else if num2 u 11 > 23 then false
    else if num2 u 14 > 59 then false
    else if num2 u 17 > 60 then false
    else if unitAt u (n - 1) = some 0x5a || unitAt u (n - 1) = some 0x7a then true
    else if num2 u (n - 5) > 23 then false
    else if num2 u (n - 2) > 59 then false
    else true

/-- How two timestamps compare. -/
inductive TsOrder where
  | ok
  | backwards
  | notComparable
  deriving DecidableEq

/-- Minutes since a fixed origin, in UTC. -/
def utcMinute (u : List Nat) : Int :=
  let month := num2 u 5
  let y := num4 u 0 + 400 - (if month ≤ 2 then 1 else 0)
  let m := (month + 9) % 12
  let days := 365 * y + y / 4 - y / 100 + y / 400 + (153 * m + 2) / 5 + num2 u 8 - 1
  let loc := days * 1440 + num2 u 11 * 60 + num2 u 14
  let n := u.length
  let last := unitAt u (n - 1)
  if last = some 0x5a || last = some 0x7a then loc
  else
    let offset := num2 u (n - 5) * 60 + num2 u (n - 2)
    if unitAt u (n - 6) = some 0x2b then (loc : Int) - offset else loc + offset

/-- The fraction of the second in nanoseconds. -/
def fractionNanos (u : List Nat) : Nat :=
  if unitAt u 19 ≠ some 0x2e then 0
  else
    let digits := (u.drop 20).takeWhile isDigit
    digits.foldl (fun value c => value * 10 + (c - 0x30)) 0 * 10 ^ (9 - digits.length)

/-- The order of two timestamps; `notComparable` when a leap second makes the two readings of it
disagree. -/
def tsOrder (earlier later : String) : TsOrder :=
  if !isRfc3339Instant earlier || !isRfc3339Instant later then .notComparable
  else
    let a := Json.units earlier
    let b := Json.units later
    let minuteA := utcMinute a
    let minuteB := utcMinute b
    let secondA := num2 a 17
    let secondB := num2 b 17
    let nanosA := fractionNanos a
    let nanosB := fractionNanos b
    let backAsLeap := minuteB < minuteA ||
      (minuteB = minuteA && (secondB < secondA || (secondB = secondA && nanosB < nanosA)))
    let elapsedA := minuteA * 60 + secondA
    let elapsedB := minuteB * 60 + secondB
    let backAsNextMinute := elapsedB < elapsedA || (elapsedB = elapsedA && nanosB < nanosA)
    if backAsLeap && backAsNextMinute then .backwards
    else if backAsLeap ≠ backAsNextMinute then .notComparable
    else .ok

example : isRfc3339Instant "2024-02-29T23:59:60Z" = true := by decide

example : isRfc3339Instant "2023-02-29T00:00:00Z" = false := by decide

end Scan

end NoaMandate
