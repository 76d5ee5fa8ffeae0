import NoaMandate.Kernel.Receipt
import NoaMandate.Kernel.SafeJson
import NoaMandate.Lib.Table

/-!
# The acceptance rule for witness anchors

`verifyCompleteness` of `acceptance.ts`: a presented chain head, a list of witness anchors and a
pinned trust set, and the classification of the head.

An anchor that is malformed, not signed by the pinned key of its kid or about another chain is left
out.  Every other one is compared with the head and gives its witness a class; the classes a witness
gets from several anchors are combined, so that a witness counts once.  The tally over the witnesses
decides, contradictions before confirmations.
-/

namespace NoaMandate

open Pipeline

def ANCHOR_SIG_DOMAIN : String := "NOA-Federation-Anchor-v0.1-sig"

inductive AcceptanceClassification where
  | QUORUM_CONFIRMED
  | NOT_ESTABLISHED
  | TRUNCATED
  | FORK
  | STALE
  | INVALID_INPUT
  deriving DecidableEq

/-- The answer; the constant members `scope` and `note` are left out. -/
structure CompletenessResult where
  complete : Bool
  classification : AcceptanceClassification
  reason : String
  confirmations : Nat := 0
  stale : Nat := 0
  freshnessEnforced : Bool := false
  deriving DecidableEq

structure FreshnessPolicy where
  now : Int
  maxAgeMs : Int
  skewMs : Option Int := none

structure ChainHead where
  chain : String
  seq : Int
  hash : String

structure Anchor where
  chain : String
  highestSeq : Int
  headHash : String
  ts : String
  kid : String
  value : String

namespace Federation

/-! ## Reading the documents -/

def invalidInput (reason : String) : CompletenessResult :=
  { complete := false, classification := .INVALID_INPUT, reason }

/-- `typeof v === "object" && v !== null`. -/
def isObjectLike : Json → Bool
  | .obj _ => true
  | .arr _ => true
  | _ => false

/-- A non-negative safe integer. -/
def seq? : Option Json → Option Int
  | some (.num n) => if 0 ≤ n && n ≤ (Json.maxSafe : Int) then some n else none
  | _ => none

def sha256Hash? : Option Json → Option String
  | some (.str s) => if Scan.isSha256Hash s then some s else none
  | _ => none

def admitHead (head : Json) : Except CompletenessResult ChainHead := do
  refuse (!isObjectLike head) (invalidInput "head is not an object")
  let chain ← demand (nonEmptyStr? (head.get? "chain"))
    (invalidInput "head.chain must be a non-empty string")
  let seq ← demand (seq? (head.get? "seq"))
    (invalidInput "head.seq must be a non-negative safe integer")
  let hash ← demand (sha256Hash? (head.get? "hash"))
    (invalidInput "head.hash must be sha256:<64-hex>")
  return ⟨chain, seq, hash⟩

/-- The instants a confirmation may carry, in epoch milliseconds. -/
structure Window where
  min : Int
  max : Int

def windowOf (f : FreshnessPolicy) : Window :=
  ⟨f.now - f.maxAgeMs, f.now + f.skewMs.getD 0⟩

def admitFreshness : Option FreshnessPolicy → Except CompletenessResult (Option Window)
  | none => .ok none
  | some f => do
    refuse (f.maxAgeMs < 0) (invalidInput "opts.freshness.maxAgeMs must be a non-negative number")
    refuse (f.skewMs.getD 0 < 0)
      (invalidInput "opts.freshness.skewMs must be a non-negative number")
    return some (windowOf f)

/-- Pin the witnesses, each kid and each key once. -/
def pinWitnesses (pinned : Table String String) :
    List Json → Except CompletenessResult (Table String String)
  | [] => .ok pinned
  | w :: rest => do
    refuse (!isObjectLike w) (invalidInput "trustSet.witnesses[] entry is not an object")
    let kid ← demand (nonEmptyStr? (w.get? "kid"))
      (invalidInput "witness.kid must be a non-empty string")
    let pubkey ← demand (nonEmptyStr? (w.get? "pubkey"))
      (invalidInput ("witness \"" ++ kid ++ "\" pubkey must be a non-empty base64 SPKI string"))
    refuse (pinned.get? kid).isSome
      (invalidInput ("trustSet pins duplicate witness kid \"" ++ kid ++
        "\" (witnesses must be distinct)"))
    refuse (pinned.values.contains pubkey)
      (invalidInput ("trustSet pins the same witness pubkey under two kids (witnesses must be " ++
        "distinct KEYS, not just distinct ids)"))
    pinWitnesses (pinned.set kid pubkey) rest

structure TrustSet where
  pinned : Table String String
  /-- The number of witnesses. -/
  k : Nat
  quorum : Int

def admitTrustSet (trustSet : Json) : Except CompletenessResult TrustSet := do
  refuse (!isObjectLike trustSet) (invalidInput "trustSet is not an object")
  let witnesses ← demand
    (match trustSet.get? "witnesses" with | some (.arr ws) => some ws | _ => none)
    (invalidInput "trustSet.witnesses must be an array")
  let k := witnesses.length
  refuse (k < 2) (invalidInput ("trustSet must pin k >= 2 witnesses (got " ++ toString k ++ ")"))
  let q ← demand
    (match trustSet.get? "quorum" with
      | some (.num q) => if q.natAbs ≤ Json.maxSafe then some q else none
      | _ => none)
    (invalidInput "trustSet.quorum must be an integer")
  refuse (q ≤ 1)
    (invalidInput ("quorum must be > 1 (got " ++ toString q ++ "); a single witness is not a quorum"))
  refuse (q > k)
    (invalidInput ("quorum q=" ++ toString q ++ " exceeds pinned witness count k=" ++ toString k ++
      " (unsatisfiable)"))
  let pinned ← pinWitnesses .empty witnesses
  return ⟨pinned, k, q⟩

/-! ## One anchor -/

/-- The members of an anchor, when all have the right form. -/
def readAnchor (v : Json) : Option Anchor := do
  let chain ← (v.get? "chain").bind Json.asStr?
  let highestSeq ← seq? (v.get? "highestSeq")
  let headHash ← sha256Hash? (v.get? "headHash")
  let ts ← nonEmptyStr? (v.get? "ts")
  let sig ← v.get? "sig"
  if sig.get? "alg" = some (.str "ed25519") then
    let kid ← nonEmptyStr? (sig.get? "kid")
    let value ← nonEmptyStr? (sig.get? "value")
    return { chain, highestSeq, headHash, ts, kid, value }
  else none

variable (I : Intrinsics)

/-- What a witness signs: everything but the signature. Source: `acceptance.ts`
`anchorSigningInput`. -/
def anchorSigningInput (a : Anchor) : Option String :=
  (canonicalize (.obj [("chain", .str a.chain), ("highestSeq", .num a.highestSeq),
    ("headHash", .str a.headHash), ("ts", .str a.ts)])).map (I.signingMessage ANCHOR_SIG_DOMAIN)

/-- The anchor verifies under the key pinned for its kid. -/
def verifyAnchor (pinned : Table String String) (a : Anchor) : Bool :=
  match pinned.get? a.kid, anchorSigningInput I a with
  | some pub, some msg => I.verifyEd25519 pub msg a.value
  | _, _ => false

inductive WClass where
  | confirm
  | beyond
  | divergent
  | stale
  deriving DecidableEq

/-- Source: `acceptance.ts` `isContradiction`. -/
def isContradiction : WClass → Bool
  | .beyond => true
  | .divergent => true
  | _ => false

/-- Source: `acceptance.ts` `parseAnchorTsMs`. -/
def parseAnchorTsMs (ts : String) : Option Int :=
  if Scan.isRfc3339Instant ts then I.dateParse ts else none

/-- The anchor's frontier against the head; one that is behind says nothing. -/
def classify (head : ChainHead) (window : Option Window) (a : Anchor) : Option WClass :=
  if a.highestSeq > head.seq then some .beyond
  else if a.highestSeq = head.seq then
    if a.headHash = head.hash then
      match window with
      | none => some .confirm
      | some w =>
        some (if (parseAnchorTsMs I a.ts).any fun t => w.min ≤ t && t ≤ w.max then .confirm
          else .stale)
    else some .divergent
  else none

/-- What an anchor says: its witness and the class. -/
def answerOf (pinned : Table String String) (head : ChainHead)
    (window : Option Window) (v : Json) : Option (String × WClass) := do
  let a ← readAnchor v
  if a.chain = head.chain && verifyAnchor I pinned a then
    (classify I head window a).map fun cls => (a.kid, cls)
  else none

/-! ## All anchors -/

/-- Two different classes of one witness: a contradiction makes a fork, and a fresh confirmation
dominates a stale one. -/
def combine (prior cls : WClass) : WClass :=
  if prior = cls then prior
  else if isContradiction prior || isContradiction cls then .divergent
  else if prior = .confirm || cls = .confirm then .confirm
  else .stale

def recordAnswer (classes : Table String WClass) (answer : String × WClass) : Table String WClass :=
  match classes.get? answer.1 with
  | none => classes.set answer.1 answer.2
  | some prior =>
    if prior = answer.2 then classes else classes.set answer.1 (combine prior answer.2)

def witnessClasses (answers : List (String × WClass)) : Table String WClass :=
  answers.foldl recordAnswer .empty

def tally (classes : Table String WClass) (cls : WClass) : Nat := classes.values.count cls

/-- The rule over the tally. -/
def conclude (head : ChainHead) (trust : TrustSet) (freshnessEnforced : Bool)
    (classes : Table String WClass) : CompletenessResult :=
  let confirm := tally classes .confirm
  let beyond := tally classes .beyond
  let divergent := tally classes .divergent
  let stale := tally classes .stale
  let answer (complete : Bool) (classification : AcceptanceClassification) (reason : String) :
      CompletenessResult :=
    ⟨complete, classification, reason, confirm, stale, freshnessEnforced⟩
  let fnote := if freshnessEnforced then ""
    else " (freshness NOT enforced — currency is the caller's burden, §10)"
  if 0 < divergent then
    answer false .FORK ("FORK: " ++ toString divergent ++
      " pinned witness(es) reported a frontier on chain \"" ++ head.chain ++
      "\" that is not the presented head at seq " ++ toString head.seq ++
      " (divergent history — needs gossip to attribute; fail-closed)")
  else if 0 < beyond then
    answer false .TRUNCATED ("TRUNCATED: " ++ toString beyond ++
      " reachable pinned witness(es) anchored a frontier extending PAST the presented head (seq " ++
      toString head.seq ++ ") — records beyond H were anchored and then withheld")
  else if confirm ≥ trust.quorum then
    answer true .QUORUM_CONFIRMED ("QUORUM_CONFIRMED (snapshot): " ++ toString confirm ++ " of " ++
      toString trust.k ++ " pinned witnesses (quorum " ++ toString trust.quorum ++
      ") validly anchored exactly the presented head at seq " ++ toString head.seq ++
      " within the freshness window, and no reachable witness saw past it" ++ fnote)
  else if freshnessEnforced && confirm + stale ≥ trust.quorum then
    answer false .STALE ("STALE: only " ++ toString confirm ++ " FRESH confirmation(s) (quorum q=" ++
      toString trust.quorum ++ "); " ++ toString stale ++
      " further pinned witness(es) confirmed H but outside the freshness window — head not " ++
      "provably current (fail-closed)")
  else
    answer false .NOT_ESTABLISHED ("NOT_ESTABLISHED: only " ++ toString confirm ++
      " distinct fresh pinned-witness confirmation(s), quorum q=" ++ toString trust.quorum ++
      " not met (fail-closed: silence/unreachable witnesses are 'unknown', never 'no " ++
      "contradiction')" ++ fnote)

/-- The stages in order; an error is a refusal. -/
def stages (head anchors trustSet : Json) (freshness : Option FreshnessPolicy) :
    Except CompletenessResult CompletenessResult := do
  let head ← admitHead head
  let window ← admitFreshness freshness
  let trust ← admitTrustSet trustSet
  let anchors ← demand (match anchors with | .arr as => some as | _ => none)
    (invalidInput "anchors must be an array")
  return conclude head trust window.isSome
    (witnessClasses (anchors.filterMap (answerOf I trust.pinned head window)))

end Federation

/-- Source: `acceptance.ts` `verifyCompletenessParsed`. -/
def verifyCompletenessParsed (I : Intrinsics) (head anchors trustSet : Json)
    (freshness : Option FreshnessPolicy) : CompletenessResult :=
  match Federation.stages I head anchors trustSet freshness with
  | .ok r => r
  | .error r => r

/-- Source: `acceptance.ts` `verifyCompleteness`, on documents given as texts. -/
def verifyCompleteness (I : Intrinsics) (headText anchorsText trustSetText : List Char)
    (freshness : Option FreshnessPolicy) : CompletenessResult :=
  match parseDocument headText "head" with
  | .error reason => Federation.invalidInput reason
  | .ok head =>
    match parseDocument anchorsText "anchors" with
    | .error reason => Federation.invalidInput reason
    | .ok anchors =>
      match parseDocument trustSetText "trustSet" with
      | .error reason => Federation.invalidInput reason
      | .ok trustSet => verifyCompletenessParsed I head anchors trustSet freshness

end NoaMandate
