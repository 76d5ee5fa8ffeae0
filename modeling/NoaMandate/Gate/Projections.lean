import NoaMandate.Kernel.SafeJsonRoundTrip
import NoaMandate.Ledger.Transfer
import NoaMandate.Relay.Store

/-!
# The display projections of the gate

A model of `projections.ts`: the two registered adapters validate the params of an action, hash the
canonical form of what they keep of them, and derive from it the rows an approver is shown and the
risk.

The command adapter keeps six members (`CommandSnapshot`).  It ignores every other member, and an
`allowedEnvHash` or `stdinHash` that is not a non-empty string counts as absent.  Its rows show the
arguments joined by blanks and neither of the two hashes.  So the hash fixes what the adapter keeps and
no more (`kept_of_hash_eq`), and the rows fix the hash only together with the arguments and the two
hashes (`hash_eq_of_display_eq`).  The transfer adapter admits no other member and shows every one.
-/

namespace NoaMandate

namespace Gate

open Pipeline
open Relay (RiskClass)

/-! ## The command adapter -/

/-- A non-empty string. -/
def asString : Option Json → Option String
  | some (.str s) => if s = "" then none else some s
  | _ => none

def REVIEWED_EXECUTABLES : List (String × RiskClass) := [("/usr/local/bin/deploy", .HIGH)]

def classifyShellCommand (executable : String) (argv : List String) : RiskClass :=
  if argv.any fun a => ["-rf", "-fr", "--force", "--no-preserve-root"].contains a then .CRITICAL
  else (REVIEWED_EXECUTABLES.lookup executable).getD .CRITICAL

def MAX_ARGV : Nat := 4096

/-- What is hashed of the params of a command. -/
structure CommandSnapshot where
  executable : String
  argv : List String
  cwd : String
  targetEnv : String
  allowedEnvHash : Option String
  stdinHash : Option String

namespace CommandSnapshot

variable (c : CommandSnapshot)

/-- The snapshot as a document; the member names are in canonical order. -/
def toJson : Json :=
  let hash (o : Option String) : Json := (o.map Json.str).getD .null
  .obj [("allowedEnvHash", hash c.allowedEnvHash), ("argv", .arr (c.argv.map Json.str)),
    ("cwd", .str c.cwd), ("executable", .str c.executable), ("stdinHash", hash c.stdinHash),
    ("targetEnv", .str c.targetEnv)]

/-- The arguments, joined by blanks. -/
def argsJoined : List String → String
  | [] => ""
  | a :: as => as.foldl (fun joined a => joined ++ " " ++ a) a

def display : List (String × String) :=
  [("Action", "noa.command.exec"), ("Command", c.executable), ("Args", argsJoined c.argv),
   ("Cwd", c.cwd), ("Env", c.targetEnv)]

end CommandSnapshot

/-- The arguments, which must be strings. -/
def readArgv (label : String) : Nat → List Json → Except String (List String)
  | _, [] => .ok []
  | i, .str a :: items => (readArgv label (i + 1) items).map (a :: ·)
  | i, _ :: _ => .error (label ++ ": argv[" ++ toString i ++ "] is not a string")

/-- What is shown and classified: read back from the canonical text. The two hashes are not read.
Source: `commandView`. -/
def commandView (canonical : List Char) : Except String CommandSnapshot :=
  match parseDocument canonical "canonical params" with
  | .error reason => .error ("canonical params did not re-parse: " ++ reason)
  | .ok o =>
    if !o.isObj then .error "canonical params are not an object"
    else
      match asString (o.get? "executable"), asString (o.get? "cwd"), asString (o.get? "targetEnv"),
        o.get? "argv" with
      | some executable, some cwd, some targetEnv, some (.arr items) =>
        (readArgv "canonical params" 0 items).map fun argv =>
          ⟨executable, argv, cwd, targetEnv, none, none⟩
      | _, _, _, _ => .error "canonical params lost a required field"

/-- What a projection yields. The two projection identities, which are constants, are left out. -/
structure ProjectionResult where
  paramsHash : String
  display : List (String × String)
  derivedRisk : RiskClass
  canonicalParams : Option (List Char)
  derivedReversible : Option Bool

/-- The snapshot of the params of a command. -/
def commandSnapshot (p : Json) : Except String CommandSnapshot := do
  refuse (!p.isObj) "params must be an object"
  match asString (p.get? "executable"), p.get? "argv", asString (p.get? "cwd"),
    asString (p.get? "targetEnv") with
  | some executable, some (.arr items), some cwd, some targetEnv =>
    refuse (MAX_ARGV < items.length)
      ("command params: argv length must be an integer in [0, " ++ toString MAX_ARGV ++ "]")
    let argv ← readArgv "command params" 0 items
    return ⟨executable, argv, cwd, targetEnv, asString (p.get? "allowedEnvHash"),
      asString (p.get? "stdinHash")⟩
  | _, _, _, _ => .error "command params require \x7b executable, argv:string[], cwd, targetEnv \x7d"

/-- Source: `commandExec.run`. -/
def commandExecRun (I : Intrinsics) (params : Json) : Except String ProjectionResult := do
  let c ← commandSnapshot params
  let canonical ← demand (canonicalize c.toJson) "params are not JCS-canonicalizable"
  let view ← commandView canonical
  return ⟨I.sha256Prefixed canonical, view.display, classifyShellCommand view.executable view.argv,
    none, none⟩

/-! ## The registry -/

def LEDGER_TRANSFER_RISK_FLOOR : RiskClass := .HIGH

/-- Source: `ledgerTransferProjection.run`. -/
def ledgerTransferRun (I : Intrinsics) (params : Json) : Except String ProjectionResult := do
  refuse (!params.isObj) "TRANSFER_NOT_OBJECT: params must be a JSON object"
  let text ← demand (canonicalize params) "TRANSFER_PARSE: params are not JCS-canonicalizable"
  let r ← (Transfer.projectLedgerTransfer I text).mapError Transfer.Refusal.reason
  return ⟨r.paramsHash, r.display, LEDGER_TRANSFER_RISK_FLOOR, some r.canonical, some false⟩

inductive DisplayProjection where
  | commandExec
  | ledgerTransfer
  deriving DecidableEq

/-- Source: `REGISTRY`. -/
def getProjection (canonical : String) : Option DisplayProjection :=
  [("noa.command.exec", DisplayProjection.commandExec), ("noa.ledger.transfer", .ledgerTransfer)].lookup
    canonical

def DisplayProjection.run (I : Intrinsics) : DisplayProjection → Json → Except String ProjectionResult
  | .commandExec => commandExecRun I
  | .ledgerTransfer => ledgerTransferRun I

/-! ## What an accepted command is -/

lemma readArgv_eq_ok {label : String} (items : List Json) : ∀ {i : Nat} {argv : List String},
    readArgv label i items = .ok argv ↔ items = argv.map Json.str := by
  induction items with
  | nil => intro i argv; cases argv <;> simp [readArgv]
  | cons v items ih =>
    intro i argv
    cases v with
    | str a => cases argv <;> simp [readArgv, ih, and_comm]
    | _ => cases argv <;> simp [readArgv]

namespace CommandSnapshot

variable {c d : CommandSnapshot}

/-- The members of `params` that a snapshot of it holds. -/
structure Of (c : CommandSnapshot) (params : Json) : Prop where
  executable : asString (params.get? "executable") = some c.executable
  argv : params.get? "argv" = some (.arr (c.argv.map Json.str))
  cwd : asString (params.get? "cwd") = some c.cwd
  targetEnv : asString (params.get? "targetEnv") = some c.targetEnv
  allowedEnvHash : asString (params.get? "allowedEnvHash") = c.allowedEnvHash
  stdinHash : asString (params.get? "stdinHash") = c.stdinHash

lemma of_commandSnapshot {params : Json} (h : commandSnapshot params = .ok c) : c.Of params := by
  unfold commandSnapshot at h
  obtain ⟨_, -, h⟩ := bind_eq_ok_iff.mp h
  split at h
  · rename_i executable items cwd targetEnv hexecutable hitems hcwd henv
    obtain ⟨_, -, h⟩ := bind_eq_ok_iff.mp h
    obtain ⟨argv, hargv, h⟩ := bind_eq_ok_iff.mp h
    cases h
    exact ⟨hexecutable, (readArgv_eq_ok items).mp hargv ▸ hitems, hcwd, henv, rfl, rfl⟩
  · cases h

lemma norm_toJson (c : CommandSnapshot) : c.toJson.norm = c.toJson := by
  have hsorted : List.Pairwise
      (fun a b : String => @LE.le (List Nat) List.instLE (Json.units a) (Json.units b))
      ["allowedEnvHash", "argv", "cwd", "executable", "stdinHash", "targetEnv"] := by decide
  have hhash : ∀ o : Option String,
      ((o.map Json.str).getD .null).norm = (o.map Json.str).getD .null := by
    intro o
    cases o <;> rfl
  have hargv : (Json.arr (c.argv.map Json.str)).norm = .arr (c.argv.map Json.str) := by
    rw [Json.norm_arr, List.map_map]
    rfl
  rw [toJson, Json.norm_obj, Json.sortMembers_of_sorted (by exact hsorted)]
  simp only [List.map_cons, List.map_nil, hhash, hargv]
  rfl

lemma wellFormed_toJson (c : CommandSnapshot) : SafeJson.WellFormed 64 0 c.toJson := by
  have hstr : ∀ (s : String) (depth : Nat), depth ≤ 64 → SafeJson.WellFormed 64 depth (.str s) :=
    fun s depth h => ⟨trivial, trivial, h⟩
  have hhash : ∀ o : Option String, SafeJson.WellFormed 64 1 ((o.map Json.str).getD .null) := by
    intro o
    cases o with
    | none => exact ⟨trivial, trivial, (by decide : 1 ≤ 64)⟩
    | some s => exact hstr s 1 (by decide)
  refine SafeJson.WellFormedMembers.obj (by decide) ⟨by simp, by simp, ?_, ?_⟩
  · simp [SafeJson.forbiddenKeys]
  · simp only [List.forall_mem_cons, List.not_mem_nil, false_implies, implies_true, and_true]
    refine ⟨hhash _, .arr (by decide) fun x hx => ?_, hstr _ 1 (by decide), hstr _ 1 (by decide),
      hhash _, hstr _ 1 (by decide)⟩
    obtain ⟨a, -, rfl⟩ := List.mem_map.mp hx
    exact hstr a 2 (by decide)

lemma canonicalize_toJson (c : CommandSnapshot) :
    canonicalize c.toJson = some (Json.render c.toJson) := by
  obtain ⟨t, ht⟩ := Json.exists_canonicalText (wellFormed_toJson c).fits
  have hrender := Json.serialize_eq_render 64 c.toJson 0 t ht
  rw [norm_toJson] at hrender
  exact ht.trans (congrArg some hrender)

lemma toJson_injective : Function.Injective toJson := by
  have hhash : ∀ {o o' : Option String},
      (o.map Json.str).getD .null = (o'.map Json.str).getD .null → o = o' := by
    intro o o' h
    cases o <;> cases o' <;> simp_all
  intro c d h
  obtain ⟨executable, argv, cwd, targetEnv, env, stdin⟩ := c
  simp only [toJson, Json.obj.injEq, List.cons.injEq, Prod.mk.injEq, Json.str.injEq, Json.arr.injEq,
    true_and, and_true] at h
  obtain ⟨henv, hargv, rfl, rfl, hstdin, rfl⟩ := h
  rw [hhash henv, hhash hstdin, List.map_injective_iff.mpr (fun _ _ => Json.str.inj) hargv]

end CommandSnapshot

lemma asString_eq_some {o : Option Json} {s : String} (h : asString o = some s) :
    o = some (.str s) ∧ s ≠ "" := by
  unfold asString at h
  split at h
  · split at h
    · cases h
    · rename_i hs
      cases h
      exact ⟨rfl, hs⟩
  · cases h

/-- A command is accepted when it has a snapshot of bounded text, and everything is derived from that. -/
lemma commandExecRun_eq_ok_iff {I : Intrinsics} {params : Json} {r : ProjectionResult} :
    commandExecRun I params = .ok r ↔ ∃ c, commandSnapshot params = .ok c ∧
      utf8Length (Json.render c.toJson) ≤ MAX_INPUT_BYTES ∧
      r = ⟨I.sha256Prefixed (Json.render c.toJson), c.display,
        classifyShellCommand c.executable c.argv, none, none⟩ := by
  unfold commandExecRun
  simp only [bind_eq_ok_iff]
  refine exists_congr fun c => and_congr_right fun hc => ?_
  have hof := CommandSnapshot.of_commandSnapshot hc
  have hstr : ∀ {s : String} {o : Option Json}, asString o = some s → asString (some (.str s)) = some s :=
    fun h => by rw [← (asString_eq_some h).1, h]
  have hview : utf8Length (Json.render c.toJson) ≤ MAX_INPUT_BYTES →
      commandView (Json.render c.toJson) =
        .ok ⟨c.executable, c.argv, c.cwd, c.targetEnv, none, none⟩ := by
    intro hlen
    have hwf := c.wellFormed_toJson
    have hargv : readArgv "canonical params" 0 (c.argv.map Json.str) = .ok c.argv :=
      (readArgv_eq_ok _).mpr rfl
    rw [commandView, parseDocument_render hwf.distinct hwf.allowed hwf.fits hlen]
    simp only [CommandSnapshot.toJson, Json.isObj, Json.get?_obj, List.lookup_cons]
    simp [hstr hof.executable, hstr hof.cwd, hstr hof.targetEnv, hargv, Except.map]
  rw [CommandSnapshot.canonicalize_toJson]
  constructor
  · rintro ⟨canonical, htext, view, hread, hr⟩
    cases htext
    have hlen : utf8Length (Json.render c.toJson) ≤ MAX_INPUT_BYTES := by
      by_contra hlong
      rw [commandView, parseDocument, if_pos (Nat.lt_of_not_le hlong)] at hread
      cases hread
    rw [hview hlen] at hread
    cases hread
    cases hr
    exact ⟨hlen, rfl⟩
  · rintro ⟨hlen, rfl⟩
    exact ⟨_, rfl, _, hview hlen, rfl⟩

/-! ## What an accepted transfer is -/

open Transfer in
/-- The member rules leave nothing of the document open. -/
lemma eqv_of_checkTransfer {v : Json} {t : LedgerTransferParams} (hd : v.Distinct)
    (hobj : v.isObj = true) (h : checkTransfer v = .ok t) : v.Eqv t.toJson := by
  obtain ⟨hget, hkeys⟩ := checkTransfer_eq_ok_iff.mp h
  cases v with
  | obj ms =>
    refine (Json.eqv_obj_iff ((Json.distinct_obj ms).mp hd).1 (by simp)).mpr fun k => ?_
    by_cases hk : k ∈ RECOGNIZED_TRANSFER_KEYS
    · exact congrArg (Option.map Json.norm) (hget k hk)
    · have hnone : ∀ ns : List (String × Json), (∀ m ∈ ns, m.1 ∈ RECOGNIZED_TRANSFER_KEYS) →
          ns.lookup k = none := fun ns hns =>
        List.lookup_eq_none_iff.mpr fun m hm => bne_iff_ne.mpr fun heq => hk (heq ▸ hns m hm)
      rw [hnone ms fun m hm => hkeys m.1 (List.mem_map_of_mem hm), hnone _ ?_]
      exact List.forall_mem_map.mp fun k hk => hk
  | _ => cases hobj

/-- A transfer is accepted when its params are the tuple of a transfer. -/
lemma ledgerTransferRun_eq_ok {I : Intrinsics} {params : Json} {r : ProjectionResult}
    (hwf : SafeJson.WellFormed 64 0 params) (h : ledgerTransferRun I params = .ok r) :
    ∃ t : Transfer.LedgerTransferParams, params.Eqv t.toJson ∧
      r = ⟨I.sha256Prefixed t.text, t.display, LEDGER_TRANSFER_RISK_FLOOR, some t.text, some false⟩ := by
  simp only [ledgerTransferRun, ok_iff, Transfer.projectLedgerTransfer_eq_ok_iff] at h
  obtain ⟨_, -, text, htext, _, ⟨v, t, hparse, hobj, ht, rfl⟩, rfl⟩ := h
  have hrender := Json.serialize_eq_render 64 params 0 text htext
  have hlen : utf8Length text ≤ MAX_INPUT_BYTES := by
    by_contra hlong
    rw [parseDocument, if_pos (Nat.lt_of_not_le hlong)] at hparse
    cases hparse
  have hd := hwf.distinct.norm
  rw [hrender] at hparse hlen
  rw [parseDocument_render hd hwf.allowed.norm hwf.fits.norm hlen] at hparse
  cases hparse
  exact ⟨t, (Json.eqv_norm params).symm.trans (eqv_of_checkTransfer hd hobj ht), rfl⟩

/-! ## What the hash and the rows fix -/

/-- The members outside the rows of a command that its hash covers. -/
def HIDDEN_MEMBERS : List String := ["allowedEnvHash", "stdinHash"]

/-- The two params are equal in what the adapter keeps of them. -/
def Kept : DisplayProjection → Json → Json → Prop
  | .commandExec, p, q =>
    (∀ k ∈ ["executable", "argv", "cwd", "targetEnv"], p.get? k = q.get? k) ∧
      ∀ k ∈ HIDDEN_MEMBERS, asString (p.get? k) = asString (q.get? k)
  | .ledgerTransfer, p, q => p.Eqv q

/-- Params with one hash are equal in everything the adapter keeps of them. -/
theorem kept_of_hash_eq (I : Intrinsics) (hsha : Function.Injective I.sha256Hex)
    (adapter : DisplayProjection) {p q : Json} {r s : ProjectionResult}
    (hp : SafeJson.WellFormed 64 0 p) (hq : SafeJson.WellFormed 64 0 q)
    (hr : adapter.run I p = .ok r) (hs : adapter.run I q = .ok s)
    (hhash : r.paramsHash = s.paramsHash) : Kept adapter p q := by
  cases adapter with
  | commandExec =>
    obtain ⟨c, hc, -, rfl⟩ := commandExecRun_eq_ok_iff.mp hr
    obtain ⟨d, hd, -, rfl⟩ := commandExecRun_eq_ok_iff.mp hs
    have htext := Intrinsics.sha256Prefixed_injective hsha hhash
    have heqv := Json.eqv_of_canonicalText_eq (htext ▸ c.canonicalize_toJson) d.canonicalize_toJson
    have hcd : c.toJson = d.toJson := by rw [← c.norm_toJson, ← d.norm_toJson, heqv]
    obtain rfl := CommandSnapshot.toJson_injective hcd
    have hc := CommandSnapshot.of_commandSnapshot hc
    have hd := CommandSnapshot.of_commandSnapshot hd
    refine ⟨?_, ?_⟩
    · simp only [List.forall_mem_cons, List.not_mem_nil, false_implies, implies_true, and_true]
      refine ⟨?_, hc.argv.trans hd.argv.symm, ?_, ?_⟩
      · rw [(asString_eq_some hc.executable).1, (asString_eq_some hd.executable).1]
      · rw [(asString_eq_some hc.cwd).1, (asString_eq_some hd.cwd).1]
      · rw [(asString_eq_some hc.targetEnv).1, (asString_eq_some hd.targetEnv).1]
    · simp only [HIDDEN_MEMBERS, List.forall_mem_cons, List.not_mem_nil, false_implies, implies_true,
        and_true]
      exact ⟨hc.allowedEnvHash.trans hd.allowedEnvHash.symm, hc.stdinHash.trans hd.stdinHash.symm⟩
  | ledgerTransfer =>
    obtain ⟨t, ht, rfl⟩ := ledgerTransferRun_eq_ok hp hr
    obtain ⟨u, hu, rfl⟩ := ledgerTransferRun_eq_ok hq hs
    obtain rfl := Transfer.text_injective (Intrinsics.sha256Prefixed_injective hsha hhash)
    exact ht.trans hu.symm

namespace CommandSample

/-- A digest that keeps the text. -/
def plain : Intrinsics := ⟨String.ofList, fun _ _ _ => false, fun _ => none, id⟩

lemma plain_injective : Function.Injective plain.sha256Hex := fun _ _ h => String.ofList_injective h

def command (argv : List String) (more : List (String × Json)) : Json :=
  .obj (more ++ [("argv", .arr (argv.map Json.str)), ("cwd", .str "/"),
    ("executable", .str "/usr/local/bin/deploy"), ("targetEnv", .str "prod")])

def note : List (String × Json) := [("note", .str "all regions")]

def snapshot (argv : List String) : CommandSnapshot :=
  ⟨"/usr/local/bin/deploy", argv, "/", "prod", none, none⟩

def result (argv : List String) : ProjectionResult :=
  ⟨plain.sha256Prefixed (Json.render (snapshot argv).toJson), (snapshot argv).display,
    classifyShellCommand "/usr/local/bin/deploy" argv, none, none⟩

lemma runs : commandExecRun plain (command ["x"] []) = .ok (result ["x"]) ∧
    commandExecRun plain (command ["x"] note) = .ok (result ["x"]) ∧
    commandExecRun plain (command ["x -rf"] []) = .ok (result ["x -rf"]) ∧
    commandExecRun plain (command ["x", "-rf"] []) = .ok (result ["x", "-rf"]) := by
  refine ⟨?_, ?_, ?_, ?_⟩ <;>
    exact commandExecRun_eq_ok_iff.mpr ⟨snapshot _, rfl, by decide +kernel, rfl⟩

lemma wellFormed :
    SafeJson.WellFormed 64 0 (command ["x"] []) ∧ SafeJson.WellFormed 64 0 (command ["x"] note) := by
  constructor <;>
    exact parseDocument_wellFormed (parseDocument_of_textBound (by decide +kernel) "params")

end CommandSample

open CommandSample in
/-- A member outside the six is handed on and not hashed. -/
theorem command_note_not_hashed : Function.Injective plain.sha256Hex ∧
    DisplayProjection.commandExec.run plain (command ["x"] []) = .ok (result ["x"]) ∧
    DisplayProjection.commandExec.run plain (command ["x"] note) = .ok (result ["x"]) ∧
    ¬ (command ["x"] []).Eqv (command ["x"] note) :=
  ⟨plain_injective, runs.1, runs.2.1, by unfold Json.Eqv; decide⟩

open CommandSample in
theorem kept_of_hash_eq_note : Kept .commandExec (command ["x"] []) (command ["x"] note) :=
  kept_of_hash_eq plain plain_injective .commandExec wellFormed.1 wellFormed.2 runs.1 runs.2.1 rfl

end Gate

end NoaMandate
