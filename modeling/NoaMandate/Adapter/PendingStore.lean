import NoaMandate.Adapter.ApprovalRules
import NoaMandate.Adapter.ParamsHash

/-!
# The pending store

Held calls and what became of them are kept in a file of events, one JSON text a line.  Nothing in
the file is signed: `loadPendingIndex` reads it anew for every question, sorts the events by the record
they belong to, and folds the events of each record into its state.

* `foldEvents` refuses a sequence of events that a well-behaved writer never makes: a second
  `created`, anything before `created`, a `consumed` that does not follow an approval.
* `loadPendingIndex` refuses the whole file for one bad line or one bad sequence.
* `consumeApprovalTicket` spends an approval, `findOutstanding` finds what keeps a session waiting.

The file is the text that a read of it returns, so that two reads may see two texts; how JSON texts
and dates are parsed is a parameter.
-/

namespace NoaMandate.Adapter

open Pipeline

/-- What the pending store takes from its platform. -/
structure PendingPlatform extends AdapterPlatform where
  /-- `JSON.parse`; `none` where it throws. -/
  jsonParse : JsString → Option JsValue
  /-- `Date.parse` of a value, `undefined` included; `none` if it is not a number. -/
  dateOf : Option JsValue → Option Int

/-! ## Records -/

inductive PendingEvent where
  | created
  | approved
  | denied
  | consumed
  deriving DecidableEq

def PendingEvent.name : PendingEvent → String
  | .created => "created"
  | .approved => "approved"
  | .denied => "denied"
  | .consumed => "consumed"

/-- Source: `pending-store.mjs` `KNOWN_EVENTS`. -/
def PendingEvent.ofName? (name : JsString) : Option PendingEvent :=
  [PendingEvent.created, .approved, .denied, .consumed].find? fun event => js event.name = name

inductive PendingStatus where
  | pending
  | approved
  | denied
  | consumed
  deriving DecidableEq

/-- One line of the file: an object with a string `id` and a known `event`. -/
structure EventLine where
  event : PendingEvent
  id : JsString
  members : List (JsString × JsValue)

def EventLine.get? (ev : EventLine) (name : String) : Option JsValue := ev.members.lookup (js name)

/-- The state of a record; a member that an event does not have is `none`. -/
structure PendingRecord where
  id : JsString
  sessionId : Option JsValue
  tenant : Option JsValue
  chain : Option JsValue
  agentId : Option JsValue
  actionId : Option JsValue
  paramsHash : Option JsValue
  deferredReceipt : Option JsValue
  status : PendingStatus := .pending
  approver : Option JsValue := none
  ticket : Option JsValue := none
  ticketExpiresAt : Option JsValue := none
  allowedReceipt : Option JsValue := none
  reason : Option JsValue := none
  deniedReceipt : Option JsValue := none

inductive PendingStoreError where
  | unreadable
  | notJson (line : Nat)
  | missingId (line : Nat)
  | unrecognizedEvent (line : Nat)
  | invalidSequence (id : JsString) (event : PendingEvent) (status : Option PendingStatus)
  | noRecord (id : JsString)
  | otherTenant (id : JsString)
  | notApproved (id : JsString) (status : PendingStatus)
  | expired (id : JsString)
  | notAppended
  deriving DecidableEq

/-! ## Keys -/

section keys

variable (P : AdapterPlatform)

mutual

/-- `JSON.stringify`: the text of a value with its members in their own order. -/
def jsonStringifyValue : JsValue → List Char
  | .arr xs => '[' :: ValueTree.joined ']' true (jsonStringifyElems xs)
  | .obj ms => '\x7b' :: ValueTree.joined '\x7d' true (jsonStringifyMembers ms)
  | .null => ['n', 'u', 'l', 'l']
  | .bool true => ['t', 'r', 'u', 'e']
  | .bool false => ['f', 'a', 'l', 's', 'e']
  | .num n => (fallbackLexicon P).num n
  | .str s => s.quote

def jsonStringifyElems : List JsValue → List (List Char)
  | [] => []
  | x :: xs => jsonStringifyValue x :: jsonStringifyElems xs

def jsonStringifyMembers : List (JsString × JsValue) → List (List Char)
  | [] => []
  | (k, v) :: ms => (k.quote ++ ':' :: jsonStringifyValue v) :: jsonStringifyMembers ms

end

/-- The key of a record: the bare id for events without a session, and otherwise the text of tenant,
session and id together. Source: `pending-store.mjs` `recordKeyOf`. -/
def recordKeyOf (tenant sessionId : Option JsValue) (id : JsString) : JsString :=
  match sessionId with
  | none => id
  | some .null => id
  | some sessionId =>
    js "noa-pending " ++ .ofChars (jsonStringifyValue P (.arr [tenant.getD .null, sessionId, .str id]))

def EventLine.key (ev : EventLine) : JsString :=
  recordKeyOf P (ev.get? "tenant") (ev.get? "sessionId") ev.id

end keys

/-! ## The fold -/

/-- One event on the state of its record. -/
def applyEvent (state : Option PendingRecord) (ev : EventLine) :
    Except PendingStoreError (Option PendingRecord) :=
  let invalid := .error (.invalidSequence ev.id ev.event (state.map PendingRecord.status))
  match ev.event, state with
  | .created, none => .ok (some
      { id := ev.id
        sessionId := ev.get? "sessionId"
        tenant := ev.get? "tenant"
        chain := ev.get? "chain"
        agentId := ev.get? "agentId"
        actionId := ev.get? "actionId"
        paramsHash := ev.get? "paramsHash"
        deferredReceipt := ev.get? "deferredReceipt" })
  | .created, some _ => invalid
  | .approved, some record => .ok (some
      { record with
        status := .approved
        approver := ev.get? "by"
        ticket := ev.get? "ticket"
        ticketExpiresAt := ev.get? "ticketExpiresAt"
        allowedReceipt := ev.get? "allowedReceipt" })
  | .approved, none => invalid
  | .denied, some record => .ok (some
      { record with
        status := .denied
        approver := ev.get? "by"
        reason := ev.get? "reason"
        deniedReceipt := ev.get? "deniedReceipt" })
  | .denied, none => invalid
  | .consumed, some record =>
    if record.status = .approved then .ok (some { record with status := .consumed }) else invalid
  | .consumed, none => invalid

/-- Source: `pending-store.mjs` `foldEvents`. -/
def foldEvents (events : List EventLine) : Except PendingStoreError (Option PendingRecord) :=
  events.foldlM applyEvent none

/-! ## Reading the file -/

/-- What a read of the file returns: it fails, there is no file, or a text. -/
inductive PendingFile where
  | failed
  | missing
  | text (t : JsString)

/-- The white space that `trim` removes. -/
def isJsSpace (u : Fin 0x10000) : Bool :=
  [0x9, 0xA, 0xB, 0xC, 0xD, 0x20, 0xA0, 0x1680, 0x2028, 0x2029, 0x202F, 0x205F, 0x3000,
    0xFEFF].contains u.val || (0x2000 ≤ u.val && u.val ≤ 0x200A)

/-- The lines of a text. -/
def splitLines (text : JsString) : List JsString := text.splitOn 0xA

variable (Q : PendingPlatform)

/-- One line; `number` counts from one. -/
def parseLine (number : Nat) (line : JsString) : Except PendingStoreError EventLine := do
  let v ← demand (Q.jsonParse line) (.notJson number)
  match v with
  | .obj members =>
    match members.lookup (js "id") with
    | some (.str id) =>
      match members.lookup (js "event") with
      | some (.str name) =>
        let event ← demand (PendingEvent.ofName? name) (.unrecognizedEvent number)
        return ⟨event, id, members⟩
      | _ => .error (.unrecognizedEvent number)
    | _ => .error (.missingId number)
  | _ => .error (.missingId number)

/-- The events of a file, blank lines passed over. -/
def parseLines (Q : PendingPlatform) : Nat → List JsString → Except PendingStoreError (List EventLine)
  | _, [] => .ok []
  | number, line :: lines =>
    if line.all isJsSpace then parseLines Q (number + 1) lines
    else do
      let ev ← parseLine Q number line
      let evs ← parseLines Q (number + 1) lines
      return ev :: evs

/-- The events of every record, in the order of the file. -/
def groupEvents (P : AdapterPlatform) (events : List EventLine) : Table JsString (List EventLine) :=
  events.foldl (fun byId ev => byId.set (ev.key P) ((byId.get? (ev.key P)).getD [] ++ [ev])) .empty

/-- The states of the records, in the order in which they were first met. -/
def foldRecords : List (JsString × List EventLine) →
    Except PendingStoreError (List (JsString × PendingRecord))
  | [] => .ok []
  | (key, events) :: groups => do
    let folded ← foldEvents events
    let records ← foldRecords groups
    return (folded.map fun record => (key, record)).toList ++ records

/-- Source: `pending-store.mjs` `loadPendingIndex`. -/
def loadPendingIndex (file : PendingFile) :
    Except PendingStoreError (List (JsString × PendingRecord)) :=
  match file with
  | .failed => .error .unreadable
  | .missing => .ok []
  | .text t => do
    let events ← parseLines Q 1 (splitLines t)
    foldRecords (groupEvents Q.toAdapterPlatform events).entries

/-! ## Questions -/

/-- Is the value this string? -/
def isStr (v : Option JsValue) (s : JsString) : Bool :=
  match v with
  | some (.str t) => t = s
  | _ => false

/-- Spend the approval of a record; `appended` says whether the event could be written.
Source: `pending-store.mjs` `consumeApprovalTicket`. -/
def consumeApprovalTicket (file : PendingFile) (id : JsString) (now : Int)
    (sessionId tenant : JsString) (appended : Bool) : Except PendingStoreError PendingRecord := do
  let index ← loadPendingIndex Q file
  let key := recordKeyOf Q.toAdapterPlatform (some (.str tenant)) (some (.str sessionId)) id
  let record ← demand (index.lookup key) (.noRecord id)
  refuse (!isStr record.tenant tenant) (.otherTenant id)
  refuse (record.status ≠ .approved) (.notApproved id record.status)
  refuse (!(Q.dateOf record.ticketExpiresAt).any (now < ·)) (.expired id)
  refuse (!appended) .notAppended
  return record

/-- The first record that keeps the session waiting. Source: `pending-store.mjs` `findOutstanding`. -/
def findOutstanding (file : PendingFile) (tenant agentId sessionId : JsString) :
    Except PendingStoreError (Option PendingRecord) := do
  let index ← loadPendingIndex Q file
  return (index.map Prod.snd).find? fun record =>
    isStr record.tenant tenant && isStr record.agentId agentId && isStr record.sessionId sessionId &&
      (record.status = .pending || record.status = .approved)

end NoaMandate.Adapter
