import NoaMandate.Lib.Canonical
import NoaMandate.Lib.Pipeline

/-!
# The strict parser

`safeParse` is the recursive descent parser of `safe-json.ts` over UTF-16 code units.  Its state is
the text that is left; the source's position `i` is the length of the text less what is left, and
every refusal carries it.

The mutual recursion of the source (value, object, array) is cut by a fuel argument.  Every
recursive call works on a shorter text, so `safeParse` starts with the length of the text and one
more and never runs out.  Numbers are integers: the parser refuses every other one, and reads `-0`
as `0`.
-/

namespace NoaMandate

open Pipeline

namespace SafeJson

/-- Why the parser refuses. -/
inductive Problem where
  | tooLong
  | tooDeep
  | endOfInput
  | unexpected (c : Nat)
  | expectedKey
  | forbiddenKey (key : String)
  | duplicateKey (key : String)
  | expectedColon
  | objectPunctuation
  | arrayPunctuation
  | unterminated
  | surrogate
  | hexEscape
  | invalidEscape (e : Option Nat)
  | control
  | invalidNumber
  | notInteger
  | unsafeInteger
  | literal
  | trailing
  deriving DecidableEq

/-- The text of one code unit. -/
def unitString (c : Nat) : String := String.singleton (Char.ofNat c)

/-- The source's message. -/
def Problem.message : Problem → String
  | .tooLong => "input exceeds maximum length"
  | .tooDeep => "maximum nesting depth exceeded"
  | .endOfInput => "unexpected end of input"
  | .unexpected c => "unexpected character '" ++ unitString c ++ "'"
  | .expectedKey => "expected object key string"
  | .forbiddenKey key => "forbidden object key '" ++ key ++ "'"
  | .duplicateKey key => "duplicate object key '" ++ key ++ "'"
  | .expectedColon => "expected ':' after object key"
  | .objectPunctuation => "expected ',' or '\x7d' in object"
  | .arrayPunctuation => "expected ',' or ']' in array"
  | .unterminated => "unterminated string"
  | .surrogate => "unpaired surrogate in string"
  | .hexEscape => "invalid \\u escape"
  | .invalidEscape none => "invalid escape '\\undefined'"
  | .invalidEscape (some e) => "invalid escape '\\" ++ unitString e ++ "'"
  | .control => "unescaped control character in string"
  | .invalidNumber => "invalid number"
  | .notInteger => "non-integer (float/exponent) number not allowed"
  | .unsafeInteger => "integer outside safe range"
  | .literal => "invalid literal"
  | .trailing => "trailing characters after JSON value"

/-- A refusal: the problem and how many units are left. -/
abbrev Stop := Problem × Nat

/-- The text after leading white space. -/
def skipWs : List Nat → List Nat
  | [] => []
  | c :: text => if c = 0x20 || c = 0x09 || c = 0x0a || c = 0x0d then skipWs text else c :: text

/-! ## Strings -/

/-- The value of a hexadecimal digit. -/
def hexValue (c : Nat) : Option Nat :=
  if 0x30 ≤ c && c ≤ 0x39 then some (c - 0x30)
  else if 0x41 ≤ c && c ≤ 0x46 then some (c - 0x37)
  else if 0x61 ≤ c && c ≤ 0x66 then some (c - 0x57)
  else none

/-- The unit a four-digit escape stands for. -/
def hex4 (a b c d : Nat) : Option Nat := do
  let a ← hexValue a
  let b ← hexValue b
  let c ← hexValue c
  let d ← hexValue d
  return ((a * 16 + b) * 16 + c) * 16 + d

/-- The unit a one-letter escape stands for. -/
def shortEscape : Nat → Option Nat
  | 0x22 => some 0x22
  | 0x5c => some 0x5c
  | 0x2f => some 0x2f
  | 0x62 => some 0x08
  | 0x66 => some 0x0c
  | 0x6e => some 0x0a
  | 0x72 => some 0x0d
  | 0x74 => some 0x09
  | _ => none

/-- The units of a string token after its opening quote, and the text after the token. -/
def stringBody : List Nat → Except Stop (List Nat × List Nat)
  | [] => .error (.unterminated, 0)
  | 0x22 :: text => .ok ([], text)
  | 0x5c :: text =>
    match text with
    | [] => .error (.invalidEscape none, 0)
    | 0x75 :: text =>
      match text with
      | a :: b :: c :: d :: text' =>
        match hex4 a b c d with
        | some u => do
          let (out, rest) ← stringBody text'
          return (u :: out, rest)
        | none => .error (.hexEscape, text.length + 1)
      | _ => .error (.hexEscape, text.length + 1)
    | e :: text =>
      match shortEscape e with
      | some u => do
        let (out, rest) ← stringBody text
        return (u :: out, rest)
      | none => .error (.invalidEscape (some e), text.length + 1)
  | c :: text =>
    if c < 0x20 then .error (.control, text.length + 1)
    else do
      let (out, rest) ← stringBody text
      return (c :: out, rest)

/-- The characters of well-formed code units. -/
def decodeUnits : List Nat → Option (List Char)
  | [] => some []
  | u :: us =>
    if u < 0xd800 || (0xdfff < u && u < 0x10000) then (decodeUnits us).map (Char.ofNat u :: ·)
    else if u < 0xdc00 then
      match us with
      | v :: us =>
        if 0xdc00 ≤ v && v ≤ 0xdfff then
          (decodeUnits us).map (Char.ofNat (0x10000 + (u - 0xd800) * 0x400 + (v - 0xdc00)) :: ·)
        else none
      | [] => none
    else none

/-- A string token after its opening quote. -/
def parseString (text : List Nat) : Except Stop (String × List Nat) := do
  let (out, rest) ← stringBody text
  let cs ← demand (decodeUnits out) (.surrogate, rest.length)
  return (String.ofList cs, rest)

/-! ## Numbers and literals -/

def isDigit (c : Nat) : Bool := 0x30 ≤ c && c ≤ 0x39

/-- The number a digit text denotes. -/
def digitsValue (ds : List Nat) : Nat := ds.foldl (fun n c => n * 10 + (c - 0x30)) 0

/-- The digits of an integer part, and the text after them. -/
def integerPart : List Nat → Except Stop (List Nat × List Nat)
  | [] => .error (.invalidNumber, 0)
  | c :: text =>
    if c = 0x30 then .ok ([c], text)
    else if 0x31 ≤ c && c ≤ 0x39 then
      .ok (c :: text.takeWhile isDigit, text.dropWhile isDigit)
    else .error (.invalidNumber, text.length + 1)

/-- A number token. -/
def parseNumber (text : List Nat) : Except Stop (Int × List Nat) := do
  let negative := text.head? = some 0x2d
  let (ds, rest) ← integerPart (if negative then text.tail else text)
  refuse (rest.head? = some 0x2e || rest.head? = some 0x65 || rest.head? = some 0x45)
    (.notInteger, rest.length)
  let n := digitsValue ds
  refuse (Json.maxSafe < n) (.unsafeInteger, rest.length)
  return (if negative then -(n : Int) else n, rest)

/-- The text after a literal, when it starts with it. -/
def afterLiteral (lit text : List Nat) : Option (List Nat) :=
  if text.take lit.length = lit then some (text.drop lit.length) else none

def parseBool (text : List Nat) : Except Stop (Bool × List Nat) :=
  match afterLiteral [0x74, 0x72, 0x75, 0x65] text with
  | some rest => .ok (true, rest)
  | none =>
    match afterLiteral [0x66, 0x61, 0x6c, 0x73, 0x65] text with
    | some rest => .ok (false, rest)
    | none => .error (.literal, text.length)

def parseNull (text : List Nat) : Except Stop (List Nat) :=
  demand (afterLiteral [0x6e, 0x75, 0x6c, 0x6c] text) (.literal, text.length)

/-! ## Values -/

def forbiddenKeys : List String := ["__proto__", "prototype", "constructor"]

mutual

/-- A value at nesting depth `depth`. -/
def parseValue (maxDepth : Nat) : Nat → Nat → List Nat → Except Stop (Json × List Nat)
  | 0, _, text => .error (.endOfInput, text.length)
  | fuel + 1, depth, text =>
    if maxDepth < depth then .error (.tooDeep, text.length)
    else
      match skipWs text with
      | [] => .error (.endOfInput, 0)
      | c :: rest =>
        if c = 0x7b then
          match skipWs rest with
          | 0x7d :: rest => .ok (.obj [], rest)
          | rest => (parseMembers maxDepth fuel depth [] rest).map fun p => (.obj p.1, p.2)
        else if c = 0x5b then
          match skipWs rest with
          | 0x5d :: rest => .ok (.arr [], rest)
          | rest => (parseElems maxDepth fuel depth rest).map fun p => (.arr p.1, p.2)
        else if c = 0x22 then (parseString rest).map fun p => (.str p.1, p.2)
        else if c = 0x74 || c = 0x66 then
          (parseBool (c :: rest)).map fun p => (.bool p.1, p.2)
        else if c = 0x6e then (parseNull (c :: rest)).map fun rest => (.null, rest)
        else if c = 0x2d || isDigit c then
          (parseNumber (c :: rest)).map fun p => (.num p.1, p.2)
        else .error (.unexpected c, rest.length + 1)

/-- The members of an object from a name on, and the text after its closing brace. -/
def parseMembers (maxDepth : Nat) : Nat → Nat → List String → List Nat →
    Except Stop (List (String × Json) × List Nat)
  | 0, _, _, text => .error (.endOfInput, text.length)
  | fuel + 1, depth, seen, text =>
    match skipWs text with
    | 0x22 :: text => do
      let (key, text) ← parseString text
      refuse (forbiddenKeys.contains key) (.forbiddenKey key, text.length)
      refuse (seen.contains key) (.duplicateKey key, text.length)
      match skipWs text with
      | 0x3a :: text => do
        let (value, text) ← parseValue maxDepth fuel (depth + 1) text
        match skipWs text with
        | 0x2c :: text => do
          let (ms, rest) ← parseMembers maxDepth fuel depth (key :: seen) text
          return ((key, value) :: ms, rest)
        | 0x7d :: rest => return ([(key, value)], rest)
        | text => .error (.objectPunctuation, text.length)
      | text => .error (.expectedColon, text.length)
    | text => .error (.expectedKey, text.length)

/-- The elements of an array from a value on, and the text after its closing bracket. -/
def parseElems (maxDepth : Nat) : Nat → Nat → List Nat → Except Stop (List Json × List Nat)
  | 0, _, text => .error (.endOfInput, text.length)
  | fuel + 1, depth, text => do
    let (value, text) ← parseValue maxDepth fuel (depth + 1) text
    match skipWs text with
    | 0x2c :: text => do
      let (xs, rest) ← parseElems maxDepth fuel depth text
      return (value :: xs, rest)
    | 0x5d :: rest => return ([value], rest)
    | text => .error (.arrayPunctuation, text.length)

end

/-- The parser. Source: `safe-json.ts` `safeParse`; an error is the problem and its position. -/
def safeParse (maxDepth maxLength : Nat) (text : List Nat) : Except (Problem × Nat) Json :=
  if maxLength < text.length then .error (.tooLong, text.length)
  else
    match parseValue maxDepth (text.length + 1) 0 text with
    | .error (problem, left) => .error (problem, text.length - left)
    | .ok (value, rest) =>
      match skipWs rest with
      | [] => .ok value
      | left => .error (.trailing, text.length - left.length)

end SafeJson

/-- The number of UTF-8 bytes of a text. -/
def utf8Length (text : List Char) : Nat := (text.map fun c => c.utf8Size).sum

def MAX_INPUT_BYTES : Nat := 16 * 1024 * 1024

/-- Decode and parse one document given as well-formed text; `what` names it in a refusal.
Source: `bytes.ts` `parseDocument`. -/
def parseDocument (text : List Char) (what : String) : Except String Json :=
  if MAX_INPUT_BYTES < utf8Length text then
    .error (what ++ ": input exceeds the " ++ toString MAX_INPUT_BYTES ++ "-byte ceiling")
  else
    match SafeJson.safeParse 64 MAX_INPUT_BYTES (text.flatMap Json.charUnits) with
    | .ok v => .ok v
    | .error (problem, pos) =>
      .error (what ++ ": " ++ problem.message ++ " (at position " ++ toString pos ++ ")")

end NoaMandate
