import Gamebook.Yaml.Scalar

/-! The tokens of a YAML text.

A token may turn out to be a key only when a colon follows it on its line. Until then its number is
kept, and the tokens that introduce the key are put before it afterwards. -/

namespace Gamebook.Yaml

/-- A token. The last one of a text says that it ends, or why it could not be read further. -/
inductive Token where
  | documentStart
  | documentEnd
  | listStart
  | tableStart
  | blockEnd
  | openList
  | closeList
  | openTable
  | closeTable
  | comma
  | item
  | key
  | value
  | scalar (text : String) (plain : Bool)
  | textEnd
  | broken (fault : Fault)
  deriving DecidableEq, Repr

/-- An open bracket. -/
inductive Bracket where
  | list | table
  deriving DecidableEq, Repr

/-- A token that is a key if a colon follows: its number, its place, and whether it must be one. -/
structure PossibleKey where
  number : Nat
  required : Bool
  place : Cursor

/-- The reading of a text up to a place. -/
structure Scan where
  place : Cursor
  tokens : List Token
  -- The innermost bracket comes first.
  brackets : List Bracket
  indent : Int
  outerIndents : List Int
  -- Whether a key may start at this place.
  keyAllowed : Bool
  -- The latest possible key for each number of open brackets.
  keys : List (Nat × PossibleKey)
  finished : Bool

/-- The greatest number of characters between the start of a key and its colon. -/
def keyLimit : Nat := 1024

namespace Scan

/-- The reading of a text at its start. -/
def start (text : List Char) : Scan :=
  { place := .start text, tokens := [], brackets := [], indent := -1, outerIndents := [],
    keyAllowed := true, keys := [], finished := false }

/-- The number of open brackets. -/
def depth (scan : Scan) : Nat := scan.brackets.length

/-- Whether a bracket is open. -/
def inBrackets (scan : Scan) : Bool := !scan.brackets.isEmpty

/-- Adds a token at the end. -/
def emit (token : Token) (scan : Scan) : Scan := { scan with tokens := scan.tokens ++ [token] }

/-- Puts a token before the one of a number. -/
def insert (number : Nat) (token : Token) (scan : Scan) : Scan :=
  { scan with tokens := scan.tokens.take number ++ token :: scan.tokens.drop number }

/-- Goes on after a number of characters. -/
def advance (count : Nat) (scan : Scan) : Scan := { scan with place := scan.place.advance count }

/-- Forgets the possible key at the present depth. -/
def forgetKey (scan : Scan) : Scan :=
  { scan with keys := scan.keys.filter fun key => key.1 ≠ scan.depth }

/-- Gives up the possible key at the present depth, which must not be required. -/
def dropKey (scan : Scan) : Except Fault Scan :=
  match scan.keys.lookup scan.depth with
  | some key => if key.required then .error .malformed else .ok scan.forgetKey
  | none => .ok scan

/-- Whether a key would be on another line than a place, or too far away from it. -/
def isStale (place : Cursor) (key : PossibleKey) : Bool :=
  key.place.line ≠ place.line || keyLimit < place.index - key.place.index

/-- Gives up the possible keys that no colon can follow any more. -/
def dropStale (scan : Scan) : Except Fault Scan :=
  let stale := fun (key : Nat × PossibleKey) => isStale scan.place key.2
  if scan.keys.any fun key => stale key && key.2.required then .error .malformed
  else .ok { scan with keys := scan.keys.filter fun key => !stale key }

/-- Notes that the next token may be a key, where one may start. -/
def noteKey (scan : Scan) : Except Fault Scan :=
  if scan.keyAllowed then do
    let scan ← scan.dropKey
    let required := !scan.inBrackets && scan.indent = scan.place.column
    return { scan with
      keys := (scan.depth, ⟨scan.tokens.length, required, scan.place⟩) :: scan.keys }
  else .ok scan

/-- Indents to a column, and whether that is deeper than before. -/
def indentTo (column : Nat) (scan : Scan) : Scan × Bool :=
  if scan.indent < column then
    ({ scan with outerIndents := scan.indent :: scan.outerIndents, indent := column }, true)
  else (scan, false)

/-- The tokens that end what is indented deeper than a column, and the indents that are left. -/
def unwound (column : Int) (indent : Int) : List Int → List Token × Int × List Int
  | [] => ([], indent, [])
  | outer :: rest =>
    if column < indent then
      let (ends, left) := unwound column outer rest
      (.blockEnd :: ends, left)
    else ([], indent, outer :: rest)

/-- Ends what is indented deeper than a column; inside brackets there is no indentation. -/
def unwind (column : Int) (scan : Scan) : Scan :=
  if scan.inBrackets then scan
  else
    let (ends, indent, outer) := unwound column scan.indent scan.outerIndents
    { scan with tokens := scan.tokens ++ ends, indent := indent, outerIndents := outer }

/-- Goes on to the next token. -/
def skip (scan : Scan) : Scan :=
  let scan :=
    if scan.place.index = 0 ∧ scan.place.rest.head? = some byteOrderMark then scan.advance 1
    else scan
  let (count, ended) := blanks scan.inBrackets false scan.place.rest
  { scan.advance count with keyAllowed := scan.keyAllowed || (ended && !scan.inBrackets) }

/-- A mark between documents. -/
def readMark (token : Token) (scan : Scan) : Except Fault Scan := do
  let scan ← (scan.unwind (-1)).dropKey
  return { (scan.emit token).advance 3 with keyAllowed := false }

/-- An opening bracket, which may start a key. -/
def readOpening (bracket : Bracket) (token : Token) (scan : Scan) : Except Fault Scan := do
  let scan ← scan.noteKey
  return { (scan.emit token).advance 1 with
    brackets := bracket :: scan.brackets, keyAllowed := true }

/-- A closing bracket. -/
def readClosing (token : Token) (scan : Scan) : Except Fault Scan := do
  let scan ← scan.dropKey
  return { (scan.emit token).advance 1 with
    brackets := scan.brackets.drop 1, keyAllowed := false }

/-- A comma. -/
def readComma (scan : Scan) : Except Fault Scan := do
  let scan ← scan.dropKey
  return { (scan.emit .comma).advance 1 with keyAllowed := true }

/-- Starts an indented collection at the present column, unless one is open there. Inside brackets
there is none. -/
def openBlock (token : Token) (scan : Scan) : Except Fault Scan :=
  if scan.inBrackets then .ok scan
  else if !scan.keyAllowed then .error .malformed
  else
    let (scan, deeper) := scan.indentTo scan.place.column
    .ok (if deeper then scan.emit token else scan)

/-- The dash before an item. -/
def readItem (scan : Scan) : Except Fault Scan := do
  let scan ← (← scan.openBlock .listStart).dropKey
  return { (scan.emit .item).advance 1 with keyAllowed := true }

/-- The question mark before a key. -/
def readKey (scan : Scan) : Except Fault Scan := do
  let scan ← (← scan.openBlock .tableStart).dropKey
  return { (scan.emit .key).advance 1 with keyAllowed := !scan.inBrackets }

/-- The colon before a value, which makes a possible key one. -/
def readValue (scan : Scan) : Except Fault Scan :=
  match scan.keys.lookup scan.depth with
  | some key =>
    let scan := scan.forgetKey.insert key.number .key
    let (scan, deeper) :=
      if scan.inBrackets then (scan, false) else scan.indentTo key.place.column
    let scan := if deeper then scan.insert key.number .tableStart else scan
    .ok { (scan.emit .value).advance 1 with keyAllowed := false }
  | none => do
    let scan ← scan.openBlock .tableStart
    return { (scan.emit .value).advance 1 with keyAllowed := !scan.inBrackets }

/-- A scalar in quotes. -/
def readQuoted (double : Bool) (rest : List Char) (scan : Scan) : Except Fault Scan := do
  let scan ← scan.noteKey
  let (text, rest) ← afterQuote double rest
  return { scan.emit (.scalar (String.ofList text) false) with
    place := scan.place.upTo rest, keyAllowed := false }

/-- A plain scalar. -/
def readPlain (scan : Scan) : Except Fault Scan := do
  let scan ← scan.noteKey
  let scalar := plainScalar scan.inBrackets (scan.indent + 1) scan.place
  return { scan.emit (.scalar (String.ofList scalar.text) true) with
    place := scalar.place, keyAllowed := scalar.endsLine }

/-- Whether a colon stands before a value. Inside braces it does, unless it directly follows another
one whose token is still held back by a possible key. -/
def isValueMark (heldBack : Bool) (rest : List Char) (scan : Scan) : Bool :=
  match scan.brackets with
  | .table :: _ =>
    if heldBack && scan.tokens.getLast? = some .value then endsToken rest else true
  | _ => endsToken rest

/-- Reads the token that starts with a character. -/
def readToken (heldBack : Bool) (c : Char) (rest : List Char) (scan : Scan) :
    Except Fault Scan :=
  let atStart := scan.place.column = 0
  if c = '%' ∧ atStart then .error .malformed
  else if atStart ∧ startsWithMark startMark (c :: rest) then scan.readMark .documentStart
  else if atStart ∧ startsWithMark endMark (c :: rest) then scan.readMark .documentEnd
  else if c = '[' then scan.readOpening .list .openList
  else if c = '\x7b' then scan.readOpening .table .openTable
  else if c = ']' then scan.readClosing .closeList
  else if c = '\x7d' then scan.readClosing .closeTable
  else if c = ',' then scan.readComma
  else if c = '-' ∧ endsToken rest then scan.readItem
  else if c = '?' ∧ (scan.inBrackets ∨ endsToken rest) then scan.readKey
  else if c = ':' ∧ scan.isValueMark heldBack rest then scan.readValue
  else if c = '\'' then scan.readQuoted false rest
  else if c = '"' then scan.readQuoted true rest
  else if startsPlain scan.inBrackets c rest then scan.readPlain
  else .error .malformed

/-- Ends the text. -/
def finish (scan : Scan) : Except Fault Scan := do
  let scan ← (scan.unwind (-1)).dropKey
  return { scan.emit .textEnd with finished := true }

/-- Reads the next token. -/
def next (scan : Scan) : Except Fault Scan := do
  let heldBack := !scan.keys.isEmpty
  let scan ← scan.skip.dropStale
  let scan := scan.unwind scan.place.column
  match scan.place.rest with
  | [] => scan.finish
  | c :: rest => scan.readToken heldBack c rest

/-- The tokens up to the first one that may still be a key, and a fault in place of the rest. -/
def brokenBy (fault : Fault) (scan : Scan) : List Token :=
  let numbers := scan.keys.map fun key => key.2.number
  scan.tokens.take (numbers.foldl min scan.tokens.length) ++ [.broken fault]

/-- Reads all tokens; `fuel` bounds their number. -/
def run : Nat → Scan → List Token
  | 0, scan => scan.tokens
  | fuel + 1, scan =>
    if scan.finished then scan.tokens
    else match scan.dropStale with
      | .error fault => scan.brokenBy fault
      | .ok scan => match scan.next with
        | .error fault => scan.brokenBy fault
        | .ok next => run fuel next

end Scan

/-- The tokens of a text. -/
def Token.ofText (text : List Char) : List Token := (Scan.start text).run (text.length + 2)

end Gamebook.Yaml
