import Gamebook.Yaml.Cursor
import Gamebook.Yaml.Fault

/-! Scalars as a YAML text writes them: in quotes, or plain over one or more lines. -/

namespace Gamebook.Yaml

/-- A line end inside a scalar; two of the kinds of line ends are the same there. -/
def keptLineEnd (c : Char) : Char := if c.toNat = 0x85 then '\n' else c

/-- What stands for a line end and further ones inside a scalar. -/
def folded (first : Char) (further : List Char) : List Char :=
  if keptLineEnd first ≠ '\n' then first :: further
  else if further.isEmpty then [' ']
  else further

/-! ### Quoted scalars -/

/-- Further line ends and the white space around them inside a quoted scalar. No document may start
or end there. -/
def quotedLines (atStart : Bool) : List Char → Except Fault (List Char × List Char)
  | [] => .error .malformed
  | c :: rest =>
    if atStart && isMarker (c :: rest) then .error .malformed
    else if isLineEnd c then
      (quotedLines true rest).map fun (ends, rest) => (keptLineEnd c :: ends, rest)
    else if c = ' ' || c = '\t' then quotedLines false rest
    else .ok ([], c :: rest)

/-- White space inside a quoted scalar: as it is, or folded if it holds a line end. -/
def quotedGap (input : List Char) : Except Fault (List Char × List Char) :=
  let gap := input.takeWhile fun c => c = ' ' || c = '\t'
  match input.drop gap.length with
  | [] => .error .malformed
  | c :: rest =>
    if isLineEnd c then
      (quotedLines true rest).map fun (further, rest) => (folded c further, rest)
    else .ok (gap, c :: rest)

/-- A text that has been read, with more before it. -/
def before (chars : List Char) (read : Except Fault (List Char × List Char)) :
    Except Fault (List Char × List Char) :=
  read.map fun (text, rest) => (chars ++ text, rest)

/-- The rest of a scalar in single quotes, in which a quote is written twice. -/
def singleQuoted : Nat → List Char → Except Fault (List Char × List Char)
  | 0, _ => .error .malformed
  | fuel + 1, input =>
    match input with
    | [] => .error .malformed
    | '\'' :: '\'' :: rest => before ['\''] (singleQuoted fuel rest)
    | '\'' :: rest => .ok ([], rest)
    | c :: rest =>
      if isSeparator c then do
        let (gap, rest) ← quotedGap input
        before gap (singleQuoted fuel rest)
      else before [c] (singleQuoted fuel rest)

/-- The characters of escapes of one letter. -/
def letterEscapes : List (Char × Nat) :=
  [('0', 0), ('a', 7), ('b', 8), ('t', 9), ('\t', 9), ('n', 10), ('v', 11), ('f', 12), ('r', 13),
    ('e', 27), (' ', 32), ('"', 34), ('/', 47), ('\\', 92), ('N', 0x85), ('_', 0xa0),
    ('L', 0x2028), ('P', 0x2029)]

/-- The numbers of digits of escapes by code point. -/
def codeEscapes : List (Char × Nat) := [('x', 2), ('u', 4), ('U', 8)]

/-- The greatest code point. -/
def greatestCode : Nat := 0x10ffff

/-- What an escape stands for, after its backslash. -/
def escape : List Char → Except Fault (List Char × List Char)
  | [] => .error .malformed
  | c :: rest =>
    -- An escaped line end joins two lines.
    if isLineEnd c then quotedLines true rest
    else match letterEscapes.lookup c, codeEscapes.lookup c with
      | some code, _ => .ok ([Char.ofNat code], rest)
      | none, some length =>
        let digits := (rest.take length).filterMap Text.hexDigit?
        let code := Text.ofDigits 16 digits
        if digits.length < length then .error .malformed
        else if greatestCode < code then .error (.noCharacter code)
        else .ok ([Char.ofNat code], rest.drop length)
      | none, none => .error .malformed

/-- The rest of a scalar in double quotes. -/
def doubleQuoted : Nat → List Char → Except Fault (List Char × List Char)
  | 0, _ => .error .malformed
  | fuel + 1, input =>
    match input with
    | [] => .error .malformed
    | '"' :: rest => .ok ([], rest)
    | '\\' :: rest => do
      let (chars, rest) ← escape rest
      before chars (doubleQuoted fuel rest)
    | c :: rest =>
      if isSeparator c then do
        let (gap, rest) ← quotedGap input
        before gap (doubleQuoted fuel rest)
      else before [c] (doubleQuoted fuel rest)

/-- The rest of a scalar after its first quote. -/
def afterQuote (double : Bool) (input : List Char) : Except Fault (List Char × List Char) :=
  if double then doubleQuoted (input.length + 1) input else singleQuoted (input.length + 1) input

/-! ### Plain scalars -/

/-- Whether a character belongs to the brackets of lists and tables or separates their items. -/
def isBracket (c : Char) : Bool := [',', '[', ']', '\x7b', '\x7d'].contains c

/-- Whether a plain scalar ends before a character. -/
def endsPlain (inBrackets : Bool) (c : Char) (rest : List Char) : Bool :=
  if c = ':' then endsToken rest
  else isSeparator c || (inBrackets && isBracket c)

/-- The characters of a plain scalar up to white space or its end. -/
def plainRun (inBrackets : Bool) : List Char → List Char
  | [] => []
  | c :: rest => if endsPlain inBrackets c rest then [] else c :: plainRun inBrackets rest

/-- Further line ends and spaces after a line of a plain scalar, unless a document starts or ends
there, and the text after them. -/
def plainLines (atStart : Bool) : List Char → Option (List Char) × List Char
  | [] => (some [], [])
  | c :: rest =>
    if atStart && isMarker (c :: rest) then (none, c :: rest)
    else if isLineEnd c then
      let (ends, rest) := plainLines true rest
      (ends.map (keptLineEnd c :: ·), rest)
    else if c = ' ' then plainLines false rest
    else (some [], c :: rest)

/-- What stands after a run of a plain scalar: the white space that joins it to a further run, where
there may be one, and whether a line ends there. -/
structure Gap where
  joint : Option (List Char)
  endsLine : Bool
  rest : List Char

/-- What stands before a text that follows a run. -/
def plainGap (input : List Char) : Gap :=
  let spaces := input.takeWhile (· = ' ')
  match input.drop spaces.length with
  | [] => ⟨none, true, []⟩
  | c :: rest =>
    if isLineEnd c then
      let (ends, rest) := plainLines true rest
      ⟨ends.map (folded c), true, rest⟩
    else ⟨if spaces.isEmpty then none else some spaces, false, c :: rest⟩

/-- A plain scalar that has been read up to a place, and whether a line has ended after it. -/
structure PlainScalar where
  text : List Char
  place : Cursor
  endsLine : Bool

/-- Reads further runs of a plain scalar. Outside brackets, further lines must be indented at least
to a column. -/
def PlainScalar.extend (inBrackets : Bool) (indent : Int) :
    Nat → List Char → PlainScalar → PlainScalar
  | 0, _, scalar => scalar
  | fuel + 1, joint, scalar =>
    let run := plainRun inBrackets scalar.place.rest
    if scalar.place.rest.head? = some '#' ∨ run.isEmpty then scalar
    else
      let after := scalar.place.advance run.length
      let gap := plainGap after.rest
      let next : PlainScalar :=
        ⟨scalar.text ++ joint ++ run, after.upTo gap.rest, gap.endsLine⟩
      match gap.joint with
      | none => next
      | some joint =>
        if !inBrackets && next.place.column < indent then next
        else extend inBrackets indent fuel joint next

/-- The plain scalar at a place. -/
def plainScalar (inBrackets : Bool) (indent : Int) (place : Cursor) : PlainScalar :=
  PlainScalar.extend inBrackets indent (place.rest.length + 1) [] ⟨[], place, false⟩

/-- The characters that start no plain scalar, besides separators. -/
def reserved : List Char :=
  [',', '[', ']', '\x7b', '\x7d', '#', '&', '*', '!', '|', '>', '\'', '"', '%', '@', Char.ofNat 96]

/-- Whether a plain scalar starts with a character. -/
def startsPlain (inBrackets : Bool) (c : Char) (rest : List Char) : Bool :=
  if c = '-' then !endsToken rest
  else if c = ':' then
    if inBrackets then !(rest.head?.any fun next => next = ' ' || next = '\t')
    else !endsToken rest
  else if c = '?' then !inBrackets && !endsToken rest
  else !isSeparator c && !reserved.contains c

end Gamebook.Yaml
