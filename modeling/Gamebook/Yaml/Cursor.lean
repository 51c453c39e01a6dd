/-! Places in a YAML text, and what the characters there may separate. -/

namespace Gamebook.Yaml

/-- Whether a character ends a line. -/
def isLineEnd (c : Char) : Bool :=
  c == '\n' || c.toNat == 0x85 || c.toNat == 0x2028 || c.toNat == 0x2029

/-- Whether a character is a space or ends a line. -/
def isSeparator (c : Char) : Bool := c == ' ' || c == '\t' || isLineEnd c

/-- Whether a token may end before a text: at a separator or at the end of the text. -/
def endsToken : List Char → Bool
  | [] => true
  | c :: _ => isSeparator c

/-- The marks between documents. -/
def startMark : List Char := ['-', '-', '-']

/-- The mark after a document. -/
def endMark : List Char := ['.', '.', '.']

/-- Whether a text starts with a mark that stands alone. -/
def startsWithMark (mark input : List Char) : Bool :=
  mark.isPrefixOf input && endsToken (input.drop mark.length)

/-- Whether a document starts or ends before a text that starts a line. -/
def isMarker (input : List Char) : Bool :=
  startsWithMark startMark input || startsWithMark endMark input

/-- The byte order mark. -/
def byteOrderMark : Char := '\uFEFF'

/-- A place in a text: what is left of it, and where the place lies. -/
structure Cursor where
  rest : List Char
  index : Nat
  line : Nat
  column : Nat

namespace Cursor

/-- The start of a text. -/
def start (text : List Char) : Cursor := ⟨text, 0, 0, 0⟩

/-- The place after a number of characters. Only a line feed starts a new line here, and a byte
order mark takes no column. -/
def advance : Nat → Cursor → Cursor
  | 0, place => place
  | count + 1, place =>
    match place.rest with
    | [] => place
    | c :: rest =>
      advance count {
        rest
        index := place.index + 1
        line := if c = '\n' then place.line + 1 else place.line
        column :=
          if c = '\n' then 0 else if c = byteOrderMark then place.column else place.column + 1 }

/-- The place from which a later part of the text is left. -/
def upTo (rest : List Char) (place : Cursor) : Cursor :=
  place.advance (place.rest.length - rest.length)

end Cursor

/-- The number of characters before the next token, and whether a line ends among them: these are
spaces, comments and line ends, and tabs inside brackets. -/
def blanks (inBrackets inComment : Bool) : List Char → Nat × Bool
  | [] => (0, false)
  | c :: rest =>
    if isLineEnd c then ((blanks inBrackets false rest).1 + 1, true)
    else if inComment || c = ' ' || (inBrackets && c = '\t') then
      let (count, ended) := blanks inBrackets inComment rest
      (count + 1, ended)
    else if c = '#' then
      let (count, ended) := blanks inBrackets true rest
      (count + 1, ended)
    else (0, false)

end Gamebook.Yaml
