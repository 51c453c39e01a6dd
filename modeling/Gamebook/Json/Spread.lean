import Gamebook.Json.Shown
import Gamebook.Text.Blank
import Gamebook.Text.Lines

/-! JSON values in messages of several lines.

A value that is too long for its line is divided: a list between its items, an object between its
members, and a text between its lines, and between words where a line is still too long. -/

namespace Gamebook.Json

/-- The length that a line of a spread value is kept to where that is possible. -/
def spreadLimit : Nat := 72

/-- Whether a text fits on a line after an indent and before what has to follow it. -/
def fitsLine (indent reserve : Nat) (shown : String) : Bool :=
  shown.length + indent + reserve ≤ spreadLimit

/-- The break before a line with an indent. -/
def lineBreak (indent : Nat) : String := "\n" ++ String.ofList (List.replicate indent ' ')

/-- A part of a text as a message shows it. -/
def shownPart (part : List Char) : String := Text.quoted (String.ofList part)

/-- Words together in rows, each as long as a line allows; the last one leaves room for what has to
follow it. `row` is the row that is being filled. -/
def rowsOfWords (indent reserve : Nat) (row : List Char) : List (List Char) → List (List Char)
  | [] => if row.isEmpty then [] else [row]
  | word :: rest =>
    let wider := row ++ word
    if fitsLine indent (if rest.isEmpty then reserve else 0) (shownPart wider) then
      rowsOfWords indent reserve wider rest
    else if row.isEmpty then rowsOfWords indent reserve word rest
    else row :: rowsOfWords indent reserve word rest

/-- The rows of the lines of a text. A line that fits is one row. -/
def rowsOfLines (indent reserve : Nat) : List (List Char) → List (List Char)
  | [] => []
  | line :: rest =>
    let reserve' := if rest.isEmpty then reserve else 0
    (if fitsLine indent reserve' (shownPart line) then [line]
      else rowsOfWords indent reserve' [] (Text.wordsOf line)) ++ rowsOfLines indent reserve rest

/-- A text in rows, each in quotes of its own. -/
def spreadText (indent reserve : Nat) (text : String) : List String :=
  (rowsOfLines indent reserve (Text.linesOf text.toList)).map shownPart

mutual

/-- A value within another one, after an indent and before what has to follow it. -/
def spreadPart (indent reserve : Nat) : Json → String
  | .text value =>
    let shown := Text.quoted value
    if value.isEmpty || fitsLine indent reserve shown then shown
    else String.intercalate (lineBreak indent) (spreadText indent reserve value)
  | .list items =>
    let shown := shown (.list items)
    if fitsLine indent reserve shown then shown
    else "[" ++ spreadItems (indent + 1) (reserve + 1) items ++ "]"
  | .object members =>
    let shown := shown (.object members)
    if fitsLine indent reserve shown then shown
    else "\x7b" ++ spreadMembers (indent + 1) (reserve + 1) members ++ "\x7d"
  | value => shown value

/-- Items on lines of their own; a comma follows each but the last. -/
def spreadItems (indent reserve : Nat) : List Json → String
  | [] => ""
  | [item] => spreadPart indent reserve item
  | item :: rest =>
    spreadPart indent 1 item ++ "," ++ lineBreak indent ++ spreadItems indent reserve rest

/-- Members on lines of their own; a comma follows each but the last. -/
def spreadMembers (indent reserve : Nat) : List (String × Json) → String
  | [] => ""
  | [(key, value)] =>
    let shown := Text.quoted key ++ ": "
    shown ++ spreadPart (indent + shown.length) reserve value
  | (key, value) :: rest =>
    let shown := Text.quoted key ++ ": "
    shown ++ spreadPart (indent + shown.length) 1 value ++ "," ++ lineBreak indent
      ++ spreadMembers indent reserve rest

end

/-- A value over as many lines as it needs. A text of several rows stands in round brackets. -/
def spread : Json → String
  | .text value =>
    let shown := Text.quoted value
    if value.isEmpty || fitsLine 0 0 shown then shown
    else match spreadText 1 1 value with
      | [row] => row
      | rows => "(" ++ String.intercalate (lineBreak 1) rows ++ ")"
  | value => spreadPart 0 0 value

end Gamebook.Json
