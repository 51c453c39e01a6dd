import Gamebook.Terminal.Markup
import Gamebook.Text.Blank
import Gamebook.Text.Cluster
import Gamebook.Text.Lines

/-! Lines of a terminal: tab stops, and breaking long lines between words. -/

namespace Gamebook.Terminal

/-- The columns of a terminal whose width is not known. -/
def columns : Nat := 80

/-- The distance of tab stops. -/
def tabStop : Nat := 8

/-- The text between a tab and the one before it, with blanks up to the next tab stop; there is at
least one. The text starts at a tab stop. -/
def toTabStop (part : List Char) : List Char :=
  let line := part ++ [' ']
  line ++ List.replicate ((tabStop - Text.cells line % tabStop) % tabStop) ' '

/-- A line with each tab as the blanks up to the next tab stop. -/
def expandTabs (line : List Char) : List Char :=
  let parts := Text.splitAt '\t' line
  parts.dropLast.flatMap toTabStop ++ parts.getLast?.getD []

/-- A word with the blanks around it that stay with it. -/
structure Word where
  text : List Char
  -- The blanks after the word, which may hang over the end of a line.
  blanks : List Char
  deriving DecidableEq, Repr

/-- The words of a line: blanks before the first one belong to it, and blanks after a word follow
it. A line of blanks has no words. -/
def wordsOf (line : List Char) : List Word :=
  let runs := line.splitBy fun a b => Text.isBlank a = Text.isBlank b
  match runs with
  | [] => []
  | first :: rest =>
    if first.all Text.isBlank then
      match rest with
      | [] => []
      | word :: rest => pair (first ++ word) rest
    else pair first rest
where
  /-- Joins each word with the run of blanks that follows it. -/
  pair (word : List Char) : List (List Char) → List Word
    | [] => [⟨word, []⟩]
    | blanks :: [] => [⟨word, blanks⟩]
    | blanks :: next :: rest => ⟨word, blanks⟩ :: pair next rest

namespace Word

/-- A word with its blanks. -/
def chars (word : Word) : List Char := word.text ++ word.blanks

end Word

/-- A text cut into pieces of at most some columns, where `used` columns of the first piece are
taken. -/
def folded (width used : Nat) : List Text.Cluster → List (List Char)
  | [] => [[]]
  | cluster :: rest =>
    if width < used + cluster.width then [] :: put cluster.chars (folded width cluster.width rest)
    else put cluster.chars (folded width (used + cluster.width) rest)
where
  /-- Puts characters before the first piece. -/
  put (chars : List Char) : List (List Char) → List (List Char)
    | [] => [chars]
    | first :: rest => (chars ++ first) :: rest

/-- The lines that words fill, after a line that has been begun and the columns it takes. A word
that fits on no line is cut into pieces. -/
def fill (width : Nat) (line : List Char) (used : Nat) : List Word → List (List Char)
  | [] => [line]
  | word :: rest =>
    let size := Text.cells word.text
    if used + size ≤ width then fill width (line ++ word.chars) (used + Text.cells word.chars) rest
    else if size ≤ width then line :: fill width word.chars (Text.cells word.chars) rest
    else
      let pieces := folded width 0 (Text.clusters word.chars)
      let full := pieces.dropLast
      let last := pieces.getLast?.getD []
      (if line.isEmpty then full else line :: full) ++ fill width last (Text.cells last) rest

/-- A line without as many blanks at its end as it has characters too many. -/
def withoutHangingBlanks (width : Nat) (line : List Char) : List Char :=
  let excess := line.length - width
  let blanks := (line.reverse.takeWhile Text.isBlank).length
  line.take (line.length - min blanks excess)

/-- The longest start of a line that takes at most some columns; a blank stands for half of a
cluster. -/
def taken (width : Nat) : List Text.Cluster → List Char
  | [] => []
  | cluster :: rest =>
    if width = 0 then []
    else if cluster.width ≤ width then cluster.chars ++ taken (width - cluster.width) rest
    else [' ']

/-- A line, or as much of it as takes some columns. -/
def cut (width : Nat) (line : List Char) : List Char :=
  if Text.cells line ≤ width then line else taken width (Text.clusters line)

/-- A line as lines of at most some columns. -/
def wrapLine (width : Nat) (line : List Char) : List (List Char) :=
  match wordsOf line with
  | [] => [cut width (withoutHangingBlanks width line)]
  | words => (fill width [] 0 words).map fun line => cut width (withoutHangingBlanks width line)

/-- The lines of a text, each broken to fit some columns. -/
def wrap (width : Nat) (text : List Char) : List (List Char) :=
  (Text.splitAt '\n' text).flatMap fun line => wrapLine width (expandTabs line)

/-- Lines as they are printed. -/
def printed (lines : List (List Char)) : String :=
  String.join (lines.map fun line => String.ofList (line ++ ['\n']))

/-- Marked text, broken to fit the terminal. -/
def paragraph (markup : String) : String := printed (wrap columns (Markup.shown markup.toList))

/-- Marked text whose lines are as long as they are. -/
def unbroken (markup : String) : String :=
  printed ((Text.splitAt '\n' (Markup.shown markup.toList)).map expandTabs)

/-- An empty line. -/
def blankLine : String := "\n"

end Gamebook.Terminal
