import Gamebook.Terminal.Paragraph

/-! Tables with a title and ruled columns, each as wide as its widest cell. -/

namespace Gamebook.Terminal

/-- A table; its cells are marked text. -/
structure Grid where
  title : String
  headings : List String
  rows : List (List String)
  deriving DecidableEq, Repr

/-- The characters of a horizontal rule: its left end, its line, its crossings and its right end. -/
structure Ruling where
  left : Char
  line : Char
  crossing : Char
  right : Char

namespace Ruling

/-- The rule above the headings. -/
def top : Ruling := ⟨'┏', '━', '┳', '┓'⟩

/-- The rule below the headings. -/
def belowHeadings : Ruling := ⟨'┡', '━', '╇', '┩'⟩

/-- The rule below the last row. -/
def bottom : Ruling := ⟨'└', '─', '┴', '┘'⟩

/-- A rule across columns, each with a blank on either side of its cells. -/
def across (widths : List Nat) (ruling : Ruling) : List Char :=
  ruling.left ::
    List.intercalate [ruling.crossing] (widths.map fun width =>
      List.replicate (width + 2) ruling.line)
    ++ [ruling.right]

end Ruling

namespace Grid

/-- The columns that a text takes, which are those of its widest line. -/
def widthOf (text : List Char) : Nat :=
  ((text.splitOnP Text.isLineBreak).map Text.cells).foldl max 0

/-- A text with blanks up to some columns. -/
def padded (width : Nat) (text : List Char) : List Char :=
  text ++ List.replicate (width - Text.cells text) ' '

/-- A text with blanks on both sides up to some columns; an odd blank goes to the right. -/
def centred (width : Nat) (text : List Char) : List Char :=
  padded width (List.replicate ((width - Text.cells text) / 2) ' ' ++ text)

/-- The cells of a row as they are shown. -/
def shownRow (row : List String) : List (List Char) :=
  row.map fun cell => Markup.shown cell.toList

/-- The widths of the columns of rows. -/
def widths (headings : List (List Char)) (rows : List (List (List Char))) : List Nat :=
  rows.foldl (List.zipWith fun width cell => max width (widthOf cell)) (headings.map widthOf)

/-- The lines of a row between upright rules; a row is as high as its highest cell. -/
def rowLines (upright : Char) (widths : List Nat) (row : List (List Char)) : List (List Char) :=
  let cells := List.zipWith (fun width cell => (width, wrap width cell)) widths row
  let height := (cells.map fun (_, lines) => lines.length).foldl max 0
  (List.range height).map fun number =>
    let parts := cells.map fun (width, lines) =>
      ' ' :: padded width (lines[number]?.getD []) ++ [' ']
    upright :: List.intercalate [upright] parts ++ [upright]

/-- The lines of a table. -/
def lines (grid : Grid) : List (List Char) :=
  let headings := shownRow grid.headings
  let rows := grid.rows.map shownRow
  let widths := widths headings rows
  let top := Ruling.top.across widths
  [centred (Text.cells top) (Markup.shown grid.title.toList), top]
    ++ rowLines '┃' widths headings
    ++ [Ruling.belowHeadings.across widths]
    ++ rows.flatMap (rowLines '│' widths)
    ++ [Ruling.bottom.across widths]

/-- A table as it is printed. -/
def text (grid : Grid) : String := printed grid.lines

end Grid

end Gamebook.Terminal
