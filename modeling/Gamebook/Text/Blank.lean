/-! Blank characters of Unicode, and trimming them. -/

namespace Gamebook.Text

/-- The white space property of Unicode. -/
def isWhiteSpace (c : Char) : Bool :=
  let n := c.toNat
  (9 ≤ n && n ≤ 13) || n == 0x20 || n == 0x85 || n == 0xa0 || n == 0x1680
    || (0x2000 ≤ n && n ≤ 0x200a) || n == 0x2028 || n == 0x2029 || n == 0x202f || n == 0x205f
    || n == 0x3000

/-- White space together with the four information separators. -/
def isBlank (c : Char) : Bool := isWhiteSpace c || (0x1c ≤ c.toNat && c.toNat ≤ 0x1f)

/-- The words of a text, each with the blanks after it; blanks before the first one are a word. -/
def wordsOf : List Char → List (List Char)
  | [] => []
  | c :: rest =>
    match wordsOf rest with
    | [] => [[c]]
    | first :: others =>
      if isBlank c && !first.head?.any isBlank then [c] :: first :: others
      else (c :: first) :: others

/-- A text without the characters of a class at either end. -/
def trim (ofClass : Char → Bool) (text : List Char) : List Char :=
  ((text.dropWhile ofClass).reverse.dropWhile ofClass).reverse

end Gamebook.Text
