import Gamebook.Yaml.Value

/-! YAML texts of one document. -/

namespace Gamebook.Yaml

/-- Whether a character may stand in a text. -/
def isAllowed (c : Char) : Bool :=
  let n := c.toNat
  n == 9 || n == 10 || n == 13 || (0x20 ≤ n && n ≤ 0x7e) || n == 0x85
    || (0xa0 ≤ n && n ≤ 0xfffd) || 0x10000 ≤ n

/-- The value of a text of one document; an empty one counts as null. -/
def parse (text : List Char) : Except Fault Node :=
  if !text.all isAllowed then .error .malformed
  else do
    match ← Tree.ofTokens (Token.ofText text) with
    | none => return .null
    | some tree => tree.node

end Gamebook.Yaml
