import Gamebook.Text.CellWidth

/-!
Terminal columns of texts. A text is not as wide as its characters together: a joiner draws the
character after it into the one before, and the emoji selector widens a symbol.
-/

namespace Gamebook.Text

/-- The character that joins the ones on either side of it. -/
def joiner : Char := Char.ofNat 0x200d

/-- The character after a symbol that is to be shown as emoji. -/
def emojiSelector : Char := Char.ofNat 0xfe0f

/-- The columns that the emoji selector adds to a symbol. -/
def emojiExtra : Option Char → Nat
  | none => 0
  | some symbol => if inRanges emojiRanges symbol.toNat then 1 else 0

/-- The columns of a text after a symbol that can still be widened. -/
def cellsAfter (symbol : Option Char) : List Char → Nat
  | [] => 0
  | [c] => if c = emojiSelector then emojiExtra symbol else cellWidth c
  | c :: next :: rest =>
    if c = joiner then cellsAfter symbol rest
    else if c = emojiSelector then emojiExtra symbol + cellsAfter none (next :: rest)
    else if cellWidth c = 0 then cellsAfter symbol (next :: rest)
    else cellWidth c + cellsAfter (some c) (next :: rest)

/-- The number of terminal columns of a text. -/
def cells (text : List Char) : Nat := cellsAfter none text

/-- Characters that are shown as one sign, and the columns it takes. -/
structure Cluster where
  chars : List Char
  width : Nat
  deriving DecidableEq, Repr

namespace Cluster

/-- A cluster with further characters that take some columns more. -/
def extend (cluster : Cluster) (chars : List Char) (width : Nat) : Cluster :=
  ⟨cluster.chars ++ chars, cluster.width + width⟩

end Cluster

/-- The clusters of a text that goes on after a begun cluster and a symbol that can still be
widened. -/
def clustersAfter (begun : Cluster) (symbol : Option Char) : List Char → List Cluster
  | [] => [begun]
  | [c] =>
    if c = emojiSelector then [begun.extend [c] (emojiExtra symbol)]
    else if cellWidth c = 0 then [begun.extend [c] 0]
    else [begun, ⟨[c], cellWidth c⟩]
  | c :: next :: rest =>
    if c = joiner then clustersAfter (begun.extend [c, next] 0) symbol rest
    else if c = emojiSelector then
      clustersAfter (begun.extend [c] (emojiExtra symbol)) none (next :: rest)
    else if cellWidth c = 0 then clustersAfter (begun.extend [c] 0) symbol (next :: rest)
    else begun :: clustersAfter ⟨[c], cellWidth c⟩ (some c) (next :: rest)

/-- The clusters of a text; what takes no column belongs to the cluster before it. -/
def clusters : List Char → List Cluster
  | [] => []
  | c :: rest =>
    clustersAfter ⟨[c], cellWidth c⟩ (if cellWidth c = 0 then none else some c) rest

end Gamebook.Text
