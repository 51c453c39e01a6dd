/-!
Message templates as text and places for values. A place is a percent sign, then if they are there a
name in brackets, flags, a width, a precision and a size, and at last the letter that says what is
written.
-/

namespace Gamebook.Log

/-- How many columns or digits a place asks for. -/
inductive Measure where
  | given (count : Nat)
  -- The next argument tells.
  | asked
  deriving DecidableEq, Repr

/-- The name of the value that a place asks for. -/
inductive PlaceName where
  | absent
  | given (name : String)
  -- The bracket before it is never closed.
  | unclosed
  deriving DecidableEq, Repr

/-- Flags of a place. -/
structure Flags where
  -- Blanks go to the right of the value.
  leftward : Bool
  -- A plus sign, or else a blank, stands before a number that is not negative.
  signed : Bool
  spaced : Bool
  -- The written form shows more: the base of an integer, the point of a real number.
  alternate : Bool
  -- Zeros fill the width of a number.
  zeros : Bool
  deriving DecidableEq, Repr

/-- A place for a value. -/
structure Place where
  name : PlaceName
  flags : Flags
  width : Option Measure
  precision : Option Measure
  -- The letter and its index in the template; the template may end before it.
  letter : Option (Char × Nat)
  deriving DecidableEq, Repr

/-- A piece of a template. -/
inductive Piece where
  | plain (c : Char)
  | place (place : Place)
  deriving DecidableEq, Repr

/-- The flags with the one that a character sets. -/
def Flags.set? (flags : Flags) (c : Char) : Option Flags :=
  if c = '-' then some { flags with leftward := true }
  else if c = '+' then some { flags with signed := true }
  else if c = ' ' then some { flags with spaced := true }
  else if c = '#' then some { flags with alternate := true }
  else if c = '0' then some { flags with zeros := true }
  else none

/-- The flags at the start of a text, and the rest. -/
def Flags.read (flags : Flags) : List Char → Flags × List Char
  | [] => (flags, [])
  | c :: rest => match flags.set? c with
    | some flags => flags.read rest
    | none => (flags, c :: rest)

/-- The text up to the bracket that closes a name, and the rest; names may hold brackets. -/
def nameText? (depth : Nat) : List Char → Option (List Char × List Char)
  | [] => none
  | c :: rest =>
    if c = ')' ∧ depth = 0 then some ([], rest)
    else
      let depth := if c = '(' then depth + 1 else if c = ')' then depth - 1 else depth
      (nameText? depth rest).map fun (name, rest) => (c :: name, rest)

/-- The name at the start of a text, and the rest. -/
def PlaceName.read : List Char → PlaceName × List Char
  | '(' :: rest => match nameText? 0 rest with
    | some (name, rest) => (.given (String.ofList name), rest)
    | none => (.unclosed, [])
  | input => (.absent, input)

/-- The number of columns or digits at the start of a text, and the rest. -/
def Measure.read : List Char → Option Measure × List Char
  | '*' :: rest => (some .asked, rest)
  | input =>
    let digits := input.takeWhile Char.isDigit
    let count := digits.foldl (fun count c => 10 * count + (c.toNat - '0'.toNat)) 0
    (if digits.isEmpty then none else some (.given count), input.dropWhile Char.isDigit)

/-- The precision at the start of a text, and the rest; a point alone is a precision of zero. -/
def readPrecision : List Char → Option Measure × List Char
  | '.' :: rest =>
    let (precision, rest) := Measure.read rest
    (some (precision.getD (.given 0)), rest)
  | input => (none, input)

/-- A text without the size of a value at its start. -/
def withoutSize : List Char → List Char
  | c :: rest => if c = 'h' ∨ c = 'l' ∨ c = 'L' then rest else c :: rest
  | [] => []

/-- The letter at the start of a text with its index, and the rest, in a template of some length. -/
def readLetter (length : Nat) : List Char → Option (Char × Nat) × List Char
  | c :: rest => (some (c, length - rest.length - 1), rest)
  | [] => (none, [])

/-- The place at the start of a text, and the rest. -/
def Place.read (length : Nat) (input : List Char) : Place × List Char :=
  let (name, input) := PlaceName.read input
  let (flags, input) := Flags.read ⟨false, false, false, false, false⟩ input
  let (width, input) := Measure.read input
  let (precision, input) := readPrecision input
  let (letter, input) := readLetter length (withoutSize input)
  (⟨name, flags, width, precision, letter⟩, input)

/-- What follows flags is no longer than the text. -/
theorem length_of_readFlags (flags : Flags) (input : List Char) :
    (flags.read input).2.length ≤ input.length := by
  fun_induction Flags.read flags input <;> simp_all <;> omega

/-- What follows a name is no longer than the text. -/
theorem length_of_nameText? {depth : Nat} {input name rest : List Char}
    (read : nameText? depth input = some (name, rest)) : rest.length ≤ input.length := by
  induction input generalizing depth name rest with
  | nil => simp [nameText?] at read
  | cons c following step =>
    rw [nameText?] at read
    -- The name ends at its closing bracket, or takes one more character.
    split at read
    · simp only [Option.some.injEq, Prod.mk.injEq] at read
      simp [← read.2]
    · simp only [Option.map_eq_some_iff, Prod.mk.injEq] at read
      obtain ⟨⟨inner, left⟩, found, _, rfl⟩ := read
      have shorter := step found
      simp only [List.length_cons]
      omega

/-- What follows the name of a place is no longer than the text. -/
theorem length_of_readName (input : List Char) :
    (PlaceName.read input).2.length ≤ input.length := by
  unfold PlaceName.read
  -- Only an opening bracket begins a name, and it is read as well.
  split
  · split
    · rename_i found
      have shorter := length_of_nameText? found
      simp only [List.length_cons]
      omega
    · simp
  · simp

/-- What follows a measure is no longer than the text. -/
theorem length_of_readMeasure (input : List Char) :
    (Measure.read input).2.length ≤ input.length := by
  unfold Measure.read
  -- A star is a measure by itself, and else there are digits.
  split
  · simp
  · exact (List.dropWhile_suffix _).length_le

/-- What follows a precision is no longer than the text. -/
theorem length_of_readPrecision (input : List Char) :
    (readPrecision input).2.length ≤ input.length := by
  unfold readPrecision
  -- Only a dot begins a precision, and it is read as well.
  split
  · rename_i rest
    have shorter := length_of_readMeasure rest
    simp only [List.length_cons]
    omega
  · simp

/-- What follows a place is no longer than the text. -/
theorem length_of_readPlace (length : Nat) (input : List Char) :
    (Place.read length input).2.length ≤ input.length := by
  -- Each part of a place is read from what the part before it leaves.
  have named := length_of_readName input
  have flagged := length_of_readFlags ⟨false, false, false, false, false⟩ (PlaceName.read input).2
  have wide := length_of_readMeasure
    (Flags.read ⟨false, false, false, false, false⟩ (PlaceName.read input).2).2
  have precise := length_of_readPrecision (Measure.read
    (Flags.read ⟨false, false, false, false, false⟩ (PlaceName.read input).2).2).2
  have sized (text : List Char) : (withoutSize text).length ≤ text.length := by
    unfold withoutSize
    split
    · split <;> simp
    · simp
  have lettered (text : List Char) : (readLetter length text).2.length ≤ text.length := by
    unfold readLetter
    split <;> simp
  simp only [Place.read]
  exact Nat.le_trans (lettered _) (Nat.le_trans (sized _) (by omega))

/-- The pieces of the rest of a template; a doubled percent sign stands for itself. -/
def piecesOf (length : Nat) (input : List Char) : List Piece :=
  match input with
  | [] => []
  | '%' :: '%' :: rest => .plain '%' :: piecesOf length rest
  | '%' :: rest =>
    have := length_of_readPlace length rest
    .place (Place.read length rest).1 :: piecesOf length (Place.read length rest).2
  | c :: rest => .plain c :: piecesOf length rest
termination_by input.length
decreasing_by all_goals simp only [List.length_cons]; omega

/-- The pieces of a template. -/
def pieces (template : List Char) : List Piece := piecesOf template.length template

end Gamebook.Log
