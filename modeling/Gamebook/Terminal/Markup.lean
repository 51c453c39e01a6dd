/-!
Text with tags in square brackets, which set styles and are not shown, and the escaping that keeps
what looks like a tag visible.
-/

namespace Gamebook.Terminal

/-- A piece of marked text. -/
inductive MarkupPiece where
  | plain (c : Char)
  -- A tag with its brackets, after a run of backslashes.
  | tag (slashes : Nat) (text : List Char)
  deriving DecidableEq, Repr

namespace Markup

/-- Whether a tag can start with a character. -/
def startsTag (c : Char) : Bool :=
  ('a' ≤ c && c ≤ 'z') || c = '#' || c = '/' || c = '@'

/-- The inside of a tag with its closing bracket, and the text after it; tags do not nest. -/
def tagBody? : List Char → Option (List Char × List Char)
  | [] => none
  | c :: rest =>
    if c = ']' then some ([c], rest)
    else if c = '[' then none
    else (tagBody? rest).map fun (body, after) => (c :: body, after)

/-- The tag that a text starts with, and the text after it. -/
def tag? : List Char → Option (List Char × List Char)
  | '[' :: c :: rest =>
    if startsTag c then (tagBody? rest).map fun (body, after) => ('[' :: c :: body, after)
    else none
  | _ => none

/-- What follows the inside of a tag is shorter. -/
theorem length_of_tagBody? {input body after : List Char}
    (read : tagBody? input = some (body, after)) : after.length < input.length := by
  -- The closing bracket at least is used up.
  induction input generalizing body after with
  | nil => simp [tagBody?] at read
  | cons c rest ih =>
    simp only [tagBody?] at read
    split at read
    · simp only [Option.some.injEq, Prod.mk.injEq] at read
      simp [read.2]
    · split at read
      · simp at read
      · simp only [Option.map_eq_some_iff, Prod.mk.injEq] at read
        obtain ⟨⟨inner, left⟩, found, _, rfl⟩ := read
        have shorter := ih found
        simp only [List.length_cons]
        omega

/-- What follows a tag is shorter. -/
theorem length_of_tag? {input tag after : List Char}
    (read : tag? input = some (tag, after)) : after.length < input.length := by
  -- The opening bracket is used up before the body is read.
  unfold tag? at read
  split at read
  · split at read
    · simp only [Option.map_eq_some_iff, Prod.mk.injEq] at read
      obtain ⟨⟨body, left⟩, found, _, rfl⟩ := read
      have shorter := length_of_tagBody? found
      simp only [List.length_cons]
      omega
    · simp at read
  · simp at read

/-- The pieces of a text; all backslashes right before a tag belong to it. -/
def pieces (input : List Char) : List MarkupPiece :=
  match input with
  | [] => []
  | c :: rest =>
    let slashes := (c :: rest).takeWhile (· = '\\')
    match found : tag? ((c :: rest).drop slashes.length) with
    | some (tag, after) =>
      have : after.length < (c :: rest).length :=
        Nat.lt_of_lt_of_le (length_of_tag? found) (by simp)
      .tag slashes.length tag :: pieces after
    | none => .plain c :: pieces rest
termination_by input.length
decreasing_by
  · assumption
  · exact Nat.lt_succ_self rest.length

/-- A piece in a text that shows it as it is: the backslashes are doubled, and one more keeps the
tag. -/
def escapedPiece : MarkupPiece → List Char
  | .plain c => [c]
  | .tag slashes text => List.replicate (2 * slashes + 1) '\\' ++ text

/-- A text whose last backslash stands alone, with that backslash doubled. -/
def closed (input : List Char) : List Char :=
  match input.reverse with
  | '\\' :: '\\' :: _ => input
  | '\\' :: _ => input ++ ['\\']
  | _ => input

/-- Pieces as they are shown: half of the backslashes before a tag, and the tag itself only after
an odd number of them. Elsewhere a backslash right before an opening bracket is left out. -/
def shownPieces : List MarkupPiece → List Char
  | [] => []
  | .plain '\\' :: .plain '[' :: rest => '[' :: shownPieces rest
  | .plain c :: rest => c :: shownPieces rest
  | .tag slashes text :: rest =>
    List.replicate (slashes / 2) '\\' ++ (if slashes % 2 = 1 then text else [])
      ++ shownPieces rest

/-- Control characters that a terminal would act on: bell, backspace, vertical tab, form feed and
carriage return. -/
def isActing (c : Char) : Bool := [7, 8, 11, 12, 13].contains c.toNat

/-- A text without its tags and without acting characters. -/
def shown (input : List Char) : List Char :=
  (shownPieces (pieces input)).filter fun c => !isActing c

end Markup

/-- A text in which everything that looks like a tag is shown as it is. -/
def escaped (text : String) : String :=
  String.ofList (Markup.closed ((Markup.pieces text.toList).flatMap Markup.escapedPiece))

end Gamebook.Terminal
