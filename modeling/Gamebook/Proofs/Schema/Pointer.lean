import Gamebook.Schema.Pointer

/-! Pointers are lossless: a written pointer is read back as the path that it was written for, so no
two paths are written alike. -/

namespace Gamebook

namespace Text

variable {separator : Char}

/-- A piece without the separator ends at the first separator after it. -/
theorem splitAt_append_cons {piece : List Char} (free : separator ∉ piece) (rest : List Char) :
    splitAt separator (piece ++ separator :: rest) = piece :: splitAt separator rest := by
  induction piece with
  | nil => simp [splitAt]
  | cons c piece ih =>
    -- No character of the piece is the separator, so the piece goes on to the first one.
    rw [List.mem_cons, not_or] at free
    rw [List.cons_append, splitAt, if_neg (Ne.symm free.1), ih free.2]

/-- A text without the separator is its own only piece. -/
theorem splitAt_of_not_mem {piece : List Char} (free : separator ∉ piece) :
    splitAt separator piece = [piece] := by
  induction piece with
  | nil => rfl
  | cons c piece ih =>
    -- No character of the piece is the separator, so the piece goes on to the end.
    rw [List.mem_cons, not_or] at free
    rw [splitAt, if_neg (Ne.symm free.1), ih free.2]

/-- Pieces without the separator are found again between the separators that join them. -/
theorem splitAt_joined {first : List Char} {others : List (List Char)}
    (free : ∀ piece ∈ first :: others, separator ∉ piece) :
    splitAt separator (first ++ others.flatMap (separator :: ·)) = first :: others := by
  induction others generalizing first with
  | nil =>
    rw [List.flatMap_nil, List.append_nil]
    exact splitAt_of_not_mem (free first List.mem_cons_self)
  | cons second rest ih =>
    -- The first piece is cut off, and the next one starts behind the separator.
    rw [List.forall_mem_cons] at free
    rw [List.flatMap_cons, List.cons_append, splitAt_append_cons free.1, ih free.2]

/-- A text with each occurrence of a part replaced, from left to right; the part is not empty. -/
def replaced (part other : List Char) : List Char → List Char
  | [] => []
  | c :: rest =>
    if part.isPrefixOf (c :: rest) then
      other ++ replaced part other (rest.drop (part.length - 1))
    else c :: replaced part other rest
termination_by text => text.length
decreasing_by
  · rw [List.length_drop, List.length_cons]
    omega
  · exact Nat.lt_succ_self _

section Replaced

variable {a b c : Char} {other rest : List Char}

/-- Replacing one character looks at each character by itself. -/
theorem replaced_singleton (text : List Char) :
    replaced [a] other text = text.flatMap fun c => if a = c then other else [c] := by
  induction text with
  | nil => rw [replaced, List.flatMap_nil]
  | cons c rest ih =>
    rw [replaced, List.flatMap_cons, ← ih]
    -- A single character is replaced wherever it stands.
    by_cases same : a = c <;> simp [List.isPrefixOf, same]

/-- A pair of characters is replaced where it stands at the beginning. -/
theorem replaced_pair_here : replaced [a, b] other (a :: b :: rest) =
    other ++ replaced [a, b] other rest := by
  simp [replaced, List.isPrefixOf]

/-- Where a pair of characters does not stand at the beginning, the first character is kept. -/
theorem replaced_pair_later (absent : ∀ after, c = a → rest ≠ b :: after) :
    replaced [a, b] other (c :: rest) = c :: replaced [a, b] other rest := by
  -- The pair does not start here, so the character is kept.
  have later : [a, b].isPrefixOf (c :: rest) = false := by
    cases rest with
    | nil => simp [List.isPrefixOf]
    | cons d after =>
      have := absent after
      grind [List.isPrefixOf]
  rw [replaced, later]
  simp

end Replaced

end Text

namespace Schema.Pointer

open Text (replaced)

/-- Steps are escaped by replacing tildes first and slashes second. -/
theorem escaped_eq_replaced (step : List Char) :
    escaped step = replaced ['/'] ['~', '1'] (replaced ['~'] ['~', '0'] step) := by
  rw [Text.replaced_singleton, Text.replaced_singleton]
  -- The tilde goes first, so that the tilde of an escaped slash is not escaped again.
  fun_induction escaped step with
  | case1 => rfl
  | case2 rest ih => simp [ih]
  | case3 rest ih => simp [ih]
  | case4 c rest tilde slash ih => simp [ih, Ne.symm tilde, Ne.symm slash]

/-- Replacing escaped slashes makes no step begin with a character that it did not begin with, other
than a slash. -/
theorem exists_cons_of_replaced_slashes {c : Char} {token after : List Char} (other : c ≠ '/')
    (begins : replaced ['~', '1'] ['/'] token = c :: after) : ∃ rest, token = c :: rest := by
  cases token with
  | nil => simp [replaced] at begins
  | cons d rest =>
    rw [replaced] at begins
    -- A replaced pair begins with a slash, and any other character is kept.
    split at begins
    · simp only [List.cons_append, List.cons.injEq] at begins
      exact absurd begins.1.symm other
    · simp only [List.cons.injEq] at begins
      exact ⟨rest, by rw [begins.1]⟩

/-- Escapes are undone by replacing escaped slashes first and escaped tildes second. -/
theorem unescaped_eq_replaced (token : List Char) :
    unescaped token = replaced ['~', '0'] ['~'] (replaced ['~', '1'] ['/'] token) := by
  fun_induction unescaped token with
  | case1 => simp [replaced]
  | case2 rest ih =>
    -- An escaped tilde is left alone with the slashes, and undone after them.
    have kept : replaced ['~', '1'] ['/'] ('~' :: '0' :: rest) =
        '~' :: '0' :: replaced ['~', '1'] ['/'] rest := by
      rw [Text.replaced_pair_later (by simp), Text.replaced_pair_later (by simp)]
    rw [kept, Text.replaced_pair_here, ih]
    rfl
  | case3 rest ih =>
    rw [Text.replaced_pair_here, List.cons_append, List.nil_append,
      Text.replaced_pair_later (by simp), ih]
  | case4 c rest tilde slash ih =>
    have kept : replaced ['~', '1'] ['/'] (c :: rest) = c :: replaced ['~', '1'] ['/'] rest :=
      Text.replaced_pair_later fun after same => slash after same
    rw [kept, Text.replaced_pair_later, ih]
    -- No escaped tilde comes about by replacing slashes.
    intro after same begins
    obtain ⟨rest', rfl⟩ := exists_cons_of_replaced_slashes (by decide) begins
    exact tilde rest' same rfl

/-- A step is found again by undoing its escapes. -/
theorem unescaped_escaped (step : List Char) : unescaped (escaped step) = step := by
  -- By the cases of escaping: a tilde, a slash, or another character.
  fun_induction escaped step with
  | case1 => rfl
  | case2 rest ih => rw [unescaped, ih]
  | case3 rest ih => rw [unescaped, ih]
  | case4 c rest tilde slash ih =>
    rw [unescaped, ih]
    · exact fun _ same _ => tilde same
    · exact fun _ same _ => tilde same

/-- An escaped step has no slash. -/
theorem slash_not_mem_escaped (step : List Char) : '/' ∉ escaped step := by
  -- A slash is written as a tilde and a digit, and no other character is written as one.
  fun_induction escaped step with
  | case1 => simp
  | case2 rest ih => simpa using ih
  | case3 rest ih => simpa using ih
  | case4 c rest tilde slash ih => simpa using ⟨Ne.symm slash, ih⟩

/-- The characters of a written pointer: each step after a slash. -/
theorem toList_written {steps : List String} (nonempty : steps ≠ []) :
    (written steps).toList = steps.flatMap fun step => '/' :: escaped step.toList := by
  -- Every step is written behind a slash of its own.
  rw [written, if_neg (by simpa using nonempty), String.toList_join, List.flatMap_map]
  simp [String.toList_append]

/-- A written pointer is read back as its path. -/
theorem path_written (steps : List String) : path (written steps) = steps := by
  cases steps with
  | nil => rfl
  | cons first others =>
    have chars : (written (first :: others)).toList = '/' :: (escaped first.toList ++
        (others.map fun step => escaped step.toList).flatMap ('/' :: ·)) := by
      rw [toList_written (List.cons_ne_nil first others), List.flatMap_map, List.flatMap_cons,
        List.cons_append]
    -- A pointer begins with a slash, unlike the name of the whole value.
    have inner : written (first :: others) ≠ "root" := by
      intro same
      rw [same] at chars
      simp at chars
    have pieces : ∀ piece ∈ escaped first.toList :: others.map fun step => escaped step.toList,
        '/' ∉ piece := by
      simp only [List.forall_mem_cons, List.forall_mem_map]
      exact ⟨slash_not_mem_escaped _, fun step _ => slash_not_mem_escaped _⟩
    rw [path, if_neg inner, chars, List.drop_one, List.tail_cons, Text.splitAt_joined pieces]
    simp [unescaped_escaped, Function.comp_def]

/-- The pointer to a location is read back as the texts of its steps, so that locations are written
alike only if their steps have the same texts. In a pointer tildes are escaped before slashes, and
read back after them. -/
theorem written_isLossless (location : List LocPart) :
    path (written (location.map LocPart.text)) = location.map LocPart.text ∧
    (∀ other : List LocPart,
      written (other.map LocPart.text) = written (location.map LocPart.text) ↔
      other.map LocPart.text = location.map LocPart.text) ∧
    (∀ step, escaped step = replaced ['/'] ['~', '1'] (replaced ['~'] ['~', '0'] step)) ∧
    ∀ token, unescaped token = replaced ['~', '0'] ['~'] (replaced ['~', '1'] ['/'] token) := by
  refine ⟨path_written _, ?_, escaped_eq_replaced, unescaped_eq_replaced⟩
  intro other
  -- What is read from the written location is the location.
  constructor
  · intro same
    rw [← path_written (other.map LocPart.text), same, path_written]
  · intro same
    rw [same]

/-- Steps that are empty, that hold escapes, or that spell the name of the whole value. -/
example : written (([.key "", .key "~1/", .index 0, .key "root"] : List LocPart).map LocPart.text) =
    "//~01~1/0/root" := by decide +kernel

end Schema.Pointer

end Gamebook
