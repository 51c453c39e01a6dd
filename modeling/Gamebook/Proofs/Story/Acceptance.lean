import Gamebook.Proofs.Kind
import Gamebook.Proofs.Schema.Recognize
import Gamebook.Proofs.Story.Normal

/-! What is accepted, said without a reader: single values by the conversions that they allow, and
fields by the values that stand under their names. -/

namespace Gamebook

namespace Checked

variable {α β γ : Type}

/-- An outcome is accepted as some value. -/
theorem isAccepted_iff {outcome : Checked α} :
    outcome.isAccepted = true ↔ ∃ value, outcome = .accepted value := by
  cases outcome <;> simp [isAccepted]

/-- What is accepted is accepted. -/
@[simp] theorem isAccepted_accepted (value : α) : (accepted value).isAccepted = true := rfl

/-- What is refused is not accepted. -/
@[simp] theorem isAccepted_refused (issues : List Issue) :
    (refused issues : Checked α).isAccepted = false := rfl

/-- A refusal for a single problem is no acceptance. -/
@[simp] theorem isAccepted_refuse (problem : Problem) :
    (refuse problem : Checked α).isAccepted = false := rfl

/-- A combination is accepted where both of its outcomes are. -/
@[simp] theorem isAccepted_both (combine : α → β → γ) (left : Checked α) (right : Checked β) :
    (both combine left right).isAccepted = (left.isAccepted && right.isAccepted) := by
  cases left <;> cases right <;> rfl

/-- A mapped outcome is accepted where the outcome is. -/
@[simp] theorem isAccepted_map (convert : α → β) (outcome : Checked α) :
    (convert <$> outcome).isAccepted = outcome.isAccepted :=
  isAccepted_both _ (accepted convert) outcome

/-- An applied outcome is accepted where the function and the argument are. -/
@[simp] theorem isAccepted_seq (functions : Checked (α → β)) (values : Checked α) :
    (functions <*> values).isAccepted = (functions.isAccepted && values.isAccepted) :=
  isAccepted_both _ functions values

/-- Seen from further out, an outcome is accepted where it was. -/
@[simp] theorem isAccepted_under (part : LocPart) (outcome : Checked α) :
    (outcome.under part).isAccepted = outcome.isAccepted := by
  cases outcome <;> rfl

end Checked

namespace Story

open Checked Schema

section Values

variable {value : Json}

/-- A value counts as a real number: a real number, a boolean, an integer that is not too large for
one, or a numeral. -/
inductive CountsAsReal : Json → Binary64 → Prop where
  | real (number : Binary64) : CountsAsReal (.real number) number
  | bool (truth : Bool) : CountsAsReal (.bool truth) (.ofInt (if truth then 1 else 0))
  | int {number : Int} (small : ∀ negative, Binary64.ofInt number ≠ .infinite negative) :
      CountsAsReal (.int number) (.ofInt number)
  | text {word : String} {number : Binary64} (numeral : realOfText? word.toList = some number) :
      CountsAsReal (.text word) number

/-- A value counts as an integer: an integer or a boolean, a whole real number inside the range of
64 bits, or the numeral of an integer. -/
inductive CountsAsInteger : Json → Int → Prop where
  | int (number : Int) : CountsAsInteger (.int number) number
  | bool (truth : Bool) : CountsAsInteger (.bool truth) (if truth then 1 else 0)
  | real {real : Binary64} {number : Int} (whole : real.isWhole = true)
      (same : real.truncate? = some number) (above : -wordBound < number)
      (below : number < wordBound) : CountsAsInteger (.real real) number
  | text {word : String} {number : Int}
      (numeral : Text.readPaddedInteger word.toList = .ok number) :
      CountsAsInteger (.text word) number

/-- A comparison operator, by its word. -/
def IsOperator (value : Json) : Prop := ∃ operator : StatOperator, value = .text operator.name

/-- What counts as a real number. -/
def IsReal (value : Json) : Prop := ∃ number, CountsAsReal value number

/-- What counts as an integer of at least one. -/
def IsCount (value : Json) : Prop := ∃ number, CountsAsInteger value number ∧ 1 ≤ number

/-- An integer has a binary64 number unless it is too large for one. -/
theorem realOfInt?_eq_some_iff {number : Int} {real : Binary64} :
    realOfInt? number = some real ↔
      (∀ negative, Binary64.ofInt number ≠ .infinite negative) ∧ Binary64.ofInt number = real := by
  rw [realOfInt?]
  cases Binary64.ofInt number <;> simp

/-- A value is read as the real number that it counts as. -/
theorem readReal_eq_accepted_iff {number : Binary64} :
    readReal value = .accepted number ↔ CountsAsReal value number := by
  constructor
  · intro ok
    -- A number and a truth value stand for themselves; an integer may be too large to round.
    cases value with
    | real real =>
      cases ok
      exact .real _
    | bool truth =>
      cases ok
      exact .bool truth
    | int whole =>
      simp only [readReal] at ok
      split at ok
      -- The size bound and the rounded value both come from the conversion.
      · next real found =>
        cases ok
        obtain ⟨small, rfl⟩ := realOfInt?_eq_some_iff.1 found
        exact .int small
      · cases ok
    | text word =>
      simp only [readReal] at ok
      split at ok
      · next real found =>
        cases ok
        exact .text found
      · cases ok
    | _ => cases ok
  -- _ | small | numeral) | each rule of the relation names the branch that reads the value.
  · rintro (_ | _ | small | numeral)
    · rfl
    · rfl
    · simp only [readReal, realOfInt?_eq_some_iff.2 ⟨small, rfl⟩]
    · simp only [readReal, numeral]

/-- A value is read as the integer that it counts as. -/
theorem readInteger_eq_accepted_iff {number : Int} :
    readInteger value = .accepted number ↔ CountsAsInteger value number := by
  constructor
  · intro ok
    cases value with
    | int whole =>
      cases ok
      exact .int _
    | bool truth =>
      cases ok
      exact .bool truth
    | real real =>
      simp only [readInteger] at ok
      split at ok
      · cases ok
      -- A real counts only when it is whole and fits a machine word.
      · next truncated same =>
        split at ok
        · cases ok
        · next whole =>
          split at ok
          · next inside =>
            cases ok
            simp only [insideWord, Bool.and_eq_true, decide_eq_true_eq] at inside
            exact .real (by simpa using whole) same inside.1 inside.2
          · cases ok
    | text word =>
      simp only [readInteger, readIntegerText] at ok
      split at ok
      · next found =>
        cases ok
        exact .text found
      · cases ok
      · cases ok
    | _ => cases ok
  -- _ | ⟨whole, same, above, below⟩ | numeral) | each rule of the relation names the branch that
  -- reads the value.
  · rintro (_ | _ | ⟨whole, same, above, below⟩ | numeral)
    · rfl
    · rfl
    · have inside : insideWord number = true := by simp [insideWord, above, below]
      simp [readInteger, same, whole, inside]
    · simp only [readInteger, readIntegerText, numeral]

/-- Only names are accepted as names. -/
theorem isAccepted_readName_iff : (readName value).isAccepted = true ↔ IsName value := by
  simp only [isAccepted_iff, readName_eq_accepted_iff, IsName]

/-- Only the marks of operators are accepted as operators. -/
theorem isAccepted_readOperator_iff :
    (readOperator value).isAccepted = true ↔ IsOperator value := by
  -- The table of operators finds a name exactly when some operator bears it.
  have marked : (∃ operator, value.text?.bind StatOperator.ofName? = some operator) ↔
      IsOperator value := by
    simp [Option.bind_eq_some_iff, Json.text?_eq_some_iff, StatOperator.ofName?_eq_some_iff,
      IsOperator]
  rw [← marked, readOperator]
  cases value.text?.bind StatOperator.ofName? <;> simp

/-- Only what counts as a real number is accepted as one. -/
theorem isAccepted_readReal_iff : (readReal value).isAccepted = true ↔ IsReal value := by
  simp only [isAccepted_iff, readReal_eq_accepted_iff, IsReal]

/-- Only what counts as a positive integer is accepted as a count. -/
theorem isAccepted_readCount_iff : (readCount value).isAccepted = true ↔ IsCount value := by
  simp only [IsCount, ← readInteger_eq_accepted_iff, readCount]
  -- Reading the integer comes first, and only then is its size looked at.
  cases readInteger value with
  | accepted number =>
    by_cases small : number < 1
    · simp [small]
    · have large : 1 ≤ number := by omega
      simp [small, large]
  | refused issues => simp

/-- A value that may be null is accepted as null, or as what it stands for. -/
theorem isAccepted_orNull_iff {α : Type} {read : Json → Checked α} :
    (orNull read value).isAccepted = true ↔ value = .null ∨ (read value).isAccepted = true := by
  cases value <;> simp [orNull]

/-- The items of a list are accepted where each of them is. -/
theorem isAccepted_readItems_iff {α : Type} {read : Json → Checked α} {place : Nat}
    {items : List Json} :
    (readItems read place items).isAccepted = true ↔
      ∀ item ∈ items, (read item).isAccepted = true := by
  -- The place only labels errors, so it stays general.
  induction items generalizing place with
  | nil => simp [readItems]
  | cons item rest ih => simp [readItems, ih]

/-- A list or a single value is accepted where one of the two is. -/
@[simp] theorem isAccepted_choose {α : Type} (label : String) (list : Checked (List α))
    (single : Checked α) :
    (OneOrMany.choose label list single).isAccepted = (list.isAccepted || single.isAccepted) := by
  cases list <;> cases single <;> rfl

end Values

section Fields

variable {field : Field} {members : List (String × Json)} {form : Json → Prop} {value : Json}

/-- A field has a value: the one under its key, or where there is none the one under its second
name. -/
def Field.Holds (field : Field) (members : List (String × Json)) (value : Json) : Prop :=
  Table.get? field.key members = some value ∨
    Table.get? field.key members = none ∧ Table.get? field.name members = some value

/-- A field is there, with a value of a form. -/
def Field.Has (field : Field) (form : Json → Prop) (members : List (String × Json)) : Prop :=
  ∃ value, field.Holds members value ∧ form value

/-- A field is absent, or null, or has a value of a form. -/
def Field.MayHave (field : Field) (form : Json → Prop) (members : List (String × Json)) : Prop :=
  ∀ value, field.Holds members value → value = .null ∨ form value

/-- What a field has is what is found of it. -/
theorem Field.holds_iff :
    field.Holds members value ↔ ∃ key, field.find? members = some (key, value) :=
  exists_key_iff_find?.symm

variable {α : Type} {read : Json → Checked α}

/-- A required field is accepted where it has an accepted value. -/
theorem Field.isAccepted_required_iff
    (accepts : ∀ value, (read value).isAccepted = true ↔ form value) :
    (field.required read members).isAccepted = true ↔ field.Has form members := by
  simp only [Has, holds_iff, required, ← accepts]
  -- Whichever key the field stands under, acceptance is that of the value found there.
  cases found : field.find? members with
  | none => simp
  | some entry => simp [Prod.ext_iff]

/-- An optional field that may be null is accepted where it has no value that is neither null nor
accepted. -/
theorem Field.isAccepted_optional_iff
    (accepts : ∀ value, (read value).isAccepted = true ↔ form value) (default : Option α) :
    (field.optional default (orNull read) members).isAccepted = true ↔
      field.MayHave form members := by
  simp only [MayHave, holds_iff, optional, ← accepts, ← isAccepted_orNull_iff]
  -- An absent field takes its default, and null is let through before the reader sees it.
  cases found : field.find? members with
  | none => simp
  | some entry => simp [Prod.ext_iff]

end Fields

end Story

end Gamebook
