import Gamebook.Story.Scalar
import Mathlib.Data.List.Forall2

/-! Laws of checking: what is behind an acceptance, and that every refusal gives a reason. -/

namespace Gamebook.Checked

variable {α β γ : Type}

/-- Both outcomes are accepted where their combination is. -/
theorem both_eq_accepted_iff {combine : α → β → γ} {left : Checked α} {right : Checked β}
    {result : γ} :
    both combine left right = .accepted result ↔
      ∃ a, left = .accepted a ∧ ∃ b, right = .accepted b ∧ combine a b = result := by
  cases left <;> cases right <;> simp [both]

/-- A mapped outcome is accepted where the outcome is. -/
theorem map_eq_accepted_iff {convert : α → β} {outcome : Checked α} {result : β} :
    convert <$> outcome = .accepted result ↔ ∃ a, outcome = .accepted a ∧ convert a = result := by
  cases outcome <;> simp [Functor.map, both]

/-- An applied outcome is accepted where the function and the argument are. -/
theorem seq_eq_accepted_iff {functions : Checked (α → β)} {values : Checked α} {result : β} :
    functions <*> values = .accepted result ↔
      ∃ function, functions = .accepted function ∧
        ∃ a, values = .accepted a ∧ function a = result :=
  both_eq_accepted_iff

/-- Seen from further out, an outcome is accepted where it was. -/
theorem under_eq_accepted_iff {part : LocPart} {outcome : Checked α} {value : α} :
    outcome.under part = .accepted value ↔ outcome = .accepted value := by
  cases outcome <;> simp [under]

/-- An outcome is no refusal without an issue. -/
def IsReasoned (outcome : Checked α) : Prop := outcome ≠ .refused []

/-- Where there is no issue, a value is accepted. -/
theorem IsReasoned.exists_accepted {outcome : Checked α} (reasoned : outcome.IsReasoned)
    (clear : outcome.issues = []) : ∃ value, outcome = .accepted value := by
  -- A refusal would have an issue.
  cases outcome with
  | accepted value => exact ⟨value, rfl⟩
  | refused issues => exact absurd (congrArg Checked.refused clear) reasoned

/-- An acceptance is no refusal at all. -/
@[simp] theorem isReasoned_accepted (value : α) : (accepted value).IsReasoned := nofun

/-- A refusal for a problem has that as its reason. -/
@[simp] theorem isReasoned_refuse (problem : Problem) : (refuse problem : Checked α).IsReasoned :=
  nofun

/-- A refusal with an issue has that as its reason. -/
@[simp] theorem isReasoned_refused_cons (issue : Issue) (issues : List Issue) :
    (refused (issue :: issues) : Checked α).IsReasoned := nofun

/-- Refusals are combined to a refusal with a reason if one of them has a reason. -/
theorem isReasoned_both {combine : α → β → γ} {left : Checked α} {right : Checked β}
    (first : left.IsReasoned) (second : right.IsReasoned) :
    (both combine left right).IsReasoned := by
  -- One refused side is enough to have its reasons.
  cases left with
  | accepted a => cases right <;> simp_all [both, IsReasoned]
  | refused issues => cases right <;> simp_all [both, IsReasoned]

/-- A mapped outcome is refused for the reasons of the outcome. -/
theorem isReasoned_map {convert : α → β} {outcome : Checked α} (reasoned : outcome.IsReasoned) :
    (convert <$> outcome).IsReasoned :=
  isReasoned_both (isReasoned_accepted convert) reasoned

/-- An applied outcome is refused for the reasons of the function and of the argument. -/
theorem isReasoned_seq {functions : Checked (α → β)} {values : Checked α}
    (first : functions.IsReasoned) (second : values.IsReasoned) :
    (functions <*> values).IsReasoned :=
  isReasoned_both first second

/-- Seen from further out, a refusal keeps its reasons. -/
theorem isReasoned_under {part : LocPart} {outcome : Checked α} (reasoned : outcome.IsReasoned) :
    (outcome.under part).IsReasoned := by
  cases outcome <;> simp_all [under, IsReasoned]

end Gamebook.Checked

namespace Gamebook.Story

open Checked

variable {α : Type} {read : Json → Checked α}

section Acceptance

/-- A name is a text that is not empty. -/
theorem readName_eq_accepted_iff {value : Json} {name : String} :
    readName value = .accepted name ↔ value = .text name ∧ name ≠ "" := by
  -- Only a text is a name, and the empty one is refused.
  cases value with
  | text written =>
    rw [readName]
    split
    · next empty =>
      subst empty
      simp [refuse, eq_comm]
    · next nonempty =>
      simp only [Checked.accepted.injEq, Json.text.injEq]
      constructor
      · rintro rfl
        exact ⟨rfl, nonempty⟩
      · exact And.left
  | _ => simp [readName, refuse]

/-- Under a nullable reading a null is nothing, and any other value is what it stands for. -/
theorem orNull_eq_accepted_iff {value : Json} {result : Option α} :
    orNull read value = .accepted result ↔
      (value = .null ∧ none = result) ∨
        (value ≠ .null ∧ ∃ a, read value = .accepted a ∧ some a = result) := by
  cases value <;> simp [orNull, map_eq_accepted_iff]

/-- The items of a list are accepted one by one. -/
theorem forall₂_of_readItems {place : Nat} {items : List Json} {values : List α}
    (ok : readItems read place items = .accepted values) :
    List.Forall₂ (fun item value => read item = .accepted value) items values := by
  -- The place counts up along the list, so it stays general.
  induction items generalizing place values with
  | nil =>
    rw [readItems, Checked.accepted.injEq] at ok
    subst ok
    exact .nil
  | cons item rest ih =>
    rw [readItems, both_eq_accepted_iff] at ok
    obtain ⟨value, head, others, tail, rfl⟩ := ok
    exact .cons (under_eq_accepted_iff.1 head) (ih tail)

/-- Only a list is accepted as one, and then so is each of its items. -/
theorem exists_items_of_readList {value : Json} {values : List α}
    (ok : readList read value = .accepted values) :
    ∃ items, value = .list items ∧
      List.Forall₂ (fun item value => read item = .accepted value) items values := by
  -- Nothing but a list is accepted.
  cases value with
  | list items => exact ⟨items, rfl, forall₂_of_readItems ok⟩
  | _ => simp [readList, refuse] at ok

/-- A choice between a list and a single value accepts one of the two. -/
theorem choose_eq_accepted {label : String} {list : Checked (List α)} {single : Checked α}
    {result : OneOrMany α} (ok : OneOrMany.choose label list single = .accepted result) :
    (∃ values, list = .accepted values ∧ result.toList = values) ∨
      ∃ value, single = .accepted value ∧ result.toList = [value] := by
  -- The list comes first, and the single value only where the list is refused.
  cases list with
  | accepted values =>
    rw [OneOrMany.choose, Checked.accepted.injEq] at ok
    exact .inl ⟨values, rfl, ok ▸ rfl⟩
  | refused ofList =>
    cases single with
    | accepted value =>
      rw [OneOrMany.choose, Checked.accepted.injEq] at ok
      exact .inr ⟨value, rfl, ok ▸ rfl⟩
    | refused ofSingle => simp [OneOrMany.choose] at ok

/-- Only an object is accepted as a shape. -/
theorem exists_members_of_readShape {shape : String}
    {readMembers : List (String × Json) → Checked α} {value : Json} {result : α}
    (ok : readShape shape readMembers value = .accepted result) :
    ∃ members, value = .object members ∧ readMembers members = .accepted result := by
  -- Nothing but an object is accepted.
  cases value with
  | object members => exact ⟨members, rfl, ok⟩
  | _ => simp [readShape, refuse] at ok

variable {field : Field} {members : List (String × Json)}

/-- The value of a field: the one under its key, else the one under its second name. -/
theorem exists_key_iff_find? {value : Json} :
    (∃ key, field.find? members = some (key, value)) ↔
      Table.get? field.key members = some value ∨
        Table.get? field.key members = none ∧ Table.get? field.name members = some value := by
  cases found : Table.get? field.key members <;> simp [Field.find?, found]

/-- A required field is accepted as the value that it has. -/
theorem exists_value_of_required {result : α}
    (ok : field.required read members = .accepted result) :
    ∃ key value, field.find? members = some (key, value) ∧ read value = .accepted result := by
  unfold Field.required at ok
  -- An absent field is refused, so something was found and read.
  split at ok
  · cases ok
  · next key value found => exact ⟨key, value, found, under_eq_accepted_iff.1 ok⟩

/-- A field with one name is absent and has its default, or is accepted as the value that it has. -/
theorem optional_named_eq_accepted {name : String} {default result : α}
    (ok : (Field.named name).optional default read members = .accepted result) :
    (Table.get? name members = none ∧ result = default) ∨
      ∃ value, Table.get? name members = some value ∧ read value = .accepted result := by
  unfold Field.optional at ok
  -- The field has one spelling, so the default stands exactly when that key is absent.
  cases found : Table.get? name members with
  | none =>
    simp only [Field.find?, Field.named, found, Option.map_none, Checked.accepted.injEq] at ok
    exact .inl ⟨rfl, ok.symm⟩
  | some value =>
    simp only [Field.find?, Field.named, found, under_eq_accepted_iff] at ok
    exact .inr ⟨value, rfl, ok⟩

end Acceptance

section Reasons

/-- What is no text is refused for that. -/
theorem isReasoned_readText (value : Json) : (readText value).IsReasoned := by
  cases value <;> simp [readText]

/-- A name is refused for being no text, or for being empty. -/
theorem isReasoned_readName (value : Json) : (readName value).IsReasoned := by
  unfold readName
  -- The empty text has a reason of its own.
  split
  · split <;> simp
  · simp

/-- Another tag is refused for being another one. -/
theorem isReasoned_readTag (word : String) (value : Json) : (readTag word value).IsReasoned := by
  unfold readTag
  split <;> simp

/-- What is no operator is refused for that. -/
theorem isReasoned_readOperator (value : Json) : (readOperator value).IsReasoned := by
  unfold readOperator
  split <;> simp

/-- What does not count as a real number is refused for some reason. -/
theorem isReasoned_readReal (value : Json) : (readReal value).IsReasoned := by
  unfold readReal
  split <;> (try split) <;> simp

/-- A text that writes no integer is refused for some reason. -/
theorem isReasoned_readIntegerText (value : String) : (readIntegerText value).IsReasoned := by
  unfold readIntegerText
  split <;> simp

/-- What does not count as an integer is refused for some reason. -/
theorem isReasoned_readInteger (value : Json) : (readInteger value).IsReasoned := by
  -- A real can fail in several ways: not finite, not whole, or too large.
  cases value with
  | real value =>
    simp only [readInteger]
    repeat' split
    all_goals simp
  | text value => exact isReasoned_readIntegerText value
  | _ => simp [readInteger]

/-- A count is refused for not being an integer, or for being too small. -/
theorem isReasoned_readCount (value : Json) : (readCount value).IsReasoned := by
  have reasoned := isReasoned_readInteger value
  unfold readCount
  -- What the integer reader refuses is passed on with its reasons.
  split
  · split <;> simp
  · next issues refusal =>
    rw [refusal] at reasoned
    simpa [IsReasoned] using reasoned

/-- A value that may be null is refused for the reasons that it has otherwise. -/
theorem isReasoned_orNull (reasoned : ∀ value, (read value).IsReasoned) (value : Json) :
    (orNull read value).IsReasoned := by
  unfold orNull
  -- Null is accepted, and any other value is left to the reader.
  split
  · simp
  · exact isReasoned_map (reasoned _)

/-- The items of a list are refused for the reasons of some of them. -/
theorem isReasoned_readItems (reasoned : ∀ value, (read value).IsReasoned) (place : Nat)
    (items : List Json) : (readItems read place items).IsReasoned := by
  -- The place only labels the reasons, so it stays general.
  induction items generalizing place with
  | nil => simp [readItems]
  | cons item rest ih => exact isReasoned_both (isReasoned_under (reasoned item)) (ih (place + 1))

/-- A list is refused for the reasons of its items, and another value for being no list. -/
theorem isReasoned_readList (reasoned : ∀ value, (read value).IsReasoned) (value : Json) :
    (readList read value).IsReasoned := by
  unfold readList
  -- Every item has its own reasons; a value that is no list is refused as one.
  split
  · exact isReasoned_readItems reasoned 0 _
  · simp

/-- A choice has a reason to refuse as soon as the single value has one. -/
theorem isReasoned_choose {label : String} {list : Checked (List α)} {single : Checked α}
    (reasoned : single.IsReasoned) : (OneOrMany.choose label list single).IsReasoned := by
  cases list <;> cases single <;> simp_all [OneOrMany.choose, IsReasoned]

/-- A required field is refused for being absent, or for the reasons of its value. -/
theorem isReasoned_required (reasoned : ∀ value, (read value).IsReasoned) (field : Field)
    (members : List (String × Json)) : (field.required read members).IsReasoned := by
  unfold Field.required
  -- Absence has a reason of its own.
  split
  · simp
  · exact isReasoned_under (reasoned _)

/-- A field with a default is refused for the reasons of its value. -/
theorem isReasoned_optional (reasoned : ∀ value, (read value).IsReasoned) (field : Field)
    (default : α) (members : List (String × Json)) :
    (field.optional default read members).IsReasoned := by
  unfold Field.optional
  -- Absence is no refusal here.
  split
  · simp
  · exact isReasoned_under (reasoned _)

/-- A shape is refused for the reasons of its members, and another value for being no object. -/
theorem isReasoned_readShape {shape : String} {readMembers : List (String × Json) → Checked α}
    (reasoned : ∀ members, (readMembers members).IsReasoned) (value : Json) :
    (readShape shape readMembers value).IsReasoned := by
  unfold readShape
  -- A value that is no object is refused before any member is read.
  split
  · exact reasoned _
  · simp

end Reasons

end Gamebook.Story
