import Gamebook.Proofs.Schema.Check

/-! What it takes for the check of a keyword to be carried to its end: arguments of the right kind,
and checks by the schemas in them that are carried to their end. -/

namespace Gamebook.Schema

/-- Whether a value is a text. -/
def isText : Json → Bool
  | .text _ => true
  | _ => false

/-- Whether a value is the name of a type, or a list of such names. -/
def namesTypes : Json → Bool
  | .text name => knownTypes.contains name
  | .list names => names.all fun name => (name.text?.any knownTypes.contains)
  | _ => false

section Keywords

variable {check : Checker} {root value argument : Json} {schema : List (String × Json)}
  {draft : Draft}

/-- Of several types that there are it can be told whether a value is of one. -/
theorem exists_hasAnyType {types : List Json}
    (known : ∀ type ∈ types, ∃ name ∈ knownTypes, type = .text name) :
    ∃ typed, hasAnyType draft schema value types = .ok typed := by
  induction types with
  | nil => exact ⟨false, rfl⟩
  | cons type rest ih =>
    rw [List.forall_mem_cons] at known
    obtain ⟨⟨name, listed, rfl⟩, others⟩ := known
    -- The first type may settle it, and else the other ones do.
    obtain ⟨typed, later⟩ := ih others
    rw [hasAnyType, later]
    by_cases here : hasType draft value name = true <;> simp [listed, here]

/-- A check of types that there are is carried to its end. -/
theorem isComplete_type (names : namesTypes argument = true) :
    (checkKeyword check root draft schema value .type argument).IsComplete := by
  obtain ⟨types, parts, known⟩ : ∃ types, typesOf argument = .ok types ∧
      ∀ type ∈ types, ∃ name ∈ knownTypes, type = .text name := by
    -- A single name is a list of one.
    cases argument with
    | text name => exact ⟨[.text name], rfl, by simpa [namesTypes] using names⟩
    | list types =>
      refine ⟨types, rfl, ?_⟩
      intro type member
      have named := List.all_eq_true.1 names type member
      cases type <;> simp_all [Json.text?]
    | _ => cases names
  obtain ⟨typed, told⟩ : ∃ typed, hasAnyType draft schema value types = .ok typed :=
    exists_hasAnyType known
  unfold checkKeyword
  simp [parts, told, Bind.bind, Except.bind, pure, Except.pure,
    Findings.unlessMisfit, Findings.ofExcept]

section Bounds

variable (number : (numberOf? argument).isSome = true)

include number

/-- A value is compared with a bound that is a number. -/
theorem exists_compareTo (relation : String) :
    ∃ order, compareTo relation value argument = .ok order := by
  -- Only what is no number cannot be compared.
  obtain ⟨bound, counts⟩ := Option.isSome_iff_exists.1 number
  exact ⟨_, by rw [compareTo, counts]⟩

/-- A check by a least number is carried to its end. -/
theorem isComplete_checkMinimum {exclusive : Bool} :
    (checkMinimum value argument exclusive).IsComplete := by
  -- The bound is a number, so the comparison has an outcome.
  obtain ⟨order, told⟩ : ∃ order, compareTo (if exclusive then "<=" else "<") value argument =
      .ok order := exists_compareTo number _
  simp [checkMinimum, told, Bind.bind, Except.bind, pure, Except.pure, Findings.unlessMisfit]

/-- A check by a greatest number is carried to its end. -/
theorem isComplete_checkMaximum {exclusive : Bool} :
    (checkMaximum value argument exclusive).IsComplete := by
  -- The bound is a number, so the comparison has an outcome.
  obtain ⟨order, told⟩ : ∃ order, compareTo (if exclusive then ">=" else ">") value argument =
      .ok order := exists_compareTo number _
  simp [checkMaximum, told, Bind.bind, Except.bind, pure, Except.pure, Findings.unlessMisfit]

/-- A check by a least length is carried to its end. -/
theorem isComplete_checkLeast {length : Nat} : (checkLeast value length argument).IsComplete := by
  -- The bound is a number, and so is a length.
  obtain ⟨order, told⟩ : ∃ order, compareTo "<" (.int length) argument = .ok order :=
    exists_compareTo number _
  simp [checkLeast, told, Bind.bind, Except.bind, pure, Except.pure, Findings.unlessMisfit]

/-- A check by a greatest length is carried to its end. -/
theorem isComplete_checkGreatest {length : Nat} :
    (checkGreatest value length argument).IsComplete := by
  -- The bound is a number, and so is a length.
  obtain ⟨order, told⟩ : ∃ order, compareTo ">" (.int length) argument = .ok order :=
    exists_compareTo number _
  simp [checkGreatest, told, Bind.bind, Except.bind, pure, Except.pure, Findings.unlessMisfit]

/-- A check by a bound on numbers or lengths is carried to its end. -/
theorem isComplete_bound {keyword : Keyword}
    (bounds : keyword ∈ [Keyword.minimum, .maximum, .exclusiveMinimum, .exclusiveMaximum,
      .minLength, .maxLength, .minItems, .maxItems]) :
    (checkKeyword check root draft schema value keyword argument).IsComplete := by
  simp only [List.mem_cons, List.not_mem_nil, or_false] at bounds
  -- Values of other kinds are not bounded.
  rcases bounds with rfl | rfl | rfl | rfl | rfl | rfl | rfl | rfl <;> cases value <;>
    first
    | exact Findings.isComplete_none
    | exact isComplete_checkMinimum number
    | exact isComplete_checkMaximum number
    | exact isComplete_checkLeast number
    | exact isComplete_checkGreatest number

end Bounds

/-- A check of members that are named by texts is carried to its end. -/
theorem isComplete_checkPresent {failure : Json → Failure} {members : List (String × Json)}
    {names : List Json} (texts : names.all isText = true) :
    (checkPresent failure members names).IsComplete := by
  rw [checkPresent, Findings.isComplete_concat_iff, List.forall_mem_map]
  intro name member
  have named := List.all_eq_true.1 texts name member
  -- A text can be looked up as a key.
  cases name with
  | text text => simp [hasMember, Bind.bind, Except.bind, pure, Except.pure, Findings.unlessMisfit]
  | _ => cases named

/-- A check of a part is carried to its end where the check by its schema is. -/
theorem isComplete_checkPart {part : Json} {step : LocPart}
    (complete : (check .part argument part).IsComplete) :
    (checkPart check argument step part).IsComplete := by
  -- Whether a violation is reported where the part is held makes no difference.
  unfold checkPart
  split
  · exact complete
  · exact complete

/-- Checks of the items of a list are carried to their end where each check of an item is. -/
theorem isComplete_checkItems {place : Nat} {items : List Json}
    (complete : ∀ item ∈ items, (check .part argument item).IsComplete) :
    (checkItems check argument place items).IsComplete := by
  rw [checkItems, Findings.isComplete_concat_iff, List.forall_mem_map]
  rintro ⟨item, place⟩ placed
  -- An item is checked at its place in the list.
  have member : item ∈ items := List.fst_mem_of_mem_zipIdx placed
  exact isComplete_checkPart (complete item member)

/-- Checks of items by the schemas at their places are carried to their end where each check by one
of the schemas is. -/
theorem isComplete_checkItemwise {schemas items : List Json}
    (complete : ∀ schema ∈ schemas, ∀ item ∈ items, (check .part schema item).IsComplete) :
    (checkItemwise check schemas items).IsComplete := by
  rw [checkItemwise, Findings.isComplete_concat_iff, List.forall_mem_map]
  rintro ⟨⟨schema, item⟩, place⟩ placed
  -- Each pair is of a schema and of an item that are there.
  obtain ⟨listed, member⟩ := List.of_mem_zip (List.fst_mem_of_mem_zipIdx placed)
  exact isComplete_checkPart (complete schema listed item member)

/-- Where it can be told of every item whether to keep it, filtering gives the items to keep. -/
theorem exists_filterM {α ε : Type} {keep : α → Except ε Bool} {items : List α}
    (told : ∀ item ∈ items, ∃ kept, keep item = .ok kept) :
    ∃ some, items.filterM keep = .ok some ∧
      ∀ item, item ∈ some ↔ item ∈ items ∧ keep item = .ok true := by
  -- The worker puts what it keeps before what was kept already.
  have general : ∀ before : List α, ∃ some, items.filterAuxM keep before = .ok some ∧
      ∀ item, item ∈ some ↔ item ∈ before ∨ item ∈ items ∧ keep item = .ok true := by
    induction items with
    | nil => exact fun before => ⟨before, rfl, by simp⟩
    | cons item rest ih =>
      intro before
      rw [List.forall_mem_cons] at told
      obtain ⟨⟨kept, first⟩, others⟩ := told
      obtain ⟨some, later, within⟩ := ih others (bif kept then item :: before else before)
      refine ⟨some, ?_, ?_⟩
      · rw [List.filterAuxM, first]
        exact later
      · intro other
        rw [within, List.mem_cons]
        -- Whether the first item is kept is what was told of it.
        by_cases same : other = item
        · subst same
          cases kept <;> simp [first]
        · cases kept <;> simp [same]
  obtain ⟨some, worked, within⟩ := general []
  refine ⟨some.reverse, ?_, ?_⟩
  · rw [List.filterM, worked]
    rfl
  · intro item
    rw [List.mem_reverse, within]
    simp

/-- The members that a schema does not list can be told, if what it lists is an object. -/
theorem exists_unlisted {members parts : List (String × Json)}
    (listed : (Table.get? "properties" schema).getD (.object []) = .object parts) :
    ∃ extra, unlisted schema members = .ok extra ∧
      ∀ member, member ∈ extra ↔ member ∈ members ∧ Table.has member.1 parts = false := by
  -- Whether an object lists a name can always be told.
  obtain ⟨extra, told, kept⟩ := @exists_filterM _ _
    (fun member : String × Json => do return !(← holdsName member.1 (.object parts))) members
    fun member _ => ⟨_, rfl⟩
  refine ⟨extra, by rw [unlisted, listed]; exact told, fun member => (kept member).trans ?_⟩
  simp [holdsName, Bind.bind, Except.bind, pure, Except.pure]

/-- A check of the members that are not listed is carried to its end, where what is listed is an
object and each check of a member is carried to its end. -/
theorem isComplete_checkUnlisted {members : List (String × Json)}
    (object : ∀ listed, Table.get? "properties" schema = some listed → listed.isObject = true)
    (complete : ∀ member ∈ members, (check .part argument member.2).IsComplete) :
    (checkUnlisted check schema argument members).IsComplete := by
  obtain ⟨parts, listed⟩ : ∃ parts,
      (Table.get? "properties" schema).getD (.object []) = .object parts := by
    cases found : Table.get? "properties" schema with
    | none => exact ⟨[], rfl⟩
    | some listed =>
      have shape := object listed found
      cases listed with
      | object parts => exact ⟨parts, rfl⟩
      | _ => cases shape
  -- What is not listed under the properties is still a member.
  obtain ⟨extra, told, kept⟩ := @exists_unlisted schema members parts listed
  simp only [checkUnlisted, told, Bind.bind, Except.bind, pure, Except.pure, Findings.unlessMisfit]
  by_cases isSchema : argument.isObject = true
  · rw [if_pos isSchema, Findings.isComplete_concat_iff, List.forall_mem_map]
    intro member listed
    exact isComplete_checkPart (complete member ((kept member).1 listed).1)
  · rw [if_neg isSchema]
    exact Findings.isComplete_require

/-- A check of further items is carried to its end, where the items before them are described by a
schema for all or by some schemas, and each check of an item is carried to its end. -/
theorem isComplete_checkFurtherItems {items : List Json}
    (described : ∀ listed, Table.get? "items" schema = some listed →
      listed.isObject = true ∨ ∃ schemas, listed = .list schemas)
    (complete : ∀ item ∈ items, (check .part argument item).IsComplete) :
    (checkFurtherItems check schema argument items).IsComplete := by
  unfold checkFurtherItems
  cases found : Table.get? "items" schema with
  | none => exact Findings.isComplete_none
  | some listed =>
    -- A schema for all items leaves no further ones, and several schemas leave those after their
    -- places.
    rcases described listed found with object | ⟨schemas, rfl⟩
    · cases listed with
      | object members => exact Findings.isComplete_none
      | _ => cases object
    · simp only [countOf, partsOf, Bind.bind, Except.bind, pure, Except.pure,
        Findings.unlessMisfit]
      by_cases isSchema : argument.isObject = true
      · rw [if_pos isSchema]
        exact isComplete_checkItems fun item member => complete item (List.mem_of_mem_drop member)
      · rw [if_neg isSchema]
        exact Findings.isComplete_require

section Alternatives

variable {trial : Json → Findings} {schemas : List Json}

/-- The first of several schemas that a value fits can be told, with schemas after it. -/
theorem exists_firstFit? (complete : ∀ part ∈ schemas, (trial part).IsComplete) :
    ∃ fit, firstFit? trial schemas = .ok fit ∧ ∀ first rest, fit = some (first, rest) →
      rest ⊆ schemas := by
  induction schemas with
  | nil => exact ⟨none, rfl, nofun⟩
  | cons part rest ih =>
    rw [List.forall_mem_cons] at complete
    obtain ⟨clean, told⟩ := complete.1.exists_isCleanThroughout
    rw [firstFit?, told]
    -- Either the first schema is fitted, or the others are tried.
    cases clean with
    | true =>
      refine ⟨some (part, rest), rfl, ?_⟩
      rintro _ _ ⟨⟩
      exact List.subset_cons_self part rest
    | false =>
      obtain ⟨fit, later, within⟩ := ih complete.2
      refine ⟨fit, later, ?_⟩
      intro first after found
      exact List.subset_cons_of_subset part (within first after found)

/-- The schemas that a value fits can be told. -/
theorem exists_fits (complete : ∀ part ∈ schemas, (trial part).IsComplete) :
    ∃ further, fits trial schemas = .ok further := by
  induction schemas with
  | nil => exact ⟨[], rfl⟩
  | cons part rest ih =>
    rw [List.forall_mem_cons] at complete
    -- Each schema is tried by itself, whether those before it fit or not.
    obtain ⟨clean, told⟩ := complete.1.exists_isClean
    obtain ⟨further, later⟩ := ih complete.2
    rw [fits, told, later]
    exact ⟨_, rfl⟩

end Alternatives

variable {schemas : List Json}
  (complete : ∀ access, ∀ part ∈ schemas, (check access part value).IsComplete)

include complete

/-- Several schemas are tried until one is fitted if each check by one is carried to its end. -/
theorem isComplete_checkAny : (checkAny check schemas value).IsComplete := by
  -- Each part is checked to its end, so the search for one that fits goes on.
  obtain ⟨fit, first, -⟩ := exists_firstFit? (complete .part)
  rw [checkAny, first]
  cases fit <;> rfl

/-- Several alternatives are tried to the end if each of them is, however it is come upon. -/
theorem isComplete_checkOne : (checkOne check schemas value).IsComplete := by
  obtain ⟨fit, first, within⟩ := exists_firstFit? (complete .part)
  rw [checkOne, first]
  cases fit with
  | none => rfl
  | some found =>
    obtain ⟨best, rest⟩ := found
    -- What comes after the first fit is tried once more, by itself.
    obtain ⟨further, told⟩ : ∃ further, fits (check .trial · value) rest = .ok further :=
      exists_fits fun part member => complete .trial part (within best rest rfl member)
    simp only [told, Bind.bind, Except.bind, pure, Except.pure, Findings.ofExcept]
    split <;> rfl

/-- A check by a keyword that combines schemas is carried to its end if each check by one is. -/
theorem isComplete_combination {keyword : Keyword}
    (combines : keyword ∈ [Keyword.allOf, .anyOf, .oneOf]) :
    (checkKeyword check root draft schema value keyword (.list schemas)).IsComplete := by
  simp only [List.mem_cons, List.not_mem_nil, or_false] at combines
  unfold checkKeyword
  -- All schemas are tried at once, or one after another.
  rcases combines with rfl | rfl | rfl
  · simp only [partsOf, Bind.bind, Except.bind, pure, Except.pure, Findings.unlessMisfit]
    rw [Findings.isComplete_concat_iff, List.forall_mem_map]
    exact complete .part
  · exact isComplete_checkAny complete
  · exact isComplete_checkOne complete

end Keywords

end Gamebook.Schema
