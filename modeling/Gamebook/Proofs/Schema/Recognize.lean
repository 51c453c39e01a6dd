import Gamebook.Proofs.Schema.Tame
import Mathlib.Data.List.Forall2

/-! Which forms of values a schema recognizes, put together from what its keywords let through. -/

namespace Gamebook.Schema

/-- A member of a value is of a form, if the value has that member. -/
def IfPresent (key : String) (form : Json → Prop) (value : Json) : Prop :=
  ∀ member, value.get? key = some member → form member

/-- A text. -/
def IsText (value : Json) : Prop := ∃ text, value = .text text

/-- A text that is not empty. -/
def IsName (value : Json) : Prop := ∃ text, value = .text text ∧ text ≠ ""

/-- A list whose items are all of a form. -/
def IsListOf (form : Json → Prop) (value : Json) : Prop :=
  ∃ items, value = .list items ∧ ∀ item ∈ items, form item

section Forms

variable {value : Json} {form : Json → Prop}

/-- A name is a text that is not the empty one. -/
theorem isName_iff : IsName value ↔ IsText value ∧ value ≠ .text "" := by
  -- A text is empty exactly if it is the empty text.
  constructor
  · rintro ⟨text, rfl, nonempty⟩
    exact ⟨⟨text, rfl⟩, by simpa using nonempty⟩
  · rintro ⟨⟨text, rfl⟩, different⟩
    exact ⟨text, rfl, by simpa using different⟩

/-- A list of a form is a list, and has no items but those of the form. -/
theorem isListOf_iff : IsListOf form value ↔ (∃ items, value = .list items) ∧
    ∀ items, value = .list items → ∀ item ∈ items, form item := by
  -- A value is a list of some items in one way only.
  constructor
  · rintro ⟨items, rfl, each⟩
    exact ⟨⟨items, rfl⟩, by rintro _ ⟨⟩; exact each⟩
  · rintro ⟨⟨items, rfl⟩, each⟩
    exact ⟨items, rfl, each items rfl⟩

/-- No list is an object. -/
theorem IsListOf.isObject_eq_false (many : IsListOf form value) : value.isObject = false := by
  obtain ⟨items, rfl, -⟩ := many
  rfl

end Forms

/-- A schema recognizes a form of values up to a size: the check of such a value finds nothing
exactly when the value is of the form. The check has fuel for `depth` nested steps, and for `bound`
more with every step into a part of the value. -/
def Recognizes (root : Json) (bound limit depth : Nat) (schema : Json) (form : Json → Prop) :
    Prop :=
  ∀ fuel access value, value.size ≤ limit → depth + bound * value.size ≤ fuel →
    (checkFuel root fuel .draft7 access schema value = .none ↔ form value)

/-- A keyword of a schema recognizes a form of values by its argument. -/
def RecognizesBy (root : Json) (bound limit depth : Nat) (schema : List (String × Json))
    (constraint : Keyword × Json) (form : Json → Prop) : Prop :=
  ∀ fuel value, value.size ≤ limit → depth + bound * value.size ≤ fuel →
    (checkKeyword (checkFuel root fuel .draft7) root .draft7 schema
      value constraint.1 constraint.2 =
      .none ↔ form value)

/-- A schema for the member of a key recognizes a form of that member. -/
def RecognizesPart (root : Json) (bound limit : Nat) (part : String × Json)
    (form : String × (Json → Prop)) : Prop :=
  part.1 = form.1 ∧ Recognizes root bound limit bound part.2 form.2

section Schemas

variable {root schema : Json} {bound limit depth : Nat} {form whole : Json → Prop}

/-- More nested steps than are made do no harm, and neither do smaller values. -/
theorem Recognizes.mono {smaller deeper : Nat}
    (recognizes : Recognizes root bound limit depth schema form) (small : smaller ≤ limit)
    (deep : depth ≤ deeper) : Recognizes root bound smaller deeper schema form :=
  fun fuel access value inside enough =>
    recognizes fuel access value (Nat.le_trans inside small) (by omega)

/-- A schema recognizes members of any key. -/
theorem Recognizes.under (key : String)
    (recognizes : Recognizes root bound limit bound schema form) :
    RecognizesPart root bound limit (key, schema) (key, form) :=
  ⟨rfl, recognizes⟩

/-- There are no values without a size. -/
theorem recognizes_zero : Recognizes root bound 0 depth schema form := by
  intro fuel access value small
  -- No value has size 0.
  have counted : 0 < value.size := value.size_pos
  omega

/-- A schema recognizes a form that is what all of its keywords recognize. -/
theorem Recognizes.of_constraints (constraints : List (Keyword × Json))
    (written : constraints? schema = some constraints) {forms : List (Json → Prop)}
    (each : List.Forall₂ (RecognizesBy root bound limit depth schema.members) constraints forms)
    (same : ∀ value, (∀ form ∈ forms, form value) ↔ whole value) :
    Recognizes root bound limit (depth + 1) schema whole := by
  intro fuel access value small enough
  -- One step opens the schema, and what is left of the fuel is for its keywords.
  obtain ⟨fuel, rfl⟩ : ∃ before, fuel = before + 1 := ⟨fuel - 1, by omega⟩
  rw [checkFuel_eq_none_iff written, ← same]
  refine (forall_mem_iff_of_forall₂ each ?_).symm
  intro constraint form recognizes
  exact (recognizes fuel value small (by omega)).symm

end Schemas

namespace RecognizesBy

variable {root argument : Json} {bound limit depth : Nat} {schema : List (String × Json)}
  {form : Json → Prop}

/-- The values of some types. -/
theorem type (names : List String) (wanted : typesOf argument = .ok (names.map Json.text))
    (existing : ∀ name ∈ names, name ∈ knownTypes) :
    RecognizesBy root bound limit depth schema (.type, argument) fun value =>
      ∃ name ∈ names, hasType .draft7 value name = true :=
  fun _ _ _ _ => type_eq_none_iff wanted existing

/-- Some words. -/
theorem enum (words : List String) :
    RecognizesBy root bound limit depth schema (.enum, .list (words.map Json.text)) fun value =>
      ∃ word ∈ words, value = .text word :=
  fun _ _ _ _ => enum_eq_none_iff

/-- The texts that are not empty, and what is no text. -/
theorem minLength :
    RecognizesBy root bound limit depth schema (.minLength, .int 1) fun value =>
      value ≠ .text "" :=
  fun _ _ _ _ => minLength_eq_none_iff

/-- The lists that are not empty, and what is no list. -/
theorem minItems :
    RecognizesBy root bound limit depth schema (.minItems, .int 1) fun value =>
      value ≠ .list [] :=
  fun _ _ _ _ => minItems_eq_none_iff

/-- The objects with some members, and what is no object. -/
theorem required (names : List String) :
    RecognizesBy root bound limit depth schema (.required, .list (names.map Json.text)) fun value =>
      value.isObject = true → ∀ name ∈ names, ∃ member, value.get? name = some member :=
  fun _ _ _ _ => required_eq_none_iff

/-- What a reference leads to recognizes the same values. -/
theorem reference {reference : String} {target : Json}
    (resolved : Pointer.resolve root reference = .ok (some target))
    (recognizes : Recognizes root bound limit depth target form) :
    RecognizesBy root bound limit depth schema (.reference, .text reference) form :=
  fun fuel value small enough =>
    (reference_eq_none_iff resolved).trans (recognizes fuel .reference value small enough)

/-- There is fuel for a part of a value if there is for the value. -/
theorem enough_of_size_lt {value part : Json} {fuel : Nat} (inside : part.size < value.size)
    (enough : depth + bound * value.size ≤ fuel) : bound + bound * part.size ≤ fuel := by
  -- The part is smaller by one at least, which frees `bound` steps.
  have less : bound * (part.size + 1) ≤ bound * value.size := Nat.mul_le_mul_left bound inside
  rw [Nat.mul_add] at less
  omega

/-- The values whose members are of certain forms, if they are there. -/
theorem properties {parts : List (String × Json)} {forms : List (String × (Json → Prop))}
    (each : List.Forall₂ (RecognizesPart root bound (limit - 1)) parts forms) :
    RecognizesBy root bound limit depth schema (.properties, .object parts) fun value =>
      ∀ form ∈ forms, IfPresent form.1 form.2 value := by
  intro fuel value small enough
  refine properties_eq_none_iff.trans (forall_mem_iff_of_forall₂ each ?_).symm
  rintro ⟨key, part⟩ ⟨_, form⟩ ⟨rfl, recognizes⟩
  refine forall₂_congr fun member held => Iff.symm ?_
  -- A member is smaller than the object that holds it.
  obtain ⟨members, rfl, found⟩ := Json.exists_members_of_get? held
  have inside := Json.size_lt_of_mem_members (Table.mem_of_get? found)
  dsimp only at inside
  exact recognizes fuel .part member (by omega) (enough_of_size_lt inside enough)

/-- The lists of values that are recognized, and what is no list. -/
theorem items (object : argument.isObject = true)
    (recognizes : Recognizes root bound (limit - 1) bound argument form) :
    RecognizesBy root bound limit depth schema (.items, argument) fun value =>
      ∀ items, value = .list items → ∀ item ∈ items, form item := by
  intro fuel value small enough
  refine (items_eq_none_iff object).trans ?_
  refine forall₂_congr fun items whole => forall₂_congr fun item member => ?_
  subst whole
  -- An item is smaller than its list.
  have inside := Json.size_lt_of_mem member
  exact recognizes fuel .part item (by omega) (enough_of_size_lt inside enough)

/-- One of two forms that no value has both of. -/
theorem oneOf {ranks : Table Nat} {first second : Json} {other : Json → Prop}
    (ranked : areRanks true root ranks bound = true)
    (tame : ∀ part ∈ [first, second], isTame true ranks bound depth .schema part = true)
    (recognizesFirst : Recognizes root bound limit depth first form)
    (recognizesSecond : Recognizes root bound limit depth second other)
    (apart : ∀ value, ¬ (form value ∧ other value)) :
    RecognizesBy root bound limit depth schema (.oneOf, .list [first, second]) fun value =>
      form value ∨ other value := by
  intro fuel value small enough
  -- The second form has to be told from an obstacle even where the first one is recognized.
  refine oneOf_eq_none_iff ?_ ?_ ?_ (apart value)
  · exact fun access part listed => isComplete_checkFuel ranked (tame part listed) enough
  · exact fun access => recognizesFirst fuel access value small enough
  · exact fun access => recognizesSecond fuel access value small enough

end RecognizesBy

/-- A value of the type of texts is a text. -/
theorem hasType_string_iff {draft : Draft} {value : Json} :
    hasType draft value "string" = true ↔ IsText value := by
  cases value with
  | text text => exact iff_of_true rfl ⟨text, rfl⟩
  | _ => exact iff_of_false Bool.false_ne_true (by simp [IsText])

/-- A value of the type of lists is a list. -/
theorem hasType_array_iff {draft : Draft} {value : Json} :
    hasType draft value "array" = true ↔ ∃ items, value = .list items := by
  cases value with
  | list items => exact iff_of_true rfl ⟨items, rfl⟩
  | _ => exact iff_of_false Bool.false_ne_true (by simp)

/-- A value of the type of objects is an object. -/
theorem hasType_object {draft : Draft} {value : Json} :
    hasType draft value "object" = value.isObject := by
  cases value <;> rfl

/-- A schema that refers to another one. -/
def referTo (reference : String) : Json := .object [("$ref", .text reference)]

/-- The schema of lists of a form. -/
def listOf (part : Json) : Json := .object [("type", .text "array"), ("items", part)]

/-- The schema of lists of a form that are not empty. -/
def nonemptyListOf (part : Json) : Json :=
  .object [("type", .text "array"), ("minItems", .int 1), ("items", part)]

/-- The schema of what fits one of two schemas, and not both. -/
def oneOf (first second : Json) : Json := .object [("oneOf", .list [first, second])]

section Common

variable {root part : Json} {bound limit depth : Nat} {form : Json → Prop}

section Tame

variable {ranks : Table Nat}

/-- A schema that refers to another one is tame if there are steps left for what it refers to. -/
theorem isTame_referTo {reference : String} {rank : Nat}
    (given : Table.get? reference ranks = some rank) (less : rank < depth) :
    isTame true ranks bound depth .schema (referTo reference) = true := by
  refine (isTame_object_iff (by simp)).2 ⟨by omega, rfl, nofun, ?_, rfl⟩
  -- The reference is the only member, so it is the one with the rank.
  intro argument found
  cases found
  exact ⟨reference, rank, rfl, given, less⟩

/-- A schema of lists is tame if that of their items is, whatever else it says of the lists. -/
theorem isTame_lists {others : List (String × Json)} {described : Json}
    (drafted : draftWithin .draft7 (.object others) = .ok .draft7)
    (alone : Table.get? "$ref" others = none) (further : Table.has "additionalItems" others = false)
    (listed : ∀ other ∈ others, other = ("items", described) ∨
      ∃ keyword, Draft.draft7.keyword? other.1 = some keyword ∧ keyword.holding? = none ∧
        keyword.takes other.2 = true)
    (object : described.isObject = true)
    (tame : isTame true ranks bound bound .schema described = true) :
    isTame true ranks bound (depth + 1) .schema (.object others) = true := by
  refine (isTame_object_iff (by simp)).2 ⟨by omega, drafted, ?_, ?_, ?_⟩
  · intro has
    cases further.symm.trans has
  · intro argument found
    cases alone.symm.trans found
  · refine areTame_iff.2 fun other member => ?_
    rcases listed other member with rfl | ⟨keyword, known, plain, takes⟩
    · constructor
      · intro unknown
        cases unknown
      · rintro keyword ⟨⟩
        refine ⟨fun _ => rfl, ?_⟩
        rintro holding whole ⟨⟩
        cases described with
        | object members => simpa [isTame] using tame
        | _ => cases object
    · constructor
      · intro unknown
        cases known.symm.trans unknown
      · intro other same
        cases known.symm.trans same
        refine ⟨fun _ => takes, ?_⟩
        intro holding whole holds
        -- Such a keyword holds no schemas.
        cases plain.symm.trans holds

/-- A schema of lists is tame if that of their items is. -/
theorem isTame_listOf (object : part.isObject = true)
    (tame : isTame true ranks bound bound .schema part = true) :
    isTame true ranks bound (depth + 1) .schema (listOf part) = true := by
  refine isTame_lists rfl rfl rfl ?_ object tame
  -- The type is an argument of a kind that suits it, the items are a schema.
  rw [List.forall_mem_cons, List.forall_mem_singleton]
  exact ⟨.inr ⟨.type, rfl, rfl, rfl⟩, .inl rfl⟩

/-- A schema of lists that are not empty is tame if that of their items is. -/
theorem isTame_nonemptyListOf (object : part.isObject = true)
    (tame : isTame true ranks bound bound .schema part = true) :
    isTame true ranks bound (depth + 1) .schema (nonemptyListOf part) = true := by
  refine isTame_lists rfl rfl rfl ?_ object tame
  -- Type and least number suit their keywords, the items are a schema.
  rw [List.forall_mem_cons, List.forall_mem_cons, List.forall_mem_singleton]
  exact ⟨.inr ⟨.type, rfl, rfl, rfl⟩, .inr ⟨.minItems, rfl, rfl, rfl⟩, .inl rfl⟩

end Tame

/-- The schema of texts recognizes texts. -/
theorem recognizes_text :
    Recognizes root bound limit (depth + 1) (.object [("type", .text "string")]) IsText := by
  refine .of_constraints [(.type, _)] rfl (.cons (.type ["string"] rfl (by decide)) .nil) ?_
  simp [hasType_string_iff]

/-- The schema of names recognizes names. -/
theorem recognizes_name :
    Recognizes root bound limit (depth + 1)
      (.object [("type", .text "string"), ("minLength", .int 1)]) IsName := by
  -- A text of at least one character.
  refine .of_constraints [(.type, _), (.minLength, _)] rfl
    (.cons (.type ["string"] rfl (by decide)) (.cons .minLength .nil)) ?_
  simp [hasType_string_iff, isName_iff]

/-- The schema of some words recognizes these. -/
theorem recognizes_words (words : List String) :
    Recognizes root bound limit (depth + 1) (.object [("enum", .list (words.map Json.text))])
      fun value => ∃ word ∈ words, value = .text word := by
  refine .of_constraints [(.enum, _)] rfl (.cons (.enum words) .nil) ?_
  simp

/-- The schema of lists of a form recognizes such lists. -/
theorem recognizes_list (object : part.isObject = true)
    (recognizes : Recognizes root bound (limit - 1) bound part form) :
    Recognizes root bound limit (depth + 1) (listOf part) (IsListOf form) := by
  -- A list whose items the part recognizes.
  refine .of_constraints [(.type, _), (.items, _)] rfl
    (.cons (.type ["array"] rfl (by decide)) (.cons (.items object recognizes) .nil)) ?_
  simp [hasType_array_iff, isListOf_iff]

/-- The schema of lists of a form that are not empty recognizes such lists. -/
theorem recognizes_nonemptyList (object : part.isObject = true)
    (recognizes : Recognizes root bound (limit - 1) bound part form) :
    Recognizes root bound limit (depth + 1) (nonemptyListOf part)
      fun value => value ≠ .list [] ∧ IsListOf form value := by
  -- One keyword is for the type, one for the length, and one for the items.
  refine .of_constraints [(.type, _), (.minItems, _), (.items, _)] rfl
    (.cons (.type ["array"] rfl (by decide))
      (.cons .minItems (.cons (.items object recognizes) .nil))) ?_
  simp [hasType_array_iff, isListOf_iff, and_left_comm]

/-- A schema of one object or of several recognizes both, as no object is a list. -/
theorem recognizes_oneOf {ranks : Table Nat} {one several : Json} {many : Json → Prop}
    (ranked : areRanks true root ranks bound = true)
    (tameOne : isTame true ranks bound depth .schema one = true)
    (tameSeveral : isTame true ranks bound depth .schema several = true)
    (recognizesOne : Recognizes root bound limit depth one form)
    (recognizesSeveral : Recognizes root bound limit depth several many)
    (objects : ∀ value, form value → value.isObject = true)
    (lists : ∀ value, many value → value.isObject = false) :
    Recognizes root bound limit (depth + 1) (oneOf one several)
      fun value => form value ∨ many value := by
  refine .of_constraints [(.oneOf, _)] rfl
    (.cons (.oneOf ranked (by simp [tameOne, tameSeveral]) recognizesOne recognizesSeveral ?_)
      .nil) ?_
  -- An object is no list, so that no value is of both forms.
  · rintro value ⟨isOne, isMany⟩
    cases (objects value isOne).symm.trans (lists value isMany)
  · simp

/-- A schema that refers to another one recognizes what that one does. -/
theorem recognizes_referTo {reference : String} {target : Json}
    (resolved : Pointer.resolve root reference = .ok (some target))
    (recognizes : Recognizes root bound limit depth target form) :
    Recognizes root bound limit (depth + 1) (referTo reference) form := by
  refine .of_constraints [(.reference, _)] rfl (.cons (.reference resolved recognizes) .nil) ?_
  simp

/-- A schema of objects with a member that is required recognizes the values that have that member,
and have it and others in certain forms. -/
theorem recognizes_object {schema : Json} {key : String} {parts : List (String × Json)}
    {forms : List (String × (Json → Prop))} {whole : Json → Prop}
    (written : constraints? schema = some [(.type, .text "object"), (.required, .list [.text key]),
      (.properties, .object ((key, part) :: parts))])
    (recognizes : Recognizes root bound (limit - 1) bound part form)
    (each : List.Forall₂ (RecognizesPart root bound (limit - 1)) parts forms)
    (same : ∀ value, ((∃ member, value.get? key = some member ∧ form member) ∧
      ∀ other ∈ forms, IfPresent other.1 other.2 value) ↔ whole value) :
    Recognizes root bound limit (depth + 1) schema whole := by
  refine .of_constraints _ written (.cons (.type ["object"] rfl (by decide))
    (.cons (.required [key]) (.cons (.properties (.cons (recognizes.under key) each)) .nil))) ?_
  intro value
  rw [← same]
  simp only [List.forall_mem_cons, List.exists_mem_cons_iff, List.not_mem_nil, false_and,
    exists_false, or_false, hasType_object, false_imp_iff, implies_true, and_true]
  -- What is required of an object is there, so that its form does not depend on that any more.
  constructor
  · rintro ⟨object, required, present, others⟩
    obtain ⟨member, found⟩ := required object
    exact ⟨⟨member, found, present member found⟩, others⟩
  · rintro ⟨⟨member, found, is⟩, others⟩
    refine ⟨Json.isObject_of_get? found, fun _ => ⟨member, found⟩, ?_, others⟩
    intro other again
    cases found.symm.trans again
    exact is

end Common

end Gamebook.Schema
