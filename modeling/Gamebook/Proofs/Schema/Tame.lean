import Gamebook.Proofs.Schema.Complete

/-! Schemas by which every check is carried to its end, whatever the document. -/

namespace Gamebook.Schema

/-- How a value holds schemas. -/
inductive Holding where
  | schema
  | schemas
  | schemaOrSchemas
  -- A schema, or a list of names of members.
  | schemaOrNames
  -- A name for each of several holdings.
  | table (part : Holding)
  deriving DecidableEq

/-- How the argument of a keyword holds schemas, if it does, and whether they are for the value
itself instead of its parts. -/
def Keyword.holding? : Keyword → Option (Holding × Bool)
  | .items => some (.schemaOrSchemas, false)
  | .additionalItems | .additionalProperties => some (.schema, false)
  | .properties => some (.table .schema, false)
  | .dependencies => some (.table .schemaOrNames, true)
  | .allOf | .anyOf | .oneOf => some (.schemas, true)
  | .negation => some (.schema, true)
  | _ => none

/-- Whether a value is a truth value. -/
def isTruth : Json → Bool
  | .bool _ => true
  | _ => false

/-- Whether a keyword can be checked with an argument, as far as this holds no schemas. -/
def Keyword.takes (argument : Json) : Keyword → Bool
  | .type => namesTypes argument
  | .enum => match argument with
    | .list _ => true
    | _ => false
  | .required => match argument with
    | .list names => names.all isText
    | _ => false
  | .minimum | .maximum | .exclusiveMinimum | .exclusiveMaximum | .minLength | .maxLength
  | .minItems | .maxItems => (numberOf? argument).isSome
  | _ => true

/-- The members of schemas of the seventh draft that the model does not know although they say what
a value must be, or what references are relative to. -/
def leftOut : List String :=
  ["$id", "contains", "else", "if", "maxProperties", "minProperties", "multipleOf", "pattern",
    "patternProperties", "propertyNames", "then"]

/-- Whether a schema with some members is one of the seventh draft within another one of that draft.
-/
def keepsDraft (members : List (String × Json)) : Bool :=
  (draftWithin .draft7 (.object members)).toOption == some .draft7

/-- Whether it can be told which items are further ones: there are none to be told, or items are not
described by a truth value for all of them. -/
def describesItems (members : List (String × Json)) : Bool :=
  !Table.has "additionalItems" members || !(Table.get? "items" members).any isTruth

/-- Whether a reference among members, if there is one, has a rank below some depth. -/
def isRanked (ranks : Table Nat) (depth : Nat) (members : List (String × Json)) : Bool :=
  (Table.get? "$ref" members).all fun argument =>
    (argument.text?.bind (Table.get? · ranks)).any fun rank => rank < depth

section Tame

variable (strict : Bool) (ranks : Table Nat) (bound : Nat)

mutual

/-- Whether a value holds tame schemas of the seventh draft. Such a schema writes nothing that is
left out of the model and names no other draft; a check by it makes at most `depth` nested steps
before a step into a part of the value, from where it may make `bound` steps. References take as
many steps as their ranks say. If it is to be strict, the keywords can be checked with their
arguments, and else arguments of other kinds pass. -/
def isTame (depth : Nat) (holding : Holding) : Json → Bool
  | .object members => match holding with
    | .table part => areTameParts depth part members
    | .schemas => !strict
    | _ =>
      decide (0 < depth) && keepsDraft members && describesItems members &&
        isRanked ranks depth members && areTame (depth - 1) members
  | .list items => match holding with
    | .schemas | .schemaOrSchemas => areTameItems depth items
    | .schemaOrNames => !strict || items.all isText
    | _ => !strict
  | .bool _ => match holding with
    | .schemas | .table _ => !strict
    | _ => decide (0 < depth)
  | _ => !strict

/-- Whether every member of a schema is tame: one that is no keyword is not left out of the model,
and the argument of a keyword holds tame schemas. -/
def areTame (depth : Nat) : List (String × Json) → Bool
  | [] => true
  | (name, argument) :: rest =>
    (match Draft.draft7.keyword? name with
      | none => !leftOut.contains name &&
        (name != "definitions" || isTame bound (.table .schema) argument)
      | some keyword => (!strict || keyword.takes argument) &&
        match keyword.holding? with
        | none => true
        | some (holding, whole) => isTame (if whole then depth else bound) holding argument) &&
      areTame depth rest

/-- Whether the values of members hold tame schemas. -/
def areTameParts (depth : Nat) (part : Holding) : List (String × Json) → Bool
  | [] => true
  | (_, held) :: rest => isTame depth part held && areTameParts depth part rest

/-- Whether the items of a list are tame schemas. -/
def areTameItems (depth : Nat) : List Json → Bool
  | [] => true
  | item :: rest => isTame depth .schema item && areTameItems depth rest

end

end Tame

section Lists

variable {strict : Bool} {ranks : Table Nat} {bound depth : Nat} {part : Holding}
  {members : List (String × Json)} {items : List Json}

/-- What the members of a tame schema that are no keywords must be like. -/
def IsTameNote (strict : Bool) (ranks : Table Nat) (bound : Nat) (name : String) (argument : Json) :
    Prop :=
  name ∉ leftOut ∧
    (name = "definitions" → isTame strict ranks bound bound (.table .schema) argument = true)

/-- What the arguments of keywords in a tame schema must be like. -/
def IsTameArgument (strict : Bool) (ranks : Table Nat) (bound depth : Nat) (keyword : Keyword)
    (argument : Json) : Prop :=
  (strict = true → keyword.takes argument = true) ∧
    ∀ holding whole, keyword.holding? = some (holding, whole) →
      isTame strict ranks bound (if whole then depth else bound) holding argument = true

/-- The members of a schema are tame exactly when each of them is. -/
theorem areTame_iff :
    areTame strict ranks bound depth members = true ↔ ∀ member ∈ members,
      (Draft.draft7.keyword? member.1 = none → IsTameNote strict ranks bound member.1 member.2) ∧
      ∀ keyword, Draft.draft7.keyword? member.1 = some keyword →
        IsTameArgument strict ranks bound depth keyword member.2 := by
  induction members with
  | nil => simp [areTame]
  | cons member rest ih =>
    obtain ⟨name, argument⟩ := member
    rw [areTame, Bool.and_eq_true, ih, List.forall_mem_cons]
    refine and_congr_left fun _ => ?_
    cases Draft.draft7.keyword? name with
    | none => simp [IsTameNote, or_iff_not_imp_left]
    | some keyword =>
      -- Only the keywords that hold schemas say more of their arguments.
      cases holds : keyword.holding? with
      | none => simp [IsTameArgument, holds, or_iff_not_imp_left]
      | some held =>
        obtain ⟨holding, whole⟩ := held
        cases whole <;> simp [IsTameArgument, holds, or_iff_not_imp_left]

/-- Members hold tame schemas exactly when each of them does. -/
theorem areTameParts_iff : areTameParts strict ranks bound depth part members = true ↔
    ∀ member ∈ members, isTame strict ranks bound depth part member.2 = true := by
  -- The check walks the members itself, for the sake of its recursion.
  induction members with
  | nil => simp [areTameParts]
  | cons member rest ih => rw [areTameParts, Bool.and_eq_true, ih, List.forall_mem_cons]

/-- The items of a list are tame schemas exactly when each of them is. -/
theorem areTameItems_iff : areTameItems strict ranks bound depth items = true ↔
    ∀ item ∈ items, isTame strict ranks bound depth .schema item = true := by
  -- The check walks the items itself, for the sake of its recursion.
  induction items with
  | nil => simp [areTameItems]
  | cons item rest ih => rw [areTameItems, Bool.and_eq_true, ih, List.forall_mem_cons]

end Lists

section Schemas

variable {root : Json} {ranks : Table Nat} {bound depth : Nat} {value argument : Json}

/-- What may be a schema or something else is a schema where it is no list. -/
theorem isTame_schema_of_ne_list {strict : Bool} {holding : Holding}
    (either : holding = .schemaOrSchemas ∨ holding = .schemaOrNames)
    (tame : isTame strict ranks bound depth holding argument = true)
    (single : ∀ items, argument ≠ .list items) :
    isTame strict ranks bound depth .schema argument = true := by
  -- Of the two forms that such an argument may have, a list is ruled out.
  rcases either with rfl | rfl <;> cases argument <;> first
    | exact tame
    | exact absurd rfl (single _)

/-- What a strict table holds is an object whose members are tame. -/
theorem exists_members_of_isTame {part : Holding}
    (tame : isTame true ranks bound depth (.table part) argument = true) :
    ∃ members, argument = .object members ∧
      ∀ member ∈ members, isTame true ranks bound depth part member.2 = true := by
  -- Only an object is a table.
  cases argument with
  | object members => exact ⟨members, rfl, areTameParts_iff.1 (by simpa only [isTame] using tame)⟩
  | _ => simp [isTame] at tame

/-- What strictly holds schemas is a list of tame schemas. -/
theorem exists_schemas_of_isTame (tame : isTame true ranks bound depth .schemas argument = true) :
    ∃ schemas, argument = .list schemas ∧
      ∀ part ∈ schemas, isTame true ranks bound depth .schema part = true := by
  -- Only a list is one of schemas.
  cases argument with
  | list schemas => exact ⟨schemas, rfl, areTameItems_iff.1 (by simpa only [isTame] using tame)⟩
  | _ => simp [isTame] at tame

/-- A schema keeps the draft if that is the one by which it is checked within another schema. -/
theorem keepsDraft_iff {members : List (String × Json)} : keepsDraft members = true ↔
    draftWithin .draft7 (.object members) = .ok .draft7 := by
  rw [keepsDraft]
  cases draftWithin .draft7 (.object members) <;> simp [Except.toOption]

/-- Where there are further items, none but a truth value for all items keeps them from being told.
-/
theorem describesItems_iff {members : List (String × Json)} : describesItems members = true ↔
    (Table.has "additionalItems" members = true →
      ∀ listed, Table.get? "items" members = some listed → isTruth listed = false) := by
  rw [describesItems]
  cases Table.get? "items" members <;> simp [or_iff_not_imp_left]

/-- A reference is ranked if it is a text with a rank below the depth. -/
theorem isRanked_iff {members : List (String × Json)} : isRanked ranks depth members = true ↔
    ∀ argument, Table.get? "$ref" members = some argument →
      ∃ reference rank, argument = .text reference ∧ Table.get? reference ranks = some rank ∧
        rank < depth := by
  rw [isRanked]
  -- Without a reference there is nothing to rank.
  cases Table.get? "$ref" members with
  | none => simp
  | some argument => cases argument <;> simp [Json.text?, Option.any_eq_true]

/-- The facts about a tame schema that writes members. -/
structure IsTameObject (strict : Bool) (ranks : Table Nat) (bound depth : Nat)
    (members : List (String × Json)) : Prop where
  positive : 0 < depth
  drafted : draftWithin .draft7 (.object members) = .ok .draft7
  described : Table.has "additionalItems" members = true →
    ∀ listed, Table.get? "items" members = some listed → isTruth listed = false
  ranked : ∀ argument, Table.get? "$ref" members = some argument →
    ∃ reference rank, argument = .text reference ∧ Table.get? reference ranks = some rank ∧
      rank < depth
  tame : areTame strict ranks bound (depth - 1) members = true

/-- A schema that writes members is tame exactly when all of that holds of it. -/
theorem isTame_object_iff {strict : Bool} {holding : Holding} {members : List (String × Json)}
    (single : holding ∈ [Holding.schema, .schemaOrSchemas, .schemaOrNames]) :
    isTame strict ranks bound depth holding (.object members) = true ↔
      IsTameObject strict ranks bound depth members := by
  have shape : isTame strict ranks bound depth holding (.object members) =
      (decide (0 < depth) && keepsDraft members && describesItems members &&
        isRanked ranks depth members && areTame strict ranks bound (depth - 1) members) := by
    simp only [List.mem_cons, List.not_mem_nil, or_false] at single
    rcases single with rfl | rfl | rfl <;> simp [isTame]
  rw [shape]
  simp only [Bool.and_eq_true, decide_eq_true_eq, keepsDraft_iff, describesItems_iff, isRanked_iff,
    and_assoc]
  -- The facts are the fields, in the order in which they are checked.
  constructor
  · rintro ⟨positive, drafted, described, ranked, tame⟩
    exact ⟨positive, drafted, described, ranked, tame⟩
  · rintro ⟨positive, drafted, described, ranked, tame⟩
    exact ⟨positive, drafted, described, ranked, tame⟩

/-- The argument of a keyword in a tame schema is as it must be. -/
theorem IsTameObject.suits {strict : Bool} {members : List (String × Json)} {name : String}
    {keyword : Keyword} (object : IsTameObject strict ranks bound (depth + 1) members)
    (listed : (name, argument) ∈ members)
    (known : Draft.draft7.keyword? name = some keyword) :
    IsTameArgument strict ranks bound depth keyword argument :=
  (areTame_iff.1 object.tame _ listed).2 keyword known

/-- A keyword of a draft is listed with its name. -/
theorem mem_names_of_keyword? {draft : Draft} {name : String} {keyword : Keyword}
    (known : draft.keyword? name = some keyword) : (name, keyword) ∈ Keyword.names := by
  obtain ⟨found, -⟩ := Option.filter_eq_some_iff.1 known
  exact Table.mem_of_get? found

section Parts

variable {check : Checker} {items : List Json}

/-- A check of all items is carried to its end, where each check by a tame schema is. -/
theorem isComplete_checkAllItems
    (tame : isTame true ranks bound depth .schemaOrSchemas argument = true)
    (each : ∀ part, isTame true ranks bound depth .schema part = true →
      ∀ item ∈ items, (check .part part item).IsComplete) :
    (checkAllItems check .draft7 argument items).IsComplete := by
  cases argument with
  | list schemas =>
    -- The items at single places have schemas of their own.
    have tames := areTameItems_iff.1 (by simpa only [isTame] using tame)
    exact isComplete_checkItemwise fun schema listed => each schema (tames schema listed)
  | _ => exact isComplete_checkItems (each _ (isTame_schema_of_ne_list (.inl rfl) tame nofun))

/-- In a tame schema with further items, the items before these are described by a schema for all or
by some schemas. -/
theorem IsTameObject.isObject_or_list {members : List (String × Json)} {listed : Json}
    (object : IsTameObject true ranks bound (depth + 1) members)
    (further : Table.has "additionalItems" members = true)
    (found : Table.get? "items" members = some listed) :
    listed.isObject = true ∨ ∃ schemas, listed = .list schemas := by
  have tame := (object.suits (Table.mem_of_get? found) rfl).2 _ _ rfl
  have described := object.described further listed found
  -- Beside further items a truth value for all items is ruled out.
  cases listed with
  | object members => exact .inl rfl
  | list schemas => exact .inr ⟨schemas, rfl⟩
  | bool truth => cases described
  | _ => simp [isTame] at tame

/-- A check of what a member needs is carried to its end, where the check of the whole object by a
tame schema is. -/
theorem isComplete_checkDependency {name : String} {held : List (String × Json)}
    (tame : isTame true ranks bound depth .schemaOrNames argument = true)
    (whole : isTame true ranks bound depth .schema argument = true →
      (check .part argument (.object held)).IsComplete) :
    (checkDependency check held name argument).IsComplete := by
  -- A list names members that must be there, anything else is a schema for the whole.
  cases argument with
  | list names => exact isComplete_checkPresent (by simpa [isTame] using tame)
  | _ => exact whole (isTame_schema_of_ne_list (.inr rfl) tame nofun)

end Parts

section Keyword

variable {check : Checker} {members : List (String × Json)} {keyword : Keyword}
  (object : IsTameObject true ranks bound (depth + 1) members) {name : String}
  (listed : (name, argument) ∈ members) (known : Draft.draft7.keyword? name = some keyword)
  (whole : ∀ access part, isTame true ranks bound depth .schema part = true →
    (check access part value).IsComplete)
  (smaller : ∀ part inner, isTame true ranks bound bound .schema part = true →
    inner.size < value.size → (check .part part inner).IsComplete)

include object listed known smaller

/-- A keyword of a tame schema about the items of a list is checked to the end, if the checks of
smaller values by tame schemas are. -/
theorem isComplete_aboutItems (about : keyword = .items ∨ keyword = .additionalItems) :
    (checkKeyword check root .draft7 members value keyword argument).IsComplete := by
  obtain ⟨-, holds⟩ := object.suits listed known
  cases value with
  | list items =>
    -- An item is smaller than its list.
    have each (part : Json) (tame : isTame true ranks bound bound .schema part = true) :
        ∀ item ∈ items, (check .part part item).IsComplete :=
      fun item among => smaller part item tame (Json.size_lt_of_mem among)
    rcases about with rfl | rfl
    · exact isComplete_checkAllItems (holds _ _ rfl) each
    · have further : Table.has "additionalItems" members = true := by
        obtain rfl : name = "additionalItems" := by
          simpa [Keyword.names] using mem_names_of_keyword? known
        exact Table.has_iff.2 (List.mem_map_of_mem listed)
      exact isComplete_checkFurtherItems (fun _ => object.isObject_or_list further)
        (each argument (holds _ _ rfl))
  | _ => rcases about with rfl | rfl <;> exact Findings.isComplete_none

/-- A keyword of a tame schema about the members of an object is checked to the end, if the checks
of smaller values by tame schemas are. -/
theorem isComplete_aboutMembers
    (about : keyword = .properties ∨ keyword = .additionalProperties) :
    (checkKeyword check root .draft7 members value keyword argument).IsComplete := by
  obtain ⟨-, holds⟩ := object.suits listed known
  cases value with
  | object held =>
    -- A member is smaller than the object that holds it.
    have each (part : Json) (tame : isTame true ranks bound bound .schema part = true) :
        ∀ member ∈ held, (check .part part member.2).IsComplete :=
      fun member among => smaller part member.2 tame (Json.size_lt_of_mem_members among)
    rcases about with rfl | rfl
    · obtain ⟨parts, rfl, tames⟩ := exists_members_of_isTame (holds _ _ rfl)
      unfold checkKeyword
      simp only [membersOf, Bind.bind, Except.bind, pure, Except.pure, Findings.unlessMisfit]
      rw [Findings.isComplete_concat_iff, List.forall_mem_map]
      rintro ⟨name, part⟩ among
      -- A property that the value lacks is not checked.
      cases found : Table.get? name held with
      | none => simp
      | some inner =>
        exact isComplete_checkPart (each part (tames _ among) _ (Table.mem_of_get? found))
    · refine isComplete_checkUnlisted ?_ (each argument (holds _ _ rfl))
      intro parts properties
      -- What is listed under the properties is a table, which is an object.
      have tame := (object.suits (Table.mem_of_get? properties) rfl).2 _ _ rfl
      obtain ⟨_, rfl, -⟩ := exists_members_of_isTame tame
      rfl
  | _ => rcases about with rfl | rfl <;> exact Findings.isComplete_none

include whole

/-- A keyword of a tame schema is checked to the end, if the checks by tame schemas are: of the
value itself by one that needs at most `depth` nested steps, and of smaller values by any. -/
theorem isComplete_checkKeyword (alone : keyword ≠ .reference) :
    (checkKeyword check root .draft7 members value keyword argument).IsComplete := by
  have takes := (object.suits listed known).1 rfl
  have holds := (object.suits listed known).2
  -- Keywords without schemas need arguments of the right kind, and the others tame schemas.
  cases keyword with
  | reference => exact absurd rfl alone
  | type => exact isComplete_type takes
  | const => exact Findings.isComplete_require
  | enum =>
    cases argument with
    | list listed => exact Findings.isComplete_require
    | _ => cases takes
  | minimum | maximum | exclusiveMinimum | exclusiveMaximum | minLength | maxLength | minItems
  | maxItems => exact isComplete_bound takes (by simp)
  | uniqueItems =>
    cases value with
    | list items => exact Findings.isComplete_require
    | _ => exact Findings.isComplete_none
  | required =>
    cases argument with
    | list names =>
      cases value with
      | object members => exact isComplete_checkPresent takes
      | _ => exact Findings.isComplete_none
    | _ => cases takes
  | items => exact isComplete_aboutItems object listed known smaller (.inl rfl)
  | additionalItems => exact isComplete_aboutItems object listed known smaller (.inr rfl)
  | properties => exact isComplete_aboutMembers object listed known smaller (.inl rfl)
  | additionalProperties => exact isComplete_aboutMembers object listed known smaller (.inr rfl)
  | dependencies =>
    obtain ⟨needs, rfl, tames⟩ := exists_members_of_isTame (holds _ _ rfl)
    cases value with
    | object held =>
      unfold checkKeyword
      simp only [membersOf, Bind.bind, Except.bind, pure, Except.pure, Findings.unlessMisfit]
      rw [Findings.isComplete_concat_iff, List.forall_mem_map]
      rintro ⟨name, needed⟩ among
      dsimp only
      split
      · exact isComplete_checkDependency (tames _ among) (whole .part needed)
      · exact Findings.isComplete_none
    | _ => exact Findings.isComplete_none
  | allOf | anyOf | oneOf =>
    obtain ⟨schemas, rfl, tames⟩ := exists_schemas_of_isTame (holds _ _ rfl)
    exact isComplete_combination (fun access part among => whole access part (tames part among))
      (by simp)
  | negation =>
    obtain ⟨clean, told⟩ := (whole .trial argument (holds _ _ rfl)).exists_isClean
    unfold checkKeyword
    simp only [told, Bind.bind, Except.bind, pure, Except.pure, Findings.ofExcept]
    cases clean <;> rfl

end Keyword

end Schemas

section Fuel

variable {root : Json} {ranks : Table Nat} {bound : Nat}

/-- Whether every reference with a rank leads to a tame schema that takes no more steps. -/
def areRanks (strict : Bool) (root : Json) (ranks : Table Nat) (bound : Nat) : Bool :=
  ranks.all fun (reference, rank) =>
    match Pointer.resolve root reference with
    | .ok (some target) => isTame strict ranks bound rank .schema target
    | _ => false

/-- References are ranked exactly when each of them leads to a schema that takes the steps of its
rank at most. -/
theorem areRanks_iff {strict : Bool} : areRanks strict root ranks bound = true ↔
    ∀ entry ∈ ranks, ∃ target, Pointer.resolve root entry.1 = .ok (some target) ∧
      isTame strict ranks bound entry.2 .schema target = true := by
  rw [areRanks, List.all_eq_true]
  refine forall₂_congr fun entry _ => ?_
  -- A reference that leads nowhere is not ranked.
  dsimp only
  split
  · next target resolved => simp [resolved]
  · next nowhere =>
    refine iff_of_false Bool.false_ne_true ?_
    rintro ⟨target, resolved, -⟩
    exact nowhere target resolved

/-- A check by an object is carried to its end if the check of each keyword that counts is. -/
theorem isComplete_checkFuel_succ {fuel : Nat} {access : Access} {value : Json}
    {members active : List (String × Json)}
    (opened : openSchema access .draft7 (.object members) = .ok (.draft7, active))
    (complete : ∀ name argument keyword, (name, argument) ∈ active →
      Draft.draft7.keyword? name = some keyword →
      (checkKeyword (checkFuel root fuel .draft7) root .draft7 members value keyword
        argument).IsComplete) :
    (checkFuel root (fuel + 1) .draft7 access (.object members) value).IsComplete := by
  simp only [checkFuel, opened, Bind.bind, Except.bind, pure, Except.pure, Findings.unlessMisfit]
  rw [Findings.isComplete_concat_iff, List.forall_mem_map]
  rintro ⟨name, argument⟩ member
  dsimp only
  -- A member that is no keyword finds nothing.
  split
  · exact Findings.isComplete_none
  · next keyword known => exact complete name argument keyword member known

/-- Where a reference stands alone, it is all that is checked. -/
theorem isComplete_checkFuel_reference {fuel : Nat} {access : Access} {value target : Json}
    {members : List (String × Json)} {reference : String}
    (drafted : draftWithin .draft7 (.object members) = .ok .draft7)
    (found : Table.get? "$ref" members = some (.text reference))
    (resolved : Pointer.resolve root reference = .ok (some target))
    (complete : (checkFuel root fuel .draft7 .reference target value).IsComplete) :
    (checkFuel root (fuel + 1) .draft7 access (.object members) value).IsComplete := by
  -- What is written beside the reference does not count.
  have counted : activeMembers .draft7 (.object members) = .ok [("$ref", .text reference)] := by
    rw [activeMembers, found]
    rfl
  refine isComplete_checkFuel_succ (openSchema_eq_ok drafted counted) ?_
  intro name argument keyword member known
  cases List.mem_singleton.1 member
  cases known
  unfold checkKeyword
  simpa only [checkReference, resolved, Bind.bind, Except.bind, pure, Except.pure,
    Findings.unlessMisfit] using complete

/-- A check by a tame schema is carried to its end with fuel for its own steps and, for every value
inside the value, for `bound` more. -/
theorem isComplete_checkFuel (ranked : areRanks true root ranks bound = true) {fuel depth : Nat}
    {access : Access} {schema value : Json}
    (tame : isTame true ranks bound depth .schema schema = true)
    (enough : depth + bound * value.size ≤ fuel) :
    (checkFuel root fuel .draft7 access schema value).IsComplete := by
  -- Every nested step costs one of the depth, and a step into a part frees `bound` at least.
  induction fuel generalizing depth access schema value with
  | zero =>
    -- Without fuel there is no step left, but a tame schema takes one at least.
    have positive : 0 < depth := by
      cases schema with
      | object members => exact ((isTame_object_iff (by simp)).1 tame).positive
      | bool truth => simpa [isTame] using tame
      | _ => simp [isTame] at tame
    omega
  | succ fuel ih =>
    cases schema with
    | bool truth => cases truth <;> rfl
    | object members =>
      have object := (isTame_object_iff (by simp)).1 tame
      obtain ⟨depth, rfl⟩ : ∃ less, depth = less + 1 :=
        ⟨depth - 1, by have := object.positive; omega⟩
      cases found : Table.get? "$ref" members with
      | some argument =>
        -- Only the reference counts, and its target needs fewer steps.
        obtain ⟨reference, rank, rfl, given, less⟩ := object.ranked argument found
        obtain ⟨target, resolved, targetTame⟩ := areRanks_iff.1 ranked _ (Table.mem_of_get? given)
        exact isComplete_checkFuel_reference object.drafted found resolved
          (ih targetTame (by omega))
      | none =>
        have counted : activeMembers .draft7 (.object members) = .ok members := by
          rw [activeMembers, found]
        refine isComplete_checkFuel_succ (openSchema_eq_ok object.drafted counted) ?_
        intro name argument keyword member known
        have alone : keyword ≠ .reference := by
          rintro rfl
          obtain rfl : name = "$ref" := by simpa [Keyword.names] using mem_names_of_keyword? known
          exact Table.get?_eq_none_iff.1 found (List.mem_map_of_mem member)
        refine isComplete_checkKeyword object member known ?_ ?_ alone
        · intro access part partTame
          exact ih partTame (by omega)
        · intro part inner partTame inside
          have less : bound * (inner.size + 1) ≤ bound * value.size :=
            Nat.mul_le_mul_left bound inside
          exact ih partTame (by rw [Nat.mul_add] at less; omega)
    | _ => simp [isTame] at tame

/-- The check of a document by a tame schema has fuel enough, if no more steps are made than the
schema holds values. -/
theorem isComplete_check {depth : Nat} {schema : Json} (document : Json)
    (ranked : areRanks true schema ranks bound = true)
    (tame : isTame true ranks bound depth .schema schema = true)
    (shallow : depth ≤ schema.size) (small : bound ≤ schema.size) :
    (check .draft7 schema document).IsComplete := by
  -- There is fuel for every value of the schema in every value of the document.
  have inside : bound * document.size ≤ (schema.size + 1) * document.size :=
    Nat.mul_le_mul_right document.size (by omega)
  refine isComplete_checkFuel ranked tame ?_
  rw [Nat.mul_add, Nat.mul_one]
  omega

end Fuel

end Gamebook.Schema
