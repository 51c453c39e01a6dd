import Gamebook.Proofs.Json.Reader
import Gamebook.Proofs.Schema.Recognize
import Gamebook.Proofs.Schema.Registry

/-! What fits the schema of schemas of the seventh draft, and that by a schema which does every
check is carried to its end. -/

namespace Gamebook.Schema

section Keywords

variable {check : Checker} {root value : Json} {draft : Draft} {schema : List (String × Json)}
  {schemas : List Json}

/-- A value passes several schemas at once. -/
theorem allOf_eq_none_iff :
    checkKeyword check root draft schema value .allOf (.list schemas) = .none ↔
      ∀ part ∈ schemas, check .part part value = .none := by
  -- Findings put together are none when each of them is none.
  unfold checkKeyword
  simp only [partsOf, Bind.bind, Except.bind, pure, Except.pure, Findings.unlessMisfit_eq_none_iff,
    Except.ok.injEq, Findings.concat_eq_none_iff, List.forall_mem_map]

/-- The first schema that a value fits is one that it passes. -/
theorem eq_none_of_firstFit? {trial : Json → Findings} {first : Json} {rest : List Json}
    (fit : firstFit? trial schemas = .ok (some (first, rest))) :
    first ∈ schemas ∧ trial first = .none := by
  induction schemas with
  | nil => cases fit
  | cons part others ih =>
    rw [firstFit?] at fit
    obtain ⟨clean, told, fit⟩ := bind_eq_ok_iff.1 fit
    -- The first schema is the one, or one of the others is.
    cases clean with
    | true =>
      cases fit
      exact ⟨List.mem_cons_self, Findings.isCleanThroughout_eq_true_iff.1 told⟩
    | false => exact (ih fit).imp_left (List.mem_cons_of_mem part)

/-- A value that passes at least one of several schemas passes one of them. -/
theorem exists_of_anyOf_eq_none
    (clean : checkKeyword check root draft schema value .anyOf (.list schemas) = .none) :
    ∃ part ∈ schemas, check .part part value = .none := by
  unfold checkKeyword at clean
  simp only [partsOf, Bind.bind, Except.bind, pure, Except.pure, Findings.unlessMisfit_eq_none_iff,
    Except.ok.injEq, checkAny, Findings.ofExcept_eq_none_iff] at clean
  -- The check finds nothing only if one of the schemas was fitted.
  cases fit : firstFit? (check .part · value) schemas with
  | error obstacle => simp [fit] at clean
  | ok found =>
    cases found with
    | none => simp [fit] at clean
    | some found => exact ⟨found.1, eq_none_of_firstFit? fit⟩

/-- Where a schema lists no properties, every member passes the schema for those that are not
listed. -/
theorem additionalProperties_eq_none_iff {part : Json} {members : List (String × Json)}
    (object : part.isObject = true) (unlisted : Table.get? "properties" schema = none) :
    checkKeyword check root draft schema (.object members) .additionalProperties part = .none ↔
      ∀ member ∈ members, check .part part member.2 = .none := by
  obtain ⟨extra, told, kept⟩ := @exists_unlisted schema members [] (by rw [unlisted]; rfl)
  unfold checkKeyword
  simp only [checkUnlisted, told, if_pos object, Bind.bind, Except.bind, pure, Except.pure,
    Findings.unlessMisfit_eq_none_iff, Except.ok.injEq, Findings.concat_eq_none_iff,
    List.forall_mem_map, checkPart_eq_none_iff, kept]
  -- Nothing is listed, so that all members are left.
  simp [Table.has, Table.get?]

end Keywords

/-- A value fits a part of the schema of schemas: with some fuel its check finds nothing. -/
def Fits (part value : Json) : Prop :=
  ∃ fuel access, checkFuel Meta.draft7 fuel .draft7 access part value = .none

namespace Fits

variable {part value argument : Json} {keyword : Keyword} {constraints : List (Keyword × Json)}

/-- A value that fits passes each of the keywords. -/
theorem exists_eq_none (fits : Fits part value) (written : constraints? part = some constraints)
    (listed : (keyword, argument) ∈ constraints) :
    ∃ fuel, checkKeyword (checkFuel Meta.draft7 fuel .draft7) Meta.draft7 .draft7 part.members value
      keyword argument = .none := by
  obtain ⟨fuel, access, clean⟩ := fits
  cases fuel with
  | zero =>
    -- Without fuel a check is blocked, and that is no fit.
    rw [checkFuel] at clean
    cases Findings.blocked_ne_none clean
  | succ fuel => exact ⟨fuel, (checkFuel_eq_none_iff written).1 clean _ listed⟩

/-- A value that fits is of one of the types. -/
theorem exists_hasType (names : List String) (fits : Fits part value)
    (written : constraints? part = some constraints) (listed : (.type, argument) ∈ constraints)
    (wanted : typesOf argument = .ok (names.map Json.text))
    (existing : ∀ name ∈ names, name ∈ knownTypes) :
    ∃ name ∈ names, hasType .draft7 value name = true := by
  obtain ⟨fuel, clean⟩ := fits.exists_eq_none written listed
  exact (type_eq_none_iff wanted existing).1 clean

/-- A value that fits has properties that fit. -/
theorem property {parts : List (String × Json)} {name : String} {inner member : Json}
    (fits : Fits part value) (written : constraints? part = some constraints)
    (listed : (.properties, .object parts) ∈ constraints) (among : (name, inner) ∈ parts)
    (held : value.get? name = some member) : Fits inner member := by
  obtain ⟨fuel, clean⟩ := fits.exists_eq_none written listed
  exact ⟨fuel, .part, properties_eq_none_iff.1 clean _ among member held⟩

/-- A value that fits several parts at once fits each of them. -/
theorem conjunct {schemas : List Json} {inner : Json} (fits : Fits part value)
    (written : constraints? part = some constraints)
    (listed : (.allOf, .list schemas) ∈ constraints) (among : inner ∈ schemas) :
    Fits inner value := by
  obtain ⟨fuel, clean⟩ := fits.exists_eq_none written listed
  exact ⟨fuel, .part, allOf_eq_none_iff.1 clean inner among⟩

/-- What fits the schema of schemas by reference fits it. -/
theorem itself (fits : Fits Meta.itself value) : Fits Meta.draft7 value := by
  obtain ⟨fuel, clean⟩ := fits.exists_eq_none rfl List.mem_cons_self
  exact ⟨fuel, .reference, (reference_eq_none_iff rfl).1 clean⟩

/-- What fits one of several parts fits some of them. -/
theorem anyOf {schemas : List Json} (fits : Fits (Meta.anyOf schemas) value) :
    ∃ inner ∈ schemas, Fits inner value := by
  -- Some schema of the list has no findings at the same fuel.
  obtain ⟨fuel, clean⟩ := fits.exists_eq_none rfl List.mem_cons_self
  obtain ⟨inner, among, passes⟩ := exists_of_anyOf_eq_none clean
  exact ⟨inner, among, fuel, .part, passes⟩

/-- What fits the schema of a type is of the type. -/
theorem ofType {name : String} (existing : name ∈ knownTypes)
    (fits : Fits (Meta.ofType name) value) :
    hasType .draft7 value name = true := by
  -- The list of types has one name.
  obtain ⟨_, only, typed⟩ := fits.exists_hasType [name] rfl List.mem_cons_self rfl
    (by simpa using existing)
  rwa [List.mem_singleton.1 only] at typed

/-- What fits the schema of texts is a text. -/
theorem text (fits : Fits Meta.text value) : isText value = true := by
  obtain ⟨text, rfl⟩ := hasType_string_iff.1 (ofType (by decide) fits)
  rfl

/-- What fits the schema of numbers is a number. -/
theorem number (fits : Fits Meta.number value) : (numberOf? value).isSome = true := by
  have typed := ofType (by decide) fits
  -- Numbers are integers and reals, and truth values are none here.
  cases value with
  | int number => rfl
  | real number => rfl
  | _ => cases typed

/-- What fits the schema of counts is a number. -/
theorem count (fits : Fits Meta.count value) : (numberOf? value).isSome = true := by
  obtain ⟨_, only, typed⟩ := fits.exists_hasType ["integer"] rfl List.mem_cons_self rfl
    (by decide)
  rw [List.mem_singleton.1 only] at typed
  -- A whole real counts as an integer.
  cases value with
  | int number => rfl
  | real number => rfl
  | _ => cases typed

/-- What fits the schema of counts that may be left out is a number. -/
theorem countOrZero (fits : Fits Meta.countOrZero value) : (numberOf? value).isSome = true :=
  count (fits.conjunct rfl List.mem_cons_self List.mem_cons_self)

/-- What fits a schema of lists is a list of what fits the schema of the items. -/
theorem exists_items (fits : Fits part value) (written : constraints? part = some constraints)
    (isList : (.type, .text "array") ∈ constraints) (listed : (.items, argument) ∈ constraints)
    (object : argument.isObject = true) :
    ∃ items, value = .list items ∧ ∀ item ∈ items, Fits argument item := by
  -- The type says that it is a list, and the items are checked one by one.
  obtain ⟨_, only, typed⟩ := fits.exists_hasType ["array"] written isList rfl (by decide)
  rw [List.mem_singleton.1 only] at typed
  obtain ⟨items, rfl⟩ := hasType_array_iff.1 typed
  obtain ⟨fuel, clean⟩ := fits.exists_eq_none written listed
  exact ⟨items, rfl, fun item among =>
    ⟨fuel, .part, (items_eq_none_iff object).1 clean _ rfl _ among⟩⟩

/-- What fits the schema of lists of schemas is a list of what fits the schema of schemas. -/
theorem schemaList (fits : Fits Meta.schemaList value) :
    ∃ items, value = .list items ∧ ∀ item ∈ items, Fits Meta.draft7 item := by
  obtain ⟨items, rfl, each⟩ := fits.exists_items rfl (.head _) (.tail _ (.tail _ (.head _))) rfl
  exact ⟨items, rfl, fun item among => (each item among).itself⟩

/-- What fits the schema of lists of texts is such a list. -/
theorem textList (fits : Fits Meta.textList value) :
    ∃ names, value = .list names ∧ names.all isText = true := by
  obtain ⟨names, rfl, each⟩ := fits.exists_items rfl (.head _) (.tail _ (.head _)) rfl
  exact ⟨names, rfl, List.all_eq_true.2 fun name among => (each name among).text⟩

/-- What fits the schema of tables is an object whose members fit. -/
theorem tableOf {inner : Json} (fits : Fits (Meta.tableOf inner) value)
    (object : inner.isObject = true) :
    ∃ members, value = .object members ∧ ∀ member ∈ members, Fits inner member.2 := by
  -- The type says that it is an object, of which no property is listed.
  obtain ⟨_, only, typed⟩ := fits.exists_hasType ["object"] rfl (.head _) rfl (by decide)
  rw [List.mem_singleton.1 only, hasType_object] at typed
  cases value with
  | object members =>
    obtain ⟨fuel, clean⟩ := fits.exists_eq_none rfl (.tail _ (.head _))
    exact ⟨members, rfl, fun member among =>
      ⟨fuel, .part, (additionalProperties_eq_none_iff object rfl).1 clean member among⟩⟩
  | _ => cases typed

/-- What fits the schema of names of types is such a name, or several. -/
theorem typeNames (fits : Fits Meta.typeNames value) : namesTypes value = true := by
  -- A simple name is one of those that are enumerated.
  have simple {value : Json} (fits : Fits Meta.simpleTypes value) :
      ∃ name ∈ knownTypes, value = .text name := by
    obtain ⟨fuel, clean⟩ := fits.exists_eq_none rfl List.mem_cons_self
    exact enum_eq_none_iff.1 clean
  obtain ⟨inner, among, fits⟩ := fits.anyOf
  simp only [List.mem_cons, List.not_mem_nil, or_false] at among
  -- It is a name by itself, or a list of them.
  rcases among with rfl | rfl
  · obtain ⟨name, known, rfl⟩ := simple fits
    simpa [namesTypes] using known
  · obtain ⟨names, rfl, each⟩ := fits.exists_items rfl (.head _) (.tail _ (.head _)) rfl
    refine List.all_eq_true.2 fun type among => ?_
    obtain ⟨name, known, rfl⟩ := simple (each type among)
    simpa [Json.text?] using known

/-- What fits the schema of lists is a list. -/
theorem list (fits : Fits (Meta.ofType "array") value) : ∃ items, value = .list items :=
  hasType_array_iff.1 (ofType (by decide) fits)

/-- What fits the schema of schemas is an object or a truth value. -/
theorem isObject_or_isTruth (fits : Fits Meta.draft7 value) :
    value.isObject = true ∨ isTruth value = true := by
  obtain ⟨_, among, typed⟩ := fits.exists_hasType ["object", "boolean"] rfl (.head _) rfl
    (by decide)
  simp only [List.mem_cons, List.not_mem_nil, or_false] at among
  -- Both types that a schema may have are told by the value alone.
  rcases among with rfl | rfl
  · exact .inl (hasType_object ▸ typed)
  · cases value with
    | bool truth => exact .inr rfl
    | _ => cases typed

end Fits

end Gamebook.Schema
