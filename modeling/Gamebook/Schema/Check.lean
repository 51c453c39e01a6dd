import Gamebook.IdSet
import Gamebook.Json.Number
import Gamebook.Schema.Draft
import Gamebook.Schema.Pointer
import Gamebook.Schema.Violation

/-! Checking values against schemas, keyword by keyword in the order that a schema writes. -/

namespace Gamebook.Schema

/-- The names of the types that there are. -/
def knownTypes : List String :=
  ["array", "boolean", "integer", "null", "number", "object", "string"]

/-- Whether a value is of a named type; booleans are no numbers, and from the sixth draft on a
whole real is an integer. -/
def hasType (draft : Draft) (value : Json) (name : String) : Bool :=
  match name, value with
  | "null", .null | "boolean", .bool _ | "string", .text _ | "array", .list _
  | "object", .object _ | "integer", .int _ | "number", .int _ | "number", .real _ => true
  | "integer", .real real => draft ≠ .draft4 && real.isWhole
  | _, _ => false

/-- Whether no two items are the same. -/
def allDistinct : List Json → Bool
  | [] => true
  | item :: rest => !rest.any (Json.same item) && allDistinct rest

/-- How a schema is come upon. -/
inductive Access where
  -- As a part of another one.
  | part
  | reference
  -- By itself, to see whether a value fits it.
  | trial
  deriving DecidableEq

/-- A check of a value by a schema that is come upon in a certain way. -/
abbrev Checker := Access → Json → Json → Findings

/-- A bound from below on a number. -/
def checkMinimum (value bound : Json) (exclusive : Bool) : Findings :=
  .unlessMisfit do
    let order ← compareTo (if exclusive then "<=" else "<") value bound
    return .require (order ≠ some .lt && !(exclusive && order = some .eq))
      (.tooSmall value bound exclusive)

/-- A bound from above on a number. -/
def checkMaximum (value bound : Json) (exclusive : Bool) : Findings :=
  .unlessMisfit do
    let order ← compareTo (if exclusive then ">=" else ">") value bound
    return .require (order ≠ some .gt && !(exclusive && order = some .eq))
      (.tooLarge value bound exclusive)

/-- A least length. -/
def checkLeast (value : Json) (length : Nat) (bound : Json) : Findings :=
  .unlessMisfit do
    let order ← compareTo "<" (.int length) bound
    return .require (order ≠ some .lt)
      (.tooShort value ((numberOf? bound).any (Json.same (.int 1))))

/-- A greatest length. -/
def checkGreatest (value : Json) (length : Nat) (bound : Json) : Findings :=
  .unlessMisfit do
    let order ← compareTo ">" (.int length) bound
    return .require (order ≠ some .gt)
      (.tooLong value ((numberOf? bound).any (Json.same (.int 0))))

/-- A part of a value by a schema; a part that no value may be is reported where it is held. -/
def checkPart (check : Checker) (schema : Json) (step : LocPart) (part : Json) : Findings :=
  match schema with
  | .bool false => check .part schema part
  | schema => (check .part schema part).under step

/-- The items of a list from a place on, all by one schema. -/
def checkItems (check : Checker) (schema : Json) (place : Nat) (items : List Json) : Findings :=
  .concat ((items.zipIdx place).map fun (item, place) => checkPart check schema (.index place) item)

/-- The items of a list, each by the schema at its place. -/
def checkItemwise (check : Checker) (schemas items : List Json) : Findings :=
  .concat (((schemas.zip items).zipIdx).map fun ((schema, item), place) =>
    checkPart check schema (.index place) item)

/-- The first schema that a value fits, with those after it; every schema before it is checked in
full. -/
def firstFit? (check : Json → Findings) :
    List Json → Except Obstacle (Option (Json × List Json))
  | [] => .ok none
  | schema :: rest => do
    if ← (check schema).isCleanThroughout then return some (schema, rest)
    else firstFit? check rest

/-- The schemas that a value fits. -/
def fits (check : Json → Findings) : List Json → Except Obstacle (List Json)
  | [] => .ok []
  | schema :: rest => do
    let clean ← (check schema).isClean
    let further ← fits check rest
    return if clean then schema :: further else further

/-- At least one of several schemas. -/
def checkAny (check : Checker) (schemas : List Json) (value : Json) : Findings :=
  .ofExcept do
    match ← firstFit? (check .part · value) schemas with
    | some _ => return .none
    | none => return .one (.noAlternative value)

/-- Exactly one of several schemas. -/
def checkOne (check : Checker) (schemas : List Json) (value : Json) : Findings :=
  .ofExcept do
    match ← firstFit? (check .part · value) schemas with
    | none => return .one (.noAlternative value)
    | some (first, rest) =>
      let further ← fits (check .trial · value) rest
      return if further.isEmpty then .none
        else .one (.severalAlternatives value (further ++ [first]))

/-- The members of an object that its schema does not list. -/
def unlisted (schema members : List (String × Json)) :
    Except Misfit (List (String × Json)) :=
  let listed := (Table.get? "properties" schema).getD (.object [])
  members.filterM fun member => return !(← holdsName member.1 listed)

/-- The members of an object that its schema does not list, by a schema for those. -/
def checkUnlisted (check : Checker) (schema : List (String × Json)) (argument : Json)
    (members : List (String × Json)) : Findings :=
  .unlessMisfit do
    let extra ← unlisted schema members
    if argument.isObject then
      return .concat (extra.map fun (name, member) => checkPart check argument (.key name) member)
    else
      return .require (argument.isTruthy || extra.isEmpty)
        (.extraProperties (sortIds (extra.map (·.1))))

/-- The items of a list, by the schema for all or the schemas for single places. In the fourth draft
only an object is a schema, and from the draft of 2020 on there is only one for all. -/
def checkAllItems (check : Checker) (draft : Draft) (argument : Json) (items : List Json) :
    Findings :=
  match draft, argument with
  | .draft2020, .bool false => .require items.isEmpty (.itemsAfter items)
  | .draft2020, schema => checkItems check schema 0 items
  | _, .list schemas => checkItemwise check schemas items
  | .draft4, .object members => checkItems check (.object members) 0 items
  | .draft4, schemas =>
    .unlessMisfit do return checkItemwise check (← partsOf schemas) items
  | _, schema => checkItems check schema 0 items

/-- The items after those that have a schema of their own, if only single places have one. -/
def checkFurtherItems (check : Checker) (schema : List (String × Json)) (argument : Json)
    (items : List Json) : Findings :=
  match Table.get? "items" schema with
  | none => .none
  | some (.object _) => .none
  | some listed =>
    .unlessMisfit do
      let place ← countOf listed
      let rest := items.drop place
      if argument.isObject then return checkItems check argument place rest
      else return .require (argument.isTruthy || rest.isEmpty) (.extraItems rest)

/-- Members that an object must have. -/
def checkPresent (failure : Json → Failure) (members : List (String × Json)) (names : List Json) :
    Findings :=
  .concat (names.map fun name => .unlessMisfit do
    return .require (← hasMember members name) (failure name))

/-- The needs of a member that is present: other members, or a schema for the whole object. -/
def checkDependency (check : Checker) (members : List (String × Json)) (name : String) :
    Json → Findings
  | .list needed => checkPresent (.dependencyMissing · name) members needed
  | schema => check .part schema (.object members)

/-- The schema that a reference names. -/
def checkReference (check : Checker) (root argument value : Json) : Findings :=
  match argument with
  | .text reference => .unlessMisfit do
    match ← Pointer.resolve root reference with
    | some target => return check .reference target value
    | none => return .blocked .unresolvedReference
  | argument => .blocked (.misfit (.lacks argument "startswith"))

/-- The types of which one is wanted. -/
def typesOf : Json → Except Misfit (List Json)
  | .text name => .ok [.text name]
  | types => partsOf types

/-- Whether a value is of one of several types; those after the first that it is of are not looked
at. -/
def hasAnyType (draft : Draft) (schema : List (String × Json)) (value : Json) :
    List Json → Except Obstacle Bool
  | [] => .ok false
  | type :: rest =>
    match type with
    | .text name =>
      if !knownTypes.contains name then .error (.unknownType type value (.object schema))
      else if hasType draft value name then .ok true
      else hasAnyType draft schema value rest
    | .list _ | .object _ => .error (.misfit (.noTypeName type))
    | _ => .error (.unknownType type value (.object schema))

/-- Whether a bound excludes itself, by a keyword of the fourth draft. -/
def isExclusive (draft : Draft) (schema : List (String × Json)) (name : String) : Bool :=
  draft == .draft4 && (Table.get? name schema).any Json.isTruthy

/-- The constraint of one keyword of a schema within a whole one, to which references lead. -/
def checkKeyword (check : Checker) (root : Json) (draft : Draft) (schema : List (String × Json))
    (value : Json) (keyword : Keyword) (argument : Json) : Findings :=
  match keyword, value with
  | .reference, _ => checkReference check root argument value
  | .type, _ => .unlessMisfit do
    let types ← typesOf argument
    return .ofExcept do
      return .require (← hasAnyType draft schema value types) (.wrongType value types)
  | .enum, _ => .unlessMisfit do
    return .require ((← partsOf argument).any (Json.same value)) (.notListed value argument)
  | .const, _ => .require (value.same argument) (.notEqual argument)
  | .minimum, .int _ | .minimum, .real _ =>
    checkMinimum value argument (isExclusive draft schema "exclusiveMinimum")
  | .maximum, .int _ | .maximum, .real _ =>
    checkMaximum value argument (isExclusive draft schema "exclusiveMaximum")
  | .exclusiveMinimum, .int _ | .exclusiveMinimum, .real _ => checkMinimum value argument true
  | .exclusiveMaximum, .int _ | .exclusiveMaximum, .real _ => checkMaximum value argument true
  | .minLength, .text text => checkLeast value text.length argument
  | .maxLength, .text text => checkGreatest value text.length argument
  | .minItems, .list items => checkLeast value items.length argument
  | .maxItems, .list items => checkGreatest value items.length argument
  | .uniqueItems, .list items =>
    .require (!argument.isTruthy || allDistinct items) (.repeated value)
  | .items, .list items => checkAllItems check draft argument items
  | .additionalItems, .list items => checkFurtherItems check schema argument items
  | .properties, .object members => .unlessMisfit do
    return .concat ((← membersOf argument).map fun (name, schema) =>
      match Table.get? name members with
      | some member => checkPart check schema (.key name) member
      | none => .none)
  | .additionalProperties, .object members => checkUnlisted check schema argument members
  | .required, .object members => .unlessMisfit do
    return checkPresent .propertyMissing members (← partsOf argument)
  | .dependencies, .object members => .unlessMisfit do
    return .concat ((← membersOf argument).map fun (name, needs) =>
      if Table.has name members then checkDependency check members name needs else .none)
  | .allOf, _ => .unlessMisfit do
    return .concat ((← partsOf argument).map fun schema => check .part schema value)
  | .anyOf, _ => .unlessMisfit do return checkAny check (← partsOf argument) value
  | .oneOf, _ => .unlessMisfit do return checkOne check (← partsOf argument) value
  | .negation, _ =>
    .ofExcept do
      return if ← (check .trial argument value).isClean then .one (.negated value argument)
        else .none
  | _, _ => .none

/-- Whether a part of a schema can be asked for an address of its own. -/
def askAddress (draft : Draft) : Json → Except Misfit Unit
  | .object _ | .bool _ => .ok ()
  | schema =>
    if draft.referenceStandsAlone then do
      -- What stands beside a reference is not asked for.
      if ← holdsName "$ref" schema then return
      else .error (.lacks schema "get")
    else .error (.lacks schema "get")

/-- The draft of a part of a schema: the one that it names itself, or that of the whole. -/
def draftWithin (draft : Draft) (schema : Json) : Except Misfit Draft := do
  match schema with
  | .bool _ => return draft
  | .object members =>
    match Table.get? "$schema" members with
    | some name => return (← Draft.named? name).getD draft
    | none => return draft
  | schema => if ← holdsName "$schema" schema then .error (.numbered schema) else return draft

/-- The members of a schema that count: a reference may stand alone. -/
def activeMembers (draft : Draft) : Json → Except Misfit (List (String × Json))
  | .object members =>
    match Table.get? "$ref" members with
    | some .null => .ok members
    | some reference =>
      .ok (if draft.referenceStandsAlone then [("$ref", reference)] else members)
    | none => .ok members
  | schema => .error (.lacks schema (if draft.referenceStandsAlone then "get" else "items"))

/-- The draft of a schema within another one, and its members that count. -/
def openSchema (access : Access) (draft : Draft) (schema : Json) :
    Except Misfit (Draft × List (String × Json)) := do
  if access = .part then askAddress draft schema
  let inner ← draftWithin draft schema
  return (inner, ← activeMembers (if access = .trial then inner else draft) schema)

/-- Checks a value against a schema in at most `fuel` nested steps; references lead into `root`. -/
def checkFuel (root : Json) : Nat → Draft → Checker
  | 0, _, _, _, _ => .blocked .tooDeep
  | fuel + 1, draft, access, schema, value =>
    match schema with
    | .bool true => .none
    | .bool false => .one (.nothingAllowed value)
    | schema =>
      .unlessMisfit do
        let (inner, active) ← openSchema access draft schema
        return .concat (active.map fun (name, argument) =>
          match inner.keyword? name with
          | none => .none
          | some keyword =>
            checkKeyword (checkFuel root fuel inner) root inner schema.members value keyword
              argument)

/-- Checks a document against a schema. -/
def check (draft : Draft) (schema document : Json) : Findings :=
  -- Between two steps into the document, a schema without endless references repeats no part.
  checkFuel schema ((schema.size + 1) * (document.size + 1)) draft .trial schema document

end Gamebook.Schema
