import Gamebook.Json.Spread
import Gamebook.Schema.Misfit
import Gamebook.Story.Issue

/-! Ways in which a value violates a schema, and what a check finds. -/

namespace Gamebook.Schema

/-- Why a value violates a schema. -/
inductive Failure where
  | nothingAllowed (value : Json)
  | wrongType (value : Json) (types : List Json)
  | notListed (value listed : Json)
  | notEqual (expected : Json)
  | tooSmall (value bound : Json) (exclusive : Bool)
  | tooLarge (value bound : Json) (exclusive : Bool)
  | tooShort (value : Json) (nonempty : Bool)
  | tooLong (value : Json) (empty : Bool)
  | repeated (value : Json)
  | extraItems (items : List Json)
  | itemsAfter (items : List Json)
  | extraProperties (names : List String)
  | propertyMissing (name : Json)
  | dependencyMissing (needed : Json) (dependent : String)
  | noAlternative (value : Json)
  | severalAlternatives (value : Json) (schemas : List Json)
  | negated (value schema : Json)

namespace Failure

/-- Several things in a row, then whether they were one or more. -/
def unexpected (shown : List String) : String :=
  String.intercalate ", " shown ++ (if shown.length = 1 then " was" else " were") ++ " unexpected"

/-- Values as messages show them, in a row. -/
def inRow (values : List Json) : String := String.intercalate ", " (values.map Json.shown)

/-- A failure in words. -/
def message : Failure → String
  | nothingAllowed value => s!"False schema does not allow {value.shown}"
  | wrongType value types =>
    s!"{value.shown} is not of type {inRow types}"
  | notListed value listed => s!"{value.shown} is not one of {listed.shown}"
  | notEqual expected => s!"{expected.shown} was expected"
  | tooSmall value bound exclusive =>
    let relation := if exclusive then "less than or equal to" else "less than"
    s!"{value.shown} is {relation} the minimum of {bound.shown}"
  | tooLarge value bound exclusive =>
    let relation := if exclusive then "greater than or equal to" else "greater than"
    s!"{value.shown} is {relation} the maximum of {bound.shown}"
  | tooShort value nonempty =>
    value.shown ++ if nonempty then " should be non-empty" else " is too short"
  | tooLong value empty =>
    value.shown ++ if empty then " is expected to be empty" else " is too long"
  | repeated value => s!"{value.shown} has non-unique elements"
  | extraItems items => s!"Additional items are not allowed ({unexpected (items.map Json.shown)})"
  | itemsAfter items =>
    let rest := match items with
      | [only] => only
      | items => .list items
    s!"Expected at most 0 items but found {items.length} extra: {rest.shown}"
  | extraProperties names =>
    s!"Additional properties are not allowed ({unexpected (names.map Text.quoted)})"
  | propertyMissing name => s!"{name.shown} is a required property"
  | dependencyMissing needed dependent =>
    s!"{needed.shown} is a dependency of {Text.quoted dependent}"
  | noAlternative value => s!"{value.shown} is not valid under any of the given schemas"
  | severalAlternatives value schemas =>
    s!"{value.shown} is valid under each of {inRow schemas}"
  | negated value schema => s!"{value.shown} should not be valid under {schema.shown}"

end Failure

/-- A failure of the part of a document that a path leads to. -/
structure Violation where
  path : List LocPart
  failure : Failure

/-- A violation one step further out. -/
def Violation.under (part : LocPart) (violation : Violation) : Violation :=
  { violation with path := part :: violation.path }

/-- Why a check cannot go on. -/
inductive Obstacle where
  | unresolvedReference
  | tooDeep
  -- A schema asks for a type that there is not.
  | unknownType (name value schema : Json)
  | misfit (misfit : Misfit)

/-- A value on indented lines of a message. -/
def indented (value : Json) : String :=
  let lines := Text.splitAt '\n' value.spread.toList
  String.intercalate "\n" (lines.map fun line => "    " ++ String.ofList line)

/-- An obstacle in words. -/
def Obstacle.message : Obstacle → String
  | unresolvedReference => "A schema refers to something that is not there"
  | tooDeep => "A schema refers to itself without end"
  | unknownType name value schema =>
    s!"Unknown type {name.shown} for validator with schema:\n{indented schema}\n\n" ++
      s!"While checking instance:\n{indented value}"
  | misfit found => found.message

/-- What a check finds, in order, up to an obstacle if there is one. -/
@[ext] structure Findings where
  violations : List Violation
  obstacle : Option Obstacle

namespace Findings

/-- Nothing found. -/
def none : Findings := ⟨[], .none⟩

/-- One failure of the value itself. -/
def one (failure : Failure) : Findings := ⟨[⟨[], failure⟩], .none⟩

/-- A failure of the value itself unless a condition holds. -/
def require (condition : Bool) (failure : Failure) : Findings :=
  if condition then none else one failure

/-- A check that cannot go on. -/
def blocked (obstacle : Obstacle) : Findings := ⟨[], some obstacle⟩

/-- What two checks find one after the other; an obstacle of the first prevents the second. -/
def append (first second : Findings) : Findings :=
  match first.obstacle with
  | some _ => first
  | .none => ⟨first.violations ++ second.violations, second.obstacle⟩

instance : Append Findings := ⟨append⟩

/-- What checks find one after another. -/
def concat (findings : List Findings) : Findings := findings.foldr append none

/-- The findings on a part, as seen from the whole. -/
def under (part : LocPart) (findings : Findings) : Findings :=
  { findings with violations := findings.violations.map (Violation.under part) }

/-- Whether nothing is found, as far as that can be told: the first violation settles it. -/
def isClean (findings : Findings) : Except Obstacle Bool :=
  match findings.violations, findings.obstacle with
  | _ :: _, _ => .ok false
  | [], .none => .ok true
  | [], some obstacle => .error obstacle

/-- Whether nothing is found by a check that is carried to its end. -/
def isCleanThroughout (findings : Findings) : Except Obstacle Bool :=
  match findings.obstacle with
  | some obstacle => .error obstacle
  | .none => .ok findings.violations.isEmpty

/-- The findings of a check that may meet an obstacle. -/
def ofExcept : Except Obstacle Findings → Findings
  | .ok findings => findings
  | .error obstacle => blocked obstacle

/-- The findings of a check that may meet a value which cannot be used. -/
def unlessMisfit : Except Misfit Findings → Findings
  | .ok findings => findings
  | .error misfit => blocked (.misfit misfit)

end Findings

end Gamebook.Schema
