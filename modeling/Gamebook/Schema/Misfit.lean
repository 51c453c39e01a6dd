import Gamebook.Json.Number
import Gamebook.Json.Shown
import Gamebook.Schema.Address
import Gamebook.Text.Integer

/-! Values in places where they cannot be used.

A reference may lead to any part of a document, so that a number can stand where a schema is wanted,
or a text where a bound is. What is then done with the value fails. -/

namespace Gamebook

namespace Schema

/-- What cannot be done with a value. -/
inductive Misfit where
  -- Nothing can be looked for in it.
  | holdsNothing (value : Json)
  -- It has no parts to go through.
  | indivisible (value : Json)
  -- Its parts cannot be counted.
  | uncountable (value : Json)
  -- No step leads into it.
  | noSteps (value : Json)
  -- Its parts are numbered, and looked up by a name.
  | numbered (value : Json)
  | incomparable (relation : String) (a b : Json)
  -- It cannot be looked up as a key.
  | noKey (value : Json)
  -- It cannot be looked up as the name of a type.
  | noTypeName (value : Json)
  | lacks (value : Json) (operation : String)
  -- A step into a list is no number.
  | notNumber (step : String)
  | numberTooLong (digits : Nat)
  -- It is an address that cannot be taken apart.
  | noAddress (fault : AddressFault)

namespace Misfit

/-- The greatest part of a quoted step that a message repeats. -/
def quotedLimit : Nat := 200

/-- A misfit in words. -/
def message : Misfit → String
  | holdsNothing value => s!"argument of type '{value.typeName}' is not iterable"
  | indivisible value => s!"'{value.typeName}' object is not iterable"
  | uncountable value => s!"object of type '{value.typeName}' has no len()"
  | noSteps value => s!"'{value.typeName}' object is not subscriptable"
  | numbered (.list _) => "list indices must be integers or slices, not str"
  | numbered _ => "string indices must be integers, not 'str'"
  | incomparable relation a b =>
    s!"'{relation}' not supported between instances of '{a.typeName}' and '{b.typeName}'"
  | noKey value => s!"unhashable type: '{value.typeName}'"
  | noTypeName value => s!"argument 'key': unhashable type: '{value.typeName}'"
  | lacks value operation => s!"'{value.typeName}' object has no attribute '{operation}'"
  | notNumber step =>
    let shown := String.ofList ((Text.quoted step).toList.take quotedLimit)
    s!"invalid literal for int() with base 10: {shown}"
  | numberTooLong digits => Text.integerTooLongMessage digits
  | noAddress fault => fault.message

end Misfit

/-- Whether a text occurs in another one. -/
def occursIn (part : List Char) : List Char → Bool
  | [] => part.isEmpty
  | c :: rest => part.isPrefixOf (c :: rest) || occursIn part rest

/-- The parts that a value is gone through by: items, characters, or keys. -/
def partsOf : Json → Except Misfit (List Json)
  | .list items => .ok items
  | .text text => .ok (text.toList.map fun c => .text (String.ofList [c]))
  | .object members => .ok (members.map fun member => .text member.1)
  | value => .error (.indivisible value)

/-- The number of parts of a value. -/
def countOf (value : Json) : Except Misfit Nat :=
  match partsOf value with
  | .ok parts => .ok parts.length
  | .error _ => .error (.uncountable value)

/-- The members of a value. -/
def membersOf : Json → Except Misfit (List (String × Json))
  | .object members => .ok members
  | value => .error (.lacks value "items")

/-- Whether a name occurs among the parts of a value. -/
def holdsName (name : String) : Json → Except Misfit Bool
  | .list items => .ok (items.any (Json.same (.text name)))
  | .text text => .ok (occursIn name.toList text.toList)
  | .object members => .ok (Table.has name members)
  | value => .error (.holdsNothing value)

/-- Whether an object has a member under a key. -/
def hasMember (members : List (String × Json)) : Json → Except Misfit Bool
  | .text name => .ok (Table.has name members)
  | .list items => .error (.noKey (.list items))
  | .object others => .error (.noKey (.object others))
  | _ => .ok false

/-- A value as a number; a truth value counts as one. -/
def numberOf? : Json → Option Json
  | .bool value => some (.int (if value then 1 else 0))
  | .int value => some (.int value)
  | .real value => some (.real value)
  | _ => none

/-- The order between a number and a bound; `relation` says what is asked. -/
def compareTo (relation : String) (value bound : Json) : Except Misfit (Option Ordering) :=
  match numberOf? bound with
  | some number => .ok (Json.compare? value number)
  | none => .error (.incomparable relation value bound)

/-- The part of a value that a step leads to; steps into lists and texts are numbers, which may
count from the end. -/
def partAt (value : Json) (step : String) : Except Misfit (Option Json) := do
  match value with
  | .object members => return Table.get? step members
  | .list _ | .text _ =>
    let parts ← partsOf value
    match Text.readInteger step.toList with
    | .error .unreadable => .error (.notNumber step)
    | .error (.tooLong digits) => .error (.numberTooLong digits)
    | .ok place =>
      let place := if place < 0 then place + parts.length else place
      return if place < 0 then none else parts[place.toNat]?
  | value => .error (.noSteps value)

end Schema

end Gamebook
