import Gamebook.Text.Integer
import Gamebook.Text.Quoted
import Gamebook.Yaml.Timestamp

/-! Why a YAML text has no value. -/

namespace Gamebook.Yaml

/-- Collections, which lists inside keys cannot hold. -/
inductive Collection where
  | list | table
  deriving DecidableEq, Repr

/-- The name of a kind of collection. -/
def Collection.name : Collection → String
  | list => "list"
  | table => "dict"

/-- What stops a text from being read. -/
inductive Fault where
  -- The text breaks a rule of the format.
  | malformed
  -- An escape names no character.
  | noCharacter (code : Nat)
  -- A number is written with underscores only.
  | noDigits (base : Nat)
  | noReal (text : String)
  | integerTooLong (digits : Nat)
  -- A report cannot be written, as it would show an integer with too many digits.
  | integerUnwritten
  | calendar (fault : CalendarFault)
  -- A list that is a key holds a collection.
  | keyHolds (collection : Collection)
  deriving DecidableEq, Repr

/-- A fault in words, where it is one of a value and not of the format. -/
def Fault.reason? : Fault → Option String
  | malformed => none
  | noCharacter code =>
    some (if code < 0x80000000 then "chr() arg not in range(0x110000)"
      else "Python int too large to convert to C int")
  | noDigits base => some s!"invalid literal for int() with base {base}: ''"
  | noReal text => some ("could not convert string to float: " ++ Text.quoted text)
  | integerTooLong digits => some (Text.integerTooLongMessage digits)
  | integerUnwritten => some Text.integerUnwrittenMessage
  | calendar fault => some fault.message
  | keyHolds collection => some s!"unhashable type: '{collection.name}'"

end Gamebook.Yaml
