import Gamebook.Json

/-! Events of a run, and the lines that record them. -/

namespace Gamebook

/-- How much an event matters. -/
inductive Level where
  | debug | info | warning | error | critical
  deriving DecidableEq, Repr

namespace Level

/-- Levels as numbers; what matters more has the greater one. -/
def number : Level → Nat
  | debug => 10
  | info => 20
  | warning => 30
  | error => 40
  | critical => 50

/-- The name of a level. -/
def name : Level → String
  | debug => "DEBUG"
  | info => "INFO"
  | warning => "WARNING"
  | error => "ERROR"
  | critical => "CRITICAL"

end Level

/-- An event: the part of the program that it comes from, a message and further members. -/
structure Event where
  source : String
  level : Level
  message : String
  members : List (String × Json)

namespace Event

/-- The members of the line of an event after its time. Further members may replace the source and
the message, but neither the time nor the level. -/
def lineMembers (event : Event) : List (String × Json) :=
  let own : List (String × Json) := [("level", .text event.level.name),
    ("logger", .text event.source), ("message", .text event.message)]
  let further := event.members.filter fun member =>
    member.1 ≠ "level" && member.1 ≠ "timestamp"
  further.foldl (fun line member => Table.put member.1 member.2 line) own

/-- The line of an event at a time. -/
def line (time : String) (event : Event) : Json :=
  .object (("timestamp", .text time) :: event.lineMembers)

end Event

end Gamebook
