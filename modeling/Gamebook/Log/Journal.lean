import Gamebook.Disk
import Gamebook.Json.Writer
import Gamebook.Log.Event
import Gamebook.Log.Template

/-! Which events are recorded, and the file that their lines are appended to. -/

namespace Gamebook

/-- A file that lines are appended to. -/
structure LogFile where
  path : Path
  isOpen : Bool
  deriving DecidableEq, Repr

/-- A call that asks for an event. -/
structure LogCall where
  source : String
  level : Level
  template : String
  arguments : List Json
  members : List (String × Json)
  -- Whether only what shows the message fills its template. A fault in a template is then left to
  -- the console, and a file leaves the line out.
  isDeferred : Bool

/-- Why a call cannot be answered. -/
inductive CallFault where
  -- A member has a name that what takes the call gives to something of its own.
  | nameTaken (taker name : String)
  | template (fault : Log.TemplateFault)

/-- A fault of a call in words. -/
def CallFault.message : CallFault → String
  | nameTaken taker name => s!"{taker}() got multiple values for argument '{name}'"
  | template fault => fault.message

namespace LogCall

/-- What takes the calls for events that are dropped. -/
def dropper : String := "_nop"

/-- What takes the calls for events that are kept. -/
def keeper : String := "_make_filtering_bound_logger.<locals>.make_method.<locals>.meth"

/-- What hands on the events that are kept. -/
def forwarder : String := "BoundLoggerBase._proxy_to_logger"

/-- That no member has one of some names. -/
def refuseNames (call : LogCall) (taker : String) (names : List String) : Except CallFault Unit :=
  match call.members.find? fun member => names.contains member.1 with
  | some member => .error (.nameTaken taker member.1)
  | none => .ok ()

end LogCall

/-- The recording of events: thresholds, the attached file, and the tree that it lies in. -/
structure Journal where
  -- What lines tell as their time.
  time : String
  -- Events below this level are dropped at once.
  threshold : Nat
  -- Events below this level are not shown on the console.
  console : Nat
  attached : Option LogFile
  disk : Disk
  -- Every line so far, whatever file it was appended to.
  written : List String

namespace Journal

/-- The level shown on the console by verbosity. -/
def consoleLevel (verbosity : Int) : Level :=
  if verbosity = 0 then .warning else if verbosity = 1 then .info else .debug

/-- The threshold by verbosity: everything counts when more is asked for or a file is attached. -/
def thresholdFor (verbosity : Int) (toFile : Bool) : Level :=
  if 0 < verbosity || toFile then .debug else .warning

/-- A recording that shows warnings and writes no file. -/
def initial (time : String) (disk : Disk) : Journal :=
  ⟨time, Level.warning.number, Level.warning.number, none, disk, []⟩

/-- Sets the thresholds, and attaches a file in place of the one before. -/
def configure (verbosity : Int) (file : Option Path) (journal : Journal) :
    Except DiskFault Journal := do
  let disk ← match file with
    | some path => journal.disk.provide path
    | none => pure journal.disk
  return { journal with
    threshold := (thresholdFor verbosity file.isSome).number
    console := (consoleLevel verbosity).number
    attached := file.map fun path => ⟨path.straight, true⟩
    disk }

/-- Closes the attached file; it stays attached, but nothing more is written to it. -/
def close (journal : Journal) : Journal :=
  { journal with attached := journal.attached.map fun file => { file with isOpen := false } }

/-- The levels of what events go to: the console, and the file if one is attached. -/
def handlerLevels (journal : Journal) : List Nat :=
  match journal.attached with
  | none => [journal.console]
  | some _ => [journal.console, Level.debug.number]

/-- Whether an event is dropped. -/
def drops (journal : Journal) (level : Level) : Bool := level.number < journal.threshold

/-- The lines of events that are not dropped. -/
def lines (journal : Journal) (events : List Event) : List String :=
  (events.filter fun event => !journal.drops event.level).map fun event =>
    (event.line journal.time).written (.ascii none) ++ "\n"

/-- A tree with the lines of events at the end of the attached file. -/
def appendTo (journal : Journal) (events : List Event) (disk : Disk) : Disk :=
  match journal.attached with
  | some ⟨path, true⟩ => match path.place? with
    | some place => disk.append place (String.join (journal.lines events)).toUTF8.toList
    | none => disk
  | _ => disk

/-- Records events in order. -/
def recordAll (events : List Event) (journal : Journal) : Journal :=
  match journal.attached with
  | some ⟨_, true⟩ => { journal with
      disk := journal.appendTo events journal.disk
      written := journal.written ++ journal.lines events }
  | _ => journal

/-- Records an event. -/
def record (event : Event) (journal : Journal) : Journal := journal.recordAll [event]

/-- The name of what no name is given for. -/
def rootSource : String := "root"

/-- The event that a call asks for. -/
def eventOf (call : LogCall) (message : String) : Event :=
  ⟨if call.source = "" then rootSource else call.source, call.level, message, call.members⟩

/-- Records the event that a call asks for. The template of an event that is dropped is not
filled. -/
def answer (call : LogCall) (journal : Journal) : Except CallFault Journal :=
  if journal.drops call.level then do
    call.refuseNames LogCall.dropper ["self", "event"]
    return journal
  else do
    call.refuseNames LogCall.keeper ["self", "event"]
    match Log.message call.template call.arguments with
    | .ok message =>
      call.refuseNames LogCall.forwarder ["method_name"]
      return journal.record (eventOf call message)
    | .error fault =>
      if call.isDeferred && call.level.number < journal.console then return journal
      else throw (.template fault)

end Journal

end Gamebook
