/-! How options and arguments are written on a command line. -/

namespace Gamebook.CommandLine

/-- What an option takes. -/
inductive OptionShape (α : Type) where
  | switch (meaning : α)
  | valued (meaning : String → α)

/-- An option with its long form, which starts with two dashes, and perhaps a letter. -/
structure OptionRule (α : Type) where
  word : String
  letter : Option Char
  shape : OptionShape α

/-- Why arguments say nothing. -/
inductive Misuse where
  | unknownOption (name : String)
  | missingValue (name : String)
  | unexpectedValue (name : String)
  | unexpectedArgument (argument : String)
  | missingCommand
  | unknownCommand (name : String)
  | notADepth (value : String)
  deriving DecidableEq, Repr

/-- A misuse in words. -/
def Misuse.message : Misuse → String
  | unknownOption name => s!"No such option: {name}"
  | missingValue name => s!"Option '{name}' requires an argument."
  | unexpectedValue name => s!"Option '{name}' does not take a value."
  | unexpectedArgument argument => s!"Got unexpected extra argument ({argument})"
  | missingCommand => "Missing command."
  | unknownCommand name => s!"No such command '{name}'."
  | notADepth value => s!"Invalid value for '--max-depth': '{value}' is no integer of at least 1."

/-- The options that one argument gives, and what still waits for the next argument as its value. -/
structure Reading (α : Type) where
  found : List α
  waiting : Option (String × (String → α))

/-- What stands on a command line: options in order, and the arguments that are none. -/
structure Line (α : Type) where
  options : List α
  arguments : List String

namespace Line

/-- A line with options before it. -/
def prepend {α : Type} (found : List α) (line : Line α) : Line α :=
  { line with options := found ++ line.options }

end Line

namespace OptionRule

variable {α : Type}

/-- Reads an option in its long form, perhaps with a value after an equals sign. -/
def readWord (rule : OptionRule α) : Option String → Except Misuse (Reading α)
  | none => match rule.shape with
    | .switch meaning => .ok ⟨[meaning], none⟩
    | .valued meaning => .ok ⟨[], some (rule.word, meaning)⟩
  | some value => match rule.shape with
    | .switch _ => .error (.unexpectedValue rule.word)
    | .valued meaning => .ok ⟨[meaning value], none⟩

/-- Reads letters after a dash: the first one that takes a value takes all that follow it. -/
def readLetters (rules : List (OptionRule α)) : List Char → Except Misuse (Reading α)
  | [] => .ok ⟨[], none⟩
  | letter :: rest =>
    match rules.find? fun rule => rule.letter = some letter with
    | none => .error (.unknownOption (String.ofList ['-', letter]))
    | some rule =>
      match rule.shape with
      | .valued meaning =>
        if rest.isEmpty then .ok ⟨[], some (String.ofList ['-', letter], meaning)⟩
        else .ok ⟨[meaning (String.ofList rest)], none⟩
      | .switch meaning => do
        let reading ← readLetters rules rest
        return { reading with found := meaning :: reading.found }

/-- The part of an option before its first equals sign, and the value after it. -/
def splitValue (option : List Char) : String × Option String :=
  let name := option.takeWhile (· ≠ '=')
  match option.drop name.length with
  | [] => (String.ofList name, none)
  | _ :: value => (String.ofList name, some (String.ofList value))

/-- Reads an argument that starts with a dash. -/
def readOption (rules : List (OptionRule α)) (option : String) : Except Misuse (Reading α) :=
  let (name, value) := splitValue option.toList
  match rules.find? fun rule => rule.word = name with
  | some rule => rule.readWord value
  | none =>
    match option.toList with
    | '-' :: '-' :: _ => .error (.unknownOption name)
    | _ :: letters => readLetters rules letters
    | [] => .ok ⟨[], none⟩

/-- Whether an argument is written as an option; a single dash is none. -/
def isOption (argument : String) : Bool :=
  match argument.toList with
  | '-' :: _ :: _ => true
  | _ => false

/-- Reads a line up to its end, or up to its first argument that is no option unless options may
follow it. After two dashes there are no options. -/
def readLine (rules : List (OptionRule α)) (mixed : Bool) :
    List String → Except Misuse (Line α)
  | [] => .ok ⟨[], []⟩
  | argument :: rest =>
    if argument = "--" then .ok ⟨[], rest⟩
    else if isOption argument then
      match readOption rules argument with
      | .error misuse => .error misuse
      | .ok ⟨found, none⟩ => (readLine rules mixed rest).map (Line.prepend found)
      | .ok ⟨found, some (name, meaning)⟩ =>
        match rest with
        | [] => .error (.missingValue name)
        | value :: rest =>
          (readLine rules mixed rest).map (Line.prepend (found ++ [meaning value]))
    else if mixed then
      (readLine rules mixed rest).map fun line =>
        { line with arguments := argument :: line.arguments }
    else .ok ⟨[], argument :: rest⟩

end OptionRule

end Gamebook.CommandLine
