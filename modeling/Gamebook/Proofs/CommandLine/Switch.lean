import Gamebook.CommandLine.Request
import Gamebook.Proofs.Result

/-! A command line that is read in pieces, and what a switch adds to it. -/

namespace Gamebook.CommandLine

/-- Two lines, one after the other. -/
def Line.append {α : Type} (first second : Line α) : Line α :=
  ⟨first.options ++ second.options, first.arguments ++ second.arguments⟩

namespace OptionRule

variable {α : Type} {rules : List (OptionRule α)} {before opening rest : List String}

/-- Whether arguments end neither within an option nor after two dashes, so that what follows them
is read on its own. -/
def isSettled (rules : List (OptionRule α)) : List String → Bool
  | [] => true
  | argument :: rest =>
    if argument = "--" then false
    else if isOption argument then
      match readOption rules argument with
      | .error _ => false
      | .ok ⟨_, none⟩ => isSettled rules rest
      | .ok ⟨_, some _⟩ =>
        match rest with
        | [] => false
        | _ :: rest => isSettled rules rest
    else isSettled rules rest

section Step

variable {mixed : Bool} {argument : String} {found : List α}

/-- An argument that gives options is read before what follows it. -/
theorem readLine_cons (going : ¬ argument = "--") (option : isOption argument = true)
    (given : readOption rules argument = .ok ⟨found, none⟩) (rest : List String) :
    readLine rules mixed (argument :: rest) =
      (readLine rules mixed rest).map (Line.prepend found) := by
  rw [readLine.eq_def]
  simp only [going, option, given, if_false, if_true]

/-- An argument that waits for a value is read with it before what follows both. -/
theorem readLine_cons_cons {name : String} {meaning : String → α} (going : ¬ argument = "--")
    (option : isOption argument = true)
    (given : readOption rules argument = .ok ⟨found, some (name, meaning)⟩) (value : String)
    (rest : List String) :
    readLine rules mixed (argument :: value :: rest) =
      (readLine rules mixed rest).map (Line.prepend (found ++ [meaning value])) := by
  rw [readLine.eq_def]
  simp only [going, option, given, if_false, if_true]

end Step

/-- Options before a line that goes on are options before its first part. -/
theorem map_append_prepend (line : Line α) (found : List α) (rest : Except Misuse (Line α)) :
    (rest.map line.append).map (Line.prepend found) = rest.map (line.prepend found).append := by
  cases rest <;> simp [Except.map, Line.append, Line.prepend]

/-- Arguments after settled ones are read as if nothing stood before them. -/
theorem exists_readLine_append (settled : isSettled rules before = true) :
    ∃ line : Line α, ∀ rest,
      readLine rules true (before ++ rest) = (readLine rules true rest).map line.append := by
  -- The line grows from its end, by what each settled argument gives.
  fun_induction isSettled rules before with
  | case1 =>
    refine ⟨⟨[], []⟩, fun rest => ?_⟩
    rw [List.nil_append]
    cases readLine rules true rest <;> rfl
  | case2 => cases settled
  | case3 => cases settled
  | case4 argument later going option found given ih =>
    obtain ⟨line, same⟩ := ih settled
    refine ⟨line.prepend found, fun rest => ?_⟩
    rw [List.cons_append, readLine_cons going option given, same, map_append_prepend]
  | case5 => cases settled
  | case6 argument going option found waiting given value later ih =>
    obtain ⟨line, same⟩ := ih settled
    refine ⟨line.prepend (found ++ [waiting.2 value]), fun rest => ?_⟩
    rw [List.cons_append, List.cons_append, readLine_cons_cons going option given, same,
      map_append_prepend]
  | case7 argument later going plain ih =>
    obtain ⟨line, same⟩ := ih settled
    refine ⟨{ line with arguments := argument :: line.arguments }, fun rest => ?_⟩
    simp only [List.cons_append, readLine, going, plain, same, if_false, if_true]
    cases readLine rules true rest <;> simp [Except.map, Line.append]

/-- A value that an option waits for is not read on its own. -/
example : isSettled validateRules ["--strict", "--schemas-path", "--json"] = true ∧
    isSettled validateRules ["--strict", "--schemas-path"] = false := by decide

/-- A line that starts with options goes on to what is read after them. -/
theorem exists_of_map_prepend {found : List α} {read : Line α} {line : Except Misuse (Line α)}
    (given : line.map (Line.prepend found) = .ok read) :
    ∃ later, line = .ok later ∧ read = later.prepend found := by
  cases line with
  | error misuse => cases given
  | ok later => exact ⟨later, rfl, (Except.ok.inj given).symm⟩

/-- A line that is read up to a name is read up to it whatever follows the name. -/
theorem exists_opening {line : List String} {options : List α} {name : String}
    (given : readLine rules false line = .ok ⟨options, name :: rest⟩) :
    ∃ opening, line = opening ++ name :: rest ∧ ∀ others,
      readLine rules false (opening ++ name :: others) = .ok ⟨options, name :: others⟩ := by
  fun_induction readLine rules false line generalizing options with
  | case1 => cases given
  | case2 =>
    -- The name may stand after two dashes.
    cases given
    exact ⟨["--"], rfl, fun others => by simp [readLine]⟩
  | case3 => cases given
  | case4 argument later going option found reads ih =>
    obtain ⟨⟨options, arguments⟩, read, same⟩ := exists_of_map_prepend given
    cases same
    obtain ⟨opening, rfl, whatever⟩ := ih read
    refine ⟨argument :: opening, rfl, fun others => ?_⟩
    rw [List.cons_append, readLine_cons going option reads, whatever]
    rfl
  | case5 => cases given
  | case6 argument going option found waiting meaning reads value later ih =>
    obtain ⟨⟨options, arguments⟩, read, same⟩ := exists_of_map_prepend given
    cases same
    obtain ⟨opening, rfl, whatever⟩ := ih read
    refine ⟨argument :: value :: opening, rfl, fun others => ?_⟩
    rw [List.cons_append, List.cons_append, readLine_cons_cons going option reads, whatever]
    rfl
  | case7 argument later going plain mixed => cases mixed
  | case8 argument later going plain =>
    cases given
    exact ⟨[], rfl, fun others => by simp [readLine, going, plain]⟩

end OptionRule

/-- What the options before a command say. -/
def Preamble.ofOptions (options : List PreambleOption) : Preamble :=
  let file? : PreambleOption → Option String
    | .logFile file => some file
    | _ => none
  { verbosity := options.count .verbose, logFile := (last? file? options).map Path.ofText }

/-- A line calls a command exactly when it is read up to the name of the command, and nothing before
it asks for help. -/
theorem CommandCall.read_eq_ok_iff {arguments : List String} {call : CommandCall} :
    CommandCall.read arguments = .ok call ↔ ∃ options name,
      OptionRule.readLine preambleRules false arguments = .ok ⟨options, name :: call.arguments⟩ ∧
        .help ∉ options ∧ Command.ofName? name = some call.command ∧
        call.preamble = .ofOptions options := by
  rw [CommandCall.read]
  constructor
  -- A call is read where neither help nor a misuse gets in the way, and a command is named.
  · intro given
    split at given
    · cases given
    · next options rest reading =>
      split at given
      · cases given
      · next plain =>
        split at given
        · cases given
        · next name rest =>
          split at given
          · cases given
          · next command known =>
            cases given
            exact ⟨options, name, reading, plain, known, rfl⟩
  · rintro ⟨options, name, reading, plain, known, said⟩
    simp only [reading, plain, known, if_false]
    obtain ⟨preamble, command, rest⟩ := call
    cases said
    rfl

/-- A command is known by what stands before its arguments. -/
theorem CommandCall.read_append {opening rest : List String} {call : CommandCall}
    (given : CommandCall.read (opening ++ rest) = .ok call) (ends : call.arguments = rest)
    (others : List String) :
    CommandCall.read (opening ++ others) = .ok { call with arguments := others } := by
  obtain ⟨options, name, reading, plain, known, said⟩ := read_eq_ok_iff.1 given
  obtain ⟨start, whole, whatever⟩ := OptionRule.exists_opening reading
  -- The arguments begin after the name, so what stands before them ends with the name.
  have cut : opening = start ++ [name] := by
    have whole' : opening ++ rest = (start ++ [name]) ++ rest := by
      rw [whole, ends, List.append_assoc, List.singleton_append]
    exact List.append_cancel_right whole'
  refine read_eq_ok_iff.2 ⟨options, name, ?_, plain, known, said⟩
  rw [cut, List.append_assoc, List.singleton_append]
  exact whatever others

/-- A switch that makes a validation stricter. -/
inductive Switch where
  | failOnWarnings | strict

namespace Switch

/-- The argument that a switch is written as. -/
def word : Switch → String
  | failOnWarnings => "--fail-on-warnings"
  | strict => "--strict"

/-- The option that a switch is read as. -/
def option : Switch → ValidateOption
  | failOnWarnings => .failOnWarnings
  | strict => .strict

/-- A request with a switch. -/
def on : Switch → ValidateRequest → ValidateRequest
  | failOnWarnings, request => { request with failOnWarnings := true }
  | strict, request => { request with strict := true }

variable {switch : Switch} {rest : List String}

/-- A switch is read on its own. -/
theorem readLine_cons :
    OptionRule.readLine validateRules true (switch.word :: rest) =
      (OptionRule.readLine validateRules true rest).map (Line.prepend [switch.option]) := by
  cases switch <;> rfl

/-- A switch asks for no help. -/
theorem option_ne_help : switch.option ≠ .help := by
  cases switch <;> simp [option]

end Switch

/-- Options are read exactly when the line holds them and nothing else, and none asks for help. -/
theorem readOptions_eq_ok_iff {α : Type} [DecidableEq α] {rules : List (OptionRule α)} {help : α}
    {arguments : List String} {options : List α} :
    readOptions rules help arguments = .ok options ↔
      OptionRule.readLine rules true arguments = .ok ⟨options, []⟩ ∧ help ∉ options := by
  rw [readOptions]
  cases OptionRule.readLine rules true arguments with
  | error misuse => simp
  | ok line =>
    obtain ⟨found, others⟩ := line
    -- Where help is asked for, no options are given back.
    by_cases helps : help ∈ found
    · simp only [helps, if_true, Except.ok.injEq, Line.mk.injEq, reduceCtorEq, false_iff]
      rintro ⟨⟨rfl, -⟩, plain⟩
      exact plain helps
    · cases others with
      | nil =>
        simp only [helps, if_false, Except.ok.injEq, Line.mk.injEq, and_true]
        exact ⟨fun same => ⟨same, same ▸ helps⟩, And.left⟩
      | cons argument rest => simp [helps]

/-- The request that options make. -/
def ValidateRequest.ofOptions (environment : Table String) (options : List ValidateOption) :
    ValidateRequest :=
  let path? : ValidateOption → Option String
    | .content path => some path
    | _ => none
  let schemas? : ValidateOption → Option String
    | .schemas path => some path
    | _ => none
  { content := contentPath environment (last? path? options)
    schemas := (last? schemas? options).map Path.ofText
    failOnWarnings := .failOnWarnings ∈ options
    strict := .strict ∈ options
    asJson := .json ∈ options }

/-- The arguments of a validation make the request that their options make. -/
theorem readValidate_eq_ok_iff {environment : Table String} {arguments : List String}
    {request : ValidateRequest} :
    readValidate environment arguments = .ok request ↔
      ∃ options, readOptions validateRules .help arguments = .ok options ∧
        request = .ofOptions environment options := by
  simp only [readValidate, bind_eq_ok_iff]
  -- The request is what the options make of the environment.
  refine exists_congr fun options => and_congr_right fun _ => ⟨?_, ?_⟩
  · intro given
    exact (Except.ok.inj given).symm
  · rintro rfl
    rfl

section Added

variable (switch : Switch) {before after : List String} {options : List ValidateOption}
  {environment : Table String} {request : ValidateRequest}

/-- A switch among the options is a switch of the request. -/
theorem ofOptions_switch (first last : List ValidateOption) :
    ValidateRequest.ofOptions environment (first ++ switch.option :: last) =
      switch.on (.ofOptions environment (first ++ last)) := by
  -- Each switch is looked for among all options, and found once more.
  cases switch <;>
    simp [ValidateRequest.ofOptions, last?, Switch.option, Switch.on, List.filterMap_append]

/-- With a switch among its arguments the validation is given one more option. -/
theorem exists_readOptions_switch (settled : OptionRule.isSettled validateRules before = true)
    (given : readOptions validateRules .help (before ++ after) = .ok options) :
    ∃ first last, options = first ++ last ∧
      readOptions validateRules .help (before ++ switch.word :: after) =
        .ok (first ++ switch.option :: last) := by
  obtain ⟨reading, plain⟩ := readOptions_eq_ok_iff.1 given
  -- What comes before the switch is read in the same way, whatever follows it.
  obtain ⟨line, whatever⟩ := OptionRule.exists_readLine_append settled
  rw [whatever] at reading
  cases later : OptionRule.readLine validateRules true after with
  | error misuse =>
    rw [later] at reading
    cases reading
  | ok rest =>
    rw [later] at reading
    have parts : line.append rest = ⟨options, []⟩ := Except.ok.inj reading
    have all : line.options ++ rest.options = options := congrArg Line.options parts
    have none : line.arguments ++ rest.arguments = [] := congrArg Line.arguments parts
    refine ⟨line.options, rest.options, all.symm, readOptions_eq_ok_iff.2 ⟨?_, ?_⟩⟩
    -- The switch stands between the options before it and those after it.
    · rw [whatever, Switch.readLine_cons, later]
      simp [Except.map, Line.append, Line.prepend, none]
    · rw [← all, List.mem_append] at plain
      simpa [List.mem_append, Switch.option_ne_help.symm] using plain

/-- A switch among the arguments of a validation is a switch of the request. -/
theorem readValidate_switch (settled : OptionRule.isSettled validateRules before = true)
    (given : readValidate environment (before ++ after) = .ok request) :
    readValidate environment (before ++ switch.word :: after) = .ok (switch.on request) := by
  -- One more word is read as one more option, wherever it stands.
  obtain ⟨options, reading, rfl⟩ := readValidate_eq_ok_iff.1 given
  obtain ⟨first, last, rfl, reading'⟩ := exists_readOptions_switch switch settled reading
  exact readValidate_eq_ok_iff.2 ⟨_, reading', (ofOptions_switch switch first last).symm⟩

end Added

end Gamebook.CommandLine
