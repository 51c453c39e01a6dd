import Gamebook.CommandLine.Session
import Gamebook.Proofs.CommandLine.Switch
import Gamebook.Proofs.Validation
import Gamebook.Proofs.Validation.Strictness
import Mathlib.Logic.Relation

/-! Switches let no validation succeed that fails without them. -/

namespace Gamebook.CommandLine

/-- A command fails if it ends by a fault, or with one as its status. -/
def Outcome.Fails (outcome : Outcome) : Prop :=
  ∀ printed, outcome.ending = .ok printed → printed.status = 1

namespace ValidateRequest

variable {recording : Recording} {disk : Disk} {environment : Table String}
  {request : ValidateRequest} {settings : Settings} (switch : Switch)

/-- A switch changes neither the content of a request nor the form of its report. -/
theorem on_same (request : ValidateRequest) :
    (switch.on request).content = request.content ∧
    (switch.on request).asJson = request.asJson := by
  cases switch <;> exact ⟨rfl, rfl⟩

/-- The settings of a request with a switch judge the same files at least as strictly. -/
theorem settings_on :
    (request.settings settings).Tightens ((switch.on request).settings settings) := by
  cases switch <;> constructor <;> simp [ValidateRequest.settings, Switch.on]

/-- A verdict that lets no command succeed lets none succeed with more warnings and under settings
that are at least as strict. -/
theorem succeeds_addWarnings {loose tight : Settings} {verdict : Verdict}
    (tightens : loose.Tightens tight) (fails : succeeds loose verdict = false)
    (messages : List String) : succeeds tight (verdict.addWarnings messages) = false := by
  rw [succeeds, Bool.and_eq_false_iff] at fails ⊢
  refine fails.imp id fun warned => ?_
  simp only [Bool.not_eq_false', Bool.and_eq_true, Verdict.hasWarnings, Bool.not_eq_true',
    List.isEmpty_eq_false_iff] at warned ⊢
  -- Warnings that are there count, and they stay there.
  exact ⟨tightens.warnings warned.1, List.append_ne_nil_of_left_ne_nil warned.2 messages⟩

/-- The status is one exactly where the verdict lets no command succeed. -/
theorem status_printed {verdict : Verdict} :
    (request.printed settings verdict).status = 1 ↔ succeeds settings verdict = false := by
  rw [printed]
  cases succeeds settings verdict <;> simp

/-- A validation that fails fails with a switch as well. -/
theorem outcome_fails_on (fails : (request.outcome recording disk environment).Fails) :
    ((switch.on request).outcome recording disk environment).Fails := by
  obtain ⟨content, asJson⟩ := on_same switch request
  have events : (switch.on request).startEvent = request.startEvent := by
    rw [startEvent, startEvent, content]
  unfold outcome at fails ⊢
  rw [content]
  cases loading : Settings.load disk request.content environment with
  | error failure =>
    -- Without settings neither run starts.
    rw [loading] at fails
    rw [asJson]
    exact fails
  | ok loaded =>
    rw [loading] at fails
    have tightens : (request.settings loaded).Tightens ((switch.on request).settings loaded) :=
      settings_on switch
    obtain ⟨messages, more⟩ := Validation.exists_map_addWarnings recording
      (recording.after [request.startEvent] disk) tightens
    dsimp only at fails ⊢
    rw [events, more]
    generalize (Validation.run recording (recording.after [request.startEvent] disk)
      (request.settings loaded)).outcome = result at fails ⊢
    cases result with
    | error failure =>
      rw [asJson]
      exact fails
    | ok verdict =>
      have status := status_printed.1 (fails _ rfl)
      intro printed same
      cases same
      exact status_printed.2 (succeeds_addWarnings tightens status messages)

end ValidateRequest

/-- A command line that validates content, and the same one with a switch: anywhere among the
arguments of the command where it is read on its own. -/
inductive AddsSwitch : List String → List String → Prop
  | add (switch : Switch) {opening before after : List String} {call : CommandCall}
      (called : CommandCall.read (opening ++ (before ++ after)) = .ok call)
      (validates : call.command = .validate) (ends : call.arguments = before ++ after)
      (settled : OptionRule.isSettled validateRules before = true) :
    AddsSwitch (opening ++ (before ++ after)) (opening ++ (before ++ switch.word :: after))

namespace Session

variable {journal : Journal} {environment : Table String} {arguments more : List String}

/-- A run ends with one as its status exactly when its command fails. -/
theorem status_endingOf {outcome : Outcome} :
    status ⟨journal, endingOf outcome.ending⟩ = 1 ↔ outcome.Fails := by
  obtain ⟨events, ending⟩ := outcome
  cases ending with
  | ok printed =>
    -- What is printed has the status of the verdict.
    refine ⟨fun one printed same => ?_, fun fails => fails printed rfl⟩
    cases same
    exact one
  | error fault =>
    -- A fault has the status of a failure, and nothing is printed.
    refine ⟨fun _ printed same => ?_, fun _ => rfl⟩
    cases same

/-- A validation that ends with one as its status does so with a switch among its arguments. -/
theorem status_runCommand_switch (switch : Switch) {before after : List String} {call : CommandCall}
    (validates : call.command = .validate) (ends : call.arguments = before ++ after)
    (settled : OptionRule.isSettled validateRules before = true)
    (failed : (runCommand journal environment call).status = 1) :
    (runCommand journal environment
      { call with arguments := before ++ switch.word :: after }).status = 1 := by
  simp only [runCommand, validates, ends, Request.read] at failed ⊢
  cases reading : readValidate environment (before ++ after) with
  | error refusal =>
    -- A refusal has another status.
    rw [reading] at failed
    cases refusal <;> cases failed
  | ok request =>
    rw [reading] at failed
    rw [readValidate_switch switch settled reading]
    exact status_endingOf.2 (ValidateRequest.outcome_fails_on switch (status_endingOf.1 failed))

/-- A run that ends with one as its status does so with a switch as well. -/
theorem status_of_addsSwitch (added : AddsSwitch arguments more)
    (failed : (run journal environment arguments).status = 1) :
    (run journal environment more).status = 1 := by
  obtain @⟨switch, opening, before, after, call, called, validates, ends, settled⟩ := added
  have called' := CommandCall.read_append called ends (before ++ switch.word :: after)
  simp only [run, called, called'] at failed ⊢
  -- The log file is made before the options of the command are read.
  generalize journal.configure call.preamble.verbosity call.preamble.logFile = made at failed ⊢
  cases made with
  | error fault => rfl
  | ok journal => exact status_runCommand_switch switch validates ends settled failed

/-- A command line that fails fails with any switches added, and a strict validation comes to the
verdict of another one with a message for each mismatch of the index as its last warnings. -/
theorem switches_tighten :
    (∀ (journal : Journal) (environment : Table String) (arguments more : List String),
      Relation.ReflTransGen AddsSwitch arguments more →
        (run journal environment arguments).status = 1 →
          (run journal environment more).status = 1) ∧
    ∀ (recording : Recording) (disk : Disk) (settings : Settings),
      Validation.EndsStricter (Validation.ReadsManifest recording disk settings)
        (Validation.run recording disk { settings with strict := false }).outcome
        (Validation.run recording disk { settings with strict := true }).outcome := by
  refine ⟨fun journal environment arguments more added failed => ?_, Validation.run_endsStricter⟩
  -- One added switch after the other, the run goes on failing.
  induction added with
  | refl => exact failed
  | tail _ added failed => exact status_of_addsSwitch added failed

/-- Content whose index declares a scene under another key, and a scene that nothing links to. -/
def renamedDisk : Disk := Validation.openDisk [
  Validation.jsonFile ["manifest.json"] (.object [("startingScene", .text "b"),
    ("sceneIndex", .object [("a", .object [("id", .text "b")]), ("c", .object [])])]),
  Validation.jsonFile ["scenes", "b.json"] (.object [("id", .text "b")])]

/-- An environment in which warnings count. -/
def warnedEnvironment : Table String := [(Settings.failOnWarningsVariable, "yes")]

/-- Content that passes with a warning, where warnings count: the run fails, it fails with both
switches, and a strict validation passes with one more warning. -/
theorem switches_tighten_renamed :
    Relation.ReflTransGen AddsSwitch ["validate", "--json"]
        ["validate", "--strict", "--json", "--fail-on-warnings"] ∧
      (run (.initial "" renamedDisk) warnedEnvironment ["validate", "--json"]).status = 1 ∧
      (run (.initial "" renamedDisk) warnedEnvironment
        ["validate", "--strict", "--json", "--fail-on-warnings"]).status = 1 ∧
      ∃ verdict, verdict.passed = true ∧
        (Validation.run .nowhere renamedDisk
          { Validation.openSettings with strict := false }).outcome = .ok verdict ∧
        (Validation.run .nowhere renamedDisk
          { Validation.openSettings with strict := true }).outcome =
            .ok (verdict.addWarnings ["Scene index key 'a' does not match its entry id 'b'"]) := by
  have strict : AddsSwitch ["validate", "--json"] ["validate", "--strict", "--json"] :=
    @AddsSwitch.add .strict ["validate"] [] ["--json"] _ rfl rfl rfl rfl
  have warned : AddsSwitch ["validate", "--strict", "--json"]
      ["validate", "--strict", "--json", "--fail-on-warnings"] :=
    @AddsSwitch.add .failOnWarnings ["validate"] ["--strict", "--json"] [] _ rfl rfl rfl rfl
  have both := Relation.ReflTransGen.tail (.single strict) warned
  have failed : (run (.initial "" renamedDisk) warnedEnvironment ["validate", "--json"]).status =
      1 := by
    decide +kernel
  refine ⟨both, failed, switches_tighten.1 _ _ _ _ both failed, ?_⟩
  obtain ⟨verdict, judged, passed⟩ : ∃ verdict, (Validation.run .nowhere renamedDisk
      { Validation.openSettings with strict := false }).outcome = .ok verdict ∧
        verdict.passed = true := exists_ok_of_map (by decide +kernel)
  obtain ⟨manifest, read, mismatches⟩ : ∃ manifest,
      Validation.openSettings.corpus.readManifest renamedDisk = .ok manifest ∧
        Validation.mismatchMessages manifest =
          ["Scene index key 'a' does not match its entry id 'b'"] :=
    exists_ok_of_map (by decide +kernel)
  have ends := switches_tighten.2 .nowhere renamedDisk Validation.openSettings
  refine ⟨verdict, passed, judged, ?_⟩
  rw [judged] at ends
  generalize (Validation.run .nowhere renamedDisk
    { Validation.openSettings with strict := true }).outcome = outcome at ends ⊢
  cases ends with
  | judged _ given =>
    -- The manifest that was read is the one of this content.
    obtain ⟨loaded, -, given⟩ := given
    cases read.symm.trans given
    rw [mismatches]

end Session

end Gamebook.CommandLine
