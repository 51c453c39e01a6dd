import Gamebook.Proofs.Validation.Report

/-! What a strict validation says that another one does not. -/

namespace Gamebook

/-- A verdict with more warnings at the end. -/
def Verdict.addWarnings (messages : List String) (verdict : Verdict) : Verdict :=
  { verdict with warnings := verdict.warnings ++ messages }

/-- Settings that judge the same files at least as strictly as others. -/
structure Settings.Tightens (loose tight : Settings) : Prop where
  content : loose.content = tight.content
  schemas : loose.schemas = tight.schemas
  scenes : loose.scenes = tight.scenes
  strict : loose.strict = true → tight.strict = true
  warnings : loose.failOnWarnings = true → tight.failOnWarnings = true

namespace Validation

variable {recording : Recording} {disk : Disk} {settings : Settings} {registry : Schema.Registry}
  {manifest : Json} {messages : List String}

/-- The messages about the entries of a manifest's index that name other scenes than their keys. -/
def mismatchMessages (manifest : Json) : List String :=
  (SceneIndex.ofManifest manifest).keyMismatches.map fun (key, id) => mismatchMessage key id

/-- A validation that has loaded its schemas reads this manifest. -/
def ReadsManifest (recording : Recording) (disk : Disk) (settings : Settings) (manifest : Json) :
    Prop :=
  ∃ loaded, Schema.Registry.load disk settings.content settings.schemas = .ok loaded ∧
    settings.corpus.readManifest (recording.after [schemasEvent loaded] disk) = .ok manifest

/-- How a strict validation ends beside another one: both fail alike, or the strict verdict is the
other one with the mismatches of a manifest as its last warnings. -/
inductive EndsStricter (reads : Json → Prop) :
    Except RunFailure Verdict → Except RunFailure Verdict → Prop
  | failed (failure : RunFailure) : EndsStricter reads (.error failure) (.error failure)
  | judged {manifest : Json} (verdict : Verdict) (read : reads manifest) :
    EndsStricter reads (.ok verdict) (.ok (verdict.addWarnings (mismatchMessages manifest)))

/-- A strict verdict has the mismatches of the index as its last warnings. -/
theorem verdictOn_strict {survey : Survey} :
    verdictOn { settings with strict := true } manifest messages survey =
      (verdictOn { settings with strict := false } manifest messages survey).addWarnings
        (mismatchMessages manifest) := rfl

/-- A strict validation of the files of a manifest ends with the mismatches of its index. -/
theorem runFiles_endsStricter :
    EndsStricter (· = manifest)
      (runFiles recording disk { settings with strict := false } registry manifest messages).outcome
      (runFiles recording disk { settings with strict := true } registry manifest
        messages).outcome := by
  -- Either run surveys the same files, and differs from the other by its report only.
  obtain ⟨survey, surveyed⟩ : ∃ survey,
      surveyAfter recording disk settings.corpus registry manifest messages = survey := ⟨_, rfl⟩
  have outcome (strict : Bool) : (runFiles recording disk { settings with strict } registry manifest
      messages).outcome = _ := runFiles_outcome surveyed
  rw [outcome, outcome]
  cases survey.fault with
  | some fault => exact .failed (.ended fault)
  | none =>
    dsimp only
    rw [verdictOn_strict]
    exact .judged _ rfl

/-- What is known of the manifest may be said in other words. -/
theorem EndsStricter.mono {reads knows : Json → Prop} {other strict : Except RunFailure Verdict}
    (ends : EndsStricter reads other strict) (known : ∀ manifest, reads manifest → knows manifest) :
    EndsStricter knows other strict := by
  -- A verdict is compared by the manifest that it read.
  cases ends with
  | failed failure => exact .failed failure
  | judged verdict read => exact .judged verdict (known _ read)

/-- A strict validation with its schemas ends with the mismatches of the manifest that it reads. -/
theorem runLoaded_endsStricter :
    EndsStricter (fun manifest => settings.corpus.readManifest disk = .ok manifest)
      (runLoaded recording disk { settings with strict := false } registry).outcome
      (runLoaded recording disk { settings with strict := true } registry).outcome := by
  simp only [runLoaded, Settings.corpus]
  -- Up to the survey both runs do the same.
  cases reading : (Corpus.below settings.content settings.scenes).readManifest disk with
  | error failure => exact .failed failure
  | ok manifest =>
    dsimp only
    cases documentMessages registry "manifest" manifest Corpus.manifestName with
    | error fault => exact .failed (.ended fault)
    | ok messages => exact runFiles_endsStricter.mono fun _ same => same ▸ rfl

/-- A strict validation fails as another one does, or comes to its verdict with the mismatches of
the manifest as the last warnings. -/
theorem run_endsStricter (recording : Recording) (disk : Disk) (settings : Settings) :
    EndsStricter (ReadsManifest recording disk settings)
      (run recording disk { settings with strict := false }).outcome
      (run recording disk { settings with strict := true }).outcome := by
  simp only [run]
  -- The schemas are loaded alike, so both runs fail there or neither does.
  cases loading : Schema.Registry.load disk settings.content settings.schemas with
  | error failure => cases failure <;> exact .failed _
  | ok loaded => exact runLoaded_endsStricter.mono fun _ read => ⟨loaded, loading, read⟩

/-- A validation reads its settings for the places of its files and for its strictness only. -/
theorem run_congr {other : Settings} (content : settings.content = other.content)
    (schemas : settings.schemas = other.schemas) (scenes : settings.scenes = other.scenes)
    (strict : settings.strict = other.strict) :
    run recording disk settings = run recording disk other := by
  -- A run reads four of the settings and no other.
  obtain ⟨_, _, _, _, _, _⟩ := settings
  obtain ⟨_, _, _, _, _, _⟩ := other
  cases content
  cases schemas
  cases scenes
  cases strict
  rfl

/-- No warning more leaves a verdict as it is. -/
theorem map_addWarnings_nil (outcome : Except RunFailure Verdict) :
    outcome.map (Verdict.addWarnings []) = outcome := by
  cases outcome with
  | error failure => rfl
  | ok verdict => simp [Except.map, Verdict.addWarnings]

/-- A strict validation brings perhaps more warnings and no other change. -/
theorem EndsStricter.exists_map {reads : Json → Prop} {other strict : Except RunFailure Verdict}
    (ends : EndsStricter reads other strict) :
    ∃ messages, strict = other.map (Verdict.addWarnings messages) := by
  -- A failure is the same under both settings.
  cases ends with
  | failed failure => exact ⟨[], rfl⟩
  | judged verdict read => exact ⟨_, rfl⟩

/-- Settings that are at least as strict bring perhaps more warnings and no other change. -/
theorem exists_map_addWarnings (recording : Recording) (disk : Disk) {loose tight : Settings}
    (tightens : loose.Tightens tight) :
    ∃ messages, (run recording disk tight).outcome =
      (run recording disk loose).outcome.map (Verdict.addWarnings messages) := by
  have alike (same : loose.strict = tight.strict) : ∃ messages, (run recording disk tight).outcome =
      (run recording disk loose).outcome.map (Verdict.addWarnings messages) :=
    ⟨[], by rw [run_congr tightens.content tightens.schemas tightens.scenes same,
      map_addWarnings_nil]⟩
  -- Only the step from plain to strict can add warnings.
  rcases Bool.eq_false_or_eq_true loose.strict with on | off
  · exact alike (on.trans (tightens.strict on).symm)
  · rcases Bool.eq_false_or_eq_true tight.strict with on' | off'
    · have other : run recording disk loose = run recording disk { loose with strict := false } :=
        run_congr rfl rfl rfl off
      have strictly : run recording disk tight = run recording disk { loose with strict := true } :=
        run_congr tightens.content.symm tightens.schemas.symm tightens.scenes.symm on'
      rw [other, strictly]
      exact (run_endsStricter recording disk loose).exists_map
    · exact alike (off.trans off'.symm)

end Validation

end Gamebook
