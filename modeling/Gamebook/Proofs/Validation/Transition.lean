import Gamebook.Proofs.Schema.Registry
import Gamebook.Proofs.Schema.Scene
import Gamebook.Proofs.Validation

/-! Where the transitions and choices of a corpus lead that passes the standard schemas. -/

namespace Gamebook.Validation

variable {disk : Disk} {settings : Settings} {verdict : Verdict} {registry : Schema.Registry}
  {manifest : Json} {messages : List String} {survey : Survey} {id : String}

/-- A member of a value names a scene that is declared, or that a scene file declares as its own. -/
def NamesKnown (disk : Disk) (corpus : Corpus) (manifest : Json) (key : String) (value : Json) :
    Prop :=
  ∃ id, value.get? key = some (.text id) ∧ id ≠ "" ∧
    (id ∈ Table.keys (SceneIndex.ofManifest manifest).entries ∨ corpus.Defines disk id)

/-- What a scene file of a passing corpus refers to is declared or defined. -/
theorem Draws.known_of_mem_sceneReferences
    (draws : Draws disk settings registry manifest messages survey verdict)
    (passed : verdict.passed = true) {scene : Path × Json}
    (readable : scene ∈ settings.corpus.readableScenes disk)
    (member : id ∈ sceneReferences .everything scene.2) :
    id ∈ Table.keys (SceneIndex.ofManifest manifest).entries ∨ settings.corpus.Defines disk id :=
  draws.known_of_mem_referenced passed (draws.mem_referenced_iff.2 (.inr ⟨scene, readable, member⟩))

/-- A scene file of a corpus that passes the standard schemas is a scene. -/
theorem Draws.passes_scene {loaded : Table (Path × Schema.Compiled)}
    (draws : Draws disk settings (.ofLoaded loaded) manifest messages survey verdict)
    (loading : Schema.Registry.load disk settings.content settings.schemas = .ok loaded)
    (standard : Schema.Registry.IsStandard disk settings.content settings.schemas)
    (passed : verdict.passed = true) {scene : Path × Json}
    (readable : scene ∈ settings.corpus.readableScenes disk) :
    Schema.IsScene scene.2 := by
  obtain ⟨listed, read⟩ := Disk.mem_readable_iff.1 readable
  obtain ⟨document, again, clean⟩ := (draws.passed_iff.1 passed).scenes scene.1 listed
  -- The document that was judged is the one that was read.
  cases read.symm.trans again
  have checked : (Schema.Registry.ofLoaded loaded).check? "scene" scene.2 =
      some (Schema.check .draft7 Schema.Standard.scene scene.2) :=
    Schema.Registry.check?_of_source
      (Schema.Registry.source_of_isStandard standard (by decide)) loading rfl rfl scene.2
  rw [documentMessages, checked] at clean
  -- No message is left, so nothing is found.
  cases messages : (Schema.check .draft7 Schema.Standard.scene scene.2).messages
      (settings.corpus.relativeName scene.1) with
  | error obstacle => simp [messages, Except.mapError] at clean
  | ok found =>
    simp only [messages, Except.mapError, Except.ok.injEq] at clean
    rw [clean] at messages
    exact Schema.Standard.check_scene_eq_none_iff.1 (Schema.Findings.messages_eq_nil_iff.1 messages)

/-- In a corpus that passes the standard schemas every choice with a target leads to a known scene,
and a transition does exactly when it names a scene at all. -/
theorem namesKnown_of_passed (ended : Validation.verdict disk settings = .ok verdict)
    (passed : verdict.passed = true)
    (standard : Schema.Registry.IsStandard disk settings.content settings.schemas) :
    ∃ manifest, settings.corpus.readManifest disk = .ok manifest ∧
      ∀ scene ∈ settings.corpus.readableScenes disk,
        (∀ choice, StandsUnder "choices" scene.2 choice → (choice.get? "to").isSome = true →
          NamesKnown disk settings.corpus manifest "to" choice) ∧
        ∀ effect, HasTransition scene.2 effect →
          (NamesKnown disk settings.corpus manifest "sceneId" effect ↔
            (effect.get? "sceneId").isSome = true) := by
  obtain ⟨loaded, manifest, messages, survey, loading, draws⟩ := exists_draws ended
  refine ⟨manifest, draws.manifest_read, ?_⟩
  intro scene readable
  -- The schema sees to the shape of a target, and the verdict to where it leads.
  have fits := draws.passes_scene loading standard passed readable
  constructor
  · intro choice stands given
    obtain ⟨target, found⟩ := Option.isSome_iff_exists.1 given
    obtain ⟨id, rfl, nonempty⟩ := Schema.Standard.exists_nonempty_of_choice fits stands found
    exact ⟨id, found, nonempty, draws.known_of_mem_sceneReferences passed readable
      (mem_sceneReferences_of_choice stands found nonempty)⟩
  · intro effect transition
    constructor
    · rintro ⟨id, found, -⟩
      rw [found]
      rfl
    · intro given
      obtain ⟨target, found⟩ := Option.isSome_iff_exists.1 given
      obtain ⟨id, rfl, nonempty⟩ :=
        Schema.Standard.exists_nonempty_of_hasTransition fits transition found
      exact ⟨id, found, nonempty, draws.known_of_mem_sceneReferences passed readable
        (mem_sceneReferences_of_hasTransition transition found nonempty)⟩

/-- Content without schemas of its own, with one transition that names a scene and one that does
not. -/
def aimlessDisk : Disk :=
  ⟨[(["content"], .directory), (["content", "scenes"], .directory),
    jsonFile ["manifest.json"] (.object [("startingScene", .text "a"),
      ("sceneIndex", .object [("a", .object [])])]),
    jsonFile ["scenes", "a.json"] (.object [("id", .text "a"), ("effects", .list [
      .object [("type", .text "goto"), ("sceneId", .text "a")],
      .object [("type", .text "goto")]])])]⟩

/-- Content without schemas of its own is judged by the standard ones. -/
theorem isStandard_aimlessDisk :
    Schema.Registry.IsStandard aimlessDisk openSettings.content openSettings.schemas :=
  ⟨rfl, by decide +kernel⟩

/-- The aimless content passes. -/
theorem exists_verdict_aimlessDisk :
    ∃ verdict, Validation.verdict aimlessDisk openSettings = .ok verdict ∧ verdict.passed = true :=
  exists_verdict (by decide +kernel)

/-- In the aimless content the transition with a target leads to a known scene. -/
theorem namesKnown_of_passed_aimless :
    ∃ verdict, Validation.verdict aimlessDisk openSettings = .ok verdict ∧
      verdict.passed = true ∧
      Schema.Registry.IsStandard aimlessDisk openSettings.content openSettings.schemas ∧
      ∃ manifest, openSettings.corpus.readManifest aimlessDisk = .ok manifest ∧
        ∀ scene ∈ openSettings.corpus.readableScenes aimlessDisk,
          (∀ choice, StandsUnder "choices" scene.2 choice → (choice.get? "to").isSome = true →
            NamesKnown aimlessDisk openSettings.corpus manifest "to" choice) ∧
          ∀ effect, HasTransition scene.2 effect →
            (NamesKnown aimlessDisk openSettings.corpus manifest "sceneId" effect ↔
              (effect.get? "sceneId").isSome = true) := by
  obtain ⟨verdict, ended, passed⟩ := exists_verdict_aimlessDisk
  exact ⟨verdict, ended, passed, isStandard_aimlessDisk,
    namesKnown_of_passed ended passed isStandard_aimlessDisk⟩

/-- The aimless content passes although one of its transitions names no scene at all. -/
theorem aimless_transition_passes :
    ∃ verdict, Validation.verdict aimlessDisk openSettings = .ok verdict ∧
      verdict.passed = true ∧
      Schema.Registry.IsStandard aimlessDisk openSettings.content openSettings.schemas ∧
      ∃ scene ∈ openSettings.corpus.readableScenes aimlessDisk, ∃ effect,
        HasTransition scene.2 effect ∧ ∀ manifest,
          ¬ NamesKnown aimlessDisk openSettings.corpus manifest "sceneId" effect := by
  obtain ⟨verdict, ended, passed⟩ := exists_verdict_aimlessDisk
  refine ⟨verdict, ended, passed, isStandard_aimlessDisk, ?_⟩
  -- The test finds the second effect, and what it finds is what has to be shown.
  have found : (openSettings.corpus.readableScenes aimlessDisk).any (fun scene =>
      (nodesAt "effects" scene.2).any fun effect =>
        kindWord? effect == some "goto" && !(effect.get? "sceneId").isSome) = true := by
    decide +kernel
  simp only [List.any_eq_true, Bool.and_eq_true, beq_iff_eq, Bool.not_eq_true',
    kindWord?_eq_some_iff] at found
  obtain ⟨scene, readable, effect, member, transition, aimless⟩ := found
  have object := isObject_of_isTransition transition
  refine ⟨scene, readable, effect, ⟨transition, .inl ((mem_nodesAt_iff object).1 member)⟩, ?_⟩
  rintro manifest ⟨id, named, -⟩
  rw [named] at aimless
  cases aimless

end Gamebook.Validation
