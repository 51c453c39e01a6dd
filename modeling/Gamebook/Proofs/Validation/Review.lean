import Gamebook.Proofs.Story.Review
import Gamebook.Proofs.Validation

/-! The reviews of single scenes together find what the verdict on the corpus finds missing. -/

namespace Gamebook.Validation

variable {disk : Disk} {settings : Settings} {verdict : Verdict} {registry : Schema.Registry}
  {manifest : Json} {messages : List String} {survey : Survey} {id : String}

/-- A scene is known in a corpus: it is declared, or some scene file declares it as its own. -/
def IsKnown (disk : Disk) (corpus : Corpus) (manifest : Json) (id : String) : Prop :=
  id ∈ Table.keys (SceneIndex.ofManifest manifest).entries ∨ corpus.Defines disk id

/-- The known scenes of a corpus: the declared ones, then those of the scene files. -/
def knownScenes (disk : Disk) (corpus : Corpus) (manifest : Json) : List String :=
  Table.keys (SceneIndex.ofManifest manifest).entries ++
    (corpus.readableScenes disk).filterMap fun scene => Corpus.declaredId? scene.2

/-- The list of known scenes holds those that are known. -/
theorem mem_knownScenes_iff {corpus : Corpus} :
    id ∈ knownScenes disk corpus manifest ↔ IsKnown disk corpus manifest id := by
  rw [knownScenes, List.mem_append, List.mem_filterMap]
  simp only [Corpus.declaredId?_eq_some_iff, IsKnown, Corpus.Defines]

/-- What is missing is seeded or mentioned, and not known. -/
theorem Draws.mem_missing_iff_not_isKnown
    (draws : Draws disk settings registry manifest messages survey verdict) :
    id ∈ verdict.missing ↔ (Seeds manifest id ∨ settings.corpus.Mentions disk id) ∧
      ¬ IsKnown disk settings.corpus manifest id := by
  rw [draws.mem_missing_iff, draws.mem_referenced_iff, IsKnown, not_or]

/-- A review of a scene reports those of some missing scenes that the scene refers to, each once and
in increasing order, after everything that is wrong with the shape. -/
def ReportsMissing (missing : IdSet) (scene : Json) (review : Story.Review) : Prop :=
  ∃ targets : List String, targets.Pairwise (· < ·) ∧
    (∀ id, id ∈ targets ↔ id ∈ sceneReferences .everything scene ∧ id ∈ missing) ∧
    review.errors = (Story.Scene.read scene).issues.map .shape ++
      targets.map (.brokenLink .reference)

/-- Given the known scenes of a corpus, the reviews of its scene documents report what the verdict
finds missing, but for the seeds that are unknown. -/
theorem missing_eq_reviewed (ended : Validation.verdict disk settings = .ok verdict) :
    ∃ manifest, settings.corpus.readManifest disk = .ok manifest ∧
      ∀ known : List String, (∀ id, id ∈ known ↔ IsKnown disk settings.corpus manifest id) →
        (∀ id, id ∈ verdict.missing ↔ (Seeds manifest id ∧ id ∉ known) ∨
          ∃ scene ∈ settings.corpus.readableScenes disk,
            .brokenLink .reference id ∈ (Story.Review.ofScene scene.2 known).errors) ∧
        ∀ scene ∈ settings.corpus.readableScenes disk,
          ReportsMissing verdict.missing scene.2 (Story.Review.ofScene scene.2 known) := by
  obtain ⟨loaded, manifest, messages, survey, -, draws⟩ := exists_draws ended
  refine ⟨manifest, draws.manifest_read, ?_⟩
  intro known isKnown
  constructor
  · intro id
    rw [draws.mem_missing_iff_not_isKnown, ← isKnown]
    simp only [Story.Review.brokenLink_mem_errors_iff, Story.Review.mem_unknownTargets_iff]
    constructor
    · rintro ⟨seeded | ⟨scene, readable, member⟩, unknown⟩
      · exact .inl ⟨seeded, unknown⟩
      · exact .inr ⟨scene, readable, member, unknown⟩
    · rintro (⟨seeded, unknown⟩ | ⟨scene, readable, member, unknown⟩)
      · exact ⟨.inl seeded, unknown⟩
      · exact ⟨.inr ⟨scene, readable, member⟩, unknown⟩
  · intro scene readable
    refine ⟨_, Story.Review.increasing_unknownTargets, ?_, Story.Review.errors_ofScene⟩
    intro id
    rw [Story.Review.mem_unknownTargets_iff, draws.mem_missing_iff_not_isKnown, ← isKnown]
    -- What a readable document refers to is mentioned, so it is missing as soon as it is unknown.
    constructor
    · rintro ⟨member, unknown⟩
      exact ⟨member, .inr ⟨scene, readable, member⟩, unknown⟩
    · rintro ⟨member, -, unknown⟩
      exact ⟨member, unknown⟩

/-- Content with an unknown start, whose only scene file has no usable identifier and malformed
choices, and goes nowhere. -/
def tangledDisk : Disk := openDisk [
  jsonFile ["manifest.json"] (.object [("startingScene", .text "gone"),
    ("sceneIndex", .object [("b", .object [])])]),
  jsonFile ["scenes", "d.json"] (.object [("id", .bool true), ("choices", .text "a"),
    ("effects", .object [("type", .text "goto"), ("sceneId", .text "beyond")])])]

/-- The reviews of the tangled content, with its known scenes at hand. -/
theorem missing_eq_reviewed_tangled :
    ∃ verdict, Validation.verdict tangledDisk openSettings = .ok verdict ∧
      verdict.missing.ids = ["beyond", "gone"] ∧
      ∃ manifest, openSettings.corpus.readManifest tangledDisk = .ok manifest ∧
        ∃ known : List String,
          (∀ id, id ∈ known ↔ IsKnown tangledDisk openSettings.corpus manifest id) ∧
          (∀ id, id ∈ verdict.missing ↔ (Seeds manifest id ∧ id ∉ known) ∨
            ∃ scene ∈ openSettings.corpus.readableScenes tangledDisk,
              .brokenLink .reference id ∈ (Story.Review.ofScene scene.2 known).errors) ∧
          ∀ scene ∈ openSettings.corpus.readableScenes tangledDisk,
            ReportsMissing verdict.missing scene.2 (Story.Review.ofScene scene.2 known) := by
  -- The run is computed once, and the theorem is applied to what came out.
  obtain ⟨verdict, ended, told⟩ : ∃ verdict,
      Validation.verdict tangledDisk openSettings = .ok verdict ∧
        verdict.missing.ids = ["beyond", "gone"] :=
    exists_verdict (by decide +kernel)
  obtain ⟨manifest, read, reviewed⟩ := missing_eq_reviewed ended
  exact ⟨verdict, ended, told, manifest, read, _, fun _ => mem_knownScenes_iff,
    reviewed _ fun _ => mem_knownScenes_iff⟩

end Gamebook.Validation
