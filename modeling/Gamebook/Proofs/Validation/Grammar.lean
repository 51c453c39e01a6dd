import Gamebook.Proofs.Schema.Scene
import Gamebook.Validation

/-! Which documents the messages of the standard schema of scenes are about. -/

namespace Gamebook.Validation

/-- With the standard schema of scenes every value is checked to the end, and there is no message
about it exactly when it is a scene. -/
theorem sceneMessages_areExact {disk : Disk} {content : Path} {schemas : Option Path}
    {loaded : Table (Path × Schema.Compiled)} {path : Path}
    (loading : Schema.Registry.load disk content schemas = .ok loaded)
    (bundled : Schema.Registry.source disk content schemas "scene" = .standard path)
    (document : Json) (label : String) :
    ∃ messages, documentMessages (.ofLoaded loaded) "scene" document label = .ok messages ∧
      (messages = [] ↔ Schema.IsScene document) := by
  have checked : (Schema.Registry.ofLoaded loaded).check? "scene" document =
      some (Schema.check .draft7 Schema.Standard.scene document) :=
    Schema.Registry.check?_of_source bundled loading rfl rfl document
  -- No obstacle is met, so what is found is told.
  have complete := Schema.Standard.isComplete_check_scene document
  have told : documentMessages (.ofLoaded loaded) "scene" document label =
      .ok (Schema.messages label
        (Schema.check .draft7 Schema.Standard.scene document).violations) := by
    simp only [documentMessages, checked, complete.messages_eq, Except.mapError]
  refine ⟨_, told, ?_⟩
  rw [← Schema.Standard.check_scene_eq_none_iff, ← Schema.Findings.messages_eq_nil_iff,
    complete.messages_eq, Except.ok.injEq]

/-- A scene with a condition inside a condition. -/
def nestedScene : Json :=
  .object [("id", .text "a"), ("choices", .list [.object [("to", .text "b"), ("conditions",
    .object [("type", .text "not"), ("conditions", .list [.object [("type", .text "flag")]])])]])]

/-- The scene with nested conditions is a scene. -/
theorem isScene_nestedScene : Schema.IsScene nestedScene := by
  -- From the inside out: the leaf, the condition around it, and the choice that holds both.
  have flag : Schema.IsCondition (.object [("type", .text "flag")]) :=
    .bare .flag rfl rfl
  have negated : Schema.IsCondition (.object [("type", .text "not"),
      ("conditions", .list [.object [("type", .text "flag")]])]) := by
    refine .some (.logical .not) rfl rfl (by simp) ?_
    simpa using flag
  have choice : Schema.IsChoice (.object [("to", .text "b"), ("conditions", .object [
      ("type", .text "not"), ("conditions", .list [.object [("type", .text "flag")]])])]) := by
    refine ⟨rfl, ?_, ?_, ?_, ?_⟩
    · rintro _ ⟨⟩
    · rintro _ ⟨⟩
      exact ⟨"b", rfl, by decide⟩
    · rintro _ ⟨⟩
      exact .inl negated
    · rintro _ ⟨⟩
  refine ⟨⟨_, rfl, "a", rfl, by decide⟩, ?_, ?_, ?_, ?_⟩
  · rintro _ ⟨⟩
  · rintro _ ⟨⟩
  · rintro _ ⟨⟩
  · rintro _ ⟨⟩
    exact ⟨_, rfl, by simpa using choice⟩

/-- There is no message about the scene with nested conditions. -/
theorem sceneMessages_areExact_nested :
    ∃ loaded path, Schema.Registry.load ⟨[]⟩ (.ofText "content") none = .ok loaded ∧
      Schema.Registry.source ⟨[]⟩ (.ofText "content") none "scene" = .standard path ∧
      documentMessages (.ofLoaded loaded) "scene" nestedScene "a.json" = .ok [] := by
  -- A disk without files leaves every schema to the bundled ones.
  have isStandard : Schema.Registry.IsStandard ⟨[]⟩ (.ofText "content") none :=
    ⟨rfl, by decide⟩
  have listed : "scene" ∈ Table.keys Schema.Registry.standards := by decide
  have bundled := Schema.Registry.source_of_isStandard isStandard listed
  obtain ⟨loaded, loading⟩ := Schema.Registry.exists_load_of_isStandard isStandard
  obtain ⟨messages, told, nil_iff⟩ := sceneMessages_areExact loading bundled nestedScene "a.json"
  rw [nil_iff.2 isScene_nestedScene] at told
  exact ⟨loaded, _, loading, bundled, told⟩

end Gamebook.Validation
