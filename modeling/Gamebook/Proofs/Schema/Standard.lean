import Gamebook.Proofs.Schema.Plain

/-! The standard schemas: each can be used, and every check by one is carried to its end. -/

namespace Gamebook.Schema

namespace Standard

variable {entry : String × Json}

/-- How many nested steps the definitions of the schema of scenes take. -/
def ranks : Table Nat := [
  ("#/definitions/condition", 1), ("#/definitions/conditions", 3),
  ("#/definitions/effect", 1), ("#/definitions/effects", 3), ("#/definitions/choice", 1)]

/-- The references of the schema of scenes lead to definitions that take the steps of their ranks,
and the schema itself takes one. -/
theorem ranked_scene : areRanks true scene ranks 4 = true ∧
    isTame true ranks 4 1 .schema scene = true := by
  decide +kernel

/-- The schema of scenes holds more values than it takes steps. -/
theorem four_le_size_scene : 4 ≤ scene.size := by decide

/-- A check by the schema of scenes is carried to its end. -/
theorem isComplete_check_scene (document : Json) :
    (check .draft7 scene document).IsComplete :=
  isComplete_check document ranked_scene.1 ranked_scene.2 scene.size_pos four_le_size_scene

/-- The schema of scenes is plain: its references lead to its definitions. -/
theorem isPlain_scene : IsPlain scene := by
  refine ⟨ranks, 4, 1, by decide +kernel, by decide +kernel, ?_, scene.size_pos, four_le_size_scene⟩
  -- Every reference with a rank leads to the definition of its name.
  simp only [ranks, List.forall_mem_cons, List.not_mem_nil, IsEmpty.forall_iff, implies_true,
    and_true]
  exact ⟨.inr ⟨_, "condition", _, rfl, rfl, rfl⟩, .inr ⟨_, "conditions", _, rfl, rfl, rfl⟩,
    .inr ⟨_, "effect", _, rfl, rfl, rfl⟩, .inr ⟨_, "effects", _, rfl, rfl, rfl⟩,
    .inr ⟨_, "choice", _, rfl, rfl, rfl⟩⟩

/-- The standard schemas are plain, so that they may as well be taken from files. -/
theorem isPlain_of_mem_standards (listed : entry ∈ Registry.standards) : IsPlain entry.2 := by
  simp only [Registry.standards, List.mem_cons, List.not_mem_nil, or_false] at listed
  -- Of the four schemas, only that of scenes has references.
  rcases listed with rfl | rfl | rfl | rfl
  · exact isPlain_of_isTame (by decide +kernel)
  · exact isPlain_scene
  · exact isPlain_of_isTame (by decide +kernel)
  · exact isPlain_of_isTame (by decide +kernel)

/-- A standard schema fits the schema of schemas of the seventh draft. -/
theorem ofJson_of_mem_standards (listed : entry ∈ Registry.standards) :
    Compiled.ofJson entry.2 = .ok ⟨.draft7, entry.2⟩ := by
  have drafts : ∀ entry ∈ Registry.standards,
      (Compiled.ofJson entry.2).toOption.map Compiled.draft = some .draft7 := by
    decide +kernel
  have drafted := drafts entry listed
  cases used : Compiled.ofJson entry.2 with
  | error fault => simp [used, Except.toOption] at drafted
  | ok compiled =>
    -- A schema that can be used is used as it is written.
    obtain ⟨-, written⟩ := Compiled.of_ofJson used
    obtain ⟨draft, schema⟩ := compiled
    simp_all [Except.toOption]

end Standard

end Gamebook.Schema
