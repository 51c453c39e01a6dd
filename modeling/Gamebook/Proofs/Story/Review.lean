import Gamebook.Proofs.IdSet
import Gamebook.Proofs.Reference
import Gamebook.Story.Review

/-! What the review of a scene reports: issues of its shape, then its links to unknown scenes. -/

namespace Gamebook.Story

namespace Review

variable {scene : Json} {known : List String} {target : String}

/-- The scenes that a scene refers to and that are not known, each once and in increasing order. -/
def unknownTargets (scene : Json) (known : List String) : List String :=
  (sceneReferences .everything scene).ids.filter fun target => !known.contains target

/-- The unknown targets of a scene are what it refers to and what is not known. -/
theorem mem_unknownTargets_iff :
    target ∈ unknownTargets scene known ↔
      target ∈ sceneReferences .everything scene ∧ target ∉ known := by
  simp [unknownTargets, IdSet.mem_def]

/-- The unknown targets of a scene are strictly increasing. -/
theorem increasing_unknownTargets : (unknownTargets scene known).Pairwise (· < ·) :=
  (sceneReferences .everything scene).increasing.filter _

/-- The errors of a review are the issues of the shape, then one broken link for each unknown
target. -/
theorem errors_ofScene :
    (ofScene scene known).errors = (Scene.read scene).issues.map .shape ++
      (unknownTargets scene known).map (.brokenLink .reference) := rfl

/-- A review reports a broken link exactly for the unknown targets of its scene. -/
theorem brokenLink_mem_errors_iff :
    .brokenLink .reference target ∈ (ofScene scene known).errors ↔
      target ∈ unknownTargets scene known := by
  simp [errors_ofScene]

/-- There are no unknown targets exactly when everything that the scene refers to is known. -/
theorem unknownTargets_eq_nil_iff :
    unknownTargets scene known = [] ↔ ∀ id ∈ sceneReferences .everything scene, id ∈ known := by
  rw [List.eq_nil_iff_forall_not_mem]
  simp only [mem_unknownTargets_iff, not_and, Decidable.not_not]

/-- A review finds nothing wrong exactly when the shape has no issue and every target is known. -/
theorem isValid_ofScene_iff :
    (ofScene scene known).isValid = true ↔ (Scene.read scene).issues = [] ∧
      ∀ id ∈ sceneReferences .everything scene, id ∈ known := by
  -- The errors are the issues of its shape and the unknown targets.
  rw [isValid, List.isEmpty_iff, errors_ofScene, List.append_eq_nil_iff, List.map_eq_nil_iff,
    List.map_eq_nil_iff, unknownTargets_eq_nil_iff]

end Review

end Gamebook.Story
