import Gamebook.Proofs.Json
import Gamebook.Proofs.Table
import Gamebook.SceneIndex

/-! What a manifest declares, said without the index that is built from it. -/

namespace Gamebook

/-- A manifest makes a scene reachable: as its start, or as the target of an ending. -/
def Seeds (manifest : Json) (id : String) : Prop :=
  id ≠ "" ∧ (manifest.get? "startingScene" = some (.text id) ∨
    ∃ endings ending, manifest.get? "endings" = some (.list endings) ∧ ending ∈ endings ∧
      ending.get? "sceneId" = some (.text id))

/-- An entry of an index says that nothing links to its scene on purpose. -/
def Exempts (entry : Json) : Prop := entry.get? "unreachable" = some (.bool true)

namespace SceneIndex

/-- The test for exemption agrees with what it says. -/
theorem exempts_iff {entry : Json} : exempts entry = true ↔ Exempts entry := by
  rw [exempts, Exempts]
  -- Without the member nothing is exempted.
  cases entry.get? "unreachable" with
  | none => simp
  | some value => simp [Json.isTrue_iff]

/-- A scene is exempt exactly when the index has an entry for it that says so. -/
theorem isExempt_iff {id : String} {index : SceneIndex} :
    index.isExempt id = true ↔
      ∃ entry, Table.get? id index.entries = some entry ∧ Exempts entry := by
  rw [isExempt]
  -- What has no entry is not exempt.
  cases Table.get? id index.entries with
  | none => simp
  | some entry => simp [exempts_iff]

/-- The seeds of an index are the scenes that its manifest makes reachable. -/
theorem mem_seeded_iff {manifest : Json} {id : String} :
    id ∈ (ofManifest manifest).seeded ↔ Seeds manifest id := by
  simp only [ofManifest, IdSet.mem_ofList, seeds, List.mem_append, Option.mem_toList,
    Json.bind_nonemptyText?_eq_some_iff, List.mem_filterMap, Seeds]
  -- Endings that are not a list seed nothing.
  constructor
  · rintro (⟨start, nonempty⟩ | ⟨ending, member, target, nonempty⟩)
    · exact ⟨nonempty, .inl start⟩
    · refine ⟨nonempty, .inr ?_⟩
      split at member
      · next endings found => exact ⟨endings, ending, found, member, target⟩
      · simp at member
  · rintro ⟨nonempty, start | ⟨endings, ending, found, member, target⟩⟩
    · exact .inl ⟨start, nonempty⟩
    · refine .inr ⟨ending, ?_, target, nonempty⟩
      rw [found]
      exact member

/-- The declarations of a manifest are the members of its index that are objects. -/
theorem mem_declarations_iff {manifest : Json} {key : String} {entry : Json} :
    (key, entry) ∈ declarations manifest ↔ ∃ members,
      manifest.get? "sceneIndex" = some (.object members) ∧ (key, entry) ∈ members ∧
        entry.isObject = true := by
  -- An index of another type has no member at all.
  rw [declarations, List.mem_filter]
  cases manifest.get? "sceneIndex" with
  | none => simp [Json.members]
  | some index => cases index <;> simp [Json.members]

/-- The declared scenes are the identifiers of the declarations. -/
theorem mem_keys_ofManifest_iff {manifest : Json} {id : String} :
    id ∈ Table.keys (ofManifest manifest).entries ↔
      ∃ key entry, (key, entry) ∈ declarations manifest ∧ effectiveId key entry = id := by
  -- Every declaration leaves its key, whichever of them is kept.
  rw [ofManifest, Table.mem_keys_ofEntries]
  simp [Table.keys]

/-- No identifier is declared twice. -/
theorem nodup_keys_ofManifest (manifest : Json) :
    (Table.keys (ofManifest manifest).entries).Nodup :=
  Table.nodup_keys_ofEntries _

end SceneIndex

end Gamebook
