import Gamebook.Proofs.Links.Order
import Gamebook.Proofs.Reachability
import Gamebook.Proofs.Reference.Order

/-! A reachability report does not depend on the order of authoring or of loading. -/

namespace Gamebook

/-- Scenes loaded in another order, with the choices and effects inside them in another order. -/
def ScenesReordered (scenes others : Table Json) : Prop :=
  ∃ middle, scenes.Perm middle ∧
    List.Forall₂ (fun scene other => scene.1 = other.1 ∧ Rearranged scene.2 other.2) middle others

section Reordered

variable {scenes others : Table Json} (reordered : ScenesReordered scenes others)
  (loadedOnce : (Table.keys scenes).Nodup)

include reordered loadedOnce

/-- Reordering scenes loads none of them twice. -/
theorem ScenesReordered.nodup_keys : (Table.keys others).Nodup := by
  obtain ⟨middle, perm, each⟩ := reordered
  -- Reordering the choices of a scene does not rename it.
  have names : Table.keys middle = Table.keys others :=
    Table.keys_eq_of_forall₂ (each.imp fun _ _ held => held.1)
  rw [← names]
  exact Table.nodup_keys_of_perm perm loadedOnce

/-- Reordering scenes rearranges the document that is loaded for each of them. -/
theorem ScenesReordered.get? (id : String) :
    Option.Rel Rearranged (Table.get? id scenes) (Table.get? id others) := by
  obtain ⟨middle, perm, each⟩ := reordered
  -- Moving the scenes changes no lookup, and after that they stand side by side.
  rw [Table.get?_eq_of_perm perm loadedOnce]
  exact Table.rel_get?_of_forall₂ (fun _ => Rearranged) each id

/-- The graphs of reordered scenes differ in the order of their nodes at most. -/
theorem ScenesReordered.ofScenes_perm {nodes nodes' : List String} (perm : nodes.Perm nodes')
    (following : Following) :
    (Links.ofScenes scenes nodes following).Perm (Links.ofScenes others nodes' following) := by
  -- Neither graph repeats a node, so it is enough that every node leads to the same scenes.
  refine Table.perm_of_get?_eq Links.nodup_keys_ofScenes Links.nodup_keys_ofScenes ?_
  intro id
  have references :
      (Table.get? id scenes).map (fun scene => (sceneReferences following scene).ids) =
      (Table.get? id others).map fun scene => (sceneReferences following scene).ids := by
    have related := reordered.get? loadedOnce id
    generalize Table.get? id scenes = found at related ⊢
    generalize Table.get? id others = found' at related ⊢
    cases related with
    | none => rfl
    | some rearranged => rw [Option.map_some, Option.map_some, rearranged.sceneReferences_eq]
  rw [Links.get?_ofScenes loadedOnce, Links.get?_ofScenes (reordered.nodup_keys loadedOnce),
    references]
  simp only [perm.mem_iff]

end Reordered

/-- Reordering declarations keeps the exemption of each scene. -/
theorem SceneIndex.isExempt_eq_of_perm {index other : SceneIndex}
    (declaredOnce : (Table.keys index.entries).Nodup) (perm : index.entries.Perm other.entries)
    (id : String) : index.isExempt id = other.isExempt id := by
  rw [isExempt, isExempt, Table.get?_eq_of_perm perm declaredOnce]

namespace Reachability

variable {index other : SceneIndex} {scenes others : Table Json}

/-- Reordering declarations and scenes changes nothing in a report. -/
theorem ofCorpus_eq_of_reordered (declaredOnce : (Table.keys index.entries).Nodup)
    (loadedOnce : (Table.keys scenes).Nodup) (perm : index.entries.Perm other.entries)
    (reordered : ScenesReordered scenes others) (start : Option String) (limit : Int)
    (following : Following) :
    ofCorpus index start scenes limit following = ofCorpus other start others limit following := by
  have declared : (Table.keys index.entries).Perm (Table.keys other.entries) := perm.map _
  have graphs := reordered.ofScenes_perm loadedOnce declared following
  have distinct : (Table.keys (Links.ofScenes scenes (Table.keys index.entries) following)).Nodup :=
    Links.nodup_keys_ofScenes
  -- Each part of a report is computed from the graph, from sorted keys, or from lookups.
  have reached := Links.reachable_eq_of_perm graphs distinct start limit
  have cycles := Links.cycles_eq_of_perm graphs distinct
  have sorted := sortIds_eq_of_perm declared
  have exempt := SceneIndex.isExempt_eq_of_perm declaredOnce perm
  -- The sources of a scene are a set, whatever the order in which they are found.
  have described :
      describe (Links.ofScenes scenes (Table.keys index.entries) following).incoming =
        describe (Links.ofScenes others (Table.keys other.entries) following).incoming := by
    funext id
    rw [describe, describe, Links.getD_get?_incoming_eq_of_perm graphs]
  simp only [ofCorpus, reached, cycles, sorted, exempt, described, perm.length_eq]

/-- Reordering the declared scenes, the loaded ones, and the choices and effects inside them
changes nothing in the document of a report, its cycles and where they begin included. -/
theorem documentMembers_ofCorpus_of_reordered (declaredOnce : (Table.keys index.entries).Nodup)
    (loadedOnce : (Table.keys scenes).Nodup) (perm : index.entries.Perm other.entries)
    (reordered : ScenesReordered scenes others) (start : Option String) (limit : Int)
    (following : Following) :
    (ofCorpus index start scenes limit following).documentMembers =
      (ofCorpus other start others limit following).documentMembers := by
  rw [ofCorpus_eq_of_reordered declaredOnce loadedOnce perm reordered]

/-- An index whose scenes go around in two ways. -/
def hallIndex : SceneIndex :=
  { entries := [("hall", .object []), ("cellar", .object []), ("attic", .object []),
      ("well", .object [("unreachable", .bool true)]), ("roof", .object [])]
    seeded := .empty
    keyMismatches := [] }

/-- Scenes with several choices and several effects. -/
def hallScenes : Table Json :=
  [("hall", .object [
      ("effects", .list [.object [("type", .text "goto"), ("sceneId", .text "attic")],
        .object [("type", .text "goto"), ("sceneId", .text "cellar")]]),
      ("choices", .list [.object [("to", .text "cellar")]])]),
    ("cellar", .object [("choices", .list [.object [("to", .text "hall")]])]),
    ("attic", .object [("choices", .list [.object [("to", .text "cellar")],
      .object [("to", .text "hall"), ("effects", .list [.null, .text "none"])]])])]

/-- The same scenes with another one first, and their lists turned around. -/
def turnedHallScenes : Table Json :=
  [("cellar", .object [("choices", .list [.object [("to", .text "hall")]])]),
    ("hall", .object [
      ("effects", .list [.object [("type", .text "goto"), ("sceneId", .text "cellar")],
        .object [("type", .text "goto"), ("sceneId", .text "attic")]]),
      ("choices", .list [.object [("to", .text "cellar")]])]),
    ("attic", .object [("choices", .list [
      .object [("to", .text "hall"), ("effects", .list [.text "none", .null])],
      .object [("to", .text "cellar")]])])]

/-- The turned scenes are the same ones in another order. -/
theorem scenesReordered_hall : ScenesReordered hallScenes turnedHallScenes := by
  refine ⟨_, .swap _ _ _, .cons ⟨rfl, .same _⟩ (.cons ⟨rfl, ?_⟩ (.cons ⟨rfl, ?_⟩ .nil))⟩
  · -- The effects of the hall change places.
    exact .object (.cons (.move (.inr rfl) (.swap _ _ _) (.cons (.same _) (.cons (.same _) .nil)))
      (.cons (.keep _ (.same _)) .nil))
  · -- The choices of the attic change places, and so do the effects of one of them.
    exact .object (.cons (.move (.inl rfl) (.swap _ _ _) (.cons
      (.object (.cons (.keep _ (.same _)) (.cons (.move (.inr rfl) (.swap _ _ _)
        (.cons (.same _) (.cons (.same _) .nil))) .nil)))
      (.cons (.same _) .nil))) .nil)

/-- The hall gives one report, whichever way it is written. -/
theorem documentMembers_ofCorpus_hall :
    (Table.keys hallIndex.entries).Nodup ∧ (Table.keys hallScenes).Nodup ∧
      ScenesReordered hallScenes turnedHallScenes ∧
      (ofCorpus hallIndex (some "hall") hallScenes 2 .everything).documentMembers =
        (ofCorpus { hallIndex with entries := hallIndex.entries.reverse } (some "hall")
          turnedHallScenes 2 .everything).documentMembers :=
  ⟨by decide, by decide, scenesReordered_hall,
    documentMembers_ofCorpus_of_reordered (by decide) (by decide)
      (List.reverse_perm hallIndex.entries).symm scenesReordered_hall (some "hall") 2 .everything⟩

end Reachability

end Gamebook
