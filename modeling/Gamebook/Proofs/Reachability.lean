import Gamebook.Proofs.Links.Search
import Gamebook.Proofs.Reference
import Gamebook.Proofs.SceneIndex
import Gamebook.Reachability

/-! A reachability report sorts every declared scene exactly: reached, exempt, or unreachable. -/

namespace Gamebook

/-- Some chain of fewer transitions than a limit leads from a named start to a scene. -/
def LeadsWithin (scenes : Table Json) (following : Following) (start : Option String) (limit : Int)
    (id : String) : Prop :=
  ∃ first, start = some first ∧ first ≠ "" ∧
    ∃ length : Nat, (length : Int) < limit ∧ Walk (Refers scenes following) first length id

namespace Reachability

/-- What the report of a scene that is not reached says about its links. -/
structure TellsLinks (scenes : Table Json) (following : Following) (scene : UnreachableScene) :
    Prop where
  -- The sources are the other loaded scenes that refer to it, in strict order.
  increasing : scene.sources.Pairwise (· < ·)
  sources : ∀ id, id ∈ scene.sources ↔ id ≠ scene.id ∧ Refers scenes following id scene.id
  reason : scene.reason = .noIncomingLinks ↔ scene.sources = []

/-- What an exact report on the declared scenes of a corpus says. -/
structure IsExact (index : SceneIndex) (start : Option String) (scenes : Table Json) (limit : Int)
    (following : Following) (report : Reachability) : Prop where
  -- A declared scene is in exactly one of three lists.
  partition : ∀ id ∈ Table.keys index.entries,
    (id ∈ report.reachable ∧ id ∉ report.exempt ∧ id ∉ report.unreachable.map (·.id)) ∨
    (id ∉ report.reachable ∧ id ∈ report.exempt ∧ id ∉ report.unreachable.map (·.id)) ∨
    (id ∉ report.reachable ∧ id ∉ report.exempt ∧ id ∈ report.unreachable.map (·.id))
  -- Two of the lists hold nothing but declared scenes.
  declared : ∀ id, id ∈ report.exempt ∨ id ∈ report.unreachable.map (·.id) →
    id ∈ Table.keys index.entries
  reached : ∀ id ∈ Table.keys index.entries,
    id ∈ report.reachable ↔ LeadsWithin scenes following start limit id
  exempted : ∀ id ∈ Table.keys index.entries, id ∉ report.reachable →
    (id ∈ report.exempt ↔ ∃ entry, Table.get? id index.entries = some entry ∧ Exempts entry)
  exemptIncreasing : report.exempt.Pairwise (· < ·)
  unreachableIncreasing : (report.unreachable.map (·.id)).Pairwise (· < ·)
  links : ∀ scene ∈ report.unreachable, TellsLinks scenes following scene
  valid : report.isValid = true ↔
    (∃ first, start = some first ∧ first ≠ "") ∧ report.unreachable = []

variable {index : SceneIndex} {start : Option String} {scenes : Table Json} {limit : Int}
  {following : Following}

/-- A report reaches a scene exactly when a short enough chain of transitions leads to it. -/
theorem mem_reachable_ofCorpus {id : String} (loadedOnce : (Table.keys scenes).Nodup) :
    id ∈ (ofCorpus index start scenes limit following).reachable ↔
      LeadsWithin scenes following start limit id := by
  -- The links of the graph are the references of the loaded documents, so the walks agree.
  have forth : ∀ a b, (Links.ofScenes scenes (Table.keys index.entries) following).LeadsTo a b →
      Refers scenes following a b := fun _ _ => (Links.leadsTo_ofScenes_iff loadedOnce).1
  have back : ∀ a b, Refers scenes following a b →
      (Links.ofScenes scenes (Table.keys index.entries) following).LeadsTo a b :=
    fun _ _ => (Links.leadsTo_ofScenes_iff loadedOnce).2
  rw [ofCorpus, Links.mem_reachable, LeadsWithin]
  constructor
  · rintro ⟨first, named, nonempty, length, short, walk⟩
    exact ⟨first, named, nonempty, length, short, walk.mono forth⟩
  · rintro ⟨first, named, nonempty, length, short, walk⟩
    exact ⟨first, named, nonempty, length, short, walk.mono back⟩

/-- The exempt scenes of a report are declared, not reached, and exempt by the index. -/
theorem mem_exempt_ofCorpus {id : String} :
    id ∈ (ofCorpus index start scenes limit following).exempt ↔
      id ∈ Table.keys index.entries ∧
        id ∉ (ofCorpus index start scenes limit following).reachable ∧
          index.isExempt id = true := by
  simp only [ofCorpus, List.mem_filter, mem_sortIds, Bool.not_eq_true', Bool.eq_false_iff, ne_eq,
    IdSet.contains_iff, and_assoc]

/-- The identifiers that a report calls unreachable are those it examines and describes. -/
theorem map_id_unreachable_ofCorpus :
    (ofCorpus index start scenes limit following).unreachable.map (·.id) =
      ((sortIds (Table.keys index.entries)).filter fun id =>
        !(ofCorpus index start scenes limit following).reachable.contains id).filter
          fun id => !index.isExempt id := by
  simp only [ofCorpus, List.map_map]
  exact List.map_id _

/-- The unreachable scenes of a report are declared, not reached, and not exempt. -/
theorem mem_unreachable_ofCorpus {id : String} :
    id ∈ (ofCorpus index start scenes limit following).unreachable.map (·.id) ↔
      id ∈ Table.keys index.entries ∧
        id ∉ (ofCorpus index start scenes limit following).reachable ∧
          ¬ index.isExempt id = true := by
  -- The listed ids are the index's keys in order, less the reached and the exempt ones.
  rw [map_id_unreachable_ofCorpus]
  simp only [List.mem_filter, mem_sortIds, Bool.not_eq_true', Bool.eq_false_iff, ne_eq,
    IdSet.contains_iff, and_assoc]

/-- The description of a scene lists the loaded scenes that refer to it, and its reason fits. -/
theorem tellsLinks_describe {nodes : List String} (loadedOnce : (Table.keys scenes).Nodup)
    (id : String) :
    TellsLinks scenes following (describe (Links.ofScenes scenes nodes following).incoming id) where
  increasing := IdSet.increasing _
  sources := by
    intro other
    -- Sources are what links to the scene from elsewhere.
    rw [← Links.leadsTo_ofScenes_iff loadedOnce, Links.leadsTo_iff Links.nodup_keys_ofScenes]
    exact Links.mem_incoming_iff
  reason := by
    simp only [describe, List.isEmpty_iff]
    -- The reason depends on whether there are any.
    split
    · next none => simp [none]
    · next some => simp [some]

/-- What a report says about the links of an unreachable scene is the case. -/
theorem tellsLinks_of_mem_unreachable {scene : UnreachableScene}
    (loadedOnce : (Table.keys scenes).Nodup)
    (listed : scene ∈ (ofCorpus index start scenes limit following).unreachable) :
    TellsLinks scenes following scene := by
  simp only [ofCorpus, List.mem_map] at listed
  -- Every entry of the list is the description of some id.
  obtain ⟨id, -, rfl⟩ := listed
  exact tellsLinks_describe loadedOnce id

/-- A report on the scenes of a corpus is exact. -/
theorem ofCorpus_isExact (declaredOnce : (Table.keys index.entries).Nodup)
    (loadedOnce : (Table.keys scenes).Nodup) :
    IsExact index start scenes limit following (ofCorpus index start scenes limit following) where
  partition := by
    intro id declared
    rw [mem_exempt_ofCorpus, mem_unreachable_ofCorpus]
    -- A declared scene is reached, or else exempt, or else missed.
    by_cases reached : id ∈ (ofCorpus index start scenes limit following).reachable
    · exact .inl ⟨reached, fun exempt => exempt.2.1 reached, fun missed => missed.2.1 reached⟩
    · by_cases exempt : index.isExempt id = true
      · exact .inr (.inl ⟨reached, ⟨declared, reached, exempt⟩, fun missed => missed.2.2 exempt⟩)
      · exact .inr (.inr ⟨reached, fun found => exempt found.2.2, declared, reached, exempt⟩)
  declared := by
    intro id listed
    rw [mem_exempt_ofCorpus, mem_unreachable_ofCorpus] at listed
    exact listed.elim And.left And.left
  reached := fun _ _ => mem_reachable_ofCorpus loadedOnce
  exempted := by
    intro id declared missed
    rw [mem_exempt_ofCorpus, SceneIndex.isExempt_iff]
    exact ⟨fun listed => listed.2.2, fun exempt => ⟨declared, missed, exempt⟩⟩
  exemptIncreasing := ((increasing_sortIds declaredOnce).filter _).filter _
  unreachableIncreasing := by
    rw [map_id_unreachable_ofCorpus]
    exact ((increasing_sortIds declaredOnce).filter _).filter _
  links := fun _ => tellsLinks_of_mem_unreachable loadedOnce
  valid := by
    have named : (start.filter (· ≠ "")).isSome = true ↔
        ∃ first, start = some first ∧ first ≠ "" := by
      cases start <;> simp [Option.filter]
    rw [isValid, Bool.and_eq_true, List.isEmpty_iff, ← named]
    exact Iff.rfl

/-- An index in which one scene is exempt and two are not linked from the start. -/
def forkIndex : SceneIndex :=
  { entries := [("start", .object []), ("orphan", .object []), ("next", .object []),
      ("hidden", .object [("unreachable", .bool true)]), ("lost", .object [])]
    seeded := .empty
    keyMismatches := [] }

/-- Scenes with a cycle, a link to nowhere, and a scene that only links to itself and beyond. -/
def forkScenes : Table Json :=
  [("start", .object [("choices", .list [.object [("to", .text "next")]])]),
    ("next", .object [("effects", .object [("type", .text "goto"), ("sceneId", .text "start")]),
      ("choices", .list [.object [("to", .text "nowhere")]])]),
    ("lost", .object [("choices", .list [.object [("to", .text "lost")],
      .object [("to", .text "orphan")]])])]

/-- The report on the fork is exact. -/
theorem ofCorpus_isExact_fork :
    (Table.keys forkIndex.entries).Nodup ∧ (Table.keys forkScenes).Nodup ∧
      IsExact forkIndex (some "start") forkScenes 2 .everything
        (ofCorpus forkIndex (some "start") forkScenes 2 .everything) :=
  ⟨by decide, by decide, ofCorpus_isExact (by decide) (by decide)⟩

end Reachability

end Gamebook
