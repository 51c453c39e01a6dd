import Gamebook.CrossReference
import Gamebook.Proofs.IdSet
import Gamebook.Proofs.SceneIndex

/-! The cross reference of a corpus, by the members of its three sets. -/

namespace Gamebook.CrossReference

variable {declared : Table Json} {loaded : List String} {references : List IdSet} {seeded : IdSet}
  {id : String}

/-- The referenced scenes are the seeds and what some document refers to. -/
theorem mem_referenced_iff :
    id ∈ (ofCorpus declared loaded references seeded).referenced ↔
      id ∈ seeded ∨ ∃ set ∈ references, id ∈ set :=
  IdSet.mem_foldl_union

/-- The missing scenes are referenced, and neither declared nor loaded. -/
theorem mem_missing_iff :
    id ∈ (ofCorpus declared loaded references seeded).missing ↔
      id ∈ (ofCorpus declared loaded references seeded).referenced ∧
        id ∉ Table.keys declared ∧ id ∉ loaded := by
  simp [ofCorpus, ← Table.has_iff]

/-- The unreachable scenes are declared and not exempt, and nothing refers to them. -/
theorem mem_unreachable_iff (distinct : (Table.keys declared).Nodup) :
    id ∈ (ofCorpus declared loaded references seeded).unreachable ↔
      id ∉ (ofCorpus declared loaded references seeded).referenced ∧
        ∃ entry, Table.get? id declared = some entry ∧ ¬ Exempts entry := by
  simp only [ofCorpus, IdSet.mem_ofList, List.mem_map, List.mem_filter, Bool.and_eq_true,
    Bool.not_eq_true', Bool.eq_false_iff, ne_eq, IdSet.contains_iff, SceneIndex.exempts_iff]
  -- An entry is found under its key because no key is declared twice.
  constructor
  · rintro ⟨⟨_, entry⟩, ⟨member, unreferenced, obliged⟩, rfl⟩
    exact ⟨unreferenced, entry, Table.get?_of_mem distinct member, obliged⟩
  · rintro ⟨unreferenced, entry, found, obliged⟩
    exact ⟨(id, entry), ⟨Table.mem_of_get? found, unreferenced, obliged⟩, rfl⟩

end Gamebook.CrossReference
