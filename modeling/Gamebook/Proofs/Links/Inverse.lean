import Gamebook.Proofs.Links

/-! Turning a graph around: every link from one scene to another becomes a link back, and turning
around twice gives these links again, in order and each once. -/

namespace Gamebook

namespace Links

section Sources

variable {table : Table IdSet} {source target : String}

/-- A table of sources has no key twice, and at least one source under each key. -/
structure Sourced (table : Table IdSet) : Prop where
  distinct : (Table.keys table).Nodup
  inhabited : ∀ target sources, Table.get? target table = some sources → ∃ source, source ∈ sources

/-- Adding a source under a key keeps a table of sources. -/
theorem Sourced.put_insert (sourced : Sourced table) (sources : IdSet) :
    Sourced (Table.put target (sources.insert source) table) where
  distinct := Table.nodup_keys_put sourced.distinct
  inhabited := by
    intro other found stored
    -- The set that is put has the source in it, and the others are as before.
    rw [Table.get?_put] at stored
    split at stored
    · cases stored
      exact ⟨source, IdSet.mem_insert.2 (.inl rfl)⟩
    · exact sourced.inhabited other found stored

/-- Inverting the links of a node keeps a table of sources. -/
theorem Sourced.invertNode (sourced : Sourced table) (targets : List String) :
    Sourced (invertNode table source targets) := by
  refine List.foldlRecOn targets _ sourced ?_
  intro table sourced target _
  -- A link of a scene to itself is left out, and any other one adds a source.
  split
  · exact sourced
  · exact sourced.put_insert _

/-- The sources of a graph are a table of sources. -/
theorem sourced_incoming (links : Links) : Sourced links.incoming := by
  rw [incoming_eq_foldl]
  -- Each node that is inverted keeps the property, which the empty table has.
  refine List.foldlRecOn links _ ⟨List.nodup_nil, by simp [Table.get?]⟩ ?_
  intro table sourced node _
  exact sourced.invertNode node.2

end Sources

/-- A graph is the table of a relation: its nodes are the scenes that are related to any, each once,
and under each of them are the scenes that it is related to, at least one, in strict order. -/
structure Tabulates (table : Links) (leads : String → String → Prop) : Prop where
  distinct : (Table.keys table).Nodup
  mem_keys : ∀ a, a ∈ Table.keys table ↔ ∃ b, leads a b
  nonempty : ∀ a targets, Table.get? a table = some targets → targets ≠ []
  increasing : ∀ a targets, Table.get? a table = some targets → targets.Pairwise (· < ·)
  mem_targets : ∀ a targets, Table.get? a table = some targets → ∀ b, b ∈ targets ↔ leads a b

variable {links table : Links} {leads others : String → String → Prop}

/-- The links of a table are the relation that it tabulates. -/
theorem Tabulates.leadsTo_iff (tabulates : Tabulates table leads) {a b : String} :
    table.LeadsTo a b ↔ leads a b := by
  rw [LeadsTo, successors]
  cases found : Table.get? a table with
  | some targets => exact tabulates.mem_targets a targets found b
  | none =>
    -- Only a node is related to any scene.
    have absent := Table.get?_eq_none_iff.1 found
    constructor
    · intro member
      cases member
    · intro leads
      exact absurd ((tabulates.mem_keys a).2 ⟨b, leads⟩) absent

/-- A table of a relation is one of every relation that is the same. -/
theorem Tabulates.congr (tabulates : Tabulates table leads) (same : ∀ a b, leads a b ↔ others a b) :
    Tabulates table others := by
  -- Relations that hold of the same scenes are one relation.
  have equal : leads = others := by
    funext a b
    exact propext (same a b)
  exact equal ▸ tabulates

/-- What a graph that is turned around has under a scene. -/
theorem get?_inverse (target : String) :
    Table.get? target links.inverse = (Table.get? target links.incoming).map IdSet.ids :=
  Table.get?_map IdSet.ids target links.incoming

/-- A graph that is turned around tabulates its links the other way, but for those from a scene to
itself. -/
theorem tabulates_inverse (distinct : (Table.keys links).Nodup) :
    Tabulates links.inverse fun target source => source ≠ target ∧ links.LeadsTo source target := by
  have sourced := sourced_incoming links
  -- The sets of the inverse hold just the sources that link to their target from elsewhere.
  have sources : ∀ target set, Table.get? target links.incoming = some set → ∀ source,
      source ∈ set ↔ source ≠ target ∧ links.LeadsTo source target := by
    intro target set found source
    have whole : source ∈ (Table.get? target links.incoming).getD .empty ↔ _ :=
      mem_incoming_iff
    rw [found, ← leadsTo_iff distinct] at whole
    exact whole
  have keys : Table.keys links.inverse = Table.keys links.incoming := by
    simp [Table.keys, inverse]
  constructor
  case distinct => exact keys ▸ sourced.distinct
  case mem_keys =>
    intro target
    rw [keys, Table.mem_keys_iff]
    constructor
    · rintro ⟨set, found⟩
      obtain ⟨source, member⟩ := sourced.inhabited target set found
      exact ⟨source, (sources target set found source).1 member⟩
    · rintro ⟨source, apart, leads⟩
      cases found : Table.get? target links.incoming with
      | some set => exact ⟨set, rfl⟩
      | none =>
        have member := mem_incoming_iff.2 ⟨apart, (leadsTo_iff distinct).1 leads⟩
        rw [found] at member
        exact absurd member IdSet.not_mem_empty
  all_goals
    intro target ids stored
    rw [get?_inverse, Option.map_eq_some_iff] at stored
    obtain ⟨set, found, rfl⟩ := stored
  case nonempty =>
    obtain ⟨source, member⟩ := sourced.inhabited target set found
    exact List.ne_nil_of_mem member
  case increasing => exact set.increasing
  case mem_targets => exact sources target set found

/-- Turning a graph around is exact: under each scene that another one leads to it has all of these
in strict order, and nothing else. Turning it around twice gives, for each scene that leads to
another one, all of those that it leads to, once each and in strict order, and nothing else. -/
theorem inverse_and_back (distinct : (Table.keys links).Nodup) :
    (Tabulates links.inverse fun target source =>
      source ≠ target ∧ links.LeadsTo source target) ∧
    Tabulates links.inverse.inverse fun source target =>
      target ≠ source ∧ links.LeadsTo source target := by
  have once := tabulates_inverse distinct
  refine ⟨once, (tabulates_inverse once.distinct).congr ?_⟩
  -- Turned around twice, a link leads where it led, unless it leads to its own scene.
  intro source target
  rw [once.leadsTo_iff]
  constructor
  · rintro ⟨apart, -, leads⟩
    exact ⟨apart, leads⟩
  · rintro ⟨apart, leads⟩
    exact ⟨apart, apart.symm, leads⟩

/-- A graph with links from scenes to themselves, links that are written twice, and a link to a
scene that is no node. -/
theorem inverse_and_back_mirror :
    let links : Links :=
      [("b", ["b", "ghost", "a", "ghost"]), ("d", ["d"]), ("c", ["a", "c"]), ("a", ["b"])]
    (Table.keys links).Nodup ∧
      links.inverse = [("ghost", ["b"]), ("a", ["b", "c"]), ("b", ["a"])] ∧
      links.inverse.inverse = [("b", ["a", "ghost"]), ("c", ["a"]), ("a", ["b"])] ∧
      (Tabulates links.inverse fun target source =>
        source ≠ target ∧ links.LeadsTo source target) ∧
      Tabulates links.inverse.inverse fun source target =>
        target ≠ source ∧ links.LeadsTo source target := by
  intro links
  -- A scene linking to itself is dropped on the way, and order is by first mention.
  have distinct : (Table.keys links).Nodup := by decide
  exact ⟨distinct, by decide +kernel, by decide +kernel, inverse_and_back distinct⟩

end Links

end Gamebook
