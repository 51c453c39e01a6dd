import Gamebook.Links
import Gamebook.Proofs.IdSet
import Gamebook.Proofs.Table

/-! Laws of the graph of transitions: which links loaded scenes give, and their inversion. -/

namespace Gamebook

/-- The scenes that a number of steps of a relation leads to from a start. -/
inductive Walk (leads : String → String → Prop) (start : String) : Nat → String → Prop where
  | rest : Walk leads start 0 start
  | step {length : Nat} {a b : String} (before : Walk leads start length a) (last : leads a b) :
    Walk leads start (length + 1) b

/-- A walk along one relation is a walk along every relation that has the same steps. -/
theorem Walk.mono {leads others : String → String → Prop} {start : String}
    (kept : ∀ a b, leads a b → others a b) {length : Nat} {id : String}
    (walk : Walk leads start length id) : Walk others start length id := by
  -- The same steps are there in the wider relation.
  induction walk with
  | rest => exact .rest
  | step _ last ih => exact ih.step (kept _ _ last)

/-- The document loaded for one scene refers to another one. -/
def Refers (scenes : Table Json) (following : Following) (a b : String) : Prop :=
  ∃ document, Table.get? a scenes = some document ∧ b ∈ sceneReferences following document

namespace Links

/-- A graph has a link from one scene to another. -/
def LeadsTo (links : Links) (a b : String) : Prop := b ∈ links.successors a

/-- A link is written at the node where it begins. -/
theorem exists_of_leadsTo {links : Links} {a b : String} (leads : links.LeadsTo a b) :
    ∃ targets, (a, targets) ∈ links ∧ b ∈ targets := by
  rw [LeadsTo, successors] at leads
  -- A scene without successors listed leads nowhere.
  cases found : Table.get? a links with
  | none => simp [found] at leads
  | some targets =>
    rw [found] at leads
    exact ⟨targets, Table.mem_of_get? found, leads⟩

/-- Only a node of a graph leads on. -/
theorem mem_keys_of_leadsTo {links : Links} {a b : String} (leads : links.LeadsTo a b) :
    a ∈ Table.keys links := by
  obtain ⟨targets, listed, -⟩ := exists_of_leadsTo leads
  exact List.mem_map_of_mem listed

/-- Where no node occurs twice, the links are those written at the nodes. -/
theorem leadsTo_iff {links : Links} {a b : String} (distinct : (Table.keys links).Nodup) :
    links.LeadsTo a b ↔ ∃ targets, (a, targets) ∈ links ∧ b ∈ targets := by
  constructor
  · exact exists_of_leadsTo
  · rintro ⟨targets, member, target⟩
    -- Under a key that stands once, the list that is there is the one that is found.
    rw [LeadsTo, successors, Table.get?_of_mem distinct member]
    exact target

section OfScenes

variable {scenes : Table Json} {nodes : List String} {following : Following}

/-- The graph of loaded scenes has no node twice. -/
theorem nodup_keys_ofScenes : (Table.keys (ofScenes scenes nodes following)).Nodup :=
  Table.nodup_keys_foldl_put (fun scene => (sceneReferences following scene).ids)
    (Table.nodup_keys_ofEntries _)

/-- A node of the graph of loaded scenes leads where its document refers to; a further node that
no scene is loaded for leads nowhere. -/
theorem get?_ofScenes (distinct : (Table.keys scenes).Nodup) (id : String) :
    Table.get? id (ofScenes scenes nodes following) =
      ((Table.get? id scenes).map fun scene => (sceneReferences following scene).ids).or
        (if id ∈ nodes then some [] else none) := by
  -- Scenes are put over the nodes, where each node has an empty list.
  have stored := Table.get?_foldl_put (fun scene => (sceneReferences following scene).ids) id scenes
    (Table.ofEntries (nodes.map (·, ([] : List String))))
  rw [Table.get?_reverse distinct, Table.get?_ofEntries, ← List.map_reverse,
    Table.get?_map_pair] at stored
  simp only [List.mem_reverse] at stored
  exact stored

/-- The links of the graph of loaded scenes are what their documents refer to. -/
theorem leadsTo_ofScenes_iff {a b : String} (distinct : (Table.keys scenes).Nodup) :
    (ofScenes scenes nodes following).LeadsTo a b ↔ Refers scenes following a b := by
  rw [LeadsTo, successors, Refers, get?_ofScenes distinct]
  -- A node without a document leads nowhere.
  cases Table.get? a scenes with
  | none => by_cases further : a ∈ nodes <;> simp [further]
  | some document => simp [IdSet.mem_def]

end OfScenes

section Incoming

/-- A table of sources with the links of one node inverted into it. -/
def invertNode (table : Table IdSet) (source : String) (targets : List String) : Table IdSet :=
  targets.foldl (fun table target =>
    if target = source then table
    else Table.put target (((Table.get? target table).getD .empty).insert source) table) table

/-- The inversion of a graph inverts its nodes one after another. -/
theorem incoming_eq_foldl (links : Links) :
    links.incoming = links.foldl (fun table node => invertNode table node.1 node.2) [] := rfl

/-- Inverting the links of a node makes it a source of its targets, itself apart. -/
theorem mem_invertNode_iff {source target id : String} {targets : List String}
    {table : Table IdSet} :
    id ∈ (Table.get? target (invertNode table source targets)).getD .empty ↔
      id ∈ (Table.get? target table).getD .empty ∨
        id = source ∧ target ∈ targets ∧ target ≠ source := by
  rw [invertNode]
  induction targets generalizing table with
  | nil => simp
  | cons first rest ih =>
    rw [List.foldl_cons, ih]
    by_cases own : first = source
    · -- A link of a scene to itself is left out.
      subst own
      simp only [if_true, List.mem_cons]
      grind
    · rw [if_neg own, Table.get?_put]
      by_cases here : first = target
      · subst here
        simp only [if_true, Option.getD_some, IdSet.mem_insert, List.mem_cons]
        grind
      · simp only [if_neg here, List.mem_cons]
        grind

/-- The sources of a scene are the other scenes with a link to it. -/
theorem mem_incoming_iff {links : Links} {target id : String} :
    id ∈ (Table.get? target links.incoming).getD .empty ↔
      id ≠ target ∧ ∃ targets, (id, targets) ∈ links ∧ target ∈ targets := by
  -- For any table to start from, since the nodes are inverted one after another.
  have general : ∀ table : Table IdSet,
      id ∈ (Table.get? target
          (links.foldl (fun table node => invertNode table node.1 node.2) table)).getD .empty ↔
        id ∈ (Table.get? target table).getD .empty ∨
          id ≠ target ∧ ∃ targets, (id, targets) ∈ links ∧ target ∈ targets := by
    induction links with
    | nil => simp
    | cons node rest ih =>
      intro table
      obtain ⟨source, targets⟩ := node
      rw [List.foldl_cons, ih, mem_invertNode_iff]
      simp only [List.mem_cons, Prod.mk.injEq]
      grind
  rw [incoming_eq_foldl, general]
  simp [Table.get?]

end Incoming

end Links

end Gamebook
