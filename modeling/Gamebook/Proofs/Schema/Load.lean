import Gamebook.Proofs.Schema.Standard

/-! When loading the schemas of a run ends the run, instead of finding that it cannot start. -/

namespace Gamebook.Schema.Registry

variable {disk : Disk} {content : Path} {schemas : Option Path} {name : String} {standard : Json}

/-- A run has a schema of its own for the documents of a name, of which a file writes the members.
-/
def Writes (disk : Disk) (content : Path) (schemas : Option Path) (name : String)
    (members : List (String × Json)) : Prop :=
  ∃ path bytes, source disk content schemas name = .file path ∧
    disk.contents? path = some (.bytes bytes) ∧ Document.ofBytes bytes = .ok (.object members)

/-- The schemas that a run has of its own are plain, unless they name their drafts by what is no
address of one. -/
def ArePlain (disk : Disk) (content : Path) (schemas : Option Path) : Prop :=
  ∀ name ∈ Table.keys standards, ∀ members, Writes disk content schemas name members →
    NamesNoDraft members ∨ IsPlain (.object members)

/-- Schemas that a run has of its own are plain where each is a copy of a standard one. -/
theorem arePlain_of_standard
    (copied : ∀ name ∈ Table.keys standards, ∀ members, Writes disk content schemas name members →
      ∃ entry ∈ standards, entry.2 = .object members) : ArePlain disk content schemas := by
  intro name listed members written
  -- Where a schema is read from does not matter to what it says.
  obtain ⟨entry, standard, same⟩ := copied name listed members written
  exact .inr (same ▸ Standard.isPlain_of_mem_standards standard)

/-- A standard schema loads as it is written. -/
theorem loadOne_of_standard {path : Path} (listed : (name, standard) ∈ standards)
    (bundled : source disk content schemas name = .standard path) :
    loadOne disk content schemas name standard = .ok (path, ⟨.draft7, standard⟩) := by
  -- A standard schema is known to fit the schema of schemas.
  have used : Compiled.ofJson standard = .ok ⟨.draft7, standard⟩ :=
    Standard.ofJson_of_mem_standards listed
  rw [loadOne, bundled]
  simp [compile, used, Bind.bind, Except.bind, pure, Except.pure]

/-- A traversal that may fail does so at the first item at which its function fails. -/
theorem mapM_eq_error_iff {α β ε : Type} {function : α → Except ε β} {items : List α} {error : ε} :
    items.mapM function = .error error ↔ ∃ before item after, items = before ++ item :: after ∧
      (∀ earlier ∈ before, ∃ result, function earlier = .ok result) ∧
        function item = .error error := by
  -- The induction is on the items: either the first one fails, or the failure is further on.
  induction items with
  | nil => simp [pure, Except.pure]
  | cons first rest ih =>
    rw [List.mapM_cons]
    cases applied : function first with
    | error cause =>
      simp only [Bind.bind, Except.bind, Except.error.injEq]
      constructor
      · rintro rfl
        exact ⟨[], first, rest, rfl, nofun, applied⟩
      · rintro ⟨before, item, after, split, earlier, failed⟩
        -- The function fails at the first item, so no item comes before the one that fails.
        cases before with
        | nil =>
          cases split
          exact Except.error.inj (applied.symm.trans failed)
        | cons head tail =>
          cases split
          obtain ⟨result, ok⟩ := earlier _ List.mem_cons_self
          cases applied.symm.trans ok
    | ok result =>
      have later : (do let results ← rest.mapM function; pure (result :: results)) =
          .error error ↔ rest.mapM function = .error error := by
        cases rest.mapM function <;> simp [Bind.bind, Except.bind, pure, Except.pure]
      simp only [Bind.bind, Except.bind] at later ⊢
      rw [later, ih]
      constructor
      · rintro ⟨before, item, after, rfl, earlier, failed⟩
        refine ⟨first :: before, item, after, rfl, ?_, failed⟩
        rw [List.forall_mem_cons]
        exact ⟨⟨result, applied⟩, earlier⟩
      · rintro ⟨before, item, after, split, earlier, failed⟩
        cases before with
        | nil =>
          cases split
          cases applied.symm.trans failed
        | cons head tail =>
          cases split
          exact ⟨tail, item, after, rfl, fun other member =>
            earlier other (List.mem_cons_of_mem _ member), failed⟩

/-- The schemas of a run without schemas of its own load. -/
theorem exists_load_of_isStandard (isStandard : IsStandard disk content schemas) :
    ∃ loaded, load disk content schemas = .ok loaded := by
  cases loading : load disk content schemas with
  | ok loaded => exact ⟨loaded, rfl⟩
  | error fault =>
    -- Loading fails where one of the standard schemas does, and none of them does.
    obtain ⟨before, ⟨name, standard⟩, after, split, -, failed⟩ := mapM_eq_error_iff.1 loading
    have listed : (name, standard) ∈ standards := by simp [split]
    have bundled := source_of_isStandard isStandard (List.mem_map_of_mem listed)
    dsimp only at failed
    rw [loadOne_of_standard listed bundled] at failed
    cases failed

end Gamebook.Schema.Registry
