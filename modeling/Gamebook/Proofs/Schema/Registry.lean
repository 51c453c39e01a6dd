import Gamebook.Proofs.Table
import Gamebook.Schema.Registry

/-! Which schema a run judges a document by. -/

namespace Gamebook

namespace Schema

variable {schema : Json} {compiled : Compiled}

/-- A schema that can be used is used as it is written, by the draft that it names. -/
theorem Compiled.of_ofJson (used : Compiled.ofJson schema = .ok compiled) :
    Compiled.draftOf schema = .ok compiled.draft ∧ compiled.schema = schema := by
  rw [Compiled.ofJson] at used
  obtain ⟨draft, named, used⟩ := bind_eq_ok_iff.1 used
  -- Only a schema without a violation and without an obstacle is used.
  dsimp only at used
  split at used
  · cases used
  · cases used
  · cases used
    exact ⟨named, rfl⟩

namespace Registry

variable {disk : Disk} {content : Path} {schemas : Option Path} {name : String} {standard : Json}

/-- A schema that is compiled is used as it is written. -/
theorem ofJson_of_compile {path : Path} (compiles : compile name path schema = .ok compiled) :
    Compiled.ofJson schema = .ok compiled := by
  rw [compile] at compiles
  -- A schema that is refused is not compiled.
  cases used : Compiled.ofJson schema with
  | ok found =>
    rw [used] at compiles
    cases compiles
    rfl
  | error fault => cases fault <;> simp [used] at compiles

/-- Loading the schemas of a run loads the one for each kind of document. -/
theorem get?_of_load {loaded : Table (Path × Compiled)}
    (loading : load disk content schemas = .ok loaded)
    (listed : Table.get? name standards = some standard) :
    ∃ one, Table.get? name loaded = some one ∧
      loadOne disk content schemas name standard = .ok one := by
  -- The loaded schemas stand under the names of the standard ones.
  refine Table.get?_of_mapM ?_ loading listed
  intro name standard entry result
  obtain ⟨one, loads, given⟩ := bind_eq_ok_iff.1 result
  cases given
  exact ⟨one, loads, rfl⟩

/-- A registry checks by the schemas that were loaded. -/
theorem check?_ofLoaded {loaded : Table (Path × Compiled)} {document : Json} :
    (ofLoaded loaded).check? name document =
      (Table.get? name loaded).map fun one => one.2.check document := by
  -- The registry has the loaded schemas without their paths.
  have entry := Table.get?_map (fun one : Path × Compiled => one.2) name loaded
  rw [check?, ofLoaded, entry, Option.map_map]
  rfl

/-- No schema of a run is taken from a file: no directory of schemas is given, and the content has
none of its own. -/
def IsStandard (disk : Disk) (content : Path) (schemas : Option Path) : Prop :=
  schemas = none ∧ ∀ name ∈ Table.keys standards,
    disk.isFile ((content.child "schemas").join (.ofText (fileName name))) = false

/-- A run without schemas of its own takes each schema from the standards. -/
theorem source_of_isStandard (isStandard : IsStandard disk content schemas)
    (listed : name ∈ Table.keys standards) :
    source disk content schemas name =
      .standard (standardDirectory.join (.ofText (fileName name))) := by
  obtain ⟨rfl, absent⟩ := isStandard
  have missing := absent name listed
  -- Neither a given directory nor the content holds the schema.
  unfold source
  simp [missing]

/-- A run with the standard schema for a document judges the document by that. -/
theorem check?_of_source {loaded : Table (Path × Compiled)} {draft : Draft} {path : Path}
    (bundled : source disk content schemas name = .standard path)
    (loading : load disk content schemas = .ok loaded)
    (listed : Table.get? name standards = some standard)
    (drafted : Compiled.draftOf standard = .ok draft) (document : Json) :
    (ofLoaded loaded).check? name document = some (check draft standard document) := by
  obtain ⟨⟨path, compiled⟩, found, loads⟩ := get?_of_load loading listed
  rw [loadOne, bundled] at loads
  obtain ⟨_, compiles, given⟩ := bind_eq_ok_iff.1 loads
  cases given
  obtain ⟨named, written⟩ := Compiled.of_ofJson (ofJson_of_compile compiles)
  -- The draft is the one that the schema names, and the schema is kept as it is written.
  have same : compiled.draft = draft := Except.ok.inj (named.symm.trans drafted)
  rw [check?_ofLoaded, found, Option.map_some, Compiled.check, same, written]

end Registry

end Schema

end Gamebook
