import Gamebook.Proofs.Result
import Gamebook.Proofs.Table
import Gamebook.Settings.File

/-! What the settings of a content directory can come to. -/

namespace Gamebook

namespace Yaml.Node

/-- Whether a value is null. -/
def isNull : Node → Bool
  | .null => true
  | _ => false

/-- The value under a name; only a table has any. -/
def member? (name : String) : Node → Option Node
  | .table entries => Table.get? name (textEntries entries)
  | _ => none

/-- Whether the value under a name is null. -/
def isNullAt (name : String) (value : Node) : Bool := (value.member? name).any isNull

/-- The entries of a table except those under the names that are dropped. -/
def without (drop : String → Bool) : Node → Node
  | .table entries => .table (entries.filter fun (key, _) => match key with
    | .text name => !drop name
    | _ => true)
  | value => value

/-- The entries of a table except those under a name whose value is null. -/
def withoutNulls (value : Node) : Node := value.without fun name => value.isNullAt name

/-- Dropping names from a table drops them from the entries whose keys are texts. -/
theorem textEntries_without (drop : String → Bool) (entries : List (Node × Node)) :
    textEntries (entries.filter fun (key, _) => match key with
      | .text name => !drop name
      | _ => true) =
      (textEntries entries).filter fun entry => !drop entry.1 := by
  -- Each entry is kept or dropped by its own key.
  rw [textEntries, List.filterMap_filter, textEntries, List.filter_filterMap]
  refine List.filterMap_congr fun entry _ => ?_
  obtain ⟨key, stored⟩ := entry
  cases key <;> simp [Option.filter]

end Yaml.Node

namespace Settings

open Yaml.Node

variable {content path : Path} {value : Yaml.Node} {table rest : Table Yaml.Node}
  {environment : Table String} {settings : Settings}

/-- A value that is no table and not null is rejected. -/
theorem exists_of_tableOf_error {failure : SettingsFailure}
    (refused : tableOf path value = .error failure) :
    ∃ reason, failure = .unloadable path reason := by
  cases value <;> cases refused <;> exact ⟨_, rfl⟩

/-- The table of a value finds what is under the names of the value, and the names that are dropped
from the value are dropped from its table. -/
theorem exists_tableOf_without (drop : String → Bool) (given : tableOf path value = .ok table) :
    (∀ name, Table.get? name table = value.member? name) ∧
      ∃ rest, tableOf path (value.without drop) = .ok rest ∧
        ∀ name, Table.get? name rest = if drop name then none else Table.get? name table := by
  cases value with
  | null =>
    -- Null stands for the empty table, from which nothing can be dropped.
    cases given
    exact ⟨fun name => rfl, [], rfl, fun name => by simp [Table.get?]⟩
  | table entries =>
    cases given
    refine ⟨fun name => rfl, _, rfl, fun name => ?_⟩
    rw [textEntries_without, Table.get?_filter fun name => !drop name]
    cases drop name <;> rfl
  | _ => cases given

/-- A table gives settings exactly when each of them can be read. -/
theorem ofTable_eq_ok_iff :
    ofTable content table = .ok settings ↔
      settings.content = content ∧ readSchemas content table = .ok settings.schemas ∧
      readScenes table = .ok settings.scenes ∧
      readSwitch table "fail_on_warnings" = .ok settings.failOnWarnings ∧
      readSwitch table "strict" = .ok settings.strict ∧
      readDepth table = .ok settings.maxDepth := by
  -- The settings are read one after another, and the record holds what was read.
  simp only [ofTable, bind_eq_ok_iff]
  constructor
  · rintro ⟨schemas, schemasRead, scenes, scenesRead, warnings, warningsRead, strict, strictRead,
      depth, depthRead, given⟩
    cases given
    exact ⟨rfl, schemasRead, scenesRead, warningsRead, strictRead, depthRead⟩
  · rintro ⟨rfl, schemasRead, scenesRead, warningsRead, strictRead, depthRead⟩
    exact ⟨_, schemasRead, _, scenesRead, _, warningsRead, _, strictRead, _, depthRead, rfl⟩

/-- A table gives settings only with a depth of one or more. -/
theorem one_le_of_readDepth {depth : Int} (given : readDepth table = .ok depth) : 1 ≤ depth := by
  rw [readDepth] at given
  cases found : Table.get? "max_depth" table with
  | none =>
    rw [found] at given
    cases given
    decide
  | some value =>
    simp only [found, bind_eq_ok_iff] at given
    obtain ⟨read, -, kept⟩ := given
    -- A depth that is kept has passed the check of its bound.
    split at kept
    · cases kept
    · cases kept
      omega

/-- Reading an integer fails for an infinity exactly where there is one. -/
theorem readInteger_eq_depthInfinite_iff :
    readInteger value = .error .depthInfinite ↔ ∃ negative, value = .real (.infinite negative) := by
  cases value with
  | real number => cases number <;> simp [readInteger]
  | text numeral =>
    -- A numeral is too long or none, but it is never an infinity.
    simp only [readInteger, readNumeral, mapError_eq_error_iff, reduceCtorEq, exists_false,
      iff_false]
    rintro ⟨fault, -, same⟩
    cases fault <;> cases same
  | _ => simp [readInteger]

/-- Reading a depth fails for an infinity exactly where there is one. -/
theorem readDepth_eq_depthInfinite_iff :
    readDepth table = .error .depthInfinite ↔
      ∃ negative, Table.get? "max_depth" table = some (.real (.infinite negative)) := by
  rw [readDepth]
  cases Table.get? "max_depth" table with
  | none => simp
  | some value =>
    -- The check of the lower bound fails in another way.
    have bounded (depth : Int) : ¬ (if depth < 1 then Except.error SettingsFault.depthBelowOne
        else pure depth) = .error .depthInfinite := by
      split <;> simp [pure, Except.pure]
    simp only [bind_eq_error_iff, readInteger_eq_depthInfinite_iff, bounded, and_false,
      exists_false, or_false, Option.some.injEq]

/-- A value that is written out as text does not fail for an infinity. -/
theorem writeOut_ne_depthInfinite : writeOut value ≠ .error .depthInfinite := by
  rw [writeOut]
  split <;> simp

/-- A switch does not fail for an infinity. -/
theorem readSwitch_ne_depthInfinite {key : String} :
    readSwitch table key ≠ .error .depthInfinite := by
  rw [readSwitch]
  -- A switch has faults of its own only.
  split
  · simp
  · simp
  · simp
  · split <;> simp

/-- A table fails for an infinity exactly when this is its depth and all else can be read. -/
theorem ofTable_eq_depthInfinite_iff :
    ofTable content table = .error .depthInfinite ↔
      (∃ schemas, readSchemas content table = .ok schemas) ∧
      (∃ scenes, readScenes table = .ok scenes) ∧
      (∃ failOnWarnings, readSwitch table "fail_on_warnings" = .ok failOnWarnings) ∧
      (∃ strict, readSwitch table "strict" = .ok strict) ∧
      readDepth table = .error .depthInfinite := by
  have schemas : readSchemas content table ≠ .error .depthInfinite := by
    rw [readSchemas]
    split
    · simp
    · simp
    · rw [ne_eq, map_eq_error_iff]
      exact writeOut_ne_depthInfinite
  have scenes : readScenes table ≠ .error .depthInfinite := by
    rw [readScenes]
    split
    · simp
    · exact writeOut_ne_depthInfinite
  -- No step before the depth fails in this way, so each of them has succeeded.
  simp only [ofTable, bind_eq_error_iff, schemas, scenes, readSwitch_ne_depthInfinite, false_or]
  constructor
  · rintro ⟨_, schemas, _, scenes, _, warnings, _, strict, depth⟩
    refine ⟨⟨_, schemas⟩, ⟨_, scenes⟩, ⟨_, warnings⟩, ⟨_, strict⟩, depth.resolve_right ?_⟩
    rintro ⟨_, -, given⟩
    cases given
  · rintro ⟨⟨_, schemas⟩, ⟨_, scenes⟩, ⟨_, warnings⟩, ⟨_, strict⟩, depth⟩
    exact ⟨_, schemas, _, scenes, _, warnings, _, strict, .inl depth⟩

section Nulls

/-- A table holds what another one does, except under the names whose value is null there. -/
def OmitsNulls (table rest : Table Yaml.Node) : Prop :=
  ∀ name, Table.get? name rest =
    if (Table.get? name table).any isNull then none else Table.get? name table

/-- Null schemas are no schemas. -/
theorem OmitsNulls.readSchemas (omits : OmitsNulls table rest) :
    Settings.readSchemas content rest = Settings.readSchemas content table := by
  simp only [Settings.readSchemas, omits "schemas_path"]
  -- A null is the same as an absent member for the schemas.
  cases Table.get? "schemas_path" table with
  | none => rfl
  | some value => cases value <;> rfl

/-- A null switch is rejected, and any other one is read as before. -/
theorem OmitsNulls.readSwitch {key : String} {switch : Bool} (omits : OmitsNulls table rest)
    (given : Settings.readSwitch table key = .ok switch) :
    Settings.readSwitch rest key = .ok switch := by
  simp only [Settings.readSwitch, omits key] at given ⊢
  cases found : Table.get? key table with
  | none => simpa [found] using given
  | some value =>
    -- A null is no switch, so none was given.
    cases value with
    | null => simp [found, isWritable] at given
    | _ => simpa [found, isNull] using given

/-- A null depth is rejected, and any other one is read as before. -/
theorem OmitsNulls.readDepth {depth : Int} (omits : OmitsNulls table rest)
    (given : Settings.readDepth table = .ok depth) : Settings.readDepth rest = .ok depth := by
  simp only [Settings.readDepth, omits "max_depth"] at given ⊢
  cases found : Table.get? "max_depth" table with
  | none => simpa [found] using given
  | some value =>
    -- A null is no integer, so none was given.
    cases value with
    | null => simp [found, readInteger, Bind.bind, Except.bind] at given
    | _ => simpa [found, isNull] using given

/-- The directory of scenes that a null names. -/
def nullScenes : String := Yaml.Node.null.plain

/-- A null directory of scenes is read as a name instead of the usual directory, and any other one
is read as before. -/
theorem OmitsNulls.readScenes {scenes : String} (omits : OmitsNulls table rest)
    (given : Settings.readScenes table = .ok scenes) :
    if (Table.get? "scenes_dir" table).any isNull then
      scenes = nullScenes ∧ Settings.readScenes rest = .ok Corpus.defaultScenes
    else Settings.readScenes rest = .ok scenes := by
  simp only [Settings.readScenes, omits "scenes_dir"] at given ⊢
  cases found : Table.get? "scenes_dir" table with
  | none => simpa [found] using given
  | some value =>
    -- A null is written out as a name, and its absence is the default.
    cases value with
    | null =>
      rw [found] at given
      cases given
      simp [isNull, nullScenes]
    | _ => simpa [found, isNull] using given

/-- Without the names whose value is null a table gives the same settings, except for a null
directory of scenes. -/
theorem OmitsNulls.ofTable (omits : OmitsNulls table rest)
    (given : Settings.ofTable content table = .ok settings) :
    ∃ plain, Settings.ofTable content rest = .ok plain ∧
      if (Table.get? "scenes_dir" table).any isNull then
        plain.scenes = Corpus.defaultScenes ∧ settings = { plain with scenes := nullScenes }
      else settings = plain := by
  -- All fields are read as before, except perhaps for the directory of scenes.
  obtain ⟨same, schemas, scenes, warnings, strict, depth⟩ := ofTable_eq_ok_iff.1 given
  have read := omits.readScenes scenes
  have schemas' : Settings.readSchemas content rest = .ok settings.schemas := by
    rw [omits.readSchemas, schemas]
  have warnings' := omits.readSwitch warnings
  have strict' := omits.readSwitch strict
  have depth' := omits.readDepth depth
  split at read
  · next null =>
    refine ⟨{ settings with scenes := Corpus.defaultScenes }, ofTable_eq_ok_iff.2
      ⟨same, schemas', read.2, warnings', strict', depth'⟩, ?_⟩
    rw [if_pos null, ← read.1]
    exact ⟨rfl, rfl⟩
  · next given =>
    refine ⟨settings, ofTable_eq_ok_iff.2 ⟨same, schemas', read, warnings', strict', depth'⟩, ?_⟩
    rw [if_neg given]

end Nulls

section Depths

/-- A table holds what another one does, except for the depth. -/
def OmitsDepth (table rest : Table Yaml.Node) : Prop :=
  ∀ name, Table.get? name rest = if name = "max_depth" then none else Table.get? name table

/-- A table fails for an infinity exactly when this is its depth and it gives settings without
it. -/
theorem OmitsDepth.ofTable (omits : OmitsDepth table rest) :
    Settings.ofTable content table = .error .depthInfinite ↔
      (∃ negative, Table.get? "max_depth" table = some (.real (.infinite negative))) ∧
        ∃ settings, Settings.ofTable content rest = .ok settings := by
  -- Every other reader finds what it found, and the depth is the usual one.
  have schemas : readSchemas content rest = readSchemas content table := by
    simp only [readSchemas, omits "schemas_path", String.reduceEq, if_false]
  have scenes : readScenes rest = readScenes table := by
    simp only [readScenes, omits "scenes_dir", String.reduceEq, if_false]
  have warnings : readSwitch rest "fail_on_warnings" = readSwitch table "fail_on_warnings" := by
    simp only [readSwitch, omits "fail_on_warnings", String.reduceEq, if_false]
  have strict : readSwitch rest "strict" = readSwitch table "strict" := by
    simp only [readSwitch, omits "strict", String.reduceEq, if_false]
  have depth : readDepth rest = .ok Reachability.defaultMaxDepth := by
    simp only [readDepth, omits "max_depth", if_true]
  rw [ofTable_eq_depthInfinite_iff, readDepth_eq_depthInfinite_iff]
  simp only [ofTable_eq_ok_iff, schemas, scenes, warnings, strict, depth]
  constructor
  · rintro ⟨⟨_, schemas⟩, ⟨_, scenes⟩, ⟨_, warnings⟩, ⟨_, strict⟩, infinite⟩
    exact ⟨infinite, ⟨content, _, _, _, _, _⟩, rfl, schemas, scenes, warnings, strict, rfl⟩
  · rintro ⟨infinite, settings, -, schemas, scenes, warnings, strict, -⟩
    exact ⟨⟨_, schemas⟩, ⟨_, scenes⟩, ⟨_, warnings⟩, ⟨_, strict⟩, infinite⟩

end Depths

/-- A table and the environment give the settings of the table with the switches overridden. -/
theorem ofTableAndEnvironment_eq_ok_iff :
    ofTableAndEnvironment content table environment = .ok settings ↔
      ∃ written, Settings.ofTable content table = .ok written ∧
        written.overridden environment = settings := by
  simp [ofTableAndEnvironment, bind_eq_ok_iff, mapError_eq_ok_iff, pure, Except.pure]

/-- A table and the environment fail by the fault of the table. -/
theorem ofTableAndEnvironment_eq_error_iff {failed : SettingsFailure} :
    ofTableAndEnvironment content table environment = .error failed ↔
      ∃ fault, Settings.ofTable content table = .error fault ∧
        failure (content.child fileName) fault = failed := by
  simp [ofTableAndEnvironment, bind_eq_error_iff, mapError_eq_error_iff, pure, Except.pure]

/-- A fault in the settings is a reason to reject them unless it is an infinite depth. -/
theorem failure_cases (path : Path) (fault : SettingsFault) :
    (fault = .depthInfinite ∧ failure path fault = .ended .infiniteDepth) ∨
      failure path fault = .unloadable path (some fault.message) := by
  -- Only an infinite depth is not reported as a file that cannot be loaded.
  cases fault with
  | depthInfinite => exact .inl ⟨rfl, rfl⟩
  | _ => exact .inr rfl

/-- A table and the environment end the run exactly when the depth of the table is infinite. -/
theorem ofTableAndEnvironment_ended_iff :
    ofTableAndEnvironment content table environment = .error (.ended .infiniteDepth) ↔
      Settings.ofTable content table = .error .depthInfinite := by
  rw [ofTableAndEnvironment_eq_error_iff]
  constructor
  · rintro ⟨fault, found, ends⟩
    -- All other faults of the table are reported.
    rcases failure_cases (content.child fileName) fault with ⟨rfl, -⟩ | rejects
    · exact found
    · cases rejects.symm.trans ends
  · intro found
    exact ⟨_, found, rfl⟩

/-- What the value of a settings file comes to in an environment: settings with a depth of one or
more, or a rejection, or an end of the run for an infinite depth alone. Null is as good as nothing
where it is not rejected, except for the directory of scenes, which it names. -/
structure Settles (content : Path) (value : Yaml.Node) (environment : Table String) :
    Prop where
  failed : ∀ failed, ofValue content value environment = .error failed →
    failed = .ended .infiniteDepth ∨
      ∃ reason, failed = .unloadable (content.child fileName) reason
  ended : ofValue content value environment = .error (.ended .infiniteDepth) ↔
    (∃ negative, value.member? "max_depth" = some (.real (.infinite negative))) ∧
      ∃ settings, ofValue content (value.without (· = "max_depth")) environment = .ok settings
  depth : ∀ settings, ofValue content value environment = .ok settings → 1 ≤ settings.maxDepth
  nulls : ∀ settings, ofValue content value environment = .ok settings →
    ∃ plain, ofValue content value.withoutNulls environment = .ok plain ∧
      if value.isNullAt "scenes_dir" then
        plain.scenes = Corpus.defaultScenes ∧ settings = { plain with scenes := nullScenes }
      else settings = plain

/-- A value with a table gives what the table and the environment give. -/
theorem ofValue_of_table (given : tableOf (content.child fileName) value = .ok table) :
    ofValue content value environment = ofTableAndEnvironment content table environment := by
  rw [ofValue, given]
  rfl

/-- A value without a table settles the settings: it is rejected, whatever is dropped from it. -/
theorem settles_of_refused {failed : SettingsFailure}
    (refused : tableOf (content.child fileName) value = .error failed) :
    Settles content value environment := by
  obtain ⟨reason, rfl⟩ := exists_of_tableOf_error refused
  have rejected : ofValue content value environment =
      .error (.unloadable (content.child fileName) reason) := by
    rw [ofValue, refused]
    rfl
  constructor
  case failed =>
    intro failed found
    rw [rejected] at found
    cases found
    exact .inr ⟨reason, rfl⟩
  case ended =>
    -- Names are dropped from tables only, and this value is none.
    have whole : value.without (· = "max_depth") = value := by
      cases value <;> first | rfl | cases refused
    rw [whole, rejected]
    simp
  case depth =>
    intro settings found
    cases rejected.symm.trans found
  case nulls =>
    intro settings found
    cases rejected.symm.trans found

/-- A value with a table settles the settings, by what the table gives with and without some of its
names. -/
theorem settles_of_table (given : tableOf (content.child fileName) value = .ok table) :
    Settles content value environment := by
  constructor
  case failed =>
    intro failed found
    rw [ofValue_of_table given, ofTableAndEnvironment_eq_error_iff] at found
    obtain ⟨fault, -, rfl⟩ := found
    rcases failure_cases (content.child fileName) fault with ⟨-, ends⟩ | rejects
    · exact .inl ends
    · exact .inr ⟨_, rejects⟩
  case ended =>
    obtain ⟨member, rest, without, dropped⟩ := exists_tableOf_without (· = "max_depth") given
    have omits : OmitsDepth table rest := by simpa [OmitsDepth] using dropped
    -- The environment decides neither whether the depth is infinite nor whether all else is read.
    rw [ofValue_of_table given, ofValue_of_table without, ← member,
      ofTableAndEnvironment_ended_iff, omits.ofTable]
    simp only [ofTableAndEnvironment_eq_ok_iff]
    refine and_congr_right fun _ => ⟨?_, ?_⟩
    · rintro ⟨plain, found⟩
      exact ⟨_, plain, found, rfl⟩
    · rintro ⟨_, plain, found, -⟩
      exact ⟨plain, found⟩
  case depth =>
    intro settings found
    rw [ofValue_of_table given, ofTableAndEnvironment_eq_ok_iff] at found
    obtain ⟨written, found, rfl⟩ := found
    obtain ⟨-, -, -, -, -, depth⟩ := ofTable_eq_ok_iff.1 found
    exact one_le_of_readDepth depth
  case nulls =>
    intro settings found
    obtain ⟨member, rest, without, dropped⟩ := exists_tableOf_without (value.isNullAt ·) given
    have omits : OmitsNulls table rest := by
      intro name
      rw [dropped, isNullAt, ← member]
    rw [ofValue_of_table given, ofTableAndEnvironment_eq_ok_iff] at found
    obtain ⟨written, found, rfl⟩ := found
    obtain ⟨plain, found, same⟩ := omits.ofTable found
    -- The environment overrides the same switches with the nulls and without them.
    refine ⟨plain.overridden environment, ?_, ?_⟩
    · rw [withoutNulls, ofValue_of_table without, ofTableAndEnvironment_eq_ok_iff]
      exact ⟨plain, found, rfl⟩
    · rw [isNullAt, ← member]
      split at same
      · next null =>
        rw [if_pos null, same.2]
        exact ⟨same.1, rfl⟩
      · next given =>
        rw [if_neg given, same]

/-- Every value settles the settings, whatever it is and whatever the environment holds. -/
theorem ofValue_settles (content : Path) (value : Yaml.Node) (environment : Table String) :
    Settles content value environment := by
  -- The value is a table of settings or is refused as none.
  cases given : tableOf (content.child fileName) value with
  | error failed => exact settles_of_refused given
  | ok table => exact settles_of_table given

/-- A content directory with a settings file in ASCII and nothing else. -/
def settingsDisk (text : String) : Disk :=
  ⟨[(["content"], .directory),
    (["content", fileName], .file (.bytes (text.toList.map Char.toUInt8)))]⟩

/-- A null directory of scenes gives other settings than an empty file, and an infinite depth ends
the run instead of being rejected. -/
theorem null_scenes_and_infinite_depth :
    (∃ settings plain, load (settingsDisk "scenes_dir: null\n") defaultContent [] = .ok settings ∧
      load (settingsDisk "") defaultContent [] = .ok plain ∧
      (settings.scenes, plain.scenes) = ("None", "scenes")) ∧
    load (settingsDisk "max_depth: .inf\n") defaultContent [] = .error (.ended .infiniteDepth) := by
  constructor
  -- Both files load, and give the scenes different names.
  · obtain ⟨settings, given, named⟩ : ∃ settings,
        load (settingsDisk "scenes_dir: null\n") defaultContent [] = .ok settings ∧
          settings.scenes = "None" := exists_ok_of_map (by decide +kernel)
    obtain ⟨plain, given', usual⟩ : ∃ plain,
        load (settingsDisk "") defaultContent [] = .ok plain ∧ plain.scenes = "scenes" :=
      exists_ok_of_map (by decide +kernel)
    exact ⟨settings, plain, given, given', by rw [named, usual]⟩
  · have told : (match load (settingsDisk "max_depth: .inf\n") defaultContent [] with
        | .error (.ended .infiniteDepth) => true
        | _ => false) = true := by
      decide +kernel
    split at told
    · next outcome => exact outcome
    · cases told

end Settings

end Gamebook
