import Mathlib.Data.List.Nodup
import Gamebook.Disk
import Gamebook.Proofs.IdSet

/-! Laws of directory trees: where paths lead, and what changes when a file is taken away. -/

namespace Gamebook

namespace Disk

variable {disk other : Disk} {path directory : Path} {place : List String} {name : String}

section Places

/-- A name leads on from a directory, and two dots lead back up. -/
theorem follow_cons_of_directory {place rest : List String} :
    disk.entryAt? place.reverse = some .directory → disk.follow place (name :: rest) =
      if name = ".." then
        match place with
        | [] => .error .outside
        | _ :: above => disk.follow above rest
      else disk.follow (name :: place) rest := by
  intro here
  rw [follow.eq_def]
  -- Only the step up looks at where it starts from.
  cases place with
  | nil => simp only [here]
  | cons last above => simp only [here]

/-- No name leads on from where no directory stands. -/
theorem follow_cons_of_not_directory {place : List String}
    (stop : disk.entryAt? place.reverse ≠ some .directory) :
    ∃ obstacle, ∀ name rest, disk.follow place (name :: rest) = .error obstacle := by
  -- What stands there decides which obstacle it is.
  cases stands : disk.entryAt? place.reverse with
  | none => exact ⟨.missing, fun name rest => by rw [follow.eq_def]; simp only [stands]⟩
  | some entry =>
    cases entry with
    | file contents =>
      exact ⟨.throughFile, fun name rest => by rw [follow.eq_def]; simp only [stands]⟩
    | directory => exact absurd stands stop

/-- Following names one after another is following the first of them, and then the others. -/
theorem follow_append (place first second : List String) :
    disk.follow place (first ++ second) =
      (disk.follow place first).bind fun reached => disk.follow reached second := by
  induction first generalizing place with
  | nil => rfl
  | cons name rest ih =>
    rw [List.cons_append]
    by_cases here : disk.entryAt? place.reverse = some .directory
    · rw [follow_cons_of_directory here, follow_cons_of_directory here]
      -- Two dots lead back up on both sides, or out of the tree.
      by_cases up : name = ".."
      · rw [if_pos up, if_pos up]
        cases place with
        | nil => rfl
        | cons last above => exact ih above
      · rw [if_neg up, if_neg up]
        exact ih (name :: place)
    · obtain ⟨obstacle, stops⟩ := follow_cons_of_not_directory here
      rw [stops, stops]
      rfl

/-- A named entry stands right below the directory that a path leads to. -/
theorem place?_child (down : name ≠ "..") :
    disk.place? (directory.child name) = (disk.place? directory).bind fun place =>
      if disk.entryAt? place = some .directory then some (place ++ [name]) else none := by
  have absolute : (directory.child name).isAbsolute = directory.isAbsolute := rfl
  rw [place?, place?, absolute]
  by_cases outside : directory.isAbsolute = true
  · simp [outside]
  · rw [if_neg outside, if_neg outside, placeOf, placeOf]
    have split : (directory.child name).parts = directory.parts ++ [name] := rfl
    rw [split, follow_append]
    cases disk.follow [] directory.parts with
    | error obstacle => rfl
    | ok reached =>
      -- One more name is followed, which takes a directory.
      show ((disk.follow reached [name]).map List.reverse).toOption =
        if disk.entryAt? reached.reverse = some .directory
        then some (reached.reverse ++ [name]) else none
      by_cases here : disk.entryAt? reached.reverse = some .directory
      · rw [follow_cons_of_directory here, if_neg down, if_pos here, ← List.reverse_cons]
        rfl
      · obtain ⟨obstacle, stops⟩ := follow_cons_of_not_directory here
        rw [stops, if_neg here]
        rfl

/-- A file that a directory holds stands right below the place of the directory. -/
theorem exists_place_of_isFile_child (down : name ≠ "..")
    (file : disk.isFile (directory.child name) = true) :
    ∃ place, disk.place? directory = some place ∧ disk.entryAt? place = some .directory ∧
      disk.place? (directory.child name) = some (place ++ [name]) := by
  -- Without a place there would be no file.
  obtain ⟨there, placed⟩ : ∃ there, disk.place? (directory.child name) = some there := by
    refine Option.ne_none_iff_exists'.1 ?_
    intro nowhere
    simp [isFile, contents?, find?, nowhere] at file
  have followed := placed
  rw [place?_child down, Option.bind_eq_some_iff] at followed
  obtain ⟨place, reached, last⟩ := followed
  split at last
  · next below => exact ⟨place, reached, below, by rw [placed, last]⟩
  · cases last

/-- Two paths lead to one place. -/
def Meet (disk : Disk) (first second : Path) : Prop :=
  ∃ place, disk.place? first = some place ∧ disk.place? second = some place

/-- Paths meet whichever of them comes first. -/
theorem Meet.symm {first second : Path} (meet : disk.Meet first second) :
    disk.Meet second first := by
  obtain ⟨place, here, there⟩ := meet
  exact ⟨place, there, here⟩

/-- Paths that meet name the same contents. -/
theorem Meet.contents?_eq {first second : Path} (meet : disk.Meet first second) :
    disk.contents? first = disk.contents? second := by
  obtain ⟨place, here, there⟩ := meet
  rw [contents?, contents?, find?, find?, here, there]

/-- Whether two paths meet can be told from where each of them leads. -/
theorem meet_iff {first second : Path} :
    disk.Meet first second ↔
      (disk.place? first).isSome = true ∧ disk.place? first = disk.place? second := by
  rw [Meet]
  cases disk.place? first <;> simp [eq_comm]

instance (first second : Path) : Decidable (disk.Meet first second) :=
  decidable_of_iff _ meet_iff.symm

/-- A file meets itself. -/
theorem meet_self_of_isFile (file : disk.isFile path = true) : disk.Meet path path := by
  rw [meet_iff, Option.isSome_iff_ne_none]
  refine ⟨?_, rfl⟩
  -- A path that leads nowhere has no file.
  intro nowhere
  simp [isFile, contents?, find?, nowhere] at file

/-- An entry of a directory meets what stands in some directory exactly when the names lead to it.
-/
theorem meet_child_iff {above : List String} {last : String} (down : name ≠ "..")
    (placed : disk.place? path = some (above ++ [last]))
    (stands : disk.entryAt? above = some .directory)
    (reached : disk.place? directory = some place) :
    disk.Meet path (directory.child name) ↔ place ++ [name] = above ++ [last] := by
  rw [meet_iff, place?_child down, reached, placed, Option.bind_some]
  constructor
  · rintro ⟨-, same⟩
    split at same
    · exact (Option.some.inj same).symm
    · cases same
  · intro same
    -- The place above is the same, and a directory stands there.
    obtain ⟨here, -⟩ := List.append_inj' same rfl
    rw [here, if_pos stands, ← same, here]
    exact ⟨rfl, rfl⟩

/-- Entries of directories meet only where they have one name and the directories meet. -/
theorem meet_of_meet_child {second : Path} {called : String} (down : name ≠ "..")
    (down' : called ≠ "..") (meet : disk.Meet (directory.child name) (second.child called)) :
    disk.Meet directory second ∧ name = called := by
  obtain ⟨place, here, there⟩ := meet
  rw [place?_child down, Option.bind_eq_some_iff] at here
  rw [place?_child down', Option.bind_eq_some_iff] at there
  obtain ⟨above, first, here⟩ := here
  obtain ⟨above', second, there⟩ := there
  -- The last part of a place is the name, and the rest is the place of the directory.
  have equal : above ++ [name] = above' ++ [called] := by
    split at here
    · split at there
      · rw [Option.some.inj here, Option.some.inj there]
      · cases there
    · cases here
  obtain ⟨same, last⟩ := List.append_inj' equal rfl
  subst same
  exact ⟨⟨above, first, second⟩, List.head_eq_of_cons_eq last⟩

end Places

section SameDirectories

/-- Two trees have directories at the same places. -/
def SameDirectories (disk other : Disk) : Prop :=
  ∀ place, disk.entryAt? place = some .directory ↔ other.entryAt? place = some .directory

/-- Where the directories are the same, names lead to the same place, if they lead anywhere. -/
theorem SameDirectories.follow_eq (same : disk.SameDirectories other) (place names : List String) :
    (disk.follow place names).toOption = (other.follow place names).toOption := by
  induction names generalizing place with
  | nil => rfl
  | cons name rest ih =>
    -- Only a directory lets the names go on, whatever else stands there.
    by_cases here : disk.entryAt? place.reverse = some .directory
    · have there := (same place.reverse).1 here
      rw [follow_cons_of_directory here, follow_cons_of_directory there]
      by_cases up : name = ".."
      · rw [if_pos up, if_pos up]
        cases place with
        | nil => rfl
        | cons last above => exact ih above
      · rw [if_neg up, if_neg up]
        exact ih (name :: place)
    · have there : other.entryAt? place.reverse ≠ some .directory := by
        intro found
        exact here ((same place.reverse).2 found)
      obtain ⟨obstacle, stops⟩ := follow_cons_of_not_directory here
      obtain ⟨hindrance, halts⟩ := follow_cons_of_not_directory there
      rw [stops, halts]
      rfl

/-- Where the directories are the same, a path leads to the same place. -/
theorem SameDirectories.place?_eq (same : disk.SameDirectories other) (path : Path) :
    disk.place? path = other.place? path := by
  have follows := same.follow_eq [] path.parts
  rw [place?, place?, placeOf, placeOf]
  split
  · rfl
  · -- The place is read forwards once the names have been followed.
    have forwards (result : Except PathObstacle (List String)) :
        (result.map List.reverse).toOption = result.toOption.map List.reverse := by
      cases result <;> rfl
    rw [forwards, forwards, follows]

/-- Where the directories are the same, the same paths meet. -/
theorem SameDirectories.meet_iff (same : disk.SameDirectories other) {first second : Path} :
    disk.Meet first second ↔ other.Meet first second := by
  rw [Meet, Meet, same.place?_eq, same.place?_eq]

end SameDirectories

section FileNames

/-- The name of the file of an entry, if it is one that stands right below a place. -/
def nameBelow? (place : List String) : List String × DiskEntry → Option String
  | (other, .file _) => if other.dropLast = place then other.getLast? else none
  | (_, .directory) => none

/-- An entry has a name below a place exactly when it is a file there. -/
theorem nameBelow?_eq_some_iff {entry : List String × DiskEntry} :
    nameBelow? place entry = some name ↔
      ∃ contents, entry = (place ++ [name], .file contents) := by
  obtain ⟨other, kind⟩ := entry
  -- A directory is never listed; a file is listed where its parent is the place.
  cases kind with
  | directory => simp [nameBelow?]
  | file contents =>
    rw [nameBelow?]
    constructor
    · intro named
      split at named
      · next above =>
        subst above
        exact ⟨contents, by rw [List.dropLast_append_getLast? name named]⟩
      · cases named
    · rintro ⟨held, same⟩
      cases same
      simp

/-- The file names of a directory are those of the entries below its place, in order. -/
theorem fileNames_eq (placed : disk.place? directory = some place) :
    disk.fileNames directory = sortIds (disk.entries.filterMap (nameBelow? place)) := by
  rw [fileNames, placed]
  refine congrArg sortIds (List.filterMap_congr fun listed _ => ?_)
  obtain ⟨other, entry⟩ := listed
  -- For an entry that is no file there is no name in either form.
  cases entry <;> rfl

/-- A directory that leads nowhere holds no file. -/
theorem fileNames_eq_nil (nowhere : disk.place? directory = none) :
    disk.fileNames directory = [] := by
  rw [fileNames, nowhere]

end FileNames

section Remove

/-- A tree without what stands at a place. -/
def without (place : List String) (disk : Disk) : Disk := ⟨disk.entries.filter (·.1 ≠ place)⟩

/-- A tree without what a path leads to. -/
def remove (path : Path) (disk : Disk) : Disk :=
  match disk.place? path with
  | some place => disk.without place
  | none => disk

/-- What stands elsewhere stays where it is. -/
theorem entryAt?_without (elsewhere : place ≠ []) (asked : List String) :
    (disk.without place).entryAt? asked =
      if asked = place then none else disk.entryAt? asked := by
  rw [entryAt?, entryAt?, without]
  by_cases working : asked = []
  · -- The working directory cannot be taken away.
    subst working
    simp [Ne.symm elsewhere]
  · have named : asked.isEmpty = false := by simpa using working
    simp only [named, Bool.false_eq_true, if_false]
    by_cases here : asked = place
    · subst here
      simp
    · rw [if_neg here, List.find?_filter]
      -- The entries that are left out have another place than the one asked for.
      congr 2
      funext entry
      by_cases same : entry.1 = asked
      · simp [same, here]
      · simp [same]

variable (file : disk.isFile path = true)

include file

/-- A file stands at the place that its path leads to. -/
theorem exists_entryAt?_of_isFile :
    ∃ place contents, disk.place? path = some place ∧
      disk.entryAt? place = some (.file contents) := by
  rw [isFile, contents?, find?] at file
  -- A path has a file only if it leads to a place where one stands.
  cases placed : disk.place? path with
  | none => simp [placed] at file
  | some place =>
    cases stands : disk.entryAt? place with
    | none => simp [placed, stands] at file
    | some entry =>
      cases entry with
      | directory => simp [placed, stands] at file
      | file contents => exact ⟨place, contents, rfl, stands⟩

/-- Taking a file away leaves the tree as it is but for the place of the file. -/
theorem exists_entryAt?_remove :
    ∃ place, disk.place? path = some place ∧
      (∃ contents, disk.entryAt? place = some (.file contents)) ∧
      (disk.remove path).entries = disk.entries.filter (·.1 ≠ place) ∧
        ∀ asked, (disk.remove path).entryAt? asked =
          if asked = place then none else disk.entryAt? asked := by
  obtain ⟨place, contents, placed, stands⟩ := exists_entryAt?_of_isFile file
  have elsewhere : place ≠ [] := by
    -- The working directory is no file.
    rintro rfl
    simp [entryAt?] at stands
  refine ⟨place, placed, ⟨contents, stands⟩, ?_, ?_⟩
  · rw [remove, placed]
    rfl
  · intro asked
    rw [remove, placed]
    exact entryAt?_without elsewhere asked

/-- Taking a file away leaves every directory. -/
theorem sameDirectories_remove : (disk.remove path).SameDirectories disk := by
  obtain ⟨place, -, ⟨contents, stands⟩, -, left⟩ := exists_entryAt?_remove file
  intro asked
  -- Only the place of the file changes, and no directory stands there before or after.
  rw [left]
  by_cases here : asked = place
  · subst here
    simp [stands]
  · rw [if_neg here]

/-- Taking a file away leaves what every other path leads to. -/
theorem contents?_remove_of_not_meet {asked : Path} (apart : ¬ disk.Meet path asked) :
    (disk.remove path).contents? asked = disk.contents? asked := by
  obtain ⟨place, placed, -, -, left⟩ := exists_entryAt?_remove file
  rw [contents?, contents?, find?, find?, (sameDirectories_remove file).place?_eq]
  cases found : disk.place? asked with
  | none => rfl
  | some there =>
    -- The other path leads elsewhere, where nothing changes.
    have different : there ≠ place := by
      rintro rfl
      exact apart ⟨there, placed, found⟩
    simp [left, different]

/-- A file that was taken away is gone. -/
theorem contents?_remove_of_meet {asked : Path} (meet : disk.Meet path asked) :
    (disk.remove path).contents? asked = none := by
  obtain ⟨place, placed, -, -, left⟩ := exists_entryAt?_remove file
  obtain ⟨there, here, found⟩ := meet
  -- Both paths lead to the place that is left empty.
  have same : there = place := Option.some.inj (here.symm.trans placed)
  rw [contents?, find?, (sameDirectories_remove file).place?_eq, found, same]
  simp [left]

/-- Taking a file away takes its name from the directory that it stands in, and no other name. -/
theorem fileNames_remove {above : List String} (placed : disk.place? path = some place)
    (reached : disk.place? directory = some above) :
    (disk.remove path).fileNames directory =
      (disk.fileNames directory).filter fun name => above ++ [name] ≠ place := by
  have still : (disk.remove path).place? directory = some above := by
    rw [(sameDirectories_remove file).place?_eq, reached]
  have entries : (disk.remove path).entries = disk.entries.filter (·.1 ≠ place) := by
    rw [remove, placed]
    rfl
  rw [fileNames_eq still, fileNames_eq reached, entries, ← sortIds_filter, List.filterMap_filter,
    List.filter_filterMap]
  congr 2
  funext entry
  cases named : nameBelow? above entry with
  | none => simp
  | some name =>
    -- An entry with a name stands where the name leads.
    obtain ⟨contents, rfl⟩ := nameBelow?_eq_some_iff.1 named
    by_cases here : above ++ [name] = place
    · simp [here, Option.filter]
    · simp [here, Option.filter]

end Remove

section Unambiguous

/-- No place of a tree has two entries. -/
def IsUnambiguous (disk : Disk) : Prop := (disk.entries.map (·.1)).Nodup

instance (disk : Disk) : Decidable disk.IsUnambiguous :=
  inferInstanceAs (Decidable (disk.entries.map (·.1)).Nodup)

/-- Where no place has two entries, each entry is what stands at its place. -/
theorem IsUnambiguous.entryAt?_eq (unambiguous : disk.IsUnambiguous) {entry : DiskEntry}
    (elsewhere : place ≠ []) (member : (place, entry) ∈ disk.entries) :
    disk.entryAt? place = some entry := by
  have named : place.isEmpty = false := by simpa using elsewhere
  rw [entryAt?, named]
  simp only [Bool.false_eq_true, if_false]
  cases found : disk.entries.find? (·.1 = place) with
  | none => simpa using List.find?_eq_none.1 found _ member
  | some first =>
    -- The entry that is found has the same place, so it is the same entry.
    have same : first.1 = place := by simpa using List.find?_some found
    have equal : first = (place, entry) :=
      List.inj_on_of_nodup_map unambiguous (List.mem_of_find?_eq_some found) member same
    rw [equal]
    rfl

/-- Where no place has two entries, a place holds what the entries say. -/
theorem IsUnambiguous.entryAt?_eq_some_iff (unambiguous : disk.IsUnambiguous) {entry : DiskEntry}
    (elsewhere : place ≠ []) :
    disk.entryAt? place = some entry ↔ (place, entry) ∈ disk.entries := by
  constructor
  · intro stands
    -- Anywhere but at the root, an entry stands where it is listed.
    have named : place.isEmpty = false := by simpa using elsewhere
    rw [entryAt?, named] at stands
    obtain ⟨⟨other, held⟩, found, same⟩ := Option.map_eq_some_iff.1 stands
    have here : other = place := by simpa using List.find?_some found
    subst here same
    exact List.mem_of_find?_eq_some found
  · exact unambiguous.entryAt?_eq elsewhere

/-- Where no place has two entries, no directory has two files of one name. -/
theorem IsUnambiguous.nodup_fileNames (unambiguous : disk.IsUnambiguous) (directory : Path) :
    (disk.fileNames directory).Nodup := by
  cases placed : disk.place? directory with
  | none => simp [fileNames_eq_nil placed]
  | some place =>
    rw [fileNames_eq placed]
    have distinct : (disk.entries.filterMap (nameBelow? place)).Nodup := by
      -- Two entries with one name below a place have one place.
      have entries : disk.entries.Pairwise fun first second => first.1 ≠ second.1 :=
        List.pairwise_map.1 unambiguous
      refine List.pairwise_filterMap.2 (entries.imp ?_)
      intro first second apart name here again there same
      subst same
      obtain ⟨_, rfl⟩ := nameBelow?_eq_some_iff.1 here
      obtain ⟨_, rfl⟩ := nameBelow?_eq_some_iff.1 there
      exact apart rfl
    exact (List.mergeSort_perm _ _).symm.nodup distinct

/-- An empty tree has no entry at all. -/
theorem isUnambiguous_empty : empty.IsUnambiguous := List.nodup_nil

/-- Making a directory gives an entry only to a place that has none. -/
theorem IsUnambiguous.addDirectory (unambiguous : disk.IsUnambiguous) (place : List String) :
    (disk.addDirectory place).IsUnambiguous := by
  rw [Disk.addDirectory]
  split
  · exact unambiguous
  · next free =>
    -- The new entry stands where no other one does.
    rw [Option.isSome_iff_ne_none, Decidable.not_not, entryAt?] at free
    split at free
    · cases free
    · rw [Option.map_eq_none_iff, List.find?_eq_none] at free
      rw [IsUnambiguous, List.map_append]
      refine List.nodup_append.2 ⟨unambiguous, List.nodup_singleton _, ?_⟩
      intro taken member new isNew same
      obtain ⟨entry, listed, rfl⟩ := List.mem_map.1 member
      have equal : new = place := List.mem_singleton.1 isNew
      exact free entry listed (by simp [same, equal])

/-- Making directories one below the other keeps places from having two entries. -/
theorem IsUnambiguous.addDirectories (unambiguous : disk.IsUnambiguous) (place : List String) :
    (disk.addDirectories place).IsUnambiguous := by
  rw [Disk.addDirectories]
  generalize List.range place.length = lengths
  -- The directories are added one by one, from the root on.
  induction lengths generalizing disk with
  | nil => exact unambiguous
  | cons length rest ih => exact ih (unambiguous.addDirectory _)

/-- Writing a file puts it in place of what stood there. -/
theorem IsUnambiguous.write (unambiguous : disk.IsUnambiguous) (place : List String)
    (bytes : List UInt8) : (disk.write place bytes).IsUnambiguous := by
  have above := unambiguous.addDirectories place.dropLast
  -- Entries at the place of the file are dropped before it is written.
  rw [Disk.write, IsUnambiguous, List.map_append]
  refine List.nodup_append.2 ⟨above.sublist (List.filter_sublist.map _), List.nodup_singleton _, ?_⟩
  intro taken member new isNew same
  obtain ⟨entry, listed, rfl⟩ := List.mem_map.1 member
  have equal : new = place := List.mem_singleton.1 isNew
  simpa [same, equal] using (List.mem_filter.1 listed).2

/-- Writing to the end of a file changes no place. -/
theorem IsUnambiguous.append (unambiguous : disk.IsUnambiguous) (place : List String)
    (bytes : List UInt8) : (disk.append place bytes).IsUnambiguous := by
  have places : (disk.append place bytes).entries.map (·.1) = disk.entries.map (·.1) := by
    rw [Disk.append, List.map_map]
    refine List.map_congr_left ?_
    rintro ⟨other, entry⟩ -
    -- Whatever stands at a place, it stays there.
    match entry with
    | .directory => rfl
    | .file (.bytes before) => rfl
    | .file (.refused report) => rfl
  rw [IsUnambiguous, places]
  exact unambiguous

/-- A tree as it comes about: from the empty one, by making directories, writing files and writing
to the ends of files. -/
inductive IsBuilt : Disk → Prop where
  | empty : IsBuilt empty
  | addDirectories {disk : Disk} (built : IsBuilt disk) (place : List String) :
      IsBuilt (disk.addDirectories place)
  | write {disk : Disk} (built : IsBuilt disk) (place : List String) (bytes : List UInt8) :
      IsBuilt (disk.write place bytes)
  | append {disk : Disk} (built : IsBuilt disk) (place : List String) (bytes : List UInt8) :
      IsBuilt (disk.append place bytes)

/-- However a tree comes about, no place in it has two entries. -/
theorem IsBuilt.isUnambiguous (built : IsBuilt disk) : disk.IsUnambiguous := by
  -- The induction is on the steps, none of which gives a place a second entry.
  induction built with
  | empty => exact isUnambiguous_empty
  | addDirectories _ place ih => exact ih.addDirectories place
  | write _ place bytes ih => exact ih.write place bytes
  | append _ place bytes ih => exact ih.append place bytes

end Unambiguous

end Disk

end Gamebook
