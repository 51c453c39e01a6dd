import Gamebook.Proofs.Validation.Definition

/-! An identifier that several scene files declare is told of each of them but the first, and of no
other file. -/

namespace Gamebook

/-- A scene file that declares an identifier again, with the first one that declares it, as reports
name them. -/
structure Repetition where
  id : String
  file : String
  first : String
  deriving DecidableEq, Repr

namespace Repetition

/-- A repetition in words. -/
def message : Repetition → String
  | ⟨id, file, first⟩ => s!"Duplicate scene id '{id}' in {file} (already defined in {first})"

/-- Of the files that declare an identifier, each one but the first repeats it. -/
def ofDeclarers (id : String) : List String → List Repetition
  | [] => []
  | first :: later => later.map fun file => ⟨id, file, first⟩

end Repetition

/-- An error of a verdict, by what it complains of. -/
inductive Complaint where
  | misfit (message : String)
  | unreadable (file reason : String)
  | repeated (repetition : Repetition)
  | missing (ids : List String)

namespace Complaint

/-- A complaint in words. -/
def message : Complaint → String
  | misfit message => message
  | unreadable file reason => s!"Failed to load {file}: {reason}"
  | repeated repetition => repetition.message
  | missing ids => missingMessage ids

/-- The repetition that a complaint is about. -/
def repetition? : Complaint → Option Repetition
  | repeated repetition => some repetition
  | _ => none

/-- The repetitions among complaints, in order. -/
def repetitions (complaints : List Complaint) : List Repetition := complaints.filterMap repetition?

/-- The repetitions of several lists are those of the first and then those of the other. -/
@[simp] theorem repetitions_append (first second : List Complaint) :
    repetitions (first ++ second) = repetitions first ++ repetitions second :=
  List.filterMap_append

/-- Misfits repeat nothing. -/
@[simp] theorem repetitions_map_misfit (messages : List String) :
    repetitions (messages.map misfit) = [] := by
  simp [repetitions, List.filterMap_map, Function.comp_def, repetition?]

/-- Misfits in words are the messages that they are made of. -/
@[simp] theorem map_message_map_misfit (messages : List String) :
    (messages.map misfit).map message = messages := by
  simp [Function.comp_def, message]

end Complaint

/-- The readable scene files that declare an identifier, in order of their names. -/
def Corpus.declarers (corpus : Corpus) (disk : Disk) (id : String) : List Path :=
  ((corpus.readableScenes disk).filter fun scene => Corpus.declaredId? scene.2 = some id).map
    Prod.fst

/-- The identifiers that the readable scene files declare, one for each file that declares one. -/
def Corpus.declaredIds (corpus : Corpus) (disk : Disk) : List String :=
  (corpus.readableScenes disk).filterMap fun scene => Corpus.declaredId? scene.2

/-- Readable files keep their order. -/
theorem Disk.map_fst_readable_sublist (disk : Disk) (paths : List Path) :
    ((disk.readable paths).map Prod.fst).Sublist paths := by
  -- A path is kept when it can be read and dropped when it cannot.
  induction paths with
  | nil => exact .slnil
  | cons path rest ih =>
    cases read : disk.readJson path with
    | ok document =>
      rw [Disk.readable_cons_of_ok read]
      exact ih.cons_cons path
    | error failure =>
      rw [Disk.readable_cons_of_error read]
      exact ih.cons path

/-- The files that declare an identifier come by increasing file name. -/
theorem Corpus.exists_names_declarers (corpus : Corpus) (disk : Disk) (id : String) :
    ∃ names : List String, names.Pairwise (· ≤ ·) ∧
      corpus.declarers disk id = names.map corpus.scenes.child := by
  -- The directory is listed in order, and picking files out of it keeps that order.
  have sorted : (disk.fileNames corpus.scenes).Pairwise (· ≤ ·) := by
    rw [Disk.fileNames]
    split
    · exact .nil
    · exact pairwise_sortIds _
  have listed : (corpus.declarers disk id).Sublist (corpus.scenePaths disk) :=
    (List.filter_sublist.map _).trans (disk.map_fst_readable_sublist _)
  obtain ⟨names, kept, same⟩ := List.sublist_map_iff.1 listed
  exact ⟨names, (sorted.filter _).sublist kept, same⟩

namespace Validation

open Complaint

variable {disk : Disk} {corpus : Corpus} {registry : Schema.Registry} {manifest : Json}
  {missing : IdSet} {path : Path} {defined : Table String} {file : SceneFile}
  {files : List SceneFile} {id : String}

section Complaints

/-- What a scene repeats of the files that define scenes. -/
def repetitionOf? (defined : Table String) (scene : CheckedScene) : Option Repetition :=
  scene.id?.bind fun id => (Table.get? id defined).map fun first => ⟨id, scene.file, first⟩

/-- The complaints about a scene file after the files that define scenes. -/
def fileComplaints (defined : Table String) : SceneFile → List Complaint
  | .unreadable file reason => [.unreadable file reason]
  | .checked scene => scene.messages.map .misfit ++
      ((repetitionOf? defined scene).map .repeated).toList

/-- The complaints about several scene files, in order. -/
def sceneComplaints (defined : Table String) : List SceneFile → List Complaint
  | [] => []
  | file :: rest => fileComplaints defined file ++ sceneComplaints (definedAfter defined file) rest

/-- The complaints about a document that may be left out. -/
def optionalComplaints : OptionalFile → List Complaint
  | .absent => []
  | .unreadable file reason => [.unreadable file reason]
  | .checked _ messages => messages.map .misfit

/-- The complaint about missing scenes, if there are any. -/
def missingComplaints (missing : IdSet) : List Complaint :=
  if missing.ids.isEmpty then [] else [.missing missing.ids]

/-- The errors about a scene file are the complaints in words. -/
theorem map_message_fileComplaints :
    (fileComplaints defined file).map message = fileErrors defined file := by
  cases file with
  | unreadable file reason => rfl
  | checked scene =>
    rw [fileComplaints, List.map_append, map_message_map_misfit, fileErrors, repeatedErrors,
      repetitionOf?]
    cases scene.id? with
    | none => rfl
    | some id =>
      cases known : Table.get? id defined with
      | none => simp [known]
      | some first =>
        -- The message of the report is that of the repetition, word by word.
        simp only [known, Option.bind_some, Option.map_some, Option.toList_some]
        rfl

/-- The errors about several scene files are the complaints in words. -/
theorem map_message_sceneComplaints :
    (sceneComplaints defined files).map message = (sceneErrors defined files).flatten := by
  -- Both lists run through the files with the same definitions so far.
  induction files generalizing defined with
  | nil => rfl
  | cons file rest ih =>
    rw [sceneComplaints, List.map_append, map_message_fileComplaints, ih, sceneErrors,
      List.flatten_cons]

/-- The errors about documents that may be left out are the complaints in words. -/
theorem map_message_optionalComplaints (files : List OptionalFile) :
    (files.flatMap optionalComplaints).map message = files.flatMap OptionalFile.errors := by
  rw [List.map_flatMap]
  congr 1
  funext file
  -- An absent file complains of nothing.
  cases file with
  | absent => rfl
  | unreadable file reason => rfl
  | checked file messages => exact map_message_map_misfit messages

/-- Complaints about documents that may be left out are no repetitions. -/
theorem repetitions_optionalComplaints (files : List OptionalFile) :
    repetitions (files.flatMap optionalComplaints) = [] := by
  induction files with
  | nil => rfl
  | cons file rest ih =>
    rw [List.flatMap_cons, repetitions_append, ih, List.append_nil]
    -- Optional files declare no scene, so none repeats one.
    cases file with
    | absent => rfl
    | unreadable file reason => rfl
    | checked file messages => exact repetitions_map_misfit messages

/-- The complaint about missing scenes in words. -/
theorem map_message_missingComplaints :
    (missingComplaints missing).map message =
      if missing.ids.isEmpty then [] else [missingMessage missing.ids] := by
  rw [missingComplaints]
  split <;> rfl

/-- Missing scenes are no repetition. -/
theorem repetitions_missingComplaints : repetitions (missingComplaints missing) = [] := by
  rw [missingComplaints]
  split <;> rfl

end Complaints

section Scenes

/-- A file repeats an identifier where it declares it and another file did so before. -/
theorem filter_repetitions_fileComplaints :
    (repetitions (fileComplaints defined file)).filter (·.id = id) =
      ((Table.get? id defined).bind fun first =>
        (file.definition? id).map fun name => (⟨id, name, first⟩ : Repetition)).toList := by
  cases file with
  | unreadable file reason => cases Table.get? id defined <;> rfl
  | checked scene =>
    rw [fileComplaints, repetitions_append, repetitions_map_misfit, List.nil_append, repetitionOf?,
      SceneFile.definition?]
    cases scene.id? with
    | none => cases Table.get? id defined <;> rfl
    | some own =>
      by_cases same : own = id
      · subst same
        cases known : Table.get? own defined <;> simp [known, repetitions, repetition?]
      · -- What is repeated of another identifier does not count.
        cases Table.get? own defined <;> cases Table.get? id defined <;>
          simp [repetitions, repetition?, same]

/-- Of several files those repeat an identifier that declare it, except for the first of all. -/
theorem filter_repetitions_sceneComplaints :
    (repetitions (sceneComplaints defined files)).filter (·.id = id) =
      Repetition.ofDeclarers id
        ((Table.get? id defined).toList ++ files.filterMap (SceneFile.definition? id)) := by
  -- By induction on the files, for every table that the earlier ones may have left.
  induction files generalizing defined with
  | nil => cases Table.get? id defined <;> rfl
  | cons file rest ih =>
    rw [sceneComplaints, repetitions_append, List.filter_append, ih, get?_definedAfter,
      filter_repetitions_fileComplaints, List.filterMap_cons]
    cases Table.get? id defined with
    | none =>
      -- The first file that declares the identifier repeats nothing, and is cited from then on.
      cases file.definition? id <;> rfl
    | some first => cases file.definition? id <;> rfl

/-- The complaints about a file are those that it has of its own, and those about repetitions. -/
theorem length_fileComplaints :
    (fileComplaints defined file).length =
      file.ownErrors + (repetitions (fileComplaints defined file)).length := by
  -- A checked file has its own complaints and at most one repetition.
  cases file with
  | unreadable file reason => rfl
  | checked scene =>
    rw [fileComplaints, repetitions_append, repetitions_map_misfit, List.length_append,
      List.length_map, SceneFile.ownErrors]
    cases repetitionOf? defined scene <;> rfl

/-- The complaints about several files are those that each has of its own, and those about
repetitions. -/
theorem length_sceneComplaints :
    (sceneComplaints defined files).length = (files.map SceneFile.ownErrors).sum +
      (repetitions (sceneComplaints defined files)).length := by
  -- The definitions so far change from file to file, so they stay general.
  induction files generalizing defined with
  | nil => rfl
  | cons file rest ih =>
    have later := @ih (definedAfter defined file)
    rw [sceneComplaints, repetitions_append, List.length_append, List.length_append, List.map_cons,
      List.sum_cons, length_fileComplaints]
    omega

/-- There are as many repetitions as declared identifiers, without one for each different
identifier. -/
theorem length_repetitions_sceneComplaints :
    (repetitions (sceneComplaints [] files)).length + (declaredIds files).toFinset.card =
      (declaredIds files).length := by
  -- The errors are counted once as complaints and once by the table of definitions.
  have lengths := @length_sceneComplaints [] files
  have errors := congrArg List.length (@map_message_sceneComplaints [] files)
  have counted := @length_flatten_sceneErrors [] files
  have defined := @toFinset_keys_foldl_definedAfter [] files
  -- Nothing is defined before the first file.
  have nothing : (Table.keys ([] : Table String)).toFinset = ∅ := rfl
  rw [nothing, Finset.empty_union] at defined
  rw [defined, nothing, Finset.card_empty] at counted
  rw [List.length_map] at errors
  omega

/-- The files that define an identifier for the checks are those that declare it. -/
theorem filterMap_definition? {paths : List Path}
    (checked : List.Forall₂ (fun path file => checkScene disk corpus registry path = .ok file)
      paths files) :
    files.filterMap (SceneFile.definition? id) =
      (((disk.readable paths).filter fun scene => Corpus.declaredId? scene.2 = some id).map
        Prod.fst).map corpus.relativeName := by
  -- An unreadable file declares nothing, and is no readable document either.
  induction checked with
  | nil => rfl
  | @cons path file paths files first _ ih =>
    rw [List.filterMap_cons, ih]
    rcases checkScene_cases first with
      ⟨document, messages, read, -, rfl⟩ | ⟨reason, unread, rfl⟩
    · rw [Disk.readable_cons_of_ok read, SceneFile.definition?, CheckedScene.id?]
      by_cases declared : Corpus.declaredId? document = some id <;> simp [declared]
    · rcases unread with unread | unread
      · rw [Disk.readable_cons_of_error unread]
        rfl
      · rw [Disk.readable_cons_of_error unread]
        rfl

end Scenes

section Provenance

/-- A document of a corpus, with the name of its schema and the label of its messages. -/
inductive IsDocument (disk : Disk) (corpus : Corpus) (manifest : Json) :
    String → Json → String → Prop where
  | manifest : IsDocument disk corpus manifest "manifest" manifest Corpus.manifestName
  | scene {path : Path} {document : Json} (listed : path ∈ corpus.scenePaths disk)
      (read : disk.readJson path = .ok document) :
      IsDocument disk corpus manifest "scene" document (corpus.relativeName path)
  | optional {file name : String} {document : Json} (listed : (file, name) ∈ optionalFiles)
      (read : disk.readJson (corpus.optionalPath file) = .ok document) :
      IsDocument disk corpus manifest name document file

/-- A complaint is no repetition in disguise: it has its ground in a document that does not fit its
schema, in a file that gives no document, or in scenes that are missing. -/
inductive IsFounded (disk : Disk) (corpus : Corpus) (registry : Schema.Registry) (manifest : Json)
    (missing : IdSet) : Complaint → Prop where
  | misfit {name label message : String} {document : Json} {messages : List String}
      (among : IsDocument disk corpus manifest name document label)
      (checked : documentMessages registry name document label = .ok messages)
      (told : message ∈ messages) :
      IsFounded disk corpus registry manifest missing (.misfit message)
  | unreadable {path : Path} {reason : String} (listed : path ∈ contentFiles corpus disk)
      (unread : disk.readJson path = .error (.unparsable reason) ∨
        disk.readJson path = .error .notFound) :
      IsFounded disk corpus registry manifest missing
        (.unreadable (corpus.relativeName path) reason)
  | repeated (repetition : Repetition) :
      IsFounded disk corpus registry manifest missing (.repeated repetition)
  | missing (lacking : missing.ids ≠ []) :
      IsFounded disk corpus registry manifest missing (.missing missing.ids)

/-- The messages of a document are founded complaints. -/
theorem isFounded_of_mem_map_misfit {name label : String} {document : Json} {messages : List String}
    (among : IsDocument disk corpus manifest name document label)
    (checked : documentMessages registry name document label = .ok messages) :
    ∀ complaint ∈ messages.map Complaint.misfit,
      IsFounded disk corpus registry manifest missing complaint := by
  intro complaint member
  -- Each misfit is a message of the document's check.
  obtain ⟨message, told, rfl⟩ := List.mem_map.1 member
  exact .misfit among checked told

/-- The complaints about a scene file are founded. -/
theorem isFounded_of_mem_fileComplaints (listed : path ∈ corpus.scenePaths disk)
    (checked : checkScene disk corpus registry path = .ok file) :
    ∀ complaint ∈ fileComplaints defined file,
      IsFounded disk corpus registry manifest missing complaint := by
  -- A checked file complains of misfits and repetitions, an unreadable one of itself.
  rcases checkScene_cases checked with
    ⟨document, messages, read, found, rfl⟩ | ⟨reason, unread, rfl⟩
  · intro complaint member
    rcases List.mem_append.1 member with own | again
    · exact isFounded_of_mem_map_misfit (.scene listed read) found complaint own
    · obtain ⟨repetition, -, rfl⟩ := Option.map_eq_some_iff.1 (Option.mem_toList.1 again)
      exact .repeated repetition
  · intro complaint member
    cases List.mem_singleton.1 member
    exact .unreadable (List.mem_append_left _ listed) unread

/-- The complaints about several scene files are founded. -/
theorem isFounded_of_mem_sceneComplaints {paths : List Path}
    (listed : ∀ path ∈ paths, path ∈ corpus.scenePaths disk)
    (checked : List.Forall₂ (fun path file => checkScene disk corpus registry path = .ok file)
      paths files) :
    ∀ complaint ∈ sceneComplaints defined files,
      IsFounded disk corpus registry manifest missing complaint := by
  -- Each file's complaints are founded whatever was defined before it.
  induction checked generalizing defined with
  | nil => exact List.forall_mem_nil _
  | cons first _ ih =>
    obtain ⟨head, tail⟩ := List.forall_mem_cons.1 listed
    exact List.forall_mem_append.2 ⟨isFounded_of_mem_fileComplaints head first, ih tail⟩

/-- The complaints about a document that may be left out are founded. -/
theorem isFounded_of_mem_optionalComplaints {entry : String × String} {file : OptionalFile}
    (listed : entry ∈ optionalFiles)
    (checked : checkOptional disk corpus registry entry.1 entry.2 = .ok file) :
    ∀ complaint ∈ optionalComplaints file,
      IsFounded disk corpus registry manifest missing complaint := by
  -- Absent files are silent, checked ones complain of misfits, the rest of themselves.
  rcases checkOptional_cases checked with
    ⟨-, rfl⟩ | ⟨document, messages, read, found, rfl⟩ | ⟨reason, unread, rfl⟩
  · exact List.forall_mem_nil _
  · exact isFounded_of_mem_map_misfit (.optional listed read) found
  · intro complaint member
    cases List.mem_singleton.1 member
    have listed' : corpus.optionalPath entry.1 ∈ contentFiles corpus disk :=
      List.mem_append_right _ (List.mem_filter.2
        ⟨List.mem_map_of_mem listed, Disk.isFile_of_unparsable unread⟩)
    exact .unreadable listed' (.inl unread)

/-- The complaints about several documents that may be left out are founded. -/
theorem isFounded_of_mem_flatMap_optionalComplaints {entries : List (String × String)}
    {files : List OptionalFile} (listed : ∀ entry ∈ entries, entry ∈ optionalFiles)
    (checked : List.Forall₂ (fun (name, schema) file =>
      checkOptional disk corpus registry name schema = .ok file) entries files) :
    ∀ complaint ∈ files.flatMap optionalComplaints,
      IsFounded disk corpus registry manifest missing complaint := by
  -- The files stand beside the entries they were checked for.
  induction checked with
  | nil => exact List.forall_mem_nil _
  | cons first _ ih =>
    obtain ⟨head, tail⟩ := List.forall_mem_cons.1 listed
    exact List.forall_mem_append.2 ⟨isFounded_of_mem_optionalComplaints head first, ih tail⟩

/-- The complaint about missing scenes is founded. -/
theorem isFounded_of_mem_missingComplaints : ∀ complaint ∈ missingComplaints missing,
    IsFounded disk corpus registry manifest missing complaint := by
  intro complaint member
  rw [missingComplaints] at member
  -- There is one complaint, and only when ids are missing.
  split at member
  · cases member
  · next lacking =>
    cases List.mem_singleton.1 member
    exact .missing (by simpa using lacking)

end Provenance

section Texts

/-- How every message about a repetition begins. -/
def repetitionOpening : List Char := "Duplicate scene id ".toList

/-- Whether a message begins like one about a repetition. -/
def beginsRepeated (message : String) : Bool := repetitionOpening.isPrefixOf message.toList

/-- No scene file has a name that begins like a message about a repetition. -/
def HasPlainNames (corpus : Corpus) (disk : Disk) : Prop :=
  ∀ path ∈ corpus.scenePaths disk, beginsRepeated (corpus.relativeName path) = false

/-- A beginning without a character that comes later ends before it. -/
theorem prefix_of_prefix_append_cons {α : Type} {first front back : List α} {mark : α}
    (absent : mark ∉ first) (begins : first <+: front ++ mark :: back) : first <+: front := by
  -- By induction on what comes before the character, for every beginning of it.
  induction front generalizing first with
  | nil =>
    cases first with
    | nil => exact List.nil_prefix
    | cons head rest =>
      obtain ⟨same, -⟩ := List.cons_prefix_cons.1 begins
      exact absurd (same ▸ List.mem_cons_self) absent
  | cons next front ih =>
    cases first with
    | nil => exact List.nil_prefix
    | cons head rest =>
      obtain ⟨same, begins⟩ := List.cons_prefix_cons.1 begins
      exact List.cons_prefix_cons.2 ⟨same, ih (fun later => absent (.tail _ later)) begins⟩

/-- A message about a misfit begins like one about a repetition only if the label of its document
does. -/
theorem beginsRepeated_of_remark {label : String} {remark : Schema.Remark}
    (begins : beginsRepeated (remark.message label) = true) : beginsRepeated label = true := by
  have parts : remark.message label =
      label ++ ":" ++ Schema.Pointer.written remark.steps ++ " - " ++ remark.text := rfl
  have split : (remark.message label).toList = label.toList ++
      ':' :: (Schema.Pointer.written remark.steps ++ " - " ++ remark.text).toList := by
    simp [parts, String.toList_append]
  rw [beginsRepeated, List.isPrefixOf_iff_prefix] at begins ⊢
  rw [split] at begins
  -- The label ends at a colon, which no such beginning has.
  have absent : ':' ∉ repetitionOpening := by decide
  exact prefix_of_prefix_append_cons absent begins

/-- The message of a document is that of a remark after the label of the document. -/
theorem exists_remark_of_mem {name label message : String} {document : Json}
    {messages : List String}
    (checked : documentMessages registry name document label = .ok messages)
    (told : message ∈ messages) : ∃ remark : Schema.Remark, message = remark.message label := by
  -- A name without a schema gives no messages, and an obstacle gives no list of them.
  rw [documentMessages] at checked
  split at checked
  · cases checked
    cases told
  · rw [mapError_eq_ok_iff, Schema.Findings.messages] at checked
    split at checked
    · cases checked
    · cases checked
      obtain ⟨remark, -, rfl⟩ := List.mem_map.1 told
      exact ⟨remark, rfl⟩

/-- Where the names of scene files are plain, so are the labels of all documents. -/
theorem beginsRepeated_label {name label : String} {document : Json}
    (plain : HasPlainNames corpus disk)
    (among : IsDocument disk corpus manifest name document label) :
    beginsRepeated label = false := by
  -- The manifest and the optional files have fixed names; scene files are assumed plain.
  cases among with
  | manifest => decide
  | scene listed _ => exact plain _ listed
  | optional listed _ =>
    have each : ∀ entry ∈ optionalFiles, beginsRepeated entry.1 = false := by decide
    exact each _ listed

/-- A message whose first character is another one does not begin like one about a repetition. -/
theorem beginsRepeated_append {head : Char} {opening : String} (rest : String)
    (starts : opening.toList.head? = some head) (apart : head ≠ 'D') :
    beginsRepeated (opening ++ rest) = false := by
  obtain ⟨tail, written⟩ := List.head?_eq_some_iff.1 starts
  -- The first characters already differ.
  rw [beginsRepeated, String.toList_append, written, List.cons_append, ← Bool.not_eq_true,
    List.isPrefixOf_iff_prefix]
  exact fun begins => apart (List.cons_prefix_cons.1 begins).1.symm

/-- A message about a repetition begins like one. -/
theorem beginsRepeated_duplicateMessage (id file first : String) :
    beginsRepeated (duplicateMessage id file first) = true := by
  -- Regrouped, the message begins with the words looked for.
  have parts : duplicateMessage id file first = "Duplicate scene id " ++
      ("'" ++ id ++ "' in " ++ file ++ " (already defined in " ++ first ++ ")") := by
    simp only [← String.append_assoc]
    rfl
  rw [beginsRepeated, List.isPrefixOf_iff_prefix, parts, String.toList_append]
  exact List.prefix_append _ _

/-- A message about a file that cannot be read begins otherwise. -/
theorem beginsRepeated_loadFailureMessage (file reason : String) :
    beginsRepeated (loadFailureMessage file reason) = false := by
  -- Regrouped, the message begins with another letter.
  have parts : loadFailureMessage file reason = "Failed to load " ++ (file ++ ": " ++ reason) := by
    simp only [← String.append_assoc]
    rfl
  rw [parts]
  exact beginsRepeated_append _ rfl (by decide)

/-- A message about missing scenes begins otherwise. -/
theorem beginsRepeated_missingMessage (ids : List String) :
    beginsRepeated (missingMessage ids) = false := by
  -- Regrouped, the message begins with another letter.
  have parts : missingMessage ids = "Missing " ++ (toString ids.length ++
      " scene(s) referenced by content: " ++ String.intercalate ", " (sortIds ids)) := by
    simp only [← String.append_assoc]
    rfl
  rw [parts]
  exact beginsRepeated_append _ rfl (by decide)

/-- Where the names of scene files are plain, a founded complaint begins like one about a repetition
exactly if it is one. -/
theorem beginsRepeated_message {complaint : Complaint} (plain : HasPlainNames corpus disk)
    (founded : IsFounded disk corpus registry manifest missing complaint) :
    beginsRepeated complaint.message = complaint.repetition?.isSome := by
  cases founded with
  | misfit among checked told =>
    -- A message of a schema begins with the label of its document.
    obtain ⟨remark, rfl⟩ := exists_remark_of_mem checked told
    refine Bool.eq_false_iff.2 fun begins => ?_
    cases (beginsRepeated_of_remark begins).symm.trans (beginsRepeated_label plain among)
  | unreadable _ _ => exact beginsRepeated_loadFailureMessage _ _
  | repeated repetition => exact beginsRepeated_duplicateMessage _ _ _
  | missing _ => exact beginsRepeated_missingMessage _

/-- The messages that begin like one about a repetition are the repetitions in words. -/
theorem filter_beginsRepeated {complaints : List Complaint} (plain : HasPlainNames corpus disk)
    (founded : ∀ complaint ∈ complaints,
      IsFounded disk corpus registry manifest missing complaint) :
    (complaints.map message).filter beginsRepeated =
      (repetitions complaints).map Repetition.message := by
  -- Of the complaints, only a repetition's text begins with those words.
  induction complaints with
  | nil => rfl
  | cons complaint rest ih =>
    obtain ⟨first, later⟩ := List.forall_mem_cons.1 founded
    have told := beginsRepeated_message plain first
    rw [repetitions] at ih ⊢
    rw [List.map_cons, List.filter_cons, told, ih later, List.filterMap_cons]
    cases complaint <;> rfl

end Texts

end Validation

/-- A verdict tells of identifiers that several files declare exactly as they are repeated. -/
structure Verdict.TellsRepetitions (disk : Disk) (settings : Settings) (registry : Schema.Registry)
    (manifest : Json) (verdict : Verdict) (complaints : List Complaint) : Prop where
  errors : verdict.errors = complaints.map Complaint.message
  -- Whatever is not told as a repetition has a ground of its own.
  founded : ∀ complaint ∈ complaints,
    Validation.IsFounded disk settings.corpus registry manifest verdict.missing complaint
  -- The files that declare an identifier come in order of their names.
  ordered : ∀ id, ∃ names : List String, names.Pairwise (· ≤ ·) ∧
    settings.corpus.declarers disk id = names.map settings.corpus.scenes.child
  -- Each of them but the first is told to repeat the identifier of the first.
  each : ∀ id, (Complaint.repetitions complaints).filter (·.id = id) =
    Repetition.ofDeclarers id ((settings.corpus.declarers disk id).map settings.corpus.relativeName)
  total : (Complaint.repetitions complaints).length +
    (settings.corpus.declaredIds disk).toFinset.card = (settings.corpus.declaredIds disk).length
  -- Unless the name of a scene file begins like one, the messages are known by how they begin.
  texts : Validation.HasPlainNames settings.corpus disk →
    verdict.errors.filter Validation.beginsRepeated =
      (Complaint.repetitions complaints).map Repetition.message

namespace Validation

variable {disk : Disk} {settings : Settings} {registry : Schema.Registry} {manifest : Json}
  {messages : List String} {survey : Survey} {verdict : Verdict}

/-- The complaints of a verdict on a survey of scene files and other documents. -/
def complaintsOn (messages : List String) (survey : Survey) (missing : IdSet) : List Complaint :=
  messages.map .misfit ++ sceneComplaints [] survey.scenes ++
    survey.optional.flatMap optionalComplaints ++ missingComplaints missing

/-- The errors of a verdict that is drawn from files are complaints in words. -/
theorem Draws.errors_eq_map_message
    (draws : Draws disk settings registry manifest messages survey verdict) :
    verdict.errors = (complaintsOn messages survey verdict.missing).map Complaint.message := by
  -- The errors have the same four parts as the complaints.
  rw [draws.errors_eq, complaintsOn, List.map_append, List.map_append, List.map_append,
    Complaint.map_message_map_misfit, map_message_sceneComplaints, map_message_optionalComplaints,
    map_message_missingComplaints]

/-- Only scene files repeat an identifier. -/
theorem repetitions_complaintsOn (missing : IdSet) :
    Complaint.repetitions (complaintsOn messages survey missing) =
      Complaint.repetitions (sceneComplaints [] survey.scenes) := by
  -- Only scenes repeat a definition.
  rw [complaintsOn, Complaint.repetitions_append, Complaint.repetitions_append,
    Complaint.repetitions_append, Complaint.repetitions_map_misfit, repetitions_optionalComplaints,
    repetitions_missingComplaints, List.nil_append, List.append_nil, List.append_nil]

/-- The complaints of a verdict that is drawn from files are founded. -/
theorem Draws.isFounded_of_mem
    (draws : Draws disk settings registry manifest messages survey verdict) :
    ∀ complaint ∈ complaintsOn messages survey verdict.missing,
      IsFounded disk settings.corpus registry manifest verdict.missing complaint := by
  -- Manifest, scenes, optional files and missing ids in turn.
  simp only [complaintsOn, List.forall_mem_append]
  exact ⟨⟨⟨isFounded_of_mem_map_misfit .manifest draws.manifest_checked,
    isFounded_of_mem_sceneComplaints (fun _ listed => listed) draws.covers.scenes⟩,
    isFounded_of_mem_flatMap_optionalComplaints (fun _ listed => listed) draws.covers.optional⟩,
    isFounded_of_mem_missingComplaints⟩

/-- A verdict that is drawn from files tells exactly what is repeated in them. -/
theorem Draws.tellsRepetitions
    (draws : Draws disk settings registry manifest messages survey verdict) :
    verdict.TellsRepetitions disk settings registry manifest
      (complaintsOn messages survey verdict.missing) := by
  constructor
  case errors => exact draws.errors_eq_map_message
  case founded => exact draws.isFounded_of_mem
  -- The clauses for each id and for their total both count the repetitions among the scenes.
  case ordered => exact settings.corpus.exists_names_declarers disk
  case each =>
    intro id
    rw [repetitions_complaintsOn, filter_repetitions_sceneComplaints, Table.get?,
      filterMap_definition? draws.covers.scenes]
    rfl
  case total =>
    rw [repetitions_complaintsOn, Corpus.declaredIds, ← draws.covers.declaredIds_eq]
    exact length_repetitions_sceneComplaints
  case texts =>
    intro plain
    rw [draws.errors_eq_map_message]
    exact filter_beginsRepeated plain draws.isFounded_of_mem

/-- Whatever a corpus holds, the verdict on it tells exactly which files repeat the identifier of an
earlier one, and nothing else as such. -/
theorem repetitions_are_exact (ended : Validation.verdict disk settings = .ok verdict) :
    ∃ loaded manifest complaints,
      Schema.Registry.load disk settings.content settings.schemas = .ok loaded ∧
      settings.corpus.readManifest disk = .ok manifest ∧
      verdict.TellsRepetitions disk settings (.ofLoaded loaded) manifest complaints := by
  -- A verdict draws on what was loaded and read.
  obtain ⟨loaded, manifest, messages, survey, loading, draws⟩ := exists_draws ended
  exact ⟨loaded, manifest, _, loading, draws.manifest_read, draws.tellsRepetitions⟩

/-- Content in which three files declare one scene and two another one, among a file that cannot be
read and one without an identifier. -/
def repeatedDisk : Disk := openDisk [
  jsonFile ["manifest.json"] (.object []),
  jsonFile ["scenes", "a.json"] (.object [("id", .text "x")]),
  (["content", "scenes", "b.json"], asciiFile "["),
  jsonFile ["scenes", "c.json"] (.object [("id", .text "y")]),
  jsonFile ["scenes", "d.json"] (.object [("id", .text "x")]),
  jsonFile ["scenes", "e.json"] (.object [("id", .text "")]),
  jsonFile ["scenes", "f.json"] (.object [("id", .text "y")]),
  jsonFile ["scenes", "g.json"] (.object [("id", .text "x")])]

/-- Of the five files three repeat an identifier, each told with the first file that declares it. -/
theorem repetitions_are_exact_repeated :
    ∃ verdict, Validation.verdict repeatedDisk openSettings = .ok verdict ∧
      verdict.errors = ["Failed to load scenes/b.json: Expecting value (line 1, column 2)",
        "Duplicate scene id 'x' in scenes/d.json (already defined in scenes/a.json)",
        "Duplicate scene id 'y' in scenes/f.json (already defined in scenes/c.json)",
        "Duplicate scene id 'x' in scenes/g.json (already defined in scenes/a.json)"] ∧
      ∃ loaded manifest complaints,
        Schema.Registry.load repeatedDisk openSettings.content openSettings.schemas = .ok loaded ∧
        openSettings.corpus.readManifest repeatedDisk = .ok manifest ∧
        verdict.TellsRepetitions repeatedDisk openSettings (.ofLoaded loaded) manifest
          complaints := by
  have listed : openSettings.corpus.scenePaths repeatedDisk =
      ["a.json", "b.json", "c.json", "d.json", "e.json", "f.json", "g.json"].map openScene :=
    scenePaths_openDisk rfl (by decide +kernel)
  obtain ⟨verdict, ended, errors⟩ : ∃ verdict,
      Validation.verdict repeatedDisk openSettings = .ok verdict ∧
        verdict.errors = ["Failed to load scenes/b.json: Expecting value (line 1, column 2)",
          "Duplicate scene id 'x' in scenes/d.json (already defined in scenes/a.json)",
          "Duplicate scene id 'y' in scenes/f.json (already defined in scenes/c.json)",
          "Duplicate scene id 'x' in scenes/g.json (already defined in scenes/a.json)"] := by
    refine exists_verdict ?_
    -- The listing is put in place first, because sorting does not compute.
    unfold Validation.verdict run runLoaded runFiles survey
    simp only [Recording.after_nowhere, listed]
    decide +kernel
  exact ⟨verdict, ended, errors, repetitions_are_exact ended⟩

end Validation

end Gamebook
