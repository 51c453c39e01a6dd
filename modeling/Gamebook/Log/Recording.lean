import Gamebook.Log.Journal

/-! What a run does to the tree that it reads: its events may be recorded in a file there. -/

namespace Gamebook

/-- What the recording of events does to a tree. -/
def Recording : Type := List Event → Disk → Disk

namespace Recording

/-- Events are recorded nowhere. -/
def nowhere : Recording := fun _ disk => disk

/-- Events are recorded in the file that is attached to a journal. -/
def ofJournal (journal : Journal) : Recording := fun events disk => journal.appendTo events disk

/-- The tree after events. -/
def after (recording : Recording) (events : List Event) (disk : Disk) : Disk :=
  recording events disk

/-- A tree stays as it is where events are recorded nowhere. -/
@[simp] theorem after_nowhere (events : List Event) (disk : Disk) :
    nowhere.after events disk = disk := rfl

end Recording

end Gamebook
