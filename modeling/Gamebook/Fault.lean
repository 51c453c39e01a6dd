import Gamebook.Disk
import Gamebook.Document
import Gamebook.Schema.Violation

/-! Faults that end a run: no stage reports them as findings. -/

namespace Gamebook

/-- What ends a run. -/
inductive Fault where
  -- A JSON text writes an integer with too many digits.
  | integerTooLong (digits : Nat)
  -- A schema file is no UTF-8 text.
  | undecodable (fault : Text.Utf8Fault)
  -- A check by a schema cannot go on.
  | blocked (obstacle : Schema.Obstacle)
  -- A depth is given as an infinity.
  | infiniteDepth
  -- The log file cannot be made.
  | unwritable (fault : DiskFault)

/-- The report of an infinity that should be an integer. -/
def infiniteDepthMessage : String := "cannot convert float infinity to integer"

/-- A fault in words. -/
def Fault.message : Fault → String
  | integerTooLong digits => Text.integerTooLongMessage digits
  | undecodable fault => fault.message
  | blocked obstacle => obstacle.message
  | infiniteDepth => infiniteDepthMessage
  | unwritable fault => fault.message

end Gamebook
