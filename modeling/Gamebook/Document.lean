import Gamebook.Disk
import Gamebook.Json.Reader
import Gamebook.Text.Utf8

/-! JSON documents as files hold them: UTF-8 text in which every line end counts as a line feed. -/

namespace Gamebook

/-- Why the bytes of a file are no document. -/
inductive DocumentFault where
  | undecodable (fault : Text.Utf8Fault)
  | malformed (problem : Json.ReadProblem) (position line column : Nat)
  | integerTooLong (digits : Nat)
  deriving DecidableEq

namespace Document

/-- The value that bytes write. -/
def ofBytes (bytes : List UInt8) : Except DocumentFault Json :=
  match Text.decodeUtf8 bytes with
  | .error fault => .error (.undecodable fault)
  | .ok chars =>
    match Json.parse (Text.normalizeNewlines chars) with
    | .ok value => .ok value
    | .error (.malformed problem position line column) =>
      .error (.malformed problem position line column)
    | .error (.integerTooLong digits) => .error (.integerTooLong digits)

end Document

end Gamebook
