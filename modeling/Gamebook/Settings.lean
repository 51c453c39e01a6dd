import Gamebook.Corpus
import Gamebook.Reachability

/-! The settings of a run. -/

namespace Gamebook

/-- Where content lies and how strictly it is judged. -/
structure Settings where
  content : Path
  schemas : Option Path
  scenes : String
  failOnWarnings : Bool
  strict : Bool
  maxDepth : Int
  deriving DecidableEq, Repr

namespace Settings

/-- The usual content directory. -/
def defaultContent : Path := .ofText "content"

/-- The settings of a content directory that has none of its own. -/
def defaults (content : Path) : Settings :=
  { content, schemas := none, scenes := Corpus.defaultScenes, failOnWarnings := false,
    strict := false, maxDepth := Reachability.defaultMaxDepth }

/-- The corpus that settings point at. -/
def corpus (settings : Settings) : Corpus := .below settings.content settings.scenes

end Settings

end Gamebook
