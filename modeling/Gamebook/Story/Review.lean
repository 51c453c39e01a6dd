import Gamebook.Story.Manifest
import Gamebook.Reference.Scene

/-! Reviews of single documents: their shape, and the scenes that they name. -/

namespace Gamebook.Story

/-- The part of a document that names a scene. -/
inductive Link where
  | start
  | ending (place : Nat)
  | convergence (hub : String)
  | reference
  deriving DecidableEq, Repr

/-- Something wrong with a document. -/
inductive Finding where
  | shape (issue : Issue)
  | brokenLink (link : Link) (target : String)
  | deadEnd
  deriving DecidableEq, Repr

/-- The findings on one document. -/
structure Review where
  -- The identifier of a scene document, if it is a text.
  subject : Option String
  errors : List Finding
  warnings : List Finding

namespace Finding

/-- The word for the kind of a finding. -/
def kindName : Finding → String
  | shape _ => "schema-error"
  | brokenLink _ _ => "broken-link"
  | deadEnd => "dead-end"

/-- A finding in words; a reference names the scene that makes it, if that has an identifier. -/
def message (subject : Option String) : Finding → String
  | shape issue => issue.message
  | brokenLink .start target => s!"Starting scene '{target}' is not in the scene index"
  | brokenLink (.ending place) target => s!"Ending {place} targets unknown scene '{target}'"
  | brokenLink (.convergence hub) target =>
    s!"Convergence scene '{target}' of hub '{hub}' is not in the scene index"
  | brokenLink .reference target =>
    let label := match subject with
      | some id => if id = "" then "Scene" else s!"Scene '{id}'"
      | none => "Scene"
    s!"{label} references unknown scene '{target}'"
  | deadEnd => "Scene has no choices (dead end or ending)"

/-- The scene that a finding is about: the target of a link of a manifest, else the subject. -/
def scene? (subject : Option String) : Finding → Option String
  | brokenLink .reference _ => subject
  | brokenLink _ target => some target
  | _ => subject

end Finding

namespace Review

/-- Whether nothing is wrong with a document. -/
def isValid (review : Review) : Bool := review.errors.isEmpty

/-- The keys under which a manifest declares scenes. -/
def declaredKeys (manifest : Json) : List String :=
  Table.keys ((manifest.get? "sceneIndex").getD .null).members

/-- The items of a member that is a list. -/
def itemsAt (key : String) (value : Json) : List Json :=
  match value.get? key with
  | some (.list items) => items
  | _ => []

/-- The scene that the manifest names as its start. -/
def startLinks (manifest : Json) : List (Link × String) :=
  (targetAt? "startingScene" manifest).toList.map (.start, ·)

/-- The scenes that endings name, with the places of the endings. -/
def endingLinks (manifest : Json) : List (Link × String) :=
  (itemsAt "endings" manifest).zipIdx.filterMap fun (ending, place) =>
    (targetAt? "sceneId" ending).map (.ending place, ·)

/-- The hubs of the acts of a manifest. -/
def hubs (manifest : Json) : List Json :=
  ((itemsAt "acts" manifest).flatMap (itemsAt "hubs")).filter Json.isObject

/-- The scenes in which hubs come together. -/
def convergenceLinks (manifest : Json) : List (Link × String) :=
  (hubs manifest).filterMap fun hub =>
    (targetAt? "convergenceScene" hub).map
      (.convergence (((hub.get? "title").map Json.plain).getD "?"), ·)

/-- Every scene that a manifest names outside its index. -/
def manifestLinks (manifest : Json) : List (Link × String) :=
  startLinks manifest ++ endingLinks manifest ++ convergenceLinks manifest

/-- The review of a manifest: its shape, and the scenes named that are no keys of its index. -/
def ofManifest (manifest : Json) : Review :=
  { subject := none
    errors := (Manifest.read manifest).issues.map .shape ++
      ((manifestLinks manifest).filter fun (_, target) =>
        !(declaredKeys manifest).contains target).map fun (link, target) => .brokenLink link target
    warnings := [] }

/-- The review of a scene: its shape, and the scenes that it refers to and that are not known. -/
def ofScene (scene : Json) (known : List String) : Review :=
  { subject := (scene.get? "id").bind Json.text?
    errors := (Scene.read scene).issues.map .shape ++
      ((sceneReferences .everything scene).ids.filter fun target => !known.contains target).map
        (.brokenLink .reference)
    warnings := if ((scene.get? "choices").getD .null).isTruthy then [] else [.deadEnd] }

end Review

end Gamebook.Story
