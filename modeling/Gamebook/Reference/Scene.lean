import Gamebook.Reference.Condition

/-! The outbound references of one scene document. -/

namespace Gamebook

/-- Which transitions of a scene count. -/
inductive Following where
  | everything
  | choicesOnly
  deriving DecidableEq, Repr

/-- The scenes that effects lead to, if effects count. -/
def Following.effectTargets (following : Following) (effects : Json) : List String :=
  match following with
  | .everything => Gamebook.effectTargets effects
  | .choicesOnly => []

/-- The scenes that the effects of a scene or choice lead to. -/
def Following.effectTargetsOf (following : Following) (holder : Json) : List String :=
  following.effectTargets ((holder.get? "effects").getD .null)

/-- Adds the scenes that one choice names: its target, then its conditions, then its effects. -/
def addChoiceTargets (following : Following) (choice : Json) (found : IdSet) : IdSet :=
  if choice.isObject then
    (addConditionTargets conditionFields ((choice.get? "conditions").getD .null)
      (found.insertAll (targetAt? "to" choice).toList)).insertAll (following.effectTargetsOf choice)
  else found

/-- Every scene that a scene document refers to; a value that is no object refers to none. -/
def sceneReferences (following : Following) (scene : Json) : IdSet :=
  (nodesAt "choices" scene).foldl (fun found choice => addChoiceTargets following choice found)
    (IdSet.ofList (following.effectTargetsOf scene))

end Gamebook
