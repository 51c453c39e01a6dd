import Gamebook.Proofs.Json
import Gamebook.Proofs.Story.Checked
import Gamebook.Story.Scene

/-! A scene document without issues is accepted: no reader refuses without a reason. -/

namespace Gamebook.Story

open Checked

namespace Effect

/-- An action is refused for the reasons of its fields. -/
theorem isReasoned_readAction (members : List (String × Json)) (kind : EffectKind) :
    (readAction members kind).IsReasoned := by
  have name (field : Field) : (field.required readName members).IsReasoned :=
    isReasoned_required isReasoned_readName field members
  have real (field : Field) : (field.required readReal members).IsReasoned :=
    isReasoned_required isReasoned_readReal field members
  have count (field : Field) : (field.optional none (orNull readCount) members).IsReasoned :=
    isReasoned_optional (isReasoned_orNull isReasoned_readCount) field none members
  have amount (field : Field) : (field.optional none (orNull readReal) members).IsReasoned :=
    isReasoned_optional (isReasoned_orNull isReasoned_readReal) field none members
  -- Each kind reads its fields in turn, and a refused field always gives a reason.
  cases kind with
  | setStat => exact isReasoned_seq (isReasoned_map (name _)) (real _)
  | modifyStat => exact isReasoned_seq (isReasoned_map (name _)) (real _)
  | setFlag => exact isReasoned_map (name _)
  | clearFlag => exact isReasoned_map (name _)
  | addItem => exact isReasoned_seq (isReasoned_map (name _)) (count _)
  | removeItem => exact isReasoned_seq (isReasoned_map (name _)) (count _)
  | goto => exact isReasoned_map (name _)
  | modifyFaction => exact isReasoned_seq (isReasoned_map (name _)) (amount _)

/-- The members of an effect are refused for the reasons of the tag or of the action. -/
theorem isReasoned_readMembers (members : List (String × Json)) (kind : EffectKind) :
    (readMembers members kind).IsReasoned :=
  isReasoned_seq (isReasoned_map (isReasoned_required (isReasoned_readTag _) _ _))
    (isReasoned_readAction members kind)

/-- An effect is refused for having no kind, or for the reasons of its members. -/
theorem isReasoned_read (value : Json) : (read value).IsReasoned := by
  unfold read
  -- No object, no tag, an unknown tag: each refusal states its reason.
  split
  · split
    · simp
    · split
      · simp
      · exact isReasoned_under (isReasoned_readMembers _ _)
  · simp

/-- Effects are refused for the reasons of a single effect. -/
theorem isReasoned_readSome (value : Json) : (readSome value).IsReasoned :=
  isReasoned_choose (isReasoned_read value)

end Effect

namespace Condition

variable {held : LogicalKind → Checked (OneOrMany Condition)}

/-- The members of a condition are refused for the reasons of the tag or of the fields. -/
theorem isReasoned_readMembers (reasoned : ∀ kind, (held kind).IsReasoned)
    (members : List (String × Json)) (kind : ConditionKind) :
    (readMembers held members kind).IsReasoned := by
  -- Every kind reads the tag before its own fields.
  have tag : (tagField.required (readTag kind.name) members).IsReasoned :=
    isReasoned_required (isReasoned_readTag _) _ _
  have name (field : Field) : (field.required readName members).IsReasoned :=
    isReasoned_required isReasoned_readName field members
  cases kind with
  | stat =>
    exact isReasoned_seq (isReasoned_seq (isReasoned_seq (isReasoned_map tag) (name _))
      (isReasoned_required isReasoned_readOperator _ _))
      (isReasoned_required isReasoned_readReal _ _)
  | flag => exact isReasoned_seq (isReasoned_map tag) (name _)
  | item =>
    exact isReasoned_seq (isReasoned_seq (isReasoned_map tag) (name _))
      (isReasoned_optional (isReasoned_orNull isReasoned_readCount) _ _ _)
  | faction =>
    exact isReasoned_seq (isReasoned_seq (isReasoned_map tag) (name _))
      (isReasoned_optional (isReasoned_orNull isReasoned_readReal) _ _ _)
  | logical kind => exact isReasoned_seq (isReasoned_map tag) (reasoned kind)

/-- A condition is refused for having no kind, or for the reasons of its members. -/
theorem isReasoned_readTagged (reasoned : ∀ kind, (held kind).IsReasoned)
    (members : List (String × Json)) : (readTagged held members).IsReasoned := by
  unfold readTagged
  -- A missing tag and an unknown one are both refused with a reason.
  split
  · simp
  · split
    · simp
    · exact isReasoned_under (isReasoned_readMembers reasoned _ _)

/-- A member that holds conditions gives a reason whenever each member does. -/
theorem isReasoned_readHeldMember {kind : LogicalKind} {members : List (String × Json)}
    (each : ∀ member ∈ members, (readHeld (some kind) member.2).IsReasoned) :
    (readHeldMember kind members).IsReasoned := by
  induction members with
  | nil => simp [readHeldMember]
  | cons first rest ih =>
    obtain ⟨here, later⟩ := List.forall_mem_cons.1 each
    rw [readHeldMember]
    -- The first member under the key is the one that is read.
    split
    · exact isReasoned_under here
    · exact ih later

/-- Held conditions: every list is also no single condition, which is reason enough. -/
theorem isReasoned_readHeld (holder : Option LogicalKind) (value : Json) :
    (readHeld holder value).IsReasoned := by
  -- By induction on the size: a condition is larger than what its members hold.
  induction size : value.size using Nat.strongRecOn generalizing holder value with
  | ind bound ih =>
    subst size
    cases value with
    | object members =>
      rw [readHeld]
      refine isReasoned_choose (isReasoned_readTagged (fun kind => ?_) members)
      exact isReasoned_readHeldMember fun member listed =>
        ih _ (Json.size_lt_of_mem_members listed) _ _ rfl
    | _ =>
      simp only [readHeld]
      exact isReasoned_choose (isReasoned_refuse _)

end Condition

/-- What is neither a text nor an object is refused for that. -/
theorem Passage.isReasoned_read (value : Json) : (read value).IsReasoned := by
  unfold read
  split <;> simp

/-- A choice is refused for the reasons of its fields. -/
theorem Choice.isReasoned_read (value : Json) : (read value).IsReasoned :=
  -- Text, target, conditions and effects, in the order they are read.
  isReasoned_readShape (fun members =>
    isReasoned_seq (isReasoned_seq (isReasoned_seq (isReasoned_map
      (isReasoned_optional (isReasoned_orNull isReasoned_readText) _ _ members))
      (isReasoned_optional (isReasoned_orNull isReasoned_readName) _ _ members))
      (isReasoned_optional (isReasoned_orNull (Condition.isReasoned_readHeld none)) _ _ members))
      (isReasoned_optional (isReasoned_orNull Effect.isReasoned_readSome) _ _ members)) value

/-- A scene is refused for the reasons of its fields. -/
theorem Scene.isReasoned_read (value : Json) : (read value).IsReasoned :=
  -- Id, title, text, effects and choices, in the order they are read.
  isReasoned_readShape (fun members =>
    isReasoned_seq (isReasoned_seq (isReasoned_seq (isReasoned_seq (isReasoned_map
      (isReasoned_required isReasoned_readName _ members))
      (isReasoned_optional (isReasoned_orNull isReasoned_readText) _ _ members))
      (isReasoned_optional (isReasoned_orNull Passage.isReasoned_read) _ _ members))
      (isReasoned_optional (isReasoned_orNull Effect.isReasoned_readSome) _ _ members))
      (isReasoned_optional (isReasoned_readList Choice.isReasoned_read) _ _ members)) value

end Gamebook.Story
