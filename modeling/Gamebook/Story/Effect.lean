import Gamebook.Story.Scalar

/-! Effects of scenes and choices. -/

namespace Gamebook.Story

/-- What an effect does. -/
inductive Action where
  | setStat (stat : String) (value : Binary64)
  | modifyStat (stat : String) (value : Binary64)
  | setFlag (flag : String)
  | clearFlag (flag : String)
  | addItem (item : String) (count : Option Nat)
  | removeItem (item : String) (count : Option Nat)
  | goto (scene : String)
  | modifyFaction (faction : String) (amount : Option Binary64)
  deriving DecidableEq, Repr

/-- An effect, with the members that its shape does not declare. -/
structure Effect where
  action : Action
  extra : List (String × Json)
  deriving Repr

namespace Effect

/-- The name of the shape of a kind. -/
def shapeName : EffectKind → String
  | .setStat => "SetStatEffect"
  | .modifyStat => "ModifyStatEffect"
  | .setFlag => "SetFlagEffect"
  | .clearFlag => "ClearFlagEffect"
  | .addItem => "AddItemEffect"
  | .removeItem => "RemoveItemEffect"
  | .goto => "GotoEffect"
  | .modifyFaction => "ModifyFactionEffect"

/-- The label of the union of effects. -/
def label : String := unionLabel (EffectKind.all.map shapeName)

/-- The field of a stat's name. -/
def statField : Field := .named "stat"
/-- The field of a value. -/
def valueField : Field := .named "value"
/-- The field of a flag's name. -/
def flagField : Field := .named "flag"
/-- The field of an item's name. -/
def itemField : Field := .named "item"
/-- The field of a number of items. -/
def countField : Field := .named "count"
/-- The field of the scene that a transition leads to. -/
def sceneField : Field := ⟨"sceneId", "scene_id"⟩
/-- The field of a faction's name. -/
def factionField : Field := .named "faction"
/-- The field of a change of standing. -/
def amountField : Field := .named "amount"

/-- The fields of a kind besides its tag. -/
def fields : EffectKind → List Field
  | .setStat | .modifyStat => [statField, valueField]
  | .setFlag | .clearFlag => [flagField]
  | .addItem | .removeItem => [itemField, countField]
  | .goto => [sceneField]
  | .modifyFaction => [factionField, amountField]

/-- The action of a kind that members write. -/
def readAction (members : List (String × Json)) : EffectKind → Checked Action
  | .setStat =>
    .setStat <$> statField.required readName members <*> valueField.required readReal members
  | .modifyStat =>
    .modifyStat <$> statField.required readName members <*> valueField.required readReal members
  | .setFlag => .setFlag <$> flagField.required readName members
  | .clearFlag => .clearFlag <$> flagField.required readName members
  | .addItem =>
    .addItem <$> itemField.required readName members
      <*> countField.optional none (orNull readCount) members
  | .removeItem =>
    .removeItem <$> itemField.required readName members
      <*> countField.optional none (orNull readCount) members
  | .goto => .goto <$> sceneField.required readName members
  | .modifyFaction =>
    .modifyFaction <$> factionField.required readName members
      <*> amountField.optional none (orNull readReal) members

/-- The effect of a kind that members write. -/
def readMembers (members : List (String × Json)) (kind : EffectKind) : Checked Effect :=
  (fun _ action => ⟨action, extras (tagField :: fields kind) members⟩)
    <$> tagField.required (readTag kind.name) members <*> readAction members kind

/-- An effect of one kind. -/
def readKind (kind : EffectKind) : Json → Checked Effect :=
  readShape (shapeName kind) fun members => readMembers members kind

/-- An effect, its shape chosen by the tag. -/
def read : Json → Checked Effect
  | .object members =>
    match Table.get? tagField.key members with
    | none => .refuse .tagMissing
    | some tag =>
      match tag.text?.bind EffectKind.ofName? with
      | none => .refuse (.tagUnknown tag.plain (EffectKind.all.map EffectKind.name))
      | some kind => (readMembers members kind).under (.key kind.name)
  | _ => .refuse .notTagged

/-- One effect or a list of effects. -/
def readSome (value : Json) : Checked (OneOrMany Effect) :=
  OneOrMany.choose label (readList read value) (read value)

/-- The declared members of an action. -/
def actionMembers : Action → List (String × Json)
  | .setStat stat value =>
    [("type", .text EffectKind.setStat.name), ("stat", .text stat), ("value", .real value)]
  | .modifyStat stat value =>
    [("type", .text EffectKind.modifyStat.name), ("stat", .text stat), ("value", .real value)]
  | .setFlag flag => [("type", .text EffectKind.setFlag.name), ("flag", .text flag)]
  | .clearFlag flag => [("type", .text EffectKind.clearFlag.name), ("flag", .text flag)]
  | .addItem item count =>
    [("type", .text EffectKind.addItem.name), ("item", .text item),
      ("count", writtenOrNull (fun count => .int (count : Nat)) count)]
  | .removeItem item count =>
    [("type", .text EffectKind.removeItem.name), ("item", .text item),
      ("count", writtenOrNull (fun count => .int (count : Nat)) count)]
  | .goto scene => [("type", .text EffectKind.goto.name), ("sceneId", .text scene)]
  | .modifyFaction faction amount =>
    [("type", .text EffectKind.modifyFaction.name), ("faction", .text faction),
      ("amount", writtenOrNull .real amount)]

/-- An effect as a document. -/
def write (effect : Effect) : Json := .object (actionMembers effect.action ++ effect.extra)

/-- One effect or a list of effects as a document. -/
def writeSome : OneOrMany Effect → Json
  | .one effect => effect.write
  | .many effects => .list (effects.map write)

end Effect

end Gamebook.Story
