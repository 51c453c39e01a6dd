import Gamebook.Story.Scalar

/-! Conditions on choices: comparisons and their logical combinations. -/

namespace Gamebook.Story

/-- A condition; each shape keeps the members that it does not declare. -/
inductive Condition where
  | stat (stat : String) (operator : StatOperator) (value : Binary64)
      (extra : List (String × Json))
  | flag (flag : String) (extra : List (String × Json))
  | item (item : String) (count : Option Nat) (extra : List (String × Json))
  | faction (faction : String) (level : Option Binary64) (extra : List (String × Json))
  | logical (kind : LogicalKind) (held : OneOrMany Condition) (extra : List (String × Json))

/-- The name of the shape of a kind. -/
def shapeName : ConditionKind → String
  | .stat => "StatCondition"
  | .flag => "FlagCondition"
  | .item => "ItemCondition"
  | .faction => "FactionCondition"
  | .logical .and => "AndCondition"
  | .logical .or => "OrCondition"
  | .logical .not => "NotCondition"

/-- How many shapes the label of a union names before it elides the rest: inside a logical
condition, those up to its own shape are elided. -/
def namedShapes : Option LogicalKind → Nat
  | none => 7
  | some .and => 4
  | some .or => 5
  | some .not => 6

/-- The label of the union of conditions, by the logical condition that holds it. -/
def conditionLabel (holder : Option LogicalKind) : String :=
  let count := namedShapes holder
  let names := ConditionKind.all.map shapeName
  unionLabel (names.take count ++ (names.drop count).map fun _ => "...")

namespace Condition

/-- The kind of a condition. -/
def kind : Condition → ConditionKind
  | stat .. => .stat
  | flag .. => .flag
  | item .. => .item
  | faction .. => .faction
  | logical kind _ _ => .logical kind

/-- The field of a stat's name. -/
def statField : Field := .named "stat"
/-- The field of a comparison operator. -/
def operatorField : Field := .named "operator"
/-- The field of a value. -/
def valueField : Field := .named "value"
/-- The field of a flag's name. -/
def flagField : Field := .named "flag"
/-- The field of an item's name. -/
def itemField : Field := .named "item"
/-- The field of the number of items that a condition requires. -/
def itemCountField : Field := ⟨"itemCount", "item_count"⟩
/-- The field of a faction's name. -/
def factionField : Field := .named "faction"
/-- The field of a standing with a faction. -/
def factionLevelField : Field := ⟨"factionLevel", "faction_level"⟩
/-- The field of held conditions. -/
def heldField : Field := .named "conditions"

/-- The condition that members write, given the conditions that a logical one holds. -/
def readMembers (held : LogicalKind → Checked (OneOrMany Condition))
    (members : List (String × Json)) (kind : ConditionKind) : Checked Condition :=
  let tagged := tagField.required (readTag kind.name) members
  match kind with
  | .stat =>
    (fun _ name operator value => stat name operator value
        (extras [tagField, statField, operatorField, valueField] members))
      <$> tagged <*> statField.required readName members
      <*> operatorField.required readOperator members <*> valueField.required readReal members
  | .flag =>
    (fun _ name => flag name (extras [tagField, flagField] members))
      <$> tagged <*> flagField.required readName members
  | .item =>
    (fun _ name count => item name count (extras [tagField, itemField, itemCountField] members))
      <$> tagged <*> itemField.required readName members
      <*> itemCountField.optional none (orNull readCount) members
  | .faction =>
    (fun _ name level =>
        faction name level (extras [tagField, factionField, factionLevelField] members))
      <$> tagged <*> factionField.required readName members
      <*> factionLevelField.optional none (orNull readReal) members
  | .logical kind =>
    (fun _ held => logical kind held (extras [tagField, heldField] members))
      <$> tagged <*> held kind

/-- The condition that members write, its shape chosen by the tag. -/
def readTagged (held : LogicalKind → Checked (OneOrMany Condition))
    (members : List (String × Json)) : Checked Condition :=
  match Table.get? tagField.key members with
  | none => .refuse .tagMissing
  | some tag =>
    match tag.text?.bind ConditionKind.ofName? with
    | none => .refuse (.tagUnknown tag.plain (ConditionKind.all.map ConditionKind.name))
    | some kind => (readMembers held members kind).under (.key kind.name)

/-- A list of conditions; a logical condition holds at least one. -/
def atLeastOne (holder : Option LogicalKind) (items : Checked (List Condition)) :
    Checked (List Condition) :=
  match holder, items with
  | some _, .accepted [] => .refuse .noItems
  | _, items => items

mutual

/-- One condition or a list of conditions, by the logical condition that holds them. -/
def readHeld (holder : Option LogicalKind) : Json → Checked (OneOrMany Condition)
  | .list items =>
    OneOrMany.choose (conditionLabel holder) (atLeastOne holder (readNodes 0 items))
      (.refuse .notTagged)
  | .object members =>
    OneOrMany.choose (conditionLabel holder) (.refuse .notList)
      (readTagged (fun kind => readHeldMember kind members) members)
  | _ => OneOrMany.choose (conditionLabel holder) (.refuse .notList) (.refuse .notTagged)

/-- The conditions under the first member called `conditions`. -/
def readHeldMember (kind : LogicalKind) : List (String × Json) → Checked (OneOrMany Condition)
  | [] => .refused [⟨[.key heldField.key], .missing⟩]
  | (key, value) :: rest =>
    if key = heldField.key then (readHeld (some kind) value).under (.key key)
    else readHeldMember kind rest

/-- The conditions of a list from a place on. -/
def readNodes (place : Nat) : List Json → Checked (List Condition)
  | [] => .accepted []
  | node :: rest =>
    .both List.cons ((readNode node).under (.index place)) (readNodes (place + 1) rest)

/-- One condition, however deep its conditions are nested; a limit on that, as validators have one,
is left out. -/
def readNode : Json → Checked Condition
  | .object members => readTagged (fun kind => readHeldMember kind members) members
  | _ => .refuse .notTagged

end

/-- A condition of one kind. -/
def readKind (kind : ConditionKind) : Json → Checked Condition :=
  readShape (shapeName kind) fun members =>
    readMembers (fun kind => readHeldMember kind members) members kind

mutual

/-- A condition as a document. -/
def write : Condition → Json
  | stat name operator value extra =>
    .object ([("type", .text ConditionKind.stat.name), ("stat", .text name),
      ("operator", .text operator.name), ("value", .real value)] ++ extra)
  | flag name extra =>
    .object ([("type", .text ConditionKind.flag.name), ("flag", .text name)] ++ extra)
  | item name count extra =>
    .object ([("type", .text ConditionKind.item.name), ("item", .text name),
      ("itemCount", writtenOrNull (fun count => .int (count : Nat)) count)] ++ extra)
  | faction name level extra =>
    .object ([("type", .text ConditionKind.faction.name), ("faction", .text name),
      ("factionLevel", writtenOrNull .real level)] ++ extra)
  | logical kind held extra =>
    .object ([("type", .text kind.name), ("conditions", writeHeld held)] ++ extra)

/-- One condition or a list of conditions as a document. -/
def writeHeld : OneOrMany Condition → Json
  | .one condition => write condition
  | .many conditions => .list (writeAll conditions)

/-- Conditions as documents. -/
def writeAll : List Condition → List Json
  | [] => []
  | condition :: rest => write condition :: writeAll rest

end

end Condition

end Gamebook.Story
