/-! The closed vocabularies of conditions, effects and comparisons. -/

namespace Gamebook

/-- The kinds of conditions that hold further conditions. -/
inductive LogicalKind where
  | and | or | not
  deriving DecidableEq, Repr

/-- The word that marks a condition as of a logical kind. -/
def LogicalKind.name : LogicalKind → String
  | and => "and"
  | or => "or"
  | not => "not"

/-- The kinds of conditions. -/
inductive ConditionKind where
  | stat | flag | item | faction
  | logical (kind : LogicalKind)
  deriving DecidableEq, Repr

namespace ConditionKind

/-- Every kind, in order of declaration. -/
def all : List ConditionKind :=
  [stat, flag, item, faction, logical .and, logical .or, logical .not]

/-- The word that marks a condition as of a kind. -/
def name : ConditionKind → String
  | stat => "stat"
  | flag => "flag"
  | item => "item"
  | faction => "faction"
  | logical kind => kind.name

/-- The kind that a word marks. -/
def ofName? (word : String) : Option ConditionKind := all.find? (·.name = word)

/-- Whether conditions of a kind hold further conditions. -/
def isLogical : ConditionKind → Bool
  | logical _ => true
  | _ => false

end ConditionKind

/-- The kinds of effects. -/
inductive EffectKind where
  | setStat | modifyStat | setFlag | clearFlag | addItem | removeItem | goto | modifyFaction
  deriving DecidableEq, Repr

namespace EffectKind

/-- Every kind, in order of declaration. -/
def all : List EffectKind :=
  [setStat, modifyStat, setFlag, clearFlag, addItem, removeItem, goto, modifyFaction]

/-- The word that marks an effect as of a kind. -/
def name : EffectKind → String
  | setStat => "set-stat"
  | modifyStat => "modify-stat"
  | setFlag => "set-flag"
  | clearFlag => "clear-flag"
  | addItem => "add-item"
  | removeItem => "remove-item"
  | goto => "goto"
  | modifyFaction => "modify-faction"

/-- The kind that a word marks. -/
def ofName? (word : String) : Option EffectKind := all.find? (·.name = word)

end EffectKind

/-- The comparisons of a stat with a value. -/
inductive StatOperator where
  | gte | lte | eq | gt | lt
  deriving DecidableEq, Repr

namespace StatOperator

/-- Every operator, in order of declaration. -/
def all : List StatOperator := [gte, lte, eq, gt, lt]

/-- The word of an operator. -/
def name : StatOperator → String
  | gte => "gte"
  | lte => "lte"
  | eq => "eq"
  | gt => "gt"
  | lt => "lt"

/-- The operator of a word. -/
def ofName? (word : String) : Option StatOperator := all.find? (·.name = word)

end StatOperator

end Gamebook
