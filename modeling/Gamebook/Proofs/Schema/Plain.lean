import Gamebook.Proofs.Schema.Meta

/-! Schemas that write nothing but what the model knows. Such a schema need not suit its keywords,
but where it fits the schema of schemas it does, so that every check by it is carried to its end. -/

namespace Gamebook.Schema

/-- What a value holds, as far as that is to be schemas, fits the schema of schemas. -/
inductive HoldsFitting : Holding → Json → Prop where
  | schema {holding : Holding} {value : Json}
      (single : holding ∈ [Holding.schema, .schemaOrSchemas, .schemaOrNames])
      (fits : Fits Meta.draft7 value) : HoldsFitting holding value
  | schemas {holding : Holding} {items : List Json}
      (several : holding ∈ [Holding.schemas, .schemaOrSchemas])
      (fits : ∀ item ∈ items, Fits Meta.draft7 item) : HoldsFitting holding (.list items)
  | names {names : List Json} (texts : names.all isText = true) :
      HoldsFitting .schemaOrNames (.list names)
  | table {part : Holding} {members : List (String × Json)}
      (holds : ∀ member ∈ members, HoldsFitting part member.2) :
      HoldsFitting (.table part) (.object members)

/-- What the schema of schemas says of the argument of a keyword, if it says anything. -/
def Keyword.described? : Keyword → Option Json
  | .const => none
  | .reference => some Meta.text
  | .type => some Meta.typeNames
  | .enum => some (Meta.ofType "array")
  | .required => some Meta.textList
  | .uniqueItems => some Meta.truth
  | .minimum | .maximum | .exclusiveMinimum | .exclusiveMaximum => some Meta.number
  | .minLength | .minItems => some Meta.countOrZero
  | .maxLength | .maxItems => some Meta.count
  | .items => some Meta.schemaOrList
  | .additionalItems | .additionalProperties | .negation => some Meta.itself
  | .properties => some (Meta.tableOf Meta.itself)
  | .dependencies => some (Meta.tableOf (Meta.anyOf [Meta.itself, Meta.textList]))
  | .allOf | .anyOf | .oneOf => some Meta.schemaList

section Arguments

variable {members : List (String × Json)} {argument inner : Json} {name : String}
  {keyword : Keyword} {holding : Holding} {whole : Bool}

/-- A member of a schema that fits the schema of schemas fits what that says of it. -/
theorem Fits.member (fits : Fits Meta.draft7 (.object members))
    (described : (Meta.draft7.get? "properties").bind (Json.get? name) = some inner)
    (found : Table.get? name members = some argument) : Fits inner argument :=
  fits.property rfl (.tail _ (.head _)) (Table.mem_of_get? described) found

/-- The schema of schemas describes each keyword under its name. -/
theorem get?_of_described? (named : (name, keyword) ∈ Keyword.names)
    (described : keyword.described? = some inner) :
    (Meta.draft7.get? "properties").bind (Json.get? name) = some inner := by
  -- Keyword by keyword, what is described stands under the name.
  have all : ∀ entry ∈ Keyword.names, ∀ inner, entry.2.described? = some inner →
      (Meta.draft7.get? "properties").bind (Json.get? entry.1) = some inner := by
    simp only [Keyword.names, List.forall_mem_cons, List.not_mem_nil, IsEmpty.forall_iff,
      implies_true, and_true]
    and_intros <;> rintro _ ⟨⟩ <;> rfl
  exact all _ named inner described

variable (fits : Fits Meta.draft7 (.object members))
  (found : Table.get? name members = some argument)
  (known : Draft.draft7.keyword? name = some keyword)

include fits found known

/-- The argument of a keyword fits what the schema of schemas says of it. -/
theorem Fits.ofKeyword (described : keyword.described? = some inner) : Fits inner argument :=
  fits.member (get?_of_described? (mem_names_of_keyword? known) described) found

/-- In a schema that fits the schema of schemas, a keyword can be checked with its argument. -/
theorem Fits.takes : keyword.takes argument = true := by
  have suits {inner : Json} (described : keyword.described? = some inner) : Fits inner argument :=
    fits.ofKeyword found known described
  -- Each kind of argument is what the schema of schemas demands of it.
  cases keyword with
  | type => exact (suits rfl).typeNames
  | enum =>
    obtain ⟨items, rfl⟩ := (suits rfl).list
    rfl
  | required =>
    obtain ⟨names, rfl, texts⟩ := (suits rfl).textList
    exact texts
  | minimum | maximum | exclusiveMinimum | exclusiveMaximum => exact (suits rfl).number
  | minLength | minItems => exact (suits rfl).countOrZero
  | maxLength | maxItems => exact (suits rfl).count
  | _ => rfl

/-- What the argument of a keyword holds fits the schema of schemas, if the schema does. -/
theorem Fits.holds (held : keyword.holding? = some (holding, whole)) :
    HoldsFitting holding argument := by
  have suits {inner : Json} (described : keyword.described? = some inner) : Fits inner argument :=
    fits.ofKeyword found known described
  cases keyword with
  | items =>
    cases held
    obtain ⟨inner, among, fitting⟩ := (suits rfl).anyOf
    simp only [List.mem_cons, List.not_mem_nil, or_false] at among
    -- Either one schema is for all items, or several are for the items at their places.
    rcases among with rfl | rfl
    · exact .schema (by simp) fitting.itself
    · obtain ⟨items, rfl, each⟩ := fitting.schemaList
      exact .schemas (by simp) each
  | additionalItems | additionalProperties | negation =>
    cases held
    exact .schema (by simp) (suits rfl).itself
  | properties =>
    cases held
    obtain ⟨parts, rfl, each⟩ := (suits rfl).tableOf rfl
    exact .table fun part listed => .schema (by simp) (each part listed).itself
  | dependencies =>
    cases held
    obtain ⟨needs, rfl, each⟩ := (suits rfl).tableOf rfl
    refine .table fun need listed => ?_
    obtain ⟨inner, among, fitting⟩ := (each need listed).anyOf
    simp only [List.mem_cons, List.not_mem_nil, or_false] at among
    -- What is needed is told by a schema, or by names of members.
    rcases among with rfl | rfl
    · exact .schema (by simp) fitting.itself
    · obtain ⟨names, named, texts⟩ := fitting.textList
      rw [named]
      exact .names texts
  | allOf | anyOf | oneOf =>
    cases held
    obtain ⟨schemas, rfl, each⟩ := (suits rfl).schemaList
    exact .schemas (by simp) each
  | _ => cases held

end Arguments

section Tame

variable {ranks : Table Nat} {bound depth : Nat} {value : Json}

/-- The definitions of a schema that fits the schema of schemas fit it. -/
theorem Fits.definitions {definitions : Json} (fits : Fits Meta.draft7 value)
    (found : value.get? "definitions" = some definitions) :
    HoldsFitting (.table .schema) definitions := by
  obtain ⟨members, rfl, listed⟩ := Json.exists_members_of_get? found
  -- The schema of schemas asks for a schema under every name.
  obtain ⟨parts, rfl, each⟩ := (fits.member rfl listed).tableOf rfl
  exact .table fun part among => .schema (by simp) (each part among).itself

/-- A plain schema that writes members is tame if it fits the schema of schemas and what its members
hold is tame as soon as that fits, too. -/
theorem IsTameObject.of_fits {members : List (String × Json)}
    (fits : Fits Meta.draft7 (.object members)) (distinct : (Table.keys members).Nodup)
    (inside : ∀ member ∈ members, ∀ holding depth, HoldsFitting holding member.2 →
      isTame false ranks bound depth holding member.2 = true →
        isTame true ranks bound depth holding member.2 = true)
    (plain : IsTameObject false ranks bound depth members) :
    IsTameObject true ranks bound depth members where
  positive := plain.positive
  drafted := plain.drafted
  described := plain.described
  ranked := plain.ranked
  tame := by
    refine areTame_iff.2 ?_
    rintro ⟨name, argument⟩ listed
    obtain ⟨notes, suits⟩ := areTame_iff.1 plain.tame _ listed
    -- No name is written twice, so each member is the one that is looked up.
    have found : Table.get? name members = some argument := Table.get?_of_mem distinct listed
    constructor
    · intro unknown
      refine ⟨(notes unknown).1, ?_⟩
      rintro rfl
      exact inside _ listed _ _ (fits.definitions found) ((notes unknown).2 rfl)
    · intro keyword known
      refine ⟨fun _ => fits.takes found known, ?_⟩
      intro holding whole held
      exact inside _ listed _ _ (fits.holds found known held) ((suits keyword known).2 _ _ held)

/-- A value that holds plain schemas holds tame ones if these fit the schema of schemas. -/
theorem isTame_of_holdsFitting {holding : Holding} (distinct : value.HasDistinctKeys)
    (holds : HoldsFitting holding value)
    (plain : isTame false ranks bound depth holding value = true) :
    isTame true ranks bound depth holding value = true := by
  -- By induction on the size: what holds a schema is larger than the schema.
  induction size : value.size using Nat.strongRecOn generalizing depth holding value with
  | ind _ ih =>
    subst size
    cases holds with
    | schema single fits =>
      cases value with
      | object members =>
        obtain ⟨keys, each⟩ : (Table.keys members).Nodup ∧
            ∀ member ∈ members, member.2.HasDistinctKeys := by
          cases distinct with
          | object keys each => exact ⟨keys, each⟩
        refine (isTame_object_iff single).2 (.of_fits fits keys ?_
          ((isTame_object_iff single).1 plain))
        intro member listed holding depth holds plain
        exact ih _ (Json.size_lt_of_mem_members listed) (each member listed) holds plain rfl
      | bool truth =>
        -- A truth value has no keywords to suit.
        simp only [List.mem_cons, List.not_mem_nil, or_false] at single
        rcases single with rfl | rfl | rfl <;> simpa only [isTame] using plain
      | _ => simpa [Json.isObject, isTruth] using fits.isObject_or_isTruth
    | @schemas _ items several fits =>
      have plains : areTameItems false ranks bound depth items = true := by
        simp only [List.mem_cons, List.not_mem_nil, or_false] at several
        rcases several with rfl | rfl <;> simpa only [isTame] using plain
      have tames : areTameItems true ranks bound depth items = true := by
        refine areTameItems_iff.2 fun item among => ?_
        cases distinct with
        | list each =>
          exact ih _ (Json.size_lt_of_mem among) (each item among)
            (.schema (by simp) (fits item among))
            (areTameItems_iff.1 plains item among) rfl
      simp only [List.mem_cons, List.not_mem_nil, or_false] at several
      rcases several with rfl | rfl <;> simpa only [isTame] using tames
    | names texts => simpa only [isTame, Bool.not_true, Bool.false_or] using texts
    | @table part members holds =>
      have plains : areTameParts false ranks bound depth part members = true := by
        simpa only [isTame] using plain
      have tames : areTameParts true ranks bound depth part members = true := by
        refine areTameParts_iff.2 fun member listed => ?_
        cases distinct with
        | object _ each =>
          exact ih _ (Json.size_lt_of_mem_members listed) (each member listed) (holds member listed)
            (areTameParts_iff.1 plains member listed) rfl
      simpa only [isTame] using tames

end Tame

section Plain

/-- A reference leads to a schema within a whole one: to the whole or to one of its definitions. -/
def LeadsWithin (schema : Json) (reference : String) : Prop :=
  Pointer.resolve schema reference = .ok (some schema) ∨
    ∃ definitions name target, schema.get? "definitions" = some definitions ∧
      definitions.get? name = some target ∧
      Pointer.resolve schema reference = .ok (some target)

/-- A schema of the seventh draft writes nothing that constrains values but keywords of the model,
and its references lead to itself or to its definitions and do not go around: the steps that they
take until a part of the value is reached have ranks. What is written under a keyword need not suit
it. -/
structure IsPlainBy (ranks : Table Nat) (bound depth : Nat) (schema : Json) : Prop where
  plain : isTame false ranks bound depth .schema schema = true
  ranked : areRanks false schema ranks bound = true
  within : ∀ entry ∈ ranks, LeadsWithin schema entry.1
  -- No more steps are made between two parts of a value than there are values in the schema.
  shallow : depth ≤ schema.size
  small : bound ≤ schema.size

/-- A schema is plain by some ranks for its references. -/
def IsPlain (schema : Json) : Prop := ∃ ranks bound depth, IsPlainBy ranks bound depth schema

/-- A schema without references is plain if it writes nothing but what the model knows. -/
theorem isPlain_of_isTame {schema : Json} (plain : isTame false [] 1 1 .schema schema = true) :
    IsPlain schema :=
  ⟨[], 1, 1, plain, rfl, nofun, schema.size_pos, schema.size_pos⟩

variable {ranks : Table Nat} {bound depth : Nat} {schema : Json}

/-- Where references lead within a schema that fits the schema of schemas, that is fitted as well.
-/
theorem LeadsWithin.exists_fits {reference : String} (leads : LeadsWithin schema reference)
    (distinct : schema.HasDistinctKeys) (fits : Fits Meta.draft7 schema) :
    ∃ target, Pointer.resolve schema reference = .ok (some target) ∧ target.HasDistinctKeys ∧
      Fits Meta.draft7 target := by
  obtain resolved | ⟨definitions, name, target, found, held, resolved⟩ := leads
  · exact ⟨schema, resolved, distinct, fits⟩
  · refine ⟨target, resolved, (distinct.get? found).get? held, ?_⟩
    obtain ⟨members, rfl, listed⟩ := Json.exists_members_of_get? held
    -- The definitions are a table of schemas, and the target is one of them.
    cases fits.definitions found with
    | schema single _ => simp at single
    | table holds =>
      cases holds _ (Table.mem_of_get? listed) with
      | schema _ fitting => exact fitting
      | schemas several _ => simp at several

/-- The references of a plain schema lead to tame schemas if it fits the schema of schemas. -/
theorem IsPlainBy.areRanks (plain : IsPlainBy ranks bound depth schema)
    (distinct : schema.HasDistinctKeys) (fits : Fits Meta.draft7 schema) :
    areRanks true schema ranks bound = true := by
  refine areRanks_iff.2 fun entry listed => ?_
  obtain ⟨target, resolved, targetPlain⟩ := areRanks_iff.1 plain.ranked entry listed
  -- The target is the one that is known to fit.
  obtain ⟨same, found, targetDistinct, targetFits⟩ :=
    (plain.within entry listed).exists_fits distinct fits
  cases resolved.symm.trans found
  exact ⟨target, resolved,
    isTame_of_holdsFitting targetDistinct (.schema (by simp) targetFits) targetPlain⟩

/-- A check by a plain schema that fits the schema of schemas is carried to its end. -/
theorem IsPlain.isComplete_check (plain : IsPlain schema) (distinct : schema.HasDistinctKeys)
    (fits : Fits Meta.draft7 schema) (document : Json) :
    (check .draft7 schema document).IsComplete := by
  obtain ⟨ranks, bound, depth, plain⟩ := plain
  -- What fits the schema of schemas suits its keywords, so that plain is tame.
  have tame : isTame true ranks bound depth .schema schema = true :=
    isTame_of_holdsFitting distinct (.schema (by simp) fits) plain.plain
  exact Schema.isComplete_check document (plain.areRanks distinct fits) tame plain.shallow
    plain.small

/-- The schema of schemas refers to nothing but itself, and takes three steps for that. -/
theorem Meta.ranked_draft7 : areRanks true Meta.draft7 [("#", 1)] 3 = true ∧
    isTame true [("#", 1)] 3 1 .schema Meta.draft7 = true := by
  decide +kernel

/-- The check whether a value is a schema is carried to its end, whatever the value. -/
theorem Meta.isComplete_check (schema : Json) : (check .draft7 Meta.draft7 schema).IsComplete :=
  Schema.isComplete_check schema Meta.ranked_draft7.1 Meta.ranked_draft7.2 (by decide) (by decide)

variable {members : List (String × Json)}

/-- What a schema writes to name its draft cannot be looked up as the address of one. -/
def NamesNoDraft (members : List (String × Json)) : Prop :=
  ∃ named misfit, Table.get? "$schema" members = some named ∧ Draft.named? named = .error misfit

end Plain

end Gamebook.Schema
