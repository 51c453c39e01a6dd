import Gamebook.Proofs.Kind
import Gamebook.Proofs.Story.Normal

/-! Effects read back as they are written. -/

namespace Gamebook.Story

open Checked

namespace Effect

variable {members extra : List (String × Json)} {kind : EffectKind} {action : Action}

/-- What is written for an action has the tag of its kind, and no member but the fields of it. -/
theorem keys_actionMembers (ok : readAction members kind = .accepted action) :
    Table.keys (actionMembers action) = (tagField :: fields kind).map Field.key ∧
      Table.get? tagField.key (actionMembers action) = some (.text kind.name) := by
  -- Three kinds have a single field, and all others have two.
  cases kind <;> simp only [readAction, seq_eq_accepted_iff, map_eq_accepted_iff] at ok
  case setFlag | clearFlag | goto =>
    obtain ⟨_, -, rfl⟩ := ok
    exact ⟨rfl, rfl⟩
  all_goals
    obtain ⟨_, ⟨_, -, rfl⟩, _, -, rfl⟩ := ok
    exact ⟨rfl, rfl⟩

/-- An action is read from what is written for it. -/
theorem readAction_actionMembers (ok : readAction members kind = .accepted action) :
    readAction (actionMembers action ++ extra) kind = .accepted action := by
  -- One case for each group of kinds that reads the same fields.
  cases kind <;> simp only [readAction, seq_eq_accepted_iff, map_eq_accepted_iff] at ok ⊢
  case setStat | modifyStat =>
    obtain ⟨_, ⟨name, nameRead, rfl⟩, value, valueRead, rfl⟩ := ok
    exact ⟨_, ⟨name, readsBack_readName.required nameRead rfl, rfl⟩,
      value, readsBack_readReal.required valueRead rfl, rfl⟩
  case setFlag | clearFlag | goto =>
    obtain ⟨name, nameRead, rfl⟩ := ok
    exact ⟨name, readsBack_readName.required nameRead rfl, rfl⟩
  case addItem | removeItem =>
    obtain ⟨_, ⟨name, nameRead, rfl⟩, count, countRead, rfl⟩ := ok
    exact ⟨_, ⟨name, readsBack_readName.required nameRead rfl, rfl⟩,
      count, readsBack_countOrNull.optional rfl countRead rfl, rfl⟩
  case modifyFaction =>
    obtain ⟨_, ⟨name, nameRead, rfl⟩, amount, amountRead, rfl⟩ := ok
    exact ⟨_, ⟨name, readsBack_readName.required nameRead rfl, rfl⟩,
      amount, readsBack_realOrNull.optional rfl amountRead rfl, rfl⟩

/-- The members that are written for an effect of a kind have its tag, and are read as the
effect. -/
theorem exists_written {effect : Effect} (ok : readMembers members kind = .accepted effect) :
    ∃ written, write effect = .object written ∧
      Table.get? tagField.key written = some (.text kind.name) ∧
        readMembers written kind = .accepted effect := by
  simp only [readMembers, seq_eq_accepted_iff, map_eq_accepted_iff] at ok ⊢
  obtain ⟨_, ⟨_, -, rfl⟩, action, acted, rfl⟩ := ok
  -- The tag stands among the members of the action, in front of the others.
  obtain ⟨keys, tag⟩ := keys_actionMembers acted
  have tagged : Table.get? tagField.key (actionMembers action ++
      extras (tagField :: fields kind) members) = some (.text kind.name) := by
    rw [Table.get?_append, tag]
    rfl
  refine ⟨_, rfl, tagged, _, ⟨_, required_readTag tagged, rfl⟩, action, ?_, ?_⟩
  · exact readAction_actionMembers acted
  · rw [extras_append keys]

/-- An effect of a given kind reads back. -/
theorem readsBack_readKind (kind : EffectKind) : ReadsBack (readKind kind) write := by
  intro value effect ok
  obtain ⟨members, rfl, read⟩ := exists_members_of_readShape ok
  -- The members are written under the keys they are read from.
  obtain ⟨written, same, -, again⟩ := exists_written read
  rw [same]
  exact again

/-- An effect reads back, by the kind that its tag names. -/
theorem readsBack_read : ReadsBack read write := by
  intro value effect ok
  -- Only an object with a known tag is accepted, and the tag is written back first.
  cases value with
  | object members =>
    simp only [read] at ok
    split at ok
    · cases ok
    · split at ok
      · cases ok
      · next kind _ =>
        obtain ⟨written, same, tagged, again⟩ := exists_written (under_eq_accepted_iff.1 ok)
        have marked : (Json.text (EffectKind.name kind)).text?.bind EffectKind.ofName? =
            some kind := EffectKind.ofName?_eq_some_iff.2 rfl
        rw [same, read, tagged]
        simp only [marked]
        exact under_eq_accepted_iff.2 again
  | _ => cases ok

/-- Effects read back, be it one or a list. -/
theorem readsBack_readSome : ReadsBack readSome writeSome := by
  intro value effects ok
  rw [readSome, choose_eq_accepted_iff] at ok ⊢
  rcases ok with ⟨values, many, rfl⟩ | ⟨issues, effect, -, single, rfl⟩
  · exact .inl ⟨values, readsBack_read.list value values many, rfl⟩
  · -- What is written for an effect is an object, and therefore no list.
    exact .inr ⟨_, effect, rfl, readsBack_read value effect single, rfl⟩

end Effect

end Gamebook.Story
