import PropertyMangling.Mapping
import PropertyMangling.Proofs.Repetition
/-!
# Looking up and inserting pairs

Because no token and no name occurs twice, a look-up answers exactly with the
pair that is held, from either side. So an insertion of a pair whose sides are
both new always succeeds, and it is the only one that changes a mapping.
-/
namespace PropertyMangling.Mapping

variable {mapping : Mapping} {token name : String}

/-- Mappings with the same pairs in the same order are equal. -/
theorem eq_of_pairs_eq {first second : Mapping} (same : first.pairs = second.pairs) :
    first = second := by
  cases first
  cases second
  cases same
  rfl

/-- A token's name is the one it is paired with, since it stands in one pair at most. -/
theorem get?_eq_some_iff : mapping.get? token = some name ↔ (token, name) ∈ mapping.pairs := by
  simp only [get?, Option.map_eq_some_iff, find?, find?_key_eq_some_iff mapping.tokens_nodup]
  constructor
  · rintro ⟨⟨_, _⟩, ⟨held, rfl⟩, rfl⟩
    exact held
  · intro held
    exact ⟨(token, name), ⟨held, rfl⟩, rfl⟩

/-- A name's token is the one it is paired with, since it stands in one pair at most. -/
theorem tokenOf?_eq_some_iff :
    mapping.tokenOf? name = some token ↔ (token, name) ∈ mapping.pairs := by
  simp only [tokenOf?, Option.map_eq_some_iff, findName?,
    find?_key_eq_some_iff mapping.names_nodup]
  constructor
  · rintro ⟨⟨_, _⟩, ⟨held, rfl⟩, rfl⟩
    exact held
  · intro held
    exact ⟨(token, name), ⟨held, rfl⟩, rfl⟩

/-- A token has no name exactly when it is in no pair. -/
theorem get?_eq_none_iff : mapping.get? token = none ↔ token ∉ mapping.tokens := by
  refine ⟨get?_eq_none, fun absent => ?_⟩
  cases known : mapping.get? token with
  | none => rfl
  | some name =>
    have held : (token, name) ∈ mapping.pairs := get?_eq_some_iff.mp known
    exact absurd (List.mem_map.mpr ⟨_, held, rfl⟩) absent

/-- A name has no token exactly when it is in no pair. -/
theorem tokenOf?_eq_none_iff : mapping.tokenOf? name = none ↔ name ∉ mapping.names := by
  refine ⟨tokenOf?_eq_none, fun absent => ?_⟩
  cases known : mapping.tokenOf? name with
  | none => rfl
  | some token =>
    have held : (token, name) ∈ mapping.pairs := tokenOf?_eq_some_iff.mp known
    exact absurd (List.mem_map.mpr ⟨_, held, rfl⟩) absent

/-- Two tokens never share a name, which is what lets names be undone. -/
theorem token_eq_of_name_eq {other : String} (held : (token, name) ∈ mapping.pairs)
    (otherHeld : (other, name) ∈ mapping.pairs) : token = other :=
  congrArg Prod.fst (List.inj_on_of_nodup_map mapping.names_nodup held otherHeld rfl)

/-- A pair whose sides are both new is inserted behind the others. -/
theorem insert_new (newToken : token ∉ mapping.tokens) (newName : name ∉ mapping.names) :
    ∃ extended, mapping.insert token name = .ok extended ∧
      extended.pairs = mapping.pairs ++ [(token, name)] := by
  have noName : mapping.get? token = none := get?_eq_none_iff.mpr newToken
  have noToken : mapping.tokenOf? name = none := tokenOf?_eq_none_iff.mpr newName
  refine ⟨mapping.add token name noName noToken, ?_, rfl⟩
  unfold insert
  split
  · next known found => simp [noName] at found
  · split
    · next owner found => simp [noToken] at found
    · rfl

/-- A pair that is held already is inserted, and changes nothing. -/
theorem insert_known (known : mapping.get? token = some name) :
    mapping.insert token name = .ok mapping := by
  unfold insert
  split
  · next other found =>
    have same : other = name := Option.some.inj (found.symm.trans known)
    rw [if_pos same]
  · next found =>
    rw [found] at known
    cases known

/-- A token with another name is a conflict with the pair that it is in. -/
theorem insert_named {other : String} (known : mapping.get? token = some other)
    (different : other ≠ name) : mapping.insert token name =
      .error (.conflictingEntry (entryText token name) (entryText token other)) := by
  unfold insert
  split
  · next held found =>
    obtain rfl : held = other := Option.some.inj (found.symm.trans known)
    rw [if_neg different]
  · next found =>
    rw [found] at known
    cases known

/-- A new token with a name in use is a conflict with the pair that has the name. -/
theorem insert_owned {owner : String} (newToken : mapping.get? token = none)
    (owned : mapping.tokenOf? name = some owner) : mapping.insert token name =
      .error (.conflictingEntry (entryText token name) (entryText owner name)) := by
  unfold insert
  split
  · next held found =>
    rw [newToken] at found
    cases found
  · split
    · next other found =>
      obtain rfl : other = owner := Option.some.inj (found.symm.trans owned)
      rfl
    · next found =>
      rw [found] at owned
      cases owned

/-- An insertion that succeeds leaves a mapping that holds the pair as it is, or puts the pair behind
its others. -/
theorem pairs_of_insert {extended : Mapping} (inserted : mapping.insert token name = .ok extended) :
    extended = mapping ∧ (token, name) ∈ mapping.pairs ∨
      extended.pairs = mapping.pairs ++ [(token, name)] := by
  unfold insert at inserted
  split at inserted
  · next known found =>
    split at inserted
    · next same =>
      exact Or.inl ⟨(Except.ok.inj inserted).symm, get?_eq_some_iff.mp (same ▸ found)⟩
    · cases inserted
  · split at inserted
    · cases inserted
    · exact Or.inr (congrArg Mapping.pairs (Except.ok.inj inserted).symm)

/-- Behind an insertion a mapping holds the pairs from before and the one that was inserted. -/
theorem mem_pairs_of_insert {extended : Mapping}
    (inserted : mapping.insert token name = .ok extended) {pair : String × String} :
    pair ∈ extended.pairs ↔ pair ∈ mapping.pairs ∨ pair = (token, name) := by
  rcases pairs_of_insert inserted with ⟨rfl, held⟩ | extension
  · constructor
    · exact Or.inl
    · rintro (old | rfl)
      · exact old
      · exact held
  · rw [extension, List.mem_append, List.mem_singleton]

end PropertyMangling.Mapping
