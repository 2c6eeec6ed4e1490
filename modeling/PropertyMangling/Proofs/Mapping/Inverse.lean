import PropertyMangling.Proofs.Mapping.Pairs
/-!
# The inverse of a mapping

Because no name occurs twice, a mapping can be read from its names to its tokens,
and that is a mapping again. What it gives a name is the token that has the name.
-/
namespace PropertyMangling.Mapping

/-- The mapping that gives every name its token. -/
def inverse (mapping : Mapping) : Mapping where
  pairs := mapping.pairs.map Prod.swap
  tokens_nodup := by
    rw [List.map_map]
    exact mapping.names_nodup
  names_nodup := by
    rw [List.map_map]
    exact mapping.tokens_nodup

variable {mapping : Mapping} {token name : String}

/-- A name is given its token exactly when the token is given the name. -/
theorem get?_inverse_eq_some_iff :
    mapping.inverse.get? name = some token ↔ mapping.get? token = some name := by
  rw [get?_eq_some_iff, get?_eq_some_iff, inverse, List.mem_map]
  constructor
  · rintro ⟨⟨_, _⟩, held, ⟨⟩⟩
    exact held
  · intro held
    exact ⟨_, held, rfl⟩

/-- The inverse looks names up as the mapping looks for their tokens. -/
theorem get?_inverse : mapping.inverse.get? name = mapping.tokenOf? name :=
  Option.ext fun _ =>
    get?_inverse_eq_some_iff.trans (get?_eq_some_iff.trans tokenOf?_eq_some_iff.symm)

/-- The inverse knows the names of the mapping and no others. -/
theorem get?_inverse_eq_none_iff : mapping.inverse.get? name = none ↔ name ∉ mapping.names := by
  rw [get?_inverse, tokenOf?_eq_none_iff]

end PropertyMangling.Mapping
