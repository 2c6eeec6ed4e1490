import PropertyMangling.Proofs.Mapping.Pairs
import PropertyMangling.Proofs.Property.Renaming
import PropertyMangling.Proofs.Repetition
import PropertyMangling.Property.Collection
/-!
# The tokens of a renamed program

Collecting looks at the same sites that renaming changes. As long as the marker
takes no part, a site that gives a token gives the token's new name after
renaming, and a site that gives none gives none. The variable that a shorthand
leaves behind is no token. So collecting from a renamed program is renaming the
tokens of the program; two tokens that have come together are then listed once.
-/
namespace PropertyMangling

open Script

/-- The string that stands at a site. -/
def Site.string? : Site → Option String
  | subscript value => some value
  | key value => some value
  | literal value => some value
  | imported value => some value
  | name _ => none
  | shorthand _ => none
  | .variable _ => none

/-- The strings of a program. -/
def Script.Program.strings (program : Program) : List String := program.sites.filterMap Site.string?

namespace Renaming

/-- No string of the program and no name of the mapping starts with the marker, or it marks
nothing. -/
def IsApart (plan : Renaming) (program : Program) : Prop :=
  plan.marker = "" ∨
    (∀ value ∈ program.strings, ¬ plan.marker.toList <+: value.toList) ∧
      ∀ name ∈ plan.mapping.names, ¬ plan.marker.toList <+: name.toList

instance (plan : Renaming) (program : Program) : Decidable (plan.IsApart program) :=
  inferInstanceAs (Decidable (_ ∨ _ ∧ _))

variable {plan : Renaming} {program : Program}

/-- A text that does not start with the marker is not marked. -/
theorem isMarked_eq_false {marker value : String} (unmarked : ¬ marker.toList <+: value.toList) :
    Embedded.isMarked marker value = false := by
  rw [Embedded.isMarked, Bool.and_eq_false_iff]
  exact Or.inr (Bool.eq_false_iff.mpr fun opens => unmarked (List.isPrefixOf_iff_prefix.mp opens))

/-- Where strings and marker are apart, no string that the program says is marked as code. -/
theorem IsApart.isMarked_string (apart : plan.IsApart program) {value : String}
    (listed : value ∈ program.strings) : Embedded.isMarked plan.marker value = false := by
  rcases apart with none | ⟨strings, _⟩
  · rw [none]
    rfl
  · exact isMarked_eq_false (strings value listed)

/-- A string that is not marked is not marked after renaming either. -/
theorem IsApart.isMarked_renamed (apart : plan.IsApart program) {value : String}
    (unmarked : Embedded.isMarked plan.marker value = false) :
    Embedded.isMarked plan.marker (Embedded.renamed plan.mapping value) = false := by
  cases lookup : plan.mapping.get? value with
  | none => rwa [Embedded.renamed_of_unknown lookup]
  | some name =>
    rw [Embedded.renamed_of_known lookup]
    rcases apart with none | ⟨_, names⟩
    · rw [none]
      rfl
    · have held : (value, name) ∈ plan.mapping.pairs := Mapping.get?_eq_some_iff.mp lookup
      exact isMarked_eq_false (names name (List.mem_map.mpr ⟨_, held, rfl⟩))

/-- An unmarked string gets the answer of the mapping, like any name of a property. -/
theorem string_of_unmarked {value : String}
    (unmarked : Embedded.isMarked plan.marker value = false) :
    plan.string value = Embedded.renamed plan.mapping value := by
  rw [string, unmarked, if_neg Bool.false_ne_true]

/-- What a site is changed to gives the new names of the tokens that the site gives. -/
theorem tokens_site (apart : plan.IsApart program) {site : Site} (inside : site ∈ program.sites)
    (codeTokens : String → List String) :
    (plan.site site).flatMap (Site.tokens plan.marker false codeTokens) =
      (site.tokens plan.marker false codeTokens).map (Embedded.renamed plan.mapping) := by
  have unmarked {value : String} (stands : site.string? = some value) :
      Embedded.isMarked plan.marker value = false :=
    apart.isMarked_string (List.mem_filterMap.mpr ⟨site, inside, stands⟩)
  cases site with
  | name text => rfl
  | «variable» text => rfl
  | shorthand text =>
    cases lookup : plan.mapping.get? text with
    | none => simp [site, lookup, Site.tokens, Embedded.renamed_of_unknown lookup]
    | some key => simp [site, lookup, Site.tokens, Embedded.renamed_of_known lookup]
  | subscript value =>
    have before := unmarked rfl
    simp [site, string_of_unmarked before, Site.tokens, before, apart.isMarked_renamed before]
  | key value =>
    have before := unmarked rfl
    simp [site, string_of_unmarked before, Site.tokens]
  | literal value =>
    have before := unmarked rfl
    simp [site, string_of_unmarked before, Site.tokens, before, apart.isMarked_renamed before]
  | imported value =>
    have before := unmarked rfl
    simp [site, Site.tokens, before]

end Renaming

/-- The sites of a program are changed one by one, none being added or dropped. -/
theorem Script.Program.sites_rename (program : Program) (plan : Renaming) :
    (program.rename plan).value.sites = program.sites.flatMap plan.site :=
  changes_renameAll plan program.items

/-- The tokens of a renamed program are the names of the program's tokens, each at its first
occurrence, unless the marker takes part. Two walks that know nothing of each other are compared
here: the one that renames and the one that collects. Proof: renaming changes the program's sites
one by one, and the tokens of a changed site are the names of the tokens that it had. -/
theorem Script.Program.tokens_rename (program : Program) (plan : Renaming)
    (apart : plan.IsApart program) :
    (program.rename plan).value.tokens plan.marker =
      ((program.tokens plan.marker).map (Embedded.renamed plan.mapping)).eraseDups := by
  let given := Site.tokens plan.marker false (codeTokens plan.marker)
  calc (program.rename plan).value.tokens plan.marker
      = ((program.sites.flatMap plan.site).flatMap given).eraseDups := by
        rw [tokens, sites_rename]
    _ = (program.sites.flatMap fun site => (plan.site site).flatMap given).eraseDups := by
        rw [List.flatMap_assoc]
    _ = (program.sites.flatMap fun site =>
          (given site).map (Embedded.renamed plan.mapping)).eraseDups := by
        rw [List.flatMap_congr fun site inside => Renaming.tokens_site apart inside _]
    _ = ((program.sites.flatMap given).map (Embedded.renamed plan.mapping)).eraseDups := by
        rw [List.map_flatMap]
    _ = ((program.tokens plan.marker).map (Embedded.renamed plan.mapping)).eraseDups := by
        rw [tokens, eraseDups_map_eraseDups]

/-- A shorthand with a default, both of whose properties are mapped, beside a string that is not. -/
theorem Script.Program.tokens_rename_shorthand : ∃ (program : Program) (plan : Renaming),
    Program.parse "var { foo = o.bar } = o['baz'];" = .ok program ∧
    plan.mapping.pairs = [("foo", "a"), ("bar", "b")] ∧ plan.marker = "/**/" ∧
    plan.IsApart program ∧ program.tokens plan.marker = ["foo", "bar", "baz"] ∧
    (program.rename plan).value.tokens plan.marker = ["a", "b", "baz"] := by
  let plan : Renaming := ⟨⟨[("foo", "a"), ("bar", "b")], by decide, by decide⟩, "/**/"⟩
  have read : (Program.parse "var { foo = o.bar } = o['baz'];").map
      (fun program => (program.tokens "/**/", program.strings)) =
        .ok (["foo", "bar", "baz"], ["baz"]) := by decide +kernel
  cases parsed : Program.parse "var { foo = o.bar } = o['baz'];" with
  | error error =>
    rw [parsed] at read
    cases read
  | ok program =>
    rw [parsed] at read
    obtain ⟨tokens, strings⟩ := Prod.mk.inj (Except.ok.inj read)
    have apart : plan.IsApart program := by
      rw [Renaming.IsApart, strings]
      decide
    refine ⟨program, plan, rfl, rfl, rfl, apart, tokens, ?_⟩
    rw [tokens_rename program plan apart, tokens]
    decide

end PropertyMangling
