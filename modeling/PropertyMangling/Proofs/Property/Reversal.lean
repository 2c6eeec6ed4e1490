import PropertyMangling.Proofs.Embedded.Composition
import PropertyMangling.Proofs.Property.Agreement
import PropertyMangling.Proofs.Property.Labels
import PropertyMangling.Proofs.Property.Saying
/-!
# Undoing a renaming

As long as no text of a program is a new name without being a token itself, the
inverse mapping leads every text back. Renaming with a mapping and then with its
inverse is one relabeling, and it agrees on the program with one that changes no
text: it writes shorthands out under their own names and forgets how strings
were quoted. So no two programs are taken for one another after renaming, unless
they were the same but for shorthands.
-/
namespace PropertyMangling

open Script

/-- The text of a property or a string that renaming looks at. -/
def Site.renamable? : Site → Option String
  | .name text | .shorthand text | .subscript text | .key text | .literal text => some text
  | .imported _ | .variable _ => none

/-- A text is a token of the mapping if it is one of its names. -/
def Mapping.IsClearOf (mapping : Mapping) (text : String) : Prop :=
  text ∈ mapping.names → text ∈ mapping.tokens

instance (mapping : Mapping) (text : String) : Decidable (mapping.IsClearOf text) :=
  inferInstanceAs (Decidable (_ → _))

/-- The names and strings of a program that renaming looks at. -/
def Script.Program.renamable (program : Program) : List String :=
  program.sites.filterMap Site.renamable?

/-- Writes out the shorthands that the mapping knows, each under the name it has, and forgets how
the strings that it knows were quoted. -/
def Relabeling.restoring (mapping : Mapping) : Relabeling :=
  { Relabeling.expanding mapping with
    string? := fun value => (mapping.get? value).map fun _ => value }

namespace Renaming

/-- A plan under which no string holds code. -/
def plain (mapping : Mapping) : Renaming := ⟨mapping, ""⟩

variable {mapping : Mapping} {text : String}

/-- Without a marker every string is looked up in the mapping. -/
theorem string?_plain : (plain mapping).relabeling.string? text = mapping.get? text := rfl

/-- Without a marker every key is looked up in the mapping. -/
theorem key?_plain : (plain mapping).relabeling.key? text = mapping.get? text := rfl

/-- The new name of a text is known on the way back when the text is known on the way there. -/
theorem get?_inverse_renamed (clear : mapping.IsClearOf text) :
    mapping.inverse.get? (Embedded.renamed mapping text) =
      (mapping.get? text).map fun _ => text := by
  cases known : mapping.get? text with
  | none =>
    rw [Embedded.renamed_of_unknown known]
    exact Mapping.get?_inverse_eq_none_iff.mpr fun named =>
      Mapping.get?_eq_none_iff.mp known (clear named)
  | some name =>
    rw [Embedded.renamed_of_known known]
    exact Mapping.get?_inverse_eq_some_iff.mpr known

section Clear

variable (clear : mapping.IsClearOf text)
include clear

/-- A clear text comes back as itself: its name is given back the token, and a text without one is
no name. -/
theorem renamed_back :
    Embedded.renamed mapping.inverse (Embedded.renamed mapping text) = text :=
  Embedded.renamed_inverse fun unknown named =>
    Mapping.get?_eq_none_iff.mp unknown (clear named)

/-- A clear string comes back as itself, under a new literal when it was known. -/
theorem string?_back :
    ((plain mapping.inverse).relabeling.after (plain mapping).relabeling).string? text =
      (mapping.get? text).map fun _ => text := by
  have back := get?_inverse_renamed clear
  dsimp only [Relabeling.after]
  rw [string?_plain]
  cases known : mapping.get? text with
  | none => rwa [Embedded.renamed_of_unknown known, known] at back
  | some name =>
    rw [Embedded.renamed_of_known known, known] at back
    dsimp only
    rw [string?_plain, back]
    rfl

/-- A clear shorthand comes back with itself as its key when it was known. -/
theorem key?_back :
    ((plain mapping.inverse).relabeling.after (plain mapping).relabeling).key? text =
      (mapping.get? text).map fun _ => text := by
  have back := get?_inverse_renamed clear
  dsimp only [Relabeling.after]
  rw [key?_plain]
  cases known : mapping.get? text with
  | none => rwa [Embedded.renamed_of_unknown known, known] at back
  | some key =>
    have same := renamed_back clear
    rw [Embedded.renamed_of_known known] at same
    exact congrArg some same

end Clear

/-- At a text that is clear, a renaming and its way back come to the same as no new text. -/
theorem agrees_restoring {site : Site}
    (clear : ∀ text, site.renamable? = some text → mapping.IsClearOf text) :
    site.Agrees ((plain mapping.inverse).relabeling.after (plain mapping).relabeling)
      (.restoring mapping) := by
  cases site with
  | name text => exact renamed_back (clear text rfl)
  | shorthand text => exact key?_back (clear text rfl)
  | subscript text => exact string?_back (clear text rfl)
  | key text => exact string?_back (clear text rfl)
  | literal text => exact string?_back (clear text rfl)
  | imported _ => trivial
  | «variable» _ => trivial

/-- What a clear site is changed to counts on the way back as the site did on the way there. -/
theorem countP_site {site : Site}
    (clear : ∀ text, site.renamable? = some text → mapping.IsClearOf text) :
    ((plain mapping).site site).countP (plain mapping.inverse).renames =
      [site].countP (plain mapping).renames := by
  have known {text : String} (isClear : mapping.IsClearOf text) :
      (mapping.inverse.get? (Embedded.renamed mapping text)).isSome =
        (mapping.get? text).isSome := by
    rw [get?_inverse_renamed isClear, Option.isSome_map]
  have single (one other : Site)
      (same : (plain mapping.inverse).renames one = (plain mapping).renames other) :
      [one].countP (plain mapping.inverse).renames = [other].countP (plain mapping).renames := by
    rw [List.countP_singleton, List.countP_singleton, same]
  cases site with
  | shorthand text =>
    have same := known (clear text rfl)
    dsimp only [Renaming.site, plain]
    cases lookup : mapping.get? text with
    | none =>
      rw [Embedded.renamed_of_unknown lookup] at same
      exact single (.shorthand text) (.shorthand text) same
    | some key =>
      rw [Embedded.renamed_of_known lookup] at same
      exact single (.name key) (.shorthand text) same
  | name text => exact single _ _ (known (clear text rfl))
  | subscript text => exact single _ _ (known (clear text rfl))
  | key text => exact single _ _ (known (clear text rfl))
  | literal text => exact single _ _ (known (clear text rfl))
  | imported _ => rfl
  | «variable» _ => rfl

/-- Clear sites are counted on the way back as on the way there. -/
theorem countP_flatMap_site {sites : List Site}
    (clear : ∀ text ∈ sites.filterMap Site.renamable?, mapping.IsClearOf text) :
    (sites.flatMap (plain mapping).site).countP (plain mapping.inverse).renames =
      sites.countP (plain mapping).renames := by
  induction sites with
  | nil => rfl
  | cons site rest inductionHypothesis =>
    have here := countP_site fun text held =>
      clear text (List.mem_filterMap.mpr ⟨site, List.mem_cons_self, held⟩)
    have behind := inductionHypothesis fun text listed =>
      clear text (List.filterMap_subset _ (List.subset_cons_self site rest) listed)
    rw [List.flatMap_cons, List.countP_append, here, behind, ← List.countP_append,
      List.singleton_append]

end Renaming

/-- Besides writing shorthands out, restoring changes nothing that a program says. -/
theorem Relabeling.Alike.restoring (mapping : Mapping) :
    (Relabeling.restoring mapping).Alike (.expanding mapping) where
  name := rfl
  string value := by
    change ((mapping.get? value).map fun _ => value).getD value = value
    cases mapping.get? value <;> rfl
  key := rfl

namespace Script.Program

open Renaming

variable {mapping : Mapping}

/-- The way there and back writes shorthands out and forgets quotes. -/
theorem value_rename_rename {program : Program}
    (clear : ∀ text ∈ program.renamable, mapping.IsClearOf text) :
    ((program.rename (plain mapping)).value.rename (plain mapping.inverse)).value =
      program.relabel (.restoring mapping) := by
  rw [value_rename, value_rename, relabel_relabel]
  exact relabel_congr fun site inside => agrees_restoring fun text held =>
    clear text (List.mem_filterMap.mpr ⟨site, inside, held⟩)

/-- As many places are renamed on the way back as on the way there. -/
theorem count_rename_rename {program : Program}
    (clear : ∀ text ∈ program.renamable, mapping.IsClearOf text) :
    ((program.rename (plain mapping)).value.rename (plain mapping.inverse)).count =
      (program.rename (plain mapping)).count := by
  have counted (program : Program) (plan : Renaming) :
      (program.rename plan).count = program.sites.countP plan.renames :=
    (relabels_renameAll plan program.items).count
  rw [counted, counted, sites_rename, countP_flatMap_site clear]

/-- Renamed programs that say the same came from programs that do, but for shorthands. -/
theorem bare_expanded_eq {first second : Program}
    (clear : ∀ text ∈ first.renamable, mapping.IsClearOf text)
    (clearToo : ∀ text ∈ second.renamable, mapping.IsClearOf text)
    (same : (first.rename (plain mapping)).value.bare =
      (second.rename (plain mapping)).value.bare) :
    (first.expanded mapping).bare = (second.expanded mapping).bare := by
  have restored {program : Program}
      (clear : ∀ text ∈ program.renamable, mapping.IsClearOf text) :
      (program.expanded mapping).bare = ((program.rename (plain mapping)).value.relabel
        (plain mapping.inverse).relabeling).bare := by
    rw [← value_rename, value_rename_rename clear]
    exact (bare_relabel_congr (.restoring mapping) rfl).symm
  rw [restored clear, restored clearToo]
  exact bare_relabel_congr (.refl _) same

/-- When no text of a program is a new name without being a token, renaming it and renaming it back
gives the program, except that the shorthands the mapping knows are written out under their own
names and the strings it knows have lost their quotes, and both ways count the same places. So two
such programs that are told apart by more than that are told apart after renaming. This holds of
programs as they stand in their texts, and also of what they say. -/
theorem rename_inverse (mapping : Mapping) :
    (∀ program : Program, (∀ text ∈ program.renamable, mapping.IsClearOf text) →
      ((program.rename (plain mapping)).value.rename (plain mapping.inverse)).value =
          program.relabel (.restoring mapping) ∧
        ((program.rename (plain mapping)).value.rename (plain mapping.inverse)).count =
          (program.rename (plain mapping)).count) ∧
    ∀ first second : Program, (∀ text ∈ first.renamable, mapping.IsClearOf text) →
      (∀ text ∈ second.renamable, mapping.IsClearOf text) →
      ((first.rename (plain mapping)).value = (second.rename (plain mapping)).value →
        first.relabel (.restoring mapping) = second.relabel (.restoring mapping)) ∧
      ((first.rename (plain mapping)).value.bare = (second.rename (plain mapping)).value.bare →
        (first.expanded mapping).bare = (second.expanded mapping).bare) := by
  refine ⟨fun program clear => ⟨value_rename_rename clear, count_rename_rename clear⟩,
    fun first second clear clearToo => ⟨fun same => ?_, bare_expanded_eq clear clearToo⟩⟩
  rw [← value_rename_rename clear, ← value_rename_rename clearToo, same]

/-- A mapping that exchanges two names, and a pattern with a default that is written as a shorthand
and written out, in other quotes. -/
theorem rename_inverse_exchanged : ∃ (mapping : Mapping) (short long : Program),
    mapping.pairs = [("foo", "bar"), ("bar", "foo")] ∧
    short.items = [.declarator nowhere (.objectPattern nowhere
      [.shorthand nowhere ⟨nowhere, "foo"⟩ (some (.string ⟨nowhere, "bar", some "'bar'"⟩))])
      (some (.member nowhere (.identifier ⟨nowhere, "bar"⟩) ⟨nowhere, "bar"⟩ false))] ∧
    long.items = [.declarator nowhere (.objectPattern nowhere
      [.property (.keyName ⟨nowhere, "foo"⟩) (.defaultPattern nowhere (.identifier ⟨nowhere, "foo"⟩)
        (.string ⟨nowhere, "bar", some "\"bar\""⟩))])
      (some (.member nowhere (.identifier ⟨nowhere, "bar"⟩) ⟨nowhere, "bar"⟩ false))] ∧
    (∀ text ∈ short.renamable, mapping.IsClearOf text) ∧
    (∀ text ∈ long.renamable, mapping.IsClearOf text) ∧
    ((short.rename (plain mapping)).value.rename (plain mapping.inverse)).value =
      short.relabel (.restoring mapping) ∧
    ((short.rename (plain mapping)).value.rename (plain mapping.inverse)).count = 3 ∧
    (short.rename (plain mapping)).value.bare = (long.rename (plain mapping)).value.bare ∧
    (short.expanded mapping).bare = (long.expanded mapping).bare := by
  let mapping : Mapping := ⟨[("foo", "bar"), ("bar", "foo")], by decide, by decide⟩
  let source : Node := .member nowhere (.identifier ⟨nowhere, "bar"⟩) ⟨nowhere, "bar"⟩ false
  let short : Program := ⟨nowhere, 0, none, [.declarator nowhere (.objectPattern nowhere
    [.shorthand nowhere ⟨nowhere, "foo"⟩ (some (.string ⟨nowhere, "bar", some "'bar'"⟩))])
    (some source)]⟩
  let long : Program := ⟨nowhere, 0, none, [.declarator nowhere (.objectPattern nowhere
    [.property (.keyName ⟨nowhere, "foo"⟩) (.defaultPattern nowhere (.identifier ⟨nowhere, "foo"⟩)
      (.string ⟨nowhere, "bar", some "\"bar\""⟩))])
    (some source)]⟩
  have clear : ∀ text ∈ short.renamable, mapping.IsClearOf text := by decide
  have clearToo : ∀ text ∈ long.renamable, mapping.IsClearOf text := by decide
  have same :
      (short.rename (plain mapping)).value.bare = (long.rename (plain mapping)).value.bare := rfl
  obtain ⟨back, apart⟩ := rename_inverse mapping
  obtain ⟨value, count⟩ := back short clear
  exact ⟨mapping, short, long, rfl, rfl, rfl, clear, clearToo, value, count.trans rfl, same,
    (apart short long clear clearToo).2 same⟩

end Script.Program

end PropertyMangling
