import PropertyMangling.Proofs.Classification
import PropertyMangling.Proofs.Mapping.Assignment
import PropertyMangling.Proofs.Mapping.Eligibility
import PropertyMangling.Proofs.Reading
import PropertyMangling.Proofs.Repetition
import PropertyMangling.Proofs.Reserved
import PropertyMangling.Proofs.TokenFile.Merge
import PropertyMangling.Property.Embedded
/-!
# Fresh names that meet tokens

An allocator passes over the names of its mapping and the words of the language,
and over nothing else. A token that is kept from being renamed need be neither:
its line is commented, and an assignment does not look at it. So a fresh name
can be the spelling of a property that stays as it is. Among the properties that
stay, this happens to exactly those that are among the first names the seed
leaves free, as many of these as tokens are named anew; between two renamed
properties it never happens.
-/
namespace PropertyMangling.Mapping

open Identifier Reserved.Index ShortName TokenFile Text

/-- The token file of tokens that nobody has reviewed. -/
def unreviewed (reserved : Reserved.Index) (minLength : Nat) (tokens : List String) :
    List String :=
  (merge [] (classifyTokens reserved minLength tokens)).whole

/-- The tokens that may be renamed. -/
def renamable (reserved : Reserved.Index) (minLength : Nat) (tokens : List String) :
    List String :=
  tokens.filter fun token => (exclusionReason? reserved minLength token).isNone

variable {reserved : Reserved.Index} {minLength : Nat} {tokens : List String}

/-- The renamable tokens are those given for which no reason against renaming is found. -/
theorem mem_renamable_iff {token : String} :
    token ∈ renamable reserved minLength tokens ↔
      token ∈ tokens ∧ exclusionReason? reserved minLength token = none := by
  rw [renamable, List.mem_filter, Option.isNone_iff_eq_none]

/-- Of the lines of classified tokens those are eligible whose tokens may be renamed. -/
theorem isEligibleLine_message (token : String) :
    isEligibleLine (trim (classifyToken reserved minLength token).message.toList) =
      (exclusionReason? reserved minLength token).isNone := by
  obtain ⟨read, given⟩ := exists_tokenOf?_message reserved minLength token
  rw [isEligibleLine_trim, isCommented_message, isBlankText_of_tokenOf? given]
  cases exclusionReason? reserved minLength token <;> rfl

/-- From an unreviewed token file the tokens are named that may be renamed, in their order. -/
theorem eligibleTokens_unreviewed :
    eligibleTokens (unreviewed reserved minLength tokens) =
      .ok (sorted (renamable reserved minLength tokens)) := by
  let trimmed (line : String) : List Char := trim line.toList
  have lines : (sorted (unreviewed reserved minLength tokens)).filter (isEligibleLine ∘ trimmed) =
      sorted (renamable reserved minLength tokens) := by
    rw [unreviewed, whole_merge_nil, sorted_sorted, filter_sorted, classifyTokens, List.map_map,
      List.filter_map]
    have picked : (isEligibleLine ∘ trimmed) ∘ Entry.message ∘ classifyToken reserved minLength =
        fun token => (exclusionReason? reserved minLength token).isNone :=
      funext isEligibleLine_message
    have messages : ∀ token ∈ renamable reserved minLength tokens,
        (Entry.message ∘ classifyToken reserved minLength) token = token :=
      fun token listed => message_of_renamable (mem_renamable_iff.mp listed).2
    rw [picked]
    exact congrArg sorted ((List.map_congr_left messages).trans (List.map_id' _))
  have firm : ∀ token ∈ sorted (renamable reserved minLength tokens),
      IsWord token ∧ trim token.toList = token.toList := by
    intro token listed
    have word := isWord_of_renamable (mem_renamable_iff.mp (mem_sorted.mp listed)).2
    exact ⟨word, trim_eq_self word.hasFirmEnds⟩
  have texts : ((sorted (renamable reserved minLength tokens)).map trimmed).map String.ofList =
      sorted (renamable reserved minLength tokens) := by
    rw [List.map_map]
    refine (List.map_congr_left fun token listed => ?_).trans (List.map_id' _)
    exact (congrArg String.ofList (firm token listed).2).trans String.ofList_toList
  rw [eligibleTokens, List.filter_map, lines]
  refine (mapM_eq_ok_map fun line listed => ?_).trans (congrArg Except.ok texts)
  obtain ⟨token, inside, rfl⟩ := List.mem_map.mp listed
  obtain ⟨word, whole⟩ := firm token inside
  rw [whole, String.ofList_toList, tokenOf?_word word]

/-- A token that stays as it is although a fresh name is spelled like it: the seed does not know it,
it is kept from being renamed, and it is among the first free names, of which there is one for every
token that is named anew. -/
structure IsMet (reserved : Reserved.Index) (minLength : Nat) (tokens : List String)
    (start : Mapping) (kept : String) : Prop where
  unknown : start.get? kept = none
  excluded : reserved.isReserved kept = true ∨ kept.length < minLength
  spelled : ∃ index, ofIndex index = kept ∧ Free start.names index ∧
    Nat.count (Free start.names) index <
      ((renamable reserved minLength tokens).filter fun token =>
        (start.get? token).isNone).length

/-- Among distinct tokens there are as many new ones as may be renamed and are not known. -/
theorem length_newTokens_renamable (start : Mapping) (distinct : tokens.Nodup) :
    (start.newTokens (sorted (renamable reserved minLength tokens))).length =
      ((renamable reserved minLength tokens).filter fun token =>
        (start.get? token).isNone).length := by
  have rearranged : ((sorted (renamable reserved minLength tokens)).filter fun token =>
      (start.get? token).isNone).Perm ((renamable reserved minLength tokens).filter fun token =>
        (start.get? token).isNone) :=
    (sortBy_perm id _).filter _
  have single : ((renamable reserved minLength tokens).filter fun token =>
      (start.get? token).isNone).Nodup := (distinct.filter _).filter _
  rw [newTokens, eraseDups_of_nodup (rearranged.nodup_iff.mpr single), rearranged.length_eq]

/-- A plain identifier is kept only because it is reserved or too short. -/
theorem excluded_iff_of_plain {kept : String} (plain : isPlain kept = true) :
    exclusionReason? reserved minLength kept ≠ none ↔
      reserved.isReserved kept = true ∨ kept.length < minLength := by
  rw [Ne, exclusionReason?_eq_none_iff, plain]
  cases reserved.isReserved kept <;> simp

section Assigned

variable {start final : Mapping} (pairs : final.pairs = start.pairs ++
  freshPairs start.names 0 (start.newTokens (sorted (renamable reserved minLength tokens))))
include pairs

/-- A token of the program is left without a name and spelled like a fresh one exactly when it is
met. -/
theorem spelled_and_unnamed_iff (distinct : tokens.Nodup) {kept : String} (listed : kept ∈ tokens) :
    (final.get? kept = none ∧
        ∃ token, start.get? token = none ∧ final.get? token = some kept) ↔
      IsMet reserved minLength tokens start kept := by
  have plain {index : Nat} (free : Free start.names index) : isPlain (ofIndex index) = true :=
    (isPlain_ofIndex_iff index).mpr (free_iff.mp free).2
  rw [get?_assigned_eq_none_iff pairs, exists_fresh_name_iff pairs,
    length_newTokens_renamable start distinct, mem_sorted, mem_renamable_iff]
  constructor
  · rintro ⟨⟨unknown, notRenamable⟩, index, rfl, free, before⟩
    exact {
      unknown := unknown
      excluded := (excluded_iff_of_plain (plain free)).mp fun none => notRenamable ⟨listed, none⟩
      spelled := ⟨index, rfl, free, before⟩ }
  · rintro ⟨unknown, excluded, index, rfl, free, before⟩
    exact ⟨⟨unknown, fun both => (excluded_iff_of_plain (plain free)).mpr excluded both.2⟩,
      index, rfl, free, before⟩

/-- Only tokens of the program are named anew, so a token with a new name is one of them. -/
theorem mem_of_fresh_name {token name : String} (unknown : start.get? token = none)
    (named : final.get? token = some name) : token ∈ tokens := by
  by_contra outside
  have nowhere : final.get? token = none :=
    (get?_assigned_eq_none_iff pairs).mpr ⟨unknown, fun given =>
      outside (mem_renamable_iff.mp (mem_sorted.mp given)).1⟩
  rw [named] at nowhere
  cases nowhere

/-- A token that is named anew and another token of the program are written alike exactly when the
other one is left without a name and spelled like the new name. -/
theorem exists_alike_iff {kept : String} :
    (∃ token ∈ tokens, token ≠ kept ∧ start.get? token = none ∧
        (final.get? token).isSome = true ∧
        Embedded.renamed final token = Embedded.renamed final kept) ↔
      final.get? kept = none ∧
        ∃ token, start.get? token = none ∧ final.get? token = some kept := by
  constructor
  · rintro ⟨token, _, other, unknown, some, alike⟩
    obtain ⟨name, named⟩ := Option.isSome_iff_exists.mp some
    rw [Embedded.renamed_of_known named] at alike
    cases keptNamed : final.get? kept with
    | none =>
      rw [Embedded.renamed_of_unknown keptNamed] at alike
      exact ⟨rfl, token, unknown, alike ▸ named⟩
    | some keptName =>
      rw [Embedded.renamed_of_known keptNamed] at alike
      have shared : (kept, name) ∈ final.pairs := get?_eq_some_iff.mp (alike ▸ keptNamed)
      exact absurd (token_eq_of_name_eq (get?_eq_some_iff.mp named) shared) other
  · rintro ⟨notNamed, token, unknown, named⟩
    have other : token ≠ kept := by
      rintro rfl
      rw [named] at notNamed
      cases notNamed
    refine ⟨token, mem_of_fresh_name pairs unknown named, other, unknown, ?_, ?_⟩
    · rw [named, Option.isSome_some]
    · rw [Embedded.renamed_of_known named, Embedded.renamed_of_unknown notNamed]

end Assigned

/-- A token that is too short to be renamed is spelled like the first name that is given out. -/
theorem short_token_is_met : ofEntries [] = .ok empty ∧ ["a", "foo"].Nodup ∧
    ∃ final, assigned [] (unreviewed (.ofCustom []) 2 ["a", "foo"]) = .ok final ∧
      empty.get? "foo" = none ∧ final.get? "foo" = some "a" ∧ final.get? "a" = none ∧
      Embedded.renamed final "foo" = Embedded.renamed final "a" := by
  have distinct : ["a", "foo"].Nodup := by decide
  refine ⟨rfl, distinct, ?_⟩
  have accepted : ofEntries [] = .ok empty := rfl
  obtain ⟨final, assignment, pairs⟩ := assigned_eq accepted
    (eligibleTokens_unreviewed : eligibleTokens (unreviewed (.ofCustom []) 2 ["a", "foo"]) = _)
  have longer : "foo" ∈ renamable (.ofCustom []) 2 ["a", "foo"] := by
    rw [mem_renamable_iff, exclusionReason?_eq_none_iff, Bool.eq_false_iff, Ne,
      isReserved_ofCustom_iff]
    decide +kernel
  have met : IsMet (.ofCustom []) 2 ["a", "foo"] empty "a" := {
    unknown := rfl
    excluded := Or.inr (by decide)
    spelled := ⟨0, by decide +kernel, by decide +kernel,
      List.length_pos_of_mem (List.mem_filter.mpr ⟨longer, rfl⟩)⟩ }
  obtain ⟨unnamed, token, unknown, named⟩ :=
    (spelled_and_unnamed_iff pairs distinct List.mem_cons_self).mpr met
  rcases List.mem_pair.mp (mem_of_fresh_name pairs unknown named) with rfl | rfl
  · rw [unnamed] at named
    cases named
  · refine ⟨final, assignment, unknown, named, unnamed, ?_⟩
    rw [Embedded.renamed_of_known named, Embedded.renamed_of_unknown unnamed]

/-- A fresh name is spelled like a token that stays as it is exactly when that token is met.

Nothing else can coincide: whenever a token that is named anew and another token
of the program are written alike afterwards, the other one is such a token,
since two renamed tokens never share a name. The assignment itself always succeeds. -/
theorem fresh_name_meets_iff {seed custom tokens : List String} {minLength : Nat} {start : Mapping}
    (accepted : ofEntries seed = .ok start) (distinct : tokens.Nodup) :
    ∃ final, assigned seed (unreviewed (.ofCustom custom) minLength tokens) = .ok final ∧
      ∀ kept ∈ tokens,
        ((final.get? kept = none ∧
            ∃ token, start.get? token = none ∧ final.get? token = some kept) ↔
          IsMet (.ofCustom custom) minLength tokens start kept) ∧
        ((∃ token ∈ tokens, token ≠ kept ∧ start.get? token = none ∧
            (final.get? token).isSome = true ∧
            Embedded.renamed final token = Embedded.renamed final kept) ↔
          IsMet (.ofCustom custom) minLength tokens start kept) := by
  obtain ⟨final, named, pairs⟩ := assigned_eq accepted eligibleTokens_unreviewed
  refine ⟨final, named, fun kept listed => ?_⟩
  have met := spelled_and_unnamed_iff pairs distinct listed
  exact ⟨met, (exists_alike_iff pairs).trans met⟩

/-- Behind a seed that uses the first name, the second one meets the token that is spelled like it;
the token that is spelled like the first name is not met. -/
theorem fresh_name_meets_behind_seed : ∃ start final, ofEntries ["bar:a"] = .ok start ∧
    ["a", "b", "bar", "foo"].Nodup ∧
    assigned ["bar:a"] (unreviewed (.ofCustom []) 2 ["a", "b", "bar", "foo"]) = .ok final ∧
    (final.get? "b" = none ∧
      ∃ token, start.get? token = none ∧ final.get? token = some "b") ∧
    ¬ (final.get? "a" = none ∧
      ∃ token, start.get? token = none ∧ final.get? token = some "a") := by
  let start : Mapping := ⟨[("bar", "a")], by decide, by decide⟩
  have accepted : ofEntries ["bar:a"] = .ok start := rfl
  have distinct : ["a", "b", "bar", "foo"].Nodup := by decide
  obtain ⟨final, assignment, meets⟩ :=
    @fresh_name_meets_iff _ [] _ 2 _ accepted distinct
  have longer : "foo" ∈ renamable (.ofCustom []) 2 ["a", "b", "bar", "foo"] := by
    rw [mem_renamable_iff, exclusionReason?_eq_none_iff, Bool.eq_false_iff, Ne,
      isReserved_ofCustom_iff]
    decide +kernel
  have first : Nat.count (Free start.names) 1 = 0 := by decide +kernel
  have met : IsMet (.ofCustom []) 2 ["a", "b", "bar", "foo"] start "b" := {
    unknown := by decide
    excluded := Or.inr (by decide)
    spelled := ⟨1, by decide +kernel, by decide +kernel,
      first ▸ List.length_pos_of_mem (List.mem_filter.mpr ⟨longer, by decide⟩)⟩ }
  refine ⟨start, final, accepted, distinct, assignment,
    (meets "b" (by decide)).1.mpr met, fun used => ?_⟩
  obtain ⟨index, spelled, free, _⟩ := ((meets "a" (by decide)).1.mp used).spelled
  exact (free_iff.mp free).1 (spelled ▸ List.mem_cons_self)

end PropertyMangling.Mapping
