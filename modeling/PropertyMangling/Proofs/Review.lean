import PropertyMangling.Proofs.Classification
import PropertyMangling.Proofs.TokenFile.Merge
import PropertyMangling.Proofs.TokenFile.Rereading
import PropertyMangling.Review
/-!
# Merging a token file with the program it was made from

A token file that was made for a program is reread line by line and merged with
the tokens of the same program. Nothing changes exactly when every token is a
word. A line is read as its first word, so the line of any other token is read
as a token that the program may have elsewhere or not at all; in the walk that
compares both sides, some line is then reported as new or as gone.
-/
namespace PropertyMangling

open TokenFile Identifier Text

/-- The token that the line of a classified token is read as. -/
def readBack (reserved : Reserved.Index) (minLength : Nat) (token : String) : String :=
  (reread (classifyToken reserved minLength token).message).token

/-- What is read from the line of a classified token is known in full: the token itself, or the
part of it that is a word. -/
theorem tokenOf?_message (reserved : Reserved.Index) (minLength : Nat) (token : String) :
    tokenOf? (classifyToken reserved minLength token).message =
      some (readBack reserved minLength token) := by
  obtain ⟨read, given⟩ := exists_tokenOf?_message reserved minLength token
  rw [readBack, reread, given, Option.getD_some]

/-- Reading the lines of tokens back rearranges the tokens exactly when all of them are words:
nothing else is ever read. -/
theorem map_readBack_perm_iff (reserved : Reserved.Index) (minLength : Nat)
    (tokens : List String) :
    (tokens.map (readBack reserved minLength)).Perm tokens ↔ ∀ token ∈ tokens, IsWord token := by
  constructor
  · intro rearranged token listed
    obtain ⟨other, _, same⟩ := List.mem_map.mp (rearranged.mem_iff.mpr listed)
    exact same ▸ isWord_of_tokenOf? (tokenOf?_message reserved minLength other)
  · intro allWords
    have unchanged : ∀ token ∈ tokens, readBack reserved minLength token = token := by
      intro token listed
      have read : tokenOf? (classifyToken reserved minLength token).message = some token :=
        tokenOf?_message_eq_iff.mpr (allWords token listed)
      exact Option.some.inj ((tokenOf?_message reserved minLength token).symm.trans read)
    rw [List.map_congr_left unchanged, List.map_id']

/-- Lines that were made for tokens are read again, and merging them with the same tokens changes
nothing exactly when all tokens are words. -/
theorem merge_again_iff (reserved : Reserved.Index) (minLength : Nat) (tokens : List String)
    {fresh : List Entry} (classified : classifyTokens reserved minLength tokens = fresh)
    {whole : List String} (made : (merge [] fresh).whole = whole) :
    ∃ existing, parse whole = .ok existing ∧
      ((merge existing fresh).whole = whole ∧ (merge existing fresh).diff = [] ↔
        ∀ token ∈ tokens, IsWord token) := by
  have lines : whole.Perm (fresh.map Entry.message) := by
    rw [← made, whole_merge_nil]
    exact sortBy_perm id _
  have readable : ∀ line ∈ whole, ∃ token, tokenOf? line = some token := by
    intro line listed
    obtain ⟨entry, inside, rfl⟩ := List.mem_map.mp (lines.mem_iff.mp listed)
    obtain ⟨token, _, rfl⟩ := List.mem_map.mp (classified ▸ inside)
    exact exists_tokenOf?_message reserved minLength token
  refine ⟨whole.map reread, parse_eq_ok_map readable, ?_⟩
  have reviewedTokens : ((whole.map reread).map Entry.token).Perm
      (tokens.map (readBack reserved minLength)) := by
    have made : ((fresh.map Entry.message).map reread).map Entry.token =
        tokens.map (readBack reserved minLength) := by
      rw [← classified, classifyTokens, List.map_map, List.map_map, List.map_map]
      rfl
    exact made ▸ (lines.map reread).map Entry.token
  have freshTokens : fresh.map Entry.token = tokens := by
    rw [← classified, map_token_classifyTokens]
  have quiet : ((whole.map reread).map Entry.token).Perm (fresh.map Entry.token) ↔
      ∀ token ∈ tokens, IsWord token := by
    rw [freshTokens, ← map_readBack_perm_iff reserved minLength]
    exact ⟨reviewedTokens.symm.trans, reviewedTokens.trans⟩
  rw [diff_merge_eq_nil_iff, quiet]
  refine ⟨And.right, fun allWords => ⟨?_, allWords⟩⟩
  have rereadLines : (whole.map reread).map Entry.message = whole := by
    rw [List.map_map]
    exact List.map_id' whole
  rw [whole_merge_of_same_tokens (quiet.mpr allWords), rereadLines, ← made, whole_merge_nil,
    sorted_sorted]

namespace Review

/-- The review after other reviewed lines, given in place. -/
def after (review : Review) (lines : List String) (wantsDiff : Bool) : Review :=
  { review with tokenFile? := none, lines := lines, wantsDiff := wantsDiff }

/-- A review whose lines can be read merges them with the tokens of the program. -/
theorem run_after {review : Review} {read : Reader} {source : String} {program : Script.Program}
    {lines : List String} {existing : List Entry} (parsed : readProgram source = .ok program)
    (reviewed : parse lines = .ok existing) (wantsDiff : Bool) :
    (review.after lines wantsDiff).run read source =
      .ok (if wantsDiff then (merge existing (review.fresh program)).diff
        else (merge existing (review.fresh program)).whole) := by
  have saved : (review.after lines wantsDiff).reviewed read = .ok existing := reviewed
  rw [run, saved]
  change (readProgram source >>= _) = _
  rw [parsed]
  rfl

/-- A token file is stable exactly when every token of its program is a word.

Made without reviewed lines and then given back as reviewed lines for the same
program, it is returned as it is and without differences under this condition
and under no other. The reserved names and the least length do not matter. -/
theorem run_again_iff (review : Review) (read : Reader) {source : String}
    {program : Script.Program} (parsed : readProgram source = .ok program) :
    ∃ whole again diff, (review.after [] false).run read source = .ok whole ∧
      (review.after whole false).run read source = .ok again ∧
      (review.after whole true).run read source = .ok diff ∧
      (again = whole ∧ diff = [] ↔
        ∀ token ∈ program.tokens review.marker, IsWord token) := by
  obtain ⟨existing, reviewed, unchanged⟩ :=
    merge_again_iff (.ofCustom review.reservedNames) review.minLength
      (program.tokens review.marker) (rfl : _ = review.fresh program) rfl
  exact ⟨_, _, _, run_after parsed rfl false, run_after parsed reviewed false,
    run_after parsed reviewed true, unchanged⟩

/-- A subscript that holds a hyphen: the program parses, and its own token file does not survive it. -/
theorem run_again_changes_hyphenated :
    (readProgram "o['foo-bar'] = o.foo;").map (·.tokens defaultMarker) = .ok ["foo-bar", "foo"] ∧
    ∃ whole again diff, (({} : Review).after [] false).run ({} : Files).read
        "o['foo-bar'] = o.foo;" = .ok whole ∧
      (({} : Review).after whole false).run ({} : Files).read
        "o['foo-bar'] = o.foo;" = .ok again ∧
      (({} : Review).after whole true).run ({} : Files).read
        "o['foo-bar'] = o.foo;" = .ok diff ∧
      ¬ (again = whole ∧ diff = []) := by
  have tokens : (readProgram "o['foo-bar'] = o.foo;").map (·.tokens defaultMarker) =
      .ok ["foo-bar", "foo"] := by decide +kernel
  refine ⟨tokens, ?_⟩
  cases parsed : readProgram "o['foo-bar'] = o.foo;" with
  | error failure =>
    rw [parsed] at tokens
    cases tokens
  | ok program =>
    rw [parsed] at tokens
    have listed : program.tokens defaultMarker = ["foo-bar", "foo"] := Except.ok.inj tokens
    obtain ⟨whole, again, diff, first, second, third, stable⟩ :=
      run_again_iff {} ({} : Files).read parsed
    refine ⟨whole, again, diff, first, second, third, fun unchanged => ?_⟩
    have word : IsWord "foo-bar" := stable.mp unchanged "foo-bar" (by rw [listed]; decide)
    exact absurd word (by decide)

end Review

end PropertyMangling
