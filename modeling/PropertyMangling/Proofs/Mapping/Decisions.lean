import PropertyMangling.Proofs.Classification
import PropertyMangling.Proofs.Mapping.Eligibility
import PropertyMangling.Proofs.Mapping.Rounds
import PropertyMangling.Proofs.Reserved
import PropertyMangling.Proofs.TokenFile.Merge
import PropertyMangling.Proofs.TokenFile.Rereading
/-!
# Who decides whether a token is named

A token file holds one line for every token of the program: the first line that
a reviewer wrote for it, or the line of its classification if nobody has written
one. An assignment names a token exactly when that line is not commented. So the
reviewer decides about every token that has a line, against the classification
if need be, and the classification decides about all others. Later lines for one
token, and lines for tokens that the program does not have, decide nothing.
-/
namespace PropertyMangling.TokenFile

/-- The first entry with a token is that of the first line with this token. -/
theorem find?_of_parse {lines : List String} {existing : List Entry}
    (accepted : parse lines = .ok existing) (token : String) :
    existing.find? (fun entry => entry.token == token) =
      (lines.find? fun line => tokenOf? line == some token).map (Entry.mk token) := by
  have filled : (lines.filter fun line => !Text.isBlankText line.toList).find?
      (fun line => tokenOf? line == some token) =
        lines.find? fun line => tokenOf? line == some token := by
    rw [List.find?_filter]
    congr 1
    funext line
    cases found : tokenOf? line == some token with
    | false => simp
    | true => simp [isBlankText_of_tokenOf? (eq_of_beq found)]
  rw [← filled]
  have paired := mapM_eq_ok_iff.mp accepted
  clear accepted
  generalize lines.filter (fun line => !Text.isBlankText line.toList) = read at paired
  induction paired with
  | nil => rfl
  | @cons line entry _ _ read _ inductionHypothesis =>
    obtain ⟨found, rfl⟩ := entryOf_eq_ok_iff.mp read
    by_cases same : entry.token = token
    · subst same
      simp [found]
    · rw [List.find?_cons_of_neg (by simpa using same), inductionHypothesis,
        List.find?_cons_of_neg (by simpa [found] using same)]

end PropertyMangling.TokenFile

namespace PropertyMangling.Mapping

open Identifier Reserved.Index TokenFile Text

/-- The line that decides about a token: the first one that was reviewed for it, or that of its
classification. -/
def decisiveLine (lines : List String) (reserved : Reserved.Index) (minLength : Nat)
    (token : String) : String :=
  (lines.find? fun line => TokenFile.tokenOf? line == some token).getD
    (classifyToken reserved minLength token).message

variable {lines tokens : List String} {reserved : Reserved.Index} {minLength : Nat}
  {existing : List Entry} {token : String}

/-- The whole of a merge holds the decisive line of every token. -/
theorem whole_merge_classified (accepted : parse lines = .ok existing) (distinct : tokens.Nodup)
    (reserved : Reserved.Index) (minLength : Nat) :
    (merge existing (classifyTokens reserved minLength tokens)).whole =
      sorted (tokens.map (decisiveLine lines reserved minLength)) := by
  have distinctFresh : ((classifyTokens reserved minLength tokens).map Entry.token).Nodup := by
    rwa [map_token_classifyTokens]
  rw [whole_merge distinctFresh, classifyTokens, List.map_map, List.map_map]
  refine congrArg sorted (List.map_congr_left fun token _ => ?_)
  simp only [Function.comp_apply, decisive, token_classifyToken, find?_of_parse accepted,
    decisiveLine]
  cases lines.find? fun line => TokenFile.tokenOf? line == some token <;> rfl

/-- A decisive line that is not commented has the token that it decides about. -/
theorem tokenOf?_decisiveLine
    (plain : isCommented (decisiveLine lines reserved minLength token).toList = false) :
    TokenFile.tokenOf? (decisiveLine lines reserved minLength token) = some token := by
  unfold decisiveLine at plain ⊢
  cases reviewed : lines.find? fun line => TokenFile.tokenOf? line == some token with
  | some line =>
    simpa using List.find?_some reviewed
  | none =>
    rw [reviewed, Option.getD_none, isCommented_message, Option.isSome_eq_false_iff,
      Option.isNone_iff_eq_none] at plain
    rw [Option.getD_none]
    exact tokenOf?_message_of_isWord (isWord_of_renamable plain)

/-- A decisive line is not commented when the first line for its token is not, or when there is no
such line and the classification lets the token be renamed. -/
theorem isCommented_decisiveLine_eq_false_iff :
    isCommented (decisiveLine lines reserved minLength token).toList = false ↔
      (∃ line, (lines.find? fun line => TokenFile.tokenOf? line == some token) = some line ∧
        isCommented line.toList = false) ∨
      (∀ line ∈ lines, TokenFile.tokenOf? line ≠ some token) ∧
        exclusionReason? reserved minLength token = none := by
  unfold decisiveLine
  cases reviewed : lines.find? fun line => TokenFile.tokenOf? line == some token with
  | some line =>
    have listed : line ∈ lines := List.mem_of_find?_eq_some reviewed
    have found : TokenFile.tokenOf? line = some token := by
      simpa using List.find?_some reviewed
    constructor
    · intro plain
      exact Or.inl ⟨line, rfl, plain⟩
    · rintro (⟨other, same, plain⟩ | ⟨absent, _⟩)
      · rw [Option.some.inj same]
        exact plain
      · exact absurd found (absent line listed)
  | none =>
    have absent : ∀ line ∈ lines, TokenFile.tokenOf? line ≠ some token := by
      intro line listed found
      exact List.find?_eq_none.mp reviewed line listed (beq_iff_eq.mpr found)
    rw [Option.getD_none, isCommented_message, Option.isSome_eq_false_iff,
      Option.isNone_iff_eq_none]
    constructor
    · intro renamable
      exact Or.inr ⟨absent, renamable⟩
    · rintro (⟨_, impossible, _⟩ | ⟨_, renamable⟩)
      · cases impossible
      · exact renamable

/-- A token file names exactly the tokens that its reviewer lets be named.

Made from reviewed lines, whatever these repeat or leave out, and from the
distinct tokens of a program, the whole token file can always be assigned, and the
entries of the answer are read back to one mapping. A token has a name in it
exactly when the first line reviewed for it is not commented, or when no line was
reviewed for it and it is not reserved, is a plain identifier, and is long enough.

Proof: an assignment from nothing names the eligible tokens of its lines, and what
it answers with is read back to the same pairs. Each line of the whole file is the
decisive one of its token, so that the eligible tokens are those that have a
decisive line without a comment. -/
theorem named_iff_decided (accepted : parse lines = .ok existing) (distinct : tokens.Nodup)
    (custom : List String) (minLength : Nat) :
    ∃ named : Mapping,
      assign [] (merge existing (classifyTokens (.ofCustom custom) minLength tokens)).whole =
        .ok named.entries ∧
      ofEntries named.entries = .ok named ∧
      ∀ token, token ∈ named.tokens ↔ token ∈ tokens ∧
        ((∃ line, (lines.find? fun line => TokenFile.tokenOf? line == some token) = some line ∧
            isCommented line.toList = false) ∨
          (∀ line ∈ lines, TokenFile.tokenOf? line ≠ some token) ∧
            (ofCustom custom).isReserved token = false ∧ isPlain token = true ∧
            minLength ≤ token.length) := by
  have start : ofEntries [] = .ok empty := rfl
  have whole := whole_merge_classified accepted distinct (ofCustom custom) minLength
  have inWhole {line : String} :
      line ∈ (merge existing (classifyTokens (ofCustom custom) minLength tokens)).whole ↔
        ∃ token ∈ tokens, decisiveLine lines (ofCustom custom) minLength token = line := by
    rw [whole, mem_sorted, List.mem_map]
  obtain ⟨eligible, read, given⟩ := exists_eligibleTokens fun line listed _ plain => by
    obtain ⟨token, _, rfl⟩ := inWhole.mp listed
    exact ⟨token, tokenOf?_decisiveLine plain⟩
  obtain ⟨answer, assignment, pairs⟩ := assigned_eq start read
  obtain ⟨named, reread, sorted⟩ :=
    ofEntries_entries (isWritable_assigned (isWritable_of_ofEntries start) read pairs)
  have samePairs : named.pairs.Perm answer.pairs := sorted ▸ answer.sortedPairs_perm
  have sameEntries : named.entries = answer.entries := entries_eq_of_perm samePairs
  have answered : assign [] (merge existing (classifyTokens (ofCustom custom) minLength tokens)).whole =
      .ok named.entries := by
    rw [assign, assignment, sameEntries]
    rfl
  refine ⟨named, answered, sameEntries ▸ reread, fun token => ?_⟩
  have isNamed : token ∈ named.tokens ↔ token ∈ eligible := by
    have unknown : empty.get? token = none := rfl
    have unnamed : answer.get? token = none ↔ empty.get? token = none ∧ token ∉ eligible :=
      get?_assigned_eq_none_iff pairs
    rw [get?_eq_none_iff, unknown] at unnamed
    have listed : token ∈ named.tokens ↔ token ∈ answer.tokens := (samePairs.map Prod.fst).mem_iff
    rw [listed]
    simpa using not_congr unnamed
  rw [isNamed, given, ← exclusionReason?_eq_none_iff, ← isCommented_decisiveLine_eq_false_iff]
  constructor
  · rintro ⟨line, listed, plain, found⟩
    obtain ⟨other, inside, rfl⟩ := inWhole.mp listed
    have same : other = token :=
      Option.some.inj ((tokenOf?_decisiveLine plain).symm.trans found)
    exact ⟨same ▸ inside, same ▸ plain⟩
  · rintro ⟨inside, plain⟩
    exact ⟨_, inWhole.mpr ⟨token, inside, rfl⟩, plain, tokenOf?_decisiveLine plain⟩

/-- A reserved token that the reviewer lets be named, a plain one that the reviewer keeps, one with
two lines of which the first is not commented, one that nobody has reviewed, and one that is no
identifier. -/
theorem named_beside_reviewed_lines : ∃ existing : List Entry,
    parse ["#bar: kept", "length", "baz # fine", "#baz", "qux"] = .ok existing ∧
    ["foo", "bar", "baz", "length", "a-b"].Nodup ∧ ∃ named : Mapping,
      assign [] (merge existing
        (classifyTokens (.ofCustom []) 2 ["foo", "bar", "baz", "length", "a-b"])).whole =
          .ok named.entries ∧
      ofEntries named.entries = .ok named ∧ "length" ∈ named.tokens ∧ "bar" ∉ named.tokens ∧
      "baz" ∈ named.tokens ∧ "foo" ∈ named.tokens ∧ "a-b" ∉ named.tokens := by
  have accepted : parse ["#bar: kept", "length", "baz # fine", "#baz", "qux"] =
      .ok [⟨"bar", "#bar: kept"⟩, ⟨"length", "length"⟩, ⟨"baz", "baz # fine"⟩, ⟨"baz", "#baz"⟩,
        ⟨"qux", "qux"⟩] := by decide +kernel
  have distinct : ["foo", "bar", "baz", "length", "a-b"].Nodup := by decide
  obtain ⟨named, assignment, reread, decided⟩ := named_iff_decided accepted distinct [] 2
  refine ⟨_, accepted, distinct, named, assignment, reread, ?_⟩
  simp only [decided]
  have unreserved : (ofCustom []).isReserved "foo" = false := by
    rw [Bool.eq_false_iff, Ne, isReserved_ofCustom_iff]
    decide +kernel
  refine ⟨⟨by decide, Or.inl ⟨"length", by decide +kernel, by decide⟩⟩, ?_,
    ⟨by decide, Or.inl ⟨"baz # fine", by decide +kernel, by decide⟩⟩,
    ⟨by decide, Or.inr ⟨by decide +kernel, unreserved, by decide, by decide⟩⟩, ?_⟩
  · have first : (["#bar: kept", "length", "baz # fine", "#baz", "qux"].find? fun line =>
        TokenFile.tokenOf? line == some "bar") = some "#bar: kept" := by decide +kernel
    rintro ⟨_, ⟨line, found, plain⟩ | ⟨absent, _⟩⟩
    · rw [← Option.some.inj (first.symm.trans found)] at plain
      exact absurd plain (by decide)
    · exact absent "#bar: kept" (by decide) (by decide +kernel)
  · have none : (["#bar: kept", "length", "baz # fine", "#baz", "qux"].find? fun line =>
        TokenFile.tokenOf? line == some "a-b") = none := by decide +kernel
    rintro ⟨_, ⟨line, found, _⟩ | ⟨_, _, plain, _⟩⟩
    · cases none.symm.trans found
    · exact absurd plain (by decide)

end PropertyMangling.Mapping
