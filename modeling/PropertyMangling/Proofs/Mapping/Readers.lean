import PropertyMangling.Proofs.Mapping.Batches
import PropertyMangling.Proofs.TokenFile.Rereading
/-!
# The two readers of a token file

The lines of a token file are read in two places. A review reads every line that
is not blank, and marks the entries that are commented; an assignment trims a line
first, and passes over blank and commented ones. Both decide alike: what a review
does not mark is what an assignment names, and a line that stops an assignment
stops a review as well. Only a commented line without a token tells them apart,
since a review refuses it and an assignment does not look at it.
-/
namespace PropertyMangling.Mapping

open Identifier TokenFile Text

/-- What stops an assignment is a line that would stop a review, unless it is commented. -/
theorem isUnreadable_eq (line : String) :
    isUnreadable line = (isTokenless line && !isCommented line.toList) := by
  rw [isUnreadable, isListed, isTokenless, Bool.and_right_comm]

/-- A line stops an assignment when it is neither blank nor commented and no character of it may
stand inside an identifier. -/
theorem isUnreadable_eq_true_iff {line : String} :
    isUnreadable line = true ↔ isBlankText line.toList = false ∧ isCommented line.toList = false ∧
      ∀ c ∈ line.toList, isPart c = false := by
  simp [isUnreadable, isListed, and_assoc]

variable {seed lines : List String} {existing : List Entry} {start : Mapping}

/-- The tokens that an assignment is given are those of the entries that a review does not mark. -/
theorem mem_listedTokens_iff_of_parse (read : parse lines = .ok existing) {token : String} :
    token ∈ listedTokens lines ↔
      ∃ entry ∈ existing, entry.isExcluded = false ∧ entry.token = token := by
  rw [mem_listedTokens_iff]
  constructor
  · rintro ⟨line, listed, plain, found⟩
    exact ⟨⟨token, line⟩, (mem_of_parse read).mpr ⟨listed, found⟩, plain, rfl⟩
  · rintro ⟨entry, inside, plain, rfl⟩
    obtain ⟨listed, found⟩ := (mem_of_parse read).mp inside
    exact ⟨entry.message, listed, plain, found⟩

/-- What a review can read stops no assignment, as both find the tokens of lines in the same
way. -/
theorem readable_of_parse (read : parse lines = .ok existing) :
    ∀ line ∈ lines, isUnreadable line = false := by
  intro line listed
  have known : isTokenless line = false := by
    rw [← Bool.not_eq_true]
    intro tokenless
    obtain ⟨fault, refused⟩ := exists_parse_error_iff.mpr ⟨line, listed, tokenless⟩
    rw [read] at refused
    cases refused
  rw [isUnreadable_eq, known, Bool.false_and]

/-- The two readers of a token file agree.

With a seed that is accepted, an assignment fails exactly when some line that is
neither blank nor commented has no character of an identifier, and a review fails
over such lines as well. When a review reads the lines, an assignment succeeds, and
what it answers with maps the tokens of the seed and those of the entries that are
not marked, and no others. -/
theorem readers_agree (accepted : ofEntries seed = .ok start) :
    ((∃ fault, assign seed lines = .error fault) ↔ ∃ line ∈ lines,
      isBlankText line.toList = false ∧ isCommented line.toList = false ∧
        ∀ c ∈ line.toList, isPart c = false) ∧
    ((∃ fault, assign seed lines = .error fault) → ∃ fault, parse lines = .error fault) ∧
    ∀ existing, parse lines = .ok existing → ∃ entries final,
      assign seed lines = .ok entries ∧ ofEntries entries = .ok final ∧
      ∀ token, token ∈ final.tokens ↔ token ∈ start.tokens ∨
        ∃ entry ∈ existing, entry.isExcluded = false ∧ entry.token = token := by
  have fails : (∃ fault, assign seed lines = .error fault) ↔
      ∃ line ∈ lines, isUnreadable line = true := by
    rw [exists_assign_error_iff, accepted]
    simp
  refine ⟨?_, ?_, ?_⟩
  · simp only [fails, isUnreadable_eq_true_iff]
  · rw [fails]
    rintro ⟨line, listed, unreadable⟩
    rw [isUnreadable_eq, Bool.and_eq_true] at unreadable
    exact exists_parse_error_iff.mpr ⟨line, listed, unreadable.1⟩
  · intro existing read
    obtain ⟨named, answered, final, reread, grown⟩ :=
      exists_growsTo accepted (GrowsTo.refl start) (readable_of_parse read)
    refine ⟨named.entries, final, answered, reread, fun token => ?_⟩
    rw [grown.mem_tokens_iff, List.nil_append, mem_listedTokens_iff_of_parse read]

/-- A token that the seed knows is commented behind an ideographic space, another one stands before
a note, and a third is commented on one line and plain on the next. -/
theorem readers_agree_on_odd_lines :
    ofEntries ["x:a"] = .ok ⟨[("x", "a")], by decide, by decide⟩ ∧
    parse ["\u3000#x", " a # b", "#b", "b", ""] =
      .ok [⟨"x", "\u3000#x"⟩, ⟨"a", " a # b"⟩, ⟨"b", "#b"⟩, ⟨"b", "b"⟩] ∧
    ∃ entries final, assign ["x:a"] ["\u3000#x", " a # b", "#b", "b", ""] = .ok entries ∧
      ofEntries entries = .ok final ∧
      ∀ token, token ∈ final.tokens ↔ token = "x" ∨ token = "a" ∨ token = "b" := by
  have accepted : ofEntries ["x:a"] = .ok ⟨[("x", "a")], by decide, by decide⟩ := rfl
  have read : parse ["\u3000#x", " a # b", "#b", "b", ""] =
      .ok [⟨"x", "\u3000#x"⟩, ⟨"a", " a # b"⟩, ⟨"b", "#b"⟩, ⟨"b", "b"⟩] := rfl
  obtain ⟨entries, final, answered, reread, tokens⟩ := (readers_agree accepted).2.2 _ read
  refine ⟨accepted, read, entries, final, answered, reread, fun token => ?_⟩
  have marked : Entry.isExcluded ⟨"x", "\u3000#x"⟩ = true ∧
      Entry.isExcluded ⟨"b", "#b"⟩ = true := by decide
  have plain : Entry.isExcluded ⟨"a", " a # b"⟩ = false ∧
      Entry.isExcluded ⟨"b", "b"⟩ = false := by decide
  rw [tokens]
  simp [marked, plain, Mapping.tokens, eq_comm (b := token)]

end PropertyMangling.Mapping
