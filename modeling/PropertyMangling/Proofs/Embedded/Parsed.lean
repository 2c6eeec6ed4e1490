import PropertyMangling.Proofs.Embedded.Following.Programs
/-!
# Renamed code parses

Renaming looks at the character in front of a word and at the one behind it, and only the grammar
knows what stands there. Where every word that a mapping changes is a name of a member, or all of a
string, the renamed code parses whenever the code did, and its variables are those of the code.
The scan itself does not see to that: it also changes the last name of a spread, of `new.target`
and of `import.meta`, the exponent behind the point of a number, and words in comments, templates
and regular expressions. None of these is a name of a member.
-/
namespace PropertyMangling.Embedded

open Script Identifier

/-! ## Words that keep their names -/

/-- A piece as it is when a word that keeps its name is copied. -/
def Piece.settled (rename : String → String) : Piece → List Piece
  | copied c => [.copied c]
  | word run =>
    if rename (String.ofList run) = String.ofList run then run.map .copied else [.word run]

/-- Pieces in which words that keep their names are copied. -/
def settled (rename : String → String) (parts : List Piece) : List Piece :=
  parts.flatMap (Piece.settled rename)

section Settled

variable {rename : String → String} {parts : List Piece}

/-- Copying a word instead of keeping it as one leaves the text as it is. -/
theorem textOf_settled : textOf (settled rename parts) = textOf parts := by
  rw [settled, textOf, List.flatMap_assoc, textOf]
  refine List.flatMap_congr fun part _ => ?_
  cases part with
  | copied c => rfl
  | word run =>
    rw [Piece.settled]
    split
    · exact textOf_copied run
    · exact List.append_nil run

/-- Copying a word that keeps its name writes what renaming it writes, so that the words that are left
are all that renaming changes. -/
theorem renderPieces_settled :
    renderPieces rename (settled rename parts) = renderPieces rename parts := by
  rw [settled, renderPieces, List.flatMap_assoc, renderPieces]
  refine List.flatMap_congr fun part _ => ?_
  cases part with
  | copied c => rfl
  | word run =>
    rw [Piece.settled, rendered_word]
    split
    next kept =>
      rw [kept, String.toList_ofList]
      exact renderPieces_copied run
    · exact List.append_nil _

/-- Each word that is left gets another name, and it stands where it stood.

By induction on the pieces: a piece that is copied moves the words behind it by what it is written
as, whether it is a character or a word that keeps its name. -/
theorem exists_word_of_settled {front others : List Piece} {run : List Char}
    (same : settled rename parts = front ++ .word run :: others) :
    rename (String.ofList run) ≠ String.ofList run ∧
      ∃ before behind, parts = before ++ .word run :: behind ∧ textOf before = textOf front ∧
        textOf behind = textOf others := by
  induction parts generalizing front with
  | nil => simp [settled] at same
  | cons part parts inductionHypothesis =>
    -- Copied characters in front move the words behind them.
    have further {chars : List Char} (written : part.chars = chars)
        (same : chars.map .copied ++ settled rename parts = front ++ .word run :: others) :
        rename (String.ofList run) ≠ String.ofList run ∧
          ∃ before behind, part :: parts = before ++ .word run :: behind ∧
            textOf before = textOf front ∧ textOf behind = textOf others := by
      obtain ⟨front, rfl, rest⟩ := exists_behind_copied chars same
      obtain ⟨changed, before, behind, rfl, text, textBehind⟩ := inductionHypothesis rest
      exact ⟨changed, part :: before, behind, rfl, by simp [written, text], textBehind⟩
    rw [settled, List.flatMap_cons, ← settled] at same
    cases part with
    | copied c => exact further rfl same
    | word found =>
      rw [Piece.settled] at same
      split at same
      · exact further rfl same
      next changed =>
        cases front with
        | nil =>
          obtain ⟨⟨⟩, rfl⟩ := List.cons.inj same
          exact ⟨changed, [], parts, rfl, rfl, textOf_settled.symm⟩
        | cons first front =>
          obtain ⟨rfl, rest⟩ := List.cons.inj same
          obtain ⟨changed, before, behind, rfl, text, textBehind⟩ := inductionHypothesis rest
          exact ⟨changed, .word found :: before, behind, rfl, by simp [text], textBehind⟩

end Settled

/-! ## Code and renamed code -/

/-- A word that gets another name has this name in the mapping. -/
theorem exists_name_of_changed {mapping : Mapping} {word : String}
    (changed : renamed mapping word ≠ word) :
    ∃ name, mapping.get? word = some name ∧ renamed mapping word = name := by
  cases known : mapping.get? word with
  | none => exact absurd (renamed_of_unknown known) changed
  | some name => exact ⟨name, rfl, renamed_of_known known⟩

/-- What renaming changes in code, as words that are exchanged for names. -/
def exchangeOf (mapping : Mapping) (code : List Char) (lead : Nat)
    (names : ∀ name ∈ mapping.names, isPlainName name = true) : Exchange where
  rename := renamed mapping
  parts := settled (renamed mapping) (pieces code)
  lead := lead
  plain run inside := by
    obtain ⟨front, others, same⟩ := List.append_of_mem inside
    obtain ⟨changed, -⟩ := exists_word_of_settled same
    obtain ⟨name, known, isName⟩ := exists_name_of_changed changed
    rw [isName]
    exact names name (List.mem_map.mpr ⟨_, Mapping.get?_eq_some_iff.mp known, rfl⟩)
  placed front run others same := by
    obtain ⟨-, before, behind, split, text, textBehind⟩ := exists_word_of_settled same
    rw [← text, ← textBehind]
    exact (cut_pieces code).placed before run behind split

/-- Where every word that a mapping changes is a name of a member of the parsed program, or all of
one of its strings, the renamed code parses, its outline is that of the code, and its variables and
labels are those of the code, in the same order. Strings that are keys of class members are left
out when the word or its new name is `constructor`, since a key of that name means something else.

Proof: the words that are changed are exchanged in the text. Both texts are read side by side from
their first tokens on, which are the same up to the first word that is exchanged; what stands at
such a word is a name behind a point or a string, and both are read as before. -/
theorem renameWords_parses (mapping : Mapping) (code : String) {program : Program}
    (parsed : Program.parse code = .ok program)
    (names : ∀ name ∈ mapping.names, isPlainName name = true)
    (named : ∀ front run behind name, pieces code.toList = front ++ .word run :: behind →
      mapping.get? (String.ofList run) = some name → name ≠ String.ofList run →
      program.NamesAt (String.ofList run != "constructor" && name != "constructor")
        (textOf front) run) :
    ∃ other, Program.parse (renameWords mapping code) = .ok other ∧
      outlineAll other.items = outlineAll program.items ∧
      other.identifiers = program.identifiers := by
  have textToo : renderPieces (renamed mapping) (settled (renamed mapping) (pieces code.toList)) =
      (renameWords mapping code).toList := by
    rw [renderPieces_settled, renameWords, String.toList_ofList]
  have reached : ∀ front run behind,
      settled (renamed mapping) (pieces code.toList) = front ++ .word run :: behind →
      program.NamesAt (namesNoConstructor (renamed mapping) run) (textOf front) run := by
    intro front run others split
    obtain ⟨changed, before, behind, whole, text, -⟩ := exists_word_of_settled split
    obtain ⟨name, known, isName⟩ := exists_name_of_changed changed
    rw [← text, namesNoConstructor, isName]
    exact named before run behind name whole known (isName ▸ changed)
  let exchange := exchangeOf mapping code.toList program.lead names
  have lossless : textOf exchange.parts = code.toList :=
    textOf_settled.trans (cut_pieces code.toList).lossless
  obtain ⟨other, parsedToo, same⟩ := Program.exists_of_parse parsed rfl lossless textToo reached
  rw [← outlineAll_eq_map, ← outlineAll_eq_map] at same
  exact ⟨other, parsedToo, same.symm, Program.identifiers_eq_of_outline same.symm⟩

/-- A member and a string are renamed, and the variables beside them keep their names, the one
behind the points of a spread included. -/
theorem renameWords_parses_assignment : ∃ (mapping : Mapping) (other : Program),
    mapping.pairs = [("foo", "aa")] ∧
    Program.parse (renameWords mapping "o.foo = 'foo' + f(...bar, foo);") = .ok other ∧
    renameWords mapping "o.foo = 'foo' + f(...bar, foo);" = "o.aa = 'aa' + f(...bar, foo);" ∧
    other.identifiers = ["o", "f", "bar", "foo"] := by
  let mapping : Mapping := ⟨[("foo", "aa")], by decide, by decide⟩
  have read : (Program.parse "o.foo = 'foo' + f(...bar, foo);").map
      (fun program => (program.lead, program.spots true, program.identifiers)) =
        .ok (0, [⟨3, 6⟩, ⟨10, 13⟩], ["o", "f", "bar", "foo"]) := by decide +kernel
  have cut : pieces "o.foo = 'foo' + f(...bar, foo);".toList =
      [.copied 'o', .copied '.', .word ['f', 'o', 'o'], .copied ' ', .copied '=', .copied ' ',
        .copied '\'', .word ['f', 'o', 'o'], .copied '\'', .copied ' ', .copied '+', .copied ' ',
        .copied 'f', .copied '(', .copied '.', .copied '.', .copied '.', .word ['b', 'a', 'r'],
        .copied ',', .copied ' ', .copied 'f', .copied 'o', .copied 'o', .copied ')',
        .copied ';'] := by decide +kernel
  cases parsed : Program.parse "o.foo = 'foo' + f(...bar, foo);" with
  | error error =>
    rw [parsed] at read
    cases read
  | ok program =>
    rw [parsed] at read
    obtain ⟨lead, spots, identifiers⟩ : program.lead = 0 ∧ program.spots true = [⟨3, 6⟩, ⟨10, 13⟩] ∧
        program.identifiers = ["o", "f", "bar", "foo"] := by
      simpa using Except.ok.inj read
    have named : ∀ front run behind name,
        pieces "o.foo = 'foo' + f(...bar, foo);".toList = front ++ .word run :: behind →
        mapping.get? (String.ofList run) = some name → name ≠ String.ofList run →
        program.NamesAt (String.ofList run != "constructor" && name != "constructor")
          (textOf front) run := by
      intro front run behind name same known _
      rw [cut] at same
      simp only [List.cons_eq_append_iff, List.cons.injEq, reduceCtorEq, false_and, and_false,
        Piece.word.injEq, List.nil_eq, List.append_eq_nil_iff, exists_const, or_self, or_false,
        ↓existsAndEq, true_and, false_or] at same
      have foo : mapping.get? (String.ofList ['f', 'o', 'o']) = some "aa" := by decide +kernel
      have bar : mapping.get? (String.ofList ['b', 'a', 'r']) = none := by decide +kernel
      have keys : (String.ofList ['f', 'o', 'o'] != "constructor" && "aa" != "constructor") = true := by
        decide +kernel
      obtain ⟨_, rfl, ⟨rfl, rfl, -⟩ | ⟨_, rfl, ⟨rfl, rfl, -⟩ | ⟨rfl, rfl, -⟩⟩⟩ := same
      · obtain rfl := Option.some.inj (foo.symm.trans known)
        rw [keys]
        refine ⟨⟨3, 6⟩, by simp [spots], ?_⟩
        rw [lead]
        decide +kernel
      · obtain rfl := Option.some.inj (foo.symm.trans known)
        rw [keys]
        refine ⟨⟨10, 13⟩, by simp [spots], ?_⟩
        rw [lead]
        decide +kernel
      · cases bar.symm.trans known
    obtain ⟨other, parsedToo, -, same⟩ :=
      renameWords_parses mapping "o.foo = 'foo' + f(...bar, foo);" parsed (by decide +kernel) named
    exact ⟨mapping, other, rfl, parsedToo, by decide +kernel, same.trans identifiers⟩

/-- The name behind a spread is a variable, and the scan renames it. -/
example : (Program.parse (renameWords ⟨[("foo", "aa")], by decide, by decide⟩ "f(...foo);")).map
    Program.identifiers = .ok ["f", "aa"] := by decide +kernel

end PropertyMangling.Embedded
