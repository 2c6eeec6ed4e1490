import PropertyMangling.Proofs.Embedded.Pieces
import PropertyMangling.Proofs.Mapping.Inverse
/-!
# Renaming code twice

Words that are replaced by words leave everything in its place that decides how
code is cut: what leads in a word, what closes it and what ends it. So renamed
code is cut where the code was, and renaming it once more renames the new words.
A mapping that does not make two words one is undone by its inverse.
-/
namespace PropertyMangling.Embedded

open Identifier

/-- A piece whose word has got its new name. -/
def Piece.rename (rename : String → String) : Piece → Piece
  | copied c => .copied c
  | word run => .word (rename (String.ofList run)).toList

/-- The words of code that may be renamed. -/
def wordsOf (parts : List Piece) : List String :=
  parts.filterMap fun part => match part with
    | .copied _ => none
    | .word run => some (String.ofList run)

variable {rename : String → String} {code : List Char} {parts : List Piece}

/-- The words of code are its pieces that may be renamed, and no others. -/
theorem mem_wordsOf_iff {word : String} : word ∈ wordsOf parts ↔ .word word.toList ∈ parts := by
  rw [wordsOf, List.mem_filterMap]
  constructor
  · rintro ⟨_ | run, inside, same⟩
    · cases same
    · rwa [← Option.some.inj same, String.toList_ofList]
  · intro inside
    exact ⟨_, inside, congrArg some (String.ofList_toList)⟩

/-- Pieces are rendered one after the other, each by itself. -/
theorem renderPieces_cons (part : Piece) :
    renderPieces rename (part :: parts) = part.rendered rename ++ renderPieces rename parts := rfl

/-- A second name is written in the place of the first. -/
theorem renderPieces_map_rename (second : String → String) :
    renderPieces second (parts.map (Piece.rename rename)) =
      renderPieces (fun word => second (rename word)) parts := by
  rw [renderPieces, List.flatMap_map, renderPieces]
  refine List.flatMap_congr fun part _ => ?_
  cases part with
  | copied c => rfl
  | word run => exact congrArg (fun word => (second word).toList) String.ofList_toList

/-- Characters that are copied stand before whatever the other pieces are rendered to. -/
theorem renderPieces_map_copied (chars : List Char) :
    renderPieces rename (chars.map .copied ++ parts) = chars ++ renderPieces rename parts := by
  induction chars with
  | nil => rfl
  | cons c rest inductionHypothesis =>
    rw [List.map_cons, List.cons_append, renderPieces_cons, inductionHypothesis]
    rfl

/-- Characters that are copied stay as they are, under every renaming. -/
theorem renderPieces_copied (chars : List Char) :
    renderPieces rename (chars.map .copied) = chars := by
  rw [← List.append_nil (chars.map Piece.copied), renderPieces_map_copied]
  exact List.append_nil chars

/-- Renaming pieces leaves those that are copied as they are. -/
theorem map_rename_copied (chars : List Char) :
    (chars.map Piece.copied).map (Piece.rename rename) = chars.map .copied := by
  rw [List.map_map]
  rfl

/-- The first character of code is copied, as a word needs a character before it that leads in a
word. -/
theorem Cut.head?_renderPieces (cut : Cut code parts) :
    (renderPieces rename parts).head? = code.head? := by
  cases cut <;> rfl

/-- A run ends in renamed code where it ended in the code. -/
theorem Cut.ends_renderPieces (cut : Cut code parts) (ends : Ends code) :
    Ends (renderPieces rename parts) := by
  rwa [Ends, cut.head?_renderPieces]

/-- Code whose words are replaced by words is cut into the same pieces again. -/
theorem Cut.rendered (cut : Cut code parts)
    (runs : ∀ word ∈ wordsOf parts, IsWord (rename word)) :
    Cut (renderPieces rename parts) (parts.map (Piece.rename rename)) := by
  have isRun {parts : List Piece} {run : List Char}
      (runs : ∀ word ∈ wordsOf parts, IsWord (rename word)) (inside : .word run ∈ parts) :
      IsRun (rename (String.ofList run)).toList :=
    runs _ (mem_wordsOf_iff.mpr (by rwa [String.toList_ofList]))
  have smaller (first : List Piece) {parts : List Piece}
      (runs : ∀ word ∈ wordsOf (first ++ parts), IsWord (rename word)) :
      ∀ word ∈ wordsOf parts, IsWord (rename word) := fun word inside =>
    runs word (mem_wordsOf_iff.mpr (List.mem_append_right _ (mem_wordsOf_iff.mp inside)))
  induction cut with
  | done => exact .done
  | @plain c rest parts leadsNone cut inductionHypothesis =>
    exact .plain (fun lead => cut.ends_renderPieces (leadsNone lead))
      (inductionHypothesis (smaller [.copied c] runs))
  | @pointed run rest parts _ ends cut inductionHypothesis =>
    exact .pointed (isRun runs (by simp)) (cut.ends_renderPieces ends)
      (inductionHypothesis (smaller [.copied '.', .word run] runs))
  | @quoted quote run rest parts isQuote _ cut inductionHypothesis =>
    have behind := inductionHypothesis
      (smaller [.copied quote, .word run, .copied quote] runs)
    exact .quoted isQuote (isRun runs (by simp)) behind
  | @unclosed quote run rest parts isQuote isFound ends other cut inductionHypothesis =>
    have behind := inductionHypothesis (smaller ((quote :: run).map .copied) runs)
    have otherToo : (renderPieces rename parts).head? ≠ some quote := by
      rwa [cut.head?_renderPieces]
    have whole : Cut (quote :: (run ++ renderPieces rename parts))
        (.copied quote :: (run.map .copied ++ parts.map (Piece.rename rename))) :=
      .unclosed isQuote isFound (cut.ends_renderPieces ends) otherToo behind
    rwa [List.map_cons, List.map_append, map_rename_copied, renderPieces_cons,
      renderPieces_map_copied]

/-- The pieces of renamed code are the renamed pieces of the code. -/
theorem pieces_renderPieces (runs : ∀ word ∈ wordsOf (pieces code), IsWord (rename word)) :
    pieces (renderPieces rename (pieces code)) = (pieces code).map (Piece.rename rename) :=
  ((cut_pieces code).rendered runs).eq_pieces.symm

/-- A word of code has a word as its new name when all names are words. -/
theorem isWord_renamed {mapping : Mapping} (names : ∀ name ∈ mapping.names, IsWord name)
    {word : String} (inside : word ∈ wordsOf (pieces code)) : IsWord (renamed mapping word) := by
  cases known : mapping.get? word with
  | none =>
    rw [renamed_of_unknown known]
    obtain ⟨front, behind, whole⟩ := List.append_of_mem (mem_wordsOf_iff.mp inside)
    exact ((cut_pieces code).placed front word.toList behind whole).isRun
  | some name =>
    rw [renamed_of_known known]
    exact names name (List.mem_map.mpr ⟨_, Mapping.get?_eq_some_iff.mp known, rfl⟩)

/-- A new name leads back to the word, unless the word is unknown and a name itself. -/
theorem renamed_inverse {mapping : Mapping} {word : String}
    (apart : mapping.get? word = none → word ∉ mapping.names) :
    renamed mapping.inverse (renamed mapping word) = word := by
  cases known : mapping.get? word with
  | none =>
    rw [renamed_of_unknown known,
      renamed_of_unknown (Mapping.get?_inverse_eq_none_iff.mpr (apart known))]
  | some name =>
    rw [renamed_of_known known, renamed_of_known (Mapping.get?_inverse_eq_some_iff.mpr known)]

/-- Renaming code with one mapping and then with another is one scan of it, in which every word gets
the second name of its first name. So the inverse of a mapping gives the code back, as long as no
unknown word of it is a name of the mapping. The names of the first mapping have to be words, or the
code would be cut otherwise; those of the second may be any texts. -/
theorem renameWords_renameWords (first second : Mapping) (code : String)
    (names : ∀ name ∈ first.names, IsWord name) :
    renameWords second (renameWords first code) =
      String.ofList (renderPieces (fun word => renamed second (renamed first word))
        (pieces code.toList)) ∧
    ((∀ word ∈ wordsOf (pieces code.toList), first.get? word = none → word ∉ first.names) →
      renameWords first.inverse (renameWords first code) = code) := by
  have twice : ∀ second : Mapping, renameWords second (renameWords first code) =
      String.ofList (renderPieces (fun word => renamed second (renamed first word))
        (pieces code.toList)) := by
    intro second
    rw [renameWords, renameWords, String.toList_ofList,
      pieces_renderPieces fun _ => isWord_renamed names, renderPieces_map_rename]
  refine ⟨twice second, fun apart => ?_⟩
  have back : ∀ run, .word run ∈ pieces code.toList →
      renamed first.inverse (renamed first (String.ofList run)) = String.ofList run :=
    fun run inside => renamed_inverse
      (apart _ (mem_wordsOf_iff.mpr (by rwa [String.toList_ofList])))
  rw [twice first.inverse, renderPieces_eq_textOf back, (cut_pieces code.toList).lossless,
    String.ofList_toList]

/-- A quote that is closed by another one, a word behind a point between them and a mapping that
exchanges two words. -/
theorem renameWords_renameWords_exchanged : ∃ first second : Mapping,
    first.pairs = [("foo", "bar"), ("bar", "foo")] ∧ second.pairs = [("bar", "a b")] ∧
    (∀ name ∈ first.names, IsWord name) ∧
    renameWords first "x='it.foo'\"bar'+bar.bar" = "x='it.bar'\"bar'+bar.foo" ∧
    renameWords second (renameWords first "x='it.foo'\"bar'+bar.bar") = "x='it.a b'\"bar'+bar.foo" ∧
    renameWords first.inverse (renameWords first "x='it.foo'\"bar'+bar.bar") =
      "x='it.foo'\"bar'+bar.bar" := by
  let first : Mapping := ⟨[("foo", "bar"), ("bar", "foo")], by decide, by decide⟩
  let second : Mapping := ⟨[("bar", "a b")], by decide, by decide⟩
  have names : ∀ name ∈ first.names, IsWord name := by decide
  obtain ⟨twice, back⟩ := renameWords_renameWords first second "x='it.foo'\"bar'+bar.bar" names
  refine ⟨first, second, rfl, rfl, names, by decide +kernel, ?_, back (by decide +kernel)⟩
  rw [twice]
  decide +kernel

end PropertyMangling.Embedded
