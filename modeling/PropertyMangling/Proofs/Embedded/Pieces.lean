import PropertyMangling.Proofs.TokenFile.Words
import PropertyMangling.Property.Embedded
/-!
# How code is cut into pieces

`Cut` says step by step which words of code may be renamed: a run of characters
directly behind a point, and a run between two equal quotes that hold nothing
else. A run behind a quote that is closed otherwise is copied, and the scan goes
on inside it. There is exactly one way to cut a code, and no mapping takes part in
it. Every run behind a point is a word of it, whatever quotes stand around.
-/
namespace PropertyMangling.Embedded

open Identifier

/-- The characters of a piece as they stand in the code. -/
def Piece.chars : Piece → List Char
  | copied c => [c]
  | word chars => chars

/-- The code that pieces were cut from. -/
def textOf (parts : List Piece) : List Char := parts.flatMap Piece.chars

/-- One or more characters that may stand inside an identifier. -/
def IsRun (run : List Char) : Prop := run ≠ [] ∧ ∀ c ∈ run, isPart c = true

/-- No run of characters goes on here. -/
def Ends (behind : List Char) : Prop := ∀ c ∈ behind.head?, isPart c = false

/-- A quote that may hold a word. -/
def IsQuote (c : Char) : Prop := c = '\'' ∨ c = '"'

/-- A way to cut code into pieces. -/
inductive Cut : List Char → List Piece → Prop
  | done : Cut [] []
  /-- A character with no word behind it that it could lead in. -/
  | plain {c : Char} {rest : List Char} {parts : List Piece}
      (leadsNone : isLead c = true → Ends rest) (behind : Cut rest parts) :
      Cut (c :: rest) (.copied c :: parts)
  | pointed {run rest : List Char} {parts : List Piece} (isRun : IsRun run) (ends : Ends rest)
      (behind : Cut rest parts) :
      Cut ('.' :: (run ++ rest)) (.copied '.' :: .word run :: parts)
  | quoted {quote : Char} {run rest : List Char} {parts : List Piece} (isQuote : IsQuote quote)
      (isRun : IsRun run) (behind : Cut rest parts) :
      Cut (quote :: (run ++ quote :: rest))
        (.copied quote :: .word run :: .copied quote :: parts)
  /-- A quote that another character than itself closes. -/
  | unclosed {quote : Char} {run rest : List Char} {parts : List Piece} (isQuote : IsQuote quote)
      (isRun : IsRun run) (ends : Ends rest) (other : rest.head? ≠ some quote)
      (behind : Cut rest parts) :
      Cut (quote :: (run ++ rest)) (.copied quote :: (run.map .copied ++ parts))

/-! ## There is one way to cut -/

/-- A character that leads in a word, a point or a quote, is no part of one. -/
theorem isPart_of_isLead {c : Char} (lead : isLead c = true) : isPart c = false := by
  simp only [isLead, Bool.or_eq_true, beq_iff_eq] at lead
  rcases lead with (rfl | rfl) | rfl <;> decide

/-- A quote leads in a word, as a point does. -/
theorem IsQuote.isLead {c : Char} (isQuote : IsQuote c) : isLead c = true := by
  rcases isQuote with rfl | rfl <;> decide

/-- A quote is no point, so that the two ways to lead in a word never meet. -/
theorem IsQuote.ne_point {c : Char} (isQuote : IsQuote c) : c ≠ '.' := by
  rcases isQuote with rfl | rfl <;> decide

/-- What leads in a word and is no point is a quote. -/
theorem isQuote_of_isLead {c : Char} (lead : isLead c = true) (noPoint : c ≠ '.') : IsQuote c := by
  simp only [isLead, Bool.or_eq_true, beq_iff_eq] at lead
  rcases lead with (rfl | quote) | quote
  · exact absurd rfl noPoint
  · exact .inl quote
  · exact .inr quote

/-- No run of characters goes on in front of a quote. -/
theorem IsQuote.ends {quote : Char} (isQuote : IsQuote quote) (rest : List Char) :
    Ends (quote :: rest) := by
  rintro _ ⟨⟩
  exact isPart_of_isLead isQuote.isLead

/-- What has been covered plays no part behind it: the scan is that of the rest of the code. -/
theorem piecesFrom_eq (covered : Nat) (code : List Char) :
    piecesFrom covered code = pieces (code.drop covered) := by
  induction covered generalizing code with
  | zero => rfl
  | succ covered inductionHypothesis =>
    cases code with
    | nil => rfl
    | cons c rest => exact inductionHypothesis rest

/-- A run in front of anything that cannot continue it is found whole. -/
theorem takeWhile_run {run rest : List Char} (isRun : IsRun run) (ends : Ends rest) :
    (run ++ rest).takeWhile isPart = run := by
  have stopped : rest.takeWhile isPart = [] := by
    cases rest with
    | nil => rfl
    | cons c more => simp [ends c rfl]
  rw [List.takeWhile_append_of_pos isRun.2, stopped, List.append_nil]

/-- No run is found where none goes on, so nothing is taken there. -/
theorem takeWhile_of_ends {rest : List Char} (ends : Ends rest) : rest.takeWhile isPart = [] := by
  cases rest with
  | nil => rfl
  | cons c more => simp [ends c rfl]

/-- A character that leads in no word is copied, and the scan goes on behind it. -/
theorem pieces_plain {c : Char} {rest : List Char} (leadsNone : isLead c = true → Ends rest) :
    pieces (c :: rest) = .copied c :: pieces rest := by
  rw [pieces, piecesFrom]
  refine if_pos ?_
  cases lead : isLead c with
  | false => rfl
  | true => simp [takeWhile_of_ends (leadsNone lead)]

/-- Characters of identifiers are copied when no lead stands in front of them. -/
theorem pieces_run {run : List Char} (rest : List Char) (parts : ∀ c ∈ run, isPart c = true) :
    pieces (run ++ rest) = run.map .copied ++ pieces rest := by
  induction run with
  | nil => rfl
  | cons c run inductionHypothesis =>
    obtain ⟨part, others⟩ := List.forall_mem_cons.mp parts
    have noLead : isLead c = true → Ends (run ++ rest) := by
      intro lead
      rw [isPart_of_isLead lead] at part
      cases part
    rw [List.cons_append, pieces_plain noLead, inductionHypothesis others, List.map_cons,
      List.cons_append]

/-- Behind a point a whole run is a word, and the scan goes on behind the run. -/
theorem pieces_pointed {run rest : List Char} (isRun : IsRun run) (ends : Ends rest) :
    pieces ('.' :: (run ++ rest)) = .copied '.' :: .word run :: pieces rest := by
  rw [pieces, piecesFrom]
  simp [takeWhile_run isRun ends, isRun.1, isLead, piecesFrom_eq]

/-- Between two equal quotes a whole run is a word, and the scan goes on behind the closing one,
which leads in nothing. -/
theorem pieces_quoted {quote : Char} {run rest : List Char} (isQuote : IsQuote quote)
    (isRun : IsRun run) :
    pieces (quote :: (run ++ quote :: rest)) =
      .copied quote :: .word run :: .copied quote :: pieces rest := by
  rw [pieces, piecesFrom]
  simp [takeWhile_run isRun (isQuote.ends rest), isRun.1, isQuote.isLead, isQuote.ne_point,
    piecesFrom_eq]

/-- A run behind a quote that another character closes is copied together with the quote, and the
scan goes on behind the run. -/
theorem pieces_unclosed {quote : Char} {run rest : List Char} (isQuote : IsQuote quote)
    (isRun : IsRun run) (ends : Ends rest) (other : rest.head? ≠ some quote) :
    pieces (quote :: (run ++ rest)) = .copied quote :: (run.map .copied ++ pieces rest) := by
  rw [← pieces_run rest isRun.2, pieces, piecesFrom]
  simp [takeWhile_run isRun ends, isRun.1, isQuote.isLead, isQuote.ne_point, other, pieces]

/-- Where a run goes on, it stands in front of something that ends it. -/
theorem exists_run {rest : List Char} (goesOn : ¬ Ends rest) :
    ∃ run behind, rest = run ++ behind ∧ IsRun run ∧ Ends behind := by
  refine ⟨rest.takeWhile isPart, rest.dropWhile isPart, List.takeWhile_append_dropWhile.symm,
    ⟨?_, fun c => List.mem_takeWhile_imp⟩, ?_⟩
  · intro none
    refine goesOn fun d first => ?_
    cases rest with
    | nil => cases first
    | cons e more =>
      obtain rfl := Option.some.inj first
      simpa [List.takeWhile_cons] using none
  · intro d first
    have stopped := List.head?_dropWhile_not isPart rest
    rwa [Option.mem_def.mp first] at stopped

/-- The pieces of code are one way to cut it. The induction is on the length of the code, since a
run is covered at once. -/
theorem cut_pieces (code : List Char) : Cut code (pieces code) := by
  induction size : code.length using Nat.strongRecOn generalizing code with
  | ind size shorter =>
    subst size
    cases code with
    | nil => exact .done
    | cons c rest =>
      have smaller : ∀ behind : List Char, behind <:+ rest → Cut behind (pieces behind) :=
        fun behind suffix => shorter _ (Nat.lt_succ_of_le suffix.length_le) behind rfl
      by_cases leadsNone : isLead c = true → Ends rest
      · rw [pieces_plain leadsNone]
        exact .plain leadsNone (smaller rest List.suffix_rfl)
      · obtain ⟨lead, goesOn⟩ := Classical.not_imp.mp leadsNone
        obtain ⟨run, behind, rfl, isRun, ends⟩ := exists_run goesOn
        have cutBehind := smaller behind (List.suffix_append run behind)
        by_cases point : c = '.'
        · subst point
          rw [pieces_pointed isRun ends]
          exact .pointed isRun ends cutBehind
        · have isQuote := isQuote_of_isLead lead point
          by_cases closed : behind.head? = some c
          · obtain ⟨others, rfl⟩ := List.head?_eq_some_iff.mp closed
            rw [pieces_quoted isQuote isRun]
            exact .quoted isQuote isRun
              (smaller others ((List.suffix_cons c others).trans (List.suffix_append run _)))
          · rw [pieces_unclosed isQuote isRun ends closed]
            exact .unclosed isQuote isRun ends closed cutBehind

/-- There is no other way to cut code: each rule of cutting is what the scan does there. -/
theorem Cut.eq_pieces {code : List Char} {parts : List Piece} (cut : Cut code parts) :
    parts = pieces code := by
  induction cut with
  | done => rfl
  | plain leadsNone _ inductionHypothesis => rw [pieces_plain leadsNone, inductionHypothesis]
  | pointed isRun ends _ inductionHypothesis =>
    rw [pieces_pointed isRun ends, inductionHypothesis]
  | quoted isQuote isRun _ inductionHypothesis =>
    rw [pieces_quoted isQuote isRun, inductionHypothesis]
  | unclosed isQuote isRun ends other _ inductionHypothesis =>
    rw [pieces_unclosed isQuote isRun ends other, inductionHypothesis]

/-! ## What the pieces are -/

/-- An item that is not in the front of a list stands behind that front, wherever the list is cut
at the item. -/
theorem exists_behind {α : Type} {front rest before behind : List α} {a : α} (absent : a ∉ front)
    (same : front ++ rest = before ++ a :: behind) :
    ∃ others, before = front ++ others ∧ rest = others ++ a :: behind := by
  rcases List.append_eq_append_iff.mp same with ⟨others, rfl, rfl⟩ | ⟨others, rfl, behindIs⟩
  · exact ⟨others, rfl, rfl⟩
  · cases others with
    | nil => exact ⟨[], by simp, by simpa using behindIs.symm⟩
    | cons b more =>
      obtain ⟨rfl, -⟩ := List.cons.inj behindIs
      exact absurd (by simp) absent

/-- A run goes on where one starts, whatever stands behind it. -/
theorem IsRun.not_ends {run : List Char} (isRun : IsRun run) {behind : List Char} :
    ¬ Ends (run ++ behind) := by
  obtain ⟨c, rest, rfl⟩ := List.exists_cons_of_ne_nil isRun.1
  intro ends
  have outside := ends c rfl
  rw [isRun.2 c List.mem_cons_self] at outside
  cases outside

/-- No point stands in a run, since a point is no character of identifiers. -/
theorem IsRun.point_notMem {run : List Char} (isRun : IsRun run) : '.' ∉ run := fun inside =>
  absurd (isRun.2 _ inside) (by decide)

section Text

variable {first second : List Piece}

/-- No pieces are cut from no code. -/
@[simp] theorem textOf_nil : textOf [] = [] := rfl

/-- The code of pieces is that of the first one and then that of the others. -/
@[simp] theorem textOf_cons (part : Piece) :
    textOf (part :: first) = part.chars ++ textOf first := rfl

/-- The code of pieces that stand behind one another is put together in their order. -/
@[simp] theorem textOf_append : textOf (first ++ second) = textOf first ++ textOf second :=
  List.flatMap_append

/-- Characters that are all copied are the code that they are cut from. -/
@[simp] theorem textOf_copied (chars : List Char) : textOf (chars.map .copied) = chars := by
  induction chars with
  | nil => rfl
  | cons c rest inductionHypothesis => rw [List.map_cons, textOf_cons, inductionHypothesis]; rfl

end Text

/-- A word stands whole between what is in front of it and what is behind it: directly behind a
point, or between two equal quotes. -/
structure Placed (front run behind : List Char) : Prop where
  isRun : IsRun run
  ends : Ends behind
  led : front.getLast? = some '.' ∨
    ∃ quote, IsQuote quote ∧ front.getLast? = some quote ∧ behind.head? = some quote

/-- A word stays in its place whatever is put in front. -/
theorem Placed.prepend {front run behind : List Char} (placed : Placed front run behind)
    (others : List Char) : Placed (others ++ front) run behind where
  isRun := placed.isRun
  ends := placed.ends
  led := by
    have kept : ∀ c, front.getLast? = some c → (others ++ front).getLast? = some c := by
      intro c last
      rw [List.getLast?_append, last]
      rfl
    rcases placed.led with point | ⟨quote, isQuote, last, closed⟩
    · exact .inl (kept _ point)
    · exact .inr ⟨quote, isQuote, kept _ last, closed⟩

/-- What code is cut into: all of its characters in their order, words in their places, and every
run behind a point. -/
structure IsDecomposition (code : List Char) (parts : List Piece) : Prop where
  lossless : textOf parts = code
  placed : ∀ front run behind, parts = front ++ .word run :: behind →
    Placed (textOf front) run (textOf behind)
  complete : ∀ front run behind, code = front ++ '.' :: (run ++ behind) → IsRun run → Ends behind →
    ∃ before others, parts = before ++ .word run :: others ∧ textOf before = front ++ ['.'] ∧
      textOf others = behind

/-- However code is cut, its pieces put together are the code again. -/
theorem Cut.lossless {code : List Char} {parts : List Piece} (cut : Cut code parts) :
    textOf parts = code := by
  induction cut with
  | done => rfl
  | plain _ _ inductionHypothesis => simp [Piece.chars, inductionHypothesis]
  | pointed _ _ _ inductionHypothesis => simp [Piece.chars, inductionHypothesis]
  | quoted _ _ _ inductionHypothesis => simp [Piece.chars, inductionHypothesis]
  | unclosed _ _ _ _ _ inductionHypothesis => simp [Piece.chars, inductionHypothesis]

/-- No word stands among characters that are copied, so that a word behind them stands among the
pieces behind. -/
theorem exists_behind_copied (chars : List Char) {parts front behind : List Piece}
    {run : List Char} (same : chars.map .copied ++ parts = front ++ .word run :: behind) :
    ∃ others, front = chars.map .copied ++ others ∧ parts = others ++ .word run :: behind :=
  exists_behind (by simp) same

/-- A run that a point leads in is the whole run that stands there. -/
theorem run_eq_run {first second rest others : List Char} (isFirst : IsRun first)
    (isSecond : IsRun second) (ends : Ends rest) (endsToo : Ends others)
    (same : first ++ rest = second ++ others) : first = second ∧ rest = others := by
  have run : first = second := by
    rw [← takeWhile_run isFirst ends, same, takeWhile_run isSecond endsToo]
  exact ⟨run, List.append_cancel_left (run ▸ same)⟩

/-- However code is cut, each of its words is led in by a point or stands between equal quotes,
with no more of it on either side. -/
theorem Cut.placed {code : List Char} {parts : List Piece} (cut : Cut code parts) :
    ∀ front run behind, parts = front ++ .word run :: behind →
      Placed (textOf front) run (textOf behind) := by
  induction cut with
  | done =>
    intro front run behind same
    simp at same
  | @plain c rest parts leadsNone _ inductionHypothesis =>
    intro front run behind same
    obtain ⟨front, rfl, others⟩ := exists_behind_copied [c] same
    simpa [Piece.chars] using (inductionHypothesis _ _ _ others).prepend [c]
  | @pointed found rest parts isRun ends cut inductionHypothesis =>
    intro front run behind same
    obtain ⟨front, rfl, others⟩ := exists_behind_copied ['.'] same
    cases front with
    | nil =>
      obtain ⟨⟨⟩, rfl⟩ := List.cons.inj others
      exact ⟨isRun, cut.lossless ▸ ends, .inl rfl⟩
    | cons part front =>
      obtain ⟨rfl, behindRun⟩ := List.cons.inj others
      simpa [Piece.chars] using (inductionHypothesis _ _ _ behindRun).prepend ('.' :: found)
  | @quoted quote found rest parts isQuote isRun cut inductionHypothesis =>
    intro front run behind same
    obtain ⟨front, rfl, others⟩ := exists_behind_copied [quote] same
    cases front with
    | nil =>
      obtain ⟨⟨⟩, rfl⟩ := List.cons.inj others
      exact ⟨isRun, isQuote.ends _, .inr ⟨quote, isQuote, rfl, rfl⟩⟩
    | cons part front =>
      obtain ⟨rfl, behindRun⟩ := List.cons.inj others
      obtain ⟨front, rfl, behindQuote⟩ := exists_behind_copied [quote] behindRun
      simpa [Piece.chars] using
        (inductionHypothesis _ _ _ behindQuote).prepend (quote :: (found ++ [quote]))
  | @unclosed quote found rest parts isQuote isRun ends other _ inductionHypothesis =>
    intro front run behind same
    obtain ⟨front, rfl, others⟩ := exists_behind_copied (quote :: found) same
    simpa [Piece.chars] using (inductionHypothesis _ _ _ others).prepend (quote :: found)

/-- However code is cut, every run behind a point is one of its words. No rule of cutting passes
over a point: a run that is copied holds none. -/
theorem Cut.complete {code : List Char} {parts : List Piece} (cut : Cut code parts) :
    ∀ front run behind, code = front ++ '.' :: (run ++ behind) → IsRun run → Ends behind →
      ∃ before others, parts = before ++ .word run :: others ∧ textOf before = front ++ ['.'] ∧
        textOf others = behind := by
  -- Pieces that come first move every word behind them.
  have further (first : List Piece) {front text : List Char} {parts : List Piece}
      {run behind : List Char} (firstText : textOf first = text)
      (found : ∃ before others, parts = before ++ .word run :: others ∧
        textOf before = front ++ ['.'] ∧ textOf others = behind) :
      ∃ before others, first ++ parts = before ++ .word run :: others ∧
        textOf before = text ++ front ++ ['.'] ∧ textOf others = behind := by
    obtain ⟨before, others, rfl, text, textBehind⟩ := found
    exact ⟨first ++ before, others, by simp, by simp [firstText, text], textBehind⟩
  induction cut with
  | done =>
    intro front run behind same
    simp at same
  | @plain c rest parts leadsNone _ inductionHypothesis =>
    intro front run behind same isRun ends
    cases front with
    | nil =>
      obtain ⟨rfl, rfl⟩ := List.cons.inj same
      exact absurd (leadsNone rfl) isRun.not_ends
    | cons d front =>
      obtain ⟨rfl, others⟩ := List.cons.inj same
      exact further [.copied c] rfl (inductionHypothesis _ _ _ others isRun ends)
  | @pointed found rest parts isFound endsFound cut inductionHypothesis =>
    intro front run behind same isRun ends
    cases front with
    | nil =>
      obtain ⟨-, same⟩ := List.cons.inj same
      obtain ⟨rfl, rfl⟩ := run_eq_run isFound isRun endsFound ends same
      exact ⟨[.copied '.'], parts, rfl, rfl, cut.lossless⟩
    | cons d front =>
      obtain ⟨rfl, behindPoint⟩ := List.cons.inj same
      obtain ⟨front, rfl, others⟩ := exists_behind isFound.point_notMem behindPoint
      have text : textOf [.copied '.', .word found] = '.' :: found := by simp [Piece.chars]
      simpa using further _ text (inductionHypothesis _ _ _ others isRun ends)
  | @quoted quote found rest parts isQuote isFound _ inductionHypothesis =>
    intro front run behind same isRun ends
    have absent : '.' ∉ quote :: (found ++ [quote]) := by
      simp [isQuote.ne_point.symm, isFound.point_notMem]
    have split : (quote :: (found ++ [quote])) ++ rest = front ++ '.' :: (run ++ behind) := by
      simpa using same
    obtain ⟨front, rfl, others⟩ := exists_behind absent split
    have text : textOf [.copied quote, .word found, .copied quote] =
        quote :: (found ++ [quote]) := by
      simp [Piece.chars]
    simpa using further _ text (inductionHypothesis _ _ _ others isRun ends)
  | @unclosed quote found rest parts isQuote isFound _ _ _ inductionHypothesis =>
    intro front run behind same isRun ends
    have absent : '.' ∉ quote :: found := by simp [isQuote.ne_point.symm, isFound.point_notMem]
    have split : (quote :: found) ++ rest = front ++ '.' :: (run ++ behind) := same
    obtain ⟨front, rfl, others⟩ := exists_behind absent split
    simpa using further _ (textOf_copied (quote :: found))
      (inductionHypothesis _ _ _ others isRun ends)

/-- Code is decomposed into its pieces: nothing is lost, words stand in their places, and no run
behind a point is missed. -/
theorem isDecomposition_pieces (code : List Char) : IsDecomposition code (pieces code) :=
  ⟨(cut_pieces code).lossless, (cut_pieces code).placed, (cut_pieces code).complete⟩

/-! ## Renaming words -/

/-- What is put in place of a word is its new name; all other pieces stay as they are. -/
theorem rendered_word (rename : String → String) (run : List Char) :
    Piece.rendered rename (.word run) = (rename (String.ofList run)).toList := rfl

/-- Words that are left alone stand in the text as they stood in the code. -/
theorem renderPieces_eq_textOf {rename : String → String} {parts : List Piece}
    (kept : ∀ run, .word run ∈ parts → rename (String.ofList run) = String.ofList run) :
    renderPieces rename parts = textOf parts := by
  refine List.flatMap_congr fun part inside => ?_
  cases part with
  | copied c => rfl
  | word run => rw [rendered_word, kept run inside, String.toList_ofList]; rfl

/-- The words of code that may be renamed are fixed by the code alone. There is a decomposition of
it into copied characters and words such that, for every mapping, each word gets the name that the
mapping has for it, or stays when there is none, and all else is copied; code whose words are all
unknown stays as it is.

The pieces of the scan are this decomposition: the scan does not ask the mapping where a word is,
only what to write for it. -/
theorem renameWords_decomposed (code : String) : ∃ parts, IsDecomposition code.toList parts ∧
    ∀ mapping : Mapping,
      (renameWords mapping code).toList = (parts.flatMap fun part => match part with
        | .copied c => [c]
        | .word run => ((mapping.get? (String.ofList run)).getD (String.ofList run)).toList) ∧
      ((∀ run, .word run ∈ parts → mapping.get? (String.ofList run) = none) →
        renameWords mapping code = code) := by
  refine ⟨pieces code.toList, isDecomposition_pieces code.toList, fun mapping => ⟨?_, ?_⟩⟩
  · rw [renameWords, String.toList_ofList, renderPieces]
    refine List.flatMap_congr fun part _ => ?_
    cases part with
    | copied c => rfl
    | word run => rfl
  · intro unknown
    have kept : ∀ run, .word run ∈ pieces code.toList →
        renamed mapping (String.ofList run) = String.ofList run :=
      fun run inside => renamed_of_unknown (unknown run inside)
    rw [renameWords, renderPieces_eq_textOf kept, (cut_pieces code.toList).lossless,
      String.ofList_toList]

end PropertyMangling.Embedded
