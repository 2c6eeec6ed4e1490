import PropertyMangling.Proofs.Embedded.Composition
import PropertyMangling.Proofs.Script.Lookahead.Tokens
import PropertyMangling.Proofs.Script.Origin.Cursors
import PropertyMangling.Proofs.Script.Words
import PropertyMangling.Proofs.Property.Outline
/-!
# Words that are exchanged in a text

Some words of a text are exchanged for plain names, each of them behind a point or
between two quotes. A place of the text has a place of the other text that belongs
to it, unless it lies inside of such a word. From two places that belong together the
lexer reads the same up to the next word that is exchanged, and it comes to places
that belong together again. Of the words it has to be known where they are: one that is all
of a string makes another string, and any other one has to stay outside of what is read.
-/
namespace PropertyMangling

namespace Embedded

open Script Identifier

/-! ## Pieces of a text -/

section Pieces

variable {rename : String → String} {parts : List Piece}

/-- A character of words in code may stand in a name of the language as well; the words are plain
letters, digits and the like. -/
theorem isNamePart_of_isPart {c : Char} (part : isPart c = true) : isNamePart c = true := by
  have ascii : ∀ number < 0x80,
      (!isPart (Char.ofNat number) || isNamePart (Char.ofNat number)) = true := by decide +kernel
  have small : c.toNat < 0x80 := by
    have range := range_of_isPart part
    omega
  have both := ascii c.toNat small
  rw [Char.ofNat_toNat, part] at both
  simpa using both

/-- Pieces that stand behind one another are rendered one list behind the other. -/
theorem renderPieces_append (front behind : List Piece) :
    renderPieces rename (front ++ behind) = renderPieces rename front ++ renderPieces rename behind :=
  List.flatMap_append

/-- Every word is a run, and is replaced by a plain name. -/
def TakesNames (rename : String → String) (parts : List Piece) : Prop :=
  ∀ run, .word run ∈ parts → IsRun run ∧ isPlainName (rename (String.ofList run)) = true

/-- What a renaming asks of all pieces it asks of those behind some of them. -/
theorem TakesNames.behind (first : List Piece) (takes : TakesNames rename (first ++ parts)) :
    TakesNames rename parts := fun run inside => takes run (List.mem_append_right first inside)

/-- The first characters of a text and of the renamed text are the same or both start a word, and
so on up to the first word. -/
theorem TakesNames.akin (takes : TakesNames rename parts) :
    Lexer.Akin (textOf parts) (renderPieces rename parts) := by
  induction parts with
  | nil => exact .nil
  | cons part parts inductionHypothesis =>
    cases part with
    | copied c => exact .cons c (inductionHypothesis (takes.behind [.copied c]))
    | word run =>
      obtain ⟨isRun, plain⟩ := takes run List.mem_cons_self
      obtain ⟨c, rest, rfl⟩ := List.exists_cons_of_ne_nil isRun.1
      obtain ⟨d, others, same, starts, -⟩ := isPlainName_iff.mp plain
      rw [renderPieces_cons, rendered_word, same]
      exact .word (isNamePart_of_isPart (isRun.2 c List.mem_cons_self)) starts

/-- Some characters of code are copied, or a word starts before they end. -/
theorem exists_word_or_copied {chars behind : List Char} (same : textOf parts = chars ++ behind) :
    (∃ rest, parts = chars.map .copied ++ rest ∧ textOf rest = behind) ∨
      ∃ (front others : List Char) (run : List Char) (rest : List Piece),
        parts = front.map .copied ++ .word run :: rest ∧ chars = front ++ others ∧ others ≠ [] := by
  induction chars generalizing parts with
  | nil => exact .inl ⟨parts, rfl, same⟩
  | cons c chars inductionHypothesis =>
    cases parts with
    | nil => cases same
    | cons part parts =>
      cases part with
      | word run => exact .inr ⟨[], c :: chars, run, parts, rfl, rfl, List.cons_ne_nil _ _⟩
      | copied d =>
        obtain ⟨rfl, further⟩ := List.cons.inj same
        rcases inductionHypothesis further with
          ⟨rest, rfl, text⟩ | ⟨front, others, run, rest, rfl, rfl, filled⟩
        · exact .inl ⟨rest, rfl, text⟩
        · exact .inr ⟨d :: front, others, run, rest, rfl, rfl, filled⟩

/-- The characters of a name stand for themselves in a string. -/
theorem stringForm_append {quote : Char} {chars behind : List Char}
    (parts : ∀ c ∈ chars, isNamePart c = true) (outside : isNamePart quote = false) :
    Lexer.StringForm quote (chars ++ quote :: behind) (chars, false) behind := by
  induction chars with
  | nil => exact .closes
  | cons c rest inductionHypothesis =>
    obtain ⟨part, others⟩ := List.forall_mem_cons.mp parts
    have apart : ∀ other, isNamePart other = false → c ≠ other := by
      rintro _ outside rfl
      exact Bool.eq_false_iff.mp outside part
    exact .written (apart quote outside) (apart '\\' (by decide))
      ⟨apart '\n' (by decide), apart '\r' (by decide)⟩ (inductionHypothesis others)

/-- A name between two equal quotes is a string with that name for its text, since no character of
a name ends a string or starts an escape. -/
theorem token_string {quote : Char} {chars : List Char} (isQuote : IsQuote quote)
    (parts : ∀ c ∈ chars, isNamePart c = true) (behind : List Char) :
    Lexer.token (quote :: (chars ++ quote :: behind)) =
      some (.string (String.ofList chars) false, behind) := by
  have opens : Lexer.opensName quote = false := by rcases isQuote with rfl | rfl <;> decide
  have outside : isNamePart quote = false := by rcases isQuote with rfl | rfl <;> decide
  have noNumber : (quote == '#') = false ∧ quote.isDigit = false ∧ (quote == '.') = false := by
    rcases isQuote with rfl | rfl <;> decide
  have closes : (quote == '"' || quote == '\'') = true := by
    rcases isQuote with rfl | rfl <;> decide
  have closed : Lexer.StringForm quote (chars ++ quote :: behind) (chars, false) behind :=
    stringForm_append parts outside
  rw [Lexer.token, opens, noNumber.1, noNumber.2.1, noNumber.2.2, Bool.false_and, Bool.false_and,
    closes, closed.stringRun_eq (List.suffix_cons quote _).length_le]
  rfl

end Pieces

end Embedded

/-! ## Reading at a place -/

namespace Script

/-- Skipping to what stands behind some characters passes just these, and counts their bytes. -/
theorem Cursor.skipTo_eq {start : Cursor} {front behind : List Char}
    (text : start.text = front ++ behind) :
    start.skipTo behind = ⟨behind, start.position + weigh Char.utf8Size front⟩ := by
  simp [skipTo, skip, text, foldl_utf8Size]

/-- The token at or behind a place, with the trivia in front of it. -/
def Cursor.next? (place : Cursor) : Option (Trivia × Lexeme) := do
  let (trivia, start) ← place.trivia false
  return (trivia, ← Lexeme.at? start)

/-- The next token is found behind the trivia at a place, at the start that these lead to. -/
theorem Cursor.next?_eq_some_iff {place : Cursor} {trivia : Trivia} {lexeme : Lexeme} :
    place.next? = some (trivia, lexeme) ↔
      place.trivia false = some (trivia, lexeme.start) ∧ Lexeme.at? lexeme.start = some lexeme := by
  constructor
  · intro found
    obtain ⟨⟨trivia, start⟩, walked, found⟩ := Option.bind_eq_some_iff.mp found
    obtain ⟨lexeme, found, same⟩ := Option.bind_eq_some_iff.mp found
    cases same
    obtain rfl := Parse.Lexeme.start_of_at? found
    exact ⟨walked, found⟩
  · rintro ⟨walked, found⟩
    simp [next?, walked, found]

/-- The characters of a token are what it is written as. -/
theorem Lexeme.written {lexeme : Lexeme} {front behind : List Char}
    (text : lexeme.start.text = front ++ behind) (place : lexeme.rest = lexeme.start.skipTo behind) :
    lexeme.rest = ⟨behind, lexeme.start.position + weigh Char.utf8Size front⟩ ∧
      lexeme.source = String.ofList front := by
  rw [Cursor.skipTo_eq text] at place
  exact ⟨place, by simp [source, Cursor.slice, Cursor.upTo, place, text]⟩

/-- What is read off the front of a text is a token at its place. -/
theorem Lexeme.exists_at {start : Cursor} {front behind : List Char} {token : Token}
    (text : start.text = front ++ behind) (read : Lexer.token start.text = some (token, behind)) :
    ∃ lexeme, Lexeme.at? start = some lexeme ∧ lexeme.start = start ∧ lexeme.token = token ∧
      lexeme.rest = ⟨behind, start.position + weigh Char.utf8Size front⟩ ∧
      lexeme.source = String.ofList front := by
  have found : Lexeme.at? start = some ⟨token, start, start.skipTo behind, behind, read, rfl⟩ := by
    unfold Lexeme.at?
    split
    · next found =>
      cases found.symm.trans read
      rfl
    · next none => cases none.symm.trans read
  exact ⟨_, found, rfl, rfl, Lexeme.written text rfl⟩

/-- A token is some characters at the front of a text, and is read off them in front of another text
that goes on with the same character, and behind a point with a name. Only at the end of the text it
has no character. -/
theorem Lexeme.split (lexeme : Lexeme) : ∃ front,
    lexeme.start.text = front ++ lexeme.rest.text ∧ (lexeme.token = .finish ∨ front ≠ []) ∧
    lexeme.rest.position = lexeme.start.position + weigh Char.utf8Size front ∧
    lexeme.source = String.ofList front ∧
    ∀ others, Lexer.Akin lexeme.rest.text others →
      (others.head? = lexeme.rest.text.head? ∨ lexeme.token = .symbol ".") →
      Lexer.token (front ++ others) = some (lexeme.token, others) := by
  obtain ⟨behind, read, place⟩ := lexeme.wasRead
  have front : ∃ front, lexeme.start.text = front ++ behind ∧
      (lexeme.token = .finish ∨ front ≠ []) ∧ ∀ others, Lexer.Akin behind others →
      (others.head? = behind.head? ∨ lexeme.token = .symbol ".") →
      Lexer.token (front ++ others) = some (lexeme.token, others) := by
    cases text : lexeme.start.text with
    | nil =>
      rw [text] at read
      obtain ⟨finish, rfl⟩ := Prod.mk.inj (Option.some.inj read)
      refine ⟨[], rfl, .inl finish.symm, fun others akin _ => ?_⟩
      cases akin
      rw [← finish]
      rfl
    | cons c rest =>
      rw [text] at read
      obtain ⟨front, rfl, reads⟩ := Lexer.token_split read
      exact ⟨c :: front, rfl, .inr (List.cons_ne_nil _ _), reads⟩
  obtain ⟨front, text, filled, reads⟩ := front
  obtain ⟨here, source⟩ := Lexeme.written text place
  exact ⟨front, by rw [text, here], filled, by rw [here], source, by rwa [here]⟩

/-- A token that is not the end of the text has a width. -/
theorem Lexeme.lt_rest {lexeme : Lexeme} (more : lexeme.token ≠ .finish) :
    lexeme.start.position < lexeme.rest.position := by
  obtain ⟨front, -, filled, position, -⟩ := lexeme.split
  have weight : weigh Char.utf8Size front ≠ 0 := fun none =>
    filled.resolve_left more (isWeight_utf8Size.eq_nil none)
  omega

/-- A string has two quotes, so that it is at least two bytes wide. -/
theorem Lexeme.string_le_rest {lexeme : Lexeme} {value : String} {legacy : Bool}
    (isString : lexeme.token = .string value legacy) :
    lexeme.start.position + 2 ≤ lexeme.rest.position := by
  obtain ⟨behind, read, place⟩ := lexeme.wasRead
  rw [isString] at read
  generalize text : lexeme.start.text = chars at read
  cases Lexer.tokenForm_of_token read with
  | number _ isNumber _ => cases isNumber
  | @string quote rest behind chars legacy isQuote closed =>
    obtain ⟨front, rfl, -⟩ := closed.split (Lexer.bounds_quote (by simpa using isQuote))
    have whole : lexeme.start.text = quote :: (front ++ [quote]) ++ behind := by simp [text]
    rw [(Lexeme.written whole place).1]
    have positive := quote.utf8Size_pos
    simp only [weigh_cons, weigh_append, weigh_nil]
    omega

/-- Where words that are exchanged may start as far as a token is known: behind it, and directly
behind it for a point, and inside of it for a string. -/
def Lexeme.Admits (lexeme : Lexeme) (position : Nat) : Prop :=
  lexeme.rest.position < position ∨
    lexeme.token = .symbol "." ∧ position = lexeme.rest.position ∨
    (∃ value legacy, lexeme.token = .string value legacy) ∧ position = lexeme.start.position + 1

/-- Trivia are passed in front of another text that is the same up to a word. -/
theorem Cursor.trivia_split {place start : Cursor} {trivia : Trivia} {atStart : Bool}
    (walked : place.trivia atStart = some (trivia, start)) : ∃ gap,
    place.text = gap ++ start.text ∧ start.position = place.position + weigh Char.utf8Size gap ∧
    ∀ position others, Lexer.Akin start.text others → ∃ triviaToo,
      triviaToo.AgreesAt trivia (position + weigh Char.utf8Size gap) start.position ∧
      Cursor.trivia ⟨gap ++ others, position⟩ atStart =
        some (triviaToo, ⟨others, position + weigh Char.utf8Size gap⟩) := by
  have position_eq (place : Cursor) {start : Cursor} {trivia : Trivia} {gap : List Char}
      (walked : place.trivia atStart = some (trivia, start)) (text : place.text = gap ++ start.text) :
      start.position = place.position + weigh Char.utf8Size gap := by
    obtain ⟨passed, whole, position⟩ := (Cursor.passes_trivia walked).leads
    rwa [List.append_cancel_right (whole.symm.trans text)] at position
  obtain ⟨gap, text, passes⟩ := Trivia.walk_split walked
  refine ⟨gap, text, position_eq place walked text, fun position others akin => ?_⟩
  obtain ⟨triviaToo, further, agrees, walkedToo⟩ :=
    passes { newline := atStart } position others ⟨rfl, rfl⟩ akin
  obtain rfl := position_eq ⟨gap ++ others, position⟩ walkedToo rfl
  exact ⟨triviaToo, agrees, walkedToo⟩

end Script

namespace Embedded

open Script Identifier

/-! ## Two texts -/

/-- A text some of whose words are exchanged for plain names. Positions in it count from behind the
lead, as the positions of a program do. -/
structure Exchange where
  rename : String → String
  parts : List Piece
  lead : Nat
  plain : ∀ run, .word run ∈ parts → isPlainName (rename (String.ofList run)) = true
  placed : ∀ front run behind, parts = front ++ .word run :: behind →
    Placed (textOf front) run (textOf behind)

namespace Exchange

variable {exchange : Exchange} {front rest others behind : List Piece} {run chars text : List Char}
  {position : Nat} {place other : Cursor}

/-- An exchange takes names to names for all of the pieces that its text is cut into. -/
theorem takes (exchange : Exchange) : TakesNames exchange.rename exchange.parts := by
  intro run inside
  obtain ⟨front, behind, split⟩ := List.append_of_mem inside
  exact ⟨(exchange.placed front run behind split).isRun, exchange.plain run inside⟩

/-- A word that is exchanged starts at a position. -/
def StartsAt (exchange : Exchange) (position : Nat) (run : List Char) : Prop :=
  ∃ front behind, exchange.parts = front ++ .word run :: behind ∧
    position + exchange.lead = 1 + weigh Char.utf8Size (textOf front)

/-- Two places that belong together, with the pieces in front of them and behind them. -/
structure Splits (exchange : Exchange) (front rest : List Piece) (place other : Cursor) : Prop where
  split : exchange.parts = front ++ rest
  text : place.text = textOf rest
  position : place.position + exchange.lead = 1 + weigh Char.utf8Size (textOf front)
  textToo : other.text = renderPieces exchange.rename rest
  positionToo : other.position + exchange.lead =
    1 + weigh Char.utf8Size (renderPieces exchange.rename front)
  posToo : 0 < other.position

/-- A place of the text and the place of the other text that belongs to it. -/
def Joins (exchange : Exchange) (place other : Cursor) : Prop :=
  ∃ front rest, exchange.Splits front rest place other

/-- A position of the text and the one of the other text that belongs to it. -/
def Meets (exchange : Exchange) (position other : Nat) : Prop :=
  ∃ first second : Cursor, exchange.Joins first second ∧ first.position = position ∧
    second.position = other

/-- Places of the two texts that belong together meet at their positions. -/
theorem Joins.meets (joins : exchange.Joins place other) :
    exchange.Meets place.position other.position := ⟨place, other, joins, rfl, rfl⟩

/-- Pieces of a text that weigh nothing are none, since words and characters have at least one
byte. -/
theorem eq_nil_of_weigh {rename : String → String} (takes : TakesNames rename rest)
    (none : weigh Char.utf8Size (textOf rest) = 0) : rest = [] := by
  cases rest with
  | nil => rfl
  | cons part rest =>
    have empty := isWeight_utf8Size.eq_nil none
    cases part with
    | copied c => cases empty
    | word run =>
      obtain ⟨filled, -⟩ := (takes run List.mem_cons_self).1
      exact absurd (List.append_eq_nil_iff.mp empty).1 filled

/-- A position splits the pieces in one way: two fronts that weigh the same are the same. -/
theorem front_eq (split : exchange.parts = front ++ rest) (splitToo : exchange.parts = others ++ behind)
    (weights : weigh Char.utf8Size (textOf front) = weigh Char.utf8Size (textOf others)) :
    front = others ∧ rest = behind := by
  have takes := exchange.takes
  rw [split] at splitToo takes
  rcases List.append_eq_append_iff.mp splitToo with ⟨more, rfl, rfl⟩ | ⟨more, rfl, rfl⟩
  · rw [textOf_append, weigh_append] at weights
    have none := (takes.behind front)
    have empty : more = [] :=
      eq_nil_of_weigh (fun run inside => none run (List.mem_append_left _ inside)) (by omega)
    simp [empty]
  · rw [textOf_append, weigh_append] at weights
    have empty : more = [] := eq_nil_of_weigh
      (fun run inside => takes run (List.mem_append_left _ (List.mem_append_right _ inside)))
      (by omega)
    simp [empty]

/-- Pieces in front of other pieces weigh less, in both texts. -/
theorem weigh_render_pos (takes : TakesNames exchange.rename rest) (filled : rest ≠ []) :
    0 < weigh Char.utf8Size (renderPieces exchange.rename rest) := by
  refine Nat.pos_of_ne_zero fun none => filled ?_
  have empty := isWeight_utf8Size.eq_nil none
  cases rest with
  | nil => rfl
  | cons part rest =>
    cases part with
    | copied c => cases empty
    | word run =>
      obtain ⟨-, plain⟩ := takes run List.mem_cons_self
      obtain ⟨c, others, same, -⟩ := isPlainName_iff.mp plain
      rw [renderPieces_cons, rendered_word, same] at empty
      cases empty

/-- Positions that belong together come in the same order in both texts. -/
theorem Meets.lt {first second firstToo secondToo : Nat} (meets : exchange.Meets first firstToo)
    (meetsToo : exchange.Meets second secondToo) (lt : first < second) : firstToo < secondToo := by
  obtain ⟨_, _, ⟨front, rest, splits⟩, rfl, rfl⟩ := meets
  obtain ⟨_, _, ⟨others, behind, splitsToo⟩, rfl, rfl⟩ := meetsToo
  have here := splits.position
  have there := splitsToo.position
  have hereToo := splits.positionToo
  have thereToo := splitsToo.positionToo
  have takes := exchange.takes
  have same := splits.split.symm.trans splitsToo.split
  rw [splits.split] at takes
  rcases List.append_eq_append_iff.mp same with ⟨more, rfl, rfl⟩ | ⟨more, rfl, rfl⟩
  · have filled : more ≠ [] := by
      rintro rfl
      simp only [List.append_nil] at there
      omega
    have wide := weigh_render_pos (fun run inside => takes run (by simp [inside])) filled
    rw [renderPieces_append, weigh_append] at thereToo
    omega
  · rw [textOf_append, weigh_append] at here
    omega

/-- Positions that belong together come in the same order in both texts, and so do their equals. -/
theorem Meets.lt_iff {first second firstToo secondToo : Nat} (meets : exchange.Meets first firstToo)
    (meetsToo : exchange.Meets second secondToo) : first < second ↔ firstToo < secondToo := by
  refine ⟨meets.lt meetsToo, fun lt => ?_⟩
  by_contra ge
  rcases Nat.lt_or_eq_of_le (Nat.le_of_not_lt ge) with behind | rfl
  · exact Nat.lt_asymm lt (meetsToo.lt meets behind)
  · obtain ⟨_, _, ⟨front, rest, splits⟩, same, rfl⟩ := meets
    obtain ⟨_, _, ⟨others, behind, splitsToo⟩, rfl, rfl⟩ := meetsToo
    have here := splits.position
    have there := splitsToo.position
    obtain ⟨rfl, -⟩ := front_eq splits.split splitsToo.split (by omega)
    have hereToo := splits.positionToo
    have thereToo := splitsToo.positionToo
    omega

/-- Two positions stand on the same side of all positions that belong together. -/
def Sides (exchange : Exchange) (position other : Nat) : Prop :=
  ∀ later laterToo, exchange.Meets later laterToo → (position < later ↔ other < laterToo)

/-- A position is on the same side of all others as the one that it meets, since meeting keeps the
order. -/
theorem Meets.sides {other : Nat} (meets : exchange.Meets position other) :
    exchange.Sides position other := fun _ _ meetsToo => meets.lt_iff meetsToo

/-- For every position of the text there is one of the other text that stands on the same side.

By induction on the position: where no place of the other text belongs to it, the one in front of it
does. -/
theorem exists_sides (exchange : Exchange) (position : Nat) :
    ∃ other, exchange.Sides position other := by
  induction position with
  | zero =>
    by_cases meets : ∃ other, exchange.Meets 0 other
    · exact ⟨_, meets.choose_spec.sides⟩
    · refine ⟨0, fun later laterToo meetsToo => ?_⟩
      have pos : 0 < later := Nat.pos_of_ne_zero fun none => meets ⟨laterToo, none ▸ meetsToo⟩
      obtain ⟨_, _, ⟨front, rest, splits⟩, -, rfl⟩ := meetsToo
      exact iff_of_true pos splits.posToo
  | succ position inductionHypothesis =>
    by_cases meets : ∃ other, exchange.Meets (position + 1) other
    · exact ⟨_, meets.choose_spec.sides⟩
    · obtain ⟨other, sides⟩ := inductionHypothesis
      refine ⟨other, fun later laterToo meetsToo => ?_⟩
      have apart : later ≠ position + 1 := fun same => meets ⟨laterToo, same ▸ meetsToo⟩
      rw [← sides later laterToo meetsToo]
      omega

/-- A word that starts where two places belong together is the first of the pieces behind them. -/
theorem Splits.eq_word (splits : exchange.Splits front rest place other)
    (starts : exchange.StartsAt place.position run) : ∃ behind, rest = .word run :: behind := by
  obtain ⟨before, behind, split, position⟩ := starts
  have same := splits.position
  exact ⟨behind, (front_eq splits.split split (by omega)).2⟩

/-- Where both texts are split in front of a word that word starts, in the text and its pieces. -/
theorem Splits.startsAt (splits : exchange.Splits front (.word run :: rest) place other) :
    exchange.StartsAt place.position run := ⟨front, rest, splits.split, splits.position⟩

/-- Texts that are split in front of the same pieces are akin: they are the same up to the first
word, and both have a word there. -/
theorem Splits.akin (splits : exchange.Splits front rest place other) :
    Lexer.Akin place.text other.text := by
  have takes := exchange.takes
  rw [splits.split] at takes
  rw [splits.text, splits.textToo]
  exact (takes.behind front).akin

/-- Texts at places that belong together are akin, since they are split there in front of the same
pieces. -/
theorem Joins.akin (joins : exchange.Joins place other) : Lexer.Akin place.text other.text := by
  obtain ⟨front, rest, splits⟩ := joins
  exact splits.akin

/-- Where no word starts that is exchanged, both texts go on with the same character. -/
theorem Joins.head? (joins : exchange.Joins place other)
    (none : ∀ run, ¬exchange.StartsAt place.position run) : other.text.head? = place.text.head? := by
  obtain ⟨front, rest, splits⟩ := joins
  rw [splits.text, splits.textToo]
  cases rest with
  | nil => rfl
  | cons part rest =>
    cases part with
    | copied c => rfl
    | word run => exact absurd splits.startsAt (none run)

/-- Behind some pieces that both texts have in front of them they belong together again, each
further on by the bytes of its own rendering. -/
theorem Splits.passed {middle : List Piece}
    (splits : exchange.Splits front (middle ++ rest) place other) :
    exchange.Splits (front ++ middle) rest
      ⟨textOf rest, place.position + weigh Char.utf8Size (textOf middle)⟩
      ⟨renderPieces exchange.rename rest,
        other.position + weigh Char.utf8Size (renderPieces exchange.rename middle)⟩ where
  split := by rw [splits.split, List.append_assoc]
  text := rfl
  position := by
    have position := splits.position
    rw [textOf_append, weigh_append]
    dsimp only
    omega
  textToo := rfl
  positionToo := by
    have position := splits.positionToo
    rw [renderPieces_append, weigh_append]
    dsimp only
    omega
  posToo := Nat.lt_of_lt_of_le splits.posToo (Nat.le_add_right _ _)

/-- Characters in which no word starts stand in both texts, and the places behind them belong
together again. -/
theorem Joins.passed (joins : exchange.Joins place other) (whole : place.text = chars ++ text)
    (none : ∀ position run, exchange.StartsAt position run → place.position ≤ position →
      place.position + weigh Char.utf8Size chars ≤ position) :
    ∃ textToo, other.text = chars ++ textToo ∧
      exchange.Joins ⟨text, place.position + weigh Char.utf8Size chars⟩
        ⟨textToo, other.position + weigh Char.utf8Size chars⟩ := by
  obtain ⟨front, rest, splits⟩ := joins
  rw [splits.text] at whole
  rcases exists_word_or_copied whole with
    ⟨rest, rfl, rfl⟩ | ⟨before, others, run, rest, rfl, rfl, filled⟩
  · have further := splits.passed
    rw [textOf_copied, renderPieces_copied] at further
    refine ⟨_, ?_, _, _, further⟩
    rw [splits.textToo, renderPieces_map_copied]
  · have starts := splits.passed.startsAt
    rw [textOf_copied] at starts
    have later := none _ run starts (Nat.le_add_right _ _)
    rw [weigh_append] at later
    dsimp only at later
    exact absurd (isWeight_utf8Size.eq_nil (by omega)) filled

/-- A word that is exchanged is replaced by a plain name, and both texts go on with the same
character behind it, which ends it. -/
theorem Joins.word (joins : exchange.Joins place other)
    (starts : exchange.StartsAt place.position run) :
    ∃ text textToo, place.text = run ++ text ∧ Ends text ∧
      other.text = (exchange.rename (String.ofList run)).toList ++ textToo ∧
      textToo.head? = text.head? ∧
      exchange.Joins ⟨text, place.position + weigh Char.utf8Size run⟩
        ⟨textToo, other.position + weigh Char.utf8Size
          (exchange.rename (String.ofList run)).toList⟩ := by
  obtain ⟨front, rest, splits⟩ := joins
  obtain ⟨behind, rfl⟩ := splits.eq_word starts
  have ends := (exchange.placed front run behind splits.split).ends
  have further := (splits.passed : exchange.Splits (front ++ [.word run]) _ _ _)
  have same : renderPieces exchange.rename [.word run] =
      (exchange.rename (String.ofList run)).toList := List.append_nil _
  rw [textOf_cons, textOf_nil, List.append_nil, same] at further
  refine ⟨textOf behind, _, splits.text, ends, splits.textToo, ?_, _, _, further⟩
  cases behind with
  | nil => rfl
  | cons part behind =>
    cases part with
    | copied c => rfl
    | word next =>
      have isRun := (exchange.takes next (by simp [splits.split])).1
      exact absurd ends isRun.not_ends

/-- A place of the text. -/
def Holds (exchange : Exchange) (place : Cursor) : Prop :=
  ∃ passed, textOf exchange.parts = passed ++ place.text ∧
    place.position + exchange.lead = 1 + weigh Char.utf8Size passed

/-- A place that belongs together with one of the other text lies in the text of the exchange. -/
theorem Joins.holds (joins : exchange.Joins place other) : exchange.Holds place := by
  obtain ⟨front, rest, splits⟩ := joins
  exact ⟨textOf front, by rw [splits.split, textOf_append, splits.text], splits.position⟩

/-- What lies behind a place of the text lies in the text as well. -/
theorem Holds.leads {later : Cursor} (holds : exchange.Holds place) (leads : place.Leads later) :
    exchange.Holds later := by
  obtain ⟨passed, text, position⟩ := holds
  obtain ⟨more, further, moved⟩ := leads
  refine ⟨passed ++ more, by rw [text, further, List.append_assoc], ?_⟩
  rw [weigh_append]
  omega

/-- The character in front of a word that is exchanged leads it in. -/
theorem Holds.led {lead : Char} (holds : exchange.Holds place) (opens : place.text = lead :: text)
    (starts : exchange.StartsAt (place.position + lead.utf8Size) run) :
    lead = '.' ∨ IsQuote lead ∧ ∃ behind, text = run ++ lead :: behind := by
  obtain ⟨passed, here, position⟩ := holds
  obtain ⟨before, behind, split, further⟩ := starts
  have placed := exchange.placed before run behind split
  have whole : passed ++ [lead] ++ text = textOf before ++ textOf (.word run :: behind) := by
    rw [List.append_assoc, List.singleton_append, ← opens, ← here, split, textOf_append]
  obtain rfl := isWeight_utf8Size.eq_behind whole (by simp; omega)
  rw [← List.append_cancel_right whole] at placed
  have last : ∀ c, (passed ++ [lead]).getLast? = some c → lead = c := by simp
  rcases placed.led with point | ⟨closing, isQuote, ends, closed⟩
  · exact .inl (last _ point)
  · obtain rfl := last _ ends
    obtain ⟨more, closes⟩ := List.head?_eq_some_iff.mp closed
    exact .inr ⟨isQuote, more, congrArg (run ++ ·) closes⟩

/-- A word that starts somewhere in the text is a run of characters. -/
theorem StartsAt.isRun (starts : exchange.StartsAt position run) : IsRun run := by
  obtain ⟨front, behind, split, -⟩ := starts
  exact (exchange.placed front run behind split).isRun

/-- Where a word starts, the text goes on with one of its characters. -/
theorem Holds.head?_of_word (holds : exchange.Holds place)
    (starts : exchange.StartsAt place.position run) :
    ∃ c, place.text.head? = some c ∧ isPart c = true := by
  obtain ⟨passed, here, position⟩ := holds
  obtain ⟨c, rest, rfl⟩ := List.exists_cons_of_ne_nil starts.isRun.1
  have part := starts.isRun.2 c List.mem_cons_self
  obtain ⟨before, behind, split, further⟩ := starts
  have whole : passed ++ place.text = textOf before ++ textOf (.word (c :: rest) :: behind) := by
    rw [← here, split, textOf_append]
  rw [isWeight_utf8Size.eq_behind whole (by omega)]
  exact ⟨c, rfl, part⟩

/-- A word that starts somewhere in the text is one of its pieces. -/
theorem StartsAt.mem_parts (starts : exchange.StartsAt position run) :
    .word run ∈ exchange.parts := by
  obtain ⟨front, behind, split, -⟩ := starts
  simp [split]

/-- No word starts at a quote, so that both texts have it. -/
theorem Joins.passed_quote {quote : Char} (joins : exchange.Joins place other)
    (opens : place.text = quote :: text) (isQuote : IsQuote quote) :
    ∃ textToo, other.text = quote :: textToo ∧
      exchange.Joins ⟨text, place.position + 1⟩ ⟨textToo, other.position + 1⟩ := by
  have single : weigh Char.utf8Size [quote] = 1 := by rcases isQuote with rfl | rfl <;> decide
  have whole : place.text = [quote] ++ text := opens
  have passed := joins.passed whole fun position run starts later => ?_
  · rwa [single] at passed
  · by_contra early
    obtain rfl : position = place.position := by omega
    obtain ⟨text, -, word, -⟩ := joins.word starts
    obtain ⟨c, rest, rfl⟩ := List.exists_cons_of_ne_nil starts.isRun.1
    obtain ⟨rfl, -⟩ := List.cons.inj (opens.symm.trans word)
    have part := starts.isRun.2 quote List.mem_cons_self
    rw [isPart_of_isLead isQuote.isLead] at part
    cases part

/-- A word that is exchanged behind a quote is all that stands up to the next one. -/
theorem Joins.quoted {quote : Char} (joins : exchange.Joins place other)
    (opens : place.text = quote :: text) (isQuote : IsQuote quote)
    (starts : exchange.StartsAt (place.position + 1) run) :
    ∃ behind behindToo, place.text = quote :: (run ++ quote :: behind) ∧
      other.text = quote :: ((exchange.rename (String.ofList run)).toList ++ quote :: behindToo) ∧
      exchange.Joins ⟨behind, place.position + 1 + weigh Char.utf8Size run + 1⟩
        ⟨behindToo, other.position + 1 +
          weigh Char.utf8Size (exchange.rename (String.ofList run)).toList + 1⟩ := by
  have one : quote.utf8Size = 1 := by rcases isQuote with rfl | rfl <;> decide
  obtain point | ⟨-, behind, rfl⟩ := joins.holds.led opens (one.symm ▸ starts)
  · exact absurd point isQuote.ne_point
  obtain ⟨textToo, opensToo, inside⟩ := joins.passed_quote opens isQuote
  obtain ⟨text, others, word, -, wordToo, -, further⟩ := inside.word starts
  obtain rfl : quote :: behind = text := List.append_cancel_left word
  obtain ⟨behindToo, closes, last⟩ := further.passed_quote rfl isQuote
  refine ⟨behind, behindToo, opens, ?_, last⟩
  rw [opensToo]
  exact congrArg (quote :: ·) (wordToo.trans (congrArg (_ ++ ·) closes))

/-! ## Reading in both texts -/

/-- What is written as two tokens is the same, or a word that is exchanged is all that a string
holds. -/
inductive SameToken (exchange : Exchange) (lexeme twin : Lexeme) : Prop
  | same (token : twin.token = lexeme.token) (source : twin.source = lexeme.source)
  | string {run : List Char} (starts : exchange.StartsAt (lexeme.start.position + 1) run)
      (token : lexeme.token = .string (String.ofList run) false)
      (tokenToo : twin.token = .string (exchange.rename (String.ofList run)) false)
      (source : isStrictSource lexeme.source = false) (sourceToo : isStrictSource twin.source = false)
      (ends : lexeme.rest.position = lexeme.start.position + 1 + weigh Char.utf8Size run + 1)

/-- A token of the text and the token of the other text that belongs to it. -/
structure Twins (exchange : Exchange) (lexeme twin : Lexeme) : Prop where
  start : exchange.Joins lexeme.start twin.start
  rest : exchange.Joins lexeme.rest twin.rest
  written : exchange.SameToken lexeme twin

section Reading

variable {lexeme : Lexeme} {trivia : Trivia}

/-- No directive that makes code strict is a single word between quotes, so that exchanging words
keeps what is strict. -/
theorem isStrictSource_quoted {quote : Char} {chars : List Char} (isQuote : IsQuote quote)
    (parts : ∀ c ∈ chars, isNamePart c = true) :
    isStrictSource (String.ofList (quote :: (chars ++ [quote]))) = false := by
  have noBlank : ' ' ∉ quote :: (chars ++ [quote]) := by
    have apart : ' ' ≠ quote := by rcases isQuote with rfl | rfl <;> decide
    simp only [List.mem_cons, List.mem_append, List.not_mem_nil, or_false, apart, false_or]
    exact fun inside => absurd (parts ' ' inside) (by decide)
  by_contra strict
  simp only [isStrictSource, Bool.not_eq_false, Bool.or_eq_true, beq_iff_eq] at strict
  rcases strict with same | same
  all_goals
    refine noBlank ?_
    rw [← String.toList_ofList (l := quote :: (chars ++ [quote])), same]
    decide

/-- A string that is a word that is exchanged has the string of the new name for its twin. -/
theorem exists_twin_of_string {value : String} {legacy : Bool} {run : List Char}
    (joins : exchange.Joins lexeme.start other) (isString : lexeme.token = .string value legacy)
    (starts : exchange.StartsAt (lexeme.start.position + 1) run) :
    ∃ twin, Lexeme.at? other = some twin ∧ twin.start = other ∧ exchange.Twins lexeme twin := by
  obtain ⟨behind, read, place⟩ := lexeme.wasRead
  obtain ⟨quote, rest, opens, isQuote⟩ : ∃ quote rest, lexeme.start.text = quote :: rest ∧
      IsQuote quote := by
    rw [isString] at read
    generalize lexeme.start.text = text at read
    cases Lexer.tokenForm_of_token read with
    | number _ isNumber _ => cases isNumber
    | string isQuote _ => exact ⟨_, _, rfl, isQuote.symm⟩
  have run_parts := fun c inside => isNamePart_of_isPart (starts.isRun.2 c inside)
  have name_parts := isNamePart_of_isPlainName (exchange.plain run starts.mem_parts)
  obtain ⟨text, textToo, whole, wholeToo, further⟩ := joins.quoted opens isQuote starts
  have form (chars behind : List Char) :
      quote :: (chars ++ quote :: behind) = quote :: (chars ++ [quote]) ++ behind := by simp
  have weight (chars : List Char) : weigh Char.utf8Size (quote :: (chars ++ [quote])) =
      1 + weigh Char.utf8Size chars + 1 := by
    have one : quote.utf8Size = 1 := by rcases isQuote with rfl | rfl <;> decide
    simp [one, Nat.add_assoc]
  have readHere := token_string isQuote run_parts text
  have readToo := token_string isQuote name_parts textToo
  rw [← whole, read] at readHere
  obtain ⟨token, rfl⟩ := Prod.mk.inj (Option.some.inj readHere)
  rw [← wholeToo, String.ofList_toList] at readToo
  obtain ⟨rest, source⟩ := Lexeme.written (whole.trans (form _ _)) place
  obtain ⟨twin, found, rfl, tokenToo, restToo, sourceToo⟩ :=
    Lexeme.exists_at (wholeToo.trans (form _ _)) readToo
  rw [weight, ← Nat.add_assoc, ← Nat.add_assoc] at rest restToo
  refine ⟨twin, found, rfl, joins, by rw [rest, restToo]; exact further, ?_⟩
  refine .string starts token tokenToo ?_ ?_ (by rw [rest])
  · rw [source]
    exact isStrictSource_quoted isQuote run_parts
  · rw [sourceToo]
    exact isStrictSource_quoted isQuote name_parts

/-- A token has a twin in the other text when words start only where it admits them. -/
theorem exists_twin (joins : exchange.Joins lexeme.start other)
    (quiet : ∀ position run, exchange.StartsAt position run →
      lexeme.start.position ≤ position → lexeme.Admits position) :
    ∃ twin, Lexeme.at? other = some twin ∧ twin.start = other ∧ exchange.Twins lexeme twin := by
  by_cases holds : ∃ value legacy run, lexeme.token = .string value legacy ∧
      exchange.StartsAt (lexeme.start.position + 1) run
  · obtain ⟨value, legacy, run, isString, starts⟩ := holds
    exact exists_twin_of_string joins isString starts
  obtain ⟨front, text, -, position, source, reads⟩ := lexeme.split
  have outside : ∀ position run, exchange.StartsAt position run → lexeme.start.position ≤ position →
      lexeme.rest.position < position ∨
        lexeme.token = .symbol "." ∧ position = lexeme.rest.position := by
    intro position run starts later
    rcases quiet position run starts later with behind | point | ⟨⟨value, legacy, isString⟩, rfl⟩
    · exact .inl behind
    · exact .inr point
    · exact absurd ⟨value, legacy, run, isString, starts⟩ holds
  obtain ⟨textToo, wholeToo, further⟩ := joins.passed text fun position run starts later => by
    rcases outside position run starts later with behind | ⟨-, rfl⟩ <;> omega
  have near : textToo.head? = lexeme.rest.text.head? ∨ lexeme.token = .symbol "." := by
    by_cases starts : ∃ run, exchange.StartsAt lexeme.rest.position run
    · obtain ⟨run, starts⟩ := starts
      rcases outside _ run starts (by omega) with behind | ⟨point, -⟩
      · omega
      · exact .inr point
    · rw [← position] at further
      exact .inl (further.head? fun run here => starts ⟨run, here⟩)
  have read := reads textToo further.akin near
  rw [← wholeToo] at read
  obtain ⟨twin, found, rfl, token, rest, sourceToo⟩ := Lexeme.exists_at wholeToo read
  refine ⟨twin, found, rfl, joins, ?_, .same token (sourceToo.trans source.symm)⟩
  rw [rest]
  rwa [← position] at further

/-- The token at or behind a place has a twin in the other text, and the trivia in front of the two
agree, when words start only where the token admits them. -/
theorem exists_next (joins : exchange.Joins place other)
    (found : place.next? = some (trivia, lexeme))
    (quiet : ∀ position run, exchange.StartsAt position run → place.position ≤ position →
      lexeme.Admits position) :
    ∃ triviaToo twin, other.next? = some (triviaToo, twin) ∧ triviaToo.Agrees trivia ∧
      exchange.Twins lexeme twin := by
  obtain ⟨walked, found⟩ := Cursor.next?_eq_some_iff.mp found
  obtain ⟨gap, text, position, passes⟩ := Cursor.trivia_split walked
  obtain ⟨front, -, -, rest, -⟩ := lexeme.split
  obtain ⟨textToo, whole, further⟩ := joins.passed text fun position run starts later => by
    rcases quiet position run starts later with behind | ⟨-, rfl⟩ | ⟨-, rfl⟩ <;> omega
  obtain ⟨triviaToo, agrees, walkedToo⟩ := passes other.position textToo further.akin
  rw [← position] at further
  obtain ⟨twin, foundToo, start, twins⟩ := exists_twin further fun position run starts later =>
    quiet position run starts (by omega)
  refine ⟨triviaToo, twin, Cursor.next?_eq_some_iff.mpr ⟨?_, start ▸ foundToo⟩, agrees.agrees, twins⟩
  rw [start, ← walkedToo, ← whole]

end Reading

end Exchange

end Embedded

end PropertyMangling
