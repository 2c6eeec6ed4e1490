import PropertyMangling.Proofs.Script.Refusal
import PropertyMangling.Proofs.Script.Words
/-!
# Reading along known tokens

A step that is known to stand in front of a token, with a known text behind it,
comes to a token further on. Which positions the tokens have is left open; they
are alike in every reading of the same text.
-/
namespace PropertyMangling.Script

/-- Whether neither white space nor a comment starts with a character. -/
def isSolid (c : Char) : Bool :=
  !isLineEnd c && !isSpace c && c != '/' && c != '<' && c != '-'

/-- A character that ends a line is blank, so that the two kinds of white space overlap. -/
theorem isBlank_of_isLineEnd {c : Char} (ends : isLineEnd c = true) : Text.isBlank c = true := by
  simp only [isLineEnd, Bool.or_eq_true, beq_iff_eq] at ends
  rcases ends with ((rfl | rfl) | code) | code
  · decide
  · decide
  · simp [Text.isBlank, code]
  · simp [Text.isBlank, code]

/-- No name starts with white space or with the slash of a comment, so that the first character of
a name starts a token. -/
theorem isSolid_of_isNameStart {c : Char} (starts : isNameStart c = true) : isSolid c = true := by
  have part : isNamePart c = true := isNamePart_of_isNameStart starts
  have firm : Text.isBlank c = false := isBlank_of_isNamePart part
  have sameLine : isLineEnd c = false :=
    Bool.eq_false_iff.mpr fun ends => Bool.eq_false_iff.mp firm (isBlank_of_isLineEnd ends)
  have noMark : c.toNat ≠ 0xFEFF := by
    intro mark
    rw [← Char.ofNat_toNat c, mark] at part
    exact absurd part (by decide +kernel)
  have apart : ∀ other, isNamePart other = false → c ≠ other := by
    rintro _ outside rfl
    exact Bool.eq_false_iff.mp outside part
  simp [isSolid, sameLine, isSpace, firm, noMark, apart '/' (by decide), apart '<' (by decide),
    apart '-' (by decide)]

/-- No name starts with a digit, which is what tells names and numbers apart. -/
theorem isDigit_of_isNameStart {c : Char} (starts : isNameStart c = true) : c.isDigit = false := by
  rw [Bool.eq_false_iff]
  intro digit
  have ascii : c.toNat < 0x80 := by
    simp only [Char.isDigit, Bool.and_eq_true, decide_eq_true_eq] at digit
    exact Nat.lt_of_le_of_lt digit.2 (by decide)
  have apart : ∀ number < 0x80,
      (isNameStart (Char.ofNat number) && (Char.ofNat number).isDigit) = false := by decide +kernel
  have both := apart c.toNat ascii
  rw [Char.ofNat_toNat, starts, digit] at both
  cases both

/-- Whether a token is written without escapes, and may stand in strict code. -/
def Token.isUnescaped : Token → Bool
  | .symbol _ | .word _ .plain | .finish => true
  | _ => false

/-- A token stands at the start of a text, with no trivia in front of it. -/
structure StartsWith (text : List Char) (next : Token) (further : List Char) : Prop where
  solid : text.head?.all isSolid = true
  lexes : Lexer.token text = some (next, further)
  within : further <:+ text
  unescaped : next.isUnescaped = true

/-- A solid character that the lexer reads as a token of its own is the first token of its
text. -/
theorem startsWith_cons {c : Char} {next : Token} {further : List Char} (solid : isSolid c = true)
    (lexes : Lexer.token (c :: further) = some (next, further)) (unescaped : next.isUnescaped = true) :
    StartsWith (c :: further) next further :=
  ⟨solid, lexes, List.suffix_cons c further, unescaped⟩

/-- The end of a text counts as a token too, and nothing stands behind it. -/
theorem startsWith_finish : StartsWith [] .finish [] := ⟨rfl, rfl, List.suffix_rfl, rfl⟩

section Names

variable {name : String} {behind : List Char} (plain : isPlainName name = true)
include plain

/-- A plain name stands at the start of a text where it ends. -/
theorem startsWith_name (ends : Lexer.endsName behind = true) :
    StartsWith (name.toList ++ behind) (.word name .plain) behind where
  solid := by
    obtain ⟨first, rest, same, starts, -⟩ := isPlainName_iff.mp plain
    rw [same]
    exact isSolid_of_isNameStart starts
  lexes := Lexer.token_append plain ends
  within := List.suffix_append _ _
  unescaped := rfl

/-- A point in front of a plain name is a token of its own. -/
theorem startsWith_point : StartsWith ('.' :: (name.toList ++ behind)) (.symbol ".")
    (name.toList ++ behind) := by
  refine startsWith_cons rfl ?_ rfl
  obtain ⟨first, rest, same, starts, -⟩ := isPlainName_iff.mp plain
  have noPoint : ('.' == first) = false := by
    refine beq_eq_false_iff_ne.mpr ?_
    rintro rfl
    exact absurd starts (by decide)
  have noDigit : first.isDigit = false := isDigit_of_isNameStart starts
  have opens : Lexer.opensName '.' = false := by decide
  rw [same, List.cons_append, Lexer.token]
  simp [opens, noDigit, Lexer.symbol, symbols, List.isPrefixOf, noPoint]

end Names

/-- There are no trivia in front of a token that starts a text. -/
theorem StartsWith.trivia {cursor : Cursor} {next : Token} {further : List Char}
    (starts : StartsWith cursor.text next further) (atStart : Bool) :
    cursor.trivia atStart = some ({ newline := atStart }, cursor) := by
  have solid := starts.solid
  obtain ⟨text, position⟩ := cursor
  cases text with
  | nil => rfl
  | cons c rest =>
    simp only [List.head?_cons, Option.all_some, isSolid, Bool.and_eq_true, Bool.not_eq_true',
      bne_iff_ne] at solid
    exact Cursor.trivia_stops rfl (by tauto) (by tauto) atStart

/-- White space, as a printer writes it, leads to a token; the flag says whether a line ends in it. -/
inductive LeadsTo : List Char → Bool → Token → List Char → Prop
  | here {text further : List Char} {next : Token} (starts : StartsWith text next further) :
    LeadsTo text false next further
  | space {text further : List Char} {newline : Bool} {next : Token}
      (leads : LeadsTo text newline next further) : LeadsTo (' ' :: text) newline next further
  | lineEnd {text further : List Char} {newline : Bool} {next : Token}
      (leads : LeadsTo text newline next further) : LeadsTo ('\n' :: text) true next further

/-- A walk through white space ends in front of the token, and notes the line end. It is followed by
induction on the white space, from any place and whether a line has ended before or not. -/
theorem LeadsTo.exists_start {text further : List Char} {newline : Bool} {next : Token}
    (leads : LeadsTo text newline next further) (ended : Bool) (position : Nat) :
    ∃ start : Cursor, Trivia.walk .between { newline := ended } position text =
        some ({ newline := ended || newline }, start) ∧ StartsWith start.text next further := by
  induction leads generalizing ended position with
  | @here text further next starts =>
    have starts : StartsWith (Cursor.mk text position).text next further := starts
    exact ⟨⟨text, position⟩, by rw [Bool.or_false]; exact starts.trivia ended, starts⟩
  | space leads inductionHypothesis => exact inductionHypothesis ended (position + 1)
  | lineEnd leads inductionHypothesis =>
    obtain ⟨start, walked, starts⟩ := inductionHypothesis true (position + 1)
    exact ⟨start, by rw [Bool.or_true]; exact walked, starts⟩

/-- Behind the first part of a text stands the rest of it. -/
theorem Cursor.text_skipTo (front further : List Char) (position : Nat) :
    (Cursor.skipTo ⟨front ++ further, position⟩ further).text = further := by
  simp [skipTo, skip]

/-- What a reading stands in front of: its current token, and the text behind that. -/
structure State.Faces (state : State) (here : Token × List Char) : Prop where
  token : state.lexeme.token = here.1
  behind : state.lexeme.rest.text = here.2
  isModule : state.isModule = false
  declared : state.declared = false

/-- What is left open of a state that stands in front of a known token. -/
structure Standing (found : Token) (behind : List Char) where
  start : Cursor
  /-- Where the text behind the token starts. -/
  position : Nat
  wasRead : ∃ further, Lexer.token start.text = some (found, further) ∧
    ⟨behind, position⟩ = start.skipTo further
  opened : Nat
  newline : Bool
  finished : Nat
  scriptOnly : Bool

/-- The state in front of a known token. -/
def Standing.state {found : Token} {behind : List Char} (standing : Standing found behind) : State where
  lexeme := ⟨found, standing.start, ⟨behind, standing.position⟩, standing.wasRead⟩
  opened := standing.opened
  newline := standing.newline
  finished := standing.finished
  scriptOnly := standing.scriptOnly

/-- A state that faces a token and a text is one of the states that stand there, with the rest of
it left open. -/
theorem State.Faces.exists_standing {state : State} {found : Token} {behind : List Char}
    (faces : state.Faces (found, behind)) :
    ∃ standing : Standing found behind, standing.state = state := by
  obtain ⟨⟨token, start, ⟨text, position⟩, wasRead⟩, opened, newline, finished, scriptOnly, _, _⟩ :=
    state
  obtain ⟨rfl, rfl, rfl, rfl⟩ := faces
  exact ⟨⟨start, position, wasRead, opened, newline, finished, scriptOnly⟩, rfl⟩

namespace Parse

variable {α β : Type} {scope : Scope} {property : α → Prop} {wanted : β → Prop}
  {here middle there : Token × List Char}

/-- A step leads from one token to another, and answers with what has a property. -/
def Reads (scope : Scope) (step : Parse α) (property : α → Prop) (here there : Token × List Char) :
    Prop :=
  ∀ state : State, state.Faces here → ∃ answer later,
    step scope state = .ok (answer, later) ∧ property answer ∧ later.Faces there

/-- A step reads on where another stops, and starts from whatever the first one answers with. -/
theorem Reads.bind {step : Parse α} {next : α → Parse β}
    (first : Reads scope step property here middle)
    (second : ∀ answer, property answer → Reads scope (next answer) wanted middle there) :
    Reads scope (step >>= next) wanted here there := by
  intro state faces
  obtain ⟨answer, later, read, holds, facesLater⟩ := first state faces
  obtain ⟨last, final, readOn, holdsToo, facesFinal⟩ := second answer holds later facesLater
  refine ⟨last, final, ?_, holdsToo, facesFinal⟩
  change (step scope state >>= fun answer => next answer.1 scope answer.2) = _
  rw [read]
  exact readOn

/-- A step reads on behind one whose answer is known, so that it has to be read for that answer
only. -/
theorem Reads.then {step : Parse α} {next : α → Parse β} {answer : α}
    (first : Reads scope step (· = answer) here middle)
    (second : Reads scope (next answer) wanted middle there) :
    Reads scope (step >>= next) wanted here there :=
  first.bind fun _ same => same ▸ second

/-- Less may be asked of what a step answers with than is known of it. -/
theorem Reads.imp {step : Parse α} {weaker : α → Prop} (reads : Reads scope step property here there)
    (implies : ∀ answer, property answer → weaker answer) : Reads scope step weaker here there := by
  intro state faces
  obtain ⟨answer, later, read, holds, facesLater⟩ := reads state faces
  exact ⟨answer, later, read, implies answer holds, facesLater⟩

/-- Answering reads nothing and stays where it is, so it may stand anywhere. -/
theorem reads_pure {answer : α} (holds : property answer) :
    Reads scope (pure answer) property here here :=
  fun state faces => ⟨answer, state, rfl, holds, faces⟩

/-- What was read is handed on behind a step that closes it. -/
theorem Reads.closed {step : Parse α} {close : Parse Unit}
    (reads : Reads scope step property here middle)
    (closes : Reads scope close (· = ()) middle there) :
    Reads scope (step >>= fun answer => close >>= fun _ => pure answer) property here there :=
  reads.bind fun _ holds => closes.then (reads_pure holds)

/-- Reading in a changed scope goes as far as the step does in that scope. -/
theorem Reads.within {step : Parse α} {change : Scope → Scope}
    (reads : Reads (change scope) step property here there) :
    Reads scope (within change step) property here there :=
  reads

/-- A step that is carried out from every state that faces a place reads from that place, whatever
else is open in the state. -/
theorem reads_of_standing {step : Parse α} {found next : Token} {behind further : List Char}
    (read : ∀ standing : Standing found behind, ∃ answer later,
      step scope standing.state = .ok (answer, later) ∧ property answer ∧
        later.Faces (next, further)) :
    Reads scope step property (found, behind) (next, further) := by
  intro state faces
  obtain ⟨standing, rfl⟩ := faces.exists_standing
  exact read standing

/-- A step that only looks stays where it is, whatever it sees, and answers with something. -/
theorem reads_of_sees {step : Parse α}
    (sees : ∀ scope state, ∃ answer, Sees step scope state answer) :
    Reads scope step (fun _ => True) here here := by
  intro state faces
  obtain ⟨answer, looks⟩ := sees scope state
  exact ⟨answer, state, looks, trivial, faces⟩

/-- A requirement that holds is passed and stays where it is. -/
theorem reads_require {condition : Bool} (holds : condition = true) :
    Reads scope (require condition) (· = ()) here here := by
  rw [require, if_pos holds]
  exact reads_pure rfl

/-- Noting that only scripts may hold something stays where it is. -/
theorem reads_noteScriptOnly : Reads scope noteScriptOnly (· = ()) here here :=
  fun state faces =>
    ⟨(), { state with scriptOnly := true }, rfl, rfl, ⟨faces.1, faces.2, faces.3, faces.4⟩⟩

/-- A look for a word answers whether the token ahead means it. -/
theorem reads_isWord (text : String) : Reads scope (isWord text) (· = means text here.1) here here :=
  fun state faces => ⟨_, state, rfl, congrArg (means text) faces.token, faces⟩

/-- Asking for the position stays where it is, and answers with one that is not known. -/
theorem reads_position : Reads scope position (fun _ => True) here here :=
  fun state faces => ⟨_, state, rfl, trivial, faces⟩

/-- Asking for a span stays where it is, and answers with one that is not known. -/
theorem reads_spanFrom (start : Nat) : Reads scope (spanFrom start) (fun _ => True) here here :=
  fun state faces => ⟨_, state, rfl, trivial, faces⟩

/-- Asking for the scope stays where it is and answers with the scope. -/
theorem reads_scope : Reads scope read (· = scope) here here :=
  fun state faces => ⟨_, state, rfl, rfl, faces⟩

/-- Asking for the current token stays where it is and answers with the token ahead. -/
theorem reads_token : Reads scope token (· = here.1) here here :=
  fun state faces => ⟨_, state, rfl, faces.token, faces⟩

/-- Asking for the state stays where it is and answers with one that faces the place. -/
theorem reads_get : Reads scope get (fun state => state.Faces here) here here :=
  fun state faces => ⟨state, state, rfl, faces, faces⟩

/-- A token without escapes may stand in every scope, and nothing is noted of it. -/
theorem judge_of_isUnescaped {token : Token} {state : State}
    (unescaped : token.isUnescaped = true) : judge token scope state = .ok ((), state) := by
  unfold judge
  split
  all_goals first
    | rfl
    | cases unescaped

/-- A step that only looks, and sees the same from every state that faces a place, answers with
that and stays there. -/
theorem reads_look {step : Parse α} {answer : α} {found : Token} {behind : List Char}
    (looks : ∀ standing : Standing found behind, Sees step scope standing.state answer) :
    Reads scope step (· = answer) (found, behind) (found, behind) := by
  intro state faces
  obtain ⟨standing, rfl⟩ := faces.exists_standing
  exact ⟨answer, standing.state, looks standing, rfl, faces⟩

/-- At a symbol a look for one answers whether it is that symbol. -/
theorem reads_isSymbol {text other : String} {behind : List Char} :
    Reads scope (isSymbol text) (· = (other == text)) (.symbol other, behind) (.symbol other, behind) :=
  reads_look fun _ => rfl

/-- At a word a look for a symbol finds none, and the word is still there. -/
theorem reads_isSymbol_word {text name : String} {behind : List Char} :
    Reads scope (isSymbol text) (· = false) (.word name .plain, behind) (.word name .plain, behind) :=
  reads_look fun _ => rfl

/-- A word is no mark to be passed, so that the step that would pass one stays in front of it. -/
theorem reads_eat_word {text name : String} {behind : List Char} :
    Reads scope (eat text) (· = false) (.word name .plain, behind) (.word name .plain, behind) :=
  reads_look fun _ => rfl

section Next

variable {found next : Token} {behind further : List Char}

/-- The token that a text starts with is found at every place where that text stands. -/
theorem exists_at? (starts : StartsWith behind next further) {cursor : Cursor}
    (text : cursor.text = behind) :
    ∃ lexeme, Lexeme.at? cursor = some lexeme ∧ lexeme.token = next ∧ lexeme.rest.text = further := by
  have cut : (cursor.skipTo further).text = further := by
    obtain ⟨front, rfl⟩ := starts.within
    obtain ⟨_, position⟩ := cursor
    obtain rfl : _ = front ++ further := text
    exact Cursor.text_skipTo front further position
  unfold Lexeme.at?
  split
  · next token others wasRead =>
    rw [text, starts.lexes] at wasRead
    obtain ⟨rfl, rfl⟩ := Prod.mk.inj (Option.some.inj wasRead)
    exact ⟨_, rfl, rfl, cut⟩
  · next none =>
    rw [text, starts.lexes] at none
    cases none

/-- Moving on to a place whose text starts with an unescaped token comes to that token, with
nothing noted of it. -/
theorem exists_arrive (starts : StartsWith behind next further) {cursor : Cursor}
    (text : cursor.text = behind) (trivia : Trivia) (opened finished : Nat) (scope : Scope)
    {state : State} (isModule : state.isModule = false) (declared : state.declared = false) :
    ∃ later, arrive trivia cursor opened finished scope state = .ok ((), later) ∧
      later.Faces (next, further) := by
  obtain ⟨lexeme, found, token, rest⟩ := exists_at? starts text
  have judged : judge lexeme.token scope state = .ok ((), state) :=
    judge_of_isUnescaped (token ▸ starts.unescaped)
  refine ⟨{ state with
    lexeme := lexeme
    opened := opened
    newline := trivia.newline
    finished := finished
    scriptOnly := state.scriptOnly || trivia.document?.isSome }, ?_, token, rest, isModule, declared⟩
  rw [arrive, found]
  change (judge lexeme.token scope state >>= fun answer => _) = _
  rw [judged]
  rfl

variable {newline : Bool} (leads : LeadsTo behind newline next further)
include leads

/-- Moving on to the next token, through the white space in front of it. -/
theorem reads_advance : Reads scope advance (fun _ => True) (found, behind) (next, further) := by
  intro state faces
  have text : state.lexeme.rest.text = behind := faces.behind
  obtain ⟨start, walked, starts⟩ := leads.exists_start false state.lexeme.rest.position
  obtain ⟨later, moved, facesLater⟩ := exists_arrive starts rfl { newline := false || newline }
    start.position state.lexeme.rest.position scope faces.isModule faces.declared
  refine ⟨(), later, ?_, trivial, facesLater⟩
  have passes : state.lexeme.rest.trivia false = some ({ newline := false || newline }, start) := by
    rw [Cursor.trivia, text]
    exact walked
  change load state.lexeme.rest scope state = _
  rw [load, passes]
  exact moved

/-- Looking at the next token, and at the line end in front of it. -/
theorem reads_peek :
    Reads scope peek (· = some (next, newline)) (found, behind) (found, behind) := by
  intro state faces
  have text : state.lexeme.rest.text = behind := faces.behind
  obtain ⟨start, walked, starts⟩ := leads.exists_start false state.lexeme.rest.position
  refine ⟨_, state, ?_, rfl, faces⟩
  change Except.ok ((Trivia.walk .between { newline := false } state.lexeme.rest.position
    state.lexeme.rest.text >>= fun found =>
      Lexer.token found.2.text >>= fun read => some (read.1, found.1.newline)), state) = _
  rw [text, walked]
  simp only [Option.bind_eq_bind, Option.bind_some, starts.lexes, Bool.false_or]

/-- Passing a symbol that is there comes to the token behind it. -/
theorem reads_eat (text : String) :
    Reads scope (eat text) (· = true) (.symbol text, behind) (next, further) := by
  refine reads_isSymbol.then ?_
  rw [if_pos (beq_self_eq_true text)]
  exact (reads_advance leads).bind fun _ _ => reads_pure rfl

/-- Passing a symbol that has to be there, and is, comes to the token behind it. -/
theorem reads_expect (text : String) :
    Reads scope (expect text) (· = ()) (.symbol text, behind) (next, further) :=
  (reads_eat leads text).then (reads_require rfl)

/-- Passing a word that has to be there, and is, comes to the token behind it. -/
theorem reads_expectWord (text : String) :
    Reads scope (expectWord text) (· = ()) (.word text .plain, behind) (next, further) := by
  have passed : Reads scope (eatWord text) (· = true) (.word text .plain, behind) (next, further) := by
    refine (reads_isWord text).then ?_
    rw [show means text (.word text .plain) = true from beq_self_eq_true text, if_pos rfl]
    exact (reads_advance leads).bind fun _ _ => reads_pure rfl
  exact passed.then (reads_require rfl)

end Next

/-- A repetition stops where its step has nothing to add, and answers with the value that it
has. -/
theorem reads_foldSteps_stop {step : α → Parse (Option α)} {value : α} (count : Nat)
    (holds : property value) (stops : Reads scope (step value) (· = none) here there) :
    Reads scope (foldSteps step (count + 1) value) property here there :=
  stops.then (reads_pure holds)

/-- A repetition goes on from what its step answers, with one round less to go. -/
theorem reads_foldSteps_step {step : α → Parse (Option α)} {value next : α} (count : Nat)
    (steps : Reads scope (step value) (· = some next) here middle)
    (behind : Reads scope (foldSteps step count next) property middle there) :
    Reads scope (foldSteps step (count + 1) value) property here there :=
  steps.then behind

/-- A repetition that has nothing to add at once answers with what it was given. -/
theorem reads_fold_stop {step : α → Parse (Option α)} {value : α} (holds : property value)
    (stops : Reads scope (step value) (· = none) here there) :
    Reads scope (fold step value) property here there :=
  reads_scope.then (reads_foldSteps_stop (scope.size + 1) holds stops)

/-- A repetition whose step adds something once, and then has nothing more to add, answers with
what that step made. -/
theorem reads_fold_once {step : α → Parse (Option α)} {value : α}
    (steps : Reads scope (step value) (fun found => ∃ next, found = some next ∧ property next) here
      middle)
    (stops : ∀ next, property next → Reads scope (step next) (· = none) middle there) :
    Reads scope (fold step value) property here there := by
  refine reads_scope.then (steps.bind ?_)
  rintro _ ⟨next, rfl, holds⟩
  exact reads_foldSteps_stop scope.size holds (stops next holds)

/-- No item is read in front of what ends a repetition at once. -/
theorem reads_many_none {item : Parse (Option α)} (last : Reads scope item (· = none) here there) :
    Reads scope (many item) (· = []) here there := by
  have steps : Reads scope (fold (fun items => do return (← item).map (· :: items)) []) (· = []) here
      there :=
    reads_fold_stop rfl (last.then (reads_pure rfl))
  exact steps.then (reads_pure rfl)

/-- One item is read in front of what ends a repetition behind it. -/
theorem reads_many_one {item : Parse (Option α)}
    (first : Reads scope item (fun found => ∃ answer, found = some answer ∧ property answer) here
      middle)
    (last : Reads scope item (· = none) middle there) :
    Reads scope (many item) (fun items => ∃ answer, items = [answer] ∧ property answer) here
      there := by
  have steps : Reads scope (fold (fun items => do return (← item).map (· :: items)) [])
      (fun items => ∃ answer, items = [answer] ∧ property answer) here there := by
    refine reads_fold_once (first.bind ?_) fun items _ => last.then (reads_pure rfl)
    rintro _ ⟨answer, rfl, holds⟩
    exact reads_pure ⟨_, rfl, answer, rfl, holds⟩
  refine steps.bind ?_
  rintro _ ⟨answer, rfl, holds⟩
  exact reads_pure ⟨answer, rfl, holds⟩

/-- A list with one item, and no comma behind it, is read up to its closing mark. -/
theorem reads_commaList_one {item : Parse α} {close : String} {behind further : List Char}
    {newline : Bool} {next : Token} (filled : 0 < scope.size) (noComma : close ≠ ",")
    (leads : LeadsTo behind newline next further)
    (opens : Reads scope (eat close) (· = false) here here)
    (only : Reads scope item property here (.symbol close, behind)) :
    Reads scope (commaList close item)
      (fun found => ∃ answer, found = ([answer], false) ∧ property answer) here (next, further) := by
  obtain ⟨size, filled⟩ : ∃ size, scope.size = size + 1 := Nat.exists_eq_add_one.mpr filled
  have noMore : Reads scope (eat ",") (· = false) (.symbol close, behind) (.symbol close, behind) := by
    refine reads_isSymbol.then ?_
    rw [beq_eq_false_iff_ne.mpr noComma]
    exact reads_pure rfl
  unfold commaList
  extract_lets step
  have item : Reads scope (step ([], false, false))
      (fun found => ∃ answer, found = some ([answer], false, false) ∧ property answer) here
      (.symbol close, behind) := by
    refine opens.then ((reads_require rfl).then (only.bind fun answer holds => ?_))
    exact noMore.then (reads_pure ⟨answer, rfl, holds⟩)
  have whole : Reads scope (fold step ([], false, false))
      (fun found => ∃ answer, found = ([answer], false, true) ∧ property answer) here
      (next, further) := by
    refine reads_scope.then ?_
    rw [filled]
    refine item.bind ?_
    rintro _ ⟨answer, rfl, holds⟩
    refine reads_foldSteps_step (size + 1) ((reads_eat leads close).then (reads_pure rfl)) ?_
    exact reads_foldSteps_stop size ⟨answer, rfl, holds⟩ (reads_pure rfl)
  refine whole.bind ?_
  rintro _ ⟨answer, rfl, holds⟩
  exact reads_pure ⟨answer, rfl, holds⟩

end Parse

end PropertyMangling.Script
