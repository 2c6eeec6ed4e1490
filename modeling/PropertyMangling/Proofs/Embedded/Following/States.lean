import PropertyMangling.Proofs.Embedded.Exchange
import PropertyMangling.Proofs.Script.Origin.Steps
/-!
# Readings of two texts side by side

A reading of a text and a reading of the text with some words exchanged stand side by
side when their current tokens belong together. The grammar looks further than the
current token behind a word and behind a question mark only; the last token that it
may have looked at says where words that are exchanged can still be met. Moving on in
the text keeps two readings side by side, as long as no word is passed on the way.
-/
namespace PropertyMangling

open Script Embedded

namespace Script

/-! ## How far the grammar looks -/

/-- Whether the grammar may look at the token behind this one. -/
def Token.looksAhead : Token → Bool
  | .word .. => true
  | .symbol text => text == "?"
  | _ => false

/-- The token behind the current one. -/
def State.ahead? (state : State) : Option (Trivia × Lexeme) := state.lexeme.rest.next?

/-- What a look at the token behind the current one tells. -/
def State.peeked (state : State) : Option (Token × Bool) :=
  state.ahead?.map fun found => (found.2.token, found.1.newline)

/-- The last token that the grammar may have looked at. -/
def State.last (state : State) : Lexeme :=
  if state.token.looksAhead then (state.ahead?.map Prod.snd).getD state.lexeme else state.lexeme

/-- Where the reading can still meet words that are exchanged. -/
def State.Admits (state : State) (position : Nat) : Prop := state.last.Admits position

/-- The token that the grammar may look at can be read. -/
def State.Informed (state : State) : Prop :=
  state.token.looksAhead = true → state.ahead?.isSome = true

variable {state later : State} {place : Cursor} {trivia : Trivia} {lexeme : Lexeme} {position : Nat}

/-- Where the grammar may look behind the current token, the token that it finds there is the last
one that it may have looked at. -/
theorem State.last_of_ahead (found : state.ahead? = some (trivia, lexeme))
    (looks : state.token.looksAhead = true) : state.last = lexeme := by
  rw [last, if_pos looks, found]
  rfl

/-- Where the grammar looks no further, the current token is the last one that it may have looked
at. -/
theorem State.last_of_looks (none : state.token.looksAhead = false) : state.last = state.lexeme :=
  if_neg (by simp [none])

/-- A token ends no earlier than it starts. -/
theorem Lexeme.le_rest (lexeme : Lexeme) : lexeme.start.position ≤ lexeme.rest.position := by
  obtain ⟨front, -, -, position, -⟩ := lexeme.split
  omega

/-- The token at or behind a place starts there or behind it. -/
theorem Cursor.le_of_next? (found : place.next? = some (trivia, lexeme)) :
    place.position ≤ lexeme.start.position :=
  (Cursor.passes_trivia (Cursor.next?_eq_some_iff.mp found).1).leads.position_le

/-- What a token admits stands behind its start: behind its end, as the name behind a point, or as
the text of a string. -/
theorem Lexeme.Admits.lt (admits : lexeme.Admits position) : lexeme.start.position < position := by
  have le := lexeme.le_rest
  rcases admits with behind | ⟨point, rfl⟩ | ⟨-, rfl⟩
  · omega
  · exact Lexeme.lt_rest (by simp [point])
  · omega

/-- What is admitted by a token behind a place is admitted where that place is the end of a token. -/
theorem Lexeme.Admits.of_next {earlier : Lexeme} (behind : earlier.rest.position ≤ place.position)
    (found : place.next? = some (trivia, lexeme)) (admits : lexeme.Admits position) :
    earlier.Admits position := by
  have later := Cursor.le_of_next? found
  have further := admits.lt
  exact .inl (by omega)

/-- What is admitted by the last token is admitted by the current one. -/
theorem State.Admits.current (admits : state.Admits position) : state.lexeme.Admits position := by
  unfold State.Admits State.last at admits
  split at admits
  · cases found : state.ahead? with
    | none =>
      rw [found] at admits
      exact admits
    | some ahead =>
      rw [found] at admits
      exact admits.of_next (Nat.le_refl _) found
  · exact admits

/-- What can still be met depends on the current token only. -/
theorem State.admits_congr (same : later.lexeme = state.lexeme) :
    later.Admits position ↔ state.Admits position := by
  rw [Admits, Admits, last, last, token, token, ahead?, ahead?, same]

namespace Parse

/-! ## Moving on -/

/-- Judging a token fails whatever has been read before, or notes at most something that only
scripts may hold. -/
theorem judge_cases (token : Token) (scope : Scope) :
    (∀ state, ∃ error, judge token scope state = .error error) ∨ ∃ noted, ∀ state,
      judge token scope state = .ok ((), { state with scriptOnly := state.scriptOnly || noted }) := by
  have guarded (condition : Bool) {step : Parse Unit} (passes : ∃ noted, ∀ state,
      step scope state = .ok ((), { state with scriptOnly := state.scriptOnly || noted })) :
      (∀ state, ∃ error, (require condition >>= fun _ => step) scope state = .error error) ∨
      ∃ noted, ∀ state, (require condition >>= fun _ => step) scope state =
        .ok ((), { state with scriptOnly := state.scriptOnly || noted }) := by
    cases condition with
    | false => exact .inl fun state => ⟨_, rfl⟩
    | true => exact .inr passes
  have plain : ∃ noted, ∀ state, (pure () : Parse Unit) scope state =
      .ok ((), { state with scriptOnly := state.scriptOnly || noted }) :=
    ⟨false, fun state => by rw [Bool.or_false]; rfl⟩
  have noting : ∃ noted, ∀ state, noteScriptOnly scope state =
      .ok ((), { state with scriptOnly := state.scriptOnly || noted }) :=
    ⟨true, fun state => by rw [Bool.or_true]; rfl⟩
  have unreserved (text : String) := guarded (!scope.reserves text) plain
  simp only [bind_pure_unit] at unreserved
  unfold judge
  split
  · exact guarded (!scope.strict) noting
  · exact guarded (!scope.strict) noting
  · exact unreserved _
  · exact unreserved _
  · exact .inr plain

/-- What a reading is when it has come to a token, with the trivia in front of it. -/
def arrived (trivia : Trivia) (lexeme : Lexeme) (opened finished : Nat) (noted : Bool)
    (state : State) : State :=
  { state with
    lexeme := lexeme
    opened := opened
    newline := trivia.newline
    finished := finished
    scriptOnly := state.scriptOnly || noted || trivia.document?.isSome }

/-- A token that may stand in a scope: nothing but what only scripts may hold is noted of it. -/
def Noted (scope : Scope) (lexeme : Lexeme) (noted : Bool) : Prop :=
  ∀ state, judge lexeme.token scope state =
    .ok ((), { state with scriptOnly := state.scriptOnly || noted })

/-- Coming to a token that was found means that it may stand in the scope; the state is told by
the token, by what is noted of it and by the trivia in front. -/
theorem of_arrive {scope : Scope} {start : Cursor} {opened finished : Nat} {answer : Unit}
    (read : arrive trivia start opened finished scope state = .ok (answer, later)) :
    ∃ lexeme noted, Lexeme.at? start = some lexeme ∧ lexeme.start = start ∧
      Noted scope lexeme noted ∧ later = arrived trivia lexeme opened finished noted state := by
  obtain ⟨lexeme, _, ran, others⟩ := exists_of_bind read
  obtain ⟨found, rfl⟩ := of_demand ran
  obtain ⟨_, _, judged, last⟩ := exists_of_bind others
  rcases judge_cases lexeme.token scope with fails | ⟨noted, passes⟩
  · obtain ⟨error, failed⟩ := fails state
    cases failed.symm.trans judged
  · cases (passes state).symm.trans judged
    cases last
    exact ⟨lexeme, noted, found, Lexeme.start_of_at? found, passes, rfl⟩

/-- Coming to a token succeeds where it is found and may stand in the scope, and this is the state
that it leads to. -/
theorem arrive_eq {scope : Scope} {start : Cursor} {noted : Bool} (opened finished : Nat)
    (found : Lexeme.at? start = some lexeme) (judged : Noted scope lexeme noted) :
    arrive trivia start opened finished scope state =
      .ok ((), arrived trivia lexeme opened finished noted state) := by
  rw [arrive, found]
  change (judge lexeme.token scope state >>= fun answer => _) = _
  rw [judged]
  rfl

/-- Moving on comes to the next token behind the trivia at a place, as `arrived` spells it out. -/
theorem of_load {scope : Scope} {answer : Unit}
    (loaded : load place scope state = .ok (answer, later)) :
    ∃ trivia lexeme noted, place.next? = some (trivia, lexeme) ∧ Noted scope lexeme noted ∧
      later = arrived trivia lexeme (trivia.document?.getD lexeme.start.position) place.position noted
        state := by
  obtain ⟨⟨trivia, start⟩, _, ran, others⟩ := exists_of_bind loaded
  obtain ⟨walked, rfl⟩ := of_demand ran
  obtain ⟨lexeme, noted, found, rfl, judged, rfl⟩ := of_arrive others
  exact ⟨trivia, lexeme, noted, Cursor.next?_eq_some_iff.mpr ⟨walked, found⟩, judged, rfl⟩

/-- Moving on to a token that is found behind a place. -/
theorem load_eq {scope : Scope} {noted : Bool} (found : place.next? = some (trivia, lexeme))
    (judged : Noted scope lexeme noted) :
    load place scope state = .ok ((), arrived trivia lexeme
      (trivia.document?.getD lexeme.start.position) place.position noted state) := by
  obtain ⟨walked, found⟩ := Cursor.next?_eq_some_iff.mp found
  rw [load, walked]
  exact arrive_eq _ _ found judged

end Parse

end Script

namespace Embedded

/-- A word is no constructor's, and none is made of it when it is renamed. -/
def namesNoConstructor (rename : String → String) (run : List Char) : Bool :=
  String.ofList run != "constructor" && rename (String.ofList run) != "constructor"

namespace Exchange

variable {exchange : Exchange} {state other later : State} {place placeToo : Cursor} {scope : Scope}
  {answer : Unit}

/-! ## Words -/

/-- A word that is exchanged, at its position. -/
structure Word (exchange : Exchange) where
  position : Nat
  run : List Char
  starts : exchange.StartsAt position run

namespace Word

/-- Where the word stands in the text. -/
def span (word : exchange.Word) : Span :=
  ⟨word.position, word.position + weigh Char.utf8Size word.run⟩

/-- The word may be the key of a class member: it names no constructor, in neither of the texts. -/
def asKey (word : exchange.Word) : Bool :=
  namesNoConstructor exchange.rename word.run

/-- The word stands at one of some spots. -/
def In (word : exchange.Word) (spots : Bool → List Span) : Prop := word.span ∈ spots word.asKey

end Word

/-! ## Going on -/

/-- The reading stands at a place of the text. Its token counts as opened there, or where a comment
in front of it starts. -/
def Stands (exchange : Exchange) (state : State) : Prop :=
  ∃ base, exchange.Holds base ∧ base.Opens state.opened state.lexeme.start

/-- The start of the current token lies in a text with the words that are exchanged, since the
place that it counts as opened at does. -/
theorem Stands.holds (stands : exchange.Stands state) : exchange.Holds state.lexeme.start := by
  obtain ⟨base, holds, opens⟩ := stands
  exact holds.leads opens.leads

/-- What holds of a reading that has gone on in the text: it still stands there, it meets no word that
it could not have met before, and if it can see what the grammar may look at then so it could before. -/
structure Onward (exchange : Exchange) (state later : State) : Prop where
  stands : exchange.Stands state → exchange.Stands later
  admits : ∀ position, later.Admits position → state.Admits position
  informed : later.Informed → state.Informed

/-- A reading that has not moved has gone on in all that is asked of it. -/
theorem Onward.refl (state : State) : exchange.Onward state state := ⟨id, fun _ => id, id⟩

/-- Going on twice is going on: words that can still be met later could be met at each place
before. -/
theorem Onward.trans {between : State} (first : exchange.Onward state between)
    (second : exchange.Onward between later) : exchange.Onward state later where
  stands := second.stands ∘ first.stands
  admits position := first.admits position ∘ second.admits position
  informed := first.informed ∘ second.informed

/-- A change that leaves the current token alone, and where it counts as opened, goes on. -/
theorem Onward.of_same (lexeme : later.lexeme = state.lexeme) (opened : later.opened = state.opened) :
    exchange.Onward state later where
  stands := by
    rw [Stands, Stands, lexeme, opened]
    exact id
  admits position := (State.admits_congr lexeme).mp
  informed := by
    rw [State.Informed, State.Informed, State.token, State.token, State.ahead?, State.ahead?, lexeme]
    exact id

/-- Moving on goes on in the text. Only the next token may be gone to when the grammar may have looked
at it. -/
theorem onward_of_load (leads : state.lexeme.start.Leads place)
    (behind : state.lexeme.rest.position ≤ place.position)
    (next : state.token.looksAhead = true → place = state.lexeme.rest)
    (loaded : Parse.load place scope state = .ok (answer, later)) : exchange.Onward state later := by
  obtain ⟨trivia, lexeme, noted, found, -, rfl⟩ := Parse.of_load loaded
  refine ⟨fun stands => ?_, fun position admits => ?_, fun _ looks => ?_⟩
  · refine ⟨place, stands.holds.leads leads, ?_⟩
    exact (Cursor.passes_trivia (Cursor.next?_eq_some_iff.mp found).1).opens
  · have here : lexeme.Admits position := admits.current
    cases looks : state.token.looksAhead with
    | false =>
      rw [State.Admits, State.last_of_looks looks]
      exact here.of_next behind found
    | true =>
      rw [next looks] at found
      rwa [State.Admits, State.last_of_ahead found looks]
  · rw [next looks] at found
    rw [State.ahead?, found]
    rfl

/-! ## Side by side -/

/-- What two readings have noted on their way is the same. -/
structure NotedAlike (state other : State) : Prop where
  scriptOnly : other.scriptOnly = state.scriptOnly
  isModule : other.isModule = state.isModule
  declared : other.declared = state.declared

/-- Two readings stand at tokens that belong together, and words that are exchanged are met only where
the reading of the text still admits them. -/
structure Beside (exchange : Exchange) (state other : State) : Prop extends
    NotedAlike state other where
  twins : exchange.Twins state.lexeme other.lexeme
  finished : exchange.Meets state.finished other.finished
  newline : other.newline = state.newline
  quiet : ∀ word : exchange.Word, state.lexeme.start.position ≤ word.position →
    state.Admits word.position

/-- Two readings stay side by side when only what has been noted changes, in the same way for both. -/
theorem Beside.of_same {state' other' : State} (beside : exchange.Beside state other)
    (lexeme : state'.lexeme = state.lexeme) (lexemeToo : other'.lexeme = other.lexeme)
    (finished : state'.finished = state.finished) (finishedToo : other'.finished = other.finished)
    (newline : other'.newline = state'.newline) (noted : NotedAlike state' other') :
    exchange.Beside state' other' where
  toNotedAlike := noted
  twins := by
    rw [lexeme, lexemeToo]
    exact beside.twins
  finished := by
    rw [finished, finishedToo]
    exact beside.finished
  newline := newline
  quiet word behind := (State.admits_congr lexeme).mpr (beside.quiet word (lexeme ▸ behind))

/-- Readings that stand side by side can both look at the next token, if one of them can. -/
theorem Beside.exists_ahead {trivia : Trivia} {lexeme : Lexeme} (beside : exchange.Beside state other)
    (found : state.ahead? = some (trivia, lexeme)) (looks : state.token.looksAhead = true) :
    ∃ triviaToo twin, other.ahead? = some (triviaToo, twin) ∧ triviaToo.Agrees trivia ∧
      exchange.Twins lexeme twin := by
  refine exists_next beside.twins.rest found fun position run starts later => ?_
  have start := state.lexeme.le_rest
  have admits := beside.quiet ⟨position, run, starts⟩ (Nat.le_trans start later)
  rwa [State.Admits, State.last_of_ahead found looks] at admits

/-- The same is noted of tokens that belong together: they are the same, or strings without old
escapes. -/
theorem noted_of_twins {lexeme twin : Lexeme} {noted : Bool} (twins : exchange.Twins lexeme twin)
    (judged : Parse.Noted scope lexeme noted) : Parse.Noted scope twin noted := by
  intro state
  cases twins.written with
  | same token _ => rw [token, judged]
  | string _ token tokenToo =>
    rw [tokenToo, ← judged, token]
    rfl

/-- Readings that come to tokens that belong together stand side by side, wherever they have stood. -/
theorem beside_arrived {trivia triviaToo : Trivia} {lexeme twin : Lexeme} {added : Bool}
    {opened openedToo finished finishedToo : Nat} (noted : NotedAlike state other)
    (agrees : triviaToo.Agrees trivia) (twins : exchange.Twins lexeme twin)
    (meets : exchange.Meets finished finishedToo)
    (quiet : ∀ word : exchange.Word, lexeme.start.position ≤ word.position →
      (Parse.arrived trivia lexeme opened finished added state).Admits word.position) :
    exchange.Beside (Parse.arrived trivia lexeme opened finished added state)
      (Parse.arrived triviaToo twin openedToo finishedToo added other) where
  twins := twins
  finished := meets
  newline := agrees.newline
  scriptOnly := by simp only [Parse.arrived, noted.scriptOnly, agrees.document]
  isModule := noted.isModule
  declared := noted.declared
  quiet := quiet

/-- Moving on to places that belong together leaves two readings side by side, wherever they have
stood. -/
theorem beside_of_load (noted : NotedAlike state other) (joins : exchange.Joins place placeToo)
    (loaded : Parse.load place scope state = .ok (answer, later))
    (quiet : ∀ word : exchange.Word, place.position ≤ word.position → later.Admits word.position) :
    ∃ otherLater, Parse.load placeToo scope other = .ok ((), otherLater) ∧
      exchange.Beside later otherLater := by
  obtain ⟨trivia, lexeme, added, found, judged, rfl⟩ := Parse.of_load loaded
  obtain ⟨triviaToo, twin, foundToo, agrees, twins⟩ := exists_next joins found
    fun position run starts behind => (quiet ⟨position, run, starts⟩ behind).current
  refine ⟨_, Parse.load_eq foundToo (noted_of_twins twins judged), ?_⟩
  have start := Cursor.le_of_next? found
  exact beside_arrived noted agrees twins joins.meets
    fun word behind => quiet word (Nat.le_trans start behind)

end Exchange

end Embedded

end PropertyMangling
