import PropertyMangling.Proofs.Script.Trivia
/-!
# Where no program starts

The line of an interpreter stands at the very start of a text. Its mark is no
token of the language: behind the start, a number sign is read as the start of
a private name, and the exclamation mark behind it is none.
-/
namespace PropertyMangling.Script.Parse

variable {α β : Type} {scope : Scope} {state : State}

/-- A step that fails at a place. -/
def Fails (step : Parse α) (scope : Scope) (state : State) : Prop :=
  ∃ error, step scope state = .error error

/-- A step that only looks at a place, and answers. -/
def Sees (step : Parse α) (scope : Scope) (state : State) (answer : α) : Prop :=
  step scope state = .ok (answer, state)

/-- What fails first makes the whole fail, whatever would have followed it. -/
theorem Fails.bind {step : Parse α} (fails : Fails step scope state) (next : α → Parse β) :
    Fails (step >>= next) scope state := by
  obtain ⟨error, failed⟩ := fails
  refine ⟨error, ?_⟩
  change (step scope state >>= fun answer => next answer.1 scope answer.2) = _
  rw [failed]
  rfl

/-- What fails behind a step that succeeds makes the whole fail. -/
theorem Fails.behind {step : Parse α} {answer : α} {later : State} {next : α → Parse β}
    (succeeds : step scope state = .ok (answer, later)) (fails : Fails (next answer) scope later) :
    Fails (step >>= next) scope state := by
  obtain ⟨error, failed⟩ := fails
  refine ⟨error, ?_⟩
  change (step scope state >>= fun answer => next answer.1 scope answer.2) = _
  rw [succeeds]
  exact failed

/-- What fails in a changed scope fails when the scope is changed for it. -/
theorem Fails.within {step : Parse α} {change : Scope → Scope}
    (fails : Fails step (change scope) state) : Fails (within change step) scope state :=
  fails

/-- What fails behind a look makes the whole fail, and where the look stood the failure is
found. -/
theorem Sees.fails {step : Parse α} {answer : α} {next : α → Parse β}
    (sees : Sees step scope state answer) (fails : Fails (next answer) scope state) :
    Fails (step >>= next) scope state :=
  Fails.behind sees fails

/-- A look behind a look is a look: neither changes the state. -/
theorem Sees.bind {step : Parse α} {answer : α} {next : α → Parse β} {last : β}
    (sees : Sees step scope state answer) (behind : Sees (next answer) scope state last) :
    Sees (step >>= next) scope state last := by
  change (step scope state >>= fun answer => next answer.1 scope answer.2) = _
  rw [sees]
  exact behind

/-- A look whose answer is not known, behind another look, answers with something and changes
nothing. -/
theorem Sees.exists_bind {step : Parse α} {answer : α} {next : α → Parse β}
    (sees : Sees step scope state answer) (behind : ∃ last, Sees (next answer) scope state last) :
    ∃ last, Sees (step >>= next) scope state last :=
  behind.imp fun _ => sees.bind

/-- A step that only answers is a look. -/
theorem sees_pure (answer : α) : Sees (pure answer) scope state answer := rfl

/-- Reading the state is a look at it. -/
theorem sees_get : Sees get scope state state := rfl

/-- The step that fails does so everywhere. -/
theorem fails_fail : Fails (fail : Parse α) scope state := ⟨_, rfl⟩

/-- Asking for the current token is a look at it. -/
theorem sees_token : Sees token scope state state.token := rfl

/-- Asking where the current token starts is a look at the place it counts as opened at. -/
theorem sees_position : Sees position scope state state.opened := rfl

/-- Asking for the scope is a look at it. -/
theorem sees_scope : Sees read scope state scope := rfl

/-- Looking at the token behind the current one changes nothing, whether there is one or not. -/
theorem sees_peek (scope : Scope) (state : State) :
    ∃ next?, Sees peek scope state next? :=
  ⟨_, rfl⟩

/-- Asking whether a word follows is a look, whatever it answers. -/
theorem sees_isFollowedBy (word : String) (scope : Scope) (state : State) :
    ∃ follows, Sees (isFollowedBy word) scope state follows := by
  obtain ⟨next?, looked⟩ := sees_peek scope state
  apply looked.exists_bind
  split <;> exact ⟨_, rfl⟩

/-- Asking whether an import is declared here is a look, whatever it answers. -/
theorem sees_opensImport (scope : Scope) (state : State) :
    ∃ opens, Sees opensImport scope state opens := by
  obtain ⟨next?, looked⟩ := sees_peek scope state
  apply looked.exists_bind
  split <;> exact ⟨_, rfl⟩

/-- The current token is the mark of an interpreter's line, cut behind its number sign. -/
structure AtMark (state : State) : Prop where
  token : state.token = .symbol "#"
  behind : ∃ rest, state.lexeme.rest.text = '!' :: rest

/-- A token that starts with an exclamation mark is a symbol. -/
theorem symbol_of_exclamation {rest behind : List Char} {found : Token}
    (wasRead : Lexer.token ('!' :: rest) = some (found, behind)) : ∃ text, found = .symbol text := by
  change Lexer.symbol ('!' :: rest) = _ at wasRead
  obtain ⟨characters, _, same⟩ := Option.bind_eq_some_iff.mp wasRead
  obtain ⟨rfl, -⟩ := Prod.mk.inj (Option.some.inj same)
  exact ⟨_, rfl⟩

/-- A symbol may stand in every scope, so that the reading arrives at one wherever it is found. -/
theorem arrive_symbol {start : Cursor} {lexeme : Lexeme} (found : Lexeme.at? start = some lexeme)
    {text : String} (symbol : lexeme.token = .symbol text) (trivia : Trivia)
    (opened finished : Nat) (scope : Scope) (state : State) :
    ∃ next, arrive trivia start opened finished scope state = .ok ((), next) ∧
      next.lexeme = lexeme := by
  have judged : judge lexeme.token scope state = .ok ((), state) := by
    rw [symbol]
    rfl
  rw [arrive, found]
  change ∃ next, (judge lexeme.token scope state >>= fun answer => _) = _ ∧ _
  rw [judged]
  exact ⟨_, rfl, rfl⟩

/-- The token that is found at a place starts at that place. -/
theorem Lexeme.start_of_at? {start : Cursor} {lexeme : Lexeme}
    (found : Lexeme.at? start = some lexeme) : lexeme.start = start := by
  unfold Lexeme.at? at found
  split at found
  · rw [← Option.some.inj found]
  · cases found

section Mark

variable (atMark : AtMark state)
include atMark

/-- At the mark no word is seen, since its token is a symbol. -/
theorem sees_isWord (text : String) : Sees (isWord text) scope state false := by
  refine sees_get.bind ?_
  rw [atMark.token]
  exact sees_pure false

/-- Behind the number sign the text goes on with a symbol, if with any token. -/
theorem advance_from_mark (scope : Scope) : Fails advance scope state ∨
    ∃ next text, advance scope state = .ok ((), next) ∧ next.token = .symbol text := by
  obtain ⟨rest, text⟩ := atMark.behind
  have moves : advance scope state =
      arrive { newline := false } state.lexeme.rest state.lexeme.rest.position
        state.lexeme.rest.position scope state := by
    change load state.lexeme.rest scope state = _
    rw [load, Cursor.trivia_stops text (by decide) (by decide) false]
    rfl
  cases found : Lexeme.at? state.lexeme.rest with
  | none =>
    left
    refine ⟨⟨state.opened⟩, ?_⟩
    rw [moves, arrive, found]
    rfl
  | some lexeme =>
    right
    have place : lexeme.start = state.lexeme.rest := Lexeme.start_of_at? found
    obtain ⟨behind, wasRead, -⟩ := lexeme.wasRead
    rw [place, text] at wasRead
    obtain ⟨symbol, same⟩ := symbol_of_exclamation wasRead
    obtain ⟨next, moved, rfl⟩ := arrive_symbol found same { newline := false }
      state.lexeme.rest.position state.lexeme.rest.position scope state
    exact ⟨next, symbol, moves.trans moved, same⟩

/-- No primary expression starts at the mark: its number sign asks for a private name, and the
exclamation mark behind it is none. -/
theorem primary_fails (self : Goal → Parse Node) (canCall : Bool) :
    Fails (primary self canCall) scope state := by
  refine sees_position.fails (sees_token.fails ?_)
  rw [atMark.token]
  rcases advance_from_mark atMark scope with fails | ⟨next, text, moved, symbol⟩
  · exact fails.bind _
  · have noName : Fails anyName scope next := by
      refine sees_token.fails ?_
      rw [symbol]
      exact fails_fail
    exact Fails.behind moved (noName.bind _)

/-- No subject starts at the mark, since it would start with a primary expression. -/
theorem subject_fails (self : Goal → Parse Node) (canCall : Bool) :
    Fails (subject self canCall none) scope state := by
  exact sees_position.fails ((primary_fails atMark self canCall).bind _)

/-- No operand starts at the mark: there is no operator, no increment and no word to wait for, so
that a subject would have to start there. -/
theorem operand_fails (self : Goal → Parse Node) : Fails (operand self none) scope state := by
  have noSign : Sees unaryOp? scope state none := by
    refine sees_token.bind ?_
    rw [atMark.token]
    exact sees_pure none
  have noUpdate : Sees updateOp? scope state none := by
    refine sees_token.bind ?_
    rw [atMark.token]
    exact sees_pure none
  refine noSign.fails (noUpdate.fails ((sees_isWord atMark "await").fails ?_))
  exact Fails.bind (Fails.bind (subject_fails atMark self true) _) _

/-- No operands are joined at the mark, in any number of levels. The induction goes down to the
first operand. -/
theorem joined_fails (self : Goal → Parse Node) (levels : Nat) :
    Fails (joined self none levels) scope state := by
  induction levels with
  | zero => exact (operand_fails atMark self).bind _
  | succ levels inductionHypothesis => exact inductionHypothesis.bind _

/-- No assignment starts at the mark: nothing is yielded and no arrow function is found, so that
an operand would have to start there. -/
theorem assignment_fails (self : Goal → Parse Node) : Fails (assignment self) scope state := by
  have noArrow : Sees (arrowOrHead self) scope state (.inr none) := by
    refine sees_position.bind (sees_token.bind ?_)
    rw [atMark.token]
    exact sees_pure _
  refine sees_position.fails (sees_scope.fails ((sees_isWord atMark "yield").fails ?_))
  rw [Bool.and_false]
  exact noArrow.fails (Fails.bind (Fails.bind (joined_fails atMark self 10) _) _)

/-- No statement starts at the mark, since the only one that starts with such a symbol is an
expression. -/
theorem statement_fails (self : Goal → Parse Node)
    (expressionFails : ∀ scope, Fails (self .expression) scope state) :
    Fails (statement self) scope state := by
  refine sees_token.fails ?_
  rw [atMark.token]
  exact sees_position.fails (Fails.bind (Fails.within (expressionFails scope.enclosed)) _)

/-- Nothing that may stand in a list of statements starts at the mark: no word opens a declaration
there. -/
theorem listed_fails (self : Goal → Parse Node)
    (expressionFails : ∀ scope, Fails (self .expression) scope state) :
    Fails (listed self) scope state := by
  have noVariables : Sees variableKind? scope state none :=
    (sees_isWord atMark "var").bind ((sees_isWord atMark "const").bind
      ((sees_isWord atMark "let").bind (sees_pure none)))
  have noFunction : Sees opensFunction scope state false := by
    obtain ⟨follows, looked⟩ := sees_isFollowedBy "function" scope state
    exact (sees_isWord atMark "function").bind ((sees_isWord atMark "async").bind
      (looked.bind (sees_pure _)))
  exact noVariables.fails (noFunction.fails ((sees_isWord atMark "class").fails
    (statement_fails atMark self expressionFails)))

/-- Whatever the number of levels, neither a statement nor an expression is read at the mark. -/
theorem reach_fails (levels : Nat) (scope : Scope) :
    Fails (reach levels .assignment) scope state ∧ Fails (reach levels .expression) scope state ∧
      Fails (reach levels .listed) scope state := by
  induction levels generalizing scope with
  | zero => exact ⟨fails_fail, fails_fail, fails_fail⟩
  | succ levels inductionHypothesis =>
    refine ⟨assignment_fails atMark _, ?_, ?_⟩
    · exact (inductionHypothesis scope).1.bind _
    · exact listed_fails atMark _ fun scope => (inductionHypothesis scope).2.1

/-- No item of a program is read at the mark, in any number of levels. Words that open an import
or an export are not seen there, and neither is the end of the text. -/
theorem item_fails (levels : Nat) : Fails (item (reach levels)) scope state := by
  refine sees_token.fails ?_
  rw [atMark.token]
  refine sees_get.fails ?_
  generalize inner : (if state.declared then Scope.ofModule else id) scope = within
  obtain ⟨opens, looked⟩ := sees_opensImport within state
  have fails : Fails (reach levels .listed) within state := (reach_fails atMark levels within).2.2
  refine Fails.within ?_
  rw [inner]
  exact (sees_isWord atMark "import").fails (looked.fails ((sees_isWord atMark "export").fails
    ((sees_isWord atMark "await").fails (fails.bind _))))

end Mark

/-- No program starts with the mark of an interpreter's line behind other text. -/
theorem items_fail (trivia : Trivia) (first : Cursor) {rest : List Char}
    (mark : first.text = '#' :: '!' :: rest) (levels : Nat) (scope : Scope) (state : State) :
    Fails (items trivia first levels) scope state := by
  cases found : Lexeme.at? first with
  | none =>
    refine Fails.bind ?_ _
    rw [arrive, found]
    exact fails_fail.bind _
  | some lexeme =>
    have start : lexeme.start = first := Lexeme.start_of_at? found
    obtain ⟨behind, wasRead, place⟩ := lexeme.wasRead
    have cut : Lexer.token ('#' :: '!' :: rest) = some (.symbol "#", '!' :: rest) := rfl
    rw [start, mark, cut] at wasRead
    obtain ⟨symbol, rfl⟩ := Prod.mk.inj (Option.some.inj wasRead)
    obtain ⟨next, moved, rfl⟩ := arrive_symbol found symbol.symm trivia 1 1 scope state
    have atMark : AtMark next := by
      refine ⟨symbol.symm, rest, ?_⟩
      rw [place, start, Cursor.skipTo, Cursor.skip, mark]
      simp
    exact Fails.behind moved (Fails.bind (Fails.bind (item_fails atMark levels) _) _)

end PropertyMangling.Script.Parse
