import PropertyMangling.Proofs.Script.Ends
import PropertyMangling.Proofs.Script.Written
import PropertyMangling.Script.Parsing
/-!
# What the grammar reads

Every node that a reading step answers with opens firmly when the nodes of the
steps that it reaches do. The circle of the steps is closed by their levels.
-/
namespace PropertyMangling.Script

/-- What is asked of the node that a goal is reached with. -/
def Goal.asks : Goal → Node → Prop
  | .statement | .listed => Node.IsTidy
  | _ => Node.IsOpening

namespace Parse

variable {α β : Type} {property : α → Prop} {wanted : β → Prop}

/-- Every answer of a step has a property, whatever surrounds the place and stands there. -/
def Yields (property : α → Prop) (step : Parse α) : Prop :=
  ∀ scope state answer later, step scope state = .ok (answer, later) → property answer

/-- What a step answers with is what the steps behind it start from. -/
theorem Yields.bind {step : Parse α} {next : α → Parse β} (first : Yields property step)
    (behind : ∀ answer, property answer → Yields wanted (next answer)) :
    Yields wanted (step >>= next) := by
  intro scope state last later read
  change (step scope state >>= fun answer => next answer.1 scope answer.2) = _ at read
  cases made : step scope state with
  | error error =>
    rw [made] at read
    cases read
  | ok answer =>
    rw [made] at read
    exact behind answer.1 (first scope state answer.1 answer.2 made) scope answer.2 last later read

/-- A step whose answer does not matter in front of steps that all have the property. Most steps
pass a symbol first, and of those nothing has to be known. -/
theorem yields_behind {step : Parse α} {next : α → Parse β}
    (behind : ∀ answer, Yields wanted (next answer)) : Yields wanted (step >>= next) := by
  have anything : Yields (fun _ => True) step := fun _ _ _ _ _ => trivial
  exact anything.bind fun answer _ => behind answer

/-- A step that only answers has the property when its answer has it; the place it is run at plays
no part. -/
theorem yields_pure {answer : α} (holds : property answer) : Yields property (pure answer) := by
  rintro scope state _ later ⟨⟩
  exact holds

/-- A step that fails never answers, so that whatever is asked of its answers holds of them. -/
theorem yields_fail : Yields property fail := by
  rintro scope state answer later ⟨⟩

/-- Running a step in a changed scope changes none of its possible answers, since the property is
asked for in every scope. -/
theorem Yields.within {step : Parse α} (yields : Yields property step) (change : Scope → Scope) :
    Yields property (within change step) :=
  fun scope => yields (change scope)

/-- A demand answers with the value that is there or fails, so that only a value that is there has
to be looked at. -/
theorem yields_demand {answer? : Option α} (holds : ∀ answer ∈ answer?, property answer) :
    Yields property (demand answer?) := by
  cases answer? with
  | none => exact yields_fail
  | some answer => exact yields_pure (holds answer rfl)

/-- A bounded repetition keeps what each of its rounds keeps. The induction is on the bound; a
round that finds nothing more leaves the value as it is. -/
theorem yields_foldSteps {step : α → Parse (Option α)}
    (each : ∀ value, property value → Yields (fun next? => ∀ next ∈ next?, property next) (step value))
    (count : Nat) {value : α} (holds : property value) :
    Yields property (foldSteps step count value) := by
  induction count generalizing value with
  | zero => exact yields_fail
  | succ count inductionHypothesis =>
    refine (each value holds).bind ?_
    intro next? followed
    cases next? with
    | none => exact yields_pure holds
    | some next => exact inductionHypothesis (followed next rfl)

/-- A repetition keeps what each of its rounds keeps, whatever bound the text sets to the number
of rounds. -/
theorem yields_fold {step : α → Parse (Option α)} {value : α}
    (each : ∀ value, property value → Yields (fun next? => ∀ next ∈ next?, property next) (step value))
    (holds : property value) : Yields property (fold step value) :=
  yields_behind fun _ => yields_foldSteps each _ holds

/-- The current token is the token of a lexeme, so that what follows it may rely on its being one
that the lexer reads from some text. -/
theorem yields_token {next : Token → Parse β}
    (behind : ∀ lexeme : Lexeme, Yields wanted (next lexeme.token)) :
    Yields wanted (token >>= next) :=
  fun scope state => behind state.lexeme scope state

section Names

/-- A name in any place of a name opens firmly: it is a word that the lexer reads, or is fixed by
the grammar, and no word opens with a blank. -/
theorem anyName_opens : Yields Name.IsOpening anyName := by
  refine yields_token fun lexeme => ?_
  split
  · next text spelling word =>
    exact yields_behind fun _ => yields_behind fun _ => yields_pure (Lexeme.opens_word word)
  · exact yields_fail

/-- A name that may be bound opens firmly. The scope decides which words it may be, not how they
are spelled. -/
theorem freeName_opens : Yields Name.IsOpening freeName := by
  refine yields_behind fun current => ?_
  split
  · refine yields_behind fun scope => ?_
    have ends : ∀ condition, Yields Name.IsOpening (require condition >>= fun _ => anyName) :=
      fun _ => yields_behind fun _ => anyName_opens
    dsimp only
    split
    · refine yields_behind fun _ => yields_behind fun _ => yields_behind fun _ => ?_
      split
      · exact yields_behind fun _ => ends _
      · exact ends _
    · exact ends _
  · exact yields_fail

/-- The name of a variable opens firmly, as any free name that the grammar reads does. -/
theorem variableName_opens : Yields Name.IsOpening variableName :=
  yields_behind fun _ => yields_behind fun _ => freeName_opens

/-- The name of a binding opens firmly: the demands that are made of it refuse some names and
change none. -/
theorem bindingName_opens : Yields Name.IsOpening bindingName := by
  refine freeName_opens.bind fun name opens => ?_
  refine yields_behind fun scope => yields_behind fun _ => yields_behind fun _ => ?_
  dsimp only
  split
  · exact yields_behind fun _ => yields_pure opens
  · exact yields_pure opens

end Names

section Literals

/-- A literal that is told by the token and its source, and passed. -/
theorem yields_passed {scope : Scope} {state later : State} {literal answer : α}
    (read : (advance >>= fun _ => pure literal) scope state = .ok (answer, later)) :
    answer = literal := by
  have passed : Yields (fun answer => answer = literal) (advance >>= fun _ => pure literal) :=
    yields_behind fun _ => yields_pure rfl
  exact passed scope state answer later read

/-- A number opens firmly. Its print starts with a digit, a point or the text of its source, and
the token it was read as vouches for that text. -/
theorem numberLiteral_opens : Yields Node.IsOpening numberLiteral := by
  intro scope state node later read
  rw [numberLiteral, bind_token, State.token] at read
  cases current : state.lexeme.token with
  | number value legacy =>
    rw [current] at read
    obtain rfl : node = .number _ value state.lexeme.source := yields_passed read
    exact opens_printNumber fun _ => Lexeme.opens_number current
  | bigint value =>
    rw [current] at read
    obtain rfl : node = .bigint value state.lexeme.source := yields_passed read
    exact opens_printBigint value _
  | _ =>
    rw [current] at read
    cases read

/-- A string opens with a quotation mark, one of its own choice or the one of its source, which is
a token that the lexer reads. -/
theorem quoted_opens :
    Yields (fun literal => opensText (literal.print .compact) = true) quoted := by
  intro scope state literal later read
  rw [quoted, bind_token, State.token] at read
  cases current : state.lexeme.token with
  | string value legacy =>
    rw [current] at read
    obtain rfl : literal = ⟨_, value, some state.lexeme.source⟩ := yields_passed read
    refine opens_quoted ?_
    rintro _ ⟨⟩ filled
    exact Lexeme.opens_string current filled
  | _ =>
    rw [current] at read
    cases read

/-- A regular expression opens with its slash, since what the lexer reads as its text starts
there. -/
theorem regexLiteral_opens : Yields Node.IsOpening regexLiteral := by
  refine yields_behind fun state => ?_
  have found : Yields (fun found => opensText found.1 = true)
      (demand (Lexer.regex state.lexeme.start.text)) :=
    yields_demand fun found read => regex_opens read
  exact found.bind fun _ opens => yields_behind fun _ => yields_pure opens

end Literals

section Patterns

/-- A pattern opens as the expression does that it is read from. -/
theorem opens_toPattern? {binding : Bool} {node pattern : Node} (opens : node.IsOpening)
    (turned : node.toPattern? binding = some pattern) : pattern.IsOpening := by
  cases node with
  | identifier name =>
    obtain rfl := Option.some.inj turned
    exact opens
  | member | privateMember | subscript =>
    simp only [Node.toPattern?] at turned
    split at turned
    · cases turned
    · obtain rfl := Option.some.inj turned
      exact opens
  | paren =>
    simp only [Node.toPattern?] at turned
    split at turned
    · obtain rfl := Option.some.inj turned
      rfl
    · cases turned
  | assign span op? target value =>
    cases op? with
    | none =>
      simp only [Node.toPattern?] at turned
      split at turned
      · cases turned
      · obtain rfl := Option.some.inj turned
        exact opens
    | some op => simp [Node.toPattern?] at turned
  | array =>
    simp only [Node.toPattern?] at turned
    obtain ⟨elements, _, same⟩ := Option.bind_eq_some_iff.mp turned
    obtain rfl := Option.some.inj same
    rfl
  | object =>
    simp only [Node.toPattern?] at turned
    obtain ⟨properties, _, same⟩ := Option.bind_eq_some_iff.mp turned
    obtain rfl := Option.some.inj same
    rfl
  | _ => simp [Node.toPattern?] at turned

/-- The single parameter without parentheses is the name that was read. An arrow over such a
parameter opens as the name does; any other list of parameters is printed in parentheses. -/
theorem opens_parameters {binding trailing : Bool} {items params : List Node}
    (each : ∀ item ∈ items, item.IsOpening)
    (turned : elementsToPattern? binding trailing items = some params)
    (bare : isBareParameter params = true) : firstOpensFirmly params = true := by
  unfold elementsToPattern? at turned
  split at turned
  · obtain rfl := Option.some.inj turned
    cases bare
  · obtain ⟨others, _, same⟩ := Option.bind_eq_some_iff.mp turned
    obtain rfl := Option.some.inj same
    cases bare
  · obtain ⟨target, _, same⟩ := Option.bind_eq_some_iff.mp turned
    split at same
    · obtain rfl := Option.some.inj same
      cases bare
    · cases same
  · obtain ⟨pattern, first, turned⟩ := Option.bind_eq_some_iff.mp turned
    obtain ⟨others, _, same⟩ := Option.bind_eq_some_iff.mp turned
    obtain rfl := Option.some.inj same
    exact opens_toPattern? (each _ List.mem_cons_self) first

/-- Turning a node into the target of an assignment keeps how it opens, and the checks behind it
change nothing. -/
theorem assignmentTarget_opens {node : Node} (opens : node.IsOpening) :
    Yields Node.IsOpening (assignmentTarget node) := by
  refine (yields_demand fun pattern turned => opens_toPattern? opens turned).bind ?_
  exact fun pattern opens => yields_behind fun _ => yields_behind fun _ => yields_pure opens

/-- A simple target is the node that was given, once it is known that it may be assigned to. -/
theorem simpleTarget_opens {node : Node} (opens : node.IsOpening) :
    Yields Node.IsOpening (simpleTarget node) :=
  yields_behind fun _ => yields_behind fun _ => yields_pure opens

end Patterns

/-- Every goal is reached with a node as it is asked for. -/
def Reaches (self : Goal → Parse Node) : Prop := ∀ goal, Yields goal.asks (self goal)

section Values

variable {self : Goal → Parse Node} (reaches : Reaches self)

/-- A binding target is a name, or a pattern in brackets or braces, and each of these opens
firmly. -/
theorem bindingTarget_opens : Yields Node.IsOpening (bindingTarget self) := by
  refine yields_behind fun _ => yields_behind fun isArray => ?_
  split
  · exact yields_behind fun _ => yields_behind fun _ => yields_behind fun _ => yields_pure rfl
  · refine yields_behind fun isObject => ?_
    split
    · exact yields_behind fun _ => yields_behind fun _ => yields_pure rfl
    · exact bindingName_opens.bind fun name opens => yields_pure opens

/-- A function in an expression opens with a word, its own or the one that makes it
asynchronous. -/
theorem functionExpression_opens (isAsync : Bool) :
    Yields Node.IsOpening (functionExpression self isAsync) :=
  yields_behind fun _ => yields_behind fun _ => yields_behind fun _ => yields_behind fun _ =>
    yields_pure rfl

/-- A class in an expression opens with its word, whatever name, parent and members follow. -/
theorem classExpression_opens : Yields Node.IsOpening (classExpression self) :=
  yields_behind fun _ => yields_pure rfl

/-- A construction opens with its word, and so does the meta property that is written with the
same word. -/
theorem newExpression_opens : Yields Node.IsOpening (newExpression self) := by
  refine yields_behind fun _ => yields_behind fun asksTarget => ?_
  split
  · exact yields_behind fun _ => yields_behind fun _ => yields_behind fun _ => yields_pure rfl
  · refine yields_behind fun _ => yields_behind fun isCalled => ?_
    split
    · exact yields_behind fun _ => yields_pure rfl
    · exact yields_pure rfl

/-- The word for the parent class opens firmly, whether a call or a member follows. -/
theorem parentWord_opens (canCall : Bool) : Yields Node.IsOpening (parentWord canCall) := by
  refine yields_behind fun _ => yields_behind fun _ => yields_behind fun _ => ?_
  dsimp only
  split
  · exact yields_behind fun _ => yields_behind fun _ => yields_pure rfl
  · exact yields_behind fun _ => yields_behind fun _ => yields_pure rfl

/-- The word of an import opens firmly as a meta property, as a call with a phase and as the call
itself. -/
theorem importWord_opens (canCall : Bool) : Yields Node.IsOpening (importWord canCall) := by
  refine yields_behind fun _ => yields_behind fun hasPoint => ?_
  split
  · refine yields_behind fun _ => yields_behind fun name => ?_
    split
    · exact yields_pure rfl
    · exact yields_behind fun _ => yields_behind fun _ => yields_behind fun _ => yields_pure rfl
  · exact yields_behind fun _ => yields_behind fun _ => yields_pure rfl

/-- A value that starts with a word opens firmly. The words with a grammar of their own each have
a case; any other word is read as a variable. -/
theorem wordValue_opens (canCall : Bool) (text : String) :
    Yields Node.IsOpening (wordValue self canCall text) := by
  have plain : ∀ word : Word, Yields Node.IsOpening (advance >>= fun _ => pure (.word word)) :=
    fun _ => yields_behind fun _ => yields_pure rfl
  unfold wordValue
  split
  · exact plain _
  · exact plain _
  · exact plain _
  · exact plain _
  · exact functionExpression_opens false
  · exact classExpression_opens
  · exact newExpression_opens
  · exact parentWord_opens canCall
  · exact importWord_opens canCall
  · refine yields_behind fun isAsync => ?_
    split
    · exact yields_behind fun _ => functionExpression_opens true
    · exact variableName_opens.bind fun name opens => yields_pure opens

include reaches in
/-- An argument opens as its expression does; one that is spread opens with its points. -/
theorem argument_opens : Yields Node.IsOpening (argument self) := by
  refine yields_behind fun isSpread => ?_
  split
  · exact yields_behind fun _ => yields_pure rfl
  · exact (reaches .assignment).within _

/-- An arrow function opens with its single parameter, unless something stands in front of it. -/
theorem arrowBody_opens (isAsync : Bool) {params : List Node}
    (opens : isAsync = true ∨ (isBareParameter params = true → firstOpensFirmly params = true)) :
    Yields Node.IsOpening (arrowBody self isAsync params) := by
  have arrow : ∀ body, (Node.arrow isAsync params body).IsOpening := by
    intro body
    rw [Node.IsOpening, Node.opensFirmly, Bool.or_assoc, Bool.or_eq_true]
    refine opens.imp_right fun bareOpens => ?_
    cases bare : isBareParameter params with
    | true => simpa using bareOpens bare
    | false => rfl
  refine yields_behind fun isBlock => ?_
  split
  · exact yields_behind fun _ => yields_behind fun _ => yields_pure (arrow _)
  · exact yields_behind fun _ => yields_pure (arrow _)

/-- The parameters that items are turned into open firmly where they are printed without
parentheses, that is, where they are one bare name. -/
theorem parametersOf_opens {items : List Node} (each : ∀ item ∈ items, item.IsOpening)
    (trailing : Bool) :
    Yields (fun params => isBareParameter params = true → firstOpensFirmly params = true)
      (parametersOf items trailing) := by
  refine (yields_demand fun params turned => opens_parameters each turned).bind ?_
  exact fun params opens => yields_behind fun _ => yields_pure opens

include reaches in
/-- One round of the items in parentheses adds an item that opens firmly to items that do: an
argument, and behind an arrow also the function whose parameters the items so far are. -/
theorem parenStep_opens (list : List Node × Bool) (each : ∀ item ∈ list.1, item.IsOpening) :
    Yields (fun next? => ∀ next ∈ next?, ∀ item ∈ next.1, item.IsOpening)
      (parenStep self list) := by
  have ends : ∀ items : List Node, (∀ item ∈ items, item.IsOpening) →
      Yields (fun next? : Option (List Node × Bool) => ∀ next ∈ next?, ∀ item ∈ next.1, item.IsOpening)
        (isSymbol ")" >>= fun closes => if closes then pure (some (items, false))
          else expect "," >>= fun _ => pure (some (items, true))) := by
    intro items each
    refine yields_behind fun closes => ?_
    split
    · refine yields_pure ?_
      rintro _ ⟨⟩
      exact each
    · refine yields_behind fun _ => yields_pure ?_
      rintro _ ⟨⟩
      exact each
  refine yields_behind fun closes => ?_
  split
  · exact yields_pure (fun _ impossible => nomatch impossible)
  · refine (argument_opens reaches).bind fun first opens => ?_
    have more : ∀ item ∈ first :: list.1, item.IsOpening := List.forall_mem_cons.mpr ⟨opens, each⟩
    refine yields_behind fun isArrow => ?_
    dsimp only
    split
    · have reversed : ∀ item ∈ (first :: list.1).reverse, item.IsOpening :=
        fun item listed => more item (List.mem_reverse.mp listed)
      refine (parametersOf_opens reversed false).bind fun params bareOpens => ?_
      refine (arrowBody_opens false (.inr bareOpens)).bind fun arrow opens => ?_
      exact Yields.bind (yields_pure (List.forall_mem_cons.mpr ⟨opens, more⟩)) ends
    · exact Yields.bind (yields_pure more) ends

include reaches in
/-- Every item between parentheses opens firmly, since each round of reading them adds one that
does. -/
theorem parenItems_open :
    Yields (fun list => ∀ item ∈ list.1, item.IsOpening) (parenItems self) := by
  have items : Yields (fun list => ∀ item ∈ list.1, item.IsOpening)
      (fold (parenStep self) ([], false)) :=
    yields_fold (parenStep_opens reaches) fun _ impossible => nomatch impossible
  refine yields_behind fun _ => (items.within _).bind fun list each => ?_
  exact yields_behind fun _ => yields_pure fun item listed => each item (List.mem_reverse.mp listed)

/-- What the items between parentheses amount to opens with the parenthesis, or is the one
expression in it. -/
theorem parenOf_opens (start : Nat) (items : List Node) :
    Yields Node.IsOpening (parenOf start items) := by
  refine yields_behind fun _ => yields_behind fun span => ?_
  split
  · exact yields_fail
  · exact yields_pure rfl
  · exact yields_pure rfl

/-- A primary expression opens firmly. The case split is on its first token; brackets, braces and
parentheses open with a symbol and the other cases have lemmas of their own. -/
theorem primary_opens (canCall : Bool) : Yields Node.IsOpening (primary self canCall) := by
  refine yields_behind fun start => yields_behind fun current => ?_
  split
  · exact variableName_opens.bind fun name opens => yields_pure opens
  · exact wordValue_opens canCall _
  · exact yields_behind fun _ => yields_pure rfl
  · exact yields_behind fun _ => yields_behind fun _ => yields_pure rfl
  · exact numberLiteral_opens
  · exact numberLiteral_opens
  · exact quoted_opens.bind fun literal opens => yields_pure opens
  · exact yields_behind fun _ => yields_behind fun _ => yields_behind fun _ => parenOf_opens start _
  · exact yields_behind fun _ => yields_behind fun _ => yields_behind fun _ => yields_pure rfl
  · exact yields_behind fun _ => yields_behind fun _ => yields_behind fun _ => yields_behind fun _ =>
      yields_pure rfl
  · exact yields_behind fun _ => yields_pure rfl
  · exact regexLiteral_opens
  · exact regexLiteral_opens
  · exact yields_fail

end Values

section Chains

variable {self : Goal → Parse Node} {head : Head} (opens : head.node.IsOpening)
include opens

/-- A member behind a point opens as the object does that it is a member of. -/
theorem namedMember_opens (optional : Bool) :
    Yields Node.IsOpening (namedMember head optional) := by
  refine yields_behind fun current => ?_
  split
  · exact yields_behind fun _ => yields_behind fun _ => yields_pure opens
  · exact yields_behind fun _ => yields_behind fun _ => yields_pure opens

/-- A member in brackets opens as the object in front of the bracket does. -/
theorem bracketMember_opens (optional : Bool) :
    Yields Node.IsOpening (bracketMember self head optional) :=
  yields_behind fun _ => yields_behind fun _ => yields_behind fun _ => yields_behind fun _ =>
    yields_behind fun _ => yields_behind fun _ => yields_pure opens

/-- A call opens as what is called does; a call of the word for an import was read with that word
in front. -/
theorem callOf_opens (optional : Bool) : Yields Node.IsOpening (callOf self head optional) := by
  refine yields_behind fun items => ?_
  dsimp only
  split
  · exact yields_behind fun _ => yields_behind fun _ => yields_pure opens
  · exact yields_behind fun _ => yields_pure opens

/-- A member or a call opens as the value in front of it. -/
theorem chainStep_opens (canCall : Bool) :
    Yields (fun next? => ∀ next ∈ next?, next.node.IsOpening) (chainStep self canCall head) := by
  have grown : ∀ {node : Node}, node.IsOpening →
      Yields (fun next? : Option Head => ∀ next ∈ next?, next.node.IsOpening)
        (pure (some { head with node := node })) := by
    intro node opens
    refine yields_pure ?_
    rintro _ ⟨⟩
    exact opens
  have stops : Yields (fun next? : Option Head => ∀ next ∈ next?, next.node.IsOpening) (pure none) :=
    yields_pure fun _ impossible => nomatch impossible
  refine yields_behind fun current => ?_
  split
  · exact yields_behind fun _ => (namedMember_opens opens false).bind fun _ => grown
  · exact (bracketMember_opens opens false).bind fun _ => grown
  · split
    · exact (callOf_opens opens false).bind fun _ => grown
    · exact stops
  · refine yields_behind fun isChain => ?_
    split
    · exact stops
    · refine yields_behind fun _ => yields_behind fun _ => yields_behind fun _ =>
        yields_behind fun isBracket => ?_
      split
      · exact (bracketMember_opens opens true).bind fun _ => grown
      · refine yields_behind fun isCall => ?_
        split
        · exact (callOf_opens opens true).bind fun _ => grown
        · exact (namedMember_opens opens true).bind fun _ => grown
  · exact yields_behind fun _ => yields_behind fun _ => grown opens
  · exact stops

end Chains

section Operators

variable {self : Goal → Parse Node} {head? : Option Head}

/-- A subject opens as its head does, which was read before or is read here, since every link of
the chain behind keeps the opening. -/
theorem subject_opens (canCall : Bool) (opens : ∀ head ∈ head?, head.node.IsOpening) :
    Yields Node.IsOpening (subject self canCall head?) := by
  have chain : ∀ head : Head, head.node.IsOpening →
      Yields Node.IsOpening (fold (chainStep self canCall) head >>= fun last => pure last.node) :=
    fun head opens => (yields_fold (fun _ opens => chainStep_opens opens canCall) opens).bind
      fun _ opens => yields_pure opens
  cases head? with
  | some head => exact Yields.bind (yields_pure (opens head rfl)) chain
  | none =>
    refine yields_behind fun start => (primary_opens canCall).bind fun node opens => ?_
    exact Yields.bind (yields_pure opens) chain

/-- An awaited expression opens with its word, and so does the variable of that name where nothing
can be awaited. -/
theorem awaitExpression_opens : Yields Node.IsOpening (awaitExpression self) := by
  refine yields_behind fun scope => anyName_opens.bind fun name opens => ?_
  refine yields_behind fun isBare => ?_
  split
  · exact yields_pure opens
  · exact yields_behind fun _ => yields_behind fun _ => yields_behind fun _ => yields_pure rfl

/-- An increment behind an operand leaves the opening to the operand, which has to be a simple
target. -/
theorem postfixed_opens (opens : ∀ head ∈ head?, head.node.IsOpening) :
    Yields Node.IsOpening (postfixed self head?) := by
  refine (subject_opens true opens).bind fun node opens => yields_behind fun sign? => ?_
  split
  · refine yields_behind fun state => ?_
    split
    · exact yields_pure opens
    · exact (simpleTarget_opens opens).bind fun target opens => yields_behind fun _ =>
        yields_pure opens
  · exact yields_pure opens

/-- An operand opens with the mark or the word of its operator, and without any as the subject
does. -/
theorem operand_opens (opens : ∀ head ∈ head?, head.node.IsOpening) :
    Yields (fun found => found.1.IsOpening) (operand self head?) := by
  cases head? with
  | some head =>
    simp only [operand]
    split
    · exact yields_pure (opens head rfl)
    · exact (postfixed_opens opens).bind fun node opens => yields_pure opens
  | none =>
    refine yields_behind fun sign? => ?_
    split
    · refine yields_behind fun _ => yields_behind fun operand => ?_
      dsimp only
      split
      · exact yields_behind fun _ => yields_pure rfl
      · exact yields_pure rfl
    · refine yields_behind fun update? => ?_
      split
      · exact yields_behind fun _ => yields_behind fun _ => yields_behind fun _ => yields_pure rfl
      · refine yields_behind fun waits => ?_
        split
        · exact awaitExpression_opens.bind fun node opens => yields_pure opens
        · exact (postfixed_opens opens).bind fun node opens => yields_pure opens

/-- A power opens as its base does, and the base is an operand. -/
theorem powered_opens (opens : ∀ head ∈ head?, head.node.IsOpening) :
    Yields Node.IsOpening (powered self head?) := by
  refine (operand_opens opens).bind fun found opens => yields_behind fun isPower => ?_
  split
  · exact yields_behind fun _ => yields_behind fun _ => yields_behind fun _ => yields_pure opens
  · exact yields_pure opens

/-- Joining two operands keeps the opening of the left one, in parentheses or not. -/
theorem binaryOf_opens (op : BinaryOp) {left : Node} (right : Node) (opens : left.IsOpening) :
    Yields Node.IsOpening (binaryOf op left right) := by
  have node : Yields Node.IsOpening (pure (.binary op left right)) := yields_pure opens
  have last : Yields Node.IsOpening (if op == .or || op == .and then
      require (!isCoalescing left && !isCoalescing right) >>= fun _ => pure (.binary op left right)
    else pure (.binary op left right)) := by
    split
    · exact yields_behind fun _ => node
    · exact node
  unfold binaryOf
  dsimp only
  split
  · exact yields_behind fun _ => last
  · exact last

/-- Operands that are joined open as the first of them does. The induction is on the levels of
operators; each round puts what was read so far on the left. -/
theorem joined_opens (opens : ∀ head ∈ head?, head.node.IsOpening) (levels : Nat) :
    Yields Node.IsOpening (joined self head? levels) := by
  induction levels with
  | zero => exact powered_opens opens
  | succ levels inductionHypothesis =>
    refine inductionHypothesis.bind fun first opens => yields_fold (fun left opens => ?_) opens
    refine yields_behind fun op? => ?_
    split
    · exact yields_pure fun _ impossible => nomatch impossible
    · split
      · refine yields_behind fun _ => yields_behind fun right => ?_
        refine (binaryOf_opens _ right opens).bind fun node opens => yields_pure ?_
        rintro _ ⟨⟩
        exact opens
      · exact yields_pure fun _ impossible => nomatch impossible

/-- A conditional opens as its condition does, and without one it is that operand alone. -/
theorem conditional_opens (opens : ∀ head ∈ head?, head.node.IsOpening) :
    Yields Node.IsOpening (conditional self head?) := by
  refine (joined_opens opens 10).bind fun test opens => yields_behind fun isTest => ?_
  split
  · exact yields_behind fun _ => yields_behind fun _ => yields_behind fun _ => yields_pure opens
  · exact yields_pure opens

end Operators

section Assignments

variable {self : Goal → Parse Node} (reaches : Reaches self)
include reaches

/-- What is found in front of an operator: an arrow function, or perhaps the head of an expression. -/
def OpensFound : Node ⊕ Option Head → Prop
  | .inl arrow => arrow.IsOpening
  | .inr head? => ∀ head ∈ head?, head.node.IsOpening

/-- What starts with a parenthesis opens firmly either way: an arrow function with its parameters
or the word in front, a list of expressions with its parenthesis or its first item. -/
theorem arrowOrList_opens (start : Nat) {async? : Option Name}
    (opens : ∀ name ∈ async?, name.IsOpening) :
    Yields OpensFound (arrowOrList self start async?) := by
  refine (parenItems_open reaches).bind fun list each => yields_behind fun isArrow => ?_
  split
  · refine (parametersOf_opens each list.2).bind fun params bareOpens => ?_
    refine (arrowBody_opens _ (.inr bareOpens)).bind fun arrow opens => ?_
    exact yields_behind fun _ => yields_behind fun _ => yields_pure opens
  · split
    · refine (parenOf_opens start list.1).bind fun node opens => yields_pure ?_
      rintro _ ⟨⟩
      exact opens
    · refine yields_behind fun _ => yields_behind fun _ => yields_pure ?_
      rintro _ ⟨⟩
      exact opens _ rfl

omit reaches in
/-- What starts with the word for asynchronous code opens with that word, as an arrow function, as
a call and as a variable. -/
theorem asyncArrow_opens (start : Nat) : Yields OpensFound (asyncArrow self start) := by
  refine variableName_opens.bind fun async opens => yields_behind fun scope => ?_
  refine yields_behind fun isOf => yields_behind fun isArrow => ?_
  split
  · refine yields_behind fun _ => yields_pure ?_
    rintro _ ⟨⟩
    exact opens
  · refine yields_behind fun name => yields_behind fun _ => ?_
    exact (arrowBody_opens true (.inl rfl)).bind fun arrow opens => yields_pure opens

/-- What is found where an arrow function may start opens firmly, be it the function or the head
of another expression. -/
theorem arrowOrHead_opens : Yields OpensFound (arrowOrHead self) := by
  have none : Yields OpensFound (pure (.inr none)) :=
    yields_pure fun _ impossible => nomatch impossible
  refine yields_behind fun start => yields_behind fun current => ?_
  split
  · exact arrowOrList_opens reaches start fun _ impossible => nomatch impossible
  · refine yields_behind fun next? => ?_
    split
    · refine yields_behind fun isName => ?_
      dsimp only
      split
      · exact none
      · refine variableName_opens.bind fun name opens => yields_behind fun _ => yields_behind fun _ => ?_
        have bareOpens : isBareParameter [.identifier name] = true →
            firstOpensFirmly [.identifier name] = true := fun _ => opens
        exact (arrowBody_opens false (.inr bareOpens)).bind fun arrow opens => yields_pure opens
    · split
      · refine variableName_opens.bind fun name opens => arrowOrList_opens reaches start ?_
        rintro _ ⟨⟩
        exact opens
      · exact none
    · refine yields_behind fun isName => ?_
      split
      · exact asyncArrow_opens start
      · exact none
    · exact none
  · exact none

omit reaches in
/-- A yielded expression opens with its word, whatever is yielded. -/
theorem yieldExpression_opens : Yields Node.IsOpening (yieldExpression self) := by
  refine yields_behind fun _ => yields_behind fun _ => yields_behind fun _ => yields_behind fun _ => ?_
  split
  · exact yields_pure rfl
  · refine yields_behind fun delegates => ?_
    split
    · exact yields_behind fun _ => yields_pure rfl
    · refine yields_behind fun current => ?_
      split
      all_goals first
        | exact yields_pure rfl
        | exact yields_behind fun _ => yields_pure rfl

/-- An assignment opens as its target does, and every other expression of that level as the first
operand in it does. -/
theorem assignment_opens : Yields Node.IsOpening (assignment self) := by
  refine yields_behind fun start => yields_behind fun scope => yields_behind fun isYield => ?_
  split
  · exact yieldExpression_opens
  · refine (arrowOrHead_opens reaches).bind fun found opens => ?_
    split
    · exact yields_pure opens
    · refine (conditional_opens opens).bind fun left opens => yields_behind fun op? => ?_
      split
      · exact yields_pure opens
      · refine (assignmentTarget_opens opens).bind fun target opens => yields_behind fun _ => ?_
        exact yields_behind fun _ => yields_behind fun _ => yields_pure opens
      · refine (simpleTarget_opens opens).bind fun target opens => yields_behind fun _ => ?_
        exact yields_behind fun _ => yields_behind fun _ => yields_pure opens

/-- Expressions with commas between them open as the first of them does. -/
theorem expression_opens : Yields Node.IsOpening (expression self) := by
  have each : ∀ items : List Node, (items ≠ [] ∧ ∀ item ∈ items, item.IsOpening) →
      Yields (fun next? => ∀ next ∈ next?, next ≠ [] ∧ ∀ item ∈ next, item.IsOpening)
        (eat "," >>= fun goesOn => if goesOn then
          self .assignment >>= fun item => pure (some (item :: items)) else pure none) := by
    rintro items ⟨-, eachOpens⟩
    refine yields_behind fun goesOn => ?_
    split
    · refine (reaches .assignment).bind fun item opens => yields_pure ?_
      rintro _ ⟨⟩
      exact ⟨List.cons_ne_nil _ _, List.forall_mem_cons.mpr ⟨opens, eachOpens⟩⟩
    · exact yields_pure fun _ impossible => nomatch impossible
  refine (reaches .assignment).bind fun first opens => ?_
  refine (yields_fold each ⟨List.cons_ne_nil _ _, List.forall_mem_singleton.mpr opens⟩).bind ?_
  rintro items ⟨filled, eachOpens⟩
  split
  · exact yields_pure (eachOpens _ List.mem_cons_self)
  · exact yields_pure (firstOpensFirmly_of_forall (List.reverse_ne_nil_iff.mpr filled)
      fun item listed => eachOpens item (List.mem_reverse.mp listed))

end Assignments

end Parse

end PropertyMangling.Script
