import PropertyMangling.Proofs.Script.Yields
/-!
# Statements of programs are tidy

A statement ends with a mark of its own, or with the statement that is its body.
So every item of a program that was read is printed with firm ends, whatever its
text is.
-/
namespace PropertyMangling.Script

namespace Parse

section Statements

variable {self : Goal → Parse Node}

/-- A declaration of variables opens with its word and ends with a semicolon, whatever it
declares. -/
theorem variableStatement_tidy (kind : VariableKind) :
    Yields Node.IsTidy (variableStatement self kind) :=
  yields_behind fun _ => yields_behind fun _ => yields_behind fun _ => yields_behind fun _ =>
    yields_behind fun _ => yields_pure ⟨rfl, rfl⟩

/-- A declared function opens with a word and ends with the brace of its body. -/
theorem functionDeclaration_tidy (isAsync : Bool) :
    Yields Node.IsTidy (functionDeclaration self isAsync) :=
  yields_behind fun _ => yields_behind fun _ => yields_behind fun _ => yields_behind fun _ =>
    yields_pure ⟨rfl, rfl⟩

/-- A declared function that may be asynchronous is tidy either way. -/
theorem openedFunction_tidy : Yields Node.IsTidy (openedFunction self) :=
  yields_behind fun isAsync => functionDeclaration_tidy isAsync

/-- A declared class opens with its word and ends with the brace of its members. -/
theorem classDeclaration_tidy : Yields Node.IsTidy (classDeclaration self) :=
  yields_behind fun _ => yields_pure ⟨rfl, rfl⟩

/-- A loop with its condition behind opens with its word and ends with a semicolon. -/
theorem doWhile_tidy : Yields Node.IsTidy (doWhile self) :=
  yields_behind fun _ => yields_behind fun _ => yields_behind fun _ => yields_behind fun _ =>
    yields_behind fun _ => yields_pure ⟨rfl, rfl⟩

/-- A switch opens with its word and ends with the brace of its cases. -/
theorem switchStatement_tidy : Yields Node.IsTidy (switchStatement self) :=
  yields_behind fun _ => yields_behind fun _ => yields_behind fun _ => yields_behind fun _ =>
    yields_behind fun _ => yields_behind fun _ => yields_pure ⟨rfl, rfl⟩

/-- A handler ends with the brace of its statements, with a parameter or without one. -/
theorem catchClause_braced : Yields (fun node => node.isBraced = true) (catchClause self) := by
  refine yields_behind fun _ => yields_behind fun hasParameter => ?_
  dsimp only
  split
  · exact yields_behind fun _ => yields_behind fun _ => yields_behind fun _ => yields_behind fun _ =>
      yields_pure rfl
  · exact yields_behind fun _ => yields_behind fun _ => yields_pure rfl

/-- A guarded block opens with its word and ends with the brace of the last of its parts, be that
a handler or what is done in any case. -/
theorem tryStatement_tidy : Yields Node.IsTidy (tryStatement self) := by
  have finished : ∀ body (handler? : Option Node), handler?.all Node.isBraced = true →
      Yields Node.IsTidy (do
        let finalizer? ← if ← eatWord "finally" then pure (some (Node.block (← blockBody self)))
          else pure none
        require (handler?.isSome || finalizer?.isSome)
        return .tryStatement body handler? finalizer?) := by
    intro body handler? braced
    have whole : ∀ finalizer? : Option Node, finalizer?.all Node.isBraced = true →
        Yields Node.IsTidy (require (handler?.isSome || finalizer?.isSome) >>= fun _ =>
          pure (.tryStatement body handler? finalizer?)) :=
      fun finalizer? bracedToo => yields_behind fun _ =>
        yields_pure ⟨rfl, Bool.and_eq_true_iff.mpr ⟨braced, bracedToo⟩⟩
    refine yields_behind fun hasFinalizer => ?_
    dsimp only
    split
    · exact yields_behind fun block => whole (some (.block block)) rfl
    · exact whole none rfl
  refine yields_behind fun _ => yields_behind fun body => yields_behind fun isCaught => ?_
  dsimp only
  split
  · refine catchClause_braced.bind fun handler braced => ?_
    exact finished body (some handler) braced
  · exact finished body none rfl

variable (reaches : Reaches self)
include reaches

/-- An expression that stands as a statement opens as the expression does and ends with a
semicolon. -/
theorem expressionStatement_tidy : Yields Node.IsTidy (expressionStatement self) :=
  yields_behind fun _ => ((reaches .expression).within _).bind fun _ opens =>
    yields_behind fun _ => yields_behind fun _ => yields_pure ⟨opens, rfl⟩

/-- An expression that starts with the word of an import is tidy as a statement, like any
other. -/
theorem importStatement_tidy : Yields Node.IsTidy (importStatement self) :=
  yields_behind fun _ => (reaches .expression).bind fun _ opens =>
    yields_behind fun _ => yields_behind fun _ => yields_pure ⟨opens, rfl⟩

/-- The body of a loop is a statement, and statements are reached tidy. -/
theorem loopBody_tidy : Yields Node.IsTidy (loopBody self) := (reaches .statement).within _

/-- A choice opens with its word and ends as its last branch does. -/
theorem ifStatement_tidy : Yields Node.IsTidy (ifStatement self) := by
  refine yields_behind fun _ => yields_behind fun test => ?_
  refine (reaches .statement).bind fun consequent tidy => yields_behind fun hasElse => ?_
  dsimp only
  split
  · refine (reaches .statement).bind fun alternate tidyAlternate => ?_
    exact yields_pure ⟨rfl, tidyAlternate.closes⟩
  · exact yields_pure ⟨rfl, tidy.closes⟩

/-- A loop with its condition in front opens with its word and ends as its body does. -/
theorem whileStatement_tidy : Yields Node.IsTidy (whileStatement self) :=
  yields_behind fun _ => yields_behind fun _ => (loopBody_tidy reaches).bind fun _ tidy =>
    yields_pure ⟨rfl, tidy.closes⟩

/-- A counted loop opens with its word and ends as its body does, whichever parts of its head are
left out. -/
theorem countedLoop_tidy (start? : Option Node) : Yields Node.IsTidy (countedLoop self start?) := by
  have body : ∀ test? step?, Yields Node.IsTidy
      (loopBody self >>= fun body => pure (.forStatement start? test? step? body)) :=
    fun _ _ => (loopBody_tidy reaches).bind fun _ tidy => yields_pure ⟨rfl, tidy.closes⟩
  have behindTest : ∀ test?, Yields Node.IsTidy (do
      expect ";"
      let step? ← if ← isSymbol ")" then pure none else pure (some (← enclosed (self .expression)))
      expect ")"
      return .forStatement start? test? step? (← loopBody self)) := by
    intro test?
    refine yields_behind fun _ => yields_behind fun endsHead => ?_
    dsimp only
    split
    · exact yields_behind fun _ => yields_behind fun _ => body test? _
    · exact yields_behind fun _ => yields_behind fun _ => yields_behind fun _ => body test? _
  refine yields_behind fun endsTest => ?_
  split
  · exact yields_behind fun _ => behindTest _
  · exact yields_behind fun _ => yields_behind fun _ => behindTest _

/-- An iteration opens with its word and ends as its body does. -/
theorem iteratedLoop_tidy (isAwait : Bool) (target : Node) :
    Yields Node.IsTidy (iteratedLoop self isAwait target) := by
  refine yields_behind fun isOf => ?_
  split
  · exact yields_behind fun _ => yields_behind fun _ => (loopBody_tidy reaches).bind fun _ tidy =>
      yields_pure ⟨rfl, tidy.closes⟩
  · exact yields_behind fun _ => yields_behind fun _ => yields_behind fun _ => yields_behind fun _ =>
      (loopBody_tidy reaches).bind fun _ tidy => yields_pure ⟨rfl, tidy.closes⟩

/-- A loop that declares variables is tidy whether it turns out to iterate or to count. -/
theorem declaredLoop_tidy (isAwait : Bool) (kind : VariableKind) :
    Yields Node.IsTidy (declaredLoop self isAwait kind) := by
  refine yields_behind fun _ => yields_behind fun _ => yields_behind fun items => ?_
  refine yields_behind fun span => yields_behind fun isIterated => ?_
  split
  · split
    · exact yields_behind fun _ => yields_behind fun _ => yields_behind fun _ =>
        iteratedLoop_tidy reaches isAwait _
    · exact yields_fail
  · exact yields_behind fun _ => yields_behind fun _ => countedLoop_tidy reaches _

/-- A loop is tidy whatever its head is: in each case it opens with its word and ends as its body
does. -/
theorem forStatement_tidy : Yields Node.IsTidy (forStatement self) := by
  refine yields_behind fun _ => yields_behind fun isAwait => yields_behind fun _ => ?_
  refine yields_behind fun kind? => ?_
  split
  · exact declaredLoop_tidy reaches isAwait _
  · refine yields_behind fun isBare => ?_
    split
    · exact yields_behind fun _ => countedLoop_tidy reaches none
    · refine yields_behind fun head => yields_behind fun isIterated => ?_
      split
      · exact yields_behind fun target => iteratedLoop_tidy reaches isAwait target
      · exact yields_behind fun _ => yields_behind fun _ => countedLoop_tidy reaches (some head)

/-- A statement with an object in front opens with its word and ends as its body does. -/
theorem withStatement_tidy : Yields Node.IsTidy (withStatement self) :=
  yields_behind fun _ => yields_behind fun _ => yields_behind fun _ =>
    ((reaches .statement).within _).bind fun _ tidy => yields_pure ⟨rfl, tidy.closes⟩

/-- A labelled statement opens with its label, which is a name, and ends as the statement behind
it does. -/
theorem labelled_tidy : Yields Node.IsTidy (labelled self) := by
  refine variableName_opens.bind fun label opens => yields_behind fun _ => yields_behind fun _ => ?_
  refine yields_behind fun _ => yields_behind fun isFunction => ?_
  split
  · refine yields_behind fun _ => yields_behind fun _ => yields_behind fun declaration => ?_
    split
    · exact yields_behind fun _ => yields_pure ⟨opens, rfl⟩
    · exact yields_fail
  · exact ((reaches .statement).within _).bind fun _ tidy => yields_pure ⟨opens, tidy.closes⟩

/-- A statement that starts with a word is tidy: each word of the grammar has its case, and any
other word starts a label or an expression. -/
theorem wordStatement_tidy (text : String) : Yields Node.IsTidy (wordStatement self text) := by
  unfold wordStatement
  split
  · exact variableStatement_tidy .var
  · exact ifStatement_tidy reaches
  · exact forStatement_tidy reaches
  · exact whileStatement_tidy reaches
  · exact doWhile_tidy
  · exact yields_behind fun _ => yields_behind fun _ => yields_behind fun _ => yields_behind fun _ =>
      yields_pure ⟨rfl, rfl⟩
  · exact yields_behind fun _ => yields_behind fun _ => yields_behind fun _ => yields_behind fun _ =>
      yields_pure ⟨rfl, rfl⟩
  · exact yields_behind fun _ => yields_behind fun _ => yields_behind fun _ => yields_behind fun _ =>
      yields_pure ⟨rfl, rfl⟩
  · exact yields_behind fun _ => yields_behind fun _ => yields_behind fun _ => yields_behind fun _ =>
      yields_behind fun _ => yields_pure ⟨rfl, rfl⟩
  · exact tryStatement_tidy
  · exact switchStatement_tidy
  · exact withStatement_tidy reaches
  · exact importStatement_tidy reaches
  · exact yields_behind fun _ => yields_behind fun _ => yields_pure ⟨rfl, rfl⟩
  · refine yields_behind fun _ => yields_behind fun isFunction => ?_
    split
    · exact openedFunction_tidy
    · refine yields_behind fun isLabelled => ?_
      split
      · exact labelled_tidy reaches
      · exact expressionStatement_tidy reaches

/-- A statement is tidy. The case split is on its first token, and words have a lemma of their
own. -/
theorem statement_tidy : Yields Node.IsTidy (statement self) := by
  refine yields_behind fun current => ?_
  split
  · exact yields_behind fun _ => yields_pure ⟨rfl, rfl⟩
  · exact yields_behind fun _ => yields_pure ⟨rfl, rfl⟩
  · refine yields_behind fun isLabelled => ?_
    split
    · exact labelled_tidy reaches
    · exact expressionStatement_tidy reaches
  · exact wordStatement_tidy reaches _
  · exact expressionStatement_tidy reaches

/-- What may stand in a list of statements is tidy, be it a declaration or a statement. -/
theorem listed_tidy : Yields Node.IsTidy (listed self) := by
  refine yields_behind fun kind? => ?_
  split
  · exact variableStatement_tidy _
  · refine yields_behind fun isFunction => ?_
    split
    · exact openedFunction_tidy
    · refine yields_behind fun isClass => ?_
      split
      · exact classDeclaration_tidy
      · exact statement_tidy reaches

end Statements

section Items

/-- A default export opens with its words and ends with a brace or a semicolon. -/
theorem exportedDefault_tidy {self : Goal → Parse Node} :
    Yields Node.IsTidy (exportedDefault self) := by
  refine yields_behind fun isFunction => ?_
  split
  · exact yields_behind fun _ => yields_behind fun _ => yields_pure ⟨rfl, rfl⟩
  · refine yields_behind fun isClass => ?_
    split
    · exact yields_behind fun _ => yields_pure ⟨rfl, rfl⟩
    · exact yields_behind fun _ => yields_behind fun _ => yields_pure ⟨rfl, rfl⟩

/-- An import opens with its word and ends with a semicolon behind its source. -/
theorem importDeclaration_tidy : Yields Node.IsTidy importDeclaration := by
  refine yields_behind fun _ => yields_behind fun current => ?_
  split
  · exact yields_behind fun _ => yields_behind fun _ => yields_pure ⟨rfl, rfl⟩
  · exact yields_behind fun _ => yields_behind fun _ => yields_behind fun _ => yields_behind fun _ =>
      yields_pure ⟨rfl, rfl⟩

/-- A group of exported items opens with the word of an export and ends with a semicolon, with a
source or without one. -/
theorem exportGroup_tidy : Yields Node.IsTidy exportGroup := by
  refine yields_behind fun _ => yields_behind fun specifiers => yields_behind fun hasSource => ?_
  split
  · exact yields_behind fun _ => yields_behind fun _ => yields_pure ⟨rfl, rfl⟩
  · exact yields_behind fun _ => yields_behind fun _ => yields_pure ⟨rfl, rfl⟩

/-- An export of a whole interface opens with the word of an export and ends with a semicolon. -/
theorem exportStar_tidy : Yields Node.IsTidy exportStar := by
  refine yields_behind fun isNamed => ?_
  split
  · exact yields_behind fun _ => yields_behind fun _ => yields_behind fun _ => yields_pure ⟨rfl, rfl⟩
  · exact yields_behind fun _ => yields_behind fun _ => yields_pure ⟨rfl, rfl⟩

variable {self : Goal → Parse Node}

/-- An exported declaration opens with the word of an export and ends as the declaration does,
which is tidy by itself. -/
theorem exportDeclaration_tidy : Yields Node.IsTidy (exportDeclaration self) := by
  refine yields_behind fun _ => yields_behind fun isStar => ?_
  split
  · exact exportStar_tidy
  · refine yields_behind fun isGroup => ?_
    split
    · exact exportGroup_tidy
    · refine yields_behind fun isDefault => ?_
      split
      · exact exportedDefault_tidy
      · refine yields_behind fun kind? => ?_
        split
        · exact (variableStatement_tidy _).bind fun _ tidy => yields_pure ⟨rfl, tidy.closes⟩
        · refine yields_behind fun isFunction => ?_
          split
          · exact openedFunction_tidy.bind fun _ tidy => yields_pure ⟨rfl, tidy.closes⟩
          · refine yields_behind fun isClass => ?_
            split
            · exact classDeclaration_tidy.bind fun _ tidy => yields_pure ⟨rfl, tidy.closes⟩
            · exact yields_fail

/-- What a declaration notes of the program around it does not show in what is printed of it. -/
theorem interface_tidy {declaration : Parse Node} (tidy : Yields Node.IsTidy declaration) :
    Yields Node.IsTidy (interface declaration) :=
  yields_behind fun _ => yields_behind fun _ => tidy.within _

/-- A statement that starts with an awaited expression opens as that does and ends with a
semicolon. -/
theorem awaitStatement_tidy : Yields Node.IsTidy (awaitStatement self) := by
  refine yields_behind fun _ => yields_behind fun start => awaitExpression_opens.bind fun value opens => ?_
  refine yields_behind fun _ => yields_behind fun _ => yields_behind fun _ => ?_
  have head : ∀ found ∈ some (Head.mk value start true), found.node.IsOpening := by
    rintro _ ⟨⟩
    exact opens
  refine ((joined_opens head 10).within _).bind fun expression opens => ?_
  exact yields_behind fun _ => yields_behind fun _ => yields_pure ⟨opens, rfl⟩

/-- An item of a program is tidy, be it an import, an export or what may stand in any list of
statements. -/
theorem item_tidy (reaches : Reaches self) :
    Yields (fun item? => ∀ item ∈ item?, item.IsTidy) (item self) := by
  have found : ∀ {step : Parse Node}, Yields Node.IsTidy step →
      Yields (fun item? => ∀ item ∈ item?, item.IsTidy) (step >>= fun item => pure (some item)) := by
    intro step tidy
    refine tidy.bind fun item tidy => yields_pure ?_
    rintro _ ⟨⟩
    exact tidy
  refine yields_behind fun current => ?_
  split
  · exact yields_pure fun _ impossible => nomatch impossible
  · refine yields_behind fun state => Yields.within ?_ _
    refine yields_behind fun isImport => yields_behind fun opens => ?_
    split
    · exact found (interface_tidy importDeclaration_tidy)
    · refine yields_behind fun isExport => ?_
      split
      · exact found (interface_tidy exportDeclaration_tidy)
      · refine yields_behind fun waits => ?_
        split
        · exact found awaitStatement_tidy
        · exact found (reaches .listed)

end Items

/-- Whatever the number of levels, every goal is reached with a node as it is asked for. -/
theorem reaches_reach (levels : Nat) : Reaches (reach levels) := by
  induction levels with
  | zero => exact fun goal => yields_fail
  | succ levels inductionHypothesis =>
    have none : ∀ head ∈ (none : Option Head), head.node.IsOpening :=
      fun _ impossible => nomatch impossible
    intro goal
    cases goal with
    | expression => exact expression_opens inductionHypothesis
    | assignment => exact assignment_opens inductionHypothesis
    | power => exact powered_opens none
    | unary => exact (operand_opens none).bind fun _ opens => yields_pure opens
    | subject => exact subject_opens true none
    | callee => exact subject_opens false none
    | binding => exact bindingTarget_opens
    | statement => exact statement_tidy inductionHypothesis
    | listed => exact listed_tidy inductionHypothesis

/-- Every item of a list has what each of them is read with. -/
theorem yields_many {α : Type} {property : α → Prop} {item : Parse (Option α)}
    (each : Yields (fun item? => ∀ item ∈ item?, property item) item) :
    Yields (fun items => ∀ item ∈ items, property item) (many item) := by
  have more : ∀ items : List α, (∀ item ∈ items, property item) →
      Yields (fun next? => ∀ next ∈ next?, ∀ item ∈ next, property item)
        (item >>= fun item? => pure (item?.map (· :: items))) := by
    intro items listed
    refine each.bind fun item? holds => yields_pure ?_
    intro next extended
    obtain ⟨item, rfl, rfl⟩ := Option.map_eq_some_iff.mp extended
    exact List.forall_mem_cons.mpr ⟨holds item rfl, listed⟩
  have none : ∀ item ∈ ([] : List α), property item := fun _ impossible => nomatch impossible
  refine (yields_fold more none).bind ?_
  exact fun items listed => yields_pure fun item inside => listed item (List.mem_reverse.mp inside)

/-- Items that may start with a directive all have the property that each of them is read with,
the first one as well. -/
theorem yields_itemsWithDirective {property : Node → Prop} {item : Parse (Option Node)}
    (each : Yields (fun item? => ∀ item ∈ item?, property item) item) :
    Yields (fun items => ∀ item ∈ items, property item) (itemsWithDirective item) := by
  refine each.bind fun first? holds => ?_
  split
  · exact yields_pure fun _ impossible => absurd impossible List.not_mem_nil
  · next first =>
    have whole : Yields (fun items => ∀ item ∈ items, property item)
        (many item >>= fun rest => pure (first :: rest)) :=
      (yields_many each).bind fun rest listed =>
        yields_pure (List.forall_mem_cons.mpr ⟨holds first rfl, listed⟩)
    split
    · refine Yields.within ?_ _
      split
      · exact yields_behind fun _ => yields_behind fun _ => whole
      · exact whole
    · exact whole

/-- The items behind an opening are tidy in any number of levels, since every goal is then reached
as it is asked for. -/
theorem items_tidy (trivia : Trivia) (first : Cursor) (levels : Nat) :
    Yields (fun answer => ∀ item ∈ answer.1, item.IsTidy) (items trivia first levels) :=
  yields_behind fun _ => (yields_itemsWithDirective (item_tidy (reaches_reach levels))).bind
    fun _ tidy => yields_behind fun _ => yields_behind fun _ => yields_pure tidy

end Parse

/-- The items behind an opening are what is read at its first token. -/
theorem Opening.exists_later {opening : Opening} {answer : List Node × Nat}
    (read : opening.items = .ok answer) :
    ∃ later, Parse.items opening.trivia
      ⟨opening.first.text, 1 + (opening.first.position - opening.origin)⟩
      (Parse.levelsFor (extentOf opening.first.text)) { size := extentOf opening.first.text } {} =
        .ok (answer, later) := by
  unfold Opening.items at read
  dsimp only at read
  cases made : Parse.items opening.trivia
      ⟨opening.first.text, 1 + (opening.first.position - opening.origin)⟩
      (Parse.levelsFor (extentOf opening.first.text)) { size := extentOf opening.first.text } {} with
  | error error =>
    rw [made] at read
    cases read
  | ok found =>
    rw [made] at read
    obtain rfl := Except.ok.inj read
    exact ⟨found.2, rfl⟩

/-- The items of a program are those behind the opening of its source. -/
theorem Program.exists_opening {source : String} {program : Program}
    (parsed : Program.parse source = .ok program) :
    ∃ opening finished, opening? source = some opening ∧
      opening.items = .ok (program.items, finished) := by
  unfold Program.parse at parsed
  split at parsed
  · cases parsed
  · next opening opened =>
    dsimp only at parsed
    split at parsed
    · cases parsed
    · next items finished read =>
      obtain rfl := Except.ok.inj parsed
      exact ⟨opening, finished, opened, read⟩

/-- Every item of a program that was read is tidy, whatever its text is. So the items may be
printed one behind the other. -/
theorem Program.tidy_of_parse {source : String} {program : Program}
    (parsed : Program.parse source = .ok program) : ∀ item ∈ program.items, item.IsTidy := by
  obtain ⟨opening, finished, -, read⟩ := Program.exists_opening parsed
  obtain ⟨later, made⟩ := Opening.exists_later read
  exact Parse.items_tidy _ _ _ _ _ _ later made

end PropertyMangling.Script
