import PropertyMangling.Proofs.Script.Origin.Expressions
import PropertyMangling.Proofs.Script.Origin.Turns
import PropertyMangling.Proofs.Script.Statements
import PropertyMangling.Proofs.Script.Words
/-!
# What a program mentions stands in its source, in the order of the text

Statements, items and whole programs mention what their parts do. The circle of
the steps is closed by their levels, and a program is read from the start of its
first token on, so what it mentions stands in the source, one behind the other.
Every name among it is a word of the source.
-/
namespace PropertyMangling

open Script

/-- The name that stands at a site, unless a string does. -/
def Site.word? : Site → Option String
  | .name text | .shorthand text | .variable text => some text
  | .subscript _ | .key _ | .literal _ | .imported _ => none

namespace Script

/-- All names among sites are words of a source. -/
def AreWords (source : List Char) (sites : List Site) : Prop :=
  ∀ site ∈ sites, ∀ word ∈ site.word?, HasWord source word

namespace Parse

variable {base : Cursor} {self : Goal → Parse Node} (reaches : ReachesAdding base self)

section Statements

instance stays_isIterated : Stays base isIterated := by
  unfold isIterated
  infer_instance

instance stays_variableKind? : Stays base variableKind? := by
  refine stays_behind fun _ => stays_either inferInstance ?_
  refine stays_behind fun _ => stays_either inferInstance ?_
  refine stays_behind fun _ => stays_either (stays_behind fun next? => ?_) inferInstance
  split <;> infer_instance

instance stays_opensFunction : Stays base opensFunction := by
  unfold opensFunction
  infer_instance

instance stays_isLabel : Stays base isLabel := by
  refine stays_behind fun _ => stays_either inferInstance (stays_behind fun next? => ?_)
  split <;> infer_instance

include reaches

/-- An expression in parentheses behind a word of the grammar mentions what it does without
them. -/
theorem parenthesised_adds : Adds base [] Node.mentions (parenthesised self) :=
  adds_behind fun _ => (enclosed_adds reaches .expression).bind fun _ =>
    adds_behind fun _ => adds_pure rfl

/-- A declarator mentions its target and then its first value; what is demanded of a declaration
without one reads nothing. -/
theorem declaratorOf_adds (kind : VariableKind) (inHead : Bool) :
    Adds base [] Node.mentions (declaratorOf self kind inHead) := by
  refine adds_behind fun start => adds_behind fun _ => adds_behind fun _ => ?_
  refine (reaches .binding).bind fun target => adds_behind fun hasValue => ?_
  extract_lets judged
  have judgedAdds : ∀ value?, Adds base (target.mentions ++ mentionsOfSome value?) Node.mentions
      (judged value?) := by
    intro value?
    refine adds_behind fun runsOver => ?_
    extract_lets last
    have lastAdds : ∀ passed, Adds base (target.mentions ++ mentionsOfSome value?) Node.mentions
        (last passed) :=
      fun _ => adds_behind fun span => adds_pure rfl
    split
    · exact adds_behind fun _ => adds_behind lastAdds
    · exact lastAdds ()
  split
  · exact ((reaches .assignment).within _).bind fun value => judgedAdds (some value)
  · exact (judgedAdds none).leftOut

/-- Declarators with commas between them mention their words one after the other. -/
theorem declarators_adds (kind : VariableKind) (inHead : Bool) :
    Adds base [] mentionsOf (declarators self kind inHead) := by
  refine (declaratorOf_adds reaches kind inHead).bind fun first => ?_
  have items : Adds base (mentionsOf [first].reverse) (fun items => mentionsOf items.reverse)
      (fold (fun items => do
        if ← eat "," then return some ((← declaratorOf self kind inHead) :: items)
        else return none) [first]) :=
    adds_fold (adds_more (declaratorOf_adds reaches kind inHead))
  refine Adds.andThen (items.congr (congrArg sayings (mentionsOf_singleton first).symm)
    fun _ => rfl) fun items => ?_
  exact adds_pure rfl

/-- A declaration of variables mentions what its declarators do; its word is one of the
grammar. -/
theorem variableStatement_adds (kind : VariableKind) :
    Adds base [] Node.mentions (variableStatement self kind) :=
  adds_behind fun _ => adds_behind fun _ => (declarators_adds reaches kind false).bind fun _ =>
    adds_behind fun _ => adds_behind fun _ => adds_pure rfl

/-- A declared function mentions its name, then its parameters and then its body. -/
theorem functionDeclaration_adds (isAsync : Bool) :
    Adds base [] Node.mentions (functionDeclaration self isAsync) := by
  refine adds_behind fun _ => adds_behind fun isGenerator => ?_
  refine bindingName_adds.bind fun name => ?_
  refine (functionParts_adds reaches _).bind fun parts => adds_pure ?_
  rw [partMentions, ← List.append_assoc]
  rfl

/-- A declared class mentions its name, its parent and its members, in the order of the text. -/
theorem classDeclaration_adds : Adds base [] Node.mentions (classDeclaration self) := by
  have named : Adds base [] (fun name => [name.mention .variable]) (do
      require (!(← isWord "let"))
      bindingName) :=
    adds_behind fun _ => adds_behind fun _ => bindingName_adds
  exact (classParts_adds reaches named).bind fun parts => adds_pure rfl

/-- A declared function with the word for asynchronous code in front mentions the same as without
it. -/
theorem openedFunction_adds : Adds base [] Node.mentions (openedFunction self) :=
  adds_behind fun isAsync => functionDeclaration_adds reaches isAsync

/-- The body of a loop mentions what its statement does. -/
theorem loopBody_adds : Adds base [] Node.mentions (loopBody self) :=
  (reaches .statement).within _

/-- A choice mentions its condition, then its branch and then the other branch when there is
one. -/
theorem ifStatement_adds : Adds base [] Node.mentions (ifStatement self) := by
  refine adds_behind fun _ => (parenthesised_adds reaches).bind fun test => ?_
  refine (reaches .statement).bind fun consequent => adds_behind fun hasElse => ?_
  extract_lets last
  have lastAdds : ∀ alternate?,
      Adds base (test.mentions ++ consequent.mentions ++ mentionsOfSome alternate?) Node.mentions
        (last alternate?) :=
    fun _ => adds_pure rfl
  split
  · exact (reaches .statement).bind fun alternate => lastAdds (some alternate)
  · exact (lastAdds none).leftOut

/-- A loop with its condition in front mentions the condition and then the body. -/
theorem whileStatement_adds : Adds base [] Node.mentions (whileStatement self) :=
  adds_behind fun _ => (parenthesised_adds reaches).bind fun _ =>
    (loopBody_adds reaches).bind fun _ => adds_pure rfl

/-- A loop with its condition behind mentions the body first, as the text has it; the walk takes
them the other way round. -/
theorem doWhile_adds : Adds base [] Node.mentions (doWhile self) :=
  adds_behind fun _ => (loopBody_adds reaches).bind fun _ => adds_behind fun _ =>
    (parenthesised_adds reaches).bind fun _ => adds_behind fun _ => adds_pure rfl

/-- A counted loop goes on from its start, which was read already, and mentions the condition, the
step and the body behind it. Each of the three may be left out. -/
theorem countedLoop_adds (start? : Option Node) :
    Adds base (mentionsOfSome start?) Node.mentions (countedLoop self start?) := by
  refine adds_behind fun endsTest => ?_
  extract_lets behindTest
  have behindTestAdds : ∀ test?,
      Adds base (mentionsOfSome start? ++ mentionsOfSome test?) Node.mentions (behindTest test?) := by
    intro test?
    refine adds_behind fun _ => adds_behind fun endsHead => ?_
    extract_lets behindStep
    have behindStepAdds : ∀ step?,
        Adds base (mentionsOfSome start? ++ mentionsOfSome test? ++ mentionsOfSome step?)
          Node.mentions (behindStep step?) :=
      fun _ => adds_behind fun _ => (loopBody_adds reaches).bind fun body => adds_pure rfl
    split
    · exact (behindStepAdds none).leftOut
    · exact (enclosed_adds reaches .expression).bind fun step => behindStepAdds (some step)
  split
  · exact (behindTestAdds none).leftOut
  · exact (enclosed_adds reaches .expression).bind fun test => behindTestAdds (some test)

/-- An iteration goes on from its target, which was read already, and mentions the subject and
then the body. -/
theorem iteratedLoop_adds (isAwait : Bool) (target : Node) :
    Adds base target.mentions Node.mentions (iteratedLoop self isAwait target) := by
  refine adds_behind fun isOf => ?_
  split
  · refine (enclosed_adds reaches .assignment).bind fun subject => ?_
    exact adds_behind fun _ => (loopBody_adds reaches).bind fun body => adds_pure rfl
  · refine adds_behind fun _ => adds_behind fun _ => ?_
    refine (enclosed_adds reaches .expression).bind fun subject => ?_
    exact adds_behind fun _ => (loopBody_adds reaches).bind fun body => adds_pure rfl

/-- A loop that declares variables mentions them first, whether it turns out to iterate or to
count. -/
theorem declaredLoop_adds (isAwait : Bool) (kind : VariableKind) :
    Adds base [] Node.mentions (declaredLoop self isAwait kind) := by
  refine adds_behind fun start => adds_behind fun _ => ?_
  refine (declarators_adds reaches kind true).bind fun items => ?_
  refine adds_behind fun span => adds_behind fun runsOver => ?_
  split
  · split
    · next span' target value? =>
      exact adds_behind fun _ => adds_behind fun _ => adds_behind fun _ =>
        iteratedLoop_adds reaches isAwait (.variables span kind [.declarator span' target value?])
    · exact adds_fail
  · exact adds_behind fun _ => adds_behind fun _ =>
      countedLoop_adds reaches (some (.variables span kind items))

/-- A loop mentions its head from left to right and then its body. What its head is shows behind
its first part, which is given to the loop that it is. -/
theorem forStatement_adds : Adds base [] Node.mentions (forStatement self) := by
  refine adds_behind fun _ => adds_behind fun isAwait => adds_behind fun _ => ?_
  refine adds_behind fun kind? => ?_
  split
  · exact declaredLoop_adds reaches isAwait _
  · refine adds_behind fun isBare => ?_
    split
    · exact adds_behind fun _ => countedLoop_adds reaches none
    · refine ((reaches .expression).within _).bind fun head => adds_behind fun runsOver => ?_
      split
      · exact (assignmentTarget_adds head).andThen (iteratedLoop_adds reaches isAwait)
      · exact adds_behind fun _ => adds_behind fun _ => countedLoop_adds reaches (some head)

/-- A value that may be left out is mentioned when it is there. -/
theorem optionalValue_adds : Adds base [] mentionsOfSome (optionalValue self) := by
  refine adds_behind fun ends => ?_
  extract_lets last
  have lastAdds : ∀ value?, Adds base (mentionsOfSome value?) mentionsOfSome (last value?) :=
    fun _ => adds_behind fun _ => adds_pure rfl
  split
  · exact lastAdds none
  · exact (enclosed_adds reaches .expression).bind fun value => lastAdds (some value)

omit reaches in
/-- A label that may be left out is mentioned as a variable when it is there; labels play no part
of their own. -/
theorem optionalLabel_adds : Adds base [] variableMentions optionalLabel := by
  refine adds_behind fun ends => ?_
  split
  · exact adds_behind fun _ => adds_pure rfl
  · exact freeName_adds.bind fun label => adds_behind fun _ => adds_behind fun _ =>
      adds_behind fun _ => adds_pure rfl

/-- A case mentions its test, unless it is the default one, and then its statements. -/
theorem caseItem_adds : Adds base [] mentionsOfSome (caseItem self) := by
  refine adds_behind fun closes => ?_
  split
  · exact adds_pure rfl
  · refine adds_behind fun isCase => ?_
    extract_lets body
    have bodyAdds : ∀ test?, Adds base (mentionsOfSome test?) mentionsOfSome (body test?) := by
      intro test?
      refine adds_behind fun _ => Adds.bind (adds_many ?_) fun items => adds_pure rfl
      refine adds_behind fun _ => adds_behind fun _ => adds_behind fun _ => ?_
      split
      · exact adds_pure rfl
      · exact (reaches .listed).bind fun item => adds_pure rfl
    split
    · exact (enclosed_adds reaches .expression).bind fun test => bodyAdds (some test)
    · exact adds_behind fun _ => bodyAdds none

/-- A switch mentions what it looks at and then its cases in their order. -/
theorem switchStatement_adds : Adds base [] Node.mentions (switchStatement self) :=
  adds_behind fun _ => (parenthesised_adds reaches).bind fun _ => adds_behind fun _ =>
    ((adds_many (caseItem_adds reaches)).within _).bind fun _ =>
      adds_behind fun _ => adds_behind fun _ => adds_pure rfl

/-- A handler mentions its parameter, if it has one, and then its statements. -/
theorem catchClause_adds : Adds base [] Node.mentions (catchClause self) := by
  refine adds_behind fun _ => adds_behind fun hasParameter => ?_
  extract_lets last
  have lastAdds : ∀ param?, Adds base (mentionsOfSome param?) Node.mentions (last param?) :=
    fun _ => (blockBody_adds reaches).bind fun body => adds_pure rfl
  split
  · exact (reaches .binding).bind fun target => adds_behind fun _ => lastAdds (some target)
  · exact lastAdds none

/-- A guarded block mentions its statements, then the handler and then what is done in any
case. -/
theorem tryStatement_adds : Adds base [] Node.mentions (tryStatement self) := by
  refine adds_behind fun _ => (blockBody_adds reaches).bind fun body => ?_
  refine adds_behind fun isCaught => ?_
  extract_lets behindHandler
  have behindHandlerAdds : ∀ handler?,
      Adds base (mentionsOf body ++ mentionsOfSome handler?) Node.mentions
        (behindHandler handler?) := by
    intro handler?
    refine adds_behind fun hasFinalizer => ?_
    extract_lets last
    have lastAdds : ∀ finalizer?,
        Adds base (mentionsOf body ++ mentionsOfSome handler? ++ mentionsOfSome finalizer?)
          Node.mentions (last finalizer?) :=
      fun _ => adds_behind fun _ => adds_pure rfl
    split
    · exact (blockBody_adds reaches).bind fun items => lastAdds (some (.block items))
    · exact (lastAdds none).leftOut
  split
  · exact (catchClause_adds reaches).bind fun handler => behindHandlerAdds (some handler)
  · exact (behindHandlerAdds none).leftOut

/-- A statement with an object in front mentions the object and then its body. -/
theorem withStatement_adds : Adds base [] Node.mentions (withStatement self) :=
  adds_behind fun _ => adds_behind fun _ => (parenthesised_adds reaches).bind fun _ =>
    ((reaches .statement).within _).bind fun _ => adds_pure rfl

/-- A labelled statement mentions its label and then the statement, which may be a plain
function. -/
theorem labelled_adds : Adds base [] Node.mentions (labelled self) := by
  refine variableName_adds.bind fun label => adds_behind fun _ => adds_behind fun _ => ?_
  refine adds_behind fun _ => adds_behind fun isFunction => ?_
  split
  · refine adds_behind fun _ => adds_behind fun _ => ?_
    refine ((functionDeclaration_adds reaches false).within _).bind fun declaration => ?_
    split
    · exact adds_behind fun _ => adds_pure rfl
    · exact adds_fail
  · exact ((reaches .statement).within _).bind fun body => adds_pure rfl

/-- An expression that stands as a statement mentions what it does. -/
theorem expressionStatement_adds : Adds base [] Node.mentions (expressionStatement self) :=
  adds_behind fun _ => (enclosed_adds reaches .expression).bind fun _ =>
    adds_behind fun _ => adds_behind fun _ => adds_pure rfl

/-- An expression that starts with the word of an import is a statement like any other, and
mentions what it does. -/
theorem importStatement_adds : Adds base [] Node.mentions (importStatement self) :=
  adds_behind fun _ => (reaches .expression).bind fun _ =>
    adds_behind fun _ => adds_behind fun _ => adds_pure rfl

/-- A statement that starts with a word mentions what follows it. Each word of the grammar has its
case; any other word starts a label or an expression. -/
theorem wordStatement_adds (text : String) :
    Adds base [] Node.mentions (wordStatement self text) := by
  unfold wordStatement
  split
  · exact variableStatement_adds reaches .var
  · exact ifStatement_adds reaches
  · exact forStatement_adds reaches
  · exact whileStatement_adds reaches
  · exact doWhile_adds reaches
  · exact adds_behind fun _ => adds_behind fun _ => adds_behind fun _ =>
      (optionalValue_adds reaches).bind fun value? => adds_pure rfl
  · exact adds_behind fun _ => adds_behind fun _ => adds_behind fun _ =>
      optionalLabel_adds.bind fun label? => adds_pure rfl
  · exact adds_behind fun _ => adds_behind fun _ => adds_behind fun _ =>
      optionalLabel_adds.bind fun label? => adds_pure rfl
  · exact adds_behind fun _ => adds_behind fun _ => adds_behind fun _ =>
      (enclosed_adds reaches .expression).bind fun value => adds_behind fun _ => adds_pure rfl
  · exact tryStatement_adds reaches
  · exact switchStatement_adds reaches
  · exact withStatement_adds reaches
  · exact importStatement_adds reaches
  · exact adds_behind fun _ => adds_behind fun _ => adds_pure rfl
  · refine adds_behind fun _ => adds_behind fun isFunction => ?_
    split
    · exact openedFunction_adds reaches
    · refine adds_behind fun isLabelled => ?_
      split
      · exact labelled_adds reaches
      · exact expressionStatement_adds reaches

/-- A statement mentions its words in the order of the text. The case split is on its first token,
and words have a lemma of their own. -/
theorem statement_adds : Adds base [] Node.mentions (statement self) := by
  refine adds_behind fun current => ?_
  split
  · exact (blockBody_adds reaches).bind fun body => adds_pure rfl
  · exact adds_behind fun _ => adds_pure rfl
  · refine adds_behind fun isLabelled => ?_
    split
    · exact labelled_adds reaches
    · exact expressionStatement_adds reaches
  · exact wordStatement_adds reaches _
  · exact expressionStatement_adds reaches

/-- What may stand in a list of statements mentions its words in the order of the text, be it a
declaration or a statement. -/
theorem listed_adds : Adds base [] Node.mentions (listed self) := by
  refine adds_behind fun kind? => ?_
  split
  · exact variableStatement_adds reaches _
  · refine adds_behind fun isFunction => ?_
    split
    · exact openedFunction_adds reaches
    · refine adds_behind fun isClass => ?_
      split
      · exact classDeclaration_adds reaches
      · exact statement_adds reaches

end Statements

section Items

/-- A name in an interface, which may be a string of some part. -/
theorem interfaceName_adds {part : String → Site}
    (isQuoted : ∀ value, (part value).wording = .quoted value) :
    Adds base [] (InterfaceName.mentions part) interfaceName := by
  refine adds_behind fun current => ?_
  split
  · exact (quoted_adds isQuoted).bind fun literal => adds_pure rfl
  · exact (@anyName_adds base .variable fun _ => rfl).bind fun name => adds_pure rfl

/-- The source of a declaration is mentioned as the string that it is; the word in front is one of
the grammar. -/
theorem moduleSource_adds {part : String → Site}
    (isQuoted : ∀ value, (part value).wording = .quoted value) :
    Adds base [] (fun literal => [literal.mention part]) moduleSource :=
  adds_behind fun _ => quoted_adds isQuoted

/-- An imported item mentions the name in the module and then the variable, as the text has them;
an item under its own name is one mention. -/
theorem importItem_adds : Adds base [] ImportSpecifier.mentions importItem := by
  refine adds_behind fun current => ?_
  split
  · refine (@interfaceName_adds base .imported fun _ => rfl).bind fun imported => ?_
    refine adds_behind fun _ => ?_
    exact bindingName_adds.bind fun name => adds_pure rfl
  · refine (@anyName_adds base .variable fun _ => rfl).bind fun own => adds_behind fun isRenamed => ?_
    split
    · exact bindingName_adds.bind fun name => adds_pure rfl
    · exact adds_pure rfl
  · exact adds_fail

/-- What import specifiers mention. -/
def importMentions (specifiers : List ImportSpecifier) : List Mention :=
  specifiers.flatMap ImportSpecifier.mentions

/-- The specifiers behind a default name are mentioned one after the other: a name for the whole
interface, or items in braces. -/
theorem importGroup_adds (phase : ImportPhase) : Adds base [] importMentions (importGroup phase) := by
  refine adds_behind fun isWhole => ?_
  split
  · exact adds_behind fun _ => bindingName_adds.bind fun name => adds_pure rfl
  · refine adds_behind fun isGroup => ?_
    split
    · exact (adds_commaList _ importItem_adds).bind fun list => adds_pure rfl
    · exact adds_pure rfl

instance stays_phaseBefore? (name : String) : Stays base (phaseBefore? name) := by
  unfold phaseBefore?
  split
  · infer_instance
  · refine stays_behind fun _ => stays_either inferInstance (stays_behind fun current => ?_)
    split <;> infer_instance

/-- A default name is given as it was read; the comma behind it decides only what follows. -/
theorem defaultName_adds (name : Name) :
    Adds base [name.mention .variable] variableMentions (defaultName name) := by
  refine adds_behind fun isLast => ?_
  extract_lets last
  have lastAdds : ∀ passed, Adds base [name.mention .variable] variableMentions (last passed) :=
    fun _ => adds_pure rfl
  split
  · exact adds_behind lastAdds
  · exact lastAdds ()

/-- In front of the specifiers stands a default name, a word for the phase of the import, or both.
The word is read as a name at first and then forgotten. -/
theorem importHead_adds : Adds base [] (fun head => variableMentions head.2) importHead := by
  refine optionalName_adds.bind fun first? => ?_
  split
  · exact adds_pure rfl
  · next first =>
    refine adds_behind fun phase? => ?_
    split
    · exact (defaultName_adds first).andThen fun name? => adds_pure rfl
    · -- the word says how far the module is brought in, and is no variable
      refine Adds.forget ?_ [first.mention .variable]
      refine adds_behind fun isWhole => ?_
      split
      · exact adds_pure rfl
      · refine optionalName_adds.bind fun second? => ?_
        have found : Adds base (variableMentions second?) (fun name => [name.mention .variable])
            (demand second?) := by
          refine adds_demand fun name there => ?_
          rw [Option.mem_def.mp there]
          rfl
        refine found.andThen fun name => ?_
        exact (defaultName_adds name).andThen fun name? => adds_pure rfl

/-- An import mentions its default name, its specifiers and its source, in that order. One for its
effects alone mentions the source. -/
theorem importDeclaration_adds : Adds base [] Node.mentions importDeclaration := by
  refine adds_behind fun _ => adds_behind fun current => ?_
  split
  · exact (@quoted_adds base .imported fun _ => rfl).bind fun literal => adds_behind fun _ =>
      adds_pure rfl
  · refine importHead_adds.bind fun head => ?_
    refine (importGroup_adds _).bind fun others => ?_
    refine (@moduleSource_adds base .imported fun _ => rfl).bind fun literal => ?_
    refine adds_behind fun _ => adds_pure ?_
    obtain ⟨phase, name?⟩ := head
    cases name? <;> rfl

/-- An exported item mentions the name in the program and then the name in the interface; these
are strings or names alike. -/
theorem exportItem_adds : Adds base [] ExportSpecifier.mentions exportItem := by
  refine (@interfaceName_adds base .literal fun _ => rfl).bind fun own => ?_
  refine adds_behind fun isRenamed => ?_
  split
  · exact (@interfaceName_adds base .literal fun _ => rfl).bind fun exported => adds_pure rfl
  · exact adds_pure rfl

/-- A group of exported items mentions each of them and then the source, when there is one. -/
theorem exportGroup_adds : Adds base [] Node.mentions exportGroup := by
  refine adds_behind fun _ => (adds_commaList _ exportItem_adds).bind fun list => ?_
  refine adds_behind fun hasSource => ?_
  split
  · exact (@moduleSource_adds base .literal fun _ => rfl).bind fun literal => adds_behind fun _ =>
      adds_pure rfl
  · exact Adds.leftOut (adds_behind fun _ => adds_behind fun _ => adds_pure rfl)

/-- An export of a whole interface mentions the name that it goes by, if any, and then its
source. -/
theorem exportStar_adds : Adds base [] Node.mentions exportStar := by
  refine adds_behind fun isNamed => ?_
  split
  · refine (@interfaceName_adds base .literal fun _ => rfl).bind fun name => ?_
    refine (@moduleSource_adds base .literal fun _ => rfl).bind fun literal => ?_
    refine adds_behind fun _ => adds_pure ?_
    change _ = sayings ((name.mentions .literal ++ []) ++ [literal.mention .literal])
    rw [List.append_nil]
    rfl
  · exact (@moduleSource_adds base .literal fun _ => rfl).bind fun literal => adds_behind fun _ =>
      adds_pure rfl

instance stays_opensImport : Stays base opensImport := by
  refine stays_behind fun next? => ?_
  split <;> infer_instance

/-- What a declaration notes of the program it is read in moves nowhere and adds no mention. -/
theorem interface_adds {declaration : Parse Node} (adds : Adds base [] Node.mentions declaration) :
    Adds base [] Node.mentions (interface declaration) := by
  have : Stays base (modify fun state => { state with declared := true }) :=
    stays_modify fun _ => ⟨rfl, rfl⟩
  exact adds_behind fun _ => adds_behind fun _ => adds.within _

include reaches

/-- A default export mentions what its function, class or expression does; the words in front are
of the grammar. -/
theorem exportedDefault_adds : Adds base [] Node.mentions (exportedDefault self) := by
  refine adds_behind fun isFunction => ?_
  split
  · exact adds_behind fun isAsync => (functionExpression_adds reaches isAsync).bind
      fun value => adds_pure rfl
  · refine adds_behind fun isClass => ?_
    split
    · exact (classExpression_adds reaches).bind fun value => adds_pure rfl
    · exact (enclosed_adds reaches .assignment).bind fun value => adds_behind fun _ =>
        adds_pure rfl

/-- An export mentions what it declares. The case split follows what stands behind its word. -/
theorem exportDeclaration_adds : Adds base [] Node.mentions (exportDeclaration self) := by
  refine adds_behind fun _ => adds_behind fun isStar => ?_
  split
  · exact exportStar_adds
  · refine adds_behind fun isGroup => ?_
    split
    · exact exportGroup_adds
    · refine adds_behind fun isDefault => ?_
      split
      · exact exportedDefault_adds reaches
      · refine adds_behind fun kind? => ?_
        split
        · exact (variableStatement_adds reaches _).bind fun _ => adds_pure rfl
        · refine adds_behind fun isFunction => ?_
          split
          · exact (openedFunction_adds reaches).bind fun _ => adds_pure rfl
          · refine adds_behind fun isClass => ?_
            split
            · exact (classDeclaration_adds reaches).bind fun _ => adds_pure rfl
            · exact adds_fail

/-- A statement that starts with an awaited expression mentions it first and then the operands
that it is joined with. -/
theorem awaitStatement_adds : Adds base [] Node.mentions (awaitStatement self) := by
  refine adds_behind fun _ => adds_behind fun start => ?_
  refine (awaitExpression_adds reaches).bind fun value => ?_
  refine adds_behind fun _ => adds_behind fun _ => adds_behind fun _ => ?_
  refine ((joined_adds reaches 10 (some ⟨value, start, true⟩)).within _).andThen fun expression => ?_
  exact adds_behind fun _ => adds_behind fun span => adds_pure rfl

/-- An item of a program mentions its words in the order of the text, be it an import, an export
or what may stand in any list; the end of the text mentions nothing. -/
theorem item_adds : Adds base [] mentionsOfSome (item self) := by
  have found : ∀ {step : Parse Node}, Adds base [] Node.mentions step →
      Adds base [] mentionsOfSome (step >>= fun item => pure (some item)) :=
    fun adds => adds.bind fun item => adds_pure rfl
  refine adds_behind fun current => ?_
  split
  · exact adds_pure rfl
  · refine adds_behind fun state => Adds.within ?_ _
    refine adds_behind fun isImport => adds_behind fun opens => ?_
    split
    · exact found (interface_adds importDeclaration_adds)
    · refine adds_behind fun isExport => ?_
      split
      · exact found (interface_adds (exportDeclaration_adds reaches))
      · refine adds_behind fun waits => ?_
        split
        · exact found (awaitStatement_adds reaches)
        · exact found (reaches .listed)

end Items

/-- Whatever the number of levels, every goal is reached in the order of the text. -/
theorem reachesAdding_reach (base : Cursor) (levels : Nat) : ReachesAdding base (reach levels) := by
  induction levels with
  | zero => exact fun goal => adds_fail
  | succ levels inductionHypothesis =>
    intro goal
    cases goal with
    | expression => exact expression_adds inductionHypothesis
    | assignment => exact assignment_adds inductionHypothesis
    | power => exact powered_adds inductionHypothesis none
    | unary => exact (operand_adds inductionHypothesis none).andThen fun _ => adds_pure rfl
    | subject => exact subject_adds inductionHypothesis true none
    | callee => exact subject_adds inductionHypothesis false none
    | binding => exact bindingTarget_adds inductionHypothesis
    | statement => exact statement_adds inductionHypothesis
    | listed => exact listed_adds inductionHypothesis

/-- What the items behind an opening mention is in order: the reading arrives at the first token
with nothing said, and the items add to that. -/
theorem inOrder_items {first : Cursor} {trivia : Trivia} {levels : Nat} {scope : Scope}
    {state later : State} {answer : List Node × Nat} (opens : base.Opens 1 first)
    (read : items trivia first levels scope state = .ok (answer, later)) :
    InOrder base (sayings (mentionsOf answer.1)) := by
  have : Stays base checkWhole := by
    unfold checkWhole
    infer_instance
  obtain ⟨_, between, arrived, others⟩ := exists_of_bind read
  have come := come_arrive .nil opens (List.forall_mem_nil _) arrived
  have rest : Adds base [] (fun answer => mentionsOf answer.1) (do
      let items ← itemsWithDirective (item (reach levels))
      checkWhole
      return (items, (← get).finished)) :=
    (adds_itemsWithDirective (item_adds (reachesAdding_reach base levels))).bind fun nodes =>
      adds_behind fun _ => adds_behind fun _ => adds_pure rfl
  exact (rest [] scope between answer later come others).ordered

end Parse

/-- The line of an interpreter is passed, or there is none and the text is read from its start. -/
theorem leads_interpreterLine (text : List Char) :
    (Cursor.mk text 1).Leads (interpreterLine text).2 := by
  unfold interpreterLine
  split
  · exact Cursor.leads_skip _ _
  · exact Cursor.Leads.refl _

/-- The first token of a text counts as opened at its origin. -/
theorem Opening.opens {text : String} {opening : Opening} (opened : opening? text = some opening) :
    (Cursor.mk text.toList 1).Opens opening.origin opening.first := by
  obtain ⟨⟨trivia, first⟩, walked, same⟩ := Option.bind_eq_some_iff.mp opened
  obtain rfl := Option.some.inj same
  exact (Cursor.passes_trivia walked).opens.behind (leads_interpreterLine _)

/-- A program that was read counts positions from the origin of its opening. -/
theorem Program.lead_of_opening {source : String} {program : Program} {opening : Opening}
    (parsed : Program.parse source = .ok program) (opened : opening? source = some opening) :
    program.lead = opening.origin - 1 := by
  unfold Program.parse at parsed
  rw [opened] at parsed
  dsimp only at parsed
  split at parsed
  · cases parsed
  · obtain rfl := Except.ok.inj parsed
    rfl

/-- What a program mentions is said by its source, in the order of the text. Positions count from one
behind the characters that lead up to it. -/
theorem Program.inOrder_of_parse {source : String} {program : Program}
    (parsed : Program.parse source = .ok program) :
    ∃ front behind, source.toList = front ++ behind ∧ program.lead = weigh Char.utf8Size front ∧
      InOrder ⟨behind, 1⟩ (sayings program.mentions) := by
  obtain ⟨opening, finished, opened, read⟩ := Program.exists_opening parsed
  obtain ⟨later, made⟩ := Opening.exists_later read
  obtain ⟨place, ⟨front, text, position⟩, ⟨passed, behind, further⟩, origin, starts⟩ :=
    Opening.opens opened
  have position : place.position = 1 + weigh Char.utf8Size front := position
  have lead : program.lead = weigh Char.utf8Size front := by
    rw [Program.lead_of_opening parsed opened]
    omega
  have opens : (Cursor.mk place.text 1).Opens 1
      ⟨opening.first.text, 1 + (opening.first.position - opening.origin)⟩ := by
    refine ⟨⟨place.text, 1⟩, .refl _, ⟨passed, behind, ?_⟩, rfl, starts.imp_left ?_⟩
    · change 1 + (opening.first.position - opening.origin) = 1 + weigh Char.utf8Size passed
      omega
    · intro atFirst
      rw [← atFirst, origin, Nat.sub_self]
  exact ⟨front, place.text, text, lead, Parse.inOrder_items opens made⟩

/-- What stands at a site of a program is a token somewhere in its source. -/
theorem Program.exists_token_of_parse {source : String} {program : Program} {site : Site}
    (parsed : Program.parse source = .ok program) (inside : site ∈ program.sites) :
    ∃ text token behind, text <:+ source.toList ∧ Lexer.token text = some (token, behind) ∧
      token.wording? = some site.wording := by
  obtain ⟨front, behind, whole, -, ordered⟩ := Program.inOrder_of_parse parsed
  obtain ⟨mention, listed, rfl⟩ := List.mem_map.mp (program.perm_mentions.mem_iff.mpr inside)
  obtain ⟨start, token, rest, opens, read, wording, -⟩ :=
    ordered.standsIn mention.saying (List.mem_map.mpr ⟨mention, listed, rfl⟩)
  refine ⟨start.text, token, rest, ?_, read, wording⟩
  rw [whole]
  exact opens.leads.suffix.trans (List.suffix_append front behind)

/-- Every name of a program is a word of its source. -/
theorem Program.hasWord_of_parse {source : String} {program : Program}
    (parsed : Program.parse source = .ok program) : AreWords source.toList program.sites := by
  intro site inside word isWord
  obtain ⟨text, token, behind, suffix, read, wording⟩ := Program.exists_token_of_parse parsed inside
  have spelled : site.wording = .word word := by
    revert isWord
    cases site <;> rintro ⟨⟩ <;> rfl
  rw [spelled] at wording
  cases token with
  | word found spelling =>
    obtain rfl := Wording.word.inj (Option.some.inj wording)
    exact ⟨text, spelling, behind, suffix, Lexer.name_of_token read⟩
  | _ => cases wording

end Script

end PropertyMangling
