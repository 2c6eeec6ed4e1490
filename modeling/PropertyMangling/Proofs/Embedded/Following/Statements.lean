import PropertyMangling.Proofs.Embedded.Following.Expressions
/-!
# Steps that follow one another: statements and the items of a program

A statement that is a string and nothing else may be the directive that opens a program or
a body, and it counts whether a semicolon of its own ends it: the places where both texts
end the string and the statement decide that in the same way. The circle of the steps is
closed by the number of levels.
-/
namespace PropertyMangling.Script.Parse

open Embedded

variable {exchange : Exchange} {α : Type} {pre : State → Prop} {given : Bool → List Span}
  {self : Goal → Parse Node} (reaches : ReachesAlike exchange self)

/-! ## Looks -/

instance plain_isIterated : Plain exchange isIterated := by
  unfold isIterated
  infer_instance

instance plain_variableKind? : Plain exchange variableKind? where
  follows := by
    have told (kind? : Option VariableKind) {pre : State → Prop} :
        Follows exchange pre nothing .plain (pure kind?) (pure kind?) := follows_plain _
    refine follows_isWord (told _) (follows_isWord (told _) (follows_isWord ?_ (told _)))
    refine follows_peek (fun _ known => looksAhead_of_means known.2) (fun _ _ _ => rfl) fun next? => ?_
    split <;> exact told _

/-- Whether a function is declared here is asked of the current token and the one behind it, and
no string answers it. -/
theorem glances_opensFunction : Glances exchange opensFunction where
  still := by
    obtain ⟨seen, looks⟩ := (glances_isFollowedBy "function" : Glances exchange _).still
    refine ⟨fun scope state =>
      means "function" state.token || (means "async" state.token && seen scope state), ?_⟩
    intro scope state
    change (isFollowedBy "function" scope state >>= fun found => (pure (means "function" state.token ||
      (means "async" state.token && found.1)) : Parse Bool) scope found.2) = _
    rw [looks]
    rfl
  follows := by
    refine follows_behind fun isFunction => ?_
    refine follows_wordAnd (glances_isFollowedBy _) (fun _ _ => rfl) fun isAsync isBefore => ?_
    exact follows_plain _

instance plain_opensFunction : Plain exchange opensFunction where
  follows := by
    refine follows_behind fun isFunction => ?_
    refine follows_wordAnd (glances_isFollowedBy _) (fun _ _ => rfl) fun isAsync isBefore => ?_
    exact follows_plain _

/-- Whether the current word is a label is answered alike in both texts: the colon behind it is no
string. -/
theorem isLabel_follows : Follows exchange looking given .plain isLabel isLabel := by
  have told (answer : Bool) {pre : State → Prop} :
      Follows exchange pre given .plain (pure answer) (pure answer) := follows_plain _
  refine follows_isWord (told _) ?_
  refine follows_peek (fun _ => id) (fun _ _ _ => rfl) fun next? => ?_
  split <;> exact told _

/-- A part that may be left out is there in both texts, or in none of them. -/
theorem isSome_eq {node? nodeToo? : Option Node}
    (same : node?.map Node.outline = nodeToo?.map Node.outline) : nodeToo?.isSome = node?.isSome := by
  rw [← Option.isSome_map, ← same, Option.isSome_map]

section Declarations

include reaches

/-- An expression in parentheses behind a word of the grammar is read alike in both texts. -/
theorem parenthesised_follows :
    Follows exchange pre nothing (.node exchange) (parenthesised self) (parenthesised self) := by
  refine follows_behind fun _ => ?_
  refine (enclosed_follows reaches .expression).andThen fun inner innerToo same => ?_
  exact follows_behind fun _ => follows_pure same fun _ => List.Subset.refl _

/-- A declarator is read alike in both texts, with a value in both or in none, so that the same is
demanded of it. -/
theorem declaratorOf_follows (kind : VariableKind) (inHead : Bool) :
    Follows exchange pre nothing (.node exchange) (declaratorOf self kind inHead)
      (declaratorOf self kind inHead) := by
  refine follows_at fun start startToo => follows_behind fun isLet => follows_behind fun _ => ?_
  refine (goal_follows reaches .binding).andThen fun target targetToo same => ?_
  refine follows_behind fun hasValue => ?_
  extract_lets judged judgedToo
  have judgedFollow : ∀ value? valueToo? : Option Node,
      value?.map Node.outline = valueToo?.map Node.outline →
      Follows exchange anywhere (fun keys => target.spots keys ++ Kind.someNode.spots value? keys)
        (.node exchange) (judged value?) (judgedToo valueToo?) := by
    intro value? valueToo? same'
    refine follows_behind fun iterated => ?_
    extract_lets last lastToo
    have lastFollows : ∀ passed, Follows exchange anywhere
        (fun keys => target.spots keys ++ Kind.someNode.spots value? keys) (.node exchange)
        (last passed) (lastToo passed) := fun _ => follows_over fun span spanToo =>
      follows_node rfl (by simp [Node.outline, same.outline, same']) fun keys => by simp [Node.spots]
    rw [← Option.not_isSome, ← Option.not_isSome, isSome_eq same']
    split
    · refine follows_behind fun _ => follows_require ?_ (lastFollows ())
      exact eq_of_outline isIdentifier_outline same.outline
    · exact lastFollows ()
  split
  · exact ((goal_follows reaches .assignment).within _).present judgedFollow
  · exact follows_absent judgedFollow

/-- Declarators with commas between them are read alike in both texts. -/
theorem declarators_follows (kind : VariableKind) (inHead : Bool) :
    Follows exchange pre nothing .nodes (declarators self kind inHead)
      (declarators self kind inHead) := by
  refine (declaratorOf_follows reaches kind inHead).andThen fun first firstToo same => ?_
  have one : Kind.nodes.alike [first] [firstToo] := congrArg (fun node => [node]) same.outline
  refine ((follows_fold (fun items itemsToo same => ?_) one).weaken (fun _ => id)
    fun keys => by simp).andThen fun items itemsToo same => ?_
  · refine follows_behind fun comma => ?_
    split
    · refine (declaratorOf_follows reaches kind inHead).ofNothing.andThen fun item itemToo same' => ?_
      exact follows_pure (congrArg₂ List.cons same'.outline same)
        fun keys span => by simp [Kind.option, or_comm]
    · exact follows_pure trivial fun _ => List.nil_subset _
  · exact follows_pure (map_reverse_congr same) fun keys => List.Subset.trans
      (spots_reverse_subset _) (List.subset_append_right _ _)

/-- A declaration of variables is read alike in both texts, whatever kind of variables it
declares. -/
theorem variableStatement_follows (kind : VariableKind) :
    Follows exchange pre nothing (.node exchange) (variableStatement self kind)
      (variableStatement self kind) := by
  refine follows_at fun start startToo => follows_behind fun _ => ?_
  refine (declarators_follows reaches kind false).andThen
    fun items itemsToo (same : items.map _ = itemsToo.map _) => ?_
  refine follows_behind fun _ => follows_over fun span spanToo => ?_
  exact follows_node rfl (by simp [Node.outline, same]) fun keys => by simp [Node.spots]

/-- A declared function is read alike in both texts: its name, its parameters and its body. -/
theorem functionDeclaration_follows (isAsync : Bool) :
    Follows exchange pre nothing (.node exchange) (functionDeclaration self isAsync)
      (functionDeclaration self isAsync) := by
  refine follows_behind fun _ => follows_behind fun isGenerator => ?_
  refine bindingName_follows.andThen fun name nameToo sameName => ?_
  refine (functionParts_follows reaches _).ofNothing.andThen ?_
  rintro ⟨params, body⟩ ⟨paramsToo, bodyToo⟩
    ⟨(sameParams : params.map _ = paramsToo.map _), (sameBody : body.map _ = bodyToo.map _)⟩
  exact follows_node rfl (by simp [Node.outline, bare_eq sameName, sameParams, sameBody])
    fun keys => by simp [Node.spots]

/-- A declared class is read alike in both texts: its name, its parent and its members. -/
theorem classDeclaration_follows :
    Follows exchange pre nothing (.node exchange) (classDeclaration self) (classDeclaration self) := by
  have named : Follows exchange anywhere nothing .name (do
      require (!(← isWord "let"))
      bindingName) (do
      require (!(← isWord "let"))
      bindingName) :=
    follows_behind fun _ => follows_behind fun _ => bindingName_follows
  refine (classParts_follows reaches (fun _ _ => rfl) named).andThen ?_
  rintro ⟨name, parent?, members⟩ ⟨nameToo, parentToo?, membersToo⟩
    ⟨sameName, (sameParent : parent?.map _ = parentToo?.map _),
      (sameMembers : members.map _ = membersToo.map _)⟩
  exact follows_node rfl (by simp [Node.outline, bare_eq sameName, sameParent, sameMembers])
    fun keys => by simp [Node.spots]

/-- A declared function that may be asynchronous is read alike in both texts. -/
theorem openedFunction_follows :
    Follows exchange pre nothing (.node exchange) (openedFunction self) (openedFunction self) :=
  follows_behind fun isAsync => functionDeclaration_follows reaches isAsync

end Declarations

/-! ## Loops -/

/-- Whether a list is one declared variable alone, and then whether it goes without a value. -/
def loneValue? : List Node → Option Bool
  | [.declarator _ _ value?] => some value?.isNone
  | _ => none

/-- Of two lists with the same outlines both are one declared variable, with a value or without, or
none of them is. -/
theorem lone_cases {items itemsToo : List Node}
    (same : items.map Node.outline = itemsToo.map Node.outline) :
    (∃ span target value? spanToo targetToo valueToo?, items = [.declarator span target value?] ∧
      itemsToo = [.declarator spanToo targetToo valueToo?] ∧ valueToo?.isNone = value?.isNone) ∨
      ∀ span target value?, items ≠ [.declarator span target value?] := by
  have seen : loneValue? itemsToo = loneValue? items := by
    refine eq_of_outlines loneValue? (fun nodes => ?_) same
    rcases nodes with _ | ⟨node, _ | ⟨second, rest⟩⟩
    · rfl
    · cases node with
      | declarator span target value? => cases value? <;> rfl
      | _ => rfl
    · cases node <;> rfl
  have lone {nodes : List Node} {absent : Bool} (found : loneValue? nodes = some absent) :
      ∃ span target value?, nodes = [.declarator span target value?] ∧ value?.isNone = absent := by
    unfold loneValue? at found
    split at found
    · exact ⟨_, _, _, rfl, Option.some.inj found⟩
    · cases found
  cases found : loneValue? items with
  | none =>
    refine .inr fun span target value? => ?_
    rintro rfl
    cases found
  | some absent =>
    obtain ⟨span, target, value?, rfl, rfl⟩ := lone found
    obtain ⟨spanToo, targetToo, valueToo?, rfl, none⟩ := lone (seen.trans found)
    exact .inl ⟨_, _, _, _, _, _, rfl, rfl, none⟩

section Loops

include reaches

/-- The body of a loop is read alike in both texts, in the scope of a loop. -/
theorem loopBody_follows :
    Follows exchange pre given (.node exchange) (loopBody self) (loopBody self) :=
  (goal_follows reaches .statement).within _

/-- A choice is read alike in both texts, with another branch in both or in none. -/
theorem ifStatement_follows :
    Follows exchange pre nothing (.node exchange) (ifStatement self) (ifStatement self) := by
  refine follows_behind fun _ => (parenthesised_follows reaches).andThen fun test testToo sameTest => ?_
  refine (goal_follows reaches .statement).andThen fun consequent consequentToo same => ?_
  refine follows_behind fun hasOther => ?_
  extract_lets last lastToo
  have lastFollow : ∀ other? otherToo? : Option Node,
      other?.map Node.outline = otherToo?.map Node.outline →
      Follows exchange anywhere (fun keys => (nothing keys ++ test.spots keys ++
        consequent.spots keys) ++ Kind.someNode.spots other? keys) (.node exchange) (last other?)
        (lastToo otherToo?) := fun other? otherToo? same' =>
    follows_node rfl (by simp [Node.outline, sameTest.outline, same.outline, same'])
      fun keys => by simp [Node.spots]
  split
  · exact (goal_follows reaches .statement).present lastFollow
  · exact follows_absent lastFollow

/-- A loop with its condition in front is read alike in both texts. -/
theorem whileStatement_follows :
    Follows exchange pre nothing (.node exchange) (whileStatement self) (whileStatement self) := by
  refine follows_behind fun _ => (parenthesised_follows reaches).andThen fun test testToo same => ?_
  refine (loopBody_follows reaches).andThen fun body bodyToo same' => ?_
  exact follows_node rfl (by simp [Node.outline, same.outline, same'.outline])
    fun keys => by simp [Node.spots]

/-- A loop with its condition behind is read alike in both texts. -/
theorem doWhile_follows :
    Follows exchange pre nothing (.node exchange) (doWhile self) (doWhile self) := by
  refine follows_behind fun _ => (loopBody_follows reaches).andThen fun body bodyToo same => ?_
  refine follows_behind fun _ => ?_
  refine (parenthesised_follows reaches).ofNothing.andThen fun test testToo same' => ?_
  refine follows_behind fun _ => ?_
  exact follows_node rfl (by simp [Node.outline, same.outline, same'.outline])
    fun keys => by simp [Node.spots]

/-- A counted loop is read alike in both texts behind a start with the same outline, with the same
of its parts left out. -/
theorem countedLoop_follows {start? startToo? : Option Node}
    (same : start?.map Node.outline = startToo?.map Node.outline) :
    Follows exchange pre (fun keys => Kind.someNode.spots start? keys) (.node exchange)
      (countedLoop self start?) (countedLoop self startToo?) := by
  refine follows_behind fun noTest => ?_
  extract_lets tested testedToo
  have testedFollow : ∀ test? testToo? : Option Node,
      test?.map Node.outline = testToo?.map Node.outline →
      Follows exchange anywhere (fun keys => Kind.someNode.spots start? keys ++
        Kind.someNode.spots test? keys) (.node exchange) (tested test?) (testedToo testToo?) := by
    intro test? testToo? sameTest
    refine follows_behind fun _ => follows_behind fun noStep => ?_
    extract_lets stepped steppedToo
    have steppedFollow : ∀ step? stepToo? : Option Node,
        step?.map Node.outline = stepToo?.map Node.outline →
        Follows exchange anywhere (fun keys => (Kind.someNode.spots start? keys ++
          Kind.someNode.spots test? keys) ++ Kind.someNode.spots step? keys) (.node exchange)
          (stepped step?) (steppedToo stepToo?) := by
      intro step? stepToo? sameStep
      refine follows_behind fun _ => (loopBody_follows reaches).andThen fun body bodyToo sameBody => ?_
      exact follows_node rfl (by simp [Node.outline, same, sameTest, sameStep, sameBody.outline])
        fun keys => by simp [Node.spots]
    split
    · exact follows_absent steppedFollow
    · exact (enclosed_follows reaches .expression).present steppedFollow
  split
  · exact follows_absent testedFollow
  · exact (enclosed_follows reaches .expression).present testedFollow

/-- An iteration is read alike in both texts over targets with the same outlines. -/
theorem iteratedLoop_follows {target targetToo : Node} (isAwait : Bool)
    (same : target.outline = targetToo.outline) :
    Follows exchange pre (fun keys => target.spots keys) (.node exchange)
      (iteratedLoop self isAwait target) (iteratedLoop self isAwait targetToo) := by
  refine follows_behind fun isOf => ?_
  split
  · refine (enclosed_follows reaches .assignment).andThen fun subject subjectToo same' => ?_
    refine follows_behind fun _ => (loopBody_follows reaches).andThen fun body bodyToo same'' => ?_
    exact follows_node rfl (by simp [Node.outline, same, same'.outline, same''.outline])
      fun keys => by simp [Node.spots]
  · refine follows_behind fun _ => follows_behind fun _ => ?_
    refine (enclosed_follows reaches .expression).andThen fun subject subjectToo same' => ?_
    refine follows_behind fun _ => (loopBody_follows reaches).andThen fun body bodyToo same'' => ?_
    exact follows_node rfl (by simp [Node.outline, same, same'.outline, same''.outline])
      fun keys => by simp [Node.spots]

/-- A loop that declares variables is read alike in both texts. Whether one variable is declared
without a value, as an iteration asks for, shows in the outlines. -/
theorem declaredLoop_follows (isAwait : Bool) (kind : VariableKind) :
    Follows exchange pre nothing (.node exchange) (declaredLoop self isAwait kind)
      (declaredLoop self isAwait kind) := by
  refine follows_at fun start startToo => follows_behind fun _ => ?_
  refine (declarators_follows reaches kind true).andThen
    fun items itemsToo (same : items.map _ = itemsToo.map _) => ?_
  refine follows_over fun span spanToo => follows_behind fun isIterated => ?_
  have outline : (Node.variables span kind items).outline =
      (Node.variables spanToo kind itemsToo).outline := by simp [Node.outline, same]
  have spots (keys : Bool) : (Node.variables span kind items).spots keys ⊆
      nothing keys ++ Kind.nodes.spots items keys := by simp [Node.spots]
  split
  · rcases lone_cases same with ⟨_, _, _, _, _, _, rfl, rfl, absent⟩ | other
    · dsimp only
      rw [absent]
      refine follows_behind fun isIn => follows_behind fun scope => follows_behind fun _ => ?_
      exact (iteratedLoop_follows reaches isAwait outline).weaken (fun _ => id) spots
    · split
      · exact absurd rfl (other _ _ _)
      · exact follows_fail
  · refine follows_behind fun _ => follows_behind fun _ => ?_
    have given : (some (Node.variables span kind items)).map Node.outline =
        (some (Node.variables spanToo kind itemsToo)).map Node.outline := congrArg some outline
    exact (countedLoop_follows reaches given).weaken (fun _ => id) fun keys => by simpa using spots keys

/-- A loop is read alike in both texts: it iterates in both or counts in both, since the word or
the semicolon that tells is the same. -/
theorem forStatement_follows :
    Follows exchange pre nothing (.node exchange) (forStatement self) (forStatement self) := by
  refine follows_behind fun _ => follows_behind fun isAwait => follows_behind fun _ => ?_
  refine follows_behind fun kind? => ?_
  split
  · exact declaredLoop_follows reaches isAwait _
  refine follows_behind fun isEmpty => ?_
  split
  · exact follows_behind fun _ => (countedLoop_follows reaches rfl).weaken (fun _ => id)
      fun _ => List.nil_subset _
  refine ((goal_follows reaches .expression).within _).andThen fun head headToo same => ?_
  refine follows_behind fun isIterated => ?_
  split
  · refine ((assignmentTarget_follows same.outline).weaken (fun _ => id)
      fun _ => List.subset_append_right _ _).andThen fun target targetToo sameTarget => ?_
    exact (iteratedLoop_follows reaches isAwait sameTarget).weaken (fun _ => id)
      fun _ => List.subset_append_right _ _
  · refine follows_behind fun _ => follows_behind fun _ => ?_
    have given : (some head).map Node.outline = (some headToo).map Node.outline :=
      congrArg some same.outline
    exact (countedLoop_follows reaches given).weaken (fun _ => id) fun keys => by simp

end Loops

/-! ## Parts of statements -/

/-- A label that may be left out is left out in both texts or in none, and names the same
enclosing statement. -/
theorem optionalLabel_follows :
    Follows exchange pre nothing .someName optionalLabel optionalLabel := by
  refine follows_behind fun ends => ?_
  split
  · exact follows_behind fun _ => follows_pure rfl fun _ => List.nil_subset _
  · refine freeName_follows.andThen fun label labelToo (same : label.text = labelToo.text) => ?_
    rw [same]
    refine follows_behind fun scope => follows_behind fun _ => follows_behind fun _ => ?_
    exact follows_pure (congrArg some same) fun _ => List.nil_subset _

section Parts

include reaches

/-- A value that may be left out is left out in both texts or in none; what ends the statement
without it is no string. -/
theorem optionalValue_follows :
    Follows exchange pre nothing .someNode (optionalValue self) (optionalValue self) := by
  refine follows_behind fun ends => ?_
  extract_lets last
  have lastFollow : ∀ value? valueToo? : Option Node,
      value?.map Node.outline = valueToo?.map Node.outline →
      Follows exchange anywhere (fun keys => nothing keys ++ Kind.someNode.spots value? keys) .someNode
        (last value?) (last valueToo?) := fun value? valueToo? same =>
    follows_behind fun _ => follows_pure same fun keys => by simp
  split
  · exact follows_absent lastFollow
  · exact (enclosed_follows reaches .expression).present lastFollow

/-- A case is read alike in both texts, with its test or as the default one. -/
theorem caseItem_follows : Follows exchange pre nothing .item (caseItem self) (caseItem self) := by
  refine follows_behind fun closes => ?_
  split
  · exact follows_noItem
  refine follows_behind fun hasTest => ?_
  extract_lets filled
  have filledFollow : ∀ test? testToo? : Option Node,
      test?.map Node.outline = testToo?.map Node.outline →
      Follows exchange anywhere (fun keys => nothing keys ++ Kind.someNode.spots test? keys) .item
        (filled test?) (filled testToo?) := by
    intro test? testToo? same
    refine follows_behind fun _ => ?_
    refine ((follows_items ?_).ofNothing).andThen
      fun body bodyToo (same' : body.map _ = bodyToo.map _) => ?_
    · refine follows_behind fun _ => follows_behind fun _ => follows_behind fun _ => ?_
      split
      · exact follows_noItem
      · refine (goal_follows reaches .listed).andThen fun node nodeToo same => ?_
        exact follows_item same.outline fun _ => List.Subset.refl _
    · exact follows_item (by simp [Node.outline, same, same']) fun keys => by simp [Node.spots]
  split
  · exact (enclosed_follows reaches .expression).present filledFollow
  · exact follows_behind fun _ => follows_absent filledFollow

/-- A switch is read alike in both texts, and has at most one default case in both. -/
theorem switchStatement_follows :
    Follows exchange pre nothing (.node exchange) (switchStatement self) (switchStatement self) := by
  refine follows_behind fun _ => (parenthesised_follows reaches).andThen fun value valueToo same => ?_
  refine follows_behind fun _ => ?_
  refine (((follows_items (caseItem_follows reaches)).within _).ofNothing).andThen
    fun cases casesToo (same' : cases.map _ = casesToo.map _) => ?_
  refine follows_behind fun _ => follows_require ?_ ?_
  · refine congrArg (fun count => decide (count ≤ 1)) ?_
    exact eq_of_outlines (fun nodes => (nodes.filter isDefaultCase).length)
      (fun nodes => by simp [List.filter_map, Function.comp_def]) same'
  · exact follows_node rfl (by simp [Node.outline, same.outline, same'])
      fun keys => by simp [Node.spots]

/-- A handler is read alike in both texts, with a parameter in both or in none. -/
theorem catchClause_follows :
    Follows exchange pre nothing (.node exchange) (catchClause self) (catchClause self) := by
  refine follows_behind fun _ => follows_behind fun hasParam => ?_
  extract_lets last
  have lastFollow : ∀ param? paramToo? : Option Node,
      param?.map Node.outline = paramToo?.map Node.outline →
      Follows exchange anywhere (fun keys => nothing keys ++ Kind.someNode.spots param? keys)
        (.node exchange) (last param?) (last paramToo?) := by
    intro param? paramToo? same
    refine (blockBody_follows reaches).ofNothing.andThen
      fun body bodyToo (same' : body.map _ = bodyToo.map _) => ?_
    exact follows_node rfl (by simp [Node.outline, same, same']) fun keys => by simp [Node.spots]
  split
  · refine (goal_follows reaches .binding).andThen fun target targetToo same => ?_
    refine follows_behind fun _ => ?_
    exact (lastFollow (some target) (some targetToo) (congrArg some same.outline)).weaken
      (fun _ => id) fun keys => by simp
  · exact follows_absent lastFollow

/-- A guarded block is read alike in both texts, with the same parts behind it, of which one is
demanded. -/
theorem tryStatement_follows :
    Follows exchange pre nothing (.node exchange) (tryStatement self) (tryStatement self) := by
  refine follows_behind fun _ => (blockBody_follows reaches).andThen
    fun body bodyToo (same : body.map _ = bodyToo.map _) => follows_behind fun hasHandler => ?_
  extract_lets handled handledToo
  have handledFollow : ∀ handler? handlerToo? : Option Node,
      handler?.map Node.outline = handlerToo?.map Node.outline →
      Follows exchange anywhere (fun keys => (nothing keys ++ Kind.nodes.spots body keys) ++
        Kind.someNode.spots handler? keys) (.node exchange) (handled handler?)
        (handledToo handlerToo?) := by
    intro handler? handlerToo? sameHandler
    refine follows_behind fun hasFinalizer => ?_
    extract_lets last lastToo
    have lastFollow : ∀ finalizer? finalizerToo? : Option Node,
        finalizer?.map Node.outline = finalizerToo?.map Node.outline →
        Follows exchange anywhere (fun keys => ((nothing keys ++ Kind.nodes.spots body keys) ++
          Kind.someNode.spots handler? keys) ++ Kind.someNode.spots finalizer? keys)
          (.node exchange) (last finalizer?) (lastToo finalizerToo?) := by
      intro finalizer? finalizerToo? sameFinalizer
      refine follows_require ?_ ?_
      · rw [isSome_eq sameHandler, isSome_eq sameFinalizer]
      · exact follows_node rfl (by simp [Node.outline, same, sameHandler, sameFinalizer])
          fun keys => by simp [Node.spots]
    split
    · refine (blockBody_follows reaches).ofNothing.andThen
        fun finalizer finalizerToo (sameLast : finalizer.map _ = finalizerToo.map _) => ?_
      refine (lastFollow (some (.block finalizer)) (some (.block finalizerToo)) ?_).weaken
        (fun _ => id) fun keys => by simp [Node.spots]
      simp [Node.outline, sameLast]
    · exact follows_absent lastFollow
  split
  · exact (catchClause_follows reaches).present handledFollow
  · exact follows_absent handledFollow

/-- A statement with an object in front is read alike in both texts, and only where the code is
not strict. -/
theorem withStatement_follows :
    Follows exchange pre nothing (.node exchange) (withStatement self) (withStatement self) := by
  refine follows_behind fun _ => follows_behind fun _ => ?_
  refine (parenthesised_follows reaches).andThen fun subject subjectToo same => ?_
  refine ((goal_follows reaches .statement).within _).andThen fun body bodyToo same' => ?_
  exact follows_node rfl (by simp [Node.outline, same.outline, same'.outline])
    fun keys => by simp [Node.spots]

end Parts

/-! ## Statements -/

/-- Whether an expression is a string and nothing else, as a directive is. -/
def isString : Node → Bool
  | .string _ => true
  | _ => false

/-- A string is read where the other text has one; of other expressions no directive is made. -/
theorem string_cases {expression twin : Node} (same : expression.outline = twin.outline) :
    (∃ literal literalToo, expression = .string literal ∧ twin = .string literalToo) ∨
      (∀ span, hasSemicolon (.expressionStatement span expression) = false) ∧
        ∀ span, hasSemicolon (.expressionStatement span twin) = false := by
  have seen : isString twin = isString expression :=
    eq_of_outline (fun node => by cases node <;> rfl) same
  have other {node : Node} (none : isString node = false) (span : Span) :
      hasSemicolon (.expressionStatement span node) = false := by
    cases node with
    | string => cases none
    | _ => rfl
  have found {node : Node} (some : isString node = true) : ∃ literal, node = .string literal := by
    cases node with
    | string literal => exact ⟨literal, rfl⟩
    | _ => cases some
  cases read : isString expression with
  | false => exact .inr ⟨other read, other (seen.trans read)⟩
  | true =>
    obtain ⟨literal, rfl⟩ := found read
    obtain ⟨literalToo, rfl⟩ := found (seen.trans read)
    exact .inl ⟨literal, literalToo, rfl, rfl⟩

/-- Whether a semicolon of its own ends a directive is the same in both texts: the string ends in
front of the same places. -/
theorem hasSemicolon_eq {expression twin : Node} (same : Alike exchange expression twin)
    (start startToo : Nat) {finished finishedToo : Nat} (meets : exchange.Meets finished finishedToo) :
    hasSemicolon (.expressionStatement ⟨startToo, finishedToo⟩ twin) =
      hasSemicolon (.expressionStatement ⟨start, finished⟩ expression) := by
  rcases string_cases same.outline with ⟨literal, literalToo, rfl, rfl⟩ | ⟨other, otherToo⟩
  · exact decide_eq_decide.mpr (same.ends _ _ rfl rfl _ _ meets).symm
  · rw [other, otherToo]

/-- An expression that stands as a statement tells by its end whether a semicolon of its own ends
it, and the two texts agree on that for strings. -/
theorem statementOf_follows {expression twin : Node} (start startToo : Nat)
    (same : Alike exchange expression twin) :
    Follows exchange pre (fun keys => expression.spots keys) (.node exchange)
      (spanFrom start >>= fun span => pure (.expressionStatement span expression))
      (spanFrom startToo >>= fun span => pure (.expressionStatement span twin)) := by
  let tell (start : Nat) (node : Node) (state : State) : Node :=
    .expressionStatement ⟨start, state.finished⟩ node
  have told : Follows exchange pre (fun keys => expression.spots keys) (.node exchange)
      (get >>= fun state => pure (tell start expression state))
      (get >>= fun state => pure (tell startToo twin state)) := by
    refine follows_told (fun beside => .of_outline rfl ?_) fun _ _ => List.Subset.refl _
    simp only [tell, Node.outline, semicolonSpan, same.outline,
      hasSemicolon_eq same start startToo beside.finished]
  exact told

/-- The flavor of a function declaration. -/
def declaredFlavor? : Node → Option Flavor
  | .functionDeclaration flavor .. => some flavor
  | _ => none

/-- Of two nodes with one outline both declare a function of one flavor, or none of them does. -/
theorem function_cases {node twin : Node} (same : node.outline = twin.outline) :
    (∃ flavor name params body nameToo paramsToo bodyToo,
      node = .functionDeclaration flavor name params body ∧
      twin = .functionDeclaration flavor nameToo paramsToo bodyToo) ∨
      ∀ flavor name params body, node ≠ .functionDeclaration flavor name params body := by
  have seen : declaredFlavor? twin = declaredFlavor? node :=
    eq_of_outline (fun node => by cases node <;> rfl) same
  have declared {node : Node} {flavor : Flavor} (found : declaredFlavor? node = some flavor) :
      ∃ name params body, node = .functionDeclaration flavor name params body := by
    unfold declaredFlavor? at found
    split at found
    · obtain rfl := Option.some.inj found
      exact ⟨_, _, _, rfl⟩
    · cases found
  cases found : declaredFlavor? node with
  | none =>
    refine .inr fun flavor name params body => ?_
    rintro rfl
    cases found
  | some flavor =>
    obtain ⟨name, params, body, rfl⟩ := declared found
    obtain ⟨nameToo, paramsToo, bodyToo, rfl⟩ := declared (seen.trans found)
    exact .inl ⟨_, _, _, _, _, _, _, rfl, rfl⟩

include reaches

/-- A labelled statement is read alike in both texts, and a function behind a label is a plain one
in both. -/
theorem labelled_follows :
    Follows exchange pre nothing (.node exchange) (labelled self) (labelled self) := by
  refine variableName_follows.andThen fun label labelToo (same : label.text = labelToo.text) => ?_
  rw [← same]
  refine follows_behind fun _ => follows_behind fun scope => follows_behind fun _ => ?_
  refine follows_behind fun isFunction => ?_
  split
  · refine follows_behind fun scope => follows_behind fun _ => ?_
    refine ((functionDeclaration_follows reaches false).within _).ofNothing.andThen
      fun node nodeToo same' => ?_
    rcases function_cases same'.outline with ⟨_, _, _, _, _, _, _, rfl, rfl⟩ | other
    · refine follows_behind fun _ => follows_node rfl ?_ fun keys => ?_
      · exact congrArg₂ Node.labeled (bare_eq same) same'.outline
      · exact List.subset_append_right _ _
    · split
      · exact absurd rfl (other _ _ _ _)
      · exact follows_fail
  · refine ((goal_follows reaches .statement).within _).andThen fun body bodyToo same' => ?_
    exact follows_node rfl (congrArg₂ Node.labeled (bare_eq same) same'.outline)
      fun keys => List.subset_append_right _ _

/-- An expression that stands as a statement is read alike in both texts, up to the end that the
statement has. -/
theorem expressionStatement_follows :
    Follows exchange pre nothing (.node exchange) (expressionStatement self)
      (expressionStatement self) := by
  refine follows_at fun start startToo => ?_
  refine (enclosed_follows reaches .expression).andThen fun expression twin same => ?_
  exact follows_behind fun _ => statementOf_follows start startToo same

/-- An expression that starts with the word of an import is read alike as a statement in both
texts. -/
theorem importStatement_follows :
    Follows exchange pre nothing (.node exchange) (importStatement self) (importStatement self) := by
  refine follows_at fun start startToo => ?_
  refine (goal_follows reaches .expression).andThen fun expression twin same => ?_
  exact follows_behind fun _ => statementOf_follows start startToo same

/-- A word that opens a statement is looked behind for a label. -/
theorem labelOr_follows :
    Follows exchange looking nothing (.node exchange)
      (isLabel >>= fun found => if found then labelled self else expressionStatement self)
      (isLabel >>= fun found => if found then labelled self else expressionStatement self) := by
  refine isLabel_follows.andAlso (fun _ _ => rfl) ?_
  rintro found _ ⟨⟩
  split
  · exact labelled_follows reaches
  · exact expressionStatement_follows reaches

/-- A statement that starts with a word is read alike in both texts. The word is the same, so the
same case of the grammar applies. -/
theorem wordStatement_follows (text : String) :
    Follows exchange looking nothing (.node exchange) (wordStatement self text)
      (wordStatement self text) := by
  unfold wordStatement
  split
  · exact variableStatement_follows reaches .var
  · exact ifStatement_follows reaches
  · exact forStatement_follows reaches
  · exact whileStatement_follows reaches
  · exact doWhile_follows reaches
  · refine follows_behind fun scope => follows_behind fun _ => follows_behind fun _ => ?_
    refine (optionalValue_follows reaches).andThen
      fun value? valueToo? (same : value?.map _ = valueToo?.map _) => ?_
    exact follows_node rfl (by simp [Node.outline, same]) fun keys => by simp [Node.spots]
  · refine follows_behind fun scope => follows_behind fun _ => follows_behind fun _ => ?_
    refine optionalLabel_follows.andThen fun label? labelToo? same => ?_
    exact follows_node rfl (congrArg Node.breakStatement (someBare_eq same)) fun _ => List.nil_subset _
  · refine follows_behind fun scope => follows_behind fun _ => follows_behind fun _ => ?_
    refine optionalLabel_follows.andThen fun label? labelToo? same => ?_
    exact follows_node rfl (congrArg Node.continueStatement (someBare_eq same))
      fun _ => List.nil_subset _
  · refine follows_behind fun _ => follows_behind fun ends => follows_behind fun _ => ?_
    refine (enclosed_follows reaches .expression).andThen fun value valueToo same => ?_
    refine follows_behind fun _ => ?_
    exact follows_node rfl (congrArg Node.throwStatement same.outline) fun _ => List.Subset.refl _
  · exact tryStatement_follows reaches
  · exact switchStatement_follows reaches
  · exact withStatement_follows reaches
  · exact importStatement_follows reaches
  · refine follows_behind fun _ => follows_behind fun _ => ?_
    exact follows_node rfl rfl fun _ => List.nil_subset _
  · refine follows_require rfl (follows_glance glances_opensFunction (fun _ => id) fun opens => ?_)
    split
    · exact (openedFunction_follows reaches)
    · exact labelOr_follows reaches

/-- A statement is read alike in both texts. The case split is on its first token, which is the
same unless it is a string, and a string starts an expression. -/
theorem statement_follows :
    Follows exchange pre nothing (.node exchange) (statement self) (statement self) := by
  refine follows_token (fun _ _ => rfl) fun token => ?_
  split
  · refine (blockBody_follows reaches).always.andThen
      fun body bodyToo (same : body.map _ = bodyToo.map _) => ?_
    exact follows_node rfl (by simp [Node.outline, same]) fun keys => by simp [Node.spots]
  · exact follows_behind fun _ => follows_node rfl rfl fun _ => List.nil_subset _
  · refine (labelOr_follows reaches).weaken ?_ fun _ => List.Subset.refl _
    exact fun state ⟨_, token⟩ => congrArg Token.looksAhead token
  · refine (wordStatement_follows reaches _).weaken ?_ fun _ => List.Subset.refl _
    exact fun state ⟨_, token⟩ => congrArg Token.looksAhead token
  · exact expressionStatement_follows reaches

/-- What may stand in a list of statements is read alike in both texts, be it a declaration or a
statement. -/
theorem listed_follows :
    Follows exchange pre nothing (.node exchange) (listed self) (listed self) := by
  refine follows_behind fun kind? => ?_
  split
  · exact variableStatement_follows reaches _
  refine follows_behind fun opens => ?_
  split
  · exact openedFunction_follows reaches
  refine follows_behind fun isClass => ?_
  split
  · exact classDeclaration_follows reaches
  · exact statement_follows reaches

end PropertyMangling.Script.Parse
