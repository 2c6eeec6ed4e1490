import PropertyMangling.Proofs.Script.Origin.Members
/-!
# Where the words of a program come from: expressions

From the tightest expressions to the loosest: each mentions what its parts do, in
the order of the text, and what it adds itself is read off the text. A value that
has been read already is given to the step that goes on with it.
-/
namespace PropertyMangling.Script.Parse

variable {base : Cursor} {self : Goal → Parse Node} (reaches : ReachesAdding base self)

/-! ## Values -/

/-- A regular expression mentions nothing. Its text is scanned by a rule of its own, so the place
behind it has to be seen to lie further on. -/
theorem regexLiteral_adds : Adds base [] Node.mentions regexLiteral := by
  intro before scope state answer later come read
  obtain ⟨_, _, got, found⟩ := exists_of_bind read
  obtain ⟨rfl, rfl⟩ := Prod.mk.inj (Except.ok.inj got)
  obtain ⟨⟨source, behind⟩, _, ran, loaded⟩ := exists_of_bind found
  obtain ⟨-, rfl⟩ := of_demand ran
  obtain ⟨_, moved, passed, last⟩ := exists_of_bind loaded
  obtain ⟨rfl, rfl⟩ := Prod.mk.inj (Except.ok.inj last)
  have ahead := Cursor.leads_skipTo state.lexeme.start behind
  exact come_load come.ordered (come.opens.leads.trans ahead) (come.le_of_leads ahead) passed

include reaches in
/-- A template mentions what its values do, one after the other. Between two values its text is
scanned apart from the tokens and mentions nothing. -/
theorem templateParts_adds (needsMeaning : Bool) :
    Adds base [] (fun parts => mentionsOf parts.2) (templateParts self needsMeaning) := by
  let found : List String × List Node × Bool → List Mention :=
    fun parts => mentionsOf parts.2.1.reverse
  have folded : ∀ step : List String × List Node × Bool → Parse (Option (List String × List Node × Bool)),
      (∀ parts, Adds base (found parts) (fun next? => found (next?.getD parts)) (step parts)) →
      Adds base (found ([], [], true)) found (fold step ([], [], true)) :=
    fun _ rounds => adds_fold rounds
  refine (folded _ ?_).andThen fun parts => adds_pure rfl
  rintro ⟨texts, values, goesOn⟩
  dsimp only
  split
  · exact adds_pure rfl
  · have behindText (text : Lexer.TemplateText) : Adds base (mentionsOf values.reverse)
        (fun next? => found (next?.getD (texts, values, goesOn)))
        (if text.goesOn then do
          let value ← enclosed (self .expression)
          require (← isSymbol "\x7d")
          return some (String.ofList text.source :: texts, value :: values, true)
        else return some (String.ofList text.source :: texts, values, false)) := by
      split
      · refine (enclosed_adds reaches .expression).bind fun value => ?_
        refine adds_behind fun closes => adds_behind fun _ => adds_pure ?_
        exact congrArg sayings (mentionsOf_reverse_cons value values).symm
      · exact adds_pure rfl
    intro before scope state answer later come read
    obtain ⟨_, _, got, others⟩ := exists_of_bind read
    obtain ⟨rfl, rfl⟩ := Prod.mk.inj (Except.ok.inj got)
    obtain ⟨⟨text, behind⟩, _, ran, required⟩ := exists_of_bind others
    obtain ⟨-, rfl⟩ := of_demand ran
    obtain ⟨_, _, held, loaded⟩ := exists_of_bind required
    obtain ⟨-, rfl⟩ := of_require held
    obtain ⟨_, moved, passed, last⟩ := exists_of_bind loaded
    have ahead := state.lexeme.leads_rest.trans (Cursor.leads_skipTo state.lexeme.rest behind)
    have come := come_load come.ordered (come.opens.leads.trans ahead) (come.le_of_leads ahead) passed
    exact behindText text before scope moved answer later come last

include reaches in
/-- An argument mentions what its expression does, spread or not. -/
theorem argument_adds : Adds base [] Node.mentions (argument self) := by
  refine adds_behind fun isSpread => ?_
  split
  · exact (enclosed_adds reaches .assignment).bind fun node => adds_pure rfl
  · exact enclosed_adds reaches .assignment

/-- What the elements of an array mention that is under way. -/
def listMentions (list : List Node × Bool) : List Mention := mentionsOf list.1.reverse

include reaches in
/-- One round of reading an array puts the mentions of an element behind those of the elements so
far; a hole adds none. -/
theorem arrayStep_adds (array : List Node × Bool) :
    Adds base (listMentions array) (fun next? => listMentions (next?.getD array))
      (arrayStep self array) := by
  have grown (element : Node) (comma : Bool) :
      Adds base (listMentions array ++ element.mentions)
        (fun next? => listMentions (next?.getD array)) (pure (some (element :: array.1, comma))) :=
    adds_pure (congrArg sayings (mentionsOf_reverse_cons element array.1).symm)
  refine adds_behind fun closes => ?_
  split
  · exact adds_pure rfl
  · refine adds_behind fun isHole => ?_
    split
    · exact (grown .hole false).leftOut
    · refine (argument_adds reaches).bind fun element => adds_behind fun closes => ?_
      split
      · exact grown element false
      · exact adds_behind fun _ => grown element true

include reaches in
/-- An array mentions what its elements do, one after the other, which the rounds of reading them
keep. -/
theorem arrayLiteral_adds : Adds base [] Node.mentions (arrayLiteral self) := by
  have elements : Adds base (listMentions ([], false)) listMentions
      (fold (arrayStep self) ([], false)) :=
    adds_fold (arrayStep_adds reaches)
  exact adds_behind fun _ => elements.andThen fun array => adds_behind fun _ => adds_pure rfl

include reaches in
/-- The arguments of a call mention what each of them does, in their order. -/
theorem arguments_adds : Adds base [] (fun list => mentionsOf list.1) (arguments self) :=
  adds_behind fun _ => adds_nodeList _ (argument_adds reaches)

include reaches in
/-- A function mentions its name, if it has one, then its parameters and then its body. -/
theorem functionExpression_adds (isAsync : Bool) :
    Adds base [] Node.mentions (functionExpression self isAsync) := by
  refine adds_behind fun _ => adds_behind fun isGenerator => ?_
  refine (optionalName_adds.within _).bind fun name? => ?_
  refine (functionParts_adds reaches _).bind fun parts => adds_pure ?_
  rw [partMentions, ← List.append_assoc]
  rfl

include reaches in
/-- A class in an expression mentions its parts in the order of the text; the walk takes the
members in front of the parent. -/
theorem classExpression_adds : Adds base [] Node.mentions (classExpression self) :=
  (classParts_adds reaches optionalName_adds).bind fun _ => adds_pure rfl

instance stays_isFollowedBy (word : String) : Stays base (isFollowedBy word) := by
  refine stays_behind fun next? => ?_
  split <;> infer_instance

include reaches in
/-- A construction mentions its callee and then its arguments, which may be left out. -/
theorem newExpression_adds : Adds base [] Node.mentions (newExpression self) := by
  refine adds_behind fun _ => adds_behind fun asksTarget => ?_
  split
  · exact adds_behind fun _ => adds_behind fun _ => adds_behind fun _ => adds_pure rfl
  · refine (reaches .callee).bind fun callee => adds_behind fun isCalled => ?_
    split
    · exact (arguments_adds reaches).bind fun list => adds_pure rfl
    · exact adds_pure (congrArg sayings (List.append_nil _).symm)

/-- The word for the parent class is a word of the grammar and is not mentioned. -/
theorem parentWord_adds (canCall : Bool) : Adds base [] Node.mentions (parentWord canCall) := by
  refine adds_behind fun _ => adds_behind fun _ => adds_behind fun _ => ?_
  dsimp only
  split
  · exact adds_behind fun _ => adds_behind fun _ => adds_pure rfl
  · exact adds_behind fun _ => adds_behind fun _ => adds_pure rfl

/-- The word of an import is not mentioned, and neither is the name behind a point, which is read
as a name all the same and then forgotten. -/
theorem importWord_adds (canCall : Bool) : Adds base [] Node.mentions (importWord canCall) := by
  refine adds_behind fun _ => adds_behind fun hasPoint => ?_
  split
  · refine adds_behind fun _ => (@anyName_adds base .variable fun _ => rfl).bind fun name => ?_
    -- the name behind the point is no variable
    refine Adds.forget ?_ [name.mention .variable]
    split
    · exact adds_pure rfl
    · exact adds_behind fun _ => adds_behind fun _ => adds_behind fun _ => adds_pure rfl
  · exact adds_behind fun _ => adds_behind fun _ => adds_pure rfl

include reaches in
/-- A value that starts with a word mentions that word when it is a variable; the words with a
grammar of their own mention what follows them. -/
theorem wordValue_adds (canCall : Bool) (text : String) :
    Adds base [] Node.mentions (wordValue self canCall text) := by
  have plain : ∀ word : Word,
      Adds base [] Node.mentions (advance >>= fun _ => pure (.word word)) :=
    fun _ => adds_behind fun _ => adds_pure rfl
  unfold wordValue
  split
  · exact plain _
  · exact plain _
  · exact plain _
  · exact plain _
  · exact functionExpression_adds reaches false
  · exact classExpression_adds reaches
  · exact newExpression_adds reaches
  · exact parentWord_adds canCall
  · exact importWord_adds canCall
  · refine adds_behind fun isAsync => ?_
    split
    · exact adds_behind fun _ => functionExpression_adds reaches true
    · exact variableName_adds.bind fun name => adds_pure rfl

instance stays_noteParameters (params : List Node) :
    Stays base (noteParameters params) := by
  unfold noteParameters
  infer_instance

/-- Items that are turned into parameters mention the same words as before, since a pattern says
what the expression did. -/
theorem parametersOf_adds (items : List Node) (trailing : Bool) :
    Adds base (mentionsOf items) mentionsOf (parametersOf items trailing) :=
  (adds_demand fun _ turned => (sayings_elementsToPattern? turned).symm).andThen fun _ =>
    adds_behind fun _ => adds_pure rfl

/-- Items that have become parameters stay items as well, so that their mentions are made twice.
Only here is something said again. -/
theorem parametersOf_again (items : List Node) (trailing : Bool) :
    Adds base (mentionsOf items) (fun params => mentionsOf items ++ mentionsOf params)
      (parametersOf items trailing) := by
  have read : Adds base (mentionsOf items) (fun params => mentionsOf items ++ mentionsOf params)
      (demand (elementsToPattern? true trailing items)) := by
    cases turned : elementsToPattern? true trailing items with
    | none => exact adds_fail
    | some params =>
      refine adds_again (fun saying listed => ?_) rfl
      rwa [sayings_elementsToPattern? turned] at listed
  exact read.andThen fun _ => adds_behind fun _ => adds_pure rfl

include reaches in
/-- An arrow function mentions its parameters, which were read already, and then its body. -/
theorem arrowBody_adds (isAsync : Bool) (params : List Node) :
    Adds base (mentionsOf params) Node.mentions (arrowBody self isAsync params) := by
  refine adds_behind fun isBlock => ?_
  split
  · exact ((blockBody_adds reaches).secluded.within _).bind fun body => adds_behind fun _ =>
      adds_pure rfl
  · exact ((reaches .assignment).secluded.within _).bind fun body => adds_pure rfl

include reaches in
/-- One round of the items in parentheses adds the mentions of an argument. Behind an arrow the
items so far are mentioned again, as the parameters of the function that is added. -/
theorem parenStep_adds (list : List Node × Bool) :
    Adds base (listMentions list) (fun next? => listMentions (next?.getD list))
      (parenStep self list) := by
  refine adds_behind fun closes => ?_
  split
  · exact adds_pure rfl
  · refine (argument_adds reaches).bind fun first => ?_
    have more : listMentions list ++ first.mentions = mentionsOf (first :: list.1).reverse :=
      (mentionsOf_reverse_cons first list.1).symm
    rw [more]
    refine adds_behind fun isArrow => ?_
    extract_lets last
    have lastAdds : ∀ items : List Node, Adds base (mentionsOf items.reverse)
        (fun next? => listMentions (next?.getD list)) (last items) := by
      intro items
      refine adds_behind fun closes => ?_
      split
      · exact adds_pure rfl
      · exact adds_behind fun _ => adds_pure rfl
    split
    · -- the items stay as they are, and the arrow behind them has them as parameters
      refine (parametersOf_again _ false).andThen fun params => ?_
      refine ((arrowBody_adds reaches false params).frame _).andThen fun arrow => ?_
      rw [← mentionsOf_reverse_cons]
      exact lastAdds (arrow :: first :: list.1)
    · exact lastAdds _

include reaches in
/-- The items in parentheses mention their words one after the other, which the rounds of reading
them keep. -/
theorem parenItems_adds : Adds base [] (fun list => mentionsOf list.1) (parenItems self) := by
  have items : Adds base (listMentions ([], false)) listMentions (fold (parenStep self) ([], false)) :=
    adds_fold (parenStep_adds reaches)
  exact adds_behind fun _ => (items.within _).andThen fun list => adds_behind fun _ => adds_pure rfl

/-- Items in parentheses that are no parameters mention the same as the expression that they
amount to. -/
theorem parenOf_adds (start : Nat) (items : List Node) :
    Adds base (mentionsOf items) Node.mentions (parenOf start items) := by
  refine adds_behind fun _ => adds_behind fun span => ?_
  split
  · exact adds_fail
  · exact adds_pure (congrArg sayings (mentionsOf_singleton _))
  · exact adds_pure rfl

include reaches in
/-- A primary expression mentions the words in it in their order. The case split is on its first
token, and the cases with parts have lemmas of their own. -/
theorem primary_adds (canCall : Bool) : Adds base [] Node.mentions (primary self canCall) := by
  refine adds_behind fun start => adds_behind fun current => ?_
  split
  · exact variableName_adds.bind fun name => adds_pure rfl
  · exact wordValue_adds reaches canCall _
  · exact adds_behind fun _ => adds_pure rfl
  · refine adds_behind fun _ => (@anyName_adds base .variable fun _ => rfl).bind fun name => ?_
    refine Adds.forget ?_ [name.mention .variable]
    exact adds_pure rfl
  · exact numberLiteral_adds
  · exact numberLiteral_adds
  · exact (@quoted_adds base .literal fun _ => rfl).bind fun literal => adds_pure rfl
  · exact (parenItems_adds reaches).andThen fun list => adds_behind fun _ =>
      adds_behind fun _ => parenOf_adds start list.1
  · exact arrayLiteral_adds reaches
  · exact objectLiteral_adds reaches
  · exact (templateParts_adds reaches true).andThen fun parts => adds_pure rfl
  · exact regexLiteral_adds
  · exact regexLiteral_adds
  · exact adds_fail

/-! ## Members and calls -/

section Chains

variable (head : Head)

/-- A member behind a point is mentioned behind its object; a private one is not. -/
theorem namedMember_adds (optional : Bool) :
    Adds base head.node.mentions Node.mentions (namedMember head optional) := by
  refine adds_behind fun current => ?_
  split
  · exact adds_behind fun _ => adds_behind fun _ => adds_pure rfl
  · exact (@anyName_adds base .name fun _ => rfl).bind fun name => adds_behind fun span =>
      adds_pure rfl

include reaches

/-- A member in brackets mentions its object and then the index. A string between the brackets
plays the part of a subscript and says the same. -/
theorem bracketMember_adds (optional : Bool) :
    Adds base head.node.mentions Node.mentions (bracketMember self head optional) := by
  refine adds_behind fun start => adds_behind fun _ => ?_
  refine (enclosed_adds reaches .expression).bind fun index => ?_
  refine adds_behind fun _ => adds_behind fun span => adds_behind fun bracket => adds_pure ?_
  exact (sayings_subscript span head.node bracket index optional).symm

/-- A call mentions what is called and then the arguments, also where the call turns out to be one
of the import word. -/
theorem callOf_adds (optional : Bool) :
    Adds base head.node.mentions Node.mentions (callOf self head optional) := by
  refine (arguments_adds reaches).bind fun list => ?_
  dsimp only
  split
  · exact adds_behind fun _ => adds_behind fun span => adds_pure rfl
  · exact adds_behind fun span => adds_pure rfl

/-- One link of a chain is mentioned behind the links so far; where the chain ends nothing is
added. -/
theorem chainStep_adds (canCall : Bool) :
    Adds base head.node.mentions (fun next? => (next?.getD head).node.mentions)
      (chainStep self canCall head) := by
  have grown : ∀ node : Node, Adds base node.mentions
      (fun next? : Option Head => (next?.getD head).node.mentions)
      (pure (some { head with node := node })) :=
    fun node => adds_pure rfl
  refine adds_behind fun current => ?_
  split
  · exact adds_behind fun _ => (namedMember_adds head false).andThen grown
  · exact (bracketMember_adds reaches head false).andThen grown
  · split
    · exact (callOf_adds reaches head false).andThen grown
    · exact adds_pure rfl
  · refine adds_behind fun isChain => ?_
    split
    · exact adds_pure rfl
    · refine adds_behind fun _ => adds_behind fun _ => adds_behind fun _ =>
        adds_behind fun isBracket => ?_
      split
      · exact (bracketMember_adds reaches head true).andThen grown
      · refine adds_behind fun isCall => ?_
        split
        · exact (callOf_adds reaches head true).andThen grown
        · exact (namedMember_adds head true).andThen grown
  · exact adds_behind fun _ => (templateParts_adds reaches false).bind fun parts =>
      grown (.tagged head.node parts.1 parts.2)
  · exact adds_pure rfl

end Chains

/-! ## Operators -/

/-- What a value that has been read already mentions. -/
def headMentions : Option Head → List Mention
  | none => []
  | some head => head.node.mentions

instance stays_unaryOp? : Stays base unaryOp? := by
  refine stays_behind fun current => ?_
  split <;> infer_instance

instance stays_updateOp? : Stays base updateOp? := by
  refine stays_behind fun current => ?_
  split <;> infer_instance

instance stays_isAfterBareAwait : Stays base isAfterBareAwait := by
  refine stays_behind fun state => ?_
  split <;> infer_instance

instance stays_binaryOp? : Stays base binaryOp? := by
  refine stays_behind fun current => ?_
  split
  · infer_instance
  · refine stays_behind fun _ => ?_
    split <;> infer_instance
  · infer_instance
  · infer_instance

instance stays_eatArrow : Stays base eatArrow := by
  unfold eatArrow
  infer_instance

instance stays_isParameterName (token : Token) : Stays base (isParameterName token) := by
  unfold isParameterName
  split <;> infer_instance

instance stays_isOperatorMark : Stays base isOperatorMark := by
  refine stays_behind fun current => ?_
  split <;> infer_instance

instance stays_assignOp? : Stays base assignOp? := by
  refine stays_behind fun current => ?_
  split
  · infer_instance
  · refine stays_either inferInstance ?_
    split
    · split <;> infer_instance
    · infer_instance
  · infer_instance

/-- A simple target is the node that was given and mentions the same. -/
theorem simpleTarget_adds (node : Node) :
    Adds base node.mentions Node.mentions (simpleTarget node) :=
  adds_behind fun _ => adds_behind fun _ => adds_pure rfl

/-- Joining two operands mentions the left one and then the right one, with or without the checks
on how they may be mixed. -/
theorem binaryOf_adds (op : BinaryOp) (left right : Node) :
    Adds base (left.mentions ++ right.mentions) Node.mentions (binaryOf op left right) := by
  unfold binaryOf
  extract_lets joined judged
  have joinedAdds : ∀ passed,
      Adds base (left.mentions ++ right.mentions) Node.mentions (joined passed) :=
    fun _ => adds_pure rfl
  have judgedAdds : ∀ passed,
      Adds base (left.mentions ++ right.mentions) Node.mentions (judged passed) := by
    intro passed
    dsimp only [judged]
    split
    · exact adds_behind joinedAdds
    · exact joinedAdds ()
  split
  · exact adds_behind judgedAdds
  · exact judgedAdds ()

include reaches

/-- A subject mentions its head, which was read before or is read here, and then the links of its
chain in their order. -/
theorem subject_adds (canCall : Bool) (head? : Option Head) :
    Adds base (headMentions head?) Node.mentions (subject self canCall head?) := by
  have chain : ∀ head : Head, Adds base head.node.mentions Node.mentions
      (fold (chainStep self canCall) head >>= fun last => pure last.node) := by
    intro head
    have chained : Adds base head.node.mentions (fun head => head.node.mentions)
        (fold (chainStep self canCall) head) :=
      adds_fold fun head => chainStep_adds reaches head canCall
    exact chained.andThen fun _ => adds_pure rfl
  cases head? with
  | some head => exact chain head
  | none =>
    refine adds_behind fun start => (primary_adds reaches canCall).bind fun node => ?_
    exact chain ⟨node, start, false⟩

/-- An awaited expression mentions its operand. The word in front is read as a name and is
mentioned only where it turns out to be a variable. -/
theorem awaitExpression_adds : Adds base [] Node.mentions (awaitExpression self) := by
  refine adds_behind fun scope => (@anyName_adds base .variable fun _ => rfl).bind fun name => ?_
  refine adds_behind fun isBare => ?_
  split
  · exact adds_pure rfl
  · -- the word is no variable here
    refine Adds.forget ?_ [name.mention .variable]
    exact adds_behind fun _ => adds_behind fun _ => (reaches .unary).bind fun node => adds_pure rfl

/-- An increment behind an operand adds no mention of its own. -/
theorem postfixed_adds (head? : Option Head) :
    Adds base (headMentions head?) Node.mentions (postfixed self head?) := by
  refine (subject_adds reaches true head?).andThen fun node => adds_behind fun sign? => ?_
  split
  · refine adds_behind fun state => ?_
    split
    · exact adds_pure rfl
    · exact (simpleTarget_adds node).andThen fun target => adds_behind fun _ => adds_pure rfl
  · exact adds_pure rfl

/-- An operand mentions what the subject in it does; the operators in front are marks or words of
the grammar. -/
theorem operand_adds (head? : Option Head) :
    Adds base (headMentions head?) (fun found => found.1.mentions) (operand self head?) := by
  cases head? with
  | some head =>
    simp only [operand]
    split
    · exact adds_pure rfl
    · exact (postfixed_adds reaches (some head)).andThen fun node => adds_pure rfl
  | none =>
    refine adds_behind fun sign? => ?_
    split
    · refine adds_behind fun _ => (reaches .unary).bind fun operand => ?_
      extract_lets last
      have lastAdds : ∀ passed,
          Adds base operand.mentions (fun found => found.1.mentions) (last passed) :=
        fun _ => adds_pure rfl
      split
      · exact adds_behind lastAdds
      · exact lastAdds ()
    · refine adds_behind fun update? => ?_
      split
      · refine adds_behind fun _ => (reaches .unary).bind fun operand => ?_
        exact (simpleTarget_adds operand).andThen fun target => adds_pure rfl
      · refine adds_behind fun waits => ?_
        split
        · exact (awaitExpression_adds reaches).andThen fun node => adds_pure rfl
        · exact (postfixed_adds reaches none).andThen fun node => adds_pure rfl

/-- A power mentions its base and then its exponent. -/
theorem powered_adds (head? : Option Head) :
    Adds base (headMentions head?) Node.mentions (powered self head?) := by
  refine (operand_adds reaches head?).andThen fun base => adds_behind fun isPower => ?_
  split
  · exact adds_behind fun _ => adds_behind fun _ => (reaches .power).bind fun power => adds_pure rfl
  · exact adds_pure rfl

/-- Operands that are joined mention their words from left to right. The induction is on the
levels of operators; at each of them a round puts one more operand to the right. -/
theorem joined_adds (levels : Nat) (head? : Option Head) :
    Adds base (headMentions head?) Node.mentions (joined self head? levels) := by
  induction levels generalizing head? with
  | zero => exact powered_adds reaches head?
  | succ levels inductionHypothesis =>
    refine (inductionHypothesis head?).andThen fun first => adds_fold fun left => ?_
    refine adds_behind fun op? => ?_
    split
    · exact adds_pure rfl
    · split
      · refine adds_behind fun _ => (inductionHypothesis none).bind fun right => ?_
        exact (binaryOf_adds _ left right).andThen fun node => adds_pure rfl
      · exact adds_pure rfl

/-- A conditional mentions its condition and then the two branches in their order. -/
theorem conditional_adds (head? : Option Head) :
    Adds base (headMentions head?) Node.mentions (conditional self head?) := by
  refine (joined_adds reaches 10 head?).andThen fun test => adds_behind fun isTest => ?_
  split
  · refine (enclosed_adds reaches .assignment).bind fun consequent => ?_
    exact adds_behind fun _ => (reaches .assignment).bind fun alternate => adds_pure rfl
  · exact adds_pure rfl

/-! ## Assignments -/

/-- What stands in front of an operator mentions. -/
def foundMentions : Node ⊕ Option Head → List Mention
  | .inl arrow => arrow.mentions
  | .inr head? => headMentions head?

/-- A list and what is behind it, when an arrow follows: what stands in front of the list stays
there. -/
theorem arrowOrList_used (start : Nat) (async? : Option Name) :
    Adds base (variableMentions async?)
      (Sum.elim (fun arrow => variableMentions async? ++ arrow.mentions) headMentions)
      (arrowOrList self start async?) := by
  refine (parenItems_adds reaches).bind fun list => adds_behind fun isArrow => ?_
  split
  · refine ((parametersOf_adds list.1 list.2).frame _).andThen fun params => ?_
    refine ((arrowBody_adds reaches _ params).frame _).andThen fun arrow => ?_
    exact adds_behind fun _ => adds_behind fun _ => adds_pure rfl
  · split
    · exact (parenOf_adds start list.1).andThen fun node => adds_pure rfl
    · exact adds_behind fun _ => adds_behind fun _ => adds_pure rfl

/-- An arrow function behind a list mentions nothing that stands in front of the list. -/
theorem arrowOrList_unused (start : Nat) (async? : Option Name) :
    Adds base [] (Sum.elim Node.mentions fun _ => []) (arrowOrList self start async?) := by
  refine (parenItems_adds reaches).bind fun list => adds_behind fun isArrow => ?_
  split
  · refine (parametersOf_adds list.1 list.2).andThen fun params => ?_
    refine (arrowBody_adds reaches _ params).andThen fun arrow => ?_
    exact adds_behind fun _ => adds_behind fun _ => adds_pure rfl
  · split
    · refine (parenOf_adds start list.1).andThen fun node => ?_
      exact adds_none rfl
    · exact adds_behind fun _ => adds_behind fun span => adds_none rfl

/-- The word in front of a list is a variable, unless it belongs to an arrow. -/
theorem arrowOrList_adds (start : Nat) (async? : Option Name) :
    Adds base (variableMentions async?) foundMentions (arrowOrList self start async?) := by
  refine (arrowOrList_used reaches start async?).either (arrowOrList_unused reaches start async?) ?_
  intro found
  cases found with
  | inl arrow => exact .inr rfl
  | inr head? => exact .inl rfl

/-- Behind the word for asynchronous code stands an arrow function, which does not mention that
word, or the word was a variable and is the head of what follows. -/
theorem asyncArrow_adds (start : Nat) : Adds base [] foundMentions (asyncArrow self start) := by
  refine variableName_adds.bind fun async => adds_behind fun scope => ?_
  refine adds_behind fun isOf => adds_behind fun isArrow => ?_
  split
  · exact adds_behind fun _ => adds_pure rfl
  · -- the word is no variable here
    refine Adds.forget ?_ [async.mention .variable]
    refine (bindingName_adds.within _).bind fun name => adds_behind fun _ => ?_
    exact (arrowBody_adds reaches true [.identifier name]).andThen fun arrow => adds_pure rfl

/-- What is found where an arrow function may start mentions all that was read for it, be it the
function, the head of an expression or nothing. -/
theorem arrowOrHead_adds : Adds base [] foundMentions (arrowOrHead self) := by
  have none : Adds base [] foundMentions (pure (.inr none)) := adds_pure rfl
  refine adds_behind fun start => adds_behind fun current => ?_
  split
  · exact arrowOrList_adds reaches start Option.none
  · refine adds_behind fun next? => ?_
    split
    · refine adds_behind fun isName => ?_
      dsimp only
      split
      · exact none
      · refine variableName_adds.bind fun name => adds_behind fun _ => adds_behind fun _ => ?_
        exact (arrowBody_adds reaches false [.identifier name]).andThen fun arrow => adds_pure rfl
    · split
      · exact variableName_adds.bind fun name => arrowOrList_adds reaches start (some name)
      · exact none
    · refine adds_behind fun isName => ?_
      split
      · exact asyncArrow_adds reaches start
      · exact none
    · exact none
  · exact none

/-- A yielded expression mentions what is yielded; the word in front is one of the grammar. -/
theorem yieldExpression_adds : Adds base [] Node.mentions (yieldExpression self) := by
  refine adds_behind fun _ => adds_behind fun _ => adds_behind fun _ => adds_behind fun _ => ?_
  split
  · exact adds_pure rfl
  · refine adds_behind fun delegates => ?_
    split
    · exact (reaches .assignment).bind fun node => adds_pure rfl
    · refine adds_behind fun current => ?_
      split
      all_goals first
        | exact adds_pure rfl
        | exact (reaches .assignment).bind fun node => adds_pure rfl

/-- An assignment mentions its target and then its value; every other expression of that level was
mentioned when it was read. -/
theorem assignment_adds : Adds base [] Node.mentions (assignment self) := by
  refine adds_behind fun start => adds_behind fun scope => adds_behind fun isYield => ?_
  split
  · exact yieldExpression_adds reaches
  · refine (arrowOrHead_adds reaches).andThen fun found => ?_
    split
    · exact adds_pure rfl
    · next head? =>
      refine (conditional_adds reaches head?).andThen fun left => adds_behind fun op? => ?_
      have assigned : ∀ op? (target : Node), Adds base target.mentions Node.mentions (do
          advance
          let value ← self .assignment
          return .assign (← spanFrom start) op? target value) :=
        fun _ _ => adds_behind fun _ => (reaches .assignment).bind fun value =>
          adds_behind fun span => adds_pure rfl
      split
      · exact adds_pure rfl
      · exact (assignmentTarget_adds left).andThen (assigned _)
      · exact (simpleTarget_adds left).andThen (assigned _)

/-- Expressions with commas between them mention their words one after the other; a single one
stands for itself. -/
theorem expression_adds : Adds base [] Node.mentions (expression self) := by
  refine (reaches .assignment).bind fun first => ?_
  have items : Adds base (mentionsOf [first].reverse) (fun items => mentionsOf items.reverse)
      (fold (fun items => do
        if ← eat "," then return some ((← self .assignment) :: items) else return none) [first]) :=
    adds_fold (adds_more (reaches .assignment))
  refine Adds.andThen (items.congr (congrArg sayings (mentionsOf_singleton first).symm)
    fun _ => rfl) fun items => ?_
  split
  · exact adds_pure (congrArg sayings (mentionsOf_singleton _))
  · exact adds_pure rfl

end PropertyMangling.Script.Parse
