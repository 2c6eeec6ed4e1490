import PropertyMangling.Proofs.Embedded.Following.Members
import PropertyMangling.Proofs.Embedded.Following.Moves
/-!
# Steps that follow one another: expressions

From the tightest expressions to the loosest, each step of the grammar is followed by
itself when its parts are. What it asks of the parts is seen in their outlines. A value
that has been read already is handed to the step that goes on with it, and an expression
that is a string and nothing else keeps what is known of strings.
-/
namespace PropertyMangling.Script.Parse

open Embedded

variable {exchange : Exchange} {α β : Type} {pre : State → Prop} {given : Bool → List Span}

/-! ## Kinds of answers -/

/-- A value that has been read already; where it started does not matter. -/
def Kind.head (exchange : Exchange) : Kind Head where
  alike head twin := Alike exchange head.node twin.node ∧ head.complete = twin.complete
  spots head keys := head.node.spots keys
  total head :=
    let ⟨twin, alike⟩ := (Kind.node exchange).total head.node
    ⟨{ head with node := twin }, alike, rfl⟩

/-- An answer of one of two kinds. -/
def Kind.sum (first : Kind α) (second : Kind β) : Kind (α ⊕ β) where
  alike
    | .inl answer, .inl twin => first.alike answer twin
    | .inr answer, .inr twin => second.alike answer twin
    | _, _ => False
  spots answer keys := answer.elim (fun answer => first.spots answer keys)
    fun answer => second.spots answer keys
  total
    | .inl answer =>
      let ⟨twin, alike⟩ := first.total answer
      ⟨.inl twin, alike⟩
    | .inr answer =>
      let ⟨twin, alike⟩ := second.total answer
      ⟨.inr twin, alike⟩

section Values

variable {self : Goal → Parse Node} (reaches : ReachesAlike exchange self)

/-! ## Values -/

/-- What is read of a template: its texts and its values, last first, and whether it goes on. -/
abbrev TemplateState := List String × List Node × Bool

/-- One more text of a template, and the value behind it. -/
def templateStep (self : Goal → Parse Node) (needsMeaning : Bool) (parts : TemplateState) :
    Parse (Option TemplateState) := do
  let (texts, values, goesOn) := parts
  if !goesOn then return none
  else
    let text ← templateText needsMeaning
    let texts := String.ofList text.source :: texts
    if text.goesOn then
      let value ← enclosed (self .expression)
      require (← isSymbol "\x7d")
      return some (texts, value :: values, true)
    else return some (texts, values, false)

/-- A template is read in such steps, one for each text and the value behind it. The definition
writes a round out in place; here it has a name to state things of. -/
theorem templateParts_eq (needsMeaning : Bool) :
    templateParts self needsMeaning = (do
      let (texts, values, _) ← fold (templateStep self needsMeaning) ([], [], true)
      return (texts.reverse, values.reverse)) := by
  unfold templateParts
  refine congrArg (fun step => fold step ([], [], true) >>= _) (funext fun parts => ?_)
  obtain ⟨texts, values, goesOn⟩ := parts
  cases goesOn with
  | false => rfl
  | true =>
    simp only [templateStep, templateText, bind_assoc, pure_bind, Bool.not_true, Bool.false_eq_true,
      if_false]

/-- A step through a template that may go on ends in front of the brace behind a value. -/
theorem comes_of_templateStep {needsMeaning : Bool} {parts next : TemplateState} {scope : Scope}
    {state later : State}
    (read : templateStep self needsMeaning parts scope state = .ok (some next, later))
    (goesOn : next.2.2 = true) : later.token.looksAhead = false := by
  obtain ⟨texts, values, more⟩ := parts
  cases more with
  | false => cases read
  | true =>
    obtain ⟨text, first, -, rest⟩ := exists_of_bind read
    dsimp only at rest
    split at rest
    · obtain ⟨value, second, -, rest⟩ := exists_of_bind rest
      obtain ⟨closes, _, seen, rest⟩ := exists_of_bind rest
      obtain ⟨rfl, rfl⟩ := Prod.mk.inj (Except.ok.inj ((isSymbol_eq _ scope second).symm.trans seen))
      obtain ⟨_, _, required, last⟩ := exists_of_bind rest
      obtain ⟨closes, rfl⟩ := of_require required
      cases last
      rw [eq_of_beq closes]
      rfl
    · cases rest
      cases goesOn

include reaches in
/-- One step through a template is read alike in both texts when it starts at the mark in front of
a text; the texts are the same, and the values have the same outlines. -/
theorem templateStep_follows (needsMeaning : Bool) {parts partsToo : TemplateState}
    (same : (Kind.plain.pair (.pair .nodes .plain)).alike parts partsToo) :
    Follows exchange (fun state => parts.2.2 = true → state.token.looksAhead = false)
      (Kind.spots (.pair .plain (.pair .nodes .plain)) parts)
      (Kind.option (.pair .plain (.pair .nodes .plain)))
      (templateStep self needsMeaning parts) (templateStep self needsMeaning partsToo) := by
  obtain ⟨texts, values, goesOn⟩ := parts
  obtain ⟨_, valuesToo, _⟩ := partsToo
  obtain ⟨⟨⟩, (same : values.map _ = valuesToo.map _), ⟨⟩⟩ := same
  cases goesOn with
  | false => exact follows_pure trivial fun _ => List.nil_subset _
  | true =>
    refine (((templateText_follows needsMeaning).weaken (fun _ holds => holds rfl)
      fun _ => List.nil_subset _)).andThen ?_
    rintro text _ ⟨⟩
    dsimp only
    split
    · refine (enclosed_follows reaches .expression).andThen fun value valueToo same' => ?_
      refine follows_behind fun closes => follows_behind fun _ => ?_
      exact follows_pure ⟨rfl, congrArg₂ List.cons same'.outline same, rfl⟩
        fun keys span => by simp [Kind.option, or_comm]
    · exact follows_pure ⟨rfl, same, rfl⟩ fun keys span => by simp [Kind.option]

include reaches in
/-- The texts and the values of a template. Each round starts at the mark in front of a text. -/
theorem templateParts_follows (needsMeaning : Bool) :
    Follows exchange (fun state => state.token.looksAhead = false) nothing (.pair .plain .nodes)
      (templateParts self needsMeaning) (templateParts self needsMeaning) := by
  have folded := follows_fold_from
    (fun (parts : TemplateState) state => parts.2.2 = true → state.token.looksAhead = false)
    (fun _ read goesOn => comes_of_templateStep read goesOn)
    (fun _ _ => templateStep_follows reaches needsMeaning)
    (show (Kind.plain.pair (.pair .nodes .plain)).alike ([], [], true) ([], [], true) from
      ⟨rfl, rfl, rfl⟩)
  rw [templateParts_eq]
  refine (folded.weaken (fun _ holds _ => holds) fun _ => List.Subset.refl _).andThen ?_
  rintro ⟨texts, values, goesOn⟩ ⟨_, valuesToo, _⟩
    ⟨⟨⟩, (same : values.map _ = valuesToo.map _), ⟨⟩⟩
  exact follows_pure ⟨rfl, map_reverse_congr same⟩ fun keys span => by simp

include reaches in
/-- An argument is read alike in both texts, spread or not. -/
theorem argument_follows :
    Follows exchange pre nothing (.node exchange) (argument self) (argument self) := by
  refine follows_behind fun isSpread => ?_
  split
  · refine (enclosed_follows reaches .assignment).andThen fun argument argumentToo same => ?_
    exact follows_node rfl (congrArg Node.spread same.outline) fun _ => List.Subset.refl _
  · exact enclosed_follows reaches .assignment

/-- The elements of a list that is under way, last first, and whether a comma came last. -/
abbrev Kind.underway : Kind (List Node × Bool) := .pair .nodes .plain

include reaches in
/-- One round of reading an array adds elements with the same outlines in both texts, or ends the
array in both. -/
theorem arrayStep_follows {array arrayToo : List Node × Bool}
    (same : Kind.underway.alike array arrayToo) :
    Follows exchange anywhere (Kind.underway.spots array) Kind.underway.option
      (arrayStep self array) (arrayStep self arrayToo) := by
  obtain ⟨elements, trailing⟩ := array
  obtain ⟨elementsToo, _⟩ := arrayToo
  obtain ⟨(same : elements.map _ = elementsToo.map _), ⟨⟩⟩ := same
  refine follows_behind fun closes => ?_
  split
  · exact follows_pure trivial fun _ => List.nil_subset _
  refine follows_behind fun isHole => ?_
  split
  · exact follows_pure ⟨congrArg (Node.hole :: ·) same, rfl⟩ fun keys => by
      simp [Kind.option, Node.spots]
  refine (argument_follows reaches).ofNothing.andThen fun element elementToo same' => ?_
  have found (comma : Bool) : Follows exchange anywhere
      (fun keys => Kind.underway.spots (elements, trailing) keys ++ element.spots keys)
      Kind.underway.option (pure (some (element :: elements, comma)))
      (pure (some (elementToo :: elementsToo, comma))) :=
    follows_pure ⟨congrArg₂ List.cons same'.outline same, rfl⟩ fun keys => by simp [Kind.option]
  refine follows_behind fun closes => ?_
  split
  · exact found false
  · exact follows_behind fun _ => found true

include reaches in
/-- An array is read alike in both texts, round by round. -/
theorem arrayLiteral_follows :
    Follows exchange pre nothing (.node exchange) (arrayLiteral self) (arrayLiteral self) := by
  refine follows_behind fun _ => ?_
  have folded : Follows exchange anywhere nothing .underway (fold (arrayStep self) ([], false))
      (fold (arrayStep self) ([], false)) :=
    follows_fold (fun _ _ => arrayStep_follows reaches)
      (show Kind.underway.alike ([], false) ([], false) from ⟨rfl, rfl⟩)
  refine folded.andThen ?_
  rintro ⟨elements, trailing⟩ ⟨elementsToo, _⟩ ⟨(same : elements.map _ = elementsToo.map _), ⟨⟩⟩
  refine follows_behind fun _ => ?_
  exact follows_node rfl (by simp [Node.outline, same]) fun keys span => by simp [Node.spots]

include reaches in
/-- The arguments of a call are read alike in both texts, between the same commas. -/
theorem arguments_follows :
    Follows exchange pre nothing .underway (arguments self) (arguments self) :=
  follows_behind fun _ => follows_nodeList _ (argument_follows reaches)

/-- Names that may be left out and have the same texts are the same once their places are taken
away. -/
theorem someBare_eq {name? nameToo? : Option Name} (same : name?.map Name.text = nameToo?.map Name.text) :
    name?.map Name.bare = nameToo?.map Name.bare := by
  have bare (name? : Option Name) : name?.map Name.bare = (name?.map Name.text).map (Name.mk nowhere) := by
    cases name? <;> rfl
  rw [bare, same, bare]

include reaches in
/-- A function in an expression is read alike in both texts: its name, its parameters and its
body. -/
theorem functionExpression_follows (isAsync : Bool) :
    Follows exchange pre nothing (.node exchange) (functionExpression self isAsync)
      (functionExpression self isAsync) := by
  refine follows_behind fun _ => follows_behind fun isGenerator => ?_
  refine (optionalName_follows.within _).andAlso (fun _ _ => rfl) fun name? nameToo? sameName => ?_
  refine (functionParts_follows reaches _).andThen ?_
  rintro ⟨params, body⟩ ⟨paramsToo, bodyToo⟩
    ⟨(sameParams : params.map _ = paramsToo.map _), (sameBody : body.map _ = bodyToo.map _)⟩
  exact follows_node rfl (by simp [Node.outline, someBare_eq sameName, sameParams, sameBody])
    fun keys => by simp [Node.spots]

include reaches in
/-- A class in an expression is read alike in both texts, with its name or without one. -/
theorem classExpression_follows :
    Follows exchange pre nothing (.node exchange) (classExpression self) (classExpression self) := by
  refine (classParts_follows reaches (fun _ _ => rfl) optionalName_follows).andThen ?_
  rintro ⟨name?, parent?, members⟩ ⟨nameToo?, parentToo?, membersToo⟩
    ⟨sameName, (sameParent : parent?.map _ = parentToo?.map _),
      (sameMembers : members.map _ = membersToo.map _)⟩
  exact follows_node rfl (by simp [Node.outline, someBare_eq sameName, sameParent, sameMembers])
    fun keys => by simp [Node.spots]

/-- Whether a word stands on the same line behind the current token is asked of that token alone,
and no string answers it. -/
theorem glances_isFollowedBy (word : String) : Glances exchange (isFollowedBy word) :=
  glances_of_peek (fun next? => by split <;> exact ⟨_, rfl⟩) fun _ _ newline => by cases newline <;> rfl

include reaches in
/-- A construction is read alike in both texts, with arguments or without. The property behind the
point of the word itself is fixed by the grammar and exchanged nowhere. -/
theorem newExpression_follows :
    Follows exchange pre nothing (.node exchange) (newExpression self) (newExpression self) := by
  refine follows_behind fun _ => follows_behind fun asksTarget => ?_
  split
  · refine follows_behind fun _ => follows_behind fun _ => follows_behind fun _ => ?_
    exact follows_node rfl rfl fun _ => List.nil_subset _
  refine (goal_follows reaches .callee).andThen fun callee calleeToo same => ?_
  refine follows_behind fun isCalled => ?_
  split
  · refine (arguments_follows reaches).ofNothing.andThen ?_
    rintro ⟨items, trailing⟩ ⟨itemsToo, _⟩ ⟨(same' : items.map _ = itemsToo.map _), ⟨⟩⟩
    exact follows_node rfl (by simp [Node.outline, same.outline, same'])
      fun keys => by simp [Node.spots]
  · exact follows_node rfl (by simp [Node.outline, same.outline]) fun keys => by simp [Node.spots]

/-- The word for the parent class is read alike in both texts; what stands behind it is looked at
and not passed. -/
theorem parentWord_follows (canCall : Bool) :
    Follows exchange pre nothing (.node exchange) (parentWord canCall) (parentWord canCall) := by
  have parent : Follows exchange anywhere nothing (.node exchange) (pure (.word .parent))
      (pure (.word .parent)) := follows_node rfl rfl fun _ => List.nil_subset _
  refine follows_behind fun _ => follows_behind fun _ => follows_behind fun _ => ?_
  dsimp only
  split
  · exact follows_behind fun _ => follows_behind fun _ => parent
  · exact follows_behind fun _ => follows_behind fun _ => parent

/-- The word of an import is read alike in both texts. The name behind its point is one of few,
and the same in both. -/
theorem importWord_follows (canCall : Bool) :
    Follows exchange pre nothing (.node exchange) (importWord canCall) (importWord canCall) := by
  have word (word : Word) : Follows exchange anywhere nothing (.node exchange) (pure (.word word))
      (pure (.word word)) := follows_node rfl rfl fun _ => List.nil_subset _
  refine follows_behind fun _ => follows_behind fun hasPoint => ?_
  split
  · refine follows_behind fun _ => anyName_follows.andThen ?_
    rintro ⟨span, text⟩ ⟨spanToo, textToo⟩ (same : text = textToo)
    subst same
    dsimp only
    split
    · exact word _
    · exact follows_behind fun _ => follows_behind fun _ => follows_behind fun _ => word _
  · exact follows_behind fun _ => follows_behind fun _ => word _

include reaches in
/-- A value that starts with a word is read alike in both texts. The word is the same, so the same
case of the grammar applies. -/
theorem wordValue_follows (canCall : Bool) (text : String) :
    Follows exchange looking nothing (.node exchange) (wordValue self canCall text)
      (wordValue self canCall text) := by
  have plain (word : Word) : Follows exchange looking nothing (.node exchange)
      (advance >>= fun _ => pure (.word word)) (advance >>= fun _ => pure (.word word)) :=
    follows_behind fun _ => follows_node rfl rfl fun _ => List.nil_subset _
  unfold wordValue
  split
  · exact plain _
  · exact plain _
  · exact plain _
  · exact plain _
  · exact functionExpression_follows reaches false
  · exact classExpression_follows reaches
  · exact newExpression_follows reaches
  · exact parentWord_follows canCall
  · exact importWord_follows canCall
  · refine follows_glance (glances_isFollowedBy _) (fun _ => id) fun isAsync => ?_
    split
    · exact follows_behind fun _ => functionExpression_follows reaches true
    · refine variableName_follows.andThen fun name nameToo same => ?_
      exact follows_node rfl (congrArg Node.identifier (bare_eq same)) fun _ => List.nil_subset _

/-- The same is noted of parameters with the same outlines, since what is noted depends on the
variables that they bind. -/
theorem noteParameters_congr {params paramsToo : List Node}
    (same : params.map Node.outline = paramsToo.map Node.outline) :
    noteParameters paramsToo = noteParameters params :=
  eq_of_outlines noteParameters (fun nodes => by
    rw [noteParameters, noteParameters, boundNamesOf, boundNamesOf, namesOfTargets_outline]) same

instance plain_noteParameters (params : List Node) : Plain exchange (noteParameters params) := by
  unfold noteParameters
  infer_instance

/-- Items with the same outlines are turned into parameters with the same outlines, or into none
in both texts. -/
theorem parametersOf_follows {items itemsToo : List Node} (trailing : Bool)
    (same : items.map Node.outline = itemsToo.map Node.outline) :
    Follows exchange pre (Kind.nodes.spots items) .nodes (parametersOf items trailing)
      (parametersOf itemsToo trailing) := by
  have read : Follows exchange pre (Kind.nodes.spots items) .nodes
      (demand (elementsToPattern? true trailing items))
      (demand (elementsToPattern? true trailing itemsToo)) := by
    have turned := (elementsToPattern?_outline true trailing items).symm.trans
      (same ▸ elementsToPattern?_outline true trailing itemsToo)
    refine follows_demand (fun params found => ?_) fun params keys found => ?_
    · rw [found] at turned
      obtain ⟨paramsToo, foundToo, outlines⟩ := Option.map_eq_some_iff.mp turned.symm
      exact ⟨paramsToo, foundToo, outlines.symm⟩
    · rw [Kind.spots_nodes, Kind.spots_nodes, spots_elementsToPattern? found]
      exact List.Subset.refl _
  refine read.andThen fun params paramsToo same => ?_
  rw [noteParameters_congr same]
  exact follows_behind fun _ => follows_pure same fun _ => List.subset_append_right _ _

include reaches in
/-- An arrow function over parameters with the same outlines is read alike in both texts, with a
block for its body or an expression. -/
theorem arrowBody_follows {params paramsToo : List Node} (isAsync : Bool)
    (same : params.map Node.outline = paramsToo.map Node.outline) :
    Follows exchange pre (Kind.nodes.spots params) (.node exchange) (arrowBody self isAsync params)
      (arrowBody self isAsync paramsToo) := by
  refine follows_behind fun isBlock => ?_
  split
  · have block : Follows exchange anywhere nothing .nodes _ _ := (blockBody_follows reaches).secluded
    refine (block.within _).always.andThen fun body bodyToo (same' : body.map _ = bodyToo.map _) => ?_
    refine follows_checkDirectives same same' ?_
    exact follows_node rfl (by simp [Node.outline, same, same']) fun keys => by simp [Node.spots]
  · have value : Follows exchange anywhere nothing (.node exchange) _ _ :=
      (reaches .assignment).secluded
    refine (value.within _).always.andThen fun body bodyToo same' => ?_
    exact follows_node rfl (by simp [Node.outline, same, same'.outline])
      fun keys => by simp [Node.spots]

include reaches in
/-- One round of the items in parentheses is read alike in both texts. Behind an arrow the items
are parameters as well, and their spots are then given twice. -/
theorem parenStep_follows {list listToo : List Node × Bool} (same : Kind.underway.alike list listToo) :
    Follows exchange anywhere (Kind.underway.spots list) Kind.underway.option (parenStep self list)
      (parenStep self listToo) := by
  obtain ⟨items, trailing⟩ := list
  obtain ⟨itemsToo, _⟩ := listToo
  obtain ⟨(same : items.map _ = itemsToo.map _), ⟨⟩⟩ := same
  refine follows_behind fun closes => ?_
  split
  · exact follows_pure trivial fun _ => List.nil_subset _
  refine (argument_follows reaches).ofNothing.andThen fun first firstToo sameFirst => ?_
  refine follows_behind fun isArrow => ?_
  extract_lets last
  have lastFollows {items itemsToo : List Node}
      (same : items.map Node.outline = itemsToo.map Node.outline) :
      Follows exchange anywhere (Kind.nodes.spots items) Kind.underway.option (last items)
        (last itemsToo) := by
    have found (comma : Bool) : Follows exchange anywhere (Kind.nodes.spots items)
        Kind.underway.option (pure (some (items, comma))) (pure (some (itemsToo, comma))) :=
      follows_pure ⟨same, rfl⟩ fun keys => by simp [Kind.option]
    refine follows_behind fun closes => ?_
    split
    · exact found false
    · exact follows_behind fun _ => found true
  have sameItems : (first :: items).map Node.outline = (firstToo :: itemsToo).map Node.outline :=
    congrArg₂ List.cons sameFirst.outline same
  rw [eq_of_outlines (fun nodes => nodes.getLast?.any Node.isIdentifier)
    (fun nodes => by rw [List.getLast?_map]; cases nodes.getLast? <;> simp) sameItems]
  split
  · have params : Follows exchange anywhere _ .nodes _ _ := 
      parametersOf_follows false (map_reverse_congr sameItems)
    refine (params.weaken (fun _ => id) fun keys span => ?_).andThen
      fun params paramsToo sameParams => ?_
    · simp [or_comm]
    refine ((arrowBody_follows reaches false sameParams).weaken (fun _ => id) fun keys => ?_).andThen
      fun arrow arrowToo sameArrow => ?_
    · exact List.subset_append_right _ _
    have sameAll : (arrow :: first :: items).map Node.outline =
        (arrowToo :: firstToo :: itemsToo).map Node.outline :=
      congrArg₂ List.cons sameArrow.outline sameItems
    refine (lastFollows sameAll).weaken (fun _ => id) fun keys span => ?_
    simp only [Kind.spots_nodes, Kind.spots_node, Kind.spots_pair, List.flatMap_cons, List.mem_append]
    rintro (inArrow | inFirst | inItems)
    · exact .inr inArrow
    · exact .inl (.inl (.inr inFirst))
    · exact .inl (.inl (.inl (.inl inItems)))
  · exact (lastFollows sameItems).weaken (fun _ => id) fun keys span => by simp [or_comm]

include reaches in
/-- The items in parentheses are read alike in both texts, with a comma behind the last one in
both or in none. -/
theorem parenItems_follows :
    Follows exchange pre nothing .underway (parenItems self) (parenItems self) := by
  refine follows_behind fun _ => ?_
  have folded : Follows exchange anywhere nothing .underway (fold (parenStep self) ([], false))
      (fold (parenStep self) ([], false)) :=
    follows_fold (fun _ _ => parenStep_follows reaches)
      (show Kind.underway.alike ([], false) ([], false) from ⟨rfl, rfl⟩)
  refine (folded.within _).andThen ?_
  rintro ⟨items, trailing⟩ ⟨itemsToo, _⟩ ⟨same, ⟨⟩⟩
  exact follows_behind fun _ => follows_pure ⟨map_reverse_congr same, rfl⟩ fun keys span => by simp

/-- What items in parentheses amount to has the same outline when they have. The cases pair the
lists off by their lengths, which are the same. -/
theorem parenOf_follows {items itemsToo : List Node} (start startToo : Nat)
    (same : items.map Node.outline = itemsToo.map Node.outline) :
    Follows exchange pre (Kind.nodes.spots items) (.node exchange) (parenOf start items)
      (parenOf startToo itemsToo) := by
  have closed := eq_of_outlines
    (fun nodes => !(nodes.any isSpread) && !(nodes.any isUnfinished))
    (fun nodes => by simp [Function.comp_def]) same
  refine follows_require closed (follows_over fun span spanToo => ?_)
  match items, itemsToo, same with
  | [], _, _ => exact follows_fail
  | [_], [], same | [_], _ :: _ :: _, same | _ :: _ :: _, [], same | _ :: _ :: _, [_], same =>
    exact absurd same (by simp)
  | [item], [itemToo], same =>
    exact follows_node rfl (by simp [Node.outline, List.singleton_inj.mp same])
      fun keys => by simp [Node.spots]
  | first :: second :: rest, firstToo :: secondToo :: restToo, same =>
    exact follows_node rfl (congrArg (Node.paren nowhere <| Node.sequence ·) (by simpa using same))
      fun keys => by simp [Node.spots]

include reaches in
/-- A primary expression is read alike in both texts. The case split is on its first token, which
is the same unless it is a string, and strings all go one way. -/
theorem primary_follows (canCall : Bool) :
    Follows exchange pre nothing (.node exchange) (primary self canCall) (primary self canCall) := by
  refine follows_at fun start startToo => follows_token (fun _ _ => rfl) fun token => ?_
  split
  · refine variableName_follows.andThen fun name nameToo same => ?_
    exact follows_node rfl (congrArg Node.identifier (bare_eq same)) fun _ => List.nil_subset _
  · refine (wordValue_follows reaches canCall _).weaken ?_ fun _ => List.Subset.refl _
    rintro state ⟨-, isWord⟩
    rw [looking, isWord]
    rfl
  · exact follows_behind fun _ => follows_node rfl rfl fun _ => List.nil_subset _
  · refine follows_behind fun _ => anyName_follows.andThen fun name nameToo same => ?_
    exact follows_node rfl (congrArg Node.privateName same) fun _ => List.nil_subset _
  · exact numberLiteral_follows
  · exact numberLiteral_follows
  · refine quoted_follows.andThen fun literal literalToo same => ?_
    exact follows_pure (.string same) fun _ => List.Subset.refl _
  · refine (parenItems_follows reaches).andThen ?_
    rintro ⟨items, trailing⟩ ⟨itemsToo, _⟩ ⟨same, ⟨⟩⟩
    refine follows_behind fun isArrow => follows_behind fun _ => ?_
    exact (parenOf_follows start startToo same).weaken (fun _ => id) fun keys => by simp
  · exact arrayLiteral_follows reaches
  · exact objectLiteral_follows reaches
  · have marked (state : State) (mark : state.token = .symbol "`") :
        state.token.looksAhead = false := by
      rw [mark]
      rfl
    refine ((templateParts_follows reaches true).weaken (fun state known => marked state known.2)
      fun _ => List.Subset.refl _).andThen ?_
    rintro ⟨texts, values⟩ ⟨_, valuesToo⟩ ⟨⟨⟩, (same : values.map _ = valuesToo.map _)⟩
    exact follows_node rfl (by simp [Node.outline, same]) fun keys => by simp [Node.spots]
  · exact regexLiteral_follows.weaken (fun _ known => .inl known.2) fun _ => List.Subset.refl _
  · exact regexLiteral_follows.weaken (fun _ known => .inr known.2) fun _ => List.Subset.refl _
  · exact follows_fail

end Values

/-! ## Members and calls -/

section Chains

variable {self : Goal → Parse Node} (reaches : ReachesAlike exchange self) {head headToo : Head}
  (same : (Kind.head exchange).alike head headToo)

/-- Behind a point and in front of a name, the step reads the member that is named. -/
theorem namedMember_eq {optional : Bool} {scope : Scope} {state : State}
    (isName : isNameToken state.token = true) :
    namedMember head optional scope state = memberOf head optional scope state := by
  obtain ⟨text, spelling, token⟩ := exists_word_of_isNameToken isName
  rw [namedMember, bind_token, token]
  rfl

include same

/-- A member with a private name is read alike in both texts. Public names are left to the step
that passes the point with them, since those are the words that are exchanged. -/
theorem namedMember_follows (optional : Bool) :
    Follows exchange (fun state => isNameToken state.token = false) (fun keys => head.node.spots keys)
      (.node exchange) (namedMember head optional) (namedMember headToo optional) := by
  refine follows_token (fun _ _ => rfl) fun token => ?_
  split
  · rw [eq_of_outline isParent_outline same.1.outline]
    refine follows_behind fun _ => follows_behind fun _ => ?_
    exact follows_node rfl (by simp [Node.outline, same.1.outline]) fun _ => List.Subset.refl _
  · refine follows_failing ?_
    rintro scope state node later ⟨noName, rfl⟩ read
    obtain ⟨text, spelling, token, -⟩ := of_memberOf read
    rw [token] at noName
    cases noName

include reaches

/-- A member in brackets is read alike in both texts. A string between the brackets is a spot, so
its text may be a word that is exchanged. -/
theorem bracketMember_follows (optional : Bool) :
    Follows exchange pre (fun keys => head.node.spots keys) (.node exchange)
      (bracketMember self head optional) (bracketMember self headToo optional) := by
  refine follows_at fun start startToo => follows_behind fun _ => ?_
  refine (enclosed_follows reaches .expression).andThen fun index indexToo same' => ?_
  refine follows_behind fun _ => follows_over fun span spanToo => follows_over fun bracket bracketToo => ?_
  exact follows_node rfl (by simp [Node.outline, same.1.outline, same'.outline])
    fun _ => List.Subset.refl _

/-- A call is read alike in both texts, and it is one of the import word in both or in none. -/
theorem callOf_follows (optional : Bool) :
    Follows exchange pre (fun keys => head.node.spots keys) (.node exchange)
      (callOf self head optional) (callOf self headToo optional) := by
  refine (arguments_follows reaches).ofNothing.andThen ?_
  rintro ⟨items, trailing⟩ ⟨itemsToo, _⟩ ⟨(same' : items.map _ = itemsToo.map _), ⟨⟩⟩
  have called : Follows exchange anywhere
      (fun keys => head.node.spots keys ++ Kind.underway.spots (items, trailing) keys) (.node exchange)
      (spanFrom head.start >>= fun span => pure (.call span head.node items optional))
      (spanFrom headToo.start >>= fun span => pure (.call span headToo.node itemsToo optional)) := by
    refine follows_over fun span spanToo => ?_
    exact follows_node rfl (by simp [Node.outline, same.1.outline, same'])
      fun keys => by simp [Node.spots]
  have words {node twin : Node} {word : Word} (same : node.outline = twin.outline)
      (isWord : node = .word word) : twin = .word word := by
    rw [isWord] at same
    cases twin <;> first | exact same.symm | cases same
  dsimp only
  split
  · next isImport =>
    rw [words same.1.outline isImport] at called ⊢
    exact follows_behind fun _ => called
  · next other =>
    split
    · next isImport => exact absurd (words same.1.outline.symm isImport) (other _)
    · exact called

omit reaches same in
/-- What is told to be behind the current token is the next one. -/
theorem of_isBefore {text : String} {scope : Scope} {state later : State}
    (read : isBefore text scope state = .ok (true, later)) :
    later = state ∧ ∃ trivia lexeme, state.ahead? = some (trivia, lexeme) ∧
      lexeme.token = .symbol text := by
  obtain ⟨next?, _, peeked, last⟩ := exists_of_bind read
  obtain ⟨found, rfl⟩ := Prod.mk.inj (Except.ok.inj ((peek_eq scope state).symm.trans peeked))
  split at last
  · next other newline =>
    obtain ⟨same, rfl⟩ := Prod.mk.inj (Except.ok.inj last)
    obtain ⟨⟨trivia, lexeme⟩, ahead, token⟩ := Option.map_eq_some_iff.mp found
    refine ⟨rfl, trivia, lexeme, ahead, (congrArg Prod.fst token).trans ?_⟩
    exact congrArg Token.symbol (eq_of_beq same)
  · cases last

/-- A member or a call behind a question mark and a point, as a step through a chain reads it. -/
def optionalMember (self : Goal → Parse Node) (head : Head) : Parse Node := do
  if ← isSymbol "[" then bracketMember self head true
  else if ← isSymbol "(" then callOf self head true
  else namedMember head true

omit reaches same in
/-- What stands behind a question mark and a point is one step of three cases in front of what
follows it, where the definition repeats what follows in each case. -/
theorem optionalMember_bind (self : Goal → Parse Node) (head : Head) (next : Node → Parse α) :
    (do
      if ← isSymbol "[" then next (← bracketMember self head true)
      else if ← isSymbol "(" then next (← callOf self head true)
      else next (← namedMember head true)) = optionalMember self head >>= next := by
  rw [optionalMember, bind_assoc]
  refine congrArg (_ >>= ·) (funext fun isBracket => ?_)
  split
  · rfl
  · rw [bind_assoc]
    refine congrArg (_ >>= ·) (funext fun isCall => ?_)
    split <;> rfl

omit reaches same in
/-- Behind a question mark and a point and in front of a name, the step reads the member that is
named. -/
theorem optionalMember_eq {scope : Scope} {state : State} (isName : isNameToken state.token = true) :
    optionalMember self head scope state = memberOf head true scope state := by
  have noSymbol (text : String) : isSymbol text scope state = .ok (false, state) := by
    obtain ⟨word, spelling, token⟩ := exists_word_of_isNameToken isName
    rw [isSymbol_eq, token]
    rfl
  change (isSymbol "[" scope state >>= fun found => (if found.1 then _ else
    isSymbol "(" >>= fun isCall => if isCall then _ else namedMember head true) scope found.2) = _
  rw [noSymbol]
  change (isSymbol "(" scope state >>= fun found =>
    (if found.1 then _ else namedMember head true) scope found.2) = _
  rw [noSymbol]
  exact namedMember_eq isName

/-- What stands behind a question mark and a point is read alike in both texts when it is no name:
an index, a call or a private member. -/
theorem optionalMember_follows :
    Follows exchange (fun state => isNameToken state.token = false) (fun keys => head.node.spots keys)
      (.node exchange) (optionalMember self head) (optionalMember self headToo) := by
  refine follows_isSymbol ?_ ?_
  · exact bracketMember_follows reaches same true
  · exact follows_isSymbol (callOf_follows reaches same true) (namedMember_follows same true)

omit reaches in
/-- A value that has grown by a member or a call is the head of what follows in both texts,
complete in both or in none. -/
theorem grown_follows {node nodeToo : Node} (same' : (Kind.node exchange).alike node nodeToo) :
    Follows exchange pre (fun keys => node.spots keys) (Kind.head exchange).option
      (pure (some { head with node := node })) (pure (some { headToo with node := nodeToo })) :=
  follows_pure ⟨same', same.2⟩ fun _ => List.Subset.refl _

omit reaches in
/-- A step that reads a node behind a head is read alike as a link of a chain, in which the node
takes the place of the head. -/
theorem Follows.grown {step twin : Parse Node}
    (follows : Follows exchange pre (fun keys => head.node.spots keys) (.node exchange) step twin) :
    Follows exchange pre (fun keys => head.node.spots keys) (Kind.head exchange).option
      (step >>= fun node => pure (some { head with node := node }))
      (twin >>= fun node => pure (some { headToo with node := node })) :=
  follows.andThen fun _ _ same' => (grown_follows same same').weaken (fun _ => id)
    fun _ => List.subset_append_right _ _

/-- One link of a chain is read alike in both texts. Behind a point stands a name that may be
exchanged; there the two readings part for one token and meet again behind it. -/
theorem chainStep_follows (canCall : Bool) :
    Follows exchange anywhere (fun keys => head.node.spots keys) (Kind.head exchange).option
      (chainStep self canCall head) (chainStep self canCall headToo) := by
  have ends {pre : State → Prop} : Follows exchange pre (fun keys => head.node.spots keys)
      (Kind.head exchange).option (pure none) (pure none) :=
    follows_pure trivial fun _ => List.nil_subset _
  refine follows_token (fun _ _ => rfl) fun token => ?_
  split
  · have pointed := follows_pointed same.1.outline (fun _ _ => namedMember_eq)
      (fun _ _ => namedMember_eq) (namedMember_follows same false)
    exact ((pointed.weaken (fun _ known => known.2) fun _ => List.Subset.refl _).grown same).grouped
  · exact (bracketMember_follows reaches same false).grown same
  · split
    · exact (callOf_follows reaches same false).grown same
    · exact ends
  · have looks : Follows exchange (fun state => True ∧ state.token = .symbol "?")
        (fun keys => head.node.spots keys) .plain (isBefore ".") (isBefore ".") :=
      (glances_isBefore ".").follows.ofNothing.weaken (fun state known => by
        rw [looking, known.2]
        rfl) fun _ => List.Subset.refl _
    refine looks.knowing (fun isPoint state => isPoint = true → ∃ trivia lexeme,
      state.ahead? = some (trivia, lexeme) ∧ lexeme.token = .symbol ".") ?_ fun isPoint => ?_
    · rintro scope state isPoint later - read rfl
      obtain ⟨rfl, ahead⟩ := of_isBefore read
      exact ahead
    cases isPoint with
    | false => exact ends
    | true =>
      refine follows_require rfl ?_
      refine (follows_plain advance).knowing (fun _ state => state.token = .symbol ".") ?_ fun _ => ?_
      · rintro scope state _ later ahead passed
        obtain ⟨trivia, lexeme, found, mark⟩ := ahead rfl
        obtain ⟨_, foundToo⟩ := ahead_of_advance passed
        obtain ⟨-, rfl⟩ := Prod.mk.inj (Option.some.inj (found.symm.trans foundToo))
        exact mark
      · have pointed := follows_pointed same.1.outline (fun _ _ => optionalMember_eq)
          (fun _ _ => optionalMember_eq) (optionalMember_follows reaches same)
        have grown := (pointed.grown same).grouped
        rwa [← optionalMember_bind, ← optionalMember_bind] at grown
  · refine follows_require ?_ ?_
    · rw [← isOptionalChain_outline headToo.node, ← same.1.outline, isOptionalChain_outline]
    have marked (state : State) (mark : state.token = .symbol "`") :
        state.token.looksAhead = false := by
      rw [mark]
      rfl
    refine ((templateParts_follows reaches false).weaken (fun state known => marked state known.2)
      fun _ => List.nil_subset _).andThen ?_
    rintro ⟨texts, values⟩ ⟨_, valuesToo⟩ ⟨⟨⟩, (same' : values.map _ = valuesToo.map _)⟩
    have tagged : (Kind.node exchange).alike (.tagged head.node texts values)
        (.tagged headToo.node texts valuesToo) :=
      .of_outline rfl (by simp [Node.outline, same.1.outline, same'])
    exact (grown_follows same tagged).weaken (fun _ => id) fun keys => by simp [Node.spots]
  · exact ends

end Chains

/-! ## Operators -/

section Operators

variable {self : Goal → Parse Node} (reaches : ReachesAlike exchange self)

instance plain_unaryOp? : Plain exchange unaryOp? := by
  refine plain_of_token (fun _ _ => rfl) fun token => ?_
  split <;> infer_instance

instance plain_updateOp? : Plain exchange updateOp? := by
  refine plain_of_token (fun _ _ => rfl) fun token => ?_
  split <;> infer_instance

instance plain_binaryOp? : Plain exchange binaryOp? := by
  refine plain_of_token (fun _ _ => rfl) fun token => ?_
  split
  · infer_instance
  · refine plain_behind fun scope => ?_
    split <;> infer_instance
  · infer_instance
  · infer_instance

instance plain_eatArrow : Plain exchange eatArrow where
  follows := by
    refine follows_behind fun isArrow => ?_
    split
    · refine follows_get fun state other newline _ _ => ?_
      rw [newline]
      exact follows_behind fun _ => follows_plain _
    · exact follows_plain _

instance plain_isParameterName (token : Token) : Plain exchange (isParameterName token) := by
  unfold isParameterName
  split <;> infer_instance

instance plain_isOperatorMark : Plain exchange isOperatorMark := by
  refine plain_of_token (fun _ _ => rfl) fun token => ?_
  split <;> infer_instance

instance plain_assignOp? : Plain exchange assignOp? := by
  refine plain_of_token (fun _ _ => rfl) fun token => ?_
  split
  · infer_instance
  · split
    · infer_instance
    · split
      · split <;> infer_instance
      · infer_instance
  · infer_instance

/-- Whether the word in front of a token may be a name and nothing that waits. -/
def endsAwait (newline : Bool) : Token → Bool
  | .symbol text => newline || [")", "]", "\x7d", ";", ","].contains text
  | .finish => true
  | _ => newline

instance plain_isAfterBareAwait : Plain exchange isAfterBareAwait := by
  refine plain_of_look (fun _ state => endsAwait state.newline state.token) ?_ ?_
  · intro scope state
    change (match state.token with
      | .symbol text =>
        (pure (state.newline || [")", "]", "\x7d", ";", ","].contains text) : Parse Bool)
      | .finish => pure true
      | _ => pure state.newline) scope state = _
    cases state.token <;> rfl
  · intro state other _ beside
    rw [beside.newline]
    have seen := seenAs_of_twins beside.twins
    rw [State.token, State.token]
    generalize state.lexeme.token = token at seen ⊢
    generalize other.lexeme.token = tokenToo at seen ⊢
    cases seen <;> rfl

/-- Whether the variables of a target may be assigned to is the same for targets with the same
outlines. -/
theorem checkTargets_congr {node twin : Node} (same : node.outline = twin.outline) :
    checkTargets twin.targetNames = checkTargets node.targetNames := by
  rw [Node.targetNames, Node.targetNames, ← namesOfTarget_outline, ← same, namesOfTarget_outline]

/-- A node that may be assigned to is one in both texts, since its outline tells. -/
theorem simpleTarget_follows {node twin : Node} (same : node.outline = twin.outline) :
    Follows exchange pre (fun keys => node.spots keys) .tree (simpleTarget node) (simpleTarget twin) := by
  refine follows_require (eq_of_outline isSimpleTarget_outline same) ?_
  rw [checkTargets_congr same]
  exact follows_behind fun _ => follows_pure same fun _ => List.Subset.refl _

/-- Nodes with the same outlines are turned into targets with the same outlines, or into none in
both texts, and the same is demanded of them. -/
theorem assignmentTarget_follows {node twin : Node} (same : node.outline = twin.outline) :
    Follows exchange pre (fun keys => node.spots keys) .tree (assignmentTarget node)
      (assignmentTarget twin) := by
  have turned := (toPattern?_outline false node).symm.trans (same ▸ toPattern?_outline false twin)
  have read : Follows exchange pre (fun keys => node.spots keys) .tree
      (demand (node.toPattern? false)) (demand (twin.toPattern? false)) := by
    refine follows_demand (fun pattern found => ?_) fun pattern keys found => ?_
    · rw [found] at turned
      obtain ⟨patternToo, foundToo, outline⟩ := Option.map_eq_some_iff.mp turned.symm
      exact ⟨patternToo, foundToo, outline.symm⟩
    · rw [Kind.spots_tree, spots_toPattern? found]
      exact List.Subset.refl _
  refine read.andThen fun pattern patternToo same => ?_
  refine follows_require (by rw [eq_of_outline hasDefault_outline same]) ?_
  rw [checkTargets_congr same]
  exact follows_behind fun _ => follows_pure same fun _ => List.subset_append_right _ _

/-- Two operands are joined alike in both texts: how operators may be mixed is asked of
outlines. -/
theorem binaryOf_follows {left leftToo right rightToo : Node} (op : BinaryOp)
    (same : left.outline = leftToo.outline) (same' : right.outline = rightToo.outline) :
    Follows exchange pre (fun keys => left.spots keys ++ right.spots keys) (.node exchange)
      (binaryOf op left right) (binaryOf op leftToo rightToo) := by
  unfold binaryOf
  rw [eq_of_outline isConjunction_outline same, eq_of_outline isConjunction_outline same',
    eq_of_outline isCoalescing_outline same, eq_of_outline isCoalescing_outline same']
  have joined {pre : State → Prop} : Follows exchange pre
      (fun keys => left.spots keys ++ right.spots keys) (.node exchange) (pure (.binary op left right))
      (pure (.binary op leftToo rightToo)) :=
    follows_node rfl (by rw [Node.outline, Node.outline, same, same']) fun _ => List.Subset.refl _
  extract_lets plain judged plainToo judgedToo
  have judgedFollow {pre : State → Prop} (passed : Unit) : Follows exchange pre
      (fun keys => left.spots keys ++ right.spots keys) (.node exchange) (judged passed)
      (judgedToo passed) := by
    dsimp only [judged, judgedToo]
    split
    · exact follows_behind fun _ => joined
    · exact joined
  split
  · exact follows_behind judgedFollow
  · exact judgedFollow ()

include reaches

/-- A subject is read alike in both texts: its head was read before or is read here, and the links
of its chain follow one another. -/
theorem subject_follows {head? headToo? : Option Head} (canCall : Bool)
    (same : (Kind.head exchange).option.alike head? headToo?) :
    Follows exchange pre ((Kind.head exchange).option.spots head?) (.node exchange)
      (subject self canCall head?) (subject self canCall headToo?) := by
  have chain {pre : State → Prop} {head headToo : Head} (same : (Kind.head exchange).alike head headToo) :
      Follows exchange pre (fun keys => head.node.spots keys) (.node exchange)
        (fold (chainStep self canCall) head >>= fun last => pure last.node)
        (fold (chainStep self canCall) headToo >>= fun last => pure last.node) := by
    refine (follows_fold (fun _ _ same => chainStep_follows reaches same canCall) same).andThen
      fun last lastToo same => ?_
    exact follows_pure same.1 fun _ => List.subset_append_right _ _
  match head?, headToo?, same with
  | some head, some headToo, same => exact chain same
  | none, none, _ =>
    refine follows_at fun start startToo => (primary_follows reaches canCall).always.andThen
      fun node nodeToo same => ?_
    have sameHead : (Kind.head exchange).alike ⟨node, start, false⟩ ⟨nodeToo, startToo, false⟩ :=
      ⟨same, rfl⟩
    exact chain sameHead

/-- A name that waits, or a value that is waited for. -/
theorem awaitExpression_follows :
    Follows exchange pre nothing (.node exchange) (awaitExpression self) (awaitExpression self) := by
  refine follows_behind fun scope => anyName_follows.andThen fun name nameToo same => ?_
  refine follows_behind fun isBare => ?_
  split
  · exact follows_node rfl (congrArg Node.identifier (bare_eq same)) fun _ => List.nil_subset _
  · refine follows_behind fun _ => follows_behind fun _ => ?_
    refine (goal_follows reaches .unary).andThen fun operand operandToo same => ?_
    exact follows_node rfl (congrArg Node.await same.outline) fun _ => List.Subset.refl _

/-- An increment behind an operand is read alike in both texts, and the line in front of it ends
in both or in none. -/
theorem postfixed_follows {head? headToo? : Option Head}
    (same : (Kind.head exchange).option.alike head? headToo?) :
    Follows exchange pre ((Kind.head exchange).option.spots head?) (.node exchange)
      (postfixed self head?) (postfixed self headToo?) := by
  refine (subject_follows reaches true same).andThen fun node nodeToo same => ?_
  have found {pre : State → Prop} : Follows exchange pre (fun keys =>
      (Kind.head exchange).option.spots head? keys ++ (Kind.node exchange).spots node keys)
      (.node exchange) (pure node) (pure nodeToo) :=
    follows_pure same fun _ => List.subset_append_right _ _
  refine follows_behind fun sign? => ?_
  split
  · refine follows_get fun state other newline _ _ => ?_
    rw [newline]
    split
    · exact found
    · refine ((simpleTarget_follows same.outline).weaken (fun _ => id)
        fun _ => List.subset_append_right _ _).andThen fun target targetToo same => ?_
      refine follows_behind fun _ => ?_
      exact follows_node rfl (congrArg (Node.update _ _) same) fun _ => List.subset_append_right _ _
  · exact found

/-- An operand, and whether operators stand in front of it. -/
abbrev Kind.operand (exchange : Exchange) : Kind (Node × Bool) := .pair (.node exchange) .plain

/-- An operand is read alike in both texts, and whether it starts with an operator is the same,
which a power asks for. -/
theorem operand_follows {head? headToo? : Option Head}
    (same : (Kind.head exchange).option.alike head? headToo?) :
    Follows exchange pre ((Kind.head exchange).option.spots head?) (.operand exchange)
      (operand self head?) (operand self headToo?) := by
  have alone {pre : State → Prop} {given : Bool → List Span} {step twin : Parse Node}
      (hasOperator : Bool) (follows : Follows exchange pre given (.node exchange) step twin) :
      Follows exchange pre given (.operand exchange) (step >>= fun node => pure (node, hasOperator))
        (twin >>= fun node => pure (node, hasOperator)) :=
    follows.andThen fun node nodeToo same => follows_pure ⟨same, rfl⟩ fun keys => by simp
  have waiting {pre : State → Prop} {node nodeToo : Node} (same : (Kind.node exchange).alike node nodeToo) :
      Follows exchange pre (fun keys => node.spots keys) (.operand exchange)
        (pure (node, isAwait node)) (pure (nodeToo, isAwait nodeToo)) :=
    follows_pure ⟨same, (eq_of_outline isAwait_outline same.outline).symm⟩ fun keys => by simp
  match head?, headToo?, same with
  | some head, some headToo, same =>
    simp only [operand]
    rw [← same.2]
    split
    · exact waiting same.1
    · exact alone false (postfixed_follows reaches (show Kind.alike _ (some head) (some headToo) from same))
  | none, none, _ =>
    refine follows_behind fun op? => ?_
    split
    · next op =>
      refine follows_behind fun _ => ?_
      refine (goal_follows reaches .unary).andThen fun operand operandToo same => ?_
      rw [eq_of_outline isIdentifier_outline same.outline]
      extract_lets last lastToo
      have lastFollows {pre : State → Prop} (passed : Unit) : Follows exchange pre
          (fun keys => (Kind.node exchange).spots operand keys) (.operand exchange) (last passed)
          (lastToo passed) :=
        follows_pure ⟨.of_outline rfl (congrArg (Node.unary op) same.outline), rfl⟩
          fun keys => by simp [Node.spots]
      split
      · exact follows_behind lastFollows
      · exact lastFollows ()
    refine follows_behind fun update? => ?_
    split
    · refine follows_behind fun _ => ?_
      refine (goal_follows reaches .unary).andThen fun operand operandToo same => ?_
      refine (simpleTarget_follows same.outline).andThen fun target targetToo same => ?_
      exact follows_pure ⟨.of_outline rfl (congrArg (Node.update _ _) same), rfl⟩
        fun keys => by simp [Node.spots]
    refine follows_behind fun waits => ?_
    split
    · exact (awaitExpression_follows reaches).always.andThen fun node nodeToo same => waiting same
    · exact alone false (postfixed_follows reaches (show Kind.alike _ none none from trivial)).always

/-- A power is read alike in both texts, since a base with an operator in front is refused in
both. -/
theorem powered_follows {head? headToo? : Option Head}
    (same : (Kind.head exchange).option.alike head? headToo?) :
    Follows exchange pre ((Kind.head exchange).option.spots head?) (.node exchange)
      (powered self head?) (powered self headToo?) := by
  refine (operand_follows reaches same).andThen ?_
  rintro ⟨base, hasOperator⟩ ⟨baseToo, _⟩ ⟨same, ⟨⟩⟩
  refine follows_behind fun isPower => ?_
  split
  · refine follows_behind fun _ => follows_behind fun _ => ?_
    refine (goal_follows reaches .power).andThen fun power powerToo same' => ?_
    exact follows_node rfl (congrArg₂ (Node.binary .power) same.outline same'.outline)
      fun keys => by simp [Node.spots]
  · exact follows_pure same fun keys => by simp

/-- Operands that are joined are read alike in both texts. The induction is on the levels of
operators; a round reads one operator and the operand behind it. -/
theorem joined_follows (levels : Nat) {head? headToo? : Option Head}
    (same : (Kind.head exchange).option.alike head? headToo?) :
    Follows exchange pre ((Kind.head exchange).option.spots head?) (.node exchange)
      (joined self head? levels) (joined self headToo? levels) := by
  induction levels generalizing head? headToo? pre with
  | zero => exact powered_follows reaches same
  | succ levels inductionHypothesis =>
    refine (inductionHypothesis same).andThen fun first firstToo same => ?_
    refine (follows_fold (fun left leftToo same => ?_) same).weaken (fun _ => id)
      fun _ => List.subset_append_right _ _
    refine follows_behind fun op? => ?_
    split
    · exact follows_pure trivial fun _ => List.nil_subset _
    · split
      · refine follows_behind fun _ => ?_
        have none : (Kind.head exchange).option.alike Option.none Option.none := trivial
        refine (inductionHypothesis none).always.andThen fun right rightToo same' => ?_
        refine (binaryOf_follows _ same.outline same'.outline).andThen fun node nodeToo same => ?_
        exact follows_pure same fun _ => List.subset_append_right _ _
      · exact follows_pure trivial fun _ => List.nil_subset _

/-- A conditional is read alike in both texts, or a condition that stands alone. -/
theorem conditional_follows {head? headToo? : Option Head}
    (same : (Kind.head exchange).option.alike head? headToo?) :
    Follows exchange pre ((Kind.head exchange).option.spots head?) (.node exchange)
      (conditional self head?) (conditional self headToo?) := by
  refine (joined_follows reaches 10 same).andThen fun test testToo same => ?_
  refine follows_behind fun isTest => ?_
  split
  · refine (enclosed_follows reaches .assignment).andThen fun consequent consequentToo same' => ?_
    refine follows_behind fun _ => ?_
    refine (goal_follows reaches .assignment).andThen fun alternate alternateToo same'' => ?_
    exact follows_node rfl
      (by simp [Node.outline, same.outline, same'.outline, same''.outline])
      fun keys => by simp [Node.spots]
  · exact follows_pure same fun _ => List.subset_append_right _ _

end Operators

/-! ## Assignments -/

section Assignments

variable {self : Goal → Parse Node} (reaches : ReachesAlike exchange self)

/-- An arrow function, or the value that was read while looking for one. -/
abbrev Kind.found (exchange : Exchange) : Kind (Node ⊕ Option Head) :=
  .sum (.node exchange) (Kind.head exchange).option

/-- An arrow function that was found is found in both texts, with all of its spots given. -/
theorem found_arrow {pre : State → Prop} {arrow arrowToo : Node}
    (same : (Kind.node exchange).alike arrow arrowToo) :
    Follows exchange pre (fun keys => arrow.spots keys) (.found exchange) (pure (.inl arrow))
      (pure (.inl arrowToo)) :=
  follows_pure same fun _ => List.Subset.refl _

/-- A value that was read while looking for an arrow function is the head of an expression in both
texts. -/
theorem found_head {pre : State → Prop} {node nodeToo : Node} (start startToo : Nat)
    (same : (Kind.node exchange).alike node nodeToo) :
    Follows exchange pre (fun keys => node.spots keys) (.found exchange)
      (pure (.inr (some ⟨node, start, false⟩))) (pure (.inr (some ⟨nodeToo, startToo, false⟩))) :=
  follows_pure ⟨same, rfl⟩ fun _ => List.Subset.refl _

/-- Where nothing was read while looking for an arrow function nothing was in either text. -/
theorem found_none {pre : State → Prop} {given : Bool → List Span} :
    Follows exchange pre given (.found exchange) (pure (.inr none)) (pure (.inr none)) :=
  follows_pure trivial fun _ => List.nil_subset _

include reaches

/-- What starts with a parenthesis is an arrow function in both texts or a list of expressions in
both, since the arrow is the same. -/
theorem arrowOrList_follows {async? asyncToo? : Option Name} (start startToo : Nat)
    (same : async?.map Name.text = asyncToo?.map Name.text) :
    Follows exchange pre nothing (.found exchange) (arrowOrList self start async?)
      (arrowOrList self startToo asyncToo?) := by
  refine (parenItems_follows reaches).andThen ?_
  rintro ⟨items, trailing⟩ ⟨itemsToo, _⟩ ⟨(sameItems : items.map _ = itemsToo.map _), ⟨⟩⟩
  refine follows_behind fun isArrow => ?_
  split
  · refine ((parametersOf_follows trailing sameItems).weaken (fun _ => id)
      fun keys => by simp).andThen fun params paramsToo sameParams => ?_
    have isAsync : asyncToo?.isSome = async?.isSome := by
      have seen := congrArg Option.isSome same
      rwa [Option.isSome_map, Option.isSome_map, eq_comm] at seen
    rw [isAsync]
    refine ((arrowBody_follows reaches _ sameParams).weaken (fun _ => id)
      fun _ => List.subset_append_right _ _).andThen fun arrow arrowToo sameArrow => ?_
    rw [eq_of_outline hasBlockBody_outline sameArrow.outline]
    refine follows_behind fun isOperator => follows_behind fun _ => ?_
    exact (found_arrow sameArrow).weaken (fun _ => id) fun _ => List.subset_append_right _ _
  · match async?, asyncToo?, same with
    | none, none, _ =>
      refine ((parenOf_follows start startToo sameItems).weaken (fun _ => id)
        fun keys => by simp).andThen fun node nodeToo same => ?_
      exact (found_head start startToo same).weaken (fun _ => id)
        fun _ => List.subset_append_right _ _
    | some name, some nameToo, same =>
      have closed := eq_of_outlines (fun nodes => !(nodes.any isUnfinished))
        (fun nodes => by simp [Function.comp_def]) sameItems
      refine follows_require closed (follows_over fun span spanToo => ?_)
      have sameCall : (Kind.node exchange).alike (.call span (.identifier name) items false)
          (.call spanToo (.identifier nameToo) itemsToo false) :=
        .of_outline rfl (by simp [Node.outline, bare_eq (Option.some.inj same), sameItems])
      exact (found_head start startToo sameCall).weaken (fun _ => id) fun keys => by simp [Node.spots]

/-- Behind the word for asynchronous code stands an arrow function in both texts, or the word is a
variable in both. -/
theorem asyncArrow_follows (start startToo : Nat) :
    Follows exchange pre nothing (.found exchange) (asyncArrow self start)
      (asyncArrow self startToo) := by
  refine variableName_follows.andThen fun async asyncToo same => follows_behind fun scope => ?_
  refine follows_wordAnd (glances_isBefore _) (fun _ _ => by simp) fun isOf isArrow => ?_
  split
  · refine follows_behind fun _ => ?_
    have sameName : (Kind.node exchange).alike (.identifier async) (.identifier asyncToo) :=
      .of_outline rfl (congrArg Node.identifier (bare_eq same))
    exact (found_head start startToo sameName).weaken (fun _ => id) fun _ => List.nil_subset _
  · refine (bindingName_follows.within _).andThen fun name nameToo same => follows_behind fun _ => ?_
    have sameParams : [Node.identifier name].map Node.outline =
        [Node.identifier nameToo].map Node.outline :=
      congrArg (fun name => [Node.identifier name]) (bare_eq same)
    refine ((arrowBody_follows reaches true sameParams).weaken (fun _ => id)
      fun _ => List.nil_subset _).andThen fun arrow arrowToo sameArrow => ?_
    exact (found_arrow sameArrow).weaken (fun _ => id) fun _ => List.subset_append_right _ _

/-- Looking for an arrow function finds the same in both texts. The look at the token behind a
word is answered alike for all strings. -/
theorem arrowOrHead_follows :
    Follows exchange pre nothing (.found exchange) (arrowOrHead self) (arrowOrHead self) := by
  refine follows_at fun start startToo => follows_token (fun _ _ => rfl) fun current => ?_
  split
  · exact arrowOrList_follows reaches start startToo rfl
  · next text spelling =>
    refine follows_peek ?_ ?_ fun next? => ?_
    · rintro state ⟨-, isWord⟩
      rw [isWord]
      rfl
    · intro value valueToo newline
      cases newline <;> rfl
    split
    · refine follows_behind fun isName => ?_
      dsimp only
      split
      · exact found_none
      · refine variableName_follows.andThen fun name nameToo same => ?_
        have sameParams : [Node.identifier name].map Node.outline =
            [Node.identifier nameToo].map Node.outline :=
          congrArg (fun name => [Node.identifier name]) (bare_eq same)
        rw [noteParameters_congr sameParams]
        refine follows_behind fun _ => follows_behind fun _ => ?_
        refine ((arrowBody_follows reaches false sameParams).weaken (fun _ => id)
          fun _ => List.nil_subset _).andThen fun arrow arrowToo sameArrow => ?_
        exact (found_arrow sameArrow).weaken (fun _ => id) fun _ => List.subset_append_right _ _
    · split
      · refine variableName_follows.andThen fun name nameToo same => ?_
        have sameName : (some name).map Name.text = (some nameToo).map Name.text := congrArg some same
        exact (arrowOrList_follows reaches start startToo sameName).always
      · exact found_none
    · refine follows_behind fun isName => ?_
      split
      · exact asyncArrow_follows reaches start startToo
      · exact found_none
    · exact found_none
  · exact found_none

/-- A yielded expression is read alike in both texts; that nothing is yielded shows in the token
behind the word or in the end of the line. -/
theorem yieldExpression_follows :
    Follows exchange pre nothing (.node exchange) (yieldExpression self) (yieldExpression self) := by
  have yielded (delegate : Bool) {pre : State → Prop} : Follows exchange pre nothing (.node exchange)
      (self .assignment >>= fun node => pure (.yield delegate (some node)))
      (self .assignment >>= fun node => pure (.yield delegate (some node))) := by
    refine (goal_follows reaches .assignment).andThen fun node nodeToo same => ?_
    exact follows_node rfl (by simp [Node.outline, same.outline]) fun keys => by simp [Node.spots]
  have alone {pre : State → Prop} : Follows exchange pre nothing (.node exchange)
      (pure (.yield false none)) (pure (.yield false none)) :=
    follows_node rfl rfl fun _ => List.nil_subset _
  refine follows_behind fun _ => follows_behind fun _ => follows_behind fun _ => ?_
  refine follows_get fun state other newline _ _ => ?_
  rw [newline]
  split
  · exact alone
  refine follows_behind fun delegates => ?_
  split
  · exact yielded true
  refine follows_token (fun _ _ => rfl) fun token => ?_
  split
  all_goals first
    | exact alone
    | exact yielded false

/-- An assignment is read alike in both texts, with the same operator between targets and values
with the same outlines. -/
theorem assignment_follows :
    Follows exchange pre nothing (.node exchange) (assignment self) (assignment self) := by
  refine follows_at fun start startToo => follows_behind fun scope => follows_behind fun isYield => ?_
  split
  · exact yieldExpression_follows reaches
  refine (arrowOrHead_follows reaches).andThen fun found foundToo same => ?_
  match found, foundToo, same with
  | .inl arrow, .inl arrowToo, same => exact follows_pure same fun _ => List.Subset.refl _
  | .inr head?, .inr headToo?, same =>
    refine (conditional_follows reaches same).andThen fun left leftToo same => ?_
    have sameLeft : left.outline = leftToo.outline := same.outline
    have assigned (op? : Option BinaryOp) {target targetToo : Node}
        (same : target.outline = targetToo.outline) : Follows exchange anywhere
        (fun keys => target.spots keys) (.node exchange)
        (do
          advance
          let value ← self .assignment
          return .assign (← spanFrom start) op? target value)
        (do
          advance
          let value ← self .assignment
          return .assign (← spanFrom startToo) op? targetToo value) := by
      refine follows_behind fun _ => ?_
      refine (goal_follows reaches .assignment).andThen fun value valueToo same' => ?_
      refine follows_over fun span spanToo => ?_
      exact follows_node rfl (by simp [Node.outline, same, same'.outline])
        fun keys => by simp [Node.spots]
    refine follows_behind fun op? => ?_
    split
    · exact follows_pure same fun _ => List.subset_append_right _ _
    · refine ((assignmentTarget_follows sameLeft).weaken (fun _ => id)
        fun _ => List.subset_append_right _ _).andThen fun target targetToo same => ?_
      exact (assigned none same).weaken (fun _ => id) fun _ => List.subset_append_right _ _
    · refine ((simpleTarget_follows sameLeft).weaken (fun _ => id)
        fun _ => List.subset_append_right _ _).andThen fun target targetToo same => ?_
      exact (assigned _ same).weaken (fun _ => id) fun _ => List.subset_append_right _ _

/-- Expressions with commas between them, last first. Of one that stands alone all is kept that is known
of nodes. -/
def Kind.sequence (exchange : Exchange) : Kind (List Node) where
  alike := List.Forall₂ (Alike exchange)
  spots items keys := items.flatMap (Node.spots keys)
  total items := by
    induction items with
    | nil => exact ⟨[], .nil⟩
    | cons item rest inductionHypothesis =>
      obtain ⟨twin, same⟩ := (Kind.node exchange).total item
      obtain ⟨others, alike⟩ := inductionHypothesis
      exact ⟨twin :: others, .cons same alike⟩

omit reaches in
/-- Nodes that are alike one by one have the same outlines one by one. -/
theorem outlines_of_sequence {items itemsToo : List Node}
    (same : (Kind.sequence exchange).alike items itemsToo) :
    items.map Node.outline = itemsToo.map Node.outline := by
  have each : List.Forall₂ (Alike exchange) items itemsToo := same
  induction each with
  | nil => rfl
  | cons first _ inductionHypothesis => exact congrArg₂ List.cons first.outline (inductionHypothesis ‹_›)

/-- Expressions with commas between them are read alike in both texts. A single one is kept with
all that is known of it, since it may be the directive that opens a program. -/
theorem expression_follows :
    Follows exchange pre nothing (.node exchange) (expression self) (expression self) := by
  refine (goal_follows reaches .assignment).andThen fun first firstToo same => ?_
  have one : (Kind.sequence exchange).alike [first] [firstToo] := .cons same .nil
  refine ((follows_fold (fun items itemsToo same => ?_) one).weaken (fun _ => id)
    fun keys => by simp [Kind.sequence]).andThen fun items itemsToo same => ?_
  · refine follows_behind fun comma => ?_
    split
    · refine (goal_follows reaches .assignment).andThen fun item itemToo same' => ?_
      exact follows_pure (List.Forall₂.cons same' same)
        fun keys span => by simp [Kind.option, Kind.sequence, or_comm]
    · exact follows_pure trivial fun _ => List.nil_subset _
  · have outlines := outlines_of_sequence same
    have each : List.Forall₂ (Alike exchange) items itemsToo := same
    rcases each with _ | ⟨alone, _ | ⟨_, _⟩⟩
    · exact follows_node rfl rfl fun _ => List.nil_subset _
    · exact follows_pure alone fun keys => by simp [Kind.sequence]
    · refine follows_node rfl ?_ fun keys => ?_
      · simpa [Node.outline] using map_reverse_congr outlines
      · rw [Node.spots, spotsOf_eq_flatMap]
        exact List.Subset.trans (spots_reverse_subset _) (List.subset_append_right _ _)

end Assignments

end PropertyMangling.Script.Parse
