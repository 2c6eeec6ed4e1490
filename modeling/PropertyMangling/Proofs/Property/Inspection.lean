import PropertyMangling.Proofs.Property.Outline
/-!
# What the grammar looks at in nodes

Whether an expression can be a target, a pattern or a parameter, which names it
gives values to, and what else the grammar asks of the nodes that it has read: all of
it is seen in their outlines. A pattern has the spots of the expression that it is
read from.
-/
namespace PropertyMangling.Script

open Parse

/-! ## Questions -/

section Questions

variable (node : Node)

/-- An outline is a variable when its node is; names keep their texts in outlines. -/
@[simp]
theorem isIdentifier_outline : node.outline.isIdentifier = node.isIdentifier := by
  cases node <;> rfl

/-- An outline is a hole of an array when its node is. -/
@[simp]
theorem isHole_outline : node.outline.isHole = node.isHole := by cases node <;> rfl

/-- An outline is a pattern with a default when its node is. -/
@[simp]
theorem hasDefault_outline : node.outline.hasDefault = node.hasDefault := by cases node <;> rfl

/-- An outline is spread when its node is, so that checks for spreads answer alike. -/
@[simp]
theorem isSpread_outline : isSpread node.outline = isSpread node := by cases node <;> rfl

/-- An outline is a rest pattern when its node is, so that checks for rest patterns answer
alike. -/
@[simp]
theorem isRest_outline : isRest node.outline = isRest node := by cases node <;> rfl

/-- An outline is the word for the parent class when its node is. -/
@[simp]
theorem isParent_outline : isParent node.outline = isParent node := by
  cases node with
  | word word => cases word <;> rfl
  | _ => rfl

/-- An outline waits for its operand when its node does, so that checks for waiting answer
alike. -/
@[simp]
theorem isAwait_outline : isAwait node.outline = isAwait node := by cases node <;> rfl

/-- An outline joins its operands by one of the logical operators when its node does. -/
@[simp]
theorem isConjunction_outline : isConjunction node.outline = isConjunction node := by
  cases node with
  | binary op left right => cases op <;> rfl
  | _ => rfl

/-- An outline joins its operands by the coalescing operator when its node does. -/
@[simp]
theorem isCoalescing_outline : isCoalescing node.outline = isCoalescing node := by
  cases node with
  | binary op left right => cases op <;> rfl
  | _ => rfl

/-- An outline is an arrow function with a block for its body when its node is. -/
@[simp]
theorem hasBlockBody_outline : hasBlockBody node.outline = hasBlockBody node := by
  cases node with
  | arrow isAsync params body => cases body <;> rfl
  | _ => rfl

/-- An outline is a parameter that is a bare name when its node is. -/
@[simp]
theorem isSimpleParameter_outline : isSimpleParameter node.outline = isSimpleParameter node := by
  cases node <;> rfl

/-- An outline is a constructor when its node is; classes mark theirs when they are read. -/
@[simp]
theorem isConstructor_outline : isConstructor node.outline = isConstructor node := by
  cases node <;> rfl

/-- An outline is the default case of a switch when its node is. -/
@[simp]
theorem isDefaultCase_outline : isDefaultCase node.outline = isDefaultCase node := by
  cases node with
  | switchCase test? body => cases test? <;> rfl
  | _ => rfl

/-- An outline waits for a variable of the name that another declaration starts with when its node
does. -/
@[simp]
theorem isAwaitUsing_outline : isAwaitUsing node.outline = isAwaitUsing node := by
  cases node with
  | await argument => cases argument <;> rfl
  | _ => rfl

/-- An outline is an object that waits to become a pattern when its node is: the question goes to
its properties, one by one. -/
@[simp]
theorem isUnfinished_outline : isUnfinished node.outline = isUnfinished node := by
  cases node with
  | object span properties trailing =>
    simp only [Node.outline, isUnfinished, outlineAll_eq_map, List.any_map]
    refine congrArg (properties.any ·) (funext fun property => ?_)
    cases property <;> rfl
  | _ => rfl

/-- An outline is a directive when its node is, since a string stays a string. -/
@[simp]
theorem isDirective_outline : isDirective node.outline = isDirective node := by
  cases node with
  | expressionStatement span expression => cases expression <;> rfl
  | _ => rfl

/-- An outline makes code strict when its node does. Of a string's source an outline keeps just
what this asks for. -/
@[simp]
theorem isUseStrict_outline : isUseStrict node.outline = isUseStrict node := by
  cases node with
  | expressionStatement span expression =>
    cases expression with
    | string literal =>
      simp only [Node.outline, isUseStrict, Quoted.outline]
      cases literal.source? with
      | none => rfl
      | some source =>
        by_cases strict : isStrictSource source = true
        · rw [Option.filter_some_pos strict]
        · rw [Option.filter_some_neg (by simpa using strict)]
          simpa [isStrictSource] using strict
    | _ => rfl
  | _ => rfl

/-- An outline ends with a semicolon of its own when its node does. Of the two ends an outline
keeps just which one is further on. -/
@[simp]
theorem hasSemicolon_outline : hasSemicolon node.outline = hasSemicolon node := by
  cases node with
  | expressionStatement span expression =>
    cases expression with
    | string literal =>
      simp only [Node.outline, hasSemicolon, Quoted.outline, semicolonSpan, nowhere]
      by_cases ended : literal.span.hi < span.hi <;> simp [ended]
    | _ => rfl
  | _ => rfl

end Questions

/-! ## Targets and patterns -/

/-- An outline is part of an optional chain when its node is. The recursion goes down the chain,
as the question does. -/
@[simp]
theorem isOptionalChain_outline (node : Node) :
    node.outline.isOptionalChain = node.isOptionalChain := by
  cases node with
  | member _ host _ optional => exact congrArg (optional || ·) (isOptionalChain_outline host)
  | privateMember host _ optional => exact congrArg (optional || ·) (isOptionalChain_outline host)
  | subscript _ host _ _ optional => exact congrArg (optional || ·) (isOptionalChain_outline host)
  | call _ callee _ optional => exact congrArg (optional || ·) (isOptionalChain_outline callee)
  | _ => rfl

/-- An outline can be assigned to when its node can, in parentheses or not. -/
@[simp]
theorem isSimpleTarget_outline (node : Node) :
    node.outline.isSimpleTarget = node.isSimpleTarget := by
  cases node with
  | member span host name optional =>
    exact congrArg Bool.not (isOptionalChain_outline (.member span host name optional))
  | privateMember host name optional =>
    exact congrArg Bool.not (isOptionalChain_outline (.privateMember host name optional))
  | subscript span host bracket index optional =>
    exact congrArg Bool.not (isOptionalChain_outline (.subscript span host bracket index optional))
  | paren _ inner => exact isSimpleTarget_outline inner
  | _ => rfl

/-- The holes at the end of an array are dropped before or after the outlines are taken, to the
same effect. -/
theorem map_outline_dropTrailingHoles (elements : List Node) :
    dropTrailingHoles (elements.map Node.outline) =
      (dropTrailingHoles elements).map Node.outline := by
  have same : Node.isHole ∘ Node.outline = Node.isHole := funext isHole_outline
  rw [dropTrailingHoles, ← List.map_reverse, List.dropWhile_map, same, ← List.map_reverse,
    dropTrailingHoles]

/-- An element that is neither a hole nor spread becomes the pattern that it stands for. -/
theorem elementsToPattern?_cons {binding trailing : Bool} {element : Node} {others : List Node}
    (filled : element.isHole = false) (alone : isSpread element = false) :
    elementsToPattern? binding trailing (element :: others) = (element.toPattern? binding).bind
      fun pattern => (elementsToPattern? binding trailing others).map (pattern :: ·) := by
  rw [elementsToPattern?]
  · cases element.toPattern? binding with
    | none => rfl
    | some pattern => cases elementsToPattern? binding trailing others <;> rfl
  · rintro rfl
    cases filled
  · rintro target rfl
    cases alone

mutual

/-- The outline of a pattern is the pattern that the outline stands for. -/
theorem toPattern?_outline (binding : Bool) (node : Node) :
    node.outline.toPattern? binding = (node.toPattern? binding).map Node.outline := by
  cases node with
  | member span host name optional =>
    have seen := isOptionalChain_outline (.member span host name optional)
    simp only [Node.outline, Node.toPattern?] at seen ⊢
    rw [seen]
    split <;> rfl
  | privateMember host name optional =>
    have seen := isOptionalChain_outline (.privateMember host name optional)
    simp only [Node.outline, Node.toPattern?] at seen ⊢
    rw [seen]
    split <;> rfl
  | subscript span host bracket index optional =>
    have seen := isOptionalChain_outline (.subscript span host bracket index optional)
    simp only [Node.outline, Node.toPattern?] at seen ⊢
    rw [seen]
    split <;> rfl
  | paren span inner =>
    simp only [Node.outline, Node.toPattern?, isSimpleTarget_outline]
    split <;> rfl
  | assign span op? target value =>
    cases op? with
    | some op => rfl
    | none =>
      simp only [Node.outline, Node.toPattern?, isSimpleTarget_outline, isIdentifier_outline]
      split <;> rfl
  | array elements trailing =>
    simp only [Node.outline, Node.toPattern?]
    rw [outlineAll_eq_map, elementsToPattern?_outline binding trailing elements]
    cases elementsToPattern? binding trailing elements with
    | none => rfl
    | some patterns =>
      simp [Node.outline, map_outline_dropTrailingHoles]
  | object span properties trailing =>
    simp only [Node.outline, Node.toPattern?]
    rw [outlineAll_eq_map, propertiesToPattern?_outline binding trailing properties]
    cases propertiesToPattern? binding trailing properties with
    | none => rfl
    | some patterns => simp [Node.outline]
  | _ => rfl

/-- The outlines of patterns in brackets are the patterns that the outlines stand for. -/
theorem elementsToPattern?_outline (binding trailing : Bool) (elements : List Node) :
    elementsToPattern? binding trailing (elements.map Node.outline) =
      (elementsToPattern? binding trailing elements).map (·.map Node.outline) := by
  cases elements with
  | nil => rfl
  | cons element others =>
    have rest := elementsToPattern?_outline binding trailing others
    rw [List.map_cons]
    by_cases hole : element.isHole = true
    · cases element <;> cases hole
      rw [Node.outline, elementsToPattern?, elementsToPattern?, rest]
      cases elementsToPattern? binding trailing others <;> rfl
    by_cases spread : isSpread element = true
    · cases element with
      | spread target =>
        rw [Node.outline, elementsToPattern?, elementsToPattern?, toPattern?_outline binding target]
        cases target.toPattern? binding with
        | none => rfl
        | some pattern =>
          simp only [Option.map_some, Option.bind_eq_bind, Option.bind_some, List.isEmpty_map,
            hasDefault_outline]
          split <;> rfl
      | _ => cases spread
    · rw [elementsToPattern?_cons (by simpa using hole) (by simpa using spread),
        elementsToPattern?_cons (by simpa using hole) (by simpa using spread), rest,
        toPattern?_outline binding element]
      cases element.toPattern? binding with
      | none => rfl
      | some pattern => cases elementsToPattern? binding trailing others <;> rfl

/-- The outlines of patterns in braces are the patterns that the outlines stand for. -/
theorem propertiesToPattern?_outline (binding trailing : Bool) (properties : List Node) :
    propertiesToPattern? binding trailing (properties.map Node.outline) =
      (propertiesToPattern? binding trailing properties).map (·.map Node.outline) := by
  cases properties with
  | nil => rfl
  | cons property others =>
    have rest := propertiesToPattern?_outline binding trailing others
    rw [List.map_cons]
    cases property with
    | property key value =>
      rw [Node.outline, propertiesToPattern?, propertiesToPattern?, toPattern?_outline binding value,
        rest]
      cases value.toPattern? binding with
      | none => rfl
      | some pattern => cases propertiesToPattern? binding trailing others <;> rfl
    | shorthand span name default? =>
      rw [Node.outline, propertiesToPattern?, propertiesToPattern?, rest]
      cases propertiesToPattern? binding trailing others <;> rfl
    | defaulted span name value =>
      rw [Node.outline, propertiesToPattern?, propertiesToPattern?, rest]
      cases propertiesToPattern? binding trailing others <;> rfl
    | spread target =>
      rw [Node.outline, propertiesToPattern?, propertiesToPattern?, toPattern?_outline binding target]
      cases target.toPattern? binding with
      | none => rfl
      | some pattern =>
        simp only [Option.map_some, Option.bind_eq_bind, Option.bind_some, List.isEmpty_map,
          hasDefault_outline, isIdentifier_outline]
        split <;> rfl
    | _ => rfl

end

mutual

/-- A target and its outline write the same names, since outlines keep the texts of variables. -/
theorem namesOfTarget_outline (abbreviated : Bool) (node : Node) :
    node.outline.namesOfTarget abbreviated = node.namesOfTarget abbreviated := by
  cases node with
  | property _ value => exact namesOfTarget_outline abbreviated value
  | defaultPattern _ target _ => exact namesOfTarget_outline abbreviated target
  | rest target => exact namesOfTarget_outline abbreviated target
  | paren _ inner => exact namesOfTarget_outline abbreviated inner
  | arrayPattern elements =>
    simp only [Node.outline, Node.namesOfTarget, outlineAll_eq_map]
    exact namesOfTargets_outline abbreviated elements
  | objectPattern _ properties =>
    simp only [Node.outline, Node.namesOfTarget, outlineAll_eq_map]
    exact namesOfTargets_outline abbreviated properties
  | _ => rfl

/-- Targets and their outlines write the same names, one list behind the other. -/
theorem namesOfTargets_outline (abbreviated : Bool) (nodes : List Node) :
    namesOfTargets abbreviated (nodes.map Node.outline) = namesOfTargets abbreviated nodes := by
  cases nodes with
  | nil => rfl
  | cons node others =>
    rw [List.map_cons, namesOfTargets, namesOfTargets, namesOfTarget_outline abbreviated node,
      namesOfTargets_outline abbreviated others]

end

/-! ## Spots of patterns -/

section Spots

variable {keys : Bool}

/-- Holes have no spots, so that dropping those at the end of an array keeps the spots of its
elements. -/
theorem flatMap_spots_dropTrailingHoles (elements : List Node) :
    (dropTrailingHoles elements).flatMap (Node.spots keys) = elements.flatMap (Node.spots keys) := by
  have dropped (elements : List Node) :
      (elements.dropWhile Node.isHole).reverse.flatMap (Node.spots keys) =
        elements.reverse.flatMap (Node.spots keys) := by
    induction elements with
    | nil => rfl
    | cons element rest inductionHypothesis =>
      rw [List.dropWhile_cons]
      split
      · next isHole =>
        cases element <;> cases isHole
        rw [inductionHypothesis, List.reverse_cons, List.flatMap_append]
        exact (List.append_nil _).symm
      · rfl
  rw [dropTrailingHoles, dropped, List.reverse_reverse]

mutual

/-- A pattern has the spots of the expression that it is read from. -/
theorem spots_toPattern? {binding : Bool} {node pattern : Node}
    (turned : node.toPattern? binding = some pattern) : pattern.spots keys = node.spots keys := by
  cases node with
  | identifier => cases turned; rfl
  | member | privateMember | subscript =>
    simp only [Node.toPattern?] at turned
    split at turned
    · cases turned
    · cases turned; rfl
  | paren =>
    simp only [Node.toPattern?] at turned
    split at turned
    · cases turned; rfl
    · cases turned
  | assign span op? target value =>
    cases op? with
    | some op => cases turned
    | none =>
      simp only [Node.toPattern?] at turned
      split at turned
      · cases turned
      · cases turned; rfl
  | array elements trailing =>
    simp only [Node.toPattern?] at turned
    obtain ⟨patterns, read, same⟩ := Option.bind_eq_some_iff.mp turned
    cases same
    simp only [Node.spots, spotsOf_eq_flatMap, flatMap_spots_dropTrailingHoles]
    exact spots_elementsToPattern? read
  | object span properties trailing =>
    simp only [Node.toPattern?] at turned
    obtain ⟨patterns, read, same⟩ := Option.bind_eq_some_iff.mp turned
    cases same
    simp only [Node.spots, spotsOf_eq_flatMap]
    exact spots_propertiesToPattern? read
  | _ => cases turned

/-- Patterns in brackets have the spots of the elements that they are read from; a spread element
becomes a rest with the same spots. -/
theorem spots_elementsToPattern? {binding trailing : Bool} {elements patterns : List Node}
    (turned : elementsToPattern? binding trailing elements = some patterns) :
    patterns.flatMap (Node.spots keys) = elements.flatMap (Node.spots keys) := by
  cases elements with
  | nil => cases turned; rfl
  | cons element others =>
    by_cases hole : element.isHole = true
    · cases element <;> cases hole
      rw [elementsToPattern?] at turned
      obtain ⟨rest, read, same⟩ := Option.bind_eq_some_iff.mp turned
      cases same
      rw [List.flatMap_cons, List.flatMap_cons, spots_elementsToPattern? read]
    by_cases spread : isSpread element = true
    · cases element with
      | spread target =>
        rw [elementsToPattern?] at turned
        obtain ⟨pattern, read, same⟩ := Option.bind_eq_some_iff.mp turned
        split at same
        · next alone =>
          cases same
          simp only [Bool.and_eq_true, List.isEmpty_iff] at alone
          obtain ⟨⟨rfl, -⟩, -⟩ := alone
          simpa [Node.spots] using spots_toPattern? read
        · cases same
      | _ => cases spread
    · rw [elementsToPattern?_cons (by simpa using hole) (by simpa using spread)] at turned
      obtain ⟨pattern, read, same⟩ := Option.bind_eq_some_iff.mp turned
      obtain ⟨rest, readRest, same⟩ := Option.map_eq_some_iff.mp same
      cases same
      rw [List.flatMap_cons, List.flatMap_cons, spots_toPattern? read,
        spots_elementsToPattern? readRest]

/-- Patterns in braces have the spots of the properties that they are read from, those of keys
included. -/
theorem spots_propertiesToPattern? {binding trailing : Bool} {properties patterns : List Node}
    (turned : propertiesToPattern? binding trailing properties = some patterns) :
    patterns.flatMap (Node.spots keys) = properties.flatMap (Node.spots keys) := by
  cases properties with
  | nil => cases turned; rfl
  | cons property others =>
    cases property with
    | property key value =>
      rw [propertiesToPattern?] at turned
      obtain ⟨pattern, read, same⟩ := Option.bind_eq_some_iff.mp turned
      obtain ⟨rest, readRest, same⟩ := Option.bind_eq_some_iff.mp same
      cases same
      simp only [List.flatMap_cons, Node.spots, spots_toPattern? read,
        spots_propertiesToPattern? readRest]
    | shorthand | defaulted =>
      rw [propertiesToPattern?] at turned
      obtain ⟨rest, read, same⟩ := Option.bind_eq_some_iff.mp turned
      cases same
      simp [Node.spots, spots_propertiesToPattern? read]
    | spread target =>
      rw [propertiesToPattern?] at turned
      obtain ⟨pattern, read, same⟩ := Option.bind_eq_some_iff.mp turned
      split at same
      · next alone =>
        cases same
        simp only [Bool.and_eq_true, List.isEmpty_iff] at alone
        obtain ⟨⟨⟨rfl, -⟩, -⟩, -⟩ := alone
        simpa [Node.spots] using spots_toPattern? read
      · cases same
    | _ => cases turned

end

end Spots

end PropertyMangling.Script
