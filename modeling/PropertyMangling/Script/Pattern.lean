import PropertyMangling.Script.Syntax
/-!
# Expressions that turn out to be patterns

Whether a list in brackets, an object or a parenthesised list is an expression or a
pattern shows only behind it. It is read as an expression first, and
`toPattern?` turns it into the pattern that it must then be. A binding pattern
holds names only; the target of an assignment may also hold members.
-/
namespace PropertyMangling.Script

/-- A member access or a call with a question mark somewhere on its way. -/
def Node.isOptionalChain : Node → Bool
  | .member _ host _ optional => optional || host.isOptionalChain
  | .privateMember host _ optional => optional || host.isOptionalChain
  | .subscript _ host _ _ optional => optional || host.isOptionalChain
  | .call _ callee _ optional => optional || callee.isOptionalChain
  | _ => false

/-- A name or a member: what a compound assignment can change. -/
def Node.isSimpleTarget : Node → Bool
  | .identifier _ => true
  | .member span host name optional => !(Node.member span host name optional).isOptionalChain
  | .privateMember host name optional => !(Node.privateMember host name optional).isOptionalChain
  | .subscript span host bracket index optional =>
    !(Node.subscript span host bracket index optional).isOptionalChain
  | .paren _ inner => inner.isSimpleTarget
  | _ => false

/-- Whether an element is left out. -/
def Node.isHole : Node → Bool
  | .hole => true
  | _ => false

/-- Whether a target has a default value. -/
def Node.hasDefault : Node → Bool
  | .defaultPattern .. => true
  | _ => false

/-- Elements up to the last one that is there. -/
def dropTrailingHoles (elements : List Node) : List Node :=
  (elements.reverse.dropWhile Node.isHole).reverse

/-- Whether a node is a variable. -/
def Node.isIdentifier : Node → Bool
  | .identifier _ => true
  | _ => false

mutual

/-- The pattern that an expression stands for. -/
def Node.toPattern? (binding : Bool) : Node → Option Node
  | .identifier name => some (.identifier name)
  | .member span host name optional =>
    let target := Node.member span host name optional
    if binding || target.isOptionalChain then none else some target
  | .privateMember host name optional =>
    let target := Node.privateMember host name optional
    if binding || target.isOptionalChain then none else some target
  | .subscript span host bracket index optional =>
    let target := Node.subscript span host bracket index optional
    if binding || target.isOptionalChain then none else some target
  | .paren span inner => if !binding && inner.isSimpleTarget then some (.paren span inner) else none
  | .assign span none target value =>
    if binding && target.isSimpleTarget && !target.isIdentifier then none
    else some (.defaultPattern span target value)
  | .array elements trailing => do
    return .arrayPattern (dropTrailingHoles (← elementsToPattern? binding trailing elements))
  | .object span properties trailing => do
    return .objectPattern span (← propertiesToPattern? binding trailing properties)
  | _ => none

/-- The patterns of a list's elements; the rest can only come last, with no comma behind it. -/
def elementsToPattern? (binding trailing : Bool) : List Node → Option (List Node)
  | [] => some []
  | .hole :: others => do return .hole :: (← elementsToPattern? binding trailing others)
  | .spread target :: others => do
    let target ← target.toPattern? binding
    if others.isEmpty && !trailing && !target.hasDefault then return [.rest target] else none
  | element :: others => do
    return (← element.toPattern? binding) :: (← elementsToPattern? binding trailing others)

/-- The patterns of an object's properties; the rest can only come last, with no comma behind it. -/
def propertiesToPattern? (binding trailing : Bool) : List Node → Option (List Node)
  | [] => some []
  | .property key value :: others => do
    return .property key (← value.toPattern? binding) ::
      (← propertiesToPattern? binding trailing others)
  | .shorthand span name default? :: others => do
    return .shorthand span name default? :: (← propertiesToPattern? binding trailing others)
  | .defaulted span name value :: others => do
    return .shorthand span name (some value) :: (← propertiesToPattern? binding trailing others)
  | .spread target :: others => do
    let target ← target.toPattern? binding
    if others.isEmpty && !trailing && !target.hasDefault && (!binding || target.isIdentifier) then
      return [.rest target]
    else none
  | _ => none

end

mutual

/-- The names written as targets of a pattern, in order. Abbreviated properties may be left out. -/
def Node.namesOfTarget (abbreviated : Bool) : Node → List String
  | .identifier name => [name.text]
  | .property _ value => value.namesOfTarget abbreviated
  | .shorthand _ name _ => if abbreviated then [name.text] else []
  | .defaultPattern _ target _ => target.namesOfTarget abbreviated
  | .rest target => target.namesOfTarget abbreviated
  | .arrayPattern elements => namesOfTargets abbreviated elements
  | .objectPattern _ properties => namesOfTargets abbreviated properties
  | .paren _ inner => inner.namesOfTarget abbreviated
  | _ => []

/-- The names written as targets of patterns. -/
def namesOfTargets (abbreviated : Bool) : List Node → List String
  | [] => []
  | node :: others => node.namesOfTarget abbreviated ++ namesOfTargets abbreviated others

end

/-- The names that an assignment writes out as targets. -/
def Node.targetNames (node : Node) : List String := node.namesOfTarget false

/-- The names that parameters bind. -/
def boundNamesOf (params : List Node) : List String := namesOfTargets true params

end PropertyMangling.Script
