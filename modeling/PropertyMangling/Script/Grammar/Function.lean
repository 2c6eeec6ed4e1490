import PropertyMangling.Script.Grammar.Basic
/-!
# Reading patterns, parameters and function bodies

A binding target is a name or a pattern of names. A body opens with directives:
string literals that are statements of their own. The first of them can make the
rest of the body strict.
-/
namespace PropertyMangling.Script.Parse

/-- A target with its default value, if it has one. -/
def bindingElement (self : Goal → Parse Node) : Parse Node := do
  let start ← position
  let target ← self .binding
  if ← eat "=" then
    let value ← enclosed (self .assignment)
    return .defaultPattern (← spanFrom start) target value
  else return target

/-- The number literal at the current token. -/
def numberLiteral : Parse Node := do
  match ← token with
  | .number value _ =>
    let node := Node.number (← tokenSpan) value (← source)
    advance
    return node
  | .bigint value =>
    let node := Node.bigint value (← source)
    advance
    return node
  | _ => fail

/-- The key of a property. -/
def propertyKey (self : Goal → Parse Node) : Parse Node := do
  match ← token with
  | .word _ _ => return .keyName (← anyName)
  | .string _ _ => return .keyString (← quoted)
  | .symbol _ =>
    let start ← position
    expect "["
    let value ← enclosed (self .assignment)
    expect "]"
    return .computed (← spanFrom start) value
  | _ => numberLiteral

/-- One element of an array pattern, or the hole before a comma. A comma behind the rest is not the
last one. -/
def arrayPatternItem (self : Goal → Parse Node) : Parse (Option Node) := do
  if ← isSymbol "]" then return none
  else if ← eat "," then return some .hole
  else if ← eat "..." then
    let target ← self .binding
    if ← eat "," then require (!(← isSymbol "]"))
    return some (.rest target)
  else
    let element ← bindingElement self
    if ← isSymbol "]" then return some element
    expect ","
    return some element

/-- One property of an object pattern. -/
def objectPatternItem (self : Goal → Parse Node) : Parse Node := do
  let start ← position
  if ← eat "..." then
    let name ← bindingName
    require (← isSymbol "\x7d")
    return .rest (.identifier name)
  else
    let key ← propertyKey self
    match key with
    | .keyName name =>
      if ← eat ":" then return .property key (← bindingElement self)
      else if ← eat "=" then
        let value ← enclosed (self .assignment)
        return .shorthand (← spanFrom start) name (some value)
      else return .shorthand name.span name none
    | _ =>
      expect ":"
      return .property key (← bindingElement self)

/-- Whether a parameter takes the rest of the arguments. -/
def isRest : Node → Bool
  | .rest _ => true
  | _ => false

/-- A name or a pattern of names. -/
def bindingTarget (self : Goal → Parse Node) : Parse Node := do
  let start ← position
  if ← eat "[" then
    let elements ← many (arrayPatternItem self)
    expect "]"
    let elements := dropTrailingHoles elements
    require (!(elements.dropLast.any isRest))
    return .arrayPattern elements
  else if ← eat "\x7b" then
    let (properties, _) ← commaList "\x7d" (objectPatternItem self)
    return .objectPattern (← spanFrom start) properties
  else return .identifier (← bindingName)

/-- One parameter. Its default is read as the function itself is. -/
def parameter (self : Goal → Parse Node) : Parse Node := do
  let start ← position
  if ← eat "..." then
    let target ← self .binding
    require (← isSymbol ")")
    return .rest target
  else
    let target ← self .binding
    if ← eat "=" then
      let value ← self .assignment
      return .defaultPattern (← spanFrom start) target value
    else return target

/-- Parameters between parentheses. -/
def parameters (self : Goal → Parse Node) : Parse (List Node) := do
  expect "("
  return (← commaList ")" (parameter self)).1

/-- Whether a statement is a string literal on its own. -/
def isDirective : Node → Bool
  | .expressionStatement _ (.string _) => true
  | _ => false

/-- Whether a directive makes the code behind it strict. -/
def isUseStrict : Node → Bool
  | .expressionStatement _ (.string literal) =>
    literal.source? == some "\"use strict\"" || literal.source? == some "'use strict'"
  | _ => false

/-- Whether a statement has a semicolon of its own behind its text. -/
def hasSemicolon : Node → Bool
  | .expressionStatement span (.string literal) => literal.span.hi < span.hi
  | _ => false

/-- Items, the first of which may make the others strict. The token behind it is judged again,
unless that token was needed to see where it ends. -/
def itemsWithDirective (item : Parse (Option Node)) : Parse (List Node) := do
  match ← item with
  | none => return []
  | some first =>
    if isUseStrict first then
      within Scope.strictly do
        if hasSemicolon first then judge (← token)
        return first :: (← many item)
    else return first :: (← many item)

/-- A statement or declaration, unless a closing brace comes first. -/
def listedItem (self : Goal → Parse Node) : Parse (Option Node) := do
  if ← isSymbol "\x7d" then return none else return some (← self .listed)

/-- The statements of a block, braces included. -/
def blockBody (self : Goal → Parse Node) : Parse (List Node) := do
  expect "\x7b"
  let body ← many (listedItem self)
  expect "\x7d"
  return body

/-- Whether a parameter is a name and nothing else. -/
def isSimpleParameter : Node → Bool
  | .identifier _ => true
  | _ => false

/-- A function that makes itself strict has names as parameters and nothing else. -/
def checkDirectives (params body : List Node) : Parse Unit :=
  require (params.all isSimpleParameter || !(body.takeWhile isDirective).any isUseStrict)

/-- Reads the body of a function. What is found in it does not make the program a module. -/
def secluded {α : Type} (body : Parse α) : Parse α := do
  let isModule := (← get).isModule
  let value ← body
  modify fun state => { state with isModule := isModule }
  return value

/-- The statements of a function from its opening brace on. -/
def functionBody (self : Goal → Parse Node) (params : List Node) : Parse (List Node) := do
  expect "\x7b"
  let body ← enclosed (secluded (itemsWithDirective (listedItem self)))
  checkDirectives params body
  return body

/-- The parameters and the body of a function, each in a scope of its own. What stands behind its
closing brace is outside. -/
def functionPartsIn (self : Goal → Parse Node) (ofParameters ofBody : Scope → Scope) :
    Parse (List Node × List Node) := do
  let params ← within ofParameters (parameters self)
  let body ← within ofBody (functionBody self params)
  expect "\x7d"
  return (params, body)

/-- The parameters and the body of a function in the given scope. -/
def functionParts (self : Goal → Parse Node) (scope : Scope → Scope) :
    Parse (List Node × List Node) :=
  functionPartsIn self (fun outer => (scope outer).parameters) scope

end PropertyMangling.Script.Parse
