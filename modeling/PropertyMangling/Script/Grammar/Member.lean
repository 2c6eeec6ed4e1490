import PropertyMangling.Script.Grammar.Function
/-!
# Reading objects and classes

The words `get`, `set`, `async` and `static` are modifiers only when a key comes
behind them; otherwise they are keys themselves.
-/
namespace PropertyMangling.Script.Parse

/-- Whether the token behind the current one says that the current one is a key. -/
def isKeyItself (ends : List String) (sameLine : Bool) : Parse Bool := do
  match ← peek with
  | none => return false
  | some (.symbol text, newline) => return ends.contains text || (sameLine && newline)
  | some (.finish, _) => return true
  | some (_, newline) => return sameLine && newline

/-- Passes a modifier when the current token is one. -/
def eatModifier (isModifier : Token → Bool) (ends : List String) (sameLine : Bool) :
    Parse Bool := do
  if isModifier (← token) then
    if ← isKeyItself ends sameLine then return false
    advance
    return true
  else return false

/-- Whether a token is a word of the given text, however it is written. -/
def isText (text : String) : Token → Bool
  | .word other _ => other == text
  | _ => false

/-- Parameters fit a kind of method: none for a getter, one for a setter. -/
def checkArity (kind : MethodKind) (params : List Node) : Parse Unit :=
  match kind, params with
  | .method, _ => pure ()
  | .getter, [] => pure ()
  | .setter, [.rest _] => fail
  | .setter, [_] => pure ()
  | _, _ => fail

/-- Modifiers in front of a key: what the method does, and what its function is. The key may have to
stand on the line of the word `async`. -/
def methodModifiers (ends : List String) (sameLine : Bool) : Parse (MethodKind × Flavor) := do
  if ← eat "*" then return (.method, ⟨false, true⟩)
  else if ← eatModifier (isText "async") ends sameLine then
    return (.method, ⟨true, ← eat "*"⟩)
  else if ← eatModifier (isText "get") ("*" :: ends) false then return (.getter, {})
  else if ← eatModifier (isText "set") ("*" :: ends) false then return (.setter, {})
  else return (.method, {})

/-- Tokens that follow a key of an object. -/
def objectKeyEnds : List String := [",", ":", "(", "\x7d", "="]

/-- One member of an object. -/
def objectItem (self : Goal → Parse Node) : Parse Node := do
  let start ← position
  if ← eat "..." then return .spread (← enclosed (self .assignment))
  else
    let (kind, flavor) ← methodModifiers objectKeyEnds false
    let key ← propertyKey self
    if kind != .method || flavor != {} || (← isSymbol "(") then
      let (params, body) ← functionParts self fun scope => scope.method flavor
      checkArity kind params
      return .objectMethod kind flavor key params body
    else if ← eat ":" then return .property key (← enclosed (self .assignment))
    else
      match key with
      | .keyName name =>
        if ← eat "=" then
          let value ← enclosed (self .assignment)
          return .defaulted (← spanFrom start) name value
        else return .shorthand name.span name none
      | _ => fail

/-- An object. -/
def objectLiteral (self : Goal → Parse Node) : Parse Node := do
  let start ← position
  expect "\x7b"
  let (properties, trailing) ← commaList "\x7d" (objectItem self)
  return .object (← spanFrom start) properties trailing

/-- Tokens that follow a key of a class. -/
def classKeyEnds : List String := ["(", "=", ";", "\x7d"]

/-- Whether a key is the given name, quoted or not. -/
def isKey (text : String) : Node → Bool
  | .keyName name => name.text == text
  | .keyString literal => literal.value == text
  | _ => false

/-- The key of a class member. -/
def classKey (self : Goal → Parse Node) : Parse Node := do
  match ← token with
  | .privateName text _ =>
    require (text != "constructor")
    advance
    return .privateName text
  | _ => propertyKey self

/-- A field behind its key. -/
def fieldTail (self : Goal → Parse Node) (isStatic : Bool) (key : Node) : Parse Node := do
  require (!isKey "constructor" key)
  let value? ← if ← eat "=" then
      pure (some (← within Scope.fieldValue (self .assignment)))
    else pure none
  semicolon
  return .field isStatic key value?

/-- One member of a class. -/
def classItem (self : Goal → Parse Node) : Parse (Option Node) := do
  if ← isSymbol "\x7d" then return none
  else if ← eat ";" then return some .emptyMember
  else
    let isStatic ← eatModifier (means "static") classKeyEnds false
    if isStatic && (← isWord "static") && (← isBefore "\x7b") then advance
    if isStatic && (← isSymbol "\x7b") then
      return some (.staticBlock (← within Scope.staticBlock (blockBody self)))
    else
      let (kind, flavor) ← methodModifiers classKeyEnds true
      let key ← classKey self
      if kind != .method || flavor != {} || (← isSymbol "(") then
        if isKey "constructor" key then
          require (!isStatic && kind == .method && flavor == {})
          let (params, body) ← functionPartsIn self id fun scope => scope.method {}
          return some (.classConstructor key params body)
        else
          let (params, body) ← functionParts self fun scope => scope.method flavor
          checkArity kind params
          return some (.classMethod isStatic kind flavor key params body)
      else return some (← fieldTail self isStatic key)

/-- Whether a member of a class is its constructor. -/
def isConstructor : Node → Bool
  | .classConstructor .. => true
  | _ => false

/-- A class from its word on: its name, its parent and its members. All of it is strict, and what
stands behind its closing brace is outside. -/
def classParts {α : Type} (self : Goal → Parse Node) (name : Parse α) :
    Parse (α × Option Node × List Node) := do
  let parts ← within Scope.ofClass do
    expectWord "class"
    let name ← name
    let parent? ← if ← eatWord "extends" then pure (some (← self .subject)) else pure none
    expect "\x7b"
    let members ← within Scope.members (many (classItem self))
    require ((members.filter isConstructor).length ≤ 1)
    return (name, parent?, members)
  expect "\x7d"
  return parts

end PropertyMangling.Script.Parse
