import PropertyMangling.Script.Grammar.Member
/-!
# Reading expressions

From the tightest to the loosest: values, members and calls, operators before
and behind an operand, operators between two operands by precedence, conditions,
assignments, lists with commas. An assignment may turn out to be an arrow
function: the names or the parenthesised list in front of the arrow is read
first, and handed down as the head of an expression when no arrow follows.
-/
namespace PropertyMangling.Script.Parse

/-- A value that has been read already, and where it starts. -/
structure Head where
  node : Node
  start : Nat
  /-- The value is an operand as it is, and nothing more belongs to it. -/
  complete : Bool := false

/-- The regular expression that the slash at the current token opens. -/
def regexLiteral : Parse Node := do
  let start := (← get).lexeme.start
  let (source, behind) ← demand (Lexer.regex start.text)
  load (start.skipTo behind)
  return .regex source

/-- The texts and values of a template, from its opening backquote on. -/
def templateParts (self : Goal → Parse Node) (needsMeaning : Bool) :
    Parse (List String × List Node) := do
  let step := fun (parts : List String × List Node × Bool) => do
    let (texts, values, goesOn) := parts
    if !goesOn then return none
    else
      let rest := (← get).lexeme.rest
      let (text, behind) ← demand (Lexer.templateText rest.text)
      require (text.valid || !needsMeaning)
      let texts := String.ofList text.source :: texts
      load (rest.skipTo behind)
      if text.goesOn then
        let value ← enclosed (self .expression)
        require (← isSymbol "\x7d")
        return some (texts, value :: values, true)
      else return some (texts, values, false)
  let (texts, values, _) ← fold step ([], [], true)
  return (texts.reverse, values.reverse)

/-- An argument of a call, or an item of a list. -/
def argument (self : Goal → Parse Node) : Parse Node := do
  if ← eat "..." then return .spread (← enclosed (self .assignment))
  else enclosed (self .assignment)

/-- One more element of an array, or the hole before a comma; the elements come last first. -/
def arrayStep (self : Goal → Parse Node) (array : List Node × Bool) :
    Parse (Option (List Node × Bool)) := do
  if ← isSymbol "]" then return none
  else if ← eat "," then return some (.hole :: array.1, false)
  else
    let element ← argument self
    if ← isSymbol "]" then return some (element :: array.1, false)
    expect ","
    return some (element :: array.1, true)

/-- An array between brackets. -/
def arrayLiteral (self : Goal → Parse Node) : Parse Node := do
  expect "["
  let (elements, trailing) ← fold (arrayStep self) ([], false)
  expect "]"
  return .array elements.reverse trailing

/-- The arguments of a call, and whether a comma stands behind the last one. -/
def arguments (self : Goal → Parse Node) : Parse (List Node × Bool) := do
  expect "("
  commaList ")" (argument self)

/-- A function expression, from its word `function` on. -/
def functionExpression (self : Goal → Parse Node) (isAsync : Bool) : Parse Node := do
  expectWord "function"
  let flavor : Flavor := ⟨isAsync, ← eat "*"⟩
  let name? ← within (fun scope => scope.function flavor) optionalName
  let (params, body) ← functionParts self fun scope => scope.function flavor
  return .function flavor name? params body

/-- A class expression, from its word `class` on. -/
def classExpression (self : Goal → Parse Node) : Parse Node := do
  let (name?, parent?, members) ← classParts self optionalName
  return .classExpression name? parent? members

/-- Whether the current word is followed by another word on the same line. -/
def isFollowedBy (word : String) : Parse Bool := do
  match ← peek with
  | some (next, false) => return means word next
  | _ => return false

/-- An instance, from its word `new` on. -/
def newExpression (self : Goal → Parse Node) : Parse Node := do
  expectWord "new"
  if ← eat "." then
    require (← read).newTarget
    expectWord "target"
    return .word .newTarget
  else
    let callee ← self .callee
    if ← isSymbol "(" then
      let (items, _) ← arguments self
      return .new callee items true
    else return .new callee [] false

/-- The parent of a class. It is called anywhere, and its members are named in methods. -/
def parentWord (canCall : Bool) : Parse Node := do
  expectWord "super"
  if (← isSymbol ".") || (← isSymbol "[") then require (← read).superMember
  else require (canCall && (← isSymbol "("))
  return .word .parent

/-- The word `import` in an expression, called unless its point leads to what is known of the
module. A point makes the program a module. -/
def importWord (canCall : Bool) : Parse Node := do
  expectWord "import"
  if ← eat "." then
    noteModule
    let name ← anyName
    if name.text == "meta" then return .word .importMeta
    else
      let phase ← demand (ImportPhase.ofText? name.text)
      require (canCall && (← isSymbol "("))
      return .word (.module phase)
  else
    require (canCall && (← isSymbol "("))
    return .word (.module .evaluation)

/-- A value that starts with a word. -/
def wordValue (self : Goal → Parse Node) (canCall : Bool) (text : String) : Parse Node := do
  let plain := fun (word : Word) => do
    advance
    return Node.word word
  match text with
  | "this" => plain .this
  | "null" => plain .null
  | "true" => plain .yes
  | "false" => plain .no
  | "function" => functionExpression self false
  | "class" => classExpression self
  | "new" => newExpression self
  | "super" => parentWord canCall
  | "import" => importWord canCall
  | _ =>
    if text == "async" && (← isFollowedBy "function") then
      advance
      functionExpression self true
    else return .identifier (← variableName)

/-- The names that parameters bind may not be fixed ones in strict modules. -/
def noteParameters (params : List Node) : Parse Unit := do
  if (← read).strict && (boundNamesOf params).any isFixed then noteScriptOnly

/-- The items of a list as parameters: three dots come last, and no comma behind them. -/
def parametersOf (items : List Node) (trailing : Bool) : Parse (List Node) := do
  let params ← demand (elementsToPattern? true trailing items)
  noteParameters params
  return params

/-- An arrow function behind its arrow. -/
def arrowBody (self : Goal → Parse Node) (isAsync : Bool) (params : List Node) : Parse Node := do
  let inner := fun (scope : Scope) => scope.entered ⟨isAsync, false⟩
  if ← isSymbol "\x7b" then
    let body ← within inner (secluded (blockBody self))
    checkDirectives params body
    return .arrow isAsync params (.block body)
  else
    return .arrow isAsync params (← within inner (secluded (self .assignment)))

/-- One more item of a parenthesised list; the items come last first. An arrow behind an item is
passed, and when the first item is a name, the items so far are also the parameters of a function
that is the next item. -/
def parenStep (self : Goal → Parse Node) (list : List Node × Bool) :
    Parse (Option (List Node × Bool)) := do
  if ← isSymbol ")" then return none
  else
    let items := (← argument self) :: list.1
    let items ← if (← eat "=>") && items.getLast?.any Node.isIdentifier then do
        let params ← parametersOf items.reverse false
        pure ((← arrowBody self false params) :: items)
      else pure items
    if ← isSymbol ")" then return some (items, false)
    expect ","
    return some (items, true)

/-- The items of a parenthesised list, and whether a comma stands behind the last one. -/
def parenItems (self : Goal → Parse Node) : Parse (List Node × Bool) := do
  expect "("
  let (items, trailing) ← enclosed (fold (parenStep self) ([], false))
  expect ")"
  return (items.reverse, trailing)

/-- Whether a node is an object with a default that waits for a pattern. -/
def isUnfinished : Node → Bool
  | .object _ properties _ =>
    properties.any fun property => match property with
      | .defaulted .. => true
      | _ => false
  | _ => false

/-- Whether an argument or an element is spread. -/
def isSpread : Node → Bool
  | .spread _ => true
  | _ => false

/-- A parenthesised list that is an expression. -/
def parenOf (start : Nat) (items : List Node) : Parse Node := do
  require (!(items.any isSpread) && !(items.any isUnfinished))
  let span ← spanFrom start
  match items with
  | [] => fail
  | [item] => return .paren span item
  | items => return .paren span (.sequence items)

/-- A value without members and calls. No arrow follows a list here. -/
def primary (self : Goal → Parse Node) (canCall : Bool) : Parse Node := do
  let start ← position
  match ← token with
  | .word _ .disguised => return .identifier (← variableName)
  | .word text _ => wordValue self canCall text
  | .privateName text _ =>
    advance
    return .privateName text
  | .symbol "#" =>
    advance
    return .privateName (← anyName).text
  | .number _ _ | .bigint _ => numberLiteral
  | .string _ _ => return .string (← quoted)
  | .symbol "(" =>
    let (items, _) ← parenItems self
    require (!(← isSymbol "=>"))
    parenOf start items
  | .symbol "[" => arrayLiteral self
  | .symbol "\x7b" => objectLiteral self
  | .symbol "`" =>
    let (texts, values) ← templateParts self true
    return .template texts values
  | .symbol "/" | .symbol "/=" => regexLiteral
  | _ => fail

/-- Whether a node stands for the parent class. -/
def isParent : Node → Bool
  | .word .parent => true
  | _ => false

/-- A member behind the point or the question mark. A parent has no private ones. -/
def namedMember (head : Head) (optional : Bool) : Parse Node := do
  match ← token with
  | .privateName text _ =>
    require (!isParent head.node)
    advance
    return .privateMember head.node text optional
  | _ =>
    let name ← anyName
    return .member (← spanFrom head.start) head.node name optional

/-- A member between brackets. -/
def bracketMember (self : Goal → Parse Node) (head : Head) (optional : Bool) : Parse Node := do
  let start ← position
  expect "["
  let index ← enclosed (self .expression)
  expect "]"
  return .subscript (← spanFrom head.start) head.node (← spanFrom start) index optional

/-- A call behind what is called. No comma ends the arguments of `import`. -/
def callOf (self : Goal → Parse Node) (head : Head) (optional : Bool) : Parse Node := do
  let (items, trailing) ← arguments self
  match head.node with
  | .word (.module _) => require (!trailing)
  | _ => pure ()
  return .call (← spanFrom head.start) head.node items optional

/-- One more member or call behind a value. -/
def chainStep (self : Goal → Parse Node) (canCall : Bool) (head : Head) : Parse (Option Head) := do
  let grown := fun (node : Node) => some { head with node := node }
  match ← token with
  | .symbol "." =>
    advance
    return grown (← namedMember head false)
  | .symbol "[" => return grown (← bracketMember self head false)
  | .symbol "(" => if canCall then return grown (← callOf self head false) else return none
  | .symbol "?" =>
    if !(← isBefore ".") then return none
    require canCall
    advance
    advance
    if ← isSymbol "[" then return grown (← bracketMember self head true)
    else if ← isSymbol "(" then return grown (← callOf self head true)
    else return grown (← namedMember head true)
  | .symbol "`" =>
    require (!head.node.isOptionalChain)
    let (texts, values) ← templateParts self false
    return grown (.tagged head.node texts values)
  | _ => return none

/-- A value with its members, and with its calls where they may stand. -/
def subject (self : Goal → Parse Node) (canCall : Bool) (head? : Option Head) : Parse Node := do
  let head ← match head? with
    | some head => pure head
    | none =>
      let start ← position
      pure ⟨← primary self canCall, start, false⟩
  return (← fold (chainStep self canCall) head).node

/-- The operator before an operand at the current token. -/
def unaryOp? : Parse (Option UnaryOp) := do
  match ← token with
  | .symbol "-" => return some .minus
  | .symbol "+" => return some .plus
  | .symbol "!" => return some .not
  | .symbol "~" => return some .complement
  | .word "typeof" .plain => return some .typeOf
  | .word "void" .plain => return some .void
  | .word "delete" .plain => return some .delete
  | _ => return none

/-- Whether the current token adds or takes away one. -/
def updateOp? : Parse (Option Bool) := do
  match ← token with
  | .symbol "++" => return some true
  | .symbol "--" => return some false
  | _ => return none

/-- What can be changed in place. -/
def simpleTarget (node : Node) : Parse Node := do
  require node.isSimpleTarget
  checkTargets node.targetNames
  return node

/-- Whether the word `await` in front of the current token can be a name. -/
def isAfterBareAwait : Parse Bool := do
  let state ← get
  match state.token with
  | .symbol text => return state.newline || [")", "]", "\x7d", ";", ","].contains text
  | .finish => return true
  | _ => return state.newline

/-- Waiting for a value. Where nothing can be waited for, the word is a name in front of some marks
and at the end of a line. -/
def awaitExpression (self : Goal → Parse Node) : Parse Node := do
  let scope ← read
  let name ← anyName
  if (← isAfterBareAwait) && !scope.isAsync && !scope.isModule then return .identifier name
  else
    require (!(scope.inFunction && !scope.isAsync))
    require (!(scope.inParameters && !scope.inFunction))
    return .await (← self .unary)

/-- Whether a node waits for a value. -/
def isAwait : Node → Bool
  | .await _ => true
  | _ => false

/-- A value, changed in place behind it on the same line. -/
def postfixed (self : Goal → Parse Node) (head? : Option Head) : Parse Node := do
  let node ← subject self true head?
  match ← updateOp? with
  | some increment =>
    if (← get).newline then return node
    else
      let target ← simpleTarget node
      advance
      return .update increment false target
  | none => return node

/-- An operand with the operators before it, and whether there are any. -/
def operand (self : Goal → Parse Node) (head? : Option Head) : Parse (Node × Bool) := do
  match head? with
  | some head =>
    if head.complete then return (head.node, isAwait head.node)
    else return (← postfixed self head?, false)
  | none =>
    match ← unaryOp? with
    | some op =>
      advance
      let operand ← self .unary
      if op == .delete && operand.isIdentifier then noteScriptOnly
      return (.unary op operand, true)
    | none =>
      match ← updateOp? with
      | some increment =>
        advance
        return (.update increment true (← simpleTarget (← self .unary)), false)
      | none =>
        if ← isWord "await" then
          let node ← awaitExpression self
          return (node, isAwait node)
        else return (← postfixed self none, false)

/-- An operand, raised to a power when that follows. -/
def powered (self : Goal → Parse Node) (head? : Option Head) : Parse Node := do
  let (base, hasOperator) ← operand self head?
  if ← isSymbol "**" then
    require (!hasOperator)
    advance
    return .binary .power base (← self .power)
  else return base

/-- The operator between two operands at the current token. -/
def binaryOp? : Parse (Option BinaryOp) := do
  match ← token with
  | .symbol text => return BinaryOp.ofText? text
  | .word "in" .plain => return if (← read).allowsIn then some .within else none
  | .word "instanceof" .plain => return some .instanceOf
  | _ => return none

/-- Whether a node joins two conditions. -/
def isConjunction : Node → Bool
  | .binary .or _ _ | .binary .and _ _ => true
  | _ => false

/-- Whether a node falls back from a missing value. -/
def isCoalescing : Node → Bool
  | .binary .coalesce _ _ => true
  | _ => false

/-- A fallback and a condition are joined with parentheses only. -/
def binaryOf (op : BinaryOp) (left right : Node) : Parse Node := do
  if op == .coalesce then require (!isConjunction left && !isConjunction right)
  if op == .or || op == .and then require (!isCoalescing left && !isCoalescing right)
  return .binary op left right

/-- Operands joined by operators that bind more tightly than the given number of levels of ten. -/
def joined (self : Goal → Parse Node) (head? : Option Head) : Nat → Parse Node
  | 0 => powered self head?
  | levels + 1 => do
    let step := fun (left : Node) => do
      match ← binaryOp? with
      | none => return none
      | some op =>
        if op.precedence = 10 - levels then
          advance
          let right ← joined self none levels
          return some (← binaryOf op left right)
        else return none
    fold step (← joined self head? levels)

/-- A condition with its two outcomes, or what would be the condition. -/
def conditional (self : Goal → Parse Node) (head? : Option Head) : Parse Node := do
  let test ← joined self head? 10
  if ← eat "?" then
    let consequent ← enclosed (self .assignment)
    expect ":"
    return .conditional test consequent (← self .assignment)
  else return test

/-- Passes an arrow, which stands on the line of what is in front of it, and says whether there was
one. -/
def eatArrow : Parse Bool := do
  if ← isSymbol "=>" then
    require (!(← get).newline)
    eat "=>"
  else return false

/-- Whether a token can be the name of a parameter. -/
def isParameterName (token : Token) : Parse Bool := do
  match token with
  | .word _ .disguised => return true
  | .word text _ => return !(← read).reserves text
  | _ => return false

/-- Whether the current token is a mark that joins two operands. -/
def isOperatorMark : Parse Bool := do
  match ← token with
  | .symbol text => return (BinaryOp.ofText? text).isSome
  | _ => return false

/-- Whether a node is an arrow function with a block for its body. -/
def hasBlockBody : Node → Bool
  | .arrow _ _ (.block _) => true
  | _ => false

/-- An arrow function, or the value that was read while looking for one, from a parenthesised list
on. The list may be the arguments of the name `async`. No operator may stand behind a body in
braces, not even on a line of its own. -/
def arrowOrList (self : Goal → Parse Node) (start : Nat) (async? : Option Name) :
    Parse (Node ⊕ Option Head) := do
  let (items, trailing) ← parenItems self
  if ← eatArrow then
    let arrow ← arrowBody self async?.isSome (← parametersOf items trailing)
    require (!(hasBlockBody arrow && (← isOperatorMark)))
    return .inl arrow
  else
    match async? with
    | none => return .inr (some ⟨← parenOf start items, start, false⟩)
    | some name =>
      require (!(items.any isUnfinished))
      return .inr (some ⟨.call (← spanFrom start) (.identifier name) items false, start, false⟩)

/-- An arrow function of one parameter behind the word `async`, or the word itself as the target of
a loop. -/
def asyncArrow (self : Goal → Parse Node) (start : Nat) : Parse (Node ⊕ Option Head) := do
  let async ← variableName
  let scope ← read
  if !scope.allowsIn && (← isWord "of") && !(← isBefore "=>") then
    require scope.overAwaited
    return .inr (some ⟨.identifier async, start, false⟩)
  else
    let name ← within (fun scope => { scope with isAsync := true }) bindingName
    expect "=>"
    return .inl (← arrowBody self true [.identifier name])

/-- An arrow function, or the value that was read while looking for one. -/
def arrowOrHead (self : Goal → Parse Node) : Parse (Node ⊕ Option Head) := do
  let start ← position
  let current ← token
  match current with
  | .symbol "(" => arrowOrList self start none
  | .word text _ =>
    match ← peek with
    | some (.symbol "=>", false) =>
      if means "let" current || means "await" current || !(← isVariableName) then return .inr none
      let params := [Node.identifier (← variableName)]
      noteParameters params
      expect "=>"
      return .inl (← arrowBody self false params)
    | some (.symbol "(", false) =>
      if means "async" current then arrowOrList self start (some (← variableName))
      else return .inr none
    | some (next, false) =>
      if text == "async" && (← isParameterName next) then asyncArrow self start
      else return .inr none
    | _ => return .inr none
  | _ => return .inr none

/-- Handing out a value from a generator. -/
def yieldExpression (self : Goal → Parse Node) : Parse Node := do
  expectWord "yield"
  require (!(← read).inParameters)
  if (← get).newline then return .yield false none
  else if ← eat "*" then return .yield true (some (← self .assignment))
  else
    match ← token with
    | .symbol ")" | .symbol "]" | .symbol "\x7d" | .symbol "," | .symbol ";" | .symbol ":"
    | .finish => return .yield false none
    | .word "in" .plain => return .yield false none
    | _ => return .yield false (some (← self .assignment))

/-- The operator of an assignment; a plain one has none. -/
def assignOp? : Parse (Option (Option BinaryOp)) := do
  match ← token with
  | .symbol "=" => return some none
  | .symbol text =>
    if text == "=>" then return none
    else
      match text.toList.reverse with
      | '=' :: op =>
        match BinaryOp.ofText? (String.ofList op.reverse) with
        | some op =>
          return if op.precedence ≤ 5 || 8 ≤ op.precedence then some (some op) else none
        | none => return none
      | _ => return none
  | _ => return none

/-- An assignment, an arrow function, or what would be the target of an assignment. -/
def assignment (self : Goal → Parse Node) : Parse Node := do
  let start ← position
  if (← read).isGenerator && (← isWord "yield") then yieldExpression self
  else
    match ← arrowOrHead self with
    | .inl arrow => return arrow
    | .inr head? =>
      let left ← conditional self head?
      match ← assignOp? with
      | none => return left
      | some none =>
        let target ← assignmentTarget left
        advance
        let value ← self .assignment
        return .assign (← spanFrom start) none target value
      | some (some op) =>
        let target ← simpleTarget left
        advance
        let value ← self .assignment
        return .assign (← spanFrom start) (some op) target value

/-- Expressions with commas between them. -/
def expression (self : Goal → Parse Node) : Parse Node := do
  let first ← self .assignment
  let step := fun (items : List Node) => do
    if ← eat "," then return some ((← self .assignment) :: items) else return none
  match ← fold step [first] with
  | [item] => return item
  | items => return .sequence items.reverse

end PropertyMangling.Script.Parse
