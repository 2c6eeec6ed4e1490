import PropertyMangling.Script.Grammar.Expression
/-!
# Reading statements

A statement that stands where a body is expected declares nothing, asynchronous
functions apart; below a label any function may stand outside strict code.
-/
namespace PropertyMangling.Script.Parse

/-- An expression between parentheses. -/
def parenthesised (self : Goal → Parse Node) : Parse Node := do
  expect "("
  let inner ← enclosed (self .expression)
  expect ")"
  return inner

/-- Whether the head of a loop goes on with what it runs over. -/
def isIterated : Parse Bool := do return (← isWord "of") || (← isWord "in")

/-- One variable of a declaration. In the head of a loop it may go without a value when the loop
runs over something. -/
def declaratorOf (self : Goal → Parse Node) (kind : VariableKind) (inHead : Bool) : Parse Node := do
  let start ← position
  require (!((← isWord "let") && kind != .var))
  let target ← self .binding
  let whole := fun (scope : Scope) => if inHead && kind == .var then scope else scope.enclosed
  let value? ← if ← eat "=" then pure (some (← within whole (self .assignment))) else pure none
  if value?.isNone && !(inHead && (← isIterated)) then
    require (inHead || kind != .constant)
    require target.isIdentifier
  return .declarator (← spanFrom start) target value?

/-- The variables of a declaration, behind its word. -/
def declarators (self : Goal → Parse Node) (kind : VariableKind) (inHead : Bool) :
    Parse (List Node) := do
  let first ← declaratorOf self kind inHead
  let step := fun (items : List Node) => do
    if ← eat "," then return some ((← declaratorOf self kind inHead) :: items) else return none
  return (← fold step [first]).reverse

/-- What the current word declares, if it opens a declaration of variables. The word `let` does so
only when a name or a pattern follows. -/
def variableKind? : Parse (Option VariableKind) := do
  if ← isWord "var" then return some .var
  else if ← isWord "const" then return some .constant
  else if ← isWord "let" then
    match ← peek with
    | some (.word _ .disguised, _) => return some .lexical
    | some (.word text _, _) =>
      return if reservedAlways.contains text then none else some .lexical
    | some (.symbol "[", _) | some (.symbol "\x7b", _) => return some .lexical
    | _ => return none
  else return none

/-- A declaration of variables with its end. -/
def variableStatement (self : Goal → Parse Node) (kind : VariableKind) : Parse Node := do
  let start ← position
  advance
  let items ← declarators self kind false
  semicolon
  return .variables (← spanFrom start) kind items

/-- A function declaration, from its word `function` on. -/
def functionDeclaration (self : Goal → Parse Node) (isAsync : Bool) : Parse Node := do
  expectWord "function"
  let flavor : Flavor := ⟨isAsync, ← eat "*"⟩
  let name ← bindingName
  let (params, body) ← functionParts self fun scope => scope.function flavor
  return .functionDeclaration flavor name params body

/-- A class declaration, from its word `class` on. -/
def classDeclaration (self : Goal → Parse Node) : Parse Node := do
  let (name, parent?, members) ← classParts self do
    require (!(← isWord "let"))
    bindingName
  return .classDeclaration name parent? members

/-- Whether the current token opens a function, possibly an asynchronous one. -/
def opensFunction : Parse Bool := do
  return (← isWord "function") || ((← isWord "async") && (← isFollowedBy "function"))

/-- The function that the current token opens. -/
def openedFunction (self : Goal → Parse Node) : Parse Node := do
  let isAsync ← eatWord "async"
  functionDeclaration self isAsync

/-- The body of a loop. -/
def loopBody (self : Goal → Parse Node) : Parse Node :=
  within (fun scope => { scope with canBreak := true, canContinue := true }) (self .statement)

/-- A condition with one branch or two. -/
def ifStatement (self : Goal → Parse Node) : Parse Node := do
  expectWord "if"
  let test ← parenthesised self
  let consequent ← self .statement
  let alternate? ← if ← eatWord "else" then pure (some (← self .statement)) else pure none
  return .ifStatement test consequent alternate?

/-- A loop that tests before each turn. -/
def whileStatement (self : Goal → Parse Node) : Parse Node := do
  expectWord "while"
  let test ← parenthesised self
  return .whileStatement test (← loopBody self)

/-- A loop that tests behind each turn; the semicolon behind it may be missing. -/
def doWhile (self : Goal → Parse Node) : Parse Node := do
  expectWord "do"
  let body ← loopBody self
  expectWord "while"
  let test ← parenthesised self
  let _ ← eat ";"
  return .doWhile body test

/-- The parts of a loop with a counter, behind what starts it and its semicolon. -/
def countedLoop (self : Goal → Parse Node) (start? : Option Node) : Parse Node := do
  let test? ← if ← isSymbol ";" then pure none else pure (some (← enclosed (self .expression)))
  expect ";"
  let step? ← if ← isSymbol ")" then pure none else pure (some (← enclosed (self .expression)))
  expect ")"
  return .forStatement start? test? step? (← loopBody self)

/-- The parts of a loop over something, behind its target. -/
def iteratedLoop (self : Goal → Parse Node) (isAwait : Bool) (target : Node) : Parse Node := do
  if ← eatWord "of" then
    let subject ← enclosed (self .assignment)
    expect ")"
    return .forOf isAwait target subject (← loopBody self)
  else
    require (!isAwait)
    expectWord "in"
    let subject ← enclosed (self .expression)
    expect ")"
    return .forIn target subject (← loopBody self)

/-- A loop whose head opens with a declaration. A variable that runs over names can have a value in
front of them, outside of strict code. -/
def declaredLoop (self : Goal → Parse Node) (isAwait : Bool) (kind : VariableKind) :
    Parse Node := do
  let start ← position
  advance
  let items ← declarators self kind true
  let declaration := Node.variables (← spanFrom start) kind items
  if ← isIterated then
    match items with
    | [.declarator _ _ value?] =>
      require (value?.isNone || ((← isWord "in") && !(← read).strict))
      iteratedLoop self isAwait declaration
    | _ => fail
  else
    require (!isAwait)
    expect ";"
    countedLoop self (some declaration)

/-- A loop with a head, of any of the kinds that the head can have. -/
def forStatement (self : Goal → Parse Node) : Parse Node := do
  expectWord "for"
  let isAwait ← eatWord "await"
  expect "("
  match ← variableKind? with
  | some kind => declaredLoop self isAwait kind
  | none =>
    if ← eat ";" then
      require (!isAwait)
      countedLoop self none
    else
      let head ← within (fun scope => { scope with allowsIn := false, overAwaited := isAwait })
        (self .expression)
      if ← isIterated then iteratedLoop self isAwait (← assignmentTarget head)
      else
        require (!isAwait)
        expect ";"
        countedLoop self (some head)

/-- The value behind a word such as `return`, if one stands on the same line. -/
def optionalValue (self : Goal → Parse Node) : Parse (Option Node) := do
  let value? ← if ← canEnd then pure none else pure (some (← enclosed (self .expression)))
  semicolon
  return value?

/-- The label behind a word such as `break`, if one stands on the same line. -/
def optionalLabel : Parse (Option Name) := do
  if ← canEnd then
    semicolon
    return none
  else
    let label ← freeName
    require ((← read).labels.contains label.text)
    semicolon
    return some label

/-- One case of a switch. -/
def caseItem (self : Goal → Parse Node) : Parse (Option Node) := do
  if ← isSymbol "\x7d" then return none
  else
    let test? ← if ← eatWord "case" then pure (some (← enclosed (self .expression)))
      else do
        expectWord "default"
        pure none
    expect ":"
    let body ← many do
      if (← isSymbol "\x7d") || (← isWord "case") || (← isWord "default") then return none
      else return some (← self .listed)
    return some (.switchCase test? body)

/-- Whether a case stands for all other values. -/
def isDefaultCase : Node → Bool
  | .switchCase none _ => true
  | _ => false

/-- A choice among cases. -/
def switchStatement (self : Goal → Parse Node) : Parse Node := do
  expectWord "switch"
  let discriminant ← parenthesised self
  expect "\x7b"
  let cases ← within (fun scope => { scope with canBreak := true }) (many (caseItem self))
  expect "\x7d"
  require ((cases.filter isDefaultCase).length ≤ 1)
  return .switchStatement discriminant cases

/-- What happens when a try fails, from its word `catch` on. -/
def catchClause (self : Goal → Parse Node) : Parse Node := do
  expectWord "catch"
  let param? ← if ← eat "(" then do
      let target ← self .binding
      expect ")"
      pure (some target)
    else pure none
  return .catchClause param? (← blockBody self)

/-- A block whose failures are handled behind it. -/
def tryStatement (self : Goal → Parse Node) : Parse Node := do
  expectWord "try"
  let body ← blockBody self
  let handler? ← if ← isWord "catch" then pure (some (← catchClause self)) else pure none
  let finalizer? ← if ← eatWord "finally" then pure (some (Node.block (← blockBody self)))
    else pure none
  require (handler?.isSome || finalizer?.isSome)
  return .tryStatement body handler? finalizer?

/-- A statement whose names are looked up in a value first. A value can be returned from its body
anywhere. -/
def withStatement (self : Goal → Parse Node) : Parse Node := do
  noteScriptOnly
  expectWord "with"
  let subject ← parenthesised self
  let body ← within (fun scope => { scope with inFunction := true }) (self .statement)
  return .withStatement subject body

/-- A labelled statement. -/
def labelled (self : Goal → Parse Node) : Parse Node := do
  let label ← variableName
  expect ":"
  require (!(← read).labels.contains label.text)
  let inner := fun (scope : Scope) =>
    { scope with labels := label.text :: scope.labels, canBreak := true }
  if ← isWord "function" then
    require (!(← read).strict)
    match ← within inner (functionDeclaration self false) with
    | .functionDeclaration flavor name params body =>
      require (!flavor.isGenerator)
      return .labeled label (.functionDeclaration flavor name params body)
    | _ => fail
  else return .labeled label (← within inner (self .statement))

/-- An expression as a statement, up to where the statement may end. -/
def expressionStatement (self : Goal → Parse Node) : Parse Node := do
  let start ← position
  let expression ← enclosed (self .expression)
  semicolon
  return .expressionStatement (← spanFrom start) expression

/-- A statement that opens with a call of the word `import`; no end has to follow it. -/
def importStatement (self : Goal → Parse Node) : Parse Node := do
  let start ← position
  let expression ← self .expression
  let _ ← eat ";"
  return .expressionStatement (← spanFrom start) expression

/-- Whether the current word is a label. -/
def isLabel : Parse Bool := do
  if ← isWord "await" then return false
  match ← peek with
  | some (.symbol ":", _) => return true
  | _ => return false

/-- A statement that opens with a word of the language, or a label, or an expression. -/
def wordStatement (self : Goal → Parse Node) (text : String) : Parse Node := do
  match text with
  | "var" => variableStatement self .var
  | "if" => ifStatement self
  | "for" => forStatement self
  | "while" => whileStatement self
  | "do" => doWhile self
  | "return" =>
    require (← read).inFunction
    advance
    return .returnStatement (← optionalValue self)
  | "break" =>
    require (← read).canBreak
    advance
    return .breakStatement (← optionalLabel)
  | "continue" =>
    require (← read).canContinue
    advance
    return .continueStatement (← optionalLabel)
  | "throw" =>
    advance
    require (!(← canEnd))
    let value ← enclosed (self .expression)
    semicolon
    return .throwStatement value
  | "try" => tryStatement self
  | "switch" => switchStatement self
  | "with" => withStatement self
  | "import" => importStatement self
  | "debugger" =>
    advance
    semicolon
    return .debugger
  | _ =>
    require (text != "function" && text != "class")
    if ← opensFunction then openedFunction self
    else if ← isLabel then labelled self
    else expressionStatement self

/-- A statement that declares nothing. -/
def statement (self : Goal → Parse Node) : Parse Node := do
  match ← token with
  | .symbol "\x7b" => return .block (← blockBody self)
  | .symbol ";" =>
    advance
    return .empty
  | .word _ .disguised => if ← isLabel then labelled self else expressionStatement self
  | .word text _ => wordStatement self text
  | _ => expressionStatement self

/-- A statement or a declaration. -/
def listed (self : Goal → Parse Node) : Parse Node := do
  match ← variableKind? with
  | some kind => variableStatement self kind
  | none =>
    if ← opensFunction then openedFunction self
    else if ← isWord "class" then classDeclaration self
    else statement self

end PropertyMangling.Script.Parse
