import PropertyMangling.Script.Grammar.Statement
/-!
# Reading the items of a program

Import and export declarations stand at the top level only. Each of them makes
the program a module, and is strict itself as all items behind it are.
-/
namespace PropertyMangling.Script.Parse

/-- A name of a module's interface: any word, or a string. -/
def interfaceName : Parse InterfaceName := do
  match ← token with
  | .string _ _ => return .string (← quoted)
  | _ => return .name (← anyName)

/-- The module that a declaration names, behind the word `from`. -/
def moduleSource : Parse Quoted := do
  expectWord "from"
  quoted

/-- One imported name, and the variable it is bound to. -/
def importItem : Parse ImportSpecifier := do
  match ← token with
  | .string _ _ =>
    let imported ← interfaceName
    expectWord "as"
    return .item (← bindingName) (some imported)
  | .word _ _ =>
    let own ← anyName
    if ← eatWord "as" then return .item (← bindingName) (some (.name own))
    else return .item own none
  | _ => fail

/-- What stands between braces, or the whole interface behind a star, as far as the phase lets it;
both may be left out. -/
def importGroup (phase : ImportPhase) : Parse (List ImportSpecifier) := do
  if phase != .source && (← eat "*") then
    expectWord "as"
    return [.wholeInterface (← bindingName)]
  else if phase == .evaluation && (← eat "\x7b") then
    return (← commaList "\x7d" importItem).1
  else return []

/-- The phase that a name in front of the current token stands for: a star follows, or a name that
is not the word in front of the module. -/
def phaseBefore? (name : String) : Parse (Option ImportPhase) := do
  match ImportPhase.ofText? name with
  | none => return none
  | some phase =>
    if ← isSymbol "*" then return some phase
    match ← token with
    | .word .. =>
      let next? := (← peek).map Prod.fst
      return if !(← isWord "from") || next?.any (means "from") then some phase else none
    | _ => return none

/-- The name of a module's default, with a comma behind it unless the module comes next. -/
def defaultName (name : Name) : Parse (Option Name) := do
  if !(← isWord "from") then expect ","
  return some name

/-- The phase of an import, and the name of its default. -/
def importHead : Parse (ImportPhase × Option Name) := do
  match ← optionalName with
  | none => return (.evaluation, none)
  | some first =>
    match ← phaseBefore? first.text with
    | none => return (.evaluation, ← defaultName first)
    | some phase =>
      if ← isSymbol "*" then return (phase, none)
      else return (phase, ← defaultName (← demand (← optionalName)))

/-- An import declaration, from its word on. -/
def importDeclaration : Parse Node := do
  expectWord "import"
  match ← token with
  | .string _ _ =>
    let source ← quoted
    semicolon
    return .importDeclaration .evaluation [] source
  | _ =>
    let (phase, default?) ← importHead
    let others ← importGroup phase
    let source ← moduleSource
    semicolon
    let specifiers := (default?.map ImportSpecifier.defaultValue).toList ++ others
    return .importDeclaration phase specifiers source

/-- One exported name. -/
def exportItem : Parse ExportSpecifier := do
  let own ← interfaceName
  if ← eatWord "as" then return .item own (some (← interfaceName))
  else return .item own none

/-- Whether an exported name can be a variable of the module itself. -/
def isOwnName : ExportSpecifier → Bool
  | .item (.name name) _ =>
    !reservedAlways.contains name.text && name.text != "package"
  | _ => false

/-- Exported names between braces. -/
def exportGroup : Parse Node := do
  expect "\x7b"
  let (specifiers, _) ← commaList "\x7d" exportItem
  if ← isWord "from" then
    let source ← moduleSource
    semicolon
    return .exportNamed specifiers (some source)
  else
    require (specifiers.all isOwnName)
    let _ ← eat ";"
    return .exportNamed specifiers none

/-- Everything that another module exports, behind the star. -/
def exportStar : Parse Node := do
  if ← eatWord "as" then
    let name ← interfaceName
    let source ← moduleSource
    semicolon
    return .exportNamed [.wholeInterface name] (some source)
  else
    let source ← moduleSource
    semicolon
    return .exportAll source

/-- The value of a module, behind the word `default`. A function or a class needs no name there. -/
def exportedDefault (self : Goal → Parse Node) : Parse Node := do
  if ← opensFunction then
    let isAsync ← eatWord "async"
    return .exportDefault (← functionExpression self isAsync)
  else if ← isWord "class" then return .exportDefault (← classExpression self)
  else
    let value ← enclosed (self .assignment)
    semicolon
    return .exportDefault value

/-- An export declaration, from its word on. -/
def exportDeclaration (self : Goal → Parse Node) : Parse Node := do
  expectWord "export"
  if ← eat "*" then exportStar
  else if ← isSymbol "\x7b" then exportGroup
  else if ← eatWord "default" then exportedDefault self
  else
    match ← variableKind? with
    | some kind => return .exportDeclaration (← variableStatement self kind)
    | none =>
      if ← opensFunction then return .exportDeclaration (← openedFunction self)
      else if ← isWord "class" then return .exportDeclaration (← classDeclaration self)
      else fail

/-- Whether the word `import` opens a declaration here, and not an expression. -/
def opensImport : Parse Bool := do
  match ← peek with
  | some (.symbol text, _) => return text != "(" && text != "."
  | _ => return true

/-- A declaration of the module's interface. -/
def interface (declaration : Parse Node) : Parse Node := do
  noteModule
  modify fun state => { state with declared := true }
  within Scope.ofModule declaration

/-- Whether a node waits for the name that opens a declaration in front of another name. -/
def isAwaitUsing : Node → Bool
  | .await (.identifier name) => name.text == "using"
  | _ => false

/-- A statement that opens with waiting for a value, which makes the program a module. The value may
be an operand and nothing looser, and no end has to follow it. -/
def awaitStatement (self : Goal → Parse Node) : Parse Node := do
  noteModule
  let start ← position
  let value ← awaitExpression self
  require (!(isAwaitUsing value && !(← get).newline && (← isVariableName)))
  let expression ← enclosed (joined self (some ⟨value, start, true⟩) 10)
  let _ ← eat ";"
  return .expressionStatement (← spanFrom start) expression

/-- One item of a program. -/
def item (self : Goal → Parse Node) : Parse (Option Node) := do
  match ← token with
  | .finish => return none
  | _ =>
    let scope := if (← get).declared then Scope.ofModule else id
    within scope do
      if (← isWord "import") && (← opensImport) then return some (← interface importDeclaration)
      else if ← isWord "export" then return some (← interface (exportDeclaration self))
      else if ← isWord "await" then return some (← awaitStatement self)
      else return some (← self .listed)

end PropertyMangling.Script.Parse
