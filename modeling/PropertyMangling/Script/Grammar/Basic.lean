import PropertyMangling.Script.Lexer
import PropertyMangling.Script.Pattern
/-!
# Reading programs: state and small steps

A reading step knows the scope it is in, sees the current token and answers with
what it read, or fails at a position. Steps that need one another in a circle
ask for each other by goal; the circle is closed in one place with a bound on its
depth. Repetitions are bounded by the size of the program.

A program is a script unless something in it makes it a module, which may come
last. What only scripts may hold is therefore noted and judged at the end.
-/
namespace PropertyMangling.Script

/-- Where a text stops being a program. -/
structure SyntaxError where
  position : Nat
deriving DecidableEq, Repr

/-- What surrounds the place that is being read. -/
structure Scope where
  /-- How many words and other characters the program has, which bounds every repetition. -/
  size : Nat := 0
  strict : Bool := false
  /-- The program has shown to be a module before this place. -/
  isModule : Bool := false
  inFunction : Bool := false
  /-- Nothing can be waited for or handed out here. -/
  inParameters : Bool := false
  isAsync : Bool := false
  isGenerator : Bool := false
  /-- The target of `new` can be asked for. -/
  newTarget : Bool := false
  /-- Members of the parent class can be named. -/
  superMember : Bool := false
  /-- The name `arguments` has no meaning. -/
  noArguments : Bool := false
  inStaticBlock : Bool := false
  canBreak : Bool := false
  canContinue : Bool := false
  labels : List String := []
  /-- The operator `in` can stand between two operands. It would end the head of a loop, and it needs
  something around it in the defaults of parameters outside of functions. -/
  allowsIn : Bool := false
  /-- The loop waits for what it runs over. -/
  overAwaited : Bool := false

/-- The scope of a function's body. -/
def Scope.entered (scope : Scope) (flavor : Flavor) : Scope :=
  { scope with
    inFunction := true
    inParameters := false
    isAsync := flavor.isAsync
    isGenerator := flavor.isGenerator
    canBreak := false
    canContinue := false
    labels := [] }

/-- The scope of an ordinary function. -/
def Scope.function (scope : Scope) (flavor : Flavor) : Scope :=
  { scope.entered flavor with
    newTarget := true, superMember := false, noArguments := false, inStaticBlock := false }

/-- The scope of a method of an object or a class. -/
def Scope.method (scope : Scope) (flavor : Flavor) : Scope :=
  { scope.function flavor with superMember := true }

/-- The scope of the value of a field. -/
def Scope.fieldValue (scope : Scope) : Scope := { scope with noArguments := true, allowsIn := true }

/-- The scope of a static block. -/
def Scope.staticBlock (scope : Scope) : Scope :=
  { scope with noArguments := true, inStaticBlock := true }

/-- The scope of a function's parameters, from that of its body. -/
def Scope.parameters (scope : Scope) : Scope :=
  { scope with inFunction := false, inParameters := true }

/-- The scope between brackets of any kind, and of an expression that a statement holds. -/
def Scope.enclosed (scope : Scope) : Scope := { scope with allowsIn := true }

/-- The scope of the members of a class. -/
def Scope.members (scope : Scope) : Scope :=
  { scope with superMember := true }

/-- The scope of a class, all of which is strict. -/
def Scope.ofClass (scope : Scope) : Scope :=
  { scope with strict := true, newTarget := true }

/-- The scope of strict code. -/
def Scope.strictly (scope : Scope) : Scope := { scope with strict := true }

/-- The scope of a module, which is strict. -/
def Scope.ofModule (scope : Scope) : Scope := { scope with strict := true, isModule := true }

/-- Words that are never names. -/
def reservedAlways : List String := [
  "break", "case", "catch", "class", "const", "continue", "debugger", "default", "delete", "do",
  "else", "enum", "export", "extends", "false", "finally", "for", "function", "if", "import", "in",
  "instanceof", "new", "null", "return", "super", "switch", "this", "throw", "true", "try",
  "typeof", "var", "void", "while", "with"]

/-- Words that name no variable in strict code, beside the ones that other places reserve too. -/
def reservedStrict : List String := [
  "implements", "interface", "let", "package", "private", "protected", "public"]

/-- Whether a word is reserved at a place. -/
def Scope.reserves (scope : Scope) (text : String) : Bool :=
  reservedAlways.contains text ||
    (scope.strict && (reservedStrict.contains text || text == "await" || text == "yield")) ||
    (text == "await" && (scope.isAsync || scope.inStaticBlock)) ||
    (text == "yield" && scope.isGenerator)

/-- A token at its place in the text. -/
structure Lexeme where
  token : Token
  /-- Where the token starts. -/
  start : Cursor
  /-- What is behind the token. -/
  rest : Cursor
  wasRead : ∃ behind, Lexer.token start.text = some (token, behind) ∧ rest = start.skipTo behind

namespace Lexeme

/-- The end of a text without any token. -/
def none : Lexeme := ⟨.finish, ⟨[], 1⟩, ⟨[], 1⟩, [], rfl, rfl⟩

/-- The token that starts at a place. -/
def at? (start : Cursor) : Option Lexeme :=
  match read : Lexer.token start.text with
  | some (token, behind) => some ⟨token, start, start.skipTo behind, behind, read, rfl⟩
  | Option.none => Option.none

/-- The token as it is written. -/
def source (lexeme : Lexeme) : String := lexeme.start.slice lexeme.rest

end Lexeme

/-- How far the reading has come. -/
structure State where
  lexeme : Lexeme := .none
  /-- The position that counts as the start of the token. -/
  opened : Nat := 1
  /-- A line ends before the token. -/
  newline : Bool := false
  /-- The position behind the token before. -/
  finished : Nat := 1
  /-- Something was read that only scripts may hold. -/
  scriptOnly : Bool := false
  /-- Something was read that makes the program a module. -/
  isModule : Bool := false
  /-- A declaration of the module's interface was read, so that the items behind it are strict. -/
  declared : Bool := false

/-- The current token. -/
def State.token (state : State) : Token := state.lexeme.token

/-- A reading step. -/
abbrev Parse (α : Type) := ReaderT Scope (StateT State (Except SyntaxError)) α

/-- The steps that need one another. -/
inductive Goal where
  | expression
  | assignment
  | power
  | unary
  /-- A value with its members and calls. -/
  | subject
  /-- A value with its members, as it stands behind `new`. -/
  | callee
  /-- The target of a declaration or a parameter. -/
  | binding
  /-- A statement that may not declare anything. -/
  | statement
  /-- A statement or a declaration. -/
  | listed
deriving DecidableEq, Repr

namespace Parse

/-- Fails at the place where the current token starts. -/
def fail {α : Type} : Parse α := do throw ⟨(← get).opened⟩

/-- Fails unless a condition holds. -/
def require (condition : Bool) : Parse Unit := if condition then pure () else fail

/-- The value of an option, which has to be there. -/
def demand {α : Type} : Option α → Parse α
  | some a => pure a
  | none => fail

/-- Notes what modules may not hold. -/
def noteScriptOnly : Parse Unit := modify fun state => { state with scriptOnly := true }

/-- Notes what makes the program a module. -/
def noteModule : Parse Unit := modify fun state => { state with isModule := true }

/-- Judges how a token is written. A legacy literal stands outside strict code only, and a reserved
word is written without escapes. -/
def judge (token : Token) : Parse Unit := do
  match token with
  | .number _ true | .string _ true =>
    require (!(← read).strict)
    noteScriptOnly
  | .word text .escaped | .privateName text .escaped => require (!(← read).reserves text)
  | _ => pure ()

/-- Moves on to the token at a place, where the trivia in front of it end. -/
def arrive (trivia : Trivia) (start : Cursor) (opened finished : Nat) : Parse Unit := do
  let lexeme ← demand (Lexeme.at? start)
  judge lexeme.token
  modify fun state => { state with
    lexeme := lexeme
    opened := opened
    newline := trivia.newline
    finished := finished
    scriptOnly := state.scriptOnly || trivia.document?.isSome }

/-- Moves on to the token at or behind a place. -/
def load (place : Cursor) : Parse Unit := do
  let (trivia, start) ← demand (place.trivia false)
  arrive trivia start (trivia.document?.getD start.position) place.position

/-- Moves on to the next token. -/
def advance : Parse Unit := do load (← get).lexeme.rest

/-- The token behind the current one, and whether a line ends before it. -/
def peek : Parse (Option (Token × Bool)) := do
  let state ← get
  return do
    let (trivia, start) ← state.lexeme.rest.trivia false
    let (token, _) ← Lexer.token start.text
    return (token, trivia.newline)

/-- The current token. -/
def token : Parse Token := do return (← get).token

/-- A step that starts with a look at the state goes on from that state, which the look leaves as it
is. -/
theorem bind_get {α : Type} {scope : Scope} {state : State} {next : State → Parse α} :
    (get >>= next) scope state = next state scope state := rfl

/-- A step that starts with a look at the current token goes on from that token, so that a case split
on the token decides which of its branches runs. -/
theorem bind_token {α : Type} {scope : Scope} {state : State} {next : Token → Parse α} :
    (token >>= next) scope state = next state.token scope state := rfl

/-- The position where the current token starts. -/
def position : Parse Nat := do return (← get).opened

/-- The span from a position to the end of the token before the current one. -/
def spanFrom (start : Nat) : Parse Span := do return ⟨start, (← get).finished⟩

/-- The current token as it is written. -/
def source : Parse String := do return (← get).lexeme.source

/-- The span of the current token. -/
def tokenSpan : Parse Span := do
  let state ← get
  return ⟨state.opened, state.lexeme.rest.position⟩

/-- Whether the current token is a symbol. -/
def isSymbol (text : String) : Parse Bool := do
  match (← get).token with
  | .symbol other => return other == text
  | _ => return false

/-- Whether the token behind the current one is a symbol. -/
def isBefore (text : String) : Parse Bool := do
  match ← peek with
  | some (.symbol other, _) => return other == text
  | _ => return false

/-- Whether a token means the given word. -/
def means (text : String) : Token → Bool
  | .word _ .disguised => false
  | .word other _ => other == text
  | _ => false

/-- Whether the current token means the given word. -/
def isWord (text : String) : Parse Bool := do return means text (← get).token

/-- Passes a symbol when it is the current token, and says whether it was. -/
def eat (text : String) : Parse Bool := do
  if ← isSymbol text then
    advance
    return true
  else return false

/-- Passes a symbol, and fails when it is not the current token. -/
def expect (text : String) : Parse Unit := do require (← eat text)

/-- Passes a word when it is the current token, and says whether it was. -/
def eatWord (text : String) : Parse Bool := do
  if ← isWord text then
    advance
    return true
  else return false

/-- Passes a word, and fails when it is not the current token. -/
def expectWord (text : String) : Parse Unit := do require (← eatWord text)

/-- Whether a statement may end before the current token without a semicolon. -/
def canEnd : Parse Bool := do
  let state ← get
  match state.token with
  | .finish => return true
  | .symbol text => return text == ";" || text == "\x7d" || state.newline
  | _ => return state.newline

/-- The end of a statement. -/
def semicolon : Parse Unit := do
  if ← eat ";" then return
  require (← canEnd)

/-- Repeats a step from a value on until it has nothing to add. -/
def foldSteps {α : Type} (step : α → Parse (Option α)) : Nat → α → Parse α
  | 0, _ => fail
  | count + 1, value => do
    match ← step value with
    | none => return value
    | some next => foldSteps step count next

/-- Repeats a step, each time behind at least one token. -/
def fold {α : Type} (step : α → Parse (Option α)) (value : α) : Parse α := do
  foldSteps step ((← read).size + 2) value

/-- As many items as there are. -/
def many {α : Type} (item : Parse (Option α)) : Parse (List α) := do
  let items ← fold (fun items => do return (← item).map (· :: items)) ([] : List α)
  return items.reverse

/-- Items with commas between them, up to a closing symbol; whether a comma came last as well. -/
def commaList {α : Type} (close : String) (item : Parse α) : Parse (List α × Bool) := do
  let step := fun (state : List α × Bool × Bool) => do
    let (items, trailing, done) := state
    if done then return none
    else if ← eat close then return some (items, trailing, true)
    else
      require (items.isEmpty || trailing)
      let next ← item
      let comma ← eat ","
      return some (next :: items, comma, false)
  let (items, trailing, _) ← fold step ([], false, false)
  return (items.reverse, trailing)

/-- Names that modules give to no variable. -/
def namesOfScripts : List String := "static" :: "yield" :: reservedStrict

/-- Whether a name has a meaning of its own in strict code, which nothing may change there. -/
def isFixed (name : String) : Bool := name == "eval" || name == "arguments"

/-- Fails when strict code gives values to names that are fixed there. -/
def checkTargets (names : List String) : Parse Unit := do
  require (!((← read).strict && names.any isFixed))

/-- The current token as a name, whatever word it is. -/
def anyName : Parse Name := do
  match ← token with
  | .word text _ =>
    let span ← tokenSpan
    advance
    return ⟨span, text⟩
  | _ => fail

/-- The current token as a name that no word of the language takes. -/
def freeName : Parse Name := do
  match ← token with
  | .word text spelling =>
    let scope ← read
    if spelling != .disguised then
      require (!reservedAlways.contains text)
      require (!(text == "await" && (scope.isAsync || scope.inStaticBlock || scope.isModule)))
      require (!(text == "yield" && scope.isGenerator))
      if namesOfScripts.contains text then noteScriptOnly
    require (!(text == "arguments" && scope.noArguments))
    anyName
  | _ => fail

/-- Whether the current token can be the name of a variable. -/
def isVariableName : Parse Bool := do
  match ← token with
  | .word _ .disguised => return true
  | .word text _ => return text == "let" || !(← read).reserves text
  | _ => return false

/-- The current token as the name of a variable. -/
def variableName : Parse Name := do
  require (← isVariableName)
  freeName

/-- The current token as the name that a declaration gives a value to. -/
def bindingName : Parse Name := do
  let name ← freeName
  let scope ← read
  require (!(name.text == "await" && (scope.isAsync || scope.inStaticBlock)))
  require (!(name.text == "yield" && scope.isGenerator))
  if isFixed name.text then noteScriptOnly
  return name

/-- The current token as the name of a value that may go without one. A word that is reserved here
is no name. -/
def optionalName : Parse (Option Name) := do
  match ← token with
  | .word text spelling =>
    if spelling != .disguised && (← read).reserves text then return none
    else return some (← bindingName)
  | _ => return none

/-- The current token as a string literal. -/
def quoted : Parse Quoted := do
  match ← token with
  | .string value _ =>
    let literal := ⟨← tokenSpan, value, some (← source)⟩
    advance
    return literal
  | _ => fail

/-- Turns what was read into the target of an assignment. -/
def assignmentTarget (node : Node) : Parse Node := do
  let pattern ← demand (node.toPattern? false)
  require (!pattern.hasDefault)
  checkTargets pattern.targetNames
  return pattern

/-- Reads in a changed scope. -/
def within {α : Type} (change : Scope → Scope) (step : Parse α) : Parse α :=
  withReader change step

/-- Reads where every operator can stand. -/
def enclosed {α : Type} (step : Parse α) : Parse α := within Scope.enclosed step

end Parse

end PropertyMangling.Script
