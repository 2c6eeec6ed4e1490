import PropertyMangling.Decimal.Binary64
/-!
# Syntax trees of scripts

One type of nodes covers expressions, patterns, statements and module items, so
that a walk over a program is one recursion. Nodes are nested through lists and
options of nodes only. Parentheses are nodes of their own, and numbers, texts and
templates keep how they were written, because printing depends on it.

A span is kept where the tree listing shows one. Positions count the bytes of
the encoded source, from one at the start of the first token: they do not depend
on what stands in front of it, which the program itself knows.
-/
namespace PropertyMangling.Script

/-- A stretch of the source: the first position and the one behind the last. -/
structure Span where
  lo : Nat
  hi : Nat
deriving DecidableEq, Repr, Inhabited

/-- A name with its escapes resolved. -/
structure Name where
  span : Span
  text : String
deriving DecidableEq, Repr, Inhabited

/-- A string literal; the source is gone once the value has been changed. -/
structure Quoted where
  span : Span
  value : String
  source? : Option String
deriving DecidableEq, Repr, Inhabited

/-- How far a module is brought in. -/
inductive ImportPhase where
  /-- It is run at once. -/
  | evaluation
  /-- Its source alone is brought in. -/
  | source
  /-- It is run when it is first used. -/
  | deferred
deriving DecidableEq, Repr

/-- What stands between the word `import` and what is imported. -/
def ImportPhase.text? : ImportPhase → Option String
  | evaluation => none
  | source => some "source"
  | deferred => some "defer"

/-- The phase that a word stands for. -/
def ImportPhase.ofText? (text : String) : Option ImportPhase :=
  [ImportPhase.source, .deferred].find? fun phase => phase.text? == some text

/-- Words that stand for themselves in an expression. -/
inductive Word where
  | this
  | null
  | yes
  | no
  | parent
  | module (phase : ImportPhase)
  | newTarget
  | importMeta
deriving DecidableEq, Repr

/-- How a word is written. -/
def Word.text : Word → String
  | this => "this"
  | null => "null"
  | yes => "true"
  | no => "false"
  | parent => "super"
  | module phase => "import" ++ (phase.text?.elim "" ("." ++ ·))
  | newTarget => "new.target"
  | importMeta => "import.meta"

/-- Operators before their operand. -/
inductive UnaryOp where
  | minus
  | plus
  | not
  | complement
  | typeOf
  | void
  | delete
deriving DecidableEq, Repr

/-- How an operator with one operand is written. -/
def UnaryOp.text : UnaryOp → String
  | minus => "-"
  | plus => "+"
  | not => "!"
  | complement => "~"
  | typeOf => "typeof"
  | void => "void"
  | delete => "delete"

/-- Whether the operator is a word. -/
def UnaryOp.isWord : UnaryOp → Bool
  | typeOf | void | delete => true
  | minus | plus | not | complement => false

/-- Operators between two operands. -/
inductive BinaryOp where
  | equal
  | notEqual
  | same
  | notSame
  | less
  | lessEqual
  | greater
  | greaterEqual
  | shiftLeft
  | shiftRight
  | shiftRightFill
  | add
  | subtract
  | multiply
  | divide
  | remainder
  | power
  | bitOr
  | bitXor
  | bitAnd
  | or
  | and
  | coalesce
  | within
  | instanceOf
deriving DecidableEq, Repr

/-- How an operator with two operands is written. -/
def BinaryOp.text : BinaryOp → String
  | equal => "=="
  | notEqual => "!="
  | same => "==="
  | notSame => "!=="
  | less => "<"
  | lessEqual => "<="
  | greater => ">"
  | greaterEqual => ">="
  | shiftLeft => "<<"
  | shiftRight => ">>"
  | shiftRightFill => ">>>"
  | add => "+"
  | subtract => "-"
  | multiply => "*"
  | divide => "/"
  | remainder => "%"
  | power => "**"
  | bitOr => "|"
  | bitXor => "^"
  | bitAnd => "&"
  | or => "||"
  | and => "&&"
  | coalesce => "??"
  | within => "in"
  | instanceOf => "instanceof"

/-- How tightly an operator binds. -/
def BinaryOp.precedence : BinaryOp → Nat
  | coalesce => 1
  | or => 1
  | and => 2
  | bitOr => 3
  | bitXor => 4
  | bitAnd => 5
  | equal | notEqual | same | notSame => 6
  | less | lessEqual | greater | greaterEqual | within | instanceOf => 7
  | shiftLeft | shiftRight | shiftRightFill => 8
  | add | subtract => 9
  | multiply | divide | remainder => 10
  | power => 11

/-- Whether the operator is a word. -/
def BinaryOp.isWord : BinaryOp → Bool
  | within | instanceOf => true
  | _ => false

/-- All operators, longer texts before their beginnings. -/
def BinaryOp.all : List BinaryOp := [
  same, notSame, shiftRightFill, equal, notEqual, lessEqual, greaterEqual, shiftLeft, shiftRight,
  power, or, and, coalesce, less, greater, add, subtract, multiply, divide, remainder, bitOr,
  bitXor, bitAnd, within, instanceOf]

/-- The operator with the given text. -/
def BinaryOp.ofText? (text : String) : Option BinaryOp := BinaryOp.all.find? fun op => op.text == text

/-- What a function is besides a function. -/
structure Flavor where
  isAsync : Bool := false
  isGenerator : Bool := false
deriving DecidableEq, Repr, Inhabited

/-- The word that opens a declaration of variables. -/
inductive VariableKind where
  | var
  | lexical
  | constant
deriving DecidableEq, Repr

/-- The word that opens a declaration of variables. -/
def VariableKind.text : VariableKind → String
  | var => "var"
  | lexical => "let"
  | constant => "const"

/-- What calling a member of a class or an object does. -/
inductive MethodKind where
  | method
  | getter
  | setter
deriving DecidableEq, Repr

/-- A name in the interface of a module, which may be any string. -/
inductive InterfaceName where
  | name (name : Name)
  | string (literal : Quoted)
deriving DecidableEq, Repr

/-- What an import declaration binds to a variable. -/
inductive ImportSpecifier where
  | defaultValue (name : Name)
  | wholeInterface (name : Name)
  /-- One item, whose name in the other module is given when it is another one. -/
  | item (name : Name) (imported? : Option InterfaceName)
deriving DecidableEq, Repr

/-- What an export declaration gives to other modules. -/
inductive ExportSpecifier where
  /-- One item, whose name for other modules is given when it is another one. -/
  | item (own : InterfaceName) (exported? : Option InterfaceName)
  | wholeInterface (name : InterfaceName)
deriving DecidableEq, Repr

/-- A node of the syntax tree. -/
inductive Node where
  -- expressions without parts
  | word (word : Word)
  | identifier (name : Name)
  | privateName (text : String)
  | number (span : Span) (value : Binary64) (source : String)
  | bigint (value : Nat) (source : String)
  | regex (source : String)
  | string (literal : Quoted)
  /-- A place without an element, in an array or an array pattern. -/
  | hole
  -- expressions
  | template (texts : List String) (values : List Node)
  | tagged (tag : Node) (texts : List String) (values : List Node)
  /-- A comma may stand behind the last element. -/
  | array (elements : List Node) (trailing : Bool)
  /-- A comma may stand behind the last property. -/
  | object (span : Span) (properties : List Node) (trailing : Bool)
  | function (flavor : Flavor) (name? : Option Name) (params : List Node) (body : List Node)
  | classExpression (name? : Option Name) (parent? : Option Node) (members : List Node)
  | unary (op : UnaryOp) (operand : Node)
  | update (increment : Bool) (before : Bool) (operand : Node)
  | binary (op : BinaryOp) (left : Node) (right : Node)
  /-- An assignment, compound when an operator is given. -/
  | assign (span : Span) (op? : Option BinaryOp) (target : Node) (value : Node)
  | conditional (test : Node) (consequent : Node) (alternate : Node)
  | sequence (items : List Node)
  /-- The body is a block or an expression. -/
  | arrow (isAsync : Bool) (params : List Node) (body : Node)
  | yield (delegate : Bool) (argument? : Option Node)
  | await (argument : Node)
  | paren (span : Span) (inner : Node)
  | member (span : Span) (object : Node) (name : Name) (optional : Bool)
  | privateMember (object : Node) (name : String) (optional : Bool)
  | subscript (span : Span) (object : Node) (bracket : Span) (index : Node) (optional : Bool)
  | call (span : Span) (callee : Node) (arguments : List Node) (optional : Bool)
  | new (callee : Node) (arguments : List Node) (hasArguments : Bool)
  | spread (argument : Node)
  -- members of objects and classes
  | keyName (name : Name)
  | keyString (literal : Quoted)
  | computed (span : Span) (expression : Node)
  | property (key : Node) (value : Node)
  /-- A name that is key and value at once; the default is for patterns. -/
  | shorthand (span : Span) (name : Name) (default? : Option Node)
  /-- A name with a default in an object that has not become a pattern. -/
  | defaulted (span : Span) (name : Name) (value : Node)
  | objectMethod (kind : MethodKind) (flavor : Flavor) (key : Node) (params : List Node)
      (body : List Node)
  | classMethod (isStatic : Bool) (kind : MethodKind) (flavor : Flavor) (key : Node)
      (params : List Node) (body : List Node)
  | classConstructor (key : Node) (params : List Node) (body : List Node)
  | field (isStatic : Bool) (key : Node) (value? : Option Node)
  | staticBlock (body : List Node)
  | emptyMember
  -- patterns
  | arrayPattern (elements : List Node)
  | objectPattern (span : Span) (properties : List Node)
  | defaultPattern (span : Span) (target : Node) (value : Node)
  | rest (argument : Node)
  -- statements
  | expressionStatement (span : Span) (expression : Node)
  | block (body : List Node)
  | empty
  | debugger
  | withStatement (object : Node) (body : Node)
  | returnStatement (argument? : Option Node)
  | labeled (label : Name) (body : Node)
  | breakStatement (label? : Option Name)
  | continueStatement (label? : Option Name)
  | ifStatement (test : Node) (consequent : Node) (alternate? : Option Node)
  | switchStatement (discriminant : Node) (cases : List Node)
  /-- The default case has no test. -/
  | switchCase (test? : Option Node) (body : List Node)
  | throwStatement (argument : Node)
  | tryStatement (body : List Node) (handler? : Option Node) (finalizer? : Option Node)
  | catchClause (param? : Option Node) (body : List Node)
  | whileStatement (test : Node) (body : Node)
  | doWhile (body : Node) (test : Node)
  | forStatement (start? : Option Node) (test? : Option Node) (step? : Option Node) (body : Node)
  | forIn (target : Node) (subject : Node) (body : Node)
  | forOf (isAwait : Bool) (target : Node) (subject : Node) (body : Node)
  | variables (span : Span) (kind : VariableKind) (declarators : List Node)
  | declarator (span : Span) (target : Node) (value? : Option Node)
  | functionDeclaration (flavor : Flavor) (name : Name) (params : List Node) (body : List Node)
  | classDeclaration (name : Name) (parent? : Option Node) (members : List Node)
  -- module items
  | importDeclaration (phase : ImportPhase) (specifiers : List ImportSpecifier) (source : Quoted)
  | exportDeclaration (declaration : Node)
  | exportNamed (specifiers : List ExportSpecifier) (source? : Option Quoted)
  | exportDefault (value : Node)
  | exportAll (source : Quoted)
deriving Inhabited, Repr

/-- A program: its items, and the text of the line that names its interpreter. -/
structure Program where
  /-- The whole program, from the start of the source. -/
  span : Span
  /-- How many bytes stand in front of the first token, where the spans of nodes count from. -/
  lead : Nat
  interpreter? : Option String
  items : List Node
deriving Inhabited, Repr

end PropertyMangling.Script
