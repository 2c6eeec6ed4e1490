import PropertyMangling.Script.Syntax
/-!
# Where names and strings stand in a program

`Node.sites` walks a program once and lists every place that collecting or
renaming looks at, with the part that the name or string plays there. The walk
goes through the parts of a node in the order of the text, except that the test of a
do-while loop comes before its body, the members of a class before its parent,
and the variable of an import before the name it was imported under.
-/
namespace PropertyMangling

open Script

/-- A name or string of a program and the part it plays. -/
inductive Site where
  /-- A property named behind a point or as a key. -/
  | name (text : String)
  /-- A name that is the key of a property and its value. -/
  | shorthand (text : String)
  /-- A string alone between the brackets of a member. -/
  | subscript (value : String)
  /-- A key in quotes. -/
  | key (value : String)
  /-- Any other string. -/
  | literal (value : String)
  /-- A string of an import declaration. -/
  | imported (value : String)
  /-- A variable or a label. -/
  | variable (text : String)
deriving DecidableEq, Repr

/-- The string that stands alone between brackets, if the index is one. -/
def subscriptString? : Node → Option String
  | .string literal => some literal.value
  | _ => none

/-- The sites of a name in a module's interface, given the part that a string plays there. -/
def Script.InterfaceName.sites (part : String → Site) : InterfaceName → List Site
  | .name word => [.variable word.text]
  | .string literal => [part literal.value]

/-- The sites of what an import declaration binds. -/
def Script.ImportSpecifier.sites : ImportSpecifier → List Site
  | .defaultValue name => [.variable name.text]
  | .wholeInterface name => [.variable name.text]
  | .item name none => [.variable name.text]
  | .item name (some imported) => .variable name.text :: imported.sites .imported

/-- The sites of what an export declaration gives to other modules. -/
def Script.ExportSpecifier.sites : ExportSpecifier → List Site
  | .item own none => own.sites .literal
  | .item own (some exported) => own.sites .literal ++ exported.sites .literal
  | .wholeInterface name => name.sites .literal

/-- The site of the module that a declaration names. -/
def sourceSites : Option Quoted → List Site
  | none => []
  | some source => [.literal source.value]

/-- The variable that a name stands for. -/
def variableSites : Option Name → List Site
  | none => []
  | some name => [.variable name.text]

mutual

/-- The sites of a node, in the order of the walk. -/
def Script.Node.sites : Node → List Site
  | .word _ | .privateName _ | .number .. | .bigint .. | .regex _ | .hole => []
  | .identifier name => [.variable name.text]
  | .string literal => [.literal literal.value]
  | .template _ values => sitesOf values
  | .tagged tag _ values => tag.sites ++ sitesOf values
  | .array elements _ => sitesOf elements
  | .object _ properties _ => sitesOf properties
  | .function _ name? params body => variableSites name? ++ sitesOf params ++ sitesOf body
  | .classExpression name? parent? members =>
    variableSites name? ++ sitesOf members ++ sitesOfSome parent?
  | .unary _ operand => operand.sites
  | .update _ _ operand => operand.sites
  | .binary _ left right => left.sites ++ right.sites
  | .assign _ _ target value => target.sites ++ value.sites
  | .conditional test consequent alternate => test.sites ++ consequent.sites ++ alternate.sites
  | .sequence items => sitesOf items
  | .arrow _ params body => sitesOf params ++ body.sites
  | .yield _ argument? => sitesOfSome argument?
  | .await argument => argument.sites
  | .paren _ inner => inner.sites
  | .member _ host name _ => host.sites ++ [.name name.text]
  | .privateMember host _ _ => host.sites
  | .subscript _ host _ index _ =>
    host.sites ++ match subscriptString? index with
      | some value => [.subscript value]
      | none => index.sites
  | .call _ callee items _ => callee.sites ++ sitesOf items
  | .new callee items _ => callee.sites ++ sitesOf items
  | .spread argument => argument.sites
  | .keyName name => [.name name.text]
  | .keyString literal => [.key literal.value]
  | .computed _ expression => expression.sites
  | .property key value => key.sites ++ value.sites
  | .shorthand _ name default? => .shorthand name.text :: sitesOfSome default?
  | .defaulted _ name value => .variable name.text :: value.sites
  | .objectMethod _ _ key params body => key.sites ++ sitesOf params ++ sitesOf body
  | .classMethod _ _ _ key params body => key.sites ++ sitesOf params ++ sitesOf body
  | .classConstructor key params body => key.sites ++ sitesOf params ++ sitesOf body
  | .field _ key value? => key.sites ++ sitesOfSome value?
  | .staticBlock body => sitesOf body
  | .emptyMember => []
  | .arrayPattern elements => sitesOf elements
  | .objectPattern _ properties => sitesOf properties
  | .defaultPattern _ target value => target.sites ++ value.sites
  | .rest argument => argument.sites
  | .expressionStatement _ expression => expression.sites
  | .block body => sitesOf body
  | .empty | .debugger => []
  | .withStatement subject body => subject.sites ++ body.sites
  | .returnStatement argument? => sitesOfSome argument?
  | .labeled label body => .variable label.text :: body.sites
  | .breakStatement label? => variableSites label?
  | .continueStatement label? => variableSites label?
  | .ifStatement test consequent alternate? =>
    test.sites ++ consequent.sites ++ sitesOfSome alternate?
  | .switchStatement discriminant cases => discriminant.sites ++ sitesOf cases
  | .switchCase test? body => sitesOfSome test? ++ sitesOf body
  | .throwStatement argument => argument.sites
  | .tryStatement body handler? finalizer? =>
    sitesOf body ++ sitesOfSome handler? ++ sitesOfSome finalizer?
  | .catchClause param? body => sitesOfSome param? ++ sitesOf body
  | .whileStatement test body => test.sites ++ body.sites
  | .doWhile body test => test.sites ++ body.sites
  | .forStatement start? test? step? body =>
    sitesOfSome start? ++ sitesOfSome test? ++ sitesOfSome step? ++ body.sites
  | .forIn target subject body => target.sites ++ subject.sites ++ body.sites
  | .forOf _ target subject body => target.sites ++ subject.sites ++ body.sites
  | .variables _ _ declarators => sitesOf declarators
  | .declarator _ target value? => target.sites ++ sitesOfSome value?
  | .functionDeclaration _ name params body =>
    .variable name.text :: (sitesOf params ++ sitesOf body)
  | .classDeclaration name parent? members =>
    .variable name.text :: (sitesOf members ++ sitesOfSome parent?)
  | .importDeclaration _ specifiers source =>
    specifiers.flatMap ImportSpecifier.sites ++ [.imported source.value]
  | .exportDeclaration declaration => declaration.sites
  | .exportNamed specifiers source? =>
    specifiers.flatMap ExportSpecifier.sites ++ sourceSites source?
  | .exportDefault value => value.sites
  | .exportAll source => [.literal source.value]

/-- The sites of nodes, one after the other. -/
def sitesOf : List Node → List Site
  | [] => []
  | node :: rest => node.sites ++ sitesOf rest

/-- The sites of a node that may be left out. -/
def sitesOfSome : Option Node → List Site
  | none => []
  | some node => node.sites

end

/-- The sites of a program. -/
def Script.Program.sites (program : Program) : List Site := sitesOf program.items

end PropertyMangling
