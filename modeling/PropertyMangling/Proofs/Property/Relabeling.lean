import PropertyMangling.Property.Renaming
/-!
# Relabeling a program

A relabeling gives property names and strings new texts, and writes shorthands
out under a key. Every other node stays as it is and in its place, imports
included. One relabeling after another is a relabeling again.
-/
namespace PropertyMangling

open Script

/-- New texts for property names and strings, and keys that shorthands are written out under. -/
structure Relabeling where
  /-- What a property name becomes. -/
  name : String → String
  /-- What a string becomes. A string that becomes nothing keeps how it was written, too. -/
  string? : String → Option String
  /-- The key of a shorthand, when it is written out. -/
  key? : String → Option String

namespace Relabeling

/-- The name of a property. -/
def onName (labels : Relabeling) (name : Name) : Name := { name with text := labels.name name.text }

/-- A string, wherever it stands. -/
def onString (labels : Relabeling) (literal : Quoted) : Quoted :=
  match labels.string? literal.value with
  | some value => { literal with value := value, source? := none }
  | none => literal

/-- A name in the interface of a module is a variable of it, unless it is a string. -/
def onInterfaceName (labels : Relabeling) : InterfaceName → InterfaceName
  | .name word => .name word
  | .string literal => .string (labels.onString literal)

/-- What an export declaration gives to other modules. -/
def onExport (labels : Relabeling) : ExportSpecifier → ExportSpecifier
  | .item own exported? =>
    .item (labels.onInterfaceName own) (exported?.map labels.onInterfaceName)
  | .wholeInterface name => .wholeInterface (labels.onInterfaceName name)

/-- A shorthand, whose default has been relabeled. -/
def onShorthand (labels : Relabeling) (span : Span) (name : Name) (default? : Option Node) : Node :=
  match labels.key? name.text with
  | some key => Renaming.writtenOut span name key default?
  | none => .shorthand span name default?

end Relabeling

mutual

/-- A node with its property names, strings and shorthands relabeled. -/
def Script.Node.relabel (labels : Relabeling) : Node → Node
  | .word word => .word word
  | .identifier name => .identifier name
  | .privateName text => .privateName text
  | .number span value source => .number span value source
  | .bigint value source => .bigint value source
  | .regex source => .regex source
  | .string literal => .string (labels.onString literal)
  | .hole => .hole
  | .template texts values => .template texts (relabelAll labels values)
  | .tagged tag texts values => .tagged (tag.relabel labels) texts (relabelAll labels values)
  | .array elements trailing => .array (relabelAll labels elements) trailing
  | .object span properties trailing => .object span (relabelAll labels properties) trailing
  | .function flavor name? params body =>
    .function flavor name? (relabelAll labels params) (relabelAll labels body)
  | .classExpression name? parent? members =>
    .classExpression name? (relabelSome labels parent?) (relabelAll labels members)
  | .unary op operand => .unary op (operand.relabel labels)
  | .update increment before operand => .update increment before (operand.relabel labels)
  | .binary op left right => .binary op (left.relabel labels) (right.relabel labels)
  | .assign span op? target value => .assign span op? (target.relabel labels) (value.relabel labels)
  | .conditional test consequent alternate =>
    .conditional (test.relabel labels) (consequent.relabel labels) (alternate.relabel labels)
  | .sequence items => .sequence (relabelAll labels items)
  | .arrow isAsync params body => .arrow isAsync (relabelAll labels params) (body.relabel labels)
  | .yield delegate argument? => .yield delegate (relabelSome labels argument?)
  | .await argument => .await (argument.relabel labels)
  | .paren span inner => .paren span (inner.relabel labels)
  | .member span host name optional =>
    .member span (host.relabel labels) (labels.onName name) optional
  | .privateMember host name optional => .privateMember (host.relabel labels) name optional
  | .subscript span host bracket index optional =>
    .subscript span (host.relabel labels) bracket (index.relabel labels) optional
  | .call span callee items optional =>
    .call span (callee.relabel labels) (relabelAll labels items) optional
  | .new callee items hasArguments =>
    .new (callee.relabel labels) (relabelAll labels items) hasArguments
  | .spread argument => .spread (argument.relabel labels)
  | .keyName name => .keyName (labels.onName name)
  | .keyString literal => .keyString (labels.onString literal)
  | .computed span expression => .computed span (expression.relabel labels)
  | .property key value => .property (key.relabel labels) (value.relabel labels)
  | .shorthand span name default? => labels.onShorthand span name (relabelSome labels default?)
  | .defaulted span name value => .defaulted span name (value.relabel labels)
  | .objectMethod kind flavor key params body =>
    .objectMethod kind flavor (key.relabel labels) (relabelAll labels params)
      (relabelAll labels body)
  | .classMethod isStatic kind flavor key params body =>
    .classMethod isStatic kind flavor (key.relabel labels) (relabelAll labels params)
      (relabelAll labels body)
  | .classConstructor key params body =>
    .classConstructor (key.relabel labels) (relabelAll labels params) (relabelAll labels body)
  | .field isStatic key value? => .field isStatic (key.relabel labels) (relabelSome labels value?)
  | .staticBlock body => .staticBlock (relabelAll labels body)
  | .emptyMember => .emptyMember
  | .arrayPattern elements => .arrayPattern (relabelAll labels elements)
  | .objectPattern span properties => .objectPattern span (relabelAll labels properties)
  | .defaultPattern span target value =>
    .defaultPattern span (target.relabel labels) (value.relabel labels)
  | .rest argument => .rest (argument.relabel labels)
  | .expressionStatement span expression => .expressionStatement span (expression.relabel labels)
  | .block body => .block (relabelAll labels body)
  | .empty => .empty
  | .debugger => .debugger
  | .withStatement subject body => .withStatement (subject.relabel labels) (body.relabel labels)
  | .returnStatement argument? => .returnStatement (relabelSome labels argument?)
  | .labeled label body => .labeled label (body.relabel labels)
  | .breakStatement label? => .breakStatement label?
  | .continueStatement label? => .continueStatement label?
  | .ifStatement test consequent alternate? =>
    .ifStatement (test.relabel labels) (consequent.relabel labels) (relabelSome labels alternate?)
  | .switchStatement discriminant cases =>
    .switchStatement (discriminant.relabel labels) (relabelAll labels cases)
  | .switchCase test? body => .switchCase (relabelSome labels test?) (relabelAll labels body)
  | .throwStatement argument => .throwStatement (argument.relabel labels)
  | .tryStatement body handler? finalizer? =>
    .tryStatement (relabelAll labels body) (relabelSome labels handler?)
      (relabelSome labels finalizer?)
  | .catchClause param? body => .catchClause (relabelSome labels param?) (relabelAll labels body)
  | .whileStatement test body => .whileStatement (test.relabel labels) (body.relabel labels)
  | .doWhile body test => .doWhile (body.relabel labels) (test.relabel labels)
  | .forStatement start? test? step? body =>
    .forStatement (relabelSome labels start?) (relabelSome labels test?)
      (relabelSome labels step?) (body.relabel labels)
  | .forIn target subject body =>
    .forIn (target.relabel labels) (subject.relabel labels) (body.relabel labels)
  | .forOf isAwait target subject body =>
    .forOf isAwait (target.relabel labels) (subject.relabel labels) (body.relabel labels)
  | .variables span kind declarators => .variables span kind (relabelAll labels declarators)
  | .declarator span target value? =>
    .declarator span (target.relabel labels) (relabelSome labels value?)
  | .functionDeclaration flavor name params body =>
    .functionDeclaration flavor name (relabelAll labels params) (relabelAll labels body)
  | .classDeclaration name parent? members =>
    .classDeclaration name (relabelSome labels parent?) (relabelAll labels members)
  | .importDeclaration phase specifiers source => .importDeclaration phase specifiers source
  | .exportDeclaration declaration => .exportDeclaration (declaration.relabel labels)
  | .exportNamed specifiers source? =>
    .exportNamed (specifiers.map labels.onExport) (source?.map labels.onString)
  | .exportDefault value => .exportDefault (value.relabel labels)
  | .exportAll source => .exportAll (labels.onString source)

/-- Nodes, relabeled one by one. -/
def relabelAll (labels : Relabeling) : List Node → List Node
  | [] => []
  | node :: rest => node.relabel labels :: relabelAll labels rest

/-- A node that may be left out, relabeled. -/
def relabelSome (labels : Relabeling) : Option Node → Option Node
  | none => none
  | some node => some (node.relabel labels)

end

/-- A program with its property names, strings and shorthands relabeled. -/
def Script.Program.relabel (program : Program) (labels : Relabeling) : Program :=
  { program with items := relabelAll labels program.items }

/-- Relabeling a list of nodes is relabeling each of them, so that lists are handled by lemmas
about `List.map`. -/
theorem relabelAll_eq_map (labels : Relabeling) (nodes : List Node) :
    relabelAll labels nodes = nodes.map (Node.relabel labels) := by
  induction nodes with
  | nil => rfl
  | cons node rest inductionHypothesis => rw [relabelAll, inductionHypothesis, List.map_cons]

/-! ## One relabeling after another -/

namespace Relabeling

/-- The second relabeling of what the first one leaves. -/
def after (second first : Relabeling) : Relabeling where
  name text := second.name (first.name text)
  string? value :=
    match first.string? value with
    | some value => some ((second.string? value).getD value)
    | none => second.string? value
  key? text :=
    match first.key? text with
    | some key => some (second.name key)
    | none => second.key? text

variable (second first : Relabeling)

/-- Relabeling a name twice gives it the label of the composed relabeling. -/
theorem onName_onName (name : Name) :
    second.onName (first.onName name) = (second.after first).onName name := rfl

/-- Relabeling a string twice gives it the label of the composed relabeling, and the spelling that
a new value gets. -/
theorem onString_onString (literal : Quoted) :
    second.onString (first.onString literal) = (second.after first).onString literal := by
  simp only [onString, after]
  cases first.string? literal.value with
  | none => rfl
  | some value =>
    dsimp only
    cases second.string? value <;> rfl

/-- Relabeling a name of an interface twice is relabeling it once, be it a word or a text. -/
theorem onInterfaceName_onInterfaceName (name : InterfaceName) :
    second.onInterfaceName (first.onInterfaceName name) =
      (second.after first).onInterfaceName name := by
  cases name with
  | name word => rfl
  | string literal => exact congrArg InterfaceName.string (onString_onString second first literal)

/-- Relabeling an export twice is relabeling it once, on both of its sides. -/
theorem onExport_onExport (specifier : ExportSpecifier) :
    second.onExport (first.onExport specifier) = (second.after first).onExport specifier := by
  cases specifier with
  | item own exported? =>
    cases exported? <;> simp only [onExport, onInterfaceName_onInterfaceName, Option.map]
  | wholeInterface name => simp only [onExport, onInterfaceName_onInterfaceName]

/-- A shorthand that was written out gets another key; one that was not may still be. -/
theorem relabel_onShorthand (span : Span) (name : Name) (default? : Option Node) :
    (first.onShorthand span name default?).relabel second =
      (second.after first).onShorthand span name (relabelSome second default?) := by
  simp only [onShorthand, after]
  cases first.key? name.text with
  | none => rfl
  | some key => cases default? <;> rfl

end Relabeling

section Composition

open Relabeling

variable (second first : Relabeling)

mutual

/-- One relabeling after another is one relabeling, on every node. The proof follows the
constructors of nodes. -/
theorem Script.Node.relabel_relabel :
    ∀ node : Node, (node.relabel first).relabel second = node.relabel (second.after first)
  | .word _ => rfl
  | .identifier _ => rfl
  | .privateName _ => rfl
  | .number .. => rfl
  | .bigint .. => rfl
  | .regex _ => rfl
  | .string literal => congrArg Node.string (onString_onString second first literal)
  | .hole => rfl
  | .template _ values => by simp only [Node.relabel, relabelAll_relabelAll values]
  | .tagged tag _ values => by
    simp only [Node.relabel, tag.relabel_relabel, relabelAll_relabelAll values]
  | .array elements _ => by simp only [Node.relabel, relabelAll_relabelAll elements]
  | .object _ properties _ => by simp only [Node.relabel, relabelAll_relabelAll properties]
  | .function _ _ params body => by
    simp only [Node.relabel, relabelAll_relabelAll params, relabelAll_relabelAll body]
  | .classExpression _ parent? members => by
    simp only [Node.relabel, relabelSome_relabelSome parent?, relabelAll_relabelAll members]
  | .unary _ operand => by simp only [Node.relabel, operand.relabel_relabel]
  | .update _ _ operand => by simp only [Node.relabel, operand.relabel_relabel]
  | .binary _ left right => by simp only [Node.relabel, left.relabel_relabel, right.relabel_relabel]
  | .assign _ _ target value => by
    simp only [Node.relabel, target.relabel_relabel, value.relabel_relabel]
  | .conditional test consequent alternate => by
    simp only [Node.relabel, test.relabel_relabel, consequent.relabel_relabel,
      alternate.relabel_relabel]
  | .sequence items => by simp only [Node.relabel, relabelAll_relabelAll items]
  | .arrow _ params body => by
    simp only [Node.relabel, relabelAll_relabelAll params, body.relabel_relabel]
  | .yield _ argument? => by simp only [Node.relabel, relabelSome_relabelSome argument?]
  | .await argument => by simp only [Node.relabel, argument.relabel_relabel]
  | .paren _ inner => by simp only [Node.relabel, inner.relabel_relabel]
  | .member _ host _ _ => by simp only [Node.relabel, onName_onName, host.relabel_relabel]
  | .privateMember host _ _ => by simp only [Node.relabel, host.relabel_relabel]
  | .subscript _ host _ index _ => by
    simp only [Node.relabel, host.relabel_relabel, index.relabel_relabel]
  | .call _ callee items _ => by
    simp only [Node.relabel, callee.relabel_relabel, relabelAll_relabelAll items]
  | .new callee items _ => by
    simp only [Node.relabel, callee.relabel_relabel, relabelAll_relabelAll items]
  | .spread argument => by simp only [Node.relabel, argument.relabel_relabel]
  | .keyName name => congrArg Node.keyName (onName_onName second first name)
  | .keyString literal => congrArg Node.keyString (onString_onString second first literal)
  | .computed _ expression => by simp only [Node.relabel, expression.relabel_relabel]
  | .property key value => by simp only [Node.relabel, key.relabel_relabel, value.relabel_relabel]
  | .shorthand span name default? => by
    simp only [Node.relabel, relabel_onShorthand, relabelSome_relabelSome default?]
  | .defaulted _ _ value => by simp only [Node.relabel, value.relabel_relabel]
  | .objectMethod _ _ key params body => by
    simp only [Node.relabel, key.relabel_relabel, relabelAll_relabelAll params,
      relabelAll_relabelAll body]
  | .classMethod _ _ _ key params body => by
    simp only [Node.relabel, key.relabel_relabel, relabelAll_relabelAll params,
      relabelAll_relabelAll body]
  | .classConstructor key params body => by
    simp only [Node.relabel, key.relabel_relabel, relabelAll_relabelAll params,
      relabelAll_relabelAll body]
  | .field _ key value? => by
    simp only [Node.relabel, key.relabel_relabel, relabelSome_relabelSome value?]
  | .staticBlock body => by simp only [Node.relabel, relabelAll_relabelAll body]
  | .emptyMember => rfl
  | .arrayPattern elements => by simp only [Node.relabel, relabelAll_relabelAll elements]
  | .objectPattern _ properties => by simp only [Node.relabel, relabelAll_relabelAll properties]
  | .defaultPattern _ target value => by
    simp only [Node.relabel, target.relabel_relabel, value.relabel_relabel]
  | .rest argument => by simp only [Node.relabel, argument.relabel_relabel]
  | .expressionStatement _ expression => by simp only [Node.relabel, expression.relabel_relabel]
  | .block body => by simp only [Node.relabel, relabelAll_relabelAll body]
  | .empty => rfl
  | .debugger => rfl
  | .withStatement host body => by
    simp only [Node.relabel, host.relabel_relabel, body.relabel_relabel]
  | .returnStatement argument? => by simp only [Node.relabel, relabelSome_relabelSome argument?]
  | .labeled _ body => by simp only [Node.relabel, body.relabel_relabel]
  | .breakStatement _ => rfl
  | .continueStatement _ => rfl
  | .ifStatement test consequent alternate? => by
    simp only [Node.relabel, test.relabel_relabel, consequent.relabel_relabel,
      relabelSome_relabelSome alternate?]
  | .switchStatement discriminant cases => by
    simp only [Node.relabel, discriminant.relabel_relabel, relabelAll_relabelAll cases]
  | .switchCase test? body => by
    simp only [Node.relabel, relabelSome_relabelSome test?, relabelAll_relabelAll body]
  | .throwStatement argument => by simp only [Node.relabel, argument.relabel_relabel]
  | .tryStatement body handler? finalizer? => by
    simp only [Node.relabel, relabelAll_relabelAll body, relabelSome_relabelSome handler?,
      relabelSome_relabelSome finalizer?]
  | .catchClause param? body => by
    simp only [Node.relabel, relabelSome_relabelSome param?, relabelAll_relabelAll body]
  | .whileStatement test body => by
    simp only [Node.relabel, test.relabel_relabel, body.relabel_relabel]
  | .doWhile body test => by simp only [Node.relabel, body.relabel_relabel, test.relabel_relabel]
  | .forStatement start? test? step? body => by
    simp only [Node.relabel, relabelSome_relabelSome start?, relabelSome_relabelSome test?,
      relabelSome_relabelSome step?, body.relabel_relabel]
  | .forIn target subject body => by
    simp only [Node.relabel, target.relabel_relabel, subject.relabel_relabel, body.relabel_relabel]
  | .forOf _ target subject body => by
    simp only [Node.relabel, target.relabel_relabel, subject.relabel_relabel, body.relabel_relabel]
  | .variables _ _ declarators => by simp only [Node.relabel, relabelAll_relabelAll declarators]
  | .declarator _ target value? => by
    simp only [Node.relabel, target.relabel_relabel, relabelSome_relabelSome value?]
  | .functionDeclaration _ _ params body => by
    simp only [Node.relabel, relabelAll_relabelAll params, relabelAll_relabelAll body]
  | .classDeclaration _ parent? members => by
    simp only [Node.relabel, relabelSome_relabelSome parent?, relabelAll_relabelAll members]
  | .importDeclaration .. => rfl
  | .exportDeclaration declaration => by simp only [Node.relabel, declaration.relabel_relabel]
  | .exportNamed _ _ => by
    simp only [Node.relabel, List.map_map, Option.map_map, Function.comp_def,
      onExport_onExport, onString_onString]
  | .exportDefault value => by simp only [Node.relabel, value.relabel_relabel]
  | .exportAll source => congrArg Node.exportAll (onString_onString second first source)

/-- One relabeling of nodes after another is one relabeling; this is the case of lists in the
mutual induction. -/
theorem relabelAll_relabelAll :
    ∀ nodes : List Node,
      relabelAll second (relabelAll first nodes) = relabelAll (second.after first) nodes
  | [] => rfl
  | node :: rest => by
    simp only [relabelAll, node.relabel_relabel, relabelAll_relabelAll rest]

/-- One relabeling of a node that may be left out after another is one relabeling. -/
theorem relabelSome_relabelSome :
    ∀ node? : Option Node,
      relabelSome second (relabelSome first node?) = relabelSome (second.after first) node?
  | none => rfl
  | some node => congrArg some node.relabel_relabel

end

end Composition

end PropertyMangling
