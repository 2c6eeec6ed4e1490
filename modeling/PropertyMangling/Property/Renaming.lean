import PropertyMangling.Property.Embedded
import PropertyMangling.Script.Syntax
/-!
# Renaming the properties of a program

Property names, and all strings that are equal to a mapped token, get the name
that the mapping gives them. The words of embedded code get theirs too, and its
marker is dropped. A shorthand whose name is mapped is written out, so that its
variable keeps its name. Import declarations are left as they are. Every renamed
place is counted; what is renamed inside embedded code is not.
-/
namespace PropertyMangling

open Script

/-- A value together with how many places were renamed on the way to it. -/
structure Counted (α : Type) where
  value : α
  count : Nat
deriving DecidableEq, Repr

namespace Counted

instance : Monad Counted where
  pure value := ⟨value, 0⟩
  bind step next :=
    let after := next step.value
    ⟨after.value, step.count + after.count⟩

variable {α β : Type}

/-- What is not changed is its own value. -/
@[simp] theorem value_pure (a : α) : (pure a : Counted α).value = a := rfl

/-- What is not changed counts nothing. -/
@[simp] theorem count_pure (a : α) : (pure a : Counted α).count = 0 := rfl

/-- The value of two steps is that of the second one, taken at the value of the first. -/
@[simp] theorem value_bind (step : Counted α) (next : α → Counted β) :
    (step >>= next).value = (next step.value).value := rfl

/-- Two steps count what they count one by one. -/
@[simp] theorem count_bind (step : Counted α) (next : α → Counted β) :
    (step >>= next).count = step.count + (next step.value).count := rfl

end Counted

/-- How a program is renamed. -/
structure Renaming where
  mapping : Mapping
  /-- Strings that start with this hold code. -/
  marker : String

namespace Renaming

/-- Renames a name, which counts when the mapping knows it. -/
def text (plan : Renaming) (text : String) : Counted String :=
  match plan.mapping.get? text with
  | some name => ⟨name, 1⟩
  | none => ⟨text, 0⟩

/-- Renames the name at a place. -/
def name (plan : Renaming) (name : Name) : Counted Name := do
  return { name with text := ← plan.text name.text }

/-- Renames a string, or the words in it when it holds code. -/
def quoted (plan : Renaming) (literal : Quoted) : Counted Quoted :=
  if Embedded.isMarked plan.marker literal.value then
    let code := Embedded.codeOf plan.marker literal.value
    ⟨{ literal with value := Embedded.renameWords plan.mapping code, source? := none }, 0⟩
  else
    match plan.mapping.get? literal.value with
    | some name => ⟨{ literal with value := name, source? := none }, 1⟩
    | none => ⟨literal, 0⟩

/-- Renames the module that an export comes from. -/
def source (plan : Renaming) : Option Quoted → Counted (Option Quoted)
  | none => return none
  | some literal => return some (← plan.quoted literal)

/-- Renames a name in the interface of the module, when it is a string. -/
def interfaceName (plan : Renaming) : InterfaceName → Counted InterfaceName
  | .name name => return .name name
  | .string literal => return .string (← plan.quoted literal)

/-- Renames what an export declaration gives to other modules. -/
def exportSpecifier (plan : Renaming) : ExportSpecifier → Counted ExportSpecifier
  | .item own none => return .item (← plan.interfaceName own) none
  | .item own (some exported) =>
    return .item (← plan.interfaceName own) (some (← plan.interfaceName exported))
  | .wholeInterface name => return .wholeInterface (← plan.interfaceName name)

/-- Renames the specifiers of an export declaration. -/
def exportSpecifiers (plan : Renaming) : List ExportSpecifier → Counted (List ExportSpecifier)
  | [] => return []
  | specifier :: rest =>
    return (← plan.exportSpecifier specifier) :: (← plan.exportSpecifiers rest)

/-- A shorthand, written out under another key. -/
def writtenOut (span : Span) (name : Name) (key : String) (default? : Option Node) : Node :=
  let value := match default? with
    | some default => .defaultPattern span (.identifier name) default
    | none => .identifier name
  .property (.keyName ⟨name.span, key⟩) value

/-- Renames a shorthand, whose default has been renamed. -/
def shorthand (plan : Renaming) (span : Span) (name : Name) (default? : Option Node) :
    Counted Node :=
  match plan.mapping.get? name.text with
  | some key => ⟨writtenOut span name key default?, 1⟩
  | none => ⟨.shorthand span name default?, 0⟩

end Renaming

mutual

/-- A node with its properties renamed. -/
def Script.Node.rename (plan : Renaming) : Node → Counted Node
  | .word word => return .word word
  | .identifier name => return .identifier name
  | .privateName text => return .privateName text
  | .number span value source => return .number span value source
  | .bigint value source => return .bigint value source
  | .regex source => return .regex source
  | .string literal => return .string (← plan.quoted literal)
  | .hole => return .hole
  | .template texts values => return .template texts (← renameAll plan values)
  | .tagged tag texts values =>
    return .tagged (← tag.rename plan) texts (← renameAll plan values)
  | .array elements trailing => return .array (← renameAll plan elements) trailing
  | .object span properties trailing =>
    return .object span (← renameAll plan properties) trailing
  | .function flavor name? params body =>
    return .function flavor name? (← renameAll plan params) (← renameAll plan body)
  | .classExpression name? parent? members => do
    let members ← renameAll plan members
    return .classExpression name? (← renameSome plan parent?) members
  | .unary op operand => return .unary op (← operand.rename plan)
  | .update increment before operand => return .update increment before (← operand.rename plan)
  | .binary op left right => return .binary op (← left.rename plan) (← right.rename plan)
  | .assign span op? target value =>
    return .assign span op? (← target.rename plan) (← value.rename plan)
  | .conditional test consequent alternate =>
    return .conditional (← test.rename plan) (← consequent.rename plan)
      (← alternate.rename plan)
  | .sequence items => return .sequence (← renameAll plan items)
  | .arrow isAsync params body =>
    return .arrow isAsync (← renameAll plan params) (← body.rename plan)
  | .yield delegate argument? => return .yield delegate (← renameSome plan argument?)
  | .await argument => return .await (← argument.rename plan)
  | .paren span inner => return .paren span (← inner.rename plan)
  | .member span host name optional =>
    return .member span (← host.rename plan) (← plan.name name) optional
  | .privateMember host name optional =>
    return .privateMember (← host.rename plan) name optional
  | .subscript span host bracket index optional =>
    return .subscript span (← host.rename plan) bracket (← index.rename plan) optional
  | .call span callee items optional =>
    return .call span (← callee.rename plan) (← renameAll plan items) optional
  | .new callee items hasArguments =>
    return .new (← callee.rename plan) (← renameAll plan items) hasArguments
  | .spread argument => return .spread (← argument.rename plan)
  | .keyName name => return .keyName (← plan.name name)
  | .keyString literal => return .keyString (← plan.quoted literal)
  | .computed span expression => return .computed span (← expression.rename plan)
  | .property key value => return .property (← key.rename plan) (← value.rename plan)
  | .shorthand span name default? => do
    plan.shorthand span name (← renameSome plan default?)
  | .defaulted span name value => return .defaulted span name (← value.rename plan)
  | .objectMethod kind flavor key params body =>
    return .objectMethod kind flavor (← key.rename plan) (← renameAll plan params)
      (← renameAll plan body)
  | .classMethod isStatic kind flavor key params body =>
    return .classMethod isStatic kind flavor (← key.rename plan) (← renameAll plan params)
      (← renameAll plan body)
  | .classConstructor key params body =>
    return .classConstructor (← key.rename plan) (← renameAll plan params)
      (← renameAll plan body)
  | .field isStatic key value? =>
    return .field isStatic (← key.rename plan) (← renameSome plan value?)
  | .staticBlock body => return .staticBlock (← renameAll plan body)
  | .emptyMember => return .emptyMember
  | .arrayPattern elements => return .arrayPattern (← renameAll plan elements)
  | .objectPattern span properties => return .objectPattern span (← renameAll plan properties)
  | .defaultPattern span target value =>
    return .defaultPattern span (← target.rename plan) (← value.rename plan)
  | .rest argument => return .rest (← argument.rename plan)
  | .expressionStatement span expression =>
    return .expressionStatement span (← expression.rename plan)
  | .block body => return .block (← renameAll plan body)
  | .empty => return .empty
  | .debugger => return .debugger
  | .withStatement subject body =>
    return .withStatement (← subject.rename plan) (← body.rename plan)
  | .returnStatement argument? => return .returnStatement (← renameSome plan argument?)
  | .labeled label body => return .labeled label (← body.rename plan)
  | .breakStatement label? => return .breakStatement label?
  | .continueStatement label? => return .continueStatement label?
  | .ifStatement test consequent alternate? =>
    return .ifStatement (← test.rename plan) (← consequent.rename plan)
      (← renameSome plan alternate?)
  | .switchStatement discriminant cases =>
    return .switchStatement (← discriminant.rename plan) (← renameAll plan cases)
  | .switchCase test? body =>
    return .switchCase (← renameSome plan test?) (← renameAll plan body)
  | .throwStatement argument => return .throwStatement (← argument.rename plan)
  | .tryStatement body handler? finalizer? =>
    return .tryStatement (← renameAll plan body) (← renameSome plan handler?)
      (← renameSome plan finalizer?)
  | .catchClause param? body =>
    return .catchClause (← renameSome plan param?) (← renameAll plan body)
  | .whileStatement test body =>
    return .whileStatement (← test.rename plan) (← body.rename plan)
  | .doWhile body test => do
    let test ← test.rename plan
    return .doWhile (← body.rename plan) test
  | .forStatement start? test? step? body =>
    return .forStatement (← renameSome plan start?) (← renameSome plan test?)
      (← renameSome plan step?) (← body.rename plan)
  | .forIn target subject body =>
    return .forIn (← target.rename plan) (← subject.rename plan) (← body.rename plan)
  | .forOf isAwait target subject body =>
    return .forOf isAwait (← target.rename plan) (← subject.rename plan)
      (← body.rename plan)
  | .variables span kind declarators =>
    return .variables span kind (← renameAll plan declarators)
  | .declarator span target value? =>
    return .declarator span (← target.rename plan) (← renameSome plan value?)
  | .functionDeclaration flavor name params body =>
    return .functionDeclaration flavor name (← renameAll plan params) (← renameAll plan body)
  | .classDeclaration name parent? members => do
    let members ← renameAll plan members
    return .classDeclaration name (← renameSome plan parent?) members
  | .importDeclaration phase specifiers source => return .importDeclaration phase specifiers source
  | .exportDeclaration declaration => return .exportDeclaration (← declaration.rename plan)
  | .exportNamed specifiers source? => do
    let specifiers ← plan.exportSpecifiers specifiers
    return .exportNamed specifiers (← plan.source source?)
  | .exportDefault value => return .exportDefault (← value.rename plan)
  | .exportAll source => return .exportAll (← plan.quoted source)

/-- Nodes with their properties renamed. -/
def renameAll (plan : Renaming) : List Node → Counted (List Node)
  | [] => return []
  | node :: rest => return (← node.rename plan) :: (← renameAll plan rest)

/-- A node that may be left out, with its properties renamed. -/
def renameSome (plan : Renaming) : Option Node → Counted (Option Node)
  | none => return none
  | some node => return some (← node.rename plan)

end

/-- A program with its properties renamed, and how many places that were. -/
def Script.Program.rename (program : Program) (plan : Renaming) : Counted Program := do
  return { program with items := ← renameAll plan program.items }

end PropertyMangling
