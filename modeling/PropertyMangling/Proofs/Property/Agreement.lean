import PropertyMangling.Proofs.Property.Relabeling
import PropertyMangling.Property.Site
/-!
# Relabelings that agree on a program

What a relabeling makes of a program depends on the texts at its sites alone. Two
relabelings that agree there make the same of it, however much they differ on
texts that the program does not hold.
-/
namespace PropertyMangling

open Script

/-- Two relabelings make the same of the text at a site. Imports and variables are left alone by
both. -/
def Site.Agrees (first second : Relabeling) : Site → Prop
  | name text => first.name text = second.name text
  | shorthand text => first.key? text = second.key? text
  | subscript value | key value | literal value => first.string? value = second.string? value
  | imported _ | .variable _ => True

/-- Two relabelings make the same of the texts at some sites. -/
def Relabeling.Agree (first second : Relabeling) (sites : List Site) : Prop :=
  ∀ site ∈ sites, site.Agrees first second

namespace Relabeling

variable {first second : Relabeling} {sites others : List Site}

namespace Agree

/-- Agreement at all sites of a whole is agreement at those of its first part. -/
theorem left (agree : first.Agree second (sites ++ others)) : first.Agree second sites :=
  (List.forall_mem_append.mp agree).1

/-- Agreement at all sites of a whole is agreement at those of what follows its first part. -/
theorem right (agree : first.Agree second (sites ++ others)) : first.Agree second others :=
  (List.forall_mem_append.mp agree).2

/-- Agreement at a list of sites is agreement at the first of them. -/
theorem head {site : Site} (agree : first.Agree second (site :: sites)) :
    site.Agrees first second :=
  (List.forall_mem_cons.mp agree).1

/-- Agreement at a list of sites is agreement at all sites behind the first. -/
theorem tail {site : Site} (agree : first.Agree second (site :: sites)) :
    first.Agree second sites :=
  (List.forall_mem_cons.mp agree).2

end Agree

/-- Relabelings that agree at a name give it the same label, so they make the same name of it. -/
theorem onName_congr {name : Name} (agree : first.Agree second [.name name.text]) :
    first.onName name = second.onName name :=
  congrArg (fun text => { name with text := text }) agree.head

/-- Relabelings that give a text the same label make the same string of it, with the same
spelling. -/
theorem onString_congr {literal : Quoted}
    (same : first.string? literal.value = second.string? literal.value) :
    first.onString literal = second.onString literal := by
  rw [onString, onString, same]

/-- Relabelings that agree at what a name of an interface says treat it alike, be it a word or a
text. -/
theorem onInterfaceName_congr {name : InterfaceName}
    (agree : first.Agree second (name.sites .literal)) :
    first.onInterfaceName name = second.onInterfaceName name := by
  cases name with
  | name word => rfl
  | string literal => exact congrArg InterfaceName.string (onString_congr agree.head)

/-- Relabelings that agree at both sides of an export make the same export of it. -/
theorem onExport_congr {specifier : ExportSpecifier}
    (agree : first.Agree second specifier.sites) :
    first.onExport specifier = second.onExport specifier := by
  cases specifier with
  | item own exported? =>
    cases exported? with
    | none =>
      exact congrArg (fun own => ExportSpecifier.item own none) (onInterfaceName_congr agree)
    | some exported =>
      simp only [onExport, Option.map_some, onInterfaceName_congr agree.left,
        onInterfaceName_congr agree.right]
  | wholeInterface name =>
    exact congrArg ExportSpecifier.wholeInterface (onInterfaceName_congr agree)

/-- Relabelings that agree at the sites of a list of exports make the same list of it. -/
theorem map_onExport_congr {specifiers : List ExportSpecifier}
    (agree : first.Agree second (specifiers.flatMap ExportSpecifier.sites)) :
    specifiers.map first.onExport = specifiers.map second.onExport :=
  List.map_congr_left fun _ inside =>
    onExport_congr fun site stands => agree site (List.mem_flatMap.mpr ⟨_, inside, stands⟩)

/-- Relabelings that agree at the source of a module treat it alike; where there is no source they
have nothing to do. -/
theorem map_onString_congr {source? : Option Quoted}
    (agree : first.Agree second (sourceSites source?)) :
    source?.map first.onString = source?.map second.onString := by
  cases source? with
  | none => rfl
  | some literal => exact congrArg some (onString_congr agree.head)

/-- A shorthand is written out with the label of its key, so relabelings that agree at the key
make the same of it. -/
theorem onShorthand_congr {span : Span} {name : Name} {default? : Option Node}
    (same : first.key? name.text = second.key? name.text) :
    first.onShorthand span name default? = second.onShorthand span name default? := by
  rw [onShorthand, onShorthand, same]

end Relabeling

section Congruence

open Relabeling

variable {first second : Relabeling}

/-- An index that is a string agrees as any string does. -/
theorem agree_index {index : Node}
    (agree : first.Agree second (match subscriptString? index with
      | some value => [.subscript value]
      | none => index.sites)) :
    first.Agree second index.sites := by
  cases index with
  | string literal =>
    intro site inside
    obtain rfl := List.mem_singleton.mp inside
    exact agree.head
  | _ => exact agree

mutual

/-- Relabelings that agree on the sites of a node make the same of it. -/
theorem Script.Node.relabel_congr :
    ∀ node : Node, first.Agree second node.sites → node.relabel first = node.relabel second
  | .word _, _ => rfl
  | .identifier _, _ => rfl
  | .privateName _, _ => rfl
  | .number .., _ => rfl
  | .bigint .., _ => rfl
  | .regex _, _ => rfl
  | .string _, agree => congrArg Node.string (onString_congr agree.head)
  | .hole, _ => rfl
  | .template _ values, agree => by simp only [Node.relabel, relabelAll_congr values agree]
  | .tagged tag _ values, agree => by
    simp only [Node.relabel, tag.relabel_congr agree.left, relabelAll_congr values agree.right]
  | .array elements _, agree => by simp only [Node.relabel, relabelAll_congr elements agree]
  | .object _ properties _, agree => by simp only [Node.relabel, relabelAll_congr properties agree]
  | .function _ _ params body, agree => by
    simp only [Node.relabel, relabelAll_congr params agree.left.right,
      relabelAll_congr body agree.right]
  | .classExpression _ parent? members, agree => by
    simp only [Node.relabel, relabelAll_congr members agree.left.right,
      relabelSome_congr parent? agree.right]
  | .unary _ operand, agree => by simp only [Node.relabel, operand.relabel_congr agree]
  | .update _ _ operand, agree => by simp only [Node.relabel, operand.relabel_congr agree]
  | .binary _ left right, agree => by
    simp only [Node.relabel, left.relabel_congr agree.left, right.relabel_congr agree.right]
  | .assign _ _ target value, agree => by
    simp only [Node.relabel, target.relabel_congr agree.left, value.relabel_congr agree.right]
  | .conditional test consequent alternate, agree => by
    simp only [Node.relabel, test.relabel_congr agree.left.left,
      consequent.relabel_congr agree.left.right, alternate.relabel_congr agree.right]
  | .sequence items, agree => by simp only [Node.relabel, relabelAll_congr items agree]
  | .arrow _ params body, agree => by
    simp only [Node.relabel, relabelAll_congr params agree.left, body.relabel_congr agree.right]
  | .yield _ argument?, agree => by simp only [Node.relabel, relabelSome_congr argument? agree]
  | .await argument, agree => by simp only [Node.relabel, argument.relabel_congr agree]
  | .paren _ inner, agree => by simp only [Node.relabel, inner.relabel_congr agree]
  | .member _ host _ _, agree => by
    simp only [Node.relabel, host.relabel_congr agree.left, onName_congr agree.right]
  | .privateMember host _ _, agree => by simp only [Node.relabel, host.relabel_congr agree]
  | .subscript _ host _ index _, agree => by
    simp only [Node.relabel, host.relabel_congr agree.left,
      index.relabel_congr (agree_index agree.right)]
  | .call _ callee items _, agree => by
    simp only [Node.relabel, callee.relabel_congr agree.left, relabelAll_congr items agree.right]
  | .new callee items _, agree => by
    simp only [Node.relabel, callee.relabel_congr agree.left, relabelAll_congr items agree.right]
  | .spread argument, agree => by simp only [Node.relabel, argument.relabel_congr agree]
  | .keyName _, agree => congrArg Node.keyName (onName_congr agree)
  | .keyString _, agree => congrArg Node.keyString (onString_congr agree.head)
  | .computed _ expression, agree => by simp only [Node.relabel, expression.relabel_congr agree]
  | .property key value, agree => by
    simp only [Node.relabel, key.relabel_congr agree.left, value.relabel_congr agree.right]
  | .shorthand _ _ default?, agree => by
    simp only [Node.relabel, relabelSome_congr default? agree.tail]
    exact onShorthand_congr agree.head
  | .defaulted _ _ value, agree => by simp only [Node.relabel, value.relabel_congr agree.tail]
  | .objectMethod _ _ key params body, agree => by
    simp only [Node.relabel, key.relabel_congr agree.left.left,
      relabelAll_congr params agree.left.right, relabelAll_congr body agree.right]
  | .classMethod _ _ _ key params body, agree => by
    simp only [Node.relabel, key.relabel_congr agree.left.left,
      relabelAll_congr params agree.left.right, relabelAll_congr body agree.right]
  | .classConstructor key params body, agree => by
    simp only [Node.relabel, key.relabel_congr agree.left.left,
      relabelAll_congr params agree.left.right, relabelAll_congr body agree.right]
  | .field _ key value?, agree => by
    simp only [Node.relabel, key.relabel_congr agree.left, relabelSome_congr value? agree.right]
  | .staticBlock body, agree => by simp only [Node.relabel, relabelAll_congr body agree]
  | .emptyMember, _ => rfl
  | .arrayPattern elements, agree => by simp only [Node.relabel, relabelAll_congr elements agree]
  | .objectPattern _ properties, agree => by
    simp only [Node.relabel, relabelAll_congr properties agree]
  | .defaultPattern _ target value, agree => by
    simp only [Node.relabel, target.relabel_congr agree.left, value.relabel_congr agree.right]
  | .rest argument, agree => by simp only [Node.relabel, argument.relabel_congr agree]
  | .expressionStatement _ expression, agree => by
    simp only [Node.relabel, expression.relabel_congr agree]
  | .block body, agree => by simp only [Node.relabel, relabelAll_congr body agree]
  | .empty, _ => rfl
  | .debugger, _ => rfl
  | .withStatement host body, agree => by
    simp only [Node.relabel, host.relabel_congr agree.left, body.relabel_congr agree.right]
  | .returnStatement argument?, agree => by
    simp only [Node.relabel, relabelSome_congr argument? agree]
  | .labeled _ body, agree => by simp only [Node.relabel, body.relabel_congr agree.tail]
  | .breakStatement _, _ => rfl
  | .continueStatement _, _ => rfl
  | .ifStatement test consequent alternate?, agree => by
    simp only [Node.relabel, test.relabel_congr agree.left.left,
      consequent.relabel_congr agree.left.right, relabelSome_congr alternate? agree.right]
  | .switchStatement discriminant cases, agree => by
    simp only [Node.relabel, discriminant.relabel_congr agree.left,
      relabelAll_congr cases agree.right]
  | .switchCase test? body, agree => by
    simp only [Node.relabel, relabelSome_congr test? agree.left, relabelAll_congr body agree.right]
  | .throwStatement argument, agree => by simp only [Node.relabel, argument.relabel_congr agree]
  | .tryStatement body handler? finalizer?, agree => by
    simp only [Node.relabel, relabelAll_congr body agree.left.left,
      relabelSome_congr handler? agree.left.right, relabelSome_congr finalizer? agree.right]
  | .catchClause param? body, agree => by
    simp only [Node.relabel, relabelSome_congr param? agree.left,
      relabelAll_congr body agree.right]
  | .whileStatement test body, agree => by
    simp only [Node.relabel, test.relabel_congr agree.left, body.relabel_congr agree.right]
  | .doWhile body test, agree => by
    simp only [Node.relabel, test.relabel_congr agree.left, body.relabel_congr agree.right]
  | .forStatement start? test? step? body, agree => by
    simp only [Node.relabel, relabelSome_congr start? agree.left.left.left,
      relabelSome_congr test? agree.left.left.right, relabelSome_congr step? agree.left.right,
      body.relabel_congr agree.right]
  | .forIn target subject body, agree => by
    simp only [Node.relabel, target.relabel_congr agree.left.left,
      subject.relabel_congr agree.left.right, body.relabel_congr agree.right]
  | .forOf _ target subject body, agree => by
    simp only [Node.relabel, target.relabel_congr agree.left.left,
      subject.relabel_congr agree.left.right, body.relabel_congr agree.right]
  | .variables _ _ declarators, agree => by
    simp only [Node.relabel, relabelAll_congr declarators agree]
  | .declarator _ target value?, agree => by
    simp only [Node.relabel, target.relabel_congr agree.left, relabelSome_congr value? agree.right]
  | .functionDeclaration _ _ params body, agree => by
    simp only [Node.relabel, relabelAll_congr params agree.tail.left,
      relabelAll_congr body agree.tail.right]
  | .classDeclaration _ parent? members, agree => by
    simp only [Node.relabel, relabelAll_congr members agree.tail.left,
      relabelSome_congr parent? agree.tail.right]
  | .importDeclaration .., _ => rfl
  | .exportDeclaration declaration, agree => by
    simp only [Node.relabel, declaration.relabel_congr agree]
  | .exportNamed _ _, agree => by
    simp only [Node.relabel, map_onExport_congr agree.left, map_onString_congr agree.right]
  | .exportDefault value, agree => by simp only [Node.relabel, value.relabel_congr agree]
  | .exportAll _, agree => congrArg Node.exportAll (onString_congr agree.head)

/-- Relabelings that agree on the sites of nodes make the same of them. -/
theorem relabelAll_congr :
    ∀ nodes : List Node, first.Agree second (sitesOf nodes) →
      relabelAll first nodes = relabelAll second nodes
  | [], _ => rfl
  | node :: rest, agree => by
    simp only [relabelAll, node.relabel_congr agree.left, relabelAll_congr rest agree.right]

/-- Relabelings that agree on the sites of a node that may be left out make the same of it. -/
theorem relabelSome_congr :
    ∀ node? : Option Node, first.Agree second (sitesOfSome node?) →
      relabelSome first node? = relabelSome second node?
  | none, _ => rfl
  | some node, agree => congrArg some (node.relabel_congr agree)

end

/-- Relabelings that agree on the sites of a program make the same of it. -/
theorem Script.Program.relabel_congr {program : Program}
    (agree : first.Agree second program.sites) : program.relabel first = program.relabel second :=
  congrArg (fun items => { program with items := items }) (relabelAll_congr program.items agree)

end Congruence

end PropertyMangling
