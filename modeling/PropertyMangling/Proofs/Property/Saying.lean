import PropertyMangling.Proofs.Property.Relabeling
import PropertyMangling.Proofs.Script.Saying
/-!
# What a relabeled program says

A relabeling changes texts alone, so that it makes no difference whether places
and spellings are taken out before or behind it. Programs that say the same
therefore say the same once they have been relabeled, and a string that is given
its own text says what a string says that is not touched.
-/
namespace PropertyMangling

open Script

namespace Relabeling

/-- Two relabelings give every name and every string the same text and write the same shorthands
out. They may touch other strings. -/
structure Alike (first second : Relabeling) : Prop where
  name : first.name = second.name
  string : ∀ value, (first.string? value).getD value = (second.string? value).getD value
  key : first.key? = second.key?

/-- Relabelings are alike to themselves, which is how the general lemmas below apply to a single
one. -/
theorem Alike.refl (labels : Relabeling) : labels.Alike labels := ⟨rfl, fun _ => rfl, rfl⟩

variable {first second : Relabeling} (alike : first.Alike second)
include alike

/-- Alike relabelings make the same name of a name and of its bare form, up to places and
spellings. -/
theorem bare_onName (name : Name) : (first.onName name).bare = second.onName name.bare :=
  congrArg (fun label : String → String => (⟨nowhere, label name.text⟩ : Name)) alike.name

/-- Alike relabelings make the same string of a string and of its bare form, up to places and
spellings. -/
theorem bare_onString (literal : Quoted) :
    (first.onString literal).bare = second.onString literal.bare := by
  have text (labels : Relabeling) : (labels.onString literal).bare =
      ⟨nowhere, (labels.string? literal.value).getD literal.value, none⟩ := by
    rw [onString]
    cases labels.string? literal.value <;> rfl
  have unspelled : second.onString literal.bare = (second.onString literal).bare := by
    rw [onString, onString, Quoted.value_bare]
    cases second.string? literal.value <;> rfl
  rw [unspelled, text, text, alike.string]

/-- Alike relabelings treat a name of an interface and its bare form alike, up to places and
spellings. -/
theorem bare_onInterfaceName (name : InterfaceName) :
    (first.onInterfaceName name).bare = second.onInterfaceName name.bare := by
  cases name with
  | name word => rfl
  | string literal => exact congrArg InterfaceName.string (bare_onString alike literal)

/-- Alike relabelings treat an export and its bare form alike, up to places and spellings. -/
theorem bare_onExport (specifier : ExportSpecifier) :
    (first.onExport specifier).bare = second.onExport specifier.bare := by
  cases specifier with
  | item own exported? =>
    cases exported? <;>
      simp only [onExport, ExportSpecifier.bare, bare_onInterfaceName alike, Option.map]
  | wholeInterface name =>
    exact congrArg ExportSpecifier.wholeInterface (bare_onInterfaceName alike name)

/-- A shorthand is written out in the same words, wherever it stands. -/
theorem bare_onShorthand (span : Span) (name : Name) (default? : Option Node) :
    (first.onShorthand span name default?).bare =
      second.onShorthand nowhere name.bare (bareSome default?) := by
  rw [onShorthand, onShorthand, Name.text_bare, alike.key]
  cases second.key? name.text with
  | none => rfl
  | some key => cases default? <;> rfl

end Relabeling

section Saying

open Relabeling

variable {first second : Relabeling}

mutual

/-- A relabeled node says the relabeled node of what it said. -/
theorem Script.Node.bare_relabel (alike : first.Alike second) :
    ∀ node : Node, (node.relabel first).bare = node.bare.relabel second
  | .word _ => rfl
  | .identifier _ => rfl
  | .privateName _ => rfl
  | .number .. => rfl
  | .bigint .. => rfl
  | .regex _ => rfl
  | .string literal => congrArg Node.string (bare_onString alike literal)
  | .hole => rfl
  | .template _ values => by simp only [Node.relabel, Node.bare, bareAll_relabelAll alike values]
  | .tagged tag _ values => by
    simp only [Node.relabel, Node.bare, tag.bare_relabel alike, bareAll_relabelAll alike values]
  | .array elements _ => by simp only [Node.relabel, Node.bare, bareAll_relabelAll alike elements]
  | .object _ properties _ => by
    simp only [Node.relabel, Node.bare, bareAll_relabelAll alike properties]
  | .function _ _ params body => by
    simp only [Node.relabel, Node.bare, bareAll_relabelAll alike params,
      bareAll_relabelAll alike body]
  | .classExpression _ parent? members => by
    simp only [Node.relabel, Node.bare, bareSome_relabelSome alike parent?,
      bareAll_relabelAll alike members]
  | .unary _ operand => by simp only [Node.relabel, Node.bare, operand.bare_relabel alike]
  | .update _ _ operand => by simp only [Node.relabel, Node.bare, operand.bare_relabel alike]
  | .binary _ left right => by
    simp only [Node.relabel, Node.bare, left.bare_relabel alike, right.bare_relabel alike]
  | .assign _ _ target value => by
    simp only [Node.relabel, Node.bare, target.bare_relabel alike, value.bare_relabel alike]
  | .conditional test consequent alternate => by
    simp only [Node.relabel, Node.bare, test.bare_relabel alike, consequent.bare_relabel alike,
      alternate.bare_relabel alike]
  | .sequence items => by simp only [Node.relabel, Node.bare, bareAll_relabelAll alike items]
  | .arrow _ params body => by
    simp only [Node.relabel, Node.bare, bareAll_relabelAll alike params, body.bare_relabel alike]
  | .yield _ argument? => by
    simp only [Node.relabel, Node.bare, bareSome_relabelSome alike argument?]
  | .await argument => by simp only [Node.relabel, Node.bare, argument.bare_relabel alike]
  | .paren _ inner => by simp only [Node.relabel, Node.bare, inner.bare_relabel alike]
  | .member _ host _ _ => by
    simp only [Node.relabel, Node.bare, bare_onName alike, host.bare_relabel alike]
  | .privateMember host _ _ => by simp only [Node.relabel, Node.bare, host.bare_relabel alike]
  | .subscript _ host _ index _ => by
    simp only [Node.relabel, Node.bare, host.bare_relabel alike, index.bare_relabel alike]
  | .call _ callee items _ => by
    simp only [Node.relabel, Node.bare, callee.bare_relabel alike, bareAll_relabelAll alike items]
  | .new callee items _ => by
    simp only [Node.relabel, Node.bare, callee.bare_relabel alike, bareAll_relabelAll alike items]
  | .spread argument => by simp only [Node.relabel, Node.bare, argument.bare_relabel alike]
  | .keyName name => congrArg Node.keyName (bare_onName alike name)
  | .keyString literal => congrArg Node.keyString (bare_onString alike literal)
  | .computed _ expression => by simp only [Node.relabel, Node.bare, expression.bare_relabel alike]
  | .property key value => by
    simp only [Node.relabel, Node.bare, key.bare_relabel alike, value.bare_relabel alike]
  | .shorthand span name default? => by
    simp only [Node.relabel, Node.bare, bare_onShorthand alike, bareSome_relabelSome alike default?]
  | .defaulted _ _ value => by simp only [Node.relabel, Node.bare, value.bare_relabel alike]
  | .objectMethod _ _ key params body => by
    simp only [Node.relabel, Node.bare, key.bare_relabel alike, bareAll_relabelAll alike params,
      bareAll_relabelAll alike body]
  | .classMethod _ _ _ key params body => by
    simp only [Node.relabel, Node.bare, key.bare_relabel alike, bareAll_relabelAll alike params,
      bareAll_relabelAll alike body]
  | .classConstructor key params body => by
    simp only [Node.relabel, Node.bare, key.bare_relabel alike, bareAll_relabelAll alike params,
      bareAll_relabelAll alike body]
  | .field _ key value? => by
    simp only [Node.relabel, Node.bare, key.bare_relabel alike, bareSome_relabelSome alike value?]
  | .staticBlock body => by simp only [Node.relabel, Node.bare, bareAll_relabelAll alike body]
  | .emptyMember => rfl
  | .arrayPattern elements => by
    simp only [Node.relabel, Node.bare, bareAll_relabelAll alike elements]
  | .objectPattern _ properties => by
    simp only [Node.relabel, Node.bare, bareAll_relabelAll alike properties]
  | .defaultPattern _ target value => by
    simp only [Node.relabel, Node.bare, target.bare_relabel alike, value.bare_relabel alike]
  | .rest argument => by simp only [Node.relabel, Node.bare, argument.bare_relabel alike]
  | .expressionStatement _ expression => by
    simp only [Node.relabel, Node.bare, expression.bare_relabel alike]
  | .block body => by simp only [Node.relabel, Node.bare, bareAll_relabelAll alike body]
  | .empty => rfl
  | .debugger => rfl
  | .withStatement host body => by
    simp only [Node.relabel, Node.bare, host.bare_relabel alike, body.bare_relabel alike]
  | .returnStatement argument? => by
    simp only [Node.relabel, Node.bare, bareSome_relabelSome alike argument?]
  | .labeled _ body => by simp only [Node.relabel, Node.bare, body.bare_relabel alike]
  | .breakStatement _ => rfl
  | .continueStatement _ => rfl
  | .ifStatement test consequent alternate? => by
    simp only [Node.relabel, Node.bare, test.bare_relabel alike, consequent.bare_relabel alike,
      bareSome_relabelSome alike alternate?]
  | .switchStatement discriminant cases => by
    simp only [Node.relabel, Node.bare, discriminant.bare_relabel alike,
      bareAll_relabelAll alike cases]
  | .switchCase test? body => by
    simp only [Node.relabel, Node.bare, bareSome_relabelSome alike test?,
      bareAll_relabelAll alike body]
  | .throwStatement argument => by simp only [Node.relabel, Node.bare, argument.bare_relabel alike]
  | .tryStatement body handler? finalizer? => by
    simp only [Node.relabel, Node.bare, bareAll_relabelAll alike body,
      bareSome_relabelSome alike handler?,
      bareSome_relabelSome alike finalizer?]
  | .catchClause param? body => by
    simp only [Node.relabel, Node.bare, bareSome_relabelSome alike param?,
      bareAll_relabelAll alike body]
  | .whileStatement test body => by
    simp only [Node.relabel, Node.bare, test.bare_relabel alike, body.bare_relabel alike]
  | .doWhile body test => by
    simp only [Node.relabel, Node.bare, body.bare_relabel alike, test.bare_relabel alike]
  | .forStatement start? test? step? body => by
    simp only [Node.relabel, Node.bare, bareSome_relabelSome alike start?,
      bareSome_relabelSome alike test?,
      bareSome_relabelSome alike step?, body.bare_relabel alike]
  | .forIn target subject body => by
    simp only [Node.relabel, Node.bare, target.bare_relabel alike, subject.bare_relabel alike,
      body.bare_relabel alike]
  | .forOf _ target subject body => by
    simp only [Node.relabel, Node.bare, target.bare_relabel alike, subject.bare_relabel alike,
      body.bare_relabel alike]
  | .variables _ _ declarators => by
    simp only [Node.relabel, Node.bare, bareAll_relabelAll alike declarators]
  | .declarator _ target value? => by
    simp only [Node.relabel, Node.bare, target.bare_relabel alike,
      bareSome_relabelSome alike value?]
  | .functionDeclaration _ _ params body => by
    simp only [Node.relabel, Node.bare, bareAll_relabelAll alike params,
      bareAll_relabelAll alike body]
  | .classDeclaration _ parent? members => by
    simp only [Node.relabel, Node.bare, bareSome_relabelSome alike parent?,
      bareAll_relabelAll alike members]
  | .importDeclaration .. => rfl
  | .exportDeclaration declaration => by
    simp only [Node.relabel, Node.bare, declaration.bare_relabel alike]
  | .exportNamed _ _ => by
    simp only [Node.relabel, Node.bare, List.map_map, Option.map_map, Function.comp_def,
      bare_onExport alike, bare_onString alike]
  | .exportDefault value => by simp only [Node.relabel, Node.bare, value.bare_relabel alike]
  | .exportAll source => congrArg Node.exportAll (bare_onString alike source)

/-- Nodes that have been relabeled say the relabeled nodes of what they said. -/
theorem bareAll_relabelAll (alike : first.Alike second) :
    ∀ nodes : List Node, bareAll (relabelAll first nodes) = relabelAll second (bareAll nodes)
  | [] => rfl
  | node :: rest => by
    simp only [relabelAll, bareAll, node.bare_relabel alike, bareAll_relabelAll alike rest]

/-- A node that may be left out says, relabeled, what it said relabeled. -/
theorem bareSome_relabelSome (alike : first.Alike second) :
    ∀ node? : Option Node,
      bareSome (relabelSome first node?) = relabelSome second (bareSome node?)
  | none => rfl
  | some node => congrArg some (node.bare_relabel alike)

end

/-- Programs that say the same still do so when they are relabeled alike. -/
theorem Script.Program.bare_relabel_congr (alike : first.Alike second) {program other : Program}
    (same : program.bare = other.bare) :
    (program.relabel first).bare = (other.relabel second).bare := by
  obtain ⟨interpreters, items⟩ := Prod.mk.inj same
  have relabeled :
      bareAll (relabelAll first program.items) = bareAll (relabelAll second other.items) := by
    rw [bareAll_relabelAll alike, items, bareAll_relabelAll (.refl second)]
  exact Prod.ext interpreters relabeled

end Saying

end PropertyMangling
