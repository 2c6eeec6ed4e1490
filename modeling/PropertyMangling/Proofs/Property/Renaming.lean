import PropertyMangling.Property.Renaming
import PropertyMangling.Property.Site
/-!
# Renaming, site by site

Renaming a program changes every site by itself: what a site becomes depends on
the site and the plan alone, and the sites of the renamed program are those of
the program, in their order, each replaced by what it becomes. Only a shorthand
whose name is mapped becomes two sites, the key and the variable behind it; its
default keeps its place behind both.
-/
namespace PropertyMangling

open Script

namespace Renaming

/-- What a string is changed to. -/
def string (plan : Renaming) (value : String) : String :=
  if Embedded.isMarked plan.marker value then
    Embedded.renameWords plan.mapping (Embedded.codeOf plan.marker value)
  else Embedded.renamed plan.mapping value

/-- What a site is changed to. -/
def site (plan : Renaming) : Site → List Site
  | .name text => [.name (Embedded.renamed plan.mapping text)]
  | .shorthand text =>
    match plan.mapping.get? text with
    | some key => [.name key, .variable text]
    | none => [.shorthand text]
  | .subscript value => [.subscript (plan.string value)]
  | .key value => [.key (plan.string value)]
  | .literal value => [.literal (plan.string value)]
  | .imported value => [.imported value]
  | .variable text => [.variable text]

variable (plan : Renaming)

/-- The text that renaming a name leaves is the name's answer in the mapping, or the name
itself. -/
theorem value_text (text : String) :
    (plan.text text).value = Embedded.renamed plan.mapping text := by
  unfold Renaming.text Embedded.renamed
  cases plan.mapping.get? text <;> rfl

/-- The value of a renamed string is what the plan makes of its old value, whichever of its ways
applies. -/
theorem value_quoted (literal : Quoted) :
    (plan.quoted literal).value.value = plan.string literal.value := by
  unfold quoted string Embedded.renamed
  split
  · rfl
  · cases plan.mapping.get? literal.value <;> rfl

/-- Sites that are changed one by one. -/
def Changes (given changed : List Site) : Prop := changed = given.flatMap plan.site

variable {plan}

/-- Parts whose sites change one by one change them one by one when put together. -/
theorem Changes.append {first second firstChanged secondChanged : List Site}
    (before : plan.Changes first firstChanged) (behind : plan.Changes second secondChanged) :
    plan.Changes (first ++ second) (firstChanged ++ secondChanged) := by
  rw [Changes, List.flatMap_append, ← before, ← behind]

/-- A site that stays as it is, before sites that change one by one, gives sites that do. -/
theorem Changes.cons {site : Site} {rest restChanged : List Site} (stays : plan.site site = [site])
    (behind : plan.Changes rest restChanged) :
    plan.Changes (site :: rest) (site :: restChanged) := by
  rw [Changes, List.flatMap_cons, stays, ← behind, List.singleton_append]

variable (plan)

/-- A part without sites has none to change. -/
theorem changes_nil : plan.Changes [] [] := rfl

/-- Variables keep their names, so the site of a function's or a class's name is the same
afterwards. -/
theorem changes_variables (name? : Option Name) :
    plan.Changes (variableSites name?) (variableSites name?) := by
  cases name? <;> rfl

/-- The name of a property changes to its answer, and its site with it. -/
theorem changes_name (name : Name) :
    plan.Changes [.name name.text] [.name (plan.name name).value.text] :=
  congrArg (fun text => [Site.name text]) (plan.value_text name.text)

/-- A quoted key changes as strings do, and its site is still that of a key. -/
theorem changes_key (literal : Quoted) :
    plan.Changes [.key literal.value] [.key (plan.quoted literal).value.value] :=
  congrArg (fun value => [Site.key value]) (plan.value_quoted literal)

/-- Any other string changes as strings do, and its site is still that of a string. -/
theorem changes_literal (literal : Quoted) :
    plan.Changes [.literal literal.value] [.literal (plan.quoted literal).value.value] :=
  congrArg (fun value => [Site.literal value]) (plan.value_quoted literal)

/-- A name in an interface changes only when it is a string. -/
theorem changes_interfaceName (name : InterfaceName) :
    plan.Changes (name.sites .literal) ((plan.interfaceName name).value.sites .literal) := by
  cases name with
  | name word => rfl
  | string literal => exact plan.changes_literal literal

/-- An export changes at the names of its interface, each by its own rule. -/
theorem changes_exportSpecifier (specifier : ExportSpecifier) :
    plan.Changes specifier.sites (plan.exportSpecifier specifier).value.sites := by
  cases specifier with
  | item own exported? =>
    cases exported? with
    | none => exact plan.changes_interfaceName own
    | some exported =>
      exact (plan.changes_interfaceName own).append (plan.changes_interfaceName exported)
  | wholeInterface name => exact plan.changes_interfaceName name

/-- The exports of a list change one after the other, each by the rule above. -/
theorem changes_exportSpecifiers (specifiers : List ExportSpecifier) :
    plan.Changes (specifiers.flatMap ExportSpecifier.sites)
      ((plan.exportSpecifiers specifiers).value.flatMap ExportSpecifier.sites) := by
  induction specifiers with
  | nil => exact plan.changes_nil
  | cons specifier rest inductionHypothesis =>
    exact (plan.changes_exportSpecifier specifier).append inductionHypothesis

/-- The source of a module is a string and changes as strings do, if there is one. -/
theorem changes_source (source? : Option Quoted) :
    plan.Changes (sourceSites source?) (sourceSites (plan.source source?).value) := by
  cases source? with
  | none => exact plan.changes_nil
  | some literal => exact plan.changes_literal literal

/-- Nothing changes in what an import binds, neither the variable nor the name it has
elsewhere. -/
theorem changes_imports (specifiers : List ImportSpecifier) :
    plan.Changes (specifiers.flatMap ImportSpecifier.sites)
      (specifiers.flatMap ImportSpecifier.sites) := by
  induction specifiers with
  | nil => exact plan.changes_nil
  | cons specifier rest inductionHypothesis =>
    have unchanged : plan.Changes specifier.sites specifier.sites := by
      rcases specifier with _ | _ | ⟨_, _ | _ | _⟩ <;> rfl
    exact unchanged.append inductionHypothesis

/-- A shorthand whose name is mapped becomes a key and a variable, in front of what its default
becomes. -/
theorem changes_shorthand (span : Span) (name : Name) {default? renamed? : Option Node}
    (behind : plan.Changes (sitesOfSome default?) (sitesOfSome renamed?)) :
    plan.Changes (.shorthand name.text :: sitesOfSome default?)
      (plan.shorthand span name renamed?).value.sites := by
  have first : plan.site (.shorthand name.text) =
      match plan.mapping.get? name.text with
      | some key => [.name key, .variable name.text]
      | none => [.shorthand name.text] := rfl
  rw [Changes, List.flatMap_cons, ← behind, first, shorthand]
  cases plan.mapping.get? name.text with
  | none => rfl
  | some key => cases renamed? <;> rfl

/-- An index is renamed to a string exactly when it is one. -/
theorem subscriptString?_rename (index : Node) :
    subscriptString? (index.rename plan).value = (subscriptString? index).map plan.string := by
  cases index with
  | string literal => exact congrArg some (plan.value_quoted literal)
  | shorthand span name default? =>
    change subscriptString? (plan.shorthand span name (renameSome plan default?).value).value = none
    unfold shorthand
    cases plan.mapping.get? name.text <;> rfl
  | _ => rfl

/-- An index that is a string becomes another one; any other index changes site by site. -/
theorem changes_index (index : Node)
    (inside : plan.Changes index.sites (index.rename plan).value.sites) :
    plan.Changes
      (match subscriptString? index with
        | some value => [.subscript value]
        | none => index.sites)
      (match subscriptString? (index.rename plan).value with
        | some value => [.subscript value]
        | none => (index.rename plan).value.sites) := by
  rw [subscriptString?_rename]
  cases subscriptString? index with
  | none => exact inside
  | some value => rfl

end Renaming

open Renaming

mutual

/-- Renaming a node changes its sites one by one.

One case for each kind of node: the sites of a node are those of its parts, in
the same order before and after. -/
theorem Script.Node.changes_rename (plan : Renaming) :
    ∀ node : Node, plan.Changes node.sites (node.rename plan).value.sites
  | .word _ => rfl
  | .identifier _ => rfl
  | .privateName _ => rfl
  | .number .. => rfl
  | .bigint .. => rfl
  | .regex _ => rfl
  | .string literal => plan.changes_literal literal
  | .hole => rfl
  | .template _ values => changes_renameAll plan values
  | .tagged tag _ values => (tag.changes_rename plan).append (changes_renameAll plan values)
  | .array elements _ => changes_renameAll plan elements
  | .object _ properties _ => changes_renameAll plan properties
  | .function _ name? params body =>
    ((plan.changes_variables name?).append (changes_renameAll plan params)).append
      (changes_renameAll plan body)
  | .classExpression name? parent? members =>
    ((plan.changes_variables name?).append (changes_renameAll plan members)).append
      (changes_renameSome plan parent?)
  | .unary _ operand => operand.changes_rename plan
  | .update _ _ operand => operand.changes_rename plan
  | .binary _ left right => (left.changes_rename plan).append (right.changes_rename plan)
  | .assign _ _ target value => (target.changes_rename plan).append (value.changes_rename plan)
  | .conditional test consequent alternate =>
    ((test.changes_rename plan).append (consequent.changes_rename plan)).append
      (alternate.changes_rename plan)
  | .sequence items => changes_renameAll plan items
  | .arrow _ params body => (changes_renameAll plan params).append (body.changes_rename plan)
  | .yield _ argument? => changes_renameSome plan argument?
  | .await argument => argument.changes_rename plan
  | .paren _ inner => inner.changes_rename plan
  | .member _ host name _ => (host.changes_rename plan).append (plan.changes_name name)
  | .privateMember host _ _ => host.changes_rename plan
  | .subscript _ host _ index _ =>
    (host.changes_rename plan).append (plan.changes_index index (index.changes_rename plan))
  | .call _ callee items _ => (callee.changes_rename plan).append (changes_renameAll plan items)
  | .new callee items _ => (callee.changes_rename plan).append (changes_renameAll plan items)
  | .spread argument => argument.changes_rename plan
  | .keyName name => plan.changes_name name
  | .keyString literal => plan.changes_key literal
  | .computed _ expression => expression.changes_rename plan
  | .property key value => (key.changes_rename plan).append (value.changes_rename plan)
  | .shorthand span name default? =>
    plan.changes_shorthand span name (changes_renameSome plan default?)
  | .defaulted _ _ value => .cons rfl (value.changes_rename plan)
  | .objectMethod _ _ key params body =>
    ((key.changes_rename plan).append (changes_renameAll plan params)).append
      (changes_renameAll plan body)
  | .classMethod _ _ _ key params body =>
    ((key.changes_rename plan).append (changes_renameAll plan params)).append
      (changes_renameAll plan body)
  | .classConstructor key params body =>
    ((key.changes_rename plan).append (changes_renameAll plan params)).append
      (changes_renameAll plan body)
  | .field _ key value? => (key.changes_rename plan).append (changes_renameSome plan value?)
  | .staticBlock body => changes_renameAll plan body
  | .emptyMember => rfl
  | .arrayPattern elements => changes_renameAll plan elements
  | .objectPattern _ properties => changes_renameAll plan properties
  | .defaultPattern _ target value =>
    (target.changes_rename plan).append (value.changes_rename plan)
  | .rest argument => argument.changes_rename plan
  | .expressionStatement _ expression => expression.changes_rename plan
  | .block body => changes_renameAll plan body
  | .empty => rfl
  | .debugger => rfl
  | .withStatement subject body => (subject.changes_rename plan).append (body.changes_rename plan)
  | .returnStatement argument? => changes_renameSome plan argument?
  | .labeled _ body => .cons rfl (body.changes_rename plan)
  | .breakStatement label? => plan.changes_variables label?
  | .continueStatement label? => plan.changes_variables label?
  | .ifStatement test consequent alternate? =>
    ((test.changes_rename plan).append (consequent.changes_rename plan)).append
      (changes_renameSome plan alternate?)
  | .switchStatement discriminant cases =>
    (discriminant.changes_rename plan).append (changes_renameAll plan cases)
  | .switchCase test? body => (changes_renameSome plan test?).append (changes_renameAll plan body)
  | .throwStatement argument => argument.changes_rename plan
  | .tryStatement body handler? finalizer? =>
    ((changes_renameAll plan body).append (changes_renameSome plan handler?)).append
      (changes_renameSome plan finalizer?)
  | .catchClause param? body =>
    (changes_renameSome plan param?).append (changes_renameAll plan body)
  | .whileStatement test body => (test.changes_rename plan).append (body.changes_rename plan)
  | .doWhile body test => (test.changes_rename plan).append (body.changes_rename plan)
  | .forStatement start? test? step? body =>
    (((changes_renameSome plan start?).append (changes_renameSome plan test?)).append
      (changes_renameSome plan step?)).append
      (body.changes_rename plan)
  | .forIn target subject body =>
    ((target.changes_rename plan).append (subject.changes_rename plan)).append
      (body.changes_rename plan)
  | .forOf _ target subject body =>
    ((target.changes_rename plan).append (subject.changes_rename plan)).append
      (body.changes_rename plan)
  | .variables _ _ declarators => changes_renameAll plan declarators
  | .declarator _ target value? =>
    (target.changes_rename plan).append (changes_renameSome plan value?)
  | .functionDeclaration _ _ params body =>
    .cons rfl ((changes_renameAll plan params).append (changes_renameAll plan body))
  | .classDeclaration _ parent? members =>
    .cons rfl ((changes_renameAll plan members).append (changes_renameSome plan parent?))
  | .importDeclaration _ specifiers _ => (plan.changes_imports specifiers).append rfl
  | .exportDeclaration declaration => declaration.changes_rename plan
  | .exportNamed specifiers source? =>
    (plan.changes_exportSpecifiers specifiers).append (plan.changes_source source?)
  | .exportDefault value => value.changes_rename plan
  | .exportAll source => plan.changes_literal source

/-- Renaming nodes changes their sites one by one; this is the case of lists in the mutual
induction. -/
theorem changes_renameAll (plan : Renaming) :
    ∀ nodes : List Node, plan.Changes (sitesOf nodes) (sitesOf (renameAll plan nodes).value)
  | [] => plan.changes_nil
  | node :: rest => (node.changes_rename plan).append (changes_renameAll plan rest)

/-- Renaming a node that may be left out changes its sites one by one. -/
theorem changes_renameSome (plan : Renaming) :
    ∀ node? : Option Node,
      plan.Changes (sitesOfSome node?) (sitesOfSome (renameSome plan node?).value)
  | none => plan.changes_nil
  | some node => node.changes_rename plan

end

end PropertyMangling
