import PropertyMangling.Proofs.Property.Labels
import PropertyMangling.Proofs.Script.Saying
import PropertyMangling.Script.Grammar.Module
/-!
# Programs without the names of their members

The outline of a program is what is left when the places of its parts, the names of its
members and the texts of its strings are taken out. The grammar looks at no more
than the outline when it puts nodes together: whether something can be a target, a
parameter or a directive does not depend on what its members are called. Of the strings
only the directive that makes code strict is told apart. All variables and labels stand
in the outline.

The places that were taken out are the spots of a program: where members are named and
where strings hold their text. A string that is the key of a class member has to be
counted apart, since the grammar looks at its text once: it must not make a constructor
of what is none.
-/
namespace PropertyMangling.Script

open Parse

/-! ## Outlines -/

/-- Whether a literal is written as the directive that makes code strict. -/
def isStrictSource (source : String) : Bool :=
  source == "\"use strict\"" || source == "'use strict'"

/-- What the grammar sees of a string that it has read: whether it makes code strict. -/
def Quoted.outline (literal : Quoted) : Quoted :=
  ⟨nowhere, "", literal.source?.filter isStrictSource⟩

/-- What is kept of a name in a module's interface. -/
def InterfaceName.outline : InterfaceName → InterfaceName
  | .name word => .name word.bare
  | .string literal => .string literal.outline

/-- What is kept of an import. -/
def ImportSpecifier.outline : ImportSpecifier → ImportSpecifier
  | .defaultValue name => .defaultValue name.bare
  | .wholeInterface name => .wholeInterface name.bare
  | .item name imported? => .item name.bare (imported?.map InterfaceName.outline)

/-- What is kept of an export. -/
def ExportSpecifier.outline : ExportSpecifier → ExportSpecifier
  | .item own exported? => .item own.outline (exported?.map InterfaceName.outline)
  | .wholeInterface name => .wholeInterface name.outline

/-- A span that shows of a directive no more than whether a semicolon of its own ends it. -/
def semicolonSpan (statement : Node) : Span := ⟨0, if hasSemicolon statement then 1 else 0⟩

mutual

/-- A node without its place, the names of its members and the texts of its strings. -/
def Node.outline : Node → Node
  | .word word => .word word
  | .identifier name => .identifier name.bare
  | .privateName text => .privateName text
  | .number _ value _ => .number nowhere value ""
  | .bigint value _ => .bigint value ""
  | .regex source => .regex source
  | .string literal => .string literal.outline
  | .hole => .hole
  | .template texts values => .template texts (outlineAll values)
  | .tagged tag texts values => .tagged tag.outline texts (outlineAll values)
  | .array elements trailing => .array (outlineAll elements) trailing
  | .object _ properties trailing => .object nowhere (outlineAll properties) trailing
  | .function flavor name? params body =>
    .function flavor (name?.map Name.bare) (outlineAll params) (outlineAll body)
  | .classExpression name? parent? members =>
    .classExpression (name?.map Name.bare) (outlineSome parent?) (outlineAll members)
  | .unary op operand => .unary op operand.outline
  | .update increment before operand => .update increment before operand.outline
  | .binary op left right => .binary op left.outline right.outline
  | .assign _ op? target value => .assign nowhere op? target.outline value.outline
  | .conditional test consequent alternate =>
    .conditional test.outline consequent.outline alternate.outline
  | .sequence items => .sequence (outlineAll items)
  | .arrow isAsync params body => .arrow isAsync (outlineAll params) body.outline
  | .yield delegate argument? => .yield delegate (outlineSome argument?)
  | .await argument => .await argument.outline
  | .paren _ inner => .paren nowhere inner.outline
  | .member _ host _ optional => .member nowhere host.outline ⟨nowhere, ""⟩ optional
  | .privateMember host name optional => .privateMember host.outline name optional
  | .subscript _ host _ index optional =>
    .subscript nowhere host.outline nowhere index.outline optional
  | .call _ callee items optional => .call nowhere callee.outline (outlineAll items) optional
  | .new callee items hasArguments => .new callee.outline (outlineAll items) hasArguments
  | .spread argument => .spread argument.outline
  | .keyName name => .keyName name.bare
  | .keyString literal => .keyString literal.outline
  | .computed _ expression => .computed nowhere expression.outline
  | .property key value => .property key.outline value.outline
  | .shorthand _ name default? => .shorthand nowhere name.bare (outlineSome default?)
  | .defaulted _ name value => .defaulted nowhere name.bare value.outline
  | .objectMethod kind flavor key params body =>
    .objectMethod kind flavor key.outline (outlineAll params) (outlineAll body)
  | .classMethod isStatic kind flavor key params body =>
    .classMethod isStatic kind flavor key.outline (outlineAll params) (outlineAll body)
  | .classConstructor key params body =>
    .classConstructor key.outline (outlineAll params) (outlineAll body)
  | .field isStatic key value? => .field isStatic key.outline (outlineSome value?)
  | .staticBlock body => .staticBlock (outlineAll body)
  | .emptyMember => .emptyMember
  | .arrayPattern elements => .arrayPattern (outlineAll elements)
  | .objectPattern _ properties => .objectPattern nowhere (outlineAll properties)
  | .defaultPattern _ target value => .defaultPattern nowhere target.outline value.outline
  | .rest argument => .rest argument.outline
  | .expressionStatement span expression =>
    .expressionStatement (semicolonSpan (.expressionStatement span expression)) expression.outline
  | .block body => .block (outlineAll body)
  | .empty => .empty
  | .debugger => .debugger
  | .withStatement subject body => .withStatement subject.outline body.outline
  | .returnStatement argument? => .returnStatement (outlineSome argument?)
  | .labeled label body => .labeled label.bare body.outline
  | .breakStatement label? => .breakStatement (label?.map Name.bare)
  | .continueStatement label? => .continueStatement (label?.map Name.bare)
  | .ifStatement test consequent alternate? =>
    .ifStatement test.outline consequent.outline (outlineSome alternate?)
  | .switchStatement discriminant cases => .switchStatement discriminant.outline (outlineAll cases)
  | .switchCase test? body => .switchCase (outlineSome test?) (outlineAll body)
  | .throwStatement argument => .throwStatement argument.outline
  | .tryStatement body handler? finalizer? =>
    .tryStatement (outlineAll body) (outlineSome handler?) (outlineSome finalizer?)
  | .catchClause param? body => .catchClause (outlineSome param?) (outlineAll body)
  | .whileStatement test body => .whileStatement test.outline body.outline
  | .doWhile body test => .doWhile body.outline test.outline
  | .forStatement start? test? step? body =>
    .forStatement (outlineSome start?) (outlineSome test?) (outlineSome step?) body.outline
  | .forIn target subject body => .forIn target.outline subject.outline body.outline
  | .forOf isAwait target subject body => .forOf isAwait target.outline subject.outline body.outline
  | .variables _ kind declarators => .variables nowhere kind (outlineAll declarators)
  | .declarator _ target value? => .declarator nowhere target.outline (outlineSome value?)
  | .functionDeclaration flavor name params body =>
    .functionDeclaration flavor name.bare (outlineAll params) (outlineAll body)
  | .classDeclaration name parent? members =>
    .classDeclaration name.bare (outlineSome parent?) (outlineAll members)
  | .importDeclaration phase specifiers source =>
    .importDeclaration phase (specifiers.map ImportSpecifier.outline) source.outline
  | .exportDeclaration declaration => .exportDeclaration declaration.outline
  | .exportNamed specifiers source? =>
    .exportNamed (specifiers.map ExportSpecifier.outline) (source?.map Quoted.outline)
  | .exportDefault value => .exportDefault value.outline
  | .exportAll source => .exportAll source.outline

/-- The outlines of nodes, one by one. -/
def outlineAll : List Node → List Node
  | [] => []
  | node :: rest => node.outline :: outlineAll rest

/-- The outline of a node that may be left out. -/
def outlineSome : Option Node → Option Node
  | none => none
  | some node => some node.outline

end


/-! ## Spots -/

/-- Where a string holds its text. -/
def Quoted.spot (literal : Quoted) : Span := ⟨literal.span.lo + 1, literal.span.hi - 1⟩

/-- The spots of a name in a module's interface. -/
def InterfaceName.spots : InterfaceName → List Span
  | .name _ => []
  | .string literal => [literal.spot]

/-- The spots of an import, all of them in the name that it has elsewhere. -/
def ImportSpecifier.spots : ImportSpecifier → List Span
  | .item _ (some imported) => imported.spots
  | _ => []

/-- The spots of an export on both of its sides. -/
def ExportSpecifier.spots : ExportSpecifier → List Span
  | .item own none => own.spots
  | .item own (some exported) => own.spots ++ exported.spots
  | .wholeInterface name => name.spots

/-- Whether a node is a key in quotes. -/
def Node.isQuotedKey : Node → Bool
  | .keyString _ => true
  | _ => false

/-- The spots of a class member's key, which are left out for a key in quotes unless such keys
count. -/
def keySpots (keys : Bool) (key : Node) (spots : List Span) : List Span :=
  if key.isQuotedKey && !keys then [] else spots

mutual

/-- Where a node names members and where its strings hold their text; the flag says whether the
keys of class members count. -/
def Node.spots (keys : Bool) : Node → List Span
  | .word _ | .identifier _ | .privateName _ | .number .. | .bigint .. | .regex _ | .hole => []
  | .string literal => [literal.spot]
  | .template _ values => spotsOf keys values
  | .tagged tag _ values => tag.spots keys ++ spotsOf keys values
  | .array elements _ => spotsOf keys elements
  | .object _ properties _ => spotsOf keys properties
  | .function _ _ params body => spotsOf keys params ++ spotsOf keys body
  | .classExpression _ parent? members => spotsOfSome keys parent? ++ spotsOf keys members
  | .unary _ operand => operand.spots keys
  | .update _ _ operand => operand.spots keys
  | .binary _ left right => left.spots keys ++ right.spots keys
  | .assign _ _ target value => target.spots keys ++ value.spots keys
  | .conditional test consequent alternate =>
    test.spots keys ++ consequent.spots keys ++ alternate.spots keys
  | .sequence items => spotsOf keys items
  | .arrow _ params body => spotsOf keys params ++ body.spots keys
  | .yield _ argument? => spotsOfSome keys argument?
  | .await argument => argument.spots keys
  | .paren _ inner => inner.spots keys
  | .member _ host name _ => host.spots keys ++ [name.span]
  | .privateMember host _ _ => host.spots keys
  | .subscript _ host _ index _ => host.spots keys ++ index.spots keys
  | .call _ callee items _ => callee.spots keys ++ spotsOf keys items
  | .new callee items _ => callee.spots keys ++ spotsOf keys items
  | .spread argument => argument.spots keys
  | .keyName _ => []
  | .keyString literal => [literal.spot]
  | .computed _ expression => expression.spots keys
  | .property key value => key.spots keys ++ value.spots keys
  | .shorthand _ _ default? => spotsOfSome keys default?
  | .defaulted _ _ value => value.spots keys
  | .objectMethod _ _ key params body => key.spots keys ++ spotsOf keys params ++ spotsOf keys body
  | .classMethod _ _ _ key params body =>
    keySpots keys key (key.spots keys) ++ spotsOf keys params ++ spotsOf keys body
  | .classConstructor key params body =>
    keySpots keys key (key.spots keys) ++ spotsOf keys params ++ spotsOf keys body
  | .field _ key value? => keySpots keys key (key.spots keys) ++ spotsOfSome keys value?
  | .staticBlock body => spotsOf keys body
  | .emptyMember => []
  | .arrayPattern elements => spotsOf keys elements
  | .objectPattern _ properties => spotsOf keys properties
  | .defaultPattern _ target value => target.spots keys ++ value.spots keys
  | .rest argument => argument.spots keys
  | .expressionStatement _ expression => expression.spots keys
  | .block body => spotsOf keys body
  | .empty | .debugger => []
  | .withStatement subject body => subject.spots keys ++ body.spots keys
  | .returnStatement argument? => spotsOfSome keys argument?
  | .labeled _ body => body.spots keys
  | .breakStatement _ | .continueStatement _ => []
  | .ifStatement test consequent alternate? =>
    test.spots keys ++ consequent.spots keys ++ spotsOfSome keys alternate?
  | .switchStatement discriminant cases => discriminant.spots keys ++ spotsOf keys cases
  | .switchCase test? body => spotsOfSome keys test? ++ spotsOf keys body
  | .throwStatement argument => argument.spots keys
  | .tryStatement body handler? finalizer? =>
    spotsOf keys body ++ spotsOfSome keys handler? ++ spotsOfSome keys finalizer?
  | .catchClause param? body => spotsOfSome keys param? ++ spotsOf keys body
  | .whileStatement test body => test.spots keys ++ body.spots keys
  | .doWhile body test => body.spots keys ++ test.spots keys
  | .forStatement start? test? step? body =>
    spotsOfSome keys start? ++ spotsOfSome keys test? ++ spotsOfSome keys step? ++ body.spots keys
  | .forIn target subject body => target.spots keys ++ subject.spots keys ++ body.spots keys
  | .forOf _ target subject body => target.spots keys ++ subject.spots keys ++ body.spots keys
  | .variables _ _ declarators => spotsOf keys declarators
  | .declarator _ target value? => target.spots keys ++ spotsOfSome keys value?
  | .functionDeclaration _ _ params body => spotsOf keys params ++ spotsOf keys body
  | .classDeclaration _ parent? members => spotsOfSome keys parent? ++ spotsOf keys members
  | .importDeclaration _ specifiers source =>
    specifiers.flatMap ImportSpecifier.spots ++ [source.spot]
  | .exportDeclaration declaration => declaration.spots keys
  | .exportNamed specifiers source? =>
    specifiers.flatMap ExportSpecifier.spots ++ (source?.map Quoted.spot).toList
  | .exportDefault value => value.spots keys
  | .exportAll source => [source.spot]

/-- The spots of nodes, one after the other. -/
def spotsOf (keys : Bool) : List Node → List Span
  | [] => []
  | node :: rest => node.spots keys ++ spotsOf keys rest

/-- The spots of a node that may be left out. -/
def spotsOfSome (keys : Bool) : Option Node → List Span
  | none => []
  | some node => node.spots keys

end

/-- Where a program names members and where its strings hold their text; the flag says whether the
keys of class members count. -/
def Program.spots (keys : Bool) (program : Program) : List Span := spotsOf keys program.items

/-- The outlines of a list are those of its nodes, so that lists are handled by lemmas about
`List.map`. -/
@[simp]
theorem outlineAll_eq_map (nodes : List Node) : outlineAll nodes = nodes.map Node.outline := by
  induction nodes with
  | nil => rfl
  | cons node rest inductionHypothesis =>
    rw [outlineAll, inductionHypothesis, List.map_cons]

/-- The outline of a part that may be missing is that of the part, if there is one. -/
@[simp]
theorem outlineSome_eq_map (node? : Option Node) : outlineSome node? = node?.map Node.outline := by
  cases node? <;> rfl

/-- The spots of a list of nodes are those of its nodes in order, which is how the walk over lists
reaches them. -/
@[simp]
theorem spotsOf_eq_flatMap (keys : Bool) (nodes : List Node) :
    spotsOf keys nodes = nodes.flatMap (Node.spots keys) := by
  induction nodes with
  | nil => rfl
  | cons node rest inductionHypothesis =>
    rw [spotsOf, inductionHypothesis, List.flatMap_cons]

/-- The spots of a part that may be missing are those of the part, as if it were a list of one or
none. -/
@[simp]
theorem spotsOfSome_eq (keys : Bool) (node? : Option Node) :
    spotsOfSome keys node? = node?.toList.flatMap (Node.spots keys) := by
  cases node? with
  | none => rfl
  | some node => exact (List.append_nil _).symm

/-! ## Variables stay -/

/-- Some sites name the same variables and labels as others, in the same order. -/
def SameVariables (first second : List Site) : Prop :=
  first.filterMap Site.identifier? = second.filterMap Site.identifier?

namespace SameVariables

variable {first second others more : List Site} {site other : Site}

/-- Sites have the variables that they have; this is the case of every node that an outline leaves
as it is. -/
theorem refl (sites : List Site) : SameVariables sites sites := rfl

/-- Sites that agree on variables part by part agree on them as a whole, and in the same order. -/
theorem append (front : SameVariables first second) (behind : SameVariables others more) :
    SameVariables (first ++ others) (second ++ more) := by
  rw [SameVariables, List.filterMap_append, List.filterMap_append, front, behind]

/-- A site that is the same variable, or none, may stand in front. -/
theorem cons (same : site.identifier? = other.identifier?) (behind : SameVariables first second) :
    SameVariables (site :: first) (other :: second) := by
  rw [SameVariables, List.filterMap_cons, List.filterMap_cons, same, behind]

/-- One site that is no variable is as good as another. -/
theorem one (same : site.identifier? = other.identifier?) : SameVariables [site] [other] :=
  cons same (refl [])

/-- The part that a string plays between brackets makes no variable of it. -/
theorem subscript {index : Node} (inner : SameVariables index.outline.sites index.sites) :
    SameVariables
      (match subscriptString? index.outline with
        | some value => [.subscript value]
        | none => index.outline.sites)
      (match subscriptString? index with
        | some value => [.subscript value]
        | none => index.sites) := by
  cases index with
  | string literal => exact one rfl
  | _ => exact inner

end SameVariables

/-- A name at a module's interface is no variable when what it stands for is none, so its outline
has the same variables. -/
theorem InterfaceName.sameVariables {part : String → Site}
    (unseen : ∀ value, (part value).identifier? = none) (name : InterfaceName) :
    SameVariables (name.outline.sites part) (name.sites part) := by
  cases name with
  | name word => exact .refl _
  | string literal => exact .one ((unseen _).trans (unseen _).symm)

/-- What an import binds is a variable, and its outline binds the same one under the same name. -/
theorem ImportSpecifier.sameVariables (specifier : ImportSpecifier) :
    SameVariables specifier.outline.sites specifier.sites := by
  cases specifier with
  | item name imported? =>
    cases imported? with
    | none => exact .refl _
    | some imported => exact .cons rfl (imported.sameVariables fun _ => rfl)
  | _ => exact .refl _

/-- What an export names on this side is a variable, which its outline keeps; the name on the
other side is none. -/
theorem ExportSpecifier.sameVariables (specifier : ExportSpecifier) :
    SameVariables specifier.outline.sites specifier.sites := by
  have same (name : InterfaceName) :
      SameVariables (name.outline.sites .literal) (name.sites .literal) :=
    name.sameVariables fun _ => rfl
  cases specifier with
  | item own exported? =>
    cases exported? with
    | none => exact same own
    | some exported => exact (same own).append (same exported)
  | wholeInterface name => exact same name

/-- Parts have the variables of their outlines when each of them has. -/
theorem SameVariables.flatMap {α : Type} {outline : α → α} {sites : α → List Site}
    (each : ∀ part, SameVariables (sites (outline part)) (sites part)) (parts : List α) :
    SameVariables ((parts.map outline).flatMap sites) (parts.flatMap sites) := by
  induction parts with
  | nil => exact .refl []
  | cons part rest inductionHypothesis =>
    rw [List.map_cons, List.flatMap_cons, List.flatMap_cons]
    exact (each part).append inductionHypothesis

/-- The name of a function or a class is a variable, and the outline of it is the same name
without its spelling. -/
theorem sameVariables_name (name? : Option Name) :
    SameVariables (variableSites (name?.map Name.bare)) (variableSites name?) := by
  cases name? <;> exact .refl _

/-- The source of a module is a string, so neither it nor its outline is a variable. -/
theorem sameVariables_source (source? : Option Quoted) :
    SameVariables (sourceSites (source?.map Quoted.outline)) (sourceSites source?) := by
  cases source? with
  | none => exact .refl _
  | some source => exact .one rfl

mutual

/-- A node and its outline name the same variables.

One case for each kind of node: its parts name the same variables, and what the outline leaves out
names none. -/
theorem Node.sameVariables : ∀ node : Node, SameVariables node.outline.sites node.sites
  | .word _ | .privateName _ | .number .. | .bigint .. | .regex _ | .hole => .refl _
  | .identifier _ => .refl _
  | .string _ => .one rfl
  | .template _ values => sameVariables_all values
  | .tagged tag _ values => tag.sameVariables.append (sameVariables_all values)
  | .array elements _ => sameVariables_all elements
  | .object _ properties _ => sameVariables_all properties
  | .function _ name? params body =>
    ((sameVariables_name name?).append (sameVariables_all params)).append (sameVariables_all body)
  | .classExpression name? parent? members =>
    ((sameVariables_name name?).append (sameVariables_all members)).append
      (sameVariables_some parent?)
  | .unary _ operand => operand.sameVariables
  | .update _ _ operand => operand.sameVariables
  | .binary _ left right => left.sameVariables.append right.sameVariables
  | .assign _ _ target value => target.sameVariables.append value.sameVariables
  | .conditional test consequent alternate =>
    (test.sameVariables.append consequent.sameVariables).append alternate.sameVariables
  | .sequence items => sameVariables_all items
  | .arrow _ params body => (sameVariables_all params).append body.sameVariables
  | .yield _ argument? => sameVariables_some argument?
  | .await argument => argument.sameVariables
  | .paren _ inner => inner.sameVariables
  | .member _ host _ _ => host.sameVariables.append (.one rfl)
  | .privateMember host _ _ => host.sameVariables
  | .subscript _ host _ index _ => host.sameVariables.append (.subscript index.sameVariables)
  | .call _ callee items _ => callee.sameVariables.append (sameVariables_all items)
  | .new callee items _ => callee.sameVariables.append (sameVariables_all items)
  | .spread argument => argument.sameVariables
  | .keyName _ => .refl _
  | .keyString _ => .one rfl
  | .computed _ expression => expression.sameVariables
  | .property key value => key.sameVariables.append value.sameVariables
  | .shorthand _ _ default? => .cons rfl (sameVariables_some default?)
  | .defaulted _ _ value => .cons rfl value.sameVariables
  | .objectMethod _ _ key params body =>
    (key.sameVariables.append (sameVariables_all params)).append (sameVariables_all body)
  | .classMethod _ _ _ key params body =>
    (key.sameVariables.append (sameVariables_all params)).append (sameVariables_all body)
  | .classConstructor key params body =>
    (key.sameVariables.append (sameVariables_all params)).append (sameVariables_all body)
  | .field _ key value? => key.sameVariables.append (sameVariables_some value?)
  | .staticBlock body => sameVariables_all body
  | .emptyMember => .refl _
  | .arrayPattern elements => sameVariables_all elements
  | .objectPattern _ properties => sameVariables_all properties
  | .defaultPattern _ target value => target.sameVariables.append value.sameVariables
  | .rest argument => argument.sameVariables
  | .expressionStatement _ expression => expression.sameVariables
  | .block body => sameVariables_all body
  | .empty | .debugger => .refl _
  | .withStatement subject body => subject.sameVariables.append body.sameVariables
  | .returnStatement argument? => sameVariables_some argument?
  | .labeled _ body => .cons rfl body.sameVariables
  | .breakStatement label? => sameVariables_name label?
  | .continueStatement label? => sameVariables_name label?
  | .ifStatement test consequent alternate? =>
    (test.sameVariables.append consequent.sameVariables).append (sameVariables_some alternate?)
  | .switchStatement discriminant cases =>
    discriminant.sameVariables.append (sameVariables_all cases)
  | .switchCase test? body => (sameVariables_some test?).append (sameVariables_all body)
  | .throwStatement argument => argument.sameVariables
  | .tryStatement body handler? finalizer? =>
    ((sameVariables_all body).append (sameVariables_some handler?)).append
      (sameVariables_some finalizer?)
  | .catchClause param? body => (sameVariables_some param?).append (sameVariables_all body)
  | .whileStatement test body => test.sameVariables.append body.sameVariables
  | .doWhile body test => test.sameVariables.append body.sameVariables
  | .forStatement start? test? step? body =>
    (((sameVariables_some start?).append (sameVariables_some test?)).append
      (sameVariables_some step?)).append body.sameVariables
  | .forIn target subject body =>
    (target.sameVariables.append subject.sameVariables).append body.sameVariables
  | .forOf _ target subject body =>
    (target.sameVariables.append subject.sameVariables).append body.sameVariables
  | .variables _ _ declarators => sameVariables_all declarators
  | .declarator _ target value? => target.sameVariables.append (sameVariables_some value?)
  | .functionDeclaration _ _ params body =>
    .cons rfl ((sameVariables_all params).append (sameVariables_all body))
  | .classDeclaration _ parent? members =>
    .cons rfl ((sameVariables_all members).append (sameVariables_some parent?))
  | .importDeclaration _ specifiers _ =>
    (SameVariables.flatMap ImportSpecifier.sameVariables specifiers).append (.one rfl)
  | .exportDeclaration declaration => declaration.sameVariables
  | .exportNamed specifiers source? =>
    (SameVariables.flatMap ExportSpecifier.sameVariables specifiers).append
      (sameVariables_source source?)
  | .exportDefault value => value.sameVariables
  | .exportAll _ => .one rfl

/-- The outlines of a list of nodes have the variables of the nodes, one node after the other. -/
theorem sameVariables_all :
    ∀ nodes : List Node, SameVariables (sitesOf (outlineAll nodes)) (sitesOf nodes)
  | [] => .refl []
  | node :: rest => node.sameVariables.append (sameVariables_all rest)

/-- The outline of a part that may be missing has its variables; this is the case of optional
parts in the mutual induction. -/
theorem sameVariables_some :
    ∀ node? : Option Node, SameVariables (sitesOfSome (outlineSome node?)) (sitesOfSome node?)
  | none => .refl []
  | some node => node.sameVariables

end

/-- Programs of one outline have the same variables and labels, in the same order. -/
theorem Program.identifiers_eq_of_outline {first second : Program}
    (same : outlineAll first.items = outlineAll second.items) :
    first.identifiers = second.identifiers := by
  have one : SameVariables (sitesOf (outlineAll first.items)) (sitesOf first.items) :=
    sameVariables_all first.items
  rw [same] at one
  exact one.symm.trans (sameVariables_all second.items)

end PropertyMangling.Script
