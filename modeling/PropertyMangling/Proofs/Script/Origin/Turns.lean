import PropertyMangling.Proofs.Script.Origin.Mentions
/-!
# The order of the walk and the order of the text

`Node.sites` and `Node.mentions` list the same, but for the order. They part in
three kinds of nodes: a class with a parent, a do-while loop and an imported item
under another name have two parts that the walk takes the other way round. `turns`
lists these pairs of parts, wherever they stand in a program.
-/
namespace PropertyMangling

open Script

/-- Two neighbouring parts of a program, in the order of the text, that the walk takes the other way
round. -/
structure Turn where
  first : List Mention
  second : List Mention

namespace Script

/-- The name of an imported item and its variable. -/
def ImportSpecifier.turns : ImportSpecifier → List Turn
  | .item name (some imported) => [⟨imported.mentions .imported, [name.mention .variable]⟩]
  | _ => []

mutual

/-- The parts of a node that the walk takes the other way round. -/
def Node.turns : Node → List Turn
  | .word _ | .privateName _ | .number .. | .bigint .. | .regex _ | .hole => []
  | .identifier _ | .string _ => []
  | .template _ values => turnsOf values
  | .tagged tag _ values => tag.turns ++ turnsOf values
  | .array elements _ => turnsOf elements
  | .object _ properties _ => turnsOf properties
  | .function _ _ params body => turnsOf params ++ turnsOf body
  | .classExpression _ parent? members =>
    turnsOfSome parent? ++ turnsOf members ++ [⟨mentionsOfSome parent?, mentionsOf members⟩]
  | .unary _ operand => operand.turns
  | .update _ _ operand => operand.turns
  | .binary _ left right => left.turns ++ right.turns
  | .assign _ _ target value => target.turns ++ value.turns
  | .conditional test consequent alternate => test.turns ++ consequent.turns ++ alternate.turns
  | .sequence items => turnsOf items
  | .arrow _ params body => turnsOf params ++ body.turns
  | .yield _ argument? => turnsOfSome argument?
  | .await argument => argument.turns
  | .paren _ inner => inner.turns
  | .member _ host _ _ => host.turns
  | .privateMember host _ _ => host.turns
  | .subscript _ host _ index _ => host.turns ++ index.turns
  | .call _ callee items _ => callee.turns ++ turnsOf items
  | .new callee items _ => callee.turns ++ turnsOf items
  | .spread argument => argument.turns
  | .keyName _ | .keyString _ => []
  | .computed _ expression => expression.turns
  | .property key value => key.turns ++ value.turns
  | .shorthand _ _ default? => turnsOfSome default?
  | .defaulted _ _ value => value.turns
  | .objectMethod _ _ key params body => key.turns ++ turnsOf params ++ turnsOf body
  | .classMethod _ _ _ key params body => key.turns ++ turnsOf params ++ turnsOf body
  | .classConstructor key params body => key.turns ++ turnsOf params ++ turnsOf body
  | .field _ key value? => key.turns ++ turnsOfSome value?
  | .staticBlock body => turnsOf body
  | .emptyMember => []
  | .arrayPattern elements => turnsOf elements
  | .objectPattern _ properties => turnsOf properties
  | .defaultPattern _ target value => target.turns ++ value.turns
  | .rest argument => argument.turns
  | .expressionStatement _ expression => expression.turns
  | .block body => turnsOf body
  | .empty | .debugger => []
  | .withStatement subject body => subject.turns ++ body.turns
  | .returnStatement argument? => turnsOfSome argument?
  | .labeled _ body => body.turns
  | .breakStatement _ | .continueStatement _ => []
  | .ifStatement test consequent alternate? =>
    test.turns ++ consequent.turns ++ turnsOfSome alternate?
  | .switchStatement discriminant cases => discriminant.turns ++ turnsOf cases
  | .switchCase test? body => turnsOfSome test? ++ turnsOf body
  | .throwStatement argument => argument.turns
  | .tryStatement body handler? finalizer? =>
    turnsOf body ++ turnsOfSome handler? ++ turnsOfSome finalizer?
  | .catchClause param? body => turnsOfSome param? ++ turnsOf body
  | .whileStatement test body => test.turns ++ body.turns
  | .doWhile body test => body.turns ++ test.turns ++ [⟨body.mentions, test.mentions⟩]
  | .forStatement start? test? step? body =>
    turnsOfSome start? ++ turnsOfSome test? ++ turnsOfSome step? ++ body.turns
  | .forIn target subject body => target.turns ++ subject.turns ++ body.turns
  | .forOf _ target subject body => target.turns ++ subject.turns ++ body.turns
  | .variables _ _ declarators => turnsOf declarators
  | .declarator _ target value? => target.turns ++ turnsOfSome value?
  | .functionDeclaration _ _ params body => turnsOf params ++ turnsOf body
  | .classDeclaration _ parent? members =>
    turnsOfSome parent? ++ turnsOf members ++ [⟨mentionsOfSome parent?, mentionsOf members⟩]
  | .importDeclaration _ specifiers _ => specifiers.flatMap ImportSpecifier.turns
  | .exportDeclaration declaration => declaration.turns
  | .exportNamed _ _ => []
  | .exportDefault value => value.turns
  | .exportAll _ => []

/-- The turned parts of nodes, one after the other. -/
def turnsOf : List Node → List Turn
  | [] => []
  | node :: rest => node.turns ++ turnsOf rest

/-- The turned parts of a node that may be left out. -/
def turnsOfSome : Option Node → List Turn
  | none => []
  | some node => node.turns

end

/-- The parts of a program that the walk takes the other way round. -/
def Program.turns (program : Program) : List Turn := turnsOf program.items

end Script

/-- A list of mentions and the walk over them, which agree but for some turns. -/
inductive Turned : List Turn → List Mention → List Site → Prop
  | same (mentions : List Mention) : Turned [] mentions (mentions.map Mention.site)
  | append {turns others : List Turn} {first second : List Mention} {walk further : List Site}
      (atFirst : Turned turns first walk) (atSecond : Turned others second further) :
      Turned (turns ++ others) (first ++ second) (walk ++ further)
  | turn {turns others : List Turn} (front : List Mention) {first second : List Mention}
      {walk further : List Site} (atFirst : Turned turns first walk)
      (atSecond : Turned others second further) :
      Turned (turns ++ others ++ [⟨first, second⟩]) (front ++ first ++ second)
        (front.map Mention.site ++ further ++ walk)

namespace Turned

variable {turns others : List Turn} {mentions second : List Mention} {walk further : List Site}

/-- What stands in front and is taken first may be put before any walk that turns the rest
around. -/
theorem behind (front : List Mention) (turned : Turned turns mentions walk) :
    Turned turns (front ++ mentions) (front.map Mention.site ++ walk) :=
  (Turned.same front).append turned

/-- What stands behind and is taken last may be put behind any walk, which ends before it. -/
theorem before (turned : Turned turns mentions walk) (behind : List Mention) :
    Turned turns (mentions ++ behind) (walk ++ behind.map Mention.site) := by
  have whole := turned.append (Turned.same behind)
  rwa [List.append_nil] at whole

/-- The walk takes all there is and nothing twice: turning parts around permutes the mentions. -/
theorem perm (turned : Turned turns mentions walk) : (mentions.map Mention.site).Perm walk := by
  induction turned with
  | same mentions => exact .refl _
  | append _ _ atFirst atSecond =>
    rw [List.map_append]
    exact List.Perm.append atFirst atSecond
  | turn front _ _ atFirst atSecond =>
    rw [List.map_append, List.map_append, List.append_assoc, List.append_assoc]
    have swapped := (List.Perm.append atFirst atSecond).trans List.perm_append_comm
    exact swapped.append_left _

end Turned

section Trees

/-- An optional name is mentioned where it is a site, and a name that is left out is neither. -/
theorem sites_variableMentions (name? : Option Name) :
    (variableMentions name?).map Mention.site = variableSites name? := by
  cases name? <;> rfl

/-- The source of a declaration is mentioned where it is a site, in the only order that one string
has. -/
theorem sites_sourceMentions (source? : Option Quoted) :
    (sourceMentions source?).map Mention.site = sourceSites source? := by
  cases source? <;> rfl

/-- A name of an interface is mentioned as the site that it is, be it a word or a string. -/
theorem sites_interfaceName (part : String → Site) (name : InterfaceName) :
    (name.mentions part).map Mention.site = name.sites part := by
  cases name <;> rfl

/-- The specifiers of an import are walked in the order of the text, but in each the local name
may come before the imported one. -/
theorem turned_imports (specifiers : List ImportSpecifier) :
    Turned (specifiers.flatMap ImportSpecifier.turns) (specifiers.flatMap ImportSpecifier.mentions)
      (specifiers.flatMap ImportSpecifier.sites) := by
  induction specifiers with
  | nil => exact .same []
  | cons specifier rest inductionHypothesis =>
    simp only [List.flatMap_cons]
    refine Turned.append ?_ inductionHypothesis
    cases specifier with
    | defaultValue name => exact .same [name.mention .variable]
    | wholeInterface name => exact .same [name.mention .variable]
    | item name imported? =>
      cases imported? with
      | none => exact .same [name.mention .variable]
      | some imported =>
        have turned := Turned.turn [] (.same (imported.mentions .imported))
          (.same [name.mention .variable])
        rwa [sites_interfaceName] at turned

/-- The specifiers of an export are walked as they are mentioned, with nothing turned around. -/
theorem sites_exports (specifiers : List ExportSpecifier) :
    (specifiers.flatMap ExportSpecifier.mentions).map Mention.site =
      specifiers.flatMap ExportSpecifier.sites := by
  rw [List.map_flatMap]
  congr
  funext specifier
  cases specifier with
  | wholeInterface name => exact sites_interfaceName _ name
  | item own exported? =>
    cases exported? with
    | none => exact sites_interfaceName _ own
    | some exported =>
      rw [ExportSpecifier.mentions, List.map_append, sites_interfaceName, sites_interfaceName]
      rfl

/-- A string alone between brackets plays another part, but stands in the same place. -/
theorem turned_index {index : Node} (turned : Turned index.turns index.mentions index.sites) :
    Turned index.turns
      (match subscriptLiteral? index with
        | some literal => [literal.mention .subscript]
        | none => index.mentions)
      (match subscriptString? index with
        | some value => [.subscript value]
        | none => index.sites) := by
  cases index with
  | string literal => exact .same [literal.mention .subscript]
  | _ => exact turned

mutual

/-- The walk over a node and its mentions agree but for the node's turns. -/
theorem Script.Node.turned : ∀ node : Node, Turned node.turns node.mentions node.sites
  | .word _ | .privateName _ | .number .. | .bigint .. | .regex _ | .hole => .same []
  | .identifier name => .same [name.mention .variable]
  | .string literal => .same [literal.mention .literal]
  | .template _ values => turned_nodes values
  | .tagged tag _ values => tag.turned.append (turned_nodes values)
  | .array elements _ => turned_nodes elements
  | .object _ properties _ => turned_nodes properties
  | .function _ name? params body => by
    have parts := (turned_nodes params).append (turned_nodes body)
    have whole := parts.behind (variableMentions name?)
    rwa [sites_variableMentions, ← List.append_assoc, ← List.append_assoc] at whole
  | .classExpression name? parent? members => by
    have whole := Turned.turn (variableMentions name?) (turned_some parent?) (turned_nodes members)
    rwa [sites_variableMentions] at whole
  | .unary _ operand => operand.turned
  | .update _ _ operand => operand.turned
  | .binary _ left right => left.turned.append right.turned
  | .assign _ _ target value => target.turned.append value.turned
  | .conditional test consequent alternate =>
    (test.turned.append consequent.turned).append alternate.turned
  | .sequence items => turned_nodes items
  | .arrow _ params body => (turned_nodes params).append body.turned
  | .yield _ argument? => turned_some argument?
  | .await argument => argument.turned
  | .paren _ inner => inner.turned
  | .member _ host name _ => host.turned.before [name.mention .name]
  | .privateMember host _ _ => host.turned
  | .subscript _ host _ index _ => host.turned.append (turned_index index.turned)
  | .call _ callee items _ => callee.turned.append (turned_nodes items)
  | .new callee items _ => callee.turned.append (turned_nodes items)
  | .spread argument => argument.turned
  | .keyName name => .same [name.mention .name]
  | .keyString literal => .same [literal.mention .key]
  | .computed _ expression => expression.turned
  | .property key value => key.turned.append value.turned
  | .shorthand _ name default? => (turned_some default?).behind [name.mention .shorthand]
  | .defaulted _ name value => value.turned.behind [name.mention .variable]
  | .objectMethod _ _ key params body =>
    (key.turned.append (turned_nodes params)).append (turned_nodes body)
  | .classMethod _ _ _ key params body =>
    (key.turned.append (turned_nodes params)).append (turned_nodes body)
  | .classConstructor key params body =>
    (key.turned.append (turned_nodes params)).append (turned_nodes body)
  | .field _ key value? => key.turned.append (turned_some value?)
  | .staticBlock body => turned_nodes body
  | .emptyMember => .same []
  | .arrayPattern elements => turned_nodes elements
  | .objectPattern _ properties => turned_nodes properties
  | .defaultPattern _ target value => target.turned.append value.turned
  | .rest argument => argument.turned
  | .expressionStatement _ expression => expression.turned
  | .block body => turned_nodes body
  | .empty | .debugger => .same []
  | .withStatement subject body => subject.turned.append body.turned
  | .returnStatement argument? => turned_some argument?
  | .labeled label body => body.turned.behind [label.mention .variable]
  | .breakStatement label? => by
    have whole := Turned.same (variableMentions label?)
    rwa [sites_variableMentions] at whole
  | .continueStatement label? => by
    have whole := Turned.same (variableMentions label?)
    rwa [sites_variableMentions] at whole
  | .ifStatement test consequent alternate? =>
    (test.turned.append consequent.turned).append (turned_some alternate?)
  | .switchStatement discriminant cases => discriminant.turned.append (turned_nodes cases)
  | .switchCase test? body => (turned_some test?).append (turned_nodes body)
  | .throwStatement argument => argument.turned
  | .tryStatement body handler? finalizer? =>
    ((turned_nodes body).append (turned_some handler?)).append (turned_some finalizer?)
  | .catchClause param? body => (turned_some param?).append (turned_nodes body)
  | .whileStatement test body => test.turned.append body.turned
  | .doWhile body test => .turn [] body.turned test.turned
  | .forStatement start? test? step? body =>
    (((turned_some start?).append (turned_some test?)).append (turned_some step?)).append body.turned
  | .forIn target subject body => (target.turned.append subject.turned).append body.turned
  | .forOf _ target subject body => (target.turned.append subject.turned).append body.turned
  | .variables _ _ declarators => turned_nodes declarators
  | .declarator _ target value? => target.turned.append (turned_some value?)
  | .functionDeclaration _ name params body =>
    ((turned_nodes params).append (turned_nodes body)).behind [name.mention .variable]
  | .classDeclaration name parent? members =>
    .turn [name.mention .variable] (turned_some parent?) (turned_nodes members)
  | .importDeclaration _ specifiers source =>
    (turned_imports specifiers).before [source.mention .imported]
  | .exportDeclaration declaration => declaration.turned
  | .exportNamed specifiers source? => by
    have whole := Turned.same (specifiers.flatMap ExportSpecifier.mentions ++ sourceMentions source?)
    rwa [List.map_append, sites_exports, sites_sourceMentions] at whole
  | .exportDefault value => value.turned
  | .exportAll source => .same [source.mention .literal]

/-- Over a list of nodes the walk turns around what it turns around in each of them, and the nodes
stay in order. -/
theorem turned_nodes : ∀ nodes : List Node,
    Turned (turnsOf nodes) (mentionsOf nodes) (sitesOf nodes)
  | [] => .same []
  | node :: rest => node.turned.append (turned_nodes rest)

/-- Over a node that may be missing the walk is that of the node, or empty. -/
theorem turned_some : ∀ node? : Option Node,
    Turned (turnsOfSome node?) (mentionsOfSome node?) (sitesOfSome node?)
  | none => .same []
  | some node => node.turned

end

end Trees

/-- The walk over a program and its mentions agree but for the program's turns. -/
theorem Script.Program.turned (program : Program) :
    Turned program.turns program.mentions program.sites :=
  turned_nodes program.items

/-- A program mentions what stands at its sites, each as often, though in the order of the text
and not in that of the walk. -/
theorem Script.Program.perm_mentions (program : Program) :
    (program.mentions.map Mention.site).Perm program.sites :=
  program.turned.perm

end PropertyMangling
