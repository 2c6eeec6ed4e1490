import PropertyMangling.Property.Site
import PropertyMangling.Script.Pattern
/-!
# Names and strings in the order of the text

`Node.mentions` lists what `Node.sites` lists, together with where it is written,
and in the order of the text throughout: the parent of a class comes before its
members, the body of a do-while loop before its test, and the name of an imported
item before its variable. Turning an expression into a pattern changes the parts that
names play, but neither what is written nor where.
-/
namespace PropertyMangling

open Script

/-- A name or string of a program, with the part it plays and where it is written. -/
structure Mention where
  span : Span
  site : Site
deriving DecidableEq, Repr

/-- What is written at a site: a name, or a string of some value. -/
inductive Wording where
  | word (text : String)
  | quoted (value : String)
deriving DecidableEq, Repr

/-- What is written somewhere, whatever part it plays. -/
structure Saying where
  span : Span
  wording : Wording
deriving DecidableEq, Repr

/-- What is written at a site, as a word or between quotes. -/
def Site.wording : Site → Wording
  | .name text | .shorthand text | .variable text => .word text
  | .subscript value | .key value | .literal value | .imported value => .quoted value

/-- What a mention says and where, whatever part it plays. -/
def Mention.saying (mention : Mention) : Saying := ⟨mention.span, mention.site.wording⟩

/-- What is written at mentions, one after the other. -/
def sayings (mentions : List Mention) : List Saying := mentions.map Mention.saying

/-- What two lists of mentions say together is what the first says and then what the second
does. -/
theorem sayings_append (first second : List Mention) :
    sayings (first ++ second) = sayings first ++ sayings second :=
  List.map_append

namespace Script

/-- The mention of a name, given the part that it plays. -/
def Name.mention (part : String → Site) (name : Name) : Mention := ⟨name.span, part name.text⟩

/-- The mention of a string, given the part that it plays. -/
def Quoted.mention (part : String → Site) (literal : Quoted) : Mention :=
  ⟨literal.span, part literal.value⟩

/-- The mentions of a name in a module's interface, given the part that a string plays there. -/
def InterfaceName.mentions (part : String → Site) : InterfaceName → List Mention
  | .name word => [word.mention .variable]
  | .string literal => [literal.mention part]

/-- The mentions of what an import declaration binds. -/
def ImportSpecifier.mentions : ImportSpecifier → List Mention
  | .defaultValue name => [name.mention .variable]
  | .wholeInterface name => [name.mention .variable]
  | .item name none => [name.mention .variable]
  | .item name (some imported) => imported.mentions .imported ++ [name.mention .variable]

/-- The mentions of what an export declaration gives to other modules. -/
def ExportSpecifier.mentions : ExportSpecifier → List Mention
  | .item own none => own.mentions .literal
  | .item own (some exported) => own.mentions .literal ++ exported.mentions .literal
  | .wholeInterface name => name.mentions .literal

/-- The mention of the module that a declaration names. -/
def sourceMentions : Option Quoted → List Mention
  | none => []
  | some source => [source.mention .literal]

/-- The mention of the variable that a name stands for. -/
def variableMentions : Option Name → List Mention
  | none => []
  | some name => [name.mention .variable]

/-- The literal that stands alone between brackets, if the index is one. -/
def subscriptLiteral? : Node → Option Quoted
  | .string literal => some literal
  | _ => none

mutual

/-- The mentions in a node, in the order of the text. -/
def Node.mentions : Node → List Mention
  | .word _ | .privateName _ | .number .. | .bigint .. | .regex _ | .hole => []
  | .identifier name => [name.mention .variable]
  | .string literal => [literal.mention .literal]
  | .template _ values => mentionsOf values
  | .tagged tag _ values => tag.mentions ++ mentionsOf values
  | .array elements _ => mentionsOf elements
  | .object _ properties _ => mentionsOf properties
  | .function _ name? params body => variableMentions name? ++ mentionsOf params ++ mentionsOf body
  | .classExpression name? parent? members =>
    variableMentions name? ++ mentionsOfSome parent? ++ mentionsOf members
  | .unary _ operand => operand.mentions
  | .update _ _ operand => operand.mentions
  | .binary _ left right => left.mentions ++ right.mentions
  | .assign _ _ target value => target.mentions ++ value.mentions
  | .conditional test consequent alternate =>
    test.mentions ++ consequent.mentions ++ alternate.mentions
  | .sequence items => mentionsOf items
  | .arrow _ params body => mentionsOf params ++ body.mentions
  | .yield _ argument? => mentionsOfSome argument?
  | .await argument => argument.mentions
  | .paren _ inner => inner.mentions
  | .member _ host name _ => host.mentions ++ [name.mention .name]
  | .privateMember host _ _ => host.mentions
  | .subscript _ host _ index _ =>
    host.mentions ++ match subscriptLiteral? index with
      | some literal => [literal.mention .subscript]
      | none => index.mentions
  | .call _ callee items _ => callee.mentions ++ mentionsOf items
  | .new callee items _ => callee.mentions ++ mentionsOf items
  | .spread argument => argument.mentions
  | .keyName name => [name.mention .name]
  | .keyString literal => [literal.mention .key]
  | .computed _ expression => expression.mentions
  | .property key value => key.mentions ++ value.mentions
  | .shorthand _ name default? => [name.mention .shorthand] ++ mentionsOfSome default?
  | .defaulted _ name value => [name.mention .variable] ++ value.mentions
  | .objectMethod _ _ key params body => key.mentions ++ mentionsOf params ++ mentionsOf body
  | .classMethod _ _ _ key params body => key.mentions ++ mentionsOf params ++ mentionsOf body
  | .classConstructor key params body => key.mentions ++ mentionsOf params ++ mentionsOf body
  | .field _ key value? => key.mentions ++ mentionsOfSome value?
  | .staticBlock body => mentionsOf body
  | .emptyMember => []
  | .arrayPattern elements => mentionsOf elements
  | .objectPattern _ properties => mentionsOf properties
  | .defaultPattern _ target value => target.mentions ++ value.mentions
  | .rest argument => argument.mentions
  | .expressionStatement _ expression => expression.mentions
  | .block body => mentionsOf body
  | .empty | .debugger => []
  | .withStatement subject body => subject.mentions ++ body.mentions
  | .returnStatement argument? => mentionsOfSome argument?
  | .labeled label body => [label.mention .variable] ++ body.mentions
  | .breakStatement label? => variableMentions label?
  | .continueStatement label? => variableMentions label?
  | .ifStatement test consequent alternate? =>
    test.mentions ++ consequent.mentions ++ mentionsOfSome alternate?
  | .switchStatement discriminant cases => discriminant.mentions ++ mentionsOf cases
  | .switchCase test? body => mentionsOfSome test? ++ mentionsOf body
  | .throwStatement argument => argument.mentions
  | .tryStatement body handler? finalizer? =>
    mentionsOf body ++ mentionsOfSome handler? ++ mentionsOfSome finalizer?
  | .catchClause param? body => mentionsOfSome param? ++ mentionsOf body
  | .whileStatement test body => test.mentions ++ body.mentions
  | .doWhile body test => body.mentions ++ test.mentions
  | .forStatement start? test? step? body =>
    mentionsOfSome start? ++ mentionsOfSome test? ++ mentionsOfSome step? ++ body.mentions
  | .forIn target subject body => target.mentions ++ subject.mentions ++ body.mentions
  | .forOf _ target subject body => target.mentions ++ subject.mentions ++ body.mentions
  | .variables _ _ declarators => mentionsOf declarators
  | .declarator _ target value? => target.mentions ++ mentionsOfSome value?
  | .functionDeclaration _ name params body =>
    [name.mention .variable] ++ mentionsOf params ++ mentionsOf body
  | .classDeclaration name parent? members =>
    [name.mention .variable] ++ mentionsOfSome parent? ++ mentionsOf members
  | .importDeclaration _ specifiers source =>
    specifiers.flatMap ImportSpecifier.mentions ++ [source.mention .imported]
  | .exportDeclaration declaration => declaration.mentions
  | .exportNamed specifiers source? =>
    specifiers.flatMap ExportSpecifier.mentions ++ sourceMentions source?
  | .exportDefault value => value.mentions
  | .exportAll source => [source.mention .literal]

/-- The mentions in nodes, one after the other. -/
def mentionsOf : List Node → List Mention
  | [] => []
  | node :: rest => node.mentions ++ mentionsOf rest

/-- The mentions in a node that may be left out. -/
def mentionsOfSome : Option Node → List Mention
  | none => []
  | some node => node.mentions

end

/-- The mentions in a program. -/
def Program.mentions (program : Program) : List Mention := mentionsOf program.items

/-- Mentioning goes through lists of nodes that stand behind one another in their order. -/
theorem mentionsOf_append (first second : List Node) :
    mentionsOf (first ++ second) = mentionsOf first ++ mentionsOf second := by
  induction first with
  | nil => rfl
  | cons node rest inductionHypothesis =>
    rw [List.cons_append, mentionsOf, inductionHypothesis, mentionsOf, List.append_assoc]

/-- One node behind others, which are listed last first as repetitions gather them, is mentioned
last. -/
theorem mentionsOf_reverse_cons (node : Node) (others : List Node) :
    mentionsOf (node :: others).reverse = mentionsOf others.reverse ++ node.mentions := by
  rw [List.reverse_cons, mentionsOf_append, mentionsOf, mentionsOf, List.append_nil]

/-- A list of a single node mentions what that node does. -/
theorem mentionsOf_singleton (node : Node) : mentionsOf [node] = node.mentions :=
  List.append_nil _

/-- What is written between brackets does not depend on the part that a string plays there. -/
theorem sayings_subscript (span : Span) (host : Node) (bracket : Span) (index : Node)
    (optional : Bool) : sayings (Node.subscript span host bracket index optional).mentions =
      sayings (host.mentions ++ index.mentions) := by
  rw [Node.mentions, sayings_append, sayings_append]
  cases index <;> rfl

/-! ## Patterns -/

/-- No hole mentions anything, so that dropping the last ones of an array changes no mention. -/
theorem mentionsOf_dropTrailingHoles (elements : List Node) :
    mentionsOf (dropTrailingHoles elements) = mentionsOf elements := by
  have dropped (elements : List Node) :
      mentionsOf (elements.dropWhile Node.isHole).reverse = mentionsOf elements.reverse := by
    induction elements with
    | nil => rfl
    | cons element rest inductionHypothesis =>
      rw [List.dropWhile_cons]
      split
      · next isHole =>
        cases element <;> cases isHole
        rw [inductionHypothesis, mentionsOf_reverse_cons, Node.mentions, List.append_nil]
      · rfl
  rw [dropTrailingHoles, dropped, List.reverse_reverse]

mutual

/-- A pattern says what the expression says that it is read from. -/
theorem sayings_toPattern? {binding : Bool} : ∀ {node pattern : Node},
    node.toPattern? binding = some pattern → sayings pattern.mentions = sayings node.mentions
  | .identifier name, pattern, turned => by
    obtain rfl := Option.some.inj turned
    rfl
  | .member .., pattern, turned
  | .privateMember .., pattern, turned
  | .subscript .., pattern, turned => by
    simp only [Node.toPattern?] at turned
    split at turned
    · cases turned
    · obtain rfl := Option.some.inj turned
      rfl
  | .paren span inner, pattern, turned => by
    simp only [Node.toPattern?] at turned
    split at turned
    · obtain rfl := Option.some.inj turned
      rfl
    · cases turned
  | .assign span none target value, pattern, turned => by
    simp only [Node.toPattern?] at turned
    split at turned
    · cases turned
    · obtain rfl := Option.some.inj turned
      rfl
  | .array elements trailing, pattern, turned => by
    simp only [Node.toPattern?] at turned
    obtain ⟨patterns, read, same⟩ := Option.bind_eq_some_iff.mp turned
    obtain rfl := Option.some.inj same
    change sayings (mentionsOf (dropTrailingHoles patterns)) = sayings (mentionsOf elements)
    rw [mentionsOf_dropTrailingHoles]
    exact sayings_elementsToPattern? read
  | .object span properties trailing, pattern, turned => by
    simp only [Node.toPattern?] at turned
    obtain ⟨patterns, read, same⟩ := Option.bind_eq_some_iff.mp turned
    obtain rfl := Option.some.inj same
    change sayings (mentionsOf patterns) = sayings (mentionsOf properties)
    exact sayings_propertiesToPattern? read
termination_by node => sizeOf node

/-- Patterns in brackets say what the elements say that they are read from. -/
theorem sayings_elementsToPattern? {binding trailing : Bool} : ∀ {nodes patterns : List Node},
    elementsToPattern? binding trailing nodes = some patterns →
    sayings (mentionsOf patterns) = sayings (mentionsOf nodes)
  | [], patterns, turned => by
    obtain rfl := Option.some.inj turned
    rfl
  | node :: others, patterns, turned => by
    unfold elementsToPattern? at turned
    split at turned
    · next impossible => cases impossible
    · next same =>
      obtain ⟨rfl, rfl⟩ := List.cons.inj same
      obtain ⟨rest, read, same⟩ := Option.bind_eq_some_iff.mp turned
      obtain rfl := Option.some.inj same
      change sayings (mentionsOf rest) = sayings (mentionsOf others)
      exact sayings_elementsToPattern? read
    · next target last same =>
      obtain ⟨rfl, rfl⟩ := List.cons.inj same
      obtain ⟨turnedTarget, read, same⟩ := Option.bind_eq_some_iff.mp turned
      split at same
      · next alone =>
        obtain rfl := Option.some.inj same
        simp only [Bool.and_eq_true, List.isEmpty_iff] at alone
        obtain ⟨⟨rfl, -⟩, -⟩ := alone
        rw [mentionsOf_singleton, mentionsOf_singleton, Node.mentions, Node.mentions]
        exact sayings_toPattern? read
      · cases same
    · next same =>
      obtain ⟨rfl, rfl⟩ := List.cons.inj same
      obtain ⟨first, read, same⟩ := Option.bind_eq_some_iff.mp turned
      obtain ⟨rest, readRest, same⟩ := Option.bind_eq_some_iff.mp same
      obtain rfl := Option.some.inj same
      rw [mentionsOf, mentionsOf, sayings_append, sayings_append, sayings_toPattern? read,
        sayings_elementsToPattern? readRest]
termination_by nodes => sizeOf nodes

/-- Patterns in braces say what the properties say that they are read from. -/
theorem sayings_propertiesToPattern? {binding trailing : Bool} : ∀ {nodes patterns : List Node},
    propertiesToPattern? binding trailing nodes = some patterns →
    sayings (mentionsOf patterns) = sayings (mentionsOf nodes)
  | [], patterns, turned => by
    obtain rfl := Option.some.inj turned
    rfl
  | node :: others, patterns, turned => by
    unfold propertiesToPattern? at turned
    split at turned
    · next impossible => cases impossible
    · next same =>
      obtain ⟨rfl, rfl⟩ := List.cons.inj same
      obtain ⟨target, read, same⟩ := Option.bind_eq_some_iff.mp turned
      obtain ⟨rest, readRest, same⟩ := Option.bind_eq_some_iff.mp same
      obtain rfl := Option.some.inj same
      simp only [mentionsOf, Node.mentions, sayings_append, sayings_toPattern? read,
        sayings_propertiesToPattern? readRest]
    · next same =>
      obtain ⟨rfl, rfl⟩ := List.cons.inj same
      obtain ⟨rest, read, same⟩ := Option.bind_eq_some_iff.mp turned
      obtain rfl := Option.some.inj same
      rw [mentionsOf, mentionsOf, sayings_append, sayings_append, sayings_propertiesToPattern? read]
    · next same =>
      obtain ⟨rfl, rfl⟩ := List.cons.inj same
      obtain ⟨rest, read, same⟩ := Option.bind_eq_some_iff.mp turned
      obtain rfl := Option.some.inj same
      rw [mentionsOf, mentionsOf, sayings_append, sayings_append, sayings_propertiesToPattern? read]
      rfl
    · next same =>
      obtain ⟨rfl, rfl⟩ := List.cons.inj same
      obtain ⟨target, read, same⟩ := Option.bind_eq_some_iff.mp turned
      split at same
      · next alone =>
        obtain rfl := Option.some.inj same
        simp only [Bool.and_eq_true, List.isEmpty_iff] at alone
        obtain ⟨⟨⟨rfl, -⟩, -⟩, -⟩ := alone
        rw [mentionsOf_singleton, mentionsOf_singleton, Node.mentions, Node.mentions]
        exact sayings_toPattern? read
      · cases same
    · cases turned
termination_by nodes => sizeOf nodes

end

end Script

end PropertyMangling
