import PropertyMangling.Property.Site
/-!
# What a program says

Two programs say the same when they differ in nothing but where their parts
stand, how their literals are quoted or spelled, and whether a comma or an empty
list of arguments is written where it may be left out.
-/
namespace PropertyMangling.Script

/-- The place of what has been taken out of its text. -/
def nowhere : Span := ⟨0, 0⟩

/-- The text of a name alone. -/
def Name.bare (name : Name) : Name := ⟨nowhere, name.text⟩

/-- The value of a string alone. -/
def Quoted.bare (literal : Quoted) : Quoted := ⟨nowhere, literal.value, none⟩

/-- What a name in a module's interface says. -/
def InterfaceName.bare : InterfaceName → InterfaceName
  | .name word => .name word.bare
  | .string literal => .string literal.bare

/-- What an import says. -/
def ImportSpecifier.bare : ImportSpecifier → ImportSpecifier
  | .defaultValue name => .defaultValue name.bare
  | .wholeInterface name => .wholeInterface name.bare
  | .item name imported? => .item name.bare (imported?.map InterfaceName.bare)

/-- What an export says. -/
def ExportSpecifier.bare : ExportSpecifier → ExportSpecifier
  | .item own exported? => .item own.bare (exported?.map InterfaceName.bare)
  | .wholeInterface name => .wholeInterface name.bare

mutual

/-- What a node says. -/
def Node.bare : Node → Node
  | .word word => .word word
  | .identifier name => .identifier name.bare
  | .privateName text => .privateName text
  | .number _ value _ => .number nowhere value ""
  | .bigint value _ => .bigint value ""
  | .regex source => .regex source
  | .string literal => .string literal.bare
  | .hole => .hole
  | .template texts values => .template texts (bareAll values)
  | .tagged tag texts values => .tagged tag.bare texts (bareAll values)
  | .array elements _ => .array (bareAll elements) false
  | .object _ properties _ => .object nowhere (bareAll properties) false
  | .function flavor name? params body =>
    .function flavor (name?.map Name.bare) (bareAll params) (bareAll body)
  | .classExpression name? parent? members =>
    .classExpression (name?.map Name.bare) (bareSome parent?) (bareAll members)
  | .unary op operand => .unary op operand.bare
  | .update increment before operand => .update increment before operand.bare
  | .binary op left right => .binary op left.bare right.bare
  | .assign _ op? target value => .assign nowhere op? target.bare value.bare
  | .conditional test consequent alternate => .conditional test.bare consequent.bare alternate.bare
  | .sequence items => .sequence (bareAll items)
  | .arrow isAsync params body => .arrow isAsync (bareAll params) body.bare
  | .yield delegate argument? => .yield delegate (bareSome argument?)
  | .await argument => .await argument.bare
  | .paren _ inner => .paren nowhere inner.bare
  | .member _ host name optional => .member nowhere host.bare name.bare optional
  | .privateMember host name optional => .privateMember host.bare name optional
  | .subscript _ host _ index optional => .subscript nowhere host.bare nowhere index.bare optional
  | .call _ callee items optional => .call nowhere callee.bare (bareAll items) optional
  | .new callee items _ => .new callee.bare (bareAll items) false
  | .spread argument => .spread argument.bare
  | .keyName name => .keyName name.bare
  | .keyString literal => .keyString literal.bare
  | .computed _ expression => .computed nowhere expression.bare
  | .property key value => .property key.bare value.bare
  | .shorthand _ name default? => .shorthand nowhere name.bare (bareSome default?)
  | .defaulted _ name value => .defaulted nowhere name.bare value.bare
  | .objectMethod kind flavor key params body =>
    .objectMethod kind flavor key.bare (bareAll params) (bareAll body)
  | .classMethod isStatic kind flavor key params body =>
    .classMethod isStatic kind flavor key.bare (bareAll params) (bareAll body)
  | .classConstructor key params body => .classConstructor key.bare (bareAll params) (bareAll body)
  | .field isStatic key value? => .field isStatic key.bare (bareSome value?)
  | .staticBlock body => .staticBlock (bareAll body)
  | .emptyMember => .emptyMember
  | .arrayPattern elements => .arrayPattern (bareAll elements)
  | .objectPattern _ properties => .objectPattern nowhere (bareAll properties)
  | .defaultPattern _ target value => .defaultPattern nowhere target.bare value.bare
  | .rest argument => .rest argument.bare
  | .expressionStatement _ expression => .expressionStatement nowhere expression.bare
  | .block body => .block (bareAll body)
  | .empty => .empty
  | .debugger => .debugger
  | .withStatement subject body => .withStatement subject.bare body.bare
  | .returnStatement argument? => .returnStatement (bareSome argument?)
  | .labeled label body => .labeled label.bare body.bare
  | .breakStatement label? => .breakStatement (label?.map Name.bare)
  | .continueStatement label? => .continueStatement (label?.map Name.bare)
  | .ifStatement test consequent alternate? =>
    .ifStatement test.bare consequent.bare (bareSome alternate?)
  | .switchStatement discriminant cases => .switchStatement discriminant.bare (bareAll cases)
  | .switchCase test? body => .switchCase (bareSome test?) (bareAll body)
  | .throwStatement argument => .throwStatement argument.bare
  | .tryStatement body handler? finalizer? =>
    .tryStatement (bareAll body) (bareSome handler?) (bareSome finalizer?)
  | .catchClause param? body => .catchClause (bareSome param?) (bareAll body)
  | .whileStatement test body => .whileStatement test.bare body.bare
  | .doWhile body test => .doWhile body.bare test.bare
  | .forStatement start? test? step? body =>
    .forStatement (bareSome start?) (bareSome test?) (bareSome step?) body.bare
  | .forIn target subject body => .forIn target.bare subject.bare body.bare
  | .forOf isAwait target subject body => .forOf isAwait target.bare subject.bare body.bare
  | .variables _ kind declarators => .variables nowhere kind (bareAll declarators)
  | .declarator _ target value? => .declarator nowhere target.bare (bareSome value?)
  | .functionDeclaration flavor name params body =>
    .functionDeclaration flavor name.bare (bareAll params) (bareAll body)
  | .classDeclaration name parent? members =>
    .classDeclaration name.bare (bareSome parent?) (bareAll members)
  | .importDeclaration phase specifiers source =>
    .importDeclaration phase (specifiers.map ImportSpecifier.bare) source.bare
  | .exportDeclaration declaration => .exportDeclaration declaration.bare
  | .exportNamed specifiers source? =>
    .exportNamed (specifiers.map ExportSpecifier.bare) (source?.map Quoted.bare)
  | .exportDefault value => .exportDefault value.bare
  | .exportAll source => .exportAll source.bare

/-- What nodes say, one by one. -/
def bareAll : List Node → List Node
  | [] => []
  | node :: rest => node.bare :: bareAll rest

/-- What a node says that may be left out. -/
def bareSome : Option Node → Option Node
  | none => none
  | some node => some node.bare

end

/-- What a program says: the line of its interpreter, and what its items say. -/
def Program.bare (program : Program) : Option String × List Node :=
  (program.interpreter?, bareAll program.items)

/-! ## The sites stay -/

/-- Without its place and its spelling a name still has its text. -/
theorem Name.text_bare (name : Name) : name.bare.text = name.text := rfl

/-- Without its place and its spelling a string still has its value. -/
theorem Quoted.value_bare (literal : Quoted) : literal.bare.value = literal.value := rfl

/-- The name of a function or a class is the same variable without its place and its spelling. -/
theorem variableSites_bare (name? : Option Name) :
    variableSites (name?.map Name.bare) = variableSites name? := by
  cases name? <;> rfl

/-- A name of an interface has the same sites without places, be it a word or a text. -/
theorem InterfaceName.sites_bare (part : String → Site) (name : InterfaceName) :
    name.bare.sites part = name.sites part := by
  cases name <;> rfl

/-- An import binds the same variable under the same name without places. -/
theorem ImportSpecifier.sites_bare (specifier : ImportSpecifier) :
    specifier.bare.sites = specifier.sites := by
  cases specifier with
  | item name imported? =>
    cases imported? with
    | none => rfl
    | some imported => exact congrArg (_ :: ·) (imported.sites_bare .imported)
  | _ => rfl

/-- An export has the same sites on both of its sides without places. -/
theorem ExportSpecifier.sites_bare (specifier : ExportSpecifier) :
    specifier.bare.sites = specifier.sites := by
  cases specifier with
  | item own exported? =>
    cases exported? with
    | none => exact own.sites_bare .literal
    | some exported =>
      have both : own.bare.sites .literal ++ exported.bare.sites .literal =
          own.sites .literal ++ exported.sites .literal := by
        rw [own.sites_bare, exported.sites_bare]
      exact both
  | wholeInterface name => exact name.sites_bare .literal

/-- The source of a module is the same string without its place, if there is one. -/
theorem sourceSites_bare (source? : Option Quoted) :
    sourceSites (source?.map Quoted.bare) = sourceSites source? := by
  cases source? <;> rfl

/-- Whether a subscript is a quoted string does not depend on its place, nor does the string. -/
theorem subscriptString?_bare (index : Node) : subscriptString? index.bare = subscriptString? index := by
  cases index <;> rfl

mutual

/-- A node says the same at the same sites without places and spellings. The proof follows the
constructors of nodes. -/
theorem Node.sites_bare : ∀ node : Node, node.bare.sites = node.sites
  | .word _ => rfl
  | .identifier _ => rfl
  | .privateName _ => rfl
  | .number .. => rfl
  | .bigint .. => rfl
  | .regex _ => rfl
  | .string _ => rfl
  | .hole => rfl
  | .template _ values => by simp only [Node.bare, Node.sites, sitesOf_bareAll values]
  | .tagged tag _ values => by
    simp only [Node.bare, Node.sites, tag.sites_bare, sitesOf_bareAll values]
  | .array elements _ => by simp only [Node.bare, Node.sites, sitesOf_bareAll elements]
  | .object _ properties _ => by simp only [Node.bare, Node.sites, sitesOf_bareAll properties]
  | .function _ _ params body => by
    simp only [Node.bare, Node.sites, sitesOf_bareAll params, sitesOf_bareAll body,
      variableSites_bare]
  | .classExpression _ parent? members => by
    simp only [Node.bare, Node.sites, sitesOfSome_bareSome parent?, sitesOf_bareAll members,
      variableSites_bare]
  | .unary _ operand => by simp only [Node.bare, Node.sites, operand.sites_bare]
  | .update _ _ operand => by simp only [Node.bare, Node.sites, operand.sites_bare]
  | .binary _ left right => by simp only [Node.bare, Node.sites, left.sites_bare, right.sites_bare]
  | .assign _ _ target value => by
    simp only [Node.bare, Node.sites, target.sites_bare, value.sites_bare]
  | .conditional test consequent alternate => by
    simp only [Node.bare, Node.sites, test.sites_bare, consequent.sites_bare, alternate.sites_bare]
  | .sequence items => by simp only [Node.bare, Node.sites, sitesOf_bareAll items]
  | .arrow _ params body => by
    simp only [Node.bare, Node.sites, sitesOf_bareAll params, body.sites_bare]
  | .yield _ argument? => by simp only [Node.bare, Node.sites, sitesOfSome_bareSome argument?]
  | .await argument => by simp only [Node.bare, Node.sites, argument.sites_bare]
  | .paren _ inner => by simp only [Node.bare, Node.sites, inner.sites_bare]
  | .member _ host _ _ => by simp only [Node.bare, Node.sites, host.sites_bare, Name.text_bare]
  | .privateMember host _ _ => by simp only [Node.bare, Node.sites, host.sites_bare]
  | .subscript _ host _ index _ => by
    simp only [Node.bare, Node.sites, host.sites_bare, subscriptString?_bare, index.sites_bare]
  | .call _ callee items _ => by
    simp only [Node.bare, Node.sites, callee.sites_bare, sitesOf_bareAll items]
  | .new callee items _ => by
    simp only [Node.bare, Node.sites, callee.sites_bare, sitesOf_bareAll items]
  | .spread argument => by simp only [Node.bare, Node.sites, argument.sites_bare]
  | .keyName _ => rfl
  | .keyString _ => rfl
  | .computed _ expression => by simp only [Node.bare, Node.sites, expression.sites_bare]
  | .property key value => by simp only [Node.bare, Node.sites, key.sites_bare, value.sites_bare]
  | .shorthand _ _ default? => by
    simp only [Node.bare, Node.sites, sitesOfSome_bareSome default?, Name.text_bare]
  | .defaulted _ _ value => by
    simp only [Node.bare, Node.sites, value.sites_bare, Name.text_bare]
  | .objectMethod _ _ key params body => by
    simp only [Node.bare, Node.sites, key.sites_bare, sitesOf_bareAll params, sitesOf_bareAll body]
  | .classMethod _ _ _ key params body => by
    simp only [Node.bare, Node.sites, key.sites_bare, sitesOf_bareAll params, sitesOf_bareAll body]
  | .classConstructor key params body => by
    simp only [Node.bare, Node.sites, key.sites_bare, sitesOf_bareAll params, sitesOf_bareAll body]
  | .field _ key value? => by
    simp only [Node.bare, Node.sites, key.sites_bare, sitesOfSome_bareSome value?]
  | .staticBlock body => by simp only [Node.bare, Node.sites, sitesOf_bareAll body]
  | .emptyMember => rfl
  | .arrayPattern elements => by simp only [Node.bare, Node.sites, sitesOf_bareAll elements]
  | .objectPattern _ properties => by simp only [Node.bare, Node.sites, sitesOf_bareAll properties]
  | .defaultPattern _ target value => by
    simp only [Node.bare, Node.sites, target.sites_bare, value.sites_bare]
  | .rest argument => by simp only [Node.bare, Node.sites, argument.sites_bare]
  | .expressionStatement _ expression => by simp only [Node.bare, Node.sites, expression.sites_bare]
  | .block body => by simp only [Node.bare, Node.sites, sitesOf_bareAll body]
  | .empty => rfl
  | .debugger => rfl
  | .withStatement subject body => by
    simp only [Node.bare, Node.sites, subject.sites_bare, body.sites_bare]
  | .returnStatement argument? => by
    simp only [Node.bare, Node.sites, sitesOfSome_bareSome argument?]
  | .labeled _ body => by simp only [Node.bare, Node.sites, body.sites_bare, Name.text_bare]
  | .breakStatement _ => by simp only [Node.bare, Node.sites, variableSites_bare]
  | .continueStatement _ => by simp only [Node.bare, Node.sites, variableSites_bare]
  | .ifStatement test consequent alternate? => by
    simp only [Node.bare, Node.sites, test.sites_bare, consequent.sites_bare,
      sitesOfSome_bareSome alternate?]
  | .switchStatement discriminant cases => by
    simp only [Node.bare, Node.sites, discriminant.sites_bare, sitesOf_bareAll cases]
  | .switchCase test? body => by
    simp only [Node.bare, Node.sites, sitesOfSome_bareSome test?, sitesOf_bareAll body]
  | .throwStatement argument => by simp only [Node.bare, Node.sites, argument.sites_bare]
  | .tryStatement body handler? finalizer? => by
    simp only [Node.bare, Node.sites, sitesOf_bareAll body, sitesOfSome_bareSome handler?,
      sitesOfSome_bareSome finalizer?]
  | .catchClause param? body => by
    simp only [Node.bare, Node.sites, sitesOfSome_bareSome param?, sitesOf_bareAll body]
  | .whileStatement test body => by
    simp only [Node.bare, Node.sites, test.sites_bare, body.sites_bare]
  | .doWhile body test => by simp only [Node.bare, Node.sites, body.sites_bare, test.sites_bare]
  | .forStatement start? test? step? body => by
    simp only [Node.bare, Node.sites, sitesOfSome_bareSome start?, sitesOfSome_bareSome test?,
      sitesOfSome_bareSome step?, body.sites_bare]
  | .forIn target subject body => by
    simp only [Node.bare, Node.sites, target.sites_bare, subject.sites_bare, body.sites_bare]
  | .forOf _ target subject body => by
    simp only [Node.bare, Node.sites, target.sites_bare, subject.sites_bare, body.sites_bare]
  | .variables _ _ declarators => by simp only [Node.bare, Node.sites, sitesOf_bareAll declarators]
  | .declarator _ target value? => by
    simp only [Node.bare, Node.sites, target.sites_bare, sitesOfSome_bareSome value?]
  | .functionDeclaration _ _ params body => by
    simp only [Node.bare, Node.sites, sitesOf_bareAll params, sitesOf_bareAll body, Name.text_bare]
  | .classDeclaration _ parent? members => by
    simp only [Node.bare, Node.sites, sitesOfSome_bareSome parent?, sitesOf_bareAll members,
      Name.text_bare]
  | .importDeclaration .. => by
    simp only [Node.bare, Node.sites, List.flatMap_map, ImportSpecifier.sites_bare, Quoted.value_bare]
  | .exportDeclaration declaration => by simp only [Node.bare, Node.sites, declaration.sites_bare]
  | .exportNamed .. => by
    simp only [Node.bare, Node.sites, List.flatMap_map, ExportSpecifier.sites_bare, sourceSites_bare]
  | .exportDefault value => by simp only [Node.bare, Node.sites, value.sites_bare]
  | .exportAll _ => rfl

/-- A list of nodes has the same sites without places; this is the case of lists in the mutual
induction. -/
theorem sitesOf_bareAll : ∀ nodes : List Node, sitesOf (bareAll nodes) = sitesOf nodes
  | [] => rfl
  | node :: rest => by simp only [bareAll, sitesOf, node.sites_bare, sitesOf_bareAll rest]

/-- A part that may be missing has the same sites without places; this is the case of optional
parts in the mutual induction. -/
theorem sitesOfSome_bareSome :
    ∀ node? : Option Node, sitesOfSome (bareSome node?) = sitesOfSome node?
  | none => rfl
  | some node => node.sites_bare

end

/-- Programs that say the same have the same sites, since sites are read off without places and
spellings. -/
theorem Program.sites_eq_of_bare {first second : Program} (same : first.bare = second.bare) :
    first.sites = second.sites := by
  have items : bareAll first.items = bareAll second.items := congrArg Prod.snd same
  rw [Program.sites, Program.sites, ← sitesOf_bareAll, items, sitesOf_bareAll]

end PropertyMangling.Script
