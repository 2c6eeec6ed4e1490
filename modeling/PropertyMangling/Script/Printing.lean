import PropertyMangling.Script.Edge
import PropertyMangling.Script.Literal
/-!
# Printing programs

Parentheses are nodes, so printing adds none. Each node gives its marks; lists
and nodes that may be left out have functions of their own. A statement's
semicolon and the line end behind it belong to the place where it stands, not to
the statement: the head of a loop prints the same declaration without them.
-/
namespace PropertyMangling.Script

/-- What the place of a statement adds behind it. -/
def closing (style : Style) (statement : Node) : List Mark :=
  (if statement.isVariables then txt ";" else []) ++
    (if statement.isBlock then [] else style.newLine)

/-- The space in front of a name that may be left out, and the name. -/
def nameMarks (lead : List Mark) : Option Name → List Mark
  | none => []
  | some name => lead ++ txt name.text

/-- Items with commas between them, on one line. -/
def commaMarks (style : Style) (items : List (List Mark)) : List Mark :=
  sepBy (txt "," ++ style.gap) items

/-- Items with commas between them, on a line each for reading. -/
def columnMarks (style : Style) (items : List (List Mark)) (lastIsHole : Bool) : List Mark :=
  match items with
  | [] => []
  | items =>
    let after := if lastIsHole then txt "," ++ style.gap else []
    Style.indented (style.newLine ++ sepBy (txt "," ++ style.newLine) items ++ after) ++ style.newLine

/-- Statements in a block, braces included. -/
def blockMarks (style : Style) (statements : List (List Mark)) : List Mark :=
  match statements with
  | [] => txt "\x7b\x7d"
  | statements =>
    txt "\x7b" ++ Style.indented (style.newLine ++ sepBy style.newLine statements) ++ style.newLine ++
      txt "\x7d"

/-- The members of a class, braces included. -/
def classBodyMarks (style : Style) (members : List (List Mark)) : List Mark :=
  txt "\x7b" ++ Style.indented (style.newLine ++ sepBy style.newLine members) ++ style.newLine ++ txt "\x7d"

/-- Names between braces. -/
def bracedNames (style : Style) (names : List (List Mark)) : List Mark :=
  txt "\x7b" ++ style.gap ++ commaMarks style names ++ (if names.isEmpty then [] else style.gap) ++ txt "\x7d"

/-- The texts and values of a template in turn. -/
def templateMarks : List String → List (List Mark) → List Mark
  | [], _ => []
  | text :: texts, values =>
    match values with
    | [] => txt text ++ templateMarks texts []
    | value :: values => txt text ++ txt "$\x7b" ++ value ++ txt "\x7d" ++ templateMarks texts values

/-- The words in front of a method's key. -/
def methodLead (style : Style) (kind : MethodKind) (flavor : Flavor) (key : Node) : List Mark :=
  match kind with
  | .method =>
    (if flavor.isAsync then txt "async " else []) ++ (if flavor.isGenerator then txt "*" else [])
  | .getter => txt "get" ++ style.gapBefore (key.isWordKey || key.isPrivateName)
  | .setter => txt "set" ++ style.gapBefore (key.isWordKey || key.isPrivateName)

/-- The word `static` with the space behind it. -/
def staticLead (style : Style) (kind : MethodKind) (flavor : Flavor) (key : Node) : List Mark :=
  let joins := key.isPrivateName || kind != .method || flavor.isAsync ||
    (!flavor.isGenerator && key.isWordKey)
  txt "static" ++ style.gapBefore joins

/-- The word that opens a function, with the star of a generator. -/
def functionLead (flavor : Flavor) : List Mark :=
  (if flavor.isAsync then txt "async " else []) ++ txt "function" ++
    (if flavor.isGenerator then txt "*" else [])

/-- The single parameter of an arrow function that needs no parentheses. -/
def isBareParameter : List Node → Bool
  | [.identifier _] => true
  | _ => false

/-- What stands in front of the item behind a word. -/
def wordGap (style : Style) (item : Node) : List Mark := style.gapBefore item.startsWithWord

/-- The space that keeps a word from what stands in front of it. -/
def gapAfter (style : Style) (item : Node) : List Mark := style.gapBefore item.endsWithWord

/-- The marks between two operands. -/
def operatorMarks (style : Style) (op : BinaryOp) (left right : Node) : List Mark :=
  let before := if op.isWord then left.endsWithWord else op.follows left
  let after := if op.isWord then right.startsWithWord else op.meets right
  style.gapBefore before ++ txt op.text ++ style.gapBefore after

/-- The marks between a sign or a word and its operand. -/
def unaryGap (style : Style) (op : UnaryOp) (operand : Node) : List Mark :=
  if op.isWord then wordGap style operand
  else if op.meets operand then txt " "
  else []

/-- The second point behind a whole number. -/
def secondPoint (style : Style) : Node → List Mark
  | .number _ value source => if needsPoint style value source then txt "." else []
  | _ => []

/-- The point of a member. -/
def pointMarks (style : Style) (host : Node) (optional : Bool) : List Mark :=
  if optional then txt "?." else secondPoint style host ++ txt "."

/-- The word for the phase of an import. -/
def phaseMarks (phase : ImportPhase) : List Mark := phase.text?.elim [] fun text => txt " " ++ txt text

/-- A name in the interface of a module. -/
def interfaceMarks (style : Style) : InterfaceName → List Mark
  | .name name => txt name.text
  | .string literal => txt (literal.print style)

/-- What an imported item was called where it comes from. -/
def aliasMarks (style : Style) : Option InterfaceName → List Mark
  | none => []
  | some name => interfaceMarks style name ++ txt " as "

/-- One specifier of an import. -/
def importSpecifierMarks (style : Style) : ImportSpecifier → List Mark
  | .defaultValue name => txt name.text
  | .wholeInterface name => txt "*" ++ style.gap ++ txt "as " ++ txt name.text
  | .item name imported? => aliasMarks style imported? ++ txt name.text

/-- Whether a specifier stands between the braces of its import. -/
def isImportedItem : ImportSpecifier → Bool
  | .item .. => true
  | _ => false

/-- The specifiers of an import between its word and its module. -/
def importMarks (style : Style) (specifiers : List ImportSpecifier) : List Mark :=
  let marksOf := fun (specifiers : List ImportSpecifier) =>
    specifiers.map (importSpecifierMarks style)
  let leading := marksOf (specifiers.filter fun specifier => !isImportedItem specifier)
  let named := marksOf (specifiers.filter isImportedItem)
  let startsWithName := match specifiers with
    | .defaultValue _ :: _ => true
    | _ => false
  let lead := style.gapBefore startsWithName ++ commaMarks style leading
  if specifiers.isEmpty then style.gap
  else if named.isEmpty then lead ++ txt " from" ++ style.gap
  else
    lead ++ (if leading.isEmpty then [] else txt "," ++ style.gap) ++ bracedNames style named ++
      style.gap ++ txt "from" ++ style.gap

/-- Where an exported group comes from. -/
def exportSourceMarks (style : Style) (lead : List Mark) : Option Quoted → List Mark
  | none => []
  | some source => lead ++ txt "from" ++ style.gap ++ txt (source.print style)

/-- Whether specifiers are the whole interface of another module under one name. -/
def isInterfaceExport : List ExportSpecifier → Bool
  | [.wholeInterface _] => true
  | _ => false

/-- What an exported item is called by other modules, if that is another name. -/
def exportedMarks (style : Style) : Option InterfaceName → List Mark
  | none => []
  | some name => txt " as " ++ interfaceMarks style name

/-- One specifier of an export. -/
def exportSpecifierMarks (style : Style) : ExportSpecifier → List Mark
  | .item own exported? => interfaceMarks style own ++ exportedMarks style exported?
  | .wholeInterface name => txt "*" ++ style.gap ++ txt "as " ++ interfaceMarks style name

/-- Whether a value is exported as a declaration, which needs no semicolon. -/
def isDeclaredValue : Node → Bool
  | .function .. | .classExpression .. => true
  | _ => false

mutual

/-- The marks of a node. A node that something is taken from keeps its empty arguments. -/
def Node.marks (style : Style) (isHead : Bool) : Node → List Mark
  | .word word => txt word.text
  | .identifier name => txt name.text
  | .privateName text => txt "#" ++ txt text
  | .number _ value source => txt (printNumber style value source)
  | .bigint value source => txt (printBigint style value source)
  | .regex source => txt source
  | .string literal => txt (literal.print style)
  | .hole => []
  | .template texts values =>
    txt "`" ++ templateMarks (texts.map (printTemplateText style)) (eachMarks style values) ++ txt "`"
  | .tagged tag texts values =>
    tag.marks style true ++ txt "`" ++ templateMarks texts (eachMarks style values) ++ txt "`"
  | .array elements _ =>
    txt "[" ++ columnMarks style (eachMarks style elements) (elements.getLast?.any Node.isHole) ++ txt "]"
  | .object _ properties _ =>
    txt "\x7b" ++ columnMarks style (eachMarks style properties) false ++ txt "\x7d"
  | .function flavor name? params body =>
    functionLead flavor ++ nameMarks (txt " ") name? ++ txt "(" ++
      commaMarks style (eachMarks style params) ++ txt ")" ++ style.gap ++
      blockMarks style (eachStatement style body)
  | .classExpression name? parent? members =>
    txt "class" ++ nameMarks (txt " ") name? ++ parentMarks style parent? ++ style.gap ++
      classBodyMarks style (eachMarks style members)
  | .unary op operand => txt op.text ++ unaryGap style op operand ++ operand.marks style false
  | .update increment before operand =>
    let sign := txt (if increment then "++" else "--")
    if before then sign ++ operand.marks style false else operand.marks style false ++ sign
  | .binary op left right =>
    left.marks style false ++ operatorMarks style op left right ++ right.marks style false
  | .assign _ op? target value =>
    target.marks style false ++ style.gap ++ txt ((op?.elim "" BinaryOp.text) ++ "=") ++ style.gap ++
      value.marks style false
  | .conditional test consequent alternate =>
    test.marks style false ++ style.gap ++ txt "?" ++ style.gap ++ consequent.marks style false ++
      style.gap ++ txt ":" ++ style.gap ++ alternate.marks style false
  | .sequence items => commaMarks style (eachMarks style items)
  | .arrow isAsync params body =>
    let bare := isBareParameter params
    let list := commaMarks style (eachMarks style params)
    (if isAsync then txt "async" ++ style.gapBefore bare else []) ++
      (if bare && style = .compact then list else txt "(" ++ list ++ txt ")") ++ txt "=>" ++
      (if body.isBlock then body.marks style false else Style.indented (body.marks style false))
  | .yield delegate argument? =>
    txt (if delegate then "yield*" else "yield") ++
      someMarks style (fun item => if delegate then style.gap else wordGap style item) argument?
  | .await argument => txt "await " ++ argument.marks style false
  | .paren _ inner => txt "(" ++ inner.marks style false ++ txt ")"
  | .member _ host name optional =>
    host.marks style true ++ pointMarks style host optional ++ txt name.text
  | .privateMember host name optional =>
    host.marks style true ++ pointMarks style host optional ++ txt "#" ++ txt name
  | .subscript _ host _ index optional =>
    host.marks style true ++ (if optional then txt "?." else []) ++ txt "[" ++
      index.marks style false ++ txt "]"
  | .call _ callee items optional =>
    callee.marks style (!optional) ++ (if optional then txt "?." else []) ++ txt "(" ++
      commaMarks style (eachMarks style items) ++ txt ")"
  | .new callee items hasArguments =>
    let list := txt "(" ++ commaMarks style (eachMarks style items) ++ txt ")"
    let dropped := style = .compact && items.isEmpty && !isHead
    txt "new" ++ wordGap style callee ++ callee.marks style false ++
      (if hasArguments && !dropped then list else [])
  | .spread argument => txt "..." ++ argument.marks style false
  | .keyName name => txt name.text
  | .keyString literal => txt (literal.print style)
  | .computed _ expression => txt "[" ++ expression.marks style false ++ txt "]"
  | .property key value =>
    key.marks style false ++ txt ":" ++ style.gap ++ value.marks style false
  | .shorthand _ name default? =>
    txt name.text ++ someMarks style (fun _ => style.gap ++ txt "=" ++ style.gap) default?
  | .defaulted _ name value => txt name.text ++ txt "=" ++ value.marks style false
  | .objectMethod kind flavor key params body =>
    methodLead style kind flavor key ++ key.marks style false ++ style.gap ++ txt "(" ++
      commaMarks style (eachMarks style params) ++ txt ")" ++
      (if kind = .setter then [] else style.gap) ++ blockMarks style (eachStatement style body)
  | .classMethod isStatic kind flavor key params body =>
    (if isStatic then staticLead style kind flavor key else []) ++
      methodLead style kind flavor key ++ key.marks style false ++ txt "(" ++
      commaMarks style (eachMarks style params) ++ txt ")" ++ style.gap ++
      blockMarks style (eachStatement style body)
  | .classConstructor _ params body =>
    txt "constructor(" ++ commaMarks style (eachMarks style params) ++ txt ")" ++
      blockMarks style (eachStatement style body)
  | .field isStatic key value? =>
    (if isStatic then txt "static " else []) ++ key.marks style false ++
      someMarks style (fun _ => style.gap ++ txt "=" ++ style.gap) value? ++ txt ";"
  | .staticBlock body => txt "static" ++ blockMarks style (eachStatement style body)
  | .emptyMember => txt ";"
  | .arrayPattern elements => txt "[" ++ commaMarks style (eachMarks style elements) ++ txt "]"
  | .objectPattern _ properties =>
    if properties.isEmpty then txt "\x7b\x7d" else bracedNames style (eachMarks style properties)
  | .defaultPattern _ target value =>
    target.marks style false ++ style.gap ++ txt "=" ++ style.gap ++ value.marks style false
  | .rest argument => txt "..." ++ argument.marks style false
  | .expressionStatement _ expression => expression.marks style false ++ txt ";"
  | .block body => blockMarks style (eachStatement style body)
  | .empty => txt ";"
  | .debugger => txt "debugger;"
  | .withStatement subject body =>
    txt "with" ++ style.gap ++ txt "(" ++ subject.marks style false ++ txt ")" ++
      body.marks style false ++ closing style body
  | .returnStatement argument? =>
    txt "return" ++ someMarks style (wordGap style) argument? ++ txt ";"
  | .labeled label body =>
    txt label.text ++ txt ":" ++ style.gap ++ body.marks style false ++ closing style body
  | .breakStatement label? => txt "break" ++ nameMarks (txt " ") label? ++ txt ";"
  | .continueStatement label? => txt "continue" ++ nameMarks (txt " ") label? ++ txt ";"
  | .ifStatement test consequent alternate? =>
    txt "if" ++ style.gap ++ txt "(" ++ test.marks style false ++ txt ")" ++ style.gap ++
      consequent.marks style false ++ closing style consequent ++
      elseMarks style (if consequent.isBlock then style.gap else []) alternate?
  | .switchStatement discriminant cases =>
    txt "switch(" ++ discriminant.marks style false ++ txt ")" ++
      classBodyMarks style (eachMarks style cases)
  | .switchCase test? body =>
    caseMarks style test? ++ txt ":" ++
      Style.indented (style.newLine ++ sepBy style.newLine (eachStatement style body))
  | .throwStatement argument =>
    txt "throw" ++ wordGap style argument ++ argument.marks style false ++ txt ";"
  | .tryStatement body handler? finalizer? =>
    txt "try" ++ style.gap ++ blockMarks style (eachStatement style body) ++
      someMarks style (fun _ => style.gap) handler? ++
      someMarks style (fun _ => style.gap ++ txt "finally") finalizer?
  | .catchClause param? body =>
    txt "catch" ++ style.gap ++ parenMarks style param? ++ style.gap ++
      blockMarks style (eachStatement style body)
  | .whileStatement test body =>
    txt "while(" ++ test.marks style false ++ txt ")" ++ body.marks style false ++ closing style body
  | .doWhile body test =>
    txt "do" ++ wordGap style body ++ body.marks style false ++ closing style body ++ txt "while" ++
      style.gap ++ txt "(" ++ test.marks style false ++ txt ")"
  | .forStatement start? test? step? body =>
    txt "for(" ++ someMarks style (fun _ => []) start? ++ txt ";" ++
      someMarks style (fun _ => style.gap) test? ++ txt ";" ++
      someMarks style (fun _ => style.gap) step? ++ txt ")" ++ body.marks style false ++
      closing style body
  | .forIn target subject body =>
    txt "for(" ++ target.marks style false ++ gapAfter style target ++ txt "in" ++
      wordGap style subject ++ subject.marks style false ++ txt ")" ++ body.marks style false ++
      closing style body
  | .forOf isAwait target subject body =>
    txt (if isAwait then "for await" else "for") ++ style.gap ++ txt "(" ++
      target.marks style false ++ gapAfter style target ++ txt "of" ++ wordGap style subject ++
      subject.marks style false ++ txt ")" ++ body.marks style false ++ closing style body
  | .variables _ kind declarators =>
    txt kind.text ++
      style.gapBefore (match declarators with
        | .declarator _ (.identifier _) _ :: _ => true
        | _ => false) ++
      commaMarks style (eachMarks style declarators)
  | .declarator _ target value? =>
    target.marks style false ++ someMarks style (fun _ => style.gap ++ txt "=" ++ style.gap) value?
  | .functionDeclaration flavor name params body =>
    functionLead flavor ++ (if flavor.isGenerator then style.gap else txt " ") ++ txt name.text ++
      txt "(" ++ commaMarks style (eachMarks style params) ++ txt ")" ++ style.gap ++
      blockMarks style (eachStatement style body)
  | .classDeclaration name parent? members =>
    txt "class " ++ txt name.text ++ parentMarks style parent? ++ style.gap ++
      classBodyMarks style (eachMarks style members)
  | .importDeclaration phase specifiers source =>
    txt "import" ++ phaseMarks phase ++ importMarks style specifiers ++ txt (source.print style) ++
      txt ";"
  | .exportDeclaration declaration =>
    txt "export " ++ declaration.marks style false ++
      (if declaration.isVariables then txt ";" else [])
  | .exportNamed specifiers source? =>
    let items := specifiers.map (exportSpecifierMarks style)
    if isInterfaceExport specifiers then
      txt "export" ++ style.gap ++ commaMarks style items ++ exportSourceMarks style (txt " ") source? ++
        txt ";"
    else
      txt "export" ++ style.gap ++ bracedNames style items ++
        exportSourceMarks style style.gap source? ++ txt ";"
  | .exportDefault value =>
    if isDeclaredValue value then txt "export default " ++ value.marks style false
    else txt "export default" ++ wordGap style value ++ value.marks style false ++ txt ";"
  | .exportAll source =>
    txt "export" ++ style.gap ++ txt "*" ++ style.gap ++ txt "from" ++ style.gap ++
      txt (source.print style) ++ txt ";"

/-- The marks of each node of a list. -/
def eachMarks (style : Style) : List Node → List (List Mark)
  | [] => []
  | node :: rest => node.marks style false :: eachMarks style rest

/-- The marks of each statement of a list, with what its place adds behind it. -/
def eachStatement (style : Style) : List Node → List (List Mark)
  | [] => []
  | node :: rest => (node.marks style false ++ closing style node) :: eachStatement style rest

/-- The marks of a node that may be left out, behind a lead that the node decides. -/
def someMarks (style : Style) (lead : Node → List Mark) : Option Node → List Mark
  | none => []
  | some node => lead node ++ node.marks style false

/-- The other branch of a condition. -/
def elseMarks (style : Style) (lead : List Mark) : Option Node → List Mark
  | none => []
  | some node =>
    lead ++ txt "else" ++ wordGap style node ++ node.marks style false ++ closing style node

/-- The parent of a class. -/
def parentMarks (style : Style) : Option Node → List Mark
  | none => []
  | some node => txt " extends" ++ wordGap style node ++ node.marks style false

/-- What a case stands for. -/
def caseMarks (style : Style) : Option Node → List Mark
  | none => txt "default"
  | some node => txt "case" ++ wordGap style node ++ node.marks style false

/-- A node between parentheses, both of which may be left out. -/
def parenMarks (style : Style) : Option Node → List Mark
  | none => []
  | some node => txt "(" ++ node.marks style false ++ txt ")"

end

/-- The marks of the items of a program, one behind the other. -/
def itemMarks (style : Style) (items : List Node) : List Mark :=
  (eachStatement style items).flatten

/-- The marks of the line that names the interpreter. -/
def interpreterMarks : Option String → List Mark
  | none => []
  | some line => txt "#!" ++ txt line ++ [.line]

/-- The text of a program. -/
def Program.print (style : Style) (program : Program) : String :=
  render (interpreterMarks program.interpreter? ++ itemMarks style program.items)

/-- The text of every item on its own. -/
def Program.printItems (style : Style) (program : Program) : List String :=
  program.items.map fun item => render (itemMarks style [item])

end PropertyMangling.Script
