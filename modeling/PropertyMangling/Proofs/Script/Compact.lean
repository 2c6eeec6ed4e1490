import PropertyMangling.Proofs.Script.Page
import PropertyMangling.Script.Printing
/-!
# The compact style has no line ends

Line ends are for reading only. In the compact style the marks of a node hold
none of them, so a statement is written on one line whatever it holds.
-/
namespace PropertyMangling.Script

/-- Marks that end no line. -/
def IsUnbroken (marks : List Mark) : Prop := Mark.line ∉ marks

section Pieces

variable {first second between : List Mark} {pieces : List (List Mark)}

/-- Nothing at all has no line ends. -/
@[simp] theorem isUnbroken_nil : IsUnbroken [] := List.not_mem_nil

/-- Two runs of marks have no line ends together exactly when neither of them has one. -/
@[simp] theorem isUnbroken_append :
    IsUnbroken (first ++ second) ↔ IsUnbroken first ∧ IsUnbroken second := by
  simp [IsUnbroken]

/-- A run that depends on a condition has no line ends when the run of each case has none in that
case. -/
@[simp] theorem isUnbroken_ite {condition : Prop} [Decidable condition] :
    IsUnbroken (if condition then first else second) ↔
      (condition → IsUnbroken first) ∧ (¬ condition → IsUnbroken second) := by
  split <;> simp [*]

/-- A text is no line end, whatever it says. -/
@[simp] theorem isUnbroken_txt (written : String) : IsUnbroken (txt written) := by
  simp [IsUnbroken, txt]

/-- A single mark with a text is no line end either. -/
@[simp] theorem isUnbroken_text (written : String) : IsUnbroken [.text written] := by
  simp [IsUnbroken]

/-- The compact style has no gap, where the other one has a blank. -/
@[simp] theorem isUnbroken_gap : IsUnbroken (Style.gap .compact) := isUnbroken_nil

/-- The compact style starts no new line between statements, which is what the results below rest
on. -/
@[simp] theorem isUnbroken_newLine : IsUnbroken (Style.newLine .compact) := isUnbroken_nil

/-- A blank that keeps two words apart is no line end. -/
@[simp] theorem isUnbroken_gapBefore (joins : Bool) :
    IsUnbroken (Style.gapBefore .compact joins) := by
  cases joins <;> simp [Style.gapBefore]

/-- Indenting adds no line ends of its own and takes none away. -/
@[simp] theorem isUnbroken_indented : IsUnbroken (Style.indented first) ↔ IsUnbroken first := by
  simp [IsUnbroken, Style.indented]

/-- Pieces without line ends, set apart by something without them, have none. The induction is on
the pieces. -/
theorem isUnbroken_sepBy (unbroken : IsUnbroken between)
    (each : ∀ piece ∈ pieces, IsUnbroken piece) : IsUnbroken (sepBy between pieces) := by
  induction pieces with
  | nil => exact isUnbroken_nil
  | cons first rest inductionHypothesis =>
    obtain ⟨unbrokenFirst, unbrokenRest⟩ := List.forall_mem_cons.mp each
    cases rest with
    | nil => exact unbrokenFirst
    | cons second others =>
      simp only [sepBy, isUnbroken_append]
      exact ⟨⟨unbrokenFirst, unbroken⟩, inductionHypothesis unbrokenRest⟩

/-- Pieces with commas between them have no line ends when the pieces have none. -/
theorem isUnbroken_commaMarks (each : ∀ piece ∈ pieces, IsUnbroken piece) :
    IsUnbroken (commaMarks .compact pieces) :=
  isUnbroken_sepBy (by simp) each

/-- The elements of an array or an object have no line ends when the pieces have none; a hole at
the end adds a comma only. -/
theorem isUnbroken_columnMarks (each : ∀ piece ∈ pieces, IsUnbroken piece) (lastIsHole : Bool) :
    IsUnbroken (columnMarks .compact pieces lastIsHole) := by
  have listed : IsUnbroken (sepBy (txt "," ++ Style.newLine .compact) pieces) :=
    isUnbroken_sepBy (by simp) each
  unfold columnMarks
  split
  · simp
  · cases lastIsHole <;> simp [listed]

/-- A block has no line ends when its statements have none, since braces and semicolons
suffice. -/
theorem isUnbroken_blockMarks (each : ∀ piece ∈ pieces, IsUnbroken piece) :
    IsUnbroken (blockMarks .compact pieces) := by
  have listed : IsUnbroken (sepBy (Style.newLine .compact) pieces) :=
    isUnbroken_sepBy (by simp) each
  unfold blockMarks
  split
  · simp
  · simp [listed]

/-- The body of a class has no line ends when its members have none. -/
theorem isUnbroken_classBodyMarks (each : ∀ piece ∈ pieces, IsUnbroken piece) :
    IsUnbroken (classBodyMarks .compact pieces) := by
  have listed : IsUnbroken (sepBy (Style.newLine .compact) pieces) :=
    isUnbroken_sepBy (by simp) each
  simp [classBodyMarks, listed]

/-- Names between braces, as imports and exports list them, have no line ends when the names have
none. -/
theorem isUnbroken_bracedNames (each : ∀ piece ∈ pieces, IsUnbroken piece) :
    IsUnbroken (bracedNames .compact pieces) := by
  have listed := isUnbroken_commaMarks each
  unfold bracedNames
  split <;> simp [listed]

/-- A template has no line ends of the style in it when its values have none; those in its own
texts are characters. -/
theorem isUnbroken_templateMarks (texts : List String)
    (each : ∀ piece ∈ pieces, IsUnbroken piece) : IsUnbroken (templateMarks texts pieces) := by
  induction texts generalizing pieces with
  | nil => exact isUnbroken_nil
  | cons first rest inductionHypothesis =>
    cases pieces with
    | nil => simp [templateMarks, inductionHypothesis each]
    | cons piece others =>
      obtain ⟨unbroken, unbrokenOthers⟩ := List.forall_mem_cons.mp each
      simp [templateMarks, unbroken, inductionHypothesis unbrokenOthers]

end Pieces

section Leads

/-- What closes a statement is a semicolon or nothing, never a line end. -/
@[simp] theorem isUnbroken_closing (statement : Node) :
    IsUnbroken (closing .compact statement) := by
  unfold closing
  split <;> split <;> simp

/-- The name of a function or a class stands behind a blank, on the same line. -/
@[simp] theorem isUnbroken_nameMarks (name? : Option Name) :
    IsUnbroken (nameMarks (txt " ") name?) := by
  cases name? <;> simp [nameMarks]

/-- What stands before the key of a method is words and marks of one line. -/
@[simp] theorem isUnbroken_methodLead (kind : MethodKind) (flavor : Flavor) (key : Node) :
    IsUnbroken (methodLead .compact kind flavor key) := by
  cases kind with
  | method =>
    simp only [methodLead, isUnbroken_append]
    constructor <;> split <;> simp
  | getter => simp [methodLead]
  | setter => simp [methodLead]

/-- The word `static` is followed by a blank at most. -/
@[simp] theorem isUnbroken_staticLead (kind : MethodKind) (flavor : Flavor) (key : Node) :
    IsUnbroken (staticLead .compact kind flavor key) := by
  simp [staticLead]

/-- What stands before the name of a function is words and marks of one line. -/
@[simp] theorem isUnbroken_functionLead (flavor : Flavor) : IsUnbroken (functionLead flavor) := by
  simp only [functionLead, isUnbroken_append, isUnbroken_txt, and_true]
  constructor <;> split <;> simp

/-- Between a word and what follows it stands a blank at most. -/
@[simp] theorem isUnbroken_wordGap (item : Node) : IsUnbroken (wordGap .compact item) :=
  isUnbroken_gapBefore _

/-- Between a value and the word behind it stands a blank at most. -/
@[simp] theorem isUnbroken_gapAfter (item : Node) : IsUnbroken (gapAfter .compact item) :=
  isUnbroken_gapBefore _

/-- An operator stands between its operands without line ends, with blanks where it is a word. -/
@[simp] theorem isUnbroken_operatorMarks (op : BinaryOp) (left right : Node) :
    IsUnbroken (operatorMarks .compact op left right) := by
  simp [operatorMarks]

/-- Between an operator and its single operand stands a blank at most, to keep two signs or a word
apart. -/
@[simp] theorem isUnbroken_unaryGap (op : UnaryOp) (operand : Node) :
    IsUnbroken (unaryGap .compact op operand) := by
  unfold unaryGap
  split
  · simp
  · split <;> simp

/-- The point of a member is written right behind its host, with a second point before it where a
number needs one. -/
@[simp] theorem isUnbroken_pointMarks (host : Node) (optional : Bool) :
    IsUnbroken (pointMarks .compact host optional) := by
  have second : IsUnbroken (secondPoint .compact host) := by
    unfold secondPoint
    split
    · split <;> simp
    · simp
  unfold pointMarks
  split <;> simp [second]

/-- The phase of an import is a word on the same line, if there is one. -/
@[simp] theorem isUnbroken_phaseMarks (phase : ImportPhase) : IsUnbroken (phaseMarks phase) := by
  cases phase <;> simp [phaseMarks, ImportPhase.text?]

/-- A name at a module's interface is a word or a quoted text, and neither is a line end. -/
@[simp] theorem isUnbroken_interfaceMarks (name : InterfaceName) :
    IsUnbroken (interfaceMarks .compact name) := by
  cases name <;> simp [interfaceMarks]

/-- A single import has no line ends, for each of the ways in which it can name what it binds. -/
theorem isUnbroken_importSpecifierMarks (specifier : ImportSpecifier) :
    IsUnbroken (importSpecifierMarks .compact specifier) := by
  cases specifier with
  | defaultValue name => simp [importSpecifierMarks]
  | wholeInterface name => simp [importSpecifierMarks]
  | item name imported? => cases imported? <;> simp [importSpecifierMarks, aliasMarks]

/-- What an import binds is written on one line, whatever mixture of bindings it has. -/
@[simp] theorem isUnbroken_importMarks (specifiers : List ImportSpecifier) :
    IsUnbroken (importMarks .compact specifiers) := by
  have each : ∀ some : List ImportSpecifier,
      ∀ piece ∈ some.map (importSpecifierMarks .compact), IsUnbroken piece := by
    intro some
    exact List.forall_mem_map.mpr fun specifier _ => isUnbroken_importSpecifierMarks specifier
  have leading := isUnbroken_commaMarks (each (specifiers.filter fun item => !isImportedItem item))
  have named := isUnbroken_bracedNames (each (specifiers.filter isImportedItem))
  unfold importMarks
  dsimp only
  split
  · simp
  · split
    · simp [leading]
    · simp only [isUnbroken_append, leading, named, isUnbroken_gapBefore, isUnbroken_gap,
        isUnbroken_txt, and_true, true_and]
      split <;> simp

/-- The source of an export is written behind its lead, on the line of it. -/
@[simp] theorem isUnbroken_exportSourceMarks {lead : List Mark} (unbroken : IsUnbroken lead)
    (source? : Option Quoted) : IsUnbroken (exportSourceMarks .compact lead source?) := by
  cases source? <;> simp [exportSourceMarks, unbroken]

/-- A single export has no line ends, for each of the ways in which it can name what it shows. -/
theorem isUnbroken_exportSpecifierMarks (specifier : ExportSpecifier) :
    IsUnbroken (exportSpecifierMarks .compact specifier) := by
  cases specifier with
  | item own exported? => cases exported? <;> simp [exportSpecifierMarks, exportedMarks]
  | wholeInterface name => simp [exportSpecifierMarks]

end Leads

mutual

/-- A node is written without line ends. The proof follows the constructors, with the lemmas above
for what each of them adds around its parts. -/
theorem Node.isUnbroken_marks (isHead : Bool) :
    ∀ node : Node, IsUnbroken (node.marks .compact isHead)
  | .word _ => by simp [Node.marks]
  | .identifier _ => by simp [Node.marks]
  | .privateName _ => by simp [Node.marks]
  | .number .. => by simp [Node.marks]
  | .bigint .. => by simp [Node.marks]
  | .regex _ => by simp [Node.marks]
  | .string _ => by simp [Node.marks]
  | .hole => by simp [Node.marks]
  | .template texts values => by
    simp [Node.marks, isUnbroken_templateMarks _ (isUnbroken_eachMarks values)]
  | .tagged tag texts values => by
    simp [Node.marks, tag.isUnbroken_marks true,
      isUnbroken_templateMarks _ (isUnbroken_eachMarks values)]
  | .array elements _ => by
    simp [Node.marks, isUnbroken_columnMarks (isUnbroken_eachMarks elements)]
  | .object _ properties _ => by
    simp [Node.marks, isUnbroken_columnMarks (isUnbroken_eachMarks properties)]
  | .function _ name? params body => by
    simp [Node.marks, isUnbroken_commaMarks (isUnbroken_eachMarks params),
      isUnbroken_blockMarks (isUnbroken_eachStatement body)]
  | .classExpression name? parent? members => by
    simp [Node.marks, isUnbroken_parentMarks parent?,
      isUnbroken_classBodyMarks (isUnbroken_eachMarks members)]
  | .unary _ operand => by simp [Node.marks, operand.isUnbroken_marks false]
  | .update _ before operand => by
    cases before <;> simp [Node.marks, operand.isUnbroken_marks false]
  | .binary _ left right => by
    simp [Node.marks, left.isUnbroken_marks false, right.isUnbroken_marks false]
  | .assign _ _ target value => by
    simp [Node.marks, target.isUnbroken_marks false, value.isUnbroken_marks false]
  | .conditional test consequent alternate => by
    simp [Node.marks, test.isUnbroken_marks false, consequent.isUnbroken_marks false,
      alternate.isUnbroken_marks false]
  | .sequence items => by
    simp [Node.marks, isUnbroken_commaMarks (isUnbroken_eachMarks items)]
  | .arrow _ params body => by
    simp [Node.marks, isUnbroken_commaMarks (isUnbroken_eachMarks params),
      body.isUnbroken_marks false]
  | .yield _ argument? => by
    simp [Node.marks, isUnbroken_someMarks argument?]
  | .await argument => by simp [Node.marks, argument.isUnbroken_marks false]
  | .paren _ inner => by simp [Node.marks, inner.isUnbroken_marks false]
  | .member _ host _ _ => by simp [Node.marks, host.isUnbroken_marks true]
  | .privateMember host _ _ => by simp [Node.marks, host.isUnbroken_marks true]
  | .subscript _ host _ index _ => by
    simp [Node.marks, host.isUnbroken_marks true, index.isUnbroken_marks false]
  | .call _ callee items optional => by
    simp [Node.marks, callee.isUnbroken_marks (!optional),
      isUnbroken_commaMarks (isUnbroken_eachMarks items)]
  | .new callee items _ => by
    simp [Node.marks, callee.isUnbroken_marks false,
      isUnbroken_commaMarks (isUnbroken_eachMarks items)]
  | .spread argument => by simp [Node.marks, argument.isUnbroken_marks false]
  | .keyName _ => by simp [Node.marks]
  | .keyString _ => by simp [Node.marks]
  | .computed _ expression => by simp [Node.marks, expression.isUnbroken_marks false]
  | .property key value => by
    simp [Node.marks, key.isUnbroken_marks false, value.isUnbroken_marks false]
  | .shorthand _ _ default? => by simp [Node.marks, isUnbroken_someMarks default?]
  | .defaulted _ _ value => by simp [Node.marks, value.isUnbroken_marks false]
  | .objectMethod _ _ key params body => by
    simp [Node.marks, key.isUnbroken_marks false,
      isUnbroken_commaMarks (isUnbroken_eachMarks params),
      isUnbroken_blockMarks (isUnbroken_eachStatement body)]
  | .classMethod _ _ _ key params body => by
    simp [Node.marks, key.isUnbroken_marks false,
      isUnbroken_commaMarks (isUnbroken_eachMarks params),
      isUnbroken_blockMarks (isUnbroken_eachStatement body)]
  | .classConstructor _ params body => by
    simp [Node.marks, isUnbroken_commaMarks (isUnbroken_eachMarks params),
      isUnbroken_blockMarks (isUnbroken_eachStatement body)]
  | .field _ key value? => by
    simp [Node.marks, key.isUnbroken_marks false, isUnbroken_someMarks value?]
  | .staticBlock body => by
    simp [Node.marks, isUnbroken_blockMarks (isUnbroken_eachStatement body)]
  | .emptyMember => by simp [Node.marks]
  | .arrayPattern elements => by
    simp [Node.marks, isUnbroken_commaMarks (isUnbroken_eachMarks elements)]
  | .objectPattern _ properties => by
    simp [Node.marks, isUnbroken_bracedNames (isUnbroken_eachMarks properties)]
  | .defaultPattern _ target value => by
    simp [Node.marks, target.isUnbroken_marks false, value.isUnbroken_marks false]
  | .rest argument => by simp [Node.marks, argument.isUnbroken_marks false]
  | .expressionStatement _ expression => by simp [Node.marks, expression.isUnbroken_marks false]
  | .block body => by simp [Node.marks, isUnbroken_blockMarks (isUnbroken_eachStatement body)]
  | .empty => by simp [Node.marks]
  | .debugger => by simp [Node.marks]
  | .withStatement host body => by
    simp [Node.marks, host.isUnbroken_marks false, body.isUnbroken_marks false]
  | .returnStatement argument? => by simp [Node.marks, isUnbroken_someMarks argument?]
  | .labeled _ body => by simp [Node.marks, body.isUnbroken_marks false]
  | .breakStatement _ => by simp [Node.marks]
  | .continueStatement _ => by simp [Node.marks]
  | .ifStatement test consequent alternate? => by
    simp [Node.marks, test.isUnbroken_marks false, consequent.isUnbroken_marks false,
      isUnbroken_elseMarks alternate?]
  | .switchStatement discriminant cases => by
    simp [Node.marks, discriminant.isUnbroken_marks false,
      isUnbroken_classBodyMarks (isUnbroken_eachMarks cases)]
  | .switchCase test? body => by
    simp [Node.marks, isUnbroken_caseMarks test?,
      isUnbroken_sepBy isUnbroken_newLine (isUnbroken_eachStatement body)]
  | .throwStatement argument => by simp [Node.marks, argument.isUnbroken_marks false]
  | .tryStatement body handler? finalizer? => by
    simp [Node.marks, isUnbroken_blockMarks (isUnbroken_eachStatement body),
      isUnbroken_someMarks handler?, isUnbroken_someMarks finalizer?]
  | .catchClause param? body => by
    simp [Node.marks, isUnbroken_parenMarks param?,
      isUnbroken_blockMarks (isUnbroken_eachStatement body)]
  | .whileStatement test body => by
    simp [Node.marks, test.isUnbroken_marks false, body.isUnbroken_marks false]
  | .doWhile body test => by
    simp [Node.marks, test.isUnbroken_marks false, body.isUnbroken_marks false]
  | .forStatement start? test? step? body => by
    simp [Node.marks, isUnbroken_someMarks start?, isUnbroken_someMarks test?,
      isUnbroken_someMarks step?, body.isUnbroken_marks false]
  | .forIn target subject body => by
    simp [Node.marks, target.isUnbroken_marks false, subject.isUnbroken_marks false,
      body.isUnbroken_marks false]
  | .forOf _ target subject body => by
    simp [Node.marks, target.isUnbroken_marks false, subject.isUnbroken_marks false,
      body.isUnbroken_marks false]
  | .variables _ _ declarators => by
    simp [Node.marks, isUnbroken_commaMarks (isUnbroken_eachMarks declarators)]
  | .declarator _ target value? => by
    simp [Node.marks, target.isUnbroken_marks false, isUnbroken_someMarks value?]
  | .functionDeclaration _ _ params body => by
    simp [Node.marks, isUnbroken_commaMarks (isUnbroken_eachMarks params),
      isUnbroken_blockMarks (isUnbroken_eachStatement body)]
  | .classDeclaration _ parent? members => by
    simp [Node.marks, isUnbroken_parentMarks parent?,
      isUnbroken_classBodyMarks (isUnbroken_eachMarks members)]
  | .importDeclaration .. => by simp [Node.marks]
  | .exportDeclaration declaration => by simp [Node.marks, declaration.isUnbroken_marks false]
  | .exportNamed specifiers source? => by
    have each : ∀ piece ∈ specifiers.map (exportSpecifierMarks .compact), IsUnbroken piece :=
      List.forall_mem_map.mpr fun specifier _ => isUnbroken_exportSpecifierMarks specifier
    simp [Node.marks, isUnbroken_commaMarks each, isUnbroken_bracedNames each]
  | .exportDefault value => by simp [Node.marks, value.isUnbroken_marks false]
  | .exportAll source => by simp [Node.marks]

/-- Each node of a list is written without line ends; this is the case of lists in the mutual
induction. -/
theorem isUnbroken_eachMarks :
    ∀ nodes : List Node, ∀ piece ∈ eachMarks .compact nodes, IsUnbroken piece
  | [] => by simp [eachMarks]
  | node :: rest => by
    simpa [eachMarks, node.isUnbroken_marks false] using isUnbroken_eachMarks rest

/-- Each statement of a list is written without line ends, the mark that closes it included. -/
theorem isUnbroken_eachStatement :
    ∀ nodes : List Node, ∀ piece ∈ eachStatement .compact nodes, IsUnbroken piece
  | [] => by simp [eachStatement]
  | node :: rest => by
    simpa [eachStatement, node.isUnbroken_marks false] using isUnbroken_eachStatement rest

/-- A node that may be left out is written without line ends. -/
theorem isUnbroken_someMarks :
    ∀ node? : Option Node, ∀ {lead : Node → List Mark}, (∀ node, IsUnbroken (lead node)) →
      IsUnbroken (someMarks .compact lead node?)
  | none, _, _ => by simp [someMarks]
  | some node, _, unbroken => by simp [someMarks, unbroken, node.isUnbroken_marks false]

/-- The second branch of a condition is written behind the first one without a line end, if there
is one. -/
theorem isUnbroken_elseMarks :
    ∀ node? : Option Node, ∀ {lead : List Mark}, IsUnbroken lead →
      IsUnbroken (elseMarks .compact lead node?)
  | none, _, _ => by simp [elseMarks]
  | some node, _, unbroken => by simp [elseMarks, unbroken, node.isUnbroken_marks false]

/-- The class that another one extends is written on the line of the other one. -/
theorem isUnbroken_parentMarks :
    ∀ node? : Option Node, IsUnbroken (parentMarks .compact node?)
  | none => by simp [parentMarks]
  | some node => by simp [parentMarks, node.isUnbroken_marks false]

/-- The value of a case, or the word for any other one, is written without line ends. -/
theorem isUnbroken_caseMarks :
    ∀ node? : Option Node, IsUnbroken (caseMarks .compact node?)
  | none => by simp [caseMarks]
  | some node => by simp [caseMarks, node.isUnbroken_marks false]

/-- A part in parentheses is written without line ends, and a missing one without anything. -/
theorem isUnbroken_parenMarks :
    ∀ node? : Option Node, IsUnbroken (parenMarks .compact node?)
  | none => by simp [parenMarks]
  | some node => by simp [parenMarks, node.isUnbroken_marks false]

end

end PropertyMangling.Script
