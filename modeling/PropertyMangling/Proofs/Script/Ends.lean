import PropertyMangling.Proofs.Script.Page
import PropertyMangling.Script.Printing
/-!
# How statements begin and end

A node begins with its leftmost part, and a statement ends with its last body.
Words, signs and brackets of the language are firm, so only what the source
chose is left to be looked at: the name, the number or the literal at the left
edge.
-/
namespace PropertyMangling.Script

mutual

/-- Whether what is printed of a node starts with a firm character. Only expressions, targets and
statements count; the parts of objects and classes open nothing. -/
def Node.opensFirmly : Node → Bool
  | .identifier name => opensText name.text
  | .number _ value source => opensText (printNumber .compact value source)
  | .bigint value source => opensText (printBigint .compact value source)
  | .regex source => opensText source
  | .string literal => opensText (literal.print .compact)
  | .tagged tag _ _ => tag.opensFirmly
  | .update _ before operand => before || operand.opensFirmly
  | .binary _ left _ => left.opensFirmly
  | .assign _ _ target _ => target.opensFirmly
  | .conditional test _ _ => test.opensFirmly
  | .sequence items => firstOpensFirmly items
  | .arrow isAsync params _ => isAsync || !isBareParameter params || firstOpensFirmly params
  | .member _ host _ _ => host.opensFirmly
  | .privateMember host _ _ => host.opensFirmly
  | .subscript _ host _ _ _ => host.opensFirmly
  | .call _ callee _ _ => callee.opensFirmly
  | .defaultPattern _ target _ => target.opensFirmly
  | .expressionStatement _ expression => expression.opensFirmly
  | .labeled label _ => opensText label.text
  | .hole | .keyName _ | .keyString _ | .property .. | .shorthand .. | .defaulted .. => false
  | .objectMethod .. | .classMethod .. | .field .. | .switchCase .. | .declarator .. => false
  | _ => true

/-- Whether the first node of a list starts with a firm character. -/
def firstOpensFirmly : List Node → Bool
  | [] => false
  | node :: _ => node.opensFirmly

end

/-- A node that opens firmly. -/
abbrev Node.IsOpening (node : Node) : Prop := node.opensFirmly = true

/-- Nodes open firmly when each of them does, as there is a first one among them. -/
theorem firstOpensFirmly_of_forall {nodes : List Node} (filled : nodes ≠ [])
    (each : ∀ node ∈ nodes, node.IsOpening) : firstOpensFirmly nodes = true := by
  obtain ⟨first, rest, rfl⟩ := List.exists_cons_of_ne_nil filled
  exact each first List.mem_cons_self

/-- A name that opens firmly. -/
abbrev Name.IsOpening (name : Name) : Prop := opensText name.text = true

/-- Whether a node is printed with a closing brace of its own at its end. -/
def Node.isBraced : Node → Bool
  | .block _ | .catchClause .. => true
  | _ => false

/-- Whether what is printed of a statement ends with a firm character, which lies with the statement
that comes last in it. -/
def Node.closesFirmly : Node → Bool
  | .withStatement _ body => body.closesFirmly
  | .labeled _ body => body.closesFirmly
  | .whileStatement _ body => body.closesFirmly
  | .forStatement _ _ _ body => body.closesFirmly
  | .forIn _ _ body => body.closesFirmly
  | .forOf _ _ _ body => body.closesFirmly
  | .ifStatement _ consequent none => consequent.closesFirmly
  | .ifStatement _ _ (some alternate) => alternate.closesFirmly
  | .tryStatement _ handler? finalizer? =>
    handler?.all Node.isBraced && finalizer?.all Node.isBraced
  | .exportDeclaration declaration => declaration.closesFirmly
  | .expressionStatement .. | .block _ | .empty | .debugger | .returnStatement _ => true
  | .breakStatement _ | .continueStatement _ | .throwStatement _ | .switchStatement .. => true
  | .doWhile .. | .variables .. | .functionDeclaration .. | .classDeclaration .. => true
  | .importDeclaration .. | .exportNamed .. | .exportDefault _ | .exportAll _ => true
  | _ => false

/-- A statement that is printed with firm ends. -/
structure Node.IsTidy (node : Node) : Prop where
  opens : node.IsOpening
  closes : node.closesFirmly = true

/-- A function opens firmly with its word, or with the word before that one. -/
theorem opens_functionLead (flavor : Flavor) (rest : List Mark) :
    Opens (functionLead flavor ++ rest) := by
  obtain ⟨isAsync, isGenerator⟩ := flavor
  cases isAsync with
  | true => exact opens_text rfl _
  | false => exact opens_text rfl _

/-- A word of the language opens firmly, since no word starts with a blank. -/
theorem opens_word (word : Word) : opensText word.text = true := by
  cases word with
  | module phase => cases phase <;> rfl
  | _ => rfl

mutual

/-- What opens firmly is printed so. The proof follows the part that a node opens with. -/
theorem Node.opens_marks (isHead : Bool) :
    ∀ node : Node, node.opensFirmly = true → Opens (node.marks .compact isHead)
  | .word word, _ => opens_text (opens_word word) _
  | .identifier _, firm => opens_text firm _
  | .privateName _, _ => opens_text rfl _
  | .number .., firm => opens_text firm _
  | .bigint .., firm => opens_text firm _
  | .regex _, firm => opens_text firm _
  | .string _, firm => opens_text firm _
  | .template .., _ => opens_text rfl _
  | .tagged tag _ _, firm => (((tag.opens_marks true firm).append _).append _).append _
  | .array .., _ => opens_text rfl _
  | .object .., _ => opens_text rfl _
  | .function flavor .., _ => by
    simp only [Node.marks, List.append_assoc]
    exact opens_functionLead flavor _
  | .classExpression .., _ => opens_text rfl _
  | .unary op _, _ => by cases op <;> exact opens_text rfl _
  | .update increment true _, _ => by cases increment <;> exact opens_text rfl _
  | .update _ false operand, firm => (operand.opens_marks false firm).append _
  | .binary _ left _, firm => ((left.opens_marks false firm).append _).append _
  | .assign _ _ target _, firm =>
    ((((target.opens_marks false firm).append _).append _).append _).append _
  | .conditional test _ _, firm => by
    simp only [Node.marks, List.append_assoc]
    exact (test.opens_marks false firm).append _
  | .sequence items, firm => opens_commaMarks items firm
  | .arrow true _ _, _ => opens_text rfl _
  | .arrow false params _, firm => by
    cases bare : isBareParameter params with
    | true =>
      have first : firstOpensFirmly params = true := by simpa [Node.opensFirmly, bare] using firm
      simp only [Node.marks, bare, List.append_assoc]
      exact (opens_commaMarks params first).append _
    | false =>
      simp only [Node.marks, bare, List.append_assoc]
      exact opens_text rfl _
  | .yield delegate _, _ => by cases delegate <;> exact opens_text rfl _
  | .await _, _ => opens_text rfl _
  | .paren .., _ => opens_text rfl _
  | .member _ host _ _, firm => ((host.opens_marks true firm).append _).append _
  | .privateMember host _ _, firm => (((host.opens_marks true firm).append _).append _).append _
  | .subscript _ host _ _ _, firm => by
    simp only [Node.marks, List.append_assoc]
    exact (host.opens_marks true firm).append _
  | .call _ callee _ optional, firm => by
    simp only [Node.marks, List.append_assoc]
    exact (callee.opens_marks (!optional) firm).append _
  | .new .., _ => opens_text rfl _
  | .spread _, _ => opens_text rfl _
  | .computed .., _ => opens_text rfl _
  | .classConstructor .., _ => opens_text rfl _
  | .staticBlock _, _ => opens_text rfl _
  | .emptyMember, _ => opens_text rfl _
  | .arrayPattern _, _ => opens_text rfl _
  | .objectPattern _ properties, _ => by
    cases properties <;> exact opens_text rfl _
  | .defaultPattern _ target _, firm =>
    ((((target.opens_marks false firm).append _).append _).append _).append _
  | .rest _, _ => opens_text rfl _
  | .expressionStatement _ expression, firm => (expression.opens_marks false firm).append _
  | .block body, _ => by
    cases body with
    | nil => exact opens_text rfl _
    | cons => exact opens_text rfl _
  | .empty, _ => opens_text rfl _
  | .debugger, _ => opens_text rfl _
  | .withStatement .., _ => opens_text rfl _
  | .returnStatement _, _ => opens_text rfl _
  | .labeled .., firm => opens_text firm _
  | .breakStatement _, _ => opens_text rfl _
  | .continueStatement _, _ => opens_text rfl _
  | .ifStatement .., _ => opens_text rfl _
  | .switchStatement .., _ => opens_text rfl _
  | .throwStatement _, _ => opens_text rfl _
  | .tryStatement .., _ => opens_text rfl _
  | .catchClause .., _ => opens_text rfl _
  | .whileStatement .., _ => opens_text rfl _
  | .doWhile .., _ => opens_text rfl _
  | .forStatement .., _ => opens_text rfl _
  | .forIn .., _ => opens_text rfl _
  | .forOf isAwait .., _ => by cases isAwait <;> exact opens_text rfl _
  | .variables _ kind _, _ => by cases kind <;> exact opens_text rfl _
  | .functionDeclaration flavor .., _ => by
    simp only [Node.marks, List.append_assoc]
    exact opens_functionLead flavor _
  | .classDeclaration .., _ => opens_text rfl _
  | .importDeclaration .., _ => opens_text rfl _
  | .exportDeclaration _, _ => opens_text rfl _
  | .exportNamed specifiers _, _ => by
    simp only [Node.marks]
    split <;> exact opens_text rfl _
  | .exportDefault value, _ => by
    simp only [Node.marks]
    split <;> exact opens_text rfl _
  | .exportAll _, _ => opens_text rfl _

/-- Items with commas between them open as the first of them does. -/
theorem opens_commaMarks :
    ∀ items : List Node, firstOpensFirmly items = true →
      Opens (commaMarks .compact (eachMarks .compact items))
  | [first], firm => first.opens_marks false firm
  | first :: _ :: _, firm => ((first.opens_marks false firm).append _).append _

end

section Closings

variable (pieces : List (List Mark))

/-- A block closes firmly, with its brace. -/
theorem closes_blockMarks : Closes (blockMarks .compact pieces) := by
  cases pieces with
  | nil => exact closes_text rfl
  | cons => exact (closes_text rfl).append _

/-- The body of a class closes firmly, with its brace. -/
theorem closes_classBodyMarks : Closes (classBodyMarks .compact pieces) :=
  (closes_text rfl).append _

end Closings

/-- What ends with a brace of its own needs nothing behind it. -/
theorem closes_of_isBraced {node : Node} (braced : node.isBraced = true) (isHead : Bool) :
    Closes (node.marks .compact isHead) := by
  cases node with
  | block => exact closes_blockMarks _
  | catchClause => exact (closes_blockMarks _).append _
  | _ => cases braced

/-- The place of a declaration of variables ends it. The places of other nodes add nothing. -/
theorem closing_compact (node : Node) :
    closing .compact node = if node.isVariables then txt ";" else [] := by
  unfold closing
  split <;> split <;> rfl

/-- A node that is no declaration of variables ends with itself. -/
theorem closes_alone {node : Node} (alone : node.isVariables = false)
    {isHead : Bool} (closes : Closes (node.marks .compact isHead)) :
    Closes (node.marks .compact isHead ++ closing .compact node) := by
  rw [closing_compact, alone]
  simpa using closes

/-- What is behind other marks in two parts closes as the two do. -/
theorem closes_parts {first second : List Mark} (closes : Closes (first ++ second))
    (before : List Mark) : Closes (before ++ first ++ second) := by
  rw [List.append_assoc]
  exact closes.append before

/-- What closes firmly is printed so, with what its place adds. -/
theorem Node.closes_marks : ∀ node : Node, node.closesFirmly = true →
    Closes (node.marks .compact false ++ closing .compact node)
  | .withStatement _ body, firm => closes_alone rfl (closes_parts (body.closes_marks firm) _)
  | .labeled _ body, firm => closes_alone rfl (closes_parts (body.closes_marks firm) _)
  | .whileStatement _ body, firm => closes_alone rfl (closes_parts (body.closes_marks firm) _)
  | .forStatement _ _ _ body, firm => closes_alone rfl (closes_parts (body.closes_marks firm) _)
  | .forIn _ _ body, firm => closes_alone rfl (closes_parts (body.closes_marks firm) _)
  | .forOf _ _ _ body, firm => closes_alone rfl (closes_parts (body.closes_marks firm) _)
  | .ifStatement _ consequent none, firm => by
    refine closes_alone rfl ?_
    simp only [Node.marks, elseMarks, List.append_nil]
    exact closes_parts (consequent.closes_marks firm) _
  | .ifStatement _ _ (some alternate), firm => by
    refine closes_alone rfl ?_
    simp only [Node.marks, elseMarks]
    exact (closes_parts (alternate.closes_marks firm) _).append _
  | .tryStatement _ handler? finalizer?, firm => by
    obtain ⟨handled, finished⟩ := Bool.and_eq_true_iff.mp firm
    refine closes_alone rfl ?_
    cases finalizer? with
    | some finalizer => exact ((closes_of_isBraced finished false).append _).append _
    | none =>
      simp only [Node.marks, someMarks, List.append_nil]
      cases handler? with
      | some handler => exact ((closes_of_isBraced handled false).append _).append _
      | none =>
        simp only [someMarks, List.append_nil]
        exact (closes_blockMarks _).append _
  | .exportDeclaration declaration, firm => by
    refine closes_alone rfl ?_
    simp only [Node.marks]
    rw [← closing_compact]
    exact closes_parts (declaration.closes_marks firm) _
  | .exportDefault value, _ => by
    refine closes_alone rfl ?_
    simp only [Node.marks]
    split
    · next declared =>
      cases value with
      | function => exact ((closes_blockMarks _).append _).append _
      | classExpression => exact ((closes_classBodyMarks _).append _).append _
      | _ => cases declared
    · exact (closes_text rfl).append _
  | .exportNamed .., _ => by
    refine closes_alone rfl ?_
    simp only [Node.marks]
    split <;> exact (closes_text rfl).append _
  | .variables .., _ => (closes_text rfl).append _
  | .block _, _ => closes_alone rfl (closes_blockMarks _)
  | .switchStatement .., _ => closes_alone rfl ((closes_classBodyMarks _).append _)
  | .functionDeclaration .., _ => closes_alone rfl ((closes_blockMarks _).append _)
  | .classDeclaration .., _ => closes_alone rfl ((closes_classBodyMarks _).append _)
  | .empty, _ | .debugger, _ => closes_alone rfl (closes_text rfl)
  | .expressionStatement .., _ | .returnStatement _, _ | .breakStatement _, _
  | .continueStatement _, _ | .throwStatement _, _ | .doWhile .., _ | .importDeclaration .., _
  | .exportAll _, _ => closes_alone rfl ((closes_text rfl).append _)

/-- A tidy statement is printed with firm ends: its own, or the semicolon that closes it. -/
theorem Node.IsTidy.isFirm {node : Node} (tidy : node.IsTidy) :
    Text.IsFirm (inkOf (node.marks .compact false ++ closing .compact node)) :=
  isFirm_inkOf ((node.opens_marks false tidy.opens).append _) (node.closes_marks tidy.closes)

end PropertyMangling.Script
