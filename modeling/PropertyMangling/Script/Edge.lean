import PropertyMangling.Script.Pattern
/-!
# The edges of printed nodes

In the compact style a space is printed only where two neighbours would run
together: two words, two signs, or signs that would open a comment. These
predicates look at the first or the last thing that a node prints.
-/
namespace PropertyMangling.Script

mutual

/-- Whether the printed node starts with a letter, a digit or the like. -/
def Node.startsWithWord : Node → Bool
  | .word _ | .identifier _ | .number .. | .bigint .. | .keyName _ => true
  | .await _ | .function .. | .classExpression .. | .yield .. | .new .. => true
  | .sequence items => firstStartsWithWord items
  | .assign _ _ target _ => target.startsWithWord
  | .binary _ left _ => left.startsWithWord
  | .conditional test _ _ => test.startsWithWord
  | .call _ callee _ _ => callee.startsWithWord
  | .member _ host _ _ => host.startsWithWord
  | .privateMember host _ _ => host.startsWithWord
  | .subscript _ host _ _ _ => host.startsWithWord
  | .tagged tag _ _ => tag.startsWithWord
  | .unary op _ => op.isWord
  | .update _ before operand => !before && operand.startsWithWord
  | .arrow true _ _ => true
  | .arrow false [param] _ => param.startsWithWord
  | .defaultPattern _ target _ => target.startsWithWord
  | .expressionStatement _ inner => inner.startsWithWord
  | .block _ | .empty => false
  | .debugger | .withStatement .. | .returnStatement _ | .labeled .. | .breakStatement _ => true
  | .continueStatement _ | .ifStatement .. | .switchStatement .. | .throwStatement _ => true
  | .tryStatement .. | .whileStatement .. | .doWhile .. | .forStatement .. | .forIn .. => true
  | .forOf .. | .variables .. | .functionDeclaration .. | .classDeclaration .. => true
  | _ => false

/-- Whether the first printed node starts with a word. -/
def firstStartsWithWord : List Node → Bool
  | [] => false
  | node :: _ => node.startsWithWord

end

mutual

/-- Whether the printed node ends with a letter, a digit or the like. An empty list of arguments
behind `new` is left out where that matters. -/
def Node.endsWithWord : Node → Bool
  | .array .. | .object .. | .string _ | .paren .. | .template .. | .tagged .. => false
  | .call .. | .subscript .. => false
  | .update _ before operand => before && operand.endsWithWord
  | .unary _ operand => operand.endsWithWord
  | .binary _ _ right => right.endsWithWord
  | .assign _ _ _ value => value.endsWithWord
  | .conditional _ _ alternate => alternate.endsWithWord
  | .sequence items => lastEndsWithWord items
  | .await argument => argument.endsWithWord
  | .arrow _ _ body => body.endsWithWord
  | .new _ items _ => items.isEmpty
  | .block _ => false
  | .arrayPattern _ | .objectPattern .. => false
  | .rest target => target.endsWithWord
  | .defaultPattern _ _ value => value.endsWithWord
  | .variables _ _ declarators => lastEndsWithWord declarators
  | .declarator _ target value? => someEndsWithWord target.endsWithWord value?
  | _ => true

/-- Whether the last printed node ends with a word. -/
def lastEndsWithWord : List Node → Bool
  | [] => true
  | [node] => node.endsWithWord
  | _ :: rest => lastEndsWithWord rest

/-- Whether a node that may be left out ends with a word, and what holds when it is. -/
def someEndsWithWord (otherwise : Bool) : Option Node → Bool
  | none => otherwise
  | some node => node.endsWithWord

end

/-- Whether a sign before an operand would join the operand's own sign. -/
def UnaryOp.meets (op : UnaryOp) (operand : Node) : Bool :=
  match op, operand with
  | .plus, .unary .plus _ | .minus, .unary .minus _ => true
  | .plus, .update true true _ | .minus, .update false true _ => true
  | _, _ => false

/-- Whether an operator would join the first sign of its right operand, or open a comment. -/
def BinaryOp.meets (op : BinaryOp) : Node → Bool
  | .update increment true _ => (op == .add && increment) || (op == .subtract && !increment)
  | .unary sign operand =>
    match sign, operand with
    | .plus, _ => op == .add
    | .minus, _ => op == .subtract
    | .not, .update false true _ => op == .less || op == .shiftLeft
    | _, _ => false
  | .binary _ left _ => op.meets left
  | _ => false

/-- Whether an operator behind a left operand would end a comment. -/
def BinaryOp.follows (op : BinaryOp) : Node → Bool
  | .update false false _ =>
    [BinaryOp.greater, .greaterEqual, .shiftRight, .shiftRightFill].contains op
  | _ => false

/-- Whether a key starts with a letter, a digit or the like. -/
def Node.isWordKey : Node → Bool
  | .keyName _ | .number .. | .bigint .. => true
  | _ => false

/-- Whether a node is a private name. -/
def Node.isPrivateName : Node → Bool
  | .privateName _ => true
  | _ => false

/-- Whether a node is a block. -/
def Node.isBlock : Node → Bool
  | .block _ => true
  | _ => false

/-- Whether a node declares variables. -/
def Node.isVariables : Node → Bool
  | .variables .. => true
  | _ => false

end PropertyMangling.Script
