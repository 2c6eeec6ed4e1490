import PropertyMangling.Proofs.Script.Written
import PropertyMangling.Proofs.Script.Ends
import PropertyMangling.Property.Renaming
/-!
# Renaming keeps the ends of statements

Renamed places lie inside of statements: a variable keeps its name, and a string
opens with a quote however it is renamed. So a statement that is printed with
firm ends still is when it has been renamed.
-/
namespace PropertyMangling

open Script

variable {plan : Renaming}

/-- A shorthand stays a property and never becomes a variable alone, whether it is written out or
not. -/
theorem isIdentifier_shorthand (span : Span) (name : Name) (default? : Option Node) :
    (plan.shorthand span name default?).value.isIdentifier = false := by
  unfold Renaming.shorthand
  split
  · rfl
  · rfl

/-- A renamed node is a variable exactly when it was one, since variables are never renamed. -/
theorem isIdentifier_rename (node : Node) :
    (node.rename plan).value.isIdentifier = node.isIdentifier := by
  cases node with
  | shorthand => exact isIdentifier_shorthand _ _ _
  | _ => rfl

/-- A single name is the only parameter list of one that is bare. -/
theorem isBareParameter_eq (params : List Node) :
    isBareParameter params = (params.length == 1 && params.all Node.isIdentifier) := by
  cases params with
  | nil => rfl
  | cons first rest =>
    cases rest with
    | nil => cases first <;> rfl
    | cons => cases first <;> rfl

/-- Renaming keeps the number of nodes in a list. -/
theorem length_renameAll (nodes : List Node) :
    (renameAll plan nodes).value.length = nodes.length := by
  induction nodes with
  | nil => rfl
  | cons node rest inductionHypothesis => exact congrArg Nat.succ inductionHypothesis

/-- Bare parameters are bare ones when they are renamed, and no others are. -/
theorem isBareParameter_rename (params : List Node) :
    isBareParameter (renameAll plan params).value = isBareParameter params := by
  have names : (renameAll plan params).value.all Node.isIdentifier = params.all Node.isIdentifier := by
    induction params with
    | nil => rfl
    | cons node rest inductionHypothesis =>
      exact congrArg₂ (· && ·) (isIdentifier_rename node) inductionHypothesis
  rw [isBareParameter_eq, isBareParameter_eq, length_renameAll, names]

/-- A renamed statement stands in braces exactly when it did, so it needs a semicolon when it
needed one. -/
theorem isBraced_rename (node : Node) : (node.rename plan).value.isBraced = node.isBraced := by
  cases node with
  | shorthand =>
    simp only [Node.rename, Counted.value_bind, Renaming.shorthand]
    split
    · rfl
    · rfl
  | _ => rfl

/-- A statement that may be missing stands in braces after renaming exactly when it did before. -/
theorem all_isBraced_renameSome (node? : Option Node) :
    (renameSome plan node?).value.all Node.isBraced = node?.all Node.isBraced := by
  cases node? with
  | none => rfl
  | some node => exact isBraced_rename node

/-- A string that opens firmly does so with another value, since it opens with its quote. -/
theorem opens_quoted_rename {literal : Quoted}
    (opens : opensText (literal.print .compact) = true) :
    opensText ((plan.quoted literal).value.print .compact) = true := by
  unfold Renaming.quoted
  split
  · exact opens_quoted (by simp)
  · split
    · exact opens_quoted (by simp)
    · exact opens

mutual

/-- What opens firmly still does when it is renamed. The proof follows the part that a node opens
with. -/
theorem opens_rename : ∀ node : Node, node.IsOpening → (node.rename plan).value.IsOpening
  | .identifier _, opens | .number .., opens | .bigint .., opens | .regex _, opens
  | .labeled _ _, opens => opens
  | .string _, opens => opens_quoted_rename opens
  | .tagged tag _ _, opens => opens_rename tag opens
  | .update _ true _, _ => rfl
  | .update _ false operand, opens => opens_rename operand opens
  | .binary _ left _, opens => opens_rename left opens
  | .assign _ _ target _, opens => opens_rename target opens
  | .conditional test _ _, opens => opens_rename test opens
  | .sequence items, opens => firstOpens_rename items opens
  | .arrow isAsync params body, opens => by
    rw [Node.IsOpening, Node.opensFirmly, Bool.or_eq_true] at opens
    change (isAsync || !isBareParameter (renameAll plan params).value ||
      firstOpensFirmly (renameAll plan params).value) = true
    rw [isBareParameter_rename, Bool.or_eq_true]
    exact opens.imp_right (firstOpens_rename params)
  | .member _ host _ _, opens => opens_rename host opens
  | .privateMember host _ _, opens => opens_rename host opens
  | .subscript _ host _ _ _, opens => opens_rename host opens
  | .call _ callee _ _, opens => opens_rename callee opens
  | .defaultPattern _ target _, opens => opens_rename target opens
  | .expressionStatement _ expression, opens => opens_rename expression opens
  | .word _, _ | .privateName _, _ | .template .., _ | .array .., _ | .object .., _ => rfl
  | .function .., _ | .classExpression .., _ | .unary .., _ | .yield .., _ | .await _, _ => rfl
  | .paren .., _ | .new .., _ | .spread _, _ | .computed .., _ | .classConstructor .., _ => rfl
  | .staticBlock _, _ | .emptyMember, _ | .arrayPattern _, _ | .objectPattern .., _ => rfl
  | .rest _, _ | .block _, _ | .empty, _ | .debugger, _ | .withStatement .., _ => rfl
  | .returnStatement _, _ | .breakStatement _, _ | .continueStatement _, _ => rfl
  | .ifStatement .., _ | .switchStatement .., _ | .throwStatement _, _ | .tryStatement .., _ => rfl
  | .catchClause .., _ | .whileStatement .., _ | .doWhile .., _ | .forStatement .., _ => rfl
  | .forIn .., _ | .forOf .., _ | .variables .., _ | .functionDeclaration .., _ => rfl
  | .classDeclaration .., _ | .importDeclaration .., _ | .exportDeclaration _, _ => rfl
  | .exportNamed .., _ | .exportDefault _, _ | .exportAll _, _ => rfl

/-- A list whose first node opens firmly still does when it is renamed. -/
theorem firstOpens_rename : ∀ nodes : List Node, firstOpensFirmly nodes = true →
    firstOpensFirmly (renameAll plan nodes).value = true
  | first :: _, opens => opens_rename first opens

end

/-- What closes firmly still does when it is renamed. The proof follows the part that a node
closes with. -/
theorem closes_rename : ∀ node : Node, node.closesFirmly = true →
    (node.rename plan).value.closesFirmly = true
  | .withStatement _ body, closes => closes_rename body closes
  | .labeled _ body, closes => closes_rename body closes
  | .whileStatement _ body, closes => closes_rename body closes
  | .forStatement _ _ _ body, closes => closes_rename body closes
  | .forIn _ _ body, closes => closes_rename body closes
  | .forOf _ _ _ body, closes => closes_rename body closes
  | .ifStatement _ consequent none, closes => closes_rename consequent closes
  | .ifStatement _ _ (some alternate), closes => closes_rename alternate closes
  | .tryStatement _ handler? finalizer?, closes => by
    change ((renameSome plan handler?).value.all Node.isBraced &&
      (renameSome plan finalizer?).value.all Node.isBraced) = true
    rw [all_isBraced_renameSome, all_isBraced_renameSome]
    exact closes
  | .exportDeclaration declaration, closes => closes_rename declaration closes
  | .expressionStatement .., _ | .block _, _ | .empty, _ | .debugger, _ => rfl
  | .returnStatement _, _ | .breakStatement _, _ | .continueStatement _, _ => rfl
  | .throwStatement _, _ | .switchStatement .., _ | .doWhile .., _ | .variables .., _ => rfl
  | .functionDeclaration .., _ | .classDeclaration .., _ | .importDeclaration .., _ => rfl
  | .exportNamed .., _ | .exportDefault _, _ | .exportAll _, _ => rfl

/-- A tidy statement still is when it is renamed, as both of its ends stay firm. -/
theorem Script.Node.IsTidy.rename {node : Node} (tidy : node.IsTidy) :
    (node.rename plan).value.IsTidy :=
  ⟨opens_rename node tidy.opens, closes_rename node tidy.closes⟩

end PropertyMangling
