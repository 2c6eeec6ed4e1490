import PropertyMangling.Proofs.Script.Reads
import PropertyMangling.Script.Parsing
/-!
# Reading what stands alone

In front of a mark that no operator starts with, an operand is the whole
expression: each level of the grammar looks for its operators, finds none, and
hands the operand on. A statement with nothing behind it is the whole program.
-/
namespace PropertyMangling.Script

/-- A text is a program of one statement, and nothing stands in front of it. -/
def IsStatement (source : String) (property : Node → Prop) : Prop :=
  ∃ program node, Program.parse source = .ok program ∧ program.interpreter? = none ∧
    program.items = [node] ∧ property node ∧ program.leadingText source = ""

namespace Parse

variable {scope : Scope} {property : Node → Prop} {here there : Token × List Char} {next : Token}
  {behind further : List Char} {newline : Bool} {text mark : String} {self : Goal → Parse Node}

/-- Nothing around a place takes a name away. -/
structure IsOpen (scope : Scope) : Prop where
  isAsync : scope.isAsync = false
  isGenerator : scope.isGenerator = false
  inStaticBlock : scope.inStaticBlock = false
  isModule : scope.isModule = false
  noArguments : scope.noArguments = false

/-- Inside brackets a scope that leaves names free leaves them free as well. -/
theorem IsOpen.enclosed (isOpen : IsOpen scope) : IsOpen scope.enclosed :=
  ⟨isOpen.isAsync, isOpen.isGenerator, isOpen.inStaticBlock, isOpen.isModule, isOpen.noArguments⟩

/-- Nothing around a place takes a name away, and the code is not strict. -/
structure IsLoose (scope : Scope) : Prop extends IsOpen scope where
  loose : scope.strict = false

/-- Inside brackets loose code is still loose, since only a directive or a module makes it
strict. -/
theorem IsLoose.enclosed (isLoose : IsLoose scope) : IsLoose scope.enclosed :=
  ⟨isLoose.toIsOpen.enclosed, isLoose.loose⟩

section Names

variable (leads : LeadsTo behind newline next further)
include leads

/-- Any word is a name where the grammar asks for a name of any kind, such as behind a point. -/
theorem reads_anyName :
    Reads scope anyName (fun name => name.text = text) (.word text .plain, behind) (next, further) := by
  refine reads_token.then ?_
  have span : Reads scope tokenSpan (fun _ => True) (.word text .plain, behind)
      (.word text .plain, behind) := fun state faces => ⟨_, state, rfl, trivial, faces⟩
  exact span.bind fun span _ => (reads_advance leads).bind fun _ _ => reads_pure rfl

variable (isOpen : IsOpen scope) (free : reservedAlways.contains text = false)
include isOpen free

/-- A word that is no reserved one is the name of a variable when the code around it reserves none
either. -/
theorem reads_freeName :
    Reads scope freeName (fun name => name.text = text) (.word text .plain, behind) (next, further) := by
  refine reads_token.then (reads_scope.then ?_)
  simp only [isOpen.isAsync, isOpen.isGenerator, isOpen.inStaticBlock, isOpen.isModule,
    isOpen.noArguments, free]
  rw [if_pos (by decide)]
  refine (reads_require rfl).then ((reads_require (by simp)).then ((reads_require (by simp)).then ?_))
  have last : Reads scope (do
      require (!(text == "arguments" && false))
      anyName) (fun name => name.text = text) (.word text .plain, behind) (next, further) :=
    (reads_require (by simp)).then (reads_anyName leads)
  split
  · exact reads_noteScriptOnly.then last
  · exact last

/-- A word that is not reserved is the name of a declaration. -/
theorem reads_bindingName :
    Reads scope bindingName (fun name => name.text = text) (.word text .plain, behind)
      (next, further) := by
  refine (reads_freeName leads isOpen free).bind fun name named => reads_scope.then ?_
  simp only [isOpen.isAsync, isOpen.isGenerator, isOpen.inStaticBlock]
  refine (reads_require (by simp)).then ((reads_require (by simp)).then ?_)
  split
  · exact reads_noteScriptOnly.then (reads_pure named)
  · exact reads_pure named

end Names

/-! ## Operands -/

/-- A value can start at a token: no operator does, and it does not wait for another value. -/
structure OpensValue (scope : Scope) (here : Token × List Char) : Prop where
  sign : Reads scope unaryOp? (· = none) here here
  update : Reads scope updateOp? (· = none) here here
  await : Reads scope (isWord "await") (· = false) here here

/-- No operand goes on at a token, and no operator stands there. -/
structure EndsOperand (scope : Scope) (here : Token × List Char) : Prop where
  chain : ∀ self canCall head, Reads scope (chainStep self canCall head) (· = none) here here
  update : Reads scope updateOp? (· = none) here here
  power : Reads scope (isSymbol "**") (· = false) here here
  binary : Reads scope binaryOp? (· = none) here here
  condition : Reads scope (isSymbol "?") (· = false) here here

/-- A semicolon, a closing brace and an equals sign all end an operand: none of them calls,
subscripts or continues it. -/
theorem endsOperand_of_mem
    (ends : mark ∈ [";", "\x7d", "="]) : EndsOperand scope (.symbol mark, behind) := by
  simp only [List.mem_cons, List.not_mem_nil, or_false] at ends
  rcases ends with rfl | rfl | rfl
  all_goals exact {
    chain := fun _ _ _ => reads_look fun _ => rfl
    update := reads_look fun _ => rfl
    power := reads_look fun _ => rfl
    binary := reads_look fun _ => rfl
    condition := reads_look fun _ => rfl }

section Levels

variable (ends : EndsOperand scope there)
include ends

/-- A value without members and calls behind it is read as the value itself. -/
theorem reads_subject {canCall : Bool}
    (value : Reads scope (primary self canCall) property here there) :
    Reads scope (subject self canCall none) property here there := by
  refine reads_position.bind fun start _ => ?_
  refine value.bind fun node holds => ?_
  have whole : Reads scope (fold (chainStep self canCall) ⟨node, start, false⟩)
      (fun head => property head.node) there there :=
    reads_fold_stop holds (ends.chain self canCall _)
  exact whole.bind fun head holds => reads_pure holds

/-- A value with no sign before it and no step behind it is an operand, and no step is noted. -/
theorem reads_operand (opens : OpensValue scope here)
    (value : Reads scope (subject self true none) property here there) :
    Reads scope (operand self none) (fun found => property found.1 ∧ found.2 = false) here there := by
  refine opens.sign.then (opens.update.then (opens.await.then ?_))
  have unchanged : Reads scope (postfixed self none) property here there :=
    value.bind fun node holds => ends.update.then (reads_pure holds)
  rw [if_neg Bool.false_ne_true]
  exact unchanged.bind fun node holds => reads_pure ⟨holds, rfl⟩

/-- An operand with no operator behind it is what the levels of joined operands come to. The
induction is on the levels. -/
theorem reads_joined (opens : OpensValue scope here)
    (value : Reads scope (subject self true none) property here there) (levels : Nat) :
    Reads scope (joined self none levels) property here there := by
  induction levels with
  | zero =>
    refine (reads_operand ends opens value).bind fun found holds => ?_
    exact ends.power.then (reads_pure holds.1)
  | succ levels inductionHypothesis =>
    refine inductionHypothesis.bind fun node holds => ?_
    exact reads_fold_stop holds (ends.binary.then (reads_pure rfl))

/-- A value with no question mark behind it is no condition, so the conditional level reads the
value alone. -/
theorem reads_conditional (opens : OpensValue scope here)
    (value : Reads scope (subject self true none) property here there) :
    Reads scope (conditional self none) property here there := by
  refine (reads_joined ends opens value 10).bind fun node holds => ?_
  have noMark : Reads scope (eat "?") (· = false) there there :=
    ends.condition.then (reads_pure rfl)
  exact noMark.then (reads_pure holds)

/-- Where no arrow function starts and no value is assigned, an operand is all there is. -/
theorem reads_assignment (opens : OpensValue scope here) (noGenerator : scope.isGenerator = false)
    (noArrow : Reads scope (arrowOrHead self) (· = .inr none) here here)
    (noValue : Reads scope assignOp? (· = none) there there)
    (value : Reads scope (subject self true none) property here there) :
    Reads scope (assignment self) property here there := by
  refine reads_position.bind fun start _ => reads_scope.then ?_
  refine (reads_isWord "yield").then ?_
  rw [noGenerator, Bool.false_and, if_neg Bool.false_ne_true]
  refine noArrow.then ((reads_conditional ends opens value).bind fun node holds => ?_)
  exact noValue.then (reads_pure holds)

end Levels

/-- A word is a variable where nothing around it takes its name away. -/
structure IsVariable (text : String) : Prop where
  free : reservedAlways.contains text = false
  noAwait : text ≠ "await"

/-- A variable is none of the words that are reserved everywhere, which is what the grammar asks of a
word before it takes it for a variable. -/
theorem IsVariable.ne (isVariable : IsVariable text) {word : String}
    (reserved : reservedAlways.contains word = true) : text ≠ word := by
  rintro rfl
  exact Bool.eq_false_iff.mp isVariable.free reserved

section Variables

variable (isVariable : IsVariable text)
include isVariable

/-- A variable as a value. The mark behind it keeps the name `async` from opening a function. -/
theorem reads_variable (isLoose : IsLoose scope) (leads : LeadsTo behind newline (.symbol mark) further)
    (canCall : Bool) : Reads scope (primary self canCall)
      (fun node => ∃ name, node = .identifier name ∧ name.text = text) (.word text .plain, behind)
      (.symbol mark, further) := by
  have isName : Reads scope isVariableName (· = true) (.word text .plain, behind)
      (.word text .plain, behind) := by
    refine reads_token.then (reads_scope.then (reads_pure ?_))
    have noAwait : (text == "await") = false := beq_eq_false_iff_ne.mpr isVariable.noAwait
    have unreserved : scope.reserves text = false := by
      rw [Scope.reserves, isVariable.free, isLoose.loose, isLoose.isGenerator, noAwait]
      simp
    rw [unreserved, Bool.not_false, Bool.or_true]
  have named : Reads scope variableName (fun name => name.text = text) (.word text .plain, behind)
      (.symbol mark, further) :=
    isName.then ((reads_require rfl).then (reads_freeName leads isLoose.toIsOpen isVariable.free))
  have value : Reads scope (do return Node.identifier (← variableName))
      (fun node => ∃ name, node = .identifier name ∧ name.text = text) (.word text .plain, behind)
      (.symbol mark, further) :=
    named.bind fun name holds => reads_pure ⟨name, rfl, holds⟩
  have noFunction : Reads scope (isFollowedBy "function") (· = false) (.word text .plain, behind)
      (.word text .plain, behind) := by
    refine (reads_peek leads).then ?_
    cases newline
    · exact reads_pure rfl
    · exact reads_pure rfl
  refine reads_position.bind fun start _ => reads_token.then ?_
  change Reads scope (wordValue self canCall text) _ _ _
  unfold wordValue
  extract_lets plain
  split
  all_goals first
    | exact absurd rfl (isVariable.ne (by decide))
    | skip
  refine noFunction.then ?_
  rw [Bool.and_false]
  exact value

/-- A variable in front of a mark that ends it is read as that variable and nothing more. -/
theorem reads_variable_alone (isLoose : IsLoose scope)
    (leads : LeadsTo behind newline (.symbol mark) further) (ends : mark ∈ [";", "\x7d", "="]) :
    Reads scope (subject self true none)
      (fun node => ∃ name, node = .identifier name ∧ name.text = text) (.word text .plain, behind)
      (.symbol mark, further) :=
  reads_subject (endsOperand_of_mem ends) (reads_variable isVariable isLoose leads true)

/-- No operator opens with a variable, and nothing waits for one, so a value starts here. -/
theorem opensValue_variable : OpensValue scope (.word text .plain, behind) where
  sign := by
    refine reads_token.then ?_
    split
    all_goals first
      | exact reads_pure rfl
      | next same =>
        cases same
        exact absurd rfl (isVariable.ne (by decide))
      | next same => cases same
  update := reads_look fun _ => rfl
  await := (reads_isWord "await").imp fun _ same =>
    same.trans (beq_eq_false_iff_ne.mpr isVariable.noAwait)

end Variables

/-- In front of a mark that is no arrow, and no parenthesis, a word is no parameter. -/
theorem reads_arrowOrHead (leads : LeadsTo behind newline (.symbol mark) further)
    (noArrow : mark ≠ "=>") (noCall : mark ≠ "(") :
    Reads scope (arrowOrHead self) (· = .inr none) (.word text .plain, behind)
      (.word text .plain, behind) := by
  refine reads_position.bind fun start _ => reads_token.then ?_
  refine (reads_peek leads).then ?_
  split
  · next same =>
    cases same
    exact absurd rfl noArrow
  · next same =>
    cases same
    exact absurd rfl noCall
  · next same =>
    cases same
    have noParameter : Reads scope (isParameterName (.symbol mark)) (· = false)
        (.word text .plain, behind) (.word text .plain, behind) := reads_pure rfl
    refine noParameter.then ?_
    rw [Bool.and_false]
    exact reads_pure rfl
  · exact reads_pure rfl

/-- A value may open with a brace, and no operator does, so the levels above pass the brace on. -/
theorem opensValue_brace : OpensValue scope (.symbol "\x7b", behind) where
  sign := reads_look fun _ => rfl
  update := reads_look fun _ => rfl
  await := reads_isWord "await"

/-- A value may open with the word `super`, which is no operator and opens no function. -/
theorem opensValue_parent : OpensValue scope (.word "super" .plain, behind) where
  sign := reads_look fun _ => rfl
  update := reads_look fun _ => rfl
  await := reads_isWord "await"

/-! ## Statements and programs -/

/-- A word that is neither `function` nor `async` opens no function, so that it is read as a
value. -/
theorem reads_opensFunction (noFunction : text ≠ "function") (notAsync : text ≠ "async") :
    Reads scope opensFunction (· = false) (.word text .plain, behind) (.word text .plain, behind) := by
  refine (reads_isWord "function").then ((reads_isWord "async").then ?_)
  refine (reads_of_sees (sees_isFollowedBy "function")).bind fun follows _ => reads_pure ?_
  simp [means, noFunction, notAsync]

/-- A statement that starts with a variable or the parent of a class, and no label, is an
expression. -/
theorem reads_listed_expression (isStart : text = "o" ∨ text = "super")
    (leads : LeadsTo behind newline (.symbol mark) further) (noLabel : mark ≠ ":")
    (expression : Reads scope (expressionStatement self) property (.word text .plain, behind) there) :
    Reads scope (listed self) property (.word text .plain, behind) there := by
  have noFunction : Reads scope opensFunction (· = false) (.word text .plain, behind)
      (.word text .plain, behind) := by
    rcases isStart with rfl | rfl
    all_goals exact reads_opensFunction (by decide) (by decide)
  have notLabelled : Reads scope isLabel (· = false) (.word text .plain, behind)
      (.word text .plain, behind) := by
    have noAwait : means "await" (.word text .plain) = false := by rcases isStart with rfl | rfl <;> rfl
    refine (reads_isWord "await").then ?_
    rw [noAwait, if_neg Bool.false_ne_true]
    refine (reads_peek leads).then ?_
    split
    · next same =>
      cases same
      exact absurd rfl noLabel
    · exact reads_pure rfl
  have byWord : Reads scope (wordStatement self text) property (.word text .plain, behind) there := by
    rcases isStart with rfl | rfl
    all_goals exact (reads_require rfl).then (noFunction.then (notLabelled.then expression))
  have noVariables : Reads scope variableKind? (· = none) (.word text .plain, behind)
      (.word text .plain, behind) := by
    rcases isStart with rfl | rfl
    all_goals exact reads_look fun _ => rfl
  have noClass : means "class" (.word text .plain) = false := by rcases isStart with rfl | rfl <;> rfl
  refine noVariables.then (noFunction.then ((reads_isWord "class").then ?_))
  rw [noClass, if_neg Bool.false_ne_true]
  exact reads_token.then byWord


/-- An assignment up to a semicolon is a statement, and the node of the assignment is its only
part. -/
theorem reads_expressionStatement
    (leads : LeadsTo behind newline next further)
    (expression : Reads scope.enclosed (self .expression) property here (.symbol ";", behind)) :
    Reads scope (expressionStatement self)
      (fun node => ∃ span value, node = .expressionStatement span value ∧ property value) here
      (next, further) := by
  refine reads_position.bind fun start _ => expression.within.bind fun value holds => ?_
  have ended : Reads scope semicolon (fun _ => True) (.symbol ";", behind) (next, further) :=
    (reads_eat leads ";").then (reads_pure trivial)
  refine ended.bind fun _ _ => (reads_spanFrom start).bind fun span _ => ?_
  exact reads_pure ⟨span, value, rfl, holds⟩

/-- An assignment that a semicolon follows is an expression of one assignment, since there is no
comma to go on with. -/
theorem reads_expression
    (assignment : Reads scope (self .assignment) property here (.symbol ";", behind)) :
    Reads scope (expression self) property here (.symbol ";", behind) := by
  refine assignment.bind fun value holds => ?_
  have alone : Reads scope (fold (fun items => do
      if ← eat "," then return some ((← self .assignment) :: items) else return none) [value])
      (· = [value]) (.symbol ";", behind) (.symbol ";", behind) :=
    reads_fold_stop rfl (reads_look fun _ => rfl)
  exact alone.then (reads_pure holds)

/-- A word that opens no import, export or `await` starts a statement at the top level, as it
would anywhere else. -/
theorem reads_item (levels : Nat)
    (ordinary : text ∉ ["import", "export", "await"])
    (listed : Reads scope (reach levels .listed) property (.word text .plain, behind) there) :
    Reads scope (item (reach levels)) (fun found => ∃ node, found = some node ∧ property node)
      (.word text .plain, behind) there := by
  simp only [List.mem_cons, List.not_mem_nil, or_false, not_or] at ordinary
  have other : ∀ word, text ≠ word → means word (.word text .plain) = false :=
    fun word different => beq_eq_false_iff_ne.mpr different
  have found : Reads scope (do
      if (← isWord "import") && (← opensImport) then return some (← interface importDeclaration)
      else if ← isWord "export" then return some (← interface (exportDeclaration (reach levels)))
      else if ← isWord "await" then return some (← awaitStatement (reach levels))
      else return some (← reach levels .listed))
      (fun found => ∃ node, found = some node ∧ property node) (.word text .plain, behind) there := by
    refine (reads_isWord "import").then ((reads_of_sees sees_opensImport).bind fun opens _ => ?_)
    rw [other _ ordinary.1, Bool.false_and, if_neg Bool.false_ne_true]
    refine (reads_isWord "export").then ?_
    rw [other _ ordinary.2.1, if_neg Bool.false_ne_true]
    refine (reads_isWord "await").then ?_
    rw [other _ ordinary.2.2, if_neg Bool.false_ne_true]
    exact listed.bind fun node holds => reads_pure ⟨node, rfl, holds⟩
  refine reads_token.then (reads_get.bind fun state faces => ?_)
  rw [faces.declared, if_neg Bool.false_ne_true]
  exact found.within

/-- A program of one statement that is no directive is read as the list of that statement. -/
theorem reads_items (levels : Nat)
    (ordinary : text ∉ ["import", "export", "await"])
    (listed : Reads scope (reach levels .listed) property (.word text .plain, behind) (.finish, []))
    (noDirective : ∀ node, property node → isUseStrict node = false) :
    Reads scope (itemsWithDirective (item (reach levels)))
      (fun items => ∃ node, items = [node] ∧ property node) (.word text .plain, behind)
      (.finish, []) := by
  refine (reads_item levels ordinary listed).bind ?_
  rintro _ ⟨node, rfl, holds⟩
  have noMore : Reads scope (many (item (reach levels))) (· = []) (.finish, []) (.finish, []) :=
    reads_many_none (reads_look fun _ => rfl)
  dsimp only
  rw [noDirective node holds, if_neg Bool.false_ne_true]
  exact noMore.then (reads_pure ⟨node, rfl, holds⟩)

section Whole

variable {source : String} (starts : StartsWith source.toList (.word text .plain) behind)
include starts

/-- A text that starts with a word opens at its start. -/
theorem opening?_of_startsWith (unnamed : interpreterLine source.toList = (none, ⟨source.toList, 1⟩)) :
    opening? source = some ⟨none, ⟨source.toList, 1⟩, { newline := true }, ⟨source.toList, 1⟩⟩ := by
  let place : Cursor := ⟨source.toList, 1⟩
  have noTrivia : place.trivia true = some ({ newline := true }, place) :=
    StartsWith.trivia starts true
  rw [opening?, unnamed]
  change (place.trivia true >>= fun found => some (Opening.mk none place found.1 found.2)) = _
  rw [noTrivia]
  rfl

/-- The items of a text are the one that it is read as. -/
theorem reads_whole {size : Nat} (ordinary : text ∉ ["import", "export", "await"])
    (noDirective : ∀ node, property node → isUseStrict node = false)
    (listed : ∀ levels, Reads { size := size + 1 } (reach (levels + 5) .listed) property
      (.word text .plain, behind) (.finish, [])) :
    Reads { size := size + 1 }
      (Parse.items { newline := true } ⟨source.toList, 1⟩ (levelsFor (size + 1)))
      (fun answer => ∃ node, answer.1 = [node] ∧ property node) (.finish, []) (.finish, []) := by
  have arrived : Reads { size := size + 1 } (arrive { newline := true } ⟨source.toList, 1⟩ 1 1)
      (fun _ => True) (.finish, []) (.word text .plain, behind) := by
    intro state faces
    have atStart : (Cursor.mk source.toList 1).text = source.toList := rfl
    obtain ⟨later, moved, facesLater⟩ := exists_arrive starts atStart { newline := true } 1 1
      { size := size + 1 } faces.isModule faces.declared
    exact ⟨(), later, moved, trivial, facesLater⟩
  have deep : levelsFor (size + 1) = (8 * size + 19) + 5 := by
    rw [levelsFor]
    omega
  rw [deep]
  refine arrived.bind fun _ _ =>
    (reads_items _ ordinary (listed _) noDirective).bind fun items holds => ?_
  refine (reads_get.bind fun state faces => reads_require ?_).then ?_
  · rw [faces.isModule, Bool.false_and, Bool.not_false]
  · exact reads_get.bind fun state _ => reads_pure holds

/-- A text that is read as one statement is a program. -/
theorem isStatement_of_reads (unnamed : interpreterLine source.toList = (none, ⟨source.toList, 1⟩))
    (ordinary : text ∉ ["import", "export", "await"])
    (noDirective : ∀ node, property node → isUseStrict node = false)
    (listed : ∀ size levels, Reads { size := size + 1 } (reach (levels + 5) .listed) property
      (.word text .plain, behind) (.finish, [])) : IsStatement source property := by
  let place : Cursor := ⟨source.toList, 1⟩
  let opening : Opening := ⟨none, place, { newline := true }, place⟩
  have opens : opening? source = some opening := opening?_of_startsWith starts unnamed
  obtain ⟨size, filled⟩ : ∃ size, extentOf source.toList = size + 1 := by
    cases text : source.toList with
    | nil =>
      rw [text] at starts
      cases starts.lexes
    | cons c rest => exact Nat.exists_eq_add_one.mpr (extentOf_pos c rest)
  have whole := reads_whole starts ordinary noDirective (listed size)
  obtain ⟨⟨items, finished⟩, final, read, ⟨node, only, holds⟩, -⟩ := whole {} ⟨rfl, rfl, rfl, rfl⟩
  have answered : opening.items = .ok (items, finished) := by
    change (Parse.items opening.trivia place (levelsFor (extentOf source.toList))
      { size := extentOf source.toList } {} >>= fun answer => .ok answer.1) = _
    rw [filled, read]
    rfl
  have silent : openingComments source = [] := by
    rw [openingComments, opens]
    rfl
  unfold IsStatement Program.parse
  rw [opens]
  dsimp only
  rw [answered]
  refine ⟨_, node, rfl, rfl, only, holds, ?_⟩
  simp [Program.leadingText, silent, interpreterText, opening]

end Whole

end Parse

end PropertyMangling.Script
