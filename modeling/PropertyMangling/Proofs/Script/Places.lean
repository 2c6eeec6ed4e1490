import PropertyMangling.Proofs.Script.Operands
import PropertyMangling.Script.Layout
/-!
# The places of property names

The smallest programs with a property behind a point, as the key of an object or
of a class, as the key of a pattern, under the name of its variable, and as a
member of the parent of a class. Each of them is read with any plain name in its
place, in both styles that programs are printed in, except that a class takes
`constructor` for something else.
-/
namespace PropertyMangling.Script

/-! ## What stands between tokens -/

namespace Style

/-- The gap of a style. -/
def space : Style → String
  | compact => ""
  | readable => " "

/-- The line end of a style, with the indentation of the line behind it. -/
def lineStart (level : Nat) : Style → String
  | compact => ""
  | readable => "\n" ++ String.ofList (indentation level)

end Style

section Leads

variable {text further : List Char} {newline : Bool} {next : Token}
  (leads : LeadsTo text newline next further)
include leads

/-- Any number of spaces lead to what stands behind them, since the scanner passes them over. -/
theorem LeadsTo.spaces (count : Nat) : LeadsTo (List.replicate count ' ' ++ text) newline next further := by
  induction count with
  | zero => exact leads
  | succ count inductionHypothesis =>
    rw [List.replicate_succ]
    exact .space inductionHypothesis

/-- The gap of a style leads to what stands behind it, on the same line. -/
theorem LeadsTo.gap (style : Style) : LeadsTo (style.space.toList ++ text) newline next further := by
  cases style with
  | compact => exact leads
  | readable => exact .space leads

/-- The line end of a style leads to what stands behind it. -/
theorem LeadsTo.line (style : Style) (level : Nat) :
    LeadsTo ((style.lineStart level).toList ++ text) (style == .readable || newline) next further := by
  cases style with
  | compact => exact leads
  | readable =>
    have whole : (Style.readable.lineStart level).toList ++ text =
        '\n' :: (List.replicate (4 * level) ' ' ++ text) := by
      simp [Style.lineStart, indentation]
    rw [whole]
    exact .lineEnd (leads.spaces _)

end Leads

/-- A mark of one character, or the end of the text, starts what it stands in front of. -/
theorem leadsTo_cons {c : Char} {next : Token} {further : List Char} (solid : isSolid c = true)
    (lexes : Lexer.token (c :: further) = some (next, further)) (unescaped : next.isUnescaped = true) :
    LeadsTo (c :: further) false next further :=
  .here (startsWith_cons solid lexes unescaped)

/-- No text leads to the end of it, which counts as a token. -/
theorem leadsTo_finish : LeadsTo [] false .finish [] := .here startsWith_finish

/-! ## Statements -/

/-- A statement that reads a member of what stands in front of its point. -/
def IsMember (name : String) (host node : Node) : Prop :=
  ∃ whole place member, node = .expressionStatement whole (.member place host member false) ∧
    member.text = name

/-- The variable `o`. -/
def IsHost (host : Node) : Prop := ∃ name, host = .identifier name ∧ name.text = "o"

/-- A statement that gives a variable an object with one item. -/
def IsObject (item node : Node) : Prop :=
  ∃ whole place target span, node = .expressionStatement whole
    (.assign place none (.identifier target) (.object span [item] false)) ∧ target.text = "o"

/-- The declaration of a function whose parameter is a pattern with one item. -/
def IsFunction (item node : Node) : Prop :=
  ∃ own span, node = .functionDeclaration {} own [.objectPattern span [item]] [] ∧ own.text = "f"

/-- The declaration of a class with one member. -/
def IsClass (member node : Node) : Prop :=
  ∃ own, node = .classDeclaration own none [member] ∧ own.text = "A"

/-- A method without parameters and statements. -/
def IsMethod (name : String) (member : Node) : Prop :=
  ∃ key, member = .classMethod false .method {} (.keyName key) [] [] ∧ key.text = name

/-- A static block of one statement. -/
def IsBlockOf (node member : Node) : Prop := member = .staticBlock [node]

/-- A property under the name of its variable. -/
def IsShorthand (name : String) (item : Node) : Prop :=
  ∃ span key, item = .shorthand span key none ∧ key.text = name

/-- A property with a variable of another name. -/
def IsWrittenOut (name own : String) (item : Node) : Prop :=
  ∃ key value, item = .property (.keyName key) (.identifier value) ∧ key.text = name ∧
    value.text = own

namespace Parse

variable {scope : Scope} {here : Token × List Char} {next : Token} {newline : Bool}
  {behind further tail : List Char} {text name own mark : String} {self : Goal → Parse Node}
  {levels : Nat} {property : Node → Prop}

section Member

variable (plain : isPlainName name = true)
include plain

/-- A member of a value, up to the semicolon behind it. -/
theorem reads_member (host : Reads scope (primary self true) property here
      (.symbol ".", name.toList ++ ';' :: behind)) :
    Reads scope (subject self true none)
      (fun node => ∃ place host member, node = .member place host member false ∧ property host ∧
        member.text = name) here (.symbol ";", behind) := by
  have atName : LeadsTo (name.toList ++ ';' :: behind) false (.word name .plain) (';' :: behind) :=
    .here (startsWith_name plain rfl)
  have named : ∀ head : Head, Reads scope (namedMember head false)
      (fun node => ∃ place member, node = .member place head.node member false ∧ member.text = name)
      (.word name .plain, ';' :: behind) (.symbol ";", behind) := by
    refine fun head => reads_token.then ((reads_anyName (leadsTo_cons rfl rfl rfl)).bind ?_)
    intro member holds
    exact (reads_spanFrom head.start).bind fun place _ => reads_pure ⟨place, member, rfl, holds⟩
  refine reads_position.bind fun start _ => host.bind fun value holds => ?_
  have grown : Reads scope (fold (chainStep self true) ⟨value, start, false⟩)
      (fun head => ∃ place member, head.node = .member place value member false ∧
        member.text = name) (.symbol ".", name.toList ++ ';' :: behind) (.symbol ";", behind) := by
    refine reads_fold_once ?_ fun _ _ => (endsOperand_of_mem (by decide)).chain self true _
    refine reads_token.then ((reads_advance atName).bind fun _ _ => (named _).bind ?_)
    rintro _ ⟨place, member, rfl, isName⟩
    exact reads_pure ⟨_, rfl, place, member, rfl, isName⟩
  refine Reads.then (reads_pure rfl) (grown.bind ?_)
  rintro _ ⟨place, member, same, isName⟩
  exact reads_pure ⟨place, value, member, same, holds, isName⟩

/-- A statement that reads a member, in front of any other token. -/
theorem reads_memberStatement (isStart : text = "o" ∨ text = "super")
    (noGenerator : scope.isGenerator = false)
    (opens : OpensValue scope.enclosed (.word text .plain, '.' :: (name.toList ++ ';' :: behind)))
    (host : Reads scope.enclosed (primary (reach (levels + 1)) true) property
      (.word text .plain, '.' :: (name.toList ++ ';' :: behind))
      (.symbol ".", name.toList ++ ';' :: behind))
    (leads : LeadsTo behind newline next further) :
    Reads scope (reach (levels + 4) .listed) (fun node => ∃ host, IsMember name host node ∧ property host)
      (.word text .plain, '.' :: (name.toList ++ ';' :: behind)) (next, further) := by
  have atPoint : LeadsTo ('.' :: (name.toList ++ ';' :: behind)) false (.symbol ".")
      (name.toList ++ ';' :: behind) := .here (startsWith_point plain)
  have value : Reads scope.enclosed (reach (levels + 3) .expression)
      (fun node => ∃ place host member, node = .member place host member false ∧ property host ∧
        member.text = name)
      (.word text .plain, '.' :: (name.toList ++ ';' :: behind)) (.symbol ";", behind) :=
    reads_expression (reads_assignment (endsOperand_of_mem (by decide)) opens noGenerator
      (reads_arrowOrHead atPoint (by decide) (by decide)) (reads_look fun _ => rfl)
      (reads_member plain host))
  refine (reads_listed_expression isStart atPoint (by decide)
    (reads_expressionStatement leads value)).imp ?_
  rintro _ ⟨whole, _, rfl, place, host, member, rfl, holds, isName⟩
  exact ⟨host, ⟨whole, place, member, rfl, isName⟩, holds⟩

/-- A plain name can stand behind a point, and the statement is a member with that name. -/
theorem isStatement_member :
    IsStatement ("o." ++ name ++ ";") (fun node => ∃ host, IsMember name host node ∧ IsHost host) := by
  have text : ("o." ++ name ++ ";").toList = "o".toList ++ '.' :: (name.toList ++ [';']) := by simp
  have starts : StartsWith ("o." ++ name ++ ";").toList (.word "o" .plain)
      ('.' :: (name.toList ++ [';'])) := text ▸ startsWith_name (by decide) rfl
  have isVariable : IsVariable "o" := ⟨by decide, by decide⟩
  refine isStatement_of_reads starts (text ▸ rfl) (by decide) ?_ fun size levels =>
    reads_memberStatement plain (.inl rfl) rfl (opensValue_variable isVariable)
      (reads_variable isVariable ⟨⟨rfl, rfl, rfl, rfl, rfl⟩, rfl⟩ (.here (startsWith_point plain)) true)
      leadsTo_finish
  rintro _ ⟨_, ⟨_, _, _, rfl, _⟩, _⟩
  rfl

end Member

section Keys

/-- A word in front of a mark that follows keys is a key itself, also where it could be a modifier. -/
theorem reads_eatModifier {isModifier : Token → Bool} {ends : List String} {sameLine : Bool}
    {found : Token} (leads : LeadsTo behind newline (.symbol mark) further)
    (follows : ends.contains mark = true) :
    Reads scope (eatModifier isModifier ends sameLine) (· = false) (found, behind) (found, behind) := by
  have isKey : Reads scope (isKeyItself ends sameLine) (· = true) (found, behind) (found, behind) :=
    (reads_peek leads).then (reads_pure (by rw [follows, Bool.true_or]))
  refine reads_token.then ?_
  split
  · exact isKey.then (reads_pure rfl)
  · exact reads_pure rfl

/-- A key without modifiers belongs to an ordinary method, if to any. -/
theorem reads_methodModifiers {ends : List String} {sameLine : Bool}
    (leads : LeadsTo behind newline (.symbol mark) further) (follows : ends.contains mark = true) :
    Reads scope (methodModifiers ends sameLine) (· = (.method, {})) (.word text .plain, behind)
      (.word text .plain, behind) := by
  have followsStar : ("*" :: ends).contains mark = true := by
    rw [List.contains_cons, follows, Bool.or_true]
  exact reads_eat_word.then ((reads_eatModifier leads follows).then
    ((reads_eatModifier leads followsStar).then ((reads_eatModifier leads followsStar).then
      (reads_pure rfl))))

/-- Any word is a key, reserved or not, and its node has the name as it is written. -/
theorem reads_propertyKey (leads : LeadsTo behind newline next further) :
    Reads scope (propertyKey self) (fun key => ∃ name, key = .keyName name ∧ name.text = text)
      (.word text .plain, behind) (next, further) :=
  reads_token.then ((reads_anyName leads).bind fun name holds => reads_pure ⟨name, rfl, holds⟩)

end Keys

section Object

/-- The item of an object that is written out, with the variable behind its colon. -/
theorem reads_objectItem (isVariable : IsVariable own) (isLoose : IsLoose scope)
    (atColon : LeadsTo tail false (.symbol ":") behind)
    (atValue : LeadsTo behind false (.word own .plain) further)
    (atBrace : LeadsTo further newline (.symbol "\x7d") [';']) :
    Reads scope (objectItem (reach (levels + 1))) (IsWrittenOut name own) (.word name .plain, tail)
      (.symbol "\x7d", [';']) := by
  have assigned : Reads scope.enclosed (reach (levels + 1) .assignment)
      (fun node => ∃ name, node = .identifier name ∧ name.text = own)
      (.word own .plain, further) (.symbol "\x7d", [';']) :=
    reads_assignment (endsOperand_of_mem (by decide)) (opensValue_variable isVariable)
      isLoose.isGenerator (reads_arrowOrHead atBrace (by decide) (by decide))
      (reads_look fun _ => rfl) (reads_variable_alone isVariable isLoose.enclosed atBrace (by decide))
  refine reads_position.bind fun start _ => reads_eat_word.then ?_
  refine (reads_methodModifiers atColon rfl).then ((reads_propertyKey atColon).bind ?_)
  rintro _ ⟨key, rfl, isKey⟩
  refine reads_isSymbol.then ((reads_eat atValue ":").then (assigned.within.bind ?_))
  rintro _ ⟨value, rfl, isValue⟩
  exact reads_pure ⟨key, value, rfl, isKey, isValue⟩

/-- The item of an object that is named like its variable. -/
theorem reads_objectShorthand (atBrace : LeadsTo tail newline (.symbol "\x7d") [';']) :
    Reads scope (objectItem (reach levels)) (IsShorthand name) (.word name .plain, tail)
      (.symbol "\x7d", [';']) := by
  refine reads_position.bind fun start _ => reads_eat_word.then ?_
  refine (reads_methodModifiers atBrace rfl).then ((reads_propertyKey atBrace).bind ?_)
  rintro _ ⟨key, rfl, isKey⟩
  refine reads_isSymbol.then (Reads.then (reads_look fun _ => rfl) ?_)
  exact Reads.then (reads_look fun _ => rfl) (reads_pure ⟨key.span, key, rfl, isKey⟩)

/-- A variable in front of the sign that gives it a value. -/
theorem reads_assignmentTarget {target : Name} (isTarget : target.text = "o") :
    Reads scope (assignmentTarget (.identifier target)) (· = .identifier target) here here := by
  refine Reads.then (reads_pure rfl) ((reads_require rfl).then ?_)
  have unfixed : (Node.identifier target).targetNames.any isFixed = false := by
    rw [Node.targetNames, Node.namesOfTarget, isTarget]
    rfl
  refine Reads.then (reads_scope.then (reads_require ?_)) (reads_pure rfl)
  rw [unfixed, Bool.and_false, Bool.not_false]

section Items

variable (atItem : LeadsTo behind newline (.word name .plain) tail)
  (item : ∀ inner, IsLoose inner → Reads inner (objectItem (reach (levels + 1))) property
    (.word name .plain, tail) (.symbol "\x7d", [';']))
include atItem item

/-- An object with one item is read as the item between its braces. -/
theorem reads_object (filled : 0 < scope.size) (isLoose : IsLoose scope) :
    Reads scope (primary (reach (levels + 1)) true)
      (fun node => ∃ span item, node = .object span [item] false ∧ property item)
      (.symbol "\x7b", behind) (.symbol ";", []) := by
  refine reads_position.bind fun _ _ => reads_token.then ?_
  refine reads_position.bind fun start _ => (reads_expect atItem "\x7b").then ?_
  refine (reads_commaList_one filled (by decide) (leadsTo_cons rfl rfl rfl) reads_eat_word
    (item scope isLoose)).bind ?_
  rintro _ ⟨found, rfl, holds⟩
  exact (reads_spanFrom start).bind fun span _ => reads_pure ⟨span, found, rfl, holds⟩

/-- The variable is given the object, since a brace behind an equals sign opens one. -/
theorem reads_objectAssignment (atEquals : LeadsTo text.toList false (.symbol "=") further)
    (atBrace : LeadsTo further false (.symbol "\x7b") behind) (filled : 0 < scope.size)
    (isLoose : IsLoose scope) :
    Reads scope (reach (levels + 3) .assignment)
      (fun node => ∃ place target span item, node = .assign place none (.identifier target)
        (.object span [item] false) ∧ target.text = "o" ∧ property item)
      (.word "o" .plain, text.toList) (.symbol ";", []) := by
  have isVariable : IsVariable "o" := ⟨by decide, by decide⟩
  have object : Reads scope (reach (levels + 2) .assignment)
      (fun node => ∃ span item, node = .object span [item] false ∧ property item)
      (.symbol "\x7b", behind) (.symbol ";", []) :=
    reads_assignment (endsOperand_of_mem (by decide)) opensValue_brace isLoose.isGenerator
      (reads_look fun _ => rfl) (reads_look fun _ => rfl)
      (reads_subject (endsOperand_of_mem (by decide)) (reads_object atItem item filled isLoose))
  have noOperator : Reads scope assignOp? (· = some none) (.symbol "=", further)
      (.symbol "=", further) := reads_look fun _ => rfl
  refine reads_position.bind fun start _ => reads_scope.then ((reads_isWord "yield").then ?_)
  rw [isLoose.isGenerator, Bool.false_and, if_neg Bool.false_ne_true]
  refine (reads_arrowOrHead atEquals (by decide) (by decide)).then ?_
  refine (reads_conditional (endsOperand_of_mem (by decide)) (opensValue_variable isVariable)
    (reads_variable_alone isVariable isLoose atEquals (by decide))).bind ?_
  rintro _ ⟨target, rfl, isTarget⟩
  refine noOperator.then ((reads_assignmentTarget isTarget).then ?_)
  refine (reads_advance atBrace).bind fun _ _ => object.bind ?_
  rintro _ ⟨span, found, rfl, holds⟩
  refine (reads_spanFrom start).bind fun place _ => ?_
  exact reads_pure ⟨place, target, span, found, rfl, isTarget, holds⟩

end Items

/-- A text that gives the variable `o` an object with one item is a program. -/
theorem isStatement_object {rest : String} (atItem : LeadsTo behind newline (.word name .plain) tail)
    (item : ∀ scope levels, IsLoose scope → Reads scope (objectItem (reach (levels + 1))) property
      (.word name .plain, tail) (.symbol "\x7d", [';']))
    (atEquals : LeadsTo rest.toList false (.symbol "=") further)
    (atBrace : LeadsTo further false (.symbol "\x7b") behind)
    (ends : Lexer.endsName rest.toList = true) :
    IsStatement ("o" ++ rest) (fun node => ∃ item, IsObject item node ∧ property item) := by
  have whole : ("o" ++ rest).toList = "o".toList ++ rest.toList := String.toList_append
  have starts : StartsWith ("o" ++ rest).toList (.word "o" .plain) rest.toList :=
    whole ▸ startsWith_name (by decide) ends
  have unnamed : interpreterLine ("o" ++ rest).toList = (none, ⟨("o" ++ rest).toList, 1⟩) := by
    rw [whole]
    rfl
  refine isStatement_of_reads starts unnamed (by decide) ?_ fun size levels => ?_
  · rintro _ ⟨_, ⟨_, _, _, _, rfl, _⟩, _⟩
    rfl
  · have isLoose : IsLoose (Scope.enclosed { size := size + 1 }) := ⟨⟨rfl, rfl, rfl, rfl, rfl⟩, rfl⟩
    refine (reads_listed_expression (.inl rfl) atEquals (by decide)
      (reads_expressionStatement leadsTo_finish (reads_expression
        (reads_objectAssignment atItem (fun inner => item inner levels) atEquals atBrace size.succ_pos
          isLoose)))).imp ?_
    rintro _ ⟨statement, _, rfl, place, target, span, found, rfl, isTarget, holds⟩
    exact ⟨found, ⟨statement, place, target, span, rfl, isTarget⟩, holds⟩

end Object

section Class

/-- Any word is the key of a method without parameters and statements, apart from the one that the
constructor has. -/
theorem reads_method (ordinary : name ≠ "constructor")
    (atParen : LeadsTo tail false (.symbol "(") behind)
    (parts : ∀ inner, Reads inner (functionParts self fun scope => scope.method {}) (· = ([], []))
      (.symbol "(", behind) (next, further)) :
    Reads scope (classItem self) (fun found => ∃ member, found = some member ∧ IsMethod name member)
      (.word name .plain, tail) (next, further) := by
  have notBefore : Reads scope (isBefore "\x7b") (· = false) (.word name .plain, tail)
      (.word name .plain, tail) := (reads_peek atParen).then (reads_pure rfl)
  have keyed : Reads scope (classKey self) (fun key => ∃ word, key = .keyName word ∧ word.text = name)
      (.word name .plain, tail) (.symbol "(", behind) :=
    reads_token.then (reads_propertyKey atParen)
  refine reads_isSymbol_word.then (reads_eat_word.then ((reads_eatModifier atParen rfl).then ?_))
  refine (reads_isWord "static").then (notBefore.then (reads_isSymbol_word.then ?_))
  refine (reads_methodModifiers atParen rfl).then (keyed.bind ?_)
  rintro _ ⟨key, rfl, named⟩
  have noConstructor : ¬ isKey "constructor" (.keyName key) = true := by
    simpa [isKey, named] using ordinary
  refine reads_isSymbol.then ?_
  rw [if_pos (by decide), if_neg noConstructor]
  exact (parts scope).then (Reads.then (reads_pure rfl) (reads_pure ⟨_, rfl, key, rfl, named⟩))

/-- The word `static` in front of a brace opens a block, whose statement may name members of the
parent. -/
theorem reads_staticBlock (member : scope.superMember = true)
    (atBrace : LeadsTo tail false (.symbol "\x7b") text.toList)
    (atStatement : LeadsTo text.toList newline (.word "super" .plain) behind)
    (statement : ∀ inner : Scope, inner.superMember = true → inner.isGenerator = scope.isGenerator →
      Reads inner (self .listed) property (.word "super" .plain, behind) (.symbol "\x7d", further))
    {there : Token × List Char} (closes : ∀ inner : Scope, Reads inner (expect "\x7d") (· = ())
      (.symbol "\x7d", further) there) :
    Reads scope (classItem self)
      (fun found => ∃ member, found = some member ∧ ∃ node, IsBlockOf node member ∧ property node)
      (.word "static" .plain, tail) there := by
  have isModifier : Reads scope (eatModifier (means "static") classKeyEnds false) (· = true)
      (.word "static" .plain, tail) (.symbol "\x7b", text.toList) := by
    have noKey : Reads scope (isKeyItself classKeyEnds false) (· = false)
        (.word "static" .plain, tail) (.word "static" .plain, tail) :=
      (reads_peek atBrace).then (reads_pure rfl)
    exact reads_token.then (noKey.then ((reads_advance atBrace).bind fun _ _ => reads_pure rfl))
  let inner := scope.staticBlock
  have listed : Reads inner (listedItem self)
      (fun found => ∃ node, found = some node ∧ property node) (.word "super" .plain, behind)
      (.symbol "\x7d", further) :=
    reads_isSymbol_word.then ((statement inner member rfl).bind fun node holds =>
      reads_pure ⟨node, rfl, holds⟩)
  have noMore : Reads inner (listedItem self) (· = none) (.symbol "\x7d", further)
      (.symbol "\x7d", further) := reads_isSymbol.then (reads_pure rfl)
  have body : Reads inner (blockBody self) (fun body => ∃ node, body = [node] ∧ property node)
      (.symbol "\x7b", text.toList) there :=
    (reads_expect atStatement "\x7b").then ((reads_many_one listed noMore).closed (closes inner))
  have notTwice : Reads scope (isWord "static") (· = false) (.symbol "\x7b", text.toList)
      (.symbol "\x7b", text.toList) := reads_look fun _ => rfl
  have follows : Reads scope (isBefore "\x7b") (fun _ => True) (.symbol "\x7b", text.toList)
      (.symbol "\x7b", text.toList) :=
    (reads_peek atStatement).then (reads_pure trivial)
  refine reads_isSymbol_word.then (reads_eat_word.then (isModifier.then ?_))
  refine notTwice.then (follows.bind fun _ _ => ?_)
  rw [Bool.and_false, Bool.false_and, if_neg Bool.false_ne_true]
  refine reads_isSymbol.then (body.within.bind ?_)
  rintro _ ⟨node, rfl, holds⟩
  exact reads_pure ⟨_, rfl, node, rfl, holds⟩

/-- The parent of a class may be named in front of a point where the scope has one. -/
theorem reads_parent (member : scope.superMember = true)
    (leads : LeadsTo behind false (.symbol ".") further) :
    Reads scope (primary self true) (· = .word .parent) (.word "super" .plain, behind)
      (.symbol ".", further) := by
  refine reads_position.bind fun _ _ => reads_token.then ((reads_expectWord leads "super").then ?_)
  refine reads_isSymbol.then (Reads.then (reads_look fun _ => rfl) ?_)
  exact reads_scope.then ((reads_require member).then (reads_pure rfl))

/-- A class with the name `A` and with one member is read from its word up to its closing brace. -/
theorem reads_classParts {size levels : Nat} {rest : List Char} {key : String}
    (ends : Lexer.endsName rest = true) (atBrace : LeadsTo rest false (.symbol "\x7b") further)
    (atMember : LeadsTo further newline (.word key .plain) tail)
    (member : Reads (Scope.ofClass { size := size + 1 }).members (classItem (reach (levels + 4)))
      (fun found => ∃ member, found = some member ∧ property member) (.word key .plain, tail)
      (.symbol "\x7d", [])) :
    Reads { size := size + 1 } (classParts (reach (levels + 4)) do
        require (!(← isWord "let"))
        bindingName)
      (fun parts => ∃ own member, parts = (own, none, [member]) ∧ own.text = "A" ∧ property member)
      (.word "class" .plain, ' ' :: 'A' :: rest) (.finish, []) := by
  let scope : Scope := Scope.ofClass { size := size + 1 }
  have isName : StartsWith ("A".toList ++ rest) (.word "A" .plain) rest :=
    startsWith_name (by decide) ends
  have atName : LeadsTo (' ' :: 'A' :: rest) false (.word "A" .plain) rest := .space (.here isName)
  have isOpen : IsOpen scope := ⟨rfl, rfl, rfl, rfl, rfl⟩
  have declared : Reads scope (do
      require (!(← isWord "let"))
      bindingName) (fun own => own.text = "A") (.word "A" .plain, rest)
      (.symbol "\x7b", further) :=
    (reads_isWord "let").then ((reads_require rfl).then (reads_bindingName atBrace isOpen rfl))
  have noParent : Reads scope (eatWord "extends") (· = false) (.symbol "\x7b", further)
      (.symbol "\x7b", further) := reads_look fun _ => rfl
  have noMore : Reads scope.members (classItem (reach (levels + 4))) (· = none) (.symbol "\x7d", [])
      (.symbol "\x7d", []) := reads_isSymbol.then (reads_pure rfl)
  have members : Reads scope (within Scope.members (many (classItem (reach (levels + 4)))))
      (fun members => ∃ member, members = [member] ∧ property member) (.word key .plain, tail)
      (.symbol "\x7d", []) :=
    (reads_many_one member noMore).within
  refine Reads.closed (Reads.within ?_) (reads_expect leadsTo_finish "\x7d")
  refine (reads_expectWord atName "class").then (declared.bind fun own isOwn =>
    noParent.then (Reads.then (reads_pure rfl) ?_))
  refine (reads_expect atMember "\x7b").then (members.bind ?_)
  rintro _ ⟨found, rfl, holds⟩
  have single : decide (([found].filter isConstructor).length ≤ 1) = true :=
    decide_eq_true (List.length_filter_le _ _)
  exact (reads_require single).then (reads_pure ⟨own, found, rfl, isOwn, holds⟩)

/-- A text that declares the class `A` with one member is a program. -/
theorem isStatement_class {rest : String} {key : String}
    (ends : Lexer.endsName rest.toList = true) (atBrace : LeadsTo rest.toList false (.symbol "\x7b") further)
    (atMember : LeadsTo further newline (.word key .plain) tail)
    (member : ∀ scope levels, scope.superMember = true → scope.isGenerator = false →
      Reads scope (classItem (reach (levels + 4)))
        (fun found => ∃ member, found = some member ∧ property member) (.word key .plain, tail)
        (.symbol "\x7d", [])) :
    IsStatement ("class A" ++ rest) (fun node => ∃ member, IsClass member node ∧ property member) := by
  have whole : ("class A" ++ rest).toList = "class".toList ++ ' ' :: 'A' :: rest.toList := by simp
  have starts : StartsWith ("class A" ++ rest).toList (.word "class" .plain)
      (' ' :: 'A' :: rest.toList) := whole ▸ startsWith_name (by decide) rfl
  have unnamed : interpreterLine ("class A" ++ rest).toList =
      (none, ⟨("class A" ++ rest).toList, 1⟩) := by
    rw [whole]
    rfl
  refine isStatement_of_reads starts unnamed (by decide) ?_ fun size levels => ?_
  · rintro _ ⟨_, ⟨_, rfl, _⟩, _⟩
    rfl
  · have parts := reads_classParts ends atBrace atMember
      (member (Scope.ofClass { size := size + 1 }).members levels rfl rfl)
    have noVariables : Reads { size := size + 1 } variableKind? (· = none)
        (.word "class" .plain, ' ' :: 'A' :: rest.toList)
        (.word "class" .plain, ' ' :: 'A' :: rest.toList) := reads_look fun _ => rfl
    refine noVariables.then ((reads_opensFunction (by decide) (by decide)).then ?_)
    refine (reads_isWord "class").then (parts.bind ?_)
    rintro _ ⟨own, found, rfl, isOwn, holds⟩
    exact reads_pure ⟨found, ⟨own, rfl, isOwn⟩, holds⟩

/-- What stands behind the name of a class with one method. -/
def methodText (style : Style) (name : String) : String :=
  style.space ++ "\x7b" ++ style.lineStart 1 ++ name ++ "()" ++ style.space ++ "\x7b\x7d" ++
    style.lineStart 0 ++ "\x7d"

/-- A plain name can be the key of a class, apart from the one that its constructor has. -/
theorem isStatement_method (style : Style) (plain : isPlainName name = true)
    (ordinary : name ≠ "constructor") : IsStatement ("class A" ++ methodText style name)
      (fun node => ∃ member, IsClass member node ∧ IsMethod name member) := by
  let body : List Char := style.space.toList ++ '\x7b' :: '\x7d' :: ((style.lineStart 0).toList ++ ['\x7d'])
  have whole : (methodText style name).toList = style.space.toList ++
      '\x7b' :: ((style.lineStart 1).toList ++ (name.toList ++ '(' :: ')' :: body)) := by
    simp [methodText, body]
  have ends : Lexer.endsName (methodText style name).toList = true := by
    rw [whole]
    cases style <;> rfl
  have parts (levels : Nat) (inner : Scope) :
      Reads inner (functionParts (reach (levels + 4)) fun scope => scope.method {}) (· = ([], []))
        (.symbol "(", ')' :: body) (.symbol "\x7d", []) := by
    cases style
    all_goals exact reads_of_standing fun _ => ⟨_, _, rfl, rfl, rfl, rfl, rfl, rfl⟩
  refine isStatement_class ends (whole ▸ (leadsTo_cons rfl rfl rfl).gap style)
    (LeadsTo.line (.here (startsWith_name plain rfl)) style 1) fun scope levels _ _ => ?_
  exact reads_method ordinary (leadsTo_cons rfl rfl rfl) (parts levels)

/-- What stands behind the name of a class whose static block reads a member of the parent. -/
def parentText (style : Style) (name : String) : String :=
  style.space ++ "\x7b" ++ style.lineStart 1 ++ "static\x7b" ++ style.lineStart 2 ++ "super." ++ name ++
    ";" ++ style.lineStart 1 ++ "\x7d" ++ style.lineStart 0 ++ "\x7d"

/-- A plain name can be a member of the parent of a class. -/
theorem isStatement_parent (style : Style) (plain : isPlainName name = true) :
    IsStatement ("class A" ++ parentText style name) (fun node => ∃ member, IsClass member node ∧
      ∃ statement, IsBlockOf statement member ∧ ∃ host, IsMember name host statement ∧
        host = .word .parent) := by
  let last : List Char := (style.lineStart 0).toList ++ ['\x7d']
  let behind : List Char := name.toList ++ ';' :: ((style.lineStart 1).toList ++ '\x7d' :: last)
  let statement : String := style.lineStart 2 ++ "super." ++ name ++ ";" ++ style.lineStart 1 ++ "\x7d" ++
    style.lineStart 0 ++ "\x7d"
  have inside : statement.toList = (style.lineStart 2).toList ++ ("super".toList ++ '.' :: behind) := by
    simp [statement, behind, last]
  have whole : (parentText style name).toList = style.space.toList ++
      '\x7b' :: ((style.lineStart 1).toList ++ ("static".toList ++ '\x7b' :: statement.toList)) := by
    simp [parentText, statement]
  have ends : Lexer.endsName (parentText style name).toList = true := by
    rw [whole]
    cases style <;> rfl
  have isStatic : StartsWith ("static".toList ++ '\x7b' :: statement.toList) (.word "static" .plain)
      ('\x7b' :: statement.toList) := startsWith_name (by decide) rfl
  have atStatic := LeadsTo.line (.here isStatic) style 1
  have atBrace : LeadsTo (parentText style name).toList false (.symbol "\x7b")
      ((style.lineStart 1).toList ++ ("static".toList ++ '\x7b' :: statement.toList)) := by
    rw [whole]
    exact (leadsTo_cons rfl rfl rfl).gap style
  have atParent : StartsWith ("super".toList ++ '.' :: behind) (.word "super" .plain)
      ('.' :: behind) := startsWith_name (by decide) rfl
  have atStatement := LeadsTo.line (.here atParent) style 2
  rw [← inside] at atStatement
  refine isStatement_class ends atBrace atStatic fun scope levels isMember noGenerator => ?_
  have atLast : LeadsTo ['\x7d'] false (.symbol "\x7d") [] := leadsTo_cons rfl rfl rfl
  have atEnd : LeadsTo ('\x7d' :: last) false (.symbol "\x7d") last := leadsTo_cons rfl rfl rfl
  refine reads_staticBlock isMember (leadsTo_cons rfl rfl rfl) atStatement (fun inner isMember same => ?_)
    fun inner => reads_expect (atLast.line style 0) "\x7d"
  exact reads_memberStatement plain (.inr rfl) (same.trans noGenerator) opensValue_parent
    (reads_parent isMember (.here (startsWith_point plain))) (atEnd.line style 1)

end Class

section Pattern

/-- A parameter that opens with a brace is a pattern, here with one item. -/
theorem reads_parameter {last : List Char} (filled : 0 < scope.size)
    (leads : LeadsTo behind newline (.word name .plain) tail)
    (item : Reads scope (objectPatternItem (reach levels)) property (.word name .plain, tail)
      (.symbol "\x7d", ')' :: last)) :
    Reads scope (parameter (reach (levels + 1)))
      (fun node => ∃ span found, node = .objectPattern span [found] ∧ property found)
      (.symbol "\x7b", behind) (.symbol ")", last) := by
  have target : Reads scope (reach (levels + 1) .binding)
      (fun node => ∃ span found, node = .objectPattern span [found] ∧ property found)
      (.symbol "\x7b", behind) (.symbol ")", last) := by
    refine reads_position.bind fun start _ => Reads.then (reads_look fun _ => rfl) ?_
    refine (reads_eat leads "\x7b").then ?_
    refine (reads_commaList_one filled (by decide) (leadsTo_cons rfl rfl rfl) reads_eat_word
      item).bind ?_
    rintro _ ⟨found, rfl, holds⟩
    exact (reads_spanFrom start).bind fun span _ => reads_pure ⟨span, found, rfl, holds⟩
  refine reads_position.bind fun start _ => Reads.then (reads_look fun _ => rfl) ?_
  exact target.bind fun node holds => Reads.then (reads_look fun _ => rfl) (reads_pure holds)

/-- Parameters of which there is one, a pattern with one item. -/
theorem reads_parameters {last : List Char} (filled : 0 < scope.size)
    (leads : LeadsTo behind newline (.word name .plain) tail)
    (item : Reads scope (objectPatternItem (reach levels)) property (.word name .plain, tail)
      (.symbol "\x7d", ')' :: last))
    (atBody : LeadsTo last false (.symbol "\x7b") further) :
    Reads scope (parameters (reach (levels + 1)))
      (fun params => ∃ span found, params = [.objectPattern span [found]] ∧ property found)
      (.symbol "(", '\x7b' :: behind) (.symbol "\x7b", further) := by
  have noClose : Reads scope (eat ")") (· = false) (.symbol "\x7b", behind)
      (.symbol "\x7b", behind) := reads_look fun _ => rfl
  refine (reads_expect (leadsTo_cons rfl rfl rfl) "(").then
    ((reads_commaList_one filled (by decide) atBody noClose (reads_parameter filled leads item)).bind ?_)
  rintro _ ⟨_, rfl, span, found, rfl, holds⟩
  exact reads_pure ⟨span, found, rfl, holds⟩

/-- The parameters of a function that takes a pattern of one item are read, and so is its body, which
is empty. -/
theorem reads_functionParts {size levels : Nat} (style : Style)
    (leads : LeadsTo behind newline (.word name .plain) tail)
    (item : ∀ scope levels, IsOpen scope → Reads scope (objectPatternItem (reach (levels + 1))) property
      (.word name .plain, tail)
      (.symbol "\x7d", ')' :: (style.space.toList ++ ['\x7b', '\x7d']))) :
    Reads { size := size + 1 }
      (functionParts (reach (levels + 4)) fun scope => scope.function {})
      (fun parts => ∃ span found, parts = ([.objectPattern span [found]], []) ∧ property found)
      (.symbol "(", '\x7b' :: behind) (.finish, []) := by
  let ofBody : Scope := Scope.function { size := size + 1 } {}
  have atBody : LeadsTo (style.space.toList ++ ['\x7b', '\x7d']) false (.symbol "\x7b") ['\x7d'] :=
    (leadsTo_cons rfl rfl rfl).gap style
  have isOpenParameters : IsOpen ofBody.parameters := ⟨rfl, rfl, rfl, rfl, rfl⟩
  have body : ∀ span found, Reads ofBody
      (functionBody (reach (levels + 4)) [.objectPattern span [found]]) (· = [])
      (.symbol "\x7b", ['\x7d']) (.symbol "\x7d", []) :=
    fun span found => reads_of_standing fun _ => ⟨_, _, rfl, rfl, rfl, rfl, rfl, rfl⟩
  refine Reads.bind (Reads.within (reads_parameters size.succ_pos leads
    (item ofBody.parameters (levels + 2) isOpenParameters) atBody)) ?_
  rintro _ ⟨span, found, rfl, holds⟩
  refine Reads.then (Reads.within (body span found)) ?_
  exact (reads_expect leadsTo_finish "\x7d").then (reads_pure ⟨span, found, rfl, holds⟩)

/-- A text that declares the function `f` with a pattern of one item is a program. -/
theorem isStatement_function (style : Style) {rest : String}
    (whole : rest.toList = '(' :: '\x7b' :: behind)
    (leads : LeadsTo behind newline (.word name .plain) tail)
    (item : ∀ scope levels, IsOpen scope → Reads scope (objectPatternItem (reach (levels + 1))) property
      (.word name .plain, tail)
      (.symbol "\x7d", ')' :: (style.space.toList ++ ['\x7b', '\x7d']))) :
    IsStatement ("function f" ++ rest)
      (fun node => ∃ item, IsFunction item node ∧ property item) := by
  have text : ("function f" ++ rest).toList = "function".toList ++ ' ' :: 'f' :: rest.toList := by simp
  have starts : StartsWith ("function f" ++ rest).toList (.word "function" .plain)
      (' ' :: 'f' :: rest.toList) := text ▸ startsWith_name (by decide) rfl
  have unnamed : interpreterLine ("function f" ++ rest).toList =
      (none, ⟨("function f" ++ rest).toList, 1⟩) := by
    rw [text]
    rfl
  refine isStatement_of_reads starts unnamed (by decide) ?_ fun size levels => ?_
  · rintro _ ⟨_, ⟨_, _, rfl, _⟩, _⟩
    rfl
  · let scope : Scope := { size := size + 1 }
    have isName : StartsWith ("f".toList ++ rest.toList) (.word "f" .plain) rest.toList :=
      startsWith_name (by decide) (whole ▸ rfl)
    have atName : LeadsTo (' ' :: 'f' :: rest.toList) false (.word "f" .plain) rest.toList :=
      .space (.here isName)
    have atParen : LeadsTo rest.toList false (.symbol "(") ('\x7b' :: behind) :=
      whole ▸ leadsTo_cons rfl rfl rfl
    have noVariables : Reads scope variableKind? (· = none)
        (.word "function" .plain, ' ' :: 'f' :: rest.toList)
        (.word "function" .plain, ' ' :: 'f' :: rest.toList) := reads_look fun _ => rfl
    have opens : Reads scope opensFunction (· = true)
        (.word "function" .plain, ' ' :: 'f' :: rest.toList)
        (.word "function" .plain, ' ' :: 'f' :: rest.toList) :=
      (reads_isWord "function").then ((reads_isWord "async").then
        ((reads_of_sees (sees_isFollowedBy "function")).bind fun follows _ => reads_pure rfl))
    have notAsync : Reads scope (eatWord "async") (· = false)
        (.word "function" .plain, ' ' :: 'f' :: rest.toList)
        (.word "function" .plain, ' ' :: 'f' :: rest.toList) := reads_look fun _ => rfl
    refine noVariables.then (opens.then (notAsync.then
      ((reads_expectWord atName "function").then (reads_eat_word.then ?_))))
    refine (reads_bindingName atParen ⟨rfl, rfl, rfl, rfl, rfl⟩ rfl).bind fun own isOwn =>
      (reads_functionParts style leads item).bind ?_
    rintro _ ⟨span, found, rfl, holds⟩
    exact reads_pure ⟨found, ⟨own, span, rfl, isOwn⟩, holds⟩

/-- The item of a pattern that is named like its variable. -/
theorem reads_shorthand {last : List Char} (atBrace : LeadsTo tail newline (.symbol "\x7d") last) :
    Reads scope (objectPatternItem (reach levels)) (IsShorthand name) (.word name .plain, tail)
      (.symbol "\x7d", last) := by
  refine reads_position.bind fun start _ => reads_eat_word.then ?_
  refine (reads_propertyKey atBrace).bind ?_
  rintro _ ⟨key, rfl, named⟩
  refine Reads.then (reads_look fun _ => rfl) (Reads.then (reads_look fun _ => rfl) ?_)
  exact reads_pure ⟨key.span, key, rfl, named⟩

/-- The item of a pattern that is written out, with the variable behind its colon. -/
theorem reads_writtenOut {last : List Char} (free : reservedAlways.contains own = false)
    (isOpen : IsOpen scope) (atColon : LeadsTo tail false (.symbol ":") behind)
    (atOwn : LeadsTo behind false (.word own .plain) further)
    (atBrace : LeadsTo further newline (.symbol "\x7d") last) :
    Reads scope (objectPatternItem (reach (levels + 1))) (IsWrittenOut name own)
      (.word name .plain, tail) (.symbol "\x7d", last) := by
  have target : Reads scope (reach (levels + 1) .binding)
      (fun node => ∃ target, node = .identifier target ∧ target.text = own)
      (.word own .plain, further) (.symbol "\x7d", last) :=
    reads_position.bind fun start _ => reads_eat_word.then (reads_eat_word.then
      ((reads_bindingName atBrace isOpen free).bind fun target named =>
        reads_pure ⟨target, rfl, named⟩))
  have element : Reads scope (bindingElement (reach (levels + 1)))
      (fun node => ∃ target, node = .identifier target ∧ target.text = own)
      (.word own .plain, further) (.symbol "\x7d", last) :=
    reads_position.bind fun start _ => target.bind fun node holds =>
      Reads.then (reads_look fun _ => rfl) (reads_pure holds)
  refine reads_position.bind fun start _ => reads_eat_word.then ((reads_propertyKey atColon).bind ?_)
  rintro _ ⟨key, rfl, named⟩
  refine (reads_eat atOwn ":").then (element.bind ?_)
  rintro _ ⟨target, rfl, isOwn⟩
  exact reads_pure ⟨key, target, rfl, named, isOwn⟩

end Pattern

section Items

/-- What stands behind the name of a function whose parameter is a pattern of one item. -/
def patternText (style : Style) (item : String) : String :=
  "(\x7b" ++ style.space ++ item ++ style.space ++ "\x7d)" ++ style.space ++ "\x7b\x7d"

/-- What stands behind the variable that is given an object of one item. -/
def objectText (style : Style) (item : String) : String :=
  style.space ++ "=" ++ style.space ++ "\x7b" ++ style.lineStart 1 ++ item ++ style.lineStart 0 ++
    "\x7d;"

/-- An item that is written out. -/
def writtenOut (style : Style) (name own : String) : String := name ++ ":" ++ style.space ++ own

variable (style : Style) (plain : isPlainName name = true)
include plain

/-- A plain name can be the key of a pattern and its variable. -/
theorem isStatement_shorthand : IsStatement ("function f" ++ patternText style name)
    (fun node => ∃ item, IsFunction item node ∧ IsShorthand name item) := by
  let last : List Char := ')' :: (style.space.toList ++ ['\x7b', '\x7d'])
  let tail : List Char := style.space.toList ++ '\x7d' :: last
  have whole : (patternText style name).toList =
      '(' :: '\x7b' :: (style.space.toList ++ (name.toList ++ tail)) := by
    simp [patternText, tail, last]
  have ends : Lexer.endsName tail = true := by cases style <;> rfl
  exact isStatement_function style whole (LeadsTo.gap (.here (startsWith_name plain ends)) style)
    fun scope levels _ => reads_shorthand ((leadsTo_cons rfl rfl rfl).gap style)

/-- A plain name can be the key of an object and its variable. -/
theorem isStatement_objectShorthand : IsStatement ("o" ++ objectText style name)
    (fun node => ∃ item, IsObject item node ∧ IsShorthand name item) := by
  let tail : List Char := (style.lineStart 0).toList ++ ['\x7d', ';']
  let inside : List Char := (style.lineStart 1).toList ++ (name.toList ++ tail)
  have whole : (objectText style name).toList =
      style.space.toList ++ '=' :: (style.space.toList ++ '\x7b' :: inside) := by
    simp [objectText, inside, tail]
  have ends : Lexer.endsName tail = true := by cases style <;> rfl
  have endsHost : Lexer.endsName (objectText style name).toList = true := by
    rw [whole]
    cases style <;> rfl
  have atEquals : LeadsTo (style.space.toList ++ '=' :: (style.space.toList ++ '\x7b' :: inside)) false
      (.symbol "=") (style.space.toList ++ '\x7b' :: inside) := by
    refine (leadsTo_cons rfl ?_ rfl).gap style
    cases style <;> rfl
  exact isStatement_object (LeadsTo.line (.here (startsWith_name plain ends)) style 1)
    (fun scope levels _ => reads_objectShorthand ((leadsTo_cons rfl rfl rfl).line style 0))
    (whole ▸ atEquals) ((leadsTo_cons rfl rfl rfl).gap style) endsHost

variable (plainOwn : isPlainName own = true)
include plainOwn

/-- A plain name can be the key of a variable in a pattern. -/
theorem isStatement_writtenOut (free : reservedAlways.contains own = false) :
    IsStatement ("function f" ++ patternText style (writtenOut style name own))
      (fun node => ∃ item, IsFunction item node ∧ IsWrittenOut name own item) := by
  let last : List Char := ')' :: (style.space.toList ++ ['\x7b', '\x7d'])
  let tail : List Char := style.space.toList ++ '\x7d' :: last
  let value : List Char := style.space.toList ++ (own.toList ++ tail)
  have whole : (patternText style (writtenOut style name own)).toList =
      '(' :: '\x7b' :: (style.space.toList ++ (name.toList ++ ':' :: value)) := by
    simp [patternText, writtenOut, value, tail, last]
  have ends : Lexer.endsName tail = true := by cases style <;> rfl
  exact isStatement_function style whole (LeadsTo.gap (.here (startsWith_name plain rfl)) style)
    fun scope levels isOpen => reads_writtenOut free isOpen (leadsTo_cons rfl rfl rfl)
      (LeadsTo.gap (.here (startsWith_name plainOwn ends)) style) ((leadsTo_cons rfl rfl rfl).gap style)

/-- A plain name can be the key of a variable in an object. -/
theorem isStatement_property (isVariable : IsVariable own) :
    IsStatement ("o" ++ objectText style (writtenOut style name own))
      (fun node => ∃ item, IsObject item node ∧ IsWrittenOut name own item) := by
  let tail : List Char := (style.lineStart 0).toList ++ ['\x7d', ';']
  let value : List Char := style.space.toList ++ (own.toList ++ tail)
  let inside : List Char := (style.lineStart 1).toList ++ (name.toList ++ ':' :: value)
  have whole : (objectText style (writtenOut style name own)).toList =
      style.space.toList ++ '=' :: (style.space.toList ++ '\x7b' :: inside) := by
    simp [objectText, writtenOut, inside, value, tail]
  have ends : Lexer.endsName tail = true := by cases style <;> rfl
  have endsHost : Lexer.endsName (objectText style (writtenOut style name own)).toList = true := by
    rw [whole]
    cases style <;> rfl
  have atEquals : LeadsTo (style.space.toList ++ '=' :: (style.space.toList ++ '\x7b' :: inside)) false
      (.symbol "=") (style.space.toList ++ '\x7b' :: inside) := by
    refine (leadsTo_cons rfl ?_ rfl).gap style
    cases style <;> rfl
  exact isStatement_object (LeadsTo.line (.here (startsWith_name plain rfl)) style 1)
    (fun scope levels isLoose => reads_objectItem isVariable isLoose (leadsTo_cons rfl rfl rfl)
      (LeadsTo.gap (.here (startsWith_name plainOwn ends)) style)
      ((leadsTo_cons rfl rfl rfl).line style 0))
    (whole ▸ atEquals) ((leadsTo_cons rfl rfl rfl).gap style) endsHost

end Items

end Parse

end PropertyMangling.Script
