import PropertyMangling.Proofs.Mapping.Entries
import PropertyMangling.Proofs.Packing
import PropertyMangling.Proofs.Property.Collection
import PropertyMangling.Proofs.Script.Origin.Statements
import PropertyMangling.Proofs.Script.Places
import PropertyMangling.Proofs.Script.Saying
/-!
# Programs that survive their renaming

A mapping takes any text for a name, and the printer writes it as it stands. So a
program survives its renaming only when the new names of its properties are words
of the text that is written: that is shown of every program. That plain names are
enough is shown of the small programs of the places where a property can stand,
in both styles that programs are printed in; the one exception is a method that
gets the name of the constructor. Of other programs it would say that whatever is
printed is read again, which is a matter of the printer and not of the names.
-/
namespace PropertyMangling

open Script

/-- What a run answers with is read again as the program that it wrote, up to what can be written in
more than one way. -/
def Survives (options : Options) (read : Reader) (source : String) : Prop :=
  ∃ program mapping content again, Program.parse source = .ok program ∧
    Mapping.ofEntries options.mangling.propertyMaps = .ok mapping ∧
    (transform options {} read source).result = .ok content ∧
    Program.parse content = .ok again ∧
    again.bare = (program.rename ⟨mapping, options.marker⟩).value.bare

variable {options : Options} {read : Reader} {source content : String} {mapping : Mapping}

/-- Without other collaborators, a run that passes the checks calls for nothing but renaming. -/
theorem plannedCalls_of_prepare (mangles : options.mangle = true) {ready : List Step × Program}
    (prepared : prepare options {} read source = .ok ready) (request : MangleRequest) :
    options.plannedCalls request = [.mangle request] := by
  have checked := checked_prepare options {} read source
  have found : (options.checks {} read source).findSome? id = none := by
    cases found : (options.checks {} read source).findSome? id with
    | some failure =>
      rw [Checked, found, prepared] at checked
      cases checked
    | none => rfl
  have missing : ∀ check ∈ options.checks {} read source, check = none :=
    List.findSome?_eq_none_iff.mp found
  have disabled : ∀ enabled stage, Options.missing? enabled stage false = none → enabled = false := by
    simp [Options.missing?]
  have noConsolidate : options.consolidate = false :=
    disabled _ "consolidate" (missing _ (by simp [Options.checks]))
  have noLift : options.liftVars = false :=
    disabled _ "lift_vars" (missing _ (by simp [Options.checks]))
  have noSqueeze : options.squeeze = false :=
    disabled _ "squeeze" (missing _ (by simp [Options.checks]))
  simp [Options.plannedCalls, mangles, noConsolidate, noLift, noSqueeze]

/-- Without other collaborators a run writes the renamed program: the source was read, and what is
printed of it once its sites are renamed is the whole content. -/
theorem renamed_of_ran (mangles : options.mangle = true)
    (accepted : Mapping.ofEntries options.mangling.propertyMaps = .ok mapping)
    (ran : (transform options {} read source).result = .ok content) :
    ∃ program, Program.parse source = .ok program ∧ content = options.output
      (program.leadingText source) (program.rename ⟨mapping, options.marker⟩).value := by
  cases ready : prepare options {} read source with
  | error failure =>
    simp only [transform, ready] at ran
    cases ran
  | ok answer =>
    obtain ⟨steps, program⟩ := answer
    obtain ⟨other, vars, same, -, parsed, planned, answered⟩ := isReady_of_prepare ready
    obtain rfl := Except.ok.inj (accepted.symm.trans same)
    rw [plannedCalls_of_prepare mangles ready] at planned
    obtain ⟨step, rfl, called⟩ := List.map_eq_singleton_iff.mp planned
    have passes := answered step (List.mem_singleton.mpr rfl)
    rw [called] at passes
    have pass : step.pass = renameProperties (options.mangleRequest mapping vars) :=
      (Option.some.inj passes).symm
    simp only [transform, ready, runSteps, pass, renameProperties] at ran
    exact ⟨program, parsed, (Except.ok.inj ran).symm⟩

/-- The style that code is printed in. -/
def Options.style (options : Options) : Style := if options.beautify then .readable else .compact

/-- A program of one statement is written as the characters of that statement, packed or not. -/
theorem output_of_single {program : Program} {node : Node} (compact : options.beautify = false)
    (plain : options.ast = false) (tidy : node.IsTidy) (only : program.items = [node])
    (unnamed : program.interpreter? = none) :
    options.output "" program = String.ofList node.ink := by
  have tidyProgram : program.IsTidy := by
    intro item listed
    rw [only] at listed
    exact List.mem_singleton.mp listed ▸ tidy
  have ink : program.ink = node.ink := by rw [Program.ink, only, List.flatMap_singleton]
  have whole : Options.trimmedEnd (program.print .compact) = String.ofList node.ink :=
    ink ▸ (trimmedEnd_print_eq_iff tidyProgram).mpr unnamed
  have single : Options.statementsOf .compact program =
      [Text.trimmed (render (itemMarks .compact [node]))] := by
    rw [Options.statementsOf, Program.printItems, only]
    rfl
  have printed : Text.trimmed (render (itemMarks .compact [node])) = String.ofList node.ink := by
    rw [← ink, ← join_statementsOf tidyProgram, single]
    simp
  cases packing : options.packingLimit? with
  | none => simp [Options.output, Options.code, plain, compact, packing, whole]
  | some limit =>
    simp [Options.output, Options.code, plain, compact, packing, single, printed, Text.packLines,
      Text.groups, Text.groupsFrom]

/-- A program of one statement is written for readers without the line end behind the statement. -/
theorem output_of_page {program : Program} {node : Node} {written : String}
    (readable : options.beautify = true) (plain : options.ast = false)
    (only : program.items = [node]) (unnamed : program.interpreter? = none)
    (page : (render (itemMarks .readable [node])).toList = written.toList ++ ['\n'])
    (ends : ∀ c ∈ written.toList.getLast?, Text.isBlank c = false) :
    options.output "" program = written := by
  have printed : program.print .readable = render (itemMarks .readable [node]) := by
    rw [Program.print, unnamed, only]
    rfl
  have trimmed : Text.trimRight (written.toList ++ ['\n']) = written.toList := by
    have lineEnd : Text.isBlank '\n' = true := by decide
    exact (List.rdropWhile_concat_pos _ _ _ lineEnd).trans (Text.trimRight_eq_self ends)
  cases packing : options.maxLineLength? with
  | none =>
    simp [Options.output, Options.code, Options.packingLimit?, plain, readable, packing, printed,
      Options.trimmedEnd, page, trimmed]
  | some limit =>
    simp [Options.output, Options.code, Options.packingLimit?, plain, readable, packing, printed,
      Options.trimmedEnd, page, trimmed]

/-- The name of a site among those of a program that was read is a word of its text. -/
theorem isPlainName_of_site {written name : String} {again : Program}
    (read : Program.parse written = .ok again) (stands : Site.name name ∈ again.sites)
    (unescaped : '\\' ∈ written.toList → '\\' ∈ name.toList) : isPlainName name = true := by
  have found : HasWord written.toList name := Program.hasWord_of_parse read _ stands name rfl
  refine found.isPlainName fun escape => ?_
  exact Lexer.ne_backslash_of_isNamePart (found.parts _ (unescaped escape)) rfl

/-! ## Programs of one statement -/

/-- Statements of one text in each style, which say the same. -/
structure AreWritten (written : Style → String) (shape : Node → Prop) : Prop where
  ink : ∀ node, shape node → node.ink = (written .compact).toList
  page : ∀ node, shape node →
    (render (itemMarks .readable [node])).toList = (written .readable).toList ++ ['\n']
  ends : ∀ c ∈ (written .readable).toList.getLast?, Text.isBlank c = false
  bare : ∀ first second, shape first → shape second → first.bare = second.bare

section Single

variable {written : Style → String} {given changed : Node → Prop} {admitted : Prop}

/-- A program of one statement survives exactly when what is written of it is read as the same
statement.

What is left to prove of a place is that its statement is read where the new name is admitted, and
that a program which says the same is read nowhere else. -/
theorem survives_iff_of_single (mangles : options.mangle = true) (plain : options.ast = false)
    (accepted : Mapping.ofEntries options.mangling.propertyMaps = .ok mapping)
    (ran : (transform options {} read source).result = .ok content)
    (statement : IsStatement source given)
    (changes : ∀ node, given node → changed (node.rename ⟨mapping, options.marker⟩).value)
    (areWritten : AreWritten written changed)
    (reads : admitted → IsStatement (written options.style) changed)
    (refuses : ∀ again node, Program.parse (written options.style) = .ok again → changed node →
      bareAll again.items = [node.bare] → admitted) :
    Survives options read source ↔ admitted := by
  obtain ⟨program, node, parsed, unnamed, only, isGiven, silent⟩ := statement
  let plan : Renaming := ⟨mapping, options.marker⟩
  have isChanged : changed (node.rename plan).value := changes node isGiven
  have onlyRenamed : (program.rename plan).value.items = [(node.rename plan).value] := by
    change (renameAll plan program.items).value = _
    rw [only]
    rfl
  have said : (program.rename plan).value.bare = (none, [(node.rename plan).value.bare]) := by
    rw [Program.bare, onlyRenamed]
    exact congrArg (·, _) unnamed
  have tidyProgram : program.IsTidy := Program.tidy_of_parse parsed
  have tidy : (node.rename plan).value.IsTidy := by
    refine tidyProgram.rename plan _ ?_
    rw [onlyRenamed]
    exact List.mem_singleton.mpr rfl
  obtain rfl : content = written options.style := by
    obtain ⟨_, same, printed⟩ := renamed_of_ran mangles accepted ran
    obtain rfl := Except.ok.inj (parsed.symm.trans same)
    rw [printed, silent, Options.style]
    cases readable : options.beautify with
    | true =>
      exact output_of_page readable plain onlyRenamed unnamed (areWritten.page _ isChanged)
        areWritten.ends
    | false =>
      rw [output_of_single readable plain tidy onlyRenamed unnamed, areWritten.ink _ isChanged,
        String.ofList_toList]
      rfl
  constructor
  · rintro ⟨_, _, _, again, parsedToo, acceptedToo, ranToo, readAgain, same⟩
    obtain rfl := Except.ok.inj (parsed.symm.trans parsedToo)
    obtain rfl := Except.ok.inj (accepted.symm.trans acceptedToo)
    obtain rfl := Except.ok.inj (ran.symm.trans ranToo)
    exact refuses again _ readAgain isChanged (congrArg Prod.snd (same.trans said))
  · intro admits
    obtain ⟨again, last, readAgain, unnamedAgain, onlyAgain, isLast, -⟩ := reads admits
    refine ⟨program, mapping, _, again, parsed, accepted, ran, readAgain, ?_⟩
    rw [said, ← areWritten.bare _ _ isLast isChanged, Program.bare, unnamedAgain, onlyAgain]
    rfl

end Single

/-! ## The places of a property -/

/-- Where a property can stand under its own name. -/
inductive Place where
  | point
  | parentMember
  | objectKey
  | classKey
  | objectShorthand
  | shorthand

namespace Place

/-- A small program with a property in a place. -/
def program (token : String) : Place → String
  | point => "o." ++ token ++ ";"
  | parentMember => "class A\x7bstatic\x7bsuper." ++ token ++ ";\x7d\x7d"
  | objectKey => "o=\x7b" ++ token ++ ":o\x7d;"
  | classKey => "class A\x7b" ++ token ++ "()\x7b\x7d\x7d"
  | objectShorthand => "o=\x7b" ++ token ++ "\x7d;"
  | shorthand => "function f(\x7b" ++ token ++ "\x7d)\x7b\x7d"

/-- Whether a property can be written under a name in a place. In a class, one name is the
constructor's. -/
def admits (name : String) : Place → Bool
  | point | parentMember | objectKey | objectShorthand | shorthand => isPlainName name
  | classKey => isPlainName name && name != "constructor"

/-- Whether a place can hold a token. A shorthand is a variable too, whose name is not reserved; what
the word `await` is as a value depends on more than its place. -/
def holds (token : String) : Place → Bool
  | shorthand => isPlainName token && !reservedAlways.contains token
  | objectShorthand => isPlainName token && !reservedAlways.contains token && token != "await"
  | place => place.admits token

end Place

section Shapes

variable {name own : String} {node item host : Node} (plan : Renaming)

/-- A member that is renamed is the member by the new name of what its object becomes. -/
theorem Script.IsMember.rename (isMember : IsMember name host node) :
    IsMember (Embedded.renamed plan.mapping name) (host.rename plan).value (node.rename plan).value := by
  obtain ⟨whole, place, member, rfl, rfl⟩ := isMember
  exact ⟨whole, place, _, rfl, plan.value_text _⟩

/-- A lone word or variable that stands for an object stays one, since variables are not
renamed. -/
theorem Script.IsHost.rename (isHost : IsHost host) : IsHost (host.rename plan).value := by
  obtain ⟨own, rfl, isOwn⟩ := isHost
  exact ⟨own, rfl, isOwn⟩

/-- An object with one item that is assigned keeps its form, and its item is renamed. -/
theorem Script.IsObject.rename (isObject : IsObject item node) :
    IsObject (item.rename plan).value (node.rename plan).value := by
  obtain ⟨whole, place, target, span, rfl, isTarget⟩ := isObject
  exact ⟨whole, place, target, span, rfl, isTarget⟩

/-- A function with one pattern for its parameter keeps its form, and the item of the pattern is
renamed. -/
theorem Script.IsFunction.rename (isFunction : IsFunction item node) :
    IsFunction (item.rename plan).value (node.rename plan).value := by
  obtain ⟨own, span, rfl, isOwn⟩ := isFunction
  exact ⟨own, span, rfl, isOwn⟩

/-- A class with one member keeps its form, and its member is renamed. -/
theorem Script.IsClass.rename (isClass : IsClass item node) :
    IsClass (item.rename plan).value (node.rename plan).value := by
  obtain ⟨own, rfl, isOwn⟩ := isClass
  exact ⟨own, rfl, isOwn⟩

/-- A method without parts is renamed to the method by the new name, be that the constructor's or
not. -/
theorem Script.IsMethod.rename (isMethod : IsMethod name item) :
    IsMethod (Embedded.renamed plan.mapping name) (item.rename plan).value := by
  obtain ⟨key, rfl, rfl⟩ := isMethod
  exact ⟨_, rfl, plan.value_text _⟩

/-- A block with one statement keeps its form, and the statement in it is renamed. -/
theorem Script.IsBlockOf.rename (isBlock : IsBlockOf node item) :
    IsBlockOf (node.rename plan).value (item.rename plan).value := by
  obtain rfl := isBlock
  rfl

/-- A property that is written out has its key renamed; the variable beside the key keeps its
name. -/
theorem Script.IsWrittenOut.rename (isWrittenOut : IsWrittenOut name own item) :
    IsWrittenOut (Embedded.renamed plan.mapping name) own (item.rename plan).value := by
  obtain ⟨key, value, rfl, rfl, isOwn⟩ := isWrittenOut
  exact ⟨_, value, rfl, plan.value_text _, isOwn⟩

/-- A shorthand that the mapping knows is written out, so that the variable keeps its name. -/
theorem Script.IsShorthand.rename_of_known (isShorthand : IsShorthand own item)
    (known : plan.mapping.get? own = some name) :
    IsWrittenOut name own (item.rename plan).value := by
  obtain ⟨span, key, rfl, rfl⟩ := isShorthand
  refine ⟨⟨key.span, name⟩, key, ?_, rfl, rfl⟩
  change (plan.shorthand span key none).value = _
  rw [Renaming.shorthand, known]
  rfl

/-- A shorthand that the mapping does not know stays one, since nothing has to be written out for
it. -/
theorem Script.IsShorthand.rename_of_unknown (isShorthand : IsShorthand own item)
    (unknown : plan.mapping.get? own = none) : IsShorthand own (item.rename plan).value := by
  obtain ⟨span, key, rfl, rfl⟩ := isShorthand
  refine ⟨span, key, ?_, rfl⟩
  change (plan.shorthand span key none).value = _
  rw [Renaming.shorthand, unknown]


/-! ### What is written of each statement -/

section Written

variable (filled : name ≠ "")
include filled

/-- Members of a variable that stand alone are printed as the variable, a point and the name, on
one line in either style. -/
theorem areWritten_member : AreWritten (fun _ => "o." ++ name ++ ";")
    (fun node => ∃ host, IsMember name host node ∧ IsHost host) where
  ink := by
    rintro _ ⟨_, ⟨whole, place, member, rfl, rfl⟩, host, rfl, isHost⟩
    have ink : Node.ink (.expressionStatement whole
        (.member place (.identifier host) member false)) =
      [host.text, ".", member.text, ";"].flatMap String.toList := rfl
    simp [ink, isHost]
  page := by
    rintro _ ⟨_, ⟨whole, place, member, rfl, rfl⟩, host, rfl, isHost⟩
    have marks : itemMarks .readable [.expressionStatement whole
        (.member place (.identifier host) member false)] =
      [.text host.text, .text ".", .text member.text, .text ";", .line] := rfl
    rw [marks, isHost]
    simp [render, Page.write, indentation, filled]
  ends := by
    simp [List.getLast?_cons]
    decide
  bare := by
    rintro _ _ ⟨_, ⟨_, _, member, rfl, rfl⟩, host, rfl, isHost⟩ ⟨_, ⟨_, _, _, rfl, same⟩, _, rfl, isHostToo⟩
    simp [Node.bare, Name.bare, isHost, isHostToo, same]

/-- A class whose static block names a member of the parent is printed with the name behind the
word for the parent, in either style. -/
theorem areWritten_parent : AreWritten (fun style => "class A" ++ Parse.parentText style name)
    (fun node => ∃ member, IsClass member node ∧ ∃ statement, IsBlockOf statement member ∧
      ∃ host, IsMember name host statement ∧ host = .word .parent) where
  ink := by
    rintro _ ⟨_, ⟨own, rfl, isOwn⟩, _, rfl, _, ⟨whole, place, member, rfl, rfl⟩, rfl⟩
    have ink : Node.ink (.classDeclaration own none [.staticBlock [.expressionStatement whole
        (.member place (.word .parent) member false)]]) =
      ["class ", own.text, "\x7b", "static", "\x7b", "super", ".", member.text, ";", "\x7d",
        "\x7d"].flatMap String.toList := rfl
    simp [ink, isOwn, Parse.parentText, Style.space, Style.lineStart]
  page := by
    rintro _ ⟨_, ⟨own, rfl, isOwn⟩, _, rfl, _, ⟨whole, place, member, rfl, rfl⟩, rfl⟩
    have marks : itemMarks .readable [.classDeclaration own none [.staticBlock
        [.expressionStatement whole (.member place (.word .parent) member false)]]] =
      [.text "class ", .text own.text, .text " ", .text "\x7b", .indent, .line, .text "static",
        .text "\x7b", .indent, .line, .text "super", .text ".", .text member.text, .text ";", .line,
        .outdent, .line, .text "\x7d", .outdent, .line, .text "\x7d", .line] := rfl
    rw [marks, isOwn]
    simp [render, Page.write, indentation, filled, Parse.parentText, Style.space, Style.lineStart]
  ends := by
    simp [Parse.parentText, List.getLast?_cons, Style.space, Style.lineStart]
    decide
  bare := by
    rintro _ _ ⟨_, ⟨own, rfl, isOwn⟩, _, rfl, _, ⟨_, _, member, rfl, rfl⟩, rfl⟩
      ⟨_, ⟨_, rfl, isOwnToo⟩, _, rfl, _, ⟨_, _, _, rfl, same⟩, rfl⟩
    simp [Node.bare, bareAll, bareSome, Name.bare, isOwn, isOwnToo, same]

/-- A class with one empty method is printed with the name of the method in front of its
parentheses, in either style. -/
theorem areWritten_method : AreWritten (fun style => "class A" ++ Parse.methodText style name)
    (fun node => ∃ member, IsClass member node ∧ IsMethod name member) where
  ink := by
    rintro _ ⟨_, ⟨own, rfl, isOwn⟩, key, rfl, rfl⟩
    have ink : Node.ink (.classDeclaration own none
        [.classMethod false .method {} (.keyName key) [] []]) =
      ["class ", own.text, "\x7b", key.text, "(", ")", "\x7b\x7d", "\x7d"].flatMap String.toList := rfl
    simp [ink, isOwn, Parse.methodText, Style.space, Style.lineStart]
  page := by
    rintro _ ⟨_, ⟨own, rfl, isOwn⟩, key, rfl, rfl⟩
    have marks : itemMarks .readable [.classDeclaration own none
        [.classMethod false .method {} (.keyName key) [] []]] =
      [.text "class ", .text own.text, .text " ", .text "\x7b", .indent, .line, .text key.text,
        .text "(", .text ")", .text " ", .text "\x7b\x7d", .outdent, .line, .text "\x7d", .line] := rfl
    rw [marks, isOwn]
    simp [render, Page.write, indentation, filled, Parse.methodText, Style.space, Style.lineStart]
  ends := by
    simp [Parse.methodText, List.getLast?_cons, Style.space, Style.lineStart]
    decide
  bare := by
    rintro _ _ ⟨_, ⟨own, rfl, isOwn⟩, key, rfl, rfl⟩ ⟨_, ⟨_, rfl, isOwnToo⟩, _, rfl, same⟩
    simp [Node.bare, bareAll, bareSome, Name.bare, isOwn, isOwnToo, same]

/-- An assignment from an object with one property is printed with the key in front of the colon,
in either style. -/
theorem areWritten_property : AreWritten
    (fun style => "o" ++ Parse.objectText style (Parse.writtenOut style name own))
    (fun node => ∃ item, IsObject item node ∧ IsWrittenOut name own item) where
  ink := by
    rintro _ ⟨_, ⟨whole, place, target, span, rfl, isTarget⟩, key, value, rfl, rfl, rfl⟩
    have ink : Node.ink (.expressionStatement whole (.assign place none (.identifier target)
        (.object span [.property (.keyName key) (.identifier value)] false))) =
      [target.text, "=", "\x7b", key.text, ":", value.text, "\x7d", ";"].flatMap String.toList := rfl
    simp [ink, isTarget, Parse.objectText, Parse.writtenOut, Style.space, Style.lineStart]
  page := by
    rintro _ ⟨_, ⟨whole, place, target, span, rfl, isTarget⟩, key, value, rfl, rfl, rfl⟩
    have marks : itemMarks .readable [.expressionStatement whole (.assign place none
        (.identifier target) (.object span [.property (.keyName key) (.identifier value)] false))] =
      [.text target.text, .text " ", .text "=", .text " ", .text "\x7b", .indent, .line,
        .text key.text, .text ":", .text " ", .text value.text, .outdent, .line, .text "\x7d", .text ";",
        .line] := rfl
    rw [marks, isTarget]
    by_cases empty : value.text = ""
    all_goals simp [render, Page.write, indentation, filled, empty, Parse.objectText, Parse.writtenOut,
      Style.space, Style.lineStart]
  ends := by
    simp [Parse.objectText, List.getLast?_cons, Style.space, Style.lineStart]
    decide
  bare := by
    rintro _ _ ⟨_, ⟨_, _, target, _, rfl, isTarget⟩, key, value, rfl, rfl, rfl⟩
      ⟨_, ⟨_, _, _, _, rfl, isTargetToo⟩, _, _, rfl, same, sameValue⟩
    simp [Node.bare, bareAll, Name.bare, isTarget, isTargetToo, same, sameValue]

/-- An assignment from an object with one shorthand is printed with the name alone between the
braces, in either style. -/
theorem areWritten_objectShorthand : AreWritten (fun style => "o" ++ Parse.objectText style name)
    (fun node => ∃ item, IsObject item node ∧ IsShorthand name item) where
  ink := by
    rintro _ ⟨_, ⟨whole, place, target, span, rfl, isTarget⟩, at', key, rfl, rfl⟩
    have ink : Node.ink (.expressionStatement whole (.assign place none (.identifier target)
        (.object span [.shorthand at' key none] false))) =
      [target.text, "=", "\x7b", key.text, "\x7d", ";"].flatMap String.toList := rfl
    simp [ink, isTarget, Parse.objectText, Style.space, Style.lineStart]
  page := by
    rintro _ ⟨_, ⟨whole, place, target, span, rfl, isTarget⟩, at', key, rfl, rfl⟩
    have marks : itemMarks .readable [.expressionStatement whole (.assign place none
        (.identifier target) (.object span [.shorthand at' key none] false))] =
      [.text target.text, .text " ", .text "=", .text " ", .text "\x7b", .indent, .line,
        .text key.text, .outdent, .line, .text "\x7d", .text ";", .line] := rfl
    rw [marks, isTarget]
    simp [render, Page.write, indentation, filled, Parse.objectText, Style.space, Style.lineStart]
  ends := by
    simp [Parse.objectText, List.getLast?_cons, Style.space, Style.lineStart]
    decide
  bare := by
    rintro _ _ ⟨_, ⟨_, _, target, _, rfl, isTarget⟩, _, key, rfl, rfl⟩
      ⟨_, ⟨_, _, _, _, rfl, isTargetToo⟩, _, _, rfl, same⟩
    simp [Node.bare, bareAll, bareSome, Name.bare, isTarget, isTargetToo, same]

/-- A function over a pattern with one shorthand is printed with the name alone between the
braces, in either style. -/
theorem areWritten_shorthand : AreWritten (fun style => "function f" ++ Parse.patternText style name)
    (fun node => ∃ item, IsFunction item node ∧ IsShorthand name item) where
  ink := by
    rintro _ ⟨_, ⟨own, span, rfl, isOwn⟩, place, key, rfl, rfl⟩
    have ink : Node.ink (.functionDeclaration {} own
        [.objectPattern span [.shorthand place key none]] []) =
      ["function", " ", own.text, "(", "\x7b", key.text, "\x7d", ")", "\x7b\x7d"].flatMap
        String.toList := rfl
    simp [ink, isOwn, Parse.patternText, Style.space]
  page := by
    rintro _ ⟨_, ⟨own, span, rfl, isOwn⟩, place, key, rfl, rfl⟩
    have marks : itemMarks .readable [.functionDeclaration {} own
        [.objectPattern span [.shorthand place key none]] []] =
      [.text "function", .text " ", .text own.text, .text "(", .text "\x7b", .text " ", .text key.text,
        .text " ", .text "\x7d", .text ")", .text " ", .text "\x7b\x7d", .line] := rfl
    rw [marks, isOwn]
    simp [render, Page.write, indentation, filled, Parse.patternText, Style.space]
  ends := by
    simp [Parse.patternText, List.getLast?_cons, Style.space]
    decide
  bare := by
    rintro _ _ ⟨_, ⟨own, _, rfl, isOwn⟩, _, key, rfl, rfl⟩ ⟨_, ⟨_, _, rfl, isOwnToo⟩, _, _, rfl, same⟩
    simp [Node.bare, bareAll, bareSome, Name.bare, isOwn, isOwnToo, same]

/-- A function over a pattern with one key and its variable is printed with both around the colon,
in either style. -/
theorem areWritten_writtenOut : AreWritten
    (fun style => "function f" ++ Parse.patternText style (Parse.writtenOut style name own))
    (fun node => ∃ item, IsFunction item node ∧ IsWrittenOut name own item) where
  ink := by
    rintro _ ⟨_, ⟨function, span, rfl, isFunction⟩, key, target, rfl, rfl, rfl⟩
    have ink : Node.ink (.functionDeclaration {} function
        [.objectPattern span [.property (.keyName key) (.identifier target)]] []) =
      ["function", " ", function.text, "(", "\x7b", key.text, ":", target.text, "\x7d", ")",
        "\x7b\x7d"].flatMap String.toList := rfl
    simp [ink, isFunction, Parse.patternText, Parse.writtenOut, Style.space]
  page := by
    rintro _ ⟨_, ⟨function, span, rfl, isFunction⟩, key, target, rfl, rfl, rfl⟩
    have marks : itemMarks .readable [.functionDeclaration {} function
        [.objectPattern span [.property (.keyName key) (.identifier target)]] []] =
      [.text "function", .text " ", .text function.text, .text "(", .text "\x7b", .text " ",
        .text key.text, .text ":", .text " ", .text target.text, .text " ", .text "\x7d", .text ")",
        .text " ", .text "\x7b\x7d", .line] := rfl
    rw [marks, isFunction]
    by_cases empty : target.text = ""
    all_goals simp [render, Page.write, indentation, filled, empty, Parse.patternText,
      Parse.writtenOut, Style.space]
  ends := by
    simp [Parse.patternText, List.getLast?_cons, Style.space]
    decide
  bare := by
    rintro _ _ ⟨_, ⟨function, _, rfl, isFunction⟩, key, target, rfl, rfl, rfl⟩
      ⟨_, ⟨_, _, rfl, isFunctionToo⟩, _, _, rfl, same, sameTarget⟩
    simp [Node.bare, bareAll, Name.bare, isFunction, isFunctionToo, same, sameTarget]

end Written

end Shapes

section Sites

variable {name own : String} {node item host : Node}

/-- A member names a property at one of its sites. -/
theorem Script.IsMember.mem_sites (isMember : IsMember name host node) : .name name ∈ node.sites := by
  obtain ⟨_, _, member, rfl, rfl⟩ := isMember
  simp [Node.sites]

/-- A property that is written out names its key at one of its sites. -/
theorem Script.IsWrittenOut.mem_sites (isWrittenOut : IsWrittenOut name own item) :
    .name name ∈ item.sites := by
  obtain ⟨key, target, rfl, rfl, -⟩ := isWrittenOut
  simp [Node.sites]

/-- A method names its key at one of its sites. -/
theorem Script.IsMethod.mem_sites (isMethod : IsMethod name item) : .name name ∈ item.sites := by
  obtain ⟨key, rfl, rfl⟩ := isMethod
  simp [Node.sites, sitesOf]

/-- What stands at a site of the one item of an object stands at one of the assignment. -/
theorem Script.IsObject.mem_sites (isObject : IsObject item node) {site : Site}
    (inside : site ∈ item.sites) : site ∈ node.sites := by
  obtain ⟨_, _, target, _, rfl, -⟩ := isObject
  simp [Node.sites, sitesOf, inside]

/-- What stands at a site of the one item of a pattern stands at one of the function. -/
theorem Script.IsFunction.mem_sites (isFunction : IsFunction item node) {site : Site}
    (inside : site ∈ item.sites) : site ∈ node.sites := by
  obtain ⟨_, _, rfl, -⟩ := isFunction
  simp [Node.sites, sitesOf, inside]

/-- What stands at a site of the one member of a class stands at one of the class. -/
theorem Script.IsClass.mem_sites (isClass : IsClass item node) {site : Site}
    (inside : site ∈ item.sites) : site ∈ node.sites := by
  obtain ⟨_, rfl, -⟩ := isClass
  simp [Node.sites, sitesOf, inside]

/-- What stands at a site of the one statement of a block stands at one of the block. -/
theorem Script.IsBlockOf.mem_sites (isBlock : IsBlockOf node item) {site : Site}
    (inside : site ∈ node.sites) : site ∈ item.sites := by
  obtain rfl := isBlock
  simp [Node.sites, sitesOf, inside]

/-- The name of a site of what is read again is a plain one. -/
theorem isPlainName_of_said {written name : String} {again : Program} {node : Node}
    (read : Program.parse written = .ok again) (said : bareAll again.items = [node.bare])
    (stands : Site.name name ∈ node.sites)
    (unescaped : '\\' ∈ written.toList → '\\' ∈ name.toList) : isPlainName name = true := by
  have sites : again.sites = node.sites := by
    rw [Program.sites, ← sitesOf_bareAll, said, sitesOf, sitesOf, Node.sites_bare, List.append_nil]
  exact isPlainName_of_site read (sites ▸ stands) unescaped

/-- Whether a node declares a class of one method. -/
def Script.Node.isMethodOnly : Node → Bool
  | .classDeclaration _ _ [.classMethod ..] => true
  | _ => false

/-- No method of a class is called like its constructor: where the printed class is read again and
says the same, the method is none, since reading would have made it the constructor. -/
theorem ne_constructor_of_said {name : String} {again : Program} {member node : Node} {style : Style}
    (read : Program.parse ("class A" ++ Parse.methodText style name) = .ok again)
    (isClass : IsClass member node) (isMethod : IsMethod name member)
    (said : bareAll again.items = [node.bare]) : name ≠ "constructor" := by
  rintro rfl
  obtain ⟨own, rfl, -⟩ := isClass
  obtain ⟨key, rfl, -⟩ := isMethod
  have noMethod : (Program.parse ("class A" ++ Parse.methodText style "constructor")).toOption.map
      (fun program => (bareAll program.items).any Node.isMethodOnly) = some false := by
    cases style
    all_goals decide +kernel
  rw [read] at noMethod
  have method : (bareAll again.items).any Node.isMethodOnly = true := said ▸ rfl
  exact Bool.noConfusion (method.symm.trans (Option.some.inj noMethod))

/-- What is written around a name has no escapes, so that any backslash in such a program stands
in the name. -/
theorem escape_of_written {style : Style} {name : String} :
    ('\\' ∈ ("class A" ++ Parse.methodText style name).toList → '\\' ∈ name.toList) ∧
    ('\\' ∈ ("class A" ++ Parse.parentText style name).toList → '\\' ∈ name.toList) ∧
    ('\\' ∈ ("o" ++ Parse.objectText style name).toList → '\\' ∈ name.toList) ∧
    ('\\' ∈ ("function f" ++ Parse.patternText style name).toList → '\\' ∈ name.toList) := by
  cases style
  all_goals simp [Parse.methodText, Parse.parentText, Parse.objectText, Parse.patternText, Style.space,
    Style.lineStart, indentation]

/-- A variable beside a name has no escapes when it is spelled plainly, so that any backslash
stands in the name. -/
theorem escape_of_writtenOut {style : Style} {name own : String} (plain : isPlainName own = true)
    (escape : '\\' ∈ (Parse.writtenOut style name own).toList) : '\\' ∈ name.toList := by
  have absent : '\\' ∉ own.toList := fun inside =>
    Lexer.ne_backslash_of_isNamePart (isNamePart_of_isPlainName plain _ inside) rfl
  cases style
  all_goals simpa [Parse.writtenOut, Style.space, absent] using escape

end Sites

/-- A token that is a name, and a name that was accepted, have characters. -/
theorem renamed_ne_empty (accepted : Mapping.ofEntries options.mangling.propertyMaps = .ok mapping)
    {token : String} (plain : isPlainName token = true) : Embedded.renamed mapping token ≠ "" := by
  cases known : mapping.get? token with
  | none =>
    rw [Embedded.renamed_of_unknown known]
    rintro rfl
    cases plain
  | some name =>
    rw [Embedded.renamed_of_known known]
    rintro rfl
    exact (Mapping.isWritable_of_ofEntries accepted _ (Mapping.get?_eq_some_iff.mp known)).name_ne rfl

section Places

variable {token : String} (mangles : options.mangle = true) (plain : options.ast = false)
  (accepted : Mapping.ofEntries options.mangling.propertyMaps = .ok mapping)
include mangles plain accepted

/-- Behind a point a program survives exactly with a plain name. -/
theorem survives_point (isToken : Place.point.holds token = true)
    (ran : (transform options {} read (Place.point.program token)).result = .ok content) :
    Survives options read (Place.point.program token) ↔
      Place.point.admits (Embedded.renamed mapping token) = true := by
  refine survives_iff_of_single mangles plain accepted ran (Parse.isStatement_member isToken) ?_
    (areWritten_member (renamed_ne_empty accepted isToken)) Parse.isStatement_member ?_
  · rintro _ ⟨host, isMember, isHost⟩
    exact ⟨_, isMember.rename _, isHost.rename _⟩
  · rintro again node readAgain ⟨host, isMember, -⟩ said
    exact isPlainName_of_said readAgain said isMember.mem_sites (by simp)

/-- A member of the parent of a class survives exactly with a plain name. -/
theorem survives_parentMember (isToken : Place.parentMember.holds token = true)
    (ran : (transform options {} read (Place.parentMember.program token)).result = .ok content) :
    Survives options read (Place.parentMember.program token) ↔
      Place.parentMember.admits (Embedded.renamed mapping token) = true := by
  have source : Place.parentMember.program token =
      "class A" ++ Parse.parentText .compact token := by
    have text : ("class A\x7bstatic\x7bsuper." ++ token ++ ";\x7d\x7d").toList =
        ("class A" ++ Parse.parentText .compact token).toList := by
      simp [Parse.parentText, Style.space, Style.lineStart]
    exact String.toList_inj.mp text
  rw [source] at ran ⊢
  refine survives_iff_of_single mangles plain accepted ran (Parse.isStatement_parent .compact isToken)
    ?_ (areWritten_parent (renamed_ne_empty accepted isToken)) (Parse.isStatement_parent _) ?_
  · rintro _ ⟨member, isClass, statement, isBlock, _, isMember, rfl⟩
    exact ⟨_, isClass.rename _, _, isBlock.rename _, _, isMember.rename _, rfl⟩
  · rintro again node readAgain ⟨member, isClass, statement, isBlock, _, isMember, -⟩ said
    exact isPlainName_of_said readAgain said
      (isClass.mem_sites (isBlock.mem_sites isMember.mem_sites)) escape_of_written.2.1

/-- The key of an object survives exactly with a plain name. -/
theorem survives_objectKey (isToken : Place.objectKey.holds token = true)
    (ran : (transform options {} read (Place.objectKey.program token)).result = .ok content) :
    Survives options read (Place.objectKey.program token) ↔
      Place.objectKey.admits (Embedded.renamed mapping token) = true := by
  have source : Place.objectKey.program token =
      "o" ++ Parse.objectText .compact (Parse.writtenOut .compact token "o") := by
    have text : ("o=\x7b" ++ token ++ ":o\x7d;").toList =
        ("o" ++ Parse.objectText .compact (Parse.writtenOut .compact token "o")).toList := by
      simp [Parse.objectText, Parse.writtenOut, Style.space, Style.lineStart]
    exact String.toList_inj.mp text
  have isVariable : Parse.IsVariable "o" := ⟨by decide, by decide⟩
  have plainVariable : isPlainName "o" = true := by decide
  rw [source] at ran ⊢
  refine survives_iff_of_single mangles plain accepted ran
    (Parse.isStatement_property .compact isToken plainVariable isVariable) ?_
    (areWritten_property (renamed_ne_empty accepted isToken))
    (fun admitted => Parse.isStatement_property _ admitted plainVariable isVariable) ?_
  · rintro _ ⟨item, isObject, isWrittenOut⟩
    exact ⟨_, isObject.rename _, isWrittenOut.rename _⟩
  · rintro again node readAgain ⟨item, isObject, isWrittenOut⟩ said
    exact isPlainName_of_said readAgain said (isObject.mem_sites isWrittenOut.mem_sites)
      fun escape => escape_of_writtenOut plainVariable (escape_of_written.2.2.1 escape)

/-- The key of a class survives exactly with a plain name other than the one of its constructor. -/
theorem survives_classKey (isToken : Place.classKey.holds token = true)
    (ran : (transform options {} read (Place.classKey.program token)).result = .ok content) :
    Survives options read (Place.classKey.program token) ↔
      Place.classKey.admits (Embedded.renamed mapping token) = true := by
  have admits_iff : ∀ name, Place.classKey.admits name = true ↔
      isPlainName name = true ∧ name ≠ "constructor" := by simp [Place.admits]
  obtain ⟨plainToken, ordinary⟩ := (admits_iff token).mp isToken
  have source : Place.classKey.program token =
      "class A" ++ Parse.methodText .compact token := by
    have text : ("class A\x7b" ++ token ++ "()\x7b\x7d\x7d").toList =
        ("class A" ++ Parse.methodText .compact token).toList := by
      simp [Parse.methodText, Style.space, Style.lineStart]
    exact String.toList_inj.mp text
  rw [source] at ran ⊢
  rw [admits_iff]
  refine survives_iff_of_single mangles plain accepted ran
    (Parse.isStatement_method .compact plainToken ordinary) ?_
    (areWritten_method (renamed_ne_empty accepted plainToken))
    (fun admitted => Parse.isStatement_method _ admitted.1 admitted.2) ?_
  · rintro _ ⟨member, isClass, isMethod⟩
    exact ⟨_, isClass.rename _, isMethod.rename _⟩
  · rintro again node readAgain ⟨member, isClass, isMethod⟩ said
    exact ⟨isPlainName_of_said readAgain said (isClass.mem_sites isMethod.mem_sites) escape_of_written.1,
      ne_constructor_of_said readAgain isClass isMethod said⟩

/-- A shorthand of an object survives exactly with a plain name; it is written out, and its variable
keeps its name. -/
theorem survives_objectShorthand (isToken : Place.objectShorthand.holds token = true)
    (ran : (transform options {} read (Place.objectShorthand.program token)).result = .ok content) :
    Survives options read (Place.objectShorthand.program token) ↔
      Place.objectShorthand.admits (Embedded.renamed mapping token) = true := by
  obtain ⟨⟨plainToken, free⟩, noAwait⟩ : (isPlainName token = true ∧
      reservedAlways.contains token = false) ∧ token ≠ "await" := by
    simpa [Place.holds] using isToken
  have source : Place.objectShorthand.program token =
      "o" ++ Parse.objectText .compact token := by
    have text : ("o=\x7b" ++ token ++ "\x7d;").toList =
        ("o" ++ Parse.objectText .compact token).toList := by
      simp [Parse.objectText, Style.space, Style.lineStart]
    exact String.toList_inj.mp text
  rw [source] at ran ⊢
  cases known : mapping.get? token with
  | none =>
    rw [Embedded.renamed_of_unknown known]
    refine survives_iff_of_single mangles plain accepted ran
      (Parse.isStatement_objectShorthand .compact plainToken) ?_
      (areWritten_objectShorthand (Embedded.renamed_of_unknown known ▸ renamed_ne_empty accepted plainToken))
      (Parse.isStatement_objectShorthand _) fun _ _ _ _ _ => plainToken
    rintro _ ⟨item, isObject, isShorthand⟩
    exact ⟨_, isObject.rename _, isShorthand.rename_of_unknown _ known⟩
  | some name =>
    rw [Embedded.renamed_of_known known]
    refine survives_iff_of_single mangles plain accepted ran
      (Parse.isStatement_objectShorthand .compact plainToken) ?_
      (areWritten_property (Embedded.renamed_of_known known ▸ renamed_ne_empty accepted plainToken))
      (fun admitted => Parse.isStatement_property _ admitted plainToken ⟨free, noAwait⟩) ?_
    · rintro _ ⟨item, isObject, isShorthand⟩
      exact ⟨_, isObject.rename _, isShorthand.rename_of_known _ known⟩
    · rintro again node readAgain ⟨item, isObject, isWrittenOut⟩ said
      exact isPlainName_of_said readAgain said (isObject.mem_sites isWrittenOut.mem_sites)
        fun escape => escape_of_writtenOut plainToken (escape_of_written.2.2.1 escape)

/-- A shorthand of a pattern survives exactly with a plain name; it is written out, and its variable
keeps its name. -/
theorem survives_shorthand (isToken : Place.shorthand.holds token = true)
    (ran : (transform options {} read (Place.shorthand.program token)).result = .ok content) :
    Survives options read (Place.shorthand.program token) ↔
      Place.shorthand.admits (Embedded.renamed mapping token) = true := by
  obtain ⟨plainToken, free⟩ : isPlainName token = true ∧ reservedAlways.contains token = false := by
    simpa [Place.holds] using isToken
  have source : Place.shorthand.program token =
      "function f" ++ Parse.patternText .compact token := by
    have text : ("function f(\x7b" ++ token ++ "\x7d)\x7b\x7d").toList =
        ("function f" ++ Parse.patternText .compact token).toList := by
      simp [Parse.patternText, Style.space]
    exact String.toList_inj.mp text
  rw [source] at ran ⊢
  cases known : mapping.get? token with
  | none =>
    rw [Embedded.renamed_of_unknown known]
    refine survives_iff_of_single mangles plain accepted ran
      (Parse.isStatement_shorthand .compact plainToken) ?_
      (areWritten_shorthand (Embedded.renamed_of_unknown known ▸ renamed_ne_empty accepted plainToken))
      (Parse.isStatement_shorthand _) fun _ _ _ _ _ => plainToken
    rintro _ ⟨item, isFunction, isShorthand⟩
    exact ⟨_, isFunction.rename _, isShorthand.rename_of_unknown _ known⟩
  | some name =>
    rw [Embedded.renamed_of_known known]
    refine survives_iff_of_single mangles plain accepted ran
      (Parse.isStatement_shorthand .compact plainToken) ?_
      (areWritten_writtenOut (Embedded.renamed_of_known known ▸ renamed_ne_empty accepted plainToken))
      (fun admitted => Parse.isStatement_writtenOut _ admitted plainToken free) ?_
    · rintro _ ⟨item, isFunction, isShorthand⟩
      exact ⟨_, isFunction.rename _, isShorthand.rename_of_known _ known⟩
    · rintro again node readAgain ⟨item, isFunction, isWrittenOut⟩ said
      exact isPlainName_of_said readAgain said (isFunction.mem_sites isWrittenOut.mem_sites)
        fun escape => escape_of_writtenOut plainToken (escape_of_written.2.2.2 escape)

end Places

/-! ## All programs -/

/-- The name of a renamed property is a name of the renamed program, whether it was written out or
not. -/
theorem exists_site_rename {program : Program} (plan : Renaming) {site : Site} {token : String}
    (inside : site ∈ program.sites) (stands : site = .name token ∨ site = .shorthand token) :
    ∃ found ∈ (program.rename plan).value.sites,
      Embedded.renamed plan.mapping token ∈ found.word? := by
  rw [Program.sites_rename]
  rcases stands with rfl | rfl
  · exact ⟨_, List.mem_flatMap.mpr ⟨_, inside, List.mem_singleton.mpr rfl⟩, rfl⟩
  · cases known : plan.mapping.get? token with
    | some name =>
      refine ⟨.name name, List.mem_flatMap.mpr ⟨_, inside, ?_⟩, ?_⟩
      · simp [Renaming.site, known]
      · rw [Embedded.renamed_of_known known]
        rfl
    | none =>
      refine ⟨.shorthand token, List.mem_flatMap.mpr ⟨_, inside, ?_⟩, ?_⟩
      · simp [Renaming.site, known]
      · rw [Embedded.renamed_of_unknown known]
        rfl

/-- The new name of a property is a word of any text that says what the renamed program does. -/
theorem hasWord_of_said {program again : Program} (plan : Renaming)
    (readAgain : Program.parse content = .ok again)
    (said : again.bare = (program.rename plan).value.bare) {site : Site} {token : String}
    (inside : site ∈ program.sites) (stands : site = .name token ∨ site = .shorthand token) :
    HasWord content.toList (Embedded.renamed plan.mapping token) := by
  obtain ⟨found, listed, word⟩ := exists_site_rename plan inside stands
  rw [← Program.sites_eq_of_bare said] at listed
  exact Program.hasWord_of_parse readAgain found listed _ word

/-- A program whose renamed properties are no words does not survive, whichever names were accepted:
their characters are those of names, and unless something is escaped they are plain. At each place of
a property, a plain name is enough, apart from the one that the constructor of a class has; that holds
of code for readers and of compact code, packed into lines or not.

Proof: what says the same has the same sites, and the name of a site of what was read is a word of
its text. The other direction reads the written text token by token. -/
theorem survives_iff_admits (options : Options) (read : Reader) (mapping : Mapping)
    (mangles : options.mangle = true)
    (accepted : Mapping.ofEntries options.mangling.propertyMaps = .ok mapping) :
    (∀ source program content, Program.parse source = .ok program →
      (transform options {} read source).result = .ok content → Survives options read source →
      ∀ site ∈ program.sites, ∀ token, site = .name token ∨ site = .shorthand token →
        (∀ c ∈ (Embedded.renamed mapping token).toList, isNamePart c = true) ∧
          ('\\' ∉ content.toList → isPlainName (Embedded.renamed mapping token) = true)) ∧
    ∀ (place : Place) token content, options.ast = false → place.holds token = true →
      (transform options {} read (place.program token)).result = .ok content →
      (Survives options read (place.program token) ↔
        place.admits (Embedded.renamed mapping token) = true) := by
  constructor
  · intro source program content parsed ran survives site inside token stands
    obtain ⟨_, _, _, again, parsedToo, acceptedToo, ranToo, readAgain, said⟩ := survives
    obtain rfl := Except.ok.inj (parsed.symm.trans parsedToo)
    obtain rfl := Except.ok.inj (accepted.symm.trans acceptedToo)
    obtain rfl := Except.ok.inj (ran.symm.trans ranToo)
    have found := hasWord_of_said _ readAgain said inside stands
    exact ⟨found.parts, found.isPlainName⟩
  · intro place token content noTree isToken ran
    cases place with
    | point => exact survives_point mangles noTree accepted isToken ran
    | parentMember => exact survives_parentMember mangles noTree accepted isToken ran
    | objectKey => exact survives_objectKey mangles noTree accepted isToken ran
    | classKey => exact survives_classKey mangles noTree accepted isToken ran
    | objectShorthand => exact survives_objectShorthand mangles noTree accepted isToken ran
    | shorthand => exact survives_shorthand mangles noTree accepted isToken ran

/-- Two lists that are accepted, of which the second names a property with a blank inside: a program
survives the first of them alone. -/
theorem survives_without_blank : ∃ plain blank : Options,
    plain.mangling.propertyMaps = ["foo:a"] ∧ blank.mangling.propertyMaps = ["foo:a b"] ∧
    (transform plain {} ({} : Files).read "o.foo;").result = .ok "o.a;" ∧
    Survives plain ({} : Files).read "o.foo;" ∧ isPlainName "a" = true ∧
    (transform blank {} ({} : Files).read "o.foo;").result = .ok "o.a b;" ∧
    ¬ Survives blank ({} : Files).read "o.foo;" := by
  let plain : Options := { mangle := true, mangling := { propertyMaps := ["foo:a"] } }
  let blank : Options := { mangle := true, mangling := { propertyMaps := ["foo:a b"] } }
  have ranPlain : (transform plain {} ({} : Files).read "o.foo;").result = .ok "o.a;" :=
    eq_ok_of_toOption (by decide +kernel)
  have ranBlank : (transform blank {} ({} : Files).read "o.foo;").result = .ok "o.a b;" :=
    eq_ok_of_toOption (by decide +kernel)
  obtain ⟨words, atPlaces⟩ := survives_iff_admits plain ({} : Files).read
    ⟨[("foo", "a")], by decide, by decide⟩ rfl rfl
  have keeps : Survives plain ({} : Files).read "o.foo;" :=
    (atPlaces .point "foo" "o.a;" rfl (by decide) ranPlain).mpr (by decide)
  have breaks : ¬ Survives blank ({} : Files).read "o.foo;" := by
    intro survives
    have admits := ((survives_iff_admits blank ({} : Files).read
      ⟨[("foo", "a b")], by decide, by decide⟩ rfl rfl).2 .point "foo" "o.a b;" rfl (by decide)
      ranBlank).mp survives
    exact absurd admits (by decide)
  refine ⟨plain, blank, rfl, rfl, ranPlain, keeps, ?_, ranBlank, breaks⟩
  obtain ⟨program, _, _, _, parsed, -⟩ := id keeps
  have sites : (Program.parse "o.foo;").toOption.map (fun program => decide (.name "foo" ∈ program.sites)) =
      some true := by decide +kernel
  rw [parsed] at sites
  exact (words _ program _ parsed ranPlain keeps (.name "foo") (of_decide_eq_true (Option.some.inj sites))
    "foo" (.inl rfl)).2 (by decide)

end PropertyMangling
