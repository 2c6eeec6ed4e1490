import Mathlib.Data.List.TakeWhile
import PropertyMangling.Proofs.Script.Refusal
/-!
# What stands in front of a program

A line for the interpreter and comments can stand in front of a text. Comments
do not change what the text is read as, and the line is all that it adds; but a
text that has a line of its own is no program behind either of them.
-/
namespace PropertyMangling.Script

/-- What a text means as a program: the line of its interpreter, and its items. -/
def meaning? (text : String) : Option (Option String × List Node) :=
  match Program.parse text with
  | .ok program => some (program.interpreter?, program.items)
  | .error _ => none

/-- The items behind an opening, if they can be read. -/
def Opening.statements? (opening : Opening) : Option (List Node) :=
  match opening.items with
  | .ok (items, _) => some items
  | .error _ => none

/-- A text means what is behind its opening, with the interpreter that the opening names. -/
theorem meaning?_eq (text : String) :
    meaning? text = (opening? text).bind fun opening =>
      opening.statements?.map fun items => (opening.interpreter?, items) := by
  unfold meaning? Program.parse
  cases opening? text with
  | none => rfl
  | some opening =>
    simp only [Option.bind_some, Opening.statements?]
    cases opening.items <;> rfl

/-- Whether a text starts with the line of an interpreter. -/
def HasInterpreter (text : List Char) : Prop := ['#', '!'] <+: text

/-- A text without the line of an interpreter starts at its start. -/
theorem interpreterLine_of_not {text : List Char} (none : ¬ HasInterpreter text) :
    interpreterLine text = (Option.none, ⟨text, 1⟩) := by
  unfold interpreterLine
  split
  · next rest => exact absurd ⟨rest, rfl⟩ none
  · rfl

/-- The line of an interpreter ends at the first line end. -/
theorem interpreterLine_append {line : List Char} (onLine : ∀ c ∈ line, isLineEnd c = false)
    (rest : List Char) : ∃ place,
      interpreterLine ('#' :: '!' :: (line ++ '\n' :: rest)) = (some (String.ofList line), place) ∧
        place.text = '\n' :: rest := by
  have cut : lineOf (line ++ '\n' :: rest) = line := by
    rw [lineOf, List.takeWhile_append_of_pos (by simpa using onLine)]
    simp [isLineEnd]
  refine ⟨_, by rw [interpreterLine, cut], ?_⟩
  simp [Cursor.skip]

/-- The text of an interpreter's line has no line end, since it is read up to the first one. -/
theorem onLine_of_interpreterLine {text : List Char} {line : String} {place : Cursor}
    (found : interpreterLine text = (some line, place)) :
    ∀ c ∈ line.toList, isLineEnd c = false := by
  unfold interpreterLine at found
  split at found
  · next rest =>
    rw [← Option.some.inj (Prod.mk.inj found).1, String.toList_ofList]
    intro c inside
    simpa using List.mem_takeWhile_imp inside
  · cases found

/-- What was met in front of a token does not change how it is arrived at. -/
theorem arrive_moved (trivia : Trivia) (distance : Nat) (before : List Comment) :
    Parse.arrive (trivia.moved distance before) = Parse.arrive trivia := by
  funext start opened finished
  simp only [Parse.arrive, Trivia.moved, Option.isSome_map]

/-- Reading goes on behind an opening that was met further on as behind the opening itself. -/
theorem Opening.statements?_moved (opening : Opening) {moved : Opening} {distance : Nat}
    {before : List Comment} (trivia : moved.trivia = opening.trivia.moved distance before)
    (first : moved.first = opening.first.moved distance) :
    moved.statements? = opening.statements? := by
  have origin : moved.origin = opening.origin + distance := by
    rw [Opening.origin, trivia, first, Opening.origin, Trivia.moved, Cursor.moved]
    cases opening.trivia.document? <;> rfl
  have margin : moved.first.position - moved.origin = opening.first.position - opening.origin := by
    rw [origin, first]
    exact Nat.add_sub_add_right _ _ _
  have items : moved.items = opening.items := by
    unfold Opening.items Parse.items
    rw [margin, trivia, first, arrive_moved]
    rfl
  rw [Opening.statements?, items, Opening.statements?]

/-- Nothing is read behind an opening that ends at the mark of an interpreter's line. -/
theorem Opening.statements?_mark {opening : Opening} (mark : HasInterpreter opening.first.text) :
    opening.statements? = none := by
  obtain ⟨rest, text⟩ := mark
  obtain ⟨error, failed⟩ := Parse.items_fail opening.trivia
    ⟨opening.first.text, 1 + (opening.first.position - opening.origin)⟩ text.symm
    (Parse.levelsFor (extentOf opening.first.text)) { size := extentOf opening.first.text } {}
  rw [Opening.statements?, Opening.items, failed]
  rfl

section Lead

variable {interpreter? : Option String} {written : List Comment}

/-- The line of an interpreter and comments, as they are written in front of a program. -/
def leadOf (interpreter? : Option String) (written : List Comment) : String :=
  interpreterText interpreter? ++ String.join (written.map Comment.render)

/-- Comments that are written start with the slash of a mark. -/
theorem exists_slash_of_written (filled : String.join (written.map Comment.render) ≠ "") :
    ∃ rest, (String.join (written.map Comment.render)).toList = '/' :: rest := by
  cases written with
  | nil => exact absurd rfl filled
  | cons comment others =>
    rw [List.map_cons, String.join_cons, String.toList_append, Comment.render]
    split <;> exact ⟨_, by simp; rfl⟩

/-- A walk passes what is written in front of a text, line and comments, and goes on at that text as
from the start of a line. -/
theorem exists_walk_behind
    (onLine : ∀ line ∈ interpreter?, ∀ c ∈ line.toList, isLineEnd c = false)
    (writable : ∀ comment ∈ written, comment.IsWritable)
    (filled : leadOf interpreter? written ≠ "") (text : List Char) :
    ∃ place distance before,
      interpreterLine ((leadOf interpreter? written).toList ++ text) = (interpreter?, place) ∧
        place.trivia true = Trivia.walk .between (({ newline := true } : Trivia).moved distance before)
          (1 + distance) text := by
  cases interpreter? with
  | none =>
    have start : leadOf none written = String.join (written.map Comment.render) := by
      rw [leadOf, interpreterText, String.empty_append]
    rw [start] at filled ⊢
    obtain ⟨further, comments, passed⟩ :=
      Trivia.walk_renders writable { newline := true } 1 text rfl
    have noMark : ¬ HasInterpreter ((String.join (written.map Comment.render)).toList ++ text) := by
      obtain ⟨rest, opened⟩ := exists_slash_of_written filled
      rw [opened]
      rintro ⟨behind, same⟩
      exact absurd (congrArg List.head? same) (by simp)
    refine ⟨_, further, comments, interpreterLine_of_not noMark, ?_⟩
    rw [Cursor.trivia, passed, Trivia.moved, List.append_nil]
    rfl
  | some line =>
    obtain ⟨place, found, behind⟩ := interpreterLine_append (onLine line rfl)
      ((String.join (written.map Comment.render)).toList ++ text)
    obtain ⟨further, comments, passed⟩ :=
      Trivia.walk_renders writable { newline := true } (place.position + 1) text rfl
    refine ⟨place, place.position + further, comments, ?_, ?_⟩
    · have spelled : (leadOf (some line) written).toList ++ text =
          '#' :: '!' :: (line.toList ++ '\n' ::
            ((String.join (written.map Comment.render)).toList ++ text)) := by
        simp [leadOf, interpreterText]
      rw [spelled, found, String.ofList_toList]
    · rw [Cursor.trivia, behind, Trivia.walk, if_pos (by decide)]
      · rw [Trivia.moved, List.append_nil, ← Nat.add_assoc, Nat.add_comm 1]
        exact passed
      all_goals simp

/-- Behind an interpreter's line or comments, a text means the same items with that line in front of
them; and nothing when it has the line of an interpreter itself. -/
theorem meaning?_behind
    (onLine : ∀ line ∈ interpreter?, ∀ c ∈ line.toList, isLineEnd c = false)
    (writable : ∀ comment ∈ written, comment.IsWritable)
    (filled : leadOf interpreter? written ≠ "") (text : String) :
    (HasInterpreter text.toList → meaning? (leadOf interpreter? written ++ text) = none) ∧
      (¬ HasInterpreter text.toList → meaning? (leadOf interpreter? written ++ text) =
        (meaning? text).map fun meant => (interpreter?, meant.2)) := by
  obtain ⟨place, distance, before, found, walked⟩ :=
    exists_walk_behind onLine writable filled text.toList
  have opened : opening? (leadOf interpreter? written ++ text) =
      ((Cursor.mk text.toList 1).trivia true).map fun found =>
        ⟨interpreter?, place, found.1.moved distance before, found.2.moved distance⟩ := by
    rw [opening?, String.toList_append, found]
    change (place.trivia true).bind _ = _
    rw [walked, Trivia.walk_moved, Cursor.trivia]
    cases Trivia.walk .between { newline := true } 1 text.toList <;> rfl
  rw [meaning?_eq, opened]
  constructor
  · rintro ⟨rest, mark⟩
    have stays : (Cursor.mk text.toList 1).trivia true =
        some ({ newline := true }, ⟨text.toList, 1⟩) :=
      Cursor.trivia_stops mark.symm (by decide) (by decide) true
    rw [stays, Option.map_some, Option.bind_some, Opening.statements?_mark ⟨rest, mark⟩]
    rfl
  · intro noMark
    have alone : opening? text = ((Cursor.mk text.toList 1).trivia true).map fun found =>
        ⟨none, ⟨text.toList, 1⟩, found.1, found.2⟩ := by
      rw [opening?, interpreterLine_of_not noMark]
      change Option.bind _ _ = _
      cases (Cursor.mk text.toList 1).trivia true <;> rfl
    rw [meaning?_eq, alone]
    cases (Cursor.mk text.toList 1).trivia true with
    | none => rfl
    | some found =>
      obtain ⟨trivia, first⟩ := found
      rw [Option.map_some, Option.map_some, Option.bind_some, Option.bind_some, Option.map_map,
        Opening.statements?_moved ⟨none, ⟨text.toList, 1⟩, trivia, first⟩ rfl rfl]
      rfl

end Lead

/-- An opening knows the interpreter of the line that its text starts with, if that is such a
line. -/
theorem interpreter_of_opening? {text : String} {opening : Opening}
    (opened : opening? text = some opening) :
    opening.interpreter? = (interpreterLine text.toList).1 := by
  obtain ⟨⟨trivia, first⟩, _, same⟩ := Option.bind_eq_some_iff.mp opened
  rw [← Option.some.inj same]
  rfl

/-- A program that is read has the line and the comments of its opening. -/
theorem opening?_of_parse {source : String} {program : Program}
    (parsed : Program.parse source = .ok program) :
    ∃ opening, opening? source = some opening ∧ program.interpreter? = opening.interpreter? := by
  unfold Program.parse at parsed
  cases opened : opening? source with
  | none =>
    rw [opened] at parsed
    cases parsed
  | some opening =>
    simp only [opened] at parsed
    cases read : opening.items with
    | error error =>
      rw [read] at parsed
      cases parsed
    | ok answer =>
      rw [read] at parsed
      exact ⟨opening, rfl, by rw [← Except.ok.inj parsed]⟩

/-- A text that means something names an interpreter when it has the mark of one. -/
theorem interpreter_eq_none_iff {text : String} {meant : Option String × List Node}
    (means : meaning? text = some meant) :
    meant.1 = none ↔ ¬ HasInterpreter text.toList := by
  rw [meaning?_eq] at means
  obtain ⟨opening, opened, read⟩ := Option.bind_eq_some_iff.mp means
  obtain ⟨items, _, rfl⟩ := Option.map_eq_some_iff.mp read
  rw [interpreter_of_opening? opened]
  constructor
  · rintro none ⟨rest, mark⟩
    rw [← mark] at none
    cases none
  · intro noMark
    rw [interpreterLine_of_not noMark]

/-- What stands in front of a program that was read is the line of its interpreter and comments that
can be written out again. -/
theorem exists_leadingText {source : String} {program : Program}
    (parsed : Program.parse source = .ok program) :
    ∃ written, program.leadingText source = leadOf program.interpreter? written ∧
      (∀ comment ∈ written, comment.IsWritable) ∧
      ∀ line ∈ program.interpreter?, ∀ c ∈ line.toList, isLineEnd c = false := by
  obtain ⟨opening, opened, named⟩ := opening?_of_parse parsed
  have writable : ∀ comment ∈ openingComments source, comment.IsWritable := by
    obtain ⟨⟨trivia, first⟩, walked, same⟩ := Option.bind_eq_some_iff.mp opened
    have start : ∀ text, TriviaPlace.between.Fits text := fun _ => trivial
    rw [openingComments, opened, ← Option.some.inj same]
    exact Trivia.walk_isWritable (start _) (fun _ none => absurd none List.not_mem_nil) walked
  refine ⟨if program.items.isEmpty then [] else openingComments source, rfl, ?_, ?_⟩
  · split
    · exact fun _ none => absurd none List.not_mem_nil
    · exact writable
  · intro line there
    rw [named, interpreter_of_opening? opened] at there
    exact onLine_of_interpreterLine (Prod.ext there rfl)

/-- The line of an interpreter stands in front of its program. -/
theorem interpreter_of_leadingText {source : String} {program : Program}
    (empty : program.leadingText source = "") : program.interpreter? = none := by
  rw [Program.leadingText] at empty
  cases named : program.interpreter? with
  | none => rfl
  | some line =>
    rw [named] at empty
    simpa [interpreterText] using congrArg String.toList empty

/-- Behind what stands in front of a source, a text that names no interpreter means the same items
with the interpreter of the source, and a text that names one means nothing. -/
theorem meaning?_leadingText {source : String} {program : Program}
    (parsed : Program.parse source = .ok program) {text : String}
    {meant : Option String × List Node} (means : meaning? text = some meant)
    (filled : program.leadingText source ≠ "") :
    meaning? (program.leadingText source ++ text) =
      if meant.1 = none then some (program.interpreter?, meant.2) else none := by
  obtain ⟨written, lead, writable, onLine⟩ := exists_leadingText parsed
  rw [lead] at filled ⊢
  obtain ⟨marked, unmarked⟩ := meaning?_behind onLine writable filled text
  by_cases mark : HasInterpreter text.toList
  · have named : meant.1 ≠ none := fun none => (interpreter_eq_none_iff means).mp none mark
    rw [marked mark, if_neg named]
  · have unnamed : meant.1 = none := (interpreter_eq_none_iff means).mpr mark
    rw [unmarked mark, means, if_pos unnamed, Option.map_some]

end PropertyMangling.Script
