import PropertyMangling.Proofs.Output
import PropertyMangling.Proofs.Property.Ends
import PropertyMangling.Proofs.Script.Compact
import PropertyMangling.Proofs.Script.Statements
import PropertyMangling.Proofs.Text.Packing
/-!
# The two ways to print a program

A program is printed as a whole, or statement by statement to be packed into
lines. Statements with firm ends lose nothing when each of them is trimmed on its
own, so both ways print the same characters of them. Only the line that names an
interpreter belongs to no statement.
-/
namespace PropertyMangling

open Script Text

namespace Text

/-- A text that ends firmly is all that is left without the blank end exactly when nothing firm
stands in front of it. -/
theorem trimRight_append_eq_iff {lead body : List Char}
    (opens : ∀ c ∈ lead.head?, isBlank c = false)
    (closes : ∀ c ∈ body.getLast?, isBlank c = false) :
    trimRight (lead ++ body) = body ↔ lead = [] := by
  constructor
  · intro same
    cases lead with
    | nil => rfl
    | cons c rest =>
      have firm : isBlank c = false := opens c rfl
      by_cases empty : body = []
      · rw [empty, List.append_nil] at same
        have blank := List.rdropWhile_eq_nil_iff.mp same c List.mem_cons_self
        rw [firm] at blank
        cases blank
      · rw [trimRight_eq_self (by rwa [List.getLast?_append_of_ne_nil _ empty])] at same
        have shorter := congrArg List.length same
        rw [List.length_append, List.length_cons] at shorter
        omega
  · rintro rfl
    exact trimRight_eq_self closes

end Text

namespace Script

/-- The marks of statements are those of each of them with what closes it. -/
theorem eachStatement_eq_map (style : Style) (nodes : List Node) :
    eachStatement style nodes =
      nodes.map fun node => node.marks style false ++ closing style node := by
  induction nodes with
  | nil => rfl
  | cons node rest inductionHypothesis =>
    rw [eachStatement, inductionHypothesis, List.map_cons]

/-- A program of statements that are printed with firm ends. -/
def Program.IsTidy (program : Program) : Prop := ∀ item ∈ program.items, item.IsTidy

/-- The characters of a statement at its place. -/
def Node.ink (node : Node) : List Char :=
  inkOf (node.marks .compact false ++ closing .compact node)

/-- The characters of a program's statements. -/
def Program.ink (program : Program) : List Char := program.items.flatMap Node.ink

/-- The text of a program's items is that of each item with what closes it, one behind the
other. -/
theorem inkOf_itemMarks (items : List Node) :
    inkOf (itemMarks .compact items) = items.flatMap Node.ink := by
  rw [itemMarks, inkOf_flatten, eachStatement_eq_map, List.map_map, List.flatMap]
  rfl

/-- The items of a program are written without line ends, so that lines end only where packing
ends them. -/
theorem isUnbroken_itemMarks (items : List Node) : IsUnbroken (itemMarks .compact items) := by
  intro inside
  obtain ⟨piece, listed, inside⟩ := List.mem_flatten.mp inside
  exact isUnbroken_eachStatement items piece listed inside

section Tidy

variable {items : List Node} (tidy : ∀ item ∈ items, item.IsTidy)
include tidy

/-- The statements of a tidy program are firm at both ends of all of them. -/
theorem hasFirmEnds_ink : HasFirmEnds (items.flatMap Node.ink) := by
  induction items with
  | nil => exact hasFirmEnds_of_firm fun _ impossible => nomatch impossible
  | cons item rest inductionHypothesis =>
    obtain ⟨tidyItem, tidyRest⟩ := List.forall_mem_cons.mp tidy
    have firm : IsFirm item.ink := tidyItem.isFirm
    rw [List.flatMap_cons]
    by_cases empty : rest.flatMap Node.ink = []
    · rw [empty, List.append_nil]
      exact firm.toHasFirmEnds
    · have whole := firm.toHasFirmEnds.append (inductionHypothesis tidyRest) firm.filled empty []
      rwa [List.append_nil] at whole

/-- Items are written as they are at the start of a page, and at the start of a line of it. -/
theorem written_itemMarks {page : Page} (outermost : page.level = 0) :
    ((itemMarks .compact items).foldl Page.write page).written =
      (items.flatMap Node.ink).reverse ++ page.written := by
  rw [← inkOf_itemMarks]
  cases items with
  | nil => rfl
  | cons item rest =>
    have opens : Opens (itemMarks .compact (item :: rest)) := by
      have first := (item.opens_marks false (tidy item List.mem_cons_self).opens).append
        (closing .compact item)
      exact first.append _
    exact written_foldl_of_opens opens (isUnbroken_itemMarks _) outermost

end Tidy

/-- The line of an interpreter starts with its mark and ends with a line feed. -/
theorem toList_interpreterText (line : String) :
    (interpreterText (some line)).toList = '#' :: '!' :: (line.toList ++ ['\n']) := by
  simp [interpreterText]

variable {program : Program}

/-- A tidy program still is when it is renamed, statement by statement. -/
theorem Program.IsTidy.rename (tidy : program.IsTidy) (plan : Renaming) :
    (program.rename plan).value.IsTidy := by
  have each : ∀ nodes : List Node, (∀ node ∈ nodes, node.IsTidy) →
      ∀ node ∈ (renameAll plan nodes).value, node.IsTidy := by
    intro nodes tidy
    induction nodes with
    | nil => exact tidy
    | cons node rest inductionHypothesis =>
      obtain ⟨tidyNode, tidyRest⟩ := List.forall_mem_cons.mp tidy
      exact List.forall_mem_cons.mpr ⟨tidyNode.rename, inductionHypothesis tidyRest⟩
  exact each program.items tidy

variable (tidy : program.IsTidy)
include tidy

/-- What is printed of a tidy program is the line of its interpreter and its statements. -/
theorem toList_print : (program.print .compact).toList =
    (interpreterText program.interpreter?).toList ++ program.ink := by
  rw [Program.print, render, String.toList_ofList, List.foldl_append]
  cases program.interpreter? with
  | none =>
    rw [interpreterMarks, List.foldl_nil, written_itemMarks tidy rfl]
    simp [interpreterText, Program.ink]
  | some line =>
    have named : (interpreterMarks (some line)).foldl Page.write {} =
        { written := (interpreterText (some line)).toList.reverse } := by
      by_cases empty : line = ""
      · simp [interpreterMarks, txt, Page.write, interpreterText, indentation, empty]
      · simp [interpreterMarks, txt, Page.write, interpreterText, indentation, empty]
    rw [named, written_itemMarks tidy rfl]
    simp [Program.ink]

/-- The statements of a tidy program, each of them trimmed, are put behind each other as they are. -/
theorem join_statementsOf :
    String.join (Options.statementsOf .compact program) = String.ofList program.ink := by
  have printed : ∀ item ∈ program.items,
      trimmed (render (itemMarks .compact [item])) = String.ofList item.ink := by
    intro item listed
    have alone : ∀ other ∈ [item], other.IsTidy := List.forall_mem_singleton.mpr (tidy item listed)
    have firm : HasFirmEnds item.ink := (tidy item listed).isFirm.toHasFirmEnds
    have page := written_itemMarks alone (rfl : ({} : Page).level = 0)
    rw [trimmed, render, page]
    simp [trim_eq_self firm]
  have statements : Options.statementsOf .compact program =
      program.items.map fun item => String.ofList item.ink := by
    rw [Options.statementsOf, Program.printItems, List.map_map]
    exact List.map_congr_left printed
  apply String.toList_injective
  rw [statements, String.toList_join, String.toList_ofList, Program.ink, List.flatMap_map]
  simp

/-- The statements of a tidy program are all that is printed of it exactly when no interpreter is
named. -/
theorem trimmedEnd_print_eq_iff :
    Options.trimmedEnd (program.print .compact) = String.ofList program.ink ↔
      program.interpreter? = none := by
  have firm : HasFirmEnds program.ink := hasFirmEnds_ink tidy
  rw [Options.trimmedEnd, toList_print tidy, String.ofList_inj]
  cases program.interpreter? with
  | none =>
    have whole : trimRight program.ink = program.ink := trimRight_eq_self firm.last
    simpa [interpreterText] using whole
  | some line =>
    have opens : ∀ c ∈ (interpreterText (some line)).toList.head?, isBlank c = false := by
      rw [toList_interpreterText]
      rintro _ ⟨⟩
      decide
    rw [trimRight_append_eq_iff opens firm.last, toList_interpreterText]
    simp

/-- Nothing blank stands in front of what is printed of a tidy program. -/
theorem trimmed_print :
    trimmed (program.print .compact) = Options.trimmedEnd (program.print .compact) := by
  have starts : trimLeft (program.print .compact).toList = (program.print .compact).toList := by
    refine trimLeft_eq_self ?_
    rw [toList_print tidy]
    cases program.interpreter? with
    | none => exact (hasFirmEnds_ink tidy).first
    | some line =>
      rw [toList_interpreterText]
      rintro _ ⟨⟩
      decide
  rw [trimmed, trim, starts, Options.trimmedEnd]

end Script

/-- Collaborators that answer with tidy programs when tidy ones are handed to them. -/
def Collaborators.KeepTidy (collaborators : Collaborators) : Prop :=
  ∀ {call given answer}, collaborators.answer? call given = some (.ok answer) →
    given.IsTidy → answer.IsTidy

/-- Renaming properties is all that the collaborators do that are built in. -/
theorem exists_plan_of_answer? {call : Call} {given answer : Program}
    (answers : ({} : Collaborators).answer? call given = some (.ok answer)) :
    ∃ plan : Renaming, answer = (given.rename plan).value := by
  cases call with
  | mangle request => exact ⟨_, (Except.ok.inj (Option.some.inj answers)).symm⟩
  | _ => cases answers

/-- The collaborators that are built in keep programs tidy, since all they do is rename
properties. -/
theorem keepTidy_builtIn : ({} : Collaborators).KeepTidy := by
  intro call given answer answers tidy
  obtain ⟨plan, rfl⟩ := exists_plan_of_answer? answers
  exact tidy.rename plan

/-- The collaborators that are built in keep the line of the interpreter. -/
theorem keepInterpreter_builtIn {call : Call} {given answer : Program} {interpreter? : Option String}
    (answers : ({} : Collaborators).answer? call given = some (.ok answer))
    (named : given.interpreter? = interpreter?) : answer.interpreter? = interpreter? := by
  obtain ⟨plan, rfl⟩ := exists_plan_of_answer? answers
  exact named

/-- The options, with lines packed to a limit or not at all. -/
def Options.packedTo (options : Options) (limit? : Option Nat) : Options :=
  { options with maxLineLength? := limit? }

/-- The two ways to print give the same program exactly when it names no interpreter.

For every program that is read, its statements put behind each other are what is printed of it as a
whole, and for every run on its source the lines that are packed are what the run prints without a
limit, line ends between statements apart. The line of an interpreter is printed with the whole
alone. -/
theorem packed_is_whole_iff {source : String} {program : Program}
    (parsed : Program.parse source = .ok program) :
    (String.join (Options.statementsOf .compact program) = trimmed (program.print .compact) ↔
      program.interpreter? = none) ∧
    ∀ {options : Options} {collaborators : Collaborators} {read : Reader} {whole : String}
      {limit : Nat}, options.beautify = false → options.ast = false → collaborators.KeepTidy →
      0 < limit →
      (transform (options.packedTo none) collaborators read source).result = .ok whole →
      ∃ handed last leading lines, HandsOn collaborators handed program last ∧
        leading = (if options.showCopyright then program.leadingText source else "") ∧
        lines = (groups limit (Options.statementsOf .compact last)).map String.join ∧
        (transform (options.packedTo (some limit)) collaborators read source).result =
          .ok (leading ++ String.intercalate "\n" lines) ∧
        (leading ++ String.join lines = whole ↔ last.interpreter? = none) := by
  have tidyProgram : program.IsTidy := Program.tidy_of_parse parsed
  constructor
  · rw [join_statementsOf tidyProgram, trimmed_print tidyProgram, eq_comm,
      trimmedEnd_print_eq_iff tidyProgram]
  · intro options collaborators read whole limit compact plain keeps positive ran
    obtain ⟨_, handed, last, same, handsOn, printed, others⟩ := exists_last ran
    obtain rfl := Except.ok.inj (parsed.symm.trans same)
    have tidy : last.IsTidy := handsOn.keeps Program.IsTidy keeps tidyProgram
    refine ⟨handed, last, _, _, handsOn, rfl, rfl, ?_, ?_⟩
    · rw [others (options.packedTo (some limit)) rfl]
      simp [Options.output, Options.packedTo, Options.code, Options.packingLimit?, plain, compact,
        positive, packLines]
    · have whole : (options.packedTo none).output (program.leadingText source) last =
          (if options.showCopyright then program.leadingText source else "") ++
            Options.trimmedEnd (last.print .compact) := by
        simp [Options.output, Options.packedTo, Options.code, Options.packingLimit?, plain, compact]
      rw [printed, whole, join_lines, join_statementsOf tidy, String.append_right_inj, eq_comm,
        trimmedEnd_print_eq_iff tidy]

/-- A source that names its interpreter: neither its statements nor its lines hold it. -/
theorem packed_loses_interpreter :
    (transform (({} : Options).packedTo none) {} ({} : Files).read
      "#!/usr/bin/env node\nvar a = 1;").result = .ok "#!/usr/bin/env node\nvar a=1;" ∧
    ∃ program lines, Program.parse "#!/usr/bin/env node\nvar a = 1;" = .ok program ∧
      String.join (Options.statementsOf .compact program) ≠ trimmed (program.print .compact) ∧
      (transform (({} : Options).packedTo (some 80)) {} ({} : Files).read
        "#!/usr/bin/env node\nvar a = 1;").result = .ok (String.intercalate "\n" lines) ∧
      String.join lines ≠ "#!/usr/bin/env node\nvar a=1;" := by
  have ran : (transform (({} : Options).packedTo none) {} ({} : Files).read
      "#!/usr/bin/env node\nvar a = 1;").result = .ok "#!/usr/bin/env node\nvar a=1;" :=
    eq_ok_of_toOption (by decide +kernel)
  have names : (Program.parse "#!/usr/bin/env node\nvar a = 1;").toOption.map
      Program.interpreter? = some (some "/usr/bin/env node") := by decide +kernel
  obtain ⟨program, parsed, interpreted⟩ := Option.map_eq_some_iff.mp names
  have parsed : Program.parse "#!/usr/bin/env node\nvar a = 1;" = .ok program :=
    eq_ok_of_toOption parsed
  obtain ⟨apart, packs⟩ := packed_is_whole_iff parsed
  obtain ⟨handed, last, _, lines, handsOn, rfl, -, packed, same⟩ :=
    packs rfl rfl keepTidy_builtIn (by decide : 0 < 80) ran
  have kept : last.interpreter? = some "/usr/bin/env node" :=
    handsOn.keeps (fun program => program.interpreter? = _) keepInterpreter_builtIn interpreted
  refine ⟨ran, program, lines, parsed, ?_, ?_, ?_⟩
  · rw [Ne, apart, interpreted]
    exact nofun
  · rw [packed]
    exact congrArg Except.ok String.empty_append
  · intro joined
    have unnamed := same.mp (String.empty_append.trans joined)
    rw [kept] at unnamed
    cases unnamed

end PropertyMangling
