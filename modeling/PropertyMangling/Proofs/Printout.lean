import PropertyMangling.CommandLine
import PropertyMangling.Proofs.Review
import PropertyMangling.Proofs.Text.Lines
/-!
# Token files as they are printed

The lines of a token file are printed one behind another and are cut apart again
when the file is read. The lines of classified tokens are firm, so nothing is
trimmed from them. But a token stands in its line as it is: a subscript may hold
a line feed, and its line is then read as two.
-/
namespace PropertyMangling

open TokenFile Text

variable {reserved : Reserved.Index} {minLength : Nat} {token reason : String}

/-- A firm text on one line. -/
structure IsOneLine (text : List Char) : Prop extends IsFirm text where
  plain : '\n' ∉ text

/-- Texts on one line make one line when nothing between them breaks it. -/
theorem IsOneLine.append {left right : List Char} (oneLeft : IsOneLine left)
    (oneRight : IsOneLine right) (between : List Char) (plain : '\n' ∉ between) :
    IsOneLine (left ++ between ++ right) where
  toIsFirm := oneLeft.toIsFirm.append oneRight.toIsFirm between
  plain := by simp [oneLeft.plain, oneRight.plain, plain]

/-- A text without line feeds is one line when it has two ends, neither of them blank. -/
theorem isOneLine_of_ends {text : List Char} (first : text.head?.map isBlank = some false)
    (last : text.getLast?.map isBlank = some false) (plain : '\n' ∉ text) : IsOneLine text where
  first c atStart := by
    rw [Option.mem_def.mp atStart] at first
    exact Option.some.inj first
  last c atEnd := by
    rw [Option.mem_def.mp atEnd] at last
    exact Option.some.inj last
  filled := by
    rintro rfl
    cases first
  plain := plain

/-- The wording of a category stands on one line, as a line of the file needs. -/
theorem Reserved.Category.isOneLine_label (category : Category) :
    IsOneLine category.label.toList := by
  apply isOneLine_of_ends <;> cases category <;> decide

/-- A word stands on one line, since no line end is a character of words. -/
theorem isOneLine_word {word : String} (isWord : Identifier.IsWord word) :
    IsOneLine word.toList := by
  constructor
  · exact ⟨isWord.hasFirmEnds, isWord.1⟩
  · intro inside
    exact absurd (isWord.2 '\n' inside) (by decide)

/-- A number is a word of digits, so its text stands on one line. -/
theorem isWord_toString (number : Nat) : Identifier.IsWord (toString number) := by
  have written : (toString number).toList = Nat.toDigits 10 number := Nat.toList_repr
  constructor
  · rw [written]
    exact Nat.toDigits_ne_nil
  · intro c inside
    rw [written] at inside
    have digit : c.isDigit = true := Nat.isDigit_of_mem_toDigits (by decide) (by decide) inside
    simp only [Char.isDigit, Bool.and_eq_true, decide_eq_true_eq] at digit
    simp only [Identifier.isPart, Char.le_def, Bool.or_eq_true, Bool.and_eq_true,
      decide_eq_true_eq]
    exact Or.inr digit

/-- The labels of a reserved token stand on one line, with commas between them. -/
theorem isOneLine_labels {categories : List Reserved.Category} (listed : categories ≠ []) :
    IsOneLine (String.intercalate ", " (categories.map Reserved.Category.label)).toList := by
  induction categories with
  | nil => exact absurd rfl listed
  | cons first rest inductionHypothesis =>
    have oneFirst : IsOneLine first.label.toList := first.isOneLine_label
    rw [String.toList_intercalate] at inductionHypothesis ⊢
    cases rest with
    | nil => simpa using oneFirst
    | cons second others =>
      have whole := oneFirst.append (inductionHypothesis (List.cons_ne_nil _ _))
        [',', ' '] (by decide)
      simpa [List.intercalate_cons_cons] using whole

/-- A reason against renaming stands on one line, whichever reason it is. -/
theorem isOneLine_reason (excluded : exclusionReason? reserved minLength token = some reason) :
    IsOneLine reason.toList := by
  unfold exclusionReason? at excluded
  split at excluded
  case isTrue set =>
    have listed : reserved.categories token ≠ [] := by simpa [Reserved.Index.isReserved] using set
    have opening : IsOneLine "used in".toList :=
      isOneLine_of_ends (by decide) (by decide) (by decide)
    have whole := opening.append (isOneLine_labels listed) [' '] (by decide)
    rw [← Option.some.inj excluded]
    simpa using whole
  case isFalse =>
    split at excluded
    case isTrue =>
      rw [← Option.some.inj excluded]
      exact isOneLine_of_ends (by decide) (by decide) (by decide)
    case isFalse =>
      split at excluded
      case isTrue =>
        have opening : IsOneLine "length of token is less than".toList :=
          isOneLine_of_ends (by decide) (by decide) (by decide)
        have whole := opening.append (isOneLine_word (isWord_toString minLength)) [' '] (by decide)
        rw [← Option.some.inj excluded]
        simpa using whole
      case isFalse => cases excluded

/-- The line of a token is firm, so that trimming leaves it as it was written. -/
theorem isFirm_message (reserved : Reserved.Index) (minLength : Nat) (token : String) :
    IsFirm (classifyToken reserved minLength token).message.toList := by
  cases classified : exclusionReason? reserved minLength token with
  | none =>
    rw [message_of_renamable classified]
    exact (isOneLine_word (isWord_of_renamable classified)).toIsFirm
  | some reason =>
    have marker : IsFirm [commentMarker] :=
      (isOneLine_of_ends (by decide) (by decide) (by decide)).toIsFirm
    have whole := marker.append (isOneLine_reason classified).toIsFirm (token.toList ++ [':', ' '])
    rw [message_of_excluded classified]
    simpa using whole

/-- The line of a token holds a line feed exactly when the token does. -/
theorem lineFeed_mem_message (reserved : Reserved.Index) (minLength : Nat) (token : String) :
    '\n' ∈ (classifyToken reserved minLength token).message.toList ↔ '\n' ∈ token.toList := by
  cases classified : exclusionReason? reserved minLength token with
  | none => rw [message_of_renamable classified]
  | some reason =>
    have plain : '\n' ∉ reason.toList := (isOneLine_reason classified).plain
    rw [message_of_excluded classified]
    simp [plain, commentMarker]

/-- Printed lines that are firm are read back exactly when none of them holds a line feed. -/
theorem lines_linesText_iff {lines : List String} (listed : lines ≠ [])
    (firm : ∀ line ∈ lines, IsFirm line.toList) :
    Text.lines (CommandLine.linesText lines) = lines ↔ ∀ line ∈ lines, '\n' ∉ line.toList := by
  have printed : (CommandLine.linesText lines).toList =
      ((lines.map String.toList).map (· ++ ['\n'])).flatten := by
    rw [CommandLine.linesText, String.toList_join, List.flatMap_def, List.map_map, List.map_map]
    exact congrArg List.flatten (List.map_congr_left fun line _ => String.toList_append)
  rw [lines_eq_iff, printed, lineChars_flatten_iff (by simpa using listed)
    (List.forall_mem_map.mpr firm), List.forall_mem_map]

namespace Review

/-- Without reviewed lines, the lines of the file are those of the tokens. -/
theorem mem_whole_iff {review : Review} {program : Script.Program} {line : String} :
    line ∈ (merge [] (review.fresh program)).whole ↔
      ∃ token ∈ program.tokens review.marker,
        (classifyToken (.ofCustom review.reservedNames) review.minLength token).message = line := by
  rw [whole_merge_nil, sorted, mem_sortBy, fresh, classifyTokens, List.map_map, List.mem_map]
  rfl

/-- A printed token file is read back as its lines exactly when no token of the program holds a line
feed, and exactly then every element is one line.

The file is made without reviewed lines; the reserved names and the least length do not matter. -/
theorem printed_lines_iff (review : Review) (read : Reader) (input : String) {source : String}
    {program : Script.Program} (given : read input = .ok source)
    (parsed : readProgram source = .ok program) :
    ∃ whole text, (review.after [] false).run read source = .ok whole ∧
      (CommandLine.Command.tokenFile input (review.after [] false)).output read = .ok text ∧
      (whole ≠ [] → (Text.lines text = whole ↔
        ∀ token ∈ program.tokens review.marker, '\n' ∉ token.toList)) ∧
      ((∀ line ∈ whole, '\n' ∉ line.toList) ↔
        ∀ token ∈ program.tokens review.marker, '\n' ∉ token.toList) := by
  have made : (review.after [] false).run read source =
      .ok (merge [] (review.fresh program)).whole := run_after parsed rfl false
  have plain : (∀ line ∈ (merge [] (review.fresh program)).whole, '\n' ∉ line.toList) ↔
      ∀ token ∈ program.tokens review.marker, '\n' ∉ token.toList := by
    constructor
    · intro plainLines token met inside
      exact plainLines _ (mem_whole_iff.mpr ⟨token, met, rfl⟩)
        ((lineFeed_mem_message _ _ token).mpr inside)
    · intro plainTokens line listed
      obtain ⟨token, met, rfl⟩ := mem_whole_iff.mp listed
      exact fun inside => plainTokens token met ((lineFeed_mem_message _ _ token).mp inside)
  have firm : ∀ line ∈ (merge [] (review.fresh program)).whole, IsFirm line.toList := by
    intro line listed
    obtain ⟨token, _, rfl⟩ := mem_whole_iff.mp listed
    exact isFirm_message _ _ token
  have printed : (CommandLine.Command.tokenFile input (review.after [] false)).output read =
      .ok (CommandLine.linesText (merge [] (review.fresh program)).whole) := by
    rw [CommandLine.Command.output, CommandLine.readInput, given]
    change CommandLine.running ((review.after [] false).run read source) >>= _ = _
    rw [made]
    rfl
  refine ⟨_, _, made, printed, fun listed => ?_, plain⟩
  rw [lines_linesText_iff listed firm, plain]

/-- A subscript that holds a line feed: its token file is not empty and does not read back. -/
theorem printed_lines_of_line_feed :
    (readProgram "o['a\\nb'] = 1;").map (·.tokens defaultMarker) = .ok ["a\nb"] ∧
    ∃ whole text,
      (({} : Review).after [] false).run (fun _ => .ok "o['a\\nb'] = 1;") "o['a\\nb'] = 1;" =
        .ok whole ∧
      (CommandLine.Command.tokenFile "a.js" (({} : Review).after [] false)).output
        (fun _ => .ok "o['a\\nb'] = 1;") = .ok text ∧
      whole ≠ [] ∧ Text.lines text ≠ whole := by
  have tokens : (readProgram "o['a\\nb'] = 1;").map (·.tokens defaultMarker) =
      .ok ["a\nb"] := by decide +kernel
  refine ⟨tokens, ?_⟩
  cases parsed : readProgram "o['a\\nb'] = 1;" with
  | error failure =>
    rw [parsed] at tokens
    cases tokens
  | ok program =>
    rw [parsed] at tokens
    have listed : program.tokens defaultMarker = ["a\nb"] := Except.ok.inj tokens
    have broken : ¬ ∀ token ∈ program.tokens defaultMarker, '\n' ∉ token.toList := by
      rw [listed]
      decide
    obtain ⟨whole, text, made, printed, readBack, plain⟩ :=
      printed_lines_iff {} (fun _ => .ok "o['a\\nb'] = 1;") "a.js" rfl parsed
    have filled : whole ≠ [] := by
      rintro rfl
      exact broken (plain.mp fun _ inside => absurd inside List.not_mem_nil)
    exact ⟨whole, text, made, printed, filled, fun same => broken ((readBack filled).mp same)⟩

end Review

end PropertyMangling
