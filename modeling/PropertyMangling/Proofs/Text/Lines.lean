import PropertyMangling.Proofs.Text.Trimming
import PropertyMangling.Text.Lines
/-!
# Lines that are joined and read

A text is joined from its lines with line feeds between them, or with carriage
returns and line feeds, and blanks may stand around the whole. Reading trims the
text, cuts it and takes one carriage return from the end of every line.

Trimming leaves a joined text alone exactly when its first line starts and its
last line ends with a character that is not blank, and what was read always has
such ends, one empty line apart. Between these ends a line may be blank or
indented, and it may hold a carriage return; it loses nothing but what belongs
to a line end. So reading gives back what was joined exactly when no line holds
a line feed and, behind line feeds alone, none ends in a carriage return.
-/
namespace PropertyMangling.Text

variable {separator : Char} {piece text leading trailing : List Char}
  {pieces : List (List Char)}

/-- Cutting a text is splitting the list of its characters, so that the library's lemmas about
splitting apply. -/
theorem splitOn_eq (separator : Char) (text : List Char) :
    splitOn separator text = text.splitOn separator := by
  induction text with
  | nil => rfl
  | cons c rest inductionHypothesis =>
    obtain ⟨first, others, cut⟩ :=
      List.exists_cons_of_ne_nil (List.splitOn_ne_nil separator rest)
    rw [splitOn, List.splitOn_cons_eq_if_modifyHead, inductionHypothesis, cut]
    by_cases same : c = separator
    · simp [same]
    · simp [same]

/-- Pieces that are put together with a separator of their own are cut apart again. -/
theorem splitOn_intercalate (listed : pieces ≠ [])
    (plain : ∀ piece ∈ pieces, separator ∉ piece) :
    splitOn separator ([separator].intercalate pieces) = pieces := by
  rw [splitOn_eq]
  exact List.splitOn_intercalate separator plain listed

/-- Putting the pieces of a text together with the separator between them gives the text back. -/
theorem intercalate_splitOn (separator : Char) (text : List Char) :
    [separator].intercalate (splitOn separator text) = text := by
  rw [splitOn_eq]
  exact List.intercalate_splitOn separator

/-- No piece holds the separator, since the text is cut at each of them. -/
theorem notMem_of_mem_splitOn (cut : piece ∈ splitOn separator text) : separator ∉ piece := by
  intro inside
  have kept : separator ∈ (splitOn separator text).flatten :=
    List.mem_flatten.mpr ⟨piece, cut, inside⟩
  rw [flatten_splitOn, List.mem_filter] at kept
  simp at kept

/-- In a joined text, every piece but the last has the joint behind it. -/
theorem intercalate_concat (between : List Char) (front : List (List Char)) (line : List Char) :
    between.intercalate (front ++ [line]) = (front.map (· ++ between)).flatten ++ line := by
  induction front with
  | nil => simp
  | cons first rest inductionHypothesis =>
    rw [List.cons_append, List.intercalate_cons_of_ne_nil (by simp), inductionHypothesis]
    simp only [List.map_cons, List.flatten_cons, List.append_assoc]

/-- Pieces that each have a separator behind them are joined pieces with one separator more. -/
theorem flatten_map_append_singleton (separator : Char) (listed : pieces ≠ []) :
    (pieces.map (· ++ [separator])).flatten = [separator].intercalate pieces ++ [separator] := by
  obtain ⟨front, line, rfl⟩ := (List.eq_nil_or_concat' pieces).resolve_left listed
  rw [intercalate_concat]
  simp

/-- The first line is not empty and starts with no blank, the last is not empty and ends with none. -/
structure HasFirmOuterEnds (pieces : List (List Char)) : Prop where
  first : ∃ piece ∈ pieces.head?, piece ≠ [] ∧ ∀ c ∈ piece.head?, isBlank c = false
  last : ∃ piece ∈ pieces.getLast?, piece ≠ [] ∧ ∀ c ∈ piece.getLast?, isBlank c = false

/-- Firm lines, if there are any, have firm outer ends: the first of them starts and the last one
ends firmly. -/
theorem hasFirmOuterEnds_of_firm (listed : pieces ≠ []) (firm : ∀ piece ∈ pieces, IsFirm piece) :
    HasFirmOuterEnds pieces where
  first := by
    have firmFirst : IsFirm (pieces.head listed) := firm _ (List.head_mem listed)
    exact ⟨_, List.head?_eq_some_head listed, firmFirst.filled, firmFirst.first⟩
  last := by
    have firmLast : IsFirm (pieces.getLast listed) := firm _ (List.getLast_mem listed)
    exact ⟨_, List.getLast?_eq_some_getLast listed, firmLast.filled, firmLast.last⟩

/-- Lines with firm outer ends have a last line, whose end is one of them. -/
theorem HasFirmOuterEnds.exists_concat (outer : HasFirmOuterEnds pieces) :
    ∃ front line, pieces = front ++ [line] := by
  obtain ⟨line, isLast, _⟩ := outer.last
  obtain ⟨front, whole⟩ := List.getLast?_eq_some_iff.mp isLast
  exact ⟨front, line, whole⟩

/-- The last of several lines with firm outer ends has a firm end. -/
theorem HasFirmOuterEnds.firm_last (outer : HasFirmOuterEnds (pieces ++ [piece])) :
    ∀ c ∈ piece.getLast?, isBlank c = false := by
  obtain ⟨line, isLast, _, firm⟩ := outer.last
  rw [List.getLast?_concat] at isLast
  exact Option.some.inj isLast ▸ firm

/-- What is joined from lines with firm outer ends is firm. -/
theorem HasFirmOuterEnds.isFirm_intercalate (outer : HasFirmOuterEnds pieces)
    (between : List Char) : IsFirm (between.intercalate pieces) := by
  obtain ⟨opening, isFirst, someFirst, firmStart⟩ := outer.first
  obtain ⟨closing, isLast, someLast, firmEnd⟩ := outer.last
  have starts : (between.intercalate pieces).head? = opening.head? := by
    obtain ⟨rest, rfl⟩ := List.head?_eq_some_iff.mp isFirst
    obtain ⟨c, more, rfl⟩ := List.exists_cons_of_ne_nil someFirst
    rw [List.intercalate_cons_cons_left, List.head?_cons, List.head?_cons]
  have ends : (between.intercalate pieces).getLast? = closing.getLast? := by
    obtain ⟨front, rfl⟩ := List.getLast?_eq_some_iff.mp isLast
    rw [intercalate_concat, List.getLast?_append_of_ne_nil _ someLast]
  refine ⟨⟨?_, ?_⟩, fun none => ?_⟩
  · rw [starts]
    exact firmStart
  · rw [ends]
    exact firmEnd
  · rw [none] at starts
    exact someFirst (List.head?_eq_none_iff.mp starts.symm)

/-- The lines of a firm text have firm outer ends, namely the ends of the text. -/
theorem IsFirm.hasFirmOuterEnds_splitOn (firm : IsFirm text) :
    HasFirmOuterEnds (splitOn '\n' text) where
  first := by
    obtain ⟨c, rest, rfl⟩ := List.exists_cons_of_ne_nil firm.filled
    have other : c ≠ '\n' := by
      rintro rfl
      exact absurd (firm.first '\n' rfl) (by decide)
    obtain ⟨first, others, cut⟩ := List.exists_cons_of_ne_nil (splitOn_ne_nil '\n' rest)
    exact ⟨c :: first, by simp [splitOn, other, cut], List.cons_ne_nil c first, firm.first⟩
  last := by
    obtain ⟨front, line, cut⟩ :=
      (List.eq_nil_or_concat' (splitOn '\n' text)).resolve_left (splitOn_ne_nil '\n' text)
    have whole : text = (front.map (· ++ ['\n'])).flatten ++ line := by
      rw [← intercalate_concat, ← cut, intercalate_splitOn]
    -- a text with an empty last line would be empty or end in a line feed
    have someLine : line ≠ [] := by
      rintro rfl
      rcases List.eq_nil_or_concat' front with rfl | ⟨others, before, rfl⟩
      · exact firm.filled whole
      · have ends : text.getLast? = some '\n' := by simp [whole]
        exact absurd (firm.last '\n' ends) (by decide)
    refine ⟨line, cut ▸ List.getLast?_concat, someLine, fun c ends => firm.last c ?_⟩
    rw [whole, List.getLast?_append_of_ne_nil _ someLine]
    exact ends

/-- A line keeps its end exactly when it does not end in a carriage return. -/
theorem dropCarriageReturn_eq_self_iff :
    dropCarriageReturn piece = piece ↔ piece.getLast? ≠ some '\r' := by
  by_cases ends : piece.getLast? = some '\r'
  · obtain ⟨front, rfl⟩ := List.getLast?_eq_some_iff.mp ends
    simp [dropCarriageReturn]
  · simp [dropCarriageReturn, ends]

/-- A line with a firm end has no carriage return to lose. -/
theorem dropCarriageReturn_eq_self (firm : ∀ c ∈ piece.getLast?, isBlank c = false) :
    dropCarriageReturn piece = piece := by
  refine dropCarriageReturn_eq_self_iff.mpr fun ends => ?_
  exact absurd (firm '\r' ends) (by decide)

/-- A line that starts firm starts with the same character without its carriage return. -/
theorem head?_dropCarriageReturn (firm : ∀ c ∈ piece.head?, isBlank c = false) :
    (dropCarriageReturn piece).head? = piece.head? := by
  rw [dropCarriageReturn]
  split
  · next ends =>
    obtain ⟨front, rfl⟩ := List.getLast?_eq_some_iff.mp ends
    cases front with
    | nil => exact absurd (firm '\r' rfl) (by decide)
    | cons c more =>
      rw [List.dropLast_concat]
      rfl
  · rfl

/-- Lines with firm outer ends have them without their carriage returns. -/
theorem HasFirmOuterEnds.map_dropCarriageReturn (outer : HasFirmOuterEnds pieces) :
    HasFirmOuterEnds (pieces.map dropCarriageReturn) where
  first := by
    obtain ⟨opening, isFirst, someFirst, firmStart⟩ := outer.first
    have starts := head?_dropCarriageReturn firmStart
    refine ⟨dropCarriageReturn opening, ?_, fun none => ?_, ?_⟩
    · rw [List.head?_map, Option.mem_def.mp isFirst]
      rfl
    · rw [none] at starts
      exact someFirst (List.head?_eq_none_iff.mp starts.symm)
    · rw [starts]
      exact firmStart
  last := by
    obtain ⟨closing, isLast, someLast, firmEnd⟩ := outer.last
    refine ⟨closing, ?_, someLast, firmEnd⟩
    rw [List.getLast?_map, Option.mem_def.mp isLast, Option.map_some,
      dropCarriageReturn_eq_self firmEnd]
    rfl

/-- What is read is a single empty line or has firm outer ends. -/
theorem lineChars_eq_or_hasFirmOuterEnds (text : List Char) :
    lineChars text = [[]] ∨ HasFirmOuterEnds (lineChars text) := by
  by_cases empty : trim text = []
  · left
    rw [lineChars, empty]
    rfl
  · right
    have firm : IsFirm (trim text) := ⟨hasFirmEnds_trim text, empty⟩
    exact firm.hasFirmOuterEnds_splitOn.map_dropCarriageReturn

/-- No line that is read holds a line feed, whichever line end the text was written with. -/
theorem lineFeed_notMem_of_mem_lineChars (read : piece ∈ lineChars text) : '\n' ∉ piece := by
  obtain ⟨line, cut, rfl⟩ := List.mem_map.mp read
  intro inside
  refine notMem_of_mem_splitOn cut ?_
  rw [dropCarriageReturn] at inside
  split at inside
  · exact List.dropLast_subset _ inside
  · exact inside

/-- What stands between two lines. -/
inductive LineEnd where
  | lineFeed
  | returnAndFeed

namespace LineEnd

/-- What a line end has in front of its line feed. -/
def lead : LineEnd → List Char
  | lineFeed => []
  | returnAndFeed => ['\r']

/-- The characters of a line end. -/
def chars (ending : LineEnd) : List Char := ending.lead ++ ['\n']

/-- What a line end has before its line feed, if anything, is no line feed. -/
theorem lineFeed_notMem_lead (ending : LineEnd) : '\n' ∉ ending.lead := by
  cases ending with
  | lineFeed => exact List.not_mem_nil
  | returnAndFeed => decide

/-- What is read of a line with the line end behind it is the line. -/
def Returns (ending : LineEnd) (line : List Char) : Prop :=
  dropCarriageReturn (line ++ ending.lead) = line

/-- With a bare line feed, a line comes back unless it ends with a carriage return, which would be
taken for part of the line end. -/
theorem returns_lineFeed_iff : lineFeed.Returns piece ↔ piece.getLast? ≠ some '\r' := by
  rw [Returns, lead, List.append_nil, dropCarriageReturn_eq_self_iff]

/-- With a carriage return before the line feed every line comes back, since just that one is
dropped. -/
theorem returns_returnAndFeed (piece : List Char) : returnAndFeed.Returns piece := by
  simp [Returns, lead, dropCarriageReturn]

/-- A line with a firm end comes back from before every line end. -/
theorem returns_of_firm (ending : LineEnd) (firm : ∀ c ∈ piece.getLast?, isBlank c = false) :
    ending.Returns piece := by
  cases ending with
  | lineFeed =>
    rw [Returns, lead, List.append_nil]
    exact dropCarriageReturn_eq_self firm
  | returnAndFeed => exact returns_returnAndFeed piece

/-- Lines come back as a list exactly when they come back one by one. -/
theorem map_returns_iff (ending : LineEnd) :
    pieces.map (fun line => dropCarriageReturn (line ++ ending.lead)) = pieces ↔
      ∀ line ∈ pieces, ending.Returns line := by
  constructor
  · intro same
    exact List.map_inj_left.mp (same.trans (List.map_id pieces).symm)
  · intro returned
    exact (List.map_congr_left returned).trans (List.map_id pieces)

/-- What a line end has in front of its line feed belongs to the line, as far as cutting goes. -/
theorem intercalate_chars (ending : LineEnd) (front : List (List Char)) (line : List Char) :
    ending.chars.intercalate (front ++ [line]) =
      ['\n'].intercalate (front.map (· ++ ending.lead) ++ [line]) := by
  have behind : (· ++ ['\n']) ∘ (· ++ ending.lead) = (· ++ ending.chars) :=
    funext fun piece => List.append_assoc piece ending.lead ['\n']
  rw [intercalate_concat, intercalate_concat, List.map_map, behind]

end LineEnd

/-- What is read of lines with firm outer ends, none of which holds a line feed: the last one, and
of each other one what is left of it and its line end. -/
theorem lineChars_joined (ending : LineEnd) (blankLeading : leading.all isBlank = true)
    (blankTrailing : trailing.all isBlank = true) {front : List (List Char)} {line : List Char}
    (outer : HasFirmOuterEnds (front ++ [line])) (plain : ∀ piece ∈ front ++ [line], '\n' ∉ piece) :
    lineChars (leading ++ ending.chars.intercalate (front ++ [line]) ++ trailing) =
      front.map (fun piece => dropCarriageReturn (piece ++ ending.lead)) ++ [line] := by
  have plainLed : ∀ piece ∈ front.map (· ++ ending.lead) ++ [line], '\n' ∉ piece := by
    intro piece inside
    rcases List.mem_append.mp inside with led | isLast
    · obtain ⟨unled, before, rfl⟩ := List.mem_map.mp led
      exact List.not_mem_append (plain unled (List.mem_append_left _ before))
        ending.lineFeed_notMem_lead
    · exact plain piece (List.mem_append_right _ isLast)
  have kept : dropCarriageReturn line = line := dropCarriageReturn_eq_self outer.firm_last
  rw [lineChars, trim_around (outer.isFirm_intercalate _) blankLeading blankTrailing,
    ending.intercalate_chars, splitOn_intercalate (by simp) plainLed, List.map_append,
    List.map_map, List.map_singleton, kept]
  rfl

/-- Joined lines are read back, whatever blanks stand around them, exactly when their outer ends are
firm, none of them holds a line feed, and each comes back from before the line end. A single empty
line is joined to nothing and read of nothing. -/
theorem lineChars_joined_iff (ending : LineEnd) (blankLeading : leading.all isBlank = true)
    (blankTrailing : trailing.all isBlank = true) :
    lineChars (leading ++ ending.chars.intercalate pieces ++ trailing) = pieces ↔
      pieces = [[]] ∨ HasFirmOuterEnds pieces ∧
        ∀ piece ∈ pieces, '\n' ∉ piece ∧ ending.Returns piece := by
  constructor
  · intro same
    have read := lineChars_eq_or_hasFirmOuterEnds
      (leading ++ ending.chars.intercalate pieces ++ trailing)
    rw [same] at read
    refine read.imp_right fun outer => ⟨outer, ?_⟩
    have plain : ∀ piece ∈ pieces, '\n' ∉ piece :=
      fun piece inside => lineFeed_notMem_of_mem_lineChars (same ▸ inside)
    obtain ⟨front, line, rfl⟩ := outer.exists_concat
    have back := lineChars_joined ending blankLeading blankTrailing outer plain
    rw [same] at back
    have returned := ending.map_returns_iff.mp (List.append_cancel_right back).symm
    intro piece inside
    refine ⟨plain piece inside, ?_⟩
    rcases List.mem_append.mp inside with before | isLast
    · exact returned piece before
    · obtain rfl := List.mem_singleton.mp isLast
      exact ending.returns_of_firm outer.firm_last
  · rintro (rfl | ⟨outer, kept⟩)
    · have blank : isBlankText (leading ++ trailing) = true := by
        rw [isBlankText, List.all_append, blankLeading, blankTrailing]
        rfl
      have empty : trim (leading ++ trailing) = [] := by
        rw [trim, (isBlankText_iff _).mp blank, trimRight_nil]
      rw [List.intercalate_singleton, List.append_nil, lineChars, empty]
      rfl
    · obtain ⟨front, line, rfl⟩ := outer.exists_concat
      have plain : ∀ piece ∈ front ++ [line], '\n' ∉ piece :=
        fun piece inside => (kept piece inside).1
      have returned := ending.map_returns_iff.mpr fun piece before =>
        (kept piece (List.mem_append_left [line] before)).2
      rw [lineChars_joined ending blankLeading blankTrailing outer plain, returned]

/-- Written lines that are firm are read back exactly when none of them holds a line feed. -/
theorem lineChars_flatten_iff (listed : pieces ≠ []) (firm : ∀ piece ∈ pieces, IsFirm piece) :
    lineChars (pieces.map (· ++ ['\n'])).flatten = pieces ↔ ∀ piece ∈ pieces, '\n' ∉ piece := by
  have joined : (pieces.map (· ++ ['\n'])).flatten =
      [] ++ LineEnd.lineFeed.chars.intercalate pieces ++ ['\n'] :=
    flatten_map_append_singleton '\n' listed
  rw [joined, lineChars_joined_iff LineEnd.lineFeed rfl (by decide)]
  constructor
  · rintro (rfl | ⟨_, kept⟩) piece inside
    · exact absurd rfl (firm [] List.mem_cons_self).filled
    · exact (kept piece inside).1
  · intro plain
    exact Or.inr ⟨hasFirmOuterEnds_of_firm listed firm, fun piece inside =>
      ⟨plain piece inside, LineEnd.lineFeed.returns_of_firm (firm piece inside).last⟩⟩

/-- Texts are read as lines exactly when their characters are, so that lines can be treated as
lists of characters. -/
theorem lines_eq_iff {text : String} {lines : List String} :
    Text.lines text = lines ↔ lineChars text.toList = lines.map String.toList := by
  rw [Text.lines]
  constructor
  · intro same
    rw [← same, List.map_map]
    exact (List.map_id' _).symm.trans (List.map_congr_left fun _ _ => by simp)
  · intro same
    rw [same, List.map_map]
    exact (List.map_congr_left fun _ _ => by simp).trans (List.map_id' lines)

/-- Lines that are joined by a line end are read back exactly when they come back one by one between
firm outer ends. -/
theorem lines_intercalate_iff (ending : LineEnd) {leading trailing between : String}
    (joint : between.toList = ending.chars) (blankLeading : isBlankText leading.toList = true)
    (blankTrailing : isBlankText trailing.toList = true) (lines : List String) :
    Text.lines (leading ++ between.intercalate lines ++ trailing) = lines ↔
      lines = [""] ∨ HasFirmOuterEnds (lines.map String.toList) ∧
        ∀ line ∈ lines, '\n' ∉ line.toList ∧ ending.Returns line.toList := by
  have single : lines.map String.toList = [[]] ↔ lines = [""] := by
    simp [List.map_eq_singleton_iff]
  rw [lines_eq_iff, String.toList_append, String.toList_append, String.toList_intercalate, joint,
    lineChars_joined_iff ending blankLeading blankTrailing, single, List.forall_mem_map]

/-- Reading lines undoes joining them. Whatever blanks stand around the text, lines come back exactly
when the first starts and the last ends with a character that is not blank, none holds a line feed
and, where line feeds join them, none ends in a carriage return; or when there is one line and it
is empty. -/
theorem lines_joined_iff {leading trailing : String}
    (blankLeading : isBlankText leading.toList = true)
    (blankTrailing : isBlankText trailing.toList = true) (lines : List String) :
    (Text.lines (leading ++ joinLines lines ++ trailing) = lines ↔
      lines = [""] ∨ HasFirmOuterEnds (lines.map String.toList) ∧
        ∀ line ∈ lines, '\n' ∉ line.toList ∧ line.toList.getLast? ≠ some '\r') ∧
    (Text.lines (leading ++ "\r\n".intercalate lines ++ trailing) = lines ↔
      lines = [""] ∨ HasFirmOuterEnds (lines.map String.toList) ∧
        ∀ line ∈ lines, '\n' ∉ line.toList) := by
  constructor
  · simp only [← LineEnd.returns_lineFeed_iff]
    exact lines_intercalate_iff .lineFeed (by rfl) blankLeading blankTrailing lines
  · rw [lines_intercalate_iff .returnAndFeed (by rfl) blankLeading blankTrailing]
    simp only [LineEnd.returns_returnAndFeed, and_true]

/-- Blank and indented lines and a carriage return inside of a line come back for both line ends. -/
theorem lines_joined_around_blanks :
    isBlankText "\n\u3000".toList = true ∧ isBlankText " \r\n\t".toList = true ∧
    Text.lines ("\n\u3000" ++ joinLines ["#a: b", "", "  c\rd ", "e"] ++ " \r\n\t") =
      ["#a: b", "", "  c\rd ", "e"] ∧
    Text.lines ("\n\u3000" ++ "\r\n".intercalate ["#a: b", "", "  c\rd ", "e"] ++ " \r\n\t") =
      ["#a: b", "", "  c\rd ", "e"] := by
  have outer : HasFirmOuterEnds (["#a: b", "", "  c\rd ", "e"].map String.toList) := by
    refine ⟨⟨['#', 'a', ':', ' ', 'b'], rfl, by simp, ?_⟩, ⟨['e'], rfl, by simp, ?_⟩⟩
    · intro c atStart
      obtain rfl : '#' = c := Option.some.inj atStart
      decide
    · intro c atEnd
      obtain rfl : 'e' = c := Option.some.inj atEnd
      decide
  have blankLeading : isBlankText "\n\u3000".toList = true := by decide
  have blankTrailing : isBlankText " \r\n\t".toList = true := by decide
  obtain ⟨byLineFeeds, byReturns⟩ :=
    lines_joined_iff blankLeading blankTrailing ["#a: b", "", "  c\rd ", "e"]
  exact ⟨blankLeading, blankTrailing, byLineFeeds.mpr (Or.inr ⟨outer, by decide⟩),
    byReturns.mpr (Or.inr ⟨outer, by decide⟩)⟩

end PropertyMangling.Text
