import PropertyMangling.Proofs.Text.Trimming
import PropertyMangling.Script.Layout
/-!
# Pages without line ends

Marks that end no line are written one behind the other. Indentation would show
only in front of the first of them, and does not when they open with a text: the
page starts at its left edge, and is never at the start of a line again.
-/
namespace PropertyMangling.Script

open Text

/-- The characters that a mark puts on a line. -/
def Mark.chars : Mark → List Char
  | .text written => written.toList
  | _ => []

/-- The characters that marks put on one line. -/
def inkOf (marks : List Mark) : List Char := marks.flatMap Mark.chars

/-- No marks leave no ink. -/
@[simp] theorem inkOf_nil : inkOf [] = [] := rfl

/-- Marks leave the ink of the first and then that of the others. -/
@[simp] theorem inkOf_cons (mark : Mark) (marks : List Mark) :
    inkOf (mark :: marks) = mark.chars ++ inkOf marks := rfl

/-- Two runs of marks leave the ink of one and then that of the other. -/
@[simp] theorem inkOf_append (first second : List Mark) :
    inkOf (first ++ second) = inkOf first ++ inkOf second := List.flatMap_append

/-- Runs of marks leave the ink of each of them in turn. -/
@[simp] theorem inkOf_flatten (pieces : List (List Mark)) :
    inkOf pieces.flatten = (pieces.map inkOf).flatten := by
  induction pieces with
  | nil => rfl
  | cons first rest inductionHypothesis => simp [inductionHypothesis]

/-- Marks behind something on a line are written behind it, without indentation, if there is no
line end among them. -/
theorem written_foldl {marks : List Mark} (plain : Mark.line ∉ marks) {page : Page}
    (inside : page.atLineStart = false) :
    (marks.foldl Page.write page).written = (inkOf marks).reverse ++ page.written := by
  induction marks generalizing page with
  | nil => rfl
  | cons mark rest inductionHypothesis =>
    obtain ⟨other, plainRest⟩ := List.ne_and_not_mem_of_not_mem_cons plain
    have stays : (page.write mark).atLineStart = false ∧
        (page.write mark).written = mark.chars.reverse ++ page.written := by
      cases mark with
      | text written =>
        by_cases empty : written = ""
        · simp [Page.write, Mark.chars, empty, inside]
        · simp [Page.write, Mark.chars, empty, inside]
      | line => exact absurd rfl other
      | indent => simp [Page.write, Mark.chars, inside]
      | outdent => simp [Page.write, Mark.chars, inside]
    rw [List.foldl_cons, inductionHypothesis plainRest stays.1, stays.2]
    simp

/-- Whether a text starts with a firm character. -/
def opensText (written : String) : Bool := written.toList.head?.any fun c => !isBlank c

/-- Whether a text ends with a firm character. -/
def closesText (written : String) : Bool := written.toList.getLast?.any fun c => !isBlank c

/-- Marks that open with a text of their own, which starts with a firm character. -/
def Opens (marks : List Mark) : Prop :=
  ∃ written rest, marks = .text written :: rest ∧ opensText written = true

/-- Marks that close with a firm character. -/
def Closes (marks : List Mark) : Prop := ∃ front c, inkOf marks = front ++ [c] ∧ isBlank c = false

/-- Marks open well with a text that does, whatever stands behind it. -/
theorem opens_text {written : String} (opens : opensText written = true) (rest : List Mark) :
    Opens (.text written :: rest) :=
  ⟨written, rest, rfl, opens⟩

/-- What opens well does so whatever stands behind it, as only its first text matters. -/
theorem Opens.append {marks : List Mark} (opens : Opens marks) (behind : List Mark) :
    Opens (marks ++ behind) := by
  obtain ⟨written, rest, rfl, firm⟩ := opens
  exact opens_text firm (rest ++ behind)

/-- A single text closes well when its last character is no blank. -/
theorem closes_text {written : String} (closes : closesText written = true) :
    Closes (txt written) := by
  obtain ⟨c, last, firm⟩ := (Option.any_eq_true _ _).mp closes
  obtain ⟨front, spelled⟩ := List.getLast?_eq_some_iff.mp last
  exact ⟨front, c, by simp [txt, Mark.chars, spelled], by simpa using firm⟩

/-- What closes well does so whatever stands in front of it. -/
theorem Closes.append {marks : List Mark} (closes : Closes marks) (before : List Mark) :
    Closes (before ++ marks) := by
  obtain ⟨front, c, ink, firm⟩ := closes
  exact ⟨inkOf before ++ front, c, by rw [inkOf_append, ink, List.append_assoc], firm⟩

/-- Marks that open and close well hold a firm text, one that trimming leaves alone. -/
theorem isFirm_inkOf {marks : List Mark} (opens : Opens marks) (closes : Closes marks) :
    IsFirm (inkOf marks) := by
  obtain ⟨written, rest, rfl, opened⟩ := opens
  obtain ⟨front, c, ink, firm⟩ := closes
  obtain ⟨d, first, opened⟩ := (Option.any_eq_true _ _).mp opened
  obtain ⟨others, spelled⟩ := List.head?_eq_some_iff.mp first
  refine ⟨⟨?_, ?_⟩, ?_⟩
  · intro start atStart
    rw [inkOf_cons, Mark.chars, spelled] at atStart
    obtain rfl : d = start := Option.some.inj atStart
    simpa using opened
  · intro last atEnd
    rw [ink, List.getLast?_concat] at atEnd
    obtain rfl : c = last := Option.some.inj atEnd
    exact firm
  · simp [ink]

/-- Marks that open well and end no line are written as they are where nothing is indented, at the
start of a line or behind something. -/
theorem written_foldl_of_opens {marks : List Mark} (opens : Opens marks) (plain : Mark.line ∉ marks)
    {page : Page} (outermost : page.level = 0) :
    (marks.foldl Page.write page).written = (inkOf marks).reverse ++ page.written := by
  obtain ⟨written, rest, rfl, firm⟩ := opens
  have filled : written ≠ "" := by
    rintro rfl
    cases firm
  obtain ⟨_, plainRest⟩ := List.ne_and_not_mem_of_not_mem_cons plain
  have started : page.write (.text written) =
      { page with written := written.toList.reverse ++ page.written, atLineStart := false } := by
    simp [Page.write, filled, indentation, outermost]
  rw [List.foldl_cons, started, written_foldl plainRest rfl]
  simp [Mark.chars]

end PropertyMangling.Script
