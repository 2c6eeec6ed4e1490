import Mathlib.Data.List.DropRight
import PropertyMangling.Text.Blank
/-!
# Texts with firm ends

Trimming leaves a text whose ends are firm, and changes no text whose ends are
firm already. So trimming twice is trimming once, and what is printed between
two firm texts does not matter to a trim of the whole.
-/
namespace PropertyMangling.Text

/-- No blank stands at either end; the empty text has no ends. -/
structure HasFirmEnds (text : List Char) : Prop where
  first : ∀ c ∈ text.head?, isBlank c = false
  last : ∀ c ∈ text.getLast?, isBlank c = false

/-- A text without any blank has firm ends, since its ends are characters of it. -/
theorem hasFirmEnds_of_firm {text : List Char} (firm : ∀ c ∈ text, isBlank c = false) :
    HasFirmEnds text where
  first c atStart := firm c (List.mem_of_mem_head? atStart)
  last c atEnd := firm c (List.mem_of_mem_getLast? atEnd)

/-- Two texts with ends of their own keep the outer ones, whatever stands between them. -/
theorem HasFirmEnds.append {left right : List Char} (firmLeft : HasFirmEnds left)
    (firmRight : HasFirmEnds right) (someLeft : left ≠ []) (someRight : right ≠ [])
    (between : List Char) : HasFirmEnds (left ++ between ++ right) where
  first c atStart := by
    rw [List.append_assoc, List.head?_append_of_ne_nil _ someLeft] at atStart
    exact firmLeft.first c atStart
  last c atEnd := by
    rw [List.getLast?_append_of_ne_nil _ someRight] at atEnd
    exact firmRight.last c atEnd

/-- A text that has ends, both of them firm. -/
structure IsFirm (text : List Char) : Prop extends HasFirmEnds text where
  filled : text ≠ []

/-- Two firm texts make a firm text, whatever stands between them. -/
theorem IsFirm.append {left right : List Char} (firmLeft : IsFirm left) (firmRight : IsFirm right)
    (between : List Char) : IsFirm (left ++ between ++ right) where
  toHasFirmEnds :=
    firmLeft.toHasFirmEnds.append firmRight.toHasFirmEnds firmLeft.filled firmRight.filled between
  filled := by simp [firmLeft.filled]

/-- Nothing is trimmed from a firm end; an empty text counts as one with firm ends. -/
theorem trimRight_eq_self {text : List Char} (firm : ∀ c ∈ text.getLast?, isBlank c = false) :
    trimRight text = text := by
  have stays : text.rdropWhile isBlank = text := by
    rw [List.rdropWhile_eq_self_iff]
    intro some
    simp [firm _ (List.getLast?_eq_some_getLast some)]
  exact stays

/-- Nothing is trimmed from a firm start; an empty text counts as one with a firm start. -/
theorem trimLeft_eq_self {text : List Char} (firm : ∀ c ∈ text.head?, isBlank c = false) :
    trimLeft text = text := by
  cases text with
  | nil => rfl
  | cons c rest => exact trimLeft_cons_of_not_blank (firm c rfl) rest

/-- Nothing is trimmed from a text whose two ends are firm. -/
theorem trim_eq_self {text : List Char} (firm : HasFirmEnds text) : trim text = text := by
  rw [trim, trimLeft_eq_self firm.first]
  exact trimRight_eq_self firm.last

/-- Blanks around a text with firm ends are all that is trimmed. -/
theorem trim_around {leading text trailing : List Char} (firm : IsFirm text)
    (blankLeading : leading.all isBlank = true) (blankTrailing : trailing.all isBlank = true) :
    trim (leading ++ text ++ trailing) = text := by
  obtain ⟨first, rest, rfl⟩ := List.exists_cons_of_ne_nil firm.filled
  have start : ∀ behind, trimLeft (first :: rest ++ behind) = first :: rest ++ behind :=
    fun behind => trimLeft_cons_of_not_blank (firm.first first rfl) _
  calc trim (leading ++ (first :: rest) ++ trailing)
      = trimRight (first :: rest) := by
        rw [trim, List.append_assoc, trimLeft_append blankLeading, start,
          trimRight_append blankTrailing]
    _ = first :: rest := trimRight_eq_self firm.last

/-- What trimming leaves stands in the text, its first characters apart. -/
theorem trim_opens_trimLeft (text : List Char) : trim text <+: trimLeft text :=
  List.rdropWhile_prefix isBlank (trimLeft text)

/-- Trimming adds no character, so what holds of all characters of a text holds of those that are
left. -/
theorem mem_of_mem_trim {text : List Char} {c : Char} (kept : c ∈ trim text) : c ∈ text :=
  (List.dropWhile_suffix isBlank).subset ((trim_opens_trimLeft text).subset kept)

/-- What trimming leaves has firm ends, as it goes on while there is a blank at either of them. -/
theorem hasFirmEnds_trim (text : List Char) : HasFirmEnds (trim text) where
  first c atStart := by
    obtain ⟨trailing, whole⟩ := trim_opens_trimLeft text
    have started : (trimLeft text).head? = some c := by
      rw [← whole, List.head?_append, Option.mem_def.mp atStart]
      rfl
    have stopped := List.head?_dropWhile_not isBlank text
    rw [← trimLeft, started] at stopped
    exact stopped
  last c atEnd := by
    obtain ⟨some, rfl⟩ := List.mem_getLast?_eq_getLast atEnd
    have stopped : ¬ isBlank ((trim text).getLast some) :=
      List.rdropWhile_last_not isBlank (trimLeft text) some
    simpa using stopped

/-- Trimming twice is trimming once, since what is left has firm ends. -/
@[simp] theorem trim_trim (text : List Char) : trim (trim text) = trim text :=
  trim_eq_self (hasFirmEnds_trim text)

/-- A text is its trimmed text with blanks around it, so nothing but blanks is lost. -/
theorem exists_blanks_around (text : List Char) : ∃ leading trailing : List Char,
    text = leading ++ (trim text ++ trailing) ∧
      (∀ c ∈ leading, isBlank c = true) ∧ ∀ c ∈ trailing, isBlank c = true := by
  refine ⟨text.takeWhile isBlank, (trimLeft text).rtakeWhile isBlank, ?_,
    fun c inside => List.mem_takeWhile_imp inside, fun c inside => List.mem_rtakeWhile_imp inside⟩
  have left : trim text ++ (trimLeft text).rtakeWhile isBlank = trimLeft text :=
    List.rdropWhile_append_rtakeWhile
  rw [left, trimLeft, List.takeWhile_append_dropWhile]

/-- Trimming both ends starts a text with the same character as trimming its start. -/
theorem head?_trim (text : List Char) : (trim text).head? = (trimLeft text).head? := by
  cases started : trimLeft text with
  | nil => rw [trim, started]; rfl
  | cons c rest =>
    have firm : isBlank c = false := by
      have stopped := List.head?_dropWhile_not isBlank text
      rw [← trimLeft, started] at stopped
      exact stopped
    have opens := trim_opens_trimLeft text
    rw [started] at opens
    rcases List.prefix_cons_iff.mp opens with none | ⟨kept, whole, _⟩
    · have blank := List.rdropWhile_eq_nil_iff.mp none c (started ▸ List.mem_cons_self)
      rw [firm] at blank
      cases blank
    · rw [whole, List.head?_cons, List.head?_cons]

/-- A text is blank exactly when nothing is left behind its first blanks. -/
theorem isBlankText_iff (text : List Char) : isBlankText text = true ↔ trimLeft text = [] := by
  rw [isBlankText, trimLeft, List.dropWhile_eq_nil_iff, List.all_eq_true]

end PropertyMangling.Text
