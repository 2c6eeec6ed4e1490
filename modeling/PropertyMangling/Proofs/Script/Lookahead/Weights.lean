import PropertyMangling.Proofs.Script.Lookahead.Strings
import PropertyMangling.Proofs.Script.Words
import PropertyMangling.Proofs.Text.Weight
/-!
# Names and strings are no longer than they are written

An escape stands for characters that weigh no more than the escape itself, whether
characters or the bytes of their encoding are counted: the shortest escapes stand
for the smallest numbers, and half a pair that stands alone is kept as an escape that is no
longer. So a literal weighs at least its quotes more than its value, and a word at least
what it is read as.
-/
namespace PropertyMangling.Script

variable {size : Char → Nat}

namespace Lexer

variable {text behind : List Char} {number : Nat}

/-- A run of hexadecimal digits passes as many characters as digits were asked for. -/
theorem hexRun_length {count : Nat} (read : hexRun count text = some (number, behind)) :
    count + behind.length = text.length := by
  obtain ⟨digits, rfl, length, -⟩ := hexRun_split read
  rw [List.length_append, length]

/-- The number of a character takes three characters, and one more when it is not a single digit. -/
theorem characterNumber_length (read : characterNumber text = some (number, behind)) :
    3 + behind.length ≤ text.length ∧ (15 < number → 4 + behind.length ≤ text.length) := by
  cases characterNumber_eq_some_iff.mp read with
  | four _ digits =>
    have length := hexRun_length digits
    omega
  | braced digit digits =>
    simp only [List.cons_append, List.length_cons, List.length_append]
    refine ⟨by omega, fun large => ?_⟩
    cases digits with
    | nil =>
      have small := hexValue?_getD_le digit
      simp only [valueOf, List.foldl_cons, List.foldl_nil] at large
      omega
    | cons _ _ =>
      simp only [List.length_cons]
      omega

/-- A number is written with digits of its base only, which weigh one byte each. -/
theorem exists_digit_of_mem_hexDigits (number : Nat) :
    ∀ c ∈ Text.hexDigits number, ∃ digit < 16, c = Nat.digitChar digit := by
  induction number using Nat.strongRecOn with
  | ind number inductionHypothesis =>
    rw [Text.hexDigits, Nat.toDigits_eq_if (by decide)]
    split
    · next small =>
      intro c inside
      exact ⟨number, small, List.mem_singleton.mp inside⟩
    · next large =>
      refine List.forall_mem_append.mpr ⟨inductionHypothesis (number / 16) (by omega), ?_⟩
      intro c inside
      exact ⟨number % 16, Nat.mod_lt _ (by decide), List.mem_singleton.mp inside⟩

/-- Half a pair is kept as an escape of at most six characters, each of one byte. -/
theorem halfPair_small {number : Nat} (high : number ≤ 0xDFFF) :
    ('\\' :: 'u' :: (Text.hexDigits number).map Char.toUpper).length ≤ 6 ∧
      ∀ c ∈ '\\' :: 'u' :: (Text.hexDigits number).map Char.toUpper, c.utf8Size = 1 := by
  have digits : (Text.hexDigits number).length ≤ 4 :=
    (Nat.length_toDigits_le_iff (by decide) (by decide)).mpr (by omega)
  have upper : ∀ digit < 16, (Nat.digitChar digit).toUpper.utf8Size = 1 := by decide
  constructor
  · rw [List.length_cons, List.length_cons, List.length_map]
    omega
  · refine List.forall_mem_cons.mpr ⟨rfl, List.forall_mem_cons.mpr ⟨rfl, ?_⟩⟩
    intro c inside
    obtain ⟨digit, listed, rfl⟩ := List.mem_map.mp inside
    obtain ⟨value, below, rfl⟩ := exists_digit_of_mem_hexDigits number digit listed
    exact upper value below

variable (fits : IsWeight size)
include fits

/-- A numbered character weighs no more than an escape of one digit, and half a pair no more than one
of two digits. -/
theorem weigh_pairForm {chars : List Char} (paired : PairForm number text chars behind) :
    weigh size chars + weigh size behind ≤ weigh size text + if 15 < number then 6 else 4 := by
  have one (c : Char) : weigh size [c] ≤ 4 := by
    have four := fits.le_four c
    simpa using four
  cases paired with
  | single =>
    have small := one (Char.ofNat number)
    split <;> omega
  | @pair rest behind low high second =>
    have shorter := fits.passed (characterNumber_suffix second) (characterNumber_length second).1
    have small := one (Char.ofNat ((number - 0xD800) * 0x400 + (low - 0xDC00) + 0x10000))
    rw [weigh_cons '\\', weigh_cons 'u', if_pos (by omega)]
    omega
  | alone high low =>
    obtain ⟨length, small⟩ := halfPair_small low
    have whole := fits.le_length small
    rw [if_pos (by omega)]
    omega

/-- An octal escape stands for a character below 256, which weighs two bytes at most. -/
theorem weigh_octalEscape (text : List Char) : weigh size [Char.ofNat (octalEscape text).1] ≤ 2 := by
  have byte : (octalEscape text).1 < 256 := by
    unfold octalEscape
    dsimp only
    split
    · next small => exact small
    · generalize (text.take 3).takeWhile isOctal = digits
      match digits with
      | [] =>
        change 0 < 256
        decide
      | [first] =>
        have := hexValue?_getD_le first
        simp only [List.take_succ_cons, List.take_nil, valueOf, List.foldl_cons, List.foldl_nil]
        omega
      | first :: second :: _ =>
        have := hexValue?_getD_le first
        have := hexValue?_getD_le second
        simp only [List.take_succ_cons, List.take_zero, valueOf, List.foldl_cons, List.foldl_nil]
        omega
  have two : ∀ number < 256, (Char.ofNat number).utf8Size ≤ 2 := by decide +kernel
  have small := (fits (Char.ofNat (octalEscape text).1)).2
  have bytes := two _ byte
  rw [weigh_cons, weigh_nil]
  omega

/-- A letter with a meaning of its own stands for a character of one byte. -/
theorem size_letterMeaning (c : Char) : size (letterMeaning c) ≤ size c := by
  have one (meant : Char) (small : meant.utf8Size = 1) : size meant ≤ size c := by
    have first := (fits meant).2
    have second := (fits c).1
    omega
  unfold letterMeaning
  split
  all_goals first
    | exact one _ rfl
    | exact Nat.le_refl _

/-- What an escape stands for weighs no more than the escape, its backslash included. -/
theorem weigh_escape {found : List Char × Bool} (read : escape text = some (found, behind)) :
    weigh size found.1 + weigh size behind ≤ 1 + weigh size text := by
  cases escapeForm_of_escape read with
  | joined =>
    rw [weigh_nil, weigh_cons, weigh_cons]
    omega
  | @hexadecimal _ _ number digits =>
    obtain ⟨written, rfl, count, -⟩ := hexRun_split digits
    have first := (fits 'x').1
    have length := fits.length_le written
    have small := fits.le_four (Char.ofNat number)
    rw [weigh_cons, weigh_nil, weigh_cons, weigh_append]
    omega
  | numbered numbered paired =>
    have first := (fits 'u').1
    have stands := weigh_pairForm fits paired
    obtain ⟨least, more⟩ := characterNumber_length numbered
    have shorter := fits.passed (characterNumber_suffix numbered) least
    rw [weigh_cons]
    dsimp only
    split at stands
    · next large =>
      have further := fits.passed (characterNumber_suffix numbered) (more large)
      omega
    · omega
  | lineEnd =>
    rw [weigh_nil, weigh_cons]
    omega
  | zero =>
    have small := (fits '\x00').2
    change size '\x00' ≤ 1 at small
    rw [weigh_cons, weigh_nil, weigh_cons]
    omega
  | @octal c rest octal =>
    have first := (fits c).1
    have small := weigh_octalEscape fits (c :: rest)
    have suffix : (octalEscape (c :: rest)).2 <:+ rest := octalEscape_suffix octal
    have length := suffix.length_le
    have behind := fits.passed suffix (by omega : 0 + _ ≤ _)
    rw [weigh_cons c rest]
    dsimp only
    omega
  | @letter c =>
    have small := size_letterMeaning fits c
    rw [weigh_cons, weigh_nil, weigh_cons]
    omega

/-- What stands between two quotes weighs no less than the characters that it stands for, and the
closing quote comes on top. -/
theorem weigh_stringForm {quote : Char} {found : List Char × Bool}
    (form : StringForm quote text found behind) :
    weigh size found.1 + 1 + weigh size behind ≤ weigh size text := by
  induction form with
  | closes =>
    have first := (fits quote).1
    rw [weigh_nil, weigh_cons]
    omega
  | escaped _ meaning _ tail =>
    have first := (fits '\\').1
    have head := weigh_escape fits meaning
    rw [weigh_append, weigh_cons]
    dsimp only at head tail
    omega
  | written _ _ _ _ tail =>
    rw [weigh_cons, weigh_cons]
    dsimp only at tail
    omega

/-- A string literal weighs at least its quotes more than its value. -/
theorem weigh_string {value : String} {legacy : Bool}
    (read : token text = some (.string value legacy, behind)) :
    weigh size value.toList + 2 + weigh size behind ≤ weigh size text := by
  cases tokenForm_of_token read with
  | number _ isNumber _ => cases isNumber
  | @string quote _ _ _ _ _ closed =>
    have first := (fits quote).1
    have inside := weigh_stringForm fits closed
    rw [String.toList_ofList, weigh_cons]
    dsimp only at inside
    omega

/-- The characters of a name weigh no more than the name as it is written: an escape takes five
characters at least. -/
theorem weigh_nameForm {found : List Char × Bool} (form : NameForm text found behind) :
    weigh size found.1 + weigh size behind ≤ weigh size text := by
  induction form with
  | ends =>
    rw [weigh_nil]
    omega
  | @escaped _ _ _ _ number _ numbered _ _ tail =>
    have small := fits.le_four (Char.ofNat number)
    have shorter := fits.passed (characterNumber_suffix numbered) (characterNumber_length numbered).1
    have backslash := (fits '\\').1
    have letter := (fits 'u').1
    simp only [weigh_cons]
    dsimp only at tail
    omega
  | plain _ _ tail =>
    simp only [weigh_cons]
    dsimp only at tail
    omega

/-- A word weighs no more than it does as it is written. -/
theorem weigh_word {word : String} {spelling : Spelling}
    (read : token text = some (.word word spelling, behind)) :
    weigh size word.toList + weigh size behind ≤ weigh size text := by
  obtain ⟨_, _, chars, _, -, -, form, rfl, -⟩ := name_eq_some_iff.mp (name_of_token read)
  rw [String.toList_ofList]
  exact weigh_nameForm fits form

end Lexer

end PropertyMangling.Script
