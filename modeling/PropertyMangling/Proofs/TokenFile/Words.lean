import PropertyMangling.Proofs.Text.Trimming
import PropertyMangling.TokenFile
/-!
# Words on the lines of a token file

A word is one or more characters that may stand inside an identifier; digits may
come first, and words of the language count. Words are exactly what reading a
line can give, and a line that is nothing but a word is read as that word.
-/
namespace PropertyMangling.Identifier

/-- One or more characters that may stand inside an identifier. -/
def IsWord (text : String) : Prop := text.toList ≠ [] ∧ ∀ c ∈ text.toList, isPart c = true

instance : DecidablePred IsWord := fun text =>
  decidable_of_iff (text.toList ≠ [] ∧ text.toList.all isPart = true)
    (by rw [IsWord, List.all_eq_true])

/-- A plain identifier is a word, as its characters are those that words consist of. -/
theorem isWord_of_isPlain {name : String} (plain : isPlain name = true) : IsWord name := by
  rw [isPlain, Bool.and_eq_true] at plain
  obtain ⟨some, parts⟩ := hasShape_all plain.1
  exact ⟨some, List.all_eq_true.mp parts⟩

/-- The characters of identifiers lie between the dollar sign and the last small letter. -/
theorem range_of_isPart {c : Char} (part : isPart c = true) :
    0x24 ≤ c.toNat ∧ c.toNat ≤ 0x7A := by
  simp only [isPart, isStart, Bool.or_eq_true, Bool.and_eq_true, decide_eq_true_eq,
    beq_iff_eq, Char.le_def, UInt32.le_iff_toNat_le] at part
  rcases part with (((⟨low, high⟩ | ⟨low, high⟩) | rfl) | rfl) | ⟨low, high⟩
  · exact ⟨Nat.le_trans (by decide) low, Nat.le_trans high (by decide)⟩
  · exact ⟨Nat.le_trans (by decide) low, Nat.le_trans high (by decide)⟩
  · decide
  · decide
  · exact ⟨Nat.le_trans (by decide) low, Nat.le_trans high (by decide)⟩

/-- Identifiers hold no blanks, so they need no trimming. -/
theorem isBlank_of_isPart {c : Char} (part : isPart c = true) : Text.isBlank c = false := by
  have range := range_of_isPart part
  simp only [Text.isBlank, Bool.or_eq_false_iff, Bool.and_eq_false_iff, decide_eq_false_iff_not,
    beq_eq_false_iff_ne]
  omega

/-- Nothing is trimmed from a word, since its ends are characters of identifiers. -/
theorem IsWord.hasFirmEnds {text : String} (word : IsWord text) : Text.HasFirmEnds text.toList :=
  Text.hasFirmEnds_of_firm fun c inside => isBlank_of_isPart (word.2 c inside)

end PropertyMangling.Identifier

namespace PropertyMangling.TokenFile

open Identifier

/-- A word in front of anything that cannot continue it is the first run. -/
theorem firstRun_append {run rest : List Char} (some : run ≠ [])
    (parts : ∀ c ∈ run, isPart c = true) (stop : ∀ c ∈ rest.head?, isPart c = false) :
    firstRun (run ++ rest) = run := by
  have started : (run ++ rest).dropWhile (fun c => !isPart c) = run ++ rest := by
    cases run with
    | nil => exact absurd rfl some
    | cons c more => simp [parts c List.mem_cons_self]
  have stopped : rest.takeWhile isPart = [] := by
    cases rest with
    | nil => rfl
    | cons c more => simp [stop c rfl]
  rw [firstRun, started, List.takeWhile_append_of_pos parts, stopped, List.append_nil]

/-- Characters that belong to no word are passed over on the way to the first run. -/
theorem firstRun_skip {skipped : List Char} (apart : ∀ c ∈ skipped, isPart c = false)
    (rest : List Char) : firstRun (skipped ++ rest) = firstRun rest := by
  have dropped : (skipped ++ rest).dropWhile (fun c => !isPart c) =
      rest.dropWhile fun c => !isPart c :=
    List.dropWhile_append_of_pos fun c inside => by simp [apart c inside]
  rw [firstRun, dropped, firstRun]

/-- A run ends at the first character that belongs to no word, so nothing is added by such characters
alone. -/
theorem takeWhile_append_apart {trailing : List Char} (apart : ∀ c ∈ trailing, isPart c = false)
    (run : List Char) : (run ++ trailing).takeWhile isPart = run.takeWhile isPart := by
  induction run with
  | nil =>
    cases trailing with
    | nil => rfl
    | cons c rest => simp [apart c List.mem_cons_self]
  | cons c rest inductionHypothesis =>
    simp only [List.cons_append, List.takeWhile_cons, inductionHypothesis]

/-- Characters behind a line that belong to no word do not change what it is read as. -/
theorem firstRun_append_apart {trailing : List Char} (apart : ∀ c ∈ trailing, isPart c = false)
    (line : List Char) : firstRun (line ++ trailing) = firstRun line := by
  induction line with
  | nil =>
    have none := firstRun_skip apart []
    rwa [List.append_nil] at none
  | cons c rest inductionHypothesis =>
    cases part : isPart c with
    | true =>
      have started := takeWhile_append_apart apart (c :: rest)
      simpa [firstRun, List.dropWhile_cons, part] using started
    | false =>
      have skipped : ∀ a ∈ [c], isPart a = false := by simpa using part
      have whole := firstRun_skip skipped (rest ++ trailing)
      rw [inductionHypothesis, ← firstRun_skip skipped rest] at whole
      exact whole

/-- Trimming a line does not change what it is read as. -/
theorem firstRun_trim (line : List Char) : firstRun (Text.trim line) = firstRun line := by
  have apart {blanks : List Char} (blank : ∀ c ∈ blanks, Text.isBlank c = true) :
      ∀ c ∈ blanks, isPart c = false := by
    intro c inside
    by_contra part
    rw [Bool.not_eq_false] at part
    have firm := isBlank_of_isPart part
    rw [blank c inside] at firm
    cases firm
  obtain ⟨leading, trailing, whole, before, behind⟩ := Text.exists_blanks_around line
  calc firstRun (Text.trim line)
      = firstRun (Text.trim line ++ trailing) := (firstRun_append_apart (apart behind) _).symm
    _ = firstRun (leading ++ (Text.trim line ++ trailing)) := (firstRun_skip (apart before) _).symm
    _ = firstRun line := by rw [← whole]

/-- A trimmed line has the token of the line as written. -/
theorem tokenOf?_trim (line : String) :
    tokenOf? (String.ofList (Text.trim line.toList)) = tokenOf? line := by
  rw [tokenOf?, tokenOf?, String.toList_ofList, firstRun_trim]

/-- Whatever a line is read as is a word, since the token is a run of characters of words. -/
theorem isWord_of_tokenOf? {line token : String} (read : tokenOf? line = some token) :
    IsWord token := by
  unfold tokenOf? at read
  split at read
  · cases read
  · next run some =>
    rw [← Option.some.inj read]
    refine ⟨by simpa using some, fun c inside => ?_⟩
    rw [String.toList_ofList] at inside
    exact List.mem_takeWhile_imp inside

/-- A line is read as its first run, if it has one. -/
theorem tokenOf?_eq_some {line : String} {run : List Char} (first : firstRun line.toList = run)
    (some : run ≠ []) : tokenOf? line = .some (String.ofList run) := by
  unfold tokenOf?
  split
  · next none => exact absurd (first.symm.trans none) some
  · rw [first]

/-- A line that is nothing but a word is read as that word. -/
theorem tokenOf?_word {text : String} (word : IsWord text) : tokenOf? text = .some text := by
  have whole : firstRun text.toList = text.toList := by
    have run : firstRun (text.toList ++ []) = text.toList :=
      firstRun_append word.1 word.2 (by simp)
    rwa [List.append_nil] at run
  rw [tokenOf?_eq_some whole word.1, String.ofList_toList]

/-- A line with a character that may stand inside an identifier has a token. -/
theorem exists_tokenOf? {line : String} {c : Char} (inside : c ∈ line.toList)
    (part : isPart c = true) : ∃ token, tokenOf? line = .some token := by
  have reached : line.toList.dropWhile (fun c => !isPart c) ≠ [] := by
    intro none
    have skipped := List.dropWhile_eq_nil_iff.mp none c inside
    simp [part] at skipped
  obtain ⟨first, rest, started⟩ := List.exists_cons_of_ne_nil reached
  have opens : isPart first = true := by
    have stopped := List.head?_dropWhile_not (fun c => !isPart c) line.toList
    rw [started] at stopped
    simpa using stopped
  have run : firstRun line.toList = first :: rest.takeWhile isPart := by
    rw [firstRun, started, List.takeWhile_cons_of_pos opens]
  exact ⟨_, tokenOf?_eq_some run (List.cons_ne_nil _ _)⟩

/-- A line has no token exactly when no character of it may stand inside an identifier. -/
theorem tokenOf?_isNone (line : String) :
    (tokenOf? line).isNone = !line.toList.any isPart := by
  cases found : line.toList.any isPart with
  | true =>
    obtain ⟨c, inside, part⟩ := List.any_eq_true.mp found
    obtain ⟨token, read⟩ := exists_tokenOf? inside part
    rw [read]
    rfl
  | false =>
    have apart : ∀ c ∈ line.toList, isPart c = false := by simpa using found
    have none : firstRun line.toList = [] := by
      have skipped := firstRun_skip apart []
      rwa [List.append_nil] at skipped
    rw [tokenOf?, none]
    rfl

/-- The first run stands in its line, so it has no characters but those of the line. -/
theorem firstRun_subset (line : List Char) : firstRun line ⊆ line :=
  fun _ inside => (List.dropWhile_suffix _).subset ((List.takeWhile_prefix _).subset inside)

/-- A line with a token is not blank, as the token's characters are none. -/
theorem isBlankText_of_tokenOf? {line token : String} (read : tokenOf? line = some token) :
    Text.isBlankText line.toList = false := by
  unfold tokenOf? at read
  split at read
  · cases read
  · next some =>
    obtain ⟨c, inside⟩ := List.exists_mem_of_ne_nil _ some
    have firm : Text.isBlank c = false := isBlank_of_isPart (List.mem_takeWhile_imp inside)
    exact List.all_eq_false.mpr ⟨c, firstRun_subset _ inside, by simp [firm]⟩

end PropertyMangling.TokenFile
