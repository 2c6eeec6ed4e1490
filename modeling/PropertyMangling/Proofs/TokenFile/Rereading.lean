import PropertyMangling.Proofs.Reading
import PropertyMangling.Proofs.TokenFile.Words
/-!
# Lines as entries

An entry that was read from a file has the token of its line, and its line is
kept as it stands. So lines that all have a token are read back as they are. The
first line that is not blank and has no token stops the reading, whether it is
commented or not.
-/
namespace PropertyMangling.TokenFile

/-- An entry that was read has the token of its line. -/
theorem entryOf_eq_ok_iff {line : String} {entry : Entry} :
    entryOf line = .ok entry ↔ tokenOf? line = some entry.token ∧ entry.message = line := by
  obtain ⟨token, message⟩ := entry
  rw [entryOf]
  cases tokenOf? line with
  | none => simp
  | some found => simp [eq_comm]

/-- A line that is not blank although it has no token. -/
def isTokenless (line : String) : Bool :=
  !Text.isBlankText line.toList && !line.toList.any Identifier.isPart

/-- The entry of a line, if the line has a token. -/
def entryAt? (line : String) : Option Entry := (tokenOf? line).map fun token => ⟨token, line⟩

/-- A line has an entry exactly when it has a token, and the entry holds the line as it is. -/
theorem entryAt?_eq_some_iff {line : String} {entry : Entry} :
    entryAt? line = some entry ↔ entry.message = line ∧ tokenOf? line = some entry.token := by
  obtain ⟨token, message⟩ := entry
  simp only [entryAt?, Option.map_eq_some_iff, Entry.mk.injEq]
  constructor
  · rintro ⟨found, read, rfl, rfl⟩
    exact ⟨rfl, read⟩
  · rintro ⟨rfl, read⟩
    exact ⟨token, read, rfl, rfl⟩

/-- A line that has an entry is read as that entry. -/
theorem entryOf_of_entryAt?_eq_some {line : String} {entry : Entry}
    (found : entryAt? line = some entry) : entryOf line = .ok entry := by
  obtain ⟨kept, read⟩ := entryAt?_eq_some_iff.mp found
  exact entryOf_eq_ok_iff.mpr ⟨read, kept⟩

/-- A line without an entry is refused, and the fault names the line. -/
theorem entryOf_of_entryAt?_eq_none {line : String} (missing : entryAt? line = none) :
    entryOf line = .error (.lineWithoutToken line) := by
  rw [entryOf, Option.map_eq_none_iff.mp missing]

/-- Blank lines have no entries, so leaving them out beforehand changes nothing. -/
theorem filterMap_entryAt?_filled (lines : List String) :
    (lines.filter fun line => !Text.isBlankText line.toList).filterMap entryAt? =
      lines.filterMap entryAt? := by
  rw [List.filterMap_filter]
  refine List.filterMap_congr fun line _ => ?_
  cases known : entryAt? line with
  | none => simp
  | some entry =>
    have filled := isBlankText_of_tokenOf? (entryAt?_eq_some_iff.mp known).2
    simp [filled]

/-- The first line that is not blank and has no entry is the first one without a token. -/
theorem find?_filled_without_entry (lines : List String) :
    (lines.filter fun line => !Text.isBlankText line.toList).find?
      (fun line => (entryAt? line).isNone) = lines.find? isTokenless := by
  rw [List.find?_filter]
  congr 1
  funext line
  simp only [entryAt?, Option.isNone_map, tokenOf?_isNone, isTokenless, Bool.decide_and,
    Bool.decide_eq_true]

/-- The entries of a file are those of its lines that have tokens, unless a line that is not blank
has none; the first such line is the fault. -/
theorem parse_eq (lines : List String) :
    parse lines = match lines.find? isTokenless with
      | some line => .error (.lineWithoutToken line)
      | none => .ok (lines.filterMap entryAt?) := by
  have found (line : String) (entry : Entry) (read : entryAt? line = some entry) :=
    entryOf_of_entryAt?_eq_some read
  have missing (line : String) (none : entryAt? line = none) := entryOf_of_entryAt?_eq_none none
  have search := find?_filled_without_entry lines
  cases first : lines.find? isTokenless with
  | some line => exact mapM_eq_error found missing (search.trans first)
  | none =>
    rw [parse, mapM_eq_ok found (search.trans first), filterMap_entryAt?_filled]

/-- A file is refused exactly when a line that is not blank has no token. -/
theorem exists_parse_error_iff {lines : List String} :
    (∃ fault, parse lines = .error fault) ↔ ∃ line ∈ lines, isTokenless line = true := by
  rw [parse_eq, ← List.find?_isSome]
  cases lines.find? isTokenless <;> simp

/-- The entries of an accepted file are those of its lines that have tokens. -/
theorem mem_of_parse {lines : List String} {entries : List Entry}
    (accepted : parse lines = .ok entries) {entry : Entry} :
    entry ∈ entries ↔ entry.message ∈ lines ∧ tokenOf? entry.message = some entry.token := by
  rw [parse_eq] at accepted
  cases first : lines.find? isTokenless with
  | some line =>
    rw [first] at accepted
    cases accepted
  | none =>
    rw [first] at accepted
    simp only [← Except.ok.inj accepted, List.mem_filterMap, entryAt?_eq_some_iff]
    constructor
    · rintro ⟨line, listed, rfl, read⟩
      exact ⟨listed, read⟩
    · rintro ⟨listed, read⟩
      exact ⟨entry.message, listed, rfl, read⟩

/-- Every line of an accepted file is read as the token of its entry. -/
theorem tokenOf?_message_of_parse {lines : List String} {entries : List Entry}
    (accepted : parse lines = .ok entries) {entry : Entry} (listed : entry ∈ entries) :
    tokenOf? entry.message = some entry.token :=
  ((mem_of_parse accepted).mp listed).2

/-- The entry of a line that has a token. -/
def reread (line : String) : Entry := ⟨(tokenOf? line).getD "", line⟩

/-- Lines that all have tokens are all read, each as its own entry. -/
theorem parse_eq_ok_map {lines : List String}
    (each : ∀ line ∈ lines, ∃ token, tokenOf? line = some token) :
    parse lines = .ok (lines.map reread) := by
  have whole : (lines.filter fun line => !Text.isBlankText line.toList) = lines := by
    rw [List.filter_eq_self]
    intro line listed
    obtain ⟨token, read⟩ := each line listed
    rw [isBlankText_of_tokenOf? read, Bool.not_false]
  rw [parse, whole]
  refine mapM_eq_ok_map fun line listed => ?_
  obtain ⟨token, read⟩ := each line listed
  rw [entryOf, reread, read, Option.getD_some]

end PropertyMangling.TokenFile
