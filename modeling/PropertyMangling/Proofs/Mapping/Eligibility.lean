import PropertyMangling.Mapping.Assignment
import PropertyMangling.Proofs.Reading
import PropertyMangling.Proofs.Text.Sorting
import PropertyMangling.Proofs.TokenFile.Words
/-!
# Which tokens an assignment is given

An assignment trims a line before it looks at it, a token file keeps it as it is
written. Both read the same from it: whether it is blank, whether it is
commented, and its token. So the tokens to be named are those of the lines that
are not commented, and only such a line can be without a token: the first of
these in the order of the texts is what stops an assignment.
-/
namespace PropertyMangling.Mapping

open TokenFile Text

/-- A trimmed line is eligible when the line as written is neither blank nor commented. -/
theorem isEligibleLine_trim (line : List Char) :
    isEligibleLine (trim line) = (!isBlankText line && !isCommented line) := by
  have start : (trim line).head? = (trimLeft line).head? := head?_trim line
  have filled : (trim line).isEmpty = isBlankText line := by
    rw [Bool.eq_iff_iff, isBlankText_iff, List.isEmpty_iff, ← List.head?_eq_none_iff, start,
      List.head?_eq_none_iff]
  have marked : ((trim line).head? != some commentMarker) = !isCommented line := by
    rw [start, isCommented, Bool.eq_iff_iff]
    simp
  rw [isEligibleLine, filled, marked]

/-- A line whose token is to be named: it is neither blank nor commented. -/
def isListed (line : String) : Bool := !isBlankText line.toList && !isCommented line.toList

/-- A line whose token is to be named although it has none. -/
def isUnreadable (line : String) : Bool := isListed line && !line.toList.any Identifier.isPart

/-- The tokens to be named in the order of their lines' texts, as often as they are listed. -/
def listedTokens (lines : List String) : List String :=
  ((sorted lines).filter isListed).filterMap TokenFile.tokenOf?

/-- A token is listed when a line that is not commented has it. -/
theorem mem_listedTokens_iff {lines : List String} {token : String} :
    token ∈ listedTokens lines ↔ ∃ line ∈ lines,
      isCommented line.toList = false ∧ TokenFile.tokenOf? line = some token := by
  simp only [listedTokens, List.mem_filterMap, List.mem_filter, mem_sortBy, sorted, isListed,
    Bool.and_eq_true, Bool.not_eq_true']
  constructor
  · rintro ⟨line, ⟨listed, _, plain⟩, found⟩
    exact ⟨line, listed, plain, found⟩
  · rintro ⟨line, listed, plain, found⟩
    exact ⟨line, ⟨listed, isBlankText_of_tokenOf? found, plain⟩, found⟩

/-- Which tokens are listed does not depend on the order of the lines. -/
theorem listedTokens_of_perm {lines others : List String} (same : lines.Perm others) :
    listedTokens lines = listedTokens others := by
  rw [listedTokens, listedTokens, sorted_eq_of_perm same]

/-- The token of a trimmed line, which has to have one. -/
def readToken (line : List Char) : Except Fault String :=
  match TokenFile.tokenOf? (String.ofList line) with
  | some token => .ok token
  | none => .error (.lineWithoutToken (String.ofList line))

/-- The tokens to be named are the listed ones, unless a line should have a token and has none; the
first such line in the order of the texts is the fault. -/
theorem eligibleTokens_eq (lines : List String) :
    eligibleTokens lines = match (sorted lines).find? isUnreadable with
      | some line => .error (.lineWithoutToken (trimmed line))
      | none => .ok (listedTokens lines) := by
  let trimText (line : String) : List Char := trim line.toList
  have picked : isEligibleLine ∘ trimText = isListed := by
    funext line
    exact isEligibleLine_trim line.toList
  have unreadable : isUnreadable = fun line =>
      decide (isListed line = true ∧ (TokenFile.tokenOf? line).isNone = true) := by
    funext line
    rw [isUnreadable, tokenOf?_isNone, Bool.decide_and, Bool.decide_eq_true, Bool.decide_eq_true]
  have found (line token : String) (read : TokenFile.tokenOf? line = some token) :
      (readToken ∘ trimText) line = .ok token := by
    simp only [Function.comp_apply, readToken, trimText, tokenOf?_trim, read]
  have missing (line : String) (none : TokenFile.tokenOf? line = none) :
      (readToken ∘ trimText) line = .error (.lineWithoutToken (trimmed line)) := by
    simp only [Function.comp_apply, readToken, trimText, tokenOf?_trim, none]
    rfl
  have texts : eligibleTokens lines =
      (((sorted lines).filter isListed).map trimText).mapM readToken := by
    rw [← picked, ← List.filter_map]
    rfl
  have search : ((sorted lines).filter isListed).find?
      (fun line => (TokenFile.tokenOf? line).isNone) = (sorted lines).find? isUnreadable := by
    rw [List.find?_filter, ← unreadable]
  rw [texts, List.mapM_map]
  cases first : (sorted lines).find? isUnreadable with
  | some line => exact mapM_eq_error found missing (search.trans first)
  | none => exact mapM_eq_ok found (search.trans first)

/-- No line in the order of the texts is unreadable when none is at all. -/
theorem find?_isUnreadable_eq_none_iff {lines : List String} :
    (sorted lines).find? isUnreadable = none ↔ ∀ line ∈ lines, isUnreadable line = false := by
  simp only [List.find?_eq_none, mem_sorted, Bool.not_eq_true]

/-- Lines that all have the tokens they should have are read. -/
theorem eligibleTokens_eq_ok_iff {lines : List String} {tokens : List String} :
    eligibleTokens lines = .ok tokens ↔
      (∀ line ∈ lines, isUnreadable line = false) ∧ tokens = listedTokens lines := by
  rw [eligibleTokens_eq, ← find?_isUnreadable_eq_none_iff]
  cases (sorted lines).find? isUnreadable with
  | some line => simp
  | none => simp [eq_comm]

/-- When every line that is not commented has a token, or is blank, an assignment is given the
tokens of these lines and no others. -/
theorem exists_eligibleTokens {lines : List String}
    (readable : ∀ line ∈ lines, isBlankText line.toList = false → isCommented line.toList = false →
      ∃ token, TokenFile.tokenOf? line = some token) :
    ∃ tokens, eligibleTokens lines = .ok tokens ∧ ∀ token, token ∈ tokens ↔
      ∃ line ∈ lines, isCommented line.toList = false ∧ TokenFile.tokenOf? line = some token := by
  refine ⟨listedTokens lines, eligibleTokens_eq_ok_iff.mpr ⟨?_, rfl⟩, fun _ => mem_listedTokens_iff⟩
  intro line listed
  cases picked : isListed line with
  | false => rw [isUnreadable, picked, Bool.false_and]
  | true =>
    rw [isListed, Bool.and_eq_true, Bool.not_eq_true', Bool.not_eq_true'] at picked
    obtain ⟨token, found⟩ := readable line listed picked.1 picked.2
    rw [isUnreadable, ← tokenOf?_isNone, found, Option.isNone_some, Bool.and_false]

end PropertyMangling.Mapping
