import PropertyMangling.Proofs.Mapping.Rounds
import PropertyMangling.Proofs.Printout
import PropertyMangling.Proofs.Mapping.Loading
/-!
# Entries that are written and loaded again

A mapping that was loaded, or that an assignment to a loaded one led to, is given
back by its entries: their sides have firm ends, and only the first separator of
an entry cuts it, so a name may hold separators and blanks of its own. Through a
file, where each entry stands on a line, it is given back exactly when none of its
tokens and names holds a line feed. A carriage return does no harm, since none
ends an entry.
-/
namespace PropertyMangling.Mapping

open Text

variable {mapping : Mapping} {token name : String}

/-- A mapping that was loaded from entries, or that an assignment to loaded ones led to. -/
def IsMade (mapping : Mapping) : Prop :=
  (∃ entries, ofEntries entries = .ok mapping) ∨ ∃ seed lines, assigned seed lines = .ok mapping

/-- Loading these entries succeeds, and gives the pairs and the entries of the mapping again. -/
def ReloadsFrom (mapping : Mapping) (entries : List String) : Prop :=
  ∃ again, ofEntries entries = .ok again ∧ again.pairs.Perm mapping.pairs ∧
    again.entries = mapping.entries

/-- No token and no name holds a line feed. -/
def IsPlain (mapping : Mapping) : Prop :=
  ∀ pair ∈ mapping.pairs, '\n' ∉ pair.1.toList ∧ '\n' ∉ pair.2.toList

/-- What an assignment leads to can be written: the pairs of the seed can, and new tokens and
names are words. -/
theorem isWritable_of_assigned {seed lines : List String}
    (named : assigned seed lines = .ok mapping) : mapping.IsWritable := by
  cases accepted : ofEntries seed with
  | error fault =>
    rw [assigned, accepted] at named
    cases named
  | ok start =>
    cases read : eligibleTokens lines with
    | error fault =>
      rw [(assigned_eq_error_iff accepted).mpr read] at named
      cases named
    | ok tokens =>
      obtain ⟨final, finalNamed, pairs⟩ := assigned_eq accepted read
      rw [finalNamed] at named
      rw [← Except.ok.inj named]
      exact isWritable_assigned (isWritable_of_ofEntries accepted) read pairs

/-- A mapping that was made can be written, be it loaded from entries or assigned. -/
theorem IsMade.isWritable (made : mapping.IsMade) : mapping.IsWritable := by
  rcases made with ⟨entries, accepted⟩ | ⟨seed, lines, named⟩
  · exact isWritable_of_ofEntries accepted
  · exact isWritable_of_assigned named

/-- A mapping that can be written is given back by its entries. -/
theorem reloadsFrom_entries (writable : mapping.IsWritable) :
    mapping.ReloadsFrom mapping.entries := by
  obtain ⟨again, accepted, pairs⟩ := ofEntries_entries writable
  have same : again.pairs.Perm mapping.pairs := pairs ▸ mapping.sortedPairs_perm
  exact ⟨again, accepted, same, entries_eq_of_perm same⟩

/-- Both sides of an entry stand in it, so what the entry lacks they lack too. -/
theorem SplitsInto.subset {entry : List Char} (splits : SplitsInto entry token name) {c : Char}
    (inside : c ∈ token.toList ∨ c ∈ name.toList) : c ∈ entry := by
  obtain ⟨before, behind, rfl, _, token_eq, name_eq, _⟩ := splits
  rcases inside with inToken | inName
  · exact List.mem_append_left _ (mem_of_mem_trim (token_eq ▸ inToken))
  · exact List.mem_append_right _ (List.mem_cons_of_mem _ (mem_of_mem_trim (name_eq ▸ inName)))

/-- What is loaded from the lines of a text is plain, as no line holds a line feed. -/
theorem isPlain_of_ofEntries_lines {text : String} (accepted : ofEntries (lines text) = .ok mapping) :
    mapping.IsPlain := by
  rintro ⟨token, name⟩ held
  obtain ⟨line, listed, splits⟩ :=
    (get?_of_ofEntries accepted).mp (get?_eq_some_iff.mpr held)
  have plain : '\n' ∉ line.toList := by
    obtain ⟨piece, read, rfl⟩ := List.mem_map.mp listed
    rw [String.toList_ofList]
    exact lineFeed_notMem_of_mem_lineChars read
  constructor
  · intro inside
    exact plain (mem_of_mem_trim (splits.subset (Or.inl inside)))
  · intro inside
    exact plain (mem_of_mem_trim (splits.subset (Or.inr inside)))

/-- Without entries nothing is printed, and the one line that is read of it is blank. -/
theorem ofEntries_lines_nil : ofEntries (lines (CommandLine.linesText [])) = ofEntries [] := rfl

/-- A mapping that can be written is given back through a file exactly when it is plain. -/
theorem reloadsFrom_lines_iff (writable : mapping.IsWritable) :
    mapping.ReloadsFrom (lines (CommandLine.linesText mapping.entries)) ↔ mapping.IsPlain := by
  constructor
  · rintro ⟨again, accepted, same, _⟩ pair held
    exact isPlain_of_ofEntries_lines accepted pair (same.mem_iff.mpr held)
  · intro plain
    by_cases listed : mapping.entries = []
    · obtain ⟨again, accepted, same⟩ := reloadsFrom_entries writable
      rw [listed] at accepted
      refine ⟨again, ?_, same⟩
      rw [listed, ofEntries_lines_nil]
      exact accepted
    · have written : ∀ entry ∈ mapping.entries, IsFirm entry.toList ∧ '\n' ∉ entry.toList := by
        intro entry printed
        rw [entries_eq_map] at printed
        obtain ⟨pair, listedPair, rfl⟩ := List.mem_map.mp printed
        have held := mapping.sortedPairs_perm.mem_iff.mp listedPair
        have plainPair := plain pair held
        refine ⟨(writable pair held).isFirm_entryText, ?_⟩
        simp [toList_entryText, plainPair, separator]
      have readBack : lines (CommandLine.linesText mapping.entries) = mapping.entries := by
        apply (lines_linesText_iff listed fun entry printed => (written entry printed).1).mpr
        intro entry printed
        exact (written entry printed).2
      rw [readBack]
      exact reloadsFrom_entries writable

/-- Entries decode what they encode, for every mapping that was loaded or assigned.

Loading its entries gives the same pairs, and these the same entries. So does
loading the lines of the printed entries, exactly when no token and no name holds
a line feed; a mapping without pairs is no exception. -/
theorem made_reloads (made : mapping.IsMade) :
    mapping.ReloadsFrom mapping.entries ∧
    (mapping.ReloadsFrom (lines (CommandLine.linesText mapping.entries)) ↔ mapping.IsPlain) :=
  ⟨reloadsFrom_entries made.isWritable, reloadsFrom_lines_iff made.isWritable⟩

/-- Names with separators and blanks and a token with a carriage return are given back through a
file; a token with a line feed is not. -/
theorem made_reloads_unless_line_feed :
    ofEntries [" a b : x :y ", "c\rd::e"] =
      .ok ⟨[("a b", "x :y"), ("c\rd", ":e")], by decide, by decide⟩ ∧
    ReloadsFrom ⟨[("a b", "x :y"), ("c\rd", ":e")], by decide, by decide⟩
      (lines "a b:x :y\nc\rd::e\n") ∧
    ofEntries ["a\nb:c"] = .ok ⟨[("a\nb", "c")], by decide, by decide⟩ ∧
    ¬ ReloadsFrom ⟨[("a\nb", "c")], by decide, by decide⟩ (lines "a\nb:c\n") := by
  have accepted : ofEntries [" a b : x :y ", "c\rd::e"] =
      .ok ⟨[("a b", "x :y"), ("c\rd", ":e")], by decide, by decide⟩ := by rfl
  have printed : CommandLine.linesText
      (entries ⟨[("a b", "x :y"), ("c\rd", ":e")], by decide, by decide⟩) =
        "a b:x :y\nc\rd::e\n" := by
    rw [entries_eq_map, sortedPairs, sortBy_eq_self (by decide)]
    rfl
  have broken : ofEntries ["a\nb:c"] = .ok ⟨[("a\nb", "c")], by decide, by decide⟩ := by rfl
  have brokenPrinted : CommandLine.linesText (entries ⟨[("a\nb", "c")], by decide, by decide⟩) =
      "a\nb:c\n" := by
    rw [entries_eq_map, sortedPairs, sortBy_eq_self (by decide)]
    rfl
  have reloads := (made_reloads (Or.inl ⟨_, accepted⟩)).2
  have brokenReloads := (made_reloads (Or.inl ⟨_, broken⟩)).2
  rw [printed] at reloads
  rw [brokenPrinted] at brokenReloads
  refine ⟨accepted, reloads.mpr ?_, broken, fun again => ?_⟩
  · intro pair held
    simp only [List.mem_cons, List.not_mem_nil, or_false] at held
    rcases held with rfl | rfl <;> decide
  · exact absurd (brokenReloads.mp again ("a\nb", "c") (by simp)).1 (by decide)

end PropertyMangling.Mapping
