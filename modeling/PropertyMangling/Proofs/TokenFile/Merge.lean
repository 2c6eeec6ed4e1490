import PropertyMangling.Proofs.TokenFile.Pairing
/-!
# What a merge changes

A merge adds and removes nothing exactly when both sides have the same tokens,
each as often on one side as on the other; its whole is then what the reviewer
saw, in order. The walk itself does not pair lines that belong together, it only
compares tokens in their order. So whether a merge is quiet depends on the tokens alone.
When no fresh token occurs twice, the whole holds one line for each of them: the
first line that the reviewer saw for it, or its own if there is none. When neither side
has a token twice, the difference holds one line for each token that only one
side has. All of this follows from how the lines of one token are paired; the
walk is not looked at again.
-/
namespace PropertyMangling.TokenFile

open Text

variable {existing fresh : List Entry} {token : String}

/-- A merge that leaves these lines in some order leaves them in ascending order. -/
theorem whole_merge_eq_sorted {lines : List String}
    (same : (merge existing fresh).whole.Perm lines) :
    (merge existing fresh).whole = sorted lines :=
  (sorted_eq_self (sorted_ascends _)).symm.trans (sorted_eq_of_perm same)

/-- A token has as many lines as there are entries with it. -/
theorem length_linesOf (token : String) (entries : List Entry) :
    (linesOf token entries).length = (entries.map Entry.token).count token := by
  rw [linesOf, List.length_map, entriesOf, ← List.countP_eq_length_filter, List.count,
    List.countP_map]
  rfl

/-- All lines of one side find a partner exactly when no token occurs more often there than among
the others. -/
theorem flatMap_surplus_eq_nil_iff {entries others : List Entry} {tokens : List String}
    (covered : ∀ entry ∈ entries, entry.token ∈ tokens) :
    (tokens.flatMap fun token => surplus token entries others) = [] ↔
      ∀ token, (entries.map Entry.token).count token ≤ (others.map Entry.token).count token := by
  simp only [List.flatMap_eq_nil_iff, surplus, List.drop_eq_nil_iff, length_linesOf]
  constructor
  · intro fewer token
    by_cases held : token ∈ tokens
    · exact fewer token held
    · have absent : token ∉ entries.map Entry.token := by
        intro listed
        obtain ⟨entry, inside, rfl⟩ := List.mem_map.mp listed
        exact held (covered entry inside)
      rw [List.count_eq_zero_of_not_mem absent]
      exact Nat.zero_le _
  · intro fewer token _
    exact fewer token

/-- A merge removes and adds nothing exactly when both sides have the same tokens, repetitions
counted. -/
theorem no_surplus_iff (existing fresh : List Entry) :
    removedLines existing fresh = [] ∧ addedLines existing fresh = [] ↔
      (existing.map Entry.token).Perm (fresh.map Entry.token) := by
  rw [removedLines, addedLines, flatMap_surplus_eq_nil_iff (token_mem_tokensOf_left fresh),
    flatMap_surplus_eq_nil_iff (token_mem_tokensOf_right existing), List.perm_iff_count,
    ← forall_and]
  exact forall_congr' fun token => Nat.le_antisymm_iff.symm

/-- The difference is empty exactly when both sides have the same tokens, repetitions counted. -/
theorem diff_merge_eq_nil_iff (existing fresh : List Entry) :
    (merge existing fresh).diff = [] ↔
      (existing.map Entry.token).Perm (fresh.map Entry.token) := by
  rw [← no_surplus_iff, ← List.perm_nil, (diff_merge_perm existing fresh).congr_left,
    List.perm_nil, List.append_eq_nil_iff, List.map_eq_nil_iff, List.map_eq_nil_iff]

/-- With the same tokens on both sides the whole is the reviewed lines, in order. -/
theorem whole_merge_of_same_tokens {existing fresh : List Entry}
    (same : (existing.map Entry.token).Perm (fresh.map Entry.token)) :
    (merge existing fresh).whole = sorted (existing.map Entry.message) := by
  obtain ⟨noneRemoved, noneAdded⟩ := (no_surplus_iff existing fresh).mpr same
  have balance := merge_balance existing fresh
  rw [noneRemoved, noneAdded, List.append_nil, List.append_nil] at balance
  exact whole_merge_eq_sorted balance.symm

/-- Without reviewed lines the whole is the fresh lines, in order. -/
theorem whole_merge_nil (fresh : List Entry) :
    (merge [] fresh).whole = sorted (fresh.map Entry.message) := by
  have noneKept : keptLines [] fresh = [] := by simp [keptLines, paired, linesOf, entriesOf]
  have allAdded : (addedLines [] fresh).Perm (fresh.map Entry.message) :=
    flatMap_linesOf_perm (nodup_tokensOf [] fresh) (token_mem_tokensOf_right [])
  have left := whole_merge_perm [] fresh
  rw [noneKept, List.nil_append] at left
  exact whole_merge_eq_sorted (left.trans allAdded)

/-- The entry that a merge keeps of a fresh one: the first reviewed entry with its token, or itself
when nobody has reviewed the token. -/
def decisive (existing : List Entry) (fresh : Entry) : Entry :=
  (existing.find? fun old => old.token == fresh.token).getD fresh

/-- Among reviewed entries of distinct tokens, the one with the token of a fresh entry decides. -/
theorem decisive_eq_of_mem {existing : List Entry} {old new : Entry}
    (distinct : (existing.map Entry.token).Nodup) (reviewed : old ∈ existing)
    (same : old.token = new.token) : decisive existing new = old := by
  rw [decisive, (find?_key_eq_some_iff distinct).mpr ⟨reviewed, same⟩, Option.getD_some]

/-- The decisive entry is the first old one of its token, or the new one where there is none. -/
theorem decisive_eq_head? (existing : List Entry) (new : Entry) :
    decisive existing new = (entriesOf new.token existing).head?.getD new := by
  rw [decisive, entriesOf, List.head?_filter]

/-- Where tokens are distinct, each has one entry or none. -/
theorem entriesOf_of_nodup {entries : List Entry} (distinct : (entries.map Entry.token).Nodup)
    (token : String) : entriesOf token entries = [] ∨
      ∃ entry, entriesOf token entries = [entry] ∧ entry.token = token := by
  have atMostOne : (entriesOf token entries).length ≤ 1 := by
    have counted := List.nodup_iff_count_le_one.mp distinct token
    rwa [← length_linesOf, linesOf, List.length_map] at counted
  cases own : entriesOf token entries with
  | nil => exact Or.inl rfl
  | cons entry rest =>
    have listed : entry ∈ entriesOf token entries := own ▸ List.mem_cons_self
    have alone : rest = [] := by
      rw [own, List.length_cons] at atMostOne
      exact List.length_eq_zero_iff.mp (by omega)
    exact Or.inr ⟨entry, by rw [alone], eq_of_beq (List.mem_filter.mp listed).2⟩

/-- A fresh token that occurs once leaves the line of its decisive entry. -/
theorem paired_append_surplus_of_nodup (distinct : (fresh.map Entry.token).Nodup)
    (existing : List Entry) (token : String) :
    paired token existing fresh ++ surplus token fresh existing =
      (entriesOf token fresh).map fun new => (decisive existing new).message := by
  rcases entriesOf_of_nodup distinct token with none | ⟨new, own, rfl⟩
  · simp [paired, surplus, linesOf, none]
  · rw [own, List.map_singleton, decisive_eq_head?]
    cases reviewed : entriesOf new.token existing with
    | nil => simp [paired, surplus, linesOf, own, reviewed]
    | cons old rest => simp [paired, surplus, linesOf, own, reviewed]

/-- The whole of a merge holds one line for every fresh token, that of its decisive entry. -/
theorem whole_merge {existing fresh : List Entry} (distinct : (fresh.map Entry.token).Nodup) :
    (merge existing fresh).whole =
      sorted ((fresh.map (decisive existing)).map Entry.message) := by
  have grouped := List.flatMap_append_perm (tokensOf existing fresh)
    (fun token => paired token existing fresh) (fun token => surplus token fresh existing)
  have each := (perm_flatMap_filter_key (nodup_tokensOf existing fresh)
    (token_mem_tokensOf_right existing)).map fun new => (decisive existing new).message
  simp only [paired_append_surplus_of_nodup distinct existing] at grouped
  rw [List.map_flatMap] at each
  rw [List.map_map]
  exact whole_merge_eq_sorted
    ((whole_merge_perm existing fresh).trans (grouped.trans each))

/-- Whether no entry of a list has the token of this one. -/
def Entry.isMissingIn (others : List Entry) (entry : Entry) : Bool :=
  !(others.map Entry.token).contains entry.token

/-- An entry is missing among others exactly when none of them has its token. -/
theorem Entry.isMissingIn_iff {others : List Entry} {entry : Entry} :
    entry.isMissingIn others = true ↔ ∀ other ∈ others, entry.token ≠ other.token := by
  rw [isMissingIn, Bool.not_eq_true', ← Bool.not_eq_true, List.contains_iff_mem, List.mem_map]
  constructor
  · intro missing other listed same
    exact missing ⟨other, listed, same.symm⟩
  · rintro apart ⟨other, listed, same⟩
    exact apart other listed same.symm

/-- An entry is missing exactly where its token has no entries, which ties the two ways of
asking. -/
theorem Entry.isMissingIn_iff_entriesOf {others : List Entry} {entry : Entry} :
    entry.isMissingIn others = true ↔ entriesOf entry.token others = [] := by
  rw [isMissingIn_iff, entriesOf, List.filter_eq_nil_iff]
  simp only [beq_iff_eq, ne_eq]
  exact forall₂_congr fun _ _ => not_congr eq_comm

/-- The line of an entry behind a sign. -/
def Entry.signedLine (sign : Char) (entry : Entry) : String :=
  String.ofList [sign, ' '] ++ entry.message

/-- What two lists of entries differ in: the entries of the first that the second is missing, and
the other way round, each with its sign and its line. -/
def differences (existing fresh : List Entry) : List (Char × String) :=
  (existing.filter (Entry.isMissingIn fresh)).map (fun entry => ('-', entry.message)) ++
    (fresh.filter (Entry.isMissingIn existing)).map fun entry => ('+', entry.message)

/-- A token that occurs once has a line without a partner exactly when the others are missing it. -/
theorem surplus_of_nodup {entries : List Entry} (distinct : (entries.map Entry.token).Nodup)
    (others : List Entry) (token : String) :
    surplus token entries others = linesOf token (entries.filter (Entry.isMissingIn others)) := by
  have swapped : entriesOf token (entries.filter (Entry.isMissingIn others)) =
      (entriesOf token entries).filter (Entry.isMissingIn others) := List.filter_comm _ _ _
  rw [surplus, linesOf, linesOf, linesOf, swapped]
  rcases entriesOf_of_nodup distinct token with none | ⟨entry, own, rfl⟩
  · rw [none, List.map_nil, List.drop_nil, List.filter_nil, List.map_nil]
  · rw [own]
    cases partners : entriesOf entry.token others with
    | nil =>
      have missing := Entry.isMissingIn_iff_entriesOf.mpr partners
      simp [missing]
    | cons other rest =>
      have held : ¬ entry.isMissingIn others = true := by
        rw [Entry.isMissingIn_iff_entriesOf, partners]
        exact List.cons_ne_nil other rest
      simp [held]

/-- Of distinct tokens, the lines without a partner are those of the entries that the others are
missing. -/
theorem flatMap_surplus_perm {entries : List Entry} {tokens : List String}
    (distinctTokens : tokens.Nodup) (covered : ∀ entry ∈ entries, entry.token ∈ tokens)
    (distinct : (entries.map Entry.token).Nodup) (others : List Entry) :
    (tokens.flatMap fun token => surplus token entries others).Perm
      ((entries.filter (Entry.isMissingIn others)).map Entry.message) := by
  simp only [surplus_of_nodup distinct]
  exact flatMap_linesOf_perm distinctTokens fun entry picked =>
    covered entry (List.mem_of_mem_filter picked)

/-- A walk over distinct tokens tells of what the two lists differ in, and of nothing else. -/
theorem signed_sorted_perm_differences (distinctOld : (existing.map Entry.token).Nodup)
    (distinctNew : (fresh.map Entry.token).Nodup) :
    ((align (sortBy Entry.token existing) (sortBy Entry.token fresh)).filterMap
      Change.signed?).Perm (differences existing fresh) := by
  have tokens := nodup_tokensOf existing fresh
  have removed := (flatMap_surplus_perm tokens (token_mem_tokensOf_left fresh) distinctOld
    fresh).map fun line => ('-', line)
  have added := (flatMap_surplus_perm tokens (token_mem_tokensOf_right existing) distinctNew
    existing).map fun line => ('+', line)
  rw [List.map_map] at removed added
  exact (signed_sorted_perm existing fresh).trans (removed.append added)

/-- The difference of a merge of distinct tokens has one line for every entry that one side is
missing, and no other line. -/
theorem diff_merge {existing fresh : List Entry} (distinctOld : (existing.map Entry.token).Nodup)
    (distinctNew : (fresh.map Entry.token).Nodup) :
    (merge existing fresh).diff.Perm
      ((existing.filter (Entry.isMissingIn fresh)).map (Entry.signedLine '-') ++
        (fresh.filter (Entry.isMissingIn existing)).map (Entry.signedLine '+')) := by
  have written := diff_merge_perm_of_signed (signed_sorted_perm_differences distinctOld distinctNew)
  rw [differences, List.map_append, List.map_map, List.map_map] at written
  exact written

end PropertyMangling.TokenFile
