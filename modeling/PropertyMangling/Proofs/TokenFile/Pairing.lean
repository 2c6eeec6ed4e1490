import Mathlib.Data.List.Dedup
import Mathlib.Data.List.Permutation
import PropertyMangling.Proofs.Repetition
import PropertyMangling.Proofs.Text.Sorting
import PropertyMangling.TokenFile.Merge
/-!
# How a merge pairs lines

Each token is merged for itself. Its reviewed lines and its fresh lines are
paired from the front, and a pair leaves the reviewed line; reviewed lines
without a partner are removed, fresh ones without a partner are added. So no line
is lost or doubled, however often a token occurs on either side, and a merge is a
balance: what was there and what was added is what is there and what was removed.

The walk knows only the tokens it stands at. That it pairs the lines of one
token as said is shown along the walk, for one token at a time: a token that is
passed on one side comes before everything that is left on the other side.
-/
namespace PropertyMangling.TokenFile

open Text

/-- The entries of one token, in their order. -/
def entriesOf (token : String) (entries : List Entry) : List Entry :=
  entries.filter fun entry => entry.token == token

/-- The lines of one token, in their order. -/
def linesOf (token : String) (entries : List Entry) : List String :=
  (entriesOf token entries).map Entry.message

/-- The lines of a token that have a partner among the others, paired from the front. -/
def paired (token : String) (entries others : List Entry) : List String :=
  (linesOf token entries).take (linesOf token others).length

/-- The lines of a token that are left without a partner among the others. -/
def surplus (token : String) (entries others : List Entry) : List String :=
  (linesOf token entries).drop (linesOf token others).length

/-- The tokens of both sides, each once. -/
def tokensOf (existing fresh : List Entry) : List String :=
  ((existing ++ fresh).map Entry.token).dedup

/-- The reviewed lines that a merge keeps, token by token. -/
def keptLines (existing fresh : List Entry) : List String :=
  (tokensOf existing fresh).flatMap fun token => paired token existing fresh

/-- The reviewed lines that a merge removes, token by token. -/
def removedLines (existing fresh : List Entry) : List String :=
  (tokensOf existing fresh).flatMap fun token => surplus token existing fresh

/-- The fresh lines that a merge adds, token by token. -/
def addedLines (existing fresh : List Entry) : List String :=
  (tokensOf existing fresh).flatMap fun token => surplus token fresh existing

/-- A line of a difference without its sign. -/
def withoutSign (line : String) : String := String.ofList (line.toList.drop 2)

/-- The token that a change is about. -/
def Change.token : Change → String
  | kept entry => entry.token
  | added entry => entry.token
  | removed entry => entry.token

/-- What becomes of the entries of one token: pairs from the front keep the existing entry, and what
is left on either side is removed or added. -/
def pairOff (existing fresh : List Entry) : List Change :=
  (existing.take fresh.length).map .kept ++ (existing.drop fresh.length).map .removed ++
    (fresh.drop existing.length).map .added

variable {existing fresh : List Entry} {token : String}

/-- Entries that are kept all stand in the new file, in their order. -/
@[simp] theorem filterMap_current?_kept (entries : List Entry) :
    (entries.map Change.kept).filterMap Change.current? = entries.map Entry.message := by
  rw [List.filterMap_map, ← List.filterMap_eq_map]
  rfl

/-- Entries that are added all stand in the new file, in their order. -/
@[simp] theorem filterMap_current?_added (entries : List Entry) :
    (entries.map Change.added).filterMap Change.current? = entries.map Entry.message := by
  rw [List.filterMap_map, ← List.filterMap_eq_map]
  rfl

/-- Entries that are removed leave no line in the new file. -/
@[simp] theorem filterMap_current?_removed (entries : List Entry) :
    (entries.map Change.removed).filterMap Change.current? = [] := by
  simp [Change.current?]

/-- Entries that are kept do not show in the difference of the files. -/
@[simp] theorem filterMap_signed?_kept (entries : List Entry) :
    (entries.map Change.kept).filterMap Change.signed? = [] := by
  simp [Change.signed?]

/-- Entries that are added show in the difference with a plus sign. -/
@[simp] theorem filterMap_signed?_added (entries : List Entry) :
    (entries.map Change.added).filterMap Change.signed? =
      entries.map fun entry => ('+', entry.message) := by
  rw [List.filterMap_map, ← List.filterMap_eq_map]
  rfl

/-- Entries that are removed show in the difference with a minus sign. -/
@[simp] theorem filterMap_signed?_removed (entries : List Entry) :
    (entries.map Change.removed).filterMap Change.signed? =
      entries.map fun entry => ('-', entry.message) := by
  rw [List.filterMap_map, ← List.filterMap_eq_map]
  rfl

/-- Where the old file has no entries left, all entries of the new one are added. -/
theorem align_nil_left (fresh : List Entry) : align [] fresh = fresh.map .added := by
  cases fresh <;> simp [align]

/-- Where the new file has no entries left, all entries of the old one are removed. -/
theorem align_nil_right (existing : List Entry) : align existing [] = existing.map .removed := by
  cases existing <;> simp [align]

/-- Where a token has no old lines left, its other new lines are added. -/
theorem pairOff_nil_left (fresh : List Entry) : pairOff [] fresh = fresh.map .added := by
  simp [pairOff]

/-- Where a token has no new lines left, its other old lines are removed. -/
theorem pairOff_nil_right (existing : List Entry) : pairOff existing [] = existing.map .removed := by
  simp [pairOff]

/-- An old line of a token and a new one make a pair, and the old one is kept as it was
written. -/
theorem pairOff_cons (old new : Entry) (rest later : List Entry) :
    pairOff (old :: rest) (new :: later) = .kept old :: pairOff rest later := by
  simp [pairOff]

/-- An entry with the token comes first among the entries of the token. -/
theorem entriesOf_cons_of_eq {entry : Entry} (same : entry.token = token) (rest : List Entry) :
    entriesOf token (entry :: rest) = entry :: entriesOf token rest :=
  List.filter_cons_of_pos (by simpa using same)

/-- An entry with another token adds nothing to the entries of the token. -/
theorem entriesOf_cons_of_ne {entry : Entry} (other : entry.token ≠ token) (rest : List Entry) :
    entriesOf token (entry :: rest) = entriesOf token rest :=
  List.filter_cons_of_neg (by simpa using other)

/-- A token that no entry has, has no entries of its own. -/
theorem entriesOf_eq_nil {entries : List Entry} (absent : ∀ entry ∈ entries, entry.token ≠ token) :
    entriesOf token entries = [] := by
  apply List.filter_eq_nil_iff.mpr
  intro entry listed same
  exact absent entry listed (eq_of_beq same)

/-- Sorting by token leaves the entries of one token in their order. -/
theorem entriesOf_sortBy (token : String) (entries : List Entry) :
    entriesOf token (sortBy Entry.token entries) = entriesOf token entries :=
  filter_sortBy_key Entry.token entries token

/-- A token before the first entry of an ascending list has no entries in it. -/
theorem entriesOf_eq_nil_of_before {first : Entry} {rest : List Entry}
    (ascends : (first :: rest).Pairwise fun a b => a.token ≤ b.token)
    (before : token < first.token) : entriesOf token (first :: rest) = [] := by
  apply entriesOf_eq_nil
  intro entry listed same
  have reached : first.token ≤ entry.token := by
    rcases List.mem_cons.mp listed with rfl | behind
    · exact String.le_refl entry.token
    · exact (List.pairwise_cons.mp ascends).1 entry behind
  exact String.not_le.mpr before (same ▸ reached)

/-- A walk does with each token what pairing off its entries does.

Induct along the walk. Where it passes a token on one side alone, that token
comes before all that is left on the other side, so no partner is left for it. -/
theorem filter_align (ascends : existing.Pairwise fun a b => a.token ≤ b.token)
    (freshAscends : fresh.Pairwise fun a b => a.token ≤ b.token) (token : String) :
    (align existing fresh).filter (fun change => change.token == token) =
      pairOff (entriesOf token existing) (entriesOf token fresh) := by
  induction existing, fresh using align.induct with
  | case1 fresh =>
    rw [align_nil_left, List.filter_map, entriesOf, List.filter_nil, pairOff_nil_left]
    rfl
  | case2 existing some =>
    rw [align_nil_right, List.filter_map, entriesOf, entriesOf, List.filter_nil, pairOff_nil_right]
    rfl
  | case3 old rest new later same inductionHypothesis =>
    have walked := inductionHypothesis ascends.of_cons freshAscends.of_cons
    rw [align, if_pos same]
    by_cases own : old.token = token
    · rw [List.filter_cons_of_pos (by simpa [Change.token] using own), walked,
        entriesOf_cons_of_eq own, entriesOf_cons_of_eq (same ▸ own), pairOff_cons]
    · rw [List.filter_cons_of_neg (by simpa [Change.token] using own), walked,
        entriesOf_cons_of_ne own, entriesOf_cons_of_ne (same ▸ own)]
  | case4 old rest new later other before inductionHypothesis =>
    have walked := inductionHypothesis ascends freshAscends.of_cons
    rw [align, if_neg other, if_pos before]
    by_cases own : new.token = token
    · have none : entriesOf token (old :: rest) = [] :=
        entriesOf_eq_nil_of_before ascends (own ▸ before)
      rw [List.filter_cons_of_pos (by simpa [Change.token] using own), walked, none,
        pairOff_nil_left, entriesOf_cons_of_eq own, pairOff_nil_left, List.map_cons]
    · rw [List.filter_cons_of_neg (by simpa [Change.token] using own), walked,
        entriesOf_cons_of_ne own]
  | case5 old rest new later other behind inductionHypothesis =>
    have walked := inductionHypothesis ascends.of_cons freshAscends
    have before : old.token < new.token := by
      apply String.not_le.mp
      intro below
      exact other (String.le_antisymm (String.not_lt.mp behind) below)
    rw [align, if_neg other, if_neg behind]
    by_cases own : old.token = token
    · have none : entriesOf token (new :: later) = [] :=
        entriesOf_eq_nil_of_before freshAscends (own ▸ before)
      rw [List.filter_cons_of_pos (by simpa [Change.token] using own), walked, none,
        pairOff_nil_right, entriesOf_cons_of_eq own, pairOff_nil_right, List.map_cons]
    · rw [List.filter_cons_of_neg (by simpa [Change.token] using own), walked,
        entriesOf_cons_of_ne own]

/-- The tokens of both sides are those of their entries, and no others. -/
theorem mem_tokensOf_iff :
    token ∈ tokensOf existing fresh ↔ ∃ entry, (entry ∈ existing ∨ entry ∈ fresh) ∧
      entry.token = token := by
  simp only [tokensOf, List.mem_dedup, List.mem_map, List.mem_append]

/-- Each token of the two sides is listed once, so each entry belongs to one run only. -/
theorem nodup_tokensOf (existing fresh : List Entry) : (tokensOf existing fresh).Nodup :=
  List.nodup_dedup _

/-- Every entry of the old side has its token among those of both sides. -/
theorem token_mem_tokensOf_left (fresh : List Entry) :
    ∀ entry ∈ existing, entry.token ∈ tokensOf existing fresh :=
  fun entry listed => mem_tokensOf_iff.mpr ⟨entry, Or.inl listed, rfl⟩

/-- Every entry of the new side has its token among those of both sides. -/
theorem token_mem_tokensOf_right (existing : List Entry) :
    ∀ entry ∈ fresh, entry.token ∈ tokensOf existing fresh :=
  fun entry listed => mem_tokensOf_iff.mpr ⟨entry, Or.inr listed, rfl⟩

/-- The changes between two sorted sides are, token by token, those of the entries paired off. -/
theorem align_sorted_perm (existing fresh : List Entry) :
    (align (sortBy Entry.token existing) (sortBy Entry.token fresh)).Perm
      ((tokensOf existing fresh).flatMap fun token =>
        pairOff (entriesOf token existing) (entriesOf token fresh)) := by
  let changes := align (sortBy Entry.token existing) (sortBy Entry.token fresh)
  have ofToken (token : String) : changes.filter (fun change => change.token == token) =
      pairOff (entriesOf token existing) (entriesOf token fresh) := by
    rw [filter_align (sortBy_ascends Entry.token existing) (sortBy_ascends Entry.token fresh),
      entriesOf_sortBy, entriesOf_sortBy]
  have covered : ∀ change ∈ changes, change.token ∈ tokensOf existing fresh := by
    intro change told
    by_contra absent
    have noneOld : entriesOf change.token existing = [] := by
      apply entriesOf_eq_nil
      intro entry listed same
      exact absent (same ▸ token_mem_tokensOf_left fresh entry listed)
    have noneNew : entriesOf change.token fresh = [] := by
      apply entriesOf_eq_nil
      intro entry listed same
      exact absent (same ▸ token_mem_tokensOf_right existing entry listed)
    have own : change ∈ changes.filter fun other => other.token == change.token :=
      List.mem_filter.mpr ⟨told, BEq.rfl⟩
    rw [ofToken, noneOld, noneNew] at own
    exact absurd own List.not_mem_nil
  have grouped := perm_flatMap_filter_key (nodup_tokensOf existing fresh) covered
  simp only [ofToken] at grouped
  exact grouped.symm

/-- Of the entries of a token, the pairs and the fresh ones without a partner leave a line. -/
theorem current_pairOff (token : String) (existing fresh : List Entry) :
    (pairOff (entriesOf token existing) (entriesOf token fresh)).filterMap Change.current? =
      paired token existing fresh ++ surplus token fresh existing := by
  simp only [pairOff, List.filterMap_append, filterMap_current?_kept, filterMap_current?_removed,
    filterMap_current?_added, List.append_nil]
  simp only [paired, surplus, linesOf, List.map_take, List.map_drop, List.length_map]

/-- Of the entries of a token, those without a partner are told, each with the sign of its side. -/
theorem signed_pairOff (token : String) (existing fresh : List Entry) :
    (pairOff (entriesOf token existing) (entriesOf token fresh)).filterMap Change.signed? =
      (surplus token existing fresh).map (fun line => ('-', line)) ++
        (surplus token fresh existing).map fun line => ('+', line) := by
  simp only [pairOff, List.filterMap_append, filterMap_signed?_kept, filterMap_signed?_removed,
    filterMap_signed?_added, List.nil_append]
  simp only [surplus, linesOf, List.map_drop, List.length_map, List.map_map, Function.comp_def]

/-- The whole of a merge holds the lines that are kept and those that are added. -/
theorem whole_merge_perm (existing fresh : List Entry) :
    (merge existing fresh).whole.Perm (keptLines existing fresh ++ addedLines existing fresh) := by
  have left := (align_sorted_perm existing fresh).filterMap Change.current?
  rw [List.filterMap_flatMap] at left
  simp only [current_pairOff] at left
  have grouped := List.flatMap_append_perm (tokensOf existing fresh)
    (fun token => paired token existing fresh) (fun token => surplus token fresh existing)
  exact (sortBy_perm id _).trans (left.trans grouped.symm)

/-- The walk tells of the lines that are removed and of those that are added, and of no others. -/
theorem signed_sorted_perm (existing fresh : List Entry) :
    ((align (sortBy Entry.token existing) (sortBy Entry.token fresh)).filterMap
      Change.signed?).Perm ((removedLines existing fresh).map (fun line => ('-', line)) ++
        (addedLines existing fresh).map fun line => ('+', line)) := by
  have told := (align_sorted_perm existing fresh).filterMap Change.signed?
  rw [List.filterMap_flatMap] at told
  simp only [signed_pairOff] at told
  have grouped := List.flatMap_append_perm (tokensOf existing fresh)
    (fun token => (surplus token existing fresh).map fun line => ('-', line))
    (fun token => (surplus token fresh existing).map fun line => ('+', line))
  rw [← List.map_flatMap, ← List.map_flatMap] at grouped
  exact told.trans grouped.symm

/-- The difference of a merge is what the walk tells of, each line behind its sign. -/
theorem diff_merge_perm_of_signed {told : List (Char × String)}
    (same : ((align (sortBy Entry.token existing) (sortBy Entry.token fresh)).filterMap
      Change.signed?).Perm told) :
    (merge existing fresh).diff.Perm
      (told.map fun (sign, line) => String.ofList [sign, ' '] ++ line) :=
  ((sortBy_perm Prod.snd _).trans same).map _

/-- The difference of a merge holds the lines that are removed and those that are added, each behind
its sign. -/
theorem diff_merge_perm (existing fresh : List Entry) :
    (merge existing fresh).diff.Perm ((removedLines existing fresh).map ("- " ++ ·) ++
      (addedLines existing fresh).map ("+ " ++ ·)) := by
  have written := diff_merge_perm_of_signed (signed_sorted_perm existing fresh)
  rw [List.map_append, List.map_map, List.map_map] at written
  exact written

/-- The difference of a merge ascends in the texts behind the signs. -/
theorem diff_merge_ascends (existing fresh : List Entry) :
    (merge existing fresh).diff.Pairwise fun a b => withoutSign a ≤ withoutSign b := by
  have unsigned (sign : Char) (line : String) :
      withoutSign (String.ofList [sign, ' '] ++ line) = line := by
    simp [withoutSign]
  rw [merge, List.pairwise_map]
  simp only [unsigned]
  exact sortBy_ascends Prod.snd _

/-- The lines of each token, token by token, are all the lines. -/
theorem flatMap_linesOf_perm {entries : List Entry} {tokens : List String}
    (distinct : tokens.Nodup) (covered : ∀ entry ∈ entries, entry.token ∈ tokens) :
    (tokens.flatMap fun token => linesOf token entries).Perm (entries.map Entry.message) := by
  have all := (perm_flatMap_filter_key distinct covered).map Entry.message
  rw [List.map_flatMap] at all
  exact all

/-- The lines of one side are those that find a partner on the other and those that are left. -/
theorem paired_append_surplus_perm {entries : List Entry} {tokens : List String}
    (distinct : tokens.Nodup) (covered : ∀ entry ∈ entries, entry.token ∈ tokens)
    (others : List Entry) :
    ((tokens.flatMap fun token => paired token entries others) ++
      tokens.flatMap fun token => surplus token entries others).Perm
        (entries.map Entry.message) := by
  have grouped := List.flatMap_append_perm tokens (fun token => paired token entries others)
    (fun token => surplus token entries others)
  have together (token : String) :
      paired token entries others ++ surplus token entries others = linesOf token entries :=
    List.take_append_drop _ _
  simp only [together] at grouped
  exact grouped.trans (flatMap_linesOf_perm distinct covered)

/-- As many lines of a token find a partner on one side as on the other. -/
theorem length_paired (token : String) (entries others : List Entry) :
    (paired token entries others).length = (paired token others entries).length := by
  simp only [paired, List.length_take]
  omega

/-- What is there after a merge and what was removed is what was there and what was added. -/
theorem merge_balance (existing fresh : List Entry) :
    (existing.map Entry.message ++ addedLines existing fresh).Perm
      ((merge existing fresh).whole ++ removedLines existing fresh) := by
  have reviewed : (keptLines existing fresh ++ removedLines existing fresh).Perm
      (existing.map Entry.message) :=
    paired_append_surplus_perm (nodup_tokensOf existing fresh) (token_mem_tokensOf_left fresh) fresh
  have split : (existing.map Entry.message ++ addedLines existing fresh).Perm
      ((keptLines existing fresh ++ removedLines existing fresh) ++ addedLines existing fresh) :=
    reviewed.symm.append_right _
  have regrouped : ((keptLines existing fresh ++ removedLines existing fresh) ++
      addedLines existing fresh).Perm
        ((keptLines existing fresh ++ addedLines existing fresh) ++
          removedLines existing fresh) := by
    rw [List.append_assoc, List.append_assoc]
    exact List.perm_append_comm.append_left _
  exact (split.trans regrouped).trans ((whole_merge_perm existing fresh).symm.append_right _)

/-- A merge has as many lines as there are fresh ones. -/
theorem length_whole_merge (existing fresh : List Entry) :
    (merge existing fresh).whole.length = fresh.length := by
  have all := (paired_append_surplus_perm (nodup_tokensOf existing fresh)
    (token_mem_tokensOf_right existing) existing).length_eq
  have partners : ((tokensOf existing fresh).flatMap fun token =>
      paired token fresh existing).length = (keptLines existing fresh).length := by
    simp only [keptLines, List.length_flatMap, length_paired _ fresh existing]
  rw [List.length_append, partners, List.length_map] at all
  rw [(whole_merge_perm existing fresh).length_eq, List.length_append]
  exact all

/-- A merge pairs the lines of each token from the front, and loses and doubles none.

For every token the whole has the first reviewed lines, as many as there are
fresh ones, and then the fresh lines that have no reviewed partner. The
difference has the reviewed lines without a partner behind minus signs and those
fresh lines behind plus signs. Nothing else is in either list. The whole ascends,
and so does the difference but for its signs. -/
theorem merge_pairs_lines (existing fresh : List Entry) :
    (merge existing fresh).whole.Perm (keptLines existing fresh ++ addedLines existing fresh) ∧
    (merge existing fresh).diff.Perm ((removedLines existing fresh).map ("- " ++ ·) ++
      (addedLines existing fresh).map ("+ " ++ ·)) ∧
    (merge existing fresh).whole.Pairwise (· ≤ ·) ∧
    ((merge existing fresh).diff.Pairwise fun a b => withoutSign a ≤ withoutSign b) ∧
    (merge existing fresh).whole.length = fresh.length ∧
    (existing.map Entry.message ++ addedLines existing fresh).Perm
      ((merge existing fresh).whole ++ removedLines existing fresh) :=
  ⟨whole_merge_perm existing fresh, diff_merge_perm existing fresh, sorted_ascends _,
    diff_merge_ascends existing fresh, length_whole_merge existing fresh,
    merge_balance existing fresh⟩

/-- A token three times in the file and twice in the fresh list, and another one the other way
round. -/
example : merge
    [⟨"foo", "foo # 1"⟩, ⟨"bar", "#bar"⟩, ⟨"foo", "foo # 2"⟩, ⟨"foo", "foo # 3"⟩]
    [.eligible "bar", .eligible "foo", ⟨"bar", "bar again"⟩, .eligible "foo"] =
      ⟨["#bar", "bar again", "foo # 1", "foo # 2"], ["+ bar again", "- foo # 3"]⟩ := by cbv

/-- A merge of lists without repeated tokens does not depend on the order of either list, so a
file may be edited in any order. Both lists are sorted by token first, and distinct tokens have
one sorted order; the texts of the lines may well be equal, as they are not what is sorted by. -/
theorem merge_of_perm {otherExisting otherFresh : List Entry}
    (distinct : (existing.map Entry.token).Nodup) (distinctFresh : (fresh.map Entry.token).Nodup)
    (same : existing.Perm otherExisting) (sameFresh : fresh.Perm otherFresh) :
    merge existing fresh = merge otherExisting otherFresh := by
  have sorted : sortBy Entry.token existing = sortBy Entry.token otherExisting :=
    sortBy_eq_of_perm distinct same
  have sortedFresh : sortBy Entry.token fresh = sortBy Entry.token otherFresh :=
    sortBy_eq_of_perm distinctFresh sameFresh
  rw [merge, merge, sorted, sortedFresh]

/-- Two removed lines with the texts of two added ones, whose tokens come before them in one case and
behind them in the other; both lists are turned round. -/
theorem merge_of_perm_of_ties :
    ([⟨"b", "one"⟩, ⟨"c", "two"⟩] : List Entry).Perm [⟨"c", "two"⟩, ⟨"b", "one"⟩] ∧
    ([⟨"a", "one"⟩, ⟨"d", "two"⟩] : List Entry).Perm [⟨"d", "two"⟩, ⟨"a", "one"⟩] ∧
    merge [⟨"b", "one"⟩, ⟨"c", "two"⟩] [⟨"a", "one"⟩, ⟨"d", "two"⟩] =
      ⟨["one", "two"], ["+ one", "- one", "- two", "+ two"]⟩ ∧
    merge [⟨"c", "two"⟩, ⟨"b", "one"⟩] [⟨"d", "two"⟩, ⟨"a", "one"⟩] =
      ⟨["one", "two"], ["+ one", "- one", "- two", "+ two"]⟩ := by
  have turned : ([⟨"b", "one"⟩, ⟨"c", "two"⟩] : List Entry).Perm
      [⟨"c", "two"⟩, ⟨"b", "one"⟩] := by decide
  have turnedFresh : ([⟨"a", "one"⟩, ⟨"d", "two"⟩] : List Entry).Perm
      [⟨"d", "two"⟩, ⟨"a", "one"⟩] := by decide
  have first : merge [⟨"b", "one"⟩, ⟨"c", "two"⟩] [⟨"a", "one"⟩, ⟨"d", "two"⟩] =
      ⟨["one", "two"], ["+ one", "- one", "- two", "+ two"]⟩ := by cbv
  have same := merge_of_perm (by decide) (by decide) turned turnedFresh
  exact ⟨turned, turnedFresh, first, same.symm.trans first⟩

end PropertyMangling.TokenFile
