import PropertyMangling.Proofs.Mapping.Pairs
import PropertyMangling.Proofs.Text.Sorting
import PropertyMangling.Proofs.Text.Trimming
/-!
# Entries written and read

A pair can be written as an entry when neither side is empty or has a blank at
an end and the token holds no separator. Every pair that reading an entry gives
is of this kind, and reading the entry of such a pair gives the pair back; a
name may hold separators, since the first one ends the token. So the entries of
a mapping that was read are read back to the same pairs, in token order.
-/
namespace PropertyMangling.Mapping

open Text

/-- Both sides of a pair survive being written as an entry and read again. -/
structure Writable (token name : String) : Prop where
  token_ne : token.toList ≠ []
  token_firm : HasFirmEnds token.toList
  token_whole : separator ∉ token.toList
  name_ne : name.toList ≠ []
  name_firm : HasFirmEnds name.toList

/-- Every pair of the mapping can be written. -/
def IsWritable (mapping : Mapping) : Prop := ∀ pair ∈ mapping.pairs, Writable pair.1 pair.2

/-- A text is cut at its first separator, so a token without one comes back as it is. -/
theorem sidesOf?_append {token : List Char} (whole : separator ∉ token) (name : List Char) :
    sidesOf? (token ++ separator :: name) = some (token, name) := by
  induction token with
  | nil => simp [sidesOf?]
  | cons c rest inductionHypothesis =>
    rw [List.mem_cons, not_or] at whole
    have other : c ≠ separator := fun same => whole.1 same.symm
    simp [sidesOf?, other, inductionHypothesis whole.2]

/-- What stands before the cut holds no separator, since the cut is made at the first one. -/
theorem separator_not_mem_of_sidesOf? {entry token name : List Char}
    (cut : sidesOf? entry = some (token, name)) : separator ∉ token := by
  induction entry generalizing token with
  | nil => simp [sidesOf?] at cut
  | cons c rest inductionHypothesis =>
    unfold sidesOf? at cut
    split at cut
    · obtain ⟨rfl, rfl⟩ := Prod.mk.inj (Option.some.inj cut)
      exact List.not_mem_nil
    · next other =>
      obtain ⟨⟨before, behind⟩, cutRest, same⟩ := Option.map_eq_some_iff.mp cut
      obtain ⟨rfl, rfl⟩ := Prod.mk.inj same
      rw [List.mem_cons, not_or]
      exact ⟨fun same => other same.symm, inductionHypothesis cutRest⟩

/-- What stands before the cut and behind it is the entry but for the separator. -/
theorem eq_append_of_sidesOf? {entry token name : List Char}
    (cut : sidesOf? entry = some (token, name)) : entry = token ++ separator :: name := by
  induction entry generalizing token with
  | nil => simp [sidesOf?] at cut
  | cons c rest inductionHypothesis =>
    unfold sidesOf? at cut
    split at cut
    · next same =>
      obtain ⟨rfl, rfl⟩ := Prod.mk.inj (Option.some.inj cut)
      rw [same, List.nil_append]
    · obtain ⟨⟨before, behind⟩, cutRest, same⟩ := Option.map_eq_some_iff.mp cut
      obtain ⟨rfl, rfl⟩ := Prod.mk.inj same
      rw [inductionHypothesis cutRest, List.cons_append]

/-- A text splits at its first separator into sides that, blanks around them removed, are the token
and the name, neither of them empty. -/
def SplitsInto (entry : List Char) (token name : String) : Prop :=
  ∃ before behind : List Char, entry = before ++ separator :: behind ∧ separator ∉ before ∧
    trim before = token.toList ∧ trim behind = name.toList ∧ token ≠ "" ∧ name ≠ ""

/-- An entry is read as a pair exactly when it splits into its sides. -/
theorem parseEntry_eq_ok_iff {entry : List Char} {token name : String} :
    parseEntry entry = .ok (token, name) ↔ SplitsInto entry token name := by
  constructor
  · intro read
    unfold parseEntry at read
    split at read
    · cases read
    · next before behind cut =>
      split at read
      · cases read
      · cases read
      · next someToken someName =>
        obtain ⟨rfl, rfl⟩ := Prod.mk.inj (Except.ok.inj read)
        exact ⟨before, behind, eq_append_of_sidesOf? cut, separator_not_mem_of_sidesOf? cut,
          by simp, by simp, by simpa using someToken, by simpa using someName⟩
  · rintro ⟨before, behind, rfl, whole, token_eq, name_eq, someToken, someName⟩
    rw [parseEntry, sidesOf?_append whole]
    simp only [token_eq, name_eq]
    split
    · next none => exact absurd none (by simpa using someToken)
    · next none _ => exact absurd none (by simpa using someName)
    · simp

/-- An entry that is read gives a pair that can be written. -/
theorem writable_of_parseEntry {entry : List Char} {token name : String}
    (read : parseEntry entry = .ok (token, name)) : Writable token name := by
  obtain ⟨before, behind, _, whole, token_eq, name_eq, someToken, someName⟩ :=
    parseEntry_eq_ok_iff.mp read
  constructor
  · simpa using someToken
  · exact token_eq ▸ hasFirmEnds_trim before
  · intro inside
    exact whole (mem_of_mem_trim (token_eq ▸ inside))
  · simpa using someName
  · exact name_eq ▸ hasFirmEnds_trim behind

/-- The text of an entry is the token, the separator and the name. -/
theorem toList_entryText (token name : String) :
    (entryText token name).toList = token.toList ++ separator :: name.toList := by
  simp [entryText]

/-- The entry of a pair that can be written is read back as that pair. -/
theorem parseEntry_entryText {token name : String} (writable : Writable token name) :
    parseEntry (entryText token name).toList = .ok (token, name) := by
  rw [parseEntry_eq_ok_iff, toList_entryText]
  exact ⟨token.toList, name.toList, rfl, writable.token_whole, trim_eq_self writable.token_firm,
    trim_eq_self writable.name_firm, by simpa using writable.token_ne,
    by simpa using writable.name_ne⟩

/-- The entry of a pair that can be written is firm. -/
theorem Writable.isFirm_entryText {token name : String} (writable : Writable token name) :
    IsFirm (entryText token name).toList := by
  have joined := IsFirm.append ⟨writable.token_firm, writable.token_ne⟩
    ⟨writable.name_firm, writable.name_ne⟩ [separator]
  simpa [toList_entryText] using joined

/-- The entry of a pair that can be written adds that pair. -/
theorem insertEntry_entryText {token name : String} (writable : Writable token name)
    (mapping : Mapping) : mapping.insertEntry (entryText token name) = mapping.insert token name := by
  have firm := writable.isFirm_entryText
  unfold insertEntry
  rw [trim_eq_self firm.toHasFirmEnds]
  split
  · next none => exact absurd none firm.filled
  · rw [parseEntry_entryText writable]
    rfl

/-- Adding an entry keeps a mapping writable, as the two sides of the entry were trimmed and
cut. -/
theorem isWritable_of_insertEntry {mapping extended : Mapping} {entry : String}
    (writable : mapping.IsWritable) (added : mapping.insertEntry entry = .ok extended) :
    extended.IsWritable := by
  unfold insertEntry at added
  split at added
  · exact Except.ok.inj added ▸ writable
  · next text _ =>
    cases read : parseEntry (trim entry.toList) with
    | error fault =>
      rw [read] at added
      cases added
    | ok pair =>
      obtain ⟨token, name⟩ := pair
      rw [read] at added
      intro pair held
      rcases (mem_pairs_of_insert added).mp held with old | rfl
      · exact writable pair old
      · exact writable_of_parseEntry read

/-- A mapping that was read entry by entry can be written. The induction is on the entries. -/
theorem isWritable_of_foldlM {entries : List String} {mapping extended : Mapping}
    (writable : mapping.IsWritable) (read : entries.foldlM insertEntry mapping = .ok extended) :
    extended.IsWritable := by
  induction entries generalizing mapping with
  | nil => exact Except.ok.inj read ▸ writable
  | cons entry rest inductionHypothesis =>
    rw [List.foldlM_cons] at read
    cases added : mapping.insertEntry entry with
    | error fault =>
      rw [added] at read
      cases read
    | ok next =>
      rw [added] at read
      exact inductionHypothesis (isWritable_of_insertEntry writable added) read

/-- Every mapping that entries stand for can be written, the empty mapping being writable. -/
theorem isWritable_of_ofEntries {entries : List String} {mapping : Mapping}
    (accepted : ofEntries entries = .ok mapping) : mapping.IsWritable :=
  isWritable_of_foldlM (fun _ held => absurd held List.not_mem_nil) accepted

/-- Entries of pairs that can be written, whose sides are new and distinct, add these pairs in their
order. -/
theorem foldlM_insertEntry_entryText (pairs : List (String × String)) (mapping : Mapping)
    (writable : ∀ pair ∈ pairs, Writable pair.1 pair.2)
    (tokens : ((mapping.pairs ++ pairs).map Prod.fst).Nodup)
    (names : ((mapping.pairs ++ pairs).map Prod.snd).Nodup) :
    ∃ extended, (pairs.map fun pair => entryText pair.1 pair.2).foldlM insertEntry mapping =
        .ok extended ∧ extended.pairs = mapping.pairs ++ pairs := by
  induction pairs generalizing mapping with
  | nil => exact ⟨mapping, rfl, by simp⟩
  | cons pair rest inductionHypothesis =>
    have newToken : pair.1 ∉ mapping.tokens := by
      intro held
      rw [List.map_append, List.nodup_append] at tokens
      exact tokens.2.2 pair.1 held pair.1 (by simp) rfl
    have newName : pair.2 ∉ mapping.names := by
      intro held
      rw [List.map_append, List.nodup_append] at names
      exact names.2.2 pair.2 held pair.2 (by simp) rfl
    obtain ⟨next, inserted, extension⟩ := insert_new newToken newName
    have regrouped : next.pairs ++ rest = mapping.pairs ++ pair :: rest := by
      rw [extension, List.append_assoc, List.singleton_append]
    obtain ⟨extended, read, whole⟩ := inductionHypothesis next
      (fun other later => writable other (List.mem_cons_of_mem pair later))
      (regrouped ▸ tokens) (regrouped ▸ names)
    refine ⟨extended, ?_, whole.trans regrouped⟩
    rw [List.map_cons, List.foldlM_cons,
      insertEntry_entryText (writable pair List.mem_cons_self), inserted]
    exact read

/-- The pairs of a mapping in token order. -/
def sortedPairs (mapping : Mapping) : List (String × String) := sortBy Prod.fst mapping.pairs

/-- The pairs that are written are those of the mapping, in another order. -/
theorem sortedPairs_perm (mapping : Mapping) : mapping.sortedPairs.Perm mapping.pairs :=
  sortBy_perm Prod.fst mapping.pairs

/-- The entries are the texts of the sorted pairs, one for each. -/
theorem entries_eq_map (mapping : Mapping) :
    mapping.entries = mapping.sortedPairs.map fun pair => entryText pair.1 pair.2 := rfl

/-- The written pairs ascend strictly in their tokens, since no token is held twice. -/
theorem sortedPairs_ascend (mapping : Mapping) :
    mapping.sortedPairs.Pairwise fun first second => first.1 < second.1 :=
  sortBy_ascends_strictly mapping.tokens_nodup

/-- The entries of a mapping that can be written are read back to its pairs, in token order. -/
theorem ofEntries_entries {mapping : Mapping} (writable : mapping.IsWritable) :
    ∃ again, ofEntries mapping.entries = .ok again ∧ again.pairs = mapping.sortedPairs := by
  have same := mapping.sortedPairs_perm
  obtain ⟨again, read, pairs⟩ := foldlM_insertEntry_entryText mapping.sortedPairs empty
    (fun pair held => writable pair (same.mem_iff.mp held))
    ((same.map Prod.fst).nodup_iff.mpr mapping.tokens_nodup)
    ((same.map Prod.snd).nodup_iff.mpr mapping.names_nodup)
  exact ⟨again, read, pairs⟩

/-- Mappings with the same pairs have the same entries, wherever the pairs stand. -/
theorem entries_eq_of_perm {first second : Mapping} (same : first.pairs.Perm second.pairs) :
    first.entries = second.entries := by
  rw [entries_eq_map, entries_eq_map, sortedPairs, sortedPairs,
    sortBy_eq_of_perm first.tokens_nodup same]

end PropertyMangling.Mapping
