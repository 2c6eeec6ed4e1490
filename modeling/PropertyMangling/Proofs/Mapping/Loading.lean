import PropertyMangling.Proofs.Mapping.Entries
/-!
# Which entries are accepted

Entries are loaded one by one, and the first that is malformed or conflicts with
an earlier one stops the loading. Whether there is such an entry does not depend
on their order: they are accepted exactly when each of them can be read and no
two of their pairs share just one side. The mapping then holds these pairs and no
others. So entries in another order are accepted alike and give the same pairs;
only the fault of refused entries may differ.
-/
namespace PropertyMangling.Mapping

open Text

variable {mapping extended : Mapping} {entries : List String} {entry : String}

/-- Two pairs that share one side share both. -/
def Agree (first second : String × String) : Prop := first.1 = second.1 ↔ first.2 = second.2

/-- One of the entries, blanks around it removed, is read as the pair. -/
def IsEntered (entries : List String) (pair : String × String) : Prop :=
  ∃ entry ∈ entries, trim entry.toList ≠ [] ∧ parseEntry (trim entry.toList) = .ok pair

/-- Every entry that is not blank can be read. -/
def AreReadable (entries : List String) : Prop :=
  ∀ entry ∈ entries, trim entry.toList ≠ [] → ∃ pair, parseEntry (trim entry.toList) = .ok pair

/-- The pairs of a mapping agree with each other, as neither a token nor a name is held twice. -/
theorem agree_of_mem {first second : String × String} (held : first ∈ mapping.pairs)
    (alsoHeld : second ∈ mapping.pairs) : Agree first second := by
  constructor
  · intro sameToken
    exact congrArg Prod.snd (List.inj_on_of_nodup_map mapping.tokens_nodup held alsoHeld sameToken)
  · intro sameName
    exact congrArg Prod.fst (List.inj_on_of_nodup_map mapping.names_nodup held alsoHeld sameName)

/-- A pair that agrees with every pair of a mapping is inserted. -/
theorem exists_insert {token name : String}
    (agrees : ∀ pair ∈ mapping.pairs, Agree pair (token, name)) :
    ∃ extended, mapping.insert token name = .ok extended := by
  by_cases known : token ∈ mapping.tokens
  · obtain ⟨pair, held, rfl⟩ := List.mem_map.mp known
    have sameName : pair.2 = name := (agrees pair held).mp rfl
    exact ⟨mapping, insert_known (get?_eq_some_iff.mpr (sameName ▸ held))⟩
  · have newName : name ∉ mapping.names := by
      intro used
      obtain ⟨pair, held, same⟩ := List.mem_map.mp used
      exact known (List.mem_map.mpr ⟨pair, held, (agrees pair held).mpr same⟩)
    obtain ⟨extended, inserted, _⟩ := insert_new known newName
    exact ⟨extended, inserted⟩

/-- A blank entry adds nothing and is no fault. -/
theorem insertEntry_blank (blank : trim entry.toList = []) (mapping : Mapping) :
    mapping.insertEntry entry = .ok mapping := by
  rw [insertEntry, blank]

/-- An entry that is not blank is read first, and its pair is inserted then. -/
theorem insertEntry_filled (filled : trim entry.toList ≠ []) (mapping : Mapping) :
    mapping.insertEntry entry =
      (parseEntry (trim entry.toList)).bind fun pair => mapping.insert pair.1 pair.2 := by
  unfold insertEntry
  split
  · next blank => exact absurd blank filled
  · rfl

/-- What is entered by the first entry or by the others is entered by all of them. -/
theorem isEntered_cons {pair : String × String} :
    IsEntered (entry :: entries) pair ↔
      (trim entry.toList ≠ [] ∧ parseEntry (trim entry.toList) = .ok pair) ∨
        IsEntered entries pair := by
  simp only [IsEntered, List.mem_cons, exists_eq_or_imp]

/-- One entry that is added can be read, and adds its pair. -/
theorem insertEntry_exact (added : mapping.insertEntry entry = .ok extended) :
    (trim entry.toList ≠ [] → ∃ pair, parseEntry (trim entry.toList) = .ok pair) ∧
      ∀ pair, pair ∈ extended.pairs ↔ pair ∈ mapping.pairs ∨
        (trim entry.toList ≠ [] ∧ parseEntry (trim entry.toList) = .ok pair) := by
  by_cases blank : trim entry.toList = []
  · rw [insertEntry_blank blank] at added
    rw [← Except.ok.inj added]
    simp [blank]
  · rw [insertEntry_filled blank] at added
    cases read : parseEntry (trim entry.toList) with
    | error fault =>
      rw [read] at added
      cases added
    | ok own =>
      rw [read] at added
      refine ⟨fun _ => ⟨own, rfl⟩, fun pair => ?_⟩
      rw [mem_pairs_of_insert added, Except.ok.injEq, and_iff_right blank, eq_comm]

/-- Entries that are loaded into a mapping can all be read, and add their pairs to it. -/
theorem foldlM_insertEntry_exact (loaded : entries.foldlM insertEntry mapping = .ok extended) :
    AreReadable entries ∧
      ∀ pair, pair ∈ extended.pairs ↔ pair ∈ mapping.pairs ∨ IsEntered entries pair := by
  induction entries generalizing mapping with
  | nil =>
    rw [← Except.ok.inj loaded]
    simp [AreReadable, IsEntered]
  | cons entry rest inductionHypothesis =>
    rw [List.foldlM_cons] at loaded
    cases added : mapping.insertEntry entry with
    | error fault =>
      rw [added] at loaded
      cases loaded
    | ok next =>
      rw [added] at loaded
      obtain ⟨readFirst, addsFirst⟩ := insertEntry_exact added
      obtain ⟨readRest, addsRest⟩ := inductionHypothesis loaded
      refine ⟨List.forall_mem_cons.mpr ⟨readFirst, readRest⟩, fun pair => ?_⟩
      rw [addsRest, addsFirst, isEntered_cons, or_assoc]

/-- Entries that can be read are loaded into a mapping when their pairs agree with each other and
with its own.

Induct over the entries. What is entered by the first one is in the mapping
afterwards, so the pairs that have to agree stay the same. -/
theorem exists_foldlM_insertEntry (readable : AreReadable entries)
    (agree : ∀ first second, first ∈ mapping.pairs ∨ IsEntered entries first →
      second ∈ mapping.pairs ∨ IsEntered entries second → Agree first second) :
    ∃ extended, entries.foldlM insertEntry mapping = .ok extended := by
  induction entries generalizing mapping with
  | nil => exact ⟨mapping, rfl⟩
  | cons entry rest inductionHypothesis =>
    obtain ⟨readFirst, readRest⟩ := List.forall_mem_cons.mp readable
    have added : ∃ next, mapping.insertEntry entry = .ok next := by
      by_cases blank : trim entry.toList = []
      · exact ⟨mapping, insertEntry_blank blank mapping⟩
      · obtain ⟨own, read⟩ := readFirst blank
        rw [insertEntry_filled blank, read]
        refine exists_insert fun pair held => agree pair own (Or.inl held) (Or.inr ?_)
        exact isEntered_cons.mpr (Or.inl ⟨blank, read⟩)
    obtain ⟨next, added⟩ := added
    have regrouped (pair : String × String) : pair ∈ next.pairs ∨ IsEntered rest pair ↔
        pair ∈ mapping.pairs ∨ IsEntered (entry :: rest) pair := by
      rw [(insertEntry_exact added).2, isEntered_cons, or_assoc]
    obtain ⟨extended, loaded⟩ := @inductionHypothesis next readRest
      fun first second held alsoHeld =>
        agree first second ((regrouped first).mp held) ((regrouped second).mp alsoHeld)
    refine ⟨extended, ?_⟩
    rw [List.foldlM_cons, added]
    exact loaded

/-- An accepted seed holds exactly the pairs that its entries stand for. -/
theorem mem_pairs_of_ofEntries (accepted : ofEntries entries = .ok mapping)
    {pair : String × String} : pair ∈ mapping.pairs ↔ IsEntered entries pair := by
  rw [(foldlM_insertEntry_exact accepted).2]
  simp [empty]

/-- Entries are accepted exactly when each can be read and their pairs agree. -/
theorem exists_ofEntries_iff (entries : List String) :
    (∃ mapping, ofEntries entries = .ok mapping) ↔ AreReadable entries ∧
      ∀ first second, IsEntered entries first → IsEntered entries second → Agree first second := by
  constructor
  · rintro ⟨mapping, accepted⟩
    refine ⟨(foldlM_insertEntry_exact accepted).1, fun first second held alsoHeld => ?_⟩
    exact agree_of_mem ((mem_pairs_of_ofEntries accepted).mpr held)
      ((mem_pairs_of_ofEntries accepted).mpr alsoHeld)
  · rintro ⟨readable, agree⟩
    refine exists_foldlM_insertEntry readable fun first second held alsoHeld => ?_
    exact agree first second (held.resolve_left List.not_mem_nil)
      (alsoHeld.resolve_left List.not_mem_nil)

/-- One of the entries, blanks around it removed, splits into the token and the name. -/
def Enters (entries : List String) (token name : String) : Prop :=
  ∃ entry ∈ entries, SplitsInto (trim entry.toList) token name

/-- What is entered is what an entry splits into; a blank entry splits into nothing. -/
theorem isEntered_iff {token name : String} :
    IsEntered entries (token, name) ↔ Enters entries token name := by
  constructor
  · rintro ⟨entry, listed, _, read⟩
    exact ⟨entry, listed, parseEntry_eq_ok_iff.mp read⟩
  · rintro ⟨entry, listed, splits⟩
    refine ⟨entry, listed, ?_, parseEntry_eq_ok_iff.mpr splits⟩
    intro blank
    obtain ⟨before, behind, whole, _⟩ := splits
    simp [blank] at whole

/-- Entries are accepted exactly when each that is not blank splits into two sides, and no two of
them share just one. -/
theorem exists_ofEntries_iff_splits (entries : List String) :
    (∃ mapping, ofEntries entries = .ok mapping) ↔
      (∀ entry ∈ entries, trim entry.toList ≠ [] →
        ∃ token name, SplitsInto (trim entry.toList) token name) ∧
      ∀ token name other otherName, Enters entries token name → Enters entries other otherName →
        (token = other ↔ name = otherName) := by
  rw [exists_ofEntries_iff, AreReadable]
  simp only [Prod.exists, Prod.forall, parseEntry_eq_ok_iff, isEntered_iff, Agree]

/-- An accepted seed names each token as its entries do, and names no other token. -/
theorem get?_of_ofEntries (accepted : ofEntries entries = .ok mapping) {token name : String} :
    mapping.get? token = some name ↔ Enters entries token name := by
  rw [get?_eq_some_iff, mem_pairs_of_ofEntries accepted, isEntered_iff]

/-- Entries with the same texts, in whatever order and however often, are accepted as well, and give
the same pairs. -/
theorem ofEntries_of_mem_iff {others : List String} (same : ∀ entry, entry ∈ entries ↔ entry ∈ others)
    (accepted : ofEntries entries = .ok mapping) :
    ∃ other, ofEntries others = .ok other ∧ mapping.pairs.Perm other.pairs := by
  have entered (pair : String × String) : IsEntered others pair ↔ IsEntered entries pair := by
    simp only [IsEntered, same]
  obtain ⟨readable, agree⟩ := (exists_ofEntries_iff entries).mp ⟨mapping, accepted⟩
  have otherReadable : AreReadable others := fun entry listed =>
    readable entry ((same entry).mpr listed)
  obtain ⟨other, otherAccepted⟩ := (exists_ofEntries_iff others).mpr
    ⟨otherReadable, fun first second held alsoHeld =>
      agree first second ((entered first).mp held) ((entered second).mp alsoHeld)⟩
  refine ⟨other, otherAccepted, ?_⟩
  rw [List.perm_ext_iff_of_nodup mapping.tokens_nodup.of_map other.tokens_nodup.of_map]
  intro pair
  rw [mem_pairs_of_ofEntries accepted, mem_pairs_of_ofEntries otherAccepted, entered]

/-- Entries in another order are accepted as well, and give the same pairs. -/
theorem ofEntries_of_perm {others : List String} (same : entries.Perm others)
    (accepted : ofEntries entries = .ok mapping) :
    ∃ other, ofEntries others = .ok other ∧ mapping.pairs.Perm other.pairs :=
  ofEntries_of_mem_iff (fun _ => same.mem_iff) accepted

end PropertyMangling.Mapping
