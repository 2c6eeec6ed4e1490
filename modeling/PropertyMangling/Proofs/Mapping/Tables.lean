import PropertyMangling.Proofs.Mapping.Loading
/-!
# Mappings kept in two tables

A mapping is one list of pairs, and that no side occurs twice is part of its type.
Kept in two hash tables, one for each direction, only the order of look-ups and
writes keeps the two together. An insertion that finds a token's name but no token
for the name cannot tell what is held, and refuses.

It never comes to that. Whatever pairs are tried from empty tables, refused ones
included, the tables stay each other's inverse and say what the mapping says. So
loading entries into tables goes as loading them into a mapping: they are accepted
exactly when each of them splits into two sides and the pairs of sides agree.
-/
namespace PropertyMangling.Mapping

open Text

/-- A mapping in two tables: names by token, and tokens by name. -/
structure Tables where
  names : Std.HashMap String String := ∅
  tokens : Std.HashMap String String := ∅

namespace Tables

/-- Tries to insert a pair: the answer, and the tables afterwards. -/
def insert (tables : Tables) (token name : String) : Except Fault Unit × Tables :=
  let conflict (other otherName : String) : Fault :=
    .conflictingEntry (entryText token name) (entryText other otherName)
  match tables.names[token]?, tables.tokens[name]? with
  | none, none => (.ok (), ⟨tables.names.insert token name, tables.tokens.insert name token⟩)
  | some known, owner? =>
    if known = name ∧ owner?.isSome then (.ok (), tables)
    else (.error (conflict token known), tables)
  | none, some owner => (.error (conflict owner name), tables)

/-- The tables after pairs were tried one by one, from empty ones. -/
def after (tried : List (String × String)) : Tables :=
  tried.foldl (fun tables pair => (tables.insert pair.1 pair.2).2) {}

/-- Adds the pair of one entry; a blank entry adds none. -/
def insertEntry (tables : Tables) (entry : String) : Except Fault Tables :=
  match trim entry.toList with
  | [] => .ok tables
  | text => do
    let (token, name) ← parseEntry text
    let (answer, extended) := tables.insert token name
    answer.map fun _ => extended

/-- The tables that entries stand for. -/
def ofEntries (entries : List String) : Except Fault Tables := entries.foldlM insertEntry {}

/-- The two tables are each other's inverse. -/
structure AreInverse (tables : Tables) : Prop where
  inverse : ∀ token name : String, tables.names[token]? = some name ↔
    tables.tokens[name]? = some token
  same_size : tables.names.size = tables.tokens.size

/-- What trying a pair does to tables, said of what they hold. -/
structure InsertsExactly (tables : Tables) (token name : String) : Prop where
  /-- A pair is accepted when it is held already, or neither of its sides is. -/
  accepted_iff : (tables.insert token name).1 = .ok () ↔ tables.names[token]? = some name ∨
    tables.names[token]? = none ∧ tables.tokens[name]? = none
  /-- An accepted pair is held from then on, beside what was held before. -/
  adds : (tables.insert token name).1 = .ok () → ∀ other otherName : String,
    (tables.insert token name).2.names[other]? = some otherName ↔
      tables.names[other]? = some otherName ∨ other = token ∧ otherName = name
  /-- A pair that is held already changes nothing. -/
  keeps : tables.names[token]? = some name → (tables.insert token name).2 = tables
  /-- A refused pair changes nothing, and the fault tells a pair that is held and shares one side. -/
  refuses : ∀ fault, (tables.insert token name).1 = .error fault →
    (tables.insert token name).2 = tables ∧ ∃ other otherName : String,
      tables.names[other]? = some otherName ∧ (other, otherName) ≠ (token, name) ∧
        (other = token ∨ otherName = name) ∧
          fault = .conflictingEntry (entryText token name) (entryText other otherName)

/-- The tables say what a mapping says. -/
structure Hold (tables : Tables) (mapping : Mapping) : Prop where
  names_eq : ∀ token : String, tables.names[token]? = mapping.get? token
  tokens_eq : ∀ name : String, tables.tokens[name]? = mapping.tokenOf? name
  size_names : tables.names.size = mapping.size
  size_tokens : tables.tokens.size = mapping.size

/-- A pair tried on tables is answered as the mapping answers it; refused, it changes nothing. -/
def Follows (tables : Tables) (step : Except Fault Unit × Tables) : Except Fault Mapping → Prop
  | .ok extended => step.1 = .ok () ∧ step.2.Hold extended
  | .error fault => step = (.error fault, tables)

/-- Loading tables ends as loading a mapping does. -/
def Alike : Except Fault Tables → Except Fault Mapping → Prop
  | .ok tables, .ok mapping => tables.Hold mapping
  | .error fault, .error other => fault = other
  | _, _ => False

end Tables

/-- The mapping after a pair was tried; a refused pair leaves it as it is. -/
def attempt (mapping : Mapping) (pair : String × String) : Mapping :=
  match mapping.insert pair.1 pair.2 with
  | .ok extended => extended
  | .error _ => mapping

/-- The mapping after pairs were tried one by one, from the empty one. -/
def after (tried : List (String × String)) : Mapping := tried.foldl attempt empty

namespace Tables

variable {tables : Tables} {mapping : Mapping} {token name : String}

/-- Tables that say what a mapping says are inverse, since the mapping has no side twice. -/
theorem Hold.areInverse (hold : tables.Hold mapping) : tables.AreInverse where
  inverse token name := by
    rw [hold.names_eq, hold.tokens_eq, get?_eq_some_iff, tokenOf?_eq_some_iff]
  same_size := hold.size_names.trans hold.size_tokens.symm

/-- Empty tables hold the empty mapping, from which loading starts. -/
theorem hold_empty : Hold {} empty where
  names_eq _ := Std.HashMap.getElem?_empty
  tokens_eq _ := Std.HashMap.getElem?_empty
  size_names := Std.HashMap.size_empty
  size_tokens := Std.HashMap.size_empty

section Table

variable {table : Std.HashMap String String} {key : String}

/-- A table with a new key holds the new pair and those from before. -/
theorem getElem?_insert_new (absent : table[key]? = none) (value : String) {other found : String} :
    (table.insert key value)[other]? = some found ↔
      table[other]? = some found ∨ other = key ∧ found = value := by
  rw [Std.HashMap.getElem?_insert]
  by_cases same : other = key
  · subst same
    simp [absent, eq_comm]
  · simp [same, Ne.symm same]

/-- A table with a new key is larger by one, so sizes count the tokens that were accepted. -/
theorem size_insert_new (absent : table[key]? = none) (value : String) :
    (table.insert key value).size = table.size + 1 := by
  have missing : key ∉ table := by
    rw [Std.HashMap.mem_iff_isSome_getElem?, absent]
    simp
  rw [Std.HashMap.size_insert, if_neg missing]

end Table

/-- What trying a pair can do to inverse tables: it is known already, one of its sides is taken
otherwise, or both tables gain it. -/
theorem insert_cases (inverse : tables.AreInverse) (token name : String) :
    (tables.names[token]? = some name ∧ tables.insert token name = (.ok (), tables)) ∨
    (∃ known, tables.names[token]? = some known ∧ known ≠ name ∧ tables.insert token name =
      (.error (.conflictingEntry (entryText token name) (entryText token known)), tables)) ∨
    (∃ owner, tables.names[token]? = none ∧ tables.tokens[name]? = some owner ∧
      tables.insert token name =
        (.error (.conflictingEntry (entryText token name) (entryText owner name)), tables)) ∨
    (tables.names[token]? = none ∧ tables.tokens[name]? = none ∧ tables.insert token name =
      (.ok (), ⟨tables.names.insert token name, tables.tokens.insert name token⟩)) := by
  cases found : tables.names[token]? with
  | some known =>
    by_cases same : known = name
    · have owned : tables.tokens[name]? = some token :=
        (inverse.inverse token name).mp (same ▸ found)
      left
      simp [insert, found, owned, same]
    · right
      left
      exact ⟨known, rfl, same, by simp [insert, found, same]⟩
  | none =>
    right
    right
    cases owned : tables.tokens[name]? with
    | some owner =>
      left
      exact ⟨owner, rfl, rfl, by simp [insert, found, owned]⟩
    | none =>
      right
      exact ⟨rfl, rfl, by simp [insert, found, owned]⟩

/-- What trying a pair does to inverse tables is determined by what they hold. -/
theorem insertsExactly (inverse : tables.AreInverse) (token name : String) :
    tables.InsertsExactly token name := by
  obtain ⟨held, step⟩ | ⟨known, found, other, step⟩ | ⟨owner, unknown, owned, step⟩ |
    ⟨unknown, unowned, step⟩ := insert_cases inverse token name
  · constructor
    · simp [step, held]
    · intro _ other otherName
      rw [step]
      constructor
      · exact Or.inl
      · rintro (before | ⟨rfl, rfl⟩)
        · exact before
        · exact held
    · intro _
      rw [step]
    · intro fault refused
      rw [step] at refused
      cases refused
  · constructor
    · simp [step, found, other]
    · intro accepted
      rw [step] at accepted
      cases accepted
    · intro _
      rw [step]
    · intro fault refused
      rw [step] at refused ⊢
      exact ⟨rfl, token, known, found, by simp [other], Or.inl rfl,
        (Except.error.inj refused).symm⟩
  · have ownerFound : tables.names[owner]? = some name := (inverse.inverse owner name).mpr owned
    have different : owner ≠ token := by
      rintro rfl
      rw [unknown] at ownerFound
      cases ownerFound
    constructor
    · simp [step, unknown, owned]
    · intro accepted
      rw [step] at accepted
      cases accepted
    · intro _
      rw [step]
    · intro fault refused
      rw [step] at refused ⊢
      exact ⟨rfl, owner, name, ownerFound, by simp [different], Or.inr rfl,
        (Except.error.inj refused).symm⟩
  · constructor
    · simp [step, unknown, unowned]
    · intro _ other otherName
      rw [step]
      exact getElem?_insert_new unknown name
    · intro held
      rw [unknown] at held
      cases held
    · intro fault refused
      rw [step] at refused
      cases refused

/-- Tables that hold a mapping hold it with a pair more when both get the pair and its sides are new. -/
theorem Hold.add (hold : tables.Hold mapping) {extended : Mapping}
    (unknown : tables.names[token]? = none) (unowned : tables.tokens[name]? = none)
    (extension : extended.pairs = mapping.pairs ++ [(token, name)]) :
    Hold ⟨tables.names.insert token name, tables.tokens.insert name token⟩ extended where
  names_eq other := by
    apply Option.ext
    intro found
    rw [getElem?_insert_new unknown, hold.names_eq, get?_eq_some_iff, get?_eq_some_iff, extension,
      List.mem_append, List.mem_singleton, Prod.mk.injEq]
  tokens_eq other := by
    apply Option.ext
    intro found
    rw [getElem?_insert_new unowned, hold.tokens_eq, tokenOf?_eq_some_iff, tokenOf?_eq_some_iff,
      extension, List.mem_append, List.mem_singleton, Prod.mk.injEq, and_comm (a := other = name)]
  size_names := by
    rw [size_insert_new unknown, hold.size_names, size, size, extension, List.length_append,
      List.length_singleton]
  size_tokens := by
    rw [size_insert_new unowned, hold.size_tokens, size, size, extension, List.length_append,
      List.length_singleton]

/-- A pair tried on tables goes as tried on the mapping that they hold. -/
theorem Hold.insert (hold : tables.Hold mapping) (token name : String) :
    tables.Follows (tables.insert token name) (mapping.insert token name) := by
  obtain ⟨held, step⟩ | ⟨known, found, other, step⟩ | ⟨owner, unknown, owned, step⟩ |
    ⟨unknown, unowned, step⟩ := insert_cases hold.areInverse token name
  · rw [insert_known (hold.names_eq token ▸ held), step]
    exact ⟨rfl, hold⟩
  · rw [insert_named (hold.names_eq token ▸ found) other]
    exact step
  · rw [insert_owned (hold.names_eq token ▸ unknown) (hold.tokens_eq name ▸ owned)]
    exact step
  · have newToken := get?_eq_none_iff.mp (hold.names_eq token ▸ unknown)
    have newName := tokenOf?_eq_none_iff.mp (hold.tokens_eq name ▸ unowned)
    obtain ⟨extended, inserted, extension⟩ := insert_new newToken newName
    rw [inserted, step]
    exact ⟨rfl, hold.add unknown unowned extension⟩

/-- Tables and mapping still go together after a pair was tried on both. -/
theorem Hold.attempt (hold : tables.Hold mapping) (pair : String × String) :
    (tables.insert pair.1 pair.2).2.Hold (mapping.attempt pair) := by
  have step := hold.insert pair.1 pair.2
  rw [Mapping.attempt]
  cases answer : mapping.insert pair.1 pair.2 with
  | ok extended =>
    rw [answer] at step
    exact step.2
  | error fault =>
    rw [answer] at step
    have unchanged : tables.insert pair.1 pair.2 = (.error fault, tables) := step
    rw [unchanged]
    exact hold

/-- Whatever pairs were tried on both, the tables hold the mapping. -/
theorem after_hold (tried : List (String × String)) : (after tried).Hold (Mapping.after tried) := by
  have go (tables : Tables) (mapping : Mapping) (hold : tables.Hold mapping) :
      (tried.foldl (fun tables pair => (tables.insert pair.1 pair.2).2) tables).Hold
        (tried.foldl Mapping.attempt mapping) := by
    induction tried generalizing tables mapping with
    | nil => exact hold
    | cons pair rest inductionHypothesis => exact inductionHypothesis _ _ (hold.attempt pair)
  exact go {} empty hold_empty

/-- An entry that is not blank is read first, and its pair is tried then. -/
theorem insertEntry_filled {entry : String} (filled : trim entry.toList ≠ []) (tables : Tables) :
    tables.insertEntry entry = (parseEntry (trim entry.toList)).bind fun pair =>
      (tables.insert pair.1 pair.2).1.map fun _ => (tables.insert pair.1 pair.2).2 := by
  unfold insertEntry
  split
  · next blank => exact absurd blank filled
  · rfl

/-- One entry goes into tables as into the mapping that they hold. -/
theorem Hold.insertEntry (hold : tables.Hold mapping) (entry : String) :
    Alike (tables.insertEntry entry) (mapping.insertEntry entry) := by
  by_cases blank : trim entry.toList = []
  · rw [Mapping.insertEntry_blank blank, Tables.insertEntry, blank]
    exact hold
  · rw [Mapping.insertEntry_filled blank, insertEntry_filled blank]
    cases parseEntry (trim entry.toList) with
    | error fault => exact rfl
    | ok pair =>
      have step := hold.insert pair.1 pair.2
      change Alike ((tables.insert pair.1 pair.2).1.map _) (mapping.insert pair.1 pair.2)
      cases answer : mapping.insert pair.1 pair.2 with
      | ok extended =>
        rw [answer] at step
        obtain ⟨accepted, extendedHold⟩ := step
        rw [accepted]
        exact extendedHold
      | error fault =>
        rw [answer] at step
        have refused : tables.insert pair.1 pair.2 = (.error fault, tables) := step
        rw [refused]
        exact rfl

/-- Entries go into tables as into the mapping that they hold. -/
theorem Hold.foldlM_insertEntry (hold : tables.Hold mapping) (entries : List String) :
    Alike (entries.foldlM Tables.insertEntry tables) (entries.foldlM Mapping.insertEntry mapping) := by
  induction entries generalizing tables mapping with
  | nil => exact hold
  | cons entry rest inductionHypothesis =>
    rw [List.foldlM_cons, List.foldlM_cons]
    have step := hold.insertEntry entry
    cases added : tables.insertEntry entry with
    | error fault =>
      cases answer : mapping.insertEntry entry with
      | error other =>
        rw [added, answer] at step
        exact step
      | ok next =>
        rw [added, answer] at step
        exact step.elim
    | ok extended =>
      cases answer : mapping.insertEntry entry with
      | error other =>
        rw [added, answer] at step
        exact step.elim
      | ok next =>
        rw [added, answer] at step
        exact inductionHypothesis step

end Tables

/-- Two tables stay each other's inverse, and load exactly the entries whose pairs agree.

Whatever pairs were tried, refused ones included, the tables are inverse and say
what the mapping says, and what trying another pair does is determined by what
they hold. Entries are accepted exactly when each that is not blank splits into a
token and a name, and no two of them share just one side; then exactly these pairs
are held, in whatever order and however often the entries were given. -/
theorem tables_stay_inverse :
    (∀ tried : List (String × String),
      (Tables.after tried).AreInverse ∧ (Tables.after tried).Hold (after tried) ∧
      ∀ token name : String, (Tables.after tried).InsertsExactly token name ∧
        (Tables.after tried).Follows ((Tables.after tried).insert token name)
          ((after tried).insert token name)) ∧
    ∀ entries : List String,
      Tables.Alike (Tables.ofEntries entries) (ofEntries entries) ∧
      ((∃ mapping, ofEntries entries = .ok mapping) ↔
        (∀ entry ∈ entries, trim entry.toList ≠ [] →
          ∃ token name, SplitsInto (trim entry.toList) token name) ∧
        ∀ token name other otherName, Enters entries token name →
          Enters entries other otherName → (token = other ↔ name = otherName)) ∧
      ∀ mapping, ofEntries entries = .ok mapping →
        (∀ token name, mapping.get? token = some name ↔ Enters entries token name) ∧
        ∀ others, (∀ entry, entry ∈ entries ↔ entry ∈ others) →
          ∃ other, ofEntries others = .ok other ∧ mapping.pairs.Perm other.pairs := by
  constructor
  · intro tried
    have hold := Tables.after_hold tried
    exact ⟨hold.areInverse, hold, fun token name =>
      ⟨Tables.insertsExactly hold.areInverse token name, hold.insert token name⟩⟩
  · intro entries
    refine ⟨Tables.hold_empty.foldlM_insertEntry entries, exists_ofEntries_iff_splits entries, ?_⟩
    intro mapping accepted
    constructor
    · intro token name
      exact get?_of_ofEntries accepted
    · intro others same
      exact ofEntries_of_mem_iff same accepted

/-- Pairs that clash with either side of earlier ones, and entries with blanks, a repetition and a
separator in a name. -/
theorem tables_stay_inverse_behind_clashes :
    (Tables.after [("foo", "a"), ("bar", "a"), ("foo", "b"), ("baz", "b")]).Hold
      ⟨[("foo", "a"), ("baz", "b")], by decide, by decide⟩ ∧
    ofEntries [" foo : a:b", "", "bar:c", "foo:a:b"] =
      .ok ⟨[("foo", "a:b"), ("bar", "c")], by decide, by decide⟩ ∧
    ∃ other, ofEntries ["bar:c", "foo:a:b", " foo : a:b", ""] = .ok other ∧
      [("foo", "a:b"), ("bar", "c")].Perm other.pairs := by
  have accepted : ofEntries [" foo : a:b", "", "bar:c", "foo:a:b"] =
      .ok ⟨[("foo", "a:b"), ("bar", "c")], by decide, by decide⟩ := by rfl
  obtain ⟨_, hold, _⟩ := tables_stay_inverse.1 [("foo", "a"), ("bar", "a"), ("foo", "b"), ("baz", "b")]
  obtain ⟨_, _, holds⟩ := tables_stay_inverse.2 [" foo : a:b", "", "bar:c", "foo:a:b"]
  refine ⟨hold, accepted, (holds _ accepted).2 _ ?_⟩
  intro entry
  simp only [List.mem_cons, List.not_mem_nil, or_false]
  grind

end PropertyMangling.Mapping
