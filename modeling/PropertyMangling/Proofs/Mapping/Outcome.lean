import PropertyMangling.Proofs.Mapping.Assignment
import PropertyMangling.Proofs.Mapping.Eligibility
import PropertyMangling.Proofs.Mapping.Loading
/-!
# What an assignment answers with

An assignment goes through its lines with a growing mapping and an allocator, and
tries every candidate against names that it gave out itself. What it answers with
can be said without any of these: the new tokens in the order of their lines, the
names that the seed leaves free in their order, and the one joined to the other.
It fails when the seed is refused or a line has no token that should have one, and
never over a name of its own. So the order of the lines does not matter at all,
and the order of the seed matters only for which of several faults is told.
-/
namespace PropertyMangling.Mapping

open ShortName Text

/-- The pairs that an assignment adds to a mapping: the listed tokens that the mapping does not know,
each at its first occurrence, with the names that it leaves free. -/
noncomputable def additions (start : Mapping) (lines : List String) : List (String × String) :=
  (start.newTokens (listedTokens lines)).zipIdx.map fun (token, place) =>
    (token, freeName start.names place)

/-- What an assignment answers with, said of the seed and the lines as a whole. -/
noncomputable def outcome (seed lines : List String) : Except Fault (List String) :=
  match ofEntries seed, (sorted lines).find? isUnreadable with
  | .error fault, _ => .error fault
  | .ok _, some line => .error (.lineWithoutToken (trimmed line))
  | .ok start, none =>
    .ok ((sortBy Prod.fst (start.pairs ++ additions start lines)).map fun (token, name) =>
      entryText token name)

/-- Tokens paired one after the other are paired by their places. -/
theorem freshPairs_eq (taken tokens : List String) (place : Nat) :
    freshPairs taken place tokens =
      (tokens.zipIdx place).map fun (token, place) => (token, freeName taken place) := by
  induction tokens generalizing place with
  | nil => rfl
  | cons token rest inductionHypothesis =>
    rw [freshPairs, inductionHypothesis, List.zipIdx_cons, List.map_cons]

/-- With an accepted seed and readable lines, an assignment adds the pairs it is said to add. -/
theorem exists_assigned {seed lines : List String} {start : Mapping}
    (accepted : ofEntries seed = .ok start)
    (readable : ∀ line ∈ lines, isUnreadable line = false) :
    ∃ final, assigned seed lines = .ok final ∧
      final.pairs = start.pairs ++ additions start lines := by
  obtain ⟨final, named, pairs⟩ :=
    assigned_eq accepted (eligibleTokens_eq_ok_iff.mpr ⟨readable, rfl⟩)
  exact ⟨final, named, by rw [pairs, freshPairs_eq, additions]⟩

/-- An assignment answers with its outcome: first the faults of the seed, then those of the lines,
then the named tokens. -/
theorem assign_eq_outcome (seed lines : List String) : assign seed lines = outcome seed lines := by
  cases accepted : ofEntries seed with
  | error fault =>
    rw [outcome, accepted, assign, assigned, accepted]
    rfl
  | ok start =>
    cases unreadable : (sorted lines).find? isUnreadable with
    | some line =>
      have stopped : assigned seed lines = .error (.lineWithoutToken (trimmed line)) := by
        rw [assigned_eq_error_iff accepted, eligibleTokens_eq, unreadable]
      rw [outcome, accepted, unreadable, assign, stopped]
      rfl
    | none =>
      obtain ⟨final, named, pairs⟩ :=
        exists_assigned accepted (find?_isUnreadable_eq_none_iff.mp unreadable)
      have written : final.entries = (sortBy Prod.fst (start.pairs ++ additions start lines)).map
          fun (token, name) => entryText token name := by rw [entries, pairs]
      rw [outcome, accepted, unreadable, assign, named]
      exact congrArg Except.ok written

/-- An assignment to an accepted seed succeeds exactly when its lines can be read. -/
theorem exists_assign_iff {seed lines : List String} {start : Mapping}
    (accepted : ofEntries seed = .ok start) :
    (∃ entries, assign seed lines = .ok entries) ↔ ∀ line ∈ lines, isUnreadable line = false := by
  rw [assign_eq_outcome, outcome, accepted, ← find?_isUnreadable_eq_none_iff]
  cases (sorted lines).find? isUnreadable <;> simp

/-- An assignment fails exactly when its seed is refused or a line is unreadable. -/
theorem exists_assign_error_iff (seed lines : List String) :
    (∃ fault, assign seed lines = .error fault) ↔
      (∃ fault, ofEntries seed = .error fault) ∨ ∃ line ∈ lines, isUnreadable line = true := by
  cases accepted : ofEntries seed with
  | error fault =>
    have refused : assign seed lines = .error fault := by rw [assign_eq_outcome, outcome, accepted]
    simp [refused]
  | ok start =>
    have fails_iff : (∃ fault, assign seed lines = .error fault) ↔
        ¬ ∃ entries, assign seed lines = .ok entries := by
      cases assign seed lines <;> simp
    rw [fails_iff, exists_assign_iff accepted]
    simp

/-- The lines may be given in any order, since the names depend on the sorted ones. -/
theorem assign_of_perm_lines {lines others : List String} (same : lines.Perm others)
    (seed : List String) : assign seed lines = assign seed others := by
  simp only [assign_eq_outcome, outcome, additions, sorted_eq_of_perm same, listedTokens_of_perm same]

/-- Mappings with the same pairs know the same tokens, whatever the order of the pairs. -/
theorem newTokens_of_perm {first second : Mapping} (same : first.pairs.Perm second.pairs)
    (tokens : List String) : first.newTokens tokens = second.newTokens tokens := by
  have known : first.tokens.Perm second.tokens := same.map Prod.fst
  have unknown (token : String) : (first.get? token).isNone = (second.get? token).isNone := by
    rw [Bool.eq_iff_iff, Option.isNone_iff_eq_none, Option.isNone_iff_eq_none, get?_eq_none_iff,
      get?_eq_none_iff, known.mem_iff]
  simp only [newTokens, unknown]

/-- Mappings with the same pairs get the same additions, in the same order. -/
theorem additions_of_perm {first second : Mapping} (same : first.pairs.Perm second.pairs)
    (lines : List String) : additions first lines = additions second lines := by
  have names : first.names.Perm second.names := same.map Prod.snd
  have free (place : Nat) : freeName first.names place = freeName second.names place :=
    freeName_congr (fun _ => names.mem_iff) place
  simp only [additions, newTokens_of_perm same, free]

/-- The entries of the seed may be given in any order: they are accepted alike, and answered alike. -/
theorem toOption_assign_of_perm_seed {seed others : List String} (same : seed.Perm others)
    (lines : List String) : (assign seed lines).toOption = (assign others lines).toOption := by
  have refused {seed : List String} {fault : Fault} (refused : ofEntries seed = .error fault) :
      (assign seed lines).toOption = none := by
    rw [assign_eq_outcome, outcome, refused]
    rfl
  cases accepted : ofEntries seed with
  | error fault =>
    cases otherAccepted : ofEntries others with
    | error other => rw [refused accepted, refused otherAccepted]
    | ok other =>
      obtain ⟨start, impossible, _⟩ := ofEntries_of_perm same.symm otherAccepted
      rw [accepted] at impossible
      cases impossible
  | ok start =>
    obtain ⟨other, otherAccepted, pairs⟩ := ofEntries_of_perm same accepted
    rw [assign_eq_outcome, assign_eq_outcome, outcome, outcome, accepted, otherAccepted]
    cases unreadable : (sorted lines).find? isUnreadable with
    | some line => rfl
    | none =>
      obtain ⟨final, _, finalPairs⟩ :=
        exists_assigned accepted (find?_isUnreadable_eq_none_iff.mp unreadable)
      have distinct : ((start.pairs ++ additions start lines).map Prod.fst).Nodup :=
        finalPairs ▸ final.tokens_nodup
      have rearranged : (start.pairs ++ additions start lines).Perm
          (other.pairs ++ additions other lines) := by
        rw [additions_of_perm pairs]
        exact pairs.append_right _
      simp only [sortBy_eq_of_perm distinct rearranged]

/-- What an assignment does is said by its outcome, for every seed and all lines.

It fails exactly when the seed is refused or some line is neither blank nor
commented and has no token; a name that it gives out never makes it fail. Lines
in another order have the same answer, faults included. A seed in another order
is accepted or refused alike, and has the same entries. -/
theorem assign_specified (seed lines : List String) :
    assign seed lines = outcome seed lines ∧
    ((∃ fault, assign seed lines = .error fault) ↔
      (∃ fault, ofEntries seed = .error fault) ∨ ∃ line ∈ lines, isUnreadable line = true) ∧
    (∀ others, lines.Perm others → assign seed others = assign seed lines) ∧
    (∀ others, seed.Perm others → (assign others lines).toOption = (assign seed lines).toOption) :=
  ⟨assign_eq_outcome seed lines, exists_assign_error_iff seed lines,
    fun _ same => assign_of_perm_lines same.symm seed,
    fun _ same => toOption_assign_of_perm_seed same.symm lines⟩

/-- A seed with two entries and lines with a comment, a repetition and a known token, turned round. -/
theorem assign_specified_turned_round :
    ["foo # kept", "bar", "#qux", "foo", "yy"].Perm ["yy", "foo", "#qux", "bar", "foo # kept"] ∧
    ["zz:b", "yy:a"].Perm ["yy:a", "zz:b"] ∧
    assign ["zz:b", "yy:a"] ["yy", "foo", "#qux", "bar", "foo # kept"] =
      assign ["zz:b", "yy:a"] ["foo # kept", "bar", "#qux", "foo", "yy"] ∧
    (assign ["yy:a", "zz:b"] ["foo # kept", "bar", "#qux", "foo", "yy"]).toOption =
      (assign ["zz:b", "yy:a"] ["foo # kept", "bar", "#qux", "foo", "yy"]).toOption := by
  obtain ⟨_, _, anyLines, anySeed⟩ :=
    assign_specified ["zz:b", "yy:a"] ["foo # kept", "bar", "#qux", "foo", "yy"]
  have turned : ["foo # kept", "bar", "#qux", "foo", "yy"].Perm
      ["yy", "foo", "#qux", "bar", "foo # kept"] := by decide
  have seedTurned : ["zz:b", "yy:a"].Perm ["yy:a", "zz:b"] := by decide
  exact ⟨turned, seedTurned, anyLines _ turned, anySeed _ seedTurned⟩

end PropertyMangling.Mapping
