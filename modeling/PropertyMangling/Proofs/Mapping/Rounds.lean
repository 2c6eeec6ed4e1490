import PropertyMangling.Proofs.Mapping.Assignment
import PropertyMangling.Proofs.Reading
/-!
# Assignments carried from round to round

The entries that an assignment answers with are the seed of the next one; after
a fault the next one starts from the same seed. Every seed on the way is
accepted and holds the pairs of the seeds before it. So a name that was handed
out in one round is the name of its token in every later round, and no round
fails but for a line without a token.
-/
namespace PropertyMangling.Mapping

open Identifier ShortName

/-- One assignment among several: what it starts from, the lines it is given, and its answer. -/
structure Round where
  seed : List String
  lines : List String
  answer : Except Fault (List String)

/-- What the next assignment starts from. -/
def nextSeed (seed : List String) : Except Fault (List String) → List String
  | .ok entries => entries
  | .error _ => seed

/-- Assignments one after the other, each given its own lines. -/
def rounds (seed : List String) : List (List String) → List Round
  | [] => []
  | lines :: rest =>
    ⟨seed, lines, assign seed lines⟩ :: rounds (nextSeed seed (assign seed lines)) rest

/-- The rounds are given their lines in order, one batch each. -/
theorem map_lines_rounds (seed : List String) (batches : List (List String)) :
    (rounds seed batches).map Round.lines = batches := by
  induction batches generalizing seed with
  | nil => rfl
  | cons lines rest inductionHypothesis => rw [rounds, List.map_cons, inductionHypothesis]

/-- A word and a plain identifier can be written as an entry. -/
theorem writable_of_isWord {token name : String} (word : IsWord token)
    (plain : isPlain name = true) : Writable token name where
  token_ne := word.1
  token_firm := word.hasFirmEnds
  token_whole := fun inside => absurd (word.2 separator inside) (by decide)
  name_ne := (isWord_of_isPlain plain).1
  name_firm := (isWord_of_isPlain plain).hasFirmEnds

/-- Every token to be named is a word, as it was read from a line. -/
theorem isWord_of_mem_eligibleTokens {lines tokens : List String}
    (read : eligibleTokens lines = .ok tokens) {token : String} (listed : token ∈ tokens) :
    IsWord token := by
  obtain ⟨line, _, given⟩ := exists_read_of_mem read listed
  split at given
  · next found readLine =>
    rw [← Except.ok.inj given]
    exact TokenFile.isWord_of_tokenOf? readLine
  · cases given

/-- A fresh pair joins one of the tokens to a free name. -/
theorem mem_freshPairs {taken tokens : List String} {place : Nat} {pair : String × String}
    (fresh : pair ∈ freshPairs taken place tokens) :
    pair.1 ∈ tokens ∧ ∃ later, pair.2 = freeName taken later := by
  have token : pair.1 ∈ (freshPairs taken place tokens).map Prod.fst :=
    List.mem_map.mpr ⟨pair, fresh, rfl⟩
  have name : pair.2 ∈ (freshPairs taken place tokens).map Prod.snd :=
    List.mem_map.mpr ⟨pair, fresh, rfl⟩
  rw [map_fst_freshPairs] at token
  rw [map_snd_freshPairs] at name
  obtain ⟨later, _, same⟩ := List.mem_map.mp name
  exact ⟨token, later, same.symm⟩

/-- What an assignment to a writable mapping leads to is writable. -/
theorem isWritable_assigned {lines tokens : List String} {start final : Mapping}
    (writable : start.IsWritable) (read : eligibleTokens lines = .ok tokens)
    (pairs : final.pairs = start.pairs ++ freshPairs start.names 0 (start.newTokens tokens)) :
    final.IsWritable := by
  intro pair held
  rw [pairs, List.mem_append] at held
  rcases held with old | fresh
  · exact writable pair old
  · obtain ⟨listed, place, name⟩ := mem_freshPairs fresh
    rw [name]
    exact writable_of_isWord (isWord_of_mem_eligibleTokens read (mem_newTokens_iff.mp listed).1)
      (isPlain_freeName start.names place)

/-- An assignment to an accepted seed answers with entries that are accepted in their turn. They are
written in token order, and hold every pair of the seed. -/
theorem assign_accepted {seed lines entries : List String} {start : Mapping}
    (accepted : ofEntries seed = .ok start) (answer : assign seed lines = .ok entries) :
    ∃ next, ofEntries entries = .ok next ∧ start.pairs ⊆ next.pairs ∧
      entries = next.pairs.map (fun pair => entryText pair.1 pair.2) ∧
      next.pairs.Pairwise fun first second => first.1 < second.1 := by
  cases read : eligibleTokens lines with
  | error fault =>
    have stopped : assigned seed lines = .error fault := (assigned_eq_error_iff accepted).mpr read
    rw [assign, stopped] at answer
    cases answer
  | ok tokens =>
    obtain ⟨final, named, pairs⟩ := assigned_eq accepted read
    rw [assign, named] at answer
    have same : final.entries = entries := Except.ok.inj answer
    have writable : final.IsWritable :=
      isWritable_assigned (isWritable_of_ofEntries accepted) read pairs
    obtain ⟨next, reread, sorted⟩ := ofEntries_entries writable
    refine ⟨next, same ▸ reread, ?_, ?_, ?_⟩
    · intro pair held
      rw [sorted, final.sortedPairs_perm.mem_iff, pairs]
      exact List.mem_append_left _ held
    · rw [← same, sorted, entries_eq_map]
    · rw [sorted]
      exact final.sortedPairs_ascend

/-- An assignment to an accepted seed fails exactly with the fault of its lines. -/
theorem assign_eq_error_iff {seed lines : List String} {start : Mapping} {fault : Fault}
    (accepted : ofEntries seed = .ok start) :
    assign seed lines = .error fault ↔ eligibleTokens lines = .error fault := by
  rw [← assigned_eq_error_iff accepted, assign]
  cases assigned seed lines with
  | error other =>
    change (Except.error other : Except Fault (List String)) = .error fault ↔ _
    rw [Except.error.injEq, Except.error.injEq]
  | ok final =>
    constructor
    · intro impossible
      cases impossible
    · intro impossible
      cases impossible

/-- An assignment that meets no new token answers with the entries of its seed, written anew. -/
theorem assign_of_known {seed lines tokens : List String} {start : Mapping}
    (accepted : ofEntries seed = .ok start) (read : eligibleTokens lines = .ok tokens)
    (known : ∀ token ∈ tokens, (start.get? token).isSome = true) :
    assign seed lines = .ok start.entries := by
  have none : start.newTokens tokens = [] := by
    rw [newTokens, List.filter_eq_nil_iff.mpr, List.eraseDups_nil]
    intro token listed unknown
    have some := known token listed
    rw [Option.isNone_iff_eq_none.mp unknown] at some
    cases some
  obtain ⟨final, named, pairs⟩ := assigned_eq accepted read
  rw [none, freshPairs, List.append_nil] at pairs
  rw [assign, named, eq_of_pairs_eq pairs]
  rfl

/-- The next seed is accepted, and holds every pair of the one before. -/
theorem nextSeed_accepted {seed : List String} {start : Mapping}
    (accepted : ofEntries seed = .ok start) (lines : List String) :
    ∃ next, ofEntries (nextSeed seed (assign seed lines)) = .ok next ∧
      start.pairs ⊆ next.pairs := by
  cases answer : assign seed lines with
  | error fault => exact ⟨start, accepted, fun _ held => held⟩
  | ok entries =>
    obtain ⟨next, reread, kept, _⟩ := assign_accepted accepted answer
    exact ⟨next, reread, kept⟩

/-- Every round starts from an accepted seed that holds every pair of the first one, and answers with
the assignment to it. -/
theorem round_accepted {seed : List String} {start : Mapping}
    (accepted : ofEntries seed = .ok start) (batches : List (List String)) {round : Round}
    (made : round ∈ rounds seed batches) :
    round.answer = assign round.seed round.lines ∧
      ∃ current, ofEntries round.seed = .ok current ∧ start.pairs ⊆ current.pairs := by
  induction batches generalizing seed start with
  | nil => exact absurd made List.not_mem_nil
  | cons lines rest inductionHypothesis =>
    rcases List.mem_cons.mp made with rfl | later
    · exact ⟨rfl, start, accepted, fun _ held => held⟩
    · obtain ⟨next, reread, kept⟩ := nextSeed_accepted accepted lines
      obtain ⟨answered, current, read, more⟩ := inductionHypothesis reread later
      exact ⟨answered, current, read, fun _ held => more (kept held)⟩

/-- Entries that were answered once are among the answers of every later round. -/
theorem rounds_pairwise {seed : List String} {start : Mapping}
    (accepted : ofEntries seed = .ok start) (batches : List (List String)) :
    (rounds seed batches).Pairwise fun earlier later => ∀ old new,
      earlier.answer = .ok old → later.answer = .ok new → old ⊆ new := by
  induction batches generalizing seed start with
  | nil => exact List.Pairwise.nil
  | cons lines rest inductionHypothesis =>
    obtain ⟨next, reread, _⟩ := nextSeed_accepted accepted lines
    refine List.Pairwise.cons ?_ (inductionHypothesis reread)
    intro later made old new answered laterAnswered
    -- The seed behind this round is its answer, which every later seed extends.
    change assign seed lines = .ok old at answered
    obtain ⟨first, firstRead, _, written, _⟩ := assign_accepted accepted answered
    have same : next = first := by
      rw [answered] at reread
      exact Except.ok.inj (reread.symm.trans firstRead)
    obtain ⟨assignment, current, currentRead, more⟩ := round_accepted reread rest made
    rw [assignment] at laterAnswered
    obtain ⟨last, _, kept, lastWritten, _⟩ := assign_accepted currentRead laterAnswered
    rw [written, lastWritten]
    exact List.map_subset _ fun _ held => kept (more (same ▸ held))

/-- Names that were handed out are never reassigned, whatever the rounds are given.

Every round starts from an accepted seed and fails only with the fault of its
own lines. An answer holds every pair of the first seed and every entry of every
answer before it; it is accepted, ascends strictly in its tokens, and uses no
name twice. A round whose tokens are all known answers with its seed, written anew. -/
theorem rounds_keep_names {seed : List String} {start : Mapping}
    (accepted : ofEntries seed = .ok start) (batches : List (List String)) :
    (rounds seed batches).map Round.lines = batches ∧
    ((rounds seed batches).Pairwise fun earlier later => ∀ old new,
      earlier.answer = .ok old → later.answer = .ok new → old ⊆ new) ∧
    ∀ round ∈ rounds seed batches, ∃ current, ofEntries round.seed = .ok current ∧
      (∀ fault, round.answer = .error fault ↔ eligibleTokens round.lines = .error fault) ∧
      (∀ entries, round.answer = .ok entries →
        (∀ pair ∈ start.pairs, entryText pair.1 pair.2 ∈ entries) ∧
        ∃ next, ofEntries entries = .ok next ∧
          entries = next.pairs.map (fun pair => entryText pair.1 pair.2) ∧
          (next.pairs.Pairwise fun first second => first.1 < second.1) ∧
          (next.pairs.map Prod.snd).Nodup) ∧
      (∀ tokens, eligibleTokens round.lines = .ok tokens →
        (∀ token ∈ tokens, (current.get? token).isSome = true) →
        round.answer = .ok current.entries) := by
  refine ⟨map_lines_rounds seed batches, rounds_pairwise accepted batches, ?_⟩
  intro round made
  obtain ⟨assignment, current, read, kept⟩ := round_accepted accepted batches made
  rw [assignment]
  refine ⟨current, read, fun fault => assign_eq_error_iff read, ?_, ?_⟩
  · intro entries answered
    obtain ⟨next, reread, more, written, ascending⟩ := assign_accepted read answered
    refine ⟨?_, next, reread, written, ascending, next.names_nodup⟩
    intro pair held
    rw [written]
    exact List.mem_map.mpr ⟨pair, more (kept held), rfl⟩
  · intro tokens eligible known
    exact assign_of_known read eligible known

/-- A seed whose name holds a separator and whose entry stands between blanks, and a round in the
middle that fails: the answers around it keep every pair. -/
theorem rounds_keep_names_around_failure :
    ofEntries ["foo:a:b", " bar : b c "] =
      .ok ⟨[("foo", "a:b"), ("bar", "b c")], by decide, by decide⟩ ∧
    ∀ round ∈ rounds ["foo:a:b", " bar : b c "] [["baz"], ["-"], ["qux", "baz"]],
      ∀ entries, round.answer = .ok entries → "foo:a:b" ∈ entries ∧ "bar:b c" ∈ entries := by
  have accepted : ofEntries ["foo:a:b", " bar : b c "] =
      .ok ⟨[("foo", "a:b"), ("bar", "b c")], by decide, by decide⟩ := by rfl
  refine ⟨accepted, ?_⟩
  intro round made entries answered
  obtain ⟨_, _, _, holds, _⟩ := (rounds_keep_names accepted _).2.2 round made
  have kept := (holds entries answered).1
  exact ⟨kept ("foo", "a:b") (by decide), kept ("bar", "b c") (by decide)⟩

end PropertyMangling.Mapping
