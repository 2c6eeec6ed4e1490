import PropertyMangling.Proofs.Mapping.Outcome
import PropertyMangling.Proofs.Mapping.Rounds
/-!
# Naming in several batches

The names that a mapping gains, in whatever batches, are the first ones that its
seed leaves free: an assignment that starts from the entries of another one goes
on in the order of the free names where that one stopped. How many names there
are is how many tokens there are, so the set of names depends on the set of
tokens alone. Which name goes to which token does depend on the batches.
-/
namespace PropertyMangling.Mapping

open ShortName

/-- A mapping that grew from a seed by naming tokens: it has the tokens of both, and behind the
names of the seed the first free ones. -/
structure GrowsTo (start : Mapping) (given : List String) (final : Mapping) : Prop where
  mem_tokens_iff : ∀ token, token ∈ final.tokens ↔ token ∈ start.tokens ∨ token ∈ given
  names_perm : ∃ count,
    final.names.Perm (start.names ++ (List.range count).map (freeName start.names))

variable {start middle final other : Mapping} {given more : List String}

/-- A mapping has as many names as tokens, one of each in every pair. -/
theorem length_names (mapping : Mapping) : mapping.names.length = mapping.tokens.length := by
  rw [names, tokens, List.length_map, List.length_map]

/-- Nothing has been named in the beginning, so a mapping grows to itself without any lines. -/
theorem GrowsTo.refl (start : Mapping) : GrowsTo start [] start where
  mem_tokens_iff token := by simp
  names_perm := ⟨0, by simp⟩

/-- Growth goes on from every mapping with the same pairs, whatever their order. -/
theorem GrowsTo.of_perm (grown : GrowsTo start given final)
    (same : final.pairs.Perm other.pairs) : GrowsTo start given other where
  mem_tokens_iff token :=
    (same.map Prod.fst).symm.mem_iff.trans (grown.mem_tokens_iff token)
  names_perm := by
    obtain ⟨count, names⟩ := grown.names_perm
    exact ⟨count, (same.map Prod.snd).symm.trans names⟩

/-- An assignment goes on where the growth from the seed stopped. -/
theorem GrowsTo.assign (grown : GrowsTo start given middle) {lines : List String}
    (pairs : final.pairs = middle.pairs ++ additions middle lines) :
    GrowsTo start (given ++ listedTokens lines) final := by
  rw [additions, ← freshPairs_eq] at pairs
  constructor
  · intro token
    have tokens : final.tokens = middle.tokens ++ middle.newTokens (listedTokens lines) := by
      rw [Mapping.tokens, pairs, List.map_append, map_fst_freshPairs, Mapping.tokens]
    rw [tokens, List.mem_append, mem_newTokens_iff, get?_eq_none_iff, List.mem_append,
      ← or_assoc, ← grown.mem_tokens_iff]
    by_cases known : token ∈ middle.tokens <;> simp [known]
  · obtain ⟨count, names⟩ := grown.names_perm
    let fresh := (middle.newTokens (listedTokens lines)).length
    refine ⟨count + fresh, ?_⟩
    have gained : final.names = middle.names ++ (List.range fresh).map (freeName middle.names) := by
      rw [Mapping.names, pairs, List.map_append, map_snd_freshPairs, ← List.range_eq_range',
        Mapping.names]
    have later (place : Nat) :
        freeName middle.names place = freeName start.names (count + place) := by
      rw [freeName_congr (fun _ => names.mem_iff), freeName_freeNames]
    have behind : (List.range fresh).map (freeName middle.names) =
        ((List.range fresh).map (count + ·)).map (freeName start.names) := by
      rw [List.map_map]
      exact List.map_congr_left fun place _ => later place
    rw [gained, behind, List.range_add, List.map_append, ← List.append_assoc]
    exact names.append_right _

/-- What a seed grows to has the same tokens and the same names whenever the same tokens were given. -/
theorem GrowsTo.same_sides (grown : GrowsTo start given final) (alsoGrown : GrowsTo start more other)
    (same : ∀ token, token ∈ given ↔ token ∈ more) :
    final.tokens.Perm other.tokens ∧ final.names.Perm other.names := by
  have tokens : final.tokens.Perm other.tokens := by
    refine (List.perm_ext_iff_of_nodup final.tokens_nodup other.tokens_nodup).mpr fun token => ?_
    change token ∈ final.tokens ↔ token ∈ other.tokens
    rw [grown.mem_tokens_iff, alsoGrown.mem_tokens_iff, same]
  refine ⟨tokens, ?_⟩
  obtain ⟨count, names⟩ := grown.names_perm
  obtain ⟨otherCount, otherNames⟩ := alsoGrown.names_perm
  have sameCount : count = otherCount := by
    have length := tokens.length_eq
    rw [← length_names, ← length_names, names.length_eq, otherNames.length_eq] at length
    simpa using length
  exact names.trans (sameCount ▸ otherNames.symm)

/-- What an assignment to an accepted seed adds can be written. -/
theorem isWritable_of_additions {seed lines : List String} (accepted : ofEntries seed = .ok middle)
    (readable : ∀ line ∈ lines, isUnreadable line = false)
    (pairs : final.pairs = middle.pairs ++ additions middle lines) : final.IsWritable := by
  have read := eligibleTokens_eq_ok_iff.mpr ⟨readable, rfl⟩
  rw [additions, ← freshPairs_eq] at pairs
  exact isWritable_assigned (isWritable_of_ofEntries accepted) read pairs

/-- The answer of an assignment to an accepted seed is accepted, and the seed has grown to it. -/
theorem exists_growsTo {seed lines : List String} (accepted : ofEntries seed = .ok middle)
    (grown : GrowsTo start given middle)
    (readable : ∀ line ∈ lines, isUnreadable line = false) :
    ∃ final : Mapping, Mapping.assign seed lines = .ok final.entries ∧ ∃ again,
      ofEntries final.entries = .ok again ∧
        GrowsTo start (given ++ listedTokens lines) again := by
  obtain ⟨final, named, pairs⟩ := exists_assigned accepted readable
  have writable : final.IsWritable := isWritable_of_additions accepted readable pairs
  obtain ⟨again, reread, sorted⟩ := ofEntries_entries writable
  refine ⟨final, by rw [Mapping.assign, named]; rfl, again, reread, ?_⟩
  exact (grown.assign pairs).of_perm (sorted ▸ final.sortedPairs_perm.symm)

/-- Batches whose lines can all be read are all named, and the seed grows by their tokens. -/
theorem exists_growsTo_batches {seed : List String} (accepted : ofEntries seed = .ok middle)
    (grown : GrowsTo start given middle) (batches : List (List String))
    (readable : ∀ line ∈ batches.flatten, isUnreadable line = false) :
    ∃ entries, batches.foldlM Mapping.assign seed = .ok entries ∧ ∃ again,
      ofEntries entries = .ok again ∧
        GrowsTo start (given ++ batches.flatMap listedTokens) again := by
  induction batches generalizing seed middle given with
  | nil => exact ⟨seed, rfl, middle, accepted, by simpa using grown⟩
  | cons lines rest inductionHypothesis =>
    rw [List.flatten_cons, List.forall_mem_append] at readable
    obtain ⟨next, answered, again, reread, growing⟩ := exists_growsTo accepted grown readable.1
    obtain ⟨entries, named, last, lastRead, done⟩ :=
      inductionHypothesis reread growing readable.2
    refine ⟨entries, ?_, last, lastRead, ?_⟩
    · rw [List.foldlM_cons, answered]
      exact named
    · rwa [List.flatMap_cons, ← List.append_assoc]

/-- Batches are all named exactly when their lines can all be read. -/
theorem exists_foldlM_assign_iff {seed : List String} (accepted : ofEntries seed = .ok start)
    (batches : List (List String)) :
    (∃ entries, batches.foldlM assign seed = .ok entries) ↔
      ∀ line ∈ batches.flatten, isUnreadable line = false := by
  constructor
  · rintro ⟨entries, named⟩
    induction batches generalizing seed start with
    | nil => simp
    | cons lines rest inductionHypothesis =>
      rw [List.foldlM_cons] at named
      cases answered : assign seed lines with
      | error fault =>
        rw [answered] at named
        cases named
      | ok next =>
        rw [answered] at named
        obtain ⟨_, reread, _⟩ := assign_accepted accepted answered
        rw [List.flatten_cons, List.forall_mem_append]
        exact ⟨(exists_assign_iff accepted).mp ⟨next, answered⟩, inductionHypothesis reread named⟩
  · intro readable
    obtain ⟨entries, named, _⟩ :=
      exists_growsTo_batches accepted (GrowsTo.refl start) batches readable
    exact ⟨entries, named⟩

/-- Naming tokens in several batches wastes no names.

Each batch starts from the entries that the one before it answered with. The
batches succeed exactly when all their lines succeed at once, and then the same
tokens are mapped and the same names are used, although they may be paired
differently. -/
theorem batches_waste_no_names {seed : List String} (accepted : ofEntries seed = .ok start)
    (batches : List (List String)) :
    ((∃ entries, batches.foldlM assign seed = .ok entries) ↔
      ∃ entries, assign seed batches.flatten = .ok entries) ∧
    ∀ entries whole, batches.foldlM assign seed = .ok entries →
      assign seed batches.flatten = .ok whole →
      ∃ first second, ofEntries entries = .ok first ∧ ofEntries whole = .ok second ∧
        first.tokens.Perm second.tokens ∧ first.names.Perm second.names := by
  refine ⟨by rw [exists_foldlM_assign_iff accepted, exists_assign_iff accepted], ?_⟩
  intro entries whole named namedAtOnce
  have readable := (exists_foldlM_assign_iff accepted batches).mp ⟨entries, named⟩
  obtain ⟨_, batchwise, first, firstRead, grown⟩ :=
    exists_growsTo_batches accepted (GrowsTo.refl start) batches readable
  obtain ⟨_, atOnce, second, secondRead, alsoGrown⟩ :=
    exists_growsTo accepted (GrowsTo.refl start) readable
  have same := Except.ok.inj (named.symm.trans batchwise)
  have sameWhole := Except.ok.inj (namedAtOnce.symm.trans atOnce)
  refine ⟨first, second, same ▸ firstRead, sameWhole ▸ secondRead, ?_⟩
  refine grown.same_sides alsoGrown fun token => ?_
  simp only [List.nil_append, List.mem_flatMap, mem_listedTokens_iff, List.mem_flatten]
  constructor
  · rintro ⟨lines, batch, line, listed, found⟩
    exact ⟨line, ⟨lines, batch, listed⟩, found⟩
  · rintro ⟨line, ⟨lines, batch, listed⟩, found⟩
    exact ⟨lines, batch, line, listed, found⟩

/-- Two batches behind a seed that uses the first name; the second batch repeats a token, and holds
one that comes before the token of the first. -/
theorem batches_waste_no_names_behind_seed :
    ofEntries ["x:a"] = .ok ⟨[("x", "a")], by decide, by decide⟩ ∧ ∃ entries whole,
      [["foo"], ["bar # new", "foo"]].foldlM assign ["x:a"] = .ok entries ∧
      assign ["x:a"] [["foo"], ["bar # new", "foo"]].flatten = .ok whole ∧
      ∃ first second, ofEntries entries = .ok first ∧ ofEntries whole = .ok second ∧
        first.tokens.Perm second.tokens ∧ first.names.Perm second.names := by
  have accepted : ofEntries ["x:a"] = .ok ⟨[("x", "a")], by decide, by decide⟩ := rfl
  have readable : ∀ line ∈ [["foo"], ["bar # new", "foo"]].flatten, isUnreadable line = false := by
    decide
  obtain ⟨alike, sides⟩ := batches_waste_no_names accepted [["foo"], ["bar # new", "foo"]]
  obtain ⟨entries, named⟩ := (exists_foldlM_assign_iff accepted _).mpr readable
  obtain ⟨whole, atOnce⟩ := alike.mp ⟨entries, named⟩
  exact ⟨accepted, entries, whole, named, atOnce, sides entries whole named atOnce⟩

end PropertyMangling.Mapping
