import PropertyMangling.Mapping.Assignment
import PropertyMangling.Proofs.Mapping.Entries
import PropertyMangling.Proofs.ShortName.Search
import PropertyMangling.Proofs.TokenFile.Words
/-!
# What an assignment adds

An assignment keeps the pairs of its seed and puts a pair behind them for every
token that the seed does not know, each token once, in the order in which they
come. The names are the first ones that the seed leaves free, in their order:
an allocator that goes on behind the names it gave out, with these names taken
too, meets the same names as one that looks at the seed alone. So no insertion
fails, and only a line without a token can stop an assignment to an accepted seed.
-/
namespace PropertyMangling.Mapping

open ShortName

/-- The tokens that a mapping does not know, each at its first occurrence. -/
def newTokens (mapping : Mapping) (tokens : List String) : List String :=
  (tokens.filter fun token => (mapping.get? token).isNone).eraseDups

/-- Tokens paired with the free names from a place on. -/
noncomputable def freshPairs (taken : List String) : Nat → List String → List (String × String)
  | _, [] => []
  | place, token :: rest => (token, freeName taken place) :: freshPairs taken (place + 1) rest

/-- The new pairs have the tokens that are to be named, in their order. -/
theorem map_fst_freshPairs (taken tokens : List String) (place : Nat) :
    (freshPairs taken place tokens).map Prod.fst = tokens := by
  induction tokens generalizing place with
  | nil => rfl
  | cons token rest inductionHypothesis => simp [freshPairs, inductionHypothesis]

/-- The new pairs have the free names from a place on, one after the other. -/
theorem map_snd_freshPairs (taken tokens : List String) (place : Nat) :
    (freshPairs taken place tokens).map Prod.snd =
      (List.range' place tokens.length).map (freeName taken) := by
  induction tokens generalizing place with
  | nil => rfl
  | cons token rest inductionHypothesis =>
    simp [freshPairs, inductionHypothesis, List.range'_succ]

/-- A token that the mapping knows is no new one, so it takes no name. -/
theorem newTokens_cons_known {mapping : Mapping} {token name : String}
    (known : mapping.get? token = some name) (rest : List String) :
    mapping.newTokens (token :: rest) = mapping.newTokens rest := by
  simp [newTokens, known]

/-- Once a new token has its name, the others that are new are those of the rest. -/
theorem newTokens_cons_new {mapping extended : Mapping} {token name : String}
    (unknown : mapping.get? token = none)
    (extension : extended.pairs = mapping.pairs ++ [(token, name)]) (rest : List String) :
    mapping.newTokens (token :: rest) = token :: extended.newTokens rest := by
  have stillNew : ∀ other, (extended.get? other).isNone =
      ((mapping.get? other).isNone && !(other == token)) := by
    intro other
    rw [Bool.eq_iff_iff, Bool.and_eq_true, Option.isNone_iff_eq_none, Option.isNone_iff_eq_none,
      get?_eq_none_iff, get?_eq_none_iff, tokens, extension]
    simp [tokens, not_or]
  have filtered : (rest.filter fun other => (mapping.get? other).isNone).filter
      (fun other => !(other == token)) = rest.filter fun other => (extended.get? other).isNone := by
    rw [List.filter_filter]
    exact List.filter_congr fun other _ => by rw [stillNew, Bool.and_comm]
  rw [newTokens, List.filter_cons_of_pos (by simp [unknown]), List.eraseDups_cons, filtered,
    newTokens]

/-- A mapping on its way from a base: behind the base's names come the first free ones, and the
allocator stands behind the numbers of these. -/
structure Progress (base mapping : Mapping) (allocator : Allocator) (given : Nat) : Prop where
  names_eq : mapping.names = base.names ++ (List.range given).map (freeName base.names)
  position : Nat.count (Free base.names) allocator.next = given

/-- No name has been given out in the beginning, so the progress starts from the mapping
itself. -/
theorem Progress.start (base : Mapping) : Progress base base {} 0 where
  names_eq := by simp
  position := Nat.count_zero _

/-- The next name is the next one that the base leaves free, although by now more names are taken:
those lie before the allocator. -/
theorem Progress.allocate {base mapping : Mapping} {allocator : Allocator} {given : Nat}
    (progress : Progress base mapping allocator given) :
    allocator.allocate mapping.names =
      (freeName base.names given, ⟨Nat.nth (Free base.names) given + 1⟩) := by
  have unaffected : ∀ index, allocator.next ≤ index →
      (Free mapping.names index ↔ Free base.names index) := by
    intro index reached
    rw [progress.names_eq]
    apply free_append_iff
    intro written
    obtain ⟨place, member, same⟩ := List.mem_map.mp written
    have before : place < Nat.count (Free base.names) allocator.next := by
      rw [progress.position]
      exact List.mem_range.mp member
    have number : Nat.nth (Free base.names) place = index := ofIndex_injective same
    have passed : Nat.nth (Free base.names) place < allocator.next := Nat.nth_lt_of_lt_count before
    omega
  have found : firstFree mapping.names allocator.next = Nat.nth (Free base.names) given := by
    rw [firstFree_congr unaffected, firstFree_eq_nth, progress.position]
  simp only [Allocator.allocate, found, freeName]

/-- Giving out one more name keeps to the order of the free names. -/
theorem Progress.step {base mapping extended : Mapping} {allocator : Allocator} {given : Nat}
    {token : String} (progress : Progress base mapping allocator given)
    (extension : extended.pairs = mapping.pairs ++ [(token, freeName base.names given)]) :
    Progress base extended ⟨Nat.nth (Free base.names) given + 1⟩ (given + 1) where
  names_eq := by
    have appended : extended.names = mapping.names ++ [freeName base.names given] := by
      simp [names, extension]
    rw [appended, progress.names_eq, List.range_succ, List.map_append, List.append_assoc,
      List.map_singleton]
  position := Nat.count_nth_succ_of_infinite (free_infinite base.names) given

/-- The name that is given out next is not in use. -/
theorem Progress.name_new {base mapping : Mapping} {allocator : Allocator} {given : Nat}
    (progress : Progress base mapping allocator given) :
    freeName base.names given ∉ mapping.names := by
  rw [progress.names_eq, List.mem_append, not_or]
  refine ⟨freeName_not_mem base.names given, fun written => ?_⟩
  obtain ⟨place, member, same⟩ := List.mem_map.mp written
  have before : place < given := List.mem_range.mp member
  have equal : place = given := freeName_injective base.names same
  omega

/-- Naming tokens succeeds, and adds exactly the new tokens with the names that are free.

Induct over the tokens. A known token changes nothing; a new one takes the next
free name, after which the tokens that are still new are those of the rest. -/
theorem nameTokens_eq {base mapping : Mapping} {allocator : Allocator} {given : Nat}
    (progress : Progress base mapping allocator given) (tokens : List String) :
    ∃ final, nameTokens mapping allocator tokens = .ok final ∧
      final.pairs = mapping.pairs ++ freshPairs base.names given (mapping.newTokens tokens) := by
  induction tokens generalizing mapping allocator given with
  | nil => exact ⟨mapping, rfl, by simp [newTokens, freshPairs]⟩
  | cons token rest inductionHypothesis =>
    cases lookup : mapping.get? token with
    | some name =>
      obtain ⟨final, named, pairs⟩ := inductionHypothesis progress
      refine ⟨final, ?_, ?_⟩
      · rw [nameTokens, lookup]
        exact named
      · rw [pairs, newTokens_cons_known lookup]
    | none =>
      obtain ⟨extended, inserted, extension⟩ :=
        insert_new (get?_eq_none_iff.mp lookup) progress.name_new
      obtain ⟨final, named, pairs⟩ := inductionHypothesis (progress.step extension)
      refine ⟨final, ?_, ?_⟩
      · rw [nameTokens, lookup]
        simp only [progress.allocate, inserted]
        exact named
      · rw [pairs, extension, newTokens_cons_new lookup extension, freshPairs, List.append_assoc,
          List.singleton_append]

/-- With an accepted seed and lines that can be read, an assignment succeeds, and adds exactly the
new tokens with the names that the seed leaves free. -/
theorem assigned_eq {seed lines tokens : List String} {start : Mapping}
    (accepted : ofEntries seed = .ok start) (read : eligibleTokens lines = .ok tokens) :
    ∃ final, assigned seed lines = .ok final ∧
      final.pairs = start.pairs ++ freshPairs start.names 0 (start.newTokens tokens) := by
  obtain ⟨final, named, pairs⟩ := nameTokens_eq (Progress.start start) tokens
  refine ⟨final, ?_, pairs⟩
  rw [assigned, accepted]
  change (eligibleTokens lines >>= nameTokens start {}) = _
  rw [read]
  exact named

/-- The new tokens are the given ones that the mapping does not know. -/
theorem mem_newTokens_iff {mapping : Mapping} {tokens : List String} {token : String} :
    token ∈ mapping.newTokens tokens ↔ token ∈ tokens ∧ mapping.get? token = none := by
  rw [newTokens, List.mem_eraseDups, List.mem_filter, Option.isNone_iff_eq_none]

section Assigned

variable {start final : Mapping} {tokens : List String}
  (pairs : final.pairs = start.pairs ++ freshPairs start.names 0 (start.newTokens tokens))
include pairs

/-- A token is left without a name when the seed does not know it and it was not given. -/
theorem get?_assigned_eq_none_iff {token : String} :
    final.get? token = none ↔ start.get? token = none ∧ token ∉ tokens := by
  have known : final.tokens = start.tokens ++ start.newTokens tokens := by
    rw [Mapping.tokens, pairs, List.map_append, map_fst_freshPairs, Mapping.tokens]
  rw [get?_eq_none_iff, known, List.mem_append, mem_newTokens_iff, not_or, ← get?_eq_none_iff]
  constructor
  · rintro ⟨unknown, notNew⟩
    exact ⟨unknown, fun given => notNew ⟨given, unknown⟩⟩
  · rintro ⟨unknown, notGiven⟩
    exact ⟨unknown, fun new => notGiven new.1⟩

/-- A token that was not known has a name exactly when it is paired with it as a new one. -/
theorem fresh_name_iff {token name : String} :
    start.get? token = none ∧ final.get? token = some name ↔
      (token, name) ∈ freshPairs start.names 0 (start.newTokens tokens) := by
  rw [get?_eq_some_iff, pairs, List.mem_append]
  constructor
  · rintro ⟨unknown, old | fresh⟩
    · rw [get?_eq_some_iff.mpr old] at unknown
      cases unknown
    · exact fresh
  · intro fresh
    have listed : token ∈ (freshPairs start.names 0 (start.newTokens tokens)).map Prod.fst :=
      List.mem_map.mpr ⟨_, fresh, rfl⟩
    rw [map_fst_freshPairs] at listed
    exact ⟨(mem_newTokens_iff.mp listed).2, Or.inr fresh⟩

/-- The names of new tokens are the first ones that the seed leaves free, one for each of them. -/
theorem exists_fresh_name_iff {name : String} :
    (∃ token, start.get? token = none ∧ final.get? token = some name) ↔
      ∃ index, ofIndex index = name ∧ Free start.names index ∧
        Nat.count (Free start.names) index < (start.newTokens tokens).length := by
  rw [← mem_freeNames_iff, List.range_eq_range', ← map_snd_freshPairs, List.mem_map]
  constructor
  · rintro ⟨token, fresh⟩
    exact ⟨_, (fresh_name_iff pairs).mp fresh, rfl⟩
  · rintro ⟨⟨token, _⟩, fresh, rfl⟩
    exact ⟨token, (fresh_name_iff pairs).mpr fresh⟩

end Assigned

/-- With an accepted seed, only a line without a token stops an assignment. -/
theorem assigned_eq_error_iff {seed lines : List String} {start : Mapping} {fault : Fault}
    (accepted : ofEntries seed = .ok start) :
    assigned seed lines = .error fault ↔ eligibleTokens lines = .error fault := by
  cases read : eligibleTokens lines with
  | error other =>
    have stopped : assigned seed lines = .error other := by
      rw [assigned, accepted]
      change (eligibleTokens lines >>= nameTokens start {}) = _
      rw [read]
      rfl
    rw [stopped]
    simp
  | ok tokens =>
    obtain ⟨final, named, _⟩ := assigned_eq accepted read
    rw [named]
    simp

end PropertyMangling.Mapping
