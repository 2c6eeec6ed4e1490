import PropertyMangling.Proofs.Mapping.Batches
/-!
# How lines are annotated

The lines of an assignment are sorted as they are written, blanks and comments
included, and a token takes its place from the first line that has it. So what a
person adds to a line can move its token, and with it the names of all tokens that
come later: a line that is indented comes before all others. Two files with the
same tokens have the same answer exactly when their new tokens first occur in the
same order. The set of names is the same in any case.

Lines that open with their tokens are on the safe side as long as the character
behind a token comes before those of identifiers in the order of characters. The
space, the tab and the comment marker do, a colon or an ideographic space do not.
-/
namespace PropertyMangling.Mapping

open Identifier ShortName Text

/-- The line opens with its token, and a character that comes before all characters of identifiers
ends it. -/
def opensWithToken (line : String) : Bool :=
  line.toList.head?.any isPart && (line.toList.dropWhile isPart).head?.all (· < '$')

/-- No character of an identifier comes before the dollar sign in the order of characters. -/
theorem not_lt_dollar {c : Char} (part : isPart c = true) : ¬ c < '$' := by
  have low : '$'.toNat ≤ c.toNat := (range_of_isPart part).1
  exact Nat.not_lt.mpr low

/-- Runs of identifier characters keep their order whatever ends them, as long as the lesser one is
ended by a character before all of theirs. -/
theorem append_lt_append {run other rest tail : List Char} (lesser : run < other)
    (parts : ∀ c ∈ other, isPart c = true) (ended : ∀ c ∈ rest.head?, c < '$') :
    run ++ rest < other ++ tail := by
  induction run generalizing other with
  | nil =>
    cases other with
    | nil => exact absurd lesser (List.lt_irrefl [])
    | cons c more =>
      cases rest with
      | nil => exact List.nil_lt_cons c (more ++ tail)
      | cons first others =>
        have before : first < '$' := ended first rfl
        have least : '$' ≤ c := Char.not_lt.mp (not_lt_dollar (parts c List.mem_cons_self))
        exact List.cons_lt_cons_iff.mpr (Or.inl (Std.lt_of_lt_of_le before least))
  | cons c run inductionHypothesis =>
    cases other with
    | nil => exact absurd lesser (List.not_lt_nil _)
    | cons d more =>
      rw [List.cons_append, List.cons_append, List.cons_lt_cons_iff]
      rcases List.cons_lt_cons_iff.mp lesser with before | ⟨same, lesserRest⟩
      · exact Or.inl before
      · exact Or.inr ⟨same, inductionHypothesis lesserRest
          fun c inside => parts c (List.mem_cons_of_mem d inside)⟩

/-- A line that opens with its token is this token and the rest that it is ended by. -/
theorem exists_rest_of_opensWithToken {line : String} (opens : opensWithToken line = true) :
    ∃ token rest, TokenFile.tokenOf? line = some token ∧ line.toList = token.toList ++ rest ∧
      ∀ c ∈ rest.head?, c < '$' := by
  rw [opensWithToken, Bool.and_eq_true] at opens
  obtain ⟨opens, ended⟩ := opens
  let run := line.toList.takeWhile isPart
  let rest := line.toList.dropWhile isPart
  have whole : line.toList = run ++ rest := List.takeWhile_append_dropWhile.symm
  have filled : run ≠ [] := by
    obtain ⟨c, atStart, part⟩ := (Option.any_eq_true _ _).mp opens
    obtain ⟨others, started⟩ := List.head?_eq_some_iff.mp atStart
    simp only [run, started, List.takeWhile_cons_of_pos part]
    exact List.cons_ne_nil _ _
  have stopped : ∀ c ∈ rest.head?, isPart c = false := by
    intro c atStart
    have stops := List.head?_dropWhile_not isPart line.toList
    rw [Option.mem_def.mp atStart] at stops
    exact stops
  have first : TokenFile.firstRun line.toList = run := by
    rw [whole]
    exact TokenFile.firstRun_append filled (fun c inside => List.mem_takeWhile_imp inside) stopped
  refine ⟨String.ofList run, rest, TokenFile.tokenOf?_eq_some first filled, ?_, ?_⟩
  · rw [String.toList_ofList, whole]
  · intro c atStart
    have before := (Option.all_eq_true _ _).mp ended c (Option.mem_def.mp atStart)
    simpa using before

/-- Lines that open with their tokens stand in the order of these. -/
theorem token_le_of_le {line other token otherToken : String} (opens : opensWithToken other = true)
    (read : TokenFile.tokenOf? line = some token)
    (otherRead : TokenFile.tokenOf? other = some otherToken)
    (alsoOpens : opensWithToken line = true) (ascending : line ≤ other) : token ≤ otherToken := by
  obtain ⟨first, rest, found, whole, _⟩ := exists_rest_of_opensWithToken alsoOpens
  obtain ⟨second, tail, otherFound, otherWhole, ended⟩ := exists_rest_of_opensWithToken opens
  obtain rfl : first = token := Option.some.inj (found.symm.trans read)
  obtain rfl : second = otherToken := Option.some.inj (otherFound.symm.trans otherRead)
  apply String.not_lt.mp
  intro lesser
  have word := TokenFile.isWord_of_tokenOf? read
  have behind : other.toList < line.toList := by
    rw [whole, otherWhole]
    exact append_lt_append lesser word.2 ended
  exact String.not_lt.mpr ascending behind

/-- From lines that open with their tokens the tokens are listed in their own order. -/
theorem listedTokens_ascend {lines : List String}
    (opens : ∀ line ∈ lines, isListed line = true → opensWithToken line = true) :
    (listedTokens lines).Pairwise (· ≤ ·) := by
  rw [listedTokens, List.pairwise_filterMap]
  have opening {line : String} (inside : line ∈ (sorted lines).filter isListed) :
      opensWithToken line = true := by
    obtain ⟨listed, picked⟩ := List.mem_filter.mp inside
    exact opens line (mem_sorted.mp listed) picked
  refine ((sorted_ascends lines).filter isListed).imp_of_mem ?_
  intro line other inside otherInside ascending token read otherToken otherRead
  exact token_le_of_le (opening otherInside) read otherRead (opening inside) ascending

/-- Tokens joined with the free names are determined by the pairs that come of it. -/
theorem tokens_eq_of_freshPairs_perm {taken tokens others : List String}
    (same : (freshPairs taken 0 tokens).Perm (freshPairs taken 0 others)) : tokens = others := by
  have length : tokens.length = others.length := by
    simpa [freshPairs_eq] using same.length_eq
  refine List.ext_getElem length fun place inside alsoInside => ?_
  have listed : (tokens[place], freeName taken place) ∈ freshPairs taken 0 tokens := by
    rw [freshPairs_eq]
    exact List.mem_map.mpr ⟨(tokens[place], place), List.mk_mem_zipIdx_iff_getElem?.mpr
      (List.getElem?_eq_getElem inside), rfl⟩
  have alsoListed := same.mem_iff.mp listed
  rw [freshPairs_eq] at alsoListed
  obtain ⟨⟨token, other⟩, joined, pair⟩ := List.mem_map.mp alsoListed
  obtain ⟨sameToken, sameName⟩ := Prod.mk.inj pair
  have samePlace : other = place := freeName_injective taken sameName
  have found : others[place]? = some token := by
    rw [← samePlace]
    exact List.mk_mem_zipIdx_iff_getElem?.mp joined
  rw [List.getElem?_eq_getElem alsoInside] at found
  exact sameToken.symm.trans (Option.some.inj found).symm

/-- Two mappings that can be written have the same entries only when they have the same pairs. -/
theorem perm_of_entries_eq {first second : Mapping} (writable : first.IsWritable)
    (alsoWritable : second.IsWritable) (same : first.entries = second.entries) :
    first.pairs.Perm second.pairs := by
  obtain ⟨again, read, sorted⟩ := ofEntries_entries writable
  obtain ⟨other, otherRead, otherSorted⟩ := ofEntries_entries alsoWritable
  rw [same, otherRead] at read
  obtain rfl : other = again := Except.ok.inj read
  have sameSorted : first.sortedPairs = second.sortedPairs := sorted.symm.trans otherSorted
  exact first.sortedPairs_perm.symm.trans (sameSorted ▸ second.sortedPairs_perm)

/-- Two files with the same tokens have the same answer exactly when their new tokens first occur in
the same order.

That is the order of the lines as they are written, so it is the same when all
lines that hold a token to be named open with it; comments, repetitions and the
order of the lines make no difference then. In any case the same tokens are
mapped and the same names are used. -/
theorem assign_alike_iff {seed first second : List String} {start : Mapping}
    (accepted : ofEntries seed = .ok start)
    (readable : ∀ line ∈ first ++ second, isUnreadable line = false)
    (same : ∀ token, token ∈ listedTokens first ↔ token ∈ listedTokens second) :
    (assign seed first = assign seed second ↔
      start.newTokens (listedTokens first) = start.newTokens (listedTokens second)) ∧
    ((∀ line ∈ first ++ second, isListed line = true → opensWithToken line = true) →
      assign seed first = assign seed second) ∧
    ∃ one other : Mapping,
      assign seed first = .ok one.entries ∧ assign seed second = .ok other.entries ∧
        one.tokens.Perm other.tokens ∧ one.names.Perm other.names := by
  obtain ⟨firstReadable, secondReadable⟩ := List.forall_mem_append.mp readable
  obtain ⟨one, named, pairs⟩ := exists_assigned accepted firstReadable
  obtain ⟨other, otherNamed, otherPairs⟩ := exists_assigned accepted secondReadable
  have answer : assign seed first = .ok one.entries := by rw [assign, named]; rfl
  have otherAnswer : assign seed second = .ok other.entries := by rw [assign, otherNamed]; rfl
  have alike_iff : assign seed first = assign seed second ↔
      start.newTokens (listedTokens first) = start.newTokens (listedTokens second) := by
    rw [answer, otherAnswer, Except.ok.injEq]
    constructor
    · intro alike
      have rearranged := perm_of_entries_eq (isWritable_of_additions accepted firstReadable pairs)
        (isWritable_of_additions accepted secondReadable otherPairs) alike
      rw [pairs, otherPairs, List.perm_append_left_iff, additions, additions, ← freshPairs_eq,
        ← freshPairs_eq] at rearranged
      exact tokens_eq_of_freshPairs_perm rearranged
    · intro sameOrder
      have samePairs : one.pairs = other.pairs := by
        rw [pairs, otherPairs, additions, additions, sameOrder]
      rw [eq_of_pairs_eq samePairs]
  refine ⟨alike_iff, fun opens => alike_iff.mpr ?_, one, other, answer, otherAnswer, ?_⟩
  · obtain ⟨firstOpens, secondOpens⟩ := List.forall_mem_append.mp opens
    refine eraseDups_eq_of_ascending ((listedTokens_ascend firstOpens).filter _)
      ((listedTokens_ascend secondOpens).filter _) fun token => ?_
    rw [List.mem_filter, List.mem_filter, same]
  · have grown := (GrowsTo.refl start).assign pairs
    have alsoGrown := (GrowsTo.refl start).assign otherPairs
    exact grown.same_sides alsoGrown (by simpa using same)

/-- A line that is indented takes the first name, which goes to another token without the blank; a
comment and a repetition change nothing. -/
theorem indented_line_takes_first_name :
    ofEntries [] = .ok empty ∧
    (∀ line ∈ ["bar", "foo"] ++ [" foo", "bar"], isUnreadable line = false) ∧
    (∀ token, token ∈ listedTokens ["bar", "foo"] ↔ token ∈ listedTokens [" foo", "bar"]) ∧
    assign [] ["bar", "foo"] ≠ assign [] [" foo", "bar"] ∧
    (∀ token, token ∈ listedTokens ["bar", "foo"] ↔
      token ∈ listedTokens ["bar", "foo", "foo # kept"]) ∧
    assign [] ["bar", "foo"] = assign [] ["bar", "foo", "foo # kept"] := by
  have accepted : ofEntries [] = .ok empty := rfl
  have readable : ∀ line ∈ ["bar", "foo"] ++ [" foo", "bar"], isUnreadable line = false := by decide
  have plain : listedTokens ["bar", "foo"] = ["bar", "foo"] := by
    rw [listedTokens, sorted_eq_self (by decide)]
    decide
  have indented : listedTokens [" foo", "bar"] = ["foo", "bar"] := by
    rw [listedTokens, sorted_eq_self (by decide)]
    decide
  have commented : listedTokens ["bar", "foo", "foo # kept"] = ["bar", "foo", "foo"] := by
    rw [listedTokens, sorted_eq_self (by decide)]
    decide
  have same : ∀ token, token ∈ listedTokens ["bar", "foo"] ↔
      token ∈ listedTokens [" foo", "bar"] := by
    intro token
    rw [plain, indented, List.mem_pair, List.mem_pair, or_comm]
  have alsoSame : ∀ token, token ∈ listedTokens ["bar", "foo"] ↔
      token ∈ listedTokens ["bar", "foo", "foo # kept"] := by
    intro token
    rw [plain, commented]
    simp
  refine ⟨accepted, readable, same, fun alike => ?_, alsoSame, ?_⟩
  · have sameOrder := (assign_alike_iff accepted readable same).1.mp alike
    rw [plain, indented] at sameOrder
    exact absurd sameOrder (by decide)
  · exact (assign_alike_iff accepted (by decide) alsoSame).2.1 (by decide)

end PropertyMangling.Mapping
