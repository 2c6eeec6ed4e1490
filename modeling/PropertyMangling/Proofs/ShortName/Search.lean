import Mathlib.Data.Nat.Nth
import PropertyMangling.Proofs.ShortName.Numbering
/-!
# The search for a free name

The search takes the least free number at or after its start. It is bounded, and
the bound is never met: among one more candidate than there are names to refuse,
not all can be refused, because candidates are distinct. So free numbers never
run out, and counting them from zero gives every place in their order one name,
`freeName`. This order depends on the taken names alone, not on any allocator.
-/
namespace PropertyMangling.ShortName

/-- Numbers whose names may be handed out while others are taken. -/
def Free (taken : List String) (index : Nat) : Prop := isFree taken index = true

instance (taken : List String) : DecidablePred (Free taken) := fun _ =>
  inferInstanceAs (Decidable (_ = true))

/-- A name is refused only because it is taken or a word of the language. -/
theorem free_iff {taken : List String} {index : Nat} :
    Free taken index ↔ ofIndex index ∉ taken ∧ ofIndex index ∉ Identifier.words := by
  simp [Free, isFree, isPlain_ofIndex_iff]

/-- Names that are not written with this number do not decide whether it is free. -/
theorem free_append_iff {taken more : List String} {index : Nat} (other : ofIndex index ∉ more) :
    Free (taken ++ more) index ↔ Free taken index := by
  simp [free_iff, other]

/-- How many numbers can be refused. -/
def refusals (taken : List String) : Nat := taken.length + Identifier.words.length

/-- Of more candidates in a row than can be refused, one is free. -/
theorem exists_free (taken : List String) (start : Nat) :
    ∃ index, start ≤ index ∧ index < start + (refusals taken + 1) ∧ Free taken index := by
  by_contra none
  have refused : ∀ index, start ≤ index → index < start + (refusals taken + 1) →
      ofIndex index ∈ taken ++ Identifier.words := by
    intro index reached inside
    by_contra absent
    rw [List.mem_append, not_or] at absent
    exact none ⟨index, reached, inside, free_iff.mpr absent⟩
  let candidates := (List.range' start (refusals taken + 1)).map ofIndex
  have distinct : candidates.Nodup := List.Nodup.map ofIndex_injective List.nodup_range'
  have covered : candidates ⊆ taken ++ Identifier.words := by
    intro name candidate
    obtain ⟨index, member, rfl⟩ := List.mem_map.mp candidate
    obtain ⟨reached, inside⟩ := List.mem_range'_1.mp member
    exact refused index reached inside
  have bound : candidates.length ≤ (taken ++ Identifier.words).length :=
    distinct.length_le_of_subset covered
  simp only [candidates, List.length_map, List.length_range', List.length_append, refusals] at bound
  omega

/-- A search with a free number among its candidates answers with the least one. -/
theorem search_least (taken : List String) (candidates start : Nat)
    (some : ∃ index, start ≤ index ∧ index < start + candidates ∧ Free taken index) :
    start ≤ search taken candidates start ∧ Free taken (search taken candidates start) ∧
      ∀ index, start ≤ index → index < search taken candidates start → ¬ Free taken index := by
  induction candidates generalizing start with
  | zero =>
    obtain ⟨index, reached, inside, _⟩ := some
    omega
  | succ candidates inductionHypothesis =>
    by_cases free : Free taken start
    · have found : search taken (candidates + 1) start = start := if_pos free
      rw [found]
      exact ⟨Nat.le_refl start, free, fun index reached before => by omega⟩
    · have passed : search taken (candidates + 1) start = search taken candidates (start + 1) :=
        if_neg free
      have later : ∃ index, start + 1 ≤ index ∧ index < start + 1 + candidates ∧
          Free taken index := by
        obtain ⟨index, reached, inside, freeThere⟩ := some
        have other : index ≠ start := fun same => free (same ▸ freeThere)
        exact ⟨index, by omega, by omega, freeThere⟩
      obtain ⟨reached, found, least⟩ := inductionHypothesis (start + 1) later
      rw [passed]
      refine ⟨by omega, found, ?_⟩
      intro index atLeast before
      by_cases atStart : index = start
      · exact atStart ▸ free
      · exact least index (by omega) before

/-- What is searched for is the least free number at or after the start. -/
theorem firstFree_least (taken : List String) (start : Nat) :
    start ≤ firstFree taken start ∧ Free taken (firstFree taken start) ∧
      ∀ index, start ≤ index → index < firstFree taken start → ¬ Free taken index :=
  search_least taken (refusals taken + 1) start (exists_free taken start)

/-- A search depends only on which numbers are free from its start on. -/
theorem firstFree_congr {taken other : List String} {start : Nat}
    (same : ∀ index, start ≤ index → (Free taken index ↔ Free other index)) :
    firstFree taken start = firstFree other start := by
  obtain ⟨reached, free, least⟩ := firstFree_least taken start
  obtain ⟨otherReached, otherFree, otherLeast⟩ := firstFree_least other start
  rcases Nat.lt_trichotomy (firstFree taken start) (firstFree other start) with
    before | equal | behind
  · exact absurd ((same _ reached).mp free) (otherLeast _ reached before)
  · exact equal
  · exact absurd ((same _ otherReached).mpr otherFree) (least _ otherReached behind)

/-- Free numbers never run out, because a list can only take finitely many of them and all names
are distinct. -/
theorem free_infinite (taken : List String) : (Set.ofPred (Free taken)).Infinite := by
  refine Set.infinite_of_forall_exists_gt fun bound => ?_
  obtain ⟨reached, free, _⟩ := firstFree_least taken (bound + 1)
  exact ⟨firstFree taken (bound + 1), free, by omega⟩

/-- The name that has the given place, counted from zero, among those that are free. -/
noncomputable def freeName (taken : List String) (place : Nat) : String :=
  ofIndex (Nat.nth (Free taken) place)

/-- The search passes over no free number, so it meets the one whose place is the number of free
ones before its start. -/
theorem firstFree_eq_nth (taken : List String) (start : Nat) :
    firstFree taken start = Nat.nth (Free taken) (Nat.count (Free taken) start) := by
  obtain ⟨reached, free, least⟩ := firstFree_least taken start
  have between : Nat.count (Free taken) (firstFree taken start) =
      Nat.count (Free taken) start := by
    obtain ⟨passed, whole⟩ := Nat.exists_eq_add_of_le reached
    rw [whole, Nat.count_add, Nat.add_eq_left, Nat.count_iff_forall_not]
    intro step inside
    exact least (start + step) (by omega) (by omega)
  rw [← between, Nat.nth_count free]

/-- Names with different places are different: the free numbers are, and numbers have distinct
names. -/
theorem freeName_injective (taken : List String) : Function.Injective (freeName taken) :=
  ofIndex_injective.comp (Nat.nth_injective (free_infinite taken))

/-- The order of the free names depends only on which names are taken. -/
theorem freeName_congr {taken other : List String} (same : ∀ name, name ∈ taken ↔ name ∈ other)
    (place : Nat) : freeName taken place = freeName other place := by
  have free : Free taken = Free other := by
    funext index
    rw [eq_iff_iff, free_iff, free_iff, same]
  rw [freeName, freeName, free]

/-- No name that is handed out is among the names already taken. -/
theorem freeName_not_mem (taken : List String) (place : Nat) : freeName taken place ∉ taken :=
  (free_iff.mp (Nat.nth_mem_of_infinite (free_infinite taken) place)).1

/-- Every name that is handed out is a plain identifier, as all free numbers have names that
are. -/
theorem isPlain_freeName (taken : List String) (place : Nat) :
    Identifier.isPlain (freeName taken place) = true :=
  (isPlain_ofIndex_iff _).mpr
    (free_iff.mp (Nat.nth_mem_of_infinite (free_infinite taken) place)).2

/-- A name is among the first free ones exactly when it has a free number with fewer free numbers
before it. -/
theorem mem_freeNames_iff {taken : List String} {count : Nat} {name : String} :
    name ∈ (List.range count).map (freeName taken) ↔
      ∃ index, ofIndex index = name ∧ Free taken index ∧ Nat.count (Free taken) index < count := by
  simp only [List.mem_map, List.mem_range]
  constructor
  · rintro ⟨place, before, rfl⟩
    refine ⟨_, rfl, Nat.nth_mem_of_infinite (free_infinite taken) place, ?_⟩
    rwa [Nat.count_nth_of_infinite (free_infinite taken)]
  · rintro ⟨index, rfl, free, before⟩
    exact ⟨_, before, by rw [freeName, Nat.nth_count free]⟩

/-- With the first free names taken as well, a number is free when it is one of the later ones. -/
theorem free_freeNames_iff {taken : List String} {given index : Nat} :
    Free (taken ++ (List.range given).map (freeName taken)) index ↔
      Free taken index ∧ given ≤ Nat.count (Free taken) index := by
  have among : ofIndex index ∈ (List.range given).map (freeName taken) ↔
      Free taken index ∧ Nat.count (Free taken) index < given := by
    rw [mem_freeNames_iff]
    constructor
    · rintro ⟨other, same, free, before⟩
      exact ofIndex_injective same ▸ ⟨free, before⟩
    · rintro ⟨free, before⟩
      exact ⟨index, rfl, free, before⟩
  rw [free_iff, List.mem_append, not_or, among, free_iff]
  constructor
  · rintro ⟨⟨notTaken, later⟩, noWord⟩
    exact ⟨⟨notTaken, noWord⟩, Nat.le_of_not_lt fun before => later ⟨⟨notTaken, noWord⟩, before⟩⟩
  · rintro ⟨⟨notTaken, noWord⟩, later⟩
    exact ⟨⟨notTaken, fun both => Nat.not_lt.mpr later both.2⟩, noWord⟩

/-- With the first free names taken as well, as many free numbers fewer lie before a number. -/
theorem count_freeNames (taken : List String) (given index : Nat) :
    Nat.count (Free (taken ++ (List.range given).map (freeName taken))) index =
      Nat.count (Free taken) index - given := by
  induction index with
  | zero => simp
  | succ index inductionHypothesis =>
    rw [Nat.count_succ, Nat.count_succ, inductionHypothesis]
    simp only [free_freeNames_iff]
    by_cases free : Free taken index
    · by_cases later : given ≤ Nat.count (Free taken) index
      · rw [if_pos ⟨free, later⟩, if_pos free]
        omega
      · rw [if_neg fun both => later both.2, if_pos free]
        omega
    · rw [if_neg fun both => free both.1, if_neg free]
      omega

/-- With the first free names taken as well, the free names go on behind them. -/
theorem freeName_freeNames (taken : List String) (given place : Nat) :
    freeName (taken ++ (List.range given).map (freeName taken)) place =
      freeName taken (given + place) := by
  let index := Nat.nth (Free taken) (given + place)
  have free : Free taken index := Nat.nth_mem_of_infinite (free_infinite taken) _
  have before : Nat.count (Free taken) index = given + place :=
    Nat.count_nth_of_infinite (free_infinite taken) _
  have stillFree : Free (taken ++ (List.range given).map (freeName taken)) index :=
    free_freeNames_iff.mpr ⟨free, by omega⟩
  have counted := count_freeNames taken given index
  rw [before, Nat.add_sub_cancel_left] at counted
  have reached := Nat.nth_count stillFree
  rw [counted] at reached
  exact congrArg ofIndex reached

end PropertyMangling.ShortName
