import Mathlib.Data.Finset.Dedup
import Mathlib.Data.Set.Finite.Basic
import Mathlib.Order.Bounds.Basic
import PropertyMangling.Proofs.ShortName.Search
/-!
# Allocations, one after the other

An allocation goes through the candidates behind its position until one has a
name that is a plain identifier and not taken. Nothing in this bounds it; it ends
because every candidate that it refuses has a name of its own, and only finitely
many names can be refused. A bounded search meets the same candidate.

Whatever is taken by then, the next allocation goes on behind the last one. So the
numbers of the names that are handed out ascend, and every number on the way
belongs to one of the allocations, which hands it out or has a reason of its own
to refuse it.
-/
namespace PropertyMangling.ShortName

open Identifier

/-- The number of the last candidate, minus one in front of the first. -/
def Allocator.position (allocator : Allocator) : Int := allocator.next - 1

/-- A candidate that is not refused, with any test for names that are taken. -/
def IsFit (isTaken : String → Bool) (index : Nat) : Prop :=
  isPlain (ofIndex index) = true ∧ isTaken (ofIndex index) = false

/-- The search for a name goes on behind a candidate that is refused, and ends at one that is not.
Nothing bounds it. -/
inductive Finds (isTaken : String → Bool) : Nat → Nat → Prop
  | here {index : Nat} (fit : IsFit isTaken index) : Finds isTaken index index
  | behind {index found : Nat} (refused : ¬ IsFit isTaken index)
      (later : Finds isTaken (index + 1) found) : Finds isTaken index found

/-- The numbers at or after a start whose names are not refused. -/
def fitFrom (isTaken : String → Bool) (start : Nat) : Set Nat :=
  {index | start ≤ index ∧ IsFit isTaken index}

variable {isTaken : String → Bool} {start found : Nat} {taken : List String}

/-- Behind a candidate that is refused the same number is the least one. -/
theorem isLeast_fitFrom_succ_iff (refused : ¬ IsFit isTaken start) :
    IsLeast (fitFrom isTaken start) found ↔ IsLeast (fitFrom isTaken (start + 1)) found := by
  have same : fitFrom isTaken start = fitFrom isTaken (start + 1) := by
    ext index
    constructor
    · rintro ⟨reached, fit⟩
      have other : start ≠ index := fun same => refused (same ▸ fit)
      exact ⟨by omega, fit⟩
    · rintro ⟨reached, fit⟩
      exact ⟨by omega, fit⟩
  rw [same]

/-- What a search finds, if it finds anything, is the least number whose name is not refused. -/
theorem finds_iff_isLeast : Finds isTaken start found ↔ IsLeast (fitFrom isTaken start) found := by
  constructor
  · intro finds
    induction finds with
    | here fit => exact ⟨⟨Nat.le_refl _, fit⟩, fun _ member => member.1⟩
    | behind refused _ inductionHypothesis =>
      exact (isLeast_fitFrom_succ_iff refused).mpr inductionHypothesis
  · intro least
    obtain ⟨steps, rfl⟩ := Nat.exists_eq_add_of_le least.1.1
    induction steps generalizing start with
    | zero => exact Finds.here least.1.2
    | succ steps inductionHypothesis =>
      have refused : ¬ IsFit isTaken start := by
        intro fit
        have atMost := least.2 ⟨Nat.le_refl start, fit⟩
        omega
      have regrouped : start + (steps + 1) = start + 1 + steps := by omega
      rw [isLeast_fitFrom_succ_iff refused, regrouped] at least
      exact Finds.behind refused (regrouped ▸ inductionHypothesis least)

section Listed

variable (listed : ∀ name, name ∈ taken ↔ isTaken name = true)
include listed

/-- A number is free exactly when a test for the same names lets its name pass. -/
theorem free_iff_isFit {index : Nat} : Free taken index ↔ IsFit isTaken index := by
  rw [free_iff, IsFit, isPlain_ofIndex_iff, listed, Bool.not_eq_true, and_comm]

/-- The bounded search meets the least number whose name is not refused. -/
theorem isLeast_firstFree (start : Nat) :
    IsLeast (fitFrom isTaken start) (firstFree taken start) := by
  obtain ⟨reached, free, least⟩ := firstFree_least taken start
  refine ⟨⟨reached, (free_iff_isFit listed).mp free⟩, ?_⟩
  rintro index ⟨behind, fit⟩
  by_contra before
  exact least index behind (Nat.lt_of_not_le before) ((free_iff_isFit listed).mpr fit)

/-- No more candidates are refused than there are names to refuse. -/
theorem firstFree_le (start : Nat) :
    firstFree taken start ≤ start + (taken.length + words.length) := by
  obtain ⟨index, reached, inside, free⟩ := exists_free taken start
  have atMost := (isLeast_firstFree listed start).2 ⟨reached, (free_iff_isFit listed).mp free⟩
  rw [refusals] at inside
  omega

end Listed

/-- The names that allocations in a row hand out, each of them with names of its own taken, and the
allocator behind them. -/
def Allocator.allocateEach : List (List String) → Allocator → List String × Allocator
  | [], allocator => ([], allocator)
  | taken :: calls, allocator =>
    let (name, allocator) := allocator.allocate taken
    let (names, allocator) := allocateEach calls allocator
    (name :: names, allocator)

/-- The first of several calls takes the least free index from the counter on, and the others go
on behind it. -/
theorem Allocator.allocateEach_cons (allocator : Allocator) (taken : List String)
    (calls : List (List String)) : allocator.allocateEach (taken :: calls) =
      (ofIndex (firstFree taken allocator.next) ::
          (allocateEach calls ⟨firstFree taken allocator.next + 1⟩).1,
        (allocateEach calls ⟨firstFree taken allocator.next + 1⟩).2) := rfl

/-- A row of allocations hands out names of ascending numbers, which are plain identifiers. -/
theorem Allocator.exists_numbers (allocator : Allocator) (calls : List (List String)) :
    ∃ numbers : List Nat, (allocator.allocateEach calls).1 = numbers.map ofIndex ∧
      numbers.length = calls.length ∧ numbers.Pairwise (· < ·) ∧
      ∀ number ∈ numbers, allocator.next ≤ number ∧ isPlain (ofIndex number) = true := by
  induction calls generalizing allocator with
  | nil => exact ⟨[], rfl, rfl, List.Pairwise.nil, by simp⟩
  | cons taken calls inductionHypothesis =>
    obtain ⟨reached, free, _⟩ := firstFree_least taken allocator.next
    obtain ⟨numbers, names, length, ascend, each⟩ :=
      inductionHypothesis ⟨firstFree taken allocator.next + 1⟩
    refine ⟨firstFree taken allocator.next :: numbers, ?_, ?_, ?_, ?_⟩
    · rw [allocateEach_cons, List.map_cons, names]
    · rw [List.length_cons, List.length_cons, length]
    · exact List.pairwise_cons.mpr ⟨fun number later => (each number later).1, ascend⟩
    · have plain := (isPlain_ofIndex_iff _).mpr (free_iff.mp free).2
      refine List.forall_mem_cons.mpr ⟨⟨reached, plain⟩, ?_⟩
      intro number later
      obtain ⟨behind, plain⟩ := each number later
      exact ⟨Nat.le_trans reached (Nat.le_of_succ_le behind), plain⟩

/-- A number that a row of allocations comes past is handed out, or the allocation that comes past
it refuses its name.

Induct over the allocations. A number in front of what the first one hands out is
refused by the first one, and a number behind that belongs to the others. -/
theorem Allocator.handed_out_or_refused (allocator : Allocator) (calls : List (List String))
    {index : Nat} (reached : allocator.next ≤ index)
    (passed : index < (allocator.allocateEach calls).2.next) :
    ofIndex index ∈ (allocator.allocateEach calls).1 ∨
      ∃ earlier taken later, calls = earlier ++ taken :: later ∧
        (allocator.allocateEach earlier).2.next ≤ index ∧
        index < (allocator.allocateEach (earlier ++ [taken])).2.next ∧
        (ofIndex index ∈ taken ∨ isPlain (ofIndex index) = false) := by
  induction calls generalizing allocator with
  | nil => exact absurd reached (Nat.not_le_of_lt passed)
  | cons taken calls inductionHypothesis =>
    obtain ⟨_, _, least⟩ := firstFree_least taken allocator.next
    rcases Nat.lt_trichotomy index (firstFree taken allocator.next) with before | rfl | behind
    · have refused : ofIndex index ∈ taken ∨ isPlain (ofIndex index) = false := by
        by_contra fit
        rw [not_or, Bool.not_eq_false, isPlain_ofIndex_iff] at fit
        exact least index reached before (free_iff.mpr fit)
      exact Or.inr ⟨[], taken, calls, rfl, reached, Nat.lt_succ_of_lt before, refused⟩
    · exact Or.inl List.mem_cons_self
    · rw [allocateEach_cons] at passed
      rcases inductionHypothesis _ behind passed with handed |
        ⟨earlier, other, later, rfl, entered, left, refused⟩
      · exact Or.inl (List.mem_cons_of_mem _ handed)
      · exact Or.inr ⟨taken :: earlier, other, later, rfl, entered, left, refused⟩

/-- The numbers behind a position are those from the next candidate on. -/
theorem Allocator.position_lt_iff {allocator : Allocator} {index : Nat} :
    allocator.position < index ↔ allocator.next ≤ index := by
  rw [position]
  omega

/-- The numbers up to a position are those before the next candidate. -/
theorem Allocator.le_position_iff {allocator : Allocator} {index : Nat} :
    index ≤ allocator.position ↔ index < allocator.next := by
  rw [position]
  omega

/-- Allocations end, pass over no name without need and never hand out a name twice.

From every position and with every test that finitely many names meet, the search
ends at the least number behind the position whose name is a plain identifier and
not taken, within one candidate more than there are names to refuse, and an
allocation hands out this name and moves to this number. In a row of allocations,
each of them with names of its own taken, the names are plain identifiers, differ
from each other and never get shorter; a number on the way that is not handed out
lies between two positions in a row, where its name was taken or is no plain
identifier. -/
theorem allocations_skip_nothing (allocator : Allocator) :
    (∀ (isTaken : String → Bool) (finite : {name | isTaken name = true}.Finite), ∃ found : Nat,
      Finds isTaken allocator.next found ∧
      IsLeast {index : Nat | allocator.position < index ∧ isPlain (ofIndex index) = true ∧
        isTaken (ofIndex index) = false} found ∧
      found - allocator.position ≤ finite.toFinset.card + words.length + 1 ∧
      ∀ taken : List String, (∀ name, name ∈ taken ↔ isTaken name = true) →
        (allocator.allocate taken).1 = ofIndex found ∧
        (allocator.allocate taken).2.position = found) ∧
    ∀ calls : List (List String), ∃ names last, allocator.allocateEach calls = (names, last) ∧
      names.length = calls.length ∧ (∀ name ∈ names, isPlain name = true) ∧ names.Nodup ∧
      names.Pairwise (fun name later => name.length ≤ later.length) ∧
      ∀ index : Nat, allocator.position < index → index ≤ last.position → ofIndex index ∉ names →
        ∃ earlier taken later, calls = earlier ++ taken :: later ∧
          (allocator.allocateEach earlier).2.position < index ∧
          index ≤ (allocator.allocateEach (earlier ++ [taken])).2.position ∧
          (ofIndex index ∈ taken ∨ isPlain (ofIndex index) = false) := by
  constructor
  · intro isTaken finite
    have listed : ∀ name, name ∈ finite.toFinset.toList ↔ isTaken name = true := by simp
    have least := isLeast_firstFree listed allocator.next
    have near := firstFree_le listed allocator.next
    generalize firstFree finite.toFinset.toList allocator.next = found at least near
    refine ⟨found, finds_iff_isLeast.mpr least, ?_, ?_, ?_⟩
    · simpa only [fitFrom, IsFit, Allocator.position_lt_iff] using least
    · rw [Finset.length_toList] at near
      rw [Allocator.position]
      omega
    · intro taken sameNames
      obtain rfl := (isLeast_firstFree sameNames allocator.next).unique least
      exact ⟨rfl, by simp [Allocator.allocate, Allocator.position]⟩
  · intro calls
    obtain ⟨numbers, names, length, ascend, each⟩ := allocator.exists_numbers calls
    refine ⟨_, _, rfl, ?_, ?_, ?_, ?_, ?_⟩
    · rw [names, List.length_map, length]
    · rw [names, List.forall_mem_map]
      exact fun number listed => (each number listed).2
    · rw [names]
      exact ascend.nodup.map ofIndex_injective
    · rw [names, List.pairwise_map]
      exact ascend.imp fun less => length_ofIndex_mono (Nat.le_of_lt less)
    · intro index reached passed notHanded
      rw [Allocator.position_lt_iff] at reached
      rw [Allocator.le_position_iff] at passed
      simp only [Allocator.position_lt_iff, Allocator.le_position_iff]
      exact (allocator.handed_out_or_refused calls reached passed).resolve_left notHanded

/-- One name is taken, and the number behind it belongs to a keyword, so the search passes both
and the next call goes on behind the name it found. -/
theorem allocations_skip_keyword :
    {name | (name == "hf") = true}.Finite ∧ (∀ name, name ∈ ["hf"] ↔ (name == "hf") = true) ∧
    Finds (· == "hf") 277 279 ∧ 279 - (⟨277⟩ : Allocator).position ≤ 1 + words.length + 1 ∧
    (⟨277⟩ : Allocator).allocate ["hf"] = ("jf", ⟨280⟩) ∧ ∃ names last,
      (⟨277⟩ : Allocator).allocateEach [["hf"], ["kf"]] = (names, last) ∧ names.Nodup := by
  have same : {name | (name == "hf") = true} = {"hf"} := by simp
  have finite : {name | (name == "hf") = true}.Finite := same ▸ Set.finite_singleton "hf"
  have listed : ∀ name, name ∈ ["hf"] ↔ (name == "hf") = true := by simp
  have allocated : (⟨277⟩ : Allocator).allocate ["hf"] = ("jf", ⟨280⟩) := by decide +kernel
  obtain ⟨ends, rows⟩ := allocations_skip_nothing ⟨277⟩
  obtain ⟨found, finds, _, near, runs⟩ := ends (· == "hf") finite
  obtain rfl : found = 279 := by
    have moved := (runs ["hf"] listed).2
    rw [allocated] at moved
    exact (Int.ofNat_inj.mp moved).symm
  have one : finite.toFinset.card = 1 := by simp
  rw [one] at near
  obtain ⟨names, last, handed, _, _, distinct, _⟩ := rows [["hf"], ["kf"]]
  exact ⟨finite, listed, finds, near, allocated, names, last, handed, distinct⟩

end PropertyMangling.ShortName
