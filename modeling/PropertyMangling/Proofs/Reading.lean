import Mathlib.Data.List.Forall2
import PropertyMangling.Fault
/-!
# Reading many items

Reading a list of items one by one succeeds exactly when every item can be
read, and the answers then stand in the order of the items.
-/
namespace PropertyMangling

variable {α β : Type} {read : α → Except Fault β}

/-- All items are read exactly when each of them is read to the answer in its place. -/
theorem mapM_eq_ok_iff {items : List α} {answers : List β} :
    items.mapM read = .ok answers ↔
      List.Forall₂ (fun item answer => read item = .ok answer) items answers := by
  induction items generalizing answers with
  | nil =>
    rw [List.mapM_nil]
    constructor
    · intro done
      exact Except.ok.inj done ▸ List.Forall₂.nil
    · intro paired
      cases paired
      rfl
  | cons item rest inductionHypothesis =>
    rw [List.mapM_cons]
    constructor
    · intro done
      cases first : read item with
      | error fault =>
        rw [first] at done
        cases done
      | ok answer =>
        rw [first] at done
        cases later : rest.mapM read with
        | error fault =>
          change (rest.mapM read >>= _) = _ at done
          rw [later] at done
          cases done
        | ok others =>
          change (rest.mapM read >>= _) = _ at done
          rw [later] at done
          have whole : answer :: others = answers := Except.ok.inj done
          exact whole ▸ List.Forall₂.cons first (inductionHypothesis.mp later)
    · intro paired
      cases paired with
      | cons first later =>
        rw [first, inductionHypothesis.mpr later]
        rfl

/-- Every answer is what some item was read to, as reading a list answers item by item. -/
theorem exists_read_of_mem {items : List α} {answers : List β} (done : items.mapM read = .ok answers)
    {answer : β} (listed : answer ∈ answers) : ∃ item ∈ items, read item = .ok answer := by
  have paired := mapM_eq_ok_iff.mp done
  clear done
  induction paired with
  | nil => exact absurd listed List.not_mem_nil
  | cons first _ inductionHypothesis =>
    rcases List.mem_cons.mp listed with rfl | later
    · exact ⟨_, List.mem_cons_self, first⟩
    · obtain ⟨item, inside, given⟩ := inductionHypothesis later
      exact ⟨item, List.mem_cons_of_mem _ inside, given⟩

/-- Items that can all be read by one rule are read by it. -/
theorem mapM_eq_ok_map {items : List α} {answer : α → β}
    (each : ∀ item ∈ items, read item = .ok (answer item)) :
    items.mapM read = .ok (items.map answer) := by
  rw [mapM_eq_ok_iff, List.forall₂_map_right_iff]
  exact List.forall₂_same.mpr each

/-- The first item without an answer stops the reading, and the fault is about that item. -/
theorem mapM_eq_error {answer? : α → Option β} {fault : α → Fault}
    (found : ∀ item answer, answer? item = some answer → read item = .ok answer)
    (missing : ∀ item, answer? item = none → read item = .error (fault item))
    {items : List α} {item : α}
    (first : items.find? (fun item => (answer? item).isNone) = some item) :
    items.mapM read = .error (fault item) := by
  induction items with
  | nil => cases first
  | cons head rest inductionHypothesis =>
    rw [List.mapM_cons]
    cases answered : answer? head with
    | none =>
      rw [List.find?_cons_of_pos (by rw [answered]; rfl)] at first
      rw [missing head answered, Option.some.inj first]
      rfl
    | some answer =>
      rw [List.find?_cons_of_neg (by simp [answered])] at first
      rw [found head answer answered, inductionHypothesis first]
      rfl

/-- When every item has an answer, the answers are read, one for each item and in order. -/
theorem mapM_eq_ok {answer? : α → Option β}
    (found : ∀ item answer, answer? item = some answer → read item = .ok answer) {items : List α}
    (none : items.find? (fun item => (answer? item).isNone) = none) :
    items.mapM read = .ok (items.filterMap answer?) := by
  induction items with
  | nil => rfl
  | cons head rest inductionHypothesis =>
    rw [List.mapM_cons]
    cases answered : answer? head with
    | none =>
      rw [List.find?_cons_of_pos (by rw [answered]; rfl)] at none
      cases none
    | some answer =>
      rw [List.find?_cons_of_neg (by simp [answered])] at none
      rw [found head answer answered, inductionHypothesis none, List.filterMap_cons_some answered]
      rfl

end PropertyMangling
