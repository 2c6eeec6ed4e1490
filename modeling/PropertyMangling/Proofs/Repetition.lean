import Mathlib.Data.List.Nodup
/-!
# Lists without their repetitions

Every item is kept at its first occurrence. Picking items and dropping
repetitions can change places, and repetitions may be dropped before the items
are mapped as long as they are dropped again afterwards. In a list without
repeated keys every key finds the one item that has it; where keys repeat, the
items of each key, taken key by key, are all the items again.
-/
namespace PropertyMangling

variable {α β : Type} [BEq α] [LawfulBEq α] [BEq β] [LawfulBEq β]

/-- Picking items of a list does not depend on how often they occur. -/
theorem filter_eraseDups (items : List α) (wanted : α → Bool) :
    items.eraseDups.filter wanted = (items.filter wanted).eraseDups := by
  induction length : items.length using Nat.strongRecOn generalizing items with
  | ind bound inductionHypothesis =>
    cases items with
    | nil => rfl
    | cons first rest =>
      have shorter : (rest.filter fun item => !item == first).length < bound :=
        length ▸ Nat.lt_succ_of_le (List.length_filter_le _ rest)
      have later := inductionHypothesis _ shorter (rest.filter fun item => !item == first) rfl
      rw [List.eraseDups_cons]
      cases picked : wanted first with
      | true =>
        rw [List.filter_cons_of_pos picked, List.filter_cons_of_pos picked, List.eraseDups_cons,
          later, List.filter_filter, List.filter_filter]
        simp only [Bool.and_comm]
      | false =>
        have refused : ¬ wanted first = true := by simp [picked]
        have others : (rest.filter fun item => !item == first).filter wanted =
            rest.filter wanted := by
          rw [List.filter_filter]
          refine List.filter_congr fun item _ => ?_
          cases same : item == first with
          | true => simp [eq_of_beq same, picked]
          | false => simp
        rw [List.filter_cons_of_neg refused, List.filter_cons_of_neg refused, later, others]

/-- Repetitions may be dropped before a mapping when they are dropped after it as well. -/
theorem eraseDups_map_eraseDups (change : α → β) (items : List α) :
    (items.eraseDups.map change).eraseDups = (items.map change).eraseDups := by
  induction length : items.length using Nat.strongRecOn generalizing items with
  | ind bound inductionHypothesis =>
    cases items with
    | nil => rfl
    | cons first rest =>
      let others := rest.filter fun item => !change item == change first
      have shorter : others.length < bound :=
        length ▸ Nat.lt_succ_of_le (List.length_filter_le _ rest)
      have apart : (rest.filter fun item => !item == first).filter
          (fun item => !change item == change first) = others := by
        rw [List.filter_filter]
        refine List.filter_congr fun item _ => ?_
        cases same : item == first with
        | true => simp [eq_of_beq same]
        | false => simp
      have mapped (items : List α) : (items.map change).filter (fun item => !item == change first) =
          (items.filter fun item => !change item == change first).map change := by
        rw [List.filter_map]
        rfl
      rw [List.eraseDups_cons, List.map_cons, List.eraseDups_cons, mapped, filter_eraseDups, apart,
        inductionHypothesis _ shorter others rfl, List.map_cons, List.eraseDups_cons, mapped]

omit [BEq α] [LawfulBEq α] in
/-- What is picked in front of an item stands in front of it in the whole list. -/
theorem exists_split_of_filter {wanted : α → Bool} {items front rest : List α} {item : α}
    (split : items.filter wanted = front ++ item :: rest) :
    ∃ before behind, items = before ++ item :: behind ∧
      ∀ earlier ∈ before, wanted earlier = true → earlier ∈ front := by
  obtain ⟨before, behind, rfl, rfl, tail⟩ := List.filter_eq_append_iff.mp split
  obtain ⟨between, others, rfl, dropped, -, -⟩ := List.filter_eq_cons_iff.mp tail
  refine ⟨before ++ between, others, (List.append_assoc _ _ _).symm, ?_⟩
  intro earlier listed picked
  rcases List.mem_append.mp listed with inFront | skipped
  · exact List.mem_filter.mpr ⟨inFront, picked⟩
  · exact absurd picked (dropped earlier skipped)

/-- What holds between an item at its first occurrence and every item that has not occurred up to there
holds along the list without its repetitions. -/
theorem pairwise_eraseDups {related : α → α → Prop} {items : List α}
    (each : ∀ front item rest other, items = front ++ item :: rest → other ∈ items →
      other ∉ front ++ [item] → related item other) : items.eraseDups.Pairwise related := by
  induction length : items.length using Nat.strongRecOn generalizing items with
  | ind bound inductionHypothesis =>
    cases items with
    | nil => exact .nil
    | cons first rest =>
      have shorter : (rest.filter fun item => !item == first).length < bound :=
        length ▸ Nat.lt_succ_of_le (List.length_filter_le _ rest)
      have differs {item : α} : (!item == first) = true ↔ item ≠ first := by simp
      rw [List.eraseDups_cons, List.pairwise_cons]
      constructor
      · intro other later
        obtain ⟨listed, apart⟩ := List.mem_filter.mp (List.mem_eraseDups.mp later)
        refine each [] first rest other rfl (List.mem_cons_of_mem _ listed) fun said => ?_
        exact differs.mp apart (List.mem_singleton.mp said)
      · refine inductionHypothesis _ shorter ?_ rfl
        intro front item others other split listed unsaid
        obtain ⟨before, behind, whole, kept⟩ := exists_split_of_filter split
        obtain ⟨inRest, apart⟩ := List.mem_filter.mp listed
        refine each (first :: before) item behind other (congrArg (first :: ·) whole)
          (List.mem_cons_of_mem _ inRest) fun said => unsaid ?_
        rcases List.mem_append.mp said with said | now
        · rcases List.mem_cons.mp said with same | earlier
          · exact absurd same (differs.mp apart)
          · exact List.mem_append_left _ (kept other earlier apart)
        · exact List.mem_append_right _ now

/-- No item of a list without its repetitions is repeated, as an item that was met before is
dropped. -/
theorem nodup_eraseDups (items : List α) : items.eraseDups.Nodup := by
  apply pairwise_eraseDups
  rintro front item rest other - - unsaid rfl
  exact unsaid (List.mem_append_right _ List.mem_cons_self)

/-- A list without repetitions is left as it is, in its order. -/
theorem eraseDups_of_nodup {items : List α} (distinct : items.Nodup) : items.eraseDups = items := by
  induction items with
  | nil => rfl
  | cons first rest inductionHypothesis =>
    obtain ⟨absent, later⟩ := List.nodup_cons.mp distinct
    have others : (rest.filter fun item => !item == first) = rest := by
      rw [List.filter_eq_self]
      intro item inside
      have other : item ≠ first := fun same => absent (same ▸ inside)
      simp [other]
    rw [List.eraseDups_cons, others, inductionHypothesis later]

/-- Where no key occurs twice, finding a key answers with the item that has it. -/
theorem find?_key_eq_some_iff {α : Type} {key : α → String} {items : List α} {item : α}
    {wanted : String} (distinct : (items.map key).Nodup) :
    (items.find? fun item => key item == wanted) = some item ↔ item ∈ items ∧ key item = wanted := by
  constructor
  · intro found
    exact ⟨List.mem_of_find?_eq_some found, by simpa using List.find?_some found⟩
  · rintro ⟨held, same⟩
    cases found : items.find? fun item => key item == wanted with
    | none =>
      have absent := List.find?_eq_none.mp found item held
      simp [same] at absent
    | some other =>
      have otherHeld : other ∈ items := List.mem_of_find?_eq_some found
      have otherKey : key other = wanted := by simpa using List.find?_some found
      exact congrArg some
        (List.inj_on_of_nodup_map distinct otherHeld held (otherKey.trans same.symm))

/-- The items of each key, key by key, are all the items. -/
theorem perm_flatMap_filter_key {α : Type} {key : α → String} {keys : List String}
    (distinct : keys.Nodup) {items : List α} (covered : ∀ item ∈ items, key item ∈ keys) :
    (keys.flatMap fun wanted => items.filter fun item => key item == wanted).Perm items := by
  induction keys generalizing items with
  | nil =>
    have none : items = [] := by
      apply List.eq_nil_iff_forall_not_mem.mpr
      intro item listed
      exact absurd (covered item listed) List.not_mem_nil
    rw [none, List.flatMap_nil]
  | cons first rest inductionHypothesis =>
    obtain ⟨absent, restDistinct⟩ := List.nodup_cons.mp distinct
    let others := items.filter fun item => !(key item == first)
    have coveredRest : ∀ item ∈ others, key item ∈ rest := by
      intro item later
      obtain ⟨listed, other⟩ := List.mem_filter.mp later
      rcases List.mem_cons.mp (covered item listed) with same | inside
      · simp [same] at other
      · exact inside
    have parts : ∀ wanted ∈ rest, items.filter (fun item => key item == wanted) =
        others.filter fun item => key item == wanted := by
      intro wanted listed
      rw [List.filter_filter]
      apply List.filter_congr
      intro item _
      by_cases same : key item = wanted
      · have other : key item ≠ first := fun clash => absent (clash ▸ same ▸ listed)
        simp [same, same ▸ other]
      · simp [same]
    rw [List.flatMap_cons, List.flatMap_congr parts]
    have rearranged := inductionHypothesis restDistinct coveredRest
    exact (rearranged.append_left _).trans (List.filter_append_perm _ items)

end PropertyMangling
