import Mathlib.Data.List.Nodup
import PropertyMangling.Text.Order
/-!
# What sorting determines

A sorted list is determined by its items alone as soon as equal keys mean equal
items. So texts have one sorted order, and items whose keys are distinct have
one order by key, wherever they stood before. Items that share a key keep the
order they came in; nothing else depends on how the sort proceeds.
-/
namespace PropertyMangling.Text

variable {α : Type} {key : α → String}

/-- Comparing by keys is transitive, as sorting asks for. -/
theorem key_le_trans (key : α → String) (a b c : α) (first : decide (key a ≤ key b) = true)
    (second : decide (key b ≤ key c) = true) : decide (key a ≤ key c) = true := by
  rw [decide_eq_true_eq] at first second ⊢
  exact String.le_trans first second

/-- Of two items one comes first by its key, as sorting asks for. -/
theorem key_le_total (key : α → String) (a b : α) :
    (decide (key a ≤ key b) || decide (key b ≤ key a)) = true := by
  simpa using String.le_total (key a) (key b)

/-- A list sorted by a key ascends in that key, equal keys being in the order in which they were
given. -/
theorem sortBy_ascends (key : α → String) (items : List α) :
    (sortBy key items).Pairwise fun a b => key a ≤ key b := by
  have ascends : (sortBy key items).Pairwise fun a b => decide (key a ≤ key b) = true :=
    List.pairwise_mergeSort (key_le_trans key) (key_le_total key) items
  simpa only [decide_eq_true_eq] using ascends

/-- A list that ascends already is left as it is, since sorting is stable. -/
theorem sortBy_eq_self {items : List α} (ascends : items.Pairwise fun a b => key a ≤ key b) :
    sortBy key items = items :=
  List.mergeSort_of_pairwise (by simpa only [decide_eq_true_eq] using ascends)

/-- Distinct keys ascend strictly once they are sorted, since equal neighbors would repeat a
key. -/
theorem sortBy_ascends_strictly {items : List α} (distinct : (items.map key).Nodup) :
    (sortBy key items).Pairwise fun a b => key a < key b := by
  have kept : ((sortBy key items).map key).Nodup :=
    ((sortBy_perm key items).map key).nodup_iff.mpr distinct
  refine ((sortBy_ascends key items).and (List.pairwise_map.mp kept)).imp ?_
  rintro a b ⟨ascending, different⟩
  apply String.not_le.mp
  intro descending
  exact different (String.le_antisymm ascending descending)

/-- With distinct keys the sorted list does not depend on the order of the items. -/
theorem sortBy_eq_of_perm {items others : List α} (distinct : (items.map key).Nodup)
    (same : items.Perm others) : sortBy key items = sortBy key others := by
  have rearranged : (sortBy key items).Perm (sortBy key others) :=
    (sortBy_perm key items).trans (same.trans (sortBy_perm key others).symm)
  refine rearranged.eq_of_pairwise ?_ (sortBy_ascends key items) (sortBy_ascends key others)
  intro a b left right ascending descending
  have sameKey : key a = key b := String.le_antisymm ascending descending
  have inside : a ∈ items := mem_sortBy.mp left
  have alsoInside : b ∈ items := same.mem_iff.mpr (mem_sortBy.mp right)
  exact List.inj_on_of_nodup_map distinct inside alsoInside sameKey

/-- Sorting is stable: items with one key keep the order they came in. -/
theorem filter_sortBy_key (key : α → String) (items : List α) (wanted : String) :
    (sortBy key items).filter (fun item => key item == wanted) =
      items.filter fun item => key item == wanted := by
  have alike : (items.filter fun item => key item == wanted).Pairwise
      fun a b => decide (key a ≤ key b) = true := by
    refine List.pairwise_of_forall_mem_list fun a first b second => ?_
    have keyA : key a = wanted := by simpa using (List.mem_filter.mp first).2
    have keyB : key b = wanted := by simpa using (List.mem_filter.mp second).2
    have same : key a = key b := keyA.trans keyB.symm
    exact decide_eq_true (same ▸ String.le_refl (key a))
  have kept : List.Sublist (items.filter fun item => key item == wanted) (sortBy key items) :=
    List.sublist_mergeSort (key_le_trans key) (key_le_total key) alike List.filter_sublist
  have inside : List.Sublist (items.filter fun item => key item == wanted)
      ((sortBy key items).filter fun item => key item == wanted) := by
    simpa using kept.filter fun item => key item == wanted
  exact (inside.eq_of_length ((sortBy_perm key items).filter _).length_eq.symm).symm

/-- Sorting keeps the texts of a list and adds none. -/
@[simp] theorem mem_sorted {texts : List String} {text : String} :
    text ∈ sorted texts ↔ text ∈ texts :=
  mem_sortBy

/-- Sorted texts ascend, in the order in which texts are compared by their characters. -/
theorem sorted_ascends (texts : List String) : (sorted texts).Pairwise (· ≤ ·) :=
  sortBy_ascends id texts

/-- Texts that ascend already are left as they are, so that sorting is done once. -/
theorem sorted_eq_self {texts : List String} (ascends : texts.Pairwise (· ≤ ·)) :
    sorted texts = texts :=
  sortBy_eq_self ascends

/-- Texts have one sorted order, repetitions included, whatever the order in which they were
given. -/
theorem sorted_eq_of_perm {texts others : List String} (same : texts.Perm others) :
    sorted texts = sorted others := by
  have rearranged : (sorted texts).Perm (sorted others) :=
    (sortBy_perm id texts).trans (same.trans (sortBy_perm id others).symm)
  exact rearranged.eq_of_pairwise (fun _ _ _ _ => String.le_antisymm)
    (sorted_ascends texts) (sorted_ascends others)

/-- Sorting twice is sorting once, since sorted texts ascend already. -/
@[simp] theorem sorted_sorted (texts : List String) : sorted (sorted texts) = sorted texts :=
  sorted_eq_of_perm (sortBy_perm id texts)

/-- Picking from sorted texts is sorting what is picked, so the two steps may be exchanged. -/
theorem filter_sorted (texts : List String) (wanted : String → Bool) :
    (sorted texts).filter wanted = sorted (texts.filter wanted) := by
  rw [← sorted_eq_of_perm ((sortBy_perm id texts).filter wanted)]
  exact (sorted_eq_self ((sorted_ascends texts).filter wanted)).symm

/-- Texts that ascend, ascend strictly without their repetitions, since only equal neighbors could
break that. -/
theorem eraseDups_ascends_strictly {texts : List String} (ascends : texts.Pairwise (· ≤ ·)) :
    texts.eraseDups.Pairwise (· < ·) := by
  induction length : texts.length using Nat.strongRecOn generalizing texts with
  | ind bound inductionHypothesis =>
    cases texts with
    | nil => exact List.Pairwise.nil
    | cons first rest =>
      obtain ⟨least, restAscends⟩ := List.pairwise_cons.mp ascends
      have shorter : (rest.filter fun text => !text == first).length < bound :=
        length ▸ Nat.lt_succ_of_le (List.length_filter_le _ rest)
      rw [List.eraseDups_cons]
      refine List.Pairwise.cons (fun text later => ?_)
        (inductionHypothesis _ shorter (restAscends.filter _) rfl)
      obtain ⟨listed, other⟩ := List.mem_filter.mp (List.mem_eraseDups.mp later)
      apply String.not_le.mp
      intro before
      have same : text = first := String.le_antisymm before (least text listed)
      simp [same] at other

/-- Texts that ascend are determined by which of them there are, but for repetitions. -/
theorem eraseDups_eq_of_ascending {texts others : List String} (ascends : texts.Pairwise (· ≤ ·))
    (othersAscend : others.Pairwise (· ≤ ·)) (same : ∀ text, text ∈ texts ↔ text ∈ others) :
    texts.eraseDups = others.eraseDups := by
  have strict := eraseDups_ascends_strictly ascends
  have othersStrict := eraseDups_ascends_strictly othersAscend
  have rearranged : texts.eraseDups.Perm others.eraseDups := by
    rw [List.perm_ext_iff_of_nodup (strict.imp String.ne_of_lt) (othersStrict.imp String.ne_of_lt)]
    simpa only [List.mem_eraseDups] using same
  refine rearranged.eq_of_pairwise ?_ strict othersStrict
  exact fun _ _ _ _ before behind => absurd behind (String.lt_asymm before)

end PropertyMangling.Text
