/-!
# Sorted texts

All sorting is by code point, which is also the order of the encoded bytes, and
it is stable: items with equal keys keep the order they came in.
-/
namespace PropertyMangling.Text

/-- Items by a text key, in code point order; equal keys keep their order. -/
def sortBy {α : Type} (key : α → String) (items : List α) : List α :=
  items.mergeSort fun a b => decide (key a ≤ key b)

/-- Texts in code point order. -/
def sorted (texts : List String) : List String := sortBy id texts

/-- Sorting neither adds nor drops an item, repetitions included. -/
theorem sortBy_perm {α : Type} (key : α → String) (items : List α) :
    (sortBy key items).Perm items :=
  List.mergeSort_perm items _

/-- Sorting keeps the items of a list and adds none. -/
@[simp] theorem mem_sortBy {α : Type} {key : α → String} {items : List α} {item : α} :
    item ∈ sortBy key items ↔ item ∈ items :=
  (sortBy_perm key items).mem_iff

end PropertyMangling.Text
