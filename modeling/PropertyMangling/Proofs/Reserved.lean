import Mathlib.Data.List.Nodup
import PropertyMangling.Reserved
/-!
# What is reserved

Registering a category changes the categories of one token, and of no other.
So a token is reserved exactly when a table of the engine or the custom list
holds it, whatever stands in the tables besides. Its categories are those of the
tables that hold it, in the order of the tables: a token that a table lists twice
has the category of the table once, and a token of no table has none.
-/
namespace PropertyMangling.Reserved

/-- Categories with one more, which stands behind the others unless it is there already. -/
def withCategory (category : Category) (known : List Category) : List Category :=
  if category ∈ known then known else known ++ [category]

/-- A token that is registered under a category has one at least, which is what makes it
reserved. -/
theorem withCategory_ne_nil (category : Category) (known : List Category) :
    withCategory category known ≠ [] := by
  unfold withCategory
  split
  · next inside => exact List.ne_nil_of_mem inside
  · simp

/-- Looking up a token compares it with the first entry and goes on behind it. -/
theorem lookup_cons_eq (token listed : String) (known : List Category)
    (rest : List (String × List Category)) :
    ((listed, known) :: rest).lookup token = if token = listed then some known
      else rest.lookup token := by
  by_cases same : token = listed
  · simp [same]
  · simp [List.lookup_cons, beq_false_of_ne same, same]

namespace Index

/-- Registering changes exactly the categories of the registered token, and no others. -/
theorem categories_register (index : Index) (category : Category) (token other : String) :
    (index.register category token).categories other =
      if other = token then withCategory category (index.categories other)
      else index.categories other := by
  change ((registerIn category token index.entries).lookup other).getD [] =
    if other = token then withCategory category ((index.entries.lookup other).getD [])
    else (index.entries.lookup other).getD []
  induction index.entries with
  | nil =>
    by_cases same : other = token
    · simp [registerIn, withCategory, same]
    · simp [registerIn, lookup_cons_eq, same]
  | cons entry rest inductionHypothesis =>
    obtain ⟨listed, known⟩ := entry
    by_cases found : token = listed
    · by_cases same : other = token
      · simp [registerIn, withCategory, found, same]
      · have elsewhere : other ≠ listed := fun equal => same (equal.trans found.symm)
        simp [registerIn, lookup_cons_eq, found, elsewhere]
    · by_cases here : other = listed
      · simp [registerIn, found, here, Ne.symm found]
      · simpa [registerIn, lookup_cons_eq, found, here] using inductionHypothesis

/-- Registering a token reserves it and frees no other one. -/
theorem isReserved_register {index : Index} {category : Category} {token other : String} :
    (index.register category token).isReserved other = true ↔
      other = token ∨ index.isReserved other = true := by
  rw [isReserved, categories_register]
  by_cases same : other = token
  · simp [same, withCategory_ne_nil]
  · simp [same, isReserved]

/-- Registering a table reserves its tokens besides those that were reserved before. -/
theorem isReserved_registerAll {index : Index} {table : Category × List String} {token : String} :
    (index.registerAll table).isReserved token = true ↔
      token ∈ table.2 ∨ index.isReserved token = true := by
  obtain ⟨category, listed⟩ := table
  change (listed.foldl (fun index token => index.register category token) index).isReserved token =
    true ↔ token ∈ listed ∨ index.isReserved token = true
  induction listed generalizing index with
  | nil => simp
  | cons first rest inductionHypothesis =>
    rw [List.foldl_cons, inductionHypothesis, isReserved_register, List.mem_cons, or_left_comm,
      or_assoc]

/-- Registering tables reserves the tokens of all of them, besides those that were reserved
before. -/
theorem isReserved_foldl_registerAll {tables : List (Category × List String)} {index : Index}
    {token : String} :
    (tables.foldl registerAll index).isReserved token = true ↔
      (∃ table ∈ tables, token ∈ table.2) ∨ index.isReserved token = true := by
  induction tables generalizing index with
  | nil => simp
  | cons table rest inductionHypothesis =>
    rw [List.foldl_cons, inductionHypothesis, isReserved_registerAll, or_left_comm, ← or_assoc]
    simp only [List.mem_cons, exists_eq_or_imp]

/-- A token is reserved exactly when the engine or a person sets it aside. -/
theorem isReserved_ofCustom_iff {custom : List String} {token : String} :
    (ofCustom custom).isReserved token = true ↔
      (∃ table ∈ engineTables, token ∈ table.2) ∨ token ∈ custom := by
  have none : empty.isReserved token = false := rfl
  rw [ofCustom, isReserved_foldl_registerAll, none]
  simp [or_and_right, exists_or]

/-- A category is added once, however often a token is registered under it. -/
theorem withCategory_withCategory (category : Category) (known : List Category) :
    withCategory category (withCategory category known) = withCategory category known := by
  by_cases inside : category ∈ known
  · simp [withCategory, inside]
  · simp [withCategory, inside]

/-- Registering a table adds its category to each of its tokens once. -/
theorem categories_registerAll (index : Index) (table : Category × List String) (token : String) :
    (index.registerAll table).categories token =
      if token ∈ table.2 then withCategory table.1 (index.categories token)
      else index.categories token := by
  obtain ⟨category, listed⟩ := table
  change (listed.foldl (fun index token => index.register category token) index).categories token =
    if token ∈ listed then withCategory category (index.categories token)
    else index.categories token
  induction listed generalizing index with
  | nil => simp
  | cons first rest inductionHypothesis =>
    rw [List.foldl_cons, inductionHypothesis, categories_register]
    by_cases here : token = first
    · simp [here, withCategory_withCategory]
    · simp [here]

/-- Tables of different categories are registered one behind the other: a token gets the categories of
those that hold it, in their order. -/
theorem categories_foldl_registerAll {tables : List (Category × List String)} {index : Index}
    {token : String} (distinct : (tables.map Prod.fst).Nodup)
    (new : ∀ table ∈ tables, table.1 ∉ index.categories token) :
    (tables.foldl registerAll index).categories token =
      index.categories token ++ (tables.filter fun table => token ∈ table.2).map Prod.fst := by
  induction tables generalizing index with
  | nil => simp
  | cons table rest inductionHypothesis =>
    obtain ⟨absent, others⟩ := List.nodup_cons.mp distinct
    have fresh : table.1 ∉ index.categories token := new table List.mem_cons_self
    have still : ∀ other ∈ rest, other.1 ∉ (index.registerAll table).categories token := by
      intro other listed
      have differs : other.1 ≠ table.1 := fun same =>
        absent (same ▸ List.mem_map_of_mem listed)
      have unknown : other.1 ∉ index.categories token :=
        new other (List.mem_cons_of_mem table listed)
      rw [categories_registerAll]
      split
      · simp [withCategory, fresh, unknown, differs]
      · exact unknown
    rw [List.foldl_cons, inductionHypothesis others still, categories_registerAll]
    by_cases held : token ∈ table.2
    · simp [held, withCategory, fresh]
    · simp [held]

/-- The categories of a token are those of the engine's tables that hold it, in their order, and
behind them the custom one when a person set the token aside. -/
theorem categories_ofCustom (custom : List String) (token : String) :
    (ofCustom custom).categories token =
      (engineTables.filter fun table => token ∈ table.2).map Prod.fst ++
        if token ∈ custom then [.custom] else [] := by
  have none : ∀ token, empty.categories token = [] := fun _ => rfl
  have distinct : ((engineTables ++ [(Category.custom, custom)]).map Prod.fst).Nodup := by
    rw [List.map_append]
    change (engineTables.map Prod.fst ++ [Category.custom]).Nodup
    decide
  rw [ofCustom, categories_foldl_registerAll distinct (by simp [none]), none, List.nil_append,
    List.filter_append, List.map_append]
  by_cases set : token ∈ custom
  · simp [set]
  · simp [set]

end Index

/-- No two categories have the same wording, so a label tells its category. -/
theorem Category.label_injective : Function.Injective Category.label := by
  intro first second same
  cases first <;> cases second <;> first | rfl | exact absurd same (by decide)

/-- The labels of the tables that hold a token, read off the tables one by one. -/
def labelsOf (custom : List String) (token : String) : List String :=
  (engineTables.filter fun table => token ∈ table.2).map (fun table => table.1.label) ++
    if token ∈ custom then ["custom reserved"] else []

/-- The wording of a token's categories is read off the tables. -/
theorem map_label_categories (custom : List String) (token : String) :
    ((Index.ofCustom custom).categories token).map Category.label = labelsOf custom token := by
  rw [Index.categories_ofCustom, labelsOf, List.map_append, List.map_map]
  congr 1
  by_cases set : token ∈ custom
  · simp [set, Category.label]
  · simp [set]

/-- No label is listed twice for a token, whatever tables it stands in. -/
theorem nodup_labelsOf (custom : List String) (token : String) : (labelsOf custom token).Nodup := by
  have held : ((engineTables.filter fun table => token ∈ table.2).map Prod.fst).Nodup := by
    have distinct : (engineTables.map Prod.fst).Nodup := by decide
    exact distinct.sublist (List.filter_sublist.map Prod.fst)
  have apart : Category.custom ∉ (engineTables.filter fun table => token ∈ table.2).map Prod.fst := by
    intro inside
    have listed : Category.custom ∈ engineTables.map Prod.fst :=
      (List.filter_sublist.map Prod.fst).subset inside
    exact absurd listed (by decide)
  rw [← map_label_categories, Index.categories_ofCustom]
  refine List.Nodup.map Category.label_injective ?_
  by_cases set : token ∈ custom
  · simpa [set] using List.Nodup.append held (List.nodup_singleton _) (by simpa using apart)
  · simpa [set] using held

/-- A token is reserved exactly when it has a label, so the two answers never disagree. -/
theorem isReserved_ofCustom_eq (custom : List String) (token : String) :
    (Index.ofCustom custom).isReserved token = !(labelsOf custom token).isEmpty := by
  rw [Index.isReserved, ← map_label_categories, List.isEmpty_map]

end PropertyMangling.Reserved
