import Mathlib.Data.List.Chain
import PropertyMangling.Text.Packing
/-!
# Packed lines are as few as possible

A packing divides statements into lines without moving, dropping or cutting one
of them; every line is within the limit or holds a single statement. Putting each
statement on the line under way as long as it fits there gives a packing, and no
line of it has room for the statement that opens the next one.

No packing has fewer lines. A line under way that is longer leaves less room, so
it never leads to fewer lines; but it leads to one more at most, because the next
line that is opened makes up for it. So to close a line earlier than necessary
gains nothing, and neither does any other way to divide the statements.
-/
namespace PropertyMangling.Text

/-- A line may hold statements that are within the limit together, and a single one in any case. -/
def Fits (limit : Nat) (line : List String) : Prop :=
  line.length = 1 ∨ (String.join line).utf8ByteSize ≤ limit

/-- Statements divided into lines, none of which is left empty or holds more than it may. -/
structure IsPacking (limit : Nat) (statements : List String) (lines : List (List String)) :
    Prop where
  flatten_eq : lines.flatten = statements
  filled : ∀ line ∈ lines, line ≠ []
  fits : ∀ line ∈ lines, Fits limit line

/-- The lengths in bytes of two runs of statements add up when they are put on one line. -/
theorem utf8ByteSize_join_append (line more : List String) :
    (String.join (line ++ more)).utf8ByteSize =
      (String.join line).utf8ByteSize + (String.join more).utf8ByteSize := by
  rw [String.join_append, String.utf8ByteSize_append]

/-- A line of one statement has the length of the statement. -/
theorem utf8ByteSize_join_singleton (statement : String) :
    (String.join [statement]).utf8ByteSize = statement.utf8ByteSize := by
  simp

/-- A statement behind a line adds its own length, which is how the length is kept while a line
grows. -/
theorem utf8ByteSize_join_concat {line : List String} {length : Nat}
    (size : (String.join line).utf8ByteSize = length) (statement : String) :
    (String.join (line ++ [statement])).utf8ByteSize = length + statement.utf8ByteSize := by
  rw [utf8ByteSize_join_append, size, utf8ByteSize_join_singleton]

variable {limit length : Nat} {line : List String}

/-- Grouping statements keeps all of them, in their order. The induction is on the statements, for
every line begun so far. -/
theorem flatten_groupsFrom (limit : Nat) (group : List String) (length : Nat)
    (statements : List String) :
    (groupsFrom limit group length statements).flatten = group ++ statements := by
  induction statements generalizing group length with
  | nil => simp [groupsFrom]
  | cons statement rest inductionHypothesis =>
    rw [groupsFrom]
    split
    · rw [inductionHypothesis, List.append_assoc, List.singleton_append]
    · rw [List.flatten_cons, inductionHypothesis, List.singleton_append]

/-- The groups of statements are the statements, put together in their order. -/
theorem flatten_groups (limit : Nat) (statements : List String) :
    (groups limit statements).flatten = statements := by
  cases statements with
  | nil => rfl
  | cons statement rest => exact flatten_groupsFrom limit [statement] _ rest

/-- Lines without their line ends are the statements that were packed into them. -/
theorem join_lines (limit : Nat) (statements : List String) :
    String.join ((groups limit statements).map String.join) = String.join statements := by
  have joined : ∀ lines : List (List String),
      String.join (lines.map String.join) = String.join lines.flatten := by
    intro lines
    induction lines with
    | nil => rfl
    | cons line rest inductionHypothesis =>
      rw [List.map_cons, String.join_cons, inductionHypothesis, List.flatten_cons,
        String.join_append]
  rw [joined, flatten_groups]

/-- The group under way is the start of the first line. -/
theorem exists_groupsFrom_eq_cons (limit : Nat) (group : List String) (length : Nat)
    (statements : List String) :
    ∃ more lines, groupsFrom limit group length statements = (group ++ more) :: lines := by
  induction statements generalizing group length with
  | nil => exact ⟨[], [], by rw [groupsFrom, List.append_nil]⟩
  | cons statement rest inductionHypothesis =>
    rw [groupsFrom]
    split
    · obtain ⟨more, lines, same⟩ :=
        inductionHypothesis (group ++ [statement]) (length + statement.utf8ByteSize)
      exact ⟨statement :: more, lines, by rw [same, List.append_assoc, List.singleton_append]⟩
    · exact ⟨[], _, by rw [List.append_nil]⟩

/-- No line that is opened behind a group that may stand on one is empty or holds more than it
may. -/
theorem mem_groupsFrom {group statements : List String} (filled : group ≠ [])
    (size : (String.join group).utf8ByteSize = length) (fits : Fits limit group)
    (listed : line ∈ groupsFrom limit group length statements) : line ≠ [] ∧ Fits limit line := by
  induction statements generalizing group length with
  | nil =>
    rw [groupsFrom, List.mem_singleton] at listed
    exact listed ▸ ⟨filled, fits⟩
  | cons statement rest inductionHypothesis =>
    rw [groupsFrom] at listed
    split at listed
    · next room =>
      have grown := utf8ByteSize_join_concat size statement
      exact inductionHypothesis (by simp) grown (Or.inr (grown ▸ room)) listed
    · rcases List.mem_cons.mp listed with rfl | later
      · exact ⟨filled, fits⟩
      · exact inductionHypothesis (List.cons_ne_nil _ _) (utf8ByteSize_join_singleton statement)
          (Or.inl rfl) later

/-- The lines that statements are grouped into are a packing: nothing is lost, and lines of
several statements are within the limit. -/
theorem isPacking_groups (limit : Nat) (statements : List String) :
    IsPacking limit statements (groups limit statements) := by
  have each : ∀ line ∈ groups limit statements, line ≠ [] ∧ Fits limit line := by
    cases statements with
    | nil => simp [groups]
    | cons statement rest =>
      intro line listed
      exact mem_groupsFrom (List.cons_ne_nil _ _) (utf8ByteSize_join_singleton statement)
        (Or.inl rfl) listed
  exact ⟨flatten_groups limit statements, fun line listed => (each line listed).1,
    fun line listed => (each line listed).2⟩

/-- A line has no room for the statement that opens the next one. -/
def IsFull (limit : Nat) (line next : List String) : Prop :=
  limit < (String.join (line ++ next.take 1)).utf8ByteSize

/-- A line is closed only when the next statement has no room on it. -/
theorem isChain_groupsFrom {group : List String} (size : (String.join group).utf8ByteSize = length)
    (statements : List String) :
    (groupsFrom limit group length statements).IsChain (IsFull limit) := by
  induction statements generalizing group length with
  | nil => exact List.isChain_singleton group
  | cons statement rest inductionHypothesis =>
    rw [groupsFrom]
    split
    · exact inductionHypothesis (utf8ByteSize_join_concat size statement)
    · next noRoom =>
      have later := inductionHypothesis (utf8ByteSize_join_singleton statement)
      obtain ⟨more, lines, opened⟩ :=
        exists_groupsFrom_eq_cons limit [statement] statement.utf8ByteSize rest
      rw [opened] at later ⊢
      refine List.IsChain.cons_cons ?_ later
      rw [IsFull, List.singleton_append, List.take_succ_cons, List.take_zero,
        utf8ByteSize_join_concat size]
      exact Nat.lt_of_not_le noRoom

/-- Each line but the last is full: the first statement of the next line would not have fit on
it. -/
theorem isChain_groups (limit : Nat) (statements : List String) :
    (groups limit statements).IsChain (IsFull limit) := by
  cases statements with
  | nil => exact List.isChain_nil
  | cons statement rest => exact isChain_groupsFrom (utf8ByteSize_join_singleton statement) rest

/-- A longer line under way leads to as many lines, or to one more.

Induct over the statements. When the next one has room behind the shorter line
only, the longer one is closed before it: from here on the lengths have changed
places, and the line that was closed makes up for the difference. -/
theorem length_groupsFrom_mono (group other : List String) {shorter longer : Nat}
    (le : shorter ≤ longer) (statements : List String) :
    (groupsFrom limit group shorter statements).length ≤
        (groupsFrom limit other longer statements).length ∧
      (groupsFrom limit other longer statements).length ≤
        (groupsFrom limit group shorter statements).length + 1 := by
  induction statements generalizing group other shorter longer with
  | nil => simp [groupsFrom]
  | cons statement rest inductionHypothesis =>
    by_cases room : longer + statement.utf8ByteSize ≤ limit
    · have alsoRoom : shorter + statement.utf8ByteSize ≤ limit := by omega
      rw [groupsFrom, groupsFrom, if_pos room, if_pos alsoRoom]
      exact inductionHypothesis _ _ (by omega)
    · by_cases roomBehindShorter : shorter + statement.utf8ByteSize ≤ limit
      · rw [groupsFrom, groupsFrom, if_neg room, if_pos roomBehindShorter, List.length_cons]
        have opened := inductionHypothesis [statement] (group ++ [statement])
          (Nat.le_add_left statement.utf8ByteSize shorter)
        omega
      · rw [groupsFrom, groupsFrom, if_neg room, if_neg roomBehindShorter, List.length_cons,
          List.length_cons]
        have same :=
          inductionHypothesis [statement] [statement] (Nat.le_refl statement.utf8ByteSize)
        omega

/-- Statements that all have room on a line are all put on it. -/
theorem groupsFrom_append {more : List String}
    (room : length + (String.join more).utf8ByteSize ≤ limit) (group statements : List String) :
    groupsFrom limit group length (more ++ statements) =
      groupsFrom limit (group ++ more) (length + (String.join more).utf8ByteSize) statements := by
  induction more generalizing group length with
  | nil => simp
  | cons statement rest inductionHypothesis =>
    rw [String.join_cons, String.utf8ByteSize_append, ← Nat.add_assoc] at room ⊢
    rw [List.cons_append, groupsFrom, if_pos (by omega), inductionHypothesis room,
      List.append_assoc, List.singleton_append]

/-- A line under way adds one line at most to those of the statements behind it. -/
theorem length_groupsFrom_le (limit : Nat) (group : List String) (length : Nat)
    (statements : List String) :
    (groupsFrom limit group length statements).length ≤ (groups limit statements).length + 1 := by
  cases statements with
  | nil => simp [groupsFrom, groups]
  | cons statement rest =>
    rw [groupsFrom, groups]
    split
    · exact (length_groupsFrom_mono [statement] _ (Nat.le_add_left _ length) rest).2
    · rw [List.length_cons]

/-- Statements that may stand on one line add one line at most to those of the statements behind
them. -/
theorem length_groups_append_le (fits : Fits limit line) (statements : List String) :
    (groups limit (line ++ statements)).length ≤ (groups limit statements).length + 1 := by
  cases line with
  | nil => exact Nat.le_succ _
  | cons statement more =>
    rw [List.cons_append, groups]
    rcases fits with alone | within
    · obtain rfl : more = [] := List.length_eq_zero_iff.mp (Nat.succ.inj alone)
      exact length_groupsFrom_le limit _ _ statements
    · rw [String.join_cons, String.utf8ByteSize_append] at within
      rw [groupsFrom_append within]
      exact length_groupsFrom_le limit _ _ statements

/-- However statements are divided into lines that may hold them, grouping them takes no more
lines. -/
theorem length_groups_flatten_le {lines : List (List String)}
    (fits : ∀ line ∈ lines, Fits limit line) :
    (groups limit lines.flatten).length ≤ lines.length := by
  induction lines with
  | nil => exact Nat.le_refl 0
  | cons line rest inductionHypothesis =>
    obtain ⟨fitsFirst, fitsRest⟩ := List.forall_mem_cons.mp fits
    calc (groups limit (line :: rest).flatten).length
        ≤ (groups limit rest.flatten).length + 1 := length_groups_append_le fitsFirst _
      _ ≤ rest.length + 1 := Nat.succ_le_succ (inductionHypothesis fitsRest)

/-- Packed lines are a packing, with no room left for what stands on the next line, and no packing
has fewer lines. Lengths are counted in bytes, and a statement that is too long by itself gets a
line of its own. Proof of the last part: whatever line another packing starts with, taking its
statements away shortens the packed lines by one line at most. -/
theorem packLines_fewest (limit : Nat) (statements : List String) :
    ∃ lines, packLines limit statements = String.intercalate "\n" (lines.map String.join) ∧
      IsPacking limit statements lines ∧ lines.IsChain (IsFull limit) ∧
      ∀ others, IsPacking limit statements others → lines.length ≤ others.length := by
  refine ⟨groups limit statements, rfl, isPacking_groups limit statements,
    isChain_groups limit statements, ?_⟩
  intro others packing
  rw [← packing.flatten_eq]
  exact length_groups_flatten_le packing.fits

/-- Nothing stands behind a statement that is too long, not even an empty one. -/
example : packLines 3 ["ab", "", "c", "long", "", "d"] = "abc\nlong\nd" := by decide

end PropertyMangling.Text
