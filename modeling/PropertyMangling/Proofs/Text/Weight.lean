/-!
# What texts weigh

Characters are counted in more than one way: the length of a text is how many there
are, and the places in a text are told by how many bytes encode what is in front of
them. A weight is any way in between, so that what holds of all weights holds of
both. Weighing a text in parts is weighing it, and only the empty text weighs
nothing; so a place in a text is known by the weight in front of it.
-/
namespace PropertyMangling

/-- A way to weigh characters between counting them and counting their bytes. -/
def IsWeight (size : Char → Nat) : Prop := ∀ c, 1 ≤ size c ∧ size c ≤ c.utf8Size

/-- What some characters weigh. -/
def weigh (size : Char → Nat) : List Char → Nat
  | [] => 0
  | c :: rest => size c + weigh size rest

/-- Counting each character as one is a way to weigh texts, for bounds on the number of
characters. -/
theorem isWeight_one : IsWeight fun _ => 1 := fun c => ⟨Nat.le_refl 1, c.utf8Size_pos⟩

/-- Counting the bytes of each character is a way to weigh texts, for bounds on positions. -/
theorem isWeight_utf8Size : IsWeight Char.utf8Size := fun c => ⟨c.utf8Size_pos, Nat.le_refl _⟩

variable {size : Char → Nat}

/-- No characters weigh nothing. -/
@[simp] theorem weigh_nil : weigh size [] = 0 := rfl

/-- A text weighs what its first character and the others weigh. -/
@[simp] theorem weigh_cons (c : Char) (rest : List Char) :
    weigh size (c :: rest) = size c + weigh size rest := rfl

/-- Two texts weigh together what each of them weighs. -/
@[simp] theorem weigh_append (front behind : List Char) :
    weigh size (front ++ behind) = weigh size front + weigh size behind := by
  induction front with
  | nil => rw [List.nil_append, weigh_nil, Nat.zero_add]
  | cons c rest inductionHypothesis =>
    rw [List.cons_append, weigh_cons, weigh_cons, inductionHypothesis, Nat.add_assoc]

/-- Weighed equally, characters are counted, so the weight is the length of the text. -/
theorem weigh_one (chars : List Char) : weigh (fun _ => 1) chars = chars.length := by
  induction chars with
  | nil => rfl
  | cons c rest inductionHypothesis =>
    rw [weigh_cons, inductionHypothesis, List.length_cons, Nat.add_comm]

/-- A text weighs at least as much as it has characters, since each weighs one or more. -/
theorem IsWeight.length_le (fits : IsWeight size) (chars : List Char) :
    chars.length ≤ weigh size chars := by
  induction chars with
  | nil => exact Nat.zero_le _
  | cons c rest inductionHypothesis =>
    have one := (fits c).1
    rw [weigh_cons, List.length_cons]
    omega

/-- Characters of one byte each weigh as much as there are of them. -/
theorem IsWeight.le_length (fits : IsWeight size) {chars : List Char}
    (small : ∀ c ∈ chars, c.utf8Size = 1) : weigh size chars ≤ chars.length := by
  induction chars with
  | nil => exact Nat.zero_le _
  | cons c rest inductionHypothesis =>
    obtain ⟨first, others⟩ := List.forall_mem_cons.mp small
    have one := (fits c).2
    have behind := inductionHypothesis others
    rw [weigh_cons, List.length_cons]
    omega

/-- No character weighs more than four, the greatest number of bytes that one has. -/
theorem IsWeight.le_four (fits : IsWeight size) (c : Char) : size c ≤ 4 :=
  Nat.le_trans (fits c).2 c.utf8Size_le_four

/-- What a reader passes weighs at least as much as it has characters. -/
theorem IsWeight.passed (fits : IsWeight size) {text behind : List Char} {count : Nat}
    (suffix : behind <:+ text) (passed : count + behind.length ≤ text.length) :
    count + weigh size behind ≤ weigh size text := by
  obtain ⟨front, rfl⟩ := suffix
  have all := fits.length_le front
  rw [weigh_append]
  rw [List.length_append] at passed
  omega

/-- Only no characters at all weigh nothing, since each character weighs one or more. -/
theorem IsWeight.eq_nil (fits : IsWeight size) {chars : List Char} (none : weigh size chars = 0) :
    chars = [] := by
  have length := fits.length_le chars
  exact List.eq_nil_of_length_eq_zero (by omega)

/-- What stands behind parts of a text that weigh the same is the same. -/
theorem IsWeight.eq_behind (fits : IsWeight size) {front front' behind behind' : List Char}
    (same : front ++ behind = front' ++ behind') (weights : weigh size front = weigh size front') :
    behind = behind' := by
  rcases List.append_eq_append_iff.mp same with ⟨more, rfl, text⟩ | ⟨more, rfl, text⟩
  · rw [weigh_append] at weights
    rw [text, fits.eq_nil (by omega : weigh size more = 0), List.nil_append]
  · rw [weigh_append] at weights
    rw [text, fits.eq_nil (by omega : weigh size more = 0), List.nil_append]

end PropertyMangling
