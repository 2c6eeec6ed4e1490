import PropertyMangling.Proofs.Script.Forms
/-!
# How far the lexer looks: numbers

Whether the digits of a number go on is seen in the next character, and so is
whether a fraction, an exponent or the mark of a radix follows. A number in front of
another text with the same next character is the same number. Where a number is to
be read at all it has a first character.
-/
namespace PropertyMangling.Script.Lexer

variable {α : Type} {text behind digits : List Char} {found : Token}

/-- A reader takes a front part off a text and looks no further than the next character. -/
def TakesOff (read : Read α) (text : List Char) (answer : α) (behind : List Char) : Prop :=
  ∃ front, text = front ++ behind ∧ ∀ others, others.head? = behind.head? →
    read (front ++ others) = some (answer, others)

/-- Whether a token is a number of some kind. -/
def isNumeric : Token → Bool
  | .number .. | .bigint _ => true
  | _ => false

/-- Texts with the same next character have the same one with anything in front of both. -/
theorem head?_append_congr {first second : List Char} (same : first.head? = second.head?)
    (front : List Char) : (front ++ first).head? = (front ++ second).head? := by
  rw [List.head?_append, same, ← List.head?_append]

/-- Where the longest run of characters ends, the next character is not one that could go on with
it. -/
theorem head?_drop_takeWhile (p : Char → Bool) (text : List Char) :
    ∀ c ∈ (text.drop (text.takeWhile p).length).head?, p c = false := by
  intro c first
  have rest : text.drop (text.takeWhile p).length = text.dropWhile p :=
    List.append_cancel_left
      ((takeWhile_append_drop p text).symm.trans List.takeWhile_append_dropWhile.symm)
  rw [rest] at first
  have stopped := List.head?_dropWhile_not p text
  rwa [Option.mem_def.mp first] at stopped

/-- Digits are read up to what does not go on with them, and a digit in front is one of them. -/
theorem digitRun_split {isDigit : Char → Bool}
    (read : digitRun isDigit text = some (digits, behind)) :
    ∃ front, text = front ++ behind ∧ (front = [] → digits = [] ∧ ∀ c ∈ text.head?, isDigit c = false) ∧
      ∀ others, others.head? = behind.head? →
        digitRun isDigit (front ++ others) = some (digits, others) := by
  simp only [digitRun] at read
  split at read
  · cases read
  · next valid =>
    cases read
    have stops := head?_drop_takeWhile (fun c => isDigit c || c == '_') text
    refine ⟨_, takeWhile_append_drop _ text, ?_, fun others same => ?_⟩
    · intro empty
      rw [empty] at stops ⊢
      refine ⟨rfl, fun c first => ?_⟩
      exact (Bool.or_eq_false_iff.mp (stops c first)).1
    · rw [← same] at stops
      have run := takeWhile_append_run
        (fun c inside => List.mem_takeWhile_imp (l := text) inside) stops
      simp only [digitRun, run]
      rw [if_neg valid, List.drop_left]

/-- A number in another base than ten is taken off the text, and what is taken does not depend on
the text behind it beyond its first character. -/
theorem radixNumber_split {radix : Nat} (read : radixNumber radix text = some (found, behind)) :
    isNumeric found = true ∧ TakesOff (radixNumber radix) text found behind := by
  obtain ⟨⟨digits, rest⟩, run, further⟩ := Option.bind_eq_some_iff.mp read
  obtain ⟨front, rfl, -, reads⟩ := digitRun_split run
  dsimp only at further
  split at further
  · cases further
  · next behind filled =>
    cases further
    refine ⟨rfl, front ++ ['n'], by simp, fun others _ => ?_⟩
    have form : front ++ ['n'] ++ others = front ++ 'n' :: others := by simp
    rw [form, radixNumber, reads ('n' :: others) rfl]
    simp only [Option.bind_eq_bind, Option.bind_some]
    rfl
  · next filled noMark =>
    cases further
    refine ⟨rfl, front, rfl, fun others same => ?_⟩
    rw [radixNumber, reads others same]
    simp only [Option.bind_eq_bind, Option.bind_some]
    split
    · exact absurd rfl filled
    · obtain ⟨more, rfl⟩ := List.head?_eq_some_iff.mp same.symm
      exact absurd rfl (noMark more)
    · rfl

/-- The digits of an exponent behind its sign. -/
def signedDigits (negative : Bool) : Read Int := fun text => do
  let (digits, rest) ← digitRun Char.isDigit text
  if digits.isEmpty then none
  else return (if negative then -(valueOf 10 digits : Int) else valueOf 10 digits, rest)

/-- The digits of an exponent have a first character, and are read the same in front of any text
that starts alike. -/
theorem signedDigits_split {negative : Bool} {value : Int}
    (read : signedDigits negative text = some (value, behind)) :
    ∃ c front, text = c :: front ++ behind ∧ ∀ others, others.head? = behind.head? →
      signedDigits negative (c :: front ++ others) = some (value, others) := by
  obtain ⟨⟨digits, rest⟩, run, further⟩ := Option.bind_eq_some_iff.mp read
  obtain ⟨front, rfl, nothing, reads⟩ := digitRun_split run
  dsimp only at further
  split at further
  · cases further
  · next filled =>
    cases further
    obtain ⟨c, others, rfl⟩ := List.exists_cons_of_ne_nil fun empty =>
      filled (List.isEmpty_iff.mpr (nothing empty).1)
    refine ⟨c, others, rfl, fun others same => ?_⟩
    rw [signedDigits, reads others same]
    exact if_neg filled

/-- Behind its letter the exponent has its digits, with a sign before them or without one. -/
theorem exponent_cons {c : Char} (letter : (c = 'e' || c = 'E') = true) (rest : List Char) :
    exponent (c :: rest) = if rest.head? = some '-' then signedDigits true rest.tail
      else signedDigits false (if rest.head? = some '+' then rest.tail else rest) := by
  by_cases minus : rest.head? = some '-'
  · obtain ⟨more, rfl⟩ := List.head?_eq_some_iff.mp minus
    rw [exponent, if_pos letter]
    rfl
  · rw [if_neg minus]
    by_cases plus : rest.head? = some '+'
    · obtain ⟨more, rfl⟩ := List.head?_eq_some_iff.mp plus
      rw [exponent, if_pos letter]
      rfl
    · rw [if_neg plus, exponent, if_pos letter]
      · rfl
      · rintro more rfl
        exact minus rfl
      · rintro more rfl
        exact plus rfl

/-- Where no letter of an exponent stands there is none, and nothing of the text is read. -/
theorem exponent_of_not {c : Char} (letter : ¬ (c = 'e' || c = 'E') = true) (rest : List Char) :
    exponent (c :: rest) = some (0, c :: rest) := by
  unfold exponent
  exact if_neg letter

/-- An exponent, or the lack of one, is read the same in front of any text that starts with the
same character. -/
theorem exponent_split {value : Int} (read : exponent text = some (value, behind)) :
    TakesOff exponent text value behind := by
  cases text with
  | nil =>
    cases read
    refine ⟨[], rfl, fun others same => ?_⟩
    rw [List.head?_eq_none_iff.mp same]
    rfl
  | cons c rest =>
    by_cases letter : (c = 'e' || c = 'E') = true
    · rw [exponent_cons letter] at read
      by_cases minus : rest.head? = some '-'
      · obtain ⟨more, rfl⟩ := List.head?_eq_some_iff.mp minus
        obtain ⟨d, front, rfl, reads⟩ := signedDigits_split read
        refine ⟨c :: '-' :: d :: front, rfl, fun others same => ?_⟩
        rw [← reads others same, List.cons_append, exponent_cons letter]
        rfl
      · rw [if_neg minus] at read
        by_cases plus : rest.head? = some '+'
        · obtain ⟨more, rfl⟩ := List.head?_eq_some_iff.mp plus
          obtain ⟨d, front, rfl, reads⟩ := signedDigits_split read
          refine ⟨c :: '+' :: d :: front, rfl, fun others same => ?_⟩
          rw [← reads others same, List.cons_append, exponent_cons letter]
          rfl
        · rw [if_neg plus] at read
          obtain ⟨d, front, rfl, reads⟩ := signedDigits_split read
          refine ⟨c :: d :: front, rfl, fun others same => ?_⟩
          rw [← reads others same, List.cons_append, exponent_cons letter]
          exact (if_neg minus).trans (if_neg plus ▸ rfl)
    · rw [exponent_of_not letter] at read
      cases read
      refine ⟨[], rfl, fun others same => ?_⟩
      obtain ⟨more, rfl⟩ := List.head?_eq_some_iff.mp same
      exact exponent_of_not letter more

/-- What follows the whole part of a decimal is taken off the text; if nothing is taken then no
point stands there. -/
theorem decimalTail_split {whole : List Char} {legacy : Bool}
    (read : decimalTail whole legacy text = some (found, behind)) :
    isNumeric found = true ∧ ∃ front, text = front ++ behind ∧
      (front = [] → text.head? ≠ some '.') ∧ ∀ others, others.head? = behind.head? →
        decimalTail whole legacy (front ++ others) = some (found, others) := by
  unfold decimalTail at read
  dsimp only at read
  split at read
  · obtain ⟨⟨fraction, rest⟩, run, further⟩ := Option.bind_eq_some_iff.mp read
    obtain ⟨⟨power, last⟩, powered, same⟩ := Option.bind_eq_some_iff.mp further
    cases same
    obtain ⟨digits, rfl, -, reads⟩ := digitRun_split run
    obtain ⟨front, rfl, readsPower⟩ := exponent_split powered
    refine ⟨rfl, '.' :: (digits ++ front), by simp, nofun, fun others same => ?_⟩
    have form : '.' :: (digits ++ front) ++ others = '.' :: (digits ++ (front ++ others)) := by simp
    rw [form, decimalTail]
    simp only [reads _ (head?_append_congr same front), Option.bind_eq_bind, Option.bind_some,
      readsPower others same]
    rfl
  · next noPoint =>
    obtain ⟨⟨power, last⟩, powered, same⟩ :=
      Option.bind_eq_some_iff.mp ((Option.bind_some _ _).symm.trans read)
    cases same
    obtain ⟨front, rfl, readsPower⟩ := exponent_split powered
    refine ⟨rfl, front, rfl, fun _ point => ?_, fun others same => ?_⟩
    · obtain ⟨more, pointed⟩ := List.head?_eq_some_iff.mp point
      exact noPoint more pointed
    have stillNoPoint : ∀ rest, front ++ others ≠ '.' :: rest := by
      intro rest point
      have first := head?_append_congr same front
      rw [point, List.head?_cons] at first
      obtain ⟨more, pointed⟩ := List.head?_eq_some_iff.mp first.symm
      exact noPoint more pointed
    rw [decimalTail]
    · simp only [Option.bind_eq_bind, Option.bind_some, readsPower others same]
      rfl
    · exact stillNoPoint

/-- Whether digits have an idle zero in front of others. -/
def isLegacy (text rest : List Char) : Bool :=
  text.head? == some '0' && (text.drop 1).length > rest.length

/-- A number of which nothing has been read is no old octal one. -/
theorem isLegacy_self (text : List Char) : isLegacy text text = false := by
  simp only [isLegacy, List.length_drop, Bool.and_eq_false_iff, decide_eq_false_iff_not]
  omega

/-- Whether a number is an old octal one is told from its digits and not from the text behind
them. -/
theorem isLegacy_append (digits others rest : List Char) :
    isLegacy (digits ++ others) others = isLegacy (digits ++ rest) rest := by
  cases digits with
  | nil => exact (isLegacy_self others).trans (isLegacy_self rest).symm
  | cons c more => simp [isLegacy]

/-- A whole number with the mark of large ones behind it is a large number, if there are any
digits. -/
theorem decimalNumber_mark {whole rest : List Char}
    (run : digitRun Char.isDigit text = some (whole, 'n' :: rest)) :
    decimalNumber text =
      if whole.isEmpty then none else some (.bigint (valueOf 10 whole), rest) := by
  rw [decimalNumber, run]
  rfl

/-- A decimal number without the mark of large ones is an old octal one or goes on with its point
and its exponent. -/
theorem decimalNumber_eq {whole rest : List Char}
    (run : digitRun Char.isDigit text = some (whole, rest)) (noMark : rest.head? ≠ some 'n') :
    decimalNumber text =
      if isLegacy text rest && whole.all fun c => c < '8' then
        some (.number (Binary64.ofNat (valueOf 8 whole)) true, rest)
      else decimalTail whole (isLegacy text rest) rest := by
  rw [decimalNumber, run]
  simp only [Option.bind_eq_bind, Option.bind_some]
  split
  · exact absurd rfl noMark
  · rfl

/-- A decimal number starts with a digit or its point, which is a part of it. -/
theorem decimalNumber_split (starts : ∃ c ∈ text.head?, c.isDigit = true ∨ c = '.')
    (read : decimalNumber text = some (found, behind)) :
    isNumeric found = true ∧ ∃ front, front ≠ [] ∧ text = front ++ behind ∧
      ∀ others, others.head? = behind.head? →
        decimalNumber (front ++ others) = some (found, others) := by
  obtain ⟨⟨whole, rest⟩, run, further⟩ := Option.bind_eq_some_iff.mp read
  obtain ⟨digits, rfl, nothing, reads⟩ := digitRun_split run
  by_cases mark : rest.head? = some 'n'
  · obtain ⟨more, rfl⟩ := List.head?_eq_some_iff.mp mark
    rw [decimalNumber_mark run] at read
    split at read
    · cases read
    · next filled =>
      cases read
      refine ⟨rfl, digits ++ ['n'], by simp, by simp, fun others _ => ?_⟩
      have form : digits ++ ['n'] ++ others = digits ++ 'n' :: others := by simp
      rw [form, decimalNumber_mark (reads ('n' :: others) rfl), if_neg filled]
  · rw [decimalNumber_eq run mark] at read
    split at read
    · next octal =>
      cases read
      refine ⟨rfl, digits, ?_, rfl, fun others same => ?_⟩
      · rintro rfl
        rw [List.nil_append, isLegacy_self, Bool.false_and] at octal
        cases octal
      · rw [decimalNumber_eq (reads others same) (by rwa [same]), isLegacy_append _ _ behind,
          if_pos octal]
    · next decimal =>
      obtain ⟨isNumber, front, rfl, noPoint, readsTail⟩ := decimalTail_split read
      refine ⟨isNumber, digits ++ front, ?_, by simp, fun others same => ?_⟩
      · -- Without a digit in front there is the point, which a fraction passes.
        intro empty
        obtain ⟨rfl, rfl⟩ := List.append_eq_nil_iff.mp empty
        obtain ⟨c, first, digit | rfl⟩ := starts
        · exact Bool.eq_false_iff.mp ((nothing rfl).2 c first) digit
        · exact noPoint rfl first
      · have head := head?_append_congr same front
        rw [List.append_assoc, decimalNumber_eq (reads _ head) (by rwa [head]),
          isLegacy_append _ _ (front ++ behind), if_neg decimal, readsTail others same]

/-- The radix that a number is marked with. -/
def radixMark? : List Char → Option Nat
  | '0' :: c :: _ =>
    if c = 'x' || c = 'X' then some 16
    else if c = 'o' || c = 'O' then some 8
    else if c = 'b' || c = 'B' then some 2
    else none
  | _ => none

/-- A number passes unless a name starts directly behind it. -/
def checked (read : Token × List Char) : Option (Token × List Char) :=
  match read.1 with
  | .bigint _ => some read
  | _ => if read.2.head?.any isNameStart then none else some read

/-- A number is read in the base that its first two characters name, or in base ten, and is then
checked for what follows. -/
theorem number_eq (text : List Char) :
    number text = ((radixMark? text).elim (decimalNumber text) fun radix =>
      radixNumber radix (text.drop 2)).bind checked := by
  unfold number
  split
  · next c rest =>
    by_cases hex : (c = 'x' || c = 'X') = true
    · simp only [radixMark?, if_pos hex]
      rfl
    · by_cases octal : (c = 'o' || c = 'O') = true
      · simp only [radixMark?, if_neg hex, if_pos octal]
        rfl
      · by_cases binary : (c = 'b' || c = 'B') = true
        · simp only [radixMark?, if_neg hex, if_neg octal, if_pos binary]
          rfl
        · simp only [radixMark?, if_neg hex, if_neg octal, if_neg binary]
          rfl
  · next other =>
    have unmarked : radixMark? text = none := by
      unfold radixMark?
      split
      · exact absurd rfl (other _ _)
      · rfl
    rw [unmarked]
    rfl

/-- A marked number has a zero and a letter in front of its digits. -/
theorem exists_of_radixMark? {radix : Nat} (marked : radixMark? text = some radix) :
    ∃ c rest, text = '0' :: c :: rest ∧
      ∀ others, radixMark? ('0' :: c :: others) = some radix := by
  unfold radixMark? at marked
  split at marked
  · next c rest => exact ⟨c, rest, rfl, fun _ => marked⟩
  · cases marked

/-- A number that passes the check passes it in front of any text that starts with the same
character. -/
theorem checked_split {first : Option (Token × List Char)}
    (read : first.bind checked = some (found, behind)) :
    first = some (found, behind) ∧ ∀ others, others.head? = behind.head? →
      checked (found, others) = some (found, others) := by
  obtain ⟨⟨token, rest⟩, rfl, passed⟩ := Option.bind_eq_some_iff.mp read
  cases token with
  | bigint value =>
    cases passed
    exact ⟨rfl, fun others _ => rfl⟩
  | _ =>
    simp only [checked] at passed
    split at passed
    · cases passed
    · next free =>
      cases passed
      refine ⟨rfl, fun others same => ?_⟩
      simp only [checked, same]
      exact if_neg free

/-- The mark of a radix is seen in the first two characters. -/
theorem radixMark?_cons {c : Char} {front rest others : List Char}
    (same : others.head? = rest.head?) :
    radixMark? (c :: front ++ others) = radixMark? (c :: front ++ rest) := by
  have two (text : List Char) : radixMark? (c :: text) = radixMark? (c :: text.head?.toList) := by
    by_cases zero : c = '0'
    · subst zero
      cases text <;> rfl
    · have unmarked (text : List Char) : radixMark? (c :: text) = none := by
        unfold radixMark?
        split
        · next same => exact absurd (List.cons.inj same).1 zero
        · rfl
      rw [unmarked, unmarked]
  rw [List.cons_append, two, head?_append_congr same, ← two]
  rfl

/-- A number is read up to what does not go on with it. -/
theorem number_split {c : Char} {rest : List Char} (starts : c.isDigit = true ∨ c = '.')
    (read : number (c :: rest) = some (found, behind)) :
    isNumeric found = true ∧ ∃ front, rest = front ++ behind ∧
      ∀ others, others.head? = behind.head? →
        number (c :: front ++ others) = some (found, others) := by
  rw [number_eq] at read
  obtain ⟨body, passes⟩ := checked_split read
  cases marked : radixMark? (c :: rest) with
  | none =>
    rw [marked, Option.elim_none] at body
    obtain ⟨isNumber, front, filled, whole, reads⟩ := decimalNumber_split ⟨c, rfl, starts⟩ body
    obtain ⟨d, front, rfl⟩ := List.exists_cons_of_ne_nil filled
    obtain ⟨rfl, rfl⟩ := List.cons.inj whole
    refine ⟨isNumber, front, rfl, fun others same => ?_⟩
    have markedToo : radixMark? (c :: front ++ others) = none := by
      rw [radixMark?_cons same]
      exact marked
    rw [number_eq, markedToo, Option.elim_none, reads others same]
    exact passes others same
  | some radix =>
    rw [marked, Option.elim_some] at body
    obtain ⟨d, more, same, marks⟩ := exists_of_radixMark? marked
    obtain ⟨rfl, rfl⟩ := List.cons.inj same
    obtain ⟨isNumber, front, whole, reads⟩ := radixNumber_split body
    obtain rfl : more = front ++ behind := whole
    refine ⟨isNumber, d :: front, rfl, fun others same => ?_⟩
    rw [number_eq, List.cons_append, List.cons_append, marks, Option.elim_some]
    exact (congrArg (Option.bind · checked) (reads others same)).trans (passes others same)

end PropertyMangling.Script.Lexer
