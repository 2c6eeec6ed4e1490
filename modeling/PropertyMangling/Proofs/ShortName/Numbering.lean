import Mathlib.Data.List.GetD
import Mathlib.Data.List.Nodup
import Mathlib.Order.Monotone.Defs
import Mathlib.Order.Nat
import PropertyMangling.ShortName
/-!
# Numbers of short names

The number of a short name can be read back from it. The first character gives
the remainder by 54 and every later one the remainder by 64 of what is left; a
zero is never written behind the last digit that counts, so no two numbers share
a name. Nothing else is asked of the digits: whatever does not end in such a zero
is the name of some number. A greater number never has a shorter name. Every short
name has the shape of a plain identifier; it fails to be one only by being a word
of the language.
-/
namespace PropertyMangling.ShortName

/-- There are 54 characters that may start a short name, the base of the first digit. -/
theorem length_leading : leading.length = 54 := by decide +kernel

/-- There are 64 characters that may stand further inside a short name, the base of all other
digits. -/
theorem length_trailing : trailing.length = 64 := by
  rw [trailing, List.length_append, length_leading]
  decide

/-- No character stands twice among those inside a short name, so each is one digit only. -/
theorem trailing_nodup : trailing.Nodup := by decide +kernel

/-- No character stands twice among those that start a short name, since they are the first of the
others. -/
theorem leading_nodup : leading.Nodup := (List.nodup_append.mp trailing_nodup).1

/-- Each of the leading characters may start an identifier, which is what makes short names
valid. -/
theorem isStart_of_mem_leading {c : Char} (listed : c ∈ leading) : Identifier.isStart c = true := by
  have all : leading.all Identifier.isStart = true := by decide +kernel
  exact List.all_eq_true.mp all c listed

/-- Each of the trailing characters may stand inside an identifier. -/
theorem isPart_of_mem_trailing {c : Char} (listed : c ∈ trailing) : Identifier.isPart c = true := by
  rcases List.mem_append.mp listed with letter | digit
  · exact Identifier.isPart_of_isStart (isStart_of_mem_leading letter)
  · have all : "0123456789".toList.all Identifier.isPart = true := by decide
    exact List.all_eq_true.mp all c digit

/-- A digit of an alphabet is one of its characters, as the default is taken for no digit within
its length. -/
theorem getD_mem {alphabet : List Char} {digit : Nat} (inside : digit < alphabet.length) :
    alphabet.getD digit 'a' ∈ alphabet := by
  rw [List.getD_eq_getElem _ _ inside]
  exact List.getElem_mem inside

/-- Distinct digits of an alphabet without repetition have distinct characters, so a character
tells its digit. -/
theorem digit_injective {alphabet : List Char} (distinct : alphabet.Nodup) {first second : Nat}
    (inside : first < alphabet.length) (alsoInside : second < alphabet.length)
    (same : alphabet.getD first 'a' = alphabet.getD second 'a') : first = second := by
  rw [List.getD_eq_getElem _ _ inside, List.getD_eq_getElem _ _ alsoInside] at same
  exact (List.Nodup.getElem_inj_iff distinct).mp same

/-- The number zero has no trailing digits, which ends the division. -/
theorem trailingDigits_zero : trailingDigits 0 = [] := by simp [trailingDigits]

/-- A number that is not zero has its remainder as the first digit and the digits of its quotient
behind it. -/
theorem trailingDigits_of_ne_zero {number : Nat} (some : number ≠ 0) :
    trailingDigits number = trailingDigit (number % 64) :: trailingDigits (number / 64) := by
  rw [trailingDigits, if_neg some]

/-- A number is determined by its digits: the first gives the remainder, the others the quotient. -/
theorem trailingDigits_injective {first second : Nat}
    (same : trailingDigits first = trailingDigits second) : first = second := by
  induction first using Nat.strongRecOn generalizing second with
  | ind first inductionHypothesis =>
    by_cases none : first = 0
    · by_cases alsoNone : second = 0
      · rw [none, alsoNone]
      · rw [none, trailingDigits_zero, trailingDigits_of_ne_zero alsoNone] at same
        exact absurd same (List.cons_ne_nil _ _).symm
    · by_cases noneThere : second = 0
      · rw [noneThere, trailingDigits_zero, trailingDigits_of_ne_zero none] at same
        exact absurd same (List.cons_ne_nil _ _)
      · rw [trailingDigits_of_ne_zero none, trailingDigits_of_ne_zero noneThere] at same
        obtain ⟨sameDigit, sameRest⟩ := List.cons.inj same
        have length := length_trailing
        have remainder : first % 64 = second % 64 :=
          digit_injective trailing_nodup (by omega) (by omega) sameDigit
        have quotient : first / 64 = second / 64 := inductionHypothesis _ (by omega) sameRest
        omega

/-- Distinct numbers have distinct names: the first character gives the remainder and the others
give the quotient. -/
theorem ofIndex_injective : Function.Injective ofIndex := by
  intro first second same
  obtain ⟨sameDigit, sameRest⟩ := List.cons.inj (String.ofList_inj.mp same)
  have length := length_leading
  have remainder : first % 54 = second % 54 :=
    digit_injective leading_nodup (by omega) (by omega) sameDigit
  have quotient : first / 54 = second / 54 := trailingDigits_injective sameRest
  omega

/-- The digits of a number are trailing characters. The induction is on the number, by the
division that writes it. -/
theorem mem_trailing_of_mem_trailingDigits {number : Nat} {c : Char}
    (written : c ∈ trailingDigits number) : c ∈ trailing := by
  induction number using trailingDigits.induct with
  | case1 =>
    rw [trailingDigits_zero] at written
    exact absurd written List.not_mem_nil
  | case2 number some inductionHypothesis =>
    rw [trailingDigits_of_ne_zero some] at written
    rcases List.mem_cons.mp written with rfl | later
    · have length := length_trailing
      exact getD_mem (by omega)
    · exact inductionHypothesis later

/-- The digit for zero is the letter `a`, so a number with an idle zero behind it would end with
that letter. -/
theorem trailingDigit_zero : trailingDigit 0 = 'a' := by decide

/-- A digit is written as zero is only when it is zero. -/
theorem trailingDigit_eq_a_iff {digit : Nat} (inside : digit < 64) :
    trailingDigit digit = 'a' ↔ digit = 0 := by
  have length := length_trailing
  rw [← trailingDigit_zero]
  exact ⟨digit_injective trailing_nodup (by omega) (by omega), congrArg trailingDigit⟩

/-- The digits of a number have no idle zero behind them. -/
theorem getLast?_trailingDigits (number : Nat) : (trailingDigits number).getLast? ≠ some 'a' := by
  induction number using trailingDigits.induct with
  | case1 => simp [trailingDigits_zero]
  | case2 number some inductionHypothesis =>
    rw [trailingDigits_of_ne_zero some]
    by_cases last : number / 64 = 0
    · have digit : number % 64 ≠ 0 := by omega
      rw [last, trailingDigits_zero, List.getLast?_singleton, Ne, Option.some.injEq,
        trailingDigit_eq_a_iff (by omega)]
      exact digit
    · rw [trailingDigits_of_ne_zero last] at inductionHypothesis ⊢
      rwa [List.getLast?_cons_cons]

/-- Trailing characters that do not end in an idle zero are the digits of a number.

Induct over the characters. What follows the first one has a number, and this
number is not zero unless nothing follows; then the first digit is not. -/
theorem exists_trailingDigits_eq {written : List Char} (listed : ∀ c ∈ written, c ∈ trailing)
    (busy : written.getLast? ≠ some 'a') : ∃ number, trailingDigits number = written := by
  induction written with
  | nil => exact ⟨0, trailingDigits_zero⟩
  | cons c rest inductionHypothesis =>
    obtain ⟨listedFirst, listedRest⟩ := List.forall_mem_cons.mp listed
    have busyRest : rest.getLast? ≠ some 'a' := by
      cases rest with
      | nil => simp
      | cons next more => rwa [List.getLast?_cons_cons] at busy
    obtain ⟨quotient, rfl⟩ := inductionHypothesis listedRest busyRest
    obtain ⟨digit, inside, rfl⟩ := List.getElem_of_mem listedFirst
    have spelled : trailingDigit digit = trailing[digit] := List.getD_eq_getElem _ _ inside
    rw [length_trailing] at inside
    have counts : 64 * quotient + digit ≠ 0 := by
      intro none
      obtain ⟨rfl, rfl⟩ : quotient = 0 ∧ digit = 0 := by omega
      rw [trailingDigits_zero, ← spelled, trailingDigit_zero] at busy
      exact busy rfl
    refine ⟨64 * quotient + digit, ?_⟩
    rw [trailingDigits_of_ne_zero counts, ← spelled]
    congr 2 <;> omega

/-- A greater number has at least as many digits, as its quotient is at least as great too. -/
theorem length_trailingDigits_mono {first second : Nat} (le : first ≤ second) :
    (trailingDigits first).length ≤ (trailingDigits second).length := by
  induction first using trailingDigits.induct generalizing second with
  | case1 => simp [trailingDigits_zero]
  | case2 first some inductionHypothesis =>
    have alsoSome : second ≠ 0 := by omega
    rw [trailingDigits_of_ne_zero some, trailingDigits_of_ne_zero alsoSome, List.length_cons,
      List.length_cons]
    exact Nat.succ_le_succ (inductionHypothesis (Nat.div_le_div_right le))

/-- A greater number never has a shorter name, so handing names out in order hands short ones out
first. -/
theorem length_ofIndex_mono : Monotone fun index => (ofIndex index).length := by
  intro first second le
  simp only [ofIndex, String.length_ofList, digits, List.length_cons]
  exact Nat.succ_le_succ (length_trailingDigits_mono (Nat.div_le_div_right le))

/-- The short names are the texts that open with a leading character, go on with trailing ones and
do not end in an idle zero. -/
theorem exists_ofIndex_eq_iff {name : String} :
    (∃ index, ofIndex index = name) ↔ ∃ first rest, name.toList = first :: rest ∧
      first ∈ leading ∧ (∀ c ∈ rest, c ∈ trailing) ∧ rest.getLast? ≠ some 'a' := by
  constructor
  · rintro ⟨index, rfl⟩
    have length := length_leading
    exact ⟨_, _, String.toList_ofList, getD_mem (by omega),
      fun _ => mem_trailing_of_mem_trailingDigits, getLast?_trailingDigits _⟩
  · rintro ⟨first, rest, spelled, opens, listed, busy⟩
    obtain ⟨quotient, rfl⟩ := exists_trailingDigits_eq listed busy
    obtain ⟨digit, inside, rfl⟩ := List.getElem_of_mem opens
    have written : leading.getD digit 'a' = leading[digit] := List.getD_eq_getElem _ _ inside
    rw [length_leading] at inside
    have remainder : (54 * quotient + digit) % 54 = digit := by omega
    have others : (54 * quotient + digit) / 54 = quotient := by omega
    refine ⟨54 * quotient + digit, String.toList_injective ?_⟩
    rw [spelled, ofIndex, String.toList_ofList, digits, remainder, others, written]

/-- Short names are numbered without repetition and in the order of their lengths, and every text
that can be one is one. The first character is a digit in base 54 and the others are digits in
base 64, least digit first; so a name ends with the letter for zero only when it is that letter
alone. -/
theorem ofIndex_enumerates :
    Function.Injective ofIndex ∧ (Monotone fun index => (ofIndex index).length) ∧
    ∀ name : String, (∃ index, ofIndex index = name) ↔ ∃ first rest, name.toList = first :: rest ∧
      first ∈ leading ∧ (∀ c ∈ rest, c ∈ trailing) ∧ rest.getLast? ≠ some 'a' :=
  ⟨ofIndex_injective, length_ofIndex_mono, fun _ => exists_ofIndex_eq_iff⟩

/-- Every short name has the shape of a plain identifier: a character that may start one, and
others that may follow. -/
theorem hasShape_digits (index : Nat) : Identifier.hasShape (digits index) = true := by
  have length := length_leading
  have start : Identifier.isStart (leading.getD (index % 54) 'a') = true :=
    isStart_of_mem_leading (getD_mem (by omega))
  have rest : (trailingDigits (index / 54)).all Identifier.isPart = true :=
    List.all_eq_true.mpr fun _ written =>
      isPart_of_mem_trailing (mem_trailing_of_mem_trailingDigits written)
  simp only [digits, Identifier.hasShape, start, rest, Bool.and_self]

/-- A short name is a plain identifier unless it is a word of the language. -/
theorem isPlain_ofIndex_iff (index : Nat) :
    Identifier.isPlain (ofIndex index) = true ↔ ofIndex index ∉ Identifier.words := by
  simp [Identifier.isPlain, ofIndex, hasShape_digits]

end PropertyMangling.ShortName
