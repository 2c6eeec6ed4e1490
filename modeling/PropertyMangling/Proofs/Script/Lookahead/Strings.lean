import PropertyMangling.Proofs.Script.Words
/-!
# How far the lexer looks: escapes and strings

Each reader takes a front part off its text. What stands behind that part does
not matter for it, the next character apart: the same part in front of another
text with the same next character is read alike. An escape looks ahead inside of
what encloses it only, because the character that closes it is no digit.
-/
namespace PropertyMangling.Script.Lexer

variable {α : Type} {text behind front : List Char}

/-- The first character of a text with something in its middle. -/
theorem head?_append_cons (front behind : List Char) (c : Char) :
    (front ++ c :: behind).head? = some (front.head?.getD c) := by
  cases front <;> rfl

/-! ## Escapes -/

/-- A character that no escape goes on with. -/
structure Bounds (c : Char) : Prop where
  noDigit : Text.hexValue? c = none
  noOctal : isOctal c = false
  plain : c ≠ 'u' ∧ c ≠ '\\' ∧ c ≠ '\n' ∧ c ≠ '\x7b' ∧ c ≠ '\x7d'

/-- A reader does not see what is behind a character. -/
def StopsAt (bound : Char) (front : List Char) (read : Read α) : Prop :=
  ∃ answer : Option (α × List Char), ∀ behind,
    read (front ++ bound :: behind) = answer.map fun found => (found.1, found.2 ++ bound :: behind)

/-- Reading hexadecimal digits never passes the quote or any other bound, since no bound is a
digit. -/
theorem hexRun_stops {bound : Char} (bounds : Bounds bound) (count : Nat) (front : List Char) :
    StopsAt bound front (hexRun count) := by
  by_cases enough : count ≤ front.length
  · refine ⟨hexRun count front, fun behind => ?_⟩
    simp only [hexRun, List.take_append_of_le_length enough, List.drop_append_of_le_length enough]
    split <;> rfl
  · refine ⟨none, fun behind => ?_⟩
    have reached : (front ++ bound :: behind).take count =
        front ++ bound :: behind.take (count - front.length - 1) := by
      rw [List.take_append, List.take_of_length_le (Nat.le_of_not_le enough)]
      obtain ⟨more, same⟩ := Nat.exists_eq_succ_of_ne_zero
        (Nat.sub_ne_zero_of_lt (Nat.lt_of_not_le enough))
      rw [same]
      rfl
    simp [hexRun, reached, bounds.noDigit]

/-- Reading the number of a character stops at a bound, in both of its forms. -/
theorem characterNumber_stops {bound : Char} (bounds : Bounds bound) (front : List Char) :
    StopsAt bound front characterNumber := by
  by_cases braced : ∃ rest, front = '\x7b' :: rest
  · obtain ⟨rest, rfl⟩ := braced
    have run (behind : List Char) :
        (rest ++ bound :: behind).takeWhile (fun c => (Text.hexValue? c).isSome) =
          rest.takeWhile fun c => (Text.hexValue? c).isSome := by
      refine takeWhile_append_stop ?_ rest
      rintro _ ⟨⟩
      simp [bounds.noDigit]
    refine ⟨characterNumber ('\x7b' :: rest), fun behind => ?_⟩
    rw [List.cons_append, characterNumber, characterNumber]
    have short : (rest.takeWhile fun c => (Text.hexValue? c).isSome).length ≤ rest.length :=
      (List.takeWhile_prefix _).length_le
    simp only [run, List.drop_append_of_le_length short]
    cases rest.drop (rest.takeWhile fun c => (Text.hexValue? c).isSome).length with
    | nil =>
      split
      · next same => exact absurd (List.cons.inj same).1 bounds.plain.2.2.2.2
      · rfl
    | cons c last =>
      by_cases close : c = '\x7d'
      · subst close
        simp only [List.cons_append]
        rw [apply_ite (Option.map _)]
        rfl
      · simp [close]
  · obtain ⟨answer, sees⟩ := hexRun_stops bounds 4 front
    refine ⟨answer, fun behind => ?_⟩
    rw [← sees, characterNumber]
    intro rest same
    cases front with
    | nil => exact bounds.plain.2.2.2.1 (List.cons.inj same).1
    | cons c others => exact braced ⟨others, by rw [(List.cons.inj same).1]⟩


/-! ## Strings -/

/-- Looking for the second half of a pair of numbers stops at a bound, and finds the same without
it. -/
theorem pairedCharacter_stops {bound : Char} (bounds : Bounds bound) (number : Nat)
    (front : List Char) :
    StopsAt bound front fun text => some (pairedCharacter number text) := by
  have alone (chars : List Char) : ∃ answer : Option (List Char × List Char), ∀ behind,
      some (chars, front ++ bound :: behind) =
        answer.map fun found => (found.1, found.2 ++ bound :: behind) :=
    ⟨some (chars, front), fun _ => rfl⟩
  unfold StopsAt pairedCharacter
  by_cases whole : (number < 0xD800 || 0xDFFF < number) = true
  · simp only [if_pos whole]
    exact alone _
  · simp only [if_neg whole]
    by_cases high : number < 0xDC00
    · simp only [if_pos high]
      by_cases second : ∃ rest, front = '\\' :: 'u' :: rest
      · obtain ⟨rest, rfl⟩ := second
        obtain ⟨answer, sees⟩ := characterNumber_stops bounds rest
        simp only [List.cons_append, sees]
        cases answer with
        | none => exact alone _
        | some found =>
          dsimp only [Option.map_some]
          by_cases low : (0xDC00 ≤ found.1 && found.1 ≤ 0xDFFF) = true
          · simp only [if_pos low]
            exact ⟨some (_, found.2), fun _ => rfl⟩
          · simp only [if_neg low]
            exact alone _
      · have other : ∀ behind rest, front ++ bound :: behind ≠ '\\' :: 'u' :: rest := by
          intro behind rest same
          match front with
          | [] => exact bounds.plain.2.1 (List.cons.inj same).1
          | [c] => exact bounds.plain.1 (List.cons.inj (List.cons.inj same).2).1
          | c :: d :: more =>
            obtain ⟨slash, same⟩ := List.cons.inj same
            obtain ⟨letter, -⟩ := List.cons.inj same
            exact second ⟨more, by rw [slash, letter]⟩
        obtain ⟨answer, sees⟩ := alone ('\\' :: 'u' :: (Text.hexDigits number).map Char.toUpper)
        refine ⟨answer, fun behind => ?_⟩
        rw [← sees]
        split
        · next same => exact absurd same (other behind _)
        · rfl
    · simp only [if_neg high]
      exact alone _

/-- A hexadecimal digit has a value below sixteen, which bounds what a run of digits comes to. -/
theorem hexValue?_getD_le (c : Char) : (Text.hexValue? c).getD 0 ≤ 15 := by
  have last {first last : Char} (inside : (decide (first ≤ c) && decide (c ≤ last)) = true) :
      c.toNat ≤ last.toNat := by
    simp only [Bool.and_eq_true, decide_eq_true_eq] at inside
    exact inside.2
  unfold Text.hexValue?
  split
  · next inside =>
    have upper : c.toNat ≤ 57 := last inside
    simp only [Option.getD_some]
    omega
  · split
    · next inside =>
      have upper : c.toNat ≤ 102 := last inside
      simp only [Option.getD_some]
      omega
    · split
      · next inside =>
        have upper : c.toNat ≤ 70 := last inside
        simp only [Option.getD_some]
        omega
      · exact Nat.zero_le _

/-- An octal escape stops at a bound, as no bound is a digit. -/
theorem octalEscape_stops {bound c : Char} (bounds : Bounds bound) (front : List Char) :
    StopsAt bound (c :: front) fun text => some (octalEscape text) := by
  have run (behind : List Char) : ((c :: front ++ bound :: behind).take 3).takeWhile isOctal =
      ((c :: front).take 3).takeWhile isOctal := by
    rw [List.take_append]
    refine takeWhile_append_stop ?_ _
    intro d first
    cases count : 3 - (c :: front).length with
    | zero =>
      rw [count] at first
      cases first
    | succ more =>
      rw [count] at first
      obtain rfl : bound = d := Option.some.inj first
      exact bounds.noOctal
  have short : (((c :: front).take 3).takeWhile isOctal).length ≤ (c :: front).length :=
    (List.takeWhile_prefix _).length_le.trans (List.length_take_le' _ _)
  refine ⟨some (octalEscape (c :: front)), fun behind => ?_⟩
  simp only [octalEscape, run, List.drop_append_of_le_length short]
  split
  · rfl
  · next large =>
    cases front with
    | cons d rest => rfl
    | nil =>
      -- One digit is too small a number.
      have small : valueOf 8 (([c].take 3).takeWhile isOctal) ≤ 15 := by
        cases octal : isOctal c with
        | false => simp [octal, valueOf]
        | true => simpa [octal, valueOf] using hexValue?_getD_le c
      exact absurd (Nat.lt_of_le_of_lt small (by decide)) large

/-- Every escape stops at a bound, provided the character behind its backslash stands before the
bound. -/
theorem escape_stops {bound c : Char} (bounds : Bounds bound) (front : List Char) :
    StopsAt bound (c :: front) escape := by
  by_cases pair : c = '\r' ∧ ∃ rest, front = '\n' :: rest
  · obtain ⟨rfl, rest, rfl⟩ := pair
    exact ⟨some (([], false), rest), fun _ => rfl⟩
  by_cases hex : c = 'x'
  · subst hex
    obtain ⟨answer, sees⟩ := hexRun_stops bounds 2 front
    refine ⟨answer.map fun found => (([Char.ofNat found.1], false), found.2), fun behind => ?_⟩
    rw [List.cons_append, escape, sees]
    cases answer <;> rfl
  by_cases number : c = 'u'
  · subst number
    obtain ⟨answer, sees⟩ := characterNumber_stops bounds front
    cases answer with
    | none =>
      refine ⟨none, fun behind => ?_⟩
      rw [List.cons_append, escape, sees]
      rfl
    | some found =>
      obtain ⟨paired, seesPair⟩ := pairedCharacter_stops bounds found.1 found.2
      refine ⟨paired.map fun found => ((found.1, false), found.2), fun behind => ?_⟩
      have both := seesPair behind
      rw [List.cons_append, escape, sees]
      cases paired with
      | none => cases both
      | some last =>
        simp only [Option.map_some, Option.some.injEq] at both
        simp only [Option.map_some, Option.bind_eq_bind, Option.bind_some, both]
        rfl
  have noPair (behind : List Char) :
      c = '\r' → (front ++ bound :: behind).head? ≠ some '\n' := by
    rintro rfl same
    cases front with
    | nil => exact bounds.plain.2.2.1 (Option.some.inj same)
    | cons d rest => exact pair ⟨rfl, rest, by rw [Option.some.inj same]⟩
  obtain ⟨octal, seesOctal⟩ := octalEscape_stops (c := c) bounds front
  unfold StopsAt
  simp only [List.cons_append, escape_cons hex number (noPair _), head?_append_cons]
  split
  · exact ⟨some (([], false), front), fun _ => rfl⟩
  · split
    · exact ⟨some ((['\x00'], false), front), fun _ => rfl⟩
    · split
      · cases octal with
        | none => cases seesOctal []
        | some found =>
          refine ⟨some (([Char.ofNat found.1], true), found.2), fun behind => ?_⟩
          have same := Option.some.inj (seesOctal behind)
          rw [List.cons_append] at same
          rw [same]
          rfl
      · exact ⟨some (([_], false), front), fun _ => rfl⟩

/-- An escape is read in front of another text when what closes its surroundings stays where it is. -/
theorem escape_split {bound : Char} (bounds : Bounds bound) {meaning : List Char × Bool}
    (read : escape text = some (meaning, front ++ bound :: behind)) :
    ∃ passed, text = passed ++ (front ++ bound :: behind) ∧ ∀ others,
      escape (passed ++ (front ++ bound :: others)) = some (meaning, front ++ bound :: others) := by
  cases text with
  | nil => cases read
  | cons c rest =>
    obtain ⟨passed, rfl⟩ := escape_suffix read
    obtain ⟨answer, sees⟩ := escape_stops (c := c) bounds (passed ++ front)
    have form (others : List Char) : c :: (passed ++ front) ++ bound :: others =
        c :: passed ++ (front ++ bound :: others) := by simp
    simp only [form] at sees
    obtain ⟨⟨_, left⟩, rfl, same⟩ := Option.map_eq_some_iff.mp ((sees behind).symm.trans read)
    obtain ⟨rfl, back⟩ := Prod.mk.inj same
    obtain rfl : left = front := List.append_cancel_right back
    exact ⟨c :: passed, rfl, sees⟩

/-- A string is read up to the quote that closes it. -/
theorem StringForm.split {quote : Char} (bounds : Bounds quote) {found : List Char × Bool}
    (form : StringForm quote text found behind) :
    ∃ front, text = front ++ quote :: behind ∧ ∀ others,
      StringForm quote (front ++ quote :: others) found others := by
  induction form with
  | closes => exact ⟨[], rfl, fun _ => .closes⟩
  | escaped apart meaning _ inductionHypothesis =>
    obtain ⟨front, rfl, further⟩ := inductionHypothesis
    obtain ⟨passed, rfl, means⟩ := escape_split bounds meaning
    refine ⟨'\\' :: (passed ++ front), by simp, fun others => ?_⟩
    rw [List.cons_append, List.append_assoc]
    exact .escaped apart (means others) (further others)
  | @written c _ _ _ _ apart plain onLine _ inductionHypothesis =>
    obtain ⟨front, rfl, further⟩ := inductionHypothesis
    exact ⟨c :: front, rfl, fun others => .written apart plain onLine (further others)⟩

end PropertyMangling.Script.Lexer
