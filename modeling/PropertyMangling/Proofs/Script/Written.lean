import PropertyMangling.Proofs.Script.Lookahead.Numbers
import PropertyMangling.Proofs.Script.Page
import PropertyMangling.Script.Grammar.Basic
import PropertyMangling.Script.Literal
/-!
# How tokens are written

No blank can stand in a name, and the literals start with a digit, a point, a
quote or a slash. So whatever stands at the left edge of a statement is printed
with a firm first character.
-/
namespace PropertyMangling.Script

open Text

/-- A text opens firmly when its first character is no blank, whatever follows it. -/
theorem opensText_ofList {c : Char} (firm : isBlank c = false) (rest : List Char) :
    opensText (String.ofList (c :: rest)) = true := by
  simp [opensText, firm]

/-- A text of firm characters opens firmly as soon as there is one of them. -/
theorem opensText_of_firm {text : List Char} (filled : text ≠ [])
    (firm : ∀ c ∈ text, isBlank c = false) : opensText (String.ofList text) = true := by
  obtain ⟨c, rest, rfl⟩ := List.exists_cons_of_ne_nil filled
  exact opensText_ofList (firm c List.mem_cons_self) rest

section Characters

/-- Whether each of some ranges lies in one of the ranges that follow, in their order. -/
def covers (inner : List (Nat × Nat)) : List (Nat × Nat) → Bool
  | [] => inner.isEmpty
  | wide :: outer =>
    covers (inner.dropWhile fun narrow => wide.1 ≤ narrow.1 && narrow.2 ≤ wide.2) outer

/-- A code in one of some ranges is in one of the ranges that cover them. -/
theorem inRanges_of_covers {inner outer : List (Nat × Nat)} {code : Nat}
    (covered : covers inner outer = true) (inside : inRanges inner code = true) :
    inRanges outer code = true := by
  induction outer generalizing inner with
  | nil =>
    rw [List.isEmpty_iff.mp covered] at inside
    exact inside
  | cons wide others inductionHypothesis =>
    rw [inRanges, List.any_cons, Bool.or_eq_true]
    rw [inRanges, ← List.takeWhile_append_dropWhile (l := inner)
      (p := fun narrow => wide.1 ≤ narrow.1 && narrow.2 ≤ wide.2), List.any_append,
      Bool.or_eq_true] at inside
    refine inside.imp (fun first => ?_) (inductionHypothesis covered)
    obtain ⟨narrow, listed, within⟩ := List.any_eq_true.mp first
    have lies := List.mem_takeWhile_imp listed
    simp only [Bool.and_eq_true, decide_eq_true_eq] at within lies ⊢
    omega

/-- What may start a name may stand inside one, so one test suffices for both places. -/
theorem isNamePart_of_isNameStart {c : Char} (starts : isNameStart c = true) :
    isNamePart c = true := by
  unfold isNameStart at starts
  unfold isNamePart
  split
  · next ascii =>
    simp only [ascii, if_true, Bool.or_eq_true] at starts
    simp only [Char.isAlphanum, Bool.or_eq_true]
    tauto
  · next other =>
    have covered : covers nameStarts nameParts = true := by decide +kernel
    rw [if_neg other] at starts
    simp [inRanges_of_covers covered starts]

/-- The blanks past the first 128 characters. -/
def wideBlanks : List (Nat × Nat) := [
  (0x85, 0x85), (0xA0, 0xA0), (0x1680, 0x1680), (0x2000, 0x200A), (0x2028, 0x2029),
  (0x202F, 0x202F), (0x205F, 0x205F), (0x3000, 0x3000)]

/-- A blank beyond the plain characters is listed in the table of wide blanks. -/
theorem inRanges_wideBlanks {c : Char} (wide : ¬ c.toNat < 0x80) (blank : isBlank c = true) :
    inRanges wideBlanks c.toNat = true := by
  simp only [isBlank, inRanges, wideBlanks, List.any_cons, List.any_nil, Bool.or_eq_true,
    Bool.and_eq_true, decide_eq_true_eq, beq_iff_eq, Bool.or_false] at blank ⊢
  omega

/-- No blank stands inside a name: the table of wide blanks and that of names share no
character. -/
theorem isBlank_of_isNamePart {c : Char} (inside : isNamePart c = true) : isBlank c = false := by
  rw [Bool.eq_false_iff]
  intro blank
  by_cases ascii : c.toNat < 0x80
  · have narrow : ∀ number < 0x80,
        (isNamePart (Char.ofNat number) && isBlank (Char.ofNat number)) = false := by
      decide +kernel
    have apart := narrow c.toNat ascii
    rw [Char.ofNat_toNat, inside, blank] at apart
    cases apart
  · rw [isNamePart, if_neg ascii] at inside
    have apart : (nameParts.all fun part => wideBlanks.all fun blank =>
        part.2 < blank.1 || blank.2 < part.1) = true := by decide +kernel
    obtain ⟨range, among, within⟩ := List.any_eq_true.mp (inRanges_wideBlanks ascii blank)
    have outside : inRanges nameParts c.toNat = false := by
      rw [inRanges, List.any_eq_false]
      intro part listed
      have distinct := List.all_eq_true.mp (List.all_eq_true.mp apart part listed) range among
      simp only [Bool.or_eq_true, Bool.and_eq_true, decide_eq_true_eq] at distinct within ⊢
      omega
    simp only [outside, Bool.or_false, Bool.or_eq_true, beq_iff_eq] at inside
    simp only [isBlank, Bool.or_eq_true, Bool.and_eq_true, decide_eq_true_eq, beq_iff_eq] at blank
    omega

end Characters

namespace Lexer

variable {text behind : List Char}

/-- No name starts where another one ends, since its first character could stand in the other
one. -/
theorem opensName_of_endsName {c : Char} {rest : List Char} (ends : endsName (c :: rest) = true) :
    opensName c = false := by
  obtain ⟨outside, unescaped⟩ := endsName_cons.mp ends
  have noStart : isNameStart c = false := Bool.eq_false_iff.mpr fun starts =>
    Bool.eq_false_iff.mp outside (isNamePart_of_isNameStart starts)
  simp [opensName, noStart, unescaped]

/-- What opens like a name has a first character, written out or escaped. -/
theorem NameForm.exists_cons {first : Char} {rest : List Char} {found : List Char × Bool}
    (form : NameForm (first :: rest) found behind) (opens : opensName first = true) :
    ∃ c chars, found.1 = c :: chars ∧ isNamePart c = true := by
  cases form with
  | ends ends =>
    rw [opensName_of_endsName ends] at opens
    cases opens
  | escaped _ part _ => exact ⟨_, _, rfl, part⟩
  | plain part _ => exact ⟨_, _, rfl, part⟩

/-- A name has a first character, which is one that may stand inside names. -/
theorem name_cases {written : String} {spelling : Spelling}
    (read : name text = some ((written, spelling), behind)) :
    ∃ c chars, written = String.ofList (c :: chars) ∧ isNamePart c = true := by
  obtain ⟨first, rest, chars, escaped, rfl, opens, form, rfl, -⟩ := name_eq_some_iff.mp read
  obtain ⟨c, others, rfl, part⟩ := form.exists_cons opens
  exact ⟨c, others, rfl, part⟩

/-- A name opens firmly, since its first character is no blank. -/
theorem name_opens {written : String} {spelling : Spelling}
    (read : name text = some ((written, spelling), behind)) : opensText written = true := by
  obtain ⟨c, chars, rfl, part⟩ := name_cases read
  exact opensText_ofList (isBlank_of_isNamePart part) chars

/-- What the token at the front of a text is, by the first character of the text. -/
inductive TokenForm : List Char → Token → List Char → Prop
  | finish : TokenForm [] .finish []
  | word {text behind : List Char} {word : String} {spelling : Spelling}
      (named : name text = some ((word, spelling), behind)) :
      TokenForm text (.word word spelling) behind
  | privateName {text behind : List Char} {name : String} {spelling : Spelling}
      (named : Lexer.name text = some ((name, spelling), behind)) :
      TokenForm ('#' :: text) (.privateName name spelling) behind
  | number {c : Char} {rest behind : List Char} {found : Token}
      (starts : c.isDigit = true ∨ c = '.') (isNumber : isNumeric found = true)
      (within : behind <:+ rest) : TokenForm (c :: rest) found behind
  | string {quote : Char} {rest behind chars : List Char} {legacy : Bool}
      (isQuote : quote = '"' ∨ quote = '\'') (closed : StringForm quote rest (chars, legacy) behind) :
      TokenForm (quote :: rest) (.string (String.ofList chars) legacy) behind
  | symbol {text behind : List Char} {mark : String}
      (marked : Lexer.symbol text = some (.symbol mark, behind)) : TokenForm text (.symbol mark) behind

/-- What is read as a token has one of the forms of tokens, by the order in which the scanner
tries them. -/
theorem tokenForm_of_token {found : Token} (read : token text = some (found, behind)) :
    TokenForm text found behind := by
  cases text with
  | nil =>
    cases read
    exact .finish
  | cons c rest =>
    simp only [token] at read
    split at read
    · obtain ⟨⟨⟨written, spelling⟩, behind⟩, named, same⟩ := Option.bind_eq_some_iff.mp read
      cases same
      exact .word named
    · split at read
      · next isPrivate =>
        obtain ⟨⟨⟨written, spelling⟩, behind⟩, named, same⟩ := Option.bind_eq_some_iff.mp read
        cases same
        obtain rfl := eq_of_beq (Bool.and_eq_true_iff.mp isPrivate).1
        exact .privateName named
      · split at read
        · next numeric =>
          simp only [Bool.or_eq_true, Bool.and_eq_true, beq_iff_eq] at numeric
          have starts : c.isDigit = true ∨ c = '.' := numeric.imp_right And.left
          obtain ⟨isNumber, front, rfl, -⟩ := number_split starts read
          exact .number starts isNumber (List.suffix_append front behind)
        · split at read
          · next quote =>
            simp only [Bool.or_eq_true, beq_iff_eq] at quote
            obtain ⟨⟨⟨chars, legacy⟩, behind⟩, run, same⟩ := Option.bind_eq_some_iff.mp read
            cases same
            exact .string quote (stringForm_of_stringRun run)
          · obtain ⟨mark, _, same⟩ := Option.bind_eq_some_iff.mp read
            cases same
            exact .symbol read

end Lexer

section Literals

/-- A digit is no blank, so that numbers open firmly. -/
theorem firm_of_isDigit {c : Char} (digit : c.isDigit = true) : isBlank c = false := by
  have part : isNamePart c = true := by
    have ascii : c.toNat < 0x80 := by
      simp only [Char.isDigit, Bool.and_eq_true, decide_eq_true_eq, UInt32.le_iff_toNat_le,
        Char.reduceVal, UInt32.reduceToNat, Char.toNat] at digit ⊢
      omega
    simp [isNamePart, ascii, Char.isAlphanum, digit]
  exact isBlank_of_isNamePart part

/-- The digits of a number in base ten are no blanks. -/
theorem firm_toDigits {number : Nat} : ∀ c ∈ Nat.toDigits 10 number, isBlank c = false :=
  fun _ inside => firm_of_isDigit (Nat.isDigit_of_mem_toDigits (by decide) (by decide) inside)

/-- The digits of a decimal, its sign and its point are no blanks. -/
theorem firm_positional (decimal : Decimal) : ∀ c ∈ decimal.positional, isBlank c = false := by
  have zeros : ∀ count, ∀ c ∈ List.replicate count '0', isBlank c = false := by
    intro count c inside
    rw [List.eq_of_mem_replicate inside]
    decide
  intro c inside
  unfold Decimal.positional at inside
  dsimp only at inside
  split at inside
  · split at inside
    · exact firm_toDigits c inside
    · exact (List.mem_append.mp inside).elim (firm_toDigits c) (zeros _ c)
  · have padded : ∀ count, ∀ c ∈ List.replicate count '0' ++ Nat.toDigits 10 decimal.coefficient,
        isBlank c = false :=
      fun count c inside => (List.mem_append.mp inside).elim (zeros count c) (firm_toDigits c)
    rcases List.mem_append.mp inside with before | behind
    · exact padded _ c (List.mem_of_mem_take before)
    · rcases List.mem_cons.mp behind with rfl | behind
      · decide
      · exact padded _ c (List.mem_of_mem_drop behind)

/-- A decimal is written with one character at least, even when its value is zero. -/
theorem positional_ne_nil (decimal : Decimal) : decimal.positional ≠ [] := by
  unfold Decimal.positional
  dsimp only
  split
  · split <;> simp [Nat.toDigits_ne_nil]
  · simp

/-- The shortest text of a decimal opens firmly when all its digits are firm. -/
theorem opens_decimalText {digits : List Char} (filled : digits ≠ [])
    (firm : ∀ c ∈ digits, isBlank c = false) :
    opensText (String.ofList (decimalText digits)) = true := by
  -- Digits that are left in front of the letter of an exponent open the text, or the letter does.
  have behind : ∀ {front : List Char} (rest : List Char), (∀ c ∈ front, isBlank c = false) →
      opensText (String.ofList (front ++ 'e' :: rest)) = true := by
    intro front rest firmFront
    cases front with
    | nil => exact opensText_ofList (by decide) rest
    | cons c others => exact opensText_ofList (firmFront c List.mem_cons_self) _
  unfold decimalText
  split
  · next places =>
    dsimp only
    split
    · rw [List.append_assoc]
      refine behind _ fun c inside => firm c ?_
      exact List.mem_cons_of_mem _ (List.mem_cons_of_mem _ (List.mem_of_mem_drop inside))
    · exact opensText_ofList (by decide) places
  · dsimp only
    split
    · rw [List.append_assoc]
      exact behind _ fun c inside => firm c (List.mem_of_mem_take inside)
    · exact opensText_of_firm filled firm

/-- A number in its shortest text opens firmly, when a number past the largest double was written so
itself. -/
theorem opens_printNumber {value : Binary64} {source : String}
    (written : value = .infinite → opensText source = true) :
    opensText (printNumber .compact value source) = true := by
  cases value with
  | infinite => simpa [printNumber, numberText] using written rfl
  | finite mantissa exponent =>
    have decimal := opens_decimalText (positional_ne_nil (Decimal.shortest mantissa exponent))
      (firm_positional _)
    simp only [printNumber, numberText]
    split
    · split
      · exact opensText_ofList (by decide) _
      · exact decimal
    · exact decimal

/-- A large whole number opens firmly, as it is written with digits and a mark. -/
theorem opens_printBigint (value : Nat) (source : String) :
    opensText (printBigint .compact value source) = true := by
  obtain ⟨c, rest, written⟩ := List.exists_cons_of_ne_nil (Nat.toDigits_ne_nil (n := value) (b := 10))
  have firm : isBlank c = false := firm_toDigits c (written ▸ List.mem_cons_self)
  simp only [printBigint]
  split
  · simp [opensText, written, firm]
  · simp [opensText]
    decide

/-- A string opens with a quote, as it does in its source. -/
theorem opens_quoted {literal : Quoted}
    (written : ∀ source, literal.source? = some source → source ≠ "" → opensText source = true) :
    opensText (literal.print .compact) = true := by
  have quoted : opensText (quoteString literal.value) = true := by
    simp only [quoteString]
    split <;> exact opensText_ofList (by decide) _
  unfold Quoted.print
  split
  · next source known =>
    split
    · next kept =>
      refine written source known ?_
      rintro rfl
      simp at kept
    · exact quoted
  · exact quoted

/-- A regular expression opens firmly, with the slash before its body. -/
theorem regex_opens {text behind : List Char} {source : String}
    (read : Lexer.regex text = some (source, behind)) : opensText source = true := by
  unfold Lexer.regex at read
  split at read
  · obtain ⟨length, _, read⟩ := Option.bind_eq_some_iff.mp read
    dsimp only at read
    have opens : ∀ {flags : Option ((List Char × Bool) × List Char)} {rest : List Char}
        {valid : (List Char × Bool) × List Char → Bool},
        (flags.bind fun found => if valid found then
          some (String.ofList ('/' :: (rest ++ found.1.1)), found.2) else none) =
            some (source, behind) → opensText source = true := by
      intro flags rest valid read
      obtain ⟨found, _, read⟩ := Option.bind_eq_some_iff.mp read
      split at read
      · obtain ⟨rfl, -⟩ := Prod.mk.inj (Option.some.inj read)
        exact opensText_ofList (by decide) _
      · cases read
    split at read
    · exact opens read
    · exact opens read
  · cases read

end Literals

namespace Lexeme

variable {lexeme : Lexeme}

/-- A token whose text starts with a firm character opens with it, if it has any character. -/
theorem opens_source {c : Char} {rest : List Char} (text : lexeme.start.text = c :: rest)
    (firm : isBlank c = false) (filled : lexeme.source ≠ "") :
    opensText lexeme.source = true := by
  have spelled : lexeme.source = String.ofList ((c :: rest).take
      ((c :: rest).length - lexeme.rest.text.length)) := by
    rw [source, Cursor.slice, Cursor.upTo, text]
  cases count : (c :: rest).length - lexeme.rest.text.length with
  | zero =>
    rw [spelled, count] at filled
    exact absurd rfl filled
  | succ more =>
    rw [spelled, count]
    exact opensText_ofList firm _

/-- What a token is, by the first character of its text. -/
theorem exists_start (lexeme : Lexeme) (started : lexeme.token ≠ .finish) :
    ∃ c rest behind, lexeme.start.text = c :: rest ∧
      Lexer.token (c :: rest) = some (lexeme.token, behind) ∧
      lexeme.rest = lexeme.start.skipTo behind := by
  obtain ⟨behind, read, place⟩ := lexeme.wasRead
  cases text : lexeme.start.text with
  | nil =>
    rw [text] at read
    exact absurd (Prod.mk.inj (Option.some.inj read)).1.symm started
  | cons c rest => exact ⟨c, rest, behind, rfl, text ▸ read, place⟩

/-- A word is a name that was read from the text, so it opens firmly. -/
theorem opens_word {written : String} {spelling : Spelling}
    (word : lexeme.token = .word written spelling) : opensText written = true := by
  obtain ⟨c, rest, behind, -, read, -⟩ := lexeme.exists_start (by simp [word])
  rw [word] at read
  cases Lexer.tokenForm_of_token read with
  | word named => exact Lexer.name_opens named
  | number _ isNumber _ => cases isNumber

/-- A number starts as it is written, and it has a character. -/
theorem opens_number {value : Binary64} {legacy : Bool}
    (number : lexeme.token = .number value legacy) : opensText lexeme.source = true := by
  obtain ⟨c, rest, behind, text, read, place⟩ := lexeme.exists_start (by simp [number])
  rw [number] at read
  cases Lexer.tokenForm_of_token read with
  | number starts _ within =>
    have advanced := within.length_le
    have firm : isBlank c = false := by
      rcases starts with digit | rfl
      · exact firm_of_isDigit digit
      · decide
    refine opens_source text firm fun empty => ?_
    have left : lexeme.rest.text.length = behind.length := by
      rw [place, Cursor.skipTo, Cursor.skip, text, List.length_drop, List.length_cons]
      omega
    have taken := congrArg (fun source => source.toList.length) empty
    simp only [source, Cursor.slice, Cursor.upTo, text, left, String.toList_ofList,
      List.length_take, List.length_cons] at taken
    change _ = 0 at taken
    omega

/-- A string starts with its quote, if it is written at all. -/
theorem opens_string {value : String} {legacy : Bool}
    (string : lexeme.token = .string value legacy) (filled : lexeme.source ≠ "") :
    opensText lexeme.source = true := by
  obtain ⟨c, rest, behind, text, read, -⟩ := lexeme.exists_start (by simp [string])
  rw [string] at read
  cases Lexer.tokenForm_of_token read with
  | number _ isNumber _ => cases isNumber
  | string quote _ =>
    refine opens_source text ?_ filled
    rcases quote with rfl | rfl
    · decide
    · decide

end Lexeme

end PropertyMangling.Script
