import PropertyMangling.Script.Lexer
import Mathlib.Data.List.TakeWhile
import Mathlib.Order.Basic
/-!
# The forms of what the lexer reads

Each reader is taken apart once: what it takes off a text stands there in one of
a few forms, and a relation between the text, what was read and the characters
behind it has a constructor for each of them. A form counts nothing, so the
bounds of the recursions end here. Names, strings, escapes and the numbers of
characters are spoken of along their forms from here on.
-/
namespace PropertyMangling.Script.Lexer

variable {text rest others behind chars : List Char} {number : Nat} {c : Char}

/-! ## Runs of characters -/

section Runs

variable {p : Char → Bool} {run : List Char}

/-- A text is the longest run at its start, and the rest. -/
theorem takeWhile_append_drop (p : Char → Bool) (text : List Char) :
    text = text.takeWhile p ++ text.drop (text.takeWhile p).length :=
  (List.prefix_iff_eq_append.mp (List.takeWhile_prefix p)).symm

/-- A run ends in front of what does not go on with it. -/
theorem takeWhile_append_stop (stops : ∀ c ∈ behind.head?, p c = false) (front : List Char) :
    (front ++ behind).takeWhile p = front.takeWhile p := by
  have stopped : behind.takeWhile p = [] := by
    cases behind with
    | nil => rfl
    | cons c rest => simp [stops c rfl]
  rw [List.takeWhile_append, stopped, List.append_nil]
  split
  · next all => exact ((List.takeWhile_prefix p).eq_of_length all).symm
  · rfl

/-- A run is found whole in front of anything that does not go on with it. -/
theorem takeWhile_append_run (inside : ∀ c ∈ run, p c = true)
    (stops : ∀ c ∈ behind.head?, p c = false) : (run ++ behind).takeWhile p = run := by
  rw [takeWhile_append_stop stops, List.takeWhile_eq_self_iff.mpr inside]

end Runs

/-! ## Numbers of characters -/

/-- A run of hexadecimal digits consists of as many as were asked for, and is read the same in
front of any other text. -/
theorem hexRun_split {count : Nat} (read : hexRun count text = some (number, behind)) :
    ∃ digits, text = digits ++ behind ∧ digits.length = count ∧
      ∀ others, hexRun count (digits ++ others) = some (number, others) := by
  simp only [hexRun] at read
  split at read
  · next valid =>
    obtain ⟨rfl, rfl⟩ := Prod.mk.inj (Option.some.inj read)
    have exact : (text.take count).length = count := by
      simpa using (Bool.and_eq_true_iff.mp valid).1
    refine ⟨text.take count, (List.take_append_drop count text).symm, exact, fun others => ?_⟩
    have front : (text.take count ++ others).take count = text.take count := by
      rw [List.take_append_of_le_length exact.ge, List.take_of_length_le exact.le]
    have back : (text.take count ++ others).drop count = others := List.drop_left' exact
    rw [hexRun]
    simp only [front, back]
    exact if_pos valid
  · cases read

/-- How the number of a character stands in a text: as four digits, or as digits between braces. -/
inductive NumberForm : List Char → Nat → List Char → Prop
  | four {text behind : List Char} {number : Nat} (noBrace : text.head? ≠ some '\x7b')
      (digits : hexRun 4 text = some (number, behind)) : NumberForm text number behind
  | braced (digit : Char) (digits : List Char) {behind : List Char}
      (inside : ∀ c ∈ digit :: digits, (Text.hexValue? c).isSome = true)
      (small : valueOf 16 (digit :: digits) ≤ 0x10FFFF) :
      NumberForm ('\x7b' :: digit :: digits ++ '\x7d' :: behind) (valueOf 16 (digit :: digits)) behind

/-- The number of a character is read just where one of its two forms stands, four digits or
digits in braces. -/
theorem characterNumber_eq_some_iff :
    characterNumber text = some (number, behind) ↔ NumberForm text number behind := by
  constructor
  · intro read
    unfold characterNumber at read
    split at read
    · next rest =>
      dsimp only at read
      split at read
      · next last closed =>
        split at read
        · next valid =>
          obtain ⟨rfl, rfl⟩ := Prod.mk.inj (Option.some.inj read)
          have whole := takeWhile_append_drop (fun c => (Text.hexValue? c).isSome) rest
          have inside : ∀ c ∈ rest.takeWhile fun c => (Text.hexValue? c).isSome,
              (Text.hexValue? c).isSome = true := fun c => List.mem_takeWhile_imp
          rw [closed] at whole
          simp only [Bool.and_eq_true, Bool.not_eq_true', List.isEmpty_eq_false_iff,
            decide_eq_true_eq] at valid
          obtain ⟨digit, digits, run⟩ := List.exists_cons_of_ne_nil valid.1
          rw [run] at whole inside valid ⊢
          rw [whole]
          exact .braced digit digits inside valid.2
        · cases read
      · cases read
    · next other =>
      refine .four (fun brace => ?_) read
      obtain ⟨rest, same⟩ := List.head?_eq_some_iff.mp brace
      exact other rest same
  · intro form
    cases form with
    | four noBrace digits =>
      rw [characterNumber]
      · exact digits
      · rintro rest rfl
        exact noBrace rfl
    | braced digit digits inside small =>
      have found : (digit :: digits ++ '\x7d' :: behind).takeWhile
          (fun c => (Text.hexValue? c).isSome) = digit :: digits := by
        refine takeWhile_append_run inside ?_
        rintro _ ⟨⟩
        decide
      rw [List.cons_append, characterNumber]
      simp only [found, List.drop_left]
      exact if_pos (by simpa using small)

/-- The number of a character is read without a look at what is behind it. -/
theorem characterNumber_split (read : characterNumber text = some (number, behind)) :
    ∃ front, text = front ++ behind ∧
      ∀ others, characterNumber (front ++ others) = some (number, others) := by
  cases characterNumber_eq_some_iff.mp read with
  | four noBrace read =>
    obtain ⟨digits, rfl, count, reads⟩ := hexRun_split read
    obtain ⟨digit, digits, rfl⟩ := List.exists_cons_of_length_eq_add_one count
    exact ⟨digit :: digits, rfl, fun others =>
      characterNumber_eq_some_iff.mpr (.four noBrace (reads others))⟩
  | braced digit digits inside small =>
    refine ⟨'\x7b' :: digit :: (digits ++ ['\x7d']), by simp, fun others => ?_⟩
    have form : '\x7b' :: digit :: (digits ++ ['\x7d']) ++ others =
        '\x7b' :: digit :: digits ++ '\x7d' :: others := by
      simp
    rw [form]
    exact characterNumber_eq_some_iff.mpr (.braced digit digits inside small)

/-- Behind the number of a character stands an end of the text. -/
theorem characterNumber_suffix (read : characterNumber text = some (number, behind)) :
    behind <:+ text := by
  obtain ⟨front, rfl, -⟩ := characterNumber_split read
  exact List.suffix_append _ _

/-! ## Names -/

/-- No backslash stands inside a name; one starts an escape of a character that does. -/
theorem ne_backslash_of_isNamePart (part : isNamePart c = true) : c ≠ '\\' := by
  rintro rfl
  exact absurd part (by decide)

/-- Whether a name ends in front of a text. -/
def endsName (behind : List Char) : Bool := behind.head?.all fun c => !isNamePart c && c != '\\'

/-- A name ends in front of a character that neither stands in one nor starts an escape. -/
theorem endsName_cons : endsName (c :: rest) = true ↔ isNamePart c = false ∧ c ≠ '\\' := by
  simp [endsName]

/-- How the characters of a name stand in a text: each of them escaped or as it is, up to what ends the
name. -/
inductive NameForm : List Char → List Char × Bool → List Char → Prop
  | ends {text : List Char} (ends : endsName text = true) : NameForm text ([], false) text
  | escaped {rest others behind chars : List Char} {number : Nat} {escaped : Bool}
      (numbered : characterNumber rest = some (number, others))
      (part : isNamePart (Char.ofNat number) = true)
      (further : NameForm others (chars, escaped) behind) :
      NameForm ('\\' :: 'u' :: rest) (Char.ofNat number :: chars, true) behind
  | plain {c : Char} {rest behind chars : List Char} {escaped : Bool} (part : isNamePart c = true)
      (further : NameForm rest (chars, escaped) behind) :
      NameForm (c :: rest) (c :: chars, escaped) behind

/-- A character of a name that is written out is read as itself. -/
theorem nameRun_cons (count : Nat) (rest : List Char) (unescaped : c ≠ '\\') :
    nameRun (count + 1) (c :: rest) =
      if isNamePart c then
        (nameRun count rest).map fun found => ((c :: found.1.1, found.1.2), found.2)
      else some (([], false), c :: rest) := by
  rw [nameRun]
  · split
    · cases nameRun count rest <;> rfl
    · rfl
  · rintro _ rfl _
    exact unescaped rfl
  · exact unescaped

/-- What is read as a run of name characters has the form of one, each of them as itself or as an
escape. -/
theorem nameForm_of_nameRun {count : Nat} {found : List Char × Bool} (room : text.length ≤ count)
    (run : nameRun count text = some (found, behind)) : NameForm text found behind := by
  induction count generalizing text found behind with
  | zero =>
    obtain rfl := List.length_eq_zero_iff.mp (Nat.le_zero.mp room)
    cases run
    exact .ends rfl
  | succ count inductionHypothesis =>
    unfold nameRun at run
    split at run
    · next impossible => cases impossible
    · next same =>
      obtain rfl := Nat.succ.inj same
      obtain ⟨⟨number, others⟩, numbered, run⟩ := Option.bind_eq_some_iff.mp run
      dsimp only at run
      split at run
      · next part =>
        obtain ⟨⟨⟨chars, escaped⟩, last⟩, further, same⟩ := Option.bind_eq_some_iff.mp run
        cases same
        -- An escape takes one from the count and more than one from the text.
        have shorter := (characterNumber_suffix numbered).length_le
        simp only [List.length_cons] at room
        exact .escaped numbered part (inductionHypothesis (by omega) further)
      · cases run
    · cases run
    · next unescaped same =>
      obtain rfl := Nat.succ.inj same
      split at run
      · next part =>
        obtain ⟨⟨⟨chars, escaped⟩, last⟩, further, same⟩ := Option.bind_eq_some_iff.mp run
        cases same
        exact .plain part (inductionHypothesis (Nat.le_of_succ_le_succ room) further)
      · next outside =>
        cases run
        exact .ends (endsName_cons.mpr ⟨Bool.eq_false_iff.mpr outside, unescaped⟩)
    · cases run
      exact .ends rfl

/-- What has the form of a run of name characters is read as one when the bound has room for the
text. The induction is on the form. -/
theorem NameForm.nameRun_eq {count : Nat} {found : List Char × Bool}
    (form : NameForm text found behind) (room : text.length ≤ count) :
    nameRun count text = some (found, behind) := by
  induction form generalizing count with
  | @ends text ends =>
    -- A name may end before its count does, so both are split.
    obtain _ | count := count
    · rfl
    · cases text with
      | nil => rfl
      | cons c rest =>
        obtain ⟨outside, unescaped⟩ := endsName_cons.mp ends
        rw [nameRun_cons count rest unescaped, if_neg (by simp [outside])]
  | escaped numbered part _ inductionHypothesis =>
    obtain ⟨count, rfl⟩ := Nat.exists_eq_succ_of_ne_zero (Nat.ne_zero_of_lt room)
    have shorter := (characterNumber_suffix numbered).length_le
    simp only [List.length_cons] at room
    rw [nameRun, numbered]
    simp only [Option.bind_eq_bind, Option.bind_some, if_pos part,
      inductionHypothesis (show _ ≤ count by omega)]
    rfl
  | plain part _ inductionHypothesis =>
    obtain ⟨count, rfl⟩ := Nat.exists_eq_succ_of_ne_zero (Nat.ne_zero_of_lt room)
    rw [nameRun_cons count _ (ne_backslash_of_isNamePart part), if_pos part,
      inductionHypothesis (Nat.le_of_succ_le_succ room)]
    rfl

/-- How a name is written, by its first character and by what is escaped behind it. -/
def spellingOf (first : Char) (escaped : Bool) : Spelling :=
  if first = '\\' then .disguised else if escaped then .escaped else .plain

/-- A name is read just where a character that opens one stands and the form of a name follows,
plain or with escapes. -/
theorem name_eq_some_iff {word : String} {spelling : Spelling} :
    name text = some ((word, spelling), behind) ↔ ∃ first rest chars escaped,
      text = first :: rest ∧ opensName first = true ∧ NameForm text (chars, escaped) behind ∧
        word = String.ofList chars ∧ spelling = spellingOf first escaped := by
  constructor
  · intro read
    cases text with
    | nil => cases read
    | cons first rest =>
      simp only [name, List.head?_cons, Option.bind_eq_bind, Option.bind_some] at read
      split at read
      · next opens =>
        obtain ⟨⟨⟨chars, escaped⟩, last⟩, run, same⟩ := Option.bind_eq_some_iff.mp read
        cases same
        exact ⟨first, rest, chars, escaped, rfl, opens, nameForm_of_nameRun le_rfl run, rfl, rfl⟩
      · cases read
  · rintro ⟨first, rest, chars, escaped, rfl, opens, form, rfl, rfl⟩
    simp only [name, List.head?_cons, Option.bind_eq_bind, Option.bind_some, if_pos opens,
      form.nameRun_eq le_rfl]
    rfl

/-! ## Escapes -/

/-- What the number of a character stands for in a string: a character, two halves that make one, or
half a pair on its own, which is kept as its escape. -/
inductive PairForm (number : Nat) : List Char → List Char → List Char → Prop
  | single {text : List Char} (whole : number < 0xD800 ∨ 0xDFFF < number) :
      PairForm number text [Char.ofNat number] text
  | pair {rest behind : List Char} {low : Nat} (high : 0xD800 ≤ number)
      (second : characterNumber rest = some (low, behind)) :
      PairForm number ('\\' :: 'u' :: rest)
        [Char.ofNat ((number - 0xD800) * 0x400 + (low - 0xDC00) + 0x10000)] behind
  | alone {text : List Char} (high : 0xD800 ≤ number) (low : number ≤ 0xDFFF) :
      PairForm number text ('\\' :: 'u' :: (Text.hexDigits number).map Char.toUpper) text

/-- A character by its number takes a second number behind it when the two are halves of a pair,
and is alone otherwise. -/
theorem pairForm_of_pairedCharacter (paired : pairedCharacter number text = (chars, behind)) :
    PairForm number text chars behind := by
  unfold pairedCharacter at paired
  dsimp only at paired
  split at paired
  · next whole =>
    cases paired
    exact .single (by simpa using whole)
  · next half =>
    simp only [Bool.or_eq_true, decide_eq_true_eq, not_or, Nat.not_lt] at half
    have alone {chars behind : List Char}
        (same : ('\\' :: 'u' :: (Text.hexDigits number).map Char.toUpper, text) = (chars, behind)) :
        PairForm number text chars behind := by
      cases same
      exact .alone half.1 half.2
    split at paired
    · split at paired
      · split at paired
        · next second =>
          split at paired
          · cases paired
            exact .pair half.1 second
          · exact alone paired
        · exact alone paired
      · exact alone paired
    · exact alone paired

/-- Behind a paired character stands an end of the text. -/
theorem PairForm.suffix (paired : PairForm number text chars behind) : behind <:+ text := by
  cases paired with
  | single => exact List.suffix_rfl
  | @pair rest _ _ _ second =>
    exact (characterNumber_suffix second).trans (List.suffix_append ['\\', 'u'] rest)
  | alone => exact List.suffix_rfl

/-- What a single character behind a backslash stands for. -/
def letterMeaning : Char → Char
  | 'n' => '\n'
  | 't' => '\t'
  | 'r' => '\r'
  | 'b' => '\x08'
  | 'v' => '\x0b'
  | 'f' => '\x0c'
  | c => c

/-- The escapes without a form of their own: one of a line end, of the null character, of an octal
number, of a letter with a meaning, or of the character itself. -/
theorem escape_cons (noHex : c ≠ 'x') (noNumber : c ≠ 'u')
    (noPair : c = '\r' → rest.head? ≠ some '\n') : escape (c :: rest) =
      if isLineEnd c then some (([], false), rest)
      else if c = '0' && !(rest.head?.any isOctal) then some ((['\x00'], false), rest)
      else if isOctal c then
        some (([Char.ofNat (octalEscape (c :: rest)).1], true), (octalEscape (c :: rest)).2)
      else some (([letterMeaning c], false), rest) := by
  unfold escape
  split
  · next impossible => cases impossible
  · next same =>
    cases same
    exact absurd rfl (noPair rfl)
  · next same => exact absurd (List.cons.inj same).1 noHex
  · next same => exact absurd (List.cons.inj same).1 noNumber
  · next same =>
    obtain ⟨rfl, rfl⟩ := List.cons.inj same
    rfl

/-- How an escape stands behind its backslash. -/
inductive EscapeForm : List Char → List Char × Bool → List Char → Prop
  | joined {rest : List Char} : EscapeForm ('\r' :: '\n' :: rest) ([], false) rest
  | hexadecimal {rest behind : List Char} {number : Nat}
      (digits : hexRun 2 rest = some (number, behind)) :
      EscapeForm ('x' :: rest) ([Char.ofNat number], false) behind
  | numbered {rest others behind chars : List Char} {number : Nat}
      (numbered : characterNumber rest = some (number, others))
      (paired : PairForm number others chars behind) :
      EscapeForm ('u' :: rest) (chars, false) behind
  | lineEnd {c : Char} {rest : List Char} (ends : isLineEnd c = true) :
      EscapeForm (c :: rest) ([], false) rest
  | zero {rest : List Char} : EscapeForm ('0' :: rest) (['\x00'], false) rest
  | octal {c : Char} {rest : List Char} (octal : isOctal c = true) :
      EscapeForm (c :: rest) ([Char.ofNat (octalEscape (c :: rest)).1], true)
        (octalEscape (c :: rest)).2
  | letter {c : Char} {rest : List Char} : EscapeForm (c :: rest) ([letterMeaning c], false) rest

/-- What is read as an escape has one of the forms of escapes. -/
theorem escapeForm_of_escape {found : List Char × Bool}
    (read : escape text = some (found, behind)) : EscapeForm text found behind := by
  unfold escape at read
  split at read
  · cases read
  · cases read
    exact .joined
  · obtain ⟨⟨number, last⟩, digits, same⟩ := Option.bind_eq_some_iff.mp read
    cases same
    exact .hexadecimal digits
  · obtain ⟨⟨number, others⟩, numbered, same⟩ := Option.bind_eq_some_iff.mp read
    cases same
    exact .numbered numbered (pairForm_of_pairedCharacter rfl)
  · split at read
    · next ends =>
      cases read
      exact .lineEnd ends
    · split at read
      · next zero =>
        cases read
        obtain rfl := of_decide_eq_true (Bool.and_eq_true_iff.mp zero).1
        exact .zero
      · split at read
        · next octal =>
          cases read
          exact .octal octal
        · cases read
          exact .letter

/-- Behind an octal escape stands an end of the text. -/
theorem octalEscape_suffix (octal : isOctal c = true) :
    (octalEscape (c :: text)).2 <:+ text := by
  have opened : ((c :: text).take 3).takeWhile isOctal = c :: (text.take 2).takeWhile isOctal := by
    simp [octal]
  unfold octalEscape
  simp only [opened, List.length_cons, List.drop_succ_cons]
  split <;> exact List.drop_suffix _ _

/-- An escape has a first character behind its backslash, and an end of the text stands behind the
escape. -/
theorem escape_suffix {found : List Char × Bool}
    (read : escape (c :: text) = some (found, behind)) : behind <:+ text := by
  cases escapeForm_of_escape read with
  | joined => exact List.suffix_cons _ _
  | hexadecimal digits =>
    obtain ⟨front, rfl, -⟩ := hexRun_split digits
    exact List.suffix_append _ _
  | numbered numbered paired => exact paired.suffix.trans (characterNumber_suffix numbered)
  | lineEnd => exact List.suffix_rfl
  | zero => exact List.suffix_rfl
  | octal octal => exact octalEscape_suffix octal
  | letter => exact List.suffix_rfl

/-- An escape passes at least one character, so that reading a string comes to its end. -/
theorem escape_shortens {found : List Char × Bool}
    (read : escape text = some (found, behind)) : behind.length < text.length := by
  cases text with
  | nil => cases read
  | cons c rest => exact Nat.lt_succ_of_le (escape_suffix read).length_le

/-! ## Strings -/

/-- How the characters of a string stand in front of its closing quote: each of them as it is, or escaped. -/
inductive StringForm (quote : Char) : List Char → List Char × Bool → List Char → Prop
  | closes {behind : List Char} : StringForm quote (quote :: behind) ([], false) behind
  | escaped {rest others behind meant chars : List Char} {legacy more : Bool} (apart : '\\' ≠ quote)
      (meaning : escape rest = some ((meant, legacy), others))
      (further : StringForm quote others (chars, more) behind) :
      StringForm quote ('\\' :: rest) (meant ++ chars, legacy || more) behind
  | written {c : Char} {rest behind chars : List Char} {legacy : Bool} (apart : c ≠ quote)
      (plain : c ≠ '\\') (onLine : c ≠ '\n' ∧ c ≠ '\r')
      (further : StringForm quote rest (chars, legacy) behind) :
      StringForm quote (c :: rest) (c :: chars, legacy) behind

/-- What is read as a string up to its quote has the form of one. The induction is on the bound of
the scan. -/
theorem stringForm_of_stringRun {quote : Char} {count : Nat} {found : List Char × Bool}
    (read : stringRun quote count text = some (found, behind)) :
    StringForm quote text found behind := by
  induction count generalizing text found behind with
  | zero => cases read
  | succ count inductionHypothesis =>
    cases text with
    | nil => cases read
    | cons c rest =>
      rw [stringRun] at read
      split at read
      · next closes =>
        cases read
        subst closes
        exact .closes
      · next apart =>
        split at read
        · next escapes =>
          subst escapes
          obtain ⟨⟨⟨meant, legacy⟩, others⟩, meaning, read⟩ := Option.bind_eq_some_iff.mp read
          obtain ⟨⟨⟨chars, more⟩, last⟩, further, same⟩ := Option.bind_eq_some_iff.mp read
          cases same
          exact .escaped apart meaning (inductionHypothesis further)
        · next plain =>
          split at read
          · cases read
          · next onLine =>
            obtain ⟨⟨⟨chars, legacy⟩, last⟩, further, same⟩ := Option.bind_eq_some_iff.mp read
            cases same
            exact .written apart plain (by simpa using onLine) (inductionHypothesis further)

/-- What has the form of a string is read as one when the bound has room for the text. The
induction is on the form. -/
theorem StringForm.stringRun_eq {quote : Char} {count : Nat} {found : List Char × Bool}
    (form : StringForm quote text found behind) (room : text.length ≤ count) :
    stringRun quote count text = some (found, behind) := by
  induction form generalizing count with
  | closes =>
    obtain ⟨count, rfl⟩ := Nat.exists_eq_succ_of_ne_zero (Nat.ne_zero_of_lt room)
    rw [stringRun, if_pos rfl]
  | escaped apart meaning _ inductionHypothesis =>
    obtain ⟨count, rfl⟩ := Nat.exists_eq_succ_of_ne_zero (Nat.ne_zero_of_lt room)
    have shorter := (escape_shortens meaning).le.trans (Nat.le_of_succ_le_succ room)
    rw [stringRun, if_neg apart, if_pos rfl, meaning]
    simp only [Option.bind_eq_bind, Option.bind_some, inductionHypothesis shorter]
    rfl
  | written apart plain onLine _ inductionHypothesis =>
    obtain ⟨count, rfl⟩ := Nat.exists_eq_succ_of_ne_zero (Nat.ne_zero_of_lt room)
    rw [stringRun, if_neg apart, if_neg plain, if_neg (by simp [onLine]),
      inductionHypothesis (Nat.le_of_succ_le_succ room)]
    rfl

end PropertyMangling.Script.Lexer
