import PropertyMangling.Proofs.Script.Lookahead.Strings
import PropertyMangling.Proofs.Script.Reads
/-!
# How far the lexer looks: tokens and trivia

A token ends where the next character says so, and a mark where no longer one
stands. So the tokens of a text stay what they are when words further on are
replaced by other words, and trivia stay what they are in front of a token that stays.
-/
namespace PropertyMangling.Script.Lexer

variable {text behind : List Char}

/-! ## Names -/

/-- The characters of a name are read up to what ends them. -/
theorem NameForm.split {found : List Char × Bool} (form : NameForm text found behind) :
    ∃ front, text = front ++ behind ∧ endsName behind = true ∧ ∀ others,
      endsName others = true → NameForm (front ++ others) found others := by
  induction form with
  | ends ends => exact ⟨[], rfl, ends, fun _ ends => .ends ends⟩
  | escaped numbered part _ inductionHypothesis =>
    obtain ⟨front, rfl, ends, further⟩ := inductionHypothesis
    obtain ⟨digits, rfl, numbers⟩ := characterNumber_split numbered
    refine ⟨'\\' :: 'u' :: (digits ++ front), by simp, ends, fun others ends => ?_⟩
    rw [List.cons_append, List.cons_append, List.append_assoc]
    exact .escaped (numbers _) part (further others ends)
  | plain part _ inductionHypothesis =>
    obtain ⟨front, rfl, ends, further⟩ := inductionHypothesis
    exact ⟨_ :: front, rfl, ends, fun others ends => .plain part (further others ends)⟩

/-- A name is read up to what ends it, and is read the same in front of any other text that ends a
name. -/
theorem name_split {found : String × Spelling} (read : Lexer.name text = some (found, behind)) :
    ∃ c front, text = c :: front ++ behind ∧ endsName behind = true ∧ ∀ others,
      endsName others = true → Lexer.name (c :: front ++ others) = some (found, others) := by
  obtain ⟨first, rest, chars, escaped, rfl, opens, form, word, spelling⟩ := name_eq_some_iff.mp read
  obtain ⟨front, whole, ends, forms⟩ := form.split
  cases front with
  | nil =>
    obtain rfl : first :: rest = behind := whole
    rw [opensName_of_endsName ends] at opens
    cases opens
  | cons c front =>
    obtain ⟨rfl, rfl⟩ := List.cons.inj whole
    exact ⟨first, front, rfl, ends, fun others ends => name_eq_some_iff.mpr
      ⟨first, front ++ others, chars, escaped, rfl, opens, forms others ends, word, spelling⟩⟩

/-! ## Marks and tokens -/

/-- Two texts are the same up to a place where a word stands in each of them. -/
inductive Akin : List Char → List Char → Prop
  | nil : Akin [] []
  | cons (c : Char) {first second : List Char} (behind : Akin first second) :
      Akin (c :: first) (c :: second)
  | word {c d : Char} {first second : List Char} (part : isNamePart c = true)
      (starts : isNameStart d = true) : Akin (c :: first) (d :: second)

/-- Texts that are alike as far as a token can see stay so with the same characters in front of
both. -/
theorem Akin.append (front : List Char) {first second : List Char} (akin : Akin first second) :
    Akin (front ++ first) (front ++ second) := by
  induction front with
  | nil => exact akin
  | cons c rest inductionHypothesis => exact .cons c inductionHypothesis

/-- What is no word stands in front of both of two texts or of none. -/
theorem Akin.isPrefixOf {first second mark : List Char} (akin : Akin first second)
    (noWord : mark.any isNamePart = false) : mark.isPrefixOf first = mark.isPrefixOf second := by
  induction akin generalizing mark with
  | nil => rfl
  | cons c _ inductionHypothesis =>
    cases mark with
    | nil => rfl
    | cons d rest =>
      rw [List.any_cons, Bool.or_eq_false_iff] at noWord
      rw [List.isPrefixOf, List.isPrefixOf, inductionHypothesis noWord.2]
  | @word c d first second part starts =>
    cases mark with
    | nil => rfl
    | cons e rest =>
      rw [List.any_cons, Bool.or_eq_false_iff] at noWord
      have apart {c : Char} (part : isNamePart c = true) : (e == c) = false := by
        refine beq_eq_false_iff_ne.mpr ?_
        rintro rfl
        rw [noWord.1] at part
        cases part
      rw [List.isPrefixOf, List.isPrefixOf, apart part, apart (isNamePart_of_isNameStart starts),
        Bool.false_and, Bool.false_and]

/-- A mark without characters of names stands at the start of both of two texts that are alike, or
of neither. -/
theorem Akin.prefix_iff {first second mark : List Char} (akin : Akin first second)
    (noWord : mark.any isNamePart = false) : mark <+: first ↔ mark <+: second := by
  rw [← List.isPrefixOf_iff_prefix, ← List.isPrefixOf_iff_prefix, akin.isPrefixOf noWord]

/-- No character of a name stands in any of the marks, so a mark never runs into the word behind
it. -/
theorem noWord_of_mem_symbols : ∀ mark ∈ symbols, mark.any isNamePart = false := by decide +kernel

/-- Every mark has a first character. -/
theorem ne_nil_of_mem_symbols : ∀ mark ∈ symbols, mark ≠ [] := by decide +kernel

/-- A mark is read as long as no longer one starts there. -/
theorem symbol_split {found : Token} (read : symbol text = some (found, behind)) :
    ∃ mark ∈ symbols, found = .symbol (String.ofList mark) ∧ text = mark ++ behind ∧
      ∀ others, Akin behind others → symbol (mark ++ others) = some (found, others) := by
  obtain ⟨mark, first, same⟩ := Option.bind_eq_some_iff.mp read
  cases same
  have isPrefix : mark.isPrefixOf text = true :=
    List.find?_some (p := fun symbol : List Char => symbol.isPrefixOf text) first
  obtain ⟨rest, rfl⟩ := List.isPrefixOf_iff_prefix.mp isPrefix
  refine ⟨mark, List.mem_of_find?_eq_some first, rfl, by rw [List.drop_left], ?_⟩
  intro others akin
  rw [List.drop_left] at akin
  have same : symbols.find? (fun symbol => symbol.isPrefixOf (mark ++ others)) =
      symbols.find? fun symbol => symbol.isPrefixOf (mark ++ rest) := by
    rw [← List.head?_filter, ← List.head?_filter]
    refine congrArg List.head? (List.filter_congr fun symbol inside => ?_)
    exact ((akin.append mark).isPrefixOf (noWord_of_mem_symbols symbol inside)).symm
  rw [symbol, same, first]
  simp

/-- Both kinds of quotes bound what an escape can read. -/
theorem bounds_quote {quote : Char} (isQuote : (quote == '"' || quote == '\'') = true) :
    Bounds quote := by
  simp only [Bool.or_eq_true, beq_iff_eq] at isQuote
  rcases isQuote with rfl | rfl
  · exact ⟨rfl, rfl, by decide⟩
  · exact ⟨rfl, rfl, by decide⟩

/-- A name ends where the next character is the same as where one ended. -/
theorem endsName_of_head {others : List Char} (same : others.head? = behind.head?)
    (ends : endsName behind = true) : endsName others = true := by
  rwa [endsName, same]

/-- A point in front of a name is a token of its own. -/
theorem token_point {others : List Char} (noDigit : others.head?.any Char.isDigit = false) :
    token ('.' :: others) = symbol ('.' :: others) := by
  have opens : opensName '.' = false := by decide
  simp [token, opens, noDigit]

section Plain

variable {c : Char} {rest : List Char} {found : Token} (opens : ¬opensName c = true)
  (numbered : ¬(c == '#' && rest.head?.any opensName) = true)
  (numeric : ¬(c.isDigit || (c == '.' && rest.head?.any Char.isDigit)) = true)
include opens numbered numeric

/-- A string is read up to the quote that closes it, whatever is behind. -/
theorem token_split_quote (quote : (c == '"' || c == '\'') = true)
    (read : token (c :: rest) = some (found, behind)) :
    found ≠ .symbol "." ∧ ∃ front, rest = front ++ behind ∧ ∀ others,
      others.head? = behind.head? → token (c :: front ++ others) = some (found, others) := by
  rw [token, if_neg opens, if_neg numbered, if_neg numeric, if_pos quote] at read
  obtain ⟨⟨⟨chars, legacy⟩, last⟩, run, same⟩ := Option.bind_eq_some_iff.mp read
  cases same
  obtain ⟨front, rfl, closes⟩ := (stringForm_of_stringRun run).split (bounds_quote quote)
  refine ⟨Token.noConfusion, front ++ [c], by simp, fun others _ => ?_⟩
  have form : front ++ [c] ++ others = front ++ c :: others := by simp
  have same : (front ++ c :: others).head? = (front ++ c :: behind).head? := by
    rw [head?_append_cons, head?_append_cons]
  rw [List.cons_append, form, token, same, if_neg opens, if_neg numbered, if_neg numeric,
    if_pos quote, (closes others).stringRun_eq (List.suffix_cons c _).length_le]
  rfl

/-- A mark is read up to the next character, and a point up to a name as well. -/
theorem token_split_symbol (noQuote : ¬(c == '"' || c == '\'') = true)
    (read : token (c :: rest) = some (found, behind)) :
    ∃ front, rest = front ++ behind ∧ ∀ others, Akin behind others →
      (others.head? = behind.head? ∨ found = .symbol ".") →
        token (c :: front ++ others) = some (found, others) := by
  rw [token, if_neg opens, if_neg numbered, if_neg numeric, if_neg noQuote] at read
  obtain ⟨mark, inside, rfl, whole, reads⟩ := symbol_split read
  obtain ⟨d, front, rfl⟩ := List.exists_cons_of_ne_nil (ne_nil_of_mem_symbols mark inside)
  obtain rfl : c = d := (List.cons.inj whole).1
  obtain rfl : rest = front ++ behind := (List.cons.inj whole).2
  refine ⟨front, rfl, fun others akin near => ?_⟩
  obtain same | point := near
  · rw [List.cons_append, token, head?_append_congr same, if_neg opens, if_neg numbered,
      if_neg numeric, if_neg noQuote]
    exact reads others akin
  · have pointed : c :: front = ['.'] := by
      rw [← String.toList_ofList (l := c :: front), Token.symbol.inj point]
      rfl
    obtain ⟨rfl, rfl⟩ := List.cons.inj pointed
    rw [List.nil_append] at numeric
    have noDigit : others.head?.any Char.isDigit = false := by
      cases akin with
      | nil => rfl
      | cons => simpa using numeric
      | word _ starts => exact isDigit_of_isNameStart starts
    exact (token_point noDigit).trans (reads others akin)

end Plain

/-- A token is read up to the next character. Behind a point that character may be another one, as
long as a name starts there. -/
theorem token_split {c : Char} {rest : List Char} {found : Token}
    (read : token (c :: rest) = some (found, behind)) :
    ∃ front, rest = front ++ behind ∧ ∀ others, Akin behind others →
      (others.head? = behind.head? ∨ found = .symbol ".") →
        token (c :: front ++ others) = some (found, others) := by
  by_cases opens : opensName c = true
  · rw [token, if_pos opens] at read
    obtain ⟨⟨⟨name, spelling⟩, last⟩, named, same⟩ := Option.bind_eq_some_iff.mp read
    cases same
    obtain ⟨d, front, whole, ends, reads⟩ := name_split named
    obtain ⟨rfl, rfl⟩ := List.cons.inj whole
    refine ⟨front, rfl, fun others _ near => ?_⟩
    obtain same | ⟨⟨⟩⟩ := near
    have named := reads others (endsName_of_head same ends)
    rw [List.cons_append] at named ⊢
    rw [token, if_pos opens, named]
    rfl
  by_cases numbered : (c == '#' && rest.head?.any opensName) = true
  · rw [token, if_neg opens, if_pos numbered] at read
    obtain ⟨⟨⟨name, spelling⟩, last⟩, named, same⟩ := Option.bind_eq_some_iff.mp read
    cases same
    obtain ⟨d, front, rfl, ends, reads⟩ := name_split named
    refine ⟨d :: front, rfl, fun others _ near => ?_⟩
    obtain same | ⟨⟨⟩⟩ := near
    rw [List.cons_append, token, head?_append_congr same, if_neg opens, if_pos numbered,
      reads others (endsName_of_head same ends)]
    rfl
  by_cases numeric : (c.isDigit || (c == '.' && rest.head?.any Char.isDigit)) = true
  · rw [token, if_neg opens, if_neg numbered, if_pos numeric] at read
    have starts : c.isDigit = true ∨ c = '.' := by
      simp only [Bool.or_eq_true, Bool.and_eq_true, beq_iff_eq] at numeric
      exact numeric.imp_right And.left
    obtain ⟨isNumber, front, rfl, reads⟩ := number_split starts read
    refine ⟨front, rfl, fun others _ near => ?_⟩
    obtain same | rfl := near
    · rw [List.cons_append, token, head?_append_congr same, if_neg opens, if_neg numbered,
        if_pos numeric]
      exact reads others same
    · cases isNumber
  by_cases quote : (c == '"' || c == '\'') = true
  · obtain ⟨noPoint, front, whole, reads⟩ := token_split_quote opens numbered numeric quote read
    exact ⟨front, whole, fun others _ near => reads others (near.resolve_right noPoint)⟩
  · exact token_split_symbol opens numbered numeric quote read

/-! ## Regular expressions and templates -/

/-- The body of a regular expression is read up to the slash that closes it. -/
theorem regexBody_split {inBrackets : Bool} {length : Nat}
    (read : regexBody inBrackets text = some length) :
    ∃ body rest, text = body ++ '/' :: rest ∧ body.length = length ∧
      ∀ others, regexBody inBrackets (body ++ '/' :: others) = some length := by
  fun_induction regexBody inBrackets text generalizing length with
  | case1 => cases read
  | case2 => cases read
  | case3 inBrackets c rest onLine inductionHypothesis =>
    obtain ⟨less, shorter, rfl⟩ := Option.map_eq_some_iff.mp read
    obtain ⟨body, rest, rfl, rfl, reads⟩ := inductionHypothesis shorter
    refine ⟨'\\' :: c :: body, rest, rfl, rfl, fun others => ?_⟩
    rw [List.cons_append, List.cons_append, regexBody, if_neg onLine, reads]
    rfl
  | case4 => cases read
  | case5 inBrackets c rest _ onLine closes =>
    cases read
    obtain ⟨rfl, outside⟩ : c = '/' ∧ inBrackets = false := by simpa using closes
    refine ⟨[], rest, rfl, rfl, fun others => ?_⟩
    rw [List.nil_append, regexBody, if_neg onLine, if_pos closes]
    rintro _ _ ⟨⟩
  | case6 inBrackets c rest unescaped onLine goesOn inductionHypothesis =>
    obtain ⟨less, shorter, rfl⟩ := Option.map_eq_some_iff.mp read
    obtain ⟨body, rest, rfl, rfl, reads⟩ := inductionHypothesis shorter
    have noEscape : c ≠ '\\' := by
      intro escape
      cases body with
      | nil => exact unescaped _ _ escape rfl
      | cons d more => exact unescaped _ _ escape rfl
    refine ⟨c :: body, rest, rfl, rfl, fun others => ?_⟩
    rw [List.cons_append, regexBody, if_neg onLine, if_neg goesOn, reads]
    · rfl
    · intro _ _ escape
      exact absurd escape noEscape

/-- The flags of a regular expression, as far as there are any. -/
def flagRun : Read (List Char) := fun text =>
  if text.head?.any isNameStart then
    (nameRun text.length text).map fun found => (found.1.1, found.2)
  else some ([], text)

/-- A regular expression whose body is known is read up to its slash, and its flags behind that if
they are valid ones. -/
theorem regex_eq {body rest : List Char}
    (closes : regexBody false (body ++ '/' :: rest) = some body.length) :
    regex ('/' :: (body ++ '/' :: rest)) = (flagRun rest).bind fun found =>
      if body.length ≠ 0 && found.1.all regexFlags.contains &&
          found.1.eraseDups.length == found.1.length then
        some (String.ofList ('/' :: (body ++ ['/'] ++ found.1)), found.2)
      else none := by
  have passed : (body ++ '/' :: rest).drop (body.length + 1) = rest := by
    rw [← List.drop_drop, List.drop_left]
    rfl
  have taken : (body ++ '/' :: rest).take (body.length + 1) = body ++ ['/'] := by
    rw [List.take_append, List.take_of_length_le (Nat.le_succ _), Nat.add_sub_cancel_left]
    rfl
  rw [regex, closes]
  simp only [Option.bind_eq_bind, Option.bind_some, passed, taken, flagRun]
  split
  · cases nameRun rest.length rest <;> rfl
  · rfl

/-- The flags of a regular expression are taken off the text, the same in front of any text that
starts alike. -/
theorem flagRun_split {flags : List Char} (read : flagRun text = some (flags, behind)) :
    TakesOff flagRun text flags behind := by
  unfold flagRun at read
  split at read
  · next starts =>
    obtain ⟨⟨⟨chars, escaped⟩, last⟩, run, same⟩ := Option.map_eq_some_iff.mp read
    cases same
    obtain ⟨front, rfl, ends, forms⟩ := (nameForm_of_nameRun le_rfl run).split
    refine ⟨front, rfl, fun others same => ?_⟩
    rw [flagRun, head?_append_congr same, if_pos starts,
      (forms others (endsName_of_head same ends)).nameRun_eq le_rfl]
    rfl
  · next none =>
    cases read
    refine ⟨[], rfl, fun others same => ?_⟩
    rw [List.nil_append, flagRun, same, if_neg none]

/-- A regular expression is read up to what does not go on with its flags. -/
theorem regex_split {source : String} (read : regex text = some (source, behind)) :
    ∃ front, text = '/' :: front ++ behind ∧ front ≠ [] ∧ ∀ others, others.head? = behind.head? →
      regex ('/' :: front ++ others) = some (source, others) := by
  have opened : ∃ rest, text = '/' :: rest := by
    unfold regex at read
    split at read
    · exact ⟨_, rfl⟩
    · cases read
  obtain ⟨rest, rfl⟩ := opened
  obtain ⟨length, closed, -⟩ := Option.bind_eq_some_iff.mp read
  obtain ⟨body, rest, rfl, rfl, closes⟩ := regexBody_split closed
  rw [regex_eq closed] at read
  obtain ⟨⟨flags, last⟩, run, valid⟩ := Option.bind_eq_some_iff.mp read
  obtain ⟨front, rfl, reads⟩ := flagRun_split run
  split at valid
  · next fits =>
    cases valid
    refine ⟨body ++ '/' :: front, by simp, by simp, fun others same => ?_⟩
    have form : '/' :: (body ++ '/' :: front) ++ others =
        '/' :: (body ++ '/' :: (front ++ others)) := by
      simp
    rw [form, regex_eq (closes _), reads others same]
    exact if_pos fits
  · cases valid

/-- Whether an escape has a meaning is seen in front of what no escape goes on with. -/
theorem isTemplateEscape_stops {bound c : Char} (bounds : Bounds bound)
    (front first second : List Char) :
    isTemplateEscape (c :: (front ++ bound :: first)) =
      isTemplateEscape (c :: (front ++ bound :: second)) := by
  by_cases hex : c = 'x'
  · subst hex
    obtain ⟨answer, sees⟩ := hexRun_stops bounds 2 front
    simp [isTemplateEscape, sees]
  by_cases number : c = 'u'
  · subst number
    obtain ⟨answer, sees⟩ := characterNumber_stops bounds front
    simp [isTemplateEscape, sees]
  rw [isTemplateEscape, isTemplateEscape, head?_append_cons, head?_append_cons]
  all_goals first | exact hex | exact number

/-- The text of a template is read up to what ends it. -/
theorem templateText_split {found : TemplateText}
    (read : templateText text = some (found, behind)) :
    ∃ front bound last, Bounds bound ∧ text = front ++ bound :: (last ++ behind) ∧ ∀ others,
      templateText (front ++ bound :: (last ++ others)) = some (found, others) := by
  fun_induction templateText text generalizing found behind with
  | case1 => cases read
  | case2 rest =>
    cases read
    exact ⟨[], '\x60', [], ⟨rfl, rfl, by decide⟩, rfl, fun _ => rfl⟩
  | case3 rest =>
    cases read
    exact ⟨[], '$', ['\x7b'], ⟨rfl, rfl, by decide⟩, rfl, fun _ => rfl⟩
  | case4 c rest inductionHypothesis =>
    obtain ⟨⟨text, further⟩, run, same⟩ := Option.bind_eq_some_iff.mp read
    cases same
    obtain ⟨front, bound, last, bounds, rfl, reads⟩ := inductionHypothesis run
    refine ⟨'\\' :: c :: front, bound, last, bounds, rfl, fun others => ?_⟩
    rw [List.cons_append, List.cons_append, templateText, reads]
    simp only [Option.bind_eq_bind, Option.bind_some,
      isTemplateEscape_stops bounds front (last ++ others) (last ++ behind)]
    rfl
  | case5 c rest noEnd noValue noEscape inductionHypothesis =>
    obtain ⟨⟨text, further⟩, run, same⟩ := Option.bind_eq_some_iff.mp read
    cases same
    obtain ⟨front, bound, last, bounds, rfl, reads⟩ := inductionHypothesis run
    refine ⟨c :: front, bound, last, bounds, rfl, fun others => ?_⟩
    rw [List.cons_append, templateText, reads]
    · rfl
    · rintro rfl
      exact noEnd rfl
    · rintro more rfl same
      cases front with
      | nil => exact noValue _ rfl (by rw [List.nil_append, (List.cons.inj same).1])
      | cons d others => exact noValue _ rfl (by rw [List.cons_append, (List.cons.inj same).1])
    · rintro d more rfl same
      cases front with
      | nil => exact noEscape _ _ rfl rfl
      | cons d others => exact noEscape _ _ rfl rfl

end PropertyMangling.Script.Lexer

namespace PropertyMangling.Script

open Lexer

/-- What the grammar sees of trivia is the same. -/
structure Trivia.Agrees (first second : Trivia) : Prop where
  newline : first.newline = second.newline
  document : first.document?.isSome = second.document?.isSome

/-- What is noted of trivia is the same at two places of two texts. Comments in the marks of a document
are as far in front of the one as of the other. -/
structure Trivia.AgreesAt (first second : Trivia) (moved position : Nat) : Prop where
  newline : first.newline = second.newline
  document : first.document?.map (· + position) = second.document?.map (· + moved)

namespace Trivia.AgreesAt

variable {first second : Trivia} {moved position : Nat}

/-- Notes that agree at a place agree on line ends, which is the part that tokens depend on. -/
theorem agrees (agree : first.AgreesAt second moved position) : first.Agrees second where
  newline := agree.newline
  document := by
    have same := congrArg Option.isSome agree.document
    rwa [Option.isSome_map, Option.isSome_map] at same

/-- At one and the same place the same comments are noted. -/
theorem document_eq (agree : first.AgreesAt second position position) :
    first.document? = second.document? :=
  Option.map_injective (fun _ _ => Nat.add_right_cancel) agree.document

/-- Notes that agree at two places agree when both places are moved on by the same width. -/
theorem go (agree : first.AgreesAt second moved position) (width : Nat) :
    first.AgreesAt second (moved + width) (position + width) where
  newline := agree.newline
  document := by
    have both := congrArg (Option.map (· + width)) agree.document
    simpa [Option.map_map, Function.comp_def, Nat.add_assoc] using both

/-- Notes with the documents of others agree at two places as the others do, when they agree on
line ends. -/
theorem congr (agree : first.AgreesAt second moved position) {other later : Trivia}
    (newline : other.newline = later.newline) (document : other.document? = first.document?)
    (documentToo : later.document? = second.document?) : other.AgreesAt later moved position where
  newline := newline
  document := by rw [document, documentToo, agree.document]

/-- Notes still agree when the document at each of the two places is added to its own notes. -/
theorem addDocument (agree : first.AgreesAt second moved position) :
    (first.addDocument moved).AgreesAt (second.addDocument position) moved position where
  newline := agree.newline
  document := by
    have same := agree.document
    simp only [Trivia.addDocument, Option.map_some]
    cases one : first.document? <;> cases two : second.document? <;> rw [one, two] at same
    · exact congrArg some (Nat.add_comm moved position)
    · cases same
    · cases same
    · exact same

end Trivia.AgreesAt

/-- A blank opens no comment, neither one of the language nor one of a page. -/
theorem opens_of_blank {c : Char} (blank : isLineEnd c = true ∨ isSpace c = true) :
    c ≠ '/' ∧ c ≠ '<' ∧ c ≠ '-' := by
  refine ⟨?_, ?_, ?_⟩
  all_goals
    rintro rfl
    exact absurd blank (by decide)

/-- A walk over the gap between tokens passes a blank, and notes whether it was a line end. -/
theorem Trivia.walk_blank {c : Char} (trivia : Trivia) (position : Nat) (rest : List Char)
    (blank : isLineEnd c = true ∨ isSpace c = true) :
    walk .between trivia position (c :: rest) =
      walk .between { trivia with newline := trivia.newline || isLineEnd c } (position + c.utf8Size)
        rest := by
  obtain ⟨noSlash, noAngle, noDash⟩ := opens_of_blank blank
  rw [walk]
  · cases ends : isLineEnd c with
    | true => simp
    | false => simp [blank.resolve_left (by simp [ends])]
  all_goals
    intro _ same
    first | exact absurd same noSlash | exact absurd same noAngle | exact absurd same noDash

/-- What a comment may open with everywhere. -/
def commentMarks : List (List Char) := [['/', '/'], ['/', '*'], ['<', '!', '-', '-']]

/-- A walk ends where neither white space nor a comment starts. -/
theorem Trivia.walk_end {c : Char} (trivia : Trivia) (position : Nat) {rest : List Char}
    (firm : isLineEnd c = false ∧ isSpace c = false)
    (noComment : ∀ mark ∈ commentMarks, ¬ mark <+: c :: rest)
    (noClose : ['-', '-', '>'] <+: c :: rest → trivia.newline = false) :
    walk .between trivia position (c :: rest) = some (trivia, ⟨c :: rest, position⟩) := by
  by_cases close : ['-', '-', '>'] <+: c :: rest
  · obtain ⟨more, same⟩ := id close
    rw [← same] at noClose ⊢
    exact if_neg (by simp [noClose ⟨more, rfl⟩])
  · rw [walk, if_neg (by simp [firm.1]), if_neg (by simp [firm.2])]
    · rintro more rfl rfl
      exact noComment ['/', '/'] (by decide) ⟨more, rfl⟩
    · rintro more rfl rfl
      exact noComment ['/', '*'] (by decide) ⟨more, rfl⟩
    · rintro more rfl rfl
      exact noComment ['<', '!', '-', '-'] (by decide) ⟨more, rfl⟩
    · rintro more rfl rfl
      exact close ⟨more, rfl⟩

/-- A name does not start with a blank, so the gap before it ends where the name starts. -/
theorem blank_of_isNameStart {c : Char} (starts : isNameStart c = true) :
    isLineEnd c = false ∧ isSpace c = false := by
  have solid := isSolid_of_isNameStart starts
  simp only [isSolid, Bool.and_eq_true, Bool.not_eq_true'] at solid
  tauto

/-- A walk passes a gap, and what is behind does not matter for it: the same gap is passed alike in
front of another text that is the same up to a word, wherever it stands there. -/
def Trivia.Splits (place : TriviaPlace) (trivia : Trivia) (position : Nat) (text : List Char)
    (found : Trivia) (behind : Cursor) : Prop :=
  ∃ gap, text = gap ++ behind.text ∧ ∀ (other : Trivia) (moved : Nat) (others : List Char),
    other.AgreesAt trivia moved position → Akin behind.text others →
      ∃ foundToo further, foundToo.AgreesAt found further behind.position ∧
        walk place other moved (gap ++ others) = some (foundToo, ⟨others, further⟩)

namespace Trivia.Splits

variable {place next : TriviaPlace} {trivia after found : Trivia} {text : List Char}
  {position later : Nat} {behind : Cursor}

/-- A walk that ends where it is has passed no gap, and then the text in front of it is empty. -/
theorem here (stops : ∀ (other : Trivia) (moved : Nat) (others : List Char),
      other.AgreesAt trivia moved position → Akin text others →
      ∃ foundToo, foundToo.AgreesAt found moved position ∧
        walk place other moved others = some (foundToo, ⟨others, moved⟩)) :
    Splits place trivia position text found ⟨text, position⟩ := by
  refine ⟨[], rfl, fun other moved others agree akin => ?_⟩
  obtain ⟨foundToo, agreeToo, stopped⟩ := stops other moved others agree akin
  exact ⟨foundToo, moved, agreeToo, stopped⟩

/-- A step of a walk passes some characters whatever is behind them. -/
theorem step (front : List Char) (splits : Splits next after later text found behind)
    (passes : ∀ (other : Trivia) (moved : Nat) (others : List Char),
      other.AgreesAt trivia moved position → Akin text others →
      ∃ afterToo further, afterToo.AgreesAt after further later ∧
        walk place other moved (front ++ others) = walk next afterToo further others) :
    Splits place trivia position (front ++ text) found behind := by
  obtain ⟨gap, rfl, walks⟩ := splits
  refine ⟨front ++ gap, (List.append_assoc ..).symm, fun other moved others agree akin => ?_⟩
  obtain ⟨afterToo, further, agreeToo, passed⟩ :=
    passes other moved (gap ++ others) agree (akin.append gap)
  rw [List.append_assoc, passed]
  exact walks afterToo further others agreeToo akin

end Trivia.Splits

/-- Trivia are walked through up to the next character, and not further when a word or nothing new
stands there. -/
theorem Trivia.walk_split {place : TriviaPlace} {trivia found : Trivia} {position : Nat}
    {text : List Char} {behind : Cursor}
    (walked : walk place trivia position text = some (found, behind)) :
    Splits place trivia position text found behind := by
  fun_induction walk place trivia position text with
  | case1 trivia position rest inductionHypothesis =>
    refine (inductionHypothesis walked).step ['/', '/'] fun other moved others agree _ => ?_
    exact ⟨other, _, agree.go 2, by rw [List.cons_append, List.cons_append, walk]; rfl⟩
  | case2 trivia position rest inductionHypothesis =>
    refine (inductionHypothesis walked).step ['/', '*'] fun other moved others agree _ => ?_
    exact ⟨other, _, agree.go 2, by rw [List.cons_append, List.cons_append, walk]; rfl⟩
  | case3 trivia position rest inductionHypothesis =>
    refine (inductionHypothesis walked).step ['<', '!', '-', '-'] fun other moved others agree _ => ?_
    exact ⟨_, _, agree.addDocument.go 4, by simp only [List.cons_append]; rw [walk]; rfl⟩
  | case4 trivia position rest atStart inductionHypothesis =>
    refine (inductionHypothesis walked).step ['-', '-', '>'] fun other moved others agree _ => ?_
    refine ⟨_, moved + 3, agree.addDocument.go 3, ?_⟩
    simp only [List.cons_append]
    rw [walk, if_pos (agree.newline.trans atStart)]
    rfl
  | case5 trivia position rest inside =>
    cases walked
    -- Inside a line the mark is none of a comment, and it stands in the other text as well.
    refine .here fun other moved others agree akin => ⟨other, agree, ?_⟩
    obtain ⟨more, rfl⟩ : ['-', '-', '>'] <+: others := (akin.prefix_iff (by decide)).mp ⟨rest, rfl⟩
    refine walk_end _ _ (by decide) (by simp [commentMarks]) fun _ => ?_
    simpa [agree.newline] using inside
  | case6 trivia position c rest _ _ _ _ ends inductionHypothesis =>
    refine (inductionHypothesis walked).step [c] fun other moved others agree _ => ?_
    refine ⟨_, _, ?_, walk_blank _ _ _ (.inl ends)⟩
    exact (agree.go _).congr (by simp [ends]) rfl rfl
  | case7 trivia position c rest _ _ _ _ goesOn blank inductionHypothesis =>
    refine (inductionHypothesis walked).step [c] fun other moved others agree _ => ?_
    refine ⟨_, _, ?_, walk_blank _ _ _ (.inr blank)⟩
    exact (agree.go _).congr (by simp [goesOn, agree.newline]) rfl rfl
  | case8 trivia position c rest noLine noBlock noOpen noClose goesOn firm =>
    cases walked
    refine .here fun other moved others agree akin => ⟨other, agree, ?_⟩
    obtain ⟨d, more, rfl, stops⟩ : ∃ d more, others = d :: more ∧
        isLineEnd d = false ∧ isSpace d = false := by
      cases id akin with
      | cons _ _ => exact ⟨c, _, rfl, by simpa using goesOn, by simpa using firm⟩
      | word _ starts => exact ⟨_, _, rfl, blank_of_isNameStart starts⟩
    refine walk_end _ _ stops ?_ ?_
    · intro mark isMark there
      have noWord : ∀ mark ∈ commentMarks, mark.any isNamePart = false := by decide
      obtain ⟨behind, whole⟩ := (akin.prefix_iff (noWord mark isMark)).mpr there
      simp only [commentMarks, List.mem_cons, List.not_mem_nil, or_false] at isMark
      rcases isMark with rfl | rfl | rfl
      · obtain ⟨rfl, rfl⟩ := List.cons.inj whole
        exact noLine behind rfl rfl
      · obtain ⟨rfl, rfl⟩ := List.cons.inj whole
        exact noBlock behind rfl rfl
      · obtain ⟨rfl, rfl⟩ := List.cons.inj whole
        exact noOpen behind rfl rfl
    · intro there
      obtain ⟨behind, whole⟩ := (akin.prefix_iff (by decide)).mpr there
      obtain ⟨rfl, rfl⟩ := List.cons.inj whole
      exact (noClose behind rfl rfl).elim
  | case9 trivia position =>
    cases walked
    refine .here fun other moved others agree akin => ⟨other, agree, ?_⟩
    cases akin
    rw [walk]
  | case10 gathered trivia position c rest ends inductionHypothesis =>
    refine (inductionHypothesis walked).step [c] fun other moved others agree _ => ?_
    refine ⟨_, _, ?_, by rw [List.cons_append, walk, if_pos ends]; rfl⟩
    exact (agree.go _).congr rfl rfl rfl
  | case11 gathered trivia position c rest goesOn inductionHypothesis =>
    refine (inductionHypothesis walked).step [c] fun other moved others agree _ => ?_
    exact ⟨other, _, agree.go _, by rw [List.cons_append, walk, if_neg goesOn]; rfl⟩
  | case12 gathered trivia position =>
    cases walked
    refine .here fun other moved others agree akin => ⟨other.add .line gathered, ?_, ?_⟩
    · exact agree.congr agree.newline rfl rfl
    cases akin
    rw [walk]
  | case13 gathered trivia position rest inductionHypothesis =>
    refine (inductionHypothesis walked).step ['*', '/'] fun other moved others agree _ => ?_
    refine ⟨_, _, ?_, by rw [List.cons_append, List.cons_append, walk]; rfl⟩
    split <;> split <;> exact (agree.go 2).congr agree.newline rfl rfl
  | case14 gathered trivia position c rest stays inductionHypothesis =>
    -- Whether a star closes the comment is seen in the next character, which is a slash in both texts or
    -- in none.
    refine (inductionHypothesis walked).step [c] fun other moved others agree akin => ?_
    have apart : ∀ more, c = '*' → others ≠ '/' :: more := by
      rintro more rfl rfl
      obtain ⟨rest, rfl⟩ : ['/'] <+: rest := (akin.prefix_iff (by decide)).mpr ⟨more, rfl⟩
      exact stays rest rfl rfl
    refine ⟨_, _, ?_, by rw [List.cons_append, List.nil_append, walk]; exact apart⟩
    exact (agree.go _).congr (by simp [agree.newline]) rfl rfl
  | case15 gathered trivia position => cases walked

end PropertyMangling.Script
