import PropertyMangling.Proofs.Script.Written
/-!
# Words of a text

A plain name is read as it is written when a character follows that ends it.
The other way round, what is read as a name consists of characters that names
are made of, and where nothing is escaped it is a plain name.
-/
namespace PropertyMangling.Script

/-- Whether a text is a name as it stands: it starts like one, and goes on like one. -/
def isPlainName (text : String) : Bool :=
  match text.toList with
  | [] => false
  | first :: rest => isNameStart first && rest.all isNamePart

/-- A text that is read as a given word somewhere, however the word is written there. -/
def HasWord (source : List Char) (word : String) : Prop :=
  ∃ text spelling behind, text <:+ source ∧ Lexer.name text = some ((word, spelling), behind)

/-- A plain name has a first character that may start a name, and others that may stand inside
one. -/
theorem isPlainName_iff {text : String} :
    isPlainName text = true ↔ ∃ first rest, text.toList = first :: rest ∧
      isNameStart first = true ∧ ∀ c ∈ rest, isNamePart c = true := by
  unfold isPlainName
  cases text.toList with
  | nil => simp
  | cons first rest => simp [List.all_eq_true]

/-- All characters of a plain name are characters of names, the first one included. -/
theorem isNamePart_of_isPlainName {text : String} (plain : isPlainName text = true) :
    ∀ c ∈ text.toList, isNamePart c = true := by
  obtain ⟨first, rest, same, starts, parts⟩ := isPlainName_iff.mp plain
  rw [same]
  exact List.forall_mem_cons.mpr ⟨isNamePart_of_isNameStart starts, parts⟩

namespace Lexer

variable {text chars behind : List Char} {c : Char}

/-- Name characters are read up to what ends them, in front of any such text. -/
theorem nameForm_append (parts : ∀ c ∈ chars, isNamePart c = true)
    (ends : endsName behind = true) : NameForm (chars ++ behind) (chars, false) behind := by
  induction chars with
  | nil => exact .ends ends
  | cons c rest inductionHypothesis =>
    obtain ⟨part, parts⟩ := List.forall_mem_cons.mp parts
    exact .plain part (inductionHypothesis parts)

/-- A plain name is read as it is written, in front of any text that ends a name. -/
theorem name_append {name : String} (plain : isPlainName name = true)
    (ends : endsName behind = true) :
    Lexer.name (name.toList ++ behind) = some ((name, .plain), behind) := by
  obtain ⟨first, rest, same, starts, -⟩ := isPlainName_iff.mp plain
  have form := nameForm_append (isNamePart_of_isPlainName plain) ends
  have opens : opensName first = true := by simp [opensName, starts]
  have unescaped : first ≠ '\\' := ne_backslash_of_isNamePart (isNamePart_of_isNameStart starts)
  have spelled : Spelling.plain = spellingOf first false := by simp [spellingOf, unescaped]
  exact name_eq_some_iff.mpr ⟨first, rest ++ behind, name.toList, false,
    by rw [same, List.cons_append], opens, form, String.ofList_toList.symm, spelled⟩

/-- A plain name is a word where it ends: no other kind of token opens with its first
character. -/
theorem token_append {name : String} (plain : isPlainName name = true)
    (ends : endsName behind = true) :
    token (name.toList ++ behind) = some (.word name .plain, behind) := by
  obtain ⟨first, rest, same, starts, -⟩ := isPlainName_iff.mp plain
  have read := name_append plain ends
  rw [same, List.cons_append] at read ⊢
  rw [token, opensName, starts, Bool.true_or, if_pos rfl, read]
  rfl

namespace NameForm

variable {found : List Char × Bool} {rest : List Char}

/-- A word of a text has characters of names only, which keeps it apart from all marks. -/
theorem parts (form : NameForm text found behind) : ∀ c ∈ found.1, isNamePart c = true := by
  induction form with
  | ends => exact List.forall_mem_nil _
  | escaped _ part _ others => exact List.forall_mem_cons.mpr ⟨part, others⟩
  | plain part _ others => exact List.forall_mem_cons.mpr ⟨part, others⟩

/-- A character of names is read as it stands, and then what is behind it. -/
theorem of_part (part : isNamePart c = true) (form : NameForm (c :: text) found behind) :
    ∃ chars escaped, found = (c :: chars, escaped) ∧ NameForm text (chars, escaped) behind := by
  cases form with
  | ends ends =>
    rw [(endsName_cons.mp ends).1] at part
    cases part
  | escaped => exact absurd rfl (ne_backslash_of_isNamePart part)
  | plain _ further => exact ⟨_, _, rfl, further⟩

/-- The characters of names in front of a text are read as they stand, and then what is behind them. -/
theorem exists_behind (parts : ∀ c ∈ chars, isNamePart c = true)
    (form : NameForm (chars ++ behind) found rest) :
    ∃ more, NameForm behind more rest ∧ found.1 = chars ++ more.1 := by
  induction chars generalizing found with
  | nil => exact ⟨found, form, rfl⟩
  | cons c others inductionHypothesis =>
    obtain ⟨part, parts⟩ := List.forall_mem_cons.mp parts
    obtain ⟨chars, escaped, rfl, further⟩ := form.of_part part
    obtain ⟨more, behind, same⟩ := inductionHypothesis parts further
    exact ⟨more, behind, congrArg (c :: ·) same⟩

/-- Nothing of a name is read exactly where a name ends. -/
theorem eq_nil_iff (form : NameForm text found behind) : found.1 = [] ↔ endsName text = true := by
  cases form with
  | ends ends => exact iff_of_true rfl ends
  | escaped =>
    refine iff_of_false (List.cons_ne_nil _ _) fun ends => ?_
    exact (endsName_cons.mp ends).2 rfl
  | plain part =>
    refine iff_of_false (List.cons_ne_nil _ _) fun ends => ?_
    exact Bool.eq_false_iff.mp (endsName_cons.mp ends).1 part

end NameForm

/-- The characters of names in front of a text are the whole name that is read there exactly where the
name ends behind them. -/
theorem eq_name_iff {name : String} {spelling : Spelling} {rest : List Char}
    (parts : ∀ c ∈ chars, isNamePart c = true)
    (read : Lexer.name (chars ++ behind) = some ((name, spelling), rest)) :
    String.ofList chars = name ↔ endsName behind = true := by
  obtain ⟨_, _, found, _, -, -, form, rfl, -⟩ := name_eq_some_iff.mp read
  obtain ⟨more, further, same⟩ := form.exists_behind parts
  dsimp only at same
  rw [String.ofList_inj, ← further.eq_nil_iff, same, List.self_eq_append_right]

/-- A name that was read has a first character, so it passes over part of the text. -/
theorem name_ne_nil {name : String} {spelling : Spelling}
    (read : Lexer.name text = some ((name, spelling), behind)) : name.toList ≠ [] := by
  obtain ⟨c, chars, rfl, -⟩ := name_cases read
  rw [String.toList_ofList]
  exact List.cons_ne_nil c chars

/-- A name has characters of names only, and is a plain one unless it starts with an escape. -/
theorem isPlainName_of_name {word : String} {spelling : Spelling}
    (read : Lexer.name text = some ((word, spelling), behind)) :
    (∀ c ∈ word.toList, isNamePart c = true) ∧ ('\\' ∉ text → isPlainName word = true) := by
  obtain ⟨first, rest, chars, escaped, rfl, opens, form, rfl, -⟩ := name_eq_some_iff.mp read
  rw [String.toList_ofList]
  refine ⟨form.parts, fun unescaped => ?_⟩
  have written : first ≠ '\\' := fun escape => unescaped (escape ▸ List.mem_cons_self)
  simp only [opensName, Bool.or_eq_true, beq_iff_eq] at opens
  have starts : isNameStart first = true := opens.resolve_right written
  obtain ⟨others, _, same, further⟩ := form.of_part (isNamePart_of_isNameStart starts)
  obtain rfl := (Prod.mk.inj same).1
  exact isPlainName_iff.mpr ⟨first, others, String.toList_ofList, starts, further.parts⟩

end Lexer

namespace HasWord

variable {source : List Char} {word : String}

/-- A word of a text has characters of names only. -/
theorem parts (found : HasWord source word) : ∀ c ∈ word.toList, isNamePart c = true := by
  obtain ⟨text, spelling, behind, -, read⟩ := found
  exact (Lexer.isPlainName_of_name read).1

/-- A word of a text without backslashes is a plain name. -/
theorem isPlainName (found : HasWord source word) (unescaped : '\\' ∉ source) :
    isPlainName word = true := by
  obtain ⟨text, spelling, behind, within, read⟩ := found
  exact (Lexer.isPlainName_of_name read).2 fun escape => unescaped (within.subset escape)

end HasWord

/-- The word that a token is stands at the front of the text that the token was read off. -/
theorem Lexer.name_of_token {text behind : List Char} {word : String} {spelling : Spelling}
    (read : Lexer.token text = some (.word word spelling, behind)) :
    Lexer.name text = some ((word, spelling), behind) := by
  cases Lexer.tokenForm_of_token read with
  | word named => exact named
  | number _ isNumber _ => cases isNumber

end PropertyMangling.Script
