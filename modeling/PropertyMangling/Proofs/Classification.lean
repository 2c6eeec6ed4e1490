import PropertyMangling.Classification
import PropertyMangling.Proofs.Reserved
import PropertyMangling.Proofs.TokenFile.Words
/-!
# Lines of classified tokens

A token that may be renamed is its own line. The line of any other token opens
with the comment marker, then come the token and a reason. Every such line has a
token when it is read, and this is the classified one exactly when it is a word:
a token that holds anything else, or nothing at all, is never read back.

`Verdict` says which line a token gets, and why, from the tables alone;
`classification_follows_tables` that these are the lines of every classification,
and that the line alone tells which tokens stay as they are.
-/
namespace PropertyMangling

open TokenFile Identifier

variable {reserved : Reserved.Index} {minLength : Nat} {token reason : String}

/-- A token may be renamed when it is not reserved, is a plain identifier, and is long enough. -/
theorem exclusionReason?_eq_none_iff :
    exclusionReason? reserved minLength token = none ↔
      reserved.isReserved token = false ∧ isPlain token = true ∧ minLength ≤ token.length := by
  unfold exclusionReason?
  cases set : reserved.isReserved token with
  | true => simp
  | false =>
    cases plain : isPlain token with
    | false => simp
    | true => simp

/-- A classified token keeps its token, whatever line is written for it. -/
theorem token_classifyToken : (classifyToken reserved minLength token).token = token := by
  unfold classifyToken
  split <;> rfl

/-- The tokens of classified tokens are those that were given, in their order. -/
theorem map_token_classifyTokens (reserved : Reserved.Index) (minLength : Nat)
    (tokens : List String) :
    (classifyTokens reserved minLength tokens).map Entry.token = tokens := by
  rw [classifyTokens, List.map_map]
  exact (List.map_congr_left fun _ _ => token_classifyToken).trans (List.map_id' tokens)

/-- A token that may be renamed is its own line, without any remark. -/
theorem message_of_renamable (renamable : exclusionReason? reserved minLength token = none) :
    (classifyToken reserved minLength token).message = token := by
  rw [classifyToken, renamable]
  rfl

/-- The line of any other token opens with the marker, and has the reason behind a colon. -/
theorem message_of_excluded (excluded : exclusionReason? reserved minLength token = some reason) :
    (classifyToken reserved minLength token).message.toList =
      commentMarker :: (token.toList ++ ':' :: ' ' :: reason.toList) := by
  rw [classifyToken, excluded]
  simp [Entry.excluded]

/-- Every reason has a word, so a line with a reason is never mistaken for a blank one. -/
theorem exists_part_of_reason
    (excluded : exclusionReason? reserved minLength token = some reason) :
    ∃ c ∈ reason.toList, isPart c = true := by
  unfold exclusionReason? at excluded
  split at excluded
  · rw [← Option.some.inj excluded]
    exact ⟨'u', by simp, by decide⟩
  · split at excluded
    · rw [← Option.some.inj excluded]
      exact ⟨'n', by simp, by decide⟩
    · split at excluded
      · rw [← Option.some.inj excluded]
        exact ⟨'l', by simp, by decide⟩
      · cases excluded

/-- A token that may be renamed is a word, since all others are excluded as no identifiers. -/
theorem isWord_of_renamable (renamable : exclusionReason? reserved minLength token = none) :
    IsWord token :=
  isWord_of_isPlain (exclusionReason?_eq_none_iff.mp renamable).2.1

/-- Every line of a classified token has a token, so files that are written can be read. -/
theorem exists_tokenOf?_message (reserved : Reserved.Index) (minLength : Nat) (token : String) :
    ∃ read, tokenOf? (classifyToken reserved minLength token).message = some read := by
  cases classified : exclusionReason? reserved minLength token with
  | none =>
    rw [message_of_renamable classified]
    exact ⟨token, tokenOf?_word (isWord_of_renamable classified)⟩
  | some reason =>
    obtain ⟨c, inside, part⟩ := exists_part_of_reason classified
    refine exists_tokenOf? (c := c) ?_ part
    rw [message_of_excluded classified]
    simp [inside]

/-- The line of a token is commented exactly when there is a reason against renaming it. -/
theorem isCommented_message :
    isCommented (classifyToken reserved minLength token).message.toList =
      (exclusionReason? reserved minLength token).isSome := by
  cases classified : exclusionReason? reserved minLength token with
  | none =>
    have word : IsWord token := isWord_of_renamable classified
    obtain ⟨first, rest, written⟩ := List.exists_cons_of_ne_nil word.1
    have part : isPart first = true := word.2 first (written ▸ List.mem_cons_self)
    have other : first ≠ commentMarker := by
      intro same
      rw [same] at part
      exact absurd part (by decide)
    rw [message_of_renamable classified, isCommented, written,
      Text.trimLeft_cons_of_not_blank (isBlank_of_isPart part)]
    simp [other]
  | some reason =>
    rw [message_of_excluded classified, isCommented,
      Text.trimLeft_cons_of_not_blank (by decide)]
    simp

/-- A word is read back from its line, whatever the line says about it. -/
theorem tokenOf?_message_of_isWord (word : IsWord token) :
    tokenOf? (classifyToken reserved minLength token).message = some token := by
  cases classified : exclusionReason? reserved minLength token with
  | none => rw [message_of_renamable classified, tokenOf?_word word]
  | some reason =>
    have run : firstRun (classifyToken reserved minLength token).message.toList = token.toList := by
      have marker : isPart commentMarker = false := by decide
      have stop : isPart ':' = false := by decide
      rw [message_of_excluded classified, ← List.singleton_append,
        firstRun_skip (by simpa using marker)]
      exact firstRun_append word.1 word.2 (by simpa using stop)
    rw [tokenOf?_eq_some run word.1, String.ofList_toList]

/-- The line of a token is read as that token exactly when it is a word. -/
theorem tokenOf?_message_eq_iff :
    tokenOf? (classifyToken reserved minLength token).message = some token ↔ IsWord token :=
  ⟨isWord_of_tokenOf?, tokenOf?_message_of_isWord⟩

/-- A line is commented exactly when the marker stands in it behind nothing but blanks. -/
theorem isCommented_iff {line : List Char} :
    isCommented line = true ↔
      ∃ blanks rest, line = blanks ++ commentMarker :: rest ∧ blanks.all Text.isBlank = true := by
  constructor
  · intro commented
    have opens : (Text.trimLeft line).head? = some commentMarker := of_decide_eq_true commented
    obtain ⟨rest, trimmed⟩ := List.head?_eq_some_iff.mp opens
    refine ⟨line.takeWhile Text.isBlank, rest, ?_, List.all_takeWhile⟩
    rw [← trimmed]
    exact List.takeWhile_append_dropWhile.symm
  · rintro ⟨blanks, rest, rfl, blank⟩
    have firm : Text.isBlank commentMarker = false := by decide
    rw [isCommented, Text.trimLeft_append blank, Text.trimLeft_cons_of_not_blank firm]
    rfl

/-- What the tables say about a token, the first answer that applies, and its line. -/
inductive Verdict (custom : List String) (minLength : Nat) (token : String) : String → Prop where
  | reserved (held : Reserved.labelsOf custom token ≠ []) :
      Verdict custom minLength token
        ("#" ++ token ++ ": " ++ ("used in " ++ ", ".intercalate (Reserved.labelsOf custom token)))
  | notIdentifier (free : Reserved.labelsOf custom token = []) (odd : isPlain token = false) :
      Verdict custom minLength token ("#" ++ token ++ ": not identifier")
  | short (free : Reserved.labelsOf custom token = []) (plain : isPlain token = true)
      (few : token.length < minLength) :
      Verdict custom minLength token
        ("#" ++ token ++ ": " ++ ("length of token is less than " ++ toString minLength))
  | bare (free : Reserved.labelsOf custom token = []) (plain : isPlain token = true)
      (enough : minLength ≤ token.length) :
      Verdict custom minLength token token

/-- The line of a token is the one that the tables give it. -/
theorem verdict_classifyToken (custom : List String) (minLength : Nat) (token : String) :
    Verdict custom minLength token (classifyToken (.ofCustom custom) minLength token).message := by
  rw [classifyToken, exclusionReason?, Reserved.isReserved_ofCustom_eq,
    Reserved.map_label_categories]
  by_cases free : Reserved.labelsOf custom token = []
  · by_cases plain : isPlain token = true
    · by_cases few : token.length < minLength
      · simpa [free, plain, few, Entry.excluded, commentMarker, String.append_assoc] using
          Verdict.short free plain few
      · simpa [free, plain, few, Entry.eligible] using
          Verdict.bare free plain (Nat.le_of_not_lt few)
    · have odd : isPlain token = false := Bool.eq_false_iff.mpr plain
      have verdict : Verdict custom minLength token ("#" ++ token ++ ": not identifier") :=
        .notIdentifier free odd
      simpa [free, odd, Entry.excluded, commentMarker, String.append_assoc] using verdict
  · have verdict : Verdict custom minLength token ("#" ++ token ++ ": " ++
        ("used in " ++ ", ".intercalate (Reserved.labelsOf custom token))) := .reserved free
    simpa [free, Entry.excluded, commentMarker, String.append_assoc] using verdict

/-- A token keeps its spelling exactly when it has a label, is no identifier, or is too short. -/
theorem isExcluded_classifyToken (custom : List String) (minLength : Nat) (token : String) :
    (classifyToken (.ofCustom custom) minLength token).isExcluded = true ↔
      Reserved.labelsOf custom token ≠ [] ∨ isPlain token = false ∨ token.length < minLength := by
  rw [Entry.isExcluded, isCommented_message, Option.isSome_iff_ne_none, ne_eq,
    exclusionReason?_eq_none_iff, Reserved.isReserved_ofCustom_eq]
  by_cases free : Reserved.labelsOf custom token = []
  · by_cases plain : isPlain token = true
    · simp [free, plain]
    · simp [free, plain]
  · simp [free]

/-- Whatever a person sets aside, the categories of every token are those of the tables that hold it,
in the order of the tables and each once, with the custom one behind them exactly when the token was
set aside. Classification gives the tokens, in their order and each by itself, the lines that the
tables say. Whether a token is kept is read off its line alone, and this says of exactly the first
three kinds of lines that it is: no token that may be renamed has a line that looks commented. -/
theorem classification_follows_tables (custom tokens : List String) (minLength : Nat) :
    (∀ token, ((Reserved.Index.ofCustom custom).categories token).map Reserved.Category.label =
        Reserved.labelsOf custom token ∧ (Reserved.labelsOf custom token).Nodup) ∧
      List.Forall₂ (fun token entry => entry.token = token ∧
          Verdict custom minLength token entry.message ∧
          (entry.isExcluded = true ↔ Reserved.labelsOf custom token ≠ [] ∨
            isPlain token = false ∨ token.length < minLength))
        tokens (classifyTokens (.ofCustom custom) minLength tokens) ∧
      ∀ entry : Entry, entry.isExcluded = true ↔
        ∃ blanks rest, entry.message.toList = blanks ++ '#' :: rest ∧
          blanks.all Text.isBlank = true := by
  refine ⟨?_, ?_, fun entry => isCommented_iff⟩
  · intro token
    exact ⟨Reserved.map_label_categories custom token, Reserved.nodup_labelsOf custom token⟩
  · rw [classifyTokens, List.forall₂_map_right_iff, List.forall₂_same]
    intro token listed
    exact ⟨token_classifyToken, verdict_classifyToken custom minLength token,
      isExcluded_classifyToken custom minLength token⟩

end PropertyMangling
