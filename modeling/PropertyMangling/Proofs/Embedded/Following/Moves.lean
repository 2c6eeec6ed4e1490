import PropertyMangling.Proofs.Embedded.Following.Answers
/-!
# Steps that read characters themselves

Most steps move on from one token to the next. A regular expression is read again from
the slash that was taken for an operator, and the texts of a template from behind the
token in front of them; both are the same in the other text, since no word starts in
them. A name behind a point is the place where words are exchanged: the two readings
stand at different names there, and side by side again behind them.
-/
namespace PropertyMangling.Script

open Embedded

/-- A mark is written as it is, so that the place behind it is known from the place where it
starts. -/
theorem Lexeme.rest_of_symbol {lexeme : Lexeme} {mark : String} (isMark : lexeme.token = .symbol mark) :
    lexeme.rest.position = lexeme.start.position + weigh Char.utf8Size mark.toList := by
  obtain ⟨behind, read, place⟩ := lexeme.wasRead
  rw [isMark] at read
  generalize text : lexeme.start.text = chars at read
  cases Lexer.tokenForm_of_token read with
  | symbol marked =>
    obtain ⟨chars, -, same, rfl, -⟩ := Lexer.symbol_split marked
    cases same
    rw [(Lexeme.written text place).1, String.toList_ofList]
  | number _ isNumber _ => cases isNumber

namespace Parse

variable {exchange : Exchange} {scope : Scope} {state other later : State} {place placeToo : Cursor}
  {front behind : List Char}

/-- Moving on behind some characters in both texts: no word starts in what is passed. -/
theorem beside_of_skip {answer : Unit} (beside : exchange.Beside state other)
    (joins : exchange.Joins place placeToo) (whole : place.text = front ++ behind)
    (loaded : load (place.skipTo behind) scope state = .ok (answer, later))
    (quiet : ∀ word : exchange.Word, place.position ≤ word.position → later.Admits word.position) :
    ∃ textToo otherLater, placeToo.text = front ++ textToo ∧
      (∀ run, ¬exchange.StartsAt (place.skipTo behind).position run) ∧
      exchange.Joins (place.skipTo behind) (placeToo.skipTo textToo) ∧
      load (placeToo.skipTo textToo) scope other = .ok ((), otherLater) ∧
      exchange.Beside later otherLater := by
  have place_eq := Cursor.skipTo_eq whole
  have beyond (word : exchange.Word) (later : place.position ≤ word.position) :
      place.position + weigh Char.utf8Size front < word.position := by
    obtain ⟨trivia, lexeme, noted, found, -, rfl⟩ := of_load loaded
    have start := Cursor.le_of_next? found
    have further := (quiet word later).current.lt
    rw [place_eq] at start
    exact Nat.lt_of_le_of_lt start further
  obtain ⟨textToo, wholeToo, further⟩ := joins.passed whole fun position run starts later =>
    Nat.le_of_lt (beyond ⟨position, run, starts⟩ later)
  rw [← place_eq, ← Cursor.skipTo_eq wholeToo] at further
  obtain ⟨otherLater, loadedToo, besideLater⟩ := Exchange.beside_of_load beside.toNotedAlike further
    loaded fun word behind => quiet word (Nat.le_trans (place.leads_skipTo _).position_le behind)
  refine ⟨textToo, otherLater, wholeToo, fun run starts => ?_, further, loadedToo, besideLater⟩
  have inside := beyond ⟨_, run, starts⟩ (place.leads_skipTo _).position_le
  dsimp only at inside
  rw [place_eq] at inside
  exact Nat.lt_irrefl _ inside

/-! ## Regular expressions -/

/-- A regular expression that is read from the current token on is answered as it is written, and
the reading goes on behind it. -/
theorem regexLiteral_eq {source : String}
    (read : Lexer.regex state.lexeme.start.text = some (source, behind)) :
    regexLiteral scope state =
      (load (state.lexeme.start.skipTo behind) >>= fun _ => pure (.regex source)) scope state := by
  change (demand (Lexer.regex state.lexeme.start.text) >>= fun found =>
    load (state.lexeme.start.skipTo found.2) >>= fun _ => pure (Node.regex found.1)) scope state = _
  rw [read]
  rfl

/-- A regular expression that was read is what the lexer finds from the current token on. -/
theorem of_regexLiteral {node : Node} (read : regexLiteral scope state = .ok (node, later)) :
    ∃ source behind, Lexer.regex state.lexeme.start.text = some (source, behind) ∧
      node = .regex source ∧ load (state.lexeme.start.skipTo behind) scope state = .ok ((), later) := by
  obtain ⟨_, _, got, found⟩ := exists_of_bind read
  obtain ⟨rfl, rfl⟩ := Prod.mk.inj (Except.ok.inj got)
  obtain ⟨⟨source, behind⟩, _, ran, loaded⟩ := exists_of_bind found
  obtain ⟨known, rfl⟩ := of_demand ran
  obtain ⟨_, moved, passed, last⟩ := exists_of_bind loaded
  cases last
  exact ⟨source, behind, known, rfl, passed⟩

/-- The states whose token is read again as a regular expression. -/
abbrev slashed : State → Prop := fun state =>
  state.token = .symbol "/" ∨ state.token = .symbol "/="

/-- A regular expression is no shorter than the operator that its slash was taken for. -/
theorem rest_le_regex {source : String} (slash : slashed state)
    (read : Lexer.regex state.lexeme.start.text = some (source, behind)) :
    state.lexeme.rest.position ≤ (state.lexeme.start.skipTo behind).position := by
  obtain ⟨front, whole, filled, -⟩ := Lexer.regex_split read
  obtain ⟨c, others, rfl⟩ := List.exists_cons_of_ne_nil filled
  have positive := c.utf8Size_pos
  have narrow : state.lexeme.rest.position ≤ state.lexeme.start.position + 2 := by
    rcases slash with mark | mark
    all_goals
      rw [Lexeme.rest_of_symbol mark]
      exact Nat.add_le_add_left (by decide) _
  rw [Cursor.skipTo_eq whole]
  simp only [weigh_cons]
  have one : '/'.utf8Size = 1 := rfl
  omega

/-- A regular expression is read alike in both texts. It is at least as wide as the operator that
its slash was taken for, and no word starts inside it. -/
theorem regexLiteral_follows :
    Follows exchange slashed nothing (.node exchange) regexLiteral regexLiteral := by
  refine ⟨?_, ?_, ?_⟩
  · intro scope state node later slash read
    obtain ⟨source, behind, found, rfl, loaded⟩ := of_regexLiteral read
    refine Exchange.onward_of_load (state.lexeme.start.leads_skipTo _) (rest_le_regex slash found)
      (fun looks => ?_) loaded
    rcases slash with mark | mark <;> rw [mark] at looks <;> cases looks
  · intro scope state node later word _ _ read _ inside
    obtain ⟨source, behind, -, rfl, -⟩ := of_regexLiteral read
    cases inside
  · intro scope state other node later slash _ beside read _ _ found
    obtain ⟨source, behind, known, rfl, loaded⟩ := of_regexLiteral read
    obtain ⟨front, whole, -, reads⟩ := Lexer.regex_split known
    have quiet (word : exchange.Word) (behind : state.lexeme.start.position ≤ word.position) :
        later.Admits word.position := by
      by_contra outside
      cases found word (beside.quiet word behind) outside
    obtain ⟨textToo, otherLater, wholeToo, none, joins, loadedToo, besideLater⟩ :=
      beside_of_skip beside beside.twins.start whole loaded quiet
    have readToo := reads textToo (by
      have near := joins.head? none
      rwa [Cursor.skipTo_eq whole, Cursor.skipTo_eq wholeToo] at near)
    refine ⟨.regex source, otherLater, ?_, .of_outline rfl rfl, besideLater⟩
    rw [regexLiteral_eq (wholeToo ▸ readToo)]
    change (load _ scope other >>= fun _ => _) = _
    rw [loadedToo]
    rfl

/-! ## Templates -/

/-- The text of a template up to a value or up to its end, as the steps through a template read it. -/
def templateText (needsMeaning : Bool) : Parse Lexer.TemplateText := do
  let rest := (← get).lexeme.rest
  let (text, behind) ← demand (Lexer.templateText rest.text)
  require (text.valid || !needsMeaning)
  load (rest.skipTo behind)
  return text

/-- The text of a template that has a meaning, or needs none, is answered as it is read behind the
current token. -/
theorem templateText_eq {text : Lexer.TemplateText} {needsMeaning : Bool}
    (read : Lexer.templateText state.lexeme.rest.text = some (text, behind))
    (valid : (text.valid || !needsMeaning) = true) :
    templateText needsMeaning scope state =
      (load (state.lexeme.rest.skipTo behind) >>= fun _ => pure text) scope state := by
  change (demand (Lexer.templateText state.lexeme.rest.text) >>= fun found =>
    require (found.1.valid || !needsMeaning) >>= fun _ =>
      load (state.lexeme.rest.skipTo found.2) >>= fun _ => pure found.1) scope state = _
  rw [read]
  change (require (text.valid || !needsMeaning) >>= fun _ => _) scope state = _
  rw [valid]
  rfl

/-- A text of a template that was read is what the lexer finds behind the current token, with a
meaning where one is needed. -/
theorem of_templateText {text : Lexer.TemplateText} {needsMeaning : Bool}
    (read : templateText needsMeaning scope state = .ok (text, later)) :
    ∃ behind, Lexer.templateText state.lexeme.rest.text = some (text, behind) ∧
      (text.valid || !needsMeaning) = true ∧
      load (state.lexeme.rest.skipTo behind) scope state = .ok ((), later) := by
  obtain ⟨_, _, got, found⟩ := exists_of_bind read
  obtain ⟨rfl, rfl⟩ := Prod.mk.inj (Except.ok.inj got)
  obtain ⟨⟨text, behind⟩, _, ran, required⟩ := exists_of_bind found
  obtain ⟨known, rfl⟩ := of_demand ran
  obtain ⟨_, _, held, loaded⟩ := exists_of_bind required
  obtain ⟨valid, rfl⟩ := of_require held
  obtain ⟨_, moved, passed, last⟩ := exists_of_bind loaded
  cases last
  exact ⟨behind, known, valid, passed⟩

/-- A text of a template is read alike in both texts: no word that is exchanged starts in it, as
it would have to be passed without being a spot. -/
theorem templateText_follows (needsMeaning : Bool) :
    Follows exchange (fun state => state.token.looksAhead = false) nothing .plain
      (templateText needsMeaning) (templateText needsMeaning) := by
  refine ⟨?_, ?_, ?_⟩
  · intro scope state text later unlooked read
    obtain ⟨behind, -, -, loaded⟩ := of_templateText read
    have ahead := state.lexeme.rest.leads_skipTo behind
    refine Exchange.onward_of_load (state.lexeme.leads_rest.trans ahead) ahead.position_le
      (fun looks => ?_) loaded
    rw [unlooked] at looks
    cases looks
  · rintro scope state text later word _ _ _ _ ⟨⟩
  · intro scope state other text later unlooked _ beside read _ _ found
    obtain ⟨behind, known, valid, loaded⟩ := of_templateText read
    obtain ⟨front, bound, last, -, whole, reads⟩ := Lexer.templateText_split known
    have form (others : List Char) :
        front ++ bound :: (last ++ others) = front ++ bound :: last ++ others := by simp
    rw [form] at whole
    have quiet (word : exchange.Word) (behind : state.lexeme.rest.position ≤ word.position) :
        later.Admits word.position := by
      by_contra outside
      have start := state.lexeme.le_rest
      cases found word (beside.quiet word (Nat.le_trans start behind)) outside
    obtain ⟨textToo, otherLater, wholeToo, -, joins, loadedToo, besideLater⟩ :=
      beside_of_skip beside beside.twins.rest whole loaded quiet
    have readToo := reads textToo
    rw [form, ← wholeToo] at readToo
    refine ⟨text, otherLater, ?_, rfl, besideLater⟩
    rw [templateText_eq readToo valid]
    change (load _ scope other >>= fun _ => _) = _
    rw [loadedToo]
    rfl

/-! ## Names behind a point -/

/-- Whether a token is a name. -/
def isNameToken : Token → Bool
  | .word .. => true
  | _ => false

/-- A member whose name is the current token. -/
def memberOf (head : Head) (optional : Bool) : Parse Node := do
  let name ← anyName
  return .member (← spanFrom head.start) head.node name optional

/-- The member that the current token names, where the reading has come to behind it. -/
def memberAt (head : Head) (optional : Bool) (state later : State) (text : String) : Node :=
  .member ⟨head.start, later.finished⟩ head.node
    ⟨⟨state.opened, state.lexeme.rest.position⟩, text⟩ optional

variable {head headToo : Head} {optional : Bool}

/-- At a name the step answers with the member that it names and moves on behind it. -/
theorem memberOf_eq {text : String} {spelling : Spelling} (isName : state.token = .word text spelling)
    (passed : advance scope state = .ok ((), later)) :
    memberOf head optional scope state = .ok (memberAt head optional state later text, later) := by
  have named : anyName scope state =
      .ok (⟨⟨state.opened, state.lexeme.rest.position⟩, text⟩, later) := by
    change (match state.token with
      | .word text _ => (do
        let span ← tokenSpan
        advance
        return ⟨span, text⟩ : Parse Name)
      | _ => fail) scope state = _
    rw [isName]
    change (advance scope state >>= fun _ => _) = _
    rw [passed]
    rfl
  change (anyName scope state >>= fun _ => _) = _
  rw [named]
  rfl

/-- A member that was read has the current token for its name, and the reading has moved on. -/
theorem of_memberOf {node : Node} (read : memberOf head optional scope state = .ok (node, later)) :
    ∃ text spelling, state.token = .word text spelling ∧ advance scope state = .ok ((), later) ∧
      node = memberAt head optional state later text := by
  obtain ⟨name, _, named, last⟩ := exists_of_bind read
  obtain ⟨token, _, ran, others⟩ := exists_of_bind named
  obtain ⟨rfl, rfl⟩ := Prod.mk.inj (Except.ok.inj ran)
  cases current : state.token with
  | word text spelling =>
    rw [current] at others
    obtain ⟨span, _, ran, others⟩ := exists_of_bind others
    cases ran
    obtain ⟨_, moved, passed, same⟩ := exists_of_bind others
    cases same
    cases last
    exact ⟨text, spelling, rfl, passed, rfl⟩
  | _ =>
    rw [current] at others
    cases others

/-- The next token counts as opened between the place behind this one and its own start. -/
theorem opens_of_advance {answer : Unit} (read : advance scope state = .ok (answer, later)) :
    state.lexeme.rest.Opens later.opened later.lexeme.start := by
  obtain ⟨trivia, lexeme, noted, found, -, rfl⟩ := of_load read
  exact (Cursor.passes_trivia (Cursor.next?_eq_some_iff.mp found).1).opens

/-- A name that is as wide as the characters it starts with consists of them, and nothing goes on with
it. -/
theorem rest_of_name {text : String} {spelling : Spelling} {run behind : List Char}
    {lexeme : Lexeme} (isName : lexeme.token = .word text spelling)
    (whole : lexeme.start.text = run ++ behind)
    (wide : lexeme.rest.position = lexeme.start.position + weigh Char.utf8Size run) :
    lexeme.rest.text = behind ∧ Lexer.endsName behind = true := by
  obtain ⟨front, split, -, position, -⟩ := lexeme.split
  have same : lexeme.rest.text = behind :=
    isWeight_utf8Size.eq_behind (split.symm.trans whole) (by omega)
  obtain ⟨rest, read, place⟩ := lexeme.wasRead
  rw [isName] at read
  obtain ⟨c, others, text, ends, -⟩ := Lexer.name_split (Lexer.name_of_token read)
  rw [(Lexeme.written text place).1] at same
  obtain rfl : rest = behind := same
  exact ⟨by rw [(Lexeme.written text place).1], ends⟩

/-- Judging a word notes nothing of the program, however it is spelled; only numbers and strings
of an old form are noted. -/
theorem judge_word {text : String} {spelling : Spelling} {lexeme : Lexeme} {noted : Bool}
    (isWord : lexeme.token = .word text spelling) (judged : Noted scope lexeme noted) :
    noted = false := by
  have read := judged {}
  rw [isWord] at read
  have same : ({ scriptOnly := false || noted } : State) = {} := by
    cases spelling with
    | escaped =>
      obtain ⟨_, _, got, required⟩ := exists_of_bind read
      cases got
      exact (of_require required).2.symm
    | _ => exact (Prod.mk.inj (Except.ok.inj read)).2.symm
  simpa using congrArg State.scriptOnly same

section Pointed

variable {between : State} {text : String} {spelling : Spelling}

/-- The other reading passes a point and a name as well. -/
def PassesName (exchange : Exchange) (scope : Scope) (other later : State) : Prop :=
  ∃ otherBetween textToo spellingToo otherLater, advance scope other = .ok ((), otherBetween) ∧
    otherBetween.token = .word textToo spellingToo ∧
    advance scope otherBetween = .ok ((), otherLater) ∧ exchange.Beside later otherLater

/-- A name that is exchanged is found in the other text as its new name: the gap in front of it is the
same there, since no word starts in it, and the texts belong together again behind the two names. -/
theorem exists_exchanged_name {run : List Char} {trivia : Trivia} {lexeme : Lexeme}
    (joined : exchange.Joins place placeToo) (found : place.next? = some (trivia, lexeme))
    (isName : lexeme.token = .word text spelling)
    (starts : exchange.StartsAt lexeme.start.position run)
    (wide : lexeme.rest.position = lexeme.start.position + weigh Char.utf8Size run)
    (first : ∀ position run, exchange.StartsAt position run → place.position ≤ position →
      lexeme.start.position ≤ position) :
    ∃ triviaToo twin name, placeToo.next? = some (triviaToo, twin) ∧
      twin.token = .word name .plain ∧ triviaToo.Agrees trivia ∧
      exchange.Joins lexeme.rest twin.rest := by
  obtain ⟨walked, -⟩ := Cursor.next?_eq_some_iff.mp found
  obtain ⟨gap, whole, position, passes⟩ := Cursor.trivia_split walked
  obtain ⟨textToo, wholeToo, joins⟩ := joined.passed whole fun position' run' starts' later => by
    have behind := first position' run' starts' later
    omega
  obtain ⟨triviaToo, agrees, walkedToo⟩ := passes placeToo.position textToo joins.akin
  rw [← position] at joins
  obtain ⟨behindName, behindToo, name, -, nameToo, heads, last⟩ := joins.word starts
  obtain ⟨rest, ends⟩ := rest_of_name isName name wide
  have readToo := Lexer.token_append (exchange.plain run starts.mem_parts)
    (Lexer.endsName_of_head heads ends)
  rw [← nameToo] at readToo
  obtain ⟨twin, foundToo, start, tokenToo, restToo, -⟩ := Lexeme.exists_at nameToo readToo
  refine ⟨triviaToo, twin, _, ?_, tokenToo, agrees.agrees, ?_⟩
  · refine Cursor.next?_eq_some_iff.mpr ⟨?_, start ▸ foundToo⟩
    rw [start, ← walkedToo, ← wholeToo]
  · have place : lexeme.rest = ⟨lexeme.rest.text, lexeme.rest.position⟩ := rfl
    rw [place, rest, wide, restToo]
    exact last

/-- A name that is exchanged is passed in both texts, though the readings do not stand side by side in
front of it. -/
theorem passesName_exchanged {run : List Char} (beside : exchange.Beside state other)
    (read : advance scope state = .ok ((), between)) (isName : between.token = .word text spelling)
    (readNext : advance scope between = .ok ((), later))
    (starts : exchange.StartsAt between.lexeme.start.position run)
    (wide : between.lexeme.rest.position =
      between.lexeme.start.position + weigh Char.utf8Size run)
    (quiet : ∀ word : exchange.Word, state.lexeme.rest.position ≤ word.position →
      word.position = between.lexeme.start.position ∨ later.Admits word.position) :
    PassesName exchange scope other later := by
  have further := le_of_advance readNext
  have width := between.lexeme.le_rest
  obtain ⟨trivia, lexeme, noted, found, judged, same⟩ := of_load read
  obtain rfl : lexeme = between.lexeme := by rw [same, arrived]
  have behind := Cursor.le_of_next? found
  have first (position run) (starts : exchange.StartsAt position run)
      (later : state.lexeme.rest.position ≤ position) :
      between.lexeme.start.position ≤ position := by
    rcases quiet ⟨position, run, starts⟩ later with here | admits
    · exact Nat.le_of_eq here.symm
    · have beyond := admits.current.lt
      dsimp only at beyond
      omega
  obtain ⟨triviaToo, twin, name, next, tokenToo, agrees, joinsName⟩ :=
    exists_exchanged_name beside.twins.rest found isName starts wide first
  have judgedToo : Noted scope twin false := fun state => by
    rw [tokenToo, Bool.or_false]
    rfl
  obtain ⟨otherBetween, there⟩ : ∃ state, advance scope other = .ok ((), state) ∧
      state.lexeme = twin ∧ Exchange.NotedAlike between state := by
    refine ⟨_, load_eq next judgedToo, rfl, ?_⟩
    rw [same]
    refine ⟨?_, beside.isModule, beside.declared⟩
    simp only [arrived, judge_word isName judged, beside.scriptOnly, agrees.document]
  obtain ⟨advanced, rfl, notedAlike⟩ := there
  obtain ⟨otherLater, readToo, besideLater⟩ := Exchange.beside_of_load notedAlike joinsName readNext
    fun word later => (quiet word (by omega)).resolve_left fun here => by
      have filled : between.lexeme.token ≠ .finish := by
        rw [show between.lexeme.token = .word text spelling from isName]
        exact Token.noConfusion
      have wide := Lexeme.lt_rest filled
      omega
  exact ⟨otherBetween, _, _, otherLater, advanced, tokenToo, readToo, besideLater⟩

/-- A name that is not exchanged is passed in both texts. -/
theorem passesName_same (beside : exchange.Beside state other)
    (read : advance scope state = .ok ((), between)) (isName : between.token = .word text spelling)
    (readNext : advance scope between = .ok ((), later))
    (quiet : ∀ word : exchange.Word, state.lexeme.rest.position ≤ word.position →
      later.Admits word.position) :
    PassesName exchange scope other later := by
  have onward : exchange.Onward between later := onward_of_advance readNext
  obtain ⟨otherBetween, advanced, besideBetween⟩ := beside_of_advance beside read
    fun word behind _ => onward.admits _ (quiet word behind)
  have behind := le_of_advance read
  have width := between.lexeme.le_rest
  obtain ⟨otherLater, readToo, besideLater⟩ := beside_of_advance besideBetween readNext
    fun word later _ => quiet word (by omega)
  refine ⟨otherBetween, text, spelling, otherLater, advanced, ?_, readToo, besideLater⟩
  cases besideBetween.twins.written with
  | same token _ => exact token.trans isName
  | string _ isString => cases isString.symm.trans isName

variable {rest twin : Parse Node}

/-- The states in front of a name. -/
def namesAhead (state : State) : Prop :=
  ∃ trivia lexeme, state.ahead? = some (trivia, lexeme) ∧ isNameToken lexeme.token = true

/-- The token that is moved on to is the one that a look ahead would have seen. -/
theorem ahead_of_advance {answer : Unit} (read : advance scope state = .ok (answer, later)) :
    ∃ trivia, state.ahead? = some (trivia, later.lexeme) := by
  obtain ⟨trivia, lexeme, noted, found, -, rfl⟩ := of_load read
  exact ⟨trivia, found⟩

/-- A token that counts as a name is a word with its spelling. -/
theorem exists_word_of_isNameToken {token : Token} (isName : isNameToken token = true) :
    ∃ text spelling, token = .word text spelling := by
  cases token with
  | word text spelling => exact ⟨text, spelling, rfl⟩
  | _ => cases isName

/-- What is read behind a point with a name behind it. -/
theorem of_pointed (ahead : namesAhead state)
    (named : ∀ scope state, isNameToken state.token = true →
      rest scope state = memberOf head optional scope state) {node : Node}
    (read : (advance >>= fun _ => rest) scope state = .ok (node, later)) :
    ∃ between text spelling, advance scope state = .ok ((), between) ∧
      between.token = .word text spelling ∧ advance scope between = .ok ((), later) ∧
      node = memberAt head optional between later text := by
  obtain ⟨_, between, passed, last⟩ := exists_of_bind read
  obtain ⟨trivia, lexeme, found, isName⟩ := ahead
  obtain ⟨_, foundToo⟩ := ahead_of_advance passed
  obtain ⟨-, rfl⟩ := Prod.mk.inj (Option.some.inj (found.symm.trans foundToo))
  rw [named scope between isName] at last
  obtain ⟨text, spelling, token, passedToo, rfl⟩ := of_memberOf last
  exact ⟨between, text, spelling, passed, token, passedToo, rfl⟩

/-- A token that counts as opened where a word starts does so where it starts itself: no comment starts
like a word. -/
theorem opened_eq_of_word {run : List Char} (stands : exchange.Stands state)
    (starts : exchange.StartsAt state.opened run) : state.opened = state.lexeme.start.position := by
  obtain ⟨base, holds, place, toPlace, -, same, rfl | mark | mark⟩ := stands
  · exact same.symm
  all_goals
    rw [← same] at starts
    obtain ⟨c, first, part⟩ := (holds.leads toPlace).head?_of_word starts
    cases mark.symm.trans first
    cases part

/-- A name behind a point is passed in both texts, exchanged or not, when the words from the point on
that the reading meets no more are at the spot of the name. One that starts where the name does is all
of it; otherwise the readings stand side by side in front of the name, too. -/
theorem passesName (beside : exchange.Beside state other)
    (read : advance scope state = .ok ((), between)) (isName : between.token = .word text spelling)
    (readNext : advance scope between = .ok ((), later)) (stands : exchange.Stands between)
    (spot : ∀ word : exchange.Word, state.lexeme.rest.position ≤ word.position →
      ¬later.Admits word.position → word.position = between.opened ∧
        word.position + weigh Char.utf8Size word.run = between.lexeme.rest.position) :
    PassesName exchange scope other later := by
  have here (word : exchange.Word) (behind : state.lexeme.rest.position ≤ word.position)
      (outside : ¬later.Admits word.position) :
      word.position = between.lexeme.start.position := by
    obtain ⟨same, -⟩ := spot word behind outside
    rw [same, opened_eq_of_word stands (same ▸ word.starts)]
  by_cases exchanged : ∃ run, exchange.StartsAt between.lexeme.start.position run
  · obtain ⟨run, starts⟩ := exchanged
    have behind := le_of_advance read
    have last := le_of_advance readNext
    have width := between.lexeme.le_rest
    obtain ⟨-, wide⟩ := spot ⟨_, run, starts⟩ behind fun admits => by
      have beyond := admits.current.lt
      dsimp only at beyond
      omega
    refine passesName_exchanged beside read isName readNext starts wide.symm ?_
    exact fun word behind => or_iff_not_imp_right.mpr (here word behind)
  · refine passesName_same beside read isName readNext fun word behind => ?_
    by_contra outside
    exact exchanged ⟨word.run, here word behind outside ▸ word.starts⟩

/-- A name behind a point is a spot, and may be exchanged. The point is passed in both texts, then the
name is, and what is answered with differs at most in the name, which an outline leaves out. -/
theorem follows_name (same : head.node.outline = headToo.node.outline)
    (named : ∀ scope state, isNameToken state.token = true →
      rest scope state = memberOf head optional scope state)
    (namedToo : ∀ scope state, isNameToken state.token = true →
      twin scope state = memberOf headToo optional scope state) :
    Follows exchange (fun state => state.token = .symbol "." ∧ namesAhead state)
      (fun keys => head.node.spots keys) (.node exchange) (advance >>= fun _ => rest)
      (advance >>= fun _ => twin) := by
  refine ⟨?_, ?_, ?_⟩
  · rintro scope state node later ⟨-, ahead⟩ read
    obtain ⟨between, text, spelling, passed, -, passedToo, -⟩ := of_pointed ahead named read
    exact (onward_of_advance passed).trans (onward_of_advance passedToo)
  · rintro scope state node later word ⟨point, ahead⟩ - read given inside
    obtain ⟨between, text, spelling, passed, -, passedToo, rfl⟩ := of_pointed ahead named read
    have onward : exchange.Onward state later :=
      (onward_of_advance passed).trans (onward_of_advance passedToo)
    rcases List.mem_append.mp inside with old | here
    · exact ⟨.inl old, fun admits => given old (onward.admits _ admits)⟩
    · have start : word.position = between.opened := congrArg Span.lo (List.mem_singleton.mp here)
      have opens := opens_of_advance passed
      have base := opens.base_le
      have le := opens.le
      have behind := le_of_advance passedToo
      have width := between.lexeme.le_rest
      refine ⟨.inr ?_, fun admits => ?_⟩
      · rw [State.Admits, State.last_of_looks (by rw [point]; rfl)]
        rcases Nat.lt_or_eq_of_le base with later | here
        · exact .inl (by omega)
        · exact .inr (.inl ⟨point, by omega⟩)
      · have beyond := admits.current.lt
        omega
  · rintro scope state other node later ⟨point, ahead⟩ stands beside read - given found
    obtain ⟨between, text, spelling, passed, isName, passedToo, rfl⟩ := of_pointed ahead named read
    have start := state.lexeme.le_rest
    have spot (word : exchange.Word) (behind : state.lexeme.rest.position ≤ word.position)
        (outside : ¬later.Admits word.position) :
        word.position = between.opened ∧
          word.position + weigh Char.utf8Size word.run = between.lexeme.rest.position := by
      have admits := beside.quiet word (Nat.le_trans start behind)
      rcases List.mem_append.mp (found word admits outside) with old | here
      · exact absurd admits (given word old)
      · have span := List.mem_singleton.mp here
        exact ⟨congrArg Span.lo span, congrArg Span.hi span⟩
    obtain ⟨otherBetween, textToo, spellingToo, otherLater, advanced, token, readToo, besideLater⟩ :=
      passesName beside passed isName passedToo ((onward_of_advance passed).stands stands) spot
    refine ⟨memberAt headToo optional otherBetween otherLater textToo, otherLater, ?_,
      .of_outline rfl (by rw [memberAt, memberAt, Node.outline, Node.outline, same]), besideLater⟩
    change (advance scope other >>= fun _ => _) = _
    rw [advanced]
    change twin scope otherBetween = _
    rw [namedToo scope otherBetween (by rw [token]; rfl), memberOf_eq token readToo]

/-- What stands behind a point is a name, or something that follows itself. -/
theorem follows_pointed (same : head.node.outline = headToo.node.outline)
    (named : ∀ scope state, isNameToken state.token = true →
      rest scope state = memberOf head optional scope state)
    (namedToo : ∀ scope state, isNameToken state.token = true →
      twin scope state = memberOf headToo optional scope state)
    (others : Follows exchange (fun state => isNameToken state.token = false)
      (fun keys => head.node.spots keys) (.node exchange) rest twin) :
    Follows exchange (fun state => state.token = .symbol ".") (fun keys => head.node.spots keys)
      (.node exchange) (advance >>= fun _ => rest) (advance >>= fun _ => twin) := by
  refine Follows.either (follows_name same named namedToo) ?_
  refine (follows_plain advance).knowing (fun _ state => isNameToken state.token = false) ?_
    fun _ => others
  rintro scope state _ later ⟨-, noName⟩ passed
  by_contra isName
  obtain ⟨trivia, found⟩ := ahead_of_advance passed
  exact noName ⟨trivia, later.lexeme, found, Bool.not_eq_false _ ▸ isName⟩

end Pointed

end Parse

end PropertyMangling.Script
