import Mathlib.Data.List.Induction
import PropertyMangling.Proofs.Script.Origin.Cursors
import PropertyMangling.Proofs.Script.Origin.Mentions
/-!
# Where the words of a program come from: small steps

A step that has come to some place of a text goes on to a later one, and the
names and strings that it answers with stand in between. So what a whole program
says is listed in the order of the text, and each of it is written where its span
says. A step may answer with what the steps before it have read: it is given their
mentions, and makes its own out of them. Only the list in front of some arrows is
read once and answered with twice.
-/
namespace PropertyMangling

open Script

/-- What a token says as a name or a string. -/
def Script.Token.wording? : Token → Option Wording
  | .word text _ => some (.word text)
  | .string value _ => some (.quoted value)
  | _ => none

/-- A token of a text says something, from where it counts as opened up to its end. -/
def Saying.StandsIn (base : Cursor) (saying : Saying) : Prop :=
  ∃ start token behind, base.Opens saying.span.lo start ∧
    Lexer.token start.text = some (token, behind) ∧ token.wording? = some saying.wording ∧
    saying.span.hi = (start.skipTo behind).position

/-- What a text says, in its order; some of it may be listed again. -/
inductive InOrder (base : Cursor) : List Saying → Prop
  | nil : InOrder base []
  | behind {said : List Saying} {saying : Saying} (ordered : InOrder base said)
      (stands : saying.StandsIn base) (passed : ∀ earlier ∈ said, earlier.span.hi ≤ saying.span.lo) :
      InOrder base (said ++ [saying])
  | again {said : List Saying} {saying : Saying} (ordered : InOrder base said)
      (repeated : saying ∈ said) : InOrder base (said ++ [saying])

namespace InOrder

variable {base : Cursor} {said more : List Saying}

/-- The first things said are in order by themselves. The induction takes the later ones away from
the end, where the order was built. -/
theorem left (ordered : InOrder base (said ++ more)) : InOrder base said := by
  induction more using List.reverseRecOn with
  | nil => rwa [List.append_nil] at ordered
  | append_singleton more saying inductionHypothesis =>
    rw [← List.append_assoc] at ordered
    generalize whole : said ++ more ++ [saying] = all at ordered
    cases ordered with
    | nil => simp at whole
    | behind ordered _ _ =>
      obtain ⟨rfl, -⟩ := List.append_inj' whole rfl
      exact inductionHypothesis ordered
    | again ordered _ =>
      obtain ⟨rfl, -⟩ := List.append_inj' whole rfl
      exact inductionHypothesis ordered

/-- What has been said can be listed again, one by one, and the list stays in order; this is what
the parameters of an arrow ask for. -/
theorem repeats (ordered : InOrder base said) (repeated : ∀ saying ∈ more, saying ∈ said) :
    InOrder base (said ++ more) := by
  induction more using List.reverseRecOn with
  | nil => rwa [List.append_nil]
  | append_singleton more saying inductionHypothesis =>
    obtain ⟨others, last⟩ := List.forall_mem_append.mp repeated
    rw [← List.append_assoc]
    refine .again (inductionHypothesis others) (List.mem_append_left _ ?_)
    exact last saying List.mem_cons_self

/-- Everything that is listed stands in the text, also what is listed again, since its first
listing does. -/
theorem standsIn (ordered : InOrder base said) : ∀ saying ∈ said, saying.StandsIn base := by
  induction ordered with
  | nil => exact List.forall_mem_nil _
  | behind _ stands _ inductionHypothesis =>
    exact List.forall_mem_append.mpr ⟨inductionHypothesis, List.forall_mem_singleton.mpr stands⟩
  | again _ repeated inductionHypothesis =>
    refine List.forall_mem_append.mpr ⟨inductionHypothesis, List.forall_mem_singleton.mpr ?_⟩
    exact inductionHypothesis _ repeated

/-- Something is not the last that is listed when another is listed and does not come up to it. -/
theorem exists_split_of_notMem {front rest : List Saying} {first later last : Saying}
    (split : said ++ [last] = front ++ first :: rest) (listed : later ∈ said ++ [last])
    (unsaid : later ∉ front ++ [first]) : ∃ others, said = front ++ first :: others := by
  rcases List.eq_nil_or_concat rest with rfl | ⟨others, other, rfl⟩
  · rw [split] at listed
    exact absurd listed unsaid
  · have parts : said ++ [last] = (front ++ first :: others) ++ [other] := by simpa using split
    exact ⟨others, (List.append_inj' parts rfl).1⟩

/-- What is listed behind something, and not up to it, stands behind it. -/
theorem le_of_notMem (ordered : InOrder base said) {front rest : List Saying} {first later : Saying}
    (split : said = front ++ first :: rest) (listed : later ∈ said)
    (unsaid : later ∉ front ++ [first]) : first.span.hi ≤ later.span.lo := by
  induction ordered generalizing front rest later with
  | nil => simp at split
  | @behind said saying _ _ passed inductionHypothesis =>
    obtain ⟨others, rfl⟩ := exists_split_of_notMem split listed unsaid
    rcases List.mem_append.mp listed with earlier | now
    · exact inductionHypothesis rfl earlier unsaid
    · obtain rfl := List.mem_singleton.mp now
      exact passed first (by simp)
  | @again said saying _ repeated inductionHypothesis =>
    obtain ⟨others, rfl⟩ := exists_split_of_notMem split listed unsaid
    rcases List.mem_append.mp listed with earlier | now
    · exact inductionHypothesis rfl earlier unsaid
    · obtain rfl := List.mem_singleton.mp now
      exact inductionHypothesis rfl repeated unsaid

end InOrder

namespace Script

/-- The reading stands at a place of a text, behind all that it has found there. -/
structure State.Come (base : Cursor) (said : List Saying) (state : State) : Prop where
  opens : base.Opens state.opened state.lexeme.start
  ordered : InOrder base said
  behind : ∀ saying ∈ said, saying.span.hi ≤ state.opened

/-- All that has been said ends in front of the places behind the current one. -/
theorem State.Come.le_of_leads {base place : Cursor} {said : List Saying} {state : State}
    (come : state.Come base said) (leads : state.lexeme.start.Leads place) :
    ∀ saying ∈ said, saying.span.hi ≤ place.position := by
  intro saying listed
  have passed := come.behind saying listed
  have opened := come.opens.le
  have further := leads.position_le
  omega

/-- The place behind a token lies behind the place where it starts. -/
theorem Lexeme.leads_rest (lexeme : Lexeme) : lexeme.start.Leads lexeme.rest := by
  obtain ⟨behind, -, place⟩ := lexeme.wasRead
  rw [place]
  exact Cursor.leads_skipTo lexeme.start behind

namespace Parse

variable {α β : Type} {base : Cursor} {given more : List Mention} {made : α → List Mention}
  {wanted : β → List Mention} {scope : Scope} {state later : State}

/-! ## Runs -/

/-- A run of two steps is a run of the first one and a run of the other. -/
theorem exists_of_bind {step : Parse α} {next : α → Parse β} {last : β}
    (read : (step >>= next) scope state = .ok (last, later)) :
    ∃ answer between, step scope state = .ok (answer, between) ∧
      next answer scope between = .ok (last, later) := by
  change (step scope state >>= fun answer => next answer.1 scope answer.2) = _ at read
  cases made : step scope state with
  | error error =>
    rw [made] at read
    cases read
  | ok answer =>
    rw [made] at read
    exact ⟨answer.1, answer.2, rfl, read⟩

/-- A demand that succeeds had the value it answers with, and has not moved. -/
theorem of_demand {answer? : Option α} {answer : α}
    (read : demand answer? scope state = .ok (answer, later)) :
    answer? = some answer ∧ state = later := by
  cases answer? with
  | none => cases read
  | some found =>
    cases read
    exact ⟨rfl, rfl⟩

/-- A requirement that succeeds holds, and the reading has not moved. -/
theorem of_require {condition : Bool} {answer : Unit}
    (read : require condition scope state = .ok (answer, later)) :
    condition = true ∧ state = later := by
  cases condition with
  | false => cases read
  | true =>
    cases read
    exact ⟨rfl, rfl⟩

/-! ## Rules -/

/-- From what is given, a step makes what it answers with, and finds the rest in the text. -/
def Adds (base : Cursor) (given : List Mention) (made : α → List Mention) (step : Parse α) : Prop :=
  ∀ before scope state answer later, state.Come base (before ++ sayings given) →
    step scope state = .ok (answer, later) → later.Come base (before ++ sayings (made answer))

/-- A step goes on in the text, and what it answers with does not matter. -/
class Stays (base : Cursor) (step : Parse α) : Prop where
  adds : Adds base [] (fun _ => []) step

namespace Adds

/-- What a step makes is given to the steps behind it. -/
theorem andThen {step : Parse α} {next : α → Parse β} (first : Adds base given made step)
    (behind : ∀ answer, Adds base (made answer) wanted (next answer)) :
    Adds base given wanted (step >>= next) := by
  intro before scope state last later come read
  obtain ⟨answer, between, ran, read⟩ := exists_of_bind read
  exact behind answer before scope between last later (first before scope state _ _ come ran) read

/-- What comes in front of what is given stays in front of what is made. -/
theorem frame {step : Parse α} (adds : Adds base given made step) (front : List Mention) :
    Adds base (front ++ given) (fun answer => front ++ made answer) step := by
  intro before scope state answer later come read
  rw [sayings_append, ← List.append_assoc] at come ⊢
  exact adds (before ++ sayings front) scope state answer later come read

/-- Only what is said matters, that is, the words and spans of mentions and not the parts that
they play. -/
theorem congr {step : Parse α} {given' : List Mention} {made' : α → List Mention}
    (adds : Adds base given made step) (same : sayings given' = sayings given)
    (same' : ∀ answer, sayings (made' answer) = sayings (made answer)) :
    Adds base given' made' step := by
  intro before scope state answer later come read
  rw [same] at come
  rw [same']
  exact adds before scope state answer later come read

/-- An empty list behind what is given can be left out, which is how a step that makes nothing of
its own ends. -/
theorem leftOut {step : Parse α} (adds : Adds base (given ++ []) made step) :
    Adds base given made step :=
  adds.congr (congrArg sayings (List.append_nil given).symm) fun _ => rfl

/-- What a step makes from nothing comes behind what is given, and both are given to the steps
behind it. Most of a grammar rule is put together by this. -/
theorem bind {step : Parse α} {next : α → Parse β} (first : Adds base [] made step)
    (behind : ∀ answer, Adds base (given ++ made answer) wanted (next answer)) :
    Adds base given wanted (step >>= next) :=
  (first.frame given).leftOut.andThen behind

/-- What was given last need not be made use of: a list in order is still in order without its
end. -/
theorem forget {step : Parse α} (adds : Adds base given made step) (more : List Mention) :
    Adds base (given ++ more) made step := by
  intro before scope state answer later come read
  rw [sayings_append, ← List.append_assoc] at come
  have shorter : state.Come base (before ++ sayings given) :=
    ⟨come.opens, come.ordered.left, fun saying said => come.behind saying (List.mem_append_left _ said)⟩
  exact adds before scope state answer later shorter read

/-- What is given is made use of for some answers only. -/
theorem either {step : Parse α} {used unused : α → List Mention} (with' : Adds base given used step)
    (without : Adds base [] unused step)
    (same : ∀ answer, made answer = used answer ∨ made answer = unused answer) :
    Adds base given made step := by
  intro before scope state answer later come read
  rcases same answer with use | leave
  · rw [use]
    exact with' before scope state answer later come read
  · rw [leave]
    exact without.forget given before scope state answer later come read

/-- Running a step in another scope finds the same words, since what a step adds is asked in every
scope. -/
theorem within {step : Parse α} (adds : Adds base given made step) (change : Scope → Scope) :
    Adds base given made (within change step) :=
  fun before scope => adds before (change scope)

/-- A step that makes something can stand where its answer does not matter: the words that it
found are behind and are not listed. -/
theorem stays {step : Parse α} (adds : Adds base [] made step) : Stays base step where
  adds := by
    intro before scope state answer later come read
    have found := adds before scope state answer later come read
    refine ⟨found.opens, ?_, fun saying said => found.behind saying ?_⟩
    · rw [sayings, List.map_nil, List.append_nil]
      exact found.ordered.left
    · rw [sayings, List.map_nil, List.append_nil] at said
      exact List.mem_append_left _ said

end Adds

/-- A step whose answer does not matter leaves what is given to the steps behind it. Symbols,
words of the grammar and looks ahead are such steps. -/
theorem adds_behind {step : Parse α} {next : α → Parse β} [stays : Stays base step]
    (behind : ∀ answer, Adds base given wanted (next answer)) : Adds base given wanted (step >>= next) :=
  stays.adds.bind fun answer => (behind answer).forget []

/-- A step that only answers makes what it was given when it says the same with its answer. -/
theorem adds_pure {answer : α} (same : sayings given = sayings (made answer)) :
    Adds base given made (pure answer) := by
  rintro before scope state _ later come ⟨⟩
  rwa [← same]

/-- An answer that mentions nothing makes nothing of what was given, which is then forgotten. -/
theorem adds_none {answer : α} (none : made answer = []) : Adds base given made (pure answer) := by
  have nothing : Adds base [] made (pure answer) := adds_pure (none ▸ rfl)
  exact nothing.forget given

/-- A step that fails never answers, so that it adds whatever is asked for. -/
theorem adds_fail : Adds base given made fail := by
  rintro before scope state answer later _ ⟨⟩

/-- A demand makes what it was given when the value that it answers with says the same. -/
theorem adds_demand {answer? : Option α}
    (same : ∀ answer ∈ answer?, sayings given = sayings (made answer)) :
    Adds base given made (demand answer?) := by
  cases answer? with
  | none => exact adds_fail
  | some answer => exact adds_pure (same answer rfl)

/-- What is given can be made twice, since it stands in the text already. Only the parameters of
an arrow in a parenthesised list need this. -/
theorem adds_again {answer : α} (repeated : ∀ saying ∈ sayings more, saying ∈ sayings given)
    (same : sayings (given ++ more) = sayings (made answer)) :
    Adds base given made (pure answer) := by
  rintro before scope state _ later come ⟨⟩
  rw [← same, sayings_append, ← List.append_assoc]
  refine ⟨come.opens, come.ordered.repeats ?_, List.forall_mem_append.mpr ⟨come.behind, ?_⟩⟩
  · exact fun saying said => List.mem_append_right _ (repeated saying said)
  · exact fun saying said => come.behind saying (List.mem_append_right _ (repeated saying said))

section Stays

/-- A step that leaves the reading where it is finds nothing and stands behind all that has been
said before. -/
theorem stays_of_still {step : Parse α}
    (still : ∀ scope state answer later, step scope state = .ok (answer, later) →
      later.lexeme = state.lexeme ∧ later.opened = state.opened) : Stays base step where
  adds before scope state answer later come read := by
    obtain ⟨lexeme, opened⟩ := still scope state answer later read
    refine ⟨?_, come.ordered, ?_⟩
    · rw [lexeme, opened]
      exact come.opens
    · rw [opened]
      exact come.behind

instance stays_pure (answer : α) : Stays base (pure answer) := ⟨adds_pure rfl⟩

instance stays_fail : Stays base (fail : Parse α) := ⟨adds_fail⟩

/-- Two steps whose answers do not matter make one whose answer does not; the second may depend on
the first. -/
theorem stays_behind {step : Parse α} {next : α → Parse β} [Stays base step]
    (behind : ∀ answer, Stays base (next answer)) : Stays base (step >>= next) :=
  ⟨adds_behind fun answer => (behind answer).adds⟩

instance stays_bind {step : Parse α} {next : α → Parse β} [Stays base step]
    [behind : ∀ answer, Stays base (next answer)] : Stays base (step >>= next) :=
  stays_behind behind

/-- A choice between steps whose answers do not matter is one as well, whichever way the condition
falls. -/
theorem stays_either {condition : Prop} [Decidable condition] {first second : Parse α}
    (yes : Stays base first) (no : Stays base second) :
    Stays base (if condition then first else second) := by
  split
  · exact yes
  · exact no

instance stays_ite {condition : Prop} [Decidable condition] {first second : Parse α}
    [yes : Stays base first] [no : Stays base second] :
    Stays base (if condition then first else second) :=
  stays_either yes no

instance stays_get : Stays base (get : Parse State) :=
  stays_of_still (by rintro scope state _ later ⟨⟩; exact ⟨rfl, rfl⟩)

instance stays_read : Stays base (read : Parse Scope) :=
  stays_of_still (by rintro scope state _ later ⟨⟩; exact ⟨rfl, rfl⟩)

/-- A change of what is noted in the state moves the reading nowhere when it keeps the current
token and where that was opened. -/
theorem stays_modify {change : State → State}
    (same : ∀ state, (change state).lexeme = state.lexeme ∧ (change state).opened = state.opened) :
    Stays base (modify change : Parse Unit) :=
  stays_of_still (by rintro scope state _ later ⟨⟩; exact same state)

instance stays_require (condition : Bool) : Stays base (require condition) := by
  unfold require
  infer_instance

instance stays_demand (answer? : Option α) : Stays base (demand answer?) :=
  ⟨adds_demand fun _ _ => rfl⟩

instance stays_noteScriptOnly : Stays base noteScriptOnly := stays_modify fun _ => ⟨rfl, rfl⟩

instance stays_noteModule : Stays base noteModule := stays_modify fun _ => ⟨rfl, rfl⟩

instance stays_judge (token : Token) : Stays base (judge token) := by
  unfold judge
  split <;> infer_instance

instance stays_peek : Stays base peek := by
  unfold peek
  infer_instance

instance stays_position : Stays base position := by
  unfold position
  infer_instance

instance stays_spanFrom (start : Nat) : Stays base (spanFrom start) := by
  unfold spanFrom
  infer_instance

instance stays_source : Stays base Parse.source := by
  unfold Parse.source
  infer_instance

instance stays_tokenSpan : Stays base tokenSpan := by
  unfold tokenSpan
  infer_instance

instance stays_token : Stays base token := by
  unfold token
  infer_instance

instance stays_isSymbol (text : String) : Stays base (isSymbol text) := by
  refine stays_behind fun state => ?_
  split <;> infer_instance

instance stays_isBefore (text : String) : Stays base (isBefore text) := by
  refine stays_behind fun next? => ?_
  split <;> infer_instance

instance stays_isWord (text : String) : Stays base (isWord text) := by
  unfold isWord
  infer_instance

instance stays_canEnd : Stays base canEnd := by
  refine stays_behind fun state => ?_
  split <;> infer_instance

instance stays_checkTargets (names : List String) : Stays base (checkTargets names) := by
  unfold checkTargets
  infer_instance

instance stays_isVariableName : Stays base isVariableName := by
  refine stays_behind fun current => ?_
  split <;> infer_instance

end Stays

section Moves

variable {said : List Saying} {place start : Cursor} {answer : Unit}

/-- The reading arrives at a token behind all that has been said. -/
theorem come_arrive {trivia : Trivia} {opened finished : Nat} (ordered : InOrder base said)
    (opens : base.Opens opened start) (behind : ∀ saying ∈ said, saying.span.hi ≤ opened)
    (read : arrive trivia start opened finished scope state = .ok (answer, later)) :
    later.Come base said := by
  obtain ⟨lexeme, between, ran, others⟩ := exists_of_bind read
  obtain ⟨found, rfl⟩ := of_demand ran
  obtain ⟨_, judged, _, last⟩ := exists_of_bind others
  obtain ⟨-, rfl⟩ := Prod.mk.inj (Except.ok.inj last)
  have starts : lexeme.start = start := Lexeme.start_of_at? found
  refine ⟨?_, ordered, behind⟩
  rw [starts]
  exact opens

/-- Reading goes on at a place of the text, behind all that has been said. -/
theorem come_load (ordered : InOrder base said) (leads : base.Leads place)
    (behind : ∀ saying ∈ said, saying.span.hi ≤ place.position)
    (read : load place scope state = .ok (answer, later)) : later.Come base said := by
  obtain ⟨⟨trivia, start⟩, between, ran, arrived⟩ := exists_of_bind read
  obtain ⟨walked, rfl⟩ := of_demand ran
  have opens := (Cursor.passes_trivia walked).opens
  refine come_arrive ordered (opens.behind leads) ?_ arrived
  exact fun saying listed => Nat.le_trans (behind saying listed) opens.base_le

/-- Moving on to the next token, behind what has been said of this one. -/
theorem come_advance (ordered : InOrder base said) (leads : base.Leads state.lexeme.start)
    (behind : ∀ saying ∈ said, saying.span.hi ≤ state.lexeme.rest.position)
    (read : advance scope state = .ok (answer, later)) : later.Come base said :=
  come_load ordered (leads.trans state.lexeme.leads_rest) behind read

instance stays_advance : Stays base advance where
  adds _ _ state _ _ come read :=
    come_advance come.ordered come.opens.leads (come.le_of_leads state.lexeme.leads_rest) read

instance stays_eat (text : String) : Stays base (eat text) := by
  unfold eat
  infer_instance

instance stays_expect (text : String) : Stays base (expect text) := by
  unfold expect
  infer_instance

instance stays_eatWord (text : String) : Stays base (eatWord text) := by
  unfold eatWord
  infer_instance

instance stays_expectWord (text : String) : Stays base (expectWord text) := by
  unfold expectWord
  infer_instance

instance stays_semicolon : Stays base semicolon := by
  unfold semicolon
  infer_instance

end Moves

section Names

/-- Passing the current token, which says something, lists its saying: it stands where the reading
stood, and all that was said before ends in front of it. -/
theorem come_said {said : List Saying} {answer : Unit} (come : state.Come base said)
    {saying : Saying} (wording : state.lexeme.token.wording? = some saying.wording)
    (span : saying.span = ⟨state.opened, state.lexeme.rest.position⟩)
    (read : advance scope state = .ok (answer, later)) : later.Come base (said ++ [saying]) := by
  obtain ⟨behind, wasRead, rest⟩ := state.lexeme.wasRead
  have stands : saying.StandsIn base := by
    refine ⟨_, _, behind, ?_, wasRead, wording, ?_⟩
    · rw [span]
      exact come.opens
    · rw [span, ← rest]
  refine come_advance (come.ordered.behind stands ?_) come.opens.leads ?_ read
  · rw [span]
    exact come.behind
  · refine List.forall_mem_append.mpr ⟨come.le_of_leads state.lexeme.leads_rest, ?_⟩
    have ends : saying.span.hi = state.lexeme.rest.position := by rw [span]
    exact List.forall_mem_singleton.mpr (Nat.le_of_eq ends)

/-- A name is a mention of any part that names play. -/
theorem anyName_adds {part : String → Site} (isWord : ∀ text, (part text).wording = .word text) :
    Adds base [] (fun name => [name.mention part]) anyName := by
  intro before scope state answer later come read
  obtain ⟨current, between, ran, others⟩ := exists_of_bind read
  obtain ⟨rfl, rfl⟩ := Prod.mk.inj (Except.ok.inj ran)
  cases current : state.lexeme.token with
  | word text spelling =>
    rw [State.token, current] at others
    obtain ⟨span, _, spanned, others⟩ := exists_of_bind others
    obtain ⟨rfl, rfl⟩ := Prod.mk.inj (Except.ok.inj spanned)
    obtain ⟨_, moved, passed, last⟩ := exists_of_bind others
    obtain ⟨rfl, rfl⟩ := Prod.mk.inj (Except.ok.inj last)
    have wording : state.lexeme.token.wording? = some (part text).wording := by
      rw [current, isWord, Token.wording?]
    exact come_said (by simpa [sayings] using come) wording rfl passed
  | _ =>
    rw [State.token, current] at others
    cases others

/-- A string is a mention of any part that strings play. -/
theorem quoted_adds {part : String → Site} (isQuoted : ∀ value, (part value).wording = .quoted value) :
    Adds base [] (fun literal => [literal.mention part]) quoted := by
  intro before scope state answer later come read
  obtain ⟨current, between, ran, others⟩ := exists_of_bind read
  obtain ⟨rfl, rfl⟩ := Prod.mk.inj (Except.ok.inj ran)
  cases current : state.lexeme.token with
  | string value legacy =>
    rw [State.token, current] at others
    obtain ⟨span, _, spanned, others⟩ := exists_of_bind others
    obtain ⟨rfl, rfl⟩ := Prod.mk.inj (Except.ok.inj spanned)
    obtain ⟨source, _, written, others⟩ := exists_of_bind others
    obtain ⟨rfl, rfl⟩ := Prod.mk.inj (Except.ok.inj written)
    obtain ⟨_, moved, passed, last⟩ := exists_of_bind others
    obtain ⟨rfl, rfl⟩ := Prod.mk.inj (Except.ok.inj last)
    have wording : state.lexeme.token.wording? = some (part value).wording := by
      rw [current, isQuoted, Token.wording?]
    exact come_said (by simpa [sayings] using come) wording rfl passed
  | _ =>
    rw [State.token, current] at others
    cases others

/-- A name that may be bound is one mention of a variable. The cases differ in what they require
of the word, and all of them end by reading it. -/
theorem freeName_adds : Adds base [] (fun name => [name.mention .variable]) freeName := by
  refine adds_behind fun current => ?_
  split
  · refine adds_behind fun scope => ?_
    extract_lets last
    have lastAdds : ∀ passed,
        Adds base [] (fun name => [name.mention .variable]) (last passed) :=
      fun _ => adds_behind fun _ => anyName_adds fun _ => rfl
    split
    · refine adds_behind fun _ => adds_behind fun _ => adds_behind fun _ => ?_
      split
      · exact adds_behind lastAdds
      · exact lastAdds ()
    · exact lastAdds ()
  · exact adds_fail

/-- The name of a variable is one mention of it; what is checked in front reads nothing. -/
theorem variableName_adds : Adds base [] (fun name => [name.mention .variable]) variableName :=
  adds_behind fun _ => adds_behind fun _ => freeName_adds

/-- The name of a binding is one mention of a variable, whatever is required or noted of it. -/
theorem bindingName_adds : Adds base [] (fun name => [name.mention .variable]) bindingName := by
  refine freeName_adds.bind fun name => ?_
  refine adds_behind fun scope => adds_behind fun _ => adds_behind fun _ => ?_
  extract_lets last
  have lastAdds : ∀ passed, Adds base [name.mention .variable]
      (fun name => [name.mention .variable]) (last passed) :=
    fun _ => adds_pure rfl
  split
  · exact adds_behind lastAdds
  · exact lastAdds ()

/-- An optional name is mentioned when it is there, and nothing is where it is left out. -/
theorem optionalName_adds : Adds base [] variableMentions optionalName := by
  refine adds_behind fun current => ?_
  split
  · refine adds_behind fun scope => ?_
    split
    · exact adds_pure rfl
    · exact bindingName_adds.bind fun name => adds_pure rfl
  · exact adds_pure rfl

end Names

section Repetitions

/-- Rounds that may end the repetition make what they were given then. The induction is on the
bound for the rounds, and what is made so far is carried along. -/
theorem adds_foldSteps {step : α → Parse (Option α)}
    (each : ∀ value, Adds base (made value) (fun next? => made (next?.getD value)) (step value))
    (count : Nat) (value : α) : Adds base (made value) made (foldSteps step count value) := by
  induction count generalizing value with
  | zero => exact adds_fail
  | succ count inductionHypothesis =>
    refine (each value).andThen fun next? => ?_
    cases next? with
    | none => exact adds_pure rfl
    | some next => exact inductionHypothesis next

/-- A repetition makes what its rounds make one after the other. -/
theorem adds_fold {step : α → Parse (Option α)} {value : α}
    (each : ∀ value, Adds base (made value) (fun next? => made (next?.getD value)) (step value)) :
    Adds base (made value) made (fold step value) :=
  adds_behind fun _ => adds_foldSteps each _ value

/-- Nodes are read one after the other and mention their words in that order. The repetition
gathers them last first, so each round puts its mentions behind the reversed list. -/
theorem adds_many {item : Parse (Option Node)} (each : Adds base [] mentionsOfSome item) :
    Adds base [] mentionsOf (many item) := by
  have more : ∀ items : List Node, Adds base (mentionsOf items.reverse)
      (fun next? => mentionsOf (next?.getD items).reverse)
      (item >>= fun item? => pure (item?.map (· :: items))) := by
    intro items
    refine each.bind fun item? => adds_pure ?_
    cases item? with
    | none => exact congrArg sayings (List.append_nil _)
    | some item => exact congrArg sayings (mentionsOf_reverse_cons item items).symm
  have folded : ∀ step : List Node → Parse (Option (List Node)),
      (∀ items, Adds base (mentionsOf items.reverse)
        (fun next? => mentionsOf (next?.getD items).reverse) (step items)) →
      Adds base (mentionsOf [].reverse) (fun items => mentionsOf items.reverse) (fold step []) :=
    fun _ rounds => adds_fold rounds
  exact (folded _ more).andThen fun items => adds_pure rfl

/-- Items between commas are read one after the other, and the list mentions what they do in their
order. The commas and the closing symbol say nothing. -/
theorem adds_commaList {item : Parse α} (close : String) (each : Adds base [] made item) :
    Adds base [] (fun list => list.1.flatMap made) (commaList close item) := by
  let found : List α × Bool × Bool → List Mention := fun list => list.1.reverse.flatMap made
  have folded : ∀ step : List α × Bool × Bool → Parse (Option (List α × Bool × Bool)),
      (∀ list, Adds base (found list) (fun next? => found (next?.getD list)) (step list)) →
      Adds base (found ([], false, false)) found (fold step ([], false, false)) :=
    fun _ rounds => adds_fold rounds
  refine (folded _ ?_).andThen fun list => adds_pure rfl
  rintro ⟨items, trailing, done⟩
  dsimp only
  split
  · exact adds_pure rfl
  · refine adds_behind fun closes => ?_
    split
    · exact adds_pure rfl
    · refine adds_behind fun _ => each.bind fun next => adds_behind fun comma => adds_pure ?_
      simp [found]

/-- The mentions of a list are those of its nodes one after the other; the definition spells the
recursion out. -/
theorem mentionsOf_eq (nodes : List Node) : mentionsOf nodes = nodes.flatMap Node.mentions := by
  induction nodes with
  | nil => rfl
  | cons node rest inductionHypothesis =>
    rw [mentionsOf, inductionHypothesis, List.flatMap_cons]

/-- Nodes between commas mention their words one after the other, as any items between commas
do. -/
theorem adds_nodeList {item : Parse Node} (close : String) (each : Adds base [] Node.mentions item) :
    Adds base [] (fun list => mentionsOf list.1) (commaList close item) :=
  (adds_commaList close each).congr rfl fun list => congrArg sayings (mentionsOf_eq list.1)

/-- One more of some nodes with commas between them, which are listed last first. -/
theorem adds_more {item : Parse Node} (each : Adds base [] Node.mentions item) (items : List Node) :
    Adds base (mentionsOf items.reverse) (fun next? => mentionsOf (next?.getD items).reverse) (do
      if ← eat "," then return some ((← item) :: items) else return none) := by
  refine adds_behind fun goesOn => ?_
  split
  · refine each.bind fun item => adds_pure ?_
    exact congrArg sayings (mentionsOf_reverse_cons item items).symm
  · exact adds_pure rfl

end Repetitions

end Parse

end Script

end PropertyMangling
