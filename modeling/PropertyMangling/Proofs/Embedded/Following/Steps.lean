import PropertyMangling.Proofs.Embedded.Following.States
import PropertyMangling.Proofs.Property.Inspection
/-!
# Steps that follow one another

A reading step in a text is followed by the same step in the text with some words
exchanged: from readings that stand side by side both succeed and answer alike, and
leave the readings side by side. This asks of the text that each word that is passed
stands at a spot of the answer, where a member is named or a string holds its text. A step
may answer with what was given to it; the spots of that have been passed before.

The judgement says three things of a step, of which only the last is about both texts:
the reading goes on, the spots of the answer lie on the way or were given, and the other
reading follows. The first two carry what is asked of the words from the whole program down
to each of its parts. There is a rule for each way to put steps together.
-/
namespace PropertyMangling

open Script Embedded

namespace Script

namespace Parse

/-- What is asked of two answers, and the spots of an answer. Every answer has one like it. -/
structure Kind (α : Type) where
  alike : α → α → Prop
  spots : α → Bool → List Span
  total : ∀ answer, ∃ twin, alike answer twin

namespace Kind

/-- Answers with the same outline. -/
def outlined {α γ : Type} (outline : α → γ) (spots : α → Bool → List Span) : Kind α :=
  ⟨fun answer twin => outline answer = outline twin, spots, fun answer => ⟨answer, rfl⟩⟩

/-- Answers that are the same and have no spots. -/
def plain {α : Type} : Kind α := outlined id fun _ _ => []

/-- Answers that do not matter. -/
def place {α : Type} : Kind α := outlined (fun _ => ()) fun _ _ => []

end Kind

/-- A step and what it is in another text; see the module's docstring. Words that are given have been
passed before. -/
structure Follows (exchange : Exchange) {α : Type} (pre : State → Prop) (given : Bool → List Span)
    (kind : Kind α) (step twin : Parse α) : Prop where
  onward : ∀ {scope state answer later}, pre state →
    step scope state = .ok (answer, later) → exchange.Onward state later
  keeps : ∀ {scope state answer later} (word : exchange.Word), pre state → exchange.Stands state →
    step scope state = .ok (answer, later) → (word.In given → ¬state.Admits word.position) →
    word.In (kind.spots answer) →
    (word.In given ∨ state.Admits word.position) ∧ ¬later.Admits word.position
  agrees : ∀ {scope state other answer later}, pre state → exchange.Stands state →
    exchange.Beside state other → step scope state = .ok (answer, later) → later.Informed →
    (∀ word : exchange.Word, word.In given → ¬state.Admits word.position) →
    (∀ word : exchange.Word, state.Admits word.position → ¬later.Admits word.position →
      word.In (kind.spots answer)) →
    ∃ answerToo otherLater, twin scope other = .ok (answerToo, otherLater) ∧
      kind.alike answer answerToo ∧ exchange.Beside later otherLater

/-- Every state. -/
abbrev anywhere : State → Prop := fun _ => True

/-- No spots. -/
abbrev nothing : Bool → List Span := fun _ => []

/-- A step that is followed by itself, with an answer that is the same and without spots. -/
class Plain (exchange : Exchange) {α : Type} (step : Parse α) : Prop where
  follows : Follows exchange anywhere nothing .plain step step

variable {exchange : Exchange} {α β γ : Type} {pre : State → Prop} {given more : Bool → List Span}
  {kind : Kind α} {wanted : Kind β} {scope : Scope} {state other later : State}

namespace Follows

/-! ## Rules -/

variable {step twin : Parse α}

/-- Less may be known of where the step starts, and more may be given to it. -/
theorem weaken {pre' : State → Prop} (follows : Follows exchange pre given kind step twin)
    (known : ∀ state, pre' state → pre state) (less : ∀ keys, given keys ⊆ more keys) :
    Follows exchange pre' more kind step twin where
  onward holds := follows.onward (known _ holds)
  keeps word holds stands ran passed found := by
    obtain ⟨origin, behind⟩ := follows.keeps word (known _ holds) stands ran
      (fun inside => passed (less _ inside)) found
    exact ⟨origin.imp_left fun inside => less _ inside, behind⟩
  agrees holds stands beside ran informed passed found :=
    follows.agrees (known _ holds) stands beside ran informed
      (fun word inside => passed word (less _ inside)) found

/-- Less may be asked of the answers, and they may have fewer spots. -/
theorem imp {weaker : Kind α} (follows : Follows exchange pre given kind step twin)
    (alike : ∀ answer answerToo, kind.alike answer answerToo → weaker.alike answer answerToo)
    (fewer : ∀ answer keys, weaker.spots answer keys ⊆ kind.spots answer keys) :
    Follows exchange pre given weaker step twin where
  onward := follows.onward
  keeps word holds stands ran passed found :=
    follows.keeps word holds stands ran passed (fewer _ _ found)
  agrees holds stands beside ran informed passed found := by
    obtain ⟨answerToo, otherLater, ranToo, same, besideToo⟩ := follows.agrees holds stands beside ran
      informed passed fun word admits behind => fewer _ _ (found word admits behind)
    exact ⟨answerToo, otherLater, ranToo, alike _ _ same, besideToo⟩

/-- What a step answers with is given to the steps behind it. What it is known to come to may be made
use of there. -/
theorem bind {next twinNext : α → Parse β} (mid : α → State → Prop)
    (first : Follows exchange pre given kind step twin)
    (comes : ∀ {scope state answer later}, pre state → step scope state = .ok (answer, later) →
      mid answer later)
    (behind : ∀ answer answerToo, kind.alike answer answerToo →
      Follows exchange (mid answer) (fun keys => given keys ++ kind.spots answer keys) wanted
        (next answer) (twinNext answerToo)) :
    Follows exchange pre given wanted (step >>= next) (twin >>= twinNext) := by
  have split {word : exchange.Word} {answer : α}
      (inside : word.In fun keys => given keys ++ kind.spots answer keys) :
      word.In given ∨ word.In (kind.spots answer) := List.mem_append.mp inside
  refine ⟨?_, ?_, ?_⟩
  · intro scope state last later holds read
    obtain ⟨answer, between, ran, rest⟩ := exists_of_bind read
    obtain ⟨partner, alike⟩ := kind.total answer
    exact (first.onward holds ran).trans
      ((behind answer partner alike).onward (comes holds ran) rest)
  · intro scope state last later word holds stands read passed found
    obtain ⟨answer, between, ran, rest⟩ := exists_of_bind read
    obtain ⟨partner, alike⟩ := kind.total answer
    have onward := first.onward holds ran
    -- a spot of the last answer is one of the first answer, or is passed by the steps behind it
    have kept := first.keeps word holds stands ran passed
    obtain ⟨origin, outside⟩ := (behind answer partner alike).keeps word (comes holds ran)
      (onward.stands stands) rest
      (fun inside admits => (split inside).elim (fun old => passed old (onward.admits _ admits))
        fun new => (kept new).2 admits) found
    refine ⟨?_, outside⟩
    rcases origin with inside | admits
    · exact (split inside).elim .inl fun new => (kept new).1
    · exact .inr (onward.admits _ admits)
  · intro scope state other last later holds stands beside read informed passed found
    obtain ⟨answer, between, ran, rest⟩ := exists_of_bind read
    have onward := first.onward holds ran
    have further (partner : α) (alike : kind.alike answer partner) :=
      behind answer partner alike
    obtain ⟨partner, like⟩ := kind.total answer
    have onwardRest := (further partner like).onward (comes holds ran) rest
    have given' : ∀ word : exchange.Word, word.In (fun keys => given keys ++ kind.spots answer keys) →
        ¬between.Admits word.position := fun word inside admits =>
      (split inside).elim (fun old => passed word old (onward.admits _ admits)) fun new =>
        (first.keeps word holds stands ran (passed word) new).2 admits
    -- a word that the first step passes is a spot of its answer, since the others never go back to it
    obtain ⟨answerToo, otherBetween, ranToo, alike, besideBetween⟩ := first.agrees holds stands beside
      ran (onwardRest.informed informed) passed fun word admits outside => by
        have here := found word admits fun admitted => outside (onwardRest.admits _ admitted)
        obtain ⟨origin, -⟩ := (further partner like).keeps word (comes holds ran)
          (onward.stands stands) rest (given' word) here
        rcases origin with inside | admitted
        · exact (split inside).resolve_left fun old => passed word old admits
        · exact absurd admitted outside
    obtain ⟨lastToo, otherLater, restToo, alikeToo, besideLater⟩ :=
      (further answerToo alike).agrees (comes holds ran) (onward.stands stands) besideBetween rest
        informed given' fun word admits outside => found word (onward.admits _ admits) outside
    refine ⟨lastToo, otherLater, ?_, alikeToo, besideLater⟩
    change (twin scope other >>= fun answer => twinNext answer.1 scope answer.2) = _
    rw [ranToo]
    exact restToo

/-- What a step answers with is given to the steps behind it. -/
theorem andThen {next twinNext : α → Parse β} (first : Follows exchange pre given kind step twin)
    (behind : ∀ answer answerToo, kind.alike answer answerToo →
      Follows exchange anywhere (fun keys => given keys ++ kind.spots answer keys) wanted
        (next answer) (twinNext answerToo)) :
    Follows exchange pre given wanted (step >>= next) (twin >>= twinNext) :=
  bind (fun _ => anywhere) first (fun _ _ => trivial) behind

/-- Behind a step whose answer has no spots nothing has been given but what was given before
it. -/
theorem andAlso {next twinNext : α → Parse β} (first : Follows exchange pre given kind step twin)
    (none : ∀ answer keys, kind.spots answer keys = [])
    (behind : ∀ answer answerToo, kind.alike answer answerToo →
      Follows exchange anywhere given wanted (next answer) (twinNext answerToo)) :
    Follows exchange pre given wanted (step >>= next) (twin >>= twinNext) :=
  first.andThen fun answer answerToo alike => (behind answer answerToo alike).weaken (fun _ => id)
    fun keys => by
      rw [none answer keys, List.append_nil]
      exact List.Subset.refl _

/-- A step in a changed scope follows its twin in the same scope, since the judgement speaks of
all scopes. -/
theorem within (follows : Follows exchange pre given kind step twin) (change : Scope → Scope) :
    Follows exchange pre given kind (within change step) (within change twin) where
  onward holds ran := follows.onward holds ran
  keeps word holds stands ran := follows.keeps word holds stands ran
  agrees holds stands beside ran := follows.agrees holds stands beside ran

/-- A step to which nothing has to be given follows also when something is. -/
theorem ofNothing (follows : Follows exchange pre nothing kind step twin) :
    Follows exchange pre more kind step twin :=
  follows.weaken (fun _ => id) fun _ => List.nil_subset _

/-- A step of which nothing has to be known or given. -/
theorem always (follows : Follows exchange anywhere nothing kind step twin) :
    Follows exchange pre more kind step twin :=
  follows.weaken (fun _ _ => trivial) fun _ => List.nil_subset _

/-- Where a step starts may be told apart in two cases, and each of them is followed on its
own. -/
theorem either {case : State → Prop}
    (yes : Follows exchange (fun state => pre state ∧ case state) given kind step twin)
    (no : Follows exchange (fun state => pre state ∧ ¬case state) given kind step twin) :
    Follows exchange pre given kind step twin := by
  refine ⟨?_, ?_, ?_⟩
  · intro scope state answer later holds
    by_cases this : case state
    · exact yes.onward ⟨holds, this⟩
    · exact no.onward ⟨holds, this⟩
  · intro scope state answer later word holds
    by_cases this : case state
    · exact yes.keeps word ⟨holds, this⟩
    · exact no.keeps word ⟨holds, this⟩
  · intro scope state other answer later holds
    by_cases this : case state
    · exact yes.agrees ⟨holds, this⟩
    · exact no.agrees ⟨holds, this⟩

end Follows

/-- Steps may be put together in another way: what follows a step that is itself put together
follows its last part. -/
theorem Follows.grouped {first firstToo : Parse α} {middle middleToo : α → Parse β}
    {last lastToo : β → Parse γ} {wanted : Kind γ}
    (follows : Follows exchange pre given wanted (first >>= middle >>= last)
      (firstToo >>= middleToo >>= lastToo)) :
    Follows exchange pre given wanted (first >>= fun answer => middle answer >>= last)
      (firstToo >>= fun answer => middleToo answer >>= lastToo) := by
  rwa [bind_assoc, bind_assoc] at follows

/-- A plain step follows itself, whatever is given to it and wherever it starts. -/
theorem follows_plain (step : Parse α) [Plain exchange step] :
    Follows exchange pre given .plain step step :=
  Plain.follows.always

/-- Behind a plain step nothing more is given and its answer is the same in both texts. Most of a
grammar rule is passed by this. -/
theorem follows_behind {step : Parse α} [Plain exchange step] {next twin : α → Parse β}
    (behind : ∀ answer, Follows exchange anywhere given wanted (next answer) (twin answer)) :
    Follows exchange pre given wanted (step >>= next) (step >>= twin) := by
  refine (follows_plain step).andThen ?_
  rintro answer _ ⟨⟩
  exact (behind answer).weaken (fun _ => id) fun _ => List.subset_append_left _ _

/-- An answer all of whose spots were given follows when it is like the answer in the other
text. -/
theorem follows_pure {answer twin : α} (alike : kind.alike answer twin)
    (spots : ∀ keys, kind.spots answer keys ⊆ given keys) :
    Follows exchange pre given kind (pure answer) (pure twin) := by
  refine ⟨?_, ?_, ?_⟩
  · rintro scope state _ later _ ⟨⟩
    exact .refl state
  · rintro scope state _ later word _ _ ⟨⟩ passed inside
    exact ⟨.inl (spots _ inside), passed (spots _ inside)⟩
  · rintro scope state other _ later _ _ beside ⟨⟩ _ _ _
    exact ⟨twin, other, rfl, alike, beside⟩

/-- A step that fails is followed by any, since the judgement asks only about runs of the first
text that succeed. -/
theorem follows_fail {twin : Parse α} : Follows exchange pre given kind fail twin := by
  refine ⟨?_, ?_, ?_⟩
  · rintro scope state answer later _ ⟨⟩
  · rintro scope state answer later word _ _ ⟨⟩
  · rintro scope state other answer later _ _ _ ⟨⟩

/-- An answer that is told from where the reading has come to. -/
theorem follows_told {tell tellToo : State → α}
    (alike : ∀ {state other}, exchange.Beside state other → kind.alike (tell state) (tellToo other))
    (spots : ∀ state keys, kind.spots (tell state) keys ⊆ given keys) :
    Follows exchange pre given kind (get >>= fun state => pure (tell state))
      (get >>= fun state => pure (tellToo state)) := by
  refine ⟨?_, ?_, ?_⟩
  · rintro scope state _ later _ ⟨⟩
    exact .refl state
  · rintro scope state _ later word _ _ ⟨⟩ passed inside
    exact ⟨.inl (spots _ _ inside), passed (spots _ _ inside)⟩
  · rintro scope state other _ later _ _ beside ⟨⟩ _ _ _
    exact ⟨tellToo other, other, rfl, alike beside, beside⟩

/-- A step that always fails where it starts is followed by any. -/
theorem follows_failing {step twin : Parse α}
    (fails : ∀ {scope state answer later}, pre state → step scope state ≠ .ok (answer, later)) :
    Follows exchange pre given kind step twin := by
  refine ⟨?_, ?_, ?_⟩
  · exact fun holds ran => absurd ran (fails holds)
  · exact fun _ holds _ ran => absurd ran (fails holds)
  · exact fun holds _ _ ran => absurd ran (fails holds)

/-- A demand follows when a value that is there has one that is like it in the other text, with
all of its spots given. -/
theorem follows_demand {answer? twin? : Option α}
    (found : ∀ answer, answer? = some answer → ∃ twin, twin? = some twin ∧ kind.alike answer twin)
    (spots : ∀ answer keys, answer? = some answer → kind.spots answer keys ⊆ given keys) :
    Follows exchange pre given kind (demand answer?) (demand twin?) := by
  cases answer? with
  | none => exact follows_fail
  | some answer =>
    obtain ⟨twin, rfl, alike⟩ := found answer rfl
    exact follows_pure alike fun keys => spots answer keys rfl

/-- Where a condition is required in both texts, the steps behind it start where it is looked at. -/
theorem follows_require {condition conditionToo : Bool} (same : conditionToo = condition)
    {next twin : Unit → Parse α} (behind : Follows exchange pre given kind (next ()) (twin ())) :
    Follows exchange pre given kind (require condition >>= next) (require conditionToo >>= twin) := by
  subst same
  cases conditionToo with
  | false => exact follows_fail
  | true => exact behind

/-- A step that looks at the state and does not change it, and one that looks at the other state. -/
theorem follows_look {look lookToo : Parse γ} {seen seenToo : Scope → State → γ}
    {next twin : γ → Parse α} (related : γ → γ → Prop)
    (looks : ∀ scope state, look scope state = .ok (seen scope state, state))
    (looksToo : ∀ scope state, lookToo scope state = .ok (seenToo scope state, state))
    (total : ∀ answer, ∃ answerToo, related answer answerToo)
    (sees : ∀ {state other} scope, pre state → state.Informed → exchange.Beside state other →
      related (seen scope state) (seenToo scope other))
    (each : ∀ answer answerToo, related answer answerToo →
      Follows exchange (fun state => pre state ∧ ∃ scope, seen scope state = answer) given kind
        (next answer) (twin answerToo)) :
    Follows exchange pre given kind (look >>= next) (lookToo >>= twin) := by
  have run {look : Parse γ} {seen : Scope → State → γ} (next : γ → Parse α) (scope : Scope)
      (state : State) (looks : look scope state = .ok (seen scope state, state)) :
      (look >>= next) scope state = next (seen scope state) scope state := by
    change (look scope state >>= fun answer => next answer.1 scope answer.2) = _
    rw [looks]
    rfl
  refine ⟨?_, ?_, ?_⟩
  · intro scope state answer later holds read
    obtain ⟨partner, like⟩ := total (seen scope state)
    rw [run next scope state (looks scope state)] at read
    exact (each _ partner like).onward ⟨holds, scope, rfl⟩ read
  · intro scope state answer later word holds stands read
    obtain ⟨partner, like⟩ := total (seen scope state)
    rw [run next scope state (looks scope state)] at read
    exact (each _ partner like).keeps word ⟨holds, scope, rfl⟩ stands read
  · intro scope state other answer later holds stands beside read informed
    obtain ⟨partner, like⟩ := total (seen scope state)
    rw [run next scope state (looks scope state)] at read
    have before := ((each _ partner like).onward ⟨holds, scope, rfl⟩ read).informed informed
    rw [run twin scope other (looksToo scope other)]
    exact (each _ _ (sees scope holds before beside)).agrees ⟨holds, scope, rfl⟩ stands beside read
      informed

/-- A look on its own follows when readings that stand side by side see things that are alike, at
something without spots. -/
theorem follows_seen {look lookToo : Parse α} {seen seenToo : Scope → State → α}
    (looks : ∀ scope state, look scope state = .ok (seen scope state, state))
    (looksToo : ∀ scope state, lookToo scope state = .ok (seenToo scope state, state))
    (sees : ∀ {state other} scope, exchange.Beside state other →
      kind.alike (seen scope state) (seenToo scope other))
    (none : ∀ answer keys, kind.spots answer keys = []) :
    Follows exchange pre given kind look lookToo := by
  rw [← bind_pure look, ← bind_pure lookToo]
  refine follows_look kind.alike looks looksToo kind.total (fun scope _ _ => sees scope)
    fun answer _ alike => ?_
  exact follows_pure alike fun keys => none answer keys ▸ List.nil_subset _

/-- A look at something that is the same for readings that stand side by side. -/
theorem plain_of_look {look : Parse γ} (seen : Scope → State → γ)
    (looks : ∀ scope state, look scope state = .ok (seen scope state, state))
    (sees : ∀ {state other} scope, exchange.Beside state other → seen scope state = seen scope other) :
    Plain exchange look where
  follows := follows_seen looks looks (fun scope => sees scope) fun _ _ => rfl

/-- Two tokens that the grammar cannot tell apart: they are the same, or both are strings. -/
inductive SeenAs : Token → Token → Prop
  | same (token : Token) : SeenAs token token
  | strings (value valueToo : String) : SeenAs (.string value false) (.string valueToo false)

/-- Tokens that belong together cannot be told apart by the grammar: they are the same, or both
are strings. -/
theorem seenAs_of_twins {lexeme twin : Lexeme} (twins : exchange.Twins lexeme twin) :
    SeenAs lexeme.token twin.token := by
  cases twins.written with
  | same token _ =>
    rw [token]
    exact .same _
  | string _ token tokenToo =>
    rw [token, tokenToo]
    exact .strings _ _

/-- A look at the current token. Nothing is told of the text of a string. -/
theorem follows_token {next twin : Token → Parse α}
    (blind : ∀ value valueToo, twin (.string value false) = twin (.string valueToo false))
    (each : ∀ token, Follows exchange (fun state => pre state ∧ state.token = token) given kind
      (next token) (twin token)) :
    Follows exchange pre given kind (Parse.token >>= next) (Parse.token >>= twin) := by
  refine follows_look SeenAs (fun _ _ => rfl) (fun _ _ => rfl) (fun token => ⟨token, .same token⟩)
    (fun _ _ _ beside => seenAs_of_twins beside.twins) ?_
  intro token tokenToo seen
  have same : twin token = twin tokenToo := by
    cases seen with
    | same => rfl
    | strings => exact blind _ _
  rw [← same]
  exact (each token).weaken (fun _ ⟨holds, _, known⟩ => ⟨holds, known⟩) fun _ => List.Subset.refl _

/-- A look at what else the state says than its token. -/
theorem follows_get {next twin : State → Parse α}
    (each : ∀ state other : State, other.newline = state.newline → other.isModule = state.isModule →
      other.declared = state.declared → Follows exchange pre given kind (next state) (twin other)) :
    Follows exchange pre given kind (get >>= next) (get >>= twin) := by
  refine follows_look (fun state other => other.newline = state.newline ∧
    other.isModule = state.isModule ∧ other.declared = state.declared) (fun _ _ => rfl)
    (fun _ _ => rfl) (fun state => ⟨state, rfl, rfl, rfl⟩)
    (fun _ _ _ beside => ⟨beside.newline, beside.isModule, beside.declared⟩) ?_
  rintro state other ⟨newline, isModule, declared⟩
  exact (each state other newline isModule declared).weaken (fun _ holds => holds.1)
    fun _ => List.Subset.refl _

/-- The token that a lexeme is found with is the one that the lexer reads there. -/
theorem at?_map_token (start : Cursor) :
    (Lexeme.at? start).map Lexeme.token = (Lexer.token start.text).map Prod.fst := by
  unfold Lexeme.at?
  split <;> simp_all

/-- A look at the token behind the current one answers with what `peeked` tells and leaves the
state as it is. -/
theorem peek_eq (scope : Scope) (state : State) : peek scope state = .ok (state.peeked, state) := by
  unfold peek State.peeked State.ahead? Cursor.next?
  rw [bind_get]
  cases state.lexeme.rest.trivia false with
  | none => rfl
  | some passed =>
    have same := congrArg (Option.map fun token => (token, passed.1.newline)) (at?_map_token passed.2)
    refine congrArg (fun found => Except.ok (found, state)) ?_
    simpa [Option.map_eq_bind, Option.bind_assoc, Function.comp_def] using same.symm

/-- A look at the token behind one that the grammar looks behind. Nothing is told of the text of a
string. -/
theorem follows_peek {next twin : Option (Token × Bool) → Parse α}
    (looks : ∀ state, pre state → state.token.looksAhead = true)
    (blind : ∀ value valueToo newline,
      twin (some (.string value false, newline)) = twin (some (.string valueToo false, newline)))
    (each : ∀ next?, Follows exchange (fun state => pre state ∧ state.peeked = next?) given kind
      (next next?) (twin next?)) :
    Follows exchange pre given kind (peek >>= next) (peek >>= twin) := by
  let related : Option (Token × Bool) → Option (Token × Bool) → Prop := fun next? nextToo? =>
    next? = nextToo? ∨ ∃ value valueToo newline, next? = some (.string value false, newline) ∧
      nextToo? = some (.string valueToo false, newline)
  refine follows_look related peek_eq peek_eq (fun next? => ⟨next?, .inl rfl⟩) ?_ ?_
  · intro state other scope holds informed beside
    obtain ⟨⟨trivia, lexeme⟩, found⟩ := Option.isSome_iff_exists.mp (informed (looks _ holds))
    obtain ⟨triviaToo, twin, foundToo, agrees, twins⟩ := beside.exists_ahead found (looks _ holds)
    simp only [related, State.peeked, found, foundToo, Option.map_some, agrees.newline]
    have same := seenAs_of_twins twins
    generalize lexeme.token = token at same
    generalize twin.token = tokenToo at same
    cases same with
    | same => exact .inl rfl
    | strings value valueToo => exact .inr ⟨value, valueToo, _, rfl, rfl⟩
  · intro next? nextToo? like
    have same : twin next? = twin nextToo? := by
      rcases like with rfl | ⟨value, valueToo, newline, rfl, rfl⟩
      · rfl
      · exact blind _ _ _
    rw [← same]
    exact (each next?).weaken (fun _ ⟨holds, _, known⟩ => ⟨holds, known⟩) fun _ => List.Subset.refl _

/-- A look at the current token for a symbol tells whether it is that symbol and leaves the state
as it is. -/
theorem isSymbol_eq (text : String) (scope : Scope) (state : State) :
    isSymbol text scope state = .ok (state.token == .symbol text, state) := by
  rw [isSymbol, bind_get]
  cases state.token with
  | symbol other =>
    have same : (Token.symbol other == .symbol text) = (other == text) := by
      rw [Bool.eq_iff_iff]
      simp
    rw [same]
    rfl
  | _ => rfl

/-- A token that means a word, or is a symbol, is the same in both texts. -/
theorem SeenAs.eq_of_symbol {first second : Token} (seen : SeenAs first second) (text : String) :
    (second == .symbol text) = (first == .symbol text) := by
  cases seen <;> rfl

/-- A look at the current token that tells whether it is a symbol. -/
theorem follows_isSymbol {text : String} {next twin : Bool → Parse α}
    (yes : Follows exchange (fun state => pre state ∧ state.token = .symbol text) given kind
      (next true) (twin true))
    (no : Follows exchange pre given kind (next false) (twin false)) :
    Follows exchange pre given kind (isSymbol text >>= next) (isSymbol text >>= twin) := by
  refine follows_look Eq (isSymbol_eq text) (isSymbol_eq text) (fun answer => ⟨answer, rfl⟩)
    (fun _ _ _ beside => ((seenAs_of_twins beside.twins).eq_of_symbol text).symm) ?_
  rintro answer _ rfl
  cases answer with
  | false => exact no.weaken (fun _ holds => holds.1) fun _ => List.Subset.refl _
  | true =>
    refine yes.weaken (fun state holds => ⟨holds.1, ?_⟩) fun _ => List.Subset.refl _
    obtain ⟨_, _, same⟩ := holds
    exact eq_of_beq same

/-- Tokens that cannot be told apart mean the same words; strings mean none. -/
theorem SeenAs.means_eq {first second : Token} (seen : SeenAs first second) (text : String) :
    means text second = means text first := by
  cases seen <;> rfl

/-- A look at the current token that tells whether it means a word. -/
theorem follows_isWord {text : String} {next twin : Bool → Parse α}
    (yes : Follows exchange (fun state => pre state ∧ means text state.token = true) given kind
      (next true) (twin true))
    (no : Follows exchange pre given kind (next false) (twin false)) :
    Follows exchange pre given kind (isWord text >>= next) (isWord text >>= twin) := by
  refine follows_look Eq (fun _ _ => rfl) (fun _ _ => rfl) (fun answer => ⟨answer, rfl⟩)
    (fun _ _ _ beside => ((seenAs_of_twins beside.twins).means_eq text).symm) ?_
  rintro answer _ rfl
  cases answer with
  | false => exact no.weaken (fun _ holds => holds.1) fun _ => List.Subset.refl _
  | true => exact yes.weaken (fun state ⟨holds, _, same⟩ => ⟨holds, same⟩) fun _ => List.Subset.refl _

/-- A token that means a word is one that the grammar may look behind. -/
theorem looksAhead_of_means {text : String} {token : Token} (known : means text token = true) :
    token.looksAhead = true := by
  cases token with
  | word => rfl
  | _ => cases known

/-- The states whose token is looked behind. -/
abbrev looking : State → Prop := fun state => state.token.looksAhead = true

/-- A step that only looks at the token behind the current one. -/
structure Glances (exchange : Exchange) (look : Parse γ) : Prop where
  still : ∃ seen : Scope → State → γ, ∀ scope state,
    look scope state = .ok (seen scope state, state)
  follows : Follows exchange looking nothing .plain look look

/-- A question about the token behind the current one, which is answered alike for all strings. -/
theorem glances_of_peek {next : Option (Token × Bool) → Parse γ}
    (answers : ∀ next?, ∃ answer, next next? = pure answer)
    (blind : ∀ value valueToo newline,
      next (some (.string value false, newline)) = next (some (.string valueToo false, newline))) :
    Glances exchange (peek >>= next) := by
  choose answer answered using answers
  obtain rfl : next = fun next? => pure (answer next?) := funext answered
  refine ⟨⟨fun _ state => answer state.peeked, fun scope state => ?_⟩, ?_⟩
  · change (peek scope state >>= fun found => (pure (answer found.1) : Parse γ) scope found.2) = _
    rw [peek_eq]
    rfl
  · exact follows_peek (fun _ => id) blind fun _ => follows_pure rfl fun _ => List.Subset.refl _

/-- A look whose answer does not matter is followed by one whose answer may differ. -/
theorem follows_unseen {look : Parse γ} {next twin : γ → Parse α} (glances : Glances exchange look)
    (each : ∀ answer answerToo,
      Follows exchange pre given kind (next answer) (twin answerToo)) :
    Follows exchange pre given kind (look >>= next) (look >>= twin) := by
  obtain ⟨seen, looks⟩ := glances.still
  refine follows_look (fun _ _ => True) looks looks (fun answer => ⟨answer, trivial⟩)
    (fun _ _ _ _ => trivial) fun answer answerToo _ => ?_
  exact (each answer answerToo).weaken (fun _ holds => holds.1) fun _ => List.Subset.refl _

/-- Behind a step without spots, what it is known to come to may be made use of. -/
theorem Follows.knowing {step : Parse γ} {next twin : γ → Parse α}
    (follows : Follows exchange pre given .plain step step) (mid : γ → State → Prop)
    (comes : ∀ {scope state answer later}, pre state → step scope state = .ok (answer, later) →
      mid answer later)
    (each : ∀ answer, Follows exchange (mid answer) given kind (next answer) (twin answer)) :
    Follows exchange pre given kind (step >>= next) (step >>= twin) := by
  refine follows.bind mid comes ?_
  rintro answer _ ⟨⟩
  exact (each answer).weaken (fun _ => id) fun _ => List.subset_append_left _ _

/-- Behind a look the reading stands where it stood, so what was known of the place is still
known. -/
theorem Follows.standing {look : Parse γ} {next twin : γ → Parse α}
    (follows : Follows exchange pre given .plain look look)
    (still : ∃ seen : Scope → State → γ, ∀ scope state,
      look scope state = .ok (seen scope state, state))
    (each : ∀ answer, Follows exchange pre given kind (next answer) (twin answer)) :
    Follows exchange pre given kind (look >>= next) (look >>= twin) := by
  obtain ⟨seen, still⟩ := still
  refine follows.knowing (fun _ => pre) ?_ each
  intro scope state answer later holds read
  obtain ⟨-, rfl⟩ := Prod.mk.inj (Except.ok.inj ((still scope state).symm.trans read))
  exact holds

/-- A look at the token behind the current one follows where the grammar may look there, and what
was known of the place is kept. -/
theorem follows_glance {look : Parse γ} {next twin : γ → Parse α} (glances : Glances exchange look)
    (looks : ∀ state, pre state → state.token.looksAhead = true)
    (each : ∀ answer, Follows exchange pre given kind (next answer) (twin answer)) :
    Follows exchange pre given kind (look >>= next) (look >>= twin) :=
  (glances.follows.ofNothing.weaken looks fun _ => List.Subset.refl _).standing glances.still each

/-- A look behind a word that may not be there: what it tells matters only when it is. -/
theorem follows_wordAnd {text : String} {look : Parse γ} {next twin : Bool → γ → Parse α}
    (glances : Glances exchange look)
    (blind : ∀ answer answerToo, twin false answer = twin false answerToo)
    (each : ∀ isWord answer, Follows exchange pre given kind (next isWord answer) (twin isWord answer)) :
    Follows exchange pre given kind (isWord text >>= fun isWord => look >>= next isWord)
      (isWord text >>= fun isWord => look >>= twin isWord) := by
  refine follows_isWord ?_ ?_
  · refine follows_glance glances (fun _ holds => looksAhead_of_means holds.2) fun answer => ?_
    exact (each true answer).weaken (fun _ holds => holds.1) fun _ => List.Subset.refl _
  · refine follows_unseen glances fun answer answerToo => ?_
    rw [blind answerToo answer]
    exact each false answer

section Plain

instance plain_pure (answer : α) : Plain exchange (pure answer) :=
  ⟨follows_pure rfl fun _ => List.Subset.refl _⟩

instance plain_fail : Plain exchange (fail : Parse α) := ⟨follows_fail⟩

/-- Two plain steps make one; the second may depend on the answer of the first. -/
theorem plain_behind {step : Parse α} {next : α → Parse β} [Plain exchange step]
    (behind : ∀ answer, Plain exchange (next answer)) : Plain exchange (step >>= next) :=
  ⟨follows_behind fun answer => (behind answer).follows⟩

instance plain_bind {step : Parse α} {next : α → Parse β} [Plain exchange step]
    [behind : ∀ answer, Plain exchange (next answer)] : Plain exchange (step >>= next) :=
  plain_behind behind

instance plain_ite {condition : Prop} [Decidable condition] {first second : Parse α}
    [yes : Plain exchange first] [no : Plain exchange second] :
    Plain exchange (if condition then first else second) := by
  split
  · exact yes
  · exact no

instance plain_read : Plain exchange (read : Parse Scope) :=
  plain_of_look (fun scope _ => scope) (fun _ _ => rfl) fun _ _ => rfl

instance plain_require (condition : Bool) : Plain exchange (require condition) := by
  unfold require
  infer_instance

instance plain_demand (answer? : Option α) : Plain exchange (demand answer?) := by
  unfold demand
  split <;> infer_instance

instance plain_isSymbol (text : String) : Plain exchange (isSymbol text) :=
  plain_of_look _ (isSymbol_eq text)
    fun _ beside => ((seenAs_of_twins beside.twins).eq_of_symbol text).symm

instance plain_isWord (text : String) : Plain exchange (isWord text) :=
  plain_of_look (fun _ state => means text state.token) (fun _ _ => rfl)
    fun _ beside => ((seenAs_of_twins beside.twins).means_eq text).symm

/-- Whether a statement may end before a token. -/
def endsBefore (newline : Bool) : Token → Bool
  | .finish => true
  | .symbol text => text == ";" || text == "\x7d" || newline
  | _ => newline

instance plain_canEnd : Plain exchange canEnd := by
  refine plain_of_look (fun _ state => endsBefore state.newline state.token) ?_ ?_
  · intro scope state
    change (match state.token with
      | .finish => (pure true : Parse Bool)
      | .symbol text => pure (text == ";" || text == "\x7d" || state.newline)
      | _ => pure state.newline) scope state = _
    cases state.token <;> rfl
  · intro state other _ beside
    rw [beside.newline]
    have seen := seenAs_of_twins beside.twins
    rw [State.token, State.token]
    generalize state.lexeme.token = token at seen ⊢
    generalize other.lexeme.token = tokenToo at seen ⊢
    cases seen <;> rfl

/-- A step that changes what has been noted only, in the same way in both texts. -/
theorem plain_modify {change : State → State}
    (still : ∀ state, (change state).lexeme = state.lexeme ∧ (change state).opened = state.opened ∧
      (change state).newline = state.newline ∧ (change state).finished = state.finished)
    (noted : ∀ state other : State, Exchange.NotedAlike state other →
      Exchange.NotedAlike (change state) (change other)) :
    Plain exchange (modify change : Parse Unit) where
  follows := by
    have onward (state : State) : exchange.Onward state (change state) :=
      .of_same (still state).1 (still state).2.1
    refine ⟨?_, ?_, ?_⟩
    · rintro scope state _ later _ ⟨⟩
      exact onward state
    · rintro scope state _ later word _ _ _ _ ⟨⟩
    · rintro scope state other _ later _ _ beside ⟨⟩ _ _ _
      refine ⟨(), change other, rfl, rfl, ?_⟩
      exact beside.of_same (still state).1 (still other).1 (still state).2.2.2 (still other).2.2.2
        (by rw [(still state).2.2.1, (still other).2.2.1, beside.newline])
        (noted state other beside.toNotedAlike)

instance plain_noteScriptOnly : Plain exchange noteScriptOnly :=
  plain_modify (fun _ => ⟨rfl, rfl, rfl, rfl⟩) fun _ _ noted => ⟨rfl, noted.isModule, noted.declared⟩

instance plain_noteModule : Plain exchange noteModule :=
  plain_modify (fun _ => ⟨rfl, rfl, rfl, rfl⟩)
    fun _ _ noted => ⟨noted.scriptOnly, rfl, noted.declared⟩

instance plain_checkTargets (names : List String) : Plain exchange (checkTargets names) := by
  unfold checkTargets
  infer_instance

/-! ## Moves -/

/-- Moving on comes to a token that starts behind the end of the one before. -/
theorem le_of_advance {answer : Unit} (read : advance scope state = .ok (answer, later)) :
    state.lexeme.rest.position ≤ later.lexeme.start.position := by
  have loaded : load state.lexeme.rest scope state = .ok (answer, later) := read
  obtain ⟨trivia, lexeme, noted, found, -, rfl⟩ := of_load loaded
  exact Cursor.le_of_next? found

/-- Moving on goes on in the text: the next token admits no position that the current one does
not, and it can be seen from there. -/
theorem onward_of_advance {answer : Unit} (read : advance scope state = .ok (answer, later)) :
    exchange.Onward state later :=
  Exchange.onward_of_load state.lexeme.leads_rest (Nat.le_refl _) (fun _ => rfl) read

/-- Moving on in both texts: the words that stand in front of where the reading has come to are
accounted for. -/
theorem beside_of_advance {answer : Unit} (beside : exchange.Beside state other)
    (read : advance scope state = .ok (answer, later))
    (quiet : ∀ word : exchange.Word, state.lexeme.rest.position ≤ word.position →
      state.Admits word.position → later.Admits word.position) :
    ∃ otherLater, advance scope other = .ok ((), otherLater) ∧ exchange.Beside later otherLater :=
  Exchange.beside_of_load beside.toNotedAlike beside.twins.rest read
    fun word behind => quiet word behind
      (beside.quiet word (Nat.le_trans state.lexeme.le_rest behind))

instance plain_advance : Plain exchange advance where
  follows := by
    refine ⟨fun _ read => onward_of_advance read, ?_, ?_⟩
    · rintro scope state answer later word _ _ _ _ ⟨⟩
    · intro scope state other answer later _ _ beside read _ _ found
      obtain ⟨otherLater, readToo, besideLater⟩ := beside_of_advance beside read
        fun word _ admits => by
          by_contra outside
          cases found word admits outside
      exact ⟨(), otherLater, readToo, rfl, besideLater⟩

instance plain_eat (text : String) : Plain exchange (eat text) := by
  unfold eat
  infer_instance

instance plain_expect (text : String) : Plain exchange (expect text) := by
  unfold expect
  infer_instance

instance plain_eatWord (text : String) : Plain exchange (eatWord text) := by
  unfold eatWord
  infer_instance

instance plain_expectWord (text : String) : Plain exchange (expectWord text) := by
  unfold expectWord
  infer_instance

instance plain_semicolon : Plain exchange semicolon := by
  unfold semicolon
  infer_instance

end Plain

end Parse

end Script

end PropertyMangling
