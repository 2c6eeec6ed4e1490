import PropertyMangling.Proofs.Embedded.Following.Items
import PropertyMangling.Proofs.Script.Leading
import PropertyMangling.Proofs.Script.Origin.Statements
/-!
# Steps that follow one another: whole programs

A text with some words exchanged is a program when the text is one that names members at all of
these words, or holds them as strings. Such words stand behind the first token, so that what
leads up to it is the same in both texts; both have the same number of words, so that the bounds of
all repetitions are the same; and both are read to their ends.
-/
namespace PropertyMangling

open Script Embedded

namespace Script

/-! ## The ends of programs -/

namespace Parse

variable {α : Type} {scope : Scope} {state later : State}

/-- The last thing that an item was asked for was whether there are more, and there were none. -/
def Stops (item : Parse (Option α)) (later : State) : Prop :=
  ∃ scope before, item scope before = .ok (none, later)

/-- A bounded repetition that succeeds has stopped at a round that found no more. The induction is
on the bound. -/
theorem stops_foldSteps {step : α → Parse (Option α)} {count : Nat} {value answer : α}
    (read : foldSteps step count value scope state = .ok (answer, later)) :
    ∃ value, Stops (step value) later := by
  induction count generalizing value state with
  | zero => cases read
  | succ count inductionHypothesis =>
    obtain ⟨next?, between, ran, rest⟩ := exists_of_bind read
    cases next? with
    | none =>
      cases rest
      exact ⟨_, scope, _, ran⟩
    | some next => exact inductionHypothesis rest

/-- Items one after the other have stopped where one more was asked for and there was none. -/
theorem stops_many {item : Parse (Option α)} {items : List α}
    (read : many item scope state = .ok (items, later)) : Stops item later := by
  obtain ⟨found, between, folded, last⟩ := exists_of_bind read
  cases last
  obtain ⟨_, _, ⟨⟩, repeated⟩ := exists_of_bind folded
  obtain ⟨value, scope, before, ran⟩ := stops_foldSteps repeated
  obtain ⟨item?, _, asked, last⟩ := exists_of_bind ran
  obtain ⟨none, rfl⟩ := Prod.mk.inj (Except.ok.inj last)
  rw [Option.map_eq_none_iff.mp none] at asked
  exact ⟨scope, before, asked⟩

/-- Items that may start with a directive have stopped where one more was asked for and there was
none, strict or not. -/
theorem stops_itemsWithDirective {item : Parse (Option Node)} {items : List Node}
    (read : itemsWithDirective item scope state = .ok (items, later)) : Stops item later := by
  have rest {first : Node} {scope : Scope} {state : State}
      (read : (many item >>= fun rest => pure (first :: rest)) scope state = .ok (items, later)) :
      Stops item later := by
    obtain ⟨_, _, repeated, last⟩ := exists_of_bind read
    cases last
    exact stops_many repeated
  obtain ⟨first?, between, ran, others⟩ := exists_of_bind read
  cases first? with
  | none =>
    cases others
    exact ⟨scope, state, ran⟩
  | some first =>
    dsimp only at others
    split at others
    · change (if hasSemicolon first then _ else _ : Parse (List Node)) scope.strictly between = _ at others
      split at others
      · obtain ⟨_, _, _, others⟩ := exists_of_bind others
        obtain ⟨_, _, _, others⟩ := exists_of_bind others
        exact rest others
      · exact rest others
    · exact rest others

/-- There are no more items only where the text ends: any other token starts an item or fails. -/
theorem finish_of_stops {self : Goal → Parse Node} (stops : Stops (item self) later) :
    later.token = .finish := by
  obtain ⟨scope, before, read⟩ := stops
  have found {step : Parse Node} : Yields (fun item? : Option Node => item?.isSome = true)
      (step >>= fun node => pure (some node)) := yields_behind fun _ => yields_pure rfl
  obtain ⟨current, _, ran, others⟩ := exists_of_bind read
  obtain ⟨isCurrent, rfl⟩ := Prod.mk.inj (Except.ok.inj ran)
  cases current with
  | finish =>
    cases others
    exact isCurrent
  | _ =>
    refine absurd ((yields_behind fun state => Yields.within ?_ _ :
      Yields (fun item? : Option Node => item?.isSome = true) _) _ _ _ _ others) (by simp)
    refine yields_behind fun isImport => yields_behind fun opens => ?_
    split
    · exact found
    refine yields_behind fun isExport => ?_
    split
    · exact found
    refine yields_behind fun isAwait => ?_
    split <;> exact found

end Parse

/-! ## What leads up to a program -/

/-- The line of an interpreter ends at the first line end, or with the text. -/
theorem interpreterLine_eq {line behind : List Char} (onLine : ∀ c ∈ line, isLineEnd c = false)
    (ends : ∀ c ∈ behind.head?, isLineEnd c = true) :
    interpreterLine ('#' :: '!' :: (line ++ behind)) =
      (some (String.ofList line), ⟨behind, 1 + weigh Char.utf8Size ('#' :: '!' :: line)⟩) := by
  have cut : lineOf (line ++ behind) = line := by
    have stopped : behind.takeWhile (fun c => !isLineEnd c) = [] := by
      cases behind with
      | nil => rfl
      | cons c rest => simp [ends c rfl]
    rw [lineOf, List.takeWhile_append_of_pos (by simpa using onLine), stopped, List.append_nil]
  have form : '#' :: '!' :: (line ++ behind) = ('#' :: '!' :: line) ++ behind := rfl
  have width : line.length + 2 = ('#' :: '!' :: line).length := rfl
  rw [interpreterLine, cut, Cursor.skip, foldl_utf8Size, form, width, List.drop_left, List.take_left]

/-- A character that ends a line stands in no name, so that no name reaches over the end of a
line. -/
theorem isNamePart_of_isLineEnd {c : Char} (ends : isLineEnd c = true) : isNamePart c = false := by
  have known : ∀ number, c.toNat = number → c = Char.ofNat number := by
    rintro _ rfl
    exact (Char.ofNat_toNat c).symm
  simp only [isLineEnd, Bool.or_eq_true, beq_iff_eq] at ends
  rcases ends with ((rfl | rfl) | number) | number
  · decide
  · decide
  all_goals
    rw [known _ number]
    decide +kernel

/-- The interpreter's line is the same in front of another text that is the same up to a word. -/
theorem interpreterLine_split (text : List Char) : ∃ front,
    text = front ++ (interpreterLine text).2.text ∧
    (interpreterLine text).2.position = 1 + weigh Char.utf8Size front ∧
    ∀ others, Lexer.Akin (interpreterLine text).2.text others →
      interpreterLine (front ++ others) =
        ((interpreterLine text).1, ⟨others, 1 + weigh Char.utf8Size front⟩) := by
  by_cases named : HasInterpreter text
  · obtain ⟨rest, rfl⟩ := named
    have onLine : ∀ c ∈ rest.takeWhile (fun c => !isLineEnd c), isLineEnd c = false :=
      fun c inside => by simpa using List.mem_takeWhile_imp inside
    have ends : ∀ c ∈ (rest.dropWhile fun c => !isLineEnd c).head?, isLineEnd c = true := by
      intro c first
      have stopped := List.head?_dropWhile_not (fun c => !isLineEnd c) rest
      rw [Option.mem_def.mp first] at stopped
      simpa using stopped
    have read := interpreterLine_eq onLine ends
    rw [List.takeWhile_append_dropWhile] at read
    rw [show ['#', '!'] ++ rest = '#' :: '!' :: rest from rfl, read]
    refine ⟨_, ?_, rfl, fun others akin => interpreterLine_eq onLine ?_⟩
    · exact congrArg ('#' :: '!' :: ·) List.takeWhile_append_dropWhile.symm
    · -- behind the line the other text goes on with the same line end, or it ends as well
      revert ends akin
      dsimp only
      generalize rest.dropWhile (fun c => !isLineEnd c) = behind
      rintro ends (_ | ⟨d, _⟩ | ⟨part, _⟩) c first
      · cases first
      · exact ends c first
      · have none := isNamePart_of_isLineEnd (ends _ rfl)
        rw [part] at none
        cases none
  · rw [interpreterLine_of_not named]
    refine ⟨[], rfl, rfl, fun others akin => interpreterLine_of_not fun there => named ?_⟩
    exact (akin.prefix_iff (by decide)).mpr there

/-- An opening is made of the interpreter's line and the trivia behind it. -/
theorem opening?_eq (text : String) : opening? text =
    ((interpreterLine text.toList).2.trivia true).map fun found =>
      ⟨(interpreterLine text.toList).1, (interpreterLine text.toList).2, found.1, found.2⟩ := by
  rw [opening?]
  generalize interpreterLine text.toList = named
  obtain ⟨interpreter?, place⟩ := named
  dsimp only
  cases place.trivia true <;> rfl

/-- What leads up to the first token is the same in front of another text that goes on in the same way
up to a word. -/
theorem Opening.split {text : String} {opening : Opening} (opened : opening? text = some opening) :
    ∃ front, text.toList = front ++ opening.first.text ∧
      opening.first.position = 1 + weigh Char.utf8Size front ∧
      ∀ (other : String) (others : List Char), other.toList = front ++ others →
        Lexer.Akin opening.first.text others → ∃ openingToo, opening? other = some openingToo ∧
          openingToo.trivia.Agrees opening.trivia ∧ openingToo.origin = opening.origin ∧
          openingToo.first = ⟨others, opening.first.position⟩ := by
  rw [opening?_eq] at opened
  obtain ⟨⟨trivia, first⟩, walked, rfl⟩ := Option.map_eq_some_iff.mp opened
  obtain ⟨line, whole, position, reads⟩ := interpreterLine_split text.toList
  obtain ⟨gap, further, positionGap, passes⟩ := Cursor.trivia_split walked
  refine ⟨line ++ gap, by rw [List.append_assoc, ← further, ← whole], ?_, ?_⟩
  · rw [positionGap, position, weigh_append, Nat.add_assoc]
  intro other others wholeToo akin
  rw [List.append_assoc] at wholeToo
  have akinGap := akin.append gap
  rw [← further] at akinGap
  obtain ⟨triviaToo, agrees, walkedToo⟩ := passes (1 + weigh Char.utf8Size line) others akin
  rw [← position, ← positionGap] at agrees walkedToo
  have found : opening? other = some ⟨(interpreterLine text.toList).1,
      ⟨gap ++ others, 1 + weigh Char.utf8Size line⟩, triviaToo, ⟨others, first.position⟩⟩ := by
    rw [opening?_eq, wholeToo, reads _ akinGap, ← position, walkedToo]
    rfl
  refine ⟨_, found, agrees.agrees, ?_, rfl⟩
  simp only [Opening.origin, agrees.document_eq]

end Script

/-! ## Words are counted -/

/-- Behind a character of no name no word goes on, whatever was counted before it. -/
theorem Script.foldl_countCharacter_apart {text : List Char} {c : Char}
    (last : text.getLast? = some c) (apart : isNamePart c = false) (count : Nat × Bool) :
    (text.foldl countCharacter count).2 = false := by
  obtain ⟨front, rfl⟩ := List.getLast?_eq_some_iff.mp last
  rw [List.foldl_append]
  exact apart

/-- A name counts for one, whatever its length, when it stands behind a character of no name. So
exchanging names keeps the extent of a text. -/
theorem Script.foldl_countCharacter_name {chars : List Char} (filled : chars ≠ [])
    (parts : ∀ c ∈ chars, isNamePart c = true) {count : Nat × Bool} (apart : count.2 = false) :
    chars.foldl countCharacter count = (count.1 + 1, true) := by
  obtain ⟨c, rest, rfl⟩ := List.exists_cons_of_ne_nil filled
  obtain ⟨part, others⟩ := List.forall_mem_cons.mp parts
  have goesOn : ∀ d ∈ rest, countCharacter (count.1 + 1, true) d = (count.1 + 1, true) := by
    intro d inside
    simp [countCharacter, others d inside]
  rw [List.foldl_cons, countCharacter, part, apart]
  change rest.foldl countCharacter (count.1 + 1, true) = _
  clear parts
  induction rest with
  | nil => rfl
  | cons d rest inductionHypothesis =>
    obtain ⟨here, further⟩ := List.forall_mem_cons.mp goesOn
    rw [List.foldl_cons, here]
    exact inductionHypothesis (List.cons_ne_nil _ _) (List.forall_mem_cons.mp others).2 further

/-- A text with some words exchanged for others has as many words, and as many other characters.

By induction from the end of the text: in front of a word that is exchanged stands a character of no
name, so that the word counts for one, and so does the name that it is exchanged for. -/
theorem Embedded.TakesNames.extentOf_eq {rename : String → String} {parts : List Piece}
    (takes : TakesNames rename parts)
    (led : ∀ front run behind, parts = front ++ .word run :: behind →
      ∃ c, (textOf front).getLast? = some c ∧ isNamePart c = false) :
    extentOf (renderPieces rename parts) = extentOf (textOf parts) := by
  suffices same : (renderPieces rename parts).foldl countCharacter (0, false) =
      (textOf parts).foldl countCharacter (0, false) from congrArg Prod.fst same
  induction parts using List.reverseRecOn with
  | nil => rfl
  | append_singleton front part inductionHypothesis =>
    have same := inductionHypothesis
      (fun run inside => takes run (List.mem_append_left _ inside))
      fun before run behind split => led before run (behind ++ [part]) (by rw [split]; simp)
    rw [renderPieces_append, textOf_append, List.foldl_append, List.foldl_append, same]
    cases part with
    | copied c => rfl
    | word run =>
      obtain ⟨isRun, plain⟩ := takes run (List.mem_append_right _ List.mem_cons_self)
      obtain ⟨c, last, apart⟩ := led front run [] rfl
      have none := foldl_countCharacter_apart last apart (0, false)
      have filled : (rename (String.ofList run)).toList ≠ [] := by
        obtain ⟨d, others, name, -⟩ := isPlainName_iff.mp plain
        rw [name]
        exact List.cons_ne_nil _ _
      have word : textOf [.word run] = run := List.append_nil run
      have name : renderPieces rename [.word run] = (rename (String.ofList run)).toList :=
        List.append_nil _
      rw [word, name, foldl_countCharacter_name filled (isNamePart_of_isPlainName plain) none,
        foldl_countCharacter_name isRun.1 (fun d inside => isNamePart_of_isPart (isRun.2 d inside)) none]

/-! ## Both programs -/

section Programs

variable {exchange : Exchange} {scope : Scope} {later : State} {trivia triviaToo : Trivia}
  {first firstToo : Cursor} {levels finished : Nat} {nodes : List Node}

namespace Script.Parse

/-- The items of a program that was read, taken apart: the first token and what is noted of it,
the items behind it, and the check of the whole. -/
theorem of_items (read : items trivia first levels scope {} = .ok ((nodes, finished), later)) :
    ∃ lexeme noted between, Lexeme.at? first = some lexeme ∧ lexeme.start = first ∧
      Noted scope lexeme noted ∧
      itemsWithDirective (item (reach levels)) scope (arrived trivia lexeme 1 1 noted {}) =
        .ok (nodes, between) ∧ (between.isModule && between.scriptOnly) = false := by
  obtain ⟨_, _, come, others⟩ := exists_of_bind read
  obtain ⟨lexeme, noted, found, start, judged, rfl⟩ := of_arrive come
  obtain ⟨read, between, ran, others⟩ := exists_of_bind others
  obtain ⟨_, _, whole, others⟩ := exists_of_bind others
  obtain ⟨_, _, ⟨⟩, required⟩ := exists_of_bind whole
  obtain ⟨fits, rfl⟩ := of_require required
  obtain ⟨_, _, ⟨⟩, last⟩ := exists_of_bind others
  cases last
  exact ⟨lexeme, noted, later, found, start, judged, ran, by simpa only [Bool.not_eq_true'] using fits⟩

/-- Items that are read behind the first token are the items of a program. -/
theorem items_eq {lexeme : Lexeme} {noted : Bool} {between : State}
    (found : Lexeme.at? first = some lexeme) (judged : Noted scope lexeme noted)
    (read : itemsWithDirective (item (reach levels)) scope (arrived trivia lexeme 1 1 noted {}) =
      .ok (nodes, between)) (fits : (between.isModule && between.scriptOnly) = false) :
    items trivia first levels scope {} = .ok ((nodes, between.finished), between) := by
  change (arrive trivia first 1 1 scope {} >>= fun answer => _) = _
  rw [arrive_eq 1 1 found judged]
  change (itemsWithDirective (item (reach levels)) scope _ >>= fun answer => _) = _
  rw [read]
  change (require _ scope between >>= fun answer => _) = _
  rw [fits]
  rfl

/-- The first token stands in the text when it is opened there. -/
theorem stands_arrived {base : Cursor} {lexeme : Lexeme} {noted : Bool} (holds : exchange.Holds base)
    (opens : base.Opens 1 lexeme.start) : exchange.Stands (arrived trivia lexeme 1 1 noted {}) :=
  ⟨base, holds, opens⟩

/-- No word stands at one of no spots, so exchanging it touches nothing here. -/
theorem not_in_nothing (word : exchange.Word) : ¬word.In nothing := List.not_mem_nil

/-- The items of a program are read alike in both texts, in any number of levels: the circle of
the goals is closed and items follow one another. -/
theorem program_follows (exchange : Exchange) (levels : Nat) :
    Follows exchange anywhere nothing .nodes (itemsWithDirective (item (reach levels)))
      (itemsWithDirective (item (reach levels))) :=
  follows_itemsWithDirective (item_follows (reachesAlike exchange levels))

/-- Words that are exchanged stand behind the first token of a program that has all of them for its
members and strings. -/
theorem lt_of_spots {base : Cursor} (holds : exchange.Holds base) (opens : base.Opens 1 first)
    (read : items trivia first levels scope {} = .ok ((nodes, finished), later))
    (word : exchange.Word) (named : word.In (Kind.nodes.spots nodes)) :
    first.position < word.position := by
  obtain ⟨lexeme, noted, between, -, rfl, -, ran, -⟩ := of_items read
  obtain ⟨origin, -⟩ := (program_follows exchange levels).keeps word trivial
    (stands_arrived holds opens) ran (fun none => absurd none (not_in_nothing word)) named
  exact (origin.resolve_left (not_in_nothing word)).current.lt

/-- The items of a text are read of the other text as well, when the words that are exchanged are
names of members and strings. -/
theorem exists_items {base : Cursor} (holds : exchange.Holds base) (opens : base.Opens 1 first)
    (joins : exchange.Joins first firstToo) (meets : exchange.Meets 1 1)
    (agrees : triviaToo.Agrees trivia)
    (read : items trivia first levels scope {} = .ok ((nodes, finished), later))
    (named : ∀ word : exchange.Word, word.In (Kind.nodes.spots nodes)) :
    ∃ nodesToo finishedToo laterToo,
      items triviaToo firstToo levels scope {} = .ok ((nodesToo, finishedToo), laterToo) ∧
      nodes.map Node.outline = nodesToo.map Node.outline := by
  obtain ⟨lexeme, noted, between, -, rfl, judged, ran, fits⟩ := of_items read
  have stands : exchange.Stands (arrived trivia lexeme 1 1 noted {}) := stands_arrived holds opens
  have follows := program_follows exchange levels
  -- every word is a spot, which the first token admits
  have quiet (word : exchange.Word) :
      (arrived trivia lexeme 1 1 noted {}).Admits word.position ∧ ¬between.Admits word.position := by
    obtain ⟨origin, outside⟩ := follows.keeps word trivial stands ran
      (fun none => absurd none (not_in_nothing word)) (named word)
    exact ⟨origin.resolve_left (not_in_nothing word), outside⟩
  obtain ⟨twin, foundToo, rfl, twins⟩ := Exchange.exists_twin joins
    fun position run starts _ => (quiet ⟨position, run, starts⟩).1.current
  have beside : exchange.Beside (arrived trivia lexeme 1 1 noted {})
      (arrived triviaToo twin 1 1 noted {}) :=
    Exchange.beside_arrived ⟨rfl, rfl, rfl⟩ agrees twins meets fun word _ => (quiet word).1
  have informed : between.Informed := by
    have ended : between.token = .finish := finish_of_stops (stops_itemsWithDirective ran)
    rw [State.Informed, ended]
    intro looks
    cases looks
  obtain ⟨nodesToo, betweenToo, ranToo, same, besideLater⟩ := follows.agrees trivial stands beside ran
    informed (fun word none => absurd none (not_in_nothing word)) fun word _ _ => named word
  refine ⟨nodesToo, _, _, items_eq foundToo (Exchange.noted_of_twins twins judged) ranToo ?_, same⟩
  rw [besideLater.isModule, besideLater.scriptOnly, fits]

end Script.Parse

namespace Embedded.Exchange

variable {front rest : List Piece} {place other : Cursor}

/-- In front of a word that is exchanged stands a character of no name. -/
theorem Splits.led (splits : exchange.Splits front rest place other)
    (behindPlace : ∀ word : exchange.Word, place.position < word.position) (before : List Piece)
    (run : List Char) (behind : List Piece) (split : rest = before ++ .word run :: behind) :
    ∃ c, (textOf before).getLast? = some c ∧ isNamePart c = false := by
  subst split
  have later := behindPlace ⟨_, run, splits.passed.startsAt⟩
  dsimp only at later
  have filled : textOf before ≠ [] := by
    intro none
    rw [none, weigh_nil] at later
    omega
  have whole : exchange.parts = (front ++ before) ++ .word run :: behind := by
    rw [splits.split, List.append_assoc]
  have last : (textOf (front ++ before)).getLast? = (textOf before).getLast? := by
    rw [textOf_append, List.getLast?_append_of_ne_nil _ filled]
  have placed := exchange.placed _ run behind whole
  rcases last ▸ placed.led with point | ⟨quote, isQuote, closing, -⟩
  · exact ⟨'.', point, by decide⟩
  · refine ⟨quote, closing, ?_⟩
    rcases isQuote with rfl | rfl <;> decide

/-- Behind places that belong together both texts have the same extent. -/
theorem Joins.extentOf_eq (joins : exchange.Joins place other)
    (behindPlace : ∀ word : exchange.Word, place.position < word.position) :
    extentOf other.text = extentOf place.text := by
  obtain ⟨front, rest, splits⟩ := joins
  have takes := exchange.takes
  rw [splits.split] at takes
  rw [splits.text, splits.textToo]
  exact (takes.behind front).extentOf_eq (splits.led behindPlace)

/-- The place where positions start to count belongs to one of the other text, when all words are
behind it. -/
theorem exists_joins {lead : List Char} {base : Cursor} (text : textOf exchange.parts = lead ++ base.text)
    (position : base.position = 1) (weight : exchange.lead = weigh Char.utf8Size lead)
    (behindLead : ∀ front run behind, exchange.parts = front ++ .word run :: behind →
      exchange.lead < weigh Char.utf8Size (textOf front)) :
    ∃ textToo, renderPieces exchange.rename exchange.parts = lead ++ textToo ∧
      exchange.Joins base ⟨textToo, 1⟩ := by
  rcases exists_word_or_copied text with
    ⟨rest, split, textRest⟩ | ⟨before, others, run, rest, split, rfl, filled⟩
  · have splits : exchange.Splits (lead.map .copied) rest base
        ⟨renderPieces exchange.rename rest, 1⟩ := {
      split := split
      text := textRest.symm
      position := by rw [position, weight, textOf_copied]
      textToo := rfl
      positionToo := by rw [weight, renderPieces_copied]
      posToo := Nat.one_pos }
    exact ⟨_, by rw [split, renderPieces_map_copied], _, _, splits⟩
  · have inside := behindLead _ run rest split
    rw [weight, weigh_append, textOf_copied] at inside
    omega

end Embedded.Exchange

namespace Script

/-- A run of characters is a part of the source, behind some others, that a program names a member with
or that is all of one of its strings; the flag says whether the keys of class members count. -/
def Program.NamesAt (program : Program) (keys : Bool) (front run : List Char) : Prop :=
  ∃ span ∈ program.spots keys, program.lead + span.lo = 1 + weigh Char.utf8Size front ∧
    program.lead + span.hi = 1 + weigh Char.utf8Size (front ++ run)

/-- Items that are read behind an opening are those of a program. -/
theorem Program.exists_of_items {source : String} {opening : Opening}
    (opened : opening? source = some opening)
    (read : Parse.items opening.trivia
      ⟨opening.first.text, 1 + (opening.first.position - opening.origin)⟩
      (Parse.levelsFor (extentOf opening.first.text)) { size := extentOf opening.first.text } {} =
        .ok ((nodes, finished), later)) :
    ∃ program, Program.parse source = .ok program ∧ program.items = nodes := by
  have made : opening.items = .ok (nodes, finished) := by
    unfold Opening.items
    dsimp only
    rw [read]
    rfl
  unfold Program.parse
  rw [opened]
  dsimp only
  rw [made]
  exact ⟨_, rfl, rfl⟩

/-- The place where the positions of a program start to count: the characters in front of it are as
many as the program says, and its first token is opened there. -/
theorem Program.exists_base {source : String} {program : Program} {opening : Opening}
    (parsed : Program.parse source = .ok program) (opened : opening? source = some opening) :
    ∃ (lead : List Char) (base : Cursor), source.toList = lead ++ base.text ∧ base.position = 1 ∧
      program.lead = weigh Char.utf8Size lead ∧
      base.Opens 1 ⟨opening.first.text, 1 + (opening.first.position - opening.origin)⟩ := by
  obtain ⟨place, ⟨lead, text, position⟩, ⟨passed, behind, further⟩, origin, starts⟩ :=
    Opening.opens opened
  have position : place.position = 1 + weigh Char.utf8Size lead := position
  refine ⟨lead, ⟨place.text, 1⟩, text, rfl, ?_, ⟨place.text, 1⟩, .refl _, ⟨passed, behind, ?_⟩, rfl, ?_⟩
  · rw [Program.lead_of_opening parsed opened]
    omega
  · change 1 + (opening.first.position - opening.origin) = 1 + weigh Char.utf8Size passed
    omega
  · refine starts.imp_left fun atFirst => ?_
    rw [← atFirst, origin, Nat.sub_self]

/-- Where a program names a member, or has a string, at every word that is exchanged, the words are at
spots of its items. -/
theorem Program.word_in_spots {program : Program} (lead : exchange.lead = program.lead)
    (named : ∀ front run behind, exchange.parts = front ++ .word run :: behind →
      program.NamesAt (namesNoConstructor exchange.rename run) (textOf front) run)
    (word : exchange.Word) : word.In (Parse.Kind.nodes.spots program.items) := by
  obtain ⟨position, run, starts⟩ := word
  obtain ⟨front, behind, split, here⟩ := id starts
  obtain ⟨span, inside, lo, hi⟩ := named front run behind split
  rw [← lead] at lo hi
  rw [weigh_append] at hi
  have same : span = Exchange.Word.span ⟨position, run, starts⟩ := by
    obtain ⟨low, high⟩ := span
    simp only [Exchange.Word.span, Span.mk.injEq]
    dsimp only at lo hi
    omega
  rw [same, Program.spots, spotsOf_eq_flatMap] at inside
  exact inside

/-- A text with some words exchanged is a program when the text is one that names its members with
these words and holds them as strings, and it has the same outline. -/
theorem Program.exists_of_parse {code other : String} {program : Program}
    (parsed : Program.parse code = .ok program) (lead : exchange.lead = program.lead)
    (text : textOf exchange.parts = code.toList)
    (textToo : renderPieces exchange.rename exchange.parts = other.toList)
    (named : ∀ front run behind, exchange.parts = front ++ .word run :: behind →
      program.NamesAt (namesNoConstructor exchange.rename run) (textOf front) run) :
    ∃ programToo, Program.parse other = .ok programToo ∧
      program.items.map Node.outline = programToo.items.map Node.outline := by
  obtain ⟨opening, finished, opened, read⟩ := Program.exists_opening parsed
  obtain ⟨later, made⟩ := Opening.exists_later read
  obtain ⟨leadText, base, whole, position, weight, opens⟩ := Program.exists_base parsed opened
  rw [← lead] at weight
  have holds : exchange.Holds base := ⟨leadText, by rw [text, whole], by rw [position, weight]⟩
  -- every word is at a spot, and all spots are behind the first token
  have spots := Program.word_in_spots lead named
  have behindFirst (word : exchange.Word) := Parse.lt_of_spots holds opens made word (spots word)
  have afterLead : ∀ front run behind, exchange.parts = front ++ .word run :: behind →
      exchange.lead < weigh Char.utf8Size (textOf front) := by
    intro front run behind split
    obtain ⟨span, -, lo, -⟩ := named front run behind split
    have further := behindFirst ⟨span.lo, run, front, behind, split, by omega⟩
    dsimp only at further
    omega
  obtain ⟨baseToo, wholeToo, joinsBase⟩ :=
    Exchange.exists_joins (text.trans whole) position weight afterLead
  obtain ⟨passed, fromBase, atFirst⟩ := opens.leads
  obtain ⟨firstText, further, joins⟩ := joinsBase.passed fromBase fun place run starts _ => by
    have later := behindFirst ⟨place, run, starts⟩
    dsimp only at later atFirst
    omega
  have further : baseToo = passed ++ firstText := further
  have start : base.position + weigh Char.utf8Size passed =
      1 + (opening.first.position - opening.origin) := atFirst.symm
  have startToo : 1 + weigh Char.utf8Size passed = 1 + (opening.first.position - opening.origin) := by
    rw [← start, position]
  rw [start] at joins
  dsimp only at joins
  rw [startToo] at joins
  -- the same leads up to the first token of the other text
  obtain ⟨front, wholeFront, -, exchanged⟩ := Opening.split opened
  obtain rfl : front = leadText ++ passed := by
    refine List.append_cancel_right (wholeFront.symm.trans ?_)
    rw [whole, fromBase, List.append_assoc]
  obtain ⟨openingToo, openedToo, agrees, origin, first⟩ := exchanged other firstText
    (by rw [← textToo, wholeToo, further, List.append_assoc]) joins.akin
  obtain ⟨nodesToo, finishedToo, laterToo, madeToo, same⟩ := Parse.exists_items holds opens joins
    (position ▸ joinsBase.meets) agrees made spots
  have extent : extentOf firstText = extentOf opening.first.text := joins.extentOf_eq behindFirst
  have reads : Parse.items openingToo.trivia
      ⟨openingToo.first.text, 1 + (openingToo.first.position - openingToo.origin)⟩
      (Parse.levelsFor (extentOf openingToo.first.text)) { size := extentOf openingToo.first.text } {} =
        .ok ((nodesToo, finishedToo), laterToo) := by
    rw [first, origin, extent]
    exact madeToo
  obtain ⟨programToo, parsedToo, rfl⟩ := Program.exists_of_items openedToo reads
  exact ⟨programToo, parsedToo, same⟩

end Script

end Programs

end PropertyMangling
