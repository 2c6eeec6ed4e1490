import PropertyMangling.Proofs.Embedded.Following.Steps
/-!
# What steps that follow one another answer

Names are the same in both texts, wherever they stand. Strings are the same or hold a word
that is exchanged, and nodes have the same outline. Spots are counted for strings and for
nodes, and for what is made of them; a repetition hands the spots of one round to the next.
-/
namespace PropertyMangling.Script

open Embedded

/-- Strings and keys in quotes. -/
def Node.isLiteral : Node → Bool
  | .string _ | .keyString _ => true
  | _ => false

namespace Parse

variable {exchange : Exchange} {α β γ : Type} {pre : State → Prop} {given more : Bool → List Span}
  {kind : Kind α} {wanted : Kind β} {scope : Scope} {state other later : State}

/-! ## Names and strings -/

/-- What is asked of names: they are the same, wherever they stand. -/
def Kind.name : Kind Name := .outlined Name.text fun _ _ => []

/-- A position is read in both texts. Positions behind an exchanged word differ between the texts,
so nothing is asked of them. -/
theorem follows_position : Follows exchange pre given .place position position :=
  follows_seen (fun _ _ => rfl) (fun _ _ => rfl) (fun _ _ => rfl) fun _ _ => rfl

/-- A span is read in both texts, from whatever positions each of them was given. -/
theorem follows_spanFrom (start startToo : Nat) :
    Follows exchange pre given .place (spanFrom start) (spanFrom startToo) :=
  follows_seen (fun _ _ => rfl) (fun _ _ => rfl) (fun _ _ => rfl) fun _ _ => rfl

/-- What follows a position has to follow from any two positions, since nothing is known of
them. -/
theorem follows_at {next twin : Nat → Parse α}
    (behind : ∀ start startToo, Follows exchange anywhere given kind (next start) (twin startToo)) :
    Follows exchange pre given kind (position >>= next) (position >>= twin) :=
  follows_position.andAlso (fun _ _ => rfl) fun start startToo _ => behind start startToo

/-- What follows a span has to follow from any two spans, which the nodes of both texts then keep
apart. -/
theorem follows_over {start startToo : Nat} {next twin : Span → Parse α}
    (behind : ∀ span spanToo, Follows exchange anywhere given kind (next span) (twin spanToo)) :
    Follows exchange pre given kind (spanFrom start >>= next) (spanFrom startToo >>= twin) :=
  (follows_spanFrom start startToo).andAlso (fun _ _ => rfl) fun span spanToo _ => behind span spanToo

/-- The span of the current token is read in both texts, and may differ between them. -/
theorem follows_tokenSpan : Follows exchange pre given .place tokenSpan tokenSpan :=
  follows_seen (fun _ _ => rfl) (fun _ _ => rfl) (fun _ _ => rfl) fun _ _ => rfl

/-- How a token is written does not matter where it is a number. -/
theorem follows_source : Follows exchange pre given .place Parse.source Parse.source :=
  follows_seen (fun _ _ => rfl) (fun _ _ => rfl) (fun _ _ => rfl) fun _ _ => rfl

/-- A name is read alike in both texts. It is never a spot itself: the names of members are read
by a step of their own. -/
theorem anyName_follows : Follows exchange pre given .name anyName anyName := by
  refine follows_token (fun _ _ => rfl) fun token => ?_
  split
  · refine follows_tokenSpan.andThen fun span spanToo _ => follows_behind fun _ => ?_
    exact follows_pure rfl fun _ => List.nil_subset _
  · exact follows_fail


/-- What is asked of strings: the text is the same or a word that is exchanged, and both end on the
same side of all other places. -/
structure QuotedAlike (exchange : Exchange) (literal twin : Quoted) : Prop where
  outline : literal.outline = twin.outline
  ends : exchange.Sides literal.span.hi twin.span.hi
  text : literal.value = twin.value ∨ ∃ word : exchange.Word, word.span = literal.spot ∧
    literal.value = String.ofList word.run ∧ twin.value = exchange.rename (String.ofList word.run)

/-- A string, whose text is its spot. -/
def Kind.quoted (exchange : Exchange) : Kind Quoted where
  alike := QuotedAlike exchange
  spots literal _ := [literal.spot]
  total literal := by
    obtain ⟨hi, sides⟩ := exchange.exists_sides literal.span.hi
    exact ⟨{ literal with span := ⟨literal.span.lo, hi⟩ }, rfl, sides, .inl rfl⟩

/-- The current token as a string literal, if it is a string. -/
def literalOf (state : State) (value : String) : Quoted :=
  ⟨⟨state.opened, state.lexeme.rest.position⟩, value, some state.lexeme.source⟩

/-- At a string the step answers with the current token and passes it, which spells the step out
once for all uses. -/
theorem quoted_of_string {value : String} {legacy : Bool}
    (isString : state.token = .string value legacy) :
    quoted scope state = (advance >>= fun _ => pure (literalOf state value)) scope state := by
  rw [quoted, bind_token, isString]
  rfl

/-- A string that was read is the current token as it stood, and the reading has moved on behind
it. -/
theorem of_quoted {literal : Quoted} (read : quoted scope state = .ok (literal, later)) :
    ∃ value legacy, state.token = .string value legacy ∧ literal = literalOf state value ∧
      advance scope state = .ok ((), later) := by
  obtain ⟨token, _, ran, others⟩ := exists_of_bind read
  obtain ⟨rfl, rfl⟩ := Prod.mk.inj (Except.ok.inj ran)
  cases current : state.token with
  | string value legacy =>
    rw [quoted_of_string current] at read
    obtain ⟨_, _, passed, last⟩ := exists_of_bind read
    cases last
    exact ⟨value, legacy, rfl, rfl, passed⟩
  | _ =>
    rw [current] at others
    cases others

/-- A string that is a word that is exchanged counts as opened where it starts, since no comment
leads in a word. -/
theorem opened_eq {run : List Char} (stands : exchange.Stands state)
    (starts : exchange.StartsAt (state.opened + 1) run) :
    state.opened = state.lexeme.start.position := by
  obtain ⟨base, holds, place, toPlace, -, same, rfl | mark | mark⟩ := stands
  · exact same.symm
  all_goals
    obtain ⟨rest, text⟩ := List.head?_eq_some_iff.mp mark
    rw [← same] at starts
    rcases (holds.leads toPlace).led text starts with point | ⟨isQuote, -⟩
    · cases point
    · rcases isQuote with quote | quote <;> cases quote

/-- A word that is the spot of the current string stands directly behind its quote. -/
theorem position_eq_of_spot {value : String} {word : exchange.Word} (stands : exchange.Stands state)
    (spot : word.span = (literalOf state value).spot) :
    word.position = state.lexeme.start.position + 1 := by
  have position : word.position = state.opened + 1 := congrArg Span.lo spot
  rw [position, opened_eq stands (position ▸ word.starts)]

/-- A string is read in both texts. Its text may be a word that is exchanged, which then starts
directly behind the quotation mark and is passed with the token. -/
theorem quoted_follows : Follows exchange pre given (.quoted exchange) quoted quoted := by
  refine Follows.always ⟨?_, ?_, ?_⟩
  · intro scope state literal later _ read
    obtain ⟨_, _, _, _, passed⟩ := of_quoted read
    exact onward_of_advance passed
  · intro scope state literal later word _ stands read _ inside
    obtain ⟨value, legacy, isString, rfl, passed⟩ := of_quoted read
    have position := position_eq_of_spot stands (List.mem_singleton.mp inside)
    have width := Lexeme.string_le_rest isString
    have behind := le_of_advance passed
    have unlooked : state.token.looksAhead = false := by rw [isString]; rfl
    refine ⟨.inr ?_, fun admits => ?_⟩
    · rw [State.Admits, State.last_of_looks unlooked]
      exact .inr (.inr ⟨⟨value, legacy, isString⟩, position⟩)
    · have further := admits.current.lt
      omega
  · intro scope state other literal later _ stands beside read _ _ found
    obtain ⟨value, legacy, isString, rfl, passed⟩ := of_quoted read
    have width := Lexeme.string_le_rest isString
    obtain ⟨otherLater, passedToo, besideLater⟩ := beside_of_advance beside passed
      fun word behind admits => by
        by_contra outside
        have spot := List.mem_singleton.mp (found word admits outside)
        have position := position_eq_of_spot stands spot
        omega
    have alike : ∃ valueToo legacyToo, other.token = .string valueToo legacyToo ∧
        QuotedAlike exchange (literalOf state value) (literalOf other valueToo) := by
      have ends := beside.twins.rest.meets.sides
      cases beside.twins.written with
      | same token source =>
        refine ⟨value, legacy, token.trans isString, ?_, ends, .inl rfl⟩
        simp [literalOf, Quoted.outline, source]
      | @string run starts token tokenToo source sourceToo wide =>
        obtain ⟨rfl, rfl⟩ := Token.string.inj (isString.symm.trans token)
        let word : exchange.Word := ⟨_, run, starts⟩
        have spot := found word (beside.quiet word (Nat.le_succ _)) fun admits => by
          have further := admits.current.lt
          have behind := le_of_advance passed
          have here : word.position = state.lexeme.start.position + 1 := rfl
          omega
        refine ⟨_, false, tokenToo, ?_, ends, .inr ⟨word, List.mem_singleton.mp spot, rfl, rfl⟩⟩
        simp [literalOf, Quoted.outline, Option.filter, source, sourceToo]
    obtain ⟨valueToo, legacyToo, isStringToo, same⟩ := alike
    refine ⟨_, otherLater, ?_, same, besideLater⟩
    rw [quoted_of_string isStringToo]
    change (advance scope other >>= fun _ => _) = _
    rw [passedToo]
    rfl

/-- A step that looks at the current token is plain when no string's text decides what it does and
each of its branches is plain. -/
theorem plain_of_token {next : Token → Parse α}
    (blind : ∀ value valueToo, next (.string value false) = next (.string valueToo false))
    (each : ∀ token, Plain exchange (next token)) : Plain exchange (Parse.token >>= next) where
  follows := follows_token blind fun token => follows_plain (next token)

instance plain_isVariableName : Plain exchange isVariableName := by
  refine plain_of_token (fun _ _ => rfl) fun token => ?_
  split <;> infer_instance

/-- A name that may be bound is read alike in both texts; what the scope requires of the word is
the same, since the word is. -/
theorem freeName_follows : Follows exchange pre given .name freeName freeName := by
  refine follows_token (fun _ _ => rfl) fun token => ?_
  split
  · refine follows_behind fun scope => ?_
    extract_lets last
    have lastFollows : ∀ passed, Follows exchange anywhere given .name (last passed) (last passed) :=
      fun _ => follows_behind fun _ => anyName_follows
    split
    · refine follows_behind fun _ => follows_behind fun _ => follows_behind fun _ => ?_
      split
      · exact follows_behind lastFollows
      · exact lastFollows ()
    · exact lastFollows ()
  · exact follows_fail

/-- The name of a variable is read alike in both texts, as any free name is. -/
theorem variableName_follows : Follows exchange pre given .name variableName variableName :=
  follows_behind fun _ => follows_behind fun _ => freeName_follows

/-- The name of a binding is read alike in both texts, and what is required or noted of it depends
on its text alone. -/
theorem bindingName_follows : Follows exchange pre given .name bindingName bindingName := by
  refine freeName_follows.andThen fun name nameToo alike => ?_
  obtain ⟨span, text⟩ := name
  obtain ⟨spanToo, textToo⟩ := nameToo
  obtain rfl : text = textToo := alike
  refine follows_behind fun scope => follows_behind fun _ => follows_behind fun _ => ?_
  extract_lets last lastToo
  have lastFollows {given : Bool → List Span} (passed : Unit) :
      Follows exchange anywhere given .name (last passed) (lastToo passed) :=
    follows_pure rfl fun _ => List.nil_subset _
  split
  · exact follows_behind lastFollows
  · exact lastFollows ()

/-- A name that may be left out. -/
def Kind.someName : Kind (Option Name) := .outlined (Option.map Name.text) fun _ _ => []

/-- A name that may be left out is left out in both texts or in none, since the token that decides
is no string. -/
theorem optionalName_follows : Follows exchange pre given .someName optionalName optionalName := by
  refine follows_token (fun _ _ => rfl) fun token => ?_
  split
  · refine follows_behind fun scope => ?_
    split
    · exact follows_pure rfl fun _ => List.nil_subset _
    · refine bindingName_follows.andThen fun name nameToo alike => ?_
      exact follows_pure (congrArg some alike) fun _ => List.nil_subset _
  · exact follows_pure rfl fun _ => List.nil_subset _

/-! ## Nodes -/

/-- What is asked of nodes: their outlines are the same. A string may be the directive that opens a
program, and a key may name a constructor, so that more is asked of these. -/
structure Alike (exchange : Exchange) (node twin : Node) : Prop where
  outline : node.outline = twin.outline
  ends : ∀ literal literalToo, node = .string literal → twin = .string literalToo →
    exchange.Sides literal.span.hi literalToo.span.hi
  key : ∀ literal literalToo, node = .keyString literal → twin = .keyString literalToo →
    literal.value = literalToo.value ∨ ∃ word : exchange.Word, word.span = literal.spot ∧
      literal.value = String.ofList word.run ∧
      literalToo.value = exchange.rename (String.ofList word.run)

/-- Of a node that is no string and no key the outline is all that is asked, so that two such
nodes with one outline are alike. -/
theorem Alike.of_outline {node twin : Node} (other : node.isLiteral = false)
    (outline : node.outline = twin.outline) : Alike exchange node twin where
  outline := outline
  ends := by
    rintro literal _ rfl
    cases other
  key := by
    rintro literal _ rfl
    cases other

/-- Strings that are alike make nodes that are alike; as expressions they are no keys, so their
texts may differ. -/
theorem Alike.string {literal twin : Quoted} (same : QuotedAlike exchange literal twin) :
    Alike exchange (.string literal) (.string twin) where
  outline := congrArg Node.string same.outline
  ends := by
    rintro _ _ ⟨⟩ ⟨⟩
    exact same.ends
  key := by
    rintro _ _ ⟨⟩

/-- Strings that are alike make keys that are alike; what is asked of a key beyond its outline is
what is known of the texts. -/
theorem Alike.keyString {literal twin : Quoted} (same : QuotedAlike exchange literal twin) :
    Alike exchange (.keyString literal) (.keyString twin) where
  outline := congrArg Node.keyString same.outline
  ends := by
    rintro _ _ ⟨⟩
  key := by
    rintro _ _ ⟨⟩ ⟨⟩
    exact same.text

/-- A node with its spots. -/
def Kind.node (exchange : Exchange) : Kind Node where
  alike := Alike exchange
  spots node keys := node.spots keys
  total node := by
    cases node with
    | string literal =>
      obtain ⟨hi, sides⟩ := exchange.exists_sides literal.span.hi
      refine ⟨.string { literal with span := ⟨literal.span.lo, hi⟩ }, rfl, ?_, ?_⟩
      · rintro _ _ ⟨⟩ ⟨⟩
        exact sides
      · rintro _ _ ⟨⟩
    | keyString literal =>
      refine ⟨.keyString literal, rfl, ?_, ?_⟩
      · rintro _ _ ⟨⟩
      · rintro _ _ ⟨⟩ ⟨⟩
        exact .inl rfl
    | _ => exact ⟨_, .of_outline rfl rfl⟩

/-- A node of which no more than its outline is asked. -/
def Kind.tree : Kind Node := .outlined Node.outline fun node keys => node.spots keys

/-- Items of which no more than their outlines is asked. -/
def Kind.list {γ : Type} (outline : α → γ) (spots : α → Bool → List Span) : Kind (List α) :=
  .outlined (List.map outline) fun items keys => items.flatMap fun item => spots item keys

/-- A list of nodes. -/
def Kind.nodes : Kind (List Node) := .list Node.outline fun node keys => node.spots keys

/-- A node that may be missing. -/
def Kind.someNode : Kind (Option Node) :=
  .outlined (Option.map Node.outline) fun node? keys => node?.toList.flatMap (Node.spots keys)

/-- What may be left out. -/
def Kind.option (kind : Kind α) : Kind (Option α) where
  alike
    | none, none => True
    | some answer, some twin => kind.alike answer twin
    | _, _ => False
  spots answer? keys := answer?.elim [] fun answer => kind.spots answer keys
  total
    | none => ⟨none, trivial⟩
    | some answer =>
      let ⟨twin, alike⟩ := kind.total answer
      ⟨some twin, alike⟩

/-- Two things that come together. -/
def Kind.pair (first : Kind α) (second : Kind β) : Kind (α × β) where
  alike answer twin := first.alike answer.1 twin.1 ∧ second.alike answer.2 twin.2
  spots answer keys := first.spots answer.1 keys ++ second.spots answer.2 keys
  total answer :=
    let ⟨left, alike⟩ := first.total answer.1
    let ⟨right, alikeToo⟩ := second.total answer.2
    ⟨(left, right), alike, alikeToo⟩

section Spots

variable {keys : Bool}

/-- The spots of a node as an answer are those of the node. -/
@[simp]
theorem Kind.spots_node (node : Node) : (Kind.node exchange).spots node keys = node.spots keys := rfl

/-- The spots of a tree of which only the outline is asked are those of the node. -/
@[simp]
theorem Kind.spots_tree (node : Node) : Kind.tree.spots node keys = node.spots keys := rfl

/-- The spots of nodes as an answer are those of each node, one after the other. -/
@[simp]
theorem Kind.spots_nodes (nodes : List Node) :
    Kind.nodes.spots nodes keys = nodes.flatMap (Node.spots keys) := rfl

/-- A node that may be left out has its spots when it is there. -/
@[simp]
theorem Kind.spots_someNode (node? : Option Node) :
    Kind.someNode.spots node? keys = node?.toList.flatMap (Node.spots keys) := rfl

/-- A plain answer has no spots, so nothing in it can be exchanged. -/
@[simp]
theorem Kind.spots_plain (answer : α) : Kind.plain.spots answer keys = [] := rfl

/-- Two answers that come together have the spots of both, in their order. -/
@[simp]
theorem Kind.spots_pair (first : Kind α) (second : Kind β) (answer : α × β) :
    (first.pair second).spots answer keys = first.spots answer.1 keys ++ second.spots answer.2 keys :=
  rfl

/-- Repetitions gather nodes last first; putting them in their order brings in no spot. -/
theorem spots_reverse_subset (nodes : List Node) :
    nodes.reverse.flatMap (Node.spots keys) ⊆ nodes.flatMap (Node.spots keys) := fun span => by simp

end Spots

/-- Answering with a node of whose parts the spots were given follows when the outlines agree.
Every rule of the grammar that builds a node ends with this. -/
theorem follows_node {node twin : Node} (other : node.isLiteral = false)
    (outline : node.outline = twin.outline) (spots : ∀ keys, node.spots keys ⊆ given keys) :
    Follows exchange pre given (.node exchange) (pure node) (pure twin) :=
  follows_pure (.of_outline other outline) spots

/-- A step that follows as far as all is asked of its node follows where only the outline
matters. -/
theorem Follows.tree {step twin : Parse Node}
    (follows : Follows exchange pre given (.node exchange) step twin) :
    Follows exchange pre given .tree step twin :=
  follows.imp (fun _ _ alike => alike.outline) fun _ _ => List.Subset.refl _

/-- Names with the same text are the same once their places are taken away. -/
theorem bare_eq {name nameToo : Name} (same : name.text = nameToo.text) : name.bare = nameToo.bare :=
  congrArg (Name.mk nowhere) same

/-- What is asked of nodes and seen in their outlines is answered alike. -/
theorem eq_of_outline {question : Node → γ} {node twin : Node}
    (seen : ∀ node, question node.outline = question node) (same : node.outline = twin.outline) :
    question twin = question node := by
  rw [← seen twin, ← same, seen]

/-- A question to nodes that their outlines can answer has the same answer for nodes with the same
outlines. -/
theorem eq_of_outlines (question : List Node → γ) {nodes nodesToo : List Node}
    (seen : ∀ nodes, question (nodes.map Node.outline) = question nodes)
    (same : nodes.map Node.outline = nodesToo.map Node.outline) :
    question nodesToo = question nodes := by
  rw [← seen nodesToo, ← same, seen]

/-- Lists with the same outlines have the same outlines when both are turned around. -/
theorem map_reverse_congr {outline : α → γ} {items itemsToo : List α}
    (same : items.map outline = itemsToo.map outline) :
    items.reverse.map outline = itemsToo.reverse.map outline := by
  rw [List.map_reverse, same, List.map_reverse]

section Optional

variable {part twin : Parse Node} {last lastToo : Option Node → Parse α}
  (behind : ∀ node? nodeToo?, node?.map Node.outline = nodeToo?.map Node.outline →
    Follows exchange anywhere (fun keys => given keys ++ Kind.someNode.spots node? keys) kind
      (last node?) (lastToo nodeToo?))

include behind

/-- A part that may be left out, and is there: what stands behind it goes on with the part. -/
theorem Follows.present (follows : Follows exchange pre nothing (.node exchange) part twin) :
    Follows exchange pre given kind (part >>= fun node => last (some node))
      (twin >>= fun node => lastToo (some node)) := by
  refine follows.ofNothing.andThen fun node nodeToo same => ?_
  refine (behind (some node) (some nodeToo) (congrArg some same.outline)).weaken (fun _ => id) ?_
  exact fun keys => by simp

/-- A part that may be left out, and is: what stands behind it goes on without one. -/
theorem follows_absent : Follows exchange pre given kind (last none) (lastToo none) :=
  (behind none none rfl).weaken (fun _ _ => trivial) fun keys => by simp

end Optional

/-! ## Repetitions -/

/-- A bounded repetition is followed by the same repetition in the other text. The induction is on
the bound, which both share, and each round starts where the invariant of the one before holds. -/
theorem follows_foldSteps (inv : α → State → Prop) {step twin : α → Parse (Option α)}
    (comes : ∀ {value scope state next later}, inv value state →
      step value scope state = .ok (some next, later) → inv next later)
    (each : ∀ value valueToo, kind.alike value valueToo →
      Follows exchange (inv value) (kind.spots value) kind.option (step value) (twin valueToo))
    (count : Nat) {value valueToo : α} (alike : kind.alike value valueToo) :
    Follows exchange (inv value) (kind.spots value) kind (foldSteps step count value)
      (foldSteps twin count valueToo) := by
  induction count generalizing value valueToo with
  | zero => exact follows_fail
  | succ count inductionHypothesis =>
    refine Follows.bind (fun next? state => ∀ next, next? = some next → inv next state)
      (each value valueToo alike) ?_ ?_
    · rintro scope state next? later holds read next rfl
      exact comes holds read
    · rintro (_ | next) (_ | nextToo) same
      · exact follows_pure alike fun _ => List.subset_append_left _ _
      · cases same
      · cases same
      · exact (inductionHypothesis same).weaken (fun _ holds => holds next rfl)
          fun _ => List.subset_append_right _ _

/-- A look at the scope, which leaves the reading where it is. -/
theorem follows_read {next twin : Scope → Parse α}
    (each : ∀ scope, Follows exchange pre given kind (next scope) (twin scope)) :
    Follows exchange pre given kind (read >>= next) (read >>= twin) := by
  have looks (scope : Scope) (state : State) :
      (read : Parse Scope) scope state = .ok (scope, state) := rfl
  refine follows_look Eq looks looks (fun scope => ⟨scope, rfl⟩) (fun _ _ _ _ => rfl) ?_
  rintro scope _ rfl
  exact (each scope).weaken (fun _ holds => holds.1) fun _ => List.Subset.refl _

/-- Rounds of a repetition, each of which starts where the one before has come to. -/
theorem follows_fold_from (inv : α → State → Prop) {step twin : α → Parse (Option α)}
    (comes : ∀ {value scope state next later}, inv value state →
      step value scope state = .ok (some next, later) → inv next later)
    (each : ∀ value valueToo, kind.alike value valueToo →
      Follows exchange (inv value) (kind.spots value) kind.option (step value) (twin valueToo))
    {value valueToo : α} (alike : kind.alike value valueToo) :
    Follows exchange (inv value) (kind.spots value) kind (fold step value) (fold twin valueToo) :=
  follows_read fun _ => follows_foldSteps inv comes each _ alike

/-- Rounds of a repetition follow one another when each round does from values that are alike,
wherever it starts. -/
theorem follows_fold {step twin : α → Parse (Option α)}
    (each : ∀ value valueToo, kind.alike value valueToo →
      Follows exchange anywhere (kind.spots value) kind.option (step value) (twin valueToo))
    {value valueToo : α} (alike : kind.alike value valueToo) :
    Follows exchange pre (kind.spots value) kind (fold step value) (fold twin valueToo) :=
  (follows_fold_from (fun _ => anywhere) (fun _ _ => trivial) each alike).weaken
    (fun _ _ => trivial) fun _ => List.Subset.refl _

section Items

variable {γ : Type} {outline : α → γ} {spots : α → Bool → List Span}

/-- One more item in front of others that were gathered keeps the outlines of the list alike. -/
theorem follows_listed {item? itemToo? : Option α} {items itemsToo : List α}
    (alike : (Kind.outlined outline spots).option.alike item? itemToo?)
    (same : (Kind.list outline spots).alike items itemsToo) :
    (Kind.list outline spots).option.alike (item?.map (· :: items)) (itemToo?.map (· :: itemsToo)) := by
  rcases item? with _ | item <;> rcases itemToo? with _ | itemToo
  · trivial
  · cases alike
  · cases alike
  · exact congrArg₂ List.cons alike same

/-- Items that come last first are put in their order at the end, which keeps their outlines alike
and their spots given. -/
theorem follows_reversed {items itemsToo : List α}
    (same : (Kind.list outline spots).alike items itemsToo) :
    Follows exchange pre (fun keys => nothing keys ++ (Kind.list outline spots).spots items keys)
      (.list outline spots) (pure items.reverse) (pure itemsToo.reverse) := by
  refine follows_pure (map_reverse_congr same) fun keys span inside => ?_
  simpa [Kind.list, Kind.outlined] using inside

/-- Items one after the other are read of both texts, as many of the one as of the other. -/
theorem follows_many {item twin : Parse (Option α)}
    (each : Follows exchange anywhere nothing (Kind.outlined outline spots).option item twin) :
    Follows exchange pre nothing (.list outline spots) (many item) (many twin) := by
  have round (items itemsToo : List α) (same : (Kind.list outline spots).alike items itemsToo) :
      Follows exchange anywhere ((Kind.list outline spots).spots items) (Kind.list outline spots).option
        (item >>= fun item? => pure (item?.map (· :: items)))
        (twin >>= fun item? => pure (item?.map (· :: itemsToo))) := by
    refine each.ofNothing.andThen fun item? itemToo? alike => ?_
    refine follows_pure (follows_listed alike same) fun keys => ?_
    cases item? with
    | none => exact List.nil_subset _
    | some item => simp [Kind.list, Kind.option, Kind.outlined]
  have folded : Follows exchange pre nothing (.list outline spots) (fold _ []) (fold _ []) :=
    follows_fold round (show (Kind.list outline spots).alike [] [] from rfl)
  exact folded.andThen fun items itemsToo same => follows_reversed same

/-- Items between commas are read of both texts, and where a comma came last it does so in
both. -/
theorem follows_commaList {item twin : Parse α} (close : String)
    (each : Follows exchange anywhere nothing (.outlined outline spots) item twin) :
    Follows exchange pre nothing (.pair (.list outline spots) .plain) (commaList close item)
      (commaList close twin) := by
  let kind : Kind (List α × Bool × Bool) := .pair (.list outline spots) .plain
  have folded : ∀ step twinStep : List α × Bool × Bool → Parse (Option (List α × Bool × Bool)),
      (∀ list listToo, kind.alike list listToo →
        Follows exchange anywhere (kind.spots list) kind.option (step list) (twinStep listToo)) →
      Follows exchange pre nothing kind (fold step ([], false, false))
        (fold twinStep ([], false, false)) :=
    fun _ _ round => follows_fold round
      (show kind.alike ([], false, false) ([], false, false) from ⟨rfl, rfl⟩)
  refine (folded _ _ ?_).andThen ?_
  · rintro ⟨items, trailing, done⟩ ⟨itemsToo, _, _⟩ ⟨same, ⟨⟩⟩
    have empty : itemsToo.isEmpty = items.isEmpty := by
      have lengths := congrArg List.isEmpty same
      rwa [List.isEmpty_map, List.isEmpty_map, eq_comm] at lengths
    dsimp only
    split
    · exact follows_pure trivial fun _ => List.nil_subset _
    · refine follows_behind fun closes => ?_
      split
      · exact follows_pure ⟨same, rfl⟩ fun _ => List.Subset.refl _
      · refine follows_require (by rw [empty]) ?_
        refine each.ofNothing.andThen fun next nextToo alike => follows_behind fun comma => ?_
        refine follows_pure ⟨congrArg₂ List.cons alike same, rfl⟩ fun keys => ?_
        simp [kind, Kind.list, Kind.pair, Kind.option, Kind.plain, Kind.outlined]
  · rintro ⟨items, trailing, done⟩ ⟨itemsToo, _, _⟩ ⟨same, ⟨⟩⟩
    refine follows_pure ⟨map_reverse_congr same, rfl⟩ fun keys span inside => ?_
    simpa [kind, Kind.list, Kind.pair, Kind.plain, Kind.outlined] using inside

end Items

end Parse

end PropertyMangling.Script
