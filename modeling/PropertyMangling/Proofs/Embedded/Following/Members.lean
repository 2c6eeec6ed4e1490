import PropertyMangling.Proofs.Embedded.Following.Answers
/-!
# Steps that follow one another: patterns, functions and classes
-/
namespace PropertyMangling.Script

open Embedded

namespace Parse

variable {exchange : Exchange} {α : Type} {pre : State → Prop}

/-- Every goal is reached in the other text as it is in the text. -/
def ReachesAlike (exchange : Exchange) (self : Goal → Parse Node) : Prop :=
  ∀ goal, Follows exchange anywhere nothing (.node exchange) (self goal) (self goal)

section Functions

variable {self : Goal → Parse Node} (reaches : ReachesAlike exchange self)

/-- A number is read alike in both texts; how it is written is kept with the node and not asked of
its outline. -/
theorem numberLiteral_follows :
    Follows exchange pre nothing (.node exchange) numberLiteral numberLiteral := by
  refine follows_token (fun _ _ => rfl) fun token => ?_
  split
  · refine follows_tokenSpan.andAlso (fun _ _ => rfl) fun span spanToo _ => ?_
    refine follows_source.andAlso (fun _ _ => rfl) fun source sourceToo _ => follows_behind fun _ => ?_
    exact follows_node rfl rfl fun _ => List.nil_subset _
  · refine follows_source.andAlso (fun _ _ => rfl) fun source sourceToo _ => follows_behind fun _ => ?_
    exact follows_node rfl rfl fun _ => List.nil_subset _
  · exact follows_fail

include reaches in
/-- A goal is reached alike in both texts, whatever has been given before it. -/
theorem goal_follows {given : Bool → List Span} (goal : Goal) :
    Follows exchange pre given (.node exchange) (self goal) (self goal) :=
  (reaches goal).ofNothing.weaken (fun _ _ => trivial) fun _ => List.Subset.refl _

include reaches in
/-- A goal inside brackets is reached alike in both texts, since the scope changes in the same
way. -/
theorem enclosed_follows {given : Bool → List Span} (goal : Goal) :
    Follows exchange pre given (.node exchange) (enclosed (self goal)) (enclosed (self goal)) :=
  (goal_follows reaches goal).within _

include reaches in
/-- An element of a pattern is read alike in both texts, with its default or without one. -/
theorem bindingElement_follows :
    Follows exchange pre nothing (.node exchange) (bindingElement self) (bindingElement self) := by
  refine follows_at fun start startToo => ?_
  refine (goal_follows reaches .binding).andThen fun target targetToo same => ?_
  refine follows_behind fun hasDefault => ?_
  split
  · refine (enclosed_follows reaches .assignment).andThen fun value valueToo same' => ?_
    refine follows_over fun span spanToo => ?_
    exact follows_node rfl (by rw [Node.outline, Node.outline, same.outline, same'.outline])
      fun _ => List.Subset.refl _
  · exact follows_pure same fun _ => List.Subset.refl _

include reaches in
/-- A key is read alike in both texts. A key that is a string is a spot, so its text may be a word
that is exchanged. -/
theorem propertyKey_follows :
    Follows exchange pre nothing (.node exchange) (propertyKey self) (propertyKey self) := by
  refine follows_token (fun _ _ => rfl) fun token => ?_
  split
  · refine anyName_follows.andThen fun name nameToo same => ?_
    exact follows_node rfl (congrArg Node.keyName (bare_eq same)) fun _ => List.nil_subset _
  · refine quoted_follows.andThen fun literal literalToo same => ?_
    exact follows_pure (.keyString same) fun _ => List.Subset.refl _
  · refine follows_at fun start startToo => follows_behind fun _ => ?_
    refine (enclosed_follows reaches .assignment).andThen fun value valueToo same => ?_
    refine follows_behind fun _ => follows_over fun span spanToo => ?_
    exact follows_node rfl (by rw [Node.outline, Node.outline, same.outline])
      fun _ => List.Subset.refl _
  · exact numberLiteral_follows

/-- One of several nodes, or none when there are no more. -/
abbrev Kind.item : Kind (Option Node) := (Kind.outlined Node.outline fun node keys => node.spots keys).option

/-- An item of a list that was read, with all of its spots given, is answered alike. -/
theorem follows_item {node twin : Node} {given : Bool → List Span}
    (outline : node.outline = twin.outline) (spots : ∀ keys, node.spots keys ⊆ given keys) :
    Follows exchange pre given .item (pure (some node)) (pure (some twin)) :=
  follows_pure outline spots

/-- Where the items end they end in both texts, and nothing is left to ask. -/
theorem follows_noItem {given : Bool → List Span} :
    Follows exchange pre given .item (pure none) (pure none) :=
  follows_pure trivial fun _ => List.nil_subset _

include reaches in
/-- An item of an array pattern is read alike in both texts, be it a hole, a rest, an element or
the end. -/
theorem arrayPatternItem_follows :
    Follows exchange pre nothing .item (arrayPatternItem self) (arrayPatternItem self) := by
  refine follows_behind fun closes => ?_
  split
  · exact follows_noItem
  refine follows_behind fun isHole => ?_
  split
  · exact follows_item rfl fun _ => List.nil_subset _
  refine follows_behind fun isRest => ?_
  split
  · refine (goal_follows reaches .binding).andThen fun target targetToo same => ?_
    refine follows_behind fun comma => ?_
    extract_lets last lastToo
    have lastFollows : ∀ passed, Follows exchange anywhere (fun keys => target.spots keys) .item
        (last passed) (lastToo passed) := fun _ =>
      follows_item (congrArg Node.rest same.outline) fun _ => List.Subset.refl _
    split
    · exact follows_behind fun _ => follows_behind lastFollows
    · exact lastFollows ()
  · refine (bindingElement_follows reaches).andThen fun element elementToo same => ?_
    have found : Follows exchange anywhere (fun keys => element.spots keys) .item
        (pure (some element)) (pure (some elementToo)) :=
      follows_item same.outline fun _ => List.Subset.refl _
    refine follows_behind fun closes => ?_
    split
    · exact found
    · exact follows_behind fun _ => found

/-- The text of a key that is a name. -/
def keyText? : Node → Option String
  | .keyName name => some name.text
  | _ => none

/-- Of two keys with one outline both are names, and the same, or none of them is. -/
theorem key_cases {key keyToo : Node} (same : key.outline = keyToo.outline) :
    (∃ name nameToo, key = .keyName name ∧ keyToo = .keyName nameToo ∧ name.text = nameToo.text) ∨
      (∀ name, key ≠ .keyName name) ∧ ∀ name, keyToo ≠ .keyName name := by
  have seen : keyText? keyToo = keyText? key :=
    eq_of_outline (fun node => by cases node <;> rfl) same
  have only {node : Node} (none : keyText? node = none) (name : Name) : node ≠ .keyName name := by
    rintro rfl
    cases none
  cases found : keyText? key with
  | none => exact .inr ⟨only found, only (seen.trans found)⟩
  | some text =>
    have named {node : Node} (found : keyText? node = some text) :
        ∃ name, node = .keyName name ∧ name.text = text := by
      cases node with
      | keyName name => exact ⟨name, rfl, Option.some.inj found⟩
      | _ => cases found
    obtain ⟨name, rfl, rfl⟩ := named found
    obtain ⟨nameToo, rfl, text⟩ := named (seen.trans found)
    exact .inl ⟨name, nameToo, rfl, rfl, text.symm⟩

include reaches in
/-- An item of an object pattern is read alike in both texts. A shorthand is a key that is a name
in both, since keys that are strings are never names. -/
theorem objectPatternItem_follows :
    Follows exchange pre nothing (.node exchange) (objectPatternItem self) (objectPatternItem self) := by
  refine follows_at fun start startToo => follows_behind fun isRest => ?_
  split
  · refine bindingName_follows.andThen fun name nameToo same => ?_
    refine follows_behind fun _ => follows_behind fun _ => ?_
    exact follows_node rfl (congrArg (Node.rest <| Node.identifier ·) (bare_eq same))
      fun _ => List.nil_subset _
  refine (propertyKey_follows reaches).andThen fun key keyToo same => ?_
  rcases key_cases same.outline with ⟨name, nameToo, rfl, rfl, text⟩ | ⟨other, otherToo⟩
  · refine follows_behind fun hasColon => ?_
    split
    · refine (bindingElement_follows reaches).ofNothing.andThen fun value valueToo same' => ?_
      exact follows_node rfl (congrArg₂ Node.property same.outline same'.outline)
        fun _ => List.Subset.refl _
    refine follows_behind fun hasDefault => ?_
    split
    · refine (enclosed_follows reaches .assignment).andThen fun value valueToo same' => ?_
      refine follows_over fun span spanToo => ?_
      exact follows_node rfl (by simp [Node.outline, bare_eq text, same'.outline])
        fun keys => by simp [Node.spots]
    · exact follows_node rfl (by simp [Node.outline, bare_eq text]) fun _ => List.nil_subset _
  · split
    · exact absurd rfl (other _)
    refine follows_behind fun _ => ?_
    refine (bindingElement_follows reaches).ofNothing.andThen fun value valueToo same' => ?_
    exact follows_node rfl (congrArg₂ Node.property same.outline same'.outline)
      fun _ => List.Subset.refl _

/-- As many items are read of the one text as of the other, each like its twin. -/
theorem follows_items {item twin : Parse (Option Node)}
    (each : Follows exchange anywhere nothing .item item twin) :
    Follows exchange pre nothing .nodes (many item) (many twin) :=
  follows_many each

/-- Nodes between commas are read alike in both texts; of each the outline is kept. -/
theorem follows_nodeList {item twin : Parse Node} (close : String)
    (each : Follows exchange anywhere nothing (.node exchange) item twin) :
    Follows exchange pre nothing (.pair .nodes .plain) (commaList close item) (commaList close twin) :=
  follows_commaList close each.tree

include reaches in
/-- A binding target is read alike in both texts. What is required of a pattern is asked of its
outline, and dropping holes takes no spot away. -/
theorem bindingTarget_follows :
    Follows exchange pre nothing (.node exchange) (bindingTarget self) (bindingTarget self) := by
  refine follows_at fun start startToo => follows_behind fun isArray => ?_
  split
  · refine (follows_items (arrayPatternItem_follows reaches)).andThen
      fun elements elementsToo (same : elements.map _ = elementsToo.map _) => ?_
    have trimmed : (dropTrailingHoles elements).map Node.outline =
        (dropTrailingHoles elementsToo).map Node.outline := by
      rw [← map_outline_dropTrailingHoles, same, map_outline_dropTrailingHoles]
    refine follows_behind fun _ => follows_require ?_ ?_
    · exact eq_of_outlines (fun nodes => !(nodes.dropLast.any isRest))
        (fun nodes => by simp [← List.map_dropLast, Function.comp_def]) trimmed
    · exact follows_node rfl (by simpa [Node.outline] using trimmed)
        fun keys => by simp [Node.spots, flatMap_spots_dropTrailingHoles]
  refine follows_behind fun isObject => ?_
  split
  · refine (follows_nodeList _ (objectPatternItem_follows reaches)).andThen ?_
    rintro ⟨properties, trailing⟩ ⟨propertiesToo, _⟩ ⟨(same : properties.map _ = propertiesToo.map _), ⟨⟩⟩
    refine follows_over fun span spanToo => ?_
    exact follows_node rfl (by simp [Node.outline, same]) fun keys => by simp [Node.spots]
  · refine bindingName_follows.andThen fun name nameToo same => ?_
    exact follows_node rfl (congrArg Node.identifier (bare_eq same)) fun _ => List.nil_subset _

include reaches in
/-- A parameter is read alike in both texts, with its default or as a rest. -/
theorem parameter_follows :
    Follows exchange pre nothing (.node exchange) (parameter self) (parameter self) := by
  refine follows_at fun start startToo => follows_behind fun isRest => ?_
  split
  · refine (goal_follows reaches .binding).andThen fun target targetToo same => ?_
    refine follows_behind fun _ => follows_behind fun _ => ?_
    exact follows_node rfl (congrArg Node.rest same.outline) fun _ => List.Subset.refl _
  · refine (goal_follows reaches .binding).andThen fun target targetToo same => ?_
    refine follows_behind fun hasDefault => ?_
    split
    · refine (goal_follows reaches .assignment).andThen fun value valueToo same' => ?_
      refine follows_over fun span spanToo => ?_
      exact follows_node rfl (by rw [Node.outline, Node.outline, same.outline, same'.outline])
        fun _ => List.Subset.refl _
    · exact follows_pure same fun _ => List.Subset.refl _

include reaches in
/-- The parameters of a function are read alike in both texts, between the same commas. -/
theorem parameters_follows :
    Follows exchange pre nothing .nodes (parameters self) (parameters self) := by
  refine follows_behind fun _ => (follows_nodeList _ (parameter_follows reaches)).andThen ?_
  rintro ⟨params, trailing⟩ ⟨paramsToo, _⟩ ⟨same, ⟨⟩⟩
  exact follows_pure same fun keys => by simp

/-- The same is judged of a token in both texts. -/
instance plain_judge (token : Token) : Plain exchange (judge token) := by
  unfold judge
  split <;> infer_instance

/-- Items, the first of which may be a directive, are read alike in both texts. A directive makes
the rest strict in both, since its source text is part of the outline. -/
theorem follows_itemsWithDirective {item twin : Parse (Option Node)}
    (each : Follows exchange anywhere nothing .item item twin) :
    Follows exchange pre nothing .nodes (itemsWithDirective item) (itemsWithDirective twin) := by
  refine each.always.andThen ?_
  rintro (_ | first) (_ | firstToo) same
  · exact follows_pure rfl fun _ => List.nil_subset _
  · cases same
  · cases same
  have same : first.outline = firstToo.outline := same
  have whole : Follows exchange anywhere (fun keys => first.spots keys) .nodes
      (many item >>= fun rest => pure (first :: rest))
      (many twin >>= fun rest => pure (firstToo :: rest)) := by
    refine (follows_items each).ofNothing.andThen
      fun rest restToo (same' : rest.map _ = restToo.map _) => ?_
    exact follows_pure (congrArg₂ List.cons same same') fun keys => by simp
  dsimp only
  rw [eq_of_outline isUseStrict_outline same, eq_of_outline hasSemicolon_outline same]
  split
  · refine Follows.within ?_ _
    split
    · exact follows_token (fun _ _ => rfl) fun token => follows_behind fun _ => whole
    · exact whole
  · exact whole

include reaches in
/-- An item of a block is read alike in both texts, and the block ends in both at once. -/
theorem listedItem_follows :
    Follows exchange pre nothing .item (listedItem self) (listedItem self) := by
  refine follows_behind fun closes => ?_
  split
  · exact follows_noItem
  · refine (goal_follows reaches .listed).andThen fun node nodeToo same => ?_
    exact follows_item same.outline fun _ => List.Subset.refl _

include reaches in
/-- The statements of a block are read alike in both texts. -/
theorem blockBody_follows :
    Follows exchange pre nothing .nodes (blockBody self) (blockBody self) := by
  refine follows_behind fun _ => ?_
  refine (follows_items (listedItem_follows reaches)).andThen fun body bodyToo same => ?_
  exact follows_behind fun _ => follows_pure same fun _ => List.Subset.refl _

/-- The same is checked of parameters and bodies with the same outlines. -/
theorem follows_checkDirectives {params paramsToo body bodyToo : List Node}
    {given : Bool → List Span} {kind : Kind α} {next twin : Unit → Parse α}
    (same : params.map Node.outline = paramsToo.map Node.outline)
    (same' : body.map Node.outline = bodyToo.map Node.outline)
    (behind : Follows exchange pre given kind (next ()) (twin ())) :
    Follows exchange pre given kind (checkDirectives params body >>= next)
      (checkDirectives paramsToo bodyToo >>= twin) := by
  refine follows_require ?_ behind
  have simple := eq_of_outlines (fun nodes => nodes.all isSimpleParameter)
    (fun nodes => by simp [Function.comp_def]) same
  have strict := eq_of_outlines
    (fun nodes => (nodes.takeWhile isDirective).any isUseStrict)
    (fun nodes => by simp [List.takeWhile_map, Function.comp_def]) same'
  rw [simple, strict]

/-- What a function body has shown of the program is forgotten in both texts. -/
theorem Follows.secluded {kind : Kind α} {body twin : Parse α}
    (follows : Follows exchange anywhere nothing kind body twin) :
    Follows exchange pre nothing kind (secluded body) (secluded twin) := by
  refine follows_get fun state other _ isModule _ => ?_
  dsimp only
  rw [isModule]
  refine follows.always.andThen fun value valueToo same => ?_
  have forgets : Plain exchange (modify fun state' => { state' with isModule := state.isModule }) :=
    plain_modify (fun _ => ⟨rfl, rfl, rfl, rfl⟩)
      fun _ _ noted => ⟨noted.scriptOnly, rfl, noted.declared⟩
  exact follows_behind fun _ => follows_pure same fun _ => List.Subset.refl _

include reaches in
/-- The body of a function is read alike in both texts. What is checked of it and the parameters
is asked of their outlines. -/
theorem functionBody_follows {params paramsToo : List Node}
    (same : params.map Node.outline = paramsToo.map Node.outline) :
    Follows exchange pre nothing .nodes (functionBody self params) (functionBody self paramsToo) := by
  refine follows_behind fun _ => ?_
  have items : Follows exchange anywhere nothing .nodes _ _ :=
    (follows_itemsWithDirective (listedItem_follows reaches)).secluded
  refine (items.within Scope.enclosed).always.andThen fun body bodyToo same' => ?_
  exact follows_checkDirectives same same' (follows_pure same' fun _ => List.Subset.refl _)

/-- The parameters and the body of a function. -/
abbrev Kind.parts : Kind (List Node × List Node) := .pair .nodes .nodes

include reaches in
/-- The parameters and the body of a function are read alike in both texts, in scopes that change
in the same way. -/
theorem functionPartsIn_follows (ofParameters ofBody : Scope → Scope) :
    Follows exchange pre nothing .parts (functionPartsIn self ofParameters ofBody)
      (functionPartsIn self ofParameters ofBody) := by
  refine ((parameters_follows reaches).within _).andThen fun params paramsToo same => ?_
  refine ((functionBody_follows reaches same).within _).ofNothing.andThen fun body bodyToo same' => ?_
  exact follows_behind fun _ => follows_pure ⟨same, same'⟩ fun keys => by simp

include reaches in
/-- The parts of a function whose parameters and body share their scope are read alike in both
texts. -/
theorem functionParts_follows (scope : Scope → Scope) :
    Follows exchange pre nothing .parts (functionParts self scope) (functionParts self scope) :=
  functionPartsIn_follows reaches _ scope

end Functions

/-! ## Objects -/

/-- Whether the token behind the current one says that it is a key is asked of words only. -/
theorem glances_isKeyItself (ends : List String) (sameLine : Bool) :
    Glances exchange (isKeyItself ends sameLine) :=
  glances_of_peek (fun next? => by split <;> exact ⟨_, rfl⟩) fun _ _ _ => rfl

/-- A modifier is passed in both texts or in none: it is a word, so that the token behind it may
be looked at, which is the same for the question. -/
theorem plain_eatModifier {isModifier : Token → Bool} (ends : List String) (sameLine : Bool)
    (words : ∀ token, isModifier token = true → token.looksAhead = true) :
    Plain exchange (eatModifier isModifier ends sameLine) where
  follows := by
    have noString (value : String) : isModifier (.string value false) = false := by
      by_contra isWord
      cases words _ (by simpa using isWord)
    refine follows_token (fun value valueToo => by simp only [noString]) fun token => ?_
    split
    · next modifies =>
      refine follows_glance (glances_isKeyItself ends sameLine) ?_ fun isItself => ?_
      · rintro state ⟨-, rfl⟩
        exact words _ modifies
      · split
        · exact follows_pure rfl fun _ => List.nil_subset _
        · exact follows_behind fun _ => follows_pure rfl fun _ => List.nil_subset _
    · exact follows_pure rfl fun _ => List.nil_subset _

instance plain_eatText (text : String) (ends : List String) (sameLine : Bool) :
    Plain exchange (eatModifier (isText text) ends sameLine) := by
  refine plain_eatModifier ends sameLine fun token isText => ?_
  cases token with
  | word => rfl
  | _ => cases isText

instance plain_eatMeans (text : String) (ends : List String) (sameLine : Bool) :
    Plain exchange (eatModifier (means text) ends sameLine) :=
  plain_eatModifier ends sameLine fun _ => looksAhead_of_means

instance plain_methodModifiers (ends : List String) (sameLine : Bool) :
    Plain exchange (methodModifiers ends sameLine) := by
  unfold methodModifiers
  infer_instance

/-- Whether parameters fit a kind of method is asked of their outlines, so the check is the same
in both texts. -/
theorem checkArity_congr {params paramsToo : List Node} (kind : MethodKind)
    (same : params.map Node.outline = paramsToo.map Node.outline) :
    checkArity kind paramsToo = checkArity kind params := by
  refine eq_of_outlines (checkArity kind) (fun nodes => ?_) same
  rcases nodes with _ | ⟨node, _ | ⟨second, rest⟩⟩
  · rfl
  all_goals cases kind <;> cases node <;> rfl

instance plain_checkArity (kind : MethodKind) (params : List Node) :
    Plain exchange (checkArity kind params) := by
  unfold checkArity
  split <;> infer_instance

section Members

variable {self : Goal → Parse Node} (reaches : ReachesAlike exchange self)

include reaches in
/-- An item of an object is read alike in both texts, be it a spread, a method, a property or a
shorthand. -/
theorem objectItem_follows :
    Follows exchange pre nothing (.node exchange) (objectItem self) (objectItem self) := by
  refine follows_at fun start startToo => follows_behind fun isSpread => ?_
  split
  · refine (enclosed_follows reaches .assignment).andThen fun argument argumentToo same => ?_
    exact follows_node rfl (congrArg Node.spread same.outline) fun _ => List.Subset.refl _
  refine follows_behind ?_
  rintro ⟨kind, flavor⟩
  refine (propertyKey_follows reaches).andThen fun key keyToo same => follows_behind fun isCall => ?_
  split
  · refine (functionParts_follows reaches _).ofNothing.andThen ?_
    rintro ⟨params, body⟩ ⟨paramsToo, bodyToo⟩
      ⟨(sameParams : params.map _ = paramsToo.map _), (sameBody : body.map _ = bodyToo.map _)⟩
    dsimp only
    rw [checkArity_congr kind sameParams]
    refine follows_behind fun _ => ?_
    exact follows_node rfl (by simp [Node.outline, same.outline, sameParams, sameBody])
      fun keys => by simp [Node.spots]
  refine follows_behind fun hasColon => ?_
  split
  · refine (enclosed_follows reaches .assignment).andThen fun value valueToo same' => ?_
    exact follows_node rfl (congrArg₂ Node.property same.outline same'.outline)
      fun _ => List.Subset.refl _
  rcases key_cases same.outline with ⟨name, nameToo, rfl, rfl, text⟩ | ⟨other, -⟩
  · refine follows_behind fun hasDefault => ?_
    split
    · refine (enclosed_follows reaches .assignment).andThen fun value valueToo same' => ?_
      refine follows_over fun span spanToo => ?_
      exact follows_node rfl (by simp [Node.outline, bare_eq text, same'.outline])
        fun keys => by simp [Node.spots]
    · exact follows_node rfl (by simp [Node.outline, bare_eq text]) fun _ => List.nil_subset _
  · split
    · exact absurd rfl (other _)
    · exact follows_fail

include reaches in
/-- An object is read alike in both texts, item by item. -/
theorem objectLiteral_follows :
    Follows exchange pre nothing (.node exchange) (objectLiteral self) (objectLiteral self) := by
  refine follows_at fun start startToo => follows_behind fun _ => ?_
  refine (follows_nodeList _ (objectItem_follows reaches)).andThen ?_
  rintro ⟨properties, trailing⟩ ⟨propertiesToo, _⟩ ⟨(same : properties.map _ = propertiesToo.map _), ⟨⟩⟩
  refine follows_over fun span spanToo => ?_
  exact follows_node rfl (by simp [Node.outline, same]) fun keys => by simp [Node.spots]

/-! ## Classes -/

/-- The key of a class member: whether it names a constructor is the same in both texts. Words in a
key in quotes count only where they and their new names name none. -/
def Kind.classKey : Kind Node where
  alike key twin := key.outline = twin.outline ∧ isKey "constructor" twin = isKey "constructor" key
  spots key keys := keySpots keys key (key.spots keys)
  total key := ⟨key, rfl, rfl⟩

/-- The spots of a key are left out where it may name a constructor, and are kept elsewhere; none
is brought in. -/
theorem keySpots_subset (keys : Bool) (key : Node) (spots : List Span) :
    keySpots keys key spots ⊆ spots := by
  unfold keySpots
  split
  · exact List.nil_subset _
  · exact List.Subset.refl _

/-- A key in quotes that is a word that is exchanged is a spot only when neither the word nor its new
name is the constructor's, so that the other key is none either. -/
theorem isKey_congr {key keyToo : Node} (same : Alike exchange key keyToo)
    (counts : ∀ word : exchange.Word, word.In (fun keys => key.spots keys) →
      word.In fun keys => keySpots keys key (key.spots keys)) :
    isKey "constructor" keyToo = isKey "constructor" key := by
  have named (node : Node) (unquoted : node.isQuotedKey = false) :
      isKey "constructor" node.outline = isKey "constructor" node := by
    cases node <;> first | rfl | cases unquoted
  have quoted : keyToo.isQuotedKey = key.isQuotedKey :=
    eq_of_outline (fun node => by cases node <;> rfl) same.outline
  by_cases isQuoted : key.isQuotedKey = true
  · cases key with
    | keyString literal =>
      cases keyToo with
      | keyString literalToo =>
        rcases same.key _ _ rfl rfl with text | ⟨word, spot, text, textToo⟩
        · rw [isKey, isKey, text]
        · have inside : word.In fun keys => keySpots keys (.keyString literal) [literal.spot] :=
            counts word (by simp [Exchange.Word.In, Node.spots, spot])
          have others : word.asKey = true := by
            by_contra none
            rw [Exchange.Word.In, keySpots, if_pos (by simp [Node.isQuotedKey, none])] at inside
            cases inside
          simp only [Exchange.Word.asKey, namesNoConstructor, Bool.and_eq_true, bne_iff_ne] at others
          simp [isKey, text, textToo, others]
      | _ => cases quoted
    | _ => cases isQuoted
  · have unquoted : key.isQuotedKey = false := by simpa using isQuoted
    rw [← named keyToo (quoted.trans unquoted), ← same.outline, named key unquoted]

/-- A key that is read alike is the key of a class member in both texts, as long as it is none of
the names that a class treats apart, before the exchange and behind it. -/
theorem Follows.asClassKey {step twin : Parse Node}
    (follows : Follows exchange pre nothing (.node exchange) step twin) :
    Follows exchange pre nothing .classKey step twin where
  onward := follows.onward
  keeps word holds stands ran passed found :=
    follows.keeps word holds stands ran passed (keySpots_subset _ _ _ found)
  agrees := by
    intro scope state other key later holds stands beside ran informed passed found
    obtain ⟨keyToo, otherLater, ranToo, same, besideLater⟩ := follows.agrees holds stands beside ran
      informed passed fun word admits outside => keySpots_subset _ _ _ (found word admits outside)
    refine ⟨keyToo, otherLater, ranToo, ⟨same.outline, isKey_congr same fun word inside => ?_⟩,
      besideLater⟩
    obtain ⟨origin, outside⟩ := follows.keeps word holds stands ran (passed word) inside
    rcases origin with none | admits
    · cases none
    · exact found word admits outside

include reaches in
/-- The key of a class member is read alike in both texts; a private name is a word that is
exchanged nowhere. -/
theorem classKey_follows :
    Follows exchange pre nothing .classKey (classKey self) (classKey self) := by
  refine follows_token (fun _ _ => rfl) fun token => ?_
  split
  · refine follows_behind fun _ => follows_behind fun _ => ?_
    exact follows_pure ⟨rfl, rfl⟩ fun keys => keySpots_subset keys (.privateName "") []
  · exact (propertyKey_follows reaches).asClassKey

/-- Whether the token behind the current one is a symbol is asked of words and question marks only. -/
theorem glances_isBefore (text : String) : Glances exchange (isBefore text) :=
  glances_of_peek (fun next? => by split <;> exact ⟨_, rfl⟩) fun _ _ _ => rfl

include reaches in
/-- What stands behind the key of a field is read alike in both texts, and whether the key may
name a field is the same in both. -/
theorem fieldTail_follows {key keyToo : Node} (isStatic : Bool)
    (same : Kind.classKey.alike key keyToo) :
    Follows exchange pre (Kind.classKey.spots key) (.node exchange) (fieldTail self isStatic key)
      (fieldTail self isStatic keyToo) := by
  refine follows_require (by rw [same.2]) (follows_behind fun hasValue => ?_)
  extract_lets field fieldToo
  have fieldFollows : ∀ value? valueToo? : Option Node,
      value?.map Node.outline = valueToo?.map Node.outline →
      Follows exchange anywhere (fun keys => Kind.classKey.spots key keys ++
        Kind.someNode.spots value? keys) (.node exchange) (field value?) (fieldToo valueToo?) :=
    fun value? valueToo? same' => follows_behind fun _ =>
      follows_node rfl (by simp [Node.outline, same.1, same'])
        fun keys => by simp [Node.spots, Kind.classKey]
  split
  · exact ((goal_follows reaches .assignment).within _).present fieldFollows
  · exact follows_absent fieldFollows

include reaches in
/-- A member of a class is read alike in both texts. That a key names the constructor shows in
both, since the word is exchanged for none and none for it. -/
theorem classItem_follows :
    Follows exchange pre nothing .item (classItem self) (classItem self) := by
  refine follows_behind fun closes => ?_
  split
  · exact follows_noItem
  refine follows_behind fun isEmpty => ?_
  split
  · exact follows_item rfl fun _ => List.nil_subset _
  refine follows_behind fun isStatic => ?_
  refine follows_wordAnd (glances_isBefore _) (fun _ _ => by simp) fun repeated opens => ?_
  extract_lets member
  have memberFollows : ∀ passed,
      Follows exchange anywhere nothing .item (member passed) (member passed) := by
    intro passed
    refine follows_behind fun isBlock => ?_
    split
    · refine ((blockBody_follows reaches).within _).andThen
        fun body bodyToo (same : body.map _ = bodyToo.map _) => ?_
      exact follows_item (by simp [Node.outline, same]) fun keys => by simp [Node.spots]
    refine follows_behind ?_
    rintro ⟨kind, flavor⟩
    refine (classKey_follows reaches).andThen fun key keyToo same => follows_behind fun isCall => ?_
    split
    · dsimp only
      rw [same.2]
      split
      · refine follows_behind fun _ => (functionPartsIn_follows reaches _ _).ofNothing.andThen ?_
        rintro ⟨params, body⟩ ⟨paramsToo, bodyToo⟩
          ⟨(sameParams : params.map _ = paramsToo.map _), (sameBody : body.map _ = bodyToo.map _)⟩
        exact follows_item (by simp [Node.outline, same.1, sameParams, sameBody])
          fun keys => by simp [Node.spots, Kind.classKey]
      · refine (functionParts_follows reaches _).ofNothing.andThen ?_
        rintro ⟨params, body⟩ ⟨paramsToo, bodyToo⟩
          ⟨(sameParams : params.map _ = paramsToo.map _), (sameBody : body.map _ = bodyToo.map _)⟩
        dsimp only
        rw [checkArity_congr kind sameParams]
        refine follows_behind fun _ => ?_
        exact follows_item (by simp [Node.outline, same.1, sameParams, sameBody])
          fun keys => by simp [Node.spots, Kind.classKey]
    · refine (fieldTail_follows reaches isStatic same).andThen fun field fieldToo same' => ?_
      exact follows_item same'.outline fun keys => by simp
  split
  · exact follows_behind memberFollows
  · exact memberFollows ()

/-- The parts of a class: its name, its parent and its members. -/
abbrev Kind.classParts (named : Kind α) : Kind (α × Option Node × List Node) :=
  named.pair (.pair .someNode .nodes)

include reaches in
/-- A class is read alike in both texts: its name, its parent and its members. -/
theorem classParts_follows {named : Kind α} {name twin : Parse α}
    (none : ∀ answer keys, named.spots answer keys = [])
    (each : Follows exchange anywhere nothing named name twin) :
    Follows exchange pre nothing (.classParts named) (classParts self name) (classParts self twin) := by
  refine Follows.andThen (Follows.within ?_ _) fun parts partsToo same => follows_behind fun _ =>
    follows_pure same fun _ => List.Subset.refl _
  refine follows_behind fun _ => each.always.andAlso none fun name nameToo sameName => ?_
  refine follows_behind fun hasParent => ?_
  extract_lets members membersToo
  have membersFollow : ∀ parent? parentToo? : Option Node,
      parent?.map Node.outline = parentToo?.map Node.outline →
      Follows exchange anywhere (fun keys => nothing keys ++ Kind.someNode.spots parent? keys)
        (.classParts named) (members parent?) (membersToo parentToo?) := by
    intro parent? parentToo? same
    refine follows_behind fun _ => ?_
    refine ((follows_items (classItem_follows reaches)).within _).ofNothing.andThen
      fun items itemsToo same' => ?_
    refine follows_require ?_ ?_
    · refine congrArg (fun count => decide (count ≤ 1)) ?_
      exact eq_of_outlines (fun nodes => (nodes.filter isConstructor).length)
        (fun nodes => by simp [List.filter_map, Function.comp_def]) same'
    · exact follows_pure ⟨sameName, same, same'⟩ fun keys => by simp [none]
  split
  · exact (goal_follows reaches .subject).present membersFollow
  · exact follows_absent membersFollow

end Members

end Parse

end PropertyMangling.Script
