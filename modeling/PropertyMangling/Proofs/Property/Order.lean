import PropertyMangling.Proofs.Property.Nesting
import PropertyMangling.Proofs.Script.Origin.Turns
/-!
# The order of tokens

Tokens come in the order of the walk, each at its first occurrence. The walk takes
the names of a program in the order of the text, but for the turns: a class with a
parent, a do-while loop, an item that is imported under another name. So where no
turn has property names in both of its parts, the tokens are in the order in which
the text has their first occurrences; and where no name is repeated, only there.
What stands in the parentheses in front of some arrows is read twice, and a name in
it may be a property the second time only; such a name is left out here.
-/
namespace PropertyMangling

open Script

/-! ## Places -/

/-- The property that is named at a site. -/
def Site.property? : Site → Option String
  | name text | shorthand text => some text
  | subscript value | key value => some value
  | literal _ | imported _ | .variable _ => none

/-- Outside of code, a site gives the property that it names. -/
theorem Site.ownTokens_false (site : Site) : site.ownTokens false = site.property?.toList := by
  cases site <;> rfl

/-- The property that a mention names, if it names one. -/
def Mention.property? (mention : Mention) : Option String := mention.site.property?

/-- What stands somewhere ends behind the place where it starts, since nothing said is empty. -/
theorem Saying.StandsIn.lo_lt_hi {base : Cursor} {saying : Saying} (stands : saying.StandsIn base) :
    saying.span.lo < saying.span.hi := by
  obtain ⟨start, token, behind, opens, read, wording, hi⟩ := stands
  have shorter : behind.length < start.text.length := by
    rw [← weigh_one behind, ← weigh_one start.text]
    cases token with
    | word word spelling =>
      have filled := Lexer.name_ne_nil (Lexer.name_of_token read)
      have words := Lexer.weigh_word isWeight_one read
      have length := List.length_pos_iff.mpr filled
      rw [weigh_one word.toList] at words
      omega
    | string value legacy =>
      have quoted := Lexer.weigh_string isWeight_one read
      omega
    | _ => cases wording
  obtain ⟨passed, text, position⟩ := Cursor.leads_skipTo start behind
  have opened := opens.le
  have some : passed ≠ [] := by
    rintro rfl
    have same : start.text = start.text.drop (start.text.length - behind.length) := text
    have lengths := congrArg List.length same
    rw [List.length_drop] at lengths
    omega
  have bytes : weigh Char.utf8Size passed ≠ 0 := fun none => some (isWeight_utf8Size.eq_nil none)
  omega

namespace Script.Program

/-- The names of properties in a program, in the order of the text. -/
def properties (program : Program) : List String := program.mentions.filterMap Mention.property?

/-- Where a property is named. -/
def places (program : Program) (token : String) : List Nat :=
  (program.mentions.filter fun mention => mention.property? == some token).map fun mention =>
    mention.span.lo

/-- The first occurrence of a property stands in front of the first one of another. -/
def OccursBefore (program : Program) (first second : String) : Prop :=
  ∃ place ∈ program.places first, ∀ later ∈ program.places second, place < later

/-- What is read twice names the same property both times. -/
def IsReadAlike (program : Program) : Prop :=
  ∀ mention ∈ program.mentions, ∀ other ∈ program.mentions, mention.span = other.span →
    mention.property? = other.property?

/-- One part of each turn names no property. -/
def IsStraight (program : Program) : Prop :=
  ∀ turn ∈ program.turns, turn.first.filterMap Mention.property? = [] ∨
    turn.second.filterMap Mention.property? = []

instance (program : Program) : Decidable program.IsReadAlike :=
  inferInstanceAs (Decidable (∀ mention ∈ program.mentions, ∀ other ∈ program.mentions, _))

instance (program : Program) : Decidable program.IsStraight :=
  inferInstanceAs (Decidable (∀ turn ∈ program.turns, _))

variable {program : Program} {token : String} {marker : String}

/-- The places of a token are those where some mention of it starts. -/
theorem mem_places_iff {place : Nat} : place ∈ program.places token ↔
    ∃ mention ∈ program.mentions, mention.property? = some token ∧ mention.span.lo = place := by
  simp only [places, List.mem_map, List.mem_filter, beq_iff_eq, and_assoc]

/-- A token is a property of a program exactly when some mention names it. -/
theorem mem_properties_iff :
    token ∈ program.properties ↔ ∃ mention ∈ program.mentions, mention.property? = some token :=
  List.mem_filterMap

end Script.Program

/-! ## Turns -/

section Turns

variable {turns : List Turn} {turn : Turn} {mentions : List Mention} {walk : List Site}

/-- Where one part of each turn names no property, the walk names properties in the order of the
text. -/
theorem Turned.filterMap_property (turned : Turned turns mentions walk)
    (straight : ∀ turn ∈ turns, turn.first.filterMap Mention.property? = [] ∨
      turn.second.filterMap Mention.property? = []) :
    walk.filterMap Site.property? = mentions.filterMap Mention.property? := by
  induction turned with
  | same mentions => exact List.filterMap_map
  | append _ _ atFirst atSecond =>
    obtain ⟨first, second⟩ := List.forall_mem_append.mp straight
    rw [List.filterMap_append, List.filterMap_append, atFirst first, atSecond second]
  | turn front _ _ atFirst atSecond =>
    obtain ⟨inside, last⟩ := List.forall_mem_append.mp straight
    obtain ⟨first, second⟩ := List.forall_mem_append.mp inside
    have kept : (front.map Mention.site).filterMap Site.property? =
        front.filterMap Mention.property? := List.filterMap_map
    simp only [List.filterMap_append, kept, atFirst first, atSecond second]
    rcases last _ List.mem_cons_self with none | none
    · rw [none, List.append_nil, List.append_nil]
    · rw [none, List.append_nil, List.append_nil]

/-- The parts of a turn stand one behind the other in the text, and the other way round in the walk. -/
def Turn.Swaps (turn : Turn) (mentions : List Mention) (walk : List Site) : Prop :=
  ∃ front rest before second first behind,
    mentions = front ++ (turn.first ++ (turn.second ++ rest)) ∧
    walk = before ++ (second ++ (first ++ behind)) ∧
    (turn.first.map Mention.site).Perm first ∧ (turn.second.map Mention.site).Perm second

/-- Parts that are turned within a part are turned within any whole around it. -/
theorem Turn.Swaps.within (swaps : turn.Swaps mentions walk) (others more : List Mention)
    (before behind : List Site) :
    turn.Swaps (others ++ mentions ++ more) (before ++ walk ++ behind) := by
  obtain ⟨front, rest, before', second, first, behind', rfl, rfl, ofFirst, ofSecond⟩ := swaps
  refine ⟨others ++ front, rest ++ more, before ++ before', second, first, behind' ++ behind,
    ?_, ?_, ofFirst, ofSecond⟩
  · simp only [List.append_assoc]
  · simp only [List.append_assoc]

/-- What holds along the properties of the walk holds from the later part of a turn to the earlier
one. -/
theorem Turn.Swaps.related {related : String → String → Prop} {earlier later : String}
    (swaps : turn.Swaps mentions walk) (ordered : (walk.filterMap Site.property?).Pairwise related)
    (inFirst : earlier ∈ turn.first.filterMap Mention.property?)
    (inSecond : later ∈ turn.second.filterMap Mention.property?) : related later earlier := by
  obtain ⟨front, rest, before, second, first, behind, -, rfl, ofFirst, ofSecond⟩ := swaps
  have laterFirst : later ∈ second.filterMap Site.property? := by
    rw [← (ofSecond.filterMap Site.property?).mem_iff, List.filterMap_map]
    exact inSecond
  have earlierLast : earlier ∈ first.filterMap Site.property? := by
    rw [← (ofFirst.filterMap Site.property?).mem_iff, List.filterMap_map]
    exact inFirst
  rw [List.filterMap_append, List.filterMap_append, List.filterMap_append] at ordered
  have parts := (List.pairwise_append.mp ordered).2.1
  exact (List.pairwise_append.mp parts).2.2 later laterFirst earlier
    (List.mem_append_left _ earlierLast)

/-- Where no property is named twice, one of the earlier part of a turn is named before any of the
later part is. -/
theorem Turn.Swaps.exists_split {earlier later : String} (swaps : turn.Swaps mentions walk)
    (distinct : (mentions.filterMap Mention.property?).Nodup)
    (inFirst : earlier ∈ turn.first.filterMap Mention.property?)
    (inSecond : later ∈ turn.second.filterMap Mention.property?) :
    ∃ ahead mention others, mentions = ahead ++ mention :: others ∧
      mention.property? = some earlier ∧
      later ∉ (ahead ++ [mention]).filterMap Mention.property? := by
  obtain ⟨front, rest, before, second, first, behind, text, -, -, -⟩ := swaps
  obtain ⟨mention, among, names⟩ := List.mem_filterMap.mp inFirst
  obtain ⟨ahead, between, parts⟩ := List.append_of_mem among
  have split : mentions = (front ++ ahead) ++ mention :: (between ++ (turn.second ++ rest)) := by
    rw [text, parts]
    simp only [List.append_assoc, List.cons_append]
  refine ⟨front ++ ahead, mention, _, split, names, ?_⟩
  rw [split, List.append_cons, List.filterMap_append, List.nodup_append] at distinct
  intro said
  refine distinct.2.2 later said later ?_ rfl
  rw [List.filterMap_append, List.filterMap_append]
  exact List.mem_append_right _ (List.mem_append_left _ inSecond)

/-- Each turn of a walk swaps its two parts: what is written first is visited last. -/
theorem Turned.swaps (turned : Turned turns mentions walk) : ∀ turn ∈ turns, turn.Swaps mentions walk := by
  induction turned with
  | same mentions => exact List.forall_mem_nil _
  | @append _ _ first second walk further _ _ atFirst atSecond =>
    refine List.forall_mem_append.mpr ⟨fun turn listed => ?_, fun turn listed => ?_⟩
    · exact (atFirst turn listed).within [] second [] further
    · have inside := (atSecond turn listed).within first [] walk []
      rwa [List.append_nil, List.append_nil] at inside
  | @turn _ _ front first second walk further ofFirst ofSecond atFirst atSecond =>
    refine List.forall_mem_append.mpr ⟨List.forall_mem_append.mpr ⟨?_, ?_⟩, ?_⟩
    · intro turn listed
      have inside := (atFirst turn listed).within front second
        (front.map Mention.site ++ further) []
      rwa [List.append_nil] at inside
    · intro turn listed
      have inside := (atSecond turn listed).within (front ++ first) [] (front.map Mention.site) walk
      rwa [List.append_nil] at inside
    · intro turn listed
      obtain rfl := List.mem_singleton.mp listed
      refine ⟨front, [], front.map Mention.site, further, walk, [], ?_, ?_, ofFirst.perm, ofSecond.perm⟩
      · rw [List.append_nil, List.append_assoc]
      · rw [List.append_nil, List.append_assoc]

end Turns

/-! ## The order of the text -/

namespace Script.Program

variable {text : String} {program : Program} {marker : String} {base : Cursor}

/-- Without code in strings, the tokens of a program are the properties of its sites. -/
theorem tokens_of_no_code
    (plain : ∀ value ∈ program.strings, Embedded.isMarked marker value = false) :
    program.tokens marker = (program.sites.filterMap Site.property?).eraseDups := by
  rw [tokens, List.filterMap_eq_flatMap_toList]
  congr 1
  refine List.flatMap_congr fun site inside => ?_
  have holdsNone : site.code? marker = none := by
    cases holds : site.code? marker with
    | none => rfl
    | some code =>
      obtain ⟨value, stands, marked, -⟩ := Site.exists_marked_of_code holds
      rw [plain value (List.mem_filterMap.mpr ⟨site, inside, stands⟩)] at marked
      cases marked
  rw [Site.tokens_of_no_code holdsNone, Site.ownTokens_false]

/-- What is mentioned stands in the text, at the place that its span gives. -/
theorem stands (ordered : InOrder base (sayings program.mentions)) {mention : Mention}
    (listed : mention ∈ program.mentions) : mention.saying.StandsIn base :=
  ordered.standsIn mention.saying (List.mem_map.mpr ⟨mention, listed, rfl⟩)

/-- A property that has not been named up to a mention is named behind it only. -/
theorem hi_le_lo (ordered : InOrder base (sayings program.mentions)) (alike : program.IsReadAlike)
    {front rest : List Mention} {first other : Mention} {property : String}
    (split : program.mentions = front ++ first :: rest) (listed : other ∈ program.mentions)
    (names : other.property? = some property)
    (unsaid : property ∉ (front ++ [first]).filterMap Mention.property?) :
    first.span.hi ≤ other.span.lo := by
  have said : sayings program.mentions = sayings front ++ first.saying :: sayings rest := by
    rw [split, sayings_append]
    rfl
  refine ordered.le_of_notMem said (List.mem_map.mpr ⟨other, listed, rfl⟩) fun earlier => unsaid ?_
  have earlier : other.saying ∈ sayings (front ++ [first]) := by
    rwa [sayings_append]
  obtain ⟨same, before, saying⟩ := List.mem_map.mp earlier
  have inside : same ∈ program.mentions := by
    rw [split, List.append_cons]
    exact List.mem_append_left _ before
  have spans : same.span = other.span := congrArg Saying.span saying
  exact List.mem_filterMap.mpr ⟨same, before, (alike same inside other listed spans).trans names⟩

/-- The properties of a program without repetitions are in the order of their first occurrences. -/
theorem pairwise_properties (ordered : InOrder base (sayings program.mentions))
    (alike : program.IsReadAlike) : program.properties.eraseDups.Pairwise program.OccursBefore := by
  apply pairwise_eraseDups
  intro front property rest other split listed unsaid
  obtain ⟨before, behind, whole, inFront, tail⟩ := List.filterMap_eq_append_iff.mp split
  obtain ⟨between, first, later, parts, none, names, -⟩ := List.filterMap_eq_cons_iff.mp tail
  rw [parts, ← List.append_assoc] at whole
  have upTo : (before ++ between ++ [first]).filterMap Mention.property? = front ++ [property] := by
    have nothing : between.filterMap Mention.property? = [] := List.filterMap_eq_nil_iff.mpr none
    rw [List.filterMap_append, List.filterMap_append, inFront, nothing, List.append_nil,
      List.filterMap_cons_some names, List.filterMap_nil]
  have inside : first ∈ program.mentions := by
    rw [whole]
    exact List.mem_append_right _ List.mem_cons_self
  have filled : first.span.lo < first.span.hi := (stands ordered inside).lo_lt_hi
  refine ⟨first.span.lo, mem_places_iff.mpr ⟨first, inside, names, rfl⟩, ?_⟩
  intro place found
  obtain ⟨mention, among, same, rfl⟩ := mem_places_iff.mp found
  have passed := hi_le_lo ordered alike whole among same (upTo ▸ unsaid)
  omega

/-- Where each property is named once, a turn with properties in both parts puts the later one first. -/
theorem isStraight_of_pairwise (ordered : InOrder base (sayings program.mentions))
    (alike : program.IsReadAlike) (distinct : program.properties.Nodup)
    (inOrder : (program.sites.filterMap Site.property?).Pairwise program.OccursBefore) :
    program.IsStraight := by
  intro turn listed
  have swaps := program.turned.swaps turn listed
  by_cases none : turn.first.filterMap Mention.property? = []
  · exact .inl none
  right
  apply List.eq_nil_iff_forall_not_mem.mpr
  intro later inSecond
  obtain ⟨earlier, inFirst⟩ := List.exists_mem_of_ne_nil _ none
  -- The walk names the later property first, but all that names it stands behind the earlier one.
  obtain ⟨place, found, first⟩ := swaps.related inOrder inFirst inSecond
  obtain ⟨other, among, same, rfl⟩ := mem_places_iff.mp found
  obtain ⟨ahead, mention, others, split, names, unsaid⟩ :=
    swaps.exists_split distinct inFirst inSecond
  have inside : mention ∈ program.mentions := by
    rw [split]
    exact List.mem_append_right _ List.mem_cons_self
  have filled : mention.span.lo < mention.span.hi := (stands ordered inside).lo_lt_hi
  have below := first _ (mem_places_iff.mpr ⟨mention, inside, names, rfl⟩)
  have above := hi_le_lo ordered alike split among same unsaid
  omega

/-- The tokens of a program without code in strings are its properties, each of them once, and each
occurs in the text where it is said to. Unless something is read twice in different ways, they are in
the order of their first occurrences if one part of each turn names no property, and only then when no
property is named twice. -/
theorem tokens_in_order {text : String} {program : Program} {marker : String}
    (parsed : Program.parse text = .ok program)
    (plain : ∀ value ∈ program.strings, Embedded.isMarked marker value = false) :
    (program.tokens marker).Nodup ∧
    (∀ token, token ∈ program.tokens marker ↔
      ∃ mention ∈ program.mentions, mention.property? = some token) ∧
    (∃ front behind, text.toList = front ++ behind ∧ program.lead = weigh Char.utf8Size front ∧
      ∀ mention ∈ program.mentions, mention.saying.StandsIn ⟨behind, 1⟩) ∧
    (program.IsReadAlike →
      (program.IsStraight → (program.tokens marker).Pairwise program.OccursBefore) ∧
      (program.properties.Nodup →
        ((program.tokens marker).Pairwise program.OccursBefore ↔ program.IsStraight))) := by
  have same := tokens_of_no_code plain
  have perm : program.properties.Perm (program.sites.filterMap Site.property?) := by
    have mentioned := program.perm_mentions.filterMap Site.property?
    rwa [List.filterMap_map] at mentioned
  obtain ⟨front, behind, whole, lead, ordered⟩ := inOrder_of_parse parsed
  have forward (alike : program.IsReadAlike) (straight : program.IsStraight) :
      (program.tokens marker).Pairwise program.OccursBefore := by
    rw [same, program.turned.filterMap_property straight]
    exact pairwise_properties ordered alike
  refine ⟨?_, ?_, ?_, fun alike => ⟨forward alike, fun distinct => ⟨?_, forward alike⟩⟩⟩
  · rw [same]
    exact nodup_eraseDups _
  · intro token
    rw [same, List.mem_eraseDups, ← perm.mem_iff]
    exact mem_properties_iff
  · exact ⟨front, behind, whole, lead, fun mention => stands ordered⟩
  · intro inOrder
    rw [same, eraseDups_of_nodup (perm.nodup_iff.mp distinct)] at inOrder
    exact isStraight_of_pairwise ordered alike distinct inOrder

/-- A loop whose test names no property, in front of a repeated property: its parts are visited in
another order than they are written, but nothing named changes places. -/
theorem tokens_in_order_behind_loop : ∃ program,
    Program.parse "do f(o.bar, o['a']); while (x); o.foo = o.bar;" = .ok program ∧
    program.tokens "/**/" = ["bar", "a", "foo"] ∧
    (program.tokens "/**/").Pairwise program.OccursBefore := by
  have read : (Program.parse "do f(o.bar, o['a']); while (x); o.foo = o.bar;").map (fun program =>
      (program.strings, program.tokens "/**/", decide program.IsReadAlike,
        decide program.IsStraight)) = .ok (["a"], ["bar", "a", "foo"], true, true) := by
    decide +kernel
  cases parsed : Program.parse "do f(o.bar, o['a']); while (x); o.foo = o.bar;" with
  | error error =>
    rw [parsed] at read
    cases read
  | ok program =>
    rw [parsed] at read
    obtain ⟨strings, others⟩ := Prod.mk.inj (Except.ok.inj read)
    obtain ⟨tokens, others⟩ := Prod.mk.inj others
    obtain ⟨alike, straight⟩ := Prod.mk.inj others
    have plain : ∀ value ∈ program.strings, Embedded.isMarked "/**/" value = false := by
      rw [strings]
      decide
    obtain ⟨-, -, -, inOrder⟩ := tokens_in_order parsed plain
    have sorted := (inOrder (of_decide_eq_true alike)).1 (of_decide_eq_true straight)
    exact ⟨program, rfl, tokens, sorted⟩

end Script.Program

end PropertyMangling
