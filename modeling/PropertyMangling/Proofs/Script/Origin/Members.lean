import PropertyMangling.Proofs.Script.Origin.Steps
/-!
# Where the words of a program come from: patterns, functions and classes

What is read of parameters, objects and classes mentions what its parts do, in the
order of the text, when the steps in between answer with such nodes. A key that
turns out to be a whole property, or a target, keeps what it says.
-/
namespace PropertyMangling.Script

namespace Parse

variable {base : Cursor}

/-- Turning a node into the target of an assignment keeps what it mentions; the demands behind
read no word. -/
theorem assignmentTarget_adds (node : Node) :
    Adds base node.mentions Node.mentions (assignmentTarget node) := by
  refine (adds_demand fun pattern turned => (sayings_toPattern? turned).symm).andThen ?_
  exact fun pattern => adds_behind fun _ => adds_behind fun _ => adds_pure rfl

/-- Every goal is reached with a node whose mentions come in the order of the text. -/
def ReachesAdding (base : Cursor) (self : Goal → Parse Node) : Prop :=
  ∀ goal, Adds base [] Node.mentions (self goal)

section Functions

variable {self : Goal → Parse Node} (reaches : ReachesAdding base self)

/-- A number mentions nothing: no name and no string stands in its token. -/
theorem numberLiteral_adds : Adds base [] Node.mentions numberLiteral := by
  refine adds_behind fun current => ?_
  split
  · exact adds_behind fun _ => adds_behind fun _ => adds_behind fun _ => adds_pure rfl
  · exact adds_behind fun _ => adds_behind fun _ => adds_pure rfl
  · exact adds_fail

include reaches in
/-- A goal that is reached inside brackets is reached in another scope only, and mentions the
same. -/
theorem enclosed_adds (goal : Goal) : Adds base [] Node.mentions (enclosed (self goal)) :=
  (reaches goal).within _

include reaches in
/-- An element of a pattern mentions its target and then its default, which is how they are
written. -/
theorem bindingElement_adds : Adds base [] Node.mentions (bindingElement self) := by
  refine adds_behind fun start => (reaches .binding).bind fun target => ?_
  refine adds_behind fun hasDefault => ?_
  split
  · refine (enclosed_adds reaches .assignment).bind fun value => ?_
    exact adds_behind fun span => adds_pure rfl
  · exact adds_pure rfl

include reaches in
/-- A key mentions the name or the string that it is; a computed key mentions its expression, and
a number nothing. -/
theorem propertyKey_adds : Adds base [] Node.mentions (propertyKey self) := by
  refine adds_behind fun current => ?_
  split
  · exact (@anyName_adds base .name fun _ => rfl).bind fun name => adds_pure rfl
  · exact (@quoted_adds base .key fun _ => rfl).bind fun literal => adds_pure rfl
  · refine adds_behind fun start => adds_behind fun _ => ?_
    refine (enclosed_adds reaches .assignment).bind fun value => adds_behind fun _ => ?_
    exact adds_behind fun span => adds_pure rfl
  · exact numberLiteral_adds

include reaches in
/-- An item of an array pattern mentions its target and default; a hole and the end mention
nothing. -/
theorem arrayPatternItem_adds : Adds base [] mentionsOfSome (arrayPatternItem self) := by
  refine adds_behind fun closes => ?_
  split
  · exact adds_pure rfl
  · refine adds_behind fun isHole => ?_
    split
    · exact adds_pure rfl
    · refine adds_behind fun isRest => ?_
      split
      · refine (reaches .binding).bind fun target => adds_behind fun comma => ?_
        extract_lets last
        have lastAdds : ∀ passed, Adds base target.mentions mentionsOfSome (last passed) :=
          fun _ => adds_pure rfl
        split
        · exact adds_behind fun _ => adds_behind lastAdds
        · exact lastAdds ()
      · refine (bindingElement_adds reaches).bind fun element => adds_behind fun closes => ?_
        split
        · exact adds_pure rfl
        · exact adds_behind fun _ => adds_pure rfl

include reaches in
/-- An item of an object pattern mentions its key and what is bound to it. A shorthand is read as
a key and is one mention of its own part. -/
theorem objectPatternItem_adds : Adds base [] Node.mentions (objectPatternItem self) := by
  refine adds_behind fun start => adds_behind fun isRest => ?_
  split
  · exact bindingName_adds.bind fun name => adds_behind fun _ => adds_behind fun _ => adds_pure rfl
  · refine (propertyKey_adds reaches).bind fun key => ?_
    split
    · next name =>
      refine adds_behind fun hasColon => ?_
      split
      · exact (bindingElement_adds reaches).bind fun element => adds_pure rfl
      · refine adds_behind fun hasDefault => ?_
        split
        · refine (enclosed_adds reaches .assignment).bind fun value => ?_
          exact adds_behind fun span => adds_pure rfl
        · exact adds_pure rfl
    · exact adds_behind fun _ => (bindingElement_adds reaches).bind fun element => adds_pure rfl

include reaches in
/-- A binding target mentions the names of its pattern in the order of the text; the holes that an
array pattern drops at its end mention nothing. -/
theorem bindingTarget_adds : Adds base [] Node.mentions (bindingTarget self) := by
  refine adds_behind fun start => adds_behind fun isArray => ?_
  split
  · refine (adds_many (arrayPatternItem_adds reaches)).bind fun elements => ?_
    refine adds_behind fun _ => adds_behind fun _ => adds_pure ?_
    exact congrArg sayings (mentionsOf_dropTrailingHoles elements).symm
  · refine adds_behind fun isObject => ?_
    split
    · refine (adds_nodeList _ (objectPatternItem_adds reaches)).bind fun properties => ?_
      exact adds_behind fun span => adds_pure rfl
    · exact bindingName_adds.bind fun name => adds_pure rfl

include reaches in
/-- A parameter mentions its target and then its default, and a rest parameter its target
alone. -/
theorem parameter_adds : Adds base [] Node.mentions (parameter self) := by
  refine adds_behind fun start => adds_behind fun isRest => ?_
  split
  · exact (reaches .binding).bind fun target => adds_behind fun _ => adds_behind fun _ =>
      adds_pure rfl
  · refine (reaches .binding).bind fun target => adds_behind fun hasDefault => ?_
    split
    · refine (reaches .assignment).bind fun value => adds_behind fun span => ?_
      exact adds_pure rfl
    · exact adds_pure rfl

include reaches in
/-- The parameters of a function mention their words one after the other. -/
theorem parameters_adds : Adds base [] mentionsOf (parameters self) :=
  adds_behind fun _ => (adds_nodeList _ (parameter_adds reaches)).bind fun _ => adds_pure rfl

/-- Items that may start with a directive are read one after the other. -/
theorem adds_itemsWithDirective {item : Parse (Option Node)}
    (each : Adds base [] mentionsOfSome item) : Adds base [] mentionsOf (itemsWithDirective item) := by
  refine each.bind fun first? => ?_
  split
  · exact adds_pure rfl
  · next first =>
    have whole : Adds base first.mentions mentionsOf (many item >>= fun rest => pure (first :: rest)) :=
      (adds_many each).bind fun rest => adds_pure rfl
    split
    · refine Adds.within ?_ _
      split
      · exact adds_behind fun _ => adds_behind fun _ => whole
      · exact whole
    · exact whole

include reaches in
/-- An item of a block mentions what its statement does, and the closing brace nothing. -/
theorem listedItem_adds : Adds base [] mentionsOfSome (listedItem self) := by
  refine adds_behind fun closes => ?_
  split
  · exact adds_pure rfl
  · exact (reaches .listed).bind fun node => adds_pure rfl

include reaches in
/-- The statements of a block mention their words one after the other. -/
theorem blockBody_adds : Adds base [] mentionsOf (blockBody self) :=
  adds_behind fun _ => (adds_many (listedItem_adds reaches)).bind fun _ =>
    adds_behind fun _ => adds_pure rfl

/-- A body that notes nothing for the program around it mentions what it does elsewhere: what is
put back behind it moves nowhere. -/
theorem Adds.secluded {α : Type} {made : α → List Mention} {body : Parse α}
    (adds : Adds base [] made body) : Adds base [] made (secluded body) := by
  refine adds_behind fun state => adds.bind fun value => ?_
  have : ∀ isModule, Stays base (modify fun state => { state with isModule := isModule }) :=
    fun _ => stays_modify fun _ => ⟨rfl, rfl⟩
  exact adds_behind fun _ => adds_pure rfl

instance stays_checkDirectives (params body : List Node) :
    Stays base (checkDirectives params body) := by
  unfold checkDirectives
  infer_instance

include reaches in
/-- The body of a function mentions what its statements do; the directives are looked at again,
which reads nothing. -/
theorem functionBody_adds (params : List Node) :
    Adds base [] mentionsOf (functionBody self params) := by
  have items := (adds_itemsWithDirective (listedItem_adds reaches)).secluded
  exact adds_behind fun _ => (items.within _).bind fun body => adds_behind fun _ => adds_pure rfl

/-- What the parameters and the body of a function mention. -/
def partMentions (parts : List Node × List Node) : List Mention :=
  mentionsOf parts.1 ++ mentionsOf parts.2

include reaches in
/-- The parameters are read in a scope of their own and mentioned in front of the body, as they
stand in the text. -/
theorem functionPartsIn_adds (ofParameters ofBody : Scope → Scope) :
    Adds base [] partMentions (functionPartsIn self ofParameters ofBody) :=
  ((parameters_adds reaches).within _).bind fun params =>
    ((functionBody_adds reaches params).within _).bind fun _ => adds_behind fun _ => adds_pure rfl

include reaches in
/-- The parts of a function whose parameters and body share their scope are mentioned in the same
order. -/
theorem functionParts_adds (scope : Scope → Scope) :
    Adds base [] partMentions (functionParts self scope) :=
  functionPartsIn_adds reaches _ scope

end Functions

section Members

variable {self : Goal → Parse Node} (reaches : ReachesAdding base self)

instance stays_isKeyItself (ends : List String) (sameLine : Bool) :
    Stays base (isKeyItself ends sameLine) := by
  refine stays_behind fun next? => ?_
  split <;> exact stays_pure _

instance stays_eatModifier (isModifier : Token → Bool) (ends : List String)
    (sameLine : Bool) : Stays base (eatModifier isModifier ends sameLine) := by
  refine stays_behind fun current => ?_
  split <;> infer_instance

instance stays_checkArity (kind : MethodKind) (params : List Node) :
    Stays base (checkArity kind params) := by
  unfold checkArity
  split <;> infer_instance

instance stays_methodModifiers (ends : List String) (sameLine : Bool) :
    Stays base (methodModifiers ends sameLine) := by
  unfold methodModifiers
  infer_instance

/-- What a method says behind its key is grouped by the function and spelled out by the node; it
is the same list. -/
theorem sayings_method (key : Node) (parts : List Node × List Node) :
    sayings (key.mentions ++ partMentions parts) =
      sayings (key.mentions ++ mentionsOf parts.1 ++ mentionsOf parts.2) := by
  rw [partMentions, List.append_assoc]

include reaches in
/-- An item of an object mentions its key and then its value, its function or its default.
Modifiers in front are words of the grammar and not mentioned. -/
theorem objectItem_adds : Adds base [] Node.mentions (objectItem self) := by
  refine adds_behind fun start => adds_behind fun isSpread => ?_
  split
  · exact (enclosed_adds reaches .assignment).bind fun argument => adds_pure rfl
  · refine adds_behind fun modifiers => (propertyKey_adds reaches).bind fun key => ?_
    refine adds_behind fun isCall => ?_
    dsimp only
    split
    · refine (functionParts_adds reaches _).bind fun parts => adds_behind fun _ => ?_
      exact adds_pure (sayings_method key parts)
    · refine adds_behind fun hasColon => ?_
      split
      · exact (enclosed_adds reaches .assignment).bind fun value => adds_pure rfl
      · split
        · next name =>
          refine adds_behind fun hasDefault => ?_
          split
          · refine (enclosed_adds reaches .assignment).bind fun value => ?_
            exact adds_behind fun span => adds_pure rfl
          · exact adds_pure rfl
        · exact adds_fail

include reaches in
/-- An object mentions what its items do, one after the other. -/
theorem objectLiteral_adds : Adds base [] Node.mentions (objectLiteral self) :=
  adds_behind fun _ => adds_behind fun _ =>
    (adds_nodeList _ (objectItem_adds reaches)).bind fun _ => adds_behind fun _ => adds_pure rfl

include reaches in
/-- The key of a member of a class is mentioned as any key is; a private name is kept apart from
the names of properties and is not mentioned. -/
theorem classKey_adds : Adds base [] Node.mentions (classKey self) := by
  refine adds_behind fun current => ?_
  split
  · exact adds_behind fun _ => adds_behind fun _ => adds_pure rfl
  · exact propertyKey_adds reaches

include reaches in
/-- What stands behind the key of a field is its value, which is mentioned behind the key when
there is one. -/
theorem fieldTail_adds (isStatic : Bool) (key : Node) :
    Adds base key.mentions Node.mentions (fieldTail self isStatic key) := by
  refine adds_behind fun _ => adds_behind fun hasValue => ?_
  extract_lets field
  have fieldAdds : ∀ value?, Adds base (key.mentions ++ mentionsOfSome value?) Node.mentions
      (field value?) :=
    fun _ => adds_behind fun _ => adds_pure rfl
  split
  · exact ((reaches .assignment).within _).bind fun value => fieldAdds (some value)
  · exact (fieldAdds none).leftOut

include reaches in
/-- A member of a class mentions its key and then its function or its value, and a static block
mentions its statements. -/
theorem classItem_adds : Adds base [] mentionsOfSome (classItem self) := by
  refine adds_behind fun closes => ?_
  split
  · exact adds_pure rfl
  · refine adds_behind fun isEmpty => ?_
    split
    · exact adds_pure rfl
    · refine adds_behind fun isStatic => adds_behind fun repeated => adds_behind fun opens => ?_
      extract_lets member
      have memberAdds : ∀ passed, Adds base [] mentionsOfSome (member passed) := by
        intro passed
        refine adds_behind fun isBlock => ?_
        split
        · exact ((blockBody_adds reaches).within _).bind fun body => adds_pure rfl
        · refine adds_behind fun modifiers => (classKey_adds reaches).bind fun key => ?_
          refine adds_behind fun isCall => ?_
          split
          · split
            · refine adds_behind fun _ => (functionPartsIn_adds reaches _ _).bind fun parts => ?_
              exact adds_pure (sayings_method key parts)
            · refine (functionParts_adds reaches _).bind fun parts => adds_behind fun _ => ?_
              exact adds_pure (sayings_method key parts)
          · exact (fieldTail_adds reaches isStatic key).andThen fun field => adds_pure rfl
      split
      · exact adds_behind memberAdds
      · exact memberAdds ()

include reaches in
/-- A class mentions its name, then its parent and then its members. -/
theorem classParts_adds {α : Type} {named : α → List Mention} {name : Parse α}
    (adds : Adds base [] named name) :
    Adds base [] (fun parts => named parts.1 ++ mentionsOfSome parts.2.1 ++ mentionsOf parts.2.2)
      (classParts self name) := by
  refine Adds.bind (Adds.within ?_ _) fun parts => adds_behind fun _ => adds_pure rfl
  refine adds_behind fun _ => adds.bind fun name => adds_behind fun hasParent => ?_
  extract_lets members
  have membersAdds : ∀ parent?, Adds base (named name ++ mentionsOfSome parent?)
      (fun parts => named parts.1 ++ mentionsOfSome parts.2.1 ++ mentionsOf parts.2.2)
      (members parent?) :=
    fun _ => adds_behind fun _ => ((adds_many (classItem_adds reaches)).within _).bind fun items =>
      adds_behind fun _ => adds_pure rfl
  split
  · exact (reaches .subject).bind fun parent => membersAdds (some parent)
  · exact (membersAdds none).leftOut

end Members

end Parse

end PropertyMangling.Script
