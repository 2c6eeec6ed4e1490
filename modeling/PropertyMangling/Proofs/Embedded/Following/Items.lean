import PropertyMangling.Proofs.Embedded.Following.Statements
import PropertyMangling.Script.Parsing
/-!
# Steps that follow one another: the interface of a module, and items

The strings of an interface are names as the words are, so that they are spots too. What an
item shows of the program, that it is a module and that something was declared, is noted in
the same way in both texts.

At the end the circle of the steps is closed. Each goal is reached through steps that reach the
others one level further down, so that the induction is on the levels and has one case for
each goal.
-/
namespace PropertyMangling.Script.Parse

open Embedded

variable {exchange : Exchange} {α : Type} {pre : State → Prop} {given : Bool → List Span}

/-! ## Names of an interface -/

/-- A name of an interface, which holds a spot when it is a string. -/
def Kind.interfaceName : Kind InterfaceName :=
  .outlined InterfaceName.outline fun name _ => name.spots

/-- Imported names with their spots. -/
def Kind.imported : Kind (List ImportSpecifier) :=
  .list ImportSpecifier.outline fun specifier _ => specifier.spots

/-- Exported names with their spots. -/
def Kind.exported : Kind (List ExportSpecifier) :=
  .list ExportSpecifier.outline fun specifier _ => specifier.spots

section Spots

variable {keys : Bool}

/-- The spots of a name in an interface are its own, one when it is a string and none when it is a
name. -/
@[simp]
theorem Kind.spots_interfaceName (name : InterfaceName) :
    Kind.interfaceName.spots name keys = name.spots := rfl

/-- The spots of import specifiers are those of each, one after the other. -/
@[simp]
theorem Kind.spots_imported (specifiers : List ImportSpecifier) :
    Kind.imported.spots specifiers keys = specifiers.flatMap ImportSpecifier.spots := rfl

/-- The spots of export specifiers are those of each, one after the other. -/
@[simp]
theorem Kind.spots_exported (specifiers : List ExportSpecifier) :
    Kind.exported.spots specifiers keys = specifiers.flatMap ExportSpecifier.spots := rfl

/-- A string has one spot, which is its text. -/
@[simp]
theorem Kind.spots_quoted (literal : Quoted) :
    (Kind.quoted exchange).spots literal keys = [literal.spot] := rfl

end Spots

/-- A name in an interface is read alike in both texts; one that is a string may hold a word that
is exchanged. -/
theorem interfaceName_follows :
    Follows exchange pre nothing .interfaceName interfaceName interfaceName := by
  refine follows_token (fun _ _ => rfl) fun token => ?_
  split
  · refine quoted_follows.andThen fun literal literalToo same => ?_
    exact follows_pure (congrArg InterfaceName.string same.outline) fun _ => List.Subset.refl _
  · refine anyName_follows.andThen fun name nameToo same => ?_
    exact follows_pure (congrArg InterfaceName.name (bare_eq same)) fun _ => List.nil_subset _

/-- The string that names a module is a spot, so that its text may be a word that is exchanged. -/
theorem moduleSource_follows :
    Follows exchange pre given (.quoted exchange) moduleSource moduleSource :=
  follows_behind fun _ => quoted_follows

/-! ## Imports -/

/-- An imported item is read alike in both texts. Its variable is never exchanged, and its name in
the module only where it is a string. -/
theorem importItem_follows :
    Follows exchange pre nothing
      (.outlined ImportSpecifier.outline fun specifier _ => specifier.spots) importItem importItem := by
  refine follows_token (fun _ _ => rfl) fun token => ?_
  split
  · refine interfaceName_follows.andThen fun imported importedToo same => follows_behind fun _ => ?_
    refine bindingName_follows.andThen fun name nameToo sameName => ?_
    exact follows_pure (congrArg₂ ImportSpecifier.item (bare_eq sameName) (congrArg some same))
      fun _ => List.subset_append_left _ _
  · refine anyName_follows.andThen fun own ownToo same => follows_behind fun isNamed => ?_
    split
    · refine bindingName_follows.andThen fun name nameToo sameName => ?_
      refine follows_pure (congrArg₂ ImportSpecifier.item (bare_eq sameName) ?_) fun _ => List.nil_subset _
      exact congrArg (fun name => some (InterfaceName.name name)) (bare_eq same)
    · exact follows_pure (congrArg (ImportSpecifier.item · none) (bare_eq same))
        fun _ => List.nil_subset _
  · exact follows_fail

/-- What an import brings in behind its default name is read alike in both texts: a whole
interface, items in braces or nothing. -/
theorem importGroup_follows (phase : ImportPhase) :
    Follows exchange pre nothing .imported (importGroup phase) (importGroup phase) := by
  refine follows_behind fun isStar => ?_
  split
  · refine follows_behind fun _ => bindingName_follows.andThen fun name nameToo same => ?_
    exact follows_pure (congrArg (fun name => [ImportSpecifier.wholeInterface name]) (bare_eq same))
      fun _ => List.nil_subset _
  refine follows_behind fun opens => ?_
  split
  · refine (follows_commaList _ importItem_follows).andThen ?_
    rintro ⟨specifiers, trailing⟩ ⟨specifiersToo, _⟩ ⟨same, ⟨⟩⟩
    exact follows_pure same fun keys => by simp [Kind.imported]
  · exact follows_pure rfl fun _ => List.nil_subset _

/-- The word behind another is looked at, so that phases are told apart in the same way. -/
instance plain_phaseBefore? (name : String) : Plain exchange (phaseBefore? name) where
  follows := by
    have told (phase? : Option ImportPhase) {pre : State → Prop} :
        Follows exchange pre nothing .plain (pure phase?) (pure phase?) := follows_plain _
    unfold phaseBefore?
    split
    · exact told _
    · refine follows_behind fun isStar => ?_
      split
      · exact told _
      refine follows_token (fun _ _ => rfl) fun token => ?_
      split
      · refine follows_peek ?_ (fun _ _ _ => rfl) fun next? => ?_
        · exact fun state ⟨_, token⟩ => congrArg Token.looksAhead token
        · exact follows_behind fun isFrom => told _
      · exact told _

/-- The default name of an import is kept in both texts, and the comma behind it is passed in both
or in none. -/
theorem defaultName_follows {name nameToo : Name} (same : name.text = nameToo.text) :
    Follows exchange pre given .someName (defaultName name) (defaultName nameToo) := by
  have told {pre : State → Prop} : Follows exchange pre given .someName (pure (some name))
      (pure (some nameToo)) := follows_pure (congrArg some same) fun _ => List.nil_subset _
  refine follows_behind fun isFrom => ?_
  split
  · exact follows_behind fun _ => told
  · exact told

/-- What stands in front of the specifiers of an import is read alike in both texts, be it a name,
a word for the phase or both. -/
theorem importHead_follows :
    Follows exchange pre nothing (.pair .plain .someName) importHead importHead := by
  have told (phase : ImportPhase) {pre : State → Prop} :
      Follows exchange pre nothing (.pair .plain .someName) (pure (phase, none))
        (pure (phase, none)) := follows_pure ⟨rfl, rfl⟩ fun _ => List.nil_subset _
  have named (phase : ImportPhase) {name nameToo : Name} (same : name.text = nameToo.text)
      {pre : State → Prop} : Follows exchange pre nothing (.pair .plain .someName)
        (defaultName name >>= fun default? => pure (phase, default?))
        (defaultName nameToo >>= fun default? => pure (phase, default?)) :=
    (defaultName_follows same).andThen fun default? defaultToo? same =>
      follows_pure ⟨rfl, same⟩ fun _ => List.nil_subset _
  refine optionalName_follows.andThen fun first? firstToo? same => ?_
  rcases first? with _ | first <;> rcases firstToo? with _ | firstToo
  · exact told _
  · cases same
  · cases same
  have same : first.text = firstToo.text := Option.some.inj same
  dsimp only
  rw [← same]
  refine follows_behind fun phase? => ?_
  split
  · exact named _ same
  refine follows_behind fun isStar => ?_
  split
  · exact told _
  refine optionalName_follows.andThen fun name? nameToo? same => ?_
  rcases name? with _ | name <;> rcases nameToo? with _ | nameToo
  · exact follows_fail
  · cases same
  · cases same
  · exact named _ (Option.some.inj same)

/-- An import is read alike in both texts; its source is a string and may be a word that is
exchanged. -/
theorem importDeclaration_follows :
    Follows exchange pre nothing (.node exchange) importDeclaration importDeclaration := by
  refine follows_behind fun _ => follows_token (fun _ _ => rfl) fun token => ?_
  split
  · refine quoted_follows.andThen fun source sourceToo same => follows_behind fun _ => ?_
    exact follows_node rfl (by simp [Node.outline, same.outline]) fun keys => by simp [Node.spots]
  · refine importHead_follows.andThen ?_
    rintro ⟨phase, default?⟩ ⟨_, defaultToo?⟩ ⟨⟨⟩, (sameDefault : default?.map _ = defaultToo?.map _)⟩
    refine (importGroup_follows phase).ofNothing.andThen
      fun others othersToo (same : others.map _ = othersToo.map _) => ?_
    refine moduleSource_follows.andThen fun source sourceToo sameSource => follows_behind fun _ => ?_
    have ofDefault (name? : Option Name) :
        (name?.map ImportSpecifier.defaultValue).toList.map ImportSpecifier.outline =
          ((name?.map Name.bare).map ImportSpecifier.defaultValue).toList := by
      cases name? <;> rfl
    have noSpots : (default?.map ImportSpecifier.defaultValue).toList.flatMap ImportSpecifier.spots = [] := by
      cases default? <;> rfl
    refine follows_node rfl ?_ fun keys => by simp [Node.spots, noSpots]
    simp [Node.outline, ofDefault, someBare_eq sameDefault, same, sameSource.outline]

/-! ## Exports -/

/-- An exported item is read alike in both texts, under its own name or another one. -/
theorem exportItem_follows :
    Follows exchange pre nothing
      (.outlined ExportSpecifier.outline fun specifier _ => specifier.spots) exportItem exportItem := by
  refine interfaceName_follows.andThen fun own ownToo same => follows_behind fun isNamed => ?_
  split
  · refine interfaceName_follows.ofNothing.andThen fun exported exportedToo sameExported => ?_
    exact follows_pure (congrArg₂ ExportSpecifier.item same (congrArg some sameExported))
      fun _ => List.Subset.refl _
  · exact follows_pure (congrArg (ExportSpecifier.item · none) same) fun _ => List.Subset.refl _

/-- Whether an exported item goes by a name of the program is told by its outline. -/
@[simp]
theorem isOwnName_outline (specifier : ExportSpecifier) :
    isOwnName specifier.outline = isOwnName specifier := by
  cases specifier with
  | item own exported? => cases own <;> rfl
  | wholeInterface name => rfl

/-- A group of exported items is read alike in both texts. Without a source the items go by names
of the program, in both or in none. -/
theorem exportGroup_follows :
    Follows exchange pre nothing (.node exchange) exportGroup exportGroup := by
  refine follows_behind fun _ => (follows_commaList _ exportItem_follows).andThen ?_
  rintro ⟨specifiers, trailing⟩ ⟨specifiersToo, _⟩ ⟨(same : specifiers.map _ = specifiersToo.map _), ⟨⟩⟩
  refine follows_behind fun isFrom => ?_
  have spots (keys : Bool) : specifiers.flatMap ExportSpecifier.spots ⊆ nothing keys ++
      (Kind.pair .exported .plain).spots (specifiers, trailing) keys := by simp
  split
  · refine moduleSource_follows.andThen fun source sourceToo sameSource => follows_behind fun _ => ?_
    refine follows_node rfl (by simp [Node.outline, same, sameSource.outline]) fun keys => ?_
    exact List.append_subset.mpr ⟨List.subset_append_of_subset_left _ (spots keys),
      List.subset_append_right _ _⟩
  · refine follows_require ?_ (follows_behind fun _ => ?_)
    · have each (specifiers : List ExportSpecifier) :
          specifiers.all isOwnName = (specifiers.map ExportSpecifier.outline).all isOwnName := by
        simp [Function.comp_def]
      rw [each, ← same, ← each]
    · refine follows_node rfl (by simp [Node.outline, same]) fun keys => ?_
      exact List.append_subset.mpr ⟨spots keys, List.nil_subset _⟩

/-- An export of a whole interface is read alike in both texts, under a name or without one. -/
theorem exportStar_follows :
    Follows exchange pre nothing (.node exchange) exportStar exportStar := by
  refine follows_behind fun isNamed => ?_
  split
  · refine interfaceName_follows.andThen fun name nameToo (same : name.outline = nameToo.outline) => ?_
    refine moduleSource_follows.andThen fun source sourceToo sameSource => follows_behind fun _ => ?_
    exact follows_node rfl (by simp [Node.outline, ExportSpecifier.outline, same, sameSource.outline])
      fun keys => by simp [Node.spots, ExportSpecifier.spots]
  · refine moduleSource_follows.andThen fun source sourceToo same => follows_behind fun _ => ?_
    exact follows_node rfl (congrArg Node.exportAll same.outline) fun _ => List.Subset.refl _

/-! ## Items -/

/-- Whether an import is declared here is asked of the token behind the word, and is answered
alike for all strings. -/
theorem glances_opensImport : Glances exchange opensImport :=
  glances_of_peek (fun next? => by split <;> exact ⟨_, rfl⟩) fun _ _ _ => rfl

section Items

variable {self : Goal → Parse Node} (reaches : ReachesAlike exchange self)

include reaches

/-- A default export is read alike in both texts, be it a function, a class or an expression. -/
theorem exportedDefault_follows :
    Follows exchange pre nothing (.node exchange) (exportedDefault self) (exportedDefault self) := by
  have exported {step twin : Parse Node} {pre : State → Prop}
      (follows : Follows exchange pre nothing (.node exchange) step twin) :
      Follows exchange pre nothing (.node exchange) (step >>= fun value => pure (.exportDefault value))
        (twin >>= fun value => pure (.exportDefault value)) :=
    follows.andThen fun value valueToo same =>
      follows_node rfl (congrArg Node.exportDefault same.outline) fun _ => List.Subset.refl _
  refine follows_behind fun opens => ?_
  split
  · exact follows_behind fun isAsync => exported (functionExpression_follows reaches isAsync)
  refine follows_behind fun isClass => ?_
  split
  · exact exported (classExpression_follows reaches)
  · refine (enclosed_follows reaches .assignment).andThen fun value valueToo same => ?_
    refine follows_behind fun _ => ?_
    exact follows_node rfl (congrArg Node.exportDefault same.outline) fun _ => List.Subset.refl _

/-- An export is read alike in both texts. The case split follows what stands behind its word,
which is never a string. -/
theorem exportDeclaration_follows :
    Follows exchange pre nothing (.node exchange) (exportDeclaration self)
      (exportDeclaration self) := by
  have exported {step twin : Parse Node} {pre : State → Prop}
      (follows : Follows exchange pre nothing (.node exchange) step twin) :
      Follows exchange pre nothing (.node exchange)
        (step >>= fun declaration => pure (.exportDeclaration declaration))
        (twin >>= fun declaration => pure (.exportDeclaration declaration)) :=
    follows.andThen fun value valueToo same =>
      follows_node rfl (congrArg Node.exportDeclaration same.outline) fun _ => List.Subset.refl _
  refine follows_behind fun _ => follows_behind fun isStar => ?_
  split
  · exact exportStar_follows
  refine follows_behind fun isGroup => ?_
  split
  · exact exportGroup_follows
  refine follows_behind fun isDefault => ?_
  split
  · exact exportedDefault_follows reaches
  refine follows_behind fun kind? => ?_
  split
  · exact exported (variableStatement_follows reaches _)
  refine follows_behind fun opens => ?_
  split
  · exact exported (openedFunction_follows reaches)
  refine follows_behind fun isClass => ?_
  split
  · exact exported (classDeclaration_follows reaches)
  · exact follows_fail

omit reaches in
/-- That something is declared is noted in both texts, and what follows is read in the scope of a
module in both. -/
theorem Follows.declared {declaration twin : Parse Node}
    (follows : Follows exchange anywhere nothing (.node exchange) declaration twin) :
    Follows exchange pre nothing (.node exchange) (interface declaration) (interface twin) := by
  have notes : Plain exchange (modify fun state => { state with declared := true } : Parse Unit) :=
    plain_modify (fun _ => ⟨rfl, rfl, rfl, rfl⟩) fun _ _ noted => ⟨noted.scriptOnly, noted.isModule, rfl⟩
  exact follows_behind fun _ => follows_behind fun _ => follows.within _

/-- A statement that starts with an awaited expression is read alike in both texts, and its
operand may go on in both. -/
theorem awaitStatement_follows :
    Follows exchange pre nothing (.node exchange) (awaitStatement self) (awaitStatement self) := by
  refine follows_behind fun _ => follows_at fun start startToo => ?_
  refine (awaitExpression_follows reaches).andThen fun value valueToo same => ?_
  refine follows_get fun state other newline _ _ => ?_
  rw [newline, eq_of_outline isAwaitUsing_outline same.outline]
  refine follows_behind fun isName => follows_behind fun _ => ?_
  have head : (Kind.head exchange).option.alike (some ⟨value, start, true⟩)
      (some ⟨valueToo, startToo, true⟩) := ⟨same, rfl⟩
  refine ((joined_follows reaches 10 head).within Scope.enclosed).andThen
    fun expression twin sameWhole => follows_behind fun _ => ?_
  exact (statementOf_follows start startToo sameWhole).weaken (fun _ => id)
    fun _ => List.subset_append_right _ _

/-- An item of a program is read alike in both texts, and the items end in both at once. What was
declared before is noted alike, so the scope is the same. -/
theorem item_follows : Follows exchange pre nothing .item (item self) (item self) := by
  have found {step twin : Parse Node} {pre : State → Prop}
      (follows : Follows exchange pre nothing (.node exchange) step twin) :
      Follows exchange pre nothing .item (step >>= fun node => pure (some node))
        (twin >>= fun node => pure (some node)) :=
    follows.andThen fun node nodeToo same => follows_item same.outline fun _ => List.Subset.refl _
  refine follows_token (fun _ _ => rfl) fun token => ?_
  split
  · exact follows_noItem
  refine follows_get fun state other _ _ declared => ?_
  dsimp only
  rw [declared]
  refine Follows.within ?_ _
  refine follows_wordAnd glances_opensImport (fun _ _ => by simp) fun isImport opens => ?_
  split
  · exact found importDeclaration_follows.declared
  refine follows_behind fun isExport => ?_
  split
  · exact found (exportDeclaration_follows reaches).declared
  refine follows_behind fun isAwait => ?_
  split
  · exact found (awaitStatement_follows reaches)
  · exact found (goal_follows reaches .listed)

end Items

/-! ## The circle -/

/-- Every goal is reached in the other text as it is in the text, in any number of levels. -/
theorem reachesAlike (exchange : Exchange) (levels : Nat) :
    ReachesAlike exchange (reach levels) := by
  induction levels with
  | zero => exact fun _ => follows_fail
  | succ levels inductionHypothesis =>
    have none : (Kind.head exchange).option.alike none none := trivial
    intro goal
    cases goal with
    | expression => exact expression_follows inductionHypothesis
    | assignment => exact assignment_follows inductionHypothesis
    | power => exact powered_follows inductionHypothesis none
    | unary =>
      refine (operand_follows inductionHypothesis none).andThen ?_
      rintro ⟨node, hasOperator⟩ ⟨nodeToo, _⟩ ⟨same, ⟨⟩⟩
      exact follows_pure same fun keys => by simp
    | subject => exact subject_follows inductionHypothesis true none
    | callee => exact subject_follows inductionHypothesis false none
    | binding => exact bindingTarget_follows inductionHypothesis
    | statement => exact statement_follows inductionHypothesis
    | listed => exact listed_follows inductionHypothesis

end PropertyMangling.Script.Parse
