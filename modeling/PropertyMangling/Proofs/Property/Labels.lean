import PropertyMangling.Proofs.Property.Collection
import PropertyMangling.Proofs.Property.Relabeling
/-!
# What renaming relabels

Renaming a program is one relabeling, which falls apart into two: the shorthands
that the mapping knows are written out under their own names, and then property
names and strings change alone. What was written out stays written out. The
places that are counted are the sites that the mapping knows.
-/
namespace PropertyMangling

open Script

namespace Renaming

/-- The new names and strings of a plan. Shorthands stay. -/
def labels (plan : Renaming) : Relabeling where
  name := Embedded.renamed plan.mapping
  string? value :=
    if Embedded.isMarked plan.marker value then
      some (Embedded.renameWords plan.mapping (Embedded.codeOf plan.marker value))
    else plan.mapping.get? value
  key? _ := none

/-- All that a plan changes. -/
def relabeling (plan : Renaming) : Relabeling := { plan.labels with key? := plan.mapping.get? }

/-- Whether a site is renamed: the mapping knows what stands there, and no code does. -/
def renames (plan : Renaming) : Site → Bool
  | .name text | .shorthand text => (plan.mapping.get? text).isSome
  | .subscript value | .key value | .literal value =>
    !Embedded.isMarked plan.marker value && (plan.mapping.get? value).isSome
  | .imported _ | .variable _ => false

/-- A part is renamed to the given one, and the sites of the part that are renamed are counted. -/
structure Relabels (plan : Renaming) {α : Type} (renamed : Counted α) (part : α)
    (sites : List Site) : Prop where
  value : renamed.value = part
  count : renamed.count = sites.countP plan.renames

namespace Relabels

variable {plan : Renaming} {α β γ δ ε : Type}

/-- A part without sites that stays as it is relabels to itself and counts nothing. -/
theorem pure (part : α) : plan.Relabels (Pure.pure part) part [] := ⟨rfl, rfl⟩

/-- Parts that are renamed one after the other relabel and count as the whole of them does. -/
theorem bind {first : Counted α} {next : α → Counted β} {one : α} {whole : β}
    {ones others : List Site} (atFirst : plan.Relabels first one ones)
    (atNext : plan.Relabels (next one) whole others) :
    plan.Relabels (first >>= next) whole (ones ++ others) where
  value := by rw [Counted.value_bind, atFirst.value, atNext.value]
  count := by
    rw [Counted.count_bind, atFirst.value, atFirst.count, atNext.count, List.countP_append]

/-- Sites that are never renamed may stand in front of those of a part, as they add nothing to the
count. -/
theorem behind {renamed : Counted α} {part : α} {front sites : List Site}
    (inner : plan.Relabels renamed part sites) (kept : front.countP plan.renames = 0) :
    plan.Relabels renamed part (front ++ sites) :=
  ⟨inner.value, by rw [List.countP_append, kept, Nat.zero_add, inner.count]⟩

section Wholes

variable {first : Counted α} {second : Counted β} {third : Counted γ} {fourth : Counted δ}
  {one : α} {two : β} {three : γ} {four : δ} {ones twos threes fours : List Site}

/-- A whole with a single part relabels when its part does, and counts what its part counts. -/
theorem map {whole : α → β} (atFirst : plan.Relabels first one ones) :
    plan.Relabels (first >>= fun a => Pure.pure (whole a)) (whole one) ones := by
  rw [← List.append_nil ones]
  exact atFirst.bind (.pure _)

/-- A whole with two parts relabels when both parts do, and counts what they count together. -/
theorem map₂ {whole : α → β → γ} (atFirst : plan.Relabels first one ones)
    (atSecond : plan.Relabels second two twos) :
    plan.Relabels (first >>= fun a => second >>= fun b => Pure.pure (whole a b)) (whole one two)
      (ones ++ twos) :=
  atFirst.bind atSecond.map

/-- A whole with three parts relabels when all of its parts do, and counts what they count
together. -/
theorem map₃ {whole : α → β → γ → δ} (atFirst : plan.Relabels first one ones)
    (atSecond : plan.Relabels second two twos) (atThird : plan.Relabels third three threes) :
    plan.Relabels
      (first >>= fun a => second >>= fun b => third >>= fun c => Pure.pure (whole a b c))
      (whole one two three) (ones ++ twos ++ threes) := by
  rw [List.append_assoc]
  exact atFirst.bind (atSecond.map₂ atThird)

/-- A whole with four parts relabels when all of its parts do, and counts what they count
together. -/
theorem map₄ {whole : α → β → γ → δ → ε} (atFirst : plan.Relabels first one ones)
    (atSecond : plan.Relabels second two twos) (atThird : plan.Relabels third three threes)
    (atFourth : plan.Relabels fourth four fours) :
    plan.Relabels
      (first >>= fun a => second >>= fun b => third >>= fun c => fourth >>= fun d =>
        Pure.pure (whole a b c d))
      (whole one two three four) (ones ++ twos ++ threes ++ fours) := by
  rw [List.append_assoc, List.append_assoc, ← List.append_assoc twos]
  exact atFirst.bind (atSecond.map₃ atThird atFourth)

end Wholes

end Relabels

variable (plan : Renaming)

/-- The name of a function or a class is a variable, which is never renamed. -/
theorem countP_variableSites (name? : Option Name) :
    (variableSites name?).countP plan.renames = 0 := by
  cases name? <;> rfl

/-- What an import binds is never renamed, so imports add nothing to the count. -/
theorem countP_importSites (specifiers : List ImportSpecifier) :
    (specifiers.flatMap ImportSpecifier.sites).countP plan.renames = 0 := by
  induction specifiers with
  | nil => rfl
  | cons specifier rest inductionHypothesis =>
    have kept : specifier.sites.countP plan.renames = 0 := by
      rcases specifier with _ | _ | ⟨_, _ | _ | _⟩ <;> rfl
    rw [List.flatMap_cons, List.countP_append, kept, inductionHypothesis]

/-- Renaming a name puts the label of the relabeling at it, and counts one just where the name is
mapped. -/
theorem relabels_name (name : Name) :
    plan.Relabels (plan.name name) (plan.relabeling.onName name) [.name name.text] where
  value := congrArg (fun text => { name with text := text }) (plan.value_text name.text)
  count := by
    change (plan.text name.text).count = _
    rw [text, List.countP_singleton, renames]
    cases plan.mapping.get? name.text <;> rfl

/-- A string is renamed alike wherever it stands, outside of imports. -/
theorem relabels_quoted (literal : Quoted) (site : Site)
    (shown : plan.renames site = plan.renames (.literal literal.value)) :
    plan.Relabels (plan.quoted literal) (plan.relabeling.onString literal) [site] := by
  have counted : [site].countP plan.renames =
      if plan.renames (.literal literal.value) then 1 else 0 := by
    rw [List.countP_singleton, shown]
  constructor
  · rw [quoted, Relabeling.onString]
    dsimp only [relabeling, labels]
    cases Embedded.isMarked plan.marker literal.value with
    | true => rfl
    | false => cases plan.mapping.get? literal.value <;> rfl
  · rw [counted, quoted, renames]
    cases Embedded.isMarked plan.marker literal.value with
    | true => rfl
    | false => cases plan.mapping.get? literal.value <;> rfl

/-- Renaming a string puts the label of the relabeling at it, and counts one just where it is
renamed. -/
theorem relabels_literal (literal : Quoted) :
    plan.Relabels (plan.quoted literal) (plan.relabeling.onString literal)
      [.literal literal.value] :=
  plan.relabels_quoted literal _ rfl

/-- Renaming a name of an interface relabels it, as a name or as a string. -/
theorem relabels_interfaceName (name : InterfaceName) :
    plan.Relabels (plan.interfaceName name) (plan.relabeling.onInterfaceName name)
      (name.sites .literal) := by
  cases name with
  | name word => exact ⟨rfl, rfl⟩
  | string literal => exact (plan.relabels_literal literal).map

/-- Renaming an export relabels the names of its interface and leaves the variable behind them. -/
theorem relabels_exportSpecifier (specifier : ExportSpecifier) :
    plan.Relabels (plan.exportSpecifier specifier) (plan.relabeling.onExport specifier)
      specifier.sites := by
  cases specifier with
  | item own exported? =>
    cases exported? with
    | none => exact (plan.relabels_interfaceName own).map
    | some exported =>
      exact (plan.relabels_interfaceName own).map₂ (plan.relabels_interfaceName exported)
  | wholeInterface name => exact (plan.relabels_interfaceName name).map

/-- Renaming the exports of a list relabels each of them, one after the other. -/
theorem relabels_exportSpecifiers (specifiers : List ExportSpecifier) :
    plan.Relabels (plan.exportSpecifiers specifiers) (specifiers.map plan.relabeling.onExport)
      (specifiers.flatMap ExportSpecifier.sites) := by
  induction specifiers with
  | nil => exact .pure []
  | cons specifier rest inductionHypothesis =>
    exact (plan.relabels_exportSpecifier specifier).map₂ inductionHypothesis

/-- Renaming the source of a module relabels it as a string; where there is none nothing is
counted. -/
theorem relabels_source (source? : Option Quoted) :
    plan.Relabels (plan.source source?) (source?.map plan.relabeling.onString)
      (sourceSites source?) := by
  cases source? with
  | none => exact .pure none
  | some literal => exact (plan.relabels_literal literal).map

variable {plan}

/-- An index that is a string counts as any string does. -/
theorem Relabels.index {index : Node}
    (inner : plan.Relabels (index.rename plan) (index.relabel plan.relabeling) index.sites) :
    plan.Relabels (index.rename plan) (index.relabel plan.relabeling)
      (match subscriptString? index with
        | some value => [.subscript value]
        | none => index.sites) := by
  cases index with
  | string literal => exact (plan.relabels_quoted literal (.subscript literal.value) rfl).map
  | _ => exact inner

/-- A shorthand is renamed by being written out, which is what a relabeling of its key does as
well. -/
theorem Relabels.shorthand (span : Span) (name : Name) {renamed? : Counted (Option Node)}
    {default? : Option Node} {sites : List Site} (inner : plan.Relabels renamed? default? sites) :
    plan.Relabels (renamed? >>= fun default? => plan.shorthand span name default?)
      (plan.relabeling.onShorthand span name default?) (.shorthand name.text :: sites) where
  value := by
    rw [Counted.value_bind, inner.value, Renaming.shorthand, Relabeling.onShorthand]
    dsimp only [relabeling]
    cases plan.mapping.get? name.text <;> rfl
  count := by
    rw [Counted.count_bind, List.countP_cons, inner.count, renames, Renaming.shorthand]
    cases plan.mapping.get? name.text <;> rfl

end Renaming

mutual

/-- Renaming a node relabels it and counts its sites that are renamed.

One case for each kind of node: its parts are renamed and counted one by one. -/
theorem Script.Node.relabels_rename (plan : Renaming) :
    ∀ node : Node,
      plan.Relabels (node.rename plan) (node.relabel plan.relabeling) node.sites
  | .word _ => .pure _
  | .identifier _ => ⟨rfl, rfl⟩
  | .privateName _ => .pure _
  | .number .. => .pure _
  | .bigint .. => .pure _
  | .regex _ => .pure _
  | .string literal => (plan.relabels_literal literal).map
  | .hole => .pure _
  | .template _ values => (relabels_renameAll plan values).map
  | .tagged tag _ values => (tag.relabels_rename plan).map₂ (relabels_renameAll plan values)
  | .array elements _ => (relabels_renameAll plan elements).map
  | .object _ properties _ => (relabels_renameAll plan properties).map
  | .function _ name? params body =>
    ((relabels_renameAll plan params).behind (plan.countP_variableSites name?)).map₂
      (relabels_renameAll plan body)
  | .classExpression name? parent? members =>
    ((relabels_renameAll plan members).behind (plan.countP_variableSites name?)).map₂
      (relabels_renameSome plan parent?)
  | .unary _ operand => (operand.relabels_rename plan).map
  | .update _ _ operand => (operand.relabels_rename plan).map
  | .binary _ left right => (left.relabels_rename plan).map₂ (right.relabels_rename plan)
  | .assign _ _ target value => (target.relabels_rename plan).map₂ (value.relabels_rename plan)
  | .conditional test consequent alternate =>
    (test.relabels_rename plan).map₃ (consequent.relabels_rename plan)
      (alternate.relabels_rename plan)
  | .sequence items => (relabels_renameAll plan items).map
  | .arrow _ params body => (relabels_renameAll plan params).map₂ (body.relabels_rename plan)
  | .yield _ argument? => (relabels_renameSome plan argument?).map
  | .await argument => (argument.relabels_rename plan).map
  | .paren _ inner => (inner.relabels_rename plan).map
  | .member _ host name _ => (host.relabels_rename plan).map₂ (plan.relabels_name name)
  | .privateMember host _ _ => (host.relabels_rename plan).map
  | .subscript _ host _ index _ =>
    (host.relabels_rename plan).map₂ (index.relabels_rename plan).index
  | .call _ callee items _ => (callee.relabels_rename plan).map₂ (relabels_renameAll plan items)
  | .new callee items _ => (callee.relabels_rename plan).map₂ (relabels_renameAll plan items)
  | .spread argument => (argument.relabels_rename plan).map
  | .keyName name => (plan.relabels_name name).map
  | .keyString literal => (plan.relabels_quoted literal (.key literal.value) rfl).map
  | .computed _ expression => (expression.relabels_rename plan).map
  | .property key value => (key.relabels_rename plan).map₂ (value.relabels_rename plan)
  | .shorthand span name default? => .shorthand span name (relabels_renameSome plan default?)
  | .defaulted _ name value =>
    ((value.relabels_rename plan).behind (plan.countP_variableSites (some name))).map
  | .objectMethod _ _ key params body =>
    (key.relabels_rename plan).map₃ (relabels_renameAll plan params)
      (relabels_renameAll plan body)
  | .classMethod _ _ _ key params body =>
    (key.relabels_rename plan).map₃ (relabels_renameAll plan params)
      (relabels_renameAll plan body)
  | .classConstructor key params body =>
    (key.relabels_rename plan).map₃ (relabels_renameAll plan params)
      (relabels_renameAll plan body)
  | .field _ key value? => (key.relabels_rename plan).map₂ (relabels_renameSome plan value?)
  | .staticBlock body => (relabels_renameAll plan body).map
  | .emptyMember => .pure _
  | .arrayPattern elements => (relabels_renameAll plan elements).map
  | .objectPattern _ properties => (relabels_renameAll plan properties).map
  | .defaultPattern _ target value =>
    (target.relabels_rename plan).map₂ (value.relabels_rename plan)
  | .rest argument => (argument.relabels_rename plan).map
  | .expressionStatement _ expression => (expression.relabels_rename plan).map
  | .block body => (relabels_renameAll plan body).map
  | .empty => .pure _
  | .debugger => .pure _
  | .withStatement host body => (host.relabels_rename plan).map₂ (body.relabels_rename plan)
  | .returnStatement argument? => (relabels_renameSome plan argument?).map
  | .labeled label body =>
    ((body.relabels_rename plan).behind (plan.countP_variableSites (some label))).map
  | .breakStatement label? => ⟨rfl, (plan.countP_variableSites label?).symm⟩
  | .continueStatement label? => ⟨rfl, (plan.countP_variableSites label?).symm⟩
  | .ifStatement test consequent alternate? =>
    (test.relabels_rename plan).map₃ (consequent.relabels_rename plan)
      (relabels_renameSome plan alternate?)
  | .switchStatement discriminant cases =>
    (discriminant.relabels_rename plan).map₂ (relabels_renameAll plan cases)
  | .switchCase test? body => (relabels_renameSome plan test?).map₂ (relabels_renameAll plan body)
  | .throwStatement argument => (argument.relabels_rename plan).map
  | .tryStatement body handler? finalizer? =>
    (relabels_renameAll plan body).map₃ (relabels_renameSome plan handler?)
      (relabels_renameSome plan finalizer?)
  | .catchClause param? body =>
    (relabels_renameSome plan param?).map₂ (relabels_renameAll plan body)
  | .whileStatement test body => (test.relabels_rename plan).map₂ (body.relabels_rename plan)
  | .doWhile body test => (test.relabels_rename plan).map₂ (body.relabels_rename plan)
  | .forStatement start? test? step? body =>
    (relabels_renameSome plan start?).map₄ (relabels_renameSome plan test?)
      (relabels_renameSome plan step?) (body.relabels_rename plan)
  | .forIn target subject body =>
    (target.relabels_rename plan).map₃ (subject.relabels_rename plan) (body.relabels_rename plan)
  | .forOf _ target subject body =>
    (target.relabels_rename plan).map₃ (subject.relabels_rename plan) (body.relabels_rename plan)
  | .variables _ _ declarators => (relabels_renameAll plan declarators).map
  | .declarator _ target value? =>
    (target.relabels_rename plan).map₂ (relabels_renameSome plan value?)
  | .functionDeclaration _ name params body =>
    ((relabels_renameAll plan params).map₂ (relabels_renameAll plan body)).behind
      (plan.countP_variableSites (some name))
  | .classDeclaration name parent? members =>
    ((relabels_renameAll plan members).map₂ (relabels_renameSome plan parent?)).behind
      (plan.countP_variableSites (some name))
  | .importDeclaration _ specifiers _ =>
    .behind ⟨rfl, rfl⟩ (plan.countP_importSites specifiers)
  | .exportDeclaration declaration => (declaration.relabels_rename plan).map
  | .exportNamed specifiers source? =>
    (plan.relabels_exportSpecifiers specifiers).map₂ (plan.relabels_source source?)
  | .exportDefault value => (value.relabels_rename plan).map
  | .exportAll source => (plan.relabels_literal source).map

/-- Renaming nodes relabels them and counts their sites that are renamed. -/
theorem relabels_renameAll (plan : Renaming) :
    ∀ nodes : List Node,
      plan.Relabels (renameAll plan nodes) (relabelAll plan.relabeling nodes) (sitesOf nodes)
  | [] => .pure []
  | node :: rest => (node.relabels_rename plan).map₂ (relabels_renameAll plan rest)

/-- Renaming a node that may be left out relabels it and counts its sites that are renamed. -/
theorem relabels_renameSome (plan : Renaming) :
    ∀ node? : Option Node,
      plan.Relabels (renameSome plan node?) (relabelSome plan.relabeling node?)
        (sitesOfSome node?)
  | none => .pure none
  | some node => (node.relabels_rename plan).map

end

/-! ## Shorthands first, names and strings then -/

/-- Writes out the shorthands that the mapping knows, each under the name it has. -/
def Relabeling.expanding (mapping : Mapping) : Relabeling where
  name text := text
  string? _ := none
  key? text := (mapping.get? text).map fun _ => text

/-- The variable or label at a site. -/
def Site.identifier? : Site → Option String
  | .variable text | .shorthand text => some text
  | .name _ | .subscript _ | .key _ | .literal _ | .imported _ => none

namespace Renaming

variable (plan : Renaming)

/-- Writing out shorthands and then changing names and strings is all that a plan changes. -/
theorem labels_after_expanding :
    plan.labels.after (.expanding plan.mapping) = plan.relabeling := by
  let both := plan.labels.after (.expanding plan.mapping)
  have keys : ∀ text, both.key? text = plan.relabeling.key? text := by
    intro text
    dsimp only [both, Relabeling.after, Relabeling.expanding, relabeling, labels]
    cases lookup : plan.mapping.get? text with
    | none => rfl
    | some key => exact congrArg some (Embedded.renamed_of_known lookup)
  exact congrArg (Relabeling.mk plan.labels.name plan.labels.string?) (funext keys)

/-- A renamed program has no shorthand left that the mapping knows. -/
theorem expanding_after_relabeling :
    (Relabeling.expanding plan.mapping).after plan.relabeling = plan.relabeling := by
  let both := (Relabeling.expanding plan.mapping).after plan.relabeling
  have strings : ∀ value, both.string? value = plan.relabeling.string? value := by
    intro value
    dsimp only [both, Relabeling.after, Relabeling.expanding]
    cases plan.relabeling.string? value <;> rfl
  have keys : ∀ text, both.key? text = plan.relabeling.key? text := by
    intro text
    dsimp only [both, Relabeling.after, Relabeling.expanding, relabeling]
    cases plan.mapping.get? text <;> rfl
  exact congrArg₂ (Relabeling.mk plan.relabeling.name) (funext strings) (funext keys)

/-- What the site of a variable becomes holds the variable, and no other site makes one. -/
theorem identifier?_site (site : Site) :
    (plan.site site).filterMap Site.identifier? = site.identifier?.toList := by
  cases site with
  | shorthand text =>
    dsimp only [Renaming.site]
    cases plan.mapping.get? text <;> rfl
  | _ => rfl

end Renaming

namespace Script.Program

/-- A program with the shorthands that the mapping knows written out. -/
def expanded (program : Program) (mapping : Mapping) : Program :=
  program.relabel (.expanding mapping)

/-- The variables and labels of a program. A shorthand is a variable, too. -/
def identifiers (program : Program) : List String := program.sites.filterMap Site.identifier?

/-- Relabeling twice is relabeling once with both label functions composed. -/
theorem relabel_relabel (program : Program) (second first : Relabeling) :
    (program.relabel first).relabel second = program.relabel (second.after first) :=
  congrArg (fun items => { program with items := items })
    (relabelAll_relabelAll second first program.items)

/-- Renaming a program relabels it with the relabeling of its plan. -/
theorem value_rename (program : Program) (plan : Renaming) :
    (program.rename plan).value = program.relabel plan.relabeling :=
  congrArg (fun items => { program with items := items })
    (relabels_renameAll plan program.items).value

/-- Variables and labels keep their names and their order when a program is renamed. -/
theorem identifiers_rename (program : Program) (plan : Renaming) :
    (program.rename plan).value.identifiers = program.identifiers := by
  rw [identifiers, sites_rename, List.filterMap_flatMap, identifiers,
    List.filterMap_eq_flatMap_toList]
  exact List.flatMap_congr fun site _ => plan.identifier?_site site

/-- Renaming a program is writing out the shorthands that the mapping knows and changing property
names and strings alone: no node is added, lost or moved otherwise. Variables and labels are the
same ones in the same order, and as many places are counted as hold a name or string that the
mapping knows, outside of imports and embedded code. -/
theorem rename_relabels (program : Program) (plan : Renaming) :
    (program.rename plan).value = (program.expanded plan.mapping).relabel plan.labels ∧
    (program.rename plan).value.expanded plan.mapping = (program.rename plan).value ∧
    (program.rename plan).value.identifiers = program.identifiers ∧
    (program.rename plan).count = program.sites.countP plan.renames := by
  have whole := program.value_rename plan
  have split : (program.rename plan).value =
      (program.expanded plan.mapping).relabel plan.labels := by
    rw [whole, expanded, relabel_relabel, plan.labels_after_expanding]
  have nothingLeft : (program.rename plan).value.expanded plan.mapping =
      (program.rename plan).value := by
    rw [whole, expanded, relabel_relabel, plan.expanding_after_relabeling]
  have counted : (program.rename plan).count = program.sites.countP plan.renames :=
    (relabels_renameAll plan program.items).count
  exact ⟨split, nothingLeft, program.identifiers_rename plan, counted⟩

/-- A shorthand, the name in its default and a string are renamed; the variable is not. -/
example :
    let plan : Renaming := ⟨⟨[("foo", "a"), ("bar", "b")], by decide, by decide⟩, "/**/"⟩
    (Program.parse "var { foo = o.bar } = ['foo', foo];").map
      (fun program => (program.rename plan).count) = .ok 3 := by
  decide +kernel

end Script.Program

end PropertyMangling
