import PropertyMangling.Proofs.Property.Labels
/-!
# The interface of a renamed module

A module has imports, and it gives names to other modules, of its own or of
another module. Renaming leaves imports and identifiers alone. A string in an
export declaration, be it a name or the module that the names are taken from, is
renamed like any other string. So a module keeps its interface exactly when none
of these strings changes, and it may lose the module that it exports from.
-/
namespace PropertyMangling

open Script

mutual

/-- The variables that a declaration or a pattern binds. -/
def Script.Node.bound : Node → List String
  | .identifier name => [name.text]
  | .arrayPattern elements => boundIn elements
  | .objectPattern _ properties => boundIn properties
  | .property _ value => value.bound
  | .shorthand _ name _ => [name.text]
  | .defaultPattern _ target _ => target.bound
  | .rest argument => argument.bound
  | .variables _ _ declarators => boundIn declarators
  | .declarator _ target _ => target.bound
  | .functionDeclaration _ name _ _ => [name.text]
  | .classDeclaration name _ _ => [name.text]
  | _ => []

/-- The variables that patterns bind, in their order. -/
def boundIn : List Node → List String
  | [] => []
  | node :: rest => node.bound ++ boundIn rest

end

/-- A tie between a module and others. -/
inductive Link where
  /-- An import declaration as it is written. -/
  | imports (phase : ImportPhase) (specifiers : List ImportSpecifier) (source : Quoted)
  /-- A name in an export that is an identifier. -/
  | exportName (text : String)
  /-- A name in an export that is a string. -/
  | exportString (value : String)
  /-- All that another module gives is exported. -/
  | exportAll
  /-- The module that an export takes its names from. -/
  | exportSource (value : String)
deriving DecidableEq, Repr

namespace Script

/-- The tie that a name in an export makes. -/
def InterfaceName.link : InterfaceName → Link
  | .name word => .exportName word.text
  | .string literal => .exportString literal.value

/-- The ties of one specifier of an export. -/
def ExportSpecifier.links : ExportSpecifier → List Link
  | .item own exported? => own.link :: exported?.toList.map InterfaceName.link
  | .wholeInterface name => [.exportAll, name.link]

/-- The ties of an item of a program. A statement ties the module to no other. -/
def Node.links : Node → List Link
  | .importDeclaration phase specifiers source => [.imports phase specifiers source]
  | .exportDeclaration declaration => declaration.bound.map Link.exportName
  | .exportNamed specifiers source? =>
    specifiers.flatMap ExportSpecifier.links ++
      source?.toList.map fun source => .exportSource source.value
  | .exportDefault _ => [.exportName "default"]
  | .exportAll source => [.exportAll, .exportSource source.value]
  | _ => []

/-- The interface of a module: its imports and exports, in their order. -/
def Program.interface (program : Program) : List Link := program.items.flatMap Node.links

end Script

/-- The string that an export holds as a name or a module. -/
def Link.exportedString? : Link → Option String
  | .exportString value | .exportSource value => some value
  | .imports .. | .exportName _ | .exportAll => none

mutual

/-- A relabeled declaration binds the variables that it bound, as relabeling leaves variables
alone. -/
theorem Script.Node.bound_relabel (labels : Relabeling) (node : Node) :
    (node.relabel labels).bound = node.bound := by
  cases node with
  | arrayPattern elements => exact boundIn_relabelAll labels elements
  | objectPattern span properties => exact boundIn_relabelAll labels properties
  | property key value => exact value.bound_relabel labels
  | defaultPattern span target value => exact target.bound_relabel labels
  | rest argument => exact argument.bound_relabel labels
  | «variables» span kind declarators => exact boundIn_relabelAll labels declarators
  | declarator span target value? => exact target.bound_relabel labels
  | shorthand span name default? =>
    -- written out, the variable stands alone or in front of its default
    change (labels.onShorthand span name (relabelSome labels default?)).bound = [name.text]
    unfold Relabeling.onShorthand
    cases labels.key? name.text with
    | none => rfl
    | some key => cases relabelSome labels default? <;> rfl
  | _ => rfl

/-- Relabeled patterns bind the variables that they bound, item by item. -/
theorem boundIn_relabelAll (labels : Relabeling) (nodes : List Node) :
    boundIn (relabelAll labels nodes) = boundIn nodes := by
  cases nodes with
  | nil => rfl
  | cons node rest =>
    have first := node.bound_relabel labels
    have others := boundIn_relabelAll labels rest
    rw [relabelAll, boundIn, first, others, boundIn]

end

namespace Renaming

/-- What a tie becomes. -/
def link (plan : Renaming) : Link → Link
  | .exportString value => .exportString (plan.string value)
  | .exportSource value => .exportSource (plan.string value)
  | other => other

variable (plan : Renaming)

/-- The relabeling of a plan gives a string the value that the plan gives it. -/
theorem value_onString (literal : Quoted) :
    (plan.relabeling.onString literal).value = plan.string literal.value := by
  rw [← (plan.relabels_literal literal).value, value_quoted]

/-- A relabeled name of an interface links to what the plan makes of its link. -/
theorem link_onInterfaceName (name : InterfaceName) :
    (plan.relabeling.onInterfaceName name).link = plan.link name.link := by
  cases name with
  | name word => rfl
  | string literal => exact congrArg Link.exportString (plan.value_onString literal)

/-- A relabeled export shows what the plan makes of what it showed. -/
theorem links_onExport (specifier : ExportSpecifier) :
    (plan.relabeling.onExport specifier).links = specifier.links.map plan.link := by
  cases specifier with
  | item own exported? =>
    cases exported? with
    | none => exact congrArg (fun tie => [tie]) (plan.link_onInterfaceName own)
    | some exported =>
      exact congrArg₂ (fun tie other => [tie, other]) (plan.link_onInterfaceName own)
        (plan.link_onInterfaceName exported)
  | wholeInterface name =>
    exact congrArg (fun tie => [Link.exportAll, tie]) (plan.link_onInterfaceName name)

/-- The ties of a renamed item are those of the item, changed one by one. -/
theorem links_relabel (item : Node) :
    (item.relabel plan.relabeling).links = item.links.map plan.link := by
  cases item with
  | exportDeclaration declaration =>
    change (declaration.relabel plan.relabeling).bound.map Link.exportName = _
    rw [declaration.bound_relabel, Node.links, List.map_map]
    rfl
  | exportNamed specifiers source? =>
    have names : (specifiers.map plan.relabeling.onExport).flatMap ExportSpecifier.links =
        (specifiers.flatMap ExportSpecifier.links).map plan.link := by
      rw [List.flatMap_map, List.map_flatMap]
      exact List.flatMap_congr fun specifier _ => plan.links_onExport specifier
    have source : ((source?.map plan.relabeling.onString).toList.map fun source =>
          Link.exportSource source.value) =
        (source?.toList.map fun source => Link.exportSource source.value).map plan.link := by
      cases source? with
      | none => rfl
      | some literal =>
        exact congrArg (fun value => [Link.exportSource value]) (plan.value_onString literal)
    rw [Node.relabel, Node.links, names, source, Node.links, List.map_append]
  | exportAll source =>
    exact congrArg (fun value => [Link.exportAll, .exportSource value])
      (plan.value_onString source)
  | shorthand span name default? =>
    change (plan.relabeling.onShorthand span name _).links = []
    unfold Relabeling.onShorthand
    cases plan.relabeling.key? name.text <;> rfl
  | _ => rfl

/-- A tie is kept exactly when the string that it holds is. -/
theorem link_eq_self_iff (tie : Link) :
    plan.link tie = tie ↔
      ∀ value, tie.exportedString? = some value → plan.string value = value := by
  cases tie <;> simp [link, Link.exportedString?]

/-- Ties hold a string after renaming when they held one before. -/
theorem isNone_exportedString?_link (tie : Link) :
    (plan.link tie).exportedString?.isNone = tie.exportedString?.isNone := by
  cases tie <;> rfl

end Renaming

namespace Script.Program

/-- The strings that exports hold, as names or as modules. -/
def exportedStrings (program : Program) : List String :=
  program.interface.filterMap Link.exportedString?

/-- The interface of a renamed program is the old one with each link treated by the plan. -/
theorem interface_rename (program : Program) (plan : Renaming) :
    (program.rename plan).value.interface = program.interface.map plan.link := by
  have items : (program.rename plan).value.items =
      program.items.map (Node.relabel plan.relabeling) := by
    rw [value_rename, relabel, relabelAll_eq_map]
  rw [interface, items, List.flatMap_map, interface, List.map_flatMap]
  exact List.flatMap_congr fun item _ => plan.links_relabel item

/-- A renamed module has the imports that it had and exports under the identifiers that it had.
Its interface is the same exactly when renaming keeps every string in its exports: quoted names
and the sources of declarations that export from elsewhere, neither of which the renaming passes
over as it does imports. -/
theorem interface_rename_iff (program : Program) (plan : Renaming) :
    (program.rename plan).value.interface.filter (·.exportedString?.isNone) =
        program.interface.filter (·.exportedString?.isNone) ∧
      ((program.rename plan).value.interface = program.interface ↔
        ∀ value ∈ program.exportedStrings, plan.string value = value) := by
  rw [interface_rename]
  constructor
  · have alike : (fun tie : Link => tie.exportedString?.isNone) ∘ plan.link =
        fun tie => tie.exportedString?.isNone := funext plan.isNone_exportedString?_link
    rw [List.filter_map, alike]
    refine (List.map_congr_left fun tie listed => ?_).trans (List.map_id _)
    have stringless : tie.exportedString? = none :=
      Option.isNone_iff_eq_none.mp (List.mem_filter.mp listed).2
    refine (plan.link_eq_self_iff tie).mpr fun value holds => ?_
    rw [stringless] at holds
    cases holds
  · have kept : program.interface.map plan.link = program.interface ↔
        ∀ tie ∈ program.interface, plan.link tie = tie := by
      conv_lhs => rhs; rw [← List.map_id program.interface]
      exact List.map_inj_left
    simp only [kept, plan.link_eq_self_iff, exportedStrings, List.mem_filterMap]
    exact ⟨fun each value ⟨tie, tied, holds⟩ => each tie tied value holds,
      fun each tie tied value holds => each value ⟨tie, tied, holds⟩⟩

/-- The module that everything is exported from is taken for a property: its name is a string of
an export, and the mapping has an entry for it. -/
theorem interface_rename_star : ∃ (program : Program) (plan : Renaming),
    Program.parse "export * from 'foo';" = .ok program ∧
    plan.mapping.pairs = [("foo", "aa")] ∧ plan.marker = "/**/" ∧
    program.interface = [.exportAll, .exportSource "foo"] ∧
    (program.rename plan).value.interface ≠ program.interface := by
  let plan : Renaming := ⟨⟨[("foo", "aa")], by decide, by decide⟩, "/**/"⟩
  have read : (Program.parse "export * from 'foo';").map Program.interface =
      .ok [.exportAll, .exportSource "foo"] := by decide +kernel
  cases parsed : Program.parse "export * from 'foo';" with
  | error error =>
    rw [parsed] at read
    cases read
  | ok program =>
    rw [parsed] at read
    have ties : program.interface = [.exportAll, .exportSource "foo"] := Except.ok.inj read
    refine ⟨program, plan, rfl, rfl, rfl, ties, fun same => ?_⟩
    have held : "foo" ∈ program.exportedStrings := by
      rw [exportedStrings, ties]
      decide
    have kept : plan.string "foo" = "foo" :=
      (interface_rename_iff program plan).2.mp same "foo" held
    exact absurd kept (by decide)

end Script.Program

end PropertyMangling
