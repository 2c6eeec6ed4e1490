import PropertyMangling.Proofs.Pipeline
import PropertyMangling.Proofs.Script.Leading
/-!
# What a run prints

The same calls are made and the same program comes out of them whatever is asked
about its printing. What stands in front of the source is put in front of the
code as it is.
-/
namespace PropertyMangling

open Script

/-- A result whose value is known is that value, and no fault. -/
theorem eq_ok_of_toOption {ε α : Type} {result : Except ε α} {value : α}
    (answered : result.toOption = some value) : result = .ok value := by
  cases result with
  | error reason => cases answered
  | ok answer => exact congrArg Except.ok (Option.some.inj answered)

/-- What was made ready has passed the checks, in the order in which they are made. -/
theorem isReady_of_prepare {options : Options} {collaborators : Collaborators} {read : Reader}
    {source : String} {ready : List Step × Program}
    (prepared : prepare options collaborators read source = .ok ready) :
    IsReady options collaborators read source ready := by
  have checked := checked_prepare options collaborators read source
  unfold Checked at checked
  split at checked
  · rw [prepared] at checked
    cases checked
  · obtain ⟨answer, same, isReady⟩ := checked
    rw [prepared] at same
    obtain rfl := Except.ok.inj same
    exact isReady

/-- What a run that succeeds prints is written from the program that was read and the program that
came out of the calls. Options under which the same is made ready print the same two programs. -/
theorem exists_last {options : Options} {collaborators : Collaborators} {read : Reader}
    {source content : String}
    (ran : (transform options collaborators read source).result = .ok content) :
    ∃ program handed last, Program.parse source = .ok program ∧
      HandsOn collaborators handed program last ∧
      content = options.output (program.leadingText source) last ∧
      ∀ other : Options,
        prepare other collaborators read source = prepare options collaborators read source →
        (transform other collaborators read source).result =
          .ok (other.output (program.leadingText source) last) := by
  cases ready : prepare options collaborators read source with
  | error failure =>
    simp only [transform, ready] at ran
    cases ran
  | ok answer =>
    obtain ⟨steps, program⟩ := answer
    obtain ⟨_, _, _, _, parsed, _, answered⟩ := isReady_of_prepare ready
    have made := failsFast_runSteps answered program
    simp only [transform, ready] at ran
    cases result : (runSteps steps program).2 with
    | error failure =>
      rw [result] at ran
      cases ran
    | ok last =>
      rw [result] at ran made
      refine ⟨program, _, last, parsed, made.handsOn, (Except.ok.inj ran).symm, ?_⟩
      intro other same
      simp only [transform, same, result]
      rfl

/-- The options, with or without what stands in front of the source. -/
def Options.showing (options : Options) (shown : Bool) : Options :=
  { options with showCopyright := shown }

/-- Showing what stands in front of the source keeps the meaning of what is printed exactly when
nothing stands there, or neither the source nor what is printed without it names an interpreter.

Where both do, the line of the interpreter is printed twice, and the answer is no program. -/
theorem shown_means_iff (options : Options) (collaborators : Collaborators) (read : Reader)
    {source content : String} (plain : options.ast = false)
    (ran : (transform (options.showing false) collaborators read source).result = .ok content) :
    ∃ program shown, Program.parse source = .ok program ∧
      (transform (options.showing true) collaborators read source).result = .ok shown ∧
      ∀ meant, meaning? content = some meant →
        ((meaning? shown = some meant ↔
          program.leadingText source = "" ∨ (program.interpreter? = none ∧ meant.1 = none)) ∧
        (program.interpreter? ≠ none → meant.1 ≠ none → meaning? shown = none)) := by
  obtain ⟨program, _, last, parsed, -, printed, others⟩ := exists_last ran
  have shown : (transform (options.showing true) collaborators read source).result =
      .ok (program.leadingText source ++ content) := by
    rw [others (options.showing true) rfl, printed]
    simp [Options.output, Options.showing, plain, Options.code, Options.packingLimit?]
  refine ⟨program, _, parsed, shown, ?_⟩
  intro meant means
  by_cases filled : program.leadingText source = ""
  · have unnamed : program.interpreter? = none := interpreter_of_leadingText filled
    rw [filled, String.empty_append]
    exact ⟨⟨fun _ => Or.inl rfl, fun _ => means⟩, fun named => absurd unnamed named⟩
  · rw [meaning?_leadingText parsed means filled]
    by_cases unnamed : meant.1 = none
    · have same : some (program.interpreter?, meant.2) = some meant ↔
          program.interpreter? = none := by
        rw [Option.some_inj, Prod.ext_iff, unnamed]
        exact and_iff_left rfl
      rw [if_pos unnamed, same]
      exact ⟨⟨fun none => Or.inr ⟨none, unnamed⟩, fun either => either.elim (absurd · filled) And.left⟩,
        fun _ named => absurd unnamed named⟩
    · rw [if_neg unnamed]
      refine ⟨⟨(nomatch ·), ?_⟩, fun _ _ => rfl⟩
      rintro (empty | ⟨_, none⟩)
      · exact absurd empty filled
      · exact absurd none unnamed

/-- A source that names its interpreter: with it shown, the answer is no program any more. -/
theorem shown_means_nothing :
    (transform (({} : Options).showing false) {} ({} : Files).read
      "#!/usr/bin/env node\nvar a = 1;").result = .ok "#!/usr/bin/env node\nvar a=1;" ∧
    ∃ shown meant, (transform (({} : Options).showing true) {} ({} : Files).read
        "#!/usr/bin/env node\nvar a = 1;").result = .ok shown ∧
      meaning? "#!/usr/bin/env node\nvar a=1;" = some meant ∧ meaning? shown = none := by
  have ran : (transform (({} : Options).showing false) {} ({} : Files).read
      "#!/usr/bin/env node\nvar a = 1;").result = .ok "#!/usr/bin/env node\nvar a=1;" :=
    eq_ok_of_toOption (by decide +kernel)
  have named : ((Program.parse "#!/usr/bin/env node\nvar a = 1;").toOption.map
      Program.interpreter?) = some (some "/usr/bin/env node") := by decide +kernel
  have means : (meaning? "#!/usr/bin/env node\nvar a=1;").map Prod.fst =
      some (some "/usr/bin/env node") := by decide +kernel
  obtain ⟨program, shown, parsed, ranShown, keeps⟩ := shown_means_iff {} {} ({} : Files).read rfl ran
  obtain ⟨meant, meansSome, interpreter⟩ := Option.map_eq_some_iff.mp means
  rw [parsed] at named
  have own : program.interpreter? = some "/usr/bin/env node" := Option.some.inj named
  exact ⟨ran, shown, meant, ranShown, meansSome,
    (keeps meant meansSome).2 (by simp [own]) (by simp [interpreter])⟩

end PropertyMangling
