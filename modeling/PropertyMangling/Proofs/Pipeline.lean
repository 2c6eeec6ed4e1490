import PropertyMangling.Pipeline
/-!
# A run fails fast

Before its first call a run makes seven checks, and the first one that fails is
all that the run answers with. After that it makes the calls of the enabled
stages in their order, each with the program that the call before it answered
with, and stops behind the first call that fails. Nothing is said here about
what the collaborators do: each of them may answer or reject as it likes.
-/
namespace PropertyMangling

open Script

/-- What answers a call, if anything does. -/
def Collaborators.pass? (collaborators : Collaborators) : Call → Option Pass
  | .consolidate => collaborators.consolidate?
  | .liftVars => collaborators.liftVars?
  | .mangle request => collaborators.mangle?.map fun mangle => mangle request
  | .squeeze request => collaborators.squeeze?.map fun squeezer => squeezer.squeeze request
  | .squeezeMore => collaborators.squeeze?.map fun squeezer => squeezer.squeezeMore

/-- What a collaborator answers when it is called with a program. -/
def Collaborators.answer? (collaborators : Collaborators) (call : Call) (given : Program) :
    Option (Except Causes Program) :=
  (collaborators.pass? call).map fun pass => pass given

/-- Calls that all succeed hand a program on: the first call is given the program itself, every other
one what the call before it answered with, and the last answer is what comes out. -/
inductive HandsOn (collaborators : Collaborators) :
    List (Call × Program) → Program → Program → Prop where
  | done (program : Program) : HandsOn collaborators [] program program
  | answered {call : Call} {given answer last : Program} {behind : List (Call × Program)}
      (answers : collaborators.answer? call given = some (.ok answer))
      (handsOn : HandsOn collaborators behind answer last) :
      HandsOn collaborators ((call, given) :: behind) given last

/-- How planned calls go over a program. Either all of them are made and succeed, or they are made up
to the first one that fails, and its failure is the result. -/
inductive FailsFast (collaborators : Collaborators) (planned : List Call) (program : Program) :
    List (Call × Program) → Except Failure Program → Prop where
  | completed {handed : List (Call × Program)} {last : Program}
      (handsOn : HandsOn collaborators handed program last)
      (made : handed.map Prod.fst = planned) :
      FailsFast collaborators planned program handed (.ok last)
  | aborted {before : List (Call × Program)} {call : Call} {given : Program} {unmade : List Call}
      {causes : Causes} (handsOn : HandsOn collaborators before program given)
      (made : before.map Prod.fst ++ call :: unmade = planned)
      (rejects : collaborators.answer? call given = some (.error causes)) :
      FailsFast collaborators planned program (before ++ [(call, given)])
        (.error (.stage call.stage causes))

/-- One more call that succeeds, in front of calls that fail fast. -/
theorem FailsFast.behind {collaborators : Collaborators} {planned : List Call} {call : Call}
    {given answer : Program} {handed : List (Call × Program)} {result : Except Failure Program}
    (answers : collaborators.answer? call given = some (.ok answer))
    (later : FailsFast collaborators planned answer handed result) :
    FailsFast collaborators (call :: planned) given ((call, given) :: handed) result := by
  cases later with
  | completed handsOn made => exact .completed (.answered answers handsOn) (by simp [made])
  | @aborted before other _ unmade _ handsOn made rejects =>
    have whole : ((call, given) :: before).map Prod.fst ++ other :: unmade = call :: planned := by
      rw [← made]
      rfl
    exact .aborted (.answered answers handsOn) whole rejects

/-- Calls that fail fast and end with a program hand it on. -/
theorem FailsFast.handsOn {collaborators : Collaborators} {planned : List Call}
    {program last : Program} {handed : List (Call × Program)}
    (made : FailsFast collaborators planned program handed (.ok last)) :
    HandsOn collaborators handed program last := by
  cases made with
  | completed handsOn _ => exact handsOn

/-- What every answer keeps holds of the program that calls hand on. -/
theorem HandsOn.keeps {collaborators : Collaborators} {handed : List (Call × Program)}
    {program last : Program} (handsOn : HandsOn collaborators handed program last)
    (property : Program → Prop)
    (kept : ∀ {call given answer}, collaborators.answer? call given = some (.ok answer) →
      property given → property answer)
    (holds : property program) : property last := by
  induction handsOn with
  | done => exact holds
  | answered answers _ inductionHypothesis => exact inductionHypothesis (kept answers holds)

/-- Making calls fails fast, when every step is answered by the collaborator that its call belongs
to.

Induct over the steps. A call that succeeds leaves the rest to the steps behind it,
with its answer as their program. -/
theorem failsFast_runSteps {collaborators : Collaborators} {steps : List Step}
    (answered : ∀ step ∈ steps, collaborators.pass? step.call = some step.pass)
    (program : Program) :
    FailsFast collaborators (steps.map Step.call) program (runSteps steps program).1
      (runSteps steps program).2 := by
  induction steps generalizing program with
  | nil => exact .completed (.done program) rfl
  | cons step rest inductionHypothesis =>
    have answer : collaborators.answer? step.call program = some (step.pass program) := by
      rw [Collaborators.answer?, answered step List.mem_cons_self, Option.map_some]
    cases passed : step.pass program with
    | error causes =>
      rw [passed] at answer
      simp only [runSteps, passed]
      exact .aborted (.done program) rfl answer
    | ok next =>
      rw [passed] at answer
      simp only [runSteps, passed]
      exact .behind answer
        (inductionHypothesis (fun other listed => answered other (List.mem_cons_of_mem _ listed)) next)

/-- The error of an answer that is one. -/
def rejection? {ε α : Type} : Except ε α → Option ε
  | .ok _ => none
  | .error reason => some reason

namespace Options

/-- The calls of the enabled stages, in their order. -/
def plannedCalls (options : Options) (request : MangleRequest) : List Call :=
  [(options.consolidate, Call.consolidate),
    (options.liftVars, .liftVars),
    (options.mangle, .mangle request),
    (options.squeeze, .squeeze options.squeezeRequest),
    (options.squeeze && options.squeezing.aggressive, .squeezeMore)].flatMap
      fun (enabled, call) => if enabled then [call] else []

/-- The failure of a stage that is enabled and has no collaborator. -/
def missing? (enabled : Bool) (stage : String) (isThere : Bool) : Option Failure :=
  if enabled && !isThere then some (.missingCollaborator stage) else none

/-- What each of the checks finds that are made before the first call, in their order. -/
def checks (options : Options) (collaborators : Collaborators) (read : Reader) (source : String) :
    List (Option Failure) := [
  missing? options.consolidate "consolidate" collaborators.consolidate?.isSome,
  missing? options.liftVars "lift_vars" collaborators.liftVars?.isSome,
  missing? options.mangle "mangle" collaborators.mangle?.isSome,
  missing? options.squeeze "squeeze" collaborators.squeeze?.isSome,
  (rejection? (Mapping.ofEntries options.mangling.propertyMaps)).map .configuration,
  if options.mangle then
    (rejection? (Mapping.optionalLines read options.mangling.tokenFile?)).map .configuration
  else none,
  (rejection? (Program.parse source)).map .invalidProgram]

end Options

/-- A result after checks: the failure of the first one that finds any, or else a value of which the
property holds. -/
def Checked {α : Type} (checks : List (Option Failure)) (property : α → Prop)
    (result : Except Failure α) : Prop :=
  match checks.findSome? id with
  | some failure => result = .error failure
  | none => ∃ value, result = .ok value ∧ property value

/-- What goes on behind a check goes on only when the check finds nothing. -/
theorem Checked.bind {α β : Type} {first : Except Failure α} {next : α → Except Failure β}
    {later : List (Option Failure)} {property : β → Prop}
    (behind : ∀ value, first = .ok value → Checked later property (next value)) :
    Checked (rejection? first :: later) property (first >>= next) := by
  cases first with
  | error failure => exact rfl
  | ok value => exact behind value rfl

/-- Without a further check to make, the value is there and has the property. -/
theorem Checked.ok {α : Type} {property : α → Prop} {value : α} (holds : property value) :
    Checked [] property (.ok value) :=
  ⟨value, rfl, holds⟩

section Checks

variable {α : Type} {enabled : Bool} {stage : String} {collaborator? allowed? : Option α}

/-- A stage is refused exactly when it is asked for and its collaborator is missing. -/
theorem rejection?_required : rejection? (required enabled stage collaborator?) =
    Options.missing? enabled stage collaborator?.isSome := by
  cases enabled <;> cases collaborator? <;> rfl

/-- A stage that is not refused has its collaborator exactly when it is enabled. -/
theorem required_eq_ok (allowed : required enabled stage collaborator? = .ok allowed?) :
    allowed?.isSome = enabled ∧ ∀ collaborator, allowed? = some collaborator →
      collaborator? = some collaborator := by
  cases enabled with
  | false =>
    obtain rfl : none = allowed? := Except.ok.inj allowed
    exact ⟨rfl, fun _ impossible => nomatch impossible⟩
  | true =>
    cases collaborator? with
    | none => cases allowed
    | some collaborator =>
      obtain rfl : some collaborator = allowed? := Except.ok.inj allowed
      exact ⟨rfl, fun _ same => same⟩

/-- A fault of a mapping or a list is passed on as a fault of the configuration, and there is none
otherwise. -/
theorem rejection?_orFail (result : Except Fault α) :
    rejection? (orFail result) = (rejection? result).map .configuration := by
  cases result <;> rfl

/-- Passing faults on changes no value, so a value is there afterwards exactly when it was
before. -/
theorem orFail_eq_ok_iff {result : Except Fault α} {value : α} :
    orFail result = .ok value ↔ result = .ok value := by
  cases result <;> simp [orFail]

end Checks

/-- Reading the variables in strings fails only on the token file, and only when names are mangled. -/
theorem rejection?_varsInString (options : Options) (read : Reader) :
    rejection? (orFail (options.varsInString read)) =
      if options.mangle then
        (rejection? (Mapping.optionalLines read options.mangling.tokenFile?)).map .configuration
      else none := by
  rw [rejection?_orFail, Options.varsInString]
  cases options.mangle with
  | false => rfl
  | true =>
    rw [if_pos rfl, if_pos rfl]
    cases Mapping.optionalLines read options.mangling.tokenFile? <;> rfl

/-- A program is refused exactly when it cannot be parsed, with the fault of the parser. -/
theorem rejection?_readProgram (source : String) :
    rejection? (readProgram source) = (rejection? (Program.parse source)).map .invalidProgram := by
  unfold readProgram
  cases Program.parse source <;> rfl

/-- The program that is read is the one that the text parses to. -/
theorem readProgram_eq_ok_iff {source : String} {program : Program} :
    readProgram source = .ok program ↔ Program.parse source = .ok program := by
  unfold readProgram
  cases Program.parse source <;> simp

section Steps

variable {options : Options} {collaborators allowed : Collaborators}

/-- Collaborators of a run: one for every enabled stage and for no other, each of them given. -/
structure Collaborators.IsAllowed (collaborators allowed : Collaborators) (options : Options) :
    Prop where
  consolidate : allowed.consolidate?.isSome = options.consolidate ∧
    ∀ pass, allowed.consolidate? = some pass → collaborators.consolidate? = some pass
  liftVars : allowed.liftVars?.isSome = options.liftVars ∧
    ∀ pass, allowed.liftVars? = some pass → collaborators.liftVars? = some pass
  mangle : allowed.mangle?.isSome = options.mangle ∧
    ∀ mangle, allowed.mangle? = some mangle → collaborators.mangle? = some mangle
  squeeze : allowed.squeeze?.isSome = options.squeeze ∧
    ∀ squeezer, allowed.squeeze? = some squeezer → collaborators.squeeze? = some squeezer

/-- The call of a stage is made when the stage is enabled, its collaborator being there then. -/
theorem map_call_toList {α : Type} {step : α → Step} {call : Call} {collaborator? : Option α}
    {enabled : Bool} (calls : ∀ a, (step a).call = call) (there : collaborator?.isSome = enabled) :
    (collaborator?.map step).toList.map Step.call = if enabled then [call] else [] := by
  subst there
  cases collaborator? with
  | none => rfl
  | some collaborator => exact congrArg (fun call => [call]) (calls collaborator)

/-- Squeezing is a call, and a further one in aggressive mode. -/
theorem map_call_squeezeSteps {squeezer? : Option Squeezer}
    (there : squeezer?.isSome = options.squeeze) :
    (squeezer?.elim [] options.squeezeSteps).map Step.call =
      (if options.squeeze then [Call.squeeze options.squeezeRequest] else []) ++
        if options.squeeze && options.squeezing.aggressive then [Call.squeezeMore] else [] := by
  rw [← there]
  cases squeezer? with
  | none => rfl
  | some squeezer =>
    cases aggressive : options.squeezing.aggressive <;> simp [Options.squeezeSteps, aggressive]

/-- The calls of allowed collaborators are the planned ones, in the planned order. -/
theorem map_call_steps (isAllowed : collaborators.IsAllowed allowed options)
    (request : MangleRequest) :
    (options.steps allowed request).map Step.call = options.plannedCalls request := by
  have consolidate : (allowed.consolidate?.map (Step.mk .consolidate)).toList.map Step.call =
      if options.consolidate then [Call.consolidate] else [] :=
    map_call_toList (fun _ => rfl) isAllowed.consolidate.1
  have liftVars : (allowed.liftVars?.map (Step.mk .liftVars)).toList.map Step.call =
      if options.liftVars then [Call.liftVars] else [] :=
    map_call_toList (fun _ => rfl) isAllowed.liftVars.1
  have mangle : (allowed.mangle?.map fun mangle =>
      Step.mk (.mangle request) (mangle request)).toList.map Step.call =
        if options.mangle then [Call.mangle request] else [] :=
    map_call_toList (fun _ => rfl) isAllowed.mangle.1
  rw [Options.steps, List.map_append, List.map_append, List.map_append, consolidate, liftVars,
    mangle, map_call_squeezeSteps isAllowed.squeeze.1]
  simp only [Options.plannedCalls, List.flatMap_cons, List.flatMap_nil, List.append_assoc,
    List.append_nil]

/-- Every step is answered by the collaborator that its call belongs to. -/
theorem pass?_of_mem_steps (isAllowed : collaborators.IsAllowed allowed options)
    {request : MangleRequest} {step : Step} (listed : step ∈ options.steps allowed request) :
    collaborators.pass? step.call = some step.pass := by
  simp only [Options.steps, List.mem_append, Option.mem_toList, Option.map_eq_some_iff] at listed
  rcases listed with ((⟨pass, there, rfl⟩ | ⟨pass, there, rfl⟩) | ⟨mangle, there, rfl⟩) | squeezing
  · exact isAllowed.consolidate.2 pass there
  · exact isAllowed.liftVars.2 pass there
  · simp [Collaborators.pass?, isAllowed.mangle.2 mangle there]
  · cases there : allowed.squeeze? with
    | none =>
      rw [there] at squeezing
      cases squeezing
    | some squeezer =>
      rw [there] at squeezing
      have given := isAllowed.squeeze.2 squeezer there
      rcases List.mem_cons.mp squeezing with rfl | more
      · simp [Collaborators.pass?, given]
      · split at more
        · obtain rfl := List.mem_singleton.mp more
          simp [Collaborators.pass?, given]
        · cases more

end Steps

/-- What a run makes ready when no check finds anything. -/
def IsReady (options : Options) (collaborators : Collaborators) (read : Reader) (source : String)
    (ready : List Step × Program) : Prop :=
  ∃ mapping vars, Mapping.ofEntries options.mangling.propertyMaps = .ok mapping ∧
    options.varsInString read = .ok vars ∧ Program.parse source = .ok ready.2 ∧
    ready.1.map Step.call = options.plannedCalls (options.mangleRequest mapping vars) ∧
    ∀ step ∈ ready.1, collaborators.pass? step.call = some step.pass

/-- The checks are made in their order, and behind all of them a run is ready. -/
theorem checked_prepare (options : Options) (collaborators : Collaborators) (read : Reader)
    (source : String) :
    Checked (options.checks collaborators read source)
      (IsReady options collaborators read source) (prepare options collaborators read source) := by
  rw [Options.checks, ← rejection?_required, ← rejection?_required, ← rejection?_required,
    ← rejection?_required, ← rejection?_orFail, ← rejection?_varsInString, ← rejection?_readProgram]
  simp only [prepare, Options.enabled, bind_assoc, pure_bind]
  refine Checked.bind fun consolidate? consolidate => ?_
  refine Checked.bind fun liftVars? liftVars => ?_
  refine Checked.bind fun mangle? mangle => ?_
  refine Checked.bind fun squeeze? squeeze => ?_
  refine Checked.bind fun mapping accepted => ?_
  refine Checked.bind fun vars readVars => ?_
  refine Checked.bind fun program parsed => ?_
  have isAllowed : collaborators.IsAllowed ⟨consolidate?, liftVars?, mangle?, squeeze?⟩ options := {
    consolidate := required_eq_ok consolidate
    liftVars := required_eq_ok liftVars
    mangle := required_eq_ok mangle
    squeeze := required_eq_ok squeeze }
  exact .ok ⟨mapping, vars, orFail_eq_ok_iff.mp accepted, orFail_eq_ok_iff.mp readVars,
    readProgram_eq_ok_iff.mp parsed, map_call_steps isAllowed _,
    fun _ listed => pass?_of_mem_steps isAllowed listed⟩

end PropertyMangling
