import OutcomeAlgebra.Proofs.Act.Foretelling
import OutcomeAlgebra.Proofs.Outcome.Passing
import OutcomeAlgebra.Proofs.Outcome.Path
/-! Failures on their way along a path. An operation that does not recover makes the
same failure of a failure, and calls nothing that it was given for a success. What
runs all the same is said by `absorbed`: what an operation does before it comes to its
outcome, the evaluation of that, and what is told the failure. -/
namespace OutcomeAlgebra

variable {κ ν α β τ ε : Type}

/- Operations of one outcome: what each of them does, and what is left of it where the
outcome is unsuccessful. That is what runs before the outcome is evaluated, which
also says whether the outcome is reached, and what is told the failure behind it,
which also says whether the failure gets through. -/
structure Passages (κ ν : Type) (Stage : Type → Type → Type 1) (F : Type → Type) (ε : Type) where
  run {α β : Type} : Stage α β → F α → Act κ ν (F β)
  before {α β : Type} : Stage α β → Act κ ν Bool
  after {α β : Type} : Stage α β → ε → Act κ ν (Option ε)

namespace Family

variable {F : Type → Type}

def allSucceed (family : Family (Act κ ν) F ε) : List (Act κ ν (F α)) → Act κ ν Bool
  | [] => pure true
  | pull :: rest => do
    let outcome ← pull
    match ← family.split outcome with
    | .ok _ => family.allSucceed rest
    | .error _ => pure false

def absorbed (family : Family (Act κ ν) F ε) (before : Act κ ν Bool)
    (after : ε → Act κ ν (Option ε)) (outcome : F α) : Act κ ν (Option ε) := do
  if ← before then
    match ← family.split outcome with
    | .ok _ => pure none
    | .error failure => after failure
  else pure none

def failing (family : Family (Act κ ν) F ε) (outcome : F α) : Act κ ν (Option ε) :=
  family.absorbed (pure true) (fun failure => pure (some failure)) outcome

end Family

section Paths

variable {F : Type → Type} {Stage : Type → Type → Type 1} {family : Family (Act κ ν) F ε}
  {fail : {β : Type} → ε → F β} {passages : Passages κ ν Stage F ε}

theorem absorbedForetells {made : ε → τ} {after : ε → Act κ ν (Option ε)} {outcome : F α}
    {rest : Except ε α → Act κ ν τ}
    (told : ∀ failure, (after failure).Foretells made (rest (.error failure))) :
    (family.absorbed (pure true) after outcome).Foretells made (family.split outcome >>= rest) := by
  rw [Family.absorbed, pure_bind]
  refine Act.foretellsBind (family.split outcome) fun split => ?_
  cases split with
  | ok value => exact Act.foretellsNothing made _
  | error failure => exact told failure

theorem passesForetells {operation : F α → Act κ ν (F β)} (passes : family.Passes fail operation)
    (outcome : F α) : (family.failing outcome).Foretells fail (operation outcome) := by
  obtain ⟨onward, same⟩ := passes
  rw [same]
  exact absorbedForetells fun failure => Act.foretellsFailure failure fail

def Path.absorbed {α β : Type} (path : Path Stage α β) (passages : Passages κ ν Stage F ε)
    (family : Family (Act κ ν) F ε) (fail : {β : Type} → ε → F β) (outcome : F α) :
    Act κ ν (Option ε) :=
  match path with
  | .here => family.failing outcome
  | .step stage rest => do
    match ← family.absorbed (passages.before stage) (passages.after stage) outcome with
    | some failure => rest.absorbed passages family fail (fail failure)
    | none => pure none

def Passages.Quiet (passages : Passages κ ν Stage F ε) (stage : Stage α β) : Prop :=
  passages.before stage = pure true ∧ passages.after stage = fun failure => pure (some failure)

def Passages.Keep (passages : Passages κ ν Stage F ε) : Prop :=
  ∀ {α β : Type} (stage : Stage α β) ⦃context next failure found⦄,
    ((passages.after stage failure).run context next).ending = .ok (some found) → found = failure

/- Failures are absorbed: a path ends in the failure that evaluating its outcome gives,
and all that runs on the way is what is left of the path. -/
structure Passages.Absorb (passages : Passages κ ν Stage F ε) (family : Family (Act κ ν) F ε)
    (fail : {β : Type} → ε → F β) : Prop where
  whole : ∀ {α β : Type} (path : Path Stage α β) (outcome : F α),
    (path.absorbed passages family fail outcome).Foretells Except.error
      (path.run passages.run outcome >>= family.split)
  original : ∀ {α β : Type} (path : Path Stage α β) (outcome : F α) ⦃context next failure⦄,
    ((path.absorbed passages family fail outcome).run context next).ending = .ok (some failure) →
      ∃ moment, ((family.split outcome).run context moment).ending = .ok (.error failure)
  quiet : ∀ {α β : Type} (path : Path Stage α β) (outcome : F α), path.All passages.Quiet →
    ∀ ⦃context next log used failure⦄,
      (family.split outcome).run context next = ⟨log, used, .ok (.error failure)⟩ →
        (path.run passages.run outcome >>= family.split).run context next =
          ⟨log, used, .ok (.error failure)⟩

theorem absorbedWhole
    (steps : ∀ {α β : Type} (stage : Stage α β) (outcome : F α),
      (family.absorbed (passages.before stage) (passages.after stage) outcome).Foretells fail
        (passages.run stage outcome)) (path : Path Stage α β) (outcome : F α) :
    (path.absorbed passages family fail outcome).Foretells Except.error
      (path.run passages.run outcome >>= family.split) := by
  induction path with
  | here =>
    have told : (family.failing outcome).Foretells Except.error (family.split outcome >>= pure) :=
      absorbedForetells fun failure => Act.foretellsFailure failure Except.error
    rw [bind_pure] at told
    rw [Path.run, pure_bind]
    exact told
  | step stage rest ih =>
    rw [Path.absorbed, Path.run, bind_assoc]
    exact Act.foretellsThen (steps stage outcome) _ _ fun failure => ih (fail failure)

theorem absorbedOutcome {before : Act κ ν Bool} {after : ε → Act κ ν (Option ε)} {outcome : F α}
    {context : κ} {next : Nat} {failure : ε}
    (keeps : ∀ {failure found moment},
      ((after failure).run context moment).ending = .ok (some found) → found = failure)
    (ended : ((family.absorbed before after outcome).run context next).ending =
      .ok (some failure)) :
    ∃ moment, ((family.split outcome).run context moment).ending = .ok (.error failure) := by
  obtain ⟨reached, _, ended⟩ := Act.runBindEnds _ ended
  cases reached with
  | false => cases ended
  | true =>
    obtain ⟨split, evaluated, ended⟩ := Act.runBindEnds _ ended
    cases split with
    | ok value => cases ended
    | error found =>
      obtain rfl := keeps ended
      exact ⟨_, evaluated⟩

theorem absorbedOriginal (splitFail : ∀ {α : Type} (failure : ε),
      family.split (fail failure : F α) = pure (.error failure))
    (keeps : passages.Keep) (path : Path Stage α β) (outcome : F α) {context : κ} {next : Nat}
    {failure : ε}
    (ended : ((path.absorbed passages family fail outcome).run context next).ending =
      .ok (some failure)) :
    ∃ moment, ((family.split outcome).run context moment).ending = .ok (.error failure) := by
  induction path generalizing next with
  | here => exact absorbedOutcome (fun same => by cases same; rfl) ended
  | step stage rest ih =>
    obtain ⟨found, began, ended⟩ := Act.runBindEnds _ ended
    cases found with
    | none => cases ended
    | some between =>
      obtain ⟨moment, later⟩ := ih (fail between) ended
      rw [splitFail] at later
      cases later
      exact absorbedOutcome (fun ended => keeps stage ended) began

theorem absorbedEvaluated {outcome : F α} {context : κ} {next used : Nat} {log : List (Entry ν)}
    {failure : ε}
    (fails : (family.split outcome).run context next = ⟨log, used, .ok (.error failure)⟩) :
    (family.failing outcome).run context next = ⟨log, used, .ok (some failure)⟩ := by
  rw [Family.failing, Family.absorbed, pure_bind]
  simp [Act.runBindOk fails, Report.behind, Act.runPure]

theorem absorbedQuiet (splitFail : ∀ {α : Type} (failure : ε),
      family.split (fail failure : F α) = pure (.error failure))
    {path : Path Stage α β} (quiet : path.All passages.Quiet) {outcome : F α} {context : κ}
    {next used : Nat} {log : List (Entry ν)} {failure : ε}
    (fails : (family.split outcome).run context next = ⟨log, used, .ok (.error failure)⟩) :
    (path.absorbed passages family fail outcome).run context next =
      ⟨log, used, .ok (some failure)⟩ := by
  induction path generalizing next log used with
  | here => exact absorbedEvaluated fails
  | @step α β γ stage rest ih =>
    obtain ⟨⟨before, after⟩, others⟩ := quiet
    have failed : (family.split (fail failure : F β)).run context (next + used) =
        ⟨[], 0, .ok (.error failure)⟩ := by
      rw [splitFail]
      rfl
    have evaluated := absorbedEvaluated fails
    rw [Family.failing] at evaluated
    rw [Path.absorbed, before, after, Act.runBindOk evaluated]
    simp [ih others failed, Report.behind]

theorem absorbedPaths (splitFail : ∀ {α : Type} (failure : ε),
      family.split (fail failure : F α) = pure (.error failure))
    (steps : ∀ {α β : Type} (stage : Stage α β) (outcome : F α),
      (family.absorbed (passages.before stage) (passages.after stage) outcome).Foretells fail
        (passages.run stage outcome))
    (keeps : passages.Keep) : passages.Absorb family fail where
  whole path outcome := absorbedWhole steps path outcome
  original path outcome context next failure ended :=
    absorbedOriginal splitFail keeps path outcome ended
  quiet path outcome quiet context next log used failure fails := by
    have left := absorbedQuiet splitFail quiet fails
    exact absorbedWhole steps path outcome left

end Paths

end OutcomeAlgebra
