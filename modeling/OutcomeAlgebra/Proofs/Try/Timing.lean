import OutcomeAlgebra.Outcome.Basic
import OutcomeAlgebra.Proofs.Outcome.Path
import OutcomeAlgebra.Proofs.Try.Consuming
import OutcomeAlgebra.Proofs.Try.Starting
/-! Running a computation at once, and running it when it is first used. A pipeline
that consumes what it is given does not tell the two apart: behind the computation
the same program goes on, whichever way the `Try` was made. -/
namespace OutcomeAlgebra.Try

inductive Stage (κ ν : Type) : Type → Type → Type 1 where
  | map {α β : Type} (f : α → Act κ ν β) : Stage κ ν α β
  | flatMap {α β : Type} (f : α → Act κ ν (Try κ ν β)) : Stage κ ν α β
  | filter {α : Type} (predicate : StateT α (Act κ ν) Bool) (supplier : Act κ ν (Raised Fault)) :
      Stage κ ν α α
  | recover {α : Type} (f : Capture → Act κ ν α) : Stage κ ν α α
  | recoverWith {α : Type} (f : Capture → Act κ ν (Try κ ν α)) : Stage κ ν α α
  | mapFailure {α : Type} (f : Capture → Act κ ν (Raised Fault)) : Stage κ ν α α
  | flatten {α : Type} : Stage κ ν (Try κ ν α) α
  | andThen {α β : Type} (f : α → Act κ ν (Try κ ν β)) : Stage κ ν α β
  | followedBy {α β : Type} (next : Try κ ν β) : Stage κ ν α β
  | void {α : Type} : Stage κ ν α Unit
  | replace {α β : Type} (value : β) : Stage κ ν α β

inductive Finish (κ ν : Type) : Type → Type → Type 1 where
  | intoResult {α : Type} : Finish κ ν α (Except Capture α)
  | get {α : Type} : Finish κ ν α (Except EmptyValue α)
  | getOrElse {α : Type} (supplier : Act κ ν α) : Finish κ ν α α
  | fold {α β : Type} (onFailure : Capture → Act κ ν β) (onSuccess : α → Act κ ν β) : Finish κ ν α β
  | toOption {α : Type} : Finish κ ν α (Option α)
  | toEither {α : Type} : Finish κ ν α (Either Capture α)

variable {κ ν α β γ : Type}

def Stage.run : Stage κ ν α β → Try κ ν α → Act κ ν (Try κ ν β)
  | .map f, attempt => attempt.map f
  | .flatMap f, attempt => attempt.flatMap f
  | .filter predicate supplier, attempt => attempt.filter predicate supplier
  | .recover f, attempt => attempt.recover f
  | .recoverWith f, attempt => attempt.recoverWith f
  | .mapFailure f, attempt => attempt.mapFailure f
  | .flatten, attempt => attempt.flatten
  | .andThen f, attempt => Outcome.andThen attempt f
  | .followedBy next, attempt => Outcome.followedBy attempt next
  | .void, attempt => Outcome.void attempt
  | .replace value, attempt => Outcome.replace attempt value

def Finish.run : Finish κ ν α β → Try κ ν α → Act κ ν β
  | .intoResult, attempt => attempt.intoResult
  | .get, attempt => attempt.get
  | .getOrElse supplier, attempt => attempt.getOrElse supplier
  | .fold onFailure onSuccess, attempt => attempt.fold onFailure onSuccess
  | .toOption, attempt => attempt.toOption
  | .toEither, attempt => attempt.toEither

def Stage.consumer : Stage κ ν α β → Consumer κ ν α (Try κ ν β)
  | .map f => .map f
  | .flatMap f | .andThen f => .flatMap f
  | .filter predicate supplier => .filter predicate supplier
  | .recover f => .recover f
  | .recoverWith f => .recoverWith f
  | .mapFailure f => .mapFailure f
  | .flatten => .flatten
  | .followedBy next => .flatMap fun _ => pure next
  | .void => .map fun _ => pure ()
  | .replace value => .map fun _ => pure value

def Finish.consumer : Finish κ ν α β → Consumer κ ν α β
  | .intoResult => .intoResult
  | .get => .get
  | .getOrElse supplier => .getOrElse supplier
  | .fold onFailure onSuccess => .fold onFailure onSuccess
  | .toOption => .toOption
  | .toEither => .toEither

theorem Stage.consumes (stage : Stage κ ν α β) (attempt : Try κ ν α) :
    stage.run attempt = attempt.intoResult >>= fun outcome => stage.run (ofOutcome outcome) := by
  have same : ∀ given : Try κ ν α, stage.run given = stage.consumer.run given := by
    intro given
    cases stage <;> rfl
  simp only [same]
  exact Try.consumes stage.consumer attempt

theorem Finish.consumes (finish : Finish κ ν α β) (attempt : Try κ ν α) :
    finish.run attempt = attempt.intoResult >>= fun outcome => finish.run (ofOutcome outcome) := by
  have same : ∀ given : Try κ ν α, finish.run given = finish.consumer.run given := by
    intro given
    cases finish <;> rfl
  simp only [same]
  exact Try.consumes finish.consumer attempt

def pipeline (path : Path (Stage κ ν) α β) (finish : Finish κ ν β γ) (attempt : Try κ ν α) :
    Act κ ν γ := do
  let attempt ← path.run (fun stage => stage.run) attempt
  finish.run attempt

theorem pipelineConsumes (path : Path (Stage κ ν) α β) (finish : Finish κ ν β γ)
    (attempt : Try κ ν α) :
    pipeline path finish attempt =
      attempt.intoResult >>= fun outcome => pipeline path finish (ofOutcome outcome) := by
  cases path with
  | here =>
    simp only [pipeline, Path.run, pure_bind]
    exact finish.consumes attempt
  | step stage rest =>
    simp only [pipeline, Path.run, bind_assoc]
    rw [stage.consumes attempt, bind_assoc]

def afterwards (path : Path (Stage κ ν) α β) (finish : Finish κ ν β γ)
    (ended : Except (Raised Fault) α) : Act κ ν γ := do
  let outcome ← capture ended
  pipeline path finish (ofOutcome outcome)

section Computation

variable (path : Path (Stage κ ν) α β) (finish : Finish κ ν β γ)
  (computation : Act κ ν (Except (Raised Fault) α))

theorem atOnce : (Try.of computation >>= pipeline path finish) =
    (computation >>= afterwards path finish) := by
  simp only [Try.of, bind_assoc, pure_bind]
  rfl

theorem whenUsed : pipeline path finish (delayed computation) =
    (Act.emit .evaluating >>= fun _ => computation >>= afterwards path finish) := by
  have given : (delayed computation).intoResult =
      (Act.emit .evaluating >>= fun _ => computation >>= capture) := rfl
  rw [pipelineConsumes, given]
  simp only [bind_assoc]
  rfl

theorem whenUsedReport (context : κ) (next : Nat) :
    (pipeline path finish (delayed computation)).run context next =
      ((Try.of computation >>= pipeline path finish).run context next).behind
        [.event .evaluating] 0 := by
  have emitted : (Act.emit .evaluating : Act κ ν Unit).run context next =
      ⟨[.event .evaluating], 0, .ok ()⟩ := rfl
  rw [atOnce, whenUsed, Act.runBindOk emitted, Nat.add_zero]

end Computation

theorem startsBoth {path : Path (Stage κ (Option ν)) α β} {finish : Finish κ (Option ν) β γ}
    (others : ∀ ended, (afterwards path finish ended).Unmarked)
    (computation : Act κ ν (Except (Raised Fault) α)) (context : κ) (next : Nat) :
    starts ((Try.of computation.marked >>= pipeline path finish).run context next).log = 1 ∧
    starts ((pipeline path finish (delayed computation.marked)).run context next).log = 1 := by
  have once :
      starts ((Try.of computation.marked >>= pipeline path finish).run context next).log = 1 := by
    rw [atOnce, Act.startsBind _ others, Act.startsMarked]
  refine ⟨once, ?_⟩
  rw [whenUsedReport, Report.behind, startsAppend, once]
  rfl

theorem delayedEager (κ ν : Type) :
    (∀ {α β γ : Type} (path : Path (Stage κ ν) α β) (finish : Finish κ ν β γ)
      (computation : Act κ ν (Except (Raised Fault) α)),
      (Try.of computation >>= pipeline path finish) = (computation >>= afterwards path finish) ∧
      pipeline path finish (delayed computation) =
        (Act.emit .evaluating >>= fun _ => computation >>= afterwards path finish) ∧
      ∀ context next, (pipeline path finish (delayed computation)).run context next =
        ((Try.of computation >>= pipeline path finish).run context next).behind
          [.event .evaluating] 0) ∧
    ∀ {α β γ : Type} (path : Path (Stage κ (Option ν)) α β) (finish : Finish κ (Option ν) β γ),
      (∀ ended, (afterwards path finish ended).Unmarked) →
      ∀ (computation : Act κ ν (Except (Raised Fault) α)) (context : κ) (next : Nat),
        starts ((Try.of computation.marked >>= pipeline path finish).run context next).log = 1 ∧
        starts ((pipeline path finish (delayed computation.marked)).run context next).log = 1 := by
  refine ⟨fun path finish computation => ⟨atOnce path finish computation,
    whenUsed path finish computation, whenUsedReport path finish computation⟩,
    fun path finish others => startsBoth others⟩

theorem notedPipelineOnce :
    let path : Path (Stage Unit (Option String)) Nat Nat := .step (.map fun value => do
      Act.note (some "doubled")
      pure (2 * value)) .here
    let computation : Act Unit String (Except (Raised Fault) Nat) := pure (.ok 4)
    (∀ ended, (afterwards path .intoResult ended).Unmarked) ∧
    starts ((Try.of computation.marked >>= pipeline path .intoResult).run () 0).log = 1 ∧
    starts ((pipeline path .intoResult (delayed computation.marked)).run () 0).log = 1 := by
  intro path computation
  have others : ∀ ended, (afterwards path .intoResult ended).Unmarked := by
    intro ended
    rcases ended with (fault | ⟨handle, fault⟩) | value <;> exact fun _ _ => rfl
  exact ⟨others, (delayedEager Unit String).2 path .intoResult others computation () 0⟩

end OutcomeAlgebra.Try
