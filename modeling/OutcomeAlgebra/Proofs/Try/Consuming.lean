import OutcomeAlgebra.Proofs.Try.Observation
import OutcomeAlgebra.Steps.Basic
import OutcomeAlgebra.Try.Sequence
/-! Giving a `Try` up. Every operation that does so evaluates it first and then does
what it would do with the eager `Try` of the outcome, so that no such operation
starts a computation in a way of its own. -/
namespace OutcomeAlgebra.Try

variable {κ ν α β γ τ : Type}

inductive Consumer (κ ν : Type) : Type → Type → Type 1 where
  | intoResult {α : Type} : Consumer κ ν α (Except Capture α)
  | get {α : Type} : Consumer κ ν α (Except EmptyValue α)
  | getOrElse {α : Type} (supplier : Act κ ν α) : Consumer κ ν α α
  | map {α β : Type} (f : α → Act κ ν β) : Consumer κ ν α (Try κ ν β)
  | flatMap {α β : Type} (f : α → Act κ ν (Try κ ν β)) : Consumer κ ν α (Try κ ν β)
  | filter {α : Type} (predicate : StateT α (Act κ ν) Bool) (supplier : Act κ ν (Raised Fault)) :
      Consumer κ ν α (Try κ ν α)
  | fold {α β : Type} (onFailure : Capture → Act κ ν β) (onSuccess : α → Act κ ν β) :
    Consumer κ ν α β
  | recover {α : Type} (f : Capture → Act κ ν α) : Consumer κ ν α (Try κ ν α)
  | recoverWith {α : Type} (f : Capture → Act κ ν (Try κ ν α)) : Consumer κ ν α (Try κ ν α)
  | mapFailure {α : Type} (f : Capture → Act κ ν (Raised Fault)) : Consumer κ ν α (Try κ ν α)
  | map2 {α β γ : Type} (second : Try κ ν β) (f : α → β → Act κ ν γ) : Consumer κ ν α (Try κ ν γ)
  | flatten {α : Type} : Consumer κ ν (Try κ ν α) (Try κ ν α)
  | toOption {α : Type} : Consumer κ ν α (Option α)
  | toEither {α : Type} : Consumer κ ν α (Either Capture α)
  | toList {α : Type} : Consumer κ ν α (List α)
  | chain {α τ : Type} (first : α → τ) : Consumer κ ν α (Steps Capture τ)
  | sequence {α : Type} (others : List (Act κ ν (Try κ ν α))) : Consumer κ ν α (Try κ ν (List α))

def Consumer.run : Consumer κ ν α β → Try κ ν α → Act κ ν β
  | .intoResult, attempt => attempt.intoResult
  | .get, attempt => attempt.get
  | .getOrElse supplier, attempt => attempt.getOrElse supplier
  | .map f, attempt => attempt.map f
  | .flatMap f, attempt => attempt.flatMap f
  | .filter predicate supplier, attempt => attempt.filter predicate supplier
  | .fold onFailure onSuccess, attempt => attempt.fold onFailure onSuccess
  | .recover f, attempt => attempt.recover f
  | .recoverWith f, attempt => attempt.recoverWith f
  | .mapFailure f, attempt => attempt.mapFailure f
  | .map2 second f, attempt => attempt.map2 second f
  | .flatten, attempt => attempt.flatten
  | .toOption, attempt => attempt.toOption
  | .toEither, attempt => attempt.toEither
  | .toList, attempt => attempt.toList
  | .chain first, attempt => Steps.start Family.attempt first attempt
  | .sequence others, attempt => Try.sequence (pure attempt :: others)

theorem intoResultEager (outcome : Except Capture α) :
    (ofOutcome outcome : Try κ ν α).intoResult = pure outcome := by
  cases outcome <;> rfl

theorem consumes (consumer : Consumer κ ν α β) (attempt : Try κ ν α) :
    consumer.run attempt =
      attempt.intoResult >>= fun outcome => consumer.run (ofOutcome outcome) := by
  cases consumer with
  | intoResult => simp only [Consumer.run, intoResultEager, bind_pure]
  | get | getOrElse | map | flatMap | filter | fold | recoverWith | mapFailure | toEither | chain =>
    simp only [Consumer.run, get, getOrElse, map, flatMap, filter, fold, recoverWith, mapFailure,
      toEither, Steps.start, Family.attempt, intoResultEager, pure_bind]
  | recover => simp only [Consumer.run, recover, fold, intoResultEager, pure_bind, map_bind]
  | map2 | flatten =>
    simp only [Consumer.run, map2, flatten, flatMap, intoResultEager, pure_bind]
  | toOption | toList =>
    simp only [Consumer.run, toOption, toList, intoResultEager, pure_bind, bind_assoc]
  | sequence others =>
    simp only [Consumer.run, sequence, sequenceFrom, intoResultEager, pure_bind]

end OutcomeAlgebra.Try
