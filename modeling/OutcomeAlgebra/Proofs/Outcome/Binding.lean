import OutcomeAlgebra.Proofs.Steps.Nesting
import OutcomeAlgebra.Proofs.Try.Consuming
/-! Binding one outcome to the next. The laws are equations between programs, so
both sides call the same callbacks on the same values in the same order, run the
same delayed computations in between, and end in the same value or panic. A `Try`
that a callback hands over is part of that value, in the state it is in. -/
namespace OutcomeAlgebra

section Families

variable {m : Type → Type} [Monad m] [LawfulMonad m] {F : Type → Type} [Outcome m F]
  {α β γ ε : Type} {family : Family m F ε} {fail : {β : Type} → ε → F β}

theorem flatMapLift (describes : family.Describes fail) (value : α) (f : α → m (F β)) :
    Outcome.flatMap (Outcome.lift m value) f = f value := by
  rw [describes.flatMap, describes.splitLift, pure_bind]

theorem flatMapFailed (describes : family.Describes fail) {failure : ε}
    (fails : family.split (α := α) (fail failure) = pure (.error failure)) (f : α → m (F β)) :
    Outcome.flatMap (fail failure) f = pure (fail failure) := by
  rw [describes.flatMap, fails, pure_bind]

theorem flatMapFlatMap (describes : family.Describes fail)
    (fails : ∀ failure, family.split (α := β) (fail failure) = pure (.error failure))
    (outcome : F α) (f : α → m (F β)) (g : β → m (F γ)) :
    (Outcome.flatMap outcome f >>= fun made => Outcome.flatMap made g) =
      Outcome.flatMap outcome fun value => f value >>= fun made => Outcome.flatMap made g := by
  rw [describes.flatMap outcome f, describes.flatMap outcome, bind_assoc]
  refine bind_congr fun split => ?_
  cases split with
  | ok value => rfl
  | error failure =>
    have through := flatMapFailed describes (fails failure) g
    exact (pure_bind _ _).trans through

end Families

/- The laws of binding. What is left of an outcome that is bound to nothing new is
`settle` of it: the outcome itself, unless that is still to be evaluated. -/
structure Outcome.Binds (m : Type → Type) (F : Type → Type) [Monad m] [Outcome m F]
    (settle : {α : Type} → F α → m (F α)) : Prop where
  lift : ∀ {α β : Type} (value : α) (f : α → m (F β)),
    Outcome.flatMap (Outcome.lift m value) f = f value
  keep : ∀ {α : Type} (outcome : F α),
    Outcome.flatMap outcome (fun value => pure (Outcome.lift m value)) = settle outcome
  again : ∀ {α β γ : Type} (outcome : F α) (f : α → m (F β)) (g : β → m (F γ)),
    (Outcome.flatMap outcome f >>= fun made => Outcome.flatMap made g) =
      Outcome.flatMap outcome fun value => f value >>= fun made => Outcome.flatMap made g

theorem optionBinds {m : Type → Type} [Monad m] [LawfulMonad m] :
    Outcome.Binds m Option pure where
  lift value f := flatMapLift optionDescribes value f
  keep outcome := by cases outcome <;> rfl
  again outcome f g := flatMapFlatMap optionDescribes (fun _ => rfl) outcome f g

theorem eitherBinds {m : Type → Type} [Monad m] [LawfulMonad m] {L : Type} :
    Outcome.Binds m (Either L) pure where
  lift value f := flatMapLift eitherDescribes value f
  keep outcome := by cases outcome <;> rfl
  again outcome f g := flatMapFlatMap eitherDescribes (fun _ => rfl) outcome f g

namespace Try

variable {κ ν α : Type}

def evaluate (attempt : Try κ ν α) : Act κ ν (Try κ ν α) := ofOutcome <$> attempt.intoResult

theorem evaluateIntoResult (attempt : Try κ ν α) :
    (attempt.evaluate >>= intoResult) = attempt.intoResult := by
  rw [evaluate, bind_map_left]
  simp only [intoResultEager, bind_pure]

theorem binds : Outcome.Binds (Act κ ν) (Try κ ν) evaluate where
  lift value f := flatMapLift attemptDescribes value f
  keep attempt := by
    rw [attemptDescribes.flatMap, evaluate, map_eq_pure_bind]
    refine bind_congr fun split => ?_
    cases split <;> rfl
  again attempt f g := flatMapFlatMap attemptDescribes (fun _ => rfl) attempt f g

end Try

structure OutcomesBind (κ ν : Type) : Prop where
  option : ∀ (m : Type → Type) [Monad m] [LawfulMonad m], Outcome.Binds m Option pure
  either : ∀ (m : Type → Type) [Monad m] [LawfulMonad m] (L : Type),
    Outcome.Binds m (Either L) pure
  attempt : Outcome.Binds (Act κ ν) (Try κ ν) Try.evaluate
  kept : ∀ {α : Type} (attempt : Try κ ν α),
    (attempt.evaluate >>= Try.intoResult) = attempt.intoResult
  optionFlatMap : ∀ {m : Type → Type} [Monad m] {α β : Type} (outcome : Option α)
    (f : α → m (Option β)), Outcome.flatMap outcome f = Optional.flatMap f outcome
  eitherFlatMap : ∀ {m : Type → Type} [Monad m] {L α β : Type} (outcome : Either L α)
    (f : α → m (Either L β)), Outcome.flatMap outcome f = outcome.flatMap f
  attemptFlatMap : ∀ {α β : Type} (outcome : Try κ ν α) (f : α → Act κ ν (Try κ ν β)),
    Outcome.flatMap outcome f = outcome.flatMap f

theorem bindingLaws (κ ν : Type) : OutcomesBind κ ν where
  option _ _ _ := optionBinds
  either _ _ _ _ := eitherBinds
  attempt := Try.binds
  kept := Try.evaluateIntoResult
  optionFlatMap _ _ := rfl
  eitherFlatMap _ _ := rfl
  attemptFlatMap _ _ := rfl

end OutcomeAlgebra
