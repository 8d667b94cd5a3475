import OutcomeAlgebra.Optional.Basic
import OutcomeAlgebra.Try.Basic
/-! The combinators that all outcomes share, named once. Each outcome gives four of
them; the rest follow here. No law is assumed of an instance. -/
namespace OutcomeAlgebra

class Outcome (m : Type → Type) (F : Type → Type) where
  lift {α : Type} : α → F α
  map {α β : Type} : F α → (α → m β) → m (F β)
  map2 {α β γ : Type} : F α → F β → (α → β → m γ) → m (F γ)
  flatMap {α β : Type} : F α → (α → m (F β)) → m (F β)

namespace Outcome

variable {m : Type → Type} {F : Type → Type} [Monad m] [Outcome m F] {α β : Type}

def replace (outcome : F α) (value : β) : m (F β) := map outcome fun _ => pure value

def void (outcome : F α) : m (F Unit) := replace outcome ()

def product (first : F α) (second : F β) : m (F (α × β)) :=
  map2 first second fun a b => pure (a, b)

def andThen (outcome : F α) (f : α → m (F β)) : m (F β) := flatMap outcome f

def followedBy (outcome : F α) (next : F β) : m (F β) := flatMap outcome fun _ => pure next

end Outcome

instance optionOutcome {m : Type → Type} [Monad m] : Outcome m Option where
  lift := some
  map outcome f := Optional.map f outcome
  map2 first second f := Optional.map2 f first second
  flatMap outcome f := Optional.flatMap f outcome

instance eitherOutcome {m : Type → Type} [Monad m] {L : Type} : Outcome m (Either L) where
  lift := .right
  map := Either.map
  map2 := Either.map2
  flatMap := Either.flatMap

instance tryOutcome {κ ν : Type} : Outcome (Act κ ν) (Try κ ν) where
  lift := .success
  map := Try.map
  map2 := Try.map2
  flatMap := Try.flatMap

end OutcomeAlgebra
