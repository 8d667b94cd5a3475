import OutcomeAlgebra.Algebra.Monoid
/-! Iterators that answer one request at a time, and their chaining. A part answers
its requests in turn and knows how many it has answered, which tells a part that
was never asked from one that was asked and was empty. A chain gives up its
front at the first `none` of it, and so never asks it again. -/
namespace OutcomeAlgebra

inductive Iter (m : Type → Type) (α : Type) where
  | part (answer : Nat → m (Option α)) (requests : Nat)
  | chain (front back : Iter m α)

namespace Iter

variable {m : Type → Type} {α : Type}

def ofAnswers (answer : Nat → m (Option α)) : Iter m α := .part answer 0

variable [Monad m]

def ended : Iter m α := ofAnswers fun _ => pure none

def next : Iter m α → m (Option α × Iter m α)
  | .part answer requests => do
    let item ← answer requests
    pure (item, .part answer (requests + 1))
  | .chain front back => do
    match ← front.next with
    | (some item, front) => pure (some item, .chain front back)
    | (none, _) => back.next

def take : (count : Nat) → Iter m α → m (List α × Iter m α)
  | 0, iter => pure ([], iter)
  | count + 1, iter => do
    match ← iter.next with
    | (none, iter) => pure ([], iter)
    | (some item, iter) =>
      let (items, iter) ← take count iter
      pure (item :: items, iter)

def chaining : MonoidOp m (Iter m α) := .of ⟨fun a b => pure (.chain a b)⟩ (pure ended)

end Iter

end OutcomeAlgebra
