import OutcomeAlgebra.Algebra.Monoid
/-! The ways to group a combination of several values. The parts of a grouping stand in
their order; a fold works through the grouping to the left, and turning a grouping around
turns its parts around. What a grouping comes to is a program, as combining is. -/
namespace OutcomeAlgebra

inductive Bracketing (α : Type) where
  | one (part : α)
  | both (front back : Bracketing α)

namespace Bracketing

variable {m : Type → Type} [Monad m] {α : Type}

def parts : Bracketing α → List α
  | one part => [part]
  | both front back => front.parts ++ back.parts

def combine (op : SemigroupOp m α) : Bracketing α → m α
  | one part => pure part
  | both front back => do
    let left ← front.combine op
    let right ← back.combine op
    op.append left right

def fold (f : α → α → α) : Bracketing α → α
  | one part => part
  | both front back => f (front.fold f) (back.fold f)

def turned : Bracketing α → Bracketing α
  | one part => one part
  | both front back => both back.turned front.turned

def leftward : (front : Bracketing α) → (rest : List α) → Bracketing α
  | front, [] => front
  | front, part :: rest => leftward (both front (one part)) rest

theorem turnedParts (tree : Bracketing α) : tree.turned.parts = tree.parts.reverse := by
  induction tree with
  | one part => rfl
  | both front back frontTurned backTurned =>
    simp only [turned, parts, frontTurned, backTurned, List.reverse_append]

theorem turnedFold (f : α → α → α) (tree : Bracketing α) :
    tree.turned.fold f = tree.fold fun a b => f b a := by
  induction tree with
  | one part => rfl
  | both front back frontTurned backTurned => simp only [turned, fold, frontTurned, backTurned]

theorem leftwardParts (front : Bracketing α) (rest : List α) :
    (leftward front rest).parts = front.parts ++ rest := by
  induction rest generalizing front with
  | nil => simp [leftward]
  | cons part rest ih => simp [leftward, ih, parts]

variable [LawfulMonad m]

theorem combineFold (f : α → α → α) (tree : Bracketing α) :
    tree.combine (⟨fun a b => pure (f a b)⟩ : SemigroupOp m α) = pure (tree.fold f) := by
  induction tree with
  | one part => rfl
  | both front back left right => simp only [combine, fold, left, right, pure_bind]

theorem combineLeftward (op : SemigroupOp m α) (front : Bracketing α) (rest : List α) :
    (leftward front rest).combine op = front.combine op >>= fun start =>
      rest.foldlM op.append start := by
  induction rest generalizing front with
  | nil => simp [leftward]
  | cons part rest ih => simp [leftward, ih, combine]

theorem combineSum (op : SemigroupOp m α) (head : α) (tail : List α) :
    (leftward (one head) tail).combine op = op.sumNonEmpty head tail := by
  rw [combineLeftward, combine, pure_bind, SemigroupOp.sumNonEmpty]

end Bracketing

end OutcomeAlgebra
