import OutcomeAlgebra.Act.Basic
/-! Operations that combine two values, held as values themselves. Combining is a
program, so how often an operation runs, and on what, can be said. That it is
associative is up to whoever builds it and is assumed nowhere in this file. -/
namespace OutcomeAlgebra

structure SemigroupOp (m : Type → Type) (α : Type) where
  append : α → α → m α

abbrev Copying (m : Type → Type) (α : Type) : Type := α → m (α × α)

def plainCopy {m : Type → Type} [Monad m] {α : Type} : Copying m α :=
  fun value => pure (value, value)

namespace SemigroupOp

variable {m : Type → Type} [Monad m] {α β : Type}

def sumNonEmpty (op : SemigroupOp m α) (head : α) (tail : List α) : m α :=
  tail.foldlM op.append head

def appendCopies (op : SemigroupOp m α) (copy : Copying m α) (value : α) :
    (count : Nat) → α → m α
  | 0, result => pure result
  | count + 1, result => do
    let (again, value) ← copy value
    let result ← op.append result again
    op.appendCopies copy value count result

def appendN [MonadExceptOf Panic m] (op : SemigroupOp m α) (copy : Copying m α)
    (value : α) : Nat → m α
  | 0 => throw .emptyRepeat
  | count + 1 => do
    let (result, value) ← copy value
    op.appendCopies copy value count result

def greatest (below : α → α → Bool) : SemigroupOp m α where
  append a b := pure (if below b a then a else b)

def least (below : α → α → Bool) : SemigroupOp m α where
  append a b := pure (if below b a then b else a)

def pair (first : SemigroupOp m α) (second : SemigroupOp m β) : SemigroupOp m (α × β) where
  append a b := do
    let left ← first.append a.1 b.1
    let right ← second.append a.2 b.2
    pure (left, right)

def firstSome : SemigroupOp m (Option α) where
  append a b := pure (a.or b)

def lastSome : SemigroupOp m (Option α) where
  append a b := pure (b.or a)

def optional (inner : SemigroupOp m α) : SemigroupOp m (Option α) where
  append
    | some a, some b => some <$> inner.append a b
    | some a, none => pure (some a)
    | none, b => pure b

end SemigroupOp

end OutcomeAlgebra
