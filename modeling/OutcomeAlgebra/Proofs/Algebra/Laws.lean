import OutcomeAlgebra.Algebra.Semigroup
import OutcomeAlgebra.Algebra.Monoid
import OutcomeAlgebra.Either.Basic
import OutcomeAlgebra.Proofs.Iter.Chaining
/-! The laws of combining operations, and how values are compared for them: functions
at every argument, iterators by their items, everything else part by part down to
equality. The functions in a clean value have no effects when they are applied to
clean values; iterators may have effects, since chaining keeps all requests in order. -/
namespace OutcomeAlgebra

structure Comparison (α : Type) where
  Clean : α → Prop
  Same : α → α → Prop
  sameSelf : ∀ {a}, Clean a → Same a a

namespace Comparison

variable {α β χ : Type}

def plain (α : Type) : Comparison α where
  Clean _ := True
  Same a b := a = b
  sameSelf _ := rfl

def option (inner : Comparison α) : Comparison (Option α) where
  Clean
    | none => True
    | some value => inner.Clean value
  Same
    | none, none => True
    | some a, some b => inner.Same a b
    | _, _ => False
  sameSelf {value} clean := by
    cases value with
    | none => trivial
    | some value => exact inner.sameSelf clean

def either (left : Comparison α) (right : Comparison β) : Comparison (Either α β) where
  Clean
    | .left value => left.Clean value
    | .right value => right.Clean value
  Same
    | .left a, .left b => left.Same a b
    | .right a, .right b => right.Same a b
    | _, _ => False
  sameSelf {value} clean := by
    cases value with
    | left value => exact left.sameSelf clean
    | right value => exact right.sameSelf clean

def pair (first : Comparison α) (second : Comparison β) : Comparison (α × β) where
  Clean value := first.Clean value.1 ∧ second.Clean value.2
  Same a b := first.Same a.1 b.1 ∧ second.Same a.2 b.2
  sameSelf clean := ⟨first.sameSelf clean.1, second.sameSelf clean.2⟩

variable (m : Type → Type) [Monad m]

def function (argument : Comparison χ) (result : Comparison β) : Comparison (χ → m β) where
  Clean f := ∀ x, argument.Clean x → ∃ y, f x = pure y ∧ result.Clean y
  Same f g := ∀ x, argument.Clean x → ∃ y z, f x = pure y ∧ g x = pure z ∧ result.Same y z
  sameSelf {f} clean x given := by
    obtain ⟨y, returned, still⟩ := clean x given
    exact ⟨y, y, returned, returned, result.sameSelf still⟩

def iter (α : Type) : Comparison (Iter m α) where
  Clean _ := True
  Same := Iter.SameItems
  sameSelf _ _ := rfl

end Comparison

variable {m : Type → Type} [Monad m] {α : Type}

/- On clean values an operation has no effect, gives a clean value, and does not
depend on the grouping. -/
structure LawfulSemigroup (comparison : Comparison α) (op : SemigroupOp m α) : Prop where
  defined : ∀ {a b}, comparison.Clean a → comparison.Clean b →
    ∃ c, op.append a b = pure c ∧ comparison.Clean c
  associative : ∀ {a b c}, comparison.Clean a → comparison.Clean b → comparison.Clean c →
    ∃ l r, (op.append a b >>= fun ab => op.append ab c) = pure l ∧
      (op.append b c >>= fun bc => op.append a bc) = pure r ∧ comparison.Same l r

structure IsIdentity (comparison : Comparison α) (op : SemigroupOp m α) (empty : α) : Prop where
  clean : comparison.Clean empty
  left : ∀ {a}, comparison.Clean a → ∃ l, op.append empty a = pure l ∧ comparison.Same l a
  right : ∀ {a}, comparison.Clean a → ∃ r, op.append a empty = pure r ∧ comparison.Same r a

structure LawfulMonoid (comparison : Comparison α) (monoid : MonoidOp m α) : Prop where
  semigroup : LawfulSemigroup comparison monoid.toSemigroupOp
  identity : ∃ empty, monoid.empty = pure empty ∧
    IsIdentity comparison monoid.toSemigroupOp empty

end OutcomeAlgebra
