import OutcomeAlgebra.Shown.Tree
import OutcomeAlgebra.Optional.Basic
import OutcomeAlgebra.Try.Basic
/-! Flat chains of dependent outcomes. A chain holds what it has accumulated so
far, or the first failure; once a failure is there no later callback runs. What
a chain accumulates is any type, and `push` says how a value joins it. -/
namespace OutcomeAlgebra

structure Family (m : Type → Type) (F : Type → Type) (ε : Type) where
  split {α : Type} : F α → m (Except ε α)
  rebuild {α : Type} : Except ε α → F α

namespace Family

variable {m : Type → Type} [Monad m] {L κ ν : Type}

def option : Family m Option Unit where
  split
    | none => pure (.error ())
    | some value => pure (.ok value)
  rebuild
    | .error _ => none
    | .ok value => some value

def either : Family m (Either L) L where
  split outcome := pure outcome.toExcept
  rebuild := Either.ofExcept

/-- Splitting evaluates: a delayed value is run when it enters the chain. -/
def attempt : Family (Act κ ν) (Try κ ν) Capture where
  split := Try.intoResult
  rebuild := Try.ofOutcome

end Family

structure Steps (ε τ : Type) where
  state : Except ε τ

namespace Steps

variable {m : Type → Type} [Monad m] {F : Type → Type} {ε τ σ α β : Type}

def start (family : Family m F ε) (first : α → τ) (outcome : F α) : m (Steps ε τ) := do
  match ← family.split outcome with
  | .ok value => pure ⟨.ok (first value)⟩
  | .error failure => pure ⟨.error failure⟩

def isSuccessful (steps : Steps ε τ) : Bool :=
  match steps.state with
  | .ok _ => true
  | .error _ => false

/-- The next outcome is split at once, and its value joins the accumulated ones,
which the callback borrows. -/
def next (family : Family m F ε) (push : τ → α → σ) (steps : Steps ε τ)
    (f : StateT τ m (F α)) : m (Steps ε σ) := do
  match steps.state with
  | .error failure => pure ⟨.error failure⟩
  | .ok values =>
    let (outcome, values) ← f values
    match ← family.split outcome with
    | .ok value => pure ⟨.ok (push values value)⟩
    | .error failure => pure ⟨.error failure⟩

def nextWith (family : Family m F ε) (push : τ → α → σ) (steps : Steps ε τ)
    (supplier : m (F α)) : m (Steps ε σ) :=
  steps.next family push fun values => do
    let outcome ← supplier
    pure (outcome, values)

def filterOr (steps : Steps ε τ) (predicate : StateT τ m Bool) (onFailure : m ε) :
    m (Steps ε τ) := do
  match steps.state with
  | .error failure => pure ⟨.error failure⟩
  | .ok values =>
    let (accepted, values) ← predicate values
    if accepted then pure ⟨.ok values⟩
    else
      let failure ← onFailure
      pure ⟨.error failure⟩

def filter (steps : Steps Unit τ) (predicate : StateT τ m Bool) : m (Steps Unit τ) :=
  steps.filterOr predicate (pure ())

def yields (family : Family m F ε) (steps : Steps ε τ) (f : τ → m β) : m (F β) := do
  match steps.state with
  | .error failure => pure (family.rebuild (.error failure))
  | .ok values =>
    let value ← f values
    pure (family.rebuild (.ok value))

def copy (payload : Borrow κ ν τ τ) (failure : Borrow κ ν ε ε) :
    Borrow κ ν (Steps ε τ) (Steps ε τ) := fun steps =>
  match steps.state with
  | .ok values =>
    Borrow.within (fun kept => ⟨.ok kept⟩) (fun made => ⟨.ok made⟩) (payload values)
  | .error reason =>
    Borrow.within (fun kept => ⟨.error kept⟩) (fun made => ⟨.error made⟩) (failure reason)

def shown (payload : τ → Shown) (failure : ε → Shown) (steps : Steps ε τ) : Shown :=
  .record "Step" [("state", match steps.state with
    | .ok values => .apply "Ok" [payload values]
    | .error reason => .apply "Err" [failure reason])]

end Steps

end OutcomeAlgebra
