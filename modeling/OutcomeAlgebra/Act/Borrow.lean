import OutcomeAlgebra.Act.Basic
/-! Computations on a value that stays with its owner. Looking at a value may
evaluate lazy parts of it, so every run gives the value back, in the state it
has reached, and does so also when the run panics. A panic ends the borrowing
computation; it does not lose the borrowed value. -/
namespace OutcomeAlgebra

/-- A computation on a borrowed `τ`: its ending, and what has become of the value. -/
def Borrow (κ ν τ β : Type) : Type := τ → Act κ ν (Except Panic β × τ)

namespace Borrow

variable {κ ν τ σ ρ α β γ : Type}

instance : Monad (Borrow κ ν τ) where
  pure value := fun owner => pure (.ok value, owner)
  bind first rest := fun owner => do
    match ← first owner with
    | (.ok value, owner) => rest value owner
    | (.error panic, owner) => pure (.error panic, owner)

def peek : Borrow κ ν τ τ := fun owner => pure (.ok owner, owner)

def stop (panic : Panic) : Borrow κ ν τ β := fun owner => pure (.error panic, owner)

def aside (act : Act κ ν β) : Borrow κ ν τ β := fun owner => do
  let ending ← act.ending
  pure (ending, owner)

instance : MonadLift (Act κ ν) (Borrow κ ν τ) := ⟨aside⟩

instance : MonadExceptOf Panic (Borrow κ ν τ) where
  throw := stop
  tryCatch borrow handler := fun owner => do
    match ← borrow owner with
    | (.ok value, owner) => pure (.ok value, owner)
    | (.error panic, owner) => handler panic owner

def change (f : τ → τ) : Borrow κ ν τ Unit := fun owner => pure (.ok (), f owner)

def keep (borrow : Borrow κ ν τ β) (owner : τ) : Act κ ν (β × τ) := do
  match ← borrow owner with
  | (.ok value, owner) => pure (value, owner)
  | (.error panic, _) => throw panic

def within (whole : τ → σ) (answer : β → γ)
    (part : Act κ ν (Except Panic β × τ)) : Act κ ν (Except Panic γ × σ) := do
  match ← part with
  | (.ok value, owner) => pure (.ok (answer value), whole owner)
  | (.error panic, owner) => pure (.error panic, whole owner)

theorem withinOk {part : Act κ ν (Except Panic β × τ)} {value : β} {owner : τ}
    (ends : part = pure (.ok value, owner)) (whole : τ → σ) (answer : β → γ) :
    within whole answer part = pure (.ok (answer value), whole owner) := by
  rw [ends]
  exact pure_bind _ _

theorem withinWithin (whole : τ → σ) (further : σ → ρ) (answer : α → β) (last : β → γ)
    (part : Act κ ν (Except Panic α × τ)) :
    within further last (within whole answer part) =
      within (further ∘ whole) (last ∘ answer) part := by
  rw [within, within, within, bind_assoc]
  refine bind_congr fun result => ?_
  obtain ⟨ending, owner⟩ := result
  cases ending <;> exact pure_bind _ _

def focus (part : τ) (putBack : τ → σ → σ) (look : Borrow κ ν τ β) : Borrow κ ν σ β :=
  fun owner => within (fun kept => putBack kept owner) id (look part)

/-- Two uses, the second only after the first has ended in a value. The second
owner is left as it stands when the first use panics. -/
def both (whole : τ → σ → ρ) (answer : α → β → γ)
    (first : Act κ ν (Except Panic α × τ)) (untouched : σ)
    (second : Act κ ν (Except Panic β × σ)) : Act κ ν (Except Panic γ × ρ) := do
  match ← first with
  | (.error panic, left) => pure (.error panic, whole left untouched)
  | (.ok value, left) => within (whole left) (answer value) second

theorem bothOk {first : Act κ ν (Except Panic α × τ)} {second : Act κ ν (Except Panic β × σ)}
    {value : α} {other : β} {left : τ} {right : σ} (firstEnds : first = pure (.ok value, left))
    (secondEnds : second = pure (.ok other, right)) (whole : τ → σ → ρ) (answer : α → β → γ)
    (untouched : σ) :
    both whole answer first untouched second =
      pure (.ok (answer value other), whole left right) := by
  rw [firstEnds]
  exact (pure_bind _ _).trans (withinOk secondEnds (whole left) (answer value))

end Borrow

end OutcomeAlgebra
