import OutcomeAlgebra.Proofs.Act.Run
/-! Operations one behind the other. A path is a pipeline as data: what one operation
makes of an outcome is what the next one is given. The operations are any family of
types, one for each value that goes in and each that comes out. -/
namespace OutcomeAlgebra

inductive Path (Stage : Type → Type → Type 1) : Type → Type → Type 1 where
  | here {α : Type} : Path Stage α α
  | step {α β γ : Type} (stage : Stage α β) (rest : Path Stage β γ) : Path Stage α γ

namespace Path

variable {m F : Type → Type} [Monad m] {Stage : Type → Type → Type 1}

def run {α β : Type} (path : Path Stage α β)
    (perform : {α β : Type} → Stage α β → F α → m (F β)) (outcome : F α) : m (F β) :=
  match path with
  | .here => pure outcome
  | .step stage rest => do
    let outcome ← perform stage outcome
    rest.run perform outcome

def All (holds : {α β : Type} → Stage α β → Prop) {α β : Type} : Path Stage α β → Prop
  | .here => True
  | .step stage rest => holds stage ∧ rest.All holds

end Path

end OutcomeAlgebra
