import OutcomeAlgebra.Either.Basic
/-! The order of eithers: every `left` is below every `right`, and payloads of one
side compare as they do by themselves. Payloads may be incomparable; then so
are the eithers around them, and none of `<`, `≤`, `>`, `≥` holds. -/
namespace OutcomeAlgebra.Either

variable {L R : Type}

def compare? (left : L → L → Option Ordering) (right : R → R → Option Ordering) :
    Either L R → Either L R → Option Ordering
  | .left a, .left b => left a b
  | .left _, .right _ => some .lt
  | .right _, .left _ => some .gt
  | .right a, .right b => right a b

def relations : Option Ordering → Bool × Bool × Bool × Bool
  | some .lt => (true, true, false, false)
  | some .eq => (false, true, false, true)
  | some .gt => (false, false, true, true)
  | none => (false, false, false, false)

end OutcomeAlgebra.Either
