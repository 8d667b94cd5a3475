import OutcomeAlgebra.Script.Combining
/-! The callbacks of a script step. Each is logged, with its arguments as they are
then, before it runs. What an arrow comes to becomes an outcome of the kind at
hand. -/
namespace OutcomeAlgebra.Script

structure Setting where
  inputs : List Literal

namespace Verdict

def option : Verdict → Act Names Json (Option Value)
  | .good value => pure (some value)
  | .bad _ => pure none
  | .whole outcome => demand "an option" outcome.option?

def either : Verdict → Act Names Json (Either Value Value)
  | .good value => pure (.right value)
  | .bad value => pure (.left value)
  | .whole outcome => demand "an either" outcome.either?

def attempt : Verdict → Act Names Json (Try Names Json Value)
  | .good value => pure (.success value)
  | .bad value => do
    let raised ← raiseValue value
    Try.fail raised
  | .whole outcome => demand "a Try" outcome.attempt?

end Verdict

namespace Setting

variable (setting : Setting)

def write (value : Value) : Act Names Json Json :=
  Prod.fst <$> Borrow.keep (Script.write setting.inputs value) []

def log (role : String) (arguments : List Value) : Act Names Json Unit :=
  logCall setting.write role arguments

def call (role : String) (term : Term) (arguments : List Value) : Act Names Json Value := do
  setting.log role arguments
  term.eval arguments

def ask (test : Test) : StateT Value (Act Names Json) Bool := fun value => do
  setting.log "p" [value]
  let (answer, arguments) ← test.eval [value]
  pure (answer, arguments.headD value)

def askAll (test : Test) : StateT (List Value) (Act Names Json) Bool := fun values => do
  setting.log "p" values
  test.eval values

def follow (arrow : Arrow) (arguments : List Value) : Act Names Json Verdict := do
  setting.log "k" arguments
  arrow.eval arguments

def supply (problem : Problem) : Act Names Json (Raised Fault) := do
  setting.log "e" []
  problem.raise none

def replaceError (problem : Problem) (capture : Capture) : Act Names Json (Raised Fault) := do
  setting.log "e" [.error capture]
  problem.raise (some capture)

end Setting

end OutcomeAlgebra.Script
