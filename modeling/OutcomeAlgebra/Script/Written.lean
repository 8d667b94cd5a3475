import OutcomeAlgebra.Script.Value
/-! The written form of values. Writing never evaluates a `Try`: a computation that
has not run yet, or that panicked, is written as pending. How functions are
written is left open here. -/
namespace OutcomeAlgebra.Script.Value

def doubleText (value : Float) : String :=
  if value.isNaN then "nan"
  else
    let digits := Nat.toDigits 16 value.toBits.toNat
    String.ofList (List.replicate (16 - digits.length) '0' ++ digits)

variable {m : Type → Type} [Monad m] (onFunction : Closure → m Json)

mutual

def written : Value → m Json
  | .unit => pure .null
  | .bool value => pure (.bool value)
  | .int value => pure (.integer value.toInt)
  | .big value => pure (.tagged "big" (.text (toString value)))
  | .double value => pure (.tagged "f64" (.text (doubleText value)))
  | .text value => pure (.text value)
  | .list items => Json.array <$> writtenItems items
  | .pair first second => do
    let a ← written first
    let b ← written second
    pure (.tagged "pair" (.array [a, b]))
  | .key number tag => pure (.tagged "key" (.array [.integer number.toInt, .text tag]))
  | .absent => pure (.tagged "none" (.integer 0))
  | .present value => Json.tagged "some" <$> written value
  | .left value => Json.tagged "left" <$> written value
  | .right value => Json.tagged "right" <$> written value
  | .ok value => Json.tagged "ok" <$> written value
  | .no value => Json.tagged "no" <$> written value
  | .attempt held => writtenTry held
  | .error capture => pure (.tagged "err" (.text capture.message))
  | .function closure => onFunction closure
termination_by structural value => value

def writtenItems : List Value → m (List Json)
  | [] => pure []
  | value :: values => do
    let item ← written value
    let items ← writtenItems values
    pure (item :: items)
termination_by structural values => values

def writtenTry : Try Names Json Value → m Json
  | .success value => Json.tagged "success" <$> written value
  | .failure capture => pure (.tagged "failure" (.text capture.message))
  | .deferred cell => writtenCell cell
termination_by structural held => held

def writtenCell : Cell Names Json Value → m Json
  | .ready outcome => writtenOutcome outcome
  | .pending _ => pure (.tagged "pending" (.integer 0))
  | .poisoned => pure (.tagged "pending" (.integer 0))
termination_by structural cell => cell

def writtenOutcome : Except Capture Value → m Json
  | .ok value => Json.tagged "success" <$> written value
  | .error capture => pure (.tagged "failure" (.text capture.message))
termination_by structural outcome => outcome

end

end OutcomeAlgebra.Script.Value
