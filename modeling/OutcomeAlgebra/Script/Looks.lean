import OutcomeAlgebra.Script.Callback
import OutcomeAlgebra.Script.Command
import OutcomeAlgebra.Script.Show
/-! Looking at a value where it is. Looking at a `Try` may evaluate it, which the
value then shows to whoever looks next; writing and showing never do. -/
namespace OutcomeAlgebra.Script

variable (setting : Setting) {β : Type}

def onTry (look : Borrow Names Json (Try Names Json Value) β) : Borrow Names Json Value β
  | .attempt held => Borrow.within .attempt id (look held)
  | other => pure (.error (.refused "not a Try"), other)

def Setting.writeAll (values : List Value) : Act Names Json (List Json) := values.mapM setting.write

def EitherLook.run (either : Either Value Value) : EitherLook → Act Names Json Json
  | .isLeft => pure (.bool either.isLeft)
  | .isRight => pure (.bool either.isRight)
  | .left => setting.write (Value.ofOption either.left?)
  | .right => setting.write (Value.ofOption either.right?)
  | .itself => setting.write (Value.ofEither either)
  | .items => Json.array <$> setting.writeAll either.toList

def TryLook.run : TryLook → Borrow Names Json (Try Names Json Value) Json
  | .isSuccess => do
    let answer ← Try.isSuccess
    pure (.bool answer)
  | .isFailure => do
    let answer ← Try.isFailure
    pure (.bool answer)
  | .isEvaluated => do
    let attempt ← Borrow.peek
    pure (.bool attempt.isEvaluated)
  | .result => do
    match ← Try.asResult with
    | .ok value => Json.tagged "ok" <$> Borrow.aside (setting.write value)
    | .error capture =>
      Json.tagged "no" <$> Borrow.aside (setting.write (.error capture))
  | .items => do
    let items ← Try.items
    Json.array <$> Borrow.aside (setting.writeAll items)

def ErrorKind.held (capture : Capture) : ErrorKind → Json
  | .coded =>
    match capture.coded? with
    | some (code, detail) => .array [.integer code, .text detail]
    | none => .null
  | .layered =>
    match capture.label? with
    | some label => .text label
    | none => .null
  | .integer =>
    match capture.integer? with
    | some fault => .text fault.message
    | none => .null
  | .captured => .null

def ErrorLook.run (capture : Capture) : ErrorLook → Json
  | .message => .text capture.message
  | .shown => .array [.text capture.message, .text capture.fault.shown.line]
  | .sources => .array (capture.sources.map .text)
  | .heldAs kind => kind.held capture

def Look.run : Look → Borrow Names Json Value Json
  | .written => do
    let value ← Borrow.peek
    Borrow.aside (setting.write value)
  | .shown spread => do
    let shown ← (Value.print : Borrow Names Json Value Shown)
    pure (.text (shown.write spread))
  | .either look => do
    let value ← Borrow.peek
    Borrow.aside do
      let either ← demand "an either" value.either?
      look.run setting either
  | .attempt look => onTry (look.run setting)
  | .error look => do
    let value ← Borrow.peek
    Borrow.aside do
      let capture ← demand "an error" value.error?
      pure (look.run capture)

end OutcomeAlgebra.Script
