import OutcomeAlgebra.Failure.Integer
import OutcomeAlgebra.Script.Copy
import OutcomeAlgebra.Script.Equal
/-! What the parts of a script mean. A literal is built anew each time it is met, so
its errors get handles of their own. A term takes its arguments over; a test
borrows them and hands them back. Integers wrap around at 64 bits. An error is
looked up by its name when it is raised, not when the computation that raises
it was made. -/
namespace OutcomeAlgebra.Script

inductive Verdict where
  | good (value : Value)
  | bad (value : Value)
  | whole (outcome : Value)

def raiseValue (value : Value) : Act Names Json (Raised Fault) :=
  match value with
  | .error capture => pure capture.raise
  | other => do
    let message ← demand "a text" other.plainText?
    pure (.plain (.text message))

def noteJob (name : String) : Act Names Json Unit := Act.note (.array [.text "comp", .text name])

def noteJob? : Option String → Act Names Json Unit
  | none => pure ()
  | some name => noteJob name

def argumentAt (arguments : List Value) (index : Nat) : Act Names Json Value :=
  demand "an argument" arguments[index]?

def intArgument (arguments : List Value) (index : Nat) : Act Names Json Int64 := do
  let value ← argumentAt arguments index
  demand "an integer" value.int?

def intArguments (arguments : List Value) : Act Names Json (List Int64) :=
  arguments.mapM fun value => demand "an integer" value.int?

def textArgument (arguments : List Value) (index : Nat) : Act Names Json String := do
  let value ← argumentAt arguments index
  demand "a string" value.text?

def plainTexts (arguments : List Value) : Act Names Json (List String) :=
  arguments.mapM fun value => demand "a text" value.plainText?

/-- The last value before the remainder is zero; remainders have the sign of the
dividend. -/
def divisor (a b : Int) : Int :=
  if _h : b = 0 then a else divisor b (Int.tmod a b)
termination_by b.natAbs
decreasing_by
  rw [Int.natAbs_tmod]
  exact Nat.mod_lt _ (Int.natAbs_pos.mpr _h)

def integer (value : Int) : Value := .int (Int64.ofInt value)

def boundedInteger (value : Int) : Verdict :=
  if Integer.fits value then .good (integer value) else .bad (.text "overflow")

def half (value : Int64) : Verdict :=
  if value % 2 = 0 then .good (.int (value / 2))
  else .bad (.text (toString value.toInt ++ " is odd"))

def readInteger (text : String) : Verdict :=
  match Integer.read text with
  | .ok value => .good (integer value)
  | .error fault => .bad (.text fault.message)

def lengthOf? : Value → Option Nat
  | .text value => some value.utf8ByteSize
  | .list items => some items.length
  | _ => none

def Term.flat (term : Term) (arguments : List Value) : Act Names Json Value := do
  match term with
  | .argument index => argumentAt arguments index
  | .add summand => return .int ((← intArgument arguments 0) + summand)
  | .mul factor => return .int ((← intArgument arguments 0) * factor)
  | .square =>
    let value ← intArgument arguments 0
    return .int (value * value)
  | .sum => return .int ((← intArguments arguments).foldl (· + ·) 0)
  | .product => return .int ((← intArguments arguments).foldl (· * ·) 1)
  | .sub =>
    let a ← intArgument arguments 0
    let b ← intArgument arguments 1
    return .int (a - b)
  | .gcd =>
    let a ← intArgument arguments 0
    let b ← intArgument arguments 1
    return integer (divisor a.toInt b.toInt)
  | .longest =>
    let a ← textArgument arguments 0
    let b ← textArgument arguments 1
    return .text (if b.utf8ByteSize > a.utf8ByteSize then b else a)
  | .list => return .list arguments
  | .concat => return .text (String.join (← plainTexts arguments))
  | .paren => return .text ("(" ++ String.intercalate " " (← plainTexts arguments) ++ ")")
  | .suffix text =>
    let value ← argumentAt arguments 0
    return .text (text ++ (← demand "a text" value.plainText?))
  | .length =>
    let value ← argumentAt arguments 0
    return integer (← demand "a string or a list" (lengthOf? value))
  | .upper => return .text (← textArgument arguments 0).toUpper
  | .reverse => return .text (String.ofList (← textArgument arguments 0).toList.reverse)
  | .pair => return .pair (← argumentAt arguments 0) (← argumentAt arguments 1)
  | .first =>
    let value ← argumentAt arguments 0
    return (← demand "a pair" value.pair?).1
  | .second =>
    let value ← argumentAt arguments 0
    return (← demand "a pair" value.pair?).2
  | .present => return .present (← argumentAt arguments 0)
  | .left => return .left (← argumentAt arguments 0)
  | .right => return .right (← argumentAt arguments 0)
  | .panic message => Act.stop (.raised message)
  | _ => argumentAt arguments 0

def Verdict.settle : Verdict → Act Names Json (Except (Raised Fault) Value)
  | .good value => pure (.ok value)
  | .bad value => do
    let raised ← raiseValue value
    pure (.error raised)
  | .whole outcome => do
    let attempt ← demand "a Try" outcome.attempt?
    match ← attempt.intoResult with
    | .ok value => pure (.ok value)
    | .error capture => pure (.error capture.raise)

mutual

def Literal.build : Literal → Act Names Json Value
  | .unit => pure .unit
  | .bool value => pure (.bool value)
  | .int value => pure (.int value)
  | .big value => pure (.big value)
  | .double value => pure (.double value)
  | .text value => pure (.text value)
  | .list items => do return .list (← Literal.buildList items)
  | .pair first second => do
    let first ← first.build
    let second ← second.build
    return .pair first second
  | .key number tag => pure (.key number tag)
  | .absent => pure .absent
  | .present value => do return .present (← value.build)
  | .left value => do return .left (← value.build)
  | .right value => do return .right (← value.build)
  | .ok value => do return .ok (← value.build)
  | .no value => do return .no (← value.build)
  | .error problem => do
    let raised ← problem.raise none
    return .error (← Capture.new raised)
  | .success value => do return .attempt (.success (← value.build))
  | .failure problem => do
    let raised ← problem.raise none
    return .attempt (← Try.fail raised)
  | .delayed job => pure (.attempt (.delayed job.run))
  | .done job => do return .attempt (← Try.of job.run)
  | .function name body => pure (.function (.named name body))

def Literal.buildList : List Literal → Act Names Json (List Value)
  | [] => pure []
  | literal :: literals => do
    let value ← literal.build
    let values ← Literal.buildList literals
    return value :: values

def Term.eval (term : Term) (arguments : List Value) : Act Names Json Value :=
  match term with
  | .constant value => value.build
  | .sequence terms => Term.evalSequence terms arguments
  | .choose test yes no => do
    let (answer, arguments) ← test.eval arguments
    if answer then yes.eval arguments else no.eval arguments
  | flat => flat.flat arguments

def Term.evalSequence (terms : List Term) (arguments : List Value) :
    Act Names Json Value :=
  match terms with
  | [] => argumentAt arguments 0
  | [term] => term.eval arguments
  | term :: terms => do
    let value ← term.eval arguments
    Term.evalSequence terms [value]

def Test.eval (test : Test) (arguments : List Value) :
    Act Names Json (Bool × List Value) :=
  match test with
  | .always answer => pure (answer, arguments)
  | .even => do
    let value ← intArgument arguments 0
    return (value % 2 = 0, arguments)
  | .moreThan bound => do
    let value ← intArgument arguments 0
    return (bound < value, arguments)
  | .lessThan bound => do
    let value ← intArgument arguments 0
    return (value < bound, arguments)
  | .equal literal => do
    let value ← argumentAt arguments 0
    let other ← literal.build
    let (answer, value, _) ← value.equal other
    return (← Act.resume answer, value :: arguments.drop 1)
  | .negate test => do
    let (answer, arguments) ← test.eval arguments
    return (!answer, arguments)
  | .on term test => do
    let (copies, arguments) ← Borrow.keep Value.copyList arguments
    let value ← term.eval copies
    let (answer, _) ← test.eval [value]
    return (answer, arguments)
  | .panic message => Act.stop (.raised message)

def Arrow.eval (arrow : Arrow) (arguments : List Value) : Act Names Json Verdict :=
  match arrow with
  | .pure term => do return .good (← term.eval arguments)
  | .fail term => do return .bad (← term.eval arguments)
  | .half => do return Script.half (← intArgument arguments 0)
  | .shift summand => do
    let value ← intArgument arguments 0
    return boundedInteger (value.toInt32.toInt + summand.toInt)
  | .reciprocal numerator => do
    let value ← intArgument arguments 0
    if value = 0 then return .bad (.text "zero") else return .good (.int (numerator / value))
  | .parse => do return readInteger (← textArgument arguments 0)
  | .choose test yes no => do
    let (answer, arguments) ← test.eval arguments
    if answer then yes.eval arguments else no.eval arguments
  | .own term => do return .whole (← term.eval arguments)
  | .done job => do return .whole (.attempt (← Try.of job.run))
  | .delayed name arrow => pure (.whole (.attempt (.delayed do
      noteJob name
      let verdict ← arrow.eval arguments
      verdict.settle)))
  | .panic message => Act.stop (.raised message)

def Job.run : Job → Act Names Json (Except (Raised Fault) Value)
  | .ok name value => do
    noteJob? name
    return .ok (← value.build)
  | .error name problem => do
    noteJob? name
    return .error (← problem.raise none)
  | .parse name text => do
    noteJob? name
    match Integer.read text with
    | .ok value => return .ok (integer value)
    | .error fault => return .error (.plain (.integer fault))
  | .panic name message => do
    noteJob? name
    Act.stop (.raised message)

def Problem.raise (atHand : Option Capture) : Problem → Act Names Json (Raised Fault)
  | .text message => pure (.plain (.text message))
  | .message message => do return (← Capture.ofMessage message).raise
  | .coded code detail => pure (.plain (.coded code.toInt detail))
  | .layered label source => do return .plain (.layered label (← source.raise atHand))
  | .captured problem => do
    let raised ← problem.raise atHand
    return (← Capture.new raised).raise
  | .stored name => do
    let names ← Act.context
    return (← demand "a stored error" (names.lookup name)).raise
  | .current => do return (← demand "an error at hand" atHand).raise
  | .wrapped text => do
    let capture ← demand "an error at hand" atHand
    return .plain (.text (text ++ capture.message))

end

end OutcomeAlgebra.Script
