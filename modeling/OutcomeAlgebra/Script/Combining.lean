import OutcomeAlgebra.Algebra.Accumulate
import OutcomeAlgebra.Algebra.Function
import OutcomeAlgebra.Algebra.Scalar
import OutcomeAlgebra.Script.FunctionCount
import OutcomeAlgebra.Script.Meaning
import OutcomeAlgebra.Script.Order
import OutcomeAlgebra.Script.Written
/-! The combining operations of scripts, each the operation of its own carrier
brought over to values, and the application of functions. An identity that an
operation was given is kept in its place and copied whenever it is wanted, so
lazy parts of it are evaluated once. A function is written by applying it to
given inputs, so writing one runs it. -/
namespace OutcomeAlgebra.Script

abbrev Keeping : Type → Type := Borrow Names Json (List Value)

def logCall {m : Type → Type} [Monad m] [MonadLiftT (Act Names Json) m]
    (write : Value → m Json) (role : String) (arguments : List Value) : m Unit := do
  let parts ← arguments.mapM write
  liftM (Act.note (.array (.text role :: parts)) : Act Names Json Unit)

def copying : Copying Keeping Value := fun value => Borrow.keep Value.copy value

def identityAt (place : Nat) : Keeping Value := fun kept =>
  match kept[place]? with
  | none => pure (.error (.refused "no identity"), kept)
  | some value => Borrow.within (kept.set place) id value.copy

namespace Word

def number (word : Word) (bits : BitVec word.bits) : Int :=
  if word.signed then bits.toInt else bits.toNat

def seen (word : Word) (value : Value) : Option (BitVec word.bits) := do
  let number ← if word.wide then value.big? else Int64.toInt <$> value.int?
  let bits := BitVec.ofInt word.bits number
  if word.number bits = number then some bits else none

def value (word : Word) (bits : BitVec word.bits) : Value :=
  if word.wide then .big (word.number bits) else integer (word.number bits)

end Word

namespace Operation

def carry {α : Type} (shape : String) (seen : Value → Option α) (value : α → Value)
    (monoid : MonoidOp Keeping α) : MonoidOp Keeping Value where
  append a b := do
    let a ← demand shape (seen a)
    let b ← demand shape (seen b)
    value <$> monoid.append a b
  empty := value <$> monoid.empty
  join values := do
    let parts ← values.mapM fun part => demand shape (seen part)
    value <$> monoid.join parts

def withoutIdentity (op : SemigroupOp Keeping Value) : MonoidOp Keeping Value :=
  .of op (Borrow.stop (.refused "no identity"))

def combineFunctions (combine : Closure → Closure → Closure) : SemigroupOp Keeping Value where
  append a b := do
    let f ← demand "a function" a.function?
    let g ← demand "a function" b.function?
    pure (.function (combine f g))

def identities : Operation → List Literal
  | .optional inner => inner.identities
  | .pointwise inner => inner.identities
  | .accumulate left right => left.identities ++ right.identities
  | .compose first second => first.identities ++ second.identities
  | .identity inner empty => inner.identities ++ [empty]
  | .reference inner => inner.identities
  | .bare inner => inner.identities
  | _ => []

def monoid (write : Value → Keeping Json) (place : Nat) : Operation → MonoidOp Keeping Value
  | .wordSum word => carry "an integer of this width" word.seen word.value (.wordSum word.bits)
  | .wordProduct word =>
    carry "an integer of this width" word.seen word.value (.wordProduct word.bits)
  | .doubleSum => carry "a double" Value.double? .double .doubleSum
  | .doubleProduct => carry "a double" Value.double? .double .doubleProduct
  | .bigSum => carry "a big integer" Value.big? .big .integerSum
  | .bigProduct => carry "a big integer" Value.big? .big .integerProduct
  | .all => carry "a truth value" Value.bool? .bool .all
  | .any => carry "a truth value" Value.bool? .bool .any
  | .odd => carry "a truth value" Value.bool? .bool .odd
  | .text => carry "a string" Value.text? .text .string
  | .unit => carry "unit" Value.unit? (fun _ => .unit) .unit
  | .list => carry "a list" Value.list? .list .list
  | .firstSome => carry "an option" Value.option? Value.ofOption .firstSome
  | .lastSome => carry "an option" Value.option? Value.ofOption .lastSome
  | .composition => .of (combineFunctions .composed) (pure (.function .identity))
  | .greatest => withoutIdentity (.greatest Value.isBelow)
  | .least => withoutIdentity (.least Value.isBelow)
  | .optional inner =>
    carry "an option" Value.option? Value.ofOption
      (.optional (inner.monoid write place).toSemigroupOp)
  | .pointwise inner =>
    .of (combineFunctions (.pointwise inner place)) (pure (.function (.constant inner place)))
  | .accumulate left right =>
    carry "an either" Value.either? Value.ofEither
      (.accumulate (left.monoid write place).toSemigroupOp
        (right.monoid write (place + left.identities.length)))
  | .compose first second =>
    carry "a pair" Value.pair? Value.ofPair
      ((first.monoid write place).compose (second.monoid write (place + first.identities.length)))
  | .function body =>
    withoutIdentity ⟨fun a b => do
      logCall write "append" [a, b]
      body.eval [a, b]⟩
  | .identity inner _ =>
    .of (inner.monoid write place).toSemigroupOp (identityAt (place + inner.identities.length))
  | .reference inner => (inner.monoid write place).byReference
  | .bare inner => withoutIdentity (inner.monoid write place).toSemigroupOp

end Operation

def Closure.apply (write : Value → Keeping Json) : Closure → Value → Keeping Value
  | .named name body, x => do
    logCall write name [x]
    body.eval [x]
  | .pointwise inner place first second, x => do
    let both := SemigroupOp.pointwise copying (inner.monoid write place).toSemigroupOp
    let combined ← both.append (first.apply write) (second.apply write)
    combined x
  | .composed first second, x => do
    let combined ← SemigroupOp.composition.append (first.apply write) (second.apply write)
    combined x
  | .identity, x => pure x
  | .constant inner place, _ => (inner.monoid write place).empty

/-- Writes a function by its results on the inputs, and functions among these in
the same way, down to a depth. -/
def writeResults (inputs : List Literal) : (depth : Nat) → Closure → Keeping Json
  | 0, _ => pure (.tagged "applied" (.array []))
  | depth + 1, closure => do
    let write := Value.written (writeResults inputs depth)
    let results ← inputs.mapM fun input => do
      let x ← input.build
      let y ← closure.apply write x
      write y
    pure (.tagged "applied" (.array results))

def write (inputs : List Literal) : Value → Keeping Json :=
  Value.written fun closure =>
    writeResults inputs (closure.functionCount + Literal.functionCountOfAll inputs) closure

end OutcomeAlgebra.Script
