import OutcomeAlgebra.Json.Tree
import OutcomeAlgebra.Script.Spec
import OutcomeAlgebra.Try.InPlace
/-! The values a script computes with: one type for all payloads, so that outcomes
of outcomes of any depth can be built. A function is held as what it was made
from; an operation in it comes with the place from which its identities are
kept. Functions on values go down their structure, through computations that
have not run yet as well: what such a computation will give is part of it. -/
namespace OutcomeAlgebra.Script

abbrev Names : Type := List (String × Capture)

inductive Closure where
  | named (name : String) (body : Term)
  | pointwise (inner : Operation) (place : Nat) (first second : Closure)
  | composed (first second : Closure)
  | identity
  | constant (inner : Operation) (place : Nat)

inductive Value where
  | unit
  | bool (value : Bool)
  | int (value : Int64)
  | big (value : Int)
  | double (value : Float)
  | text (value : String)
  | list (items : List Value)
  | pair (first second : Value)
  | key (number : Int64) (tag : String)
  | absent
  | present (value : Value)
  | left (value : Value)
  | right (value : Value)
  | ok (value : Value)
  | no (value : Value)
  | attempt (attempt : Try Names Json Value)
  | error (capture : Capture)
  | function (closure : Closure)

instance : Inhabited Value := ⟨.unit⟩

namespace Value

def ofOption : Option Value → Value
  | none => .absent
  | some value => .present value

def ofEither : Either Value Value → Value
  | .left value => .left value
  | .right value => .right value

def ofPair (pair : Value × Value) : Value := .pair pair.1 pair.2

def option? : Value → Option (Option Value)
  | .absent => some none
  | .present value => some (some value)
  | _ => none

def either? : Value → Option (Either Value Value)
  | .left value => some (.left value)
  | .right value => some (.right value)
  | _ => none

def attempt? : Value → Option (Try Names Json Value)
  | .attempt held => some held
  | _ => none

def error? : Value → Option Capture
  | .error capture => some capture
  | _ => none

def pair? : Value → Option (Value × Value)
  | .pair first second => some (first, second)
  | _ => none

def int? : Value → Option Int64
  | .int value => some value
  | _ => none

def big? : Value → Option Int
  | .big value => some value
  | _ => none

def double? : Value → Option Float
  | .double value => some value
  | _ => none

def bool? : Value → Option Bool
  | .bool value => some value
  | _ => none

def text? : Value → Option String
  | .text value => some value
  | _ => none

def unit? : Value → Option Unit
  | .unit => some ()
  | _ => none

def list? : Value → Option (List Value)
  | .list items => some items
  | _ => none

def function? : Value → Option Closure
  | .function closure => some closure
  | _ => none

theorem optionOfOption (value : Option Value) : (ofOption value).option? = some value := by
  cases value <;> rfl

theorem eitherOfEither (value : Either Value Value) : (ofEither value).either? = some value := by
  cases value <;> rfl

def plainText? : Value → Option String
  | .unit => some "()"
  | .bool true => some "true"
  | .bool false => some "false"
  | .int value => some (toString value.toInt)
  | .big value => some (toString value)
  | .text value => some value
  | .error capture => some capture.message
  | _ => none

end Value

def demand {α : Type} (shape : String) (seen : Option α) : Act Names Json α :=
  match seen with
  | some value => pure value
  | none => Act.stop (.refused ("not " ++ shape))

end OutcomeAlgebra.Script
