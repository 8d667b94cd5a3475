import OutcomeAlgebra.Act.Basic
import OutcomeAlgebra.Shown.Quoted
import OutcomeAlgebra.Shown.Tree
/-! Errors, and the handles that hold them. Capturing an error gives it a fresh
handle; capturing what is captured already gives back the handle it has. A
handle holds an error and never another handle, by its type. Two handles are
equal when they come from one capture, whatever their messages say. -/
namespace OutcomeAlgebra

inductive IntegerFault where
  | empty
  | invalidDigit
  | tooLarge
  | tooSmall
  deriving DecidableEq, Repr

def IntegerFault.message : IntegerFault → String
  | .empty => "cannot parse integer from empty string"
  | .invalidDigit => "invalid digit found in string"
  | .tooLarge => "number too large to fit in target type"
  | .tooSmall => "number too small to fit in target type"

def IntegerFault.kind : IntegerFault → String
  | .empty => "Empty"
  | .invalidDigit => "InvalidDigit"
  | .tooLarge => "PosOverflow"
  | .tooSmall => "NegOverflow"

/-- An error on its way: a plain one, or one that a handle holds already. -/
inductive Raised (φ : Type) where
  | plain (fault : φ)
  | captured (handle : Nat) (fault : φ)

def Raised.fault {φ : Type} : Raised φ → φ
  | .plain fault => fault
  | .captured _ fault => fault

inductive Fault where
  | text (message : String)
  | coded (code : Int) (detail : String)
  | layered (label : String) (source : Raised Fault)
  | integer (fault : IntegerFault)

namespace Fault

def message : Fault → String
  | .text message => message
  | .coded code detail => "code " ++ toString code ++ ": " ++ detail
  | .layered label _ => label
  | .integer fault => fault.message

def sources : Fault → List String
  | .layered _ (.plain source) => source.message :: source.sources
  | .layered _ (.captured _ source) => source.message :: source.sources
  | _ => []

def shown : Fault → Shown
  | .text message => .atom (Quoted.quote message)
  | .coded code detail =>
    .record "CodeError" [("code", .atom (toString code)), ("text", .atom (Quoted.quote detail))]
  | .layered label (.plain source) =>
    .record "Outer" [("label", .atom (Quoted.quote label)), ("cause", source.shown)]
  | .layered label (.captured _ source) =>
    .record "Outer"
      [("label", .atom (Quoted.quote label)), ("cause", .apply "TryError" [source.shown])]
  | .integer fault => .record "ParseIntError" [("kind", .atom fault.kind)]

end Fault

structure Capture where
  handle : Nat
  fault : Fault

namespace Capture

variable {κ ν : Type}

def new : Raised Fault → Act κ ν Capture
  | .captured handle fault => pure ⟨handle, fault⟩
  | .plain fault => do
    let handle ← Act.fresh
    pure ⟨handle, fault⟩

def ofMessage (message : String) : Act κ ν Capture := new (.plain (.text message))

def raise (capture : Capture) : Raised Fault := .captured capture.handle capture.fault

theorem newRaise (capture : Capture) : (new capture.raise : Act κ ν Capture) = pure capture := rfl

def same (left right : Capture) : Bool := left.handle == right.handle

def message (capture : Capture) : String := capture.fault.message

def sources (capture : Capture) : List String := capture.fault.sources

def shown (capture : Capture) : Shown := .apply "TryError" [capture.fault.shown]

def coded? (capture : Capture) : Option (Int × String) :=
  match capture.fault with
  | .coded code detail => some (code, detail)
  | _ => none

def label? (capture : Capture) : Option String :=
  match capture.fault with
  | .layered label _ => some label
  | _ => none

def integer? (capture : Capture) : Option IntegerFault :=
  match capture.fault with
  | .integer fault => some fault
  | _ => none

end Capture

end OutcomeAlgebra
