/-! The error of asking an unsuccessful outcome for its value. -/
namespace OutcomeAlgebra

inductive EmptyValue where
  | none
  | left
  | failure
  deriving DecidableEq, Repr

namespace EmptyValue

def typeName : EmptyValue → String
  | .none => "Option"
  | .left => "Either"
  | .failure => "Try"

def variant : EmptyValue → String
  | .none => "None"
  | .left => "Left"
  | .failure => "Failure"

def message (empty : EmptyValue) : String :=
  empty.typeName ++ "::get called on " ++ empty.variant

end EmptyValue

end OutcomeAlgebra
