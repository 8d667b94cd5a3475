import OutcomeAlgebra.Failure.Capture
/-! Reading an integer of 32 bits: an optional sign, then ASCII digits. The
first digit that is wrong or leads out of range decides the fault. -/
namespace OutcomeAlgebra.Integer

def digit? (c : Char) : Option Nat :=
  if '0' ≤ c ∧ c ≤ '9' then some (c.toNat - '0'.toNat) else none

def fits (value : Int) : Bool := -2147483648 ≤ value && value ≤ 2147483647

def readDigits (sign : Int) (outside : IntegerFault) (value : Int) :
    List Char → Except IntegerFault Int
  | [] => .ok value
  | c :: rest =>
    match digit? c with
    | none => .error .invalidDigit
    | some digit =>
      let next := value * 10 + sign * digit
      if fits next then readDigits sign outside next rest else .error outside

def read (text : String) : Except IntegerFault Int :=
  match text.toList with
  | [] => .error .empty
  | ['+'] | ['-'] => .error .invalidDigit
  | '+' :: rest => readDigits 1 .tooLarge 0 rest
  | '-' :: rest => readDigits (-1) .tooSmall 0 rest
  | digits => readDigits 1 .tooLarge 0 digits

end OutcomeAlgebra.Integer
