import OutcomeAlgebra.Script.Value
/-! How many functions there are to follow. A function that a script writes down
takes nothing along from where it stands, so following one through what it gives
to that same function again would never end. A way that ends therefore meets each
written function once at most, and each layer of an operation once. Tests count
for nothing: they give no values. -/
namespace OutcomeAlgebra.Script

mutual

def Literal.functionCount : Literal → Nat
  | .list items => Literal.functionCountOfAll items
  | .pair first second => first.functionCount + second.functionCount
  | .present value => value.functionCount
  | .left value => value.functionCount
  | .right value => value.functionCount
  | .ok value => value.functionCount
  | .no value => value.functionCount
  | .success value => value.functionCount
  | .delayed job => job.functionCount
  | .done job => job.functionCount
  | .function _ body => body.functionCount + 1
  | _ => 0

def Literal.functionCountOfAll : List Literal → Nat
  | [] => 0
  | literal :: literals => literal.functionCount + Literal.functionCountOfAll literals

def Term.functionCount : Term → Nat
  | .constant value => value.functionCount
  | .sequence terms => Term.functionCountOfAll terms
  | .choose _ yes no => yes.functionCount + no.functionCount
  | _ => 0

def Term.functionCountOfAll : List Term → Nat
  | [] => 0
  | term :: terms => term.functionCount + Term.functionCountOfAll terms

def Job.functionCount : Job → Nat
  | .ok _ value => value.functionCount
  | _ => 0

end

def Operation.functionCount : Operation → Nat
  | .composition => 1
  | .optional inner => inner.functionCount
  | .pointwise inner => inner.functionCount + 1
  | .accumulate left right => left.functionCount + right.functionCount
  | .compose first second => first.functionCount + second.functionCount
  | .function body => body.functionCount
  | .identity inner empty => inner.functionCount + empty.functionCount
  | .reference inner => inner.functionCount
  | .bare inner => inner.functionCount
  | _ => 0

def Closure.functionCount : Closure → Nat
  | .named _ body => body.functionCount + 1
  | .pointwise inner _ first second =>
    inner.functionCount + 1 + first.functionCount + second.functionCount
  | .composed first second => first.functionCount + second.functionCount
  | .identity => 1
  | .constant inner _ => inner.functionCount + 1

end OutcomeAlgebra.Script
