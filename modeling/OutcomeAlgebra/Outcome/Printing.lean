import OutcomeAlgebra.Act.Borrow
import OutcomeAlgebra.Either.Basic
import OutcomeAlgebra.Shown.Tree
/-! Printing optional values, eithers, lists and pairs that stay where they are. Payloads are
printed in their order, and each is put back in the state that printing leaves it in. -/
namespace OutcomeAlgebra

variable {κ ν α β L R : Type}

def Optional.print (payload : Borrow κ ν α Shown) : Borrow κ ν (Option α) Shown
  | none => pure (.ok (.atom "None"), none)
  | some value => Borrow.within some (fun shown => .apply "Some" [shown]) (payload value)

def Either.print (left : Borrow κ ν L Shown) (right : Borrow κ ν R Shown) :
    Borrow κ ν (Either L R) Shown
  | .left value => Borrow.within .left (fun shown => .apply "Left" [shown]) (left value)
  | .right value => Borrow.within .right (fun shown => .apply "Right" [shown]) (right value)

def Items.printEach (payload : Borrow κ ν α Shown) :
    List α → Act κ ν (Except Panic (List Shown) × List α)
  | [] => pure (.ok [], [])
  | value :: values =>
    Borrow.both List.cons List.cons (payload value) values (printEach payload values)

def Items.print (payload : Borrow κ ν α Shown) : Borrow κ ν (List α) Shown :=
  fun items => Borrow.within id .list (printEach payload items)

def Pair.print (first : Borrow κ ν α Shown) (second : Borrow κ ν β Shown) :
    Borrow κ ν (α × β) Shown
  | (a, b) =>
    Borrow.both Prod.mk (fun shown other => .apply "" [shown, other]) (first a) b (second b)

end OutcomeAlgebra
