import OutcomeAlgebra.Either.Order
import OutcomeAlgebra.Script.Value
/-! The order of values. Values of different kinds are ordered by kind; inside a
kind the order is the usual one, of doubles the partial one of numbers. A key
counts by its number alone. Nothing is evaluated. -/
namespace OutcomeAlgebra.Script.Value

def rank : Value → Nat
  | .unit => 0
  | .bool _ => 1
  | .int _ => 2
  | .big _ => 3
  | .double _ => 4
  | .text _ => 5
  | .list _ => 6
  | .pair _ _ => 7
  | .key _ _ => 8
  | .absent | .present _ => 9
  | .left _ | .right _ => 10
  | .ok _ | .no _ => 11
  | .attempt _ => 12
  | .error _ => 13
  | .function _ => 14

def compareDoubles (a b : Float) : Option Ordering :=
  if a < b then some .lt else if a == b then some .eq else if b < a then some .gt else none

def thenBy (first second : Option Ordering) : Option Ordering :=
  match first with
  | some .eq => second
  | decided => decided

mutual

def compare? (left right : Value) : Option Ordering :=
  let byRank := some (compare left.rank right.rank)
  match left with
  | .bool a => match right with | .bool b => some (compare a b) | _ => byRank
  | .int a => match right with | .int b => some (compare a.toInt b.toInt) | _ => byRank
  | .big a => match right with | .big b => some (compare a b) | _ => byRank
  | .double a => match right with | .double b => compareDoubles a b | _ => byRank
  | .text a => match right with | .text b => some (compare a b) | _ => byRank
  | .key a _ => match right with | .key b _ => some (compare a.toInt b.toInt) | _ => byRank
  | .list as => match right with | .list bs => compareItems as bs | _ => byRank
  | .pair a b =>
    match right with
    | .pair c d => thenBy (compare? a c) (compare? b d)
    | _ => byRank
  | .absent => match right with | .present _ => some .lt | _ => byRank
  | .present a =>
    match right with
    | .present b => compare? a b
    | .absent => some .gt
    | _ => byRank
  | .left a =>
    match right with
    | .left b => compare? a b
    | .right _ => some .lt
    | _ => byRank
  | .right a =>
    match right with
    | .right b => compare? a b
    | .left _ => some .gt
    | _ => byRank
  | .ok a =>
    match right with
    | .ok b => compare? a b
    | .no _ => some .lt
    | _ => byRank
  | .no a =>
    match right with
    | .no b => compare? a b
    | .ok _ => some .gt
    | _ => byRank
  | .unit | .attempt _ | .error _ | .function _ => byRank
termination_by structural left

def compareItems (left right : List Value) : Option Ordering :=
  match left, right with
  | [], [] => some .eq
  | [], _ :: _ => some .lt
  | _ :: _, [] => some .gt
  | a :: as, b :: bs => thenBy (compare? a b) (compareItems as bs)
termination_by structural left

end

def isBelow (left right : Value) : Bool := left.compare? right == some .lt

theorem compareEithers (left right : Either Value Value) :
    (ofEither left).compare? (ofEither right) = Either.compare? compare? compare? left right := by
  cases left <;> cases right <;> simp [ofEither, compare?, Either.compare?]

end OutcomeAlgebra.Script.Value
