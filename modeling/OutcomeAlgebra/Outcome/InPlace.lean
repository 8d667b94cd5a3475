import OutcomeAlgebra.Act.Borrow
import OutcomeAlgebra.Either.Basic
/-! Copying and comparing optional values, eithers and lists that stay where they are. Only
payloads that are there are looked at, and each is put back in the state that the look leaves
it in. Lists of two lengths differ before an item is looked at, others at the first item. -/
namespace OutcomeAlgebra

variable {κ ν α L R : Type}

def Optional.copy (payload : Borrow κ ν α α) : Borrow κ ν (Option α) (Option α)
  | none => pure (.ok none, none)
  | some value => Borrow.within some some (payload value)

def Either.copy (left : Borrow κ ν L L) (right : Borrow κ ν R R) :
    Borrow κ ν (Either L R) (Either L R)
  | .left value => Borrow.within .left .left (left value)
  | .right value => Borrow.within .right .right (right value)

def Items.copy (payload : Borrow κ ν α α) : List α → Act κ ν (Except Panic (List α) × List α)
  | [] => pure (.ok [], [])
  | value :: values => Borrow.both List.cons List.cons (payload value) values (copy payload values)

section Comparing

variable (payload : α → α → Act κ ν (Except Panic Bool × α × α))

def Optional.equal : (left right : Option α) → Act κ ν (Except Panic Bool × Option α × Option α)
  | some a, some b => do
    let (answer, a, b) ← payload a b
    pure (answer, some a, some b)
  | none, none => pure (.ok true, none, none)
  | a, b => pure (.ok false, a, b)

def Either.equal (left : L → L → Act κ ν (Except Panic Bool × L × L))
    (right : R → R → Act κ ν (Except Panic Bool × R × R)) :
    Either L R → Either L R → Act κ ν (Except Panic Bool × Either L R × Either L R)
  | .left a, .left b => do
    let (answer, a, b) ← left a b
    pure (answer, .left a, .left b)
  | .right a, .right b => do
    let (answer, a, b) ← right a b
    pure (answer, .right a, .right b)
  | a, b => pure (.ok false, a, b)

def Items.compare : (left right : List α) → Act κ ν (Except Panic Bool × List α × List α)
  | a :: as, b :: bs => do
    match ← payload a b with
    | (.ok true, a, b) => do
      let (answer, as, bs) ← compare as bs
      pure (answer, a :: as, b :: bs)
    | (answer, a, b) => pure (answer, a :: as, b :: bs)
  | as, bs => pure (.ok true, as, bs)

def Items.equal (left right : List α) : Act κ ν (Except Panic Bool × List α × List α) :=
  if left.length = right.length then compare payload left right else pure (.ok false, left, right)

end Comparing

section ComparingSelf

def Optional.equalSelf (payload : Borrow κ ν α Bool) : Borrow κ ν (Option α) Bool
  | none => pure (.ok true, none)
  | some value => Borrow.within some id (payload value)

def Either.equalSelf (left : Borrow κ ν L Bool) (right : Borrow κ ν R Bool) :
    Borrow κ ν (Either L R) Bool
  | .left value => Borrow.within .left id (left value)
  | .right value => Borrow.within .right id (right value)

def Items.equalSelf (payload : Borrow κ ν α Bool) : List α → Act κ ν (Except Panic Bool × List α)
  | [] => pure (.ok true, [])
  | value :: values => do
    match ← payload value with
    | (.ok true, value) => Borrow.within (value :: ·) id (equalSelf payload values)
    | (answer, value) => pure (answer, value :: values)

end ComparingSelf

end OutcomeAlgebra
