import OutcomeAlgebra.Outcome.Printing
import OutcomeAlgebra.Script.Value
/-! How values are shown, and how they are printed where they are. Neither runs anything: a
computation that has not run yet, or that panicked, is shown as pending. -/
namespace OutcomeAlgebra.Script.Value

open Borrow (within both withinOk bothOk)

mutual

def shown : Value → Shown
  | .unit => .atom "()"
  | .bool true => .atom "true"
  | .bool false => .atom "false"
  | .int value => .atom (toString value.toInt)
  | .big value => .atom (toString value)
  | .double value => .atom (toString value)
  | .text value => .atom (Quoted.quote value)
  | .list items => .list (shownItems items)
  | .pair first second => .apply "" [shown first, shown second]
  | .key number tag => .apply "Key" [.atom (toString number.toInt), .atom (Quoted.quote tag)]
  | .absent => .atom "None"
  | .present value => .apply "Some" [shown value]
  | .left value => .apply "Left" [shown value]
  | .right value => .apply "Right" [shown value]
  | .ok value => .apply "Ok" [shown value]
  | .no value => .apply "Err" [shown value]
  | .attempt held => shownTry held
  | .error capture => capture.shown
  | .function _ => .atom "<function>"
termination_by structural value => value

def shownItems : List Value → List Shown
  | [] => []
  | value :: values => shown value :: shownItems values
termination_by structural values => values

def shownTry : Try Names Json Value → Shown
  | .success value => .apply "Success" [shown value]
  | .failure capture => .apply "Failure" [capture.shown]
  | .deferred cell => shownCell cell
termination_by structural held => held

def shownCell : Cell Names Json Value → Shown
  | .ready outcome => shownOutcome outcome
  | .pending _ => .atom "Delayed(<pending>)"
  | .poisoned => .atom "Delayed(<pending>)"
termination_by structural cell => cell

def shownOutcome : Except Capture Value → Shown
  | .ok value => .apply "Success" [shown value]
  | .error capture => .apply "Failure" [capture.shown]
termination_by structural outcome => outcome

end

theorem shownTryShows (attempt : Try Names Json Value) :
    shownTry attempt = Try.shown shown attempt := by
  cases attempt with
  | success value => rfl
  | failure capture => rfl
  | deferred cell =>
    cases cell with
    | pending run => rfl
    | poisoned => rfl
    | ready outcome => cases outcome <;> rfl

mutual

def print : Value → Act Names Json (Except Panic Shown × Value)
  | .list items => within .list .list (printItems items)
  | .pair first second =>
    both .pair (fun shown other => .apply "" [shown, other]) (print first) second (print second)
  | .present value => within .present (fun shown => .apply "Some" [shown]) (print value)
  | .left value => within .left (fun shown => .apply "Left" [shown]) (print value)
  | .right value => within .right (fun shown => .apply "Right" [shown]) (print value)
  | .ok value => within .ok (fun shown => .apply "Ok" [shown]) (print value)
  | .no value => within .no (fun shown => .apply "Err" [shown]) (print value)
  | .attempt held => within .attempt id (printTry held)
  | value => pure (.ok value.shown, value)
termination_by structural value => value

def printItems : List Value → Act Names Json (Except Panic (List Shown) × List Value)
  | [] => pure (.ok [], [])
  | value :: values => both List.cons List.cons (print value) values (printItems values)
termination_by structural values => values

def printTry : Try Names Json Value → Act Names Json (Except Panic Shown × Try Names Json Value)
  | .success value => within .success (fun shown => .apply "Success" [shown]) (print value)
  | .failure capture => pure (.ok (.apply "Failure" [capture.shown]), .failure capture)
  | .deferred cell => within .deferred id (printCell cell)
termination_by structural held => held

def printCell : Cell Names Json Value → Act Names Json (Except Panic Shown × Cell Names Json Value)
  | .ready outcome => within .ready id (printOutcome outcome)
  | .pending run => pure (.ok (.atom "Delayed(<pending>)"), .pending run)
  | .poisoned => pure (.ok (.atom "Delayed(<pending>)"), .poisoned)
termination_by structural cell => cell

def printOutcome : Except Capture Value →
    Act Names Json (Except Panic Shown × Except Capture Value)
  | .ok value => within .ok (fun shown => .apply "Success" [shown]) (print value)
  | .error capture => pure (.ok (.apply "Failure" [capture.shown]), .error capture)
termination_by structural outcome => outcome

end

mutual

theorem printShows : (value : Value) → print value = pure (.ok value.shown, value)
  | .list items => withinOk (printItemsShows items) Value.list Shown.list
  | .pair first second => bothOk (printShows first) (printShows second) Value.pair _ second
  | .present value => withinOk (printShows value) Value.present _
  | .left value => withinOk (printShows value) Value.left _
  | .right value => withinOk (printShows value) Value.right _
  | .ok value => withinOk (printShows value) Value.ok _
  | .no value => withinOk (printShows value) Value.no _
  | .attempt held => withinOk (printTryShows held) Value.attempt id
  | .unit | .bool _ | .int _ | .big _ | .double _ | .text _ | .key _ _ | .absent | .error _
  | .function _ => rfl
termination_by structural value => value

theorem printItemsShows :
    (values : List Value) → printItems values = pure (.ok (shownItems values), values)
  | [] => rfl
  | value :: values => bothOk (printShows value) (printItemsShows values) List.cons List.cons values
termination_by structural values => values

theorem printTryShows :
    (held : Try Names Json Value) → printTry held = pure (.ok (shownTry held), held)
  | .success value => withinOk (printShows value) Try.success _
  | .failure _ => rfl
  | .deferred cell => withinOk (printCellShows cell) Try.deferred id
termination_by structural held => held

theorem printCellShows :
    (cell : Cell Names Json Value) → printCell cell = pure (.ok (shownCell cell), cell)
  | .ready outcome => withinOk (printOutcomeShows outcome) Cell.ready id
  | .pending _ => rfl
  | .poisoned => rfl
termination_by structural cell => cell

theorem printOutcomeShows : (outcome : Except Capture Value) →
    printOutcome outcome = pure (.ok (shownOutcome outcome), outcome)
  | .ok value => withinOk (printShows value) Except.ok _
  | .error _ => rfl
termination_by structural outcome => outcome

end

theorem printTryPrints (attempt : Try Names Json Value) :
    printTry attempt = Try.print print attempt := by
  cases attempt with
  | success value => rfl
  | failure capture => rfl
  | deferred cell =>
    cases cell with
    | pending run => rfl
    | poisoned => rfl
    | ready outcome =>
      cases outcome with
      | error capture => rfl
      | ok value =>
        refine (Borrow.withinWithin Cell.ready Try.deferred id id _).trans ?_
        exact Borrow.withinWithin .ok (Try.deferred ∘ Cell.ready) _ id (print value)

theorem printOption (held : Option Value) :
    print (ofOption held) = within ofOption id (Optional.print print held) := by
  cases held with
  | none => exact (pure_bind (m := Act Names Json) _ _).symm
  | some value => exact (Borrow.withinWithin some ofOption _ id (print value)).symm

theorem printEither (held : Either Value Value) :
    print (ofEither held) = within ofEither id (Either.print print print held) := by
  cases held with
  | left value => exact (Borrow.withinWithin .left ofEither _ id (print value)).symm
  | right value => exact (Borrow.withinWithin .right ofEither _ id (print value)).symm

theorem printList (items : List Value) :
    print (.list items) = within .list id (Items.print print items) := by
  have each : printItems items = Items.printEach print items := by
    induction items with
    | nil => rfl
    | cons value values ih =>
      rw [printItems, ih]
      rfl
  refine (congrArg (within Value.list Shown.list) each).trans ?_
  exact (Borrow.withinWithin id Value.list Shown.list id (Items.printEach print items)).symm

theorem printPair (pair : Value × Value) :
    print (ofPair pair) = within ofPair id (Pair.print print print pair) := by
  obtain ⟨first, second⟩ := pair
  change both .pair _ (print first) second (print second) =
    within ofPair id (both Prod.mk _ (print first) second (print second))
  rw [both, both, within, bind_assoc]
  refine bind_congr fun printed => ?_
  obtain ⟨ending, first⟩ := printed
  cases ending with
  | error panic => exact (pure_bind _ _).symm
  | ok shown => exact (Borrow.withinWithin (Prod.mk first) ofPair _ id (print second)).symm

end OutcomeAlgebra.Script.Value
