import OutcomeAlgebra.Outcome.InPlace
import OutcomeAlgebra.Script.Value
/-! Copying a value that stays where it is. A `Try` inside is evaluated on the way,
and stays evaluated also when a part behind it panics. -/
namespace OutcomeAlgebra.Script.Value

open Borrow (within both)

mutual

def copy : Value → Act Names Json (Except Panic Value × Value)
  | .list items => within .list .list (copyList items)
  | .pair first second => both .pair .pair (copy first) second (copy second)
  | .present value => within .present .present (copy value)
  | .left value => within .left .left (copy value)
  | .right value => within .right .right (copy value)
  | .ok value => within .ok .ok (copy value)
  | .no value => within .no .no (copy value)
  | .attempt held => within .attempt .attempt (copyTry held)
  | .unit => pure (.ok .unit, .unit)
  | .bool value => pure (.ok (.bool value), .bool value)
  | .int value => pure (.ok (.int value), .int value)
  | .big value => pure (.ok (.big value), .big value)
  | .double value => pure (.ok (.double value), .double value)
  | .text value => pure (.ok (.text value), .text value)
  | .key number tag => pure (.ok (.key number tag), .key number tag)
  | .absent => pure (.ok .absent, .absent)
  | .error capture => pure (.ok (.error capture), .error capture)
  | .function closure => pure (.ok (.function closure), .function closure)
termination_by structural value => value

def copyTry : Try Names Json Value →
    Act Names Json (Except Panic (Try Names Json Value) × Try Names Json Value)
  | .success value => within .success .success (copy value)
  | .failure capture => pure (.ok (.failure capture), .failure capture)
  | .deferred cell => within .deferred id (copyCell cell)
termination_by structural held => held

def copyCell : Cell Names Json Value →
    Act Names Json (Except Panic (Try Names Json Value) × Cell Names Json Value)
  | .pending run => do
    Act.emit .evaluating
    fun names next => copyReport (run names next) names next
  | .ready outcome => within .ready id (copyOutcome outcome)
  | .poisoned => do
    Act.emit .poisoned
    pure (.error .poisoned, .poisoned)
termination_by structural cell => cell

def copyReport : Report Json (Except Capture Value) →
    Act Names Json (Except Panic (Try Names Json Value) × Cell Names Json Value)
  | ⟨log, used, ending⟩ => fun names next =>
    Act.follow names next ⟨log, used, .ok ()⟩ fun _ => copyEnding ending
termination_by structural report => report

def copyEnding : Except Panic (Except Capture Value) →
    Act Names Json (Except Panic (Try Names Json Value) × Cell Names Json Value)
  | .error panic => pure (.error panic, .poisoned)
  | .ok outcome => within .ready id (copyOutcome outcome)
termination_by structural ending => ending

def copyOutcome : Except Capture Value →
    Act Names Json (Except Panic (Try Names Json Value) × Except Capture Value)
  | .error capture => pure (.ok (.failure capture), .error capture)
  | .ok value => within .ok .success (copy value)
termination_by structural outcome => outcome

def copyList : List Value → Act Names Json (Except Panic (List Value) × List Value)
  | [] => pure (.ok [], [])
  | value :: values => both List.cons List.cons (copy value) values (copyList values)
termination_by structural values => values

end

theorem copyPending (run : Act Names Json (Except Capture Value)) :
    (fun names next => copyReport (run names next) names next) =
      (Act.ending run >>= copyEnding) := by
  funext names next
  cases h : run names next with
  | mk log used ending => simp [copyReport, Act.follow, bind, Act.ending, h]

theorem copyCellPending (run : Act Names Json (Except Capture Value)) :
    copyCell (.pending run) =
      (Act.emit .evaluating >>= fun _ => Act.ending run >>= copyEnding) := by
  rw [← copyPending run]
  rfl

theorem copyTryCopies (attempt : Try Names Json Value) :
    copyTry attempt = Try.copy copy attempt := by
  cases attempt with
  | success value => simp [copyTry, Try.copy, Try.asResult]; rfl
  | failure capture => simp [copyTry, Try.copy, Try.asResult]
  | deferred cell =>
    cases cell with
    | ready outcome =>
      cases outcome with
      | error capture =>
        simp [copyTry, copyCell, copyOutcome, Try.copy, Try.asResult, Cell.force, within]
      | ok value =>
        simp only [copyTry, copyCell, copyOutcome, Try.copy, Try.asResult, Cell.force, within,
          bind_assoc, pure_bind]
        congr 1
        funext ended
        obtain ⟨ending, value⟩ := ended
        cases ending <;> simp [Try.putBack]
    | poisoned => simp [copyTry, copyCell, Try.copy, Try.asResult, Cell.force, within]
    | pending run =>
      have step := copyCellPending run
      simp only [copyTry, step, Try.copy, Try.asResult, Cell.force, within,
          bind_assoc, pure_bind]
      refine congrArg (fun rest => Act.emit .evaluating >>= rest) ?_
      funext _
      refine congrArg (fun rest => Act.ending run >>= rest) ?_
      funext ending
      cases ending with
      | error panic => simp [copyEnding, Cell.settle]
      | ok outcome =>
        cases outcome with
        | error capture => simp [copyEnding, copyOutcome, within, Cell.settle]
        | ok value =>
          simp only [copyEnding, copyOutcome, within, Cell.settle, bind_assoc]
          congr 1
          funext ended
          obtain ⟨ending, value⟩ := ended
          cases ending <;> simp [Try.putBack]

theorem copyOption (held : Option Value) :
    copy (ofOption held) = within ofOption ofOption (Optional.copy copy held) := by
  cases held with
  | none => exact (pure_bind (m := Act Names Json) _ _).symm
  | some value => exact (Borrow.withinWithin some ofOption some ofOption (copy value)).symm

theorem copyEither (held : Either Value Value) :
    copy (ofEither held) = within ofEither ofEither (Either.copy copy copy held) := by
  cases held with
  | left value => exact (Borrow.withinWithin .left ofEither .left ofEither (copy value)).symm
  | right value => exact (Borrow.withinWithin .right ofEither .right ofEither (copy value)).symm

theorem copyItems (items : List Value) :
    copy (.list items) = within .list .list (Items.copy copy items) := by
  have each : copyList items = Items.copy copy items := by
    induction items with
    | nil => rfl
    | cons value values ih =>
      rw [copyList, ih]
      rfl
  exact congrArg (within Value.list Value.list) each

end OutcomeAlgebra.Script.Value
