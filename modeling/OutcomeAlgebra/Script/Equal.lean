import OutcomeAlgebra.Outcome.InPlace
import OutcomeAlgebra.Script.Value
/-! Comparing two values that stay where they are, and a value with itself. A `Try`
on either side is evaluated when the comparison reaches it; what lies behind the
first difference is not reached. Doubles compare as numbers and a function equals
nothing, so some values do not even equal themselves. -/
namespace OutcomeAlgebra.Script.Value

variable {τ σ ρ γ : Type}

def around (left : τ → ρ) (right : σ → γ) (parts : Act Names Json (Except Panic Bool × τ × σ)) :
    Act Names Json (Except Panic Bool × ρ × γ) := do
  let (answer, a, b) ← parts
  pure (answer, left a, right b)

def andAlso (left : τ → σ → ρ) (first : Act Names Json (Except Panic Bool × τ × τ)) (a b : σ)
    (second : Act Names Json (Except Panic Bool × σ × σ)) :
    Act Names Json (Except Panic Bool × ρ × ρ) := do
  match ← first with
  | (.ok true, c, d) => around (left c) (left d) second
  | (answer, c, d) => pure (answer, left c a, left d b)

def meetValue (whole : Value → τ) (value : Value)
    (compare : Value → Act Names Json (Except Panic Bool × Value × Value))
    (right : Try Names Json Value) :
    Act Names Json (Except Panic Bool × τ × Try Names Json Value) := do
  match ← Try.asResult right with
  | (.error panic, right) => pure (.error panic, whole value, right)
  | (.ok (.ok other), right) => around whole right.putBack (compare other)
  | (.ok (.error _), right) => pure (.ok false, whole value, right)

def meetFailure (whole : τ) (capture : Capture) (right : Try Names Json Value) :
    Act Names Json (Except Panic Bool × τ × Try Names Json Value) := do
  match ← Try.asResult right with
  | (.error panic, right) => pure (.error panic, whole, right)
  | (.ok (.ok _), right) => pure (.ok false, whole, right)
  | (.ok (.error other), right) => pure (.ok (capture.same other), whole, right)

def flat (left right : Value) (answer : Bool) :
    Act Names Json (Except Panic Bool × Value × Value) :=
  pure (.ok answer, left, right)

mutual

def equal (left right : Value) : Act Names Json (Except Panic Bool × Value × Value) :=
  match left with
  | .unit => flat .unit right (match right with | .unit => true | _ => false)
  | .bool a => flat (.bool a) right (match right with | .bool b => a == b | _ => false)
  | .int a => flat (.int a) right (match right with | .int b => a == b | _ => false)
  | .big a => flat (.big a) right (match right with | .big b => a == b | _ => false)
  | .double a => flat (.double a) right (match right with | .double b => a == b | _ => false)
  | .text a => flat (.text a) right (match right with | .text b => a == b | _ => false)
  | .key a tag => flat (.key a tag) right (match right with | .key b _ => a == b | _ => false)
  | .absent => flat .absent right (match right with | .absent => true | _ => false)
  | .error a => flat (.error a) right (match right with | .error b => a.same b | _ => false)
  | .function a => flat (.function a) right false
  | .list as =>
    match right with
    | .list bs =>
      if as.length = bs.length then around .list .list (equalItems as bs)
      else flat (.list as) (.list bs) false
    | other => flat (.list as) other false
  | .pair a b =>
    match right with
    | .pair c d => andAlso .pair (equal a c) b d (equal b d)
    | other => flat (.pair a b) other false
  | .present a =>
    match right with
    | .present b => around .present .present (equal a b)
    | other => flat (.present a) other false
  | .left a =>
    match right with
    | .left b => around .left .left (equal a b)
    | other => flat (.left a) other false
  | .right a =>
    match right with
    | .right b => around .right .right (equal a b)
    | other => flat (.right a) other false
  | .ok a =>
    match right with
    | .ok b => around .ok .ok (equal a b)
    | other => flat (.ok a) other false
  | .no a =>
    match right with
    | .no b => around .no .no (equal a b)
    | other => flat (.no a) other false
  | .attempt a =>
    match right with
    | .attempt b => around .attempt .attempt (equalTry a b)
    | other => flat (.attempt a) other false
termination_by structural left

def equalItems (left right : List Value) :
    Act Names Json (Except Panic Bool × List Value × List Value) :=
  match left with
  | [] => pure (.ok true, [], right)
  | a :: as =>
    match right with
    | [] => pure (.ok true, a :: as, [])
    | b :: bs => andAlso List.cons (equal a b) as bs (equalItems as bs)
termination_by structural left

def equalTry (left right : Try Names Json Value) :
    Act Names Json (Except Panic Bool × Try Names Json Value × Try Names Json Value) :=
  match left with
  | .success value => meetValue .success value (equal value) right
  | .failure capture => meetFailure (.failure capture) capture right
  | .deferred cell => around .deferred id (equalCell cell right)
termination_by structural left

def equalCell (left : Cell Names Json Value) (right : Try Names Json Value) :
    Act Names Json (Except Panic Bool × Cell Names Json Value × Try Names Json Value) :=
  match left with
  | .pending run => do
    Act.emit .evaluating
    fun names next => equalReport (run names next) right names next
  | .ready outcome => around .ready id (equalOutcome outcome right)
  | .poisoned => do
    Act.emit .poisoned
    pure (.error .poisoned, .poisoned, right)
termination_by structural left

def equalReport (left : Report Json (Except Capture Value)) (right : Try Names Json Value) :
    Act Names Json (Except Panic Bool × Cell Names Json Value × Try Names Json Value) :=
  match left with
  | ⟨log, used, ending⟩ => fun names next =>
    Act.follow names next ⟨log, used, .ok ()⟩ fun _ => equalEnding ending right
termination_by structural left

def equalEnding (left : Except Panic (Except Capture Value)) (right : Try Names Json Value) :
    Act Names Json (Except Panic Bool × Cell Names Json Value × Try Names Json Value) :=
  match left with
  | .error panic => pure (.error panic, .poisoned, right)
  | .ok outcome => around .ready id (equalOutcome outcome right)
termination_by structural left

def equalOutcome (left : Except Capture Value) (right : Try Names Json Value) :
    Act Names Json (Except Panic Bool × Except Capture Value × Try Names Json Value) :=
  match left with
  | .error capture => meetFailure (.error capture) capture right
  | .ok value => meetValue .ok value (equal value) right
termination_by structural left

end

theorem equalPending (run : Act Names Json (Except Capture Value)) (right : Try Names Json Value) :
    (fun names next => equalReport (run names next) right names next) =
      (Act.ending run >>= fun ending => equalEnding ending right) := by
  funext names next
  cases h : run names next with
  | mk log used ending => simp [equalReport, Act.follow, bind, Act.ending, h]

theorem equalSuccess (value : Value) (right : Try Names Json Value) :
    equalTry (.success value) right = Try.equal equal (.success value) right := by
  simp only [equalTry, meetValue, Try.equal, Try.asResult, pure_bind]
  refine congrArg (fun rest => Try.asResult right >>= rest) ?_
  funext ended
  obtain ⟨ending, right⟩ := ended
  rcases ending with panic | (capture | other) <;> rfl

theorem equalFailure (capture : Capture) (right : Try Names Json Value) :
    equalTry (.failure capture) right = Try.equal equal (.failure capture) right := by
  simp only [equalTry, meetFailure, Try.equal, Try.asResult, pure_bind]
  refine congrArg (fun rest => Try.asResult right >>= rest) ?_
  funext ended
  obtain ⟨ending, right⟩ := ended
  rcases ending with panic | (other | value) <;> rfl

theorem equalOutcomeReady (outcome : Except Capture Value) (right : Try Names Json Value) :
    around Try.deferred id (around Cell.ready id (equalOutcome outcome right)) =
      Try.equal equal (.deferred (.ready outcome)) right := by
  cases outcome with
  | error capture =>
    simp only [around, equalOutcome, meetFailure, Try.equal, Try.asResult, Cell.force, bind_assoc,
      pure_bind]
    refine congrArg (fun rest => Try.asResult right >>= rest) ?_
    funext ended
    obtain ⟨ending, right⟩ := ended
    rcases ending with panic | (other | value) <;> rfl
  | ok value =>
    simp only [around, equalOutcome, meetValue, Try.equal, Try.asResult, Cell.force, bind_assoc,
      pure_bind]
    refine congrArg (fun rest => Try.asResult right >>= rest) ?_
    funext ended
    obtain ⟨ending, right⟩ := ended
    rcases ending with panic | (capture | other) <;> simp [Try.putBack]

theorem equalCellPending (run : Act Names Json (Except Capture Value))
    (right : Try Names Json Value) :
    equalCell (.pending run) right =
      (Act.emit .evaluating >>= fun _ => Act.ending run >>= fun ending =>
        equalEnding ending right) := by
  rw [← equalPending run right]
  rfl

theorem equalTryEquals (left right : Try Names Json Value) :
    equalTry left right = Try.equal equal left right := by
  cases left with
  | success value => exact equalSuccess value right
  | failure capture => exact equalFailure capture right
  | deferred cell =>
    cases cell with
    | ready outcome => exact equalOutcomeReady outcome right
    | poisoned => simp [equalTry, equalCell, around, Try.equal, Try.asResult, Cell.force]
    | pending run =>
      have start := Try.asResultPending run
      rw [equalTry, equalCellPending run right, Try.equal, start, around]
      simp only [bind_assoc, pure_bind]
      refine congrArg (fun rest => Act.emit .evaluating >>= rest) ?_
      funext _
      refine congrArg (fun rest => Act.ending run >>= rest) ?_
      funext ending
      cases ending with
      | error panic => simp [equalEnding, Cell.settle]
      | ok outcome =>
        have ready := equalOutcomeReady outcome right
        rw [Try.equal, Try.asResultReady outcome, pure_bind, around] at ready
        exact ready

theorem aroundAround (left : τ → ρ) (right : σ → γ) {α β : Type} (further : ρ → α) (last : γ → β)
    (parts : Act Names Json (Except Panic Bool × τ × σ)) :
    around further last (around left right parts) =
      around (further ∘ left) (last ∘ right) parts := by
  simp only [around, bind_assoc, pure_bind, Function.comp_apply]

theorem equalOption (left right : Option Value) :
    equal (ofOption left) (ofOption right) =
      around ofOption ofOption (Optional.equal equal left right) := by
  cases left with
  | none => cases right <;> exact (pure_bind (m := Act Names Json) _ _).symm
  | some a =>
    cases right with
    | none => exact (pure_bind (m := Act Names Json) _ _).symm
    | some b => exact (aroundAround some some ofOption ofOption (equal a b)).symm

theorem equalEither (left right : Either Value Value) :
    equal (ofEither left) (ofEither right) =
      around ofEither ofEither (Either.equal equal equal left right) := by
  cases left with
  | left a =>
    cases right with
    | left b => exact (aroundAround .left .left ofEither ofEither (equal a b)).symm
    | right b => exact (pure_bind (m := Act Names Json) _ _).symm
  | right a =>
    cases right with
    | left b => exact (pure_bind (m := Act Names Json) _ _).symm
    | right b => exact (aroundAround .right .right ofEither ofEither (equal a b)).symm

theorem equalItemsCompare (left right : List Value) :
    equalItems left right = Items.compare equal left right := by
  induction left generalizing right with
  | nil => cases right <;> rfl
  | cons a as ih =>
    cases right with
    | nil => rfl
    | cons b bs =>
      unfold equalItems andAlso Items.compare
      refine bind_congr (m := Act Names Json) fun compared => ?_
      rcases compared with ⟨panic | answer, c, d⟩
      · rfl
      · cases answer with
        | false => rfl
        | true => exact congrArg (around (c :: ·) (d :: ·)) (ih bs)

theorem equalList (left right : List Value) :
    equal (.list left) (.list right) = around .list .list (Items.equal equal left right) := by
  unfold equal Items.equal
  by_cases same : left.length = right.length
  · simp only [if_pos same]
    rw [equalItemsCompare]
  · simp only [if_neg same]
    exact (pure_bind (m := Act Names Json) _ _).symm

mutual

def equalSelf : Value → Act Names Json (Except Panic Bool × Value)
  | .list items => Borrow.within .list id (equalSelfItems items)
  | .pair first second => do
    match ← equalSelf first with
    | (.ok true, first) => Borrow.within (.pair first) id (equalSelf second)
    | (answer, first) => pure (answer, .pair first second)
  | .present value => Borrow.within .present id (equalSelf value)
  | .left value => Borrow.within .left id (equalSelf value)
  | .right value => Borrow.within .right id (equalSelf value)
  | .ok value => Borrow.within .ok id (equalSelf value)
  | .no value => Borrow.within .no id (equalSelf value)
  | .attempt held => Borrow.within .attempt id (equalSelfTry held)
  | .double value => pure (.ok (value == value), .double value)
  | .unit => pure (.ok true, .unit)
  | .bool value => pure (.ok true, .bool value)
  | .int value => pure (.ok true, .int value)
  | .big value => pure (.ok true, .big value)
  | .text value => pure (.ok true, .text value)
  | .key number tag => pure (.ok true, .key number tag)
  | .absent => pure (.ok true, .absent)
  | .error capture => pure (.ok true, .error capture)
  | .function closure => pure (.ok false, .function closure)
termination_by structural value => value

def equalSelfItems : List Value → Act Names Json (Except Panic Bool × List Value)
  | [] => pure (.ok true, [])
  | value :: values => do
    match ← equalSelf value with
    | (.ok true, value) => Borrow.within (value :: ·) id (equalSelfItems values)
    | (answer, value) => pure (answer, value :: values)
termination_by structural values => values

def equalSelfTry : Try Names Json Value → Act Names Json (Except Panic Bool × Try Names Json Value)
  | .success value => Borrow.within .success id (equalSelf value)
  | .failure capture => pure (.ok true, .failure capture)
  | .deferred cell => Borrow.within .deferred id (equalSelfCell cell)
termination_by structural held => held

def equalSelfCell : Cell Names Json Value →
    Act Names Json (Except Panic Bool × Cell Names Json Value)
  | .pending run => do
    Act.emit .evaluating
    fun names next => equalSelfReport (run names next) names next
  | .ready outcome => Borrow.within .ready id (equalSelfOutcome outcome)
  | .poisoned => do
    Act.emit .poisoned
    pure (.error .poisoned, .poisoned)
termination_by structural cell => cell

def equalSelfReport : Report Json (Except Capture Value) →
    Act Names Json (Except Panic Bool × Cell Names Json Value)
  | ⟨log, used, ending⟩ => fun names next =>
    Act.follow names next ⟨log, used, .ok ()⟩ fun _ => equalSelfEnding ending
termination_by structural report => report

def equalSelfEnding : Except Panic (Except Capture Value) →
    Act Names Json (Except Panic Bool × Cell Names Json Value)
  | .error panic => pure (.error panic, .poisoned)
  | .ok outcome => Borrow.within .ready id (equalSelfOutcome outcome)
termination_by structural ending => ending

def equalSelfOutcome : Except Capture Value →
    Act Names Json (Except Panic Bool × Except Capture Value)
  | .error capture => pure (.ok true, .error capture)
  | .ok value => Borrow.within .ok id (equalSelf value)
termination_by structural outcome => outcome

end

theorem equalSelfOutcomeReady (outcome : Except Capture Value) :
    Borrow.within Try.deferred id (Borrow.within Cell.ready id (equalSelfOutcome outcome)) =
      Try.equalSelf equalSelf (.deferred (.ready outcome)) := by
  cases outcome with
  | error capture => rfl
  | ok value =>
    simp only [equalSelfOutcome, Borrow.within, Try.equalSelf, Try.asResult, Cell.force, bind_assoc,
      pure_bind]
    refine congrArg (fun rest => equalSelf value >>= rest) ?_
    funext ended
    obtain ⟨ending, value⟩ := ended
    cases ending <;> rfl

theorem equalSelfPending (run : Act Names Json (Except Capture Value)) :
    (fun names next => equalSelfReport (run names next) names next) =
      (Act.ending run >>= equalSelfEnding) := by
  funext names next
  cases h : run names next with
  | mk log used ending => simp [equalSelfReport, Act.follow, bind, Act.ending, h]

theorem equalSelfTryEquals (held : Try Names Json Value) :
    equalSelfTry held = Try.equalSelf equalSelf held := by
  cases held with
  | success value => exact (pure_bind (m := Act Names Json) _ _).symm
  | failure capture => rfl
  | deferred cell =>
    cases cell with
    | ready outcome => exact equalSelfOutcomeReady outcome
    | poisoned =>
      simp [equalSelfTry, equalSelfCell, Borrow.within, Try.equalSelf, Try.asResult, Cell.force]
    | pending run =>
      have start := Try.asResultPending run
      unfold Try.equalSelf
      rw [equalSelfTry, equalSelfCell, equalSelfPending run, start, Borrow.within]
      simp only [bind_assoc, pure_bind]
      refine congrArg (fun rest => Act.emit .evaluating >>= rest) ?_
      funext _
      refine congrArg (fun rest => Act.ending run >>= rest) ?_
      funext ending
      cases ending with
      | error panic => rfl
      | ok outcome =>
        have ready := equalSelfOutcomeReady outcome
        unfold Try.equalSelf at ready
        rw [Try.asResultReady outcome, pure_bind] at ready
        exact ready

theorem equalSelfOption (held : Option Value) :
    equalSelf (ofOption held) = Borrow.within ofOption id (Optional.equalSelf equalSelf held) := by
  cases held with
  | none => exact (pure_bind (m := Act Names Json) _ _).symm
  | some value => exact (Borrow.withinWithin some ofOption id id (equalSelf value)).symm

theorem equalSelfEither (held : Either Value Value) :
    equalSelf (ofEither held) =
      Borrow.within ofEither id (Either.equalSelf equalSelf equalSelf held) := by
  cases held with
  | left value => exact (Borrow.withinWithin .left ofEither id id (equalSelf value)).symm
  | right value => exact (Borrow.withinWithin .right ofEither id id (equalSelf value)).symm

theorem equalSelfList (items : List Value) :
    equalSelf (.list items) = Borrow.within .list id (Items.equalSelf equalSelf items) := by
  have each : equalSelfItems items = Items.equalSelf equalSelf items := by
    induction items with
    | nil => rfl
    | cons value values ih =>
      rw [equalSelfItems, ih]
      refine bind_congr (m := Act Names Json) fun looked => ?_
      rcases looked with ⟨panic | answer, value⟩
      · rfl
      · cases answer <;> rfl
  exact congrArg (Borrow.within Value.list id) each

end OutcomeAlgebra.Script.Value
