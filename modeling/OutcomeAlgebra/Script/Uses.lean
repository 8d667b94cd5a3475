import OutcomeAlgebra.Either.Sequence
import OutcomeAlgebra.Outcome.Basic
import OutcomeAlgebra.Script.Callback
import OutcomeAlgebra.Script.Command
import OutcomeAlgebra.Try.Sequence
/-! What a step makes of the values that it takes. Every operation is the one of
the outcome's own type; this file only brings values into that type and back. -/
namespace OutcomeAlgebra.Script

namespace Value

def ofResult : Except Value Value → Value
  | .ok value => .ok value
  | .error value => .no value

def ofOutcome : Except Capture Value → Value
  | .ok value => .ok value
  | .error capture => .no (.error capture)

def result? : Value → Option (Except Value Value)
  | .ok value => some (.ok value)
  | .no value => some (.error value)
  | _ => none

def ofOptions (options : Option Value × Option Value) : Value :=
  .pair (ofOption options.1) (ofOption options.2)

def leftNested? : Either Value Value → Option (Either (Either Value Value) Value)
  | .left value => Either.left <$> value.either?
  | .right value => some (.right value)

def rightNested? : Either Value Value → Option (Either Value (Either Value Value))
  | .left value => some (.left value)
  | .right value => Either.right <$> value.either?

end Value

variable (setting : Setting)

def OptionUse.run (option : Option Value) : OptionUse → Act Names Json (Except EmptyValue Value)
  | .fold onNone onSome =>
    Except.ok <$> Optional.fold (setting.call "none" onNone [])
      (fun value => setting.call "some" onSome [value]) option
  | .get => pure (Optional.get option)
  | .getOrElse supplier =>
    Except.ok <$> Optional.getOrElse (setting.call "supplier" supplier []) option
  | .toEither supplier => do
    let either ← Optional.toEither (setting.call "supplier" supplier []) option
    pure (.ok (Value.ofEither either))

def EitherUse.run (either : Either Value Value) :
    EitherUse → Act Names Json (Except EmptyValue Value)
  | .left => pure (.ok (Value.ofOption either.left?))
  | .right => pure (.ok (Value.ofOption either.right?))
  | .get => pure either.get
  | .getOrElse supplier => Except.ok <$> either.getOrElse (setting.call "supplier" supplier [])
  | .map f => do
    let either ← either.map fun value => setting.call "f" f [value]
    pure (.ok (Value.ofEither either))
  | .mapLeft f => do
    let either ← either.mapLeft fun value => setting.call "f" f [value]
    pure (.ok (Value.ofEither either))
  | .mapRight f => do
    let either ← either.mapRight fun value => setting.call "f" f [value]
    pure (.ok (Value.ofEither either))
  | .bimap onLeft onRight => do
    let either ← either.bimap (fun value => setting.call "left" onLeft [value])
      fun value => setting.call "right" onRight [value]
    pure (.ok (Value.ofEither either))
  | .fold onLeft onRight =>
    Except.ok <$> either.fold (fun value => setting.call "left" onLeft [value])
      fun value => setting.call "right" onRight [value]
  | .flatMap k => do
    let either ← either.flatMap fun value => do
      let verdict ← setting.follow k [value]
      verdict.either
    pure (.ok (Value.ofEither either))
  | .filter p supplier => do
    let either ← either.filter (setting.ask p) (setting.call "supplier" supplier [])
    pure (.ok (Value.ofEither either))
  | .swap => pure (.ok (Value.ofEither either.swap))
  | .unwrapLeft => Except.ok <$> either.unwrapLeft
  | .unwrapRight => Except.ok <$> either.unwrapRight
  | .toOptions => pure (.ok (Value.ofOptions either.toOptions))
  | .joinLeft => do
    let nested ← demand "an either on the left" (Value.leftNested? either)
    pure (.ok (Value.ofEither nested.joinLeft))
  | .flatten => do
    let nested ← demand "an either on the right" (Value.rightNested? either)
    pure (.ok (Value.ofEither nested.flatten))
  | .leftOrDefault => pure (.ok either.leftOrDefault)
  | .rightOrDefault => pure (.ok either.rightOrDefault)
  | .toResult => pure (.ok (Value.ofResult either.toExcept))
  | .items => pure (.ok (.list either.toList))

def TryUse.run (attempt : Try Names Json Value) : TryUse → Act Names Json (Except EmptyValue Value)
  | .toResult => do
    let outcome ← attempt.intoResult
    pure (.ok (Value.ofOutcome outcome))
  | .get => attempt.get
  | .getOrElse supplier => Except.ok <$> attempt.getOrElse (setting.call "supplier" supplier [])
  | .map f => do
    let attempt ← attempt.map fun value => setting.call "f" f [value]
    pure (.ok (.attempt attempt))
  | .flatMap k => do
    let attempt ← attempt.flatMap fun value => do
      let verdict ← setting.follow k [value]
      verdict.attempt
    pure (.ok (.attempt attempt))
  | .filter p e => do
    let attempt ← attempt.filter (setting.ask p) (setting.supply e)
    pure (.ok (.attempt attempt))
  | .fold failure success =>
    Except.ok <$> attempt.fold (fun capture => setting.call "failure" failure [.error capture])
      fun value => setting.call "success" success [value]
  | .recover f => do
    let attempt ← attempt.recover fun capture => setting.call "f" f [.error capture]
    pure (.ok (.attempt attempt))
  | .recoverWith k => do
    let attempt ← attempt.recoverWith fun capture => do
      let verdict ← setting.follow k [.error capture]
      verdict.attempt
    pure (.ok (.attempt attempt))
  | .mapFailure e => do
    let attempt ← attempt.mapFailure (setting.replaceError e)
    pure (.ok (.attempt attempt))
  | .toOption => do
    let option ← attempt.toOption
    pure (.ok (Value.ofOption option))
  | .toEither => do
    let either ← attempt.toEither
    let either ← either.mapLeft fun capture => pure (Value.error capture)
    pure (.ok (Value.ofEither either))
  | .items => do
    let items ← attempt.toList
    pure (.ok (.list items))
  | .flatten => do
    let attempt ← attempt.flatMap fun value => demand "a Try" value.attempt?
    pure (.ok (.attempt attempt))

def OutcomeUse.on {F : Type → Type} [Outcome (Act Names Json) F]
    (ofVerdict : Verdict → Act Names Json (F Value))
    (outcome : F Value) : OutcomeUse → Act Names Json (F Value)
  | .map f => Outcome.map outcome fun value => setting.call "f" f [value]
  | .replace literal => do
    let value ← literal.build
    Outcome.replace outcome value
  | .void => do
    let emptied ← Outcome.void outcome
    Outcome.map emptied fun _ => pure Value.unit
  | .flatMap k => Outcome.flatMap outcome fun value => do
    let verdict ← setting.follow k [value]
    ofVerdict verdict
  | .andThen k => Outcome.andThen outcome fun value => do
    let verdict ← setting.follow k [value]
    ofVerdict verdict

def OutcomeUse.run (use : OutcomeUse) (value : Value) : Act Names Json Value := do
  match value.option?, value.either?, value.attempt? with
  | some option, _, _ => Value.ofOption <$> use.on setting Verdict.option option
  | _, some either, _ => Value.ofEither <$> use.on setting Verdict.either either
  | _, _, some attempt => Value.attempt <$> use.on setting Verdict.attempt attempt
  | none, none, none => Act.stop (.refused "not an outcome")

def PairUse.on {F : Type → Type} [Outcome (Act Names Json) F] (first second : F Value) :
    PairUse → Act Names Json (F Value)
  | .map2 f => Outcome.map2 first second fun a b => setting.call "f" f [a, b]
  | .product => do
    let pairs ← Outcome.product first second
    Outcome.map pairs fun pair => pure (Value.ofPair pair)
  | .followedBy => Outcome.followedBy first second

def PairUse.run (use : PairUse) (first second : Value) : Act Names Json Value := do
  match first.option?, first.either?, first.attempt? with
  | some option, _, _ =>
    let other ← demand "an option" second.option?
    Value.ofOption <$> use.on setting option other
  | _, some either, _ =>
    let other ← demand "an either" second.either?
    Value.ofEither <$> use.on setting either other
  | _, _, some attempt =>
    let other ← demand "a Try" second.attempt?
    Value.attempt <$> use.on setting attempt other
  | none, none, none => Act.stop (.refused "not an outcome")

def ErrorUse.run (capture : Capture) : ErrorUse → Act Names Json Value
  | .rewrap => Value.error <$> Capture.new capture.raise
  | .derive e => do
    let raised ← e.raise (some capture)
    Value.error <$> Capture.new raised

def Kind.ofResult (kind : Kind) (result : Except Value Value) : Act Names Json Value :=
  match kind, result with
  | .either, result => pure (Value.ofEither (Either.ofExcept result))
  | .attempt, .ok value => pure (.attempt (.ofOutcome (.ok value)))
  | .attempt, .error value => do
    let capture ← demand "an error" value.error?
    pure (.attempt (.ofOutcome (.error capture)))

def Use.run (use : Use) (value : Value) : Act Names Json (Except EmptyValue Value) := do
  match use with
  | .ofResult kind =>
    let result ← demand "a result" value.result?
    Except.ok <$> kind.ofResult result
  | .option use =>
    let option ← demand "an option" value.option?
    use.run setting option
  | .either use =>
    let either ← demand "an either" value.either?
    use.run setting either
  | .attempt use =>
    let attempt ← demand "a Try" value.attempt?
    use.run setting attempt
  | .outcome use => Except.ok <$> use.run setting value
  | .error use =>
    let capture ← demand "an error" value.error?
    Except.ok <$> use.run capture

def Making.run : Making → Act Names Json Value
  | .value literal => literal.build
  | .success literal => do
    let value ← literal.build
    pure (.attempt (.success value))
  | .failure problem => do
    let raised ← problem.raise none
    Value.attempt <$> Try.fail raised
  | .done job => Value.attempt <$> Try.of job.run
  | .delayed job => pure (.attempt (.delayed job.run))
  | .pureTry literal => do
    let value ← literal.build
    pure (.attempt (Outcome.lift (Act Names Json) value))
  | .pureEither literal => do
    let value ← literal.build
    pure (Value.ofEither (Outcome.lift (Act Names Json) value))
  | .pureOption literal => do
    let value ← literal.build
    pure (Value.ofOption (Outcome.lift (Act Names Json) value))

def pull {α : Type} (shape : String) (index : Nat) (seen : Option α) : Act Names Json α := do
  Act.note (.array [.text "pull", .integer index])
  demand shape seen

def Kind.sequence (kind : Kind) (values : List Value) : Act Names Json Value :=
  match kind with
  | .either => do
    let pulls := values.mapIdx fun index value => pull "an either" index value.either?
    let either ← Either.sequence pulls
    pure (Value.ofEither (match either with
      | .left value => .left value
      | .right items => .right (.list items)))
  | .attempt => do
    let pulls := values.mapIdx fun index value => pull "a Try" index value.attempt?
    let attempt ← Try.sequence pulls
    let attempt ← attempt.map fun items => pure (Value.list items)
    pure (.attempt attempt)

end OutcomeAlgebra.Script
