import OutcomeAlgebra.Iter.Basic
import OutcomeAlgebra.Script.Conversion
import OutcomeAlgebra.Script.Perform
/-! Requests and their answers. The steps of a request run one after another and
share registers and handles; each has an answer with its own log, also when it
panics. Nothing outlives a request. -/
namespace OutcomeAlgebra.Script

def eventJson : Event → Json
  | .evaluating =>
    .array [.text "event", .text "trace", .object [("message", .text "evaluating delayed Try")]]
  | .captured message =>
    .array [.text "event", .text "debug",
      .object [("error", .text message), ("message", .text "computation failed")]]
  | .stopped index =>
    .array [.text "event", .text "trace",
      .object [("index", .integer index),
        ("message", .text "sequence stopped at first failure")]]
  | .poisoned =>
    .array [.text "event", .text "error", .object [("message", .text Panic.poisoned.message)]]

def calls (trace : Bool) (log : List (Entry Json)) : List Json :=
  log.filterMap fun entry =>
    match entry with
    | .note json => some json
    | .event event => if trace then some (eventJson event) else none

structure Answer where
  calls : List Json
  reply : Except Panic Reply

/-- Runs steps that share a state and the supply of handles. A step can name the
errors that are stored when it starts. A step that ends outside its borrowed
state leaves the state as it was. -/
def runSteps {σ : Type} (trace : Bool) (stored : σ → Names) :
    List (Borrow Names Json σ Reply) → σ → Nat → List Answer
  | [], _, _ => []
  | step :: steps, state, next =>
    let report := (step state).run (stored state) next
    let (reply, state) := match report.ending with
      | .ok ended => ended
      | .error panic => (.error panic, state)
    ⟨calls trace report.log, reply⟩ :: runSteps trace stored steps state (next + report.used)

def Combination.run (write : Value → Keeping Json) (monoid : MonoidOp Keeping Value) :
    Combination → Keeping Reply := fun combination => do
  let build (literal : Literal) : Keeping Value := literal.build
  let value ← match combination with
    | .append first second => do
      let a ← build first
      let b ← build second
      monoid.append a b
    | .appendN value count => do
      let value ← build value
      monoid.appendN copying value count
    | .sumNonEmpty head tail => do
      let head ← build head
      let tail ← tail.mapM build
      monoid.sumNonEmpty head tail
    | .empty => monoid.empty
    | .join values => do
      let values ← values.mapM build
      monoid.join values
    | .multiply value count => do
      let value ← build value
      monoid.multiply copying value count
    | .intersperse values separator => do
      let values ← values.mapM build
      let separator ← build separator
      monoid.intersperse copying separator values
  let json ← write value
  pure (.said json)

def part (write : Value → Act Names Json Json) (name : String) (item : Nat → Option Value) :
    Iter (Act Names Json) Value :=
  .ofAnswers fun index =>
    match item index with
    | none => pure none
    | some value => do
      let json ← write value
      Act.note (.array [.text "pull", .text name, json])
      pure (some value)

mutual

def Items.build (write : Value → Act Names Json Json) :
    Items → Act Names Json (Iter (Act Names Json) Value)
  | .listed name items => do
    let values ← items.mapM Literal.build
    pure (part write name fun index => values[index]?)
  | .counting name start step =>
    pure (part write name fun index => some (.int (start + Int64.ofNat index * step)))
  | .empty => Iter.chaining.empty
  | .append first second => do
    let first ← first.build write
    let second ← second.build write
    Iter.chaining.append first second
  | .join parts => do
    let parts ← Items.buildList write parts
    Iter.chaining.join parts
  | .sum head tail => do
    let head ← head.build write
    let tail ← Items.buildList write tail
    Iter.chaining.sumNonEmpty head tail

def Items.buildList (write : Value → Act Names Json Json) :
    List Items → Act Names Json (List (Iter (Act Names Json) Value))
  | [] => pure []
  | items :: rest => do
    let iter ← items.build write
    let iters ← Items.buildList write rest
    pure (iter :: iters)

end

def takeItems (write : Value → Act Names Json Json) (count : Nat) :
    Borrow Names Json (Iter (Act Names Json) Value) Reply := fun iter => do
  let (items, iter) ← iter.take count
  let items ← items.mapM write
  pure (.ok (.said (.array items)), iter)

def Conversion.run (write : Value → Act Names Json Json) : Conversion → Act Names Json Reply
  | .read text document many =>
    match document.read text many with
    | .error fault => pure (.faulty fault)
    | .ok value => Reply.said <$> write value
  | .write literal document => do
    let value ← literal.build
    let text ← demand "a value of this type" (document.write value)
    pure (.said (.text text))

def runBuilt {σ : Type} (trace : Bool) (build : Act Names Json σ)
    (steps : List (Borrow Names Json σ Reply)) : List Answer :=
  let built := build.run [] 0
  match built.ending with
  | .error panic => steps.map fun _ => ⟨[], .error panic⟩
  | .ok state => runSteps trace (fun _ => []) steps state built.used

def Request.answers (request : Request) : List Answer :=
  let setting : Setting := ⟨request.inputs⟩
  match request.program with
  | .steps commands =>
    runSteps request.trace Registers.stored (commands.map (Command.perform setting)) .empty 0
  | .combine operation combinations =>
    let write := Script.write request.inputs
    runBuilt request.trace (Literal.buildList operation.identities)
      (combinations.map (Combination.run write (operation.monoid write 0)))
  | .iterate items takes =>
    runBuilt request.trace (items.build setting.write) (takes.map (takeItems setting.write))
  | .convert conversions =>
    runBuilt request.trace (pure ())
      (conversions.map fun conversion => Borrow.aside (conversion.run setting.write))

end OutcomeAlgebra.Script
