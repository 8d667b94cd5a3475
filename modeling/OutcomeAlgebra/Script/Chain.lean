import OutcomeAlgebra.Script.Callback
import OutcomeAlgebra.Script.Command
import OutcomeAlgebra.Script.Show
import OutcomeAlgebra.Steps.Basic
/-! Chains in scripts. A chain accumulates a list of at most six values, over options,
eithers or tries. Its length is known also when it has failed. -/
namespace OutcomeAlgebra.Script

inductive ChainState where
  | option (steps : Steps Unit (List Value))
  | either (steps : Steps Value (List Value))
  | attempt (steps : Steps Capture (List Value))

structure Chain where
  arity : Nat
  state : ChainState

namespace Chain

def capacity : Nat := 6

def isSuccessful (chain : Chain) : Bool :=
  match chain.state with
  | .option steps => steps.isSuccessful
  | .either steps => steps.isSuccessful
  | .attempt steps => steps.isSuccessful

def push (values : List Value) (value : Value) : List Value := values ++ [value]

def start (value : Value) : Act Names Json Chain := do
  match value.option?, value.either?, value.attempt? with
  | some outcome, _, _ =>
    let steps ← Steps.start Family.option (push []) outcome
    pure ⟨1, .option steps⟩
  | _, some outcome, _ =>
    let steps ← Steps.start Family.either (push []) outcome
    pure ⟨1, .either steps⟩
  | _, _, some outcome =>
    let steps ← Steps.start Family.attempt (push []) outcome
    pure ⟨1, .attempt steps⟩
  | none, none, none => Act.stop (.refused "not an outcome")

variable (setting : Setting)

def follow {F : Type → Type} (ofVerdict : Verdict → Act Names Json (F Value)) (k : Arrow) :
    StateT (List Value) (Act Names Json) (F Value) := fun values => do
  let (copies, values) ← Borrow.keep Value.copyList values
  let verdict ← setting.follow k copies
  let outcome ← ofVerdict verdict
  pure (outcome, values)

def supply {F : Type → Type} (ofVerdict : Verdict → Act Names Json (F Value)) (k : Arrow) :
    Act Names Json (F Value) := do
  let verdict ← setting.follow k []
  ofVerdict verdict

def next (k : Arrow) : ChainState → Act Names Json ChainState
  | .option steps =>
    .option <$> steps.next Family.option push (follow setting Verdict.option k)
  | .either steps =>
    .either <$> steps.next Family.either push (follow setting Verdict.either k)
  | .attempt steps =>
    .attempt <$> steps.next Family.attempt push (follow setting Verdict.attempt k)

def nextWith (k : Arrow) : ChainState → Act Names Json ChainState
  | .option steps =>
    .option <$> steps.nextWith Family.option push (supply setting Verdict.option k)
  | .either steps =>
    .either <$> steps.nextWith Family.either push (supply setting Verdict.either k)
  | .attempt steps =>
    .attempt <$> steps.nextWith Family.attempt push (supply setting Verdict.attempt k)

def filterOr (p : Test) (literal : Option Literal) (problem : Option Problem) :
    ChainState → Act Names Json ChainState
  | .option steps => .option <$> steps.filterOr (setting.askAll p) (setting.log "e" [])
  | .either steps => .either <$> steps.filterOr (setting.askAll p) do
      setting.log "e" []
      let literal ← demand "a literal" literal
      literal.build
  | .attempt steps => .attempt <$> steps.filterOr (setting.askAll p) do
      let problem ← demand "a problem" problem
      let raised ← setting.supply problem
      Capture.new raised

def filter (p : Test) : ChainState → Act Names Json ChainState
  | .option steps => .option <$> steps.filter (setting.askAll p)
  | _ => Act.stop (.refused "not a chain of options")

def run (chain : Chain) (use : ChainUse) : Act Names Json Chain := do
  match use with
  | .next k =>
    if chain.arity < capacity then
      let state ← next setting k chain.state
      pure ⟨chain.arity + 1, state⟩
    else Act.stop (.refused "the chain is full")
  | .nextWith k =>
    if chain.arity < capacity then
      let state ← nextWith setting k chain.state
      pure ⟨chain.arity + 1, state⟩
    else Act.stop (.refused "the chain is full")
  | .filterOr p literal problem =>
    let state ← filterOr setting p literal problem chain.state
    pure ⟨chain.arity, state⟩
  | .filter p =>
    let state ← filter setting p chain.state
    pure ⟨chain.arity, state⟩

def yields (f : Term) : ChainState → Act Names Json Value
  | .option steps => Value.ofOption <$> steps.yields Family.option (setting.call "f" f)
  | .either steps => Value.ofEither <$> steps.yields Family.either (setting.call "f" f)
  | .attempt steps => Value.attempt <$> steps.yields Family.attempt (setting.call "f" f)

def result : ChainState → Value
  | .option ⟨.ok values⟩ | .either ⟨.ok values⟩ | .attempt ⟨.ok values⟩ => .ok (.list values)
  | .option ⟨.error ()⟩ => .no .unit
  | .either ⟨.error value⟩ => .no value
  | .attempt ⟨.error capture⟩ => .no (.error capture)

def copyState : Borrow Names Json ChainState ChainState
  | .option steps =>
    Borrow.within .option .option
      (steps.copy Value.copyList fun failure => pure (.ok failure, failure))
  | .either steps => Borrow.within .either .either (steps.copy Value.copyList Value.copy)
  | .attempt steps =>
    Borrow.within .attempt .attempt
      (steps.copy Value.copyList fun failure => pure (.ok failure, failure))

def copy : Borrow Names Json Chain Chain := fun chain =>
  Borrow.within (Chain.mk chain.arity) (Chain.mk chain.arity) (copyState chain.state)

def shown (chain : Chain) : Shown :=
  let tuple values := Shown.apply "" (Value.shownItems values)
  match chain.state with
  | .option steps => steps.shown tuple fun _ => .atom "()"
  | .either steps => steps.shown tuple Value.shown
  | .attempt steps => steps.shown tuple Capture.shown

def summary (chain : Chain) : Json :=
  .object [("arity", .integer chain.arity), ("ok", .bool chain.isSuccessful)]

end Chain

end OutcomeAlgebra.Script
