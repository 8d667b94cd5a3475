import OutcomeAlgebra.Json.Scan
import OutcomeAlgebra.Script.Chain
import OutcomeAlgebra.Script.Looks
import OutcomeAlgebra.Script.Order
import OutcomeAlgebra.Script.Uses
/-! Performing the steps of a script on its registers. A step borrows the registers:
what it has taken out of them is gone also when it panics. -/
namespace OutcomeAlgebra.Script

structure Registers where
  values : List (String × Value)
  chains : List (String × Chain)
  stored : List (String × Capture)

inductive Reply where
  | said (json : Json)
  | empty (reason : EmptyValue)
  | faulty (fault : Json.Fault)

namespace Registers

def without {α : Type} (name : String) (entries : List (String × α)) : List (String × α) :=
  entries.filter fun entry => entry.1 != name

def put {α : Type} (name : String) (value : α) (entries : List (String × α)) :
    List (String × α) :=
  (name, value) :: without name entries

def empty : Registers := ⟨[], [], []⟩

def missing {β : Type} (name : String) : Borrow Names Json Registers β :=
  Borrow.stop (.refused ("no register " ++ name))

def takeValue (name : String) : Borrow Names Json Registers Value := do
  let registers ← Borrow.peek
  match registers.values.lookup name with
  | none => missing name
  | some value =>
    Borrow.change fun registers => { registers with values := without name registers.values }
    pure value

def takeChain (name : String) : Borrow Names Json Registers Chain := do
  let registers ← Borrow.peek
  match registers.chains.lookup name with
  | none => missing name
  | some chain =>
    Borrow.change fun registers => { registers with chains := without name registers.chains }
    pure chain

def putValue (name : String) (value : Value) : Borrow Names Json Registers Unit :=
  Borrow.change fun registers =>
    { registers with
      values := put name value registers.values
      stored := match value with
        | .error capture => put name capture registers.stored
        | _ => registers.stored }

def putChain (name : String) (chain : Chain) : Borrow Names Json Registers Unit :=
  Borrow.change fun registers => { registers with chains := put name chain registers.chains }

def onValue {β : Type} (name : String) (look : Borrow Names Json Value β) :
    Borrow Names Json Registers β := do
  let registers ← Borrow.peek
  match registers.values.lookup name with
  | none => missing name
  | some value =>
    Borrow.focus value
      (fun kept registers => { registers with values := put name kept registers.values }) look

def onChain {β : Type} (name : String) (look : Borrow Names Json Chain β) :
    Borrow Names Json Registers β := do
  let registers ← Borrow.peek
  match registers.chains.lookup name with
  | none => missing name
  | some chain =>
    Borrow.focus chain
      (fun kept registers => { registers with chains := put name kept registers.chains }) look

def onPair {β : Type} (first second : String) (lookSame : Borrow Names Json Value β)
    (look : Value → Value → Act Names Json (Except Panic β × Value × Value)) :
    Borrow Names Json Registers β := do
  if first = second then onValue first lookSame
  else
    let registers ← Borrow.peek
    match registers.values.lookup first, registers.values.lookup second with
    | some a, some b =>
      Borrow.focus (a, b)
        (fun kept registers => { registers with
          values := put first kept.1 (put second kept.2 registers.values) })
        (fun pair => look pair.1 pair.2)
    | none, _ => missing first
    | _, none => missing second

end Registers

open Registers

variable (setting : Setting)

def Operand.take : Operand → Borrow Names Json Registers Value
  | .register name => takeValue name
  | .fresh literal => Borrow.aside literal.build

def Operand.takeAll : List Operand → Borrow Names Json Registers (List Value)
  | [] => pure []
  | operand :: operands => do
    let value ← operand.take
    let values ← takeAll operands
    pure (value :: values)

def Operand.target (operand : Operand) (target : Option String) : Option String :=
  match target, operand with
  | some name, _ => some name
  | none, .register name => some name
  | none, .fresh _ => none

def store (target : Option String) (value : Value) : Borrow Names Json Registers Reply := do
  let json ← Borrow.aside (setting.write value)
  match target with
  | some name => putValue name value
  | none => pure ()
  pure (.said json)

def storeChain (target : String) (chain : Chain) : Borrow Names Json Registers Reply := do
  putChain target chain
  pure (.said chain.summary)

def orderingName : Ordering → String
  | .lt => "Less"
  | .eq => "Equal"
  | .gt => "Greater"

def comparison (order : Option Ordering) (same : Bool) : Json :=
  let (lt, le, gt, ge) := Either.relations order
  .object [
    ("partial", match order with
      | some order => .text (orderingName order)
      | none => .null),
    ("eq", .bool same), ("lt", .bool lt), ("le", .bool le), ("gt", .bool gt), ("ge", .bool ge)]

def compareWith (left right : Value) : Act Names Json (Except Panic Json × Value × Value) := do
  let order := left.compare? right
  match ← left.equal right with
  | (.ok same, left, right) => pure (.ok (comparison order same), left, right)
  | (.error panic, left, right) => pure (.error panic, left, right)

def compareSelf (value : Value) : Act Names Json (Except Panic Json × Value) := do
  let order := value.compare? value
  Borrow.within id (comparison order) value.equalSelf

def Command.perform (command : Command) : Borrow Names Json Registers Reply := do
  match command with
  | .make making target =>
    let value ← Borrow.aside making.run
    store setting target value
  | .use how operand target =>
    let value ← operand.take
    match ← Borrow.aside (how.run setting value) with
    | .ok value => store setting (operand.target target) value
    | .error reason => pure (.empty reason)
  | .pair how first second target =>
    let a ← first.take
    let b ← second.take
    let value ← Borrow.aside (how.run setting a b)
    store setting (first.target target) value
  | .look how register =>
    let json ← onValue register (how.run setting)
    pure (.said json)
  | .copy source target =>
    let value ← onValue source Value.copy
    store setting (some target) value
  | .equal first second =>
    let same ← onPair first second Value.equalSelf Value.equal
    pure (.said (.bool same))
  | .compare first second =>
    let json ← onPair first second compareSelf compareWith
    pure (.said json)
  | .failure register target =>
    match ← onValue register (onTry Try.failure?) with
    | none => pure (.said (.tagged "none" (.integer 0)))
    | some capture => store setting (some target) (.error capture)
  | .sequence kind operands target =>
    let values ← Operand.takeAll operands
    let value ← Borrow.aside (kind.sequence values)
    store setting target value
  | .begin operand target =>
    let value ← operand.take
    let chain ← Borrow.aside (Chain.start value)
    storeChain target chain
  | .chain how name target =>
    let chain ← takeChain name
    let chain ← Borrow.aside (chain.run setting how)
    storeChain target chain
  | .copyChain name target =>
    let chain ← onChain name Chain.copy
    storeChain target chain
  | .chainSuccessful name =>
    let chain ← onChain name Borrow.peek
    pure (.said (.bool chain.isSuccessful))
  | .chainShown spread name =>
    let chain ← onChain name Borrow.peek
    pure (.said (.text (chain.shown.write spread)))
  | .yields f name target =>
    let chain ← takeChain name
    let value ← Borrow.aside (Chain.yields setting f chain.state)
    store setting (some target) value
  | .chainResult name target =>
    let chain ← takeChain name
    store setting (some target) (Chain.result chain.state)

end OutcomeAlgebra.Script
