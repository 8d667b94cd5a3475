/-! Computations with effects. Running one appends to a log, claims fresh handles
and ends in a value or in a panic; it can read the context that it is run in,
which need not be the one it was made in. What was logged before a panic stays
logged, and no computation can take back an entry, reuse a handle or change the
context: all are fixed by the shape of `Act`, not by a rule that callers keep.
Threads and clocks are outside this file. -/
namespace OutcomeAlgebra

inductive Event where
  | evaluating
  | captured (message : String)
  | stopped (index : Nat)
  | poisoned
  deriving DecidableEq, Repr

inductive Panic where
  | emptyRepeat
  | leftOfRight
  | rightOfLeft
  | poisoned
  | raised (message : String)
  | refused (reason : String)
  deriving DecidableEq, Repr

def Panic.message : Panic → String
  | .emptyRepeat => "append_n requires count > 0"
  | .leftOfRight => "called `Either::unwrap_left()` on a `Right` value"
  | .rightOfLeft => "called `Either::unwrap_right()` on a `Left` value"
  | .poisoned => "Try::delayed: computation panicked during a previous evaluation"
  | .raised message => message
  | .refused reason => reason

inductive Entry (ν : Type) where
  | event (event : Event)
  | note (note : ν)
  deriving DecidableEq, Repr

structure Report (ν α : Type) where
  log : List (Entry ν)
  used : Nat
  ending : Except Panic α

/-- A computation, given its context and the first handle that is still free. -/
def Act (κ ν α : Type) : Type := κ → Nat → Report ν α

namespace Act

variable {κ ν α β γ : Type}

def run (act : Act κ ν α) (context : κ) (next : Nat) : Report ν α := act context next

def follow (context : κ) (next : Nat) (first : Report ν α) (rest : α → Act κ ν β) :
    Report ν β :=
  match first.ending with
  | .error panic => ⟨first.log, first.used, .error panic⟩
  | .ok value =>
    let second := rest value context (next + first.used)
    ⟨first.log ++ second.log, first.used + second.used, second.ending⟩

instance : Monad (Act κ ν) where
  pure value := fun _ _ => ⟨[], 0, .ok value⟩
  bind act rest := fun context next => follow context next (act context next) rest

theorem runPure (value : α) (context : κ) (next : Nat) :
    (pure value : Act κ ν α).run context next = ⟨[], 0, .ok value⟩ := rfl

theorem runBind (act : Act κ ν α) (rest : α → Act κ ν β) (context : κ) (next : Nat) :
    (act >>= rest).run context next = follow context next (act.run context next) rest := rfl

theorem followPure (context : κ) (next : Nat) (report : Report ν α) :
    follow context next report (fun value => (pure value : Act κ ν α)) = report := by
  obtain ⟨log, used, ending⟩ := report
  cases ending with
  | error panic => rfl
  | ok value => simp [follow, pure]

theorem followFollow (context : κ) (next : Nat) (report : Report ν α)
    (second : α → Act κ ν β) (third : β → Act κ ν γ) :
    follow context next (follow context next report second) third =
      follow context next report (fun value => second value >>= third) := by
  obtain ⟨log, used, ending⟩ := report
  cases ending with
  | error panic => rfl
  | ok value =>
    simp only [follow, bind]
    cases (second value context (next + used)).ending with
    | error panic => rfl
    | ok value => simp [List.append_assoc, Nat.add_assoc]

instance : LawfulMonad (Act κ ν) :=
  LawfulMonad.mk' (Act κ ν)
    (fun act => funext fun context => funext fun next =>
      followPure context next (act context next))
    (fun value rest => funext fun context => funext fun next => by
      simp [bind, pure, follow])
    (fun act second third => funext fun context => funext fun next =>
      followFollow context next (act context next) second third)

def write (entry : Entry ν) : Act κ ν Unit := fun _ _ => ⟨[entry], 0, .ok ()⟩

def emit (event : Event) : Act κ ν Unit := write (.event event)

def note (note : ν) : Act κ ν Unit := write (.note note)

def fresh : Act κ ν Nat := fun _ next => ⟨[], 1, .ok next⟩

def context : Act κ ν κ := fun context _ => ⟨[], 0, .ok context⟩

def stop (panic : Panic) : Act κ ν α := fun _ _ => ⟨[], 0, .error panic⟩

/-- Runs a computation to its ending and hands the ending over as a value. -/
def ending (act : Act κ ν α) : Act κ ν (Except Panic α) := fun context next =>
  let report := act context next
  ⟨report.log, report.used, .ok report.ending⟩

def resume (ending : Except Panic α) : Act κ ν α := fun _ _ => ⟨[], 0, ending⟩

instance : MonadExceptOf Panic (Act κ ν) where
  throw := stop
  tryCatch act handler := do
    match ← act.ending with
    | .ok value => pure value
    | .error panic => handler panic

theorem stopBind (panic : Panic) (rest : α → Act κ ν β) :
    (stop panic >>= rest) = stop panic := rfl

end Act

end OutcomeAlgebra
