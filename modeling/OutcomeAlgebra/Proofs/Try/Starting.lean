import OutcomeAlgebra.Proofs.Try.Observation
/-! Computations that leave a mark when they start. Whatever notes a computation and
the payloads write, they are kept apart from the mark, so that a log tells by its
marks how often the computation was started. -/
namespace OutcomeAlgebra

variable {κ ν μ α β : Type}

def Entry.renote (f : ν → μ) : Entry ν → Entry μ
  | .event reported => .event reported
  | .note written => .note (f written)

def Act.renote (f : ν → μ) (act : Act κ ν α) : Act κ μ α := fun context next =>
  let report := act.run context next
  ⟨report.log.map (Entry.renote f), report.used, report.ending⟩

def Act.marked (act : Act κ ν α) : Act κ (Option ν) α := do
  Act.note none
  act.renote some

def Payload.renoted (payload : Payload κ ν α) (f : ν → μ) : Payload κ μ α where
  copy value := (payload.copy value).renote f
  equal left right := (payload.equal left right).renote f
  shown := payload.shown
  copyEnds value := payload.copyEnds value
  equalEnds left right := payload.equalEnds left right

def Entry.isMark : Entry (Option ν) → Bool
  | .note none => true
  | _ => false

def starts (log : List (Entry (Option ν))) : Nat := log.countP Entry.isMark

theorem startsAppend (front back : List (Entry (Option ν))) :
    starts (front ++ back) = starts front + starts back := List.countP_append

namespace Act

def Unmarked (act : Act κ (Option ν) α) : Prop :=
  ∀ context next, starts (act.run context next).log = 0

theorem unmarkedPure (value : α) : (pure value : Act κ (Option ν) α).Unmarked := fun _ _ => rfl

theorem startsBind {rest : α → Act κ (Option ν) β} (act : Act κ (Option ν) α)
    (unmarked : ∀ value, (rest value).Unmarked) (context : κ) (next : Nat) :
    starts ((act >>= rest).run context next).log = starts (act.run context next).log := by
  cases ran : act.run context next with
  | mk log used ending =>
    cases ending with
    | error panic => rw [runBindError ran]
    | ok value =>
      rw [runBindOk ran, Report.behind, startsAppend, unmarked value]
      rfl

theorem Unmarked.bind {act : Act κ (Option ν) α} {rest : α → Act κ (Option ν) β}
    (first : act.Unmarked) (second : ∀ value, (rest value).Unmarked) : (act >>= rest).Unmarked := by
  intro context next
  rw [startsBind act second, first]

theorem unmarkedRenote (act : Act κ ν α) : (act.renote some).Unmarked := by
  intro context next
  have plain : ∀ entry ∈ (act.run context next).log, (Entry.renote some entry).isMark = false :=
    fun entry _ => by cases entry <;> rfl
  show ((act.run context next).log.map (Entry.renote some)).countP Entry.isMark = 0
  rw [List.countP_map, List.countP_eq_zero]
  intro entry member
  simp [plain entry member]

theorem startsMarked (act : Act κ ν α) (context : κ) (next : Nat) :
    starts (act.marked.run context next).log = 1 := by
  have ran : (Act.note none : Act κ (Option ν) Unit).run context next = ⟨[.note none], 0, .ok ()⟩ :=
    rfl
  rw [marked, runBindOk ran, Report.behind, startsAppend, unmarkedRenote act]
  rfl

end Act

namespace Try

theorem unmarkedCapture (ended : Except (Raised Fault) α) :
    (capture ended : Act κ (Option ν) _).Unmarked := by
  rcases ended with (fault | ⟨handle, fault⟩) | value <;> exact fun _ _ => rfl

theorem unmarkedOnOutcome (payload : Payload κ ν α) (look : Look α) (outcome : Except Capture α) :
    (look.onOutcome (payload.renoted some) outcome).Unmarked :=
  onOutcomeBuilt (P := Act.Unmarked) Act.unmarkedPure Act.Unmarked.bind
    (fun value => Act.unmarkedRenote (payload.copy value))
    (fun left right => Act.unmarkedRenote (payload.equal left right)) look outcome

end Try

end OutcomeAlgebra
