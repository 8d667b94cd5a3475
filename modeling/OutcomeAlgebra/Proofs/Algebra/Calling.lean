import OutcomeAlgebra.Algebra.Monoid
import OutcomeAlgebra.Proofs.Try.Starting
/-! Which operations a computation calls, by their names and in their order. Whatever an
operation does and notes when it is called is kept apart from its name. A panic cuts the
calls short, and then nothing is claimed but that they began as they should. -/
namespace OutcomeAlgebra

variable {κ ν μ α β : Type}

def Entry.called? : Entry (ν ⊕ μ) → Option μ
  | .note (.inr name) => some name
  | _ => none

def calls (log : List (Entry (ν ⊕ μ))) : List μ := log.filterMap Entry.called?

theorem callsAppend (front back : List (Entry (ν ⊕ μ))) :
    calls (front ++ back) = calls front ++ calls back := List.filterMap_append

theorem callsUnnamed (log : List (Entry ν)) :
    calls (log.map (Entry.renote (.inl : ν → ν ⊕ μ))) = [] := by
  induction log with
  | nil => rfl
  | cons entry rest ih => cases entry <;> simpa [calls, Entry.renote, Entry.called?] using ih

def Report.Calls (names : List μ) : Report (ν ⊕ μ) α → Prop
  | ⟨log, _, .ok _⟩ => calls log = names
  | ⟨log, _, .error _⟩ => calls log <+: names

namespace Act

def Calls (act : Act κ (ν ⊕ μ) α) (names : List μ) : Prop :=
  ∀ context next, (act.run context next).Calls names

theorem callsPure (value : α) : (pure value : Act κ (ν ⊕ μ) α).Calls [] := fun _ _ => rfl

theorem callsName (name : μ) : (Act.note (.inr name) : Act κ (ν ⊕ μ) Unit).Calls [name] :=
  fun _ _ => rfl

theorem Calls.bind {act : Act κ (ν ⊕ μ) α} {rest : α → Act κ (ν ⊕ μ) β} {front back : List μ}
    (first : act.Calls front) (second : ∀ value, (rest value).Calls back) :
    (act >>= rest).Calls (front ++ back) := by
  intro context next
  have began := first context next
  cases ran : act.run context next with
  | mk log used ending =>
    rw [ran] at began
    cases ending with
    | error panic =>
      rw [runBindError ran]
      have cut : calls log <+: front := began
      exact cut.trans (List.prefix_append front back)
    | ok value =>
      have whole : calls log = front := began
      have went := second value context (next + used)
      rw [runBindOk ran]
      cases last : (rest value).run context (next + used) with
      | mk more further ending =>
        rw [last] at went
        cases ending with
        | error panic =>
          have cut : calls more <+: back := went
          simpa [Report.behind, Report.Calls, callsAppend, whole] using cut
        | ok value =>
          have rest : calls more = back := went
          simp [Report.behind, Report.Calls, callsAppend, whole, rest]

theorem Calls.map {act : Act κ (ν ⊕ μ) α} {names : List μ} (called : act.Calls names) (f : α → β) :
    (f <$> act).Calls names := by
  have mapped := called.bind fun value => callsPure (f value)
  rwa [List.append_nil, ← map_eq_pure_bind] at mapped

theorem callsRenote (act : Act κ ν α) : (act.renote (.inl : ν → ν ⊕ μ)).Calls [] := by
  intro context next
  have unnamed := callsUnnamed (μ := μ) (act.run context next).log
  show Report.Calls [] ⟨_, _, (act.run context next).ending⟩
  cases (act.run context next).ending with
  | error panic => simp [Report.Calls, unnamed]
  | ok value => exact unnamed

end Act

def SemigroupOp.named (name : μ) (op : SemigroupOp (Act κ ν) α) :
    SemigroupOp (Act κ (ν ⊕ μ)) α where
  append a b := do
    Act.note (.inr name)
    (op.append a b).renote .inl

def MonoidOp.named (name : μ) (monoid : MonoidOp (Act κ ν) α) : MonoidOp (Act κ (ν ⊕ μ)) α :=
  .of (monoid.toSemigroupOp.named name) (monoid.empty.renote .inl)

def Copying.unnamed (copy : Copying (Act κ ν) α) : Copying (Act κ (ν ⊕ μ)) α :=
  fun value => (copy value).renote .inl

theorem namedCalls (name : μ) (op : SemigroupOp (Act κ ν) α) (a b : α) :
    ((op.named name).append a b).Calls [name] :=
  (Act.callsName name).bind fun _ => Act.callsRenote (op.append a b)

theorem foldCalls (name : μ) (op : SemigroupOp (Act κ ν) α) (values : List α) (start : α) :
    (values.foldlM (op.named name).append start).Calls (List.replicate values.length name) := by
  induction values generalizing start with
  | nil => exact Act.callsPure start
  | cons value rest ih =>
    simp only [List.foldlM_cons, List.length_cons, List.replicate_succ]
    exact (namedCalls name op start value).bind fun combined => ih combined

end OutcomeAlgebra
