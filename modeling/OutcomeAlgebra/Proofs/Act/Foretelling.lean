import OutcomeAlgebra.Proofs.Act.Run
/-! One program that tells how another one fails. The first is the shorter one: it has
none of the steps that only a success would take, and says nothing where the second
goes on from a success. Nothing is said of runs in which the first panics. -/
namespace OutcomeAlgebra

variable {κ ν σ τ ρ ε : Type}

namespace Act

/- Whenever one program ends in a failure, the other one ends in what is made of that,
behind the same log and the same handles. -/
def Foretells (plan : Act κ ν (Option ε)) (made : ε → τ) (act : Act κ ν τ) : Prop :=
  ∀ ⦃context next log used failure⦄, plan.run context next = ⟨log, used, .ok (some failure)⟩ →
    act.run context next = ⟨log, used, .ok (made failure)⟩

theorem foretellsFailure (failure : ε) (made : ε → τ) :
    (pure (some failure) : Act κ ν (Option ε)).Foretells made (pure (made failure)) := by
  intro context next log used other ran
  cases ran
  rfl

theorem foretellsNothing (made : ε → τ) (act : Act κ ν τ) :
    (pure none : Act κ ν (Option ε)).Foretells made act := by
  intro context next log used failure ran
  cases ran

theorem foretellsBind {made : ε → τ} (first : Act κ ν σ) {plan : σ → Act κ ν (Option ε)}
    {act : σ → Act κ ν τ} (later : ∀ value, (plan value).Foretells made (act value)) :
    (first >>= plan).Foretells made (first >>= act) := by
  intro context next log used failure ran
  cases began : first.run context next with
  | mk firstLog firstUsed ending =>
    cases ending with
    | error panic =>
      rw [runBindError began] at ran
      cases ran
    | ok value =>
      rw [runBindOk began] at ran ⊢
      cases ended : (plan value).run context (next + firstUsed) with
      | mk moreLog moreUsed outcome =>
        rw [ended] at ran
        cases ran
        rw [later value ended]
        rfl

theorem foretellsThen {plan : Act κ ν (Option ε)} {made : ε → τ} {act : Act κ ν τ}
    (first : plan.Foretells made act) (after : ε → Act κ ν (Option σ)) {last : σ → ρ}
    (rest : τ → Act κ ν ρ)
    (second : ∀ failure, (after failure).Foretells last (rest (made failure))) :
    (plan >>= fun
      | some failure => after failure
      | none => pure none).Foretells last (act >>= rest) := by
  intro context next log used failure ran
  cases began : plan.run context next with
  | mk firstLog firstUsed ending =>
    cases ending with
    | error panic =>
      rw [runBindError began] at ran
      cases ran
    | ok found =>
      rw [runBindOk began] at ran
      cases found with
      | none => cases ran
      | some between =>
        rw [runBindOk (first began)]
        cases ended : (after between).run context (next + firstUsed) with
        | mk moreLog moreUsed outcome =>
          rw [ended] at ran
          cases ran
          rw [second between ended]
          rfl

theorem foretellsOn {plan : Act κ ν (Option ε)} {made : ε → τ} {act : Act κ ν τ}
    (first : plan.Foretells made act) {last : ε → ρ} {rest : τ → Act κ ν ρ}
    (onward : ∀ failure, rest (made failure) = pure (last failure)) :
    plan.Foretells last (act >>= rest) := by
  intro context next log used failure ran
  rw [runBindOk (first ran), onward failure]
  simp [Report.behind, runPure]

theorem foretellsMap {plan : Act κ ν (Option ε)} {made : ε → τ} {act : Act κ ν τ}
    (first : plan.Foretells made act) {f : τ → ρ} {last : ε → ρ}
    (onward : ∀ failure, f (made failure) = last failure) : plan.Foretells last (f <$> act) := by
  rw [map_eq_pure_bind]
  exact foretellsOn first fun failure => congrArg pure (onward failure)

end Act

end OutcomeAlgebra
