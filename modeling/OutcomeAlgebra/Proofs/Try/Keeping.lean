import OutcomeAlgebra.Proofs.Try.Observation
/-! A `Try` that is looked at and stays where it is. Every look but showing wants the
outcome first, just as giving the `Try` up would, and goes on from there; it leaves
the outcome behind, so that the next look finds it. -/
namespace OutcomeAlgebra

variable {κ ν α β γ τ σ : Type}

namespace Borrow

theorem keepPure (value : β) (owner : τ) :
    keep (pure value : Borrow κ ν τ β) owner = pure (value, owner) :=
  pure_bind (m := Act κ ν) _ _

theorem keepBind (first : Borrow κ ν τ β) (rest : β → Borrow κ ν τ γ) (owner : τ) :
    keep (first >>= rest) owner =
      keep first owner >>= fun kept => keep (rest kept.1) kept.2 := by
  rw [keep, Try.bindAt, keep, bind_assoc, bind_assoc]
  refine bind_congr fun answer => ?_
  obtain ⟨ending, owner⟩ := answer
  cases ending with
  | error panic => exact (pure_bind (m := Act κ ν) _ _).trans (Act.stopBind panic _).symm
  | ok value => exact (pure_bind _ _).symm

end Borrow

namespace Try

def kept : Try κ ν α → Except Capture α → Try κ ν α
  | .deferred _, outcome => .deferred (.ready outcome)
  | _, outcome => ofOutcome outcome

theorem asResultKept (attempt : Try κ ν α) :
    asResult attempt = attempt.intoResult.ending >>= fun
      | .ok outcome => pure (.ok outcome, attempt.kept outcome)
      | .error panic => pure (.error panic, .deferred .poisoned) := by
  cases attempt with
  | success value => rfl
  | failure capture => rfl
  | deferred cell =>
    rw [asResultSettles]
    refine bind_congr fun ending => ?_
    cases ending <;> rfl

theorem keepAsResult (attempt : Try κ ν α) :
    Borrow.keep asResult attempt =
      attempt.intoResult >>= fun outcome => pure (outcome, attempt.kept outcome) := by
  rw [Borrow.keep, asResultKept, bind_assoc, Act.endingBind _ fun panic => pure_bind _ _]
  simp only [pure_bind]

inductive Glance (α : Type) : Type → Type 1 where
  | result : Glance α (Except Capture α)
  | isSuccess : Glance α Bool
  | isFailure : Glance α Bool
  | failure : Glance α (Option Capture)
  | items : Glance α (List α)

def Glance.seen : Glance α β → Borrow κ ν (Try κ ν α) β
  | .result => asResult
  | .isSuccess => Try.isSuccess
  | .isFailure => Try.isFailure
  | .failure => failure?
  | .items => Try.items

def Glance.sees : Glance α β → Except Capture α → β
  | .result, outcome => outcome
  | .isSuccess, outcome => outcome.isOk
  | .isFailure, outcome => !outcome.isOk
  | .failure, .ok _ => none
  | .failure, .error capture => some capture
  | .items, outcome => outcome.toOption.toList

theorem glanceKeeps (look : Glance α β) (attempt : Try κ ν α) :
    Borrow.keep look.seen attempt =
      attempt.intoResult >>= fun outcome => pure (look.sees outcome, attempt.kept outcome) := by
  cases look with
  | result => exact keepAsResult attempt
  | isSuccess | isFailure | failure | items =>
    simp only [Glance.seen, isSuccess, isFailure, failure?, items, Borrow.keepBind, keepAsResult,
      bind_assoc, pure_bind]
    refine bind_congr fun outcome => ?_
    cases outcome <;> exact Borrow.keepPure _ _

def ontoValue (payload : Borrow κ ν α β) (missed : Capture → γ) (answer : β → γ) :
    Borrow κ ν (Try κ ν α) γ := fun attempt => do
  match ← asResult attempt with
  | (.error panic, attempt) => pure (.error panic, attempt)
  | (.ok (.error capture), attempt) => pure (.ok (missed capture), attempt)
  | (.ok (.ok value), attempt) => Borrow.within attempt.putBack answer (payload value)

theorem copyOntoValue (payload : Borrow κ ν α α) :
    Try.copy payload = ontoValue payload failure success := by
  funext attempt
  refine bind_congr (m := Act κ ν) fun looked => ?_
  rcases looked with ⟨panic | (capture | value), attempt⟩ <;> rfl

theorem equalSelfOntoValue (payload : Borrow κ ν α Bool) :
    equalSelf payload = ontoValue payload (fun _ => true) id := by
  funext attempt
  refine bind_congr (m := Act κ ν) fun looked => ?_
  rcases looked with ⟨panic | (capture | value), attempt⟩ <;> rfl

theorem ontoValueKeeps (payload : Borrow κ ν α β) (missed : Capture → γ) (answer : β → γ)
    (attempt : Try κ ν α) :
    Borrow.keep (ontoValue payload missed answer) attempt =
      (attempt.intoResult >>= fun
        | .error capture => pure (missed capture, attempt.kept (.error capture))
        | .ok value => Borrow.keep payload value >>= fun looked =>
          pure (answer looked.1, attempt.kept (.ok looked.2))) := by
  unfold Borrow.keep ontoValue
  rw [asResultKept, bind_assoc, bind_assoc,
    Act.endingBind _ fun panic => by simp only [pure_bind]; rfl]
  refine bind_congr fun outcome => ?_
  cases outcome with
  | error capture => simp only [pure_bind]
  | ok value =>
    simp only [pure_bind, bind_assoc, Borrow.within]
    refine bind_congr fun looked => ?_
    obtain ⟨ending, value⟩ := looked
    cases ending with
    | error panic => exact (pure_bind _ _).trans (Act.stopBind panic _).symm
    | ok found => cases attempt <;> simp [kept, putBack, ofOutcome]

def keepBoth {τ σ : Type} (compared : Act κ ν (Except Panic β × τ × σ)) : Act κ ν (β × τ × σ) := do
  match ← compared with
  | (.ok answer, left, right) => pure (answer, left, right)
  | (.error panic, _, _) => throw panic

theorem equalKeeps (payload : α → α → Act κ ν (Except Panic Bool × α × α))
    (left right : Try κ ν α) :
    keepBoth (Try.equal payload left right) =
      (left.intoResult >>= fun first => right.intoResult >>= fun second =>
        match first, second with
        | .ok a, .ok b => keepBoth (payload a b) >>= fun compared =>
          pure (compared.1, left.kept (.ok compared.2.1), right.kept (.ok compared.2.2))
        | .error a, .error b => pure (a.same b, left.kept first, right.kept second)
        | _, _ => pure (false, left.kept first, right.kept second)) := by
  unfold keepBoth Try.equal
  rw [asResultKept left, bind_assoc, bind_assoc,
    Act.endingBind _ fun panic => by simp only [pure_bind]; rfl]
  refine bind_congr fun first => ?_
  simp only [pure_bind]
  rw [asResultKept right, bind_assoc, bind_assoc,
    Act.endingBind _ fun panic => by simp only [pure_bind]; rfl]
  refine bind_congr fun second => ?_
  simp only [pure_bind]
  cases first with
  | error a => cases second <;> exact pure_bind _ _
  | ok a =>
    cases second with
    | error b => exact pure_bind _ _
    | ok b =>
      simp only [bind_assoc]
      refine bind_congr fun compared => ?_
      obtain ⟨ending, a, b⟩ := compared
      cases ending with
      | error panic => exact (pure_bind _ _).trans (Act.stopBind panic _).symm
      | ok answer => cases left <;> cases right <;> simp [kept, putBack, ofOutcome]

end Try

end OutcomeAlgebra
