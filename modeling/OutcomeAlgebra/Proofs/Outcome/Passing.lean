import OutcomeAlgebra.Proofs.Steps.Nesting
/-! Operations that pass a failure on. Each evaluates the outcome that it is given and
makes the same failure of a failure; only on a success does it go on. All operations
that the outcomes share are like this, chains of any length among them. -/
namespace OutcomeAlgebra

variable {κ ν α β γ ε : Type} {m : Type → Type} [Monad m] {F : Type → Type}

def Family.Passes (family : Family m F ε) (fail : {β : Type} → ε → F β)
    (operation : F α → m (F β)) : Prop :=
  ∃ onward : α → m (F β), ∀ outcome, operation outcome = family.split outcome >>= fun
    | .ok value => onward value
    | .error failure => pure (fail failure)

structure Family.Absorbs [Outcome m F] (family : Family m F ε) (fail : {β : Type} → ε → F β) :
    Prop where
  describes : family.Describes fail
  splitFail : ∀ {α : Type} (failure : ε), family.split (fail failure : F α) = pure (.error failure)
  map2 : ∀ {α β γ : Type} (second : F β) (f : α → β → m γ),
    family.Passes fail fun first => Outcome.map2 first second f

section Combinators

variable [Outcome m F] {family : Family m F ε} {fail : {β : Type} → ε → F β}

theorem mapPasses (describes : family.Describes fail) (f : α → m β) :
    family.Passes fail fun outcome => Outcome.map outcome f := by
  refine ⟨fun value => (fun made => family.rebuild (.ok made)) <$> f value, fun outcome => ?_⟩
  refine (describes.map outcome f).trans (bind_congr fun split => ?_)
  cases split <;> rfl

theorem flatMapPasses (describes : family.Describes fail) (f : α → m (F β)) :
    family.Passes fail fun outcome => Outcome.flatMap outcome f := by
  refine ⟨f, fun outcome => (describes.flatMap outcome f).trans (bind_congr fun split => ?_)⟩
  cases split <;> rfl

end Combinators

variable [LawfulMonad m]

theorem optionAbsorbs : (Family.option (m := m)).Absorbs fun _ => none where
  describes := optionDescribes
  splitFail failure := rfl
  map2 second f := by
    refine ⟨fun value => Optional.map2 f (some value) second, fun first => ?_⟩
    cases first <;> simp [Outcome.map2, Optional.map2, Family.option]

theorem eitherAbsorbs {L : Type} : (Family.either (m := m) (L := L)).Absorbs .left where
  describes := eitherDescribes
  splitFail failure := rfl
  map2 second f := by
    refine ⟨fun value => (Either.right value).map2 second f, fun first => ?_⟩
    cases first <;> simp [Outcome.map2, Either.map2, Family.either, Either.toExcept]

theorem attemptAbsorbs : (Family.attempt (κ := κ) (ν := ν)).Absorbs .failure where
  describes := attemptDescribes
  splitFail failure := rfl
  map2 second f := by
    refine ⟨fun value => second.map fun other => f value other, fun first => ?_⟩
    change first.map2 second f = first.intoResult >>= _
    refine bind_congr fun outcome => ?_
    cases outcome <;> rfl

inductive Onward (m : Type → Type) (F : Type → Type) (ε : Type) : Type → Type → Type 1 where
  | map {α β : Type} (f : α → m β) : Onward m F ε α β
  | flatMap {α β : Type} (f : α → m (F β)) : Onward m F ε α β
  | andThen {α β : Type} (f : α → m (F β)) : Onward m F ε α β
  | followedBy {α β : Type} (next : F β) : Onward m F ε α β
  | replace {α β : Type} (value : β) : Onward m F ε α β
  | void {α : Type} : Onward m F ε α Unit
  | map2 {α β γ : Type} (second : F β) (f : α → β → m γ) : Onward m F ε α γ
  | product {α β : Type} (second : F β) : Onward m F ε α (α × β)
  | chain {α β : Type} (plan : Plan m F β ε [α]) : Onward m F ε α β

def Onward.run [Outcome m F] (family : Family m F ε) : Onward m F ε α β → F α → m (F β)
  | .map f, outcome => Outcome.map outcome f
  | .flatMap f, outcome => Outcome.flatMap outcome f
  | .andThen f, outcome => Outcome.andThen outcome f
  | .followedBy next, outcome => Outcome.followedBy outcome next
  | .replace value, outcome => Outcome.replace outcome value
  | .void, outcome => Outcome.void outcome
  | .map2 second f, outcome => Outcome.map2 outcome second f
  | .product second, outcome => Outcome.product outcome second
  | .chain plan, outcome => plan.chained family outcome

variable [Outcome m F] {family : Family m F ε} {fail : {β : Type} → ε → F β}

theorem chainPasses (describes : family.Describes fail) (plan : Plan m F β ε [α]) :
    family.Passes fail (plan.chained family) := by
  refine ⟨fun value => plan.run family ⟨.ok (value, ())⟩, fun outcome => ?_⟩
  rw [Plan.chained, Steps.start, bind_assoc]
  refine bind_congr fun split => ?_
  cases split with
  | ok value => exact pure_bind _ _
  | error failure =>
    have failed := Plan.runFailed plan family failure
    rw [describes.rebuildError] at failed
    exact (pure_bind _ _).trans failed

theorem onwardPasses (absorbs : family.Absorbs fail) (operation : Onward m F ε α β) :
    family.Passes fail (operation.run family) := by
  cases operation with
  | map | replace | void => exact mapPasses absorbs.describes _
  | flatMap | andThen | followedBy => exact flatMapPasses absorbs.describes _
  | map2 second f => exact absorbs.map2 second f
  | product second => exact absorbs.map2 second _
  | chain plan => exact chainPasses absorbs.describes plan

end OutcomeAlgebra
