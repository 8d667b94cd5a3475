import OutcomeAlgebra.Outcome.Basic
import OutcomeAlgebra.Steps.Basic
/-! Flat chains and the nested combinators that they stand for. A plan is a chain as
data: its transitions in order, onto a tuple that grows by one value at a time.
Both readings of a plan are programs, and their equality covers callbacks with
effects of any kind, panics among them, and the order in which these happen. -/
namespace OutcomeAlgebra

def Values : List Type → Type
  | [] => Unit
  | α :: types => α × Values types

def Values.push {α : Type} : {types : List Type} → Values types → α → Values (types ++ [α])
  | [], (), value => (value, ())
  | _ :: _, (first, values), value => (first, values.push value)

inductive Plan (m : Type → Type) (F : Type → Type) (β : Type) : Type → List Type → Type 1 where
  | yields {ε types} (f : Values types → m β) : Plan m F β ε types
  | next {ε types α} (short : types.length < 6) (f : StateT (Values types) m (F α))
      (rest : Plan m F β ε (types ++ [α])) : Plan m F β ε types
  | nextWith {ε types α} (short : types.length < 6) (supplier : m (F α))
      (rest : Plan m F β ε (types ++ [α])) : Plan m F β ε types
  | filterOr {ε types} (predicate : StateT (Values types) m Bool) (onFailure : m ε)
      (rest : Plan m F β ε types) : Plan m F β ε types
  | filter {types} (predicate : StateT (Values types) m Bool)
      (rest : Plan m F β Unit types) : Plan m F β Unit types

namespace Plan

variable {m : Type → Type} {F : Type → Type} [Monad m] {α β ε : Type} {types : List Type}

def run : {ε : Type} → {types : List Type} → Plan m F β ε types → Family m F ε →
    Steps ε (Values types) → m (F β)
  | _, _, .yields f, family, steps => steps.yields family f
  | _, _, .next _ f rest, family, steps => do
    let steps ← steps.next family Values.push f
    rest.run family steps
  | _, _, .nextWith _ supplier rest, family, steps => do
    let steps ← steps.nextWith family Values.push supplier
    rest.run family steps
  | _, _, .filterOr predicate onFailure rest, family, steps => do
    let steps ← steps.filterOr predicate onFailure
    rest.run family steps
  | _, _, .filter predicate rest, family, steps => do
    let steps ← steps.filter predicate
    rest.run family steps

def chained (plan : Plan m F β ε [α]) (family : Family m F ε) (outcome : F α) : m (F β) := do
  let steps ← Steps.start family (fun value => ((value, ()) : Values [α])) outcome
  plan.run family steps

variable [Outcome m F]

/- An outcome in front of the rest of a plan: `map` if only the projection is left,
otherwise `flatMap` into what is nested further in. -/
def onto (plan : Plan m F β ε types) (nested : Values types → m (F β))
    (push : α → Values types) (outcome : F α) : m (F β) :=
  match plan with
  | .yields f => Outcome.map outcome fun value => f (push value)
  | _ => Outcome.flatMap outcome fun value => nested (push value)

def nest : {ε : Type} → {types : List Type} → Plan m F β ε types → (fail : ε → F β) →
    Values types → m (F β)
  | _, _, .yields f, _, values => Outcome.map (Outcome.lift m values) f
  | _, _, .next _ f rest, fail, values => do
    let (outcome, values) ← f values
    rest.onto (rest.nest fail) values.push outcome
  | _, _, .nextWith _ supplier rest, fail, values => do
    let outcome ← supplier
    rest.onto (rest.nest fail) values.push outcome
  | _, _, .filterOr predicate onFailure rest, fail, values => do
    let (accepted, values) ← predicate values
    if accepted then rest.nest fail values
    else
      let failure ← onFailure
      pure (fail failure)
  | _, _, .filter predicate rest, fail, values => do
    let (accepted, values) ← predicate values
    if accepted then rest.nest fail values else pure (fail ())

def nested (plan : Plan m F β ε [α]) (fail : ε → F β) (outcome : F α) : m (F β) :=
  plan.onto (plan.nest fail) (fun value => (value, ())) outcome

end Plan

structure Family.Describes {m : Type → Type} {F : Type → Type} {ε : Type} [Monad m] [Outcome m F]
    (family : Family m F ε) (fail : {β : Type} → ε → F β) : Prop where
  splitLift : ∀ {α : Type} (value : α), family.split (Outcome.lift m value) = pure (.ok value)
  rebuildError : ∀ {β : Type} (failure : ε), family.rebuild (α := β) (.error failure) = fail failure
  map : ∀ {α β : Type} (outcome : F α) (f : α → m β), Outcome.map outcome f =
    family.split outcome >>= fun
      | .ok value => (fun made => family.rebuild (.ok made)) <$> f value
      | .error failure => pure (fail failure)
  flatMap : ∀ {α β : Type} (outcome : F α) (f : α → m (F β)), Outcome.flatMap outcome f =
    family.split outcome >>= fun
      | .ok value => f value
      | .error failure => pure (fail failure)

theorem optionDescribes {m : Type → Type} [Monad m] [LawfulMonad m] :
    (Family.option (m := m)).Describes fun _ => none where
  splitLift value := rfl
  rebuildError failure := rfl
  map outcome f := by
    cases outcome <;> simp [Outcome.map, Optional.map, Family.option]
  flatMap outcome f := by
    cases outcome <;> simp [Outcome.flatMap, Optional.flatMap, Family.option]

theorem eitherDescribes {m : Type → Type} [Monad m] [LawfulMonad m] {L : Type} :
    (Family.either (m := m) (L := L)).Describes .left where
  splitLift value := rfl
  rebuildError failure := rfl
  map outcome f := by
    cases outcome <;> simp [Outcome.map, Either.map, Either.mapRight, Family.either,
      Either.toExcept, Either.ofExcept]
  flatMap outcome f := by
    cases outcome <;> simp [Outcome.flatMap, Either.flatMap, Family.either, Either.toExcept]

theorem attemptDescribes {κ ν : Type} :
    (Family.attempt (κ := κ) (ν := ν)).Describes .failure where
  splitLift value := rfl
  rebuildError failure := rfl
  map outcome f := by
    change outcome.map f = outcome.intoResult >>= _
    refine bind_congr fun split => ?_
    cases split <;> rfl
  flatMap outcome f := by
    change outcome.flatMap f = outcome.intoResult >>= _
    refine bind_congr fun split => ?_
    cases split <;> rfl

namespace Plan

variable {m : Type → Type} [Monad m] [LawfulMonad m] {F : Type → Type} {α β ε : Type}
  {types : List Type} {family : Family m F ε}

theorem runFailed (plan : Plan m F β ε types) (family : Family m F ε) (failure : ε) :
    plan.run family ⟨.error failure⟩ = pure (family.rebuild (.error failure)) := by
  induction plan with
  | yields f => rfl
  | next short f rest ih => exact (pure_bind _ _).trans (ih family failure)
  | nextWith short supplier rest ih => exact (pure_bind _ _).trans (ih family failure)
  | filterOr predicate onFailure rest ih => exact (pure_bind _ _).trans (ih family failure)
  | filter predicate rest ih => exact (pure_bind _ _).trans (ih family failure)

def enter (plan : Plan m F β ε types) (family : Family m F ε) (push : α → Values types)
    (outcome : F α) : m (F β) := do
  match ← family.split outcome with
  | .ok value => plan.run family ⟨.ok (push value)⟩
  | .error failure => plan.run family ⟨.error failure⟩

variable [Outcome m F] {fail : {β : Type} → ε → F β}

theorem enterYields (describes : family.Describes fail) (f : Values types → m β)
    (push : α → Values types) (outcome : F α) :
    (yields f : Plan m F β ε types).enter family push outcome =
      Outcome.map outcome fun value => f (push value) := by
  rw [describes.map]
  refine bind_congr fun split => ?_
  cases split with
  | ok value => simp [run, Steps.yields]
  | error failure => exact congrArg pure (describes.rebuildError failure)

theorem enterOnto (describes : family.Describes fail) (plan : Plan m F β ε types)
    (held : ∀ values, plan.run family ⟨.ok values⟩ = plan.nest fail values)
    (push : α → Values types) (outcome : F α) :
    plan.enter family push outcome = plan.onto (plan.nest fail) push outcome := by
  have deeper : plan.enter family push outcome =
      Outcome.flatMap outcome fun value => plan.nest fail (push value) := by
    rw [describes.flatMap]
    refine bind_congr fun split => ?_
    cases split with
    | ok value => exact held (push value)
    | error failure =>
      exact (runFailed plan family failure).trans (congrArg pure (describes.rebuildError failure))
  cases plan with
  | yields f => exact enterYields describes f push outcome
  | next short f rest => exact deeper
  | nextWith short supplier rest => exact deeper
  | filterOr predicate onFailure rest => exact deeper
  | filter predicate rest => exact deeper

theorem runHeld (describes : family.Describes fail) (plan : Plan m F β ε types)
    (values : Values types) : plan.run family ⟨.ok values⟩ = plan.nest fail values := by
  -- The values in hand are what the nested form has bound on its way in.
  induction plan with
  | yields f =>
    rw [nest, describes.map, describes.splitLift, pure_bind]
    simp [run, Steps.yields]
  | next short f rest ih =>
    rw [run, nest]
    simp only [Steps.next, bind_assoc]
    refine bind_congr fun made => ?_
    obtain ⟨outcome, values⟩ := made
    rw [← enterOnto describes rest (ih describes) values.push outcome]
    refine bind_congr fun split => ?_
    cases split <;> exact pure_bind _ _
  | nextWith short supplier rest ih =>
    rw [run, nest]
    simp only [Steps.nextWith, Steps.next, bind_assoc, pure_bind]
    refine bind_congr fun outcome => ?_
    rw [← enterOnto describes rest (ih describes) values.push outcome]
    refine bind_congr fun split => ?_
    cases split <;> exact pure_bind _ _
  | filterOr predicate onFailure rest ih =>
    rw [run, nest]
    simp only [Steps.filterOr, bind_assoc]
    refine bind_congr fun verdict => ?_
    obtain ⟨accepted, values⟩ := verdict
    cases accepted with
    | true => exact (pure_bind _ _).trans (ih describes values)
    | false =>
      simp only [Bool.false_eq_true, if_false, bind_assoc, pure_bind]
      refine bind_congr fun failure => ?_
      rw [runFailed, describes.rebuildError]
  | filter predicate rest ih =>
    rw [run, nest]
    simp only [Steps.filter, Steps.filterOr, bind_assoc]
    refine bind_congr fun verdict => ?_
    obtain ⟨accepted, values⟩ := verdict
    cases accepted with
    | true => exact (pure_bind _ _).trans (ih describes values)
    | false =>
      simp only [Bool.false_eq_true, if_false, pure_bind]
      rw [runFailed, describes.rebuildError]

theorem chainedNested (describes : family.Describes fail) (plan : Plan m F β ε [α])
    (outcome : F α) : plan.chained family outcome = plan.nested fail outcome := by
  have entered := enterOnto describes plan (runHeld describes plan)
    (fun value => ((value, ()) : Values [α])) outcome
  rw [nested, ← entered, chained, Steps.start, bind_assoc]
  refine bind_congr fun split => ?_
  cases split <;> exact pure_bind _ _

end Plan

theorem chainsAreNested (κ ν : Type) :
    (∀ {α β : Type} (plan : Plan (Act κ ν) Option β Unit [α]) (outcome : Option α),
      plan.chained Family.option outcome = plan.nested (fun _ => none) outcome) ∧
    (∀ {L α β : Type} (plan : Plan (Act κ ν) (Either L) β L [α]) (outcome : Either L α),
      plan.chained Family.either outcome = plan.nested .left outcome) ∧
    ∀ {α β : Type} (plan : Plan (Act κ ν) (Try κ ν) β Capture [α]) (outcome : Try κ ν α),
      plan.chained Family.attempt outcome = plan.nested .failure outcome :=
  ⟨fun plan outcome => plan.chainedNested optionDescribes outcome,
    fun plan outcome => plan.chainedNested eitherDescribes outcome,
    fun plan outcome => plan.chainedNested attemptDescribes outcome⟩

example {κ ν α β γ L : Type} (outcome : Either L α)
  (next : StateT (Values [α]) (Act κ ν) (Either L β))
    (accepts : StateT (Values [α, β]) (Act κ ν) Bool) (refuse : Act κ ν L)
    (f : Values [α, β] → Act κ ν γ) :
    (outcome.flatMap fun a => do
      let (made, values) ← next (a, ())
      made.flatMap fun b => do
        let (accepted, values) ← accepts (values.1, b, ())
        if accepted then (Either.right values).map f
        else
          let failure ← refuse
          pure (.left failure)) =
      (Plan.next (by simp) next (.filterOr accepts refuse (.yields f))).nested .left outcome := rfl

end OutcomeAlgebra
