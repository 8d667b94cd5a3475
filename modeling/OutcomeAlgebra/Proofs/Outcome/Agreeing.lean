import OutcomeAlgebra.Proofs.Outcome.Path
import OutcomeAlgebra.Proofs.Steps.Nesting
import OutcomeAlgebra.Proofs.Try.Consuming
/-! One pipeline in three families. A pipeline of tries, converted at its end, is the
pipeline of eithers in which whatever is used is converted; that one in turn is the
pipeline of optional values, but for the supplier that a refusal asks last. All are
equations between programs, so the callbacks are called alike in all three. -/
namespace OutcomeAlgebra

section Links

variable {m F G : Type → Type} {L α β ε ρ : Type} {types : List Type}

inductive Link (m F S : Type → Type) (ε ρ : Type) : Type → Type → Type 1 where
  | map {α β : Type} (f : α → m β) : Link m F S ε ρ α β
  | flatMap {α β : Type} (f : α → m (F β)) : Link m F S ε ρ α β
  | filter {α : Type} (predicate : StateT α m Bool) (supplier : m ρ) : Link m F S ε ρ α α
  | map2 {α β γ : Type} (second : S β) (f : α → β → m γ) : Link m F S ε ρ α γ
  | chain {α β : Type} (plan : Plan m F β ε [α]) : Link m F S ε ρ α β

/- A second operand: how it is come by where it is used, and what is there where it is
not. A value at hand is `⟨pure value, value⟩`. -/
structure Operand (m F : Type → Type) (α : Type) where
  used : m (F α)
  unused : F α

def Operand.given [Monad m] (operand : Operand m F α) (successful : Bool) : m (F α) :=
  if successful then operand.used else pure operand.unused

structure Try.Operand (κ ν α : Type) where
  attempt : Try κ ν α
  unused : Either Capture α

abbrev Try.Link (κ ν : Type) : Type → Type → Type 1 :=
  OutcomeAlgebra.Link (Act κ ν) (Try κ ν) (Try.Operand κ ν) Capture (Raised Fault)

abbrev Either.Link (m : Type → Type) (L : Type) : Type → Type → Type 1 :=
  OutcomeAlgebra.Link m (Either L) (OutcomeAlgebra.Operand m (Either L)) L L

abbrev Optional.Link (m : Type → Type) : Type → Type → Type 1 :=
  OutcomeAlgebra.Link m Option (OutcomeAlgebra.Operand m Option) Unit Unit

def Try.Link.run {κ ν : Type} : Try.Link κ ν α β → Try κ ν α → Act κ ν (Try κ ν β)
  | .map f, attempt => attempt.map f
  | .flatMap f, attempt => attempt.flatMap f
  | .filter predicate supplier, attempt => attempt.filter predicate supplier
  | .map2 second f, attempt => attempt.map2 second.attempt f
  | .chain plan, attempt => plan.chained Family.attempt attempt

/- The failure that a pipeline ends in, or the supplier that is yet to be asked for it. -/
inductive Owed (m : Type → Type) (L : Type) where
  | failure (value : L)
  | supplier (ask : m L)

def Either.owing : Either L α → Either (Owed m L) α
  | .left value => .left (.failure value)
  | .right value => .right value

theorem rightOwing (either : Either L α) : (either.owing (m := m)).right? = either.right? := by
  cases either <;> rfl

variable [Monad m]

def Either.Link.run : Either.Link m L α β → Either L α → m (Either L β)
  | .map f, either => either.map f
  | .flatMap f, either => either.flatMap f
  | .filter predicate supplier, either => either.filter predicate supplier
  | .map2 second f, either => do
    let other ← second.given either.isRight
    either.map2 other f
  | .chain plan, either => plan.chained Family.either either

def Optional.Link.run : Optional.Link m α β → Option α → m (Option β)
  | .map f, option => Optional.map f option
  | .flatMap f, option => Optional.flatMap f option
  | .filter predicate _, option => Optional.filter predicate option
  | .map2 second f, option => do
    let other ← second.given option.isSome
    Optional.map2 f option other
  | .chain plan, option => plan.chained Family.option option

def Plan.convert (change : {α : Type} → F α → m (G α)) {ρ : Type} :
    {ε : Type} → {types : List Type} → Plan m F β ε types → (m ε → m ρ) → Plan m G β ρ types
  | _, _, .yields f, _ => .yields f
  | _, _, .next short f rest, refusal => .next short (fun values => do
      let (outcome, values) ← f values
      let made ← change outcome
      pure (made, values)) (rest.convert change refusal)
  | _, _, .nextWith short supplier rest, refusal =>
    .nextWith short (supplier >>= change) (rest.convert change refusal)
  | _, _, .filterOr predicate onFailure rest, refusal =>
    .filterOr predicate (refusal onFailure) (rest.convert change refusal)
  | _, _, .filter predicate rest, refusal =>
    .filterOr predicate (refusal (pure ())) (rest.convert change refusal)

def Try.Link.eithers {κ ν : Type} : Try.Link κ ν α β → Either.Link (Act κ ν) Capture α β
  | .map f => .map f
  | .flatMap f => .flatMap fun value => f value >>= Try.toEither
  | .filter predicate supplier => .filter predicate (supplier >>= Capture.new)
  | .map2 second f => .map2 ⟨second.attempt.toEither, second.unused⟩ f
  | .chain plan => .chain (plan.convert Try.toEither id)

def Either.Link.options : Either.Link m L α β → Optional.Link m α β
  | .map f => .map f
  | .flatMap f => .flatMap fun value => Either.right? <$> f value
  | .filter predicate _ => .filter predicate (pure ())
  | .map2 second f => .map2 ⟨Either.right? <$> second.used, second.unused.right?⟩ f
  | .chain plan => .chain (plan.convert (fun either => pure either.right?) fun _ => pure ())

def Owed.pay : Owed m L → m L
  | .failure value => pure value
  | .supplier ask => ask

def Either.settle : Either (Owed m L) α → m (Either L α)
  | .left owed => Either.left <$> owed.pay
  | .right value => pure (.right value)

def Either.Link.postponed : Either.Link m L α β → Either.Link m (Owed m L) α β
  | .map f => .map f
  | .flatMap f => .flatMap fun value => Either.owing <$> f value
  | .filter predicate supplier => .filter predicate (pure (.supplier supplier))
  | .map2 second f => .map2 ⟨Either.owing <$> second.used, second.unused.owing⟩ f
  | .chain plan =>
    .chain (plan.convert (fun either => pure either.owing) fun supplier =>
      pure (.supplier supplier))

end Links

namespace Path

variable {Stage Other : Type → Type → Type 1} {m F G : Type → Type} [Monad m] {α β : Type}

def convert (change : {α β : Type} → Stage α β → Other α β) {α β : Type} :
    Path Stage α β → Path Other α β
  | .here => .here
  | .step stage rest => .step (change stage) (rest.convert change)

theorem runConvert (path : Path Stage α β) (change : {α β : Type} → Stage α β → Other α β)
    (perform : {α β : Type} → Other α β → F α → m (F β)) (outcome : F α) :
    (path.convert change).run perform outcome =
      path.run (fun stage => perform (change stage)) outcome := by
  induction path with
  | here => rfl
  | step stage rest ih => exact bind_congr ih

theorem runFollows [LawfulMonad m] (path : Path Stage α β)
    (one : {α β : Type} → Stage α β → F α → m (F β))
    (other : {α β : Type} → Stage α β → G α → m (G β)) (finish : {α : Type} → F α → m (G α))
    (step : ∀ {α β : Type} (stage : Stage α β) (outcome : F α),
      (one stage outcome >>= finish) = finish outcome >>= other stage) (outcome : F α) :
    (path.run one outcome >>= finish) = finish outcome >>= path.run other := by
  induction path with
  | here =>
    have stays : finish outcome >>= pure = finish outcome := bind_pure _
    exact (pure_bind _ _).trans stays.symm
  | step stage rest ih =>
    simp only [run, bind_assoc, ih]
    rw [← bind_assoc, step, bind_assoc]

end Path

structure Family.Follows {m F G : Type → Type} [Monad m] {ε ρ : Type} (one : Family m F ε)
    (other : Family m G ρ) (settle : ε → m ρ) (finish : {α : Type} → F α → m (G α)) : Prop where
  split : ∀ {α : Type} (outcome : F α), (finish outcome >>= other.split) =
    one.split outcome >>= fun
      | .ok value => pure (.ok value)
      | .error failure => Except.error <$> settle failure
  rebuildOk : ∀ {α : Type} (value : α),
    finish (one.rebuild (.ok value)) = pure (other.rebuild (.ok value))
  rebuildError : ∀ {α : Type} (failure : ε),
    finish (one.rebuild (α := α) (.error failure)) =
      (fun failure => other.rebuild (.error failure)) <$> settle failure

section Follows

variable {m F G : Type → Type} [Monad m] [LawfulMonad m] [Outcome m F] [Outcome m G]
  {α β ε ρ : Type}
  {one : Family m F ε} {other : Family m G ρ} {fails : {β : Type} → ε → F β}
  {gives : {β : Type} → ρ → G β} {settle : ε → m ρ} {finish : {α : Type} → F α → m (G α)}

theorem mapFollows (follows : one.Follows other settle finish) (describes : one.Describes fails)
    (tells : other.Describes gives) (outcome : F α) (f : α → m β) :
    (Outcome.map outcome f >>= finish) =
      finish outcome >>= fun outcome => Outcome.map outcome f := by
  simp only [tells.map, ← bind_assoc, follows.split]
  rw [describes.map, bind_assoc, bind_assoc]
  refine bind_congr fun split => ?_
  cases split with
  | ok value =>
    rw [pure_bind, bind_map_left]
    simp only [follows.rebuildOk, map_eq_pure_bind]
  | error failure =>
    rw [pure_bind, ← describes.rebuildError, follows.rebuildError, bind_map_left]
    simp only [map_eq_pure_bind, tells.rebuildError]

theorem flatMapFollows (follows : one.Follows other settle finish) (describes : one.Describes fails)
    (tells : other.Describes gives) (outcome : F α) (f : α → m (F β)) :
    (Outcome.flatMap outcome f >>= finish) =
      finish outcome >>= fun outcome =>
        Outcome.flatMap outcome fun value => f value >>= finish := by
  simp only [tells.flatMap, ← bind_assoc, follows.split]
  rw [describes.flatMap, bind_assoc, bind_assoc]
  refine bind_congr fun split => ?_
  cases split with
  | ok value => rw [pure_bind]
  | error failure =>
    rw [pure_bind, ← describes.rebuildError, follows.rebuildError, bind_map_left]
    simp only [map_eq_pure_bind, tells.rebuildError]

end Follows

namespace Plan

variable {m : Type → Type} [Monad m] [LawfulMonad m] {F G H : Type → Type} {β ε ρ σ : Type}
  {types : List Type}

theorem runSame (plan : Plan m F β ε types) (family : Family m F ε)
    (steps : Steps ε (Values types)) :
    (plan.convert pure id).run family steps = plan.run family steps := by
  induction plan with
  | yields f => rfl
  | next short f rest ih =>
    have same : (fun values => do
        let (outcome, values) ← f values
        let made ← pure outcome
        pure (made, values)) = f := by
      funext values
      simp only [pure_bind]
      exact bind_pure _
    simp only [convert, run, same, ih]
  | nextWith short supplier rest ih => simp only [convert, run, bind_pure, ih]
  | filterOr predicate onFailure rest ih => simp only [convert, run, id, ih]
  | filter predicate rest ih => simp only [convert, run, id, ih, Steps.filter]

theorem runNext {α : Type} (short : types.length < 6) (f : StateT (Values types) m (F α))
    (rest : Plan m F β ε (types ++ [α])) (family : Family m F ε) (values : Values types) :
    (next short f rest).run family ⟨.ok values⟩ =
      f values >>= fun made => rest.enter family made.2.push made.1 := by
  simp only [run, Steps.next, bind_assoc]
  refine bind_congr fun made => bind_congr fun split => ?_
  cases split <;> exact pure_bind _ _

theorem runNextWith {α : Type} (short : types.length < 6) (supplier : m (F α))
    (rest : Plan m F β ε (types ++ [α])) (family : Family m F ε) (values : Values types) :
    (nextWith short supplier rest).run family ⟨.ok values⟩ =
      supplier >>= rest.enter family values.push := by
  simp only [run, Steps.nextWith, Steps.next, bind_assoc, pure_bind]
  refine bind_congr fun outcome => bind_congr fun split => ?_
  cases split <;> exact pure_bind _ _

theorem runFilterOr (predicate : StateT (Values types) m Bool) (onFailure : m ε)
    (rest : Plan m F β ε types) (family : Family m F ε) (values : Values types) :
    (filterOr predicate onFailure rest).run family ⟨.ok values⟩ =
      predicate values >>= fun verdict =>
        if verdict.1 then rest.run family ⟨.ok verdict.2⟩
        else (fun failure => family.rebuild (.error failure)) <$> onFailure := by
  simp only [run, Steps.filterOr, bind_assoc]
  refine bind_congr fun verdict => ?_
  obtain ⟨accepted, values⟩ := verdict
  cases accepted with
  | true => exact pure_bind _ _
  | false =>
    simp only [Bool.false_eq_true, if_false, bind_assoc, pure_bind, runFailed, map_eq_pure_bind]

theorem chainedEnters {α : Type} (plan : Plan m F β ε [α]) (family : Family m F ε) :
    plan.chained family = plan.enter family fun value => ((value, ()) : Values [α]) := by
  funext outcome
  simp only [chained, Steps.start, enter, bind_assoc]
  refine bind_congr fun split => ?_
  cases split <;> exact pure_bind _ _

theorem chainedSame {α : Type} (plan : Plan m F β ε [α]) (family : Family m F ε) :
    (plan.convert pure id).chained family = plan.chained family := by
  funext outcome
  exact bind_congr fun steps => plan.runSame family steps

section Converted

variable {one : Family m G ρ} {other : Family m H σ} {settle : ρ → m σ}
  {finish : {α : Type} → G α → m (H α)}

theorem enterConverted {α : Type} (follows : one.Follows other settle finish)
    {first : Plan m G β ρ types} {second : Plan m H β σ types}
    (held : ∀ values, (first.run one ⟨.ok values⟩ >>= finish) = second.run other ⟨.ok values⟩)
    (push : α → Values types) (outcome : G α) :
    (first.enter one push outcome >>= finish) = finish outcome >>= second.enter other push := by
  unfold enter
  rw [← bind_assoc, follows.split, bind_assoc, bind_assoc]
  refine bind_congr fun split => ?_
  cases split with
  | ok value => rw [pure_bind, held]
  | error failure =>
    simp only [runFailed, pure_bind, follows.rebuildError, map_eq_pure_bind, bind_assoc]

theorem filterOrConverted (follows : one.Follows other settle finish)
    {first : Plan m G β ρ types} {second : Plan m H β σ types}
    (held : ∀ values, (first.run one ⟨.ok values⟩ >>= finish) = second.run other ⟨.ok values⟩)
    (predicate : StateT (Values types) m Bool) (supplier : m ρ) (values : Values types) :
    ((filterOr predicate supplier first).run one ⟨.ok values⟩ >>= finish) =
      (filterOr predicate (supplier >>= settle) second).run other ⟨.ok values⟩ := by
  rw [runFilterOr, runFilterOr, bind_assoc]
  refine bind_congr fun verdict => ?_
  obtain ⟨accepted, values⟩ := verdict
  cases accepted with
  | true => exact held values
  | false =>
    simp only [Bool.false_eq_true, if_false, map_eq_pure_bind, bind_assoc, pure_bind,
      follows.rebuildError]

section Plans

variable (change : {α : Type} → F α → m (G α)) (further : {α : Type} → F α → m (H α))
  (follows : one.Follows other settle finish)
  (changes : ∀ {α : Type} (outcome : F α), further outcome = change outcome >>= finish)

include follows changes

theorem runConverted (plan : Plan m F β ε types) (refusal : m ε → m ρ) (later : m ε → m σ)
    (refuses : ∀ supplier, later supplier = refusal supplier >>= settle) (values : Values types) :
    ((plan.convert change refusal).run one ⟨.ok values⟩ >>= finish) =
      (plan.convert further later).run other ⟨.ok values⟩ := by
  induction plan with
  | yields f =>
    simp only [convert, run, Steps.yields, bind_assoc, pure_bind, follows.rebuildOk]
  | next short f rest ih =>
    simp only [convert, runNext, bind_assoc, pure_bind, changes,
      enterConverted follows (ih refusal later refuses)]
  | nextWith short supplier rest ih =>
    simp only [convert, runNextWith, bind_assoc, changes,
      enterConverted follows (ih refusal later refuses)]
  | filterOr predicate onFailure rest ih =>
    simp only [convert, refuses, filterOrConverted follows (ih refusal later refuses)]
  | filter predicate rest ih =>
    simp only [convert, refuses, filterOrConverted follows (ih refusal later refuses)]

theorem chainedConverted {α : Type} (plan : Plan m F β ε [α]) (refusal : m ε → m ρ)
    (later : m ε → m σ) (refuses : ∀ supplier, later supplier = refusal supplier >>= settle)
    (outcome : G α) :
    ((plan.convert change refusal).chained one outcome >>= finish) =
      finish outcome >>= (plan.convert further later).chained other := by
  rw [chainedEnters, chainedEnters]
  exact enterConverted follows
    (runConverted change further follows changes plan refusal later refuses) _ outcome

end Plans

end Converted

end Plan

section Tries

variable {κ ν α β : Type}

theorem attemptFollows :
    (Family.attempt (κ := κ) (ν := ν)).Follows Family.either pure Try.toEither where
  split attempt := by
    simp only [Try.toEither, Family.either, bind_assoc, pure_bind, Either.toExceptOfExcept]
    refine bind_congr fun split => ?_
    cases split <;> simp
  rebuildOk value := rfl
  rebuildError capture := by
    rw [map_pure]
    rfl

theorem linkEithers (link : Try.Link κ ν α β) (attempt : Try κ ν α) :
    (link.run attempt >>= Try.toEither) = attempt.toEither >>= link.eithers.run := by
  have mapped : ∀ {α β : Type} (attempt : Try κ ν α) (f : α → Act κ ν β),
      (attempt.map f >>= Try.toEither) = attempt.toEither >>= fun either => either.map f :=
    fun attempt f => mapFollows attemptFollows attemptDescribes eitherDescribes attempt f
  have bound : ∀ {α β : Type} (attempt : Try κ ν α) (f : α → Act κ ν (Try κ ν β)),
      (attempt.flatMap f >>= Try.toEither) =
        attempt.toEither >>= fun either => either.flatMap fun value => f value >>= Try.toEither :=
    fun attempt f => flatMapFollows attemptFollows attemptDescribes eitherDescribes attempt f
  cases link with
  | map f => exact mapped attempt f
  | flatMap f => exact bound attempt f
  | filter predicate supplier =>
    refine (bound attempt _).trans (bind_congr fun either => ?_)
    cases either with
    | left capture => rfl
    | right value =>
      simp only [Try.Link.eithers, Either.Link.run, Either.filter, Either.flatMap, bind_assoc]
      refine bind_congr fun verdict => ?_
      obtain ⟨accepted, value⟩ := verdict
      cases accepted with
      | true => rfl
      | false =>
        simp only [Bool.false_eq_true, if_false, Try.fail, bind_assoc, map_eq_pure_bind]
        rfl
  | map2 second f =>
    refine (bound attempt _).trans (bind_congr fun either => ?_)
    cases either with
    | left capture => rfl
    | right value =>
      refine (mapped second.attempt _).trans (bind_congr fun other => ?_)
      cases other <;> rfl
  | chain plan =>
    have moved := Plan.chainedConverted pure Try.toEither attemptFollows
      (fun outcome => (pure_bind outcome Try.toEither).symm) plan id id
      (fun supplier => (bind_pure supplier).symm) attempt
    rw [Plan.chainedSame] at moved
    exact moved

end Tries

section Eithers

variable {m : Type → Type} [Monad m] [LawfulMonad m] {L α β : Type}

theorem owedFollows : (Family.either (m := m) (L := Owed m L)).Follows Family.either Owed.pay
    Either.settle where
  split either := by
    cases either <;> simp [Either.settle, Family.either, Either.toExcept]
  rebuildOk value := rfl
  rebuildError owed := rfl

theorem optionFollows : (Family.either (m := m) (L := Owed m L)).Follows Family.option
    (fun _ => pure ()) fun either => pure either.right? where
  split either := by
    cases either <;> simp [Family.either, Family.option, Either.toExcept, Either.right?]
  rebuildOk value := rfl
  rebuildError owed := by
    rw [map_pure]
    rfl

theorem settleOwing (either : Either L α) : (either.owing.settle : m _) = pure either := by
  cases either with
  | left failure => exact map_pure _ _
  | right value => rfl

theorem Either.map2Binds {γ : Type} (second : Operand m (Either L) β) (f : α → β → m γ)
    (either : Either L α) :
    Link.run (.map2 second f) either =
      either.flatMap fun a => second.used >>= fun other => other.map (f a) := by
  cases either with
  | left failure => exact pure_bind _ _
  | right value =>
    refine bind_congr fun other => ?_
    cases other <;> rfl

theorem Optional.map2Binds {γ : Type} (second : Operand m Option β) (f : α → β → m γ)
    (option : Option α) :
    Link.run (.map2 second f) option =
      Optional.flatMap (fun a => second.used >>= fun other => Optional.map (f a) other) option := by
  cases option with
  | none => exact pure_bind _ _
  | some value =>
    refine bind_congr fun other => ?_
    cases other <;> rfl

theorem linkSettles (link : Either.Link m L α β) (either : Either (Owed m L) α) :
    (link.postponed.run either >>= Either.settle) = either.settle >>= link.run := by
  have mapped : ∀ {α β : Type} (either : Either (Owed m L) α) (f : α → m β),
      (either.map f >>= Either.settle) = either.settle >>= fun either => either.map f :=
    fun either f => mapFollows owedFollows eitherDescribes eitherDescribes either f
  have bound : ∀ {α β : Type} (either : Either (Owed m L) α) (f : α → m (Either (Owed m L) β)),
      (either.flatMap f >>= Either.settle) =
        either.settle >>= fun either => either.flatMap fun value => f value >>= Either.settle :=
    fun either f => flatMapFollows owedFollows eitherDescribes eitherDescribes either f
  cases link with
  | map f => exact mapped either f
  | flatMap f =>
    refine (bound either _).trans ?_
    simp only [bind_map_left, settleOwing, bind_pure]
    rfl
  | filter predicate supplier =>
    have rejected : (Either.left <$> (pure (.supplier supplier) : m (Owed m L)) >>= Either.settle) =
        (Either.left <$> supplier : m (Either L α)) := by
      rw [bind_map_left, pure_bind]
      rfl
    cases either with
    | left owed =>
      simp [Either.Link.postponed, Either.Link.run, Either.filter, Either.settle]
    | right value =>
      simp only [Either.Link.postponed, Either.Link.run, Either.filter, Either.settle, bind_assoc,
        pure_bind]
      refine bind_congr fun verdict => ?_
      obtain ⟨accepted, value⟩ := verdict
      cases accepted with
      | true => exact pure_bind _ _
      | false => exact rejected
  | map2 second f =>
    simp only [Either.Link.postponed, Either.map2Binds, bound, bind_assoc, bind_map_left, mapped,
      settleOwing, pure_bind]
    exact bind_congr fun either => (Either.map2Binds second f either).symm
  | chain plan =>
    have moved := Plan.chainedConverted (fun either => pure either.owing) pure owedFollows
      (fun either => by rw [pure_bind, settleOwing]) plan
      (fun supplier => pure (.supplier supplier)) id
      (fun supplier => (pure_bind (Owed.supplier supplier) Owed.pay).symm) either
    rw [Plan.chainedSame] at moved
    exact moved

theorem linkOptions (link : Either.Link m L α β) (either : Either (Owed m L) α) :
    (link.postponed.run either >>= fun made => pure made.right?) =
      link.options.run either.right? := by
  have mapped : ∀ {α β : Type} (either : Either (Owed m L) α) (f : α → m β),
      (either.map f >>= fun made => pure made.right?) = Optional.map f either.right? :=
    fun either f => (mapFollows optionFollows eitherDescribes optionDescribes either f).trans
      (pure_bind _ _)
  have bound : ∀ {α β : Type} (either : Either (Owed m L) α) (f : α → m (Either (Owed m L) β)),
      (either.flatMap f >>= fun made => pure made.right?) =
        Optional.flatMap (fun value => f value >>= fun made => pure made.right?) either.right? :=
    fun either f => (flatMapFollows optionFollows eitherDescribes optionDescribes either f).trans
      (pure_bind _ _)
  cases link with
  | map f => exact mapped either f
  | flatMap f =>
    refine (bound either _).trans ?_
    simp only [bind_map_left, rightOwing]
    simp only [← map_eq_pure_bind]
    rfl
  | filter predicate supplier =>
    cases either with
    | left owed => exact pure_bind _ _
    | right value =>
      simp only [Either.Link.postponed, Either.Link.run, Either.filter, bind_assoc]
      refine bind_congr fun verdict => ?_
      obtain ⟨accepted, value⟩ := verdict
      cases accepted with
      | true => exact pure_bind _ _
      | false =>
        rw [if_neg Bool.false_ne_true, bind_map_left, pure_bind]
        rfl
  | map2 second f =>
    simp only [Either.Link.postponed, Either.map2Binds, bound, bind_assoc, bind_map_left, mapped,
      rightOwing]
    refine Eq.trans ?_ (Optional.map2Binds _ f either.right?).symm
    simp only [bind_map_left]
  | chain plan =>
    have moved := Plan.chainedConverted (fun either => pure either.owing)
      (fun either => pure either.right?) optionFollows
      (fun either => by rw [pure_bind, rightOwing]) plan
      (fun supplier => pure (.supplier supplier)) (fun _ => pure ())
      (fun supplier => (pure_bind (Owed.supplier supplier) fun _ => pure ()).symm) either
    exact moved.trans (pure_bind _ _)

end Eithers

section Paths

variable {κ ν L α β : Type}

/- What a run over optional values tells of the run over eithers. Where there is no value
the latter may go on and ask a supplier, behind all that the former has done. -/
inductive Optional.Tells (context : κ) (next : Nat) :
    Report ν (Option α) → Report ν (Either L α) → Prop where
  | value {log used value} :
      Tells context next ⟨log, used, .ok (some value)⟩ ⟨log, used, .ok (.right value)⟩
  | failure {log used} (owed : Owed (Act κ ν) L) :
      Tells context next ⟨log, used, .ok none⟩
        (((Either.left <$> owed.pay).run context (next + used)).behind log used)
  | panicked {log used panic} :
      Tells context next ⟨log, used, .error panic⟩ ⟨log, used, .error panic⟩

theorem settleTells (postponed : Act κ ν (Either (Owed (Act κ ν) L) α)) (context : κ) (next : Nat) :
    Optional.Tells context next ((Either.right? <$> postponed).run context next)
      ((postponed >>= Either.settle).run context next) := by
  rw [Act.runMap]
  cases ran : postponed.run context next with
  | mk log used ending =>
    cases ending with
    | error panic =>
      rw [Act.runBindError ran]
      exact .panicked
    | ok either =>
      rw [Act.runBindOk ran]
      cases either with
      | left owed => exact .failure owed
      | right value =>
        have settled :
            (Either.settle (.right value) : Act κ ν (Either L α)).run context (next + used) =
          ⟨[], 0, .ok (.right value)⟩ := rfl
        rw [settled]
        simp only [Report.behind, List.append_nil, Nat.add_zero]
        exact .value

theorem pathEithers (path : Path (Try.Link κ ν) α β) (attempt : Try κ ν α) :
    (path.run Try.Link.run attempt >>= Try.toEither) =
      attempt.toEither >>= (path.convert Try.Link.eithers).run Either.Link.run := by
  have moved := path.runFollows (F := Try κ ν) (G := Either Capture) Try.Link.run
    (fun link => link.eithers.run) Try.toEither linkEithers attempt
  rw [moved]
  exact bind_congr fun either => (path.runConvert Try.Link.eithers Either.Link.run either).symm

theorem pathSettles (path : Path (Either.Link (Act κ ν) L) α β) (either : Either L α) :
    path.run Either.Link.run either =
      (path.convert Either.Link.postponed).run Either.Link.run either.owing >>= Either.settle := by
  have moved := path.runFollows (F := Either (Owed (Act κ ν) L)) (G := Either L)
    (fun link => link.postponed.run) Either.Link.run Either.settle linkSettles either.owing
  have postponed := path.runConvert Either.Link.postponed Either.Link.run either.owing
  rw [settleOwing, pure_bind] at moved
  rw [postponed, moved]

theorem pathOptions (path : Path (Either.Link (Act κ ν) L) α β) (either : Either L α) :
    (path.convert Either.Link.options).run Optional.Link.run either.right? =
      Either.right? <$>
        (path.convert Either.Link.postponed).run Either.Link.run either.owing := by
  have moved := path.runFollows (F := Either (Owed (Act κ ν) L)) (G := Option)
    (fun link => link.postponed.run) (fun link => link.options.run)
    (fun made => (pure made.right? : Act κ ν _))
    (fun link made => (linkOptions link made).trans (pure_bind _ _).symm) either.owing
  rw [pure_bind, rightOwing] at moved
  have optional := path.runConvert Either.Link.options Optional.Link.run either.right?
  have postponed := path.runConvert Either.Link.postponed Either.Link.run either.owing
  rw [optional, ← moved, postponed, map_eq_pure_bind]

end Paths

theorem familiesAgree (κ ν : Type) :
    (∀ {α β : Type} (path : Path (Try.Link κ ν) α β) (attempt : Try κ ν α),
      (path.run Try.Link.run attempt >>= Try.toEither) =
        attempt.toEither >>= (path.convert Try.Link.eithers).run Either.Link.run) ∧
    (∀ {L α β : Type} (path : Path (Either.Link (Act κ ν) L) α β) (either : Either L α),
      path.run Either.Link.run either =
          (path.convert Either.Link.postponed).run Either.Link.run either.owing >>= Either.settle ∧
        (path.convert Either.Link.options).run Optional.Link.run either.right? =
          Either.right? <$>
            (path.convert Either.Link.postponed).run Either.Link.run either.owing) ∧
    ∀ {L α β : Type} (path : Path (Either.Link (Act κ ν) L) α β) (either : Either L α)
      (context : κ) (next : Nat),
      Optional.Tells context next
        (((path.convert Either.Link.options).run Optional.Link.run either.right?).run context next)
        ((path.run Either.Link.run either).run context next) := by
  refine ⟨pathEithers,
    fun path either => ⟨pathSettles path either, pathOptions path either⟩,
    fun path either context next => ?_⟩
  rw [pathSettles, pathOptions]
  exact settleTells _ context next

end OutcomeAlgebra
