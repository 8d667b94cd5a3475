import OutcomeAlgebra.Proofs.Outcome.Binding
import OutcomeAlgebra.Proofs.Outcome.Traversing
/-! All combinators are ways of binding. Each one equals, as a program, what it is made of
`flatMap`: so it calls the same callbacks on the same values in the same order, and
evaluates what that evaluates. The products of three outcomes evaluate in different orders,
by how they are grouped; there only the outcomes are the same. -/
namespace OutcomeAlgebra

def Outcome.keepIf {m F : Type → Type} [Monad m] [Outcome m F] {α : Type}
    (predicate : StateT α m Bool) (refusal : m (F α)) (value : α) : m (F α) := do
  let (accepted, value) ← predicate value
  if accepted then pure (Outcome.lift m value) else refusal

/- What the combinators that all outcomes share are made of. Of an outcome that is mapped
to nothing new `settle` is left: the outcome itself, unless that is still to be evaluated. -/
structure Outcome.Derives (m F : Type → Type) [Monad m] [Outcome m F] {ε : Type}
    (fail : {α : Type} → ε → F α) (settle : {α : Type} → F α → m (F α)) : Prop where
  map : ∀ {α β : Type} (outcome : F α) (f : α → m β),
    Outcome.map outcome f = Outcome.flatMap outcome fun value => Outcome.lift m <$> f value
  mapKeep : ∀ {α : Type} (outcome : F α), Outcome.map outcome pure = settle outcome
  mapAgain : ∀ {α β γ : Type} (outcome : F α) (f : α → m β) (g : β → m γ),
    (Outcome.map outcome f >>= fun made => Outcome.map made g) =
      Outcome.map outcome fun value => f value >>= g
  map2 : ∀ {α β γ : Type} (first : F α) (second : F β) (f : α → β → m γ),
    Outcome.map2 first second f = Outcome.flatMap first fun a => Outcome.map second (f a)
  map2Both : ∀ {α β γ : Type} (a : α) (b : β) (f : α → β → m γ),
    Outcome.map2 (Outcome.lift m a) (Outcome.lift m b) f = (Outcome.lift m <$> f a b : m (F γ))
  map2First : ∀ {α β γ : Type} (failure : ε) (second : F β) (f : α → β → m γ),
    Outcome.map2 (fail failure) second f = pure (fail failure)
  map2Second : ∀ {α β γ : Type} (a : α) (failure : ε) (f : α → β → m γ),
    Outcome.map2 (Outcome.lift m a) (fail failure) f = pure (fail failure)
  product : ∀ {α β : Type} (first : F α) (second : F β),
    Outcome.product (m := m) first second = Outcome.map2 first second fun a b => pure (a, b)
  andThen : ∀ {α β : Type} (outcome : F α) (f : α → m (F β)),
    Outcome.andThen outcome f = Outcome.flatMap outcome f
  followedBy : ∀ {α β : Type} (outcome : F α) (next : F β),
    Outcome.followedBy (m := m) outcome next = Outcome.flatMap outcome fun _ => pure next
  replace : ∀ {α β : Type} (outcome : F α) (value : β),
    Outcome.replace (m := m) outcome value = Outcome.map outcome fun _ => pure value
  void : ∀ {α : Type} (outcome : F α),
    Outcome.void (m := m) outcome = Outcome.replace outcome ()

section Products

variable {m F : Type → Type} [Monad m] [Outcome m F] {α β γ ε : Type}

def paired (first : Except ε α) (second : Except ε β) : Except ε (α × β) := do
  let a ← first
  let b ← second
  pure (a, b)

def regroup (triple : (α × β) × γ) : α × β × γ := (triple.1.1, triple.1.2, triple.2)

theorem pairedRegroup (first : Except ε α) (second : Except ε β) (third : Except ε γ) :
    regroup <$> paired (paired first second) third = paired first (paired second third) := by
  cases first <;> cases second <;> cases third <;> rfl

def Outcome.leftProduct (first : F α) (second : F β) (third : F γ) : m (F ((α × β) × γ)) := do
  let pair ← Outcome.product first second
  Outcome.product pair third

def Outcome.rightProduct (first : F α) (second : F β) (third : F γ) : m (F (α × β × γ)) := do
  let pair ← Outcome.product second third
  Outcome.product first pair

end Products

def Outcome.Regroups (m F : Type → Type) [Monad m] [Outcome m F] {ε : Type}
    (known : {α : Type} → F α → Except ε α → Prop)
    (ends : {α : Type} → m (F α) → Except ε α → Prop) : Prop :=
  ∀ {α β γ : Type} {first : F α} {second : F β} {third : F γ} {a b c},
    known first a → known second b → known third c →
      ends (Outcome.leftProduct first second third) (paired (paired a b) c) ∧
      ends (Outcome.rightProduct first second third) (regroup <$> paired (paired a b) c)

section Families

variable {m F : Type → Type} [Monad m] [Outcome m F] {α β γ ε : Type} {family : Family m F ε}
  {fail : {β : Type} → ε → F β}

theorem mapBinds (pairs : family.Pairs fail) (outcome : F α) (f : α → m β) :
    Outcome.map outcome f = Outcome.flatMap outcome fun value => Outcome.lift m <$> f value := by
  rw [pairs.map, pairs.flatMap]
  refine bind_congr fun split => ?_
  cases split with
  | error failure => rfl
  | ok value => simp only [pairs.rebuildOk]

theorem splitRebuild (pairs : family.Pairs fail) (outcome : Except ε α) :
    family.split (family.rebuild outcome) = pure outcome := by
  cases outcome with
  | error failure => rw [pairs.rebuildError, pairs.splitFail]
  | ok value => rw [pairs.rebuildOk, pairs.splitLift]

variable [LawfulMonad m]

theorem mapLift (pairs : family.Pairs fail) (value : α) (f : α → m β) :
    Outcome.map (Outcome.lift m value) f = (Outcome.lift m <$> f value : m (F β)) := by
  rw [mapBinds pairs]
  exact flatMapLift pairs.toDescribes value _

theorem mapFailed (pairs : family.Pairs fail) (failure : ε) (f : α → m β) :
    Outcome.map (fail failure) f = pure (fail failure) := by
  rw [mapBinds pairs]
  exact flatMapFailed pairs.toDescribes (pairs.splitFail failure) _

theorem mapPure (pairs : family.Pairs fail) (outcome : F α) :
    Outcome.map outcome pure = family.rebuild <$> family.split outcome := by
  rw [pairs.map, map_eq_pure_bind]
  refine bind_congr fun split => ?_
  cases split with
  | error failure => rw [pairs.rebuildError]
  | ok value => exact map_pure _ value

theorem mapMap (pairs : family.Pairs fail) (outcome : F α) (f : α → m β) (g : β → m γ) :
    (Outcome.map outcome f >>= fun made => Outcome.map made g) =
      Outcome.map outcome fun value => f value >>= g := by
  have again := flatMapFlatMap pairs.toDescribes (fun failure => pairs.splitFail failure) outcome
    (fun value => Outcome.lift m <$> f value) fun made => Outcome.lift m <$> g made
  simp only [mapBinds pairs]
  rw [again]
  simp only [bind_map_left, flatMapLift pairs.toDescribes, map_bind]

theorem derives (pairs : family.Pairs fail) {settle : {α : Type} → F α → m (F α)}
    (settles : ∀ {α : Type} (outcome : F α),
      family.rebuild <$> family.split outcome = settle outcome) :
    Outcome.Derives m F fail settle where
  map outcome f := mapBinds pairs outcome f
  mapKeep outcome := (mapPure pairs outcome).trans (settles outcome)
  mapAgain outcome f g := mapMap pairs outcome f g
  map2 first second f := pairs.map2 first second f
  map2Both a b f := by
    rw [pairs.map2, flatMapLift pairs.toDescribes]
    exact mapLift pairs b (f a)
  map2First failure second f := by
    rw [pairs.map2]
    exact flatMapFailed pairs.toDescribes (pairs.splitFail failure) _
  map2Second a failure f := by
    rw [pairs.map2, flatMapLift pairs.toDescribes]
    exact mapFailed pairs failure (f a)
  product first second := rfl
  andThen outcome f := rfl
  followedBy outcome next := rfl
  replace outcome value := rfl
  void outcome := rfl

theorem productSplits (pairs : family.Pairs fail) (first : F α) (second : F β) :
    Outcome.product first second = family.split first >>= fun
      | .error failure => pure (fail failure)
      | .ok a => family.split second >>= fun other =>
        pure (family.rebuild (paired (.ok a) other)) := by
  rw [Outcome.product, pairs.map2, pairs.flatMap]
  refine bind_congr fun split => ?_
  cases split with
  | error failure => rfl
  | ok a =>
    simp only [pairs.map]
    refine bind_congr fun other => ?_
    cases other with
    | error failure => exact congrArg pure (pairs.rebuildError failure).symm
    | ok b => exact map_pure _ _

theorem productHeld (pairs : family.Pairs fail) {first : F α} {second : F β} {a : Except ε α}
    {b : Except ε β} (firstHeld : family.split first = pure a)
    (secondHeld : family.split second = pure b) :
    Outcome.product (m := m) first second = pure (family.rebuild (paired a b)) := by
  rw [productSplits pairs, firstHeld, pure_bind]
  cases a with
  | error failure => exact congrArg pure (pairs.rebuildError failure).symm
  | ok a => exact (congrArg (· >>= _) secondHeld).trans (pure_bind _ _)

theorem productsHeld (pairs : family.Pairs fail) :
    Outcome.Regroups m F (fun outcome held => family.split outcome = pure held)
      fun product held => product = pure (family.rebuild held) := by
  intro α β γ first second third a b c firstHeld secondHeld thirdHeld
  rw [pairedRegroup]
  constructor
  · unfold Outcome.leftProduct
    rw [productHeld pairs firstHeld secondHeld, pure_bind]
    exact productHeld pairs (splitRebuild pairs _) thirdHeld
  · unfold Outcome.rightProduct
    rw [productHeld pairs secondHeld thirdHeld, pure_bind]
    exact productHeld pairs firstHeld (splitRebuild pairs _)

end Families

section Pure

variable {m : Type → Type} [Monad m] {L α : Type}

theorem Optional.filterBinds (predicate : StateT α m Bool) (outcome : Option α) :
    Optional.filter predicate outcome =
      Outcome.flatMap outcome (Outcome.keepIf predicate (pure none)) := by
  cases outcome with
  | none => rfl
  | some value =>
    refine bind_congr fun verdict => ?_
    obtain ⟨accepted, kept⟩ := verdict
    cases accepted <;> rfl

theorem Either.filterBinds (either : Either L α) (predicate : StateT α m Bool) (supplier : m L) :
    either.filter predicate supplier =
      Outcome.flatMap either (Outcome.keepIf predicate (Either.left <$> supplier)) := by
  cases either <;> rfl

variable [LawfulMonad m]

theorem Optional.pairs : (Family.option (m := m)).Pairs fun _ => none where
  toDescribes := optionDescribes
  splitFail _ := rfl
  rebuildOk _ := rfl
  map2 first second f := by
    cases first <;> cases second <;> rfl

theorem Optional.derives : Outcome.Derives m Option (fun _ : Unit => none) pure :=
  OutcomeAlgebra.derives Optional.pairs fun outcome => by
    cases outcome <;> exact map_pure _ _

theorem Optional.productsRegroup :
    Outcome.Regroups m Option (fun outcome held => outcome = held.toOption)
      fun product (held : Except Unit _) => product = pure held.toOption := by
  have same : ∀ {τ : Type} (held : Except Unit τ),
      Family.option.split held.toOption = (pure held : m (Except Unit τ)) := by
    rintro τ (_ | value) <;> rfl
  have rebuilt : ∀ {τ : Type} (held : Except Unit τ),
      (Family.option (m := m)).rebuild held = held.toOption := by
    rintro τ (_ | value) <;> rfl
  rintro α β γ _ _ _ a b c rfl rfl rfl
  obtain ⟨left, right⟩ := productsHeld Optional.pairs (same a) (same b) (same c)
  exact ⟨left.trans (congrArg pure (rebuilt _)), right.trans (congrArg pure (rebuilt _))⟩

theorem Either.derives : Outcome.Derives m (Either L) .left pure :=
  OutcomeAlgebra.derives Either.pairs fun outcome => by
    cases outcome <;> exact map_pure _ _

theorem Either.productsRegroup :
    Outcome.Regroups m (Either L) (fun either held => either = .ofExcept held)
      fun product held => product = pure (.ofExcept held) := by
  have same : ∀ {τ : Type} (held : Except L τ),
      Family.either.split (Either.ofExcept held) = (pure held : m (Except L τ)) := by
    rintro τ (_ | value) <;> rfl
  rintro α β γ _ _ _ a b c rfl rfl rfl
  exact productsHeld Either.pairs (same a) (same b) (same c)

end Pure

namespace Try

variable {κ ν α β γ : Type}

theorem derives : Outcome.Derives (Act κ ν) (Try κ ν) .failure evaluate :=
  OutcomeAlgebra.derives pairs fun _ => rfl

theorem filterBinds (attempt : Try κ ν α) (predicate : StateT α (Act κ ν) Bool)
    (supplier : Act κ ν (Raised Fault)) :
    attempt.filter predicate supplier =
      Outcome.flatMap attempt (Outcome.keepIf predicate (supplier >>= fail)) := by
  refine bind_congr fun outcome => ?_
  cases outcome <;> rfl

def Comes (known : Except Capture α → Prop) (attempt : Try κ ν α) : Prop :=
  ∀ context next, ∃ outcome, known outcome ∧
    (attempt.intoResult.run context next).ending = .ok outcome

theorem outcomeComes (outcome : Except Capture α) :
    (ofOutcome outcome : Try κ ν α).Comes (· = outcome) := by
  intro context next
  refine ⟨outcome, rfl, ?_⟩
  rw [intoResultEager]
  rfl

section Operands

variable {first : Try κ ν α} {second : Try κ ν β} {third : Try κ ν γ}
  {ofFirst : Except Capture α → Prop} {ofSecond : Except Capture β → Prop}
  {ofThird : Except Capture γ → Prop}

theorem productComes (firstComes : first.Comes ofFirst) (secondComes : second.Comes ofSecond)
    (context : κ) (next : Nat) :
    ∃ a b, ofFirst a ∧ ofSecond b ∧
      ((Outcome.product first second : Act κ ν _).run context next).ending =
        .ok (ofOutcome (paired a b)) := by
  obtain ⟨a, aKnown, aEnds⟩ := firstComes context next
  obtain ⟨b, bKnown, bEnds⟩ := secondComes context (next + (first.intoResult.run context next).used)
  refine ⟨a, b, aKnown, bKnown, ?_⟩
  rw [productSplits pairs]
  refine (Act.runBindEnding aEnds _).trans ?_
  cases a with
  | error capture => rfl
  | ok a => exact Act.runBindEnding bEnds _

theorem leftProductComes (firstComes : first.Comes ofFirst) (secondComes : second.Comes ofSecond)
    (thirdComes : third.Comes ofThird) (context : κ) (next : Nat) :
    ∃ a b c, ofFirst a ∧ ofSecond b ∧ ofThird c ∧
      ((Outcome.leftProduct first second third : Act κ ν _).run context next).ending =
        .ok (ofOutcome (paired (paired a b) c)) := by
  obtain ⟨a, b, aKnown, bKnown, innerEnds⟩ := productComes firstComes secondComes context next
  obtain ⟨_, c, rfl, cKnown, ends⟩ := productComes (outcomeComes (paired a b)) thirdComes context _
  exact ⟨a, b, c, aKnown, bKnown, cKnown, (Act.runBindEnding innerEnds _).trans ends⟩

theorem rightProductComes (firstComes : first.Comes ofFirst) (secondComes : second.Comes ofSecond)
    (thirdComes : third.Comes ofThird) (context : κ) (next : Nat) :
    ∃ a b c, ofFirst a ∧ ofSecond b ∧ ofThird c ∧
      ((Outcome.rightProduct first second third : Act κ ν _).run context next).ending =
        .ok (ofOutcome (regroup <$> paired (paired a b) c)) := by
  obtain ⟨b, c, bKnown, cKnown, innerEnds⟩ := productComes secondComes thirdComes context next
  obtain ⟨a, _, aKnown, rfl, ends⟩ := productComes firstComes (outcomeComes (paired b c)) context _
  rw [← pairedRegroup] at ends
  exact ⟨a, b, c, aKnown, bKnown, cKnown, (Act.runBindEnding innerEnds _).trans ends⟩

end Operands

theorem productsRegroup :
    Outcome.Regroups (Act κ ν) (Try κ ν) (fun attempt outcome => attempt.Comes (· = outcome))
      fun product outcome => ∀ context next,
        (product.run context next).ending = .ok (ofOutcome outcome) := by
  intro α β γ first second third a b c firstComes secondComes thirdComes
  constructor
  · intro context next
    obtain ⟨_, _, _, rfl, rfl, rfl, ends⟩ :=
      leftProductComes firstComes secondComes thirdComes context next
    exact ends
  · intro context next
    obtain ⟨_, _, _, rfl, rfl, rfl, ends⟩ :=
      rightProductComes firstComes secondComes thirdComes context next
    exact ends

end Try

structure OptionDerived (m : Type → Type) [Monad m] : Prop where
  derives : Outcome.Derives m Option (fun _ : Unit => none) pure
  filter : ∀ {α : Type} (predicate : StateT α m Bool) (outcome : Option α),
    Optional.filter predicate outcome =
      Outcome.flatMap outcome (Outcome.keepIf predicate (pure none))
  products : Outcome.Regroups m Option (fun outcome held => outcome = held.toOption)
    fun product (held : Except Unit _) => product = pure held.toOption

structure EitherDerived (m : Type → Type) [Monad m] (L : Type) : Prop where
  derives : Outcome.Derives m (Either L) .left pure
  filter : ∀ {α : Type} (either : Either L α) (predicate : StateT α m Bool) (supplier : m L),
    either.filter predicate supplier =
      Outcome.flatMap either (Outcome.keepIf predicate (Either.left <$> supplier))
  flatten : ∀ {α : Type} (either : Either L (Either L α)),
    (pure either.flatten : m _) = Outcome.flatMap either pure
  products : Outcome.Regroups m (Either L) (fun either held => either = .ofExcept held)
    fun product held => product = pure (.ofExcept held)

structure TryDerived (κ ν : Type) : Prop where
  derives : Outcome.Derives (Act κ ν) (Try κ ν) .failure Try.evaluate
  evaluated : ∀ {α : Type} (attempt : Try κ ν α),
    (attempt.evaluate >>= Try.intoResult) = attempt.intoResult
  filter : ∀ {α : Type} (attempt : Try κ ν α) (predicate : StateT α (Act κ ν) Bool)
    (supplier : Act κ ν (Raised Fault)),
    attempt.filter predicate supplier =
      Outcome.flatMap attempt (Outcome.keepIf predicate (supplier >>= Try.fail))
  flatten : ∀ {α : Type} (attempt : Try κ ν (Try κ ν α)),
    attempt.flatten = Outcome.flatMap attempt pure
  products : Outcome.Regroups (Act κ ν) (Try κ ν)
    (fun attempt outcome => attempt.Comes (· = outcome))
    fun product outcome => ∀ context next,
      (product.run context next).ending = .ok (.ofOutcome outcome)
  known : ∀ {α β γ : Type} {first : Try κ ν α} {second : Try κ ν β} {third : Try κ ν γ}
    {ofFirst : Except Capture α → Prop} {ofSecond : Except Capture β → Prop}
    {ofThird : Except Capture γ → Prop}, first.Comes ofFirst → second.Comes ofSecond →
    third.Comes ofThird → ∀ context next,
      (∃ a b c, ofFirst a ∧ ofSecond b ∧ ofThird c ∧
        ((Outcome.leftProduct first second third : Act κ ν _).run context next).ending =
          .ok (.ofOutcome (paired (paired a b) c))) ∧
      ∃ a b c, ofFirst a ∧ ofSecond b ∧ ofThird c ∧
        ((Outcome.rightProduct first second third : Act κ ν _).run context next).ending =
          .ok (.ofOutcome (regroup <$> paired (paired a b) c))

theorem optionDerived (m : Type → Type) [Monad m] [LawfulMonad m] : OptionDerived m where
  derives := Optional.derives
  filter := Optional.filterBinds
  products := Optional.productsRegroup

theorem eitherDerived (m : Type → Type) [Monad m] [LawfulMonad m] (L : Type) :
    EitherDerived m L where
  derives := Either.derives
  filter := Either.filterBinds
  flatten either := by cases either <;> rfl
  products := Either.productsRegroup

theorem tryDerived (κ ν : Type) : TryDerived κ ν where
  derives := Try.derives
  evaluated := Try.evaluateIntoResult
  filter := Try.filterBinds
  flatten _ := rfl
  products := Try.productsRegroup
  known firstComes secondComes thirdComes context next :=
    ⟨Try.leftProductComes firstComes secondComes thirdComes context next,
      Try.rightProductComes firstComes secondComes thirdComes context next⟩

structure CombinatorsDerived (κ ν : Type) : Prop where
  option : ∀ (m : Type → Type) [Monad m] [LawfulMonad m], OptionDerived m
  either : ∀ (m : Type → Type) [Monad m] [LawfulMonad m] (L : Type), EitherDerived m L
  attempt : TryDerived κ ν

theorem combinatorsDerived (κ ν : Type) : CombinatorsDerived κ ν where
  option := optionDerived
  either := eitherDerived
  attempt := tryDerived κ ν

end OutcomeAlgebra
