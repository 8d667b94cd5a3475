import OutcomeAlgebra.Algebra.Accumulate
import OutcomeAlgebra.Algebra.Function
import OutcomeAlgebra.Algebra.Scalar
import OutcomeAlgebra.Either.Sequence
import OutcomeAlgebra.Iter.Basic
import OutcomeAlgebra.Outcome.Basic
import OutcomeAlgebra.Steps.Basic
/-! The operations that evaluate nothing: those of optional values and eithers, of their
chains, and of semigroups and monoids. They ask their callbacks, go on from the answers, and
may stop. In no monad is there anything else that they do. -/
namespace OutcomeAlgebra

section Building

variable {m : Type → Type} [Monad m] [MonadExceptOf Panic m] {C : Type → Type} {α β : Type}

inductive Built (ask : ⦃γ : Type⦄ → C γ → m γ) : {γ : Type} → m γ → Prop where
  | ask {γ : Type} (callback : C γ) : Built ask (ask callback)
  | pure {γ : Type} (value : γ) : Built ask (pure value)
  | map {β γ : Type} (f : β → γ) {act : m β} (first : Built ask act) : Built ask (f <$> act)
  | bind {β γ : Type} {act : m β} {rest : β → m γ} (first : Built ask act)
      (last : ∀ value, Built ask (rest value)) : Built ask (act >>= rest)
  | stop {γ : Type} (panic : Panic) : Built ask (throw panic : m γ)

variable {ask : ⦃γ : Type⦄ → C γ → m γ}

theorem foldBuilt {append : α → β → m α} (built : ∀ a b, Built ask (append a b)) (values : List β)
    (start : α) : Built ask (values.foldlM append start) := by
  induction values generalizing start with
  | nil => exact .pure start
  | cons value rest ih =>
    rw [List.foldlM_cons]
    exact (built start value).bind ih

theorem copiesBuilt {op : SemigroupOp m α} (built : ∀ a b, Built ask (op.append a b))
    (copy : α → C (α × α)) (count : Nat) (value result : α) :
    Built ask (op.appendCopies (fun value => ask (copy value)) value count result) := by
  induction count generalizing value result with
  | zero => exact .pure result
  | succ count ih =>
    refine (Built.ask (copy value)).bind fun copied => ?_
    exact (built result copied.1).bind fun result => ih copied.2 result

theorem separatedBuilt {op : SemigroupOp m α} (built : ∀ a b, Built ask (op.append a b))
    (copy : α → C (α × α)) (values : List α) (separator result : α) :
    Built ask
      (MonoidOp.appendSeparated op (fun value => ask (copy value)) values separator result) := by
  induction values generalizing separator result with
  | nil => exact .pure result
  | cons value rest ih =>
    refine (Built.ask (copy separator)).bind fun copied => ?_
    refine (built result copied.1).bind fun result => ?_
    exact (built result value).bind fun result => ih copied.2 result

theorem sequenceBuilt {L R : Type} (pulls : List (C (Either L R))) :
    Built ask (Either.sequence (pulls.map fun pull => ask pull)) := by
  induction pulls with
  | nil => exact .pure _
  | cons pull rest ih =>
    refine (Built.ask pull).bind fun either => ?_
    cases either with
    | left value => exact .pure _
    | right value => exact ih.bind fun made => by cases made <;> exact .pure _

theorem collectBuilt {L R : Type} (pull : Nat → C (Option (Either L R))) (limit index : Nat) :
    Built ask (Either.collectFrom (fun index => ask (pull index)) limit index) := by
  induction limit generalizing index with
  | zero => exact .pure _
  | succ limit ih =>
    refine (Built.ask (pull index)).bind fun found => ?_
    rcases found with _ | (value | value)
    · exact .pure _
    · exact .pure _
    · exact (ih (index + 1)).bind fun found => by rcases found with _ | (_ | _) <;> exact .pure _

structure MonoidOp.Builds (ask : ⦃γ : Type⦄ → C γ → m γ) (monoid : MonoidOp m α) : Prop where
  append (a b : α) : Built ask (monoid.append a b)
  empty : Built ask monoid.empty
  join (values : List α) : Built ask (monoid.join values)

theorem ofBuilds {op : SemigroupOp m α} {empty : m α} (append : ∀ a b, Built ask (op.append a b))
    (identity : Built ask empty) : (MonoidOp.of op empty).Builds ask where
  append := append
  empty := identity
  join values := identity.bind fun start => foldBuilt append values start

end Building

/- An outcome that has no lazy parts of its own, and what its failures hold. -/
inductive Kind : (Type → Type) → Type → Type 1 where
  | option : Kind Option Unit
  | either (L : Type) : Kind (Either L) L

mutual

inductive Semi (m C : Type → Type) : Type → Type 1 where
  | given {α : Type} (append : α → α → C α) : Semi m C α
  | greatest {α : Type} (below : α → α → Bool) : Semi m C α
  | least {α : Type} (below : α → α → Bool) : Semi m C α
  | pair {α β : Type} (first : Semi m C α) (second : Semi m C β) : Semi m C (α × β)
  | accumulate {L R : Type} (left : Semi m C L) (right : Semi m C R) : Semi m C (Either L R)
  | pointwise {χ β : Type} (copy : χ → C (χ × χ)) (inner : Semi m C β) : Semi m C (χ → m β)
  | ofMonoid {α : Type} (monoid : Mono m C α) : Semi m C α

inductive Mono (m C : Type → Type) : Type → Type 1 where
  | withIdentity {α : Type} (inner : Semi m C α) (empty : C α) : Mono m C α
  | ofFunction {α : Type} (f : α → α → α) (identity : α) : Mono m C α
  | string : Mono m C String
  | list {α : Type} : Mono m C (List α)
  | firstSome {α : Type} : Mono m C (Option α)
  | lastSome {α : Type} : Mono m C (Option α)
  | optional {α : Type} (inner : Semi m C α) : Mono m C (Option α)
  | accumulate {L R : Type} (left : Semi m C L) (right : Mono m C R) : Mono m C (Either L R)
  | compose {α β : Type} (first : Mono m C α) (second : Mono m C β) : Mono m C (α × β)
  | pointwise {χ β : Type} (copy : χ → C (χ × χ)) (inner : Mono m C β) : Mono m C (χ → m β)
  | composition {α : Type} : Mono m C (α → m α)
  | chaining {α : Type} : Mono m C (Iter m α)
  | byReference {α : Type} (inner : Mono m C α) : Mono m C α

end

section Running

variable {m : Type → Type} [Monad m] [MonadExceptOf Panic m] {C : Type → Type} {α β ε : Type}
  {F : Type → Type}

@[reducible]
def Kind.outcome : Kind F ε → Outcome m F
  | .option => optionOutcome
  | .either _ => eitherOutcome

def Kind.family : Kind F ε → Family m F ε
  | .option => Family.option
  | .either _ => Family.either

mutual

def Semi.op (ask : ⦃γ : Type⦄ → C γ → m γ) : {α : Type} → Semi m C α → SemigroupOp m α
  | _, .given append => ⟨fun a b => ask (append a b)⟩
  | _, .greatest below => .greatest below
  | _, .least below => .least below
  | _, .pair first second => (first.op ask).pair (second.op ask)
  | _, .accumulate left right => (left.op ask).accumulate (right.op ask)
  | _, .pointwise copy inner => (inner.op ask).pointwise fun value => ask (copy value)
  | _, .ofMonoid monoid => (monoid.op ask).toSemigroupOp

def Mono.op (ask : ⦃γ : Type⦄ → C γ → m γ) : {α : Type} → Mono m C α → MonoidOp m α
  | _, .withIdentity inner empty => .of (inner.op ask) (ask empty)
  | _, .ofFunction f identity => .ofFunction f identity
  | _, .string => .string
  | _, .list => .list
  | _, .firstSome => .firstSome
  | _, .lastSome => .lastSome
  | _, .optional inner => .optional (inner.op ask)
  | _, .accumulate left right => .accumulate (left.op ask) (right.op ask)
  | _, .compose first second => (first.op ask).compose (second.op ask)
  | _, .pointwise copy inner => .pointwise (fun value => ask (copy value)) (inner.op ask)
  | _, .composition => .composition
  | _, .chaining => Iter.chaining
  | _, .byReference inner => (inner.op ask).byReference

end

variable {ask : ⦃γ : Type⦄ → C γ → m γ}

theorem pairBuilt {first : SemigroupOp m α} {second : SemigroupOp m β}
    (left : ∀ a b, Built ask (first.append a b)) (right : ∀ a b, Built ask (second.append a b))
    (a b : α × β) : Built ask ((first.pair second).append a b) :=
  (left a.1 b.1).bind fun _ => (right a.2 b.2).bind fun _ => .pure _

theorem accumulateBuilt {first : SemigroupOp m α} {second : SemigroupOp m β}
    (left : ∀ a b, Built ask (first.append a b)) (right : ∀ a b, Built ask (second.append a b))
    (a b : Either α β) : Built ask ((first.accumulate second).append a b) := by
  cases a with
  | left a =>
    cases b with
    | left b => exact (left a b).map _
    | right b => exact .pure _
  | right a =>
    cases b with
    | left b => exact .pure _
    | right b => exact (right a b).map _

mutual

theorem Semi.built : ∀ {α : Type} (semi : Semi m C α) (a b : α),
    Built ask ((semi.op ask).append a b)
  | _, .given append, a, b => .ask (append a b)
  | _, .greatest _, _, _ => .pure _
  | _, .least _, _, _ => .pure _
  | _, .pair first second, a, b => pairBuilt first.built second.built a b
  | _, .accumulate left right, a, b => accumulateBuilt left.built right.built a b
  | _, .pointwise _ _, _, _ => .pure _
  | _, .ofMonoid monoid, a, b => monoid.builds.append a b

theorem Mono.builds : ∀ {α : Type} (mono : Mono m C α), (mono.op ask).Builds ask
  | _, .withIdentity inner empty => ofBuilds inner.built (.ask empty)
  | _, .ofFunction _ _ => ofBuilds (fun _ _ => .pure _) (.pure _)
  | _, .string => ⟨fun _ _ => .pure _, .pure _, fun _ => .pure _⟩
  | _, .list => ⟨fun _ _ => .pure _, .pure _, fun _ => .pure _⟩
  | _, .firstSome => ofBuilds (fun _ _ => .pure _) (.pure _)
  | _, .lastSome => ofBuilds (fun _ _ => .pure _) (.pure _)
  | _, .optional inner => ofBuilds (fun
      | some a, some b => (inner.built a b).map _
      | some _, none => .pure _
      | none, _ => .pure _) (.pure _)
  | _, .accumulate left right => ofBuilds (accumulateBuilt left.built right.builds.append)
      (right.builds.empty.map _)
  | _, .compose first second => ofBuilds (pairBuilt first.builds.append second.builds.append)
      (first.builds.empty.bind fun _ => second.builds.empty.bind fun _ => .pure _)
  | _, .pointwise _ _ => ofBuilds (fun _ _ => .pure _) (.pure _)
  | _, .composition => ofBuilds (fun _ _ => .pure _) (.pure _)
  | _, .chaining => ofBuilds (fun _ _ => .pure _) (.pure _)
  | _, .byReference inner => ofBuilds inner.builds.append inner.builds.empty

end

namespace Kind

theorem mapBuilt (kind : Kind F ε) (outcome : F α) {f : α → m β}
    (built : ∀ value, Built ask (f value)) : Built ask (kind.outcome.map outcome f) := by
  cases kind with
  | option => cases outcome with
    | none => exact .pure _
    | some value => exact (built value).map _
  | either L => cases outcome with
    | left value => exact .pure _
    | right value => exact (built value).map _

theorem flatMapBuilt (kind : Kind F ε) (outcome : F α) {f : α → m (F β)}
    (built : ∀ value, Built ask (f value)) : Built ask (kind.outcome.flatMap outcome f) := by
  cases kind with
  | option => cases outcome with
    | none => exact .pure _
    | some value => exact built value
  | either L => cases outcome with
    | left value => exact .pure _
    | right value => exact built value

theorem map2Built {γ : Type} (kind : Kind F ε) (first : F α) (second : F β) {f : α → β → m γ}
    (built : ∀ a b, Built ask (f a b)) : Built ask (kind.outcome.map2 first second f) := by
  cases kind with
  | option =>
    cases first with
    | none => exact .pure _
    | some a =>
      cases second with
      | none => exact .pure _
      | some b => exact (built a b).map _
  | either L =>
    cases first with
    | left value => cases second <;> exact .pure _
    | right a =>
      cases second with
      | left value => exact .pure _
      | right b => exact (built a b).map _

theorem splitBuilt (kind : Kind F ε) (outcome : F α) :
    Built ask (kind.family.split (m := m) outcome) := by
  cases kind with
  | option => cases outcome <;> exact .pure _
  | either L => exact .pure _

theorem entryBuilt {σ : Type} (kind : Kind F ε) (outcome : F α) (f : α → σ) :
    Built ask (Steps.start kind.family f outcome : m (Steps ε σ)) :=
  (kind.splitBuilt outcome).bind fun split => by cases split <;> exact .pure _

end Kind

end Running

inductive Ordinary (m C : Type → Type) : Type → Type 1 where
  | map {F : Type → Type} {α β ε : Type} (kind : Kind F ε) (outcome : F α) (f : α → C β) :
      Ordinary m C (F β)
  | map2 {F : Type → Type} {α β γ ε : Type} (kind : Kind F ε) (first : F α) (second : F β)
      (f : α → β → C γ) : Ordinary m C (F γ)
  | flatMap {F : Type → Type} {α β ε : Type} (kind : Kind F ε) (outcome : F α)
      (f : α → C (F β)) : Ordinary m C (F β)
  | replace {F : Type → Type} {α β ε : Type} (kind : Kind F ε) (outcome : F α) (value : β) :
      Ordinary m C (F β)
  | void {F : Type → Type} {α ε : Type} (kind : Kind F ε) (outcome : F α) : Ordinary m C (F Unit)
  | product {F : Type → Type} {α β ε : Type} (kind : Kind F ε) (first : F α) (second : F β) :
      Ordinary m C (F (α × β))
  | andThen {F : Type → Type} {α β ε : Type} (kind : Kind F ε) (outcome : F α)
      (f : α → C (F β)) : Ordinary m C (F β)
  | followedBy {F : Type → Type} {α β ε : Type} (kind : Kind F ε) (outcome : F α) (later : F β) :
      Ordinary m C (F β)
  | eitherOrElse {L R : Type} (either : Either L R) (supplier : C R) : Ordinary m C R
  | mapLeft {L R S : Type} (either : Either L R) (f : L → C S) : Ordinary m C (Either S R)
  | bimap {L R S T : Type} (either : Either L R) (f : L → C S) (g : R → C T) :
      Ordinary m C (Either S T)
  | foldEither {L R S : Type} (either : Either L R) (f : L → C S) (g : R → C S) : Ordinary m C S
  | filterEither {L R : Type} (either : Either L R) (predicate : R → C (Bool × R))
      (supplier : C L) : Ordinary m C (Either L R)
  | unwrapLeft {L R : Type} (either : Either L R) : Ordinary m C L
  | unwrapRight {L R : Type} (either : Either L R) : Ordinary m C R
  | sequence {L R : Type} (pulls : List (C (Either L R))) : Ordinary m C (Either L (List R))
  | collect {L R : Type} (pull : Nat → C (Option (Either L R))) (limit : Nat) :
      Ordinary m C (Option (Either L (List R)))
  | foldOption {α β : Type} (onNone : C β) (onSome : α → C β) (option : Option α) : Ordinary m C β
  | optionOrElse {α : Type} (supplier : C α) (option : Option α) : Ordinary m C α
  | toEither {α L : Type} (supplier : C L) (option : Option α) : Ordinary m C (Either L α)
  | filterOption {α : Type} (predicate : α → C (Bool × α)) (option : Option α) :
      Ordinary m C (Option α)
  | begins {F : Type → Type} {α τ ε : Type} (kind : Kind F ε) (first : α → τ) (outcome : F α) :
      Ordinary m C (Steps ε τ)
  | next {F : Type → Type} {α τ σ ε : Type} (kind : Kind F ε) (push : τ → α → σ)
      (steps : Steps ε τ) (f : τ → C (F α × τ)) : Ordinary m C (Steps ε σ)
  | nextWith {F : Type → Type} {α τ σ ε : Type} (kind : Kind F ε) (push : τ → α → σ)
      (steps : Steps ε τ) (supplier : C (F α)) : Ordinary m C (Steps ε σ)
  | filterOr {τ ε : Type} (steps : Steps ε τ) (predicate : τ → C (Bool × τ)) (onFailure : C ε) :
      Ordinary m C (Steps ε τ)
  | filterSteps {τ : Type} (steps : Steps Unit τ) (predicate : τ → C (Bool × τ)) :
      Ordinary m C (Steps Unit τ)
  | yields {F : Type → Type} {τ β ε : Type} (kind : Kind F ε) (steps : Steps ε τ) (f : τ → C β) :
      Ordinary m C (F β)
  | append {α : Type} (semi : Semi m C α) (a b : α) : Ordinary m C α
  | sumNonEmpty {α : Type} (semi : Semi m C α) (head : α) (tail : List α) : Ordinary m C α
  | appendN {α : Type} (semi : Semi m C α) (copy : α → C (α × α)) (value : α) (count : Nat) :
      Ordinary m C α
  | empty {α : Type} (mono : Mono m C α) : Ordinary m C α
  | join {α : Type} (mono : Mono m C α) (values : List α) : Ordinary m C α
  | multiply {α : Type} (mono : Mono m C α) (copy : α → C (α × α)) (value : α) (count : Nat) :
      Ordinary m C α
  | intersperse {α : Type} (mono : Mono m C α) (copy : α → C (α × α)) (separator : α)
      (values : List α) : Ordinary m C α
  | pointwise {χ β : Type} (copy : χ → C (χ × χ)) (inner : Semi m C β) (f g : χ → C β)
      (argument : χ) : Ordinary m C β
  | composition {α : Type} (f g : α → C α) (argument : α) : Ordinary m C α

namespace Ordinary

variable {m : Type → Type} [Monad m] [MonadExceptOf Panic m] {C : Type → Type} {β : Type}

def run (ask : ⦃γ : Type⦄ → C γ → m γ) : Ordinary m C β → m β
  | @map _ _ F _ β _ kind outcome f => kind.outcome.map outcome fun value => ask (f value)
  | @map2 _ _ F _ _ γ _ kind first second f => kind.outcome.map2 first second fun a b => ask (f a b)
  | @flatMap _ _ F _ β _ kind outcome f => kind.outcome.flatMap outcome fun value => ask (f value)
  | @replace _ _ F _ β _ kind outcome value =>
    have := kind.outcome (m := m)
    Outcome.replace outcome value
  | @void _ _ F _ _ kind outcome =>
    have := kind.outcome (m := m)
    Outcome.void outcome
  | @product _ _ F α β _ kind first second =>
    have := kind.outcome (m := m)
    Outcome.product first second
  | @andThen _ _ F _ β _ kind outcome f =>
    have := kind.outcome (m := m)
    Outcome.andThen outcome fun value => ask (f value)
  | @followedBy _ _ F _ β _ kind outcome later =>
    have := kind.outcome (m := m)
    Outcome.followedBy outcome later
  | .eitherOrElse either supplier => either.getOrElse (ask supplier)
  | .mapLeft either f => either.mapLeft fun value => ask (f value)
  | .bimap either f g => either.bimap (fun value => ask (f value)) fun value => ask (g value)
  | .foldEither either f g => either.fold (fun value => ask (f value)) fun value => ask (g value)
  | .filterEither either predicate supplier =>
    either.filter (fun value => ask (predicate value)) (ask supplier)
  | .unwrapLeft either => either.unwrapLeft
  | .unwrapRight either => either.unwrapRight
  | .sequence pulls => Either.sequence (pulls.map fun pull => ask pull)
  | .collect pull limit => Either.collectFrom (fun index => ask (pull index)) limit 0
  | .foldOption onNone onSome option =>
    Optional.fold (ask onNone) (fun value => ask (onSome value)) option
  | .optionOrElse supplier option => Optional.getOrElse (ask supplier) option
  | .toEither supplier option => Optional.toEither (ask supplier) option
  | .filterOption predicate option => Optional.filter (fun value => ask (predicate value)) option
  | .begins kind first outcome => Steps.start kind.family first outcome
  | .next kind push steps f => steps.next kind.family push fun values => ask (f values)
  | .nextWith kind push steps supplier => steps.nextWith kind.family push (ask supplier)
  | .filterOr steps predicate onFailure =>
    steps.filterOr (fun values => ask (predicate values)) (ask onFailure)
  | .filterSteps steps predicate => steps.filter fun values => ask (predicate values)
  | @yields _ _ F _ β _ kind steps f => steps.yields kind.family fun values => ask (f values)
  | .append semi a b => (semi.op ask).append a b
  | .sumNonEmpty semi head tail => (semi.op ask).sumNonEmpty head tail
  | .appendN semi copy value count =>
    (semi.op ask).appendN (fun value => ask (copy value)) value count
  | .empty mono => (mono.op ask).empty
  | .join mono values => (mono.op ask).join values
  | .multiply mono copy value count =>
    (mono.op ask).multiply (fun value => ask (copy value)) value count
  | .intersperse mono copy separator values =>
    (mono.op ask).intersperse (fun value => ask (copy value)) separator values
  | .pointwise copy inner f g argument => do
    let both ← ((inner.op ask).pointwise fun value => ask (copy value)).append
      (fun value => ask (f value)) fun value => ask (g value)
    both argument
  | .composition f g argument => do
    let both ← SemigroupOp.composition.append (fun value => ask (f value)) fun value =>
      ask (g value)
    both argument

variable {ask : ⦃γ : Type⦄ → C γ → m γ}

theorem built [LawfulMonad m] (operation : Ordinary m C β) : Built ask (operation.run ask) := by
  cases operation with
  | map kind outcome f => exact kind.mapBuilt outcome fun value => .ask (f value)
  | map2 kind first second f => exact kind.map2Built first second fun a b => .ask (f a b)
  | flatMap kind outcome f | andThen kind outcome f =>
    exact kind.flatMapBuilt outcome fun value => .ask (f value)
  | replace kind outcome value => exact kind.mapBuilt outcome fun _ => .pure value
  | void kind outcome => exact kind.mapBuilt outcome fun _ => .pure ()
  | product kind first second => exact kind.map2Built first second fun a b => .pure (a, b)
  | followedBy kind outcome later => exact kind.flatMapBuilt outcome fun _ => .pure later
  | eitherOrElse either supplier =>
    cases either with
    | left value => exact .ask supplier
    | right value => exact .pure value
  | mapLeft either f =>
    cases either with
    | left value => exact (Built.ask (f value)).map _
    | right value => exact .pure _
  | bimap either f g =>
    cases either with
    | left value => exact (Built.ask (f value)).map _
    | right value => exact (Built.ask (g value)).map _
  | foldEither either f g =>
    cases either with
    | left value => exact .ask (f value)
    | right value => exact .ask (g value)
  | filterEither either predicate supplier =>
    cases either with
    | left value => exact .pure _
    | right value =>
      refine (Built.ask (predicate value)).bind fun verdict => ?_
      obtain ⟨accepted, value⟩ := verdict
      cases accepted with
      | true => exact .pure _
      | false => exact (Built.ask supplier).map _
  | unwrapLeft either =>
    cases either with
    | left value => exact .pure value
    | right value => exact .stop .leftOfRight
  | unwrapRight either =>
    cases either with
    | left value => exact .stop .rightOfLeft
    | right value => exact .pure value
  | sequence pulls => exact sequenceBuilt pulls
  | collect pull limit => exact collectBuilt pull limit 0
  | foldOption onNone onSome option =>
    cases option with
    | none => exact .ask onNone
    | some value => exact .ask (onSome value)
  | optionOrElse supplier option =>
    cases option with
    | none => exact .ask supplier
    | some value => exact .pure value
  | toEither supplier option =>
    cases option with
    | none => exact (Built.ask supplier).map _
    | some value => exact .pure _
  | filterOption predicate option =>
    cases option with
    | none => exact .pure none
    | some value => exact (Built.ask (predicate value)).bind fun verdict => .pure _
  | begins kind first outcome => exact kind.entryBuilt outcome first
  | next kind push steps f =>
    obtain ⟨state⟩ := steps
    cases state with
    | error failure => exact .pure _
    | ok values =>
      exact (Built.ask (f values)).bind fun answer => kind.entryBuilt answer.1 (push answer.2)
  | nextWith kind push steps supplier =>
    obtain ⟨state⟩ := steps
    cases state with
    | error failure => exact .pure _
    | ok values =>
      refine Built.bind ?_ fun answer => kind.entryBuilt answer.1 (push answer.2)
      exact (Built.ask supplier).bind fun outcome => .pure (outcome, values)
  | filterOr steps predicate onFailure =>
    obtain ⟨state⟩ := steps
    cases state with
    | error failure => exact .pure _
    | ok values =>
      refine (Built.ask (predicate values)).bind fun verdict => ?_
      obtain ⟨accepted, values⟩ := verdict
      cases accepted with
      | true => exact .pure _
      | false => exact (Built.ask onFailure).bind fun failure => .pure _
  | filterSteps steps predicate =>
    obtain ⟨state⟩ := steps
    cases state with
    | error failure => exact .pure _
    | ok values =>
      refine (Built.ask (predicate values)).bind fun verdict => ?_
      obtain ⟨accepted, values⟩ := verdict
      cases accepted with
      | true => exact .pure _
      | false => exact (Built.pure ()).bind fun failure => .pure _
  | yields kind steps f =>
    obtain ⟨state⟩ := steps
    cases state with
    | error failure => exact .pure _
    | ok values => exact (Built.ask (f values)).bind fun value => .pure _
  | append semi a b => exact semi.built a b
  | sumNonEmpty semi head tail => exact foldBuilt semi.built tail head
  | appendN semi copy value count =>
    cases count with
    | zero => exact .stop .emptyRepeat
    | succ count =>
      exact (Built.ask (copy value)).bind fun copied =>
        copiesBuilt semi.built copy count copied.2 copied.1
  | empty mono => exact mono.builds.empty
  | join mono values => exact mono.builds.join values
  | multiply mono copy value count =>
    cases count with
    | zero => exact mono.builds.empty
    | succ count =>
      exact (Built.ask (copy value)).bind fun copied =>
        copiesBuilt mono.builds.append copy count copied.2 copied.1
  | intersperse mono copy separator values =>
    cases values with
    | nil => exact mono.builds.empty
    | cons first rest => exact separatedBuilt mono.builds.append copy rest separator first
  | pointwise copy inner f g argument =>
    simp only [run, SemigroupOp.pointwise, pure_bind]
    refine (Built.ask (copy argument)).bind fun copied => ?_
    refine (Built.ask (f copied.1)).bind fun left => ?_
    exact (Built.ask (g copied.2)).bind fun right => inner.built left right
  | composition f g argument =>
    simp only [run, SemigroupOp.composition, pure_bind]
    exact (Built.ask (f argument)).bind fun between => .ask (g between)

end Ordinary

end OutcomeAlgebra
