import OutcomeAlgebra.Either.Sequence
import OutcomeAlgebra.Outcome.InPlace
import OutcomeAlgebra.Proofs.Outcome.Absorbing
import OutcomeAlgebra.Proofs.Try.Keeping
import OutcomeAlgebra.Try.Sequence
/-! Failures of each outcome, along all operations that do not recover. Callbacks and
operands that come later are left alone, with one exception: an absent value has
nothing to put on the left, so converting it asks for that. A capture stays the same
one on the way, and no other capture equals it. -/
namespace OutcomeAlgebra

variable {κ ν α β γ : Type}

namespace Either

variable {L : Type}

def sameAgain (cloned : L → Act κ ν Unit) : Borrow κ ν L L := fun value => do
  let ending ← (cloned value).ending
  pure ((fun _ => value) <$> ending, value)

inductive Passage (κ ν L : Type) : Type → Type → Type 1 where
  | shared {α β : Type} (operation : Onward (Act κ ν) (Either L) L α β) : Passage κ ν L α β
  | mapRight {α β : Type} (f : α → Act κ ν β) : Passage κ ν L α β
  | filter {α : Type} (predicate : StateT α (Act κ ν) Bool) (supplier : Act κ ν L) :
      Passage κ ν L α α
  | flatten {α : Type} : Passage κ ν L (Either L α) α
  | copy {α : Type} (cloned : L → Act κ ν Unit) (payload : Borrow κ ν α α) : Passage κ ν L α α
  | sequence {α : Type} (before after : List (Act κ ν (Either L α))) : Passage κ ν L α (List α)
  | throughResult {α : Type} : Passage κ ν L α α

def Passage.run : Passage κ ν L α β → Either L α → Act κ ν (Either L β)
  | .shared operation, outcome => operation.run Family.either outcome
  | .mapRight f, outcome => outcome.mapRight f
  | .filter predicate supplier, outcome => outcome.filter predicate supplier
  | .flatten, outcome => pure outcome.flatten
  | .copy cloned payload, outcome =>
    Prod.fst <$> Borrow.keep (Either.copy (sameAgain cloned) payload) outcome
  | .sequence before after, outcome => Either.sequence (before ++ pure outcome :: after)
  | .throughResult, outcome => pure (ofExcept outcome.toExcept)

def Passage.before : Passage κ ν L α β → Act κ ν Bool
  | .sequence before _ => Family.either.allSucceed before
  | _ => pure true

def Passage.after : Passage κ ν L α β → L → Act κ ν (Option L)
  | .copy cloned _ => fun value => do
    cloned value
    pure (some value)
  | _ => fun value => pure (some value)

def passages (κ ν L : Type) : Passages κ ν (Passage κ ν L) (Either L) L where
  run := Passage.run
  before := Passage.before
  after := Passage.after

theorem sequenceForetells (before after : List (Act κ ν (Either L α))) (outcome : Either L α) :
    (Family.either.absorbed (Family.either.allSucceed before) (fun value => pure (some value))
      outcome).Foretells left (Either.sequence (before ++ pure outcome :: after)) := by
  induction before with
  | nil =>
    have passes : Family.either.Passes left fun found => Either.sequence (pure found :: after) := by
      refine ⟨fun value => Either.sequence (pure (right value) :: after), fun found => ?_⟩
      cases found <;> simp [Either.sequence, Family.either, toExcept]
    exact passesForetells passes outcome
  | cons pull rest ih =>
    simp only [Family.absorbed, Family.allSucceed, List.cons_append, Either.sequence, bind_assoc]
    refine Act.foretellsBind pull fun found => ?_
    cases found with
    | left value => exact Act.foretellsNothing left _
    | right value =>
      have evaluated : (Family.either (m := Act κ ν)).split (right value : Either L α) =
          pure (.ok value) := rfl
      rw [evaluated, pure_bind]
      exact Act.foretellsOn ih fun failure => rfl

theorem copySplits (cloned : L → Act κ ν Unit) (payload : Borrow κ ν α α) (outcome : Either L α) :
    Passage.run (.copy cloned payload) outcome = Family.either.split outcome >>= fun
      | .ok value => Prod.fst <$> Borrow.keep (Either.copy (sameAgain cloned) payload) (right value)
      | .error value => cloned value >>= fun _ => pure (left value) := by
  cases outcome with
  | right value => exact (pure_bind (m := Act κ ν) _ _).symm
  | left value =>
    refine Eq.trans ?_ (pure_bind (m := Act κ ν) _ _).symm
    unfold Passage.run Borrow.keep Either.copy sameAgain Borrow.within
    simp only [bind_assoc, map_eq_pure_bind, pure_bind]
    exact Act.endingBind (cloned value) fun panic => pure_bind _ _

theorem passageForetells (stage : Passage κ ν L α β) (outcome : Either L α) :
    (Family.either.absorbed stage.before stage.after outcome).Foretells left
      (stage.run outcome) := by
  cases stage with
  | shared operation => exact passesForetells (onwardPasses eitherAbsorbs operation) outcome
  | mapRight f =>
    refine passesForetells ⟨fun value => right <$> f value, fun found => ?_⟩ outcome
    cases found <;> simp [Passage.run, mapRight, Family.either, toExcept]
  | filter predicate supplier =>
    refine passesForetells ⟨fun value => (right value).filter predicate supplier,
      fun found => ?_⟩ outcome
    cases found <;> simp [Passage.run, filter, Family.either, toExcept]
  | flatten =>
    refine passesForetells ⟨pure, fun found => ?_⟩ outcome
    cases found <;> simp [Passage.run, flatten, Family.either, toExcept]
  | throughResult =>
    refine passesForetells ⟨fun value => pure (right value), fun found => ?_⟩ outcome
    cases found <;> simp [Passage.run, Family.either, toExcept, ofExcept]
  | sequence before after => exact sequenceForetells before after outcome
  | copy cloned payload =>
    rw [copySplits]
    refine absorbedForetells fun value => ?_
    exact Act.foretellsBind (cloned value) fun _ => Act.foretellsFailure value left

theorem passagesKeep (κ ν L : Type) : (passages κ ν L).Keep := by
  intro α β stage context next failure found ended
  cases stage with
  | copy cloned payload =>
    obtain ⟨_, _, ended⟩ := Act.runBindEnds _ ended
    cases ended
    rfl
  | _ =>
    cases ended
    rfl

theorem absorb (κ ν L : Type) : (passages κ ν L).Absorb Family.either left :=
  absorbedPaths eitherAbsorbs.splitFail passageForetells (passagesKeep κ ν L)

theorem insideForetells {τ : Type} (inside : Path (Passage κ ν L) α β) (value : L)
    (made : Except L β → τ) :
    (inside.absorbed (passages κ ν L) Family.either left (left value)).Foretells
      (fun value => made (.error value))
      ((fun either => made either.toExcept) <$> inside.run Passage.run (left value)) := by
  have told := (absorb κ ν L).whole inside (left value)
  have same : made <$> (inside.run Passage.run (left value) >>= Family.either.split) =
      (fun either => made either.toExcept) <$> inside.run Passage.run (left value) := by
    rw [map_bind, map_eq_pure_bind]
    rfl
  rw [← same]
  exact Act.foretellsMap told fun _ => rfl

end Either

namespace Optional

inductive Passage (κ ν : Type) : Type → Type → Type 1 where
  | shared {α β : Type} (operation : Onward (Act κ ν) Option Unit α β) : Passage κ ν α β
  | filter {α : Type} (predicate : StateT α (Act κ ν) Bool) : Passage κ ν α α
  | flatten {α : Type} : Passage κ ν (Option α) α
  | copy {α : Type} (payload : Borrow κ ν α α) : Passage κ ν α α
  | throughResult {α : Type} : Passage κ ν α α
  | throughEither {α β L : Type} (supplier : Act κ ν L) (inside : Path (Either.Passage κ ν L) α β) :
      Passage κ ν α β

def Passage.run : Passage κ ν α β → Option α → Act κ ν (Option β)
  | .shared operation, outcome => operation.run Family.option outcome
  | .filter predicate, outcome => Optional.filter predicate outcome
  | .flatten, outcome => pure outcome.join
  | .copy payload, outcome => Prod.fst <$> Borrow.keep (Optional.copy payload) outcome
  | .throughResult, outcome =>
    (Family.option (m := Act κ ν)).rebuild <$> Family.option.split outcome
  | .throughEither supplier inside, outcome => do
    let either ← Optional.toEither supplier outcome
    let either ← inside.run Either.Passage.run either
    pure either.right?

/- An absent value has nothing to put on the left, so its conversion asks for that. -/
def Passage.after : Passage κ ν α β → Unit → Act κ ν (Option Unit)
  | .throughEither (L := L) supplier inside => fun _ => do
    let value ← supplier
    match ← inside.absorbed (Either.passages κ ν L) Family.either .left (.left value) with
    | some _ => pure (some ())
    | none => pure none
  | _ => fun _ => pure (some ())

def passages (κ ν : Type) : Passages κ ν (Passage κ ν) Option Unit where
  run := Passage.run
  before _ := pure true
  after := Passage.after

theorem conversionAsks : ¬ ∀ path : Path (Passage Unit String) Nat Nat,
    ((path.run Passage.run none).run () 0).log = [] := by
  intro silent
  have asked := silent (.step (.throughEither (do
    Act.note "supplier"
    pure "missing") .here) .here)
  cases asked

theorem throughSplits {L : Type} (supplier : Act κ ν L) (inside : Path (Either.Passage κ ν L) α β)
    (outcome : Option α) :
    Passage.run (.throughEither supplier inside) outcome = Family.option.split outcome >>= fun
      | .ok value => Either.right? <$> inside.run Either.Passage.run (.right value)
      | .error _ => supplier >>= fun value =>
        Either.right? <$> inside.run Either.Passage.run (.left value) := by
  cases outcome <;>
    simp only [Passage.run, Optional.toEither, Family.option, map_eq_pure_bind, bind_assoc,
      pure_bind]

theorem passageForetells (stage : Passage κ ν α β) (outcome : Option α) :
    (Family.option.absorbed (pure true) stage.after outcome).Foretells (fun _ => none)
      (stage.run outcome) := by
  cases stage with
  | shared operation => exact passesForetells (onwardPasses optionAbsorbs operation) outcome
  | filter predicate =>
    have passes : Family.option.Passes (fun _ => none) (Passage.filter predicate).run := by
      refine ⟨fun value => Optional.filter predicate (some value), fun found => ?_⟩
      cases found <;> simp [Passage.run, Optional.filter, Family.option]
    exact passesForetells passes outcome
  | flatten =>
    have passes : Family.option.Passes (fun _ => none)
        (Passage.run (.flatten : Passage κ ν (Option β) β)) := by
      refine ⟨pure, fun found => ?_⟩
      cases found <;> simp [Passage.run, Family.option]
    exact passesForetells passes outcome
  | copy payload =>
    have passes : Family.option.Passes (fun _ => none) (Passage.copy payload).run := by
      refine ⟨fun value => Prod.fst <$> Borrow.keep (Optional.copy payload) (some value),
        fun found => ?_⟩
      cases found <;> simp [Passage.run, Family.option, Borrow.keep, Optional.copy]
    exact passesForetells passes outcome
  | throughResult =>
    have passes : Family.option.Passes (fun _ => none)
        (Passage.run (.throughResult : Passage κ ν α α)) := by
      refine ⟨fun value => pure (some value), fun found => ?_⟩
      cases found <;> simp [Passage.run, Family.option]
    exact passesForetells passes outcome
  | @throughEither _ _ L supplier inside =>
    rw [throughSplits]
    refine absorbedForetells fun _ => Act.foretellsBind supplier fun value => ?_
    have told := Either.insideForetells inside value Except.toOption
    have absent : (fun either : Either L β => either.toExcept.toOption) = Either.right? := by
      funext either
      cases either <;> rfl
    rw [absent] at told
    have onward : (inside.absorbed (Either.passages κ ν L) Family.either .left (.left value) >>= fun
        | some _ => pure (some ())
        | none => pure none).Foretells (fun _ => none)
        (Either.right? <$> inside.run Either.Passage.run (.left value) >>= pure) :=
      Act.foretellsThen told (fun _ => pure (some ())) pure fun _ =>
        Act.foretellsFailure () fun _ => none
    rw [bind_pure] at onward
    exact onward

theorem absorb (κ ν : Type) : (passages κ ν).Absorb Family.option fun _ => none :=
  absorbedPaths optionAbsorbs.splitFail passageForetells fun _ _ _ _ _ _ => rfl

end Optional

namespace Try

inductive Passage (κ ν : Type) : Type → Type → Type 1 where
  | shared {α β : Type} (operation : Onward (Act κ ν) (Try κ ν) Capture α β) : Passage κ ν α β
  | filter {α : Type} (predicate : StateT α (Act κ ν) Bool) (supplier : Act κ ν (Raised Fault)) :
      Passage κ ν α α
  | flatten {α : Type} : Passage κ ν (Try κ ν α) α
  | copy {α : Type} (payload : Borrow κ ν α α) : Passage κ ν α α
  | sequence {α : Type} (before after : List (Act κ ν (Try κ ν α))) : Passage κ ν α (List α)
  | throughResult {α : Type} : Passage κ ν α α
  | throughEither {α β : Type} (inside : Path (Either.Passage κ ν Capture) α β) : Passage κ ν α β

def Passage.run : Passage κ ν α β → Try κ ν α → Act κ ν (Try κ ν β)
  | .shared operation, attempt => operation.run Family.attempt attempt
  | .filter predicate supplier, attempt => attempt.filter predicate supplier
  | .flatten, attempt => attempt.flatten
  | .copy payload, attempt => Prod.fst <$> Borrow.keep (Try.copy payload) attempt
  | .sequence before after, attempt => Try.sequence (before ++ pure attempt :: after)
  | .throughResult, attempt => ofOutcome <$> attempt.intoResult
  | .throughEither inside, attempt => do
    let either ← attempt.toEither
    let either ← inside.run Either.Passage.run either
    pure (ofOutcome either.toExcept)

def Passage.before : Passage κ ν α β → Act κ ν Bool
  | .sequence before _ => Family.attempt.allSucceed before
  | _ => pure true

def Passage.after : Passage κ ν α β → Capture → Act κ ν (Option Capture)
  | .sequence before _ => fun capture => do
    Act.emit (.stopped before.length)
    pure (some capture)
  | .throughEither inside => fun capture =>
    inside.absorbed (Either.passages κ ν Capture) Family.either .left (.left capture)
  | _ => fun capture => pure (some capture)

def passages (κ ν : Type) : Passages κ ν (Passage κ ν) (Try κ ν) Capture where
  run := Passage.run
  before := Passage.before
  after := Passage.after

theorem sequenceForetells (index : Nat) (before after : List (Act κ ν (Try κ ν α)))
    (attempt : Try κ ν α) :
    (Family.attempt.absorbed (Family.attempt.allSucceed before)
        (fun capture => do
          Act.emit (.stopped (index + before.length))
          pure (some capture)) attempt).Foretells failure
      (sequenceFrom index (before ++ pure attempt :: after)) := by
  induction before generalizing index with
  | nil =>
    rw [Family.allSucceed, List.nil_append, List.length_nil, sequenceFrom, pure_bind, Nat.add_zero]
    refine absorbedForetells fun capture => ?_
    refine Act.foretellsBind (Act.emit (.stopped index)) fun _ => ?_
    exact Act.foretellsFailure capture failure
  | cons pull rest ih =>
    simp only [Family.absorbed, Family.allSucceed, List.cons_append, sequenceFrom, bind_assoc]
    refine Act.foretellsBind pull fun found => Act.foretellsBind found.intoResult fun outcome => ?_
    cases outcome with
    | error capture => exact Act.foretellsNothing failure _
    | ok value =>
      have further := ih (index + 1)
      have position : index + 1 + rest.length = index + (pull :: rest).length := by
        rw [List.length_cons]
        omega
      rw [position] at further
      exact Act.foretellsMap further fun failure => rfl

theorem throughSplits (inside : Path (Either.Passage κ ν Capture) α β) (attempt : Try κ ν α) :
    Passage.run (.throughEither inside) attempt = attempt.intoResult >>= fun outcome =>
      (fun either => ofOutcome either.toExcept) <$>
        inside.run Either.Passage.run (.ofExcept outcome) := by
  simp only [Passage.run, toEither, map_eq_pure_bind, bind_assoc, pure_bind]

theorem passageForetells (stage : Passage κ ν α β) (attempt : Try κ ν α) :
    (Family.attempt.absorbed stage.before stage.after attempt).Foretells .failure
      (stage.run attempt) := by
  cases stage with
  | shared operation => exact passesForetells (onwardPasses attemptAbsorbs operation) attempt
  | filter predicate supplier =>
    refine passesForetells ⟨fun value => (success value).filter predicate supplier,
      fun given => ?_⟩ attempt
    refine bind_congr fun outcome => ?_
    cases outcome <;> simp [filter, intoResult]
  | flatten =>
    refine passesForetells ⟨pure, fun given => ?_⟩ attempt
    refine bind_congr fun outcome => ?_
    cases outcome <;> rfl
  | copy payload =>
    refine passesForetells ⟨fun value => (fun looked => success looked.1) <$>
      Borrow.keep payload value, fun given => ?_⟩ attempt
    rw [Passage.run, copyOntoValue, ontoValueKeeps, map_bind]
    refine bind_congr fun outcome => ?_
    cases outcome with
    | error capture => rfl
    | ok value => simp only [map_eq_pure_bind, bind_assoc, pure_bind]
  | throughResult =>
    refine passesForetells ⟨fun value => pure (.success value), fun given => ?_⟩ attempt
    rw [Passage.run, map_eq_pure_bind]
    refine bind_congr fun outcome => ?_
    cases outcome <;> rfl
  | throughEither inside =>
    rw [throughSplits]
    refine absorbedForetells fun capture => ?_
    exact Either.insideForetells inside capture ofOutcome
  | sequence before after =>
    have told := sequenceForetells 0 before after attempt
    rw [Nat.zero_add] at told
    exact told

theorem passagesKeep (κ ν : Type) : (passages κ ν).Keep := by
  intro α β stage context next capture found ended
  cases stage with
  | sequence before after =>
    obtain ⟨_, _, ended⟩ := Act.runBindEnds _ ended
    cases ended
    rfl
  | throughEither inside =>
    obtain ⟨moment, same⟩ := (Either.absorb κ ν Capture).original inside (.left capture) ended
    cases same
    rfl
  | _ =>
    cases ended
    rfl

theorem absorb (κ ν : Type) : (passages κ ν).Absorb Family.attempt .failure :=
  absorbedPaths attemptAbsorbs.splitFail passageForetells (passagesKeep κ ν)

theorem equalFailures (payload : α → α → Act κ ν (Except Panic Bool × α × α))
    (left right : Capture) :
    Try.equal payload (.failure left) (.failure right) =
      pure (.ok (left.handle == right.handle), .failure left, .failure right) := by
  simp only [Try.equal, asResult, pure_bind]
  rfl

end Try

def Capture.Apart (κ ν : Type) : Prop :=
  ∀ {γ : Type} (fault other : Fault) (between : Capture → Act κ ν γ) {context : κ} {next : Nat}
    {first second : Capture} {found : γ},
    ((do
      let first ← Capture.new (.plain fault)
      let found ← between first
      let second ← Capture.new (.plain other)
      pure (first, found, second)).run context next).ending = .ok (first, found, second) →
      first.handle ≠ second.handle

theorem capturesApart : Capture.Apart κ ν := by
  intro γ fault other between context next first second found ended
  obtain ⟨one, began, ended⟩ := Act.runBindEnds _ ended
  cases began
  obtain ⟨found, _, ended⟩ := Act.runBindEnds _ ended
  obtain ⟨two, claimed, ended⟩ := Act.runBindEnds _ ended
  cases claimed
  cases ended
  have claimed : ((Capture.new (.plain fault) : Act κ ν Capture).run context next).used = 1 := rfl
  simp only [claimed]
  omega

structure FailuresAbsorbed (κ ν : Type) : Prop where
  option : (Optional.passages κ ν).Absorb Family.option fun _ => none
  either : ∀ L : Type, (Either.passages κ ν L).Absorb Family.either .left
  attempt : (Try.passages κ ν).Absorb Family.attempt .failure
  equal : ∀ {α : Type} (payload : α → α → Act κ ν (Except Panic Bool × α × α))
    (left right : Capture), Try.equal payload (.failure left) (.failure right) =
      pure (.ok (left.handle == right.handle), .failure left, .failure right)
  apart : Capture.Apart κ ν

theorem failuresAbsorbed (κ ν : Type) : FailuresAbsorbed κ ν where
  option := Optional.absorb κ ν
  either := Either.absorb κ ν
  attempt := Try.absorb κ ν
  equal := Try.equalFailures
  apart := capturesApart

theorem delayedFailureAbsorbed :
    let call : Act Unit String Nat := do
      Act.note "called"
      pure 0
    let path : Path (Try.Passage Unit String) Nat Nat :=
      .step (.sequence [pure (.success 1)] [pure (.delayed (.ok <$> call))])
        (.step (.shared (.map fun _ => call))
          (.step (.copy fun value => pure (.ok value, value)) .here))
    let attempt : Try Unit String Nat := .delayed (pure (.error (.plain (.text "broken"))))
    (path.run Try.Passage.run attempt >>= Family.attempt.split).run () 0 =
      ⟨[.event .evaluating, .event (.captured "broken"), .event (.stopped 1)], 1,
        .ok (.error ⟨0, .text "broken"⟩)⟩ :=
  (failuresAbsorbed Unit String).attempt.whole _ _ rfl

end OutcomeAlgebra
