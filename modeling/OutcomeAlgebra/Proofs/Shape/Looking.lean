import OutcomeAlgebra.Proofs.Shape.Settling
import OutcomeAlgebra.Proofs.Try.Sight
/-! Looks at a value that stays where it is, on the way down to any of its parts. A look
evaluates what it has to pass. What it leaves returns again and has come no further than the
value could, so a look never takes away a tree that a later look relies on. -/
namespace OutcomeAlgebra

variable {κ ν α β γ L R : Type}

namespace Shape

inductive Look {κ ν : Type} : {α : Type} → Shape κ ν α → Type → Type 1 where
  | copy {α : Type} {shape : Shape κ ν α} : Look shape α
  | equalSelf {α : Type} {shape : Shape κ ν α} : Look shape Bool
  | glance {α β : Type} {inner : Shape κ ν α} (look : Try.Glance α β) : Look (.attempt inner) β
  | onValue {α β : Type} {inner : Shape κ ν α} (look : Look inner β) (missed : Capture → β) :
      Look (.attempt inner) β
  | onPresent {α β : Type} {inner : Shape κ ν α} (look : Look inner β) (missed : β) :
      Look (.optional inner) β
  | onLeft {L R β : Type} {left : Shape κ ν L} {right : Shape κ ν R} (look : Look left β)
      (missed : β) : Look (.either left right) β
  | onRight {L R β : Type} {left : Shape κ ν L} {right : Shape κ ν R} (look : Look right β)
      (missed : β) : Look (.either left right) β
  | onItem {α β : Type} {inner : Shape κ ν α} (place : Nat) (look : Look inner β) (missed : β) :
      Look (.list inner) β

def Look.sight {α : Type} {shape : Shape κ ν α} {β : Type} : Look shape β → Borrow κ ν α β
  | .copy => shape.copy
  | .equalSelf => shape.equalSelf
  | .glance look => look.seen
  | .onValue look missed => Try.ontoValue look.sight missed id
  | .onPresent look missed => fun
    | none => pure (.ok missed, none)
    | some value => Borrow.within some id (look.sight value)
  | .onLeft look missed => fun
    | .left value => Borrow.within .left id (look.sight value)
    | .right value => pure (.ok missed, .right value)
  | .onRight look missed => fun
    | .left value => pure (.ok missed, .left value)
    | .right value => Borrow.within .right id (look.sight value)
  | .onItem place look missed => fun items =>
    match items[place]? with
    | none => pure (.ok missed, items)
    | some item => Borrow.within (items.set place ·) id (look.sight item)

/- What a computation leaves of a value, also where it panics, is a later state of the value. -/
def Leaves (shape : Shape κ ν α) (value : α) (act : Act κ ν (Except Panic β × α)) : Prop :=
  ∀ context next ending after, (act.run context next).ending = .ok (ending, after) →
    shape.Returns after ∧ shape.Refines value after

def Gentle (shape : Shape κ ν α) (look : Borrow κ ν α β) : Prop :=
  ∀ value, shape.Returns value → shape.Leaves value (look value)

section Leaving

variable {shape : Shape κ ν α} {inner : Shape κ ν α} {outer : Shape κ ν β} {value : α}

theorem leavesPure {after : α} {ending : Except Panic γ} (returns : shape.Returns after)
    (refines : shape.Refines value after) : shape.Leaves value (pure (ending, after)) := by
  intro context next found later ended
  cases ended
  exact ⟨returns, refines⟩

theorem leavesSelf {ending : Except Panic γ} (returns : shape.Returns value) :
    shape.Leaves value (pure (ending, value)) := leavesPure returns (refinesSelf shape value)

theorem leavesWithin {act : Act κ ν (Except Panic γ × α)} {whole : α → β} {before : β}
    (leaves : inner.Leaves value act)
    (lift : ∀ later, inner.Returns later → inner.Refines value later →
      outer.Returns (whole later) ∧ outer.Refines before (whole later)) :
    outer.Leaves before (Borrow.within whole id act) := by
  intro context next ending after ended
  obtain ⟨⟨found, later⟩, first, last⟩ := Act.runBindEnds _ ended
  obtain ⟨returns, refines⟩ := leaves context next found later first
  have lifted := lift later returns refines
  cases found with
  | error panic =>
    cases last
    exact lifted
  | ok answer =>
    cases last
    exact lifted

theorem leavesTrying {held spoiled : Try κ ν α}
    {rest : Except Capture α → Act κ ν (Except Panic γ × Try κ ν α)}
    (returns : (attempt inner).Returns held)
    (leaves : ∀ context next outcome, (held.intoResult.run context next).ending = .ok outcome →
      (attempt inner).Leaves held (rest outcome)) :
    (attempt inner).Leaves held (held.intoResult.trying spoiled rest) := by
  intro context next ending after ended
  obtain ⟨outcome, ran, _⟩ := returns context next
  have demanded : (held.intoResult.ending.run context next).ending = .ok (.ok outcome) :=
    congrArg Except.ok ran
  unfold Act.trying at ended
  rw [Act.runBindEnding demanded] at ended
  exact leaves context next outcome ran context _ ending after ended

theorem glanceGentle (inner : Shape κ ν α) (look : Try.Glance α γ) :
    (attempt inner).Gentle look.seen := by
  intro held returns
  rw [Try.glanceTrying]
  refine leavesTrying returns fun context next outcome ran => ?_
  exact leavesPure (returnsKept held (returnsOutcome returns ran))
    (refinesKept ran fun _ holds => holds)

theorem ontoValueGentle {payload : Borrow κ ν α γ} (gentle : inner.Gentle payload)
    (missed : Capture → γ) : (attempt inner).Gentle (Try.ontoValue payload missed id) := by
  intro held returns
  rw [Try.ontoValueTrying]
  refine leavesTrying returns fun context next outcome ran => ?_
  cases outcome with
  | error capture =>
    have stays : (attempt inner).Refines held (held.kept (.error capture)) :=
      refinesKept ran fun _ holds => holds
    intro context next ending after ended
    cases ended
    exact ⟨returnsKept held nofun, stays⟩
  | ok value =>
    have leaves := gentle value (returnsOutcome returns ran value rfl)
    unfold Try.overValue
    rw [Borrow.withinWithin]
    refine leavesWithin leaves fun later again refines => ⟨returnsKept held ?_, refinesKept ran ?_⟩
    · intro other same
      cases same
      exact again
    · intro tree holds
      cases holds with
      | value reached => exact .value (refines _ reached)

theorem holdsItemsSet {τ : Type} {holds : α → τ → Prop} {items : List α} {item later : α}
    {place : Nat} {trees : List τ} (there : items[place]? = some item)
    (refines : ∀ tree, holds later tree → holds item tree)
    (held : HoldsItems holds (items.set place later) trees) : HoldsItems holds items trees := by
  induction items generalizing place trees with
  | nil => cases there
  | cons first rest ih =>
    cases place with
    | zero =>
      cases there
      cases held with
      | cons onFirst onRest => exact .cons (refines _ onFirst) onRest
    | succ place =>
      cases held with
      | cons onFirst onRest => exact .cons onFirst (ih there onRest)

theorem itemGentle {look : Borrow κ ν α γ} (gentle : inner.Gentle look) {items : List α} {item : α}
    {place : Nat} (returns : (list inner).Returns items) (there : items[place]? = some item) :
    (list inner).Leaves items (Borrow.within (items.set place ·) id (look item)) := by
  have leaves := gentle item (returns item (List.mem_of_getElem? there))
  refine leavesWithin leaves fun later again refines =>
    ⟨fun other member => ?_, fun trees held => ?_⟩
  · rcases List.mem_or_eq_of_mem_set member with stays | rfl
    · exact returns other stays
    · exact again
  · exact holdsItemsSet there refines held

theorem copyGentle (shape : Shape κ ν α) : shape.Gentle shape.copy := by
  intro value returns context next ending after ended
  obtain ⟨found, settles⟩ := settlesSome context returns next
  rw [copyRuns context shape next value found settles] at ended
  cases ended
  obtain ⟨evaluated, _, refines, _⟩ := settlesReached settles
  exact ⟨evaluatedReturns evaluated, refines⟩

theorem equalSelfGentle (lawful : shape.Lawful) : shape.Gentle shape.equalSelf := by
  intro value returns context next ending after ended
  obtain ⟨found, settles⟩ := settlesSome context returns next
  rw [equalSelfRuns context lawful next value found settles] at ended
  cases ended
  obtain ⟨evaluated, _, refines, _⟩ := settlesReached settles
  exact ⟨evaluatedReturns evaluated, refines⟩

theorem lookGentle (look : Look shape γ) (lawful : shape.Lawful) : shape.Gentle look.sight := by
  induction look with
  | copy => exact copyGentle _
  | equalSelf => exact equalSelfGentle lawful
  | glance look => exact glanceGentle _ look
  | onValue look missed ih => exact ontoValueGentle (ih lawful) missed
  | onPresent look missed ih =>
    intro held returns
    cases held with
    | none => exact leavesSelf returns
    | some value =>
      refine leavesWithin (ih lawful value (returns value rfl)) fun later again refines => ⟨?_, ?_⟩
      · intro other same
        cases same
        exact again
      · intro tree held
        cases held with
        | present reached => exact .present (refines _ reached)
  | onLeft look missed ih =>
    intro held returns
    cases held with
    | right value => exact leavesSelf returns
    | left value =>
      refine leavesWithin (ih lawful.1 value returns) fun later again refines => ⟨again, ?_⟩
      intro tree held
      cases held with
      | left reached => exact .left (refines _ reached)
  | onRight look missed ih =>
    intro held returns
    cases held with
    | left value => exact leavesSelf returns
    | right value =>
      refine leavesWithin (ih lawful.2 value returns) fun later again refines => ⟨again, ?_⟩
      intro tree held
      cases held with
      | right reached => exact .right (refines _ reached)
  | onItem place look missed ih =>
    intro items returns
    unfold Look.sight
    cases there : items[place]? with
    | none => exact leavesSelf returns
    | some item => exact itemGentle (ih lawful) returns there

end Leaving

section Quiet

theorem setHeld {items : List α} {item : α} {place : Nat} (there : items[place]? = some item) :
    items.set place item = items := by
  obtain ⟨inside, rfl⟩ := List.getElem?_eq_some_iff.mp there
  exact List.set_getElem_self inside

variable {shape : Shape κ ν α} {inner : Shape κ ν α} {context : κ} {next : Nat}

def Quiet (look : Borrow κ ν α β) (context : κ) (value : α) : Prop :=
  ∀ next, ∃ answer, (look value).run context next = ⟨[], 0, .ok (.ok answer, value)⟩

theorem quietWithin {act : Act κ ν (Except Panic γ × α)} {answer : γ} {value : α}
    (ran : act.run context next = ⟨[], 0, .ok (.ok answer, value)⟩) (whole : α → β) :
    (Borrow.within whole id act).run context next = ⟨[], 0, .ok (.ok answer, whole value)⟩ :=
  Try.runWithin whole id ran

theorem tryingEvaluated {held : Try κ ν α} {outcome : Except Capture α}
    (there : held.outcome? = some outcome) (spoiled : Try κ ν α)
    (rest : Except Capture α → Act κ ν (Except Panic γ × Try κ ν α)) :
    held.intoResult.trying spoiled rest = rest outcome := by
  rw [Try.intoResultEvaluated there]
  exact pure_bind (m := Act κ ν) (Except.ok outcome) _

theorem settledQuiet {look : Borrow κ ν α γ} {answer : shape.Tree → γ}
    (looks : Looks context look answer (shape.Settles context)) {value : α}
    (evaluated : shape.Evaluated value) : Quiet look context value := by
  intro next
  obtain ⟨found, settles⟩ := settlesSome context (evaluatedReturns evaluated) next
  obtain ⟨log, used, kept⟩ := (settlesReached settles).silent evaluated
  refine ⟨answer found.tree, ?_⟩
  rw [looks next value found settles, Settled.report, log, used, kept]

theorem lookQuiet (look : Look shape γ) (lawful : shape.Lawful) {value : α}
    (evaluated : shape.Evaluated value) (context : κ) : Quiet look.sight context value := by
  induction look with
  | @copy α shape => exact settledQuiet (copyRuns context shape) evaluated
  | equalSelf => exact settledQuiet (equalSelfRuns context lawful) evaluated
  | glance look =>
    intro next
    obtain ⟨outcome, there, _⟩ := evaluated
    refine ⟨look.sees outcome, ?_⟩
    unfold Look.sight
    rw [Try.glanceTrying, tryingEvaluated there, Try.keptEvaluated there]
    rfl
  | onValue look missed ih =>
    intro next
    obtain ⟨outcome, there, further⟩ := evaluated
    have stays := Try.keptEvaluated there
    unfold Look.sight
    rw [Try.ontoValueTrying, tryingEvaluated there]
    cases outcome with
    | error capture =>
      have ran : (Borrow.within value.kept id (Try.overValue look.sight missed id
          (.error capture))).run context next =
            ⟨[], 0, .ok (.ok (missed capture), value.kept (.error capture))⟩ := rfl
      rw [stays] at ran
      exact ⟨missed capture, ran⟩
    | ok held =>
      obtain ⟨answer, ran⟩ := ih lawful (further held rfl) next
      have inside := quietWithin (quietWithin ran Except.ok) value.kept
      rw [stays] at inside
      exact ⟨answer, inside⟩
  | onPresent look missed ih =>
    intro next
    cases value with
    | none => exact ⟨missed, rfl⟩
    | some held =>
      obtain ⟨answer, ran⟩ := ih lawful (evaluated held rfl) next
      exact ⟨answer, quietWithin ran some⟩
  | onLeft look missed ih =>
    intro next
    cases value with
    | right held => exact ⟨missed, rfl⟩
    | left held =>
      obtain ⟨answer, ran⟩ := ih lawful.1 evaluated next
      exact ⟨answer, quietWithin ran Either.left⟩
  | onRight look missed ih =>
    intro next
    cases value with
    | left held => exact ⟨missed, rfl⟩
    | right held =>
      obtain ⟨answer, ran⟩ := ih lawful.2 evaluated next
      exact ⟨answer, quietWithin ran Either.right⟩
  | onItem place look missed ih =>
    intro next
    unfold Look.sight
    cases there : value[place]? with
    | none => exact ⟨missed, rfl⟩
    | some item =>
      obtain ⟨answer, ran⟩ := ih lawful (evaluated item (List.mem_of_getElem? there)) next
      have quiet := quietWithin ran (value.set place ·)
      simp only [setHeld there] at quiet
      exact ⟨answer, quiet⟩

end Quiet

end Shape

end OutcomeAlgebra
