import OutcomeAlgebra.Proofs.Act.Lent
import OutcomeAlgebra.Proofs.Try.Keeping
/-! Looks at a `Try` that stays in a store. Each needs the outcome first. When computing it
panics, the `Try` is left poisoned; a panic after that leaves the outcome where it is. A
comparison needs two outcomes, and leaves the right `Try` alone until it has the left one. -/
namespace OutcomeAlgebra

variable {κ ν α β γ τ σ : Type} {holds : β → Prop}

namespace Try

def Minds (attempt : Try κ (ν ⊕ Mark) α) : Prop := attempt.intoResult.Minds fun _ => True

theorem mindsOutcome (outcome : Except Capture α) :
    (ofOutcome outcome : Try κ (ν ⊕ Mark) α).Minds := by
  cases outcome <;> exact Act.mindsPure trivial

theorem mindsPoisoned : (deferred .poisoned : Try κ (ν ⊕ Mark) α).Minds :=
  fun _ => Act.movesThen rfl (Act.movesStop .poisoned _)

theorem mindsKept (attempt : Try κ (ν ⊕ Mark) α) (outcome : Except Capture α) :
    (attempt.kept outcome).Minds := by
  cases attempt with
  | success | failure => exact mindsOutcome outcome
  | deferred cell => exact Act.mindsPure trivial

end Try

abbrev Sound (κ ν α : Type) : Type := {attempt : Try κ (ν ⊕ Mark) α // attempt.Minds}

namespace Sound

def poisoned : Sound κ ν α := ⟨.deferred .poisoned, Try.mindsPoisoned⟩

def kept (attempt : Sound κ ν α) (outcome : Except Capture α) : Sound κ ν α :=
  ⟨attempt.val.kept outcome, Try.mindsKept attempt.val outcome⟩

end Sound

namespace Try

def overValue (payload : Borrow κ ν α β) (missed : Capture → γ) (answer : β → γ) :
    Borrow κ ν (Except Capture α) γ
  | .error capture => pure (.ok (missed capture), .error capture)
  | .ok value => Borrow.within .ok answer (payload value)

theorem glanceTrying (look : Glance α β) (attempt : Try κ ν α) :
    look.seen attempt = attempt.intoResult.trying (.deferred .poisoned) fun outcome =>
      pure (.ok (look.sees outcome), attempt.kept outcome) := by
  have asked : asResult attempt = attempt.intoResult.trying (.deferred .poisoned) fun outcome =>
      pure (.ok outcome, attempt.kept outcome) := by
    rw [asResultKept]
    refine bind_congr fun ending => ?_
    cases ending <;> rfl
  cases look with
  | result => exact asked
  | isSuccess | isFailure | failure | items =>
    simp only [Glance.seen, isSuccess, isFailure, failure?, items, bindAt, asked, Act.trying,
      bind_assoc]
    refine bind_congr fun ending => ?_
    cases ending with
    | error panic => exact pure_bind _ _
    | ok outcome => cases outcome <;> exact pure_bind _ _

theorem ontoValueTrying (payload : Borrow κ ν α β) (missed : Capture → γ) (answer : β → γ)
    (attempt : Try κ ν α) :
    ontoValue payload missed answer attempt =
      attempt.intoResult.trying (.deferred .poisoned) fun outcome =>
        Borrow.within attempt.kept id (overValue payload missed answer outcome) := by
  rw [ontoValue, asResultKept, bind_assoc]
  refine bind_congr fun ending => ?_
  cases ending with
  | error panic => exact pure_bind _ _
  | ok outcome =>
    cases outcome with
    | error capture => exact (pure_bind _ _).trans (pure_bind _ _).symm
    | ok value =>
      have put : (attempt.kept (.ok value)).putBack = fun later => attempt.kept (.ok later) := by
        funext later
        cases attempt <;> rfl
      rw [pure_bind]
      change Borrow.within (attempt.kept (.ok value)).putBack answer (payload value) =
        Borrow.within attempt.kept id (Borrow.within .ok answer (payload value))
      rw [Borrow.withinWithin, put]
      rfl

def compares (payload : Borrow κ ν (α × α) Bool) :
    Borrow κ ν (Except Capture α × Except Capture α) Bool
  | (.ok a, .ok b) => Borrow.within (fun kept => (.ok kept.1, .ok kept.2)) id (payload (a, b))
  | (.error a, .error b) => pure (.ok (a.same b), .error a, .error b)
  | outcomes => pure (.ok false, outcomes)

theorem equalTrying (payload : Borrow κ ν (α × α) Bool) (left right : Try κ ν α) :
    Try.equal (fun a b => payload (a, b)) left right =
      left.intoResult.trying (.deferred .poisoned, right) fun first =>
        right.intoResult.trying (left.kept first, .deferred .poisoned) fun second =>
          Borrow.within (fun kept => (left.kept kept.1, right.kept kept.2)) id
            (compares payload (first, second)) := by
  rw [Try.equal, asResultKept left, bind_assoc]
  refine bind_congr fun ending => ?_
  cases ending with
  | error panic => exact pure_bind _ _
  | ok first =>
    simp only [pure_bind, asResultKept right, bind_assoc]
    refine bind_congr fun ending => ?_
    cases ending with
    | error panic => exact pure_bind _ _
    | ok second =>
      simp only [pure_bind]
      cases first with
      | error a => cases second <;> exact (pure_bind _ _).symm
      | ok a =>
        cases second with
        | error b => exact (pure_bind _ _).symm
        | ok b =>
          rw [compares, Borrow.withinWithin]
          refine bind_congr fun looked => ?_
          rcases looked with ⟨panic | answer, a, b⟩
          all_goals cases left <;> cases right <;> rfl

end Try

inductive Sight (κ ν α : Type) : (β : Type) → (β → Prop) → Type 1 where
  | glance {β : Type} (look : Try.Glance α β) : Sight κ ν α β fun _ => True
  | copy (payload : Lent κ ν α α) : Sight κ ν α (Try κ (ν ⊕ Mark) α) Try.Minds
  | equalSelf (payload : Lent κ ν α Bool) : Sight κ ν α Bool fun _ => True

namespace Sight

def look : Sight κ ν α β holds → Borrow κ (ν ⊕ Mark) (Try κ (ν ⊕ Mark) α) β
  | .glance look => look.seen
  | .copy payload => Try.copy payload.look
  | .equalSelf payload => Try.equalSelf payload.look

def sees : Sight κ ν α β holds → Borrow κ (ν ⊕ Mark) (Except Capture α) β
  | .glance look => fun outcome => pure (.ok (look.sees outcome), outcome)
  | .copy payload => Try.overValue payload.look .failure .success
  | .equalSelf payload => Try.overValue payload.look (fun _ => true) id

theorem lookTrying (sight : Sight κ ν α β holds) (attempt : Try κ (ν ⊕ Mark) α) :
    sight.look attempt = attempt.intoResult.trying (.deferred .poisoned) fun outcome =>
      Borrow.within attempt.kept id (sight.sees outcome) := by
  cases sight with
  | glance glance =>
    rw [look, Try.glanceTrying]
    congr 1
  | copy payload => rw [look, Try.copyOntoValue, Try.ontoValueTrying]; rfl
  | equalSelf payload => rw [look, Try.equalSelfOntoValue, Try.ontoValueTrying]; rfl

theorem seesLends (sight : Sight κ ν α β holds) (outcome : Except Capture α) :
    Act.Lends (sight.sees outcome) := by
  cases sight with
  | glance glance => exact Act.lendsPure _ _
  | copy payload | equalSelf payload =>
    cases outcome with
    | error capture => exact Act.lendsPure _ _
    | ok value => exact (payload.lends value).within _ _

theorem seesUpholds (sight : Sight κ ν α β holds) (outcome : Except Capture α) :
    Act.Gives (Act.Upholds holds fun _ => True) (sight.sees outcome) := by
  cases sight with
  | glance glance | equalSelf payload => exact Act.upholdsNothing _
  | copy payload =>
    cases outcome with
    | error capture => exact Act.upholdsPure (Act.mindsPure trivial) trivial
    | ok value =>
      exact Act.upholdsWithin (Act.upholdsNothing _) (fun _ _ => Act.mindsPure trivial)
        fun _ => trivial

theorem seesBreaks {sight : Sight κ ν α β holds} {outcome kept : Except Capture α} {context : κ}
    {next : Nat} {panic : Panic}
    (ended : (Act.run (sight.sees outcome) context next).ending = .ok (.error panic, kept)) :
    ∃ value later, outcome = .ok value ∧ kept = .ok later := by
  cases sight with
  | glance glance => cases ended
  | copy payload | equalSelf payload =>
    cases outcome with
    | error capture => cases ended
    | ok value =>
      obtain ⟨later, _, rfl⟩ := Act.withinBreaks ended
      exact ⟨value, later, rfl, rfl⟩

theorem lookLends (sight : Sight κ ν α β holds) {attempt : Try κ (ν ⊕ Mark) α}
    (minds : attempt.Minds) : Act.Lends (sight.look attempt) := by
  rw [lookTrying]
  exact Act.Minds.trying minds _ fun outcome => (sight.seesLends outcome).within _ _

theorem lookUpholds (sight : Sight κ ν α β holds) (attempt : Try κ (ν ⊕ Mark) α) :
    Act.Gives (Act.Upholds holds Try.Minds) (sight.look attempt) := by
  rw [lookTrying]
  refine Act.upholdsTrying Try.mindsPoisoned fun outcome => ?_
  exact Act.upholdsWithin (sight.seesUpholds outcome) (fun _ held => held) attempt.mindsKept

def lent (sight : Sight κ ν α β holds) : Lent κ ν (Sound κ ν α) {answer // holds answer} :=
  .sealing sight.look (fun attempt _ => sight.lookUpholds attempt)
    fun _ minds => sight.lookLends minds

/- How a look at a `Try` breaks, and the `Try` that it leaves behind. -/
inductive Breaks (sight : Sight κ ν α β holds) (attempt : Sound κ ν α) (context : κ) (next : Nat)
    (panic : Panic) : Sound κ ν α → Prop where
  | computing (ended : (attempt.val.intoResult.run context next).ending = .error panic) :
      Breaks sight attempt context next panic .poisoned
  | payload {value later : α}
      (ended : (attempt.val.intoResult.run context next).ending = .ok (.ok value))
      (looked : (Act.run (sight.sees (.ok value)) context
        (next + (attempt.val.intoResult.run context next).used)).ending =
          .ok (.error panic, .ok later)) :
      Breaks sight attempt context next panic (attempt.kept (.ok later))

theorem lentBreaks {sight : Sight κ ν α β holds} {attempt kept : Sound κ ν α} {context : κ}
    {next : Nat} {panic : Panic}
    (ended : (Act.run (sight.lent.look attempt) context next).ending = .ok (.error panic, kept)) :
    sight.Breaks attempt context next panic kept := by
  have looked := Lent.sealedBreaks (sight.lookUpholds attempt.val) ended
  rw [lookTrying] at looked
  rcases Act.tryingBreaks looked with ⟨panicked, spoiled⟩ | ⟨outcome, computed, rest⟩
  · obtain rfl : kept = .poisoned := Subtype.ext spoiled
    exact .computing panicked
  · obtain ⟨later, seen, put⟩ := Act.withinBreaks rest
    obtain ⟨value, later, rfl, rfl⟩ := seesBreaks seen
    obtain rfl : kept = attempt.kept (.ok later) := Subtype.ext put
    exact .payload computed seen

end Sight

namespace Sound

theorem comparesLends (payload : Lent κ ν (α × α) Bool)
    (outcomes : Except Capture α × Except Capture α) :
    Act.Lends (Try.compares payload.look outcomes) := by
  rcases outcomes with ⟨a | a, b | b⟩
  case ok.ok => exact (payload.lends (a, b)).within _ _
  all_goals exact Act.lendsPure _ _

theorem equalLends (payload : Lent κ ν (α × α) Bool) {left right : Try κ (ν ⊕ Mark) α}
    (leftMinds : left.Minds) (rightMinds : right.Minds) :
    (Try.equal (fun a b => payload.look (a, b)) left right).Lends := by
  rw [Try.equalTrying]
  refine Act.Minds.trying leftMinds _ fun first => ?_
  exact Act.Minds.trying rightMinds _ fun second => (comparesLends payload _).within _ _

theorem equalUpholds (payload : Lent κ ν (α × α) Bool) {left right : Try κ (ν ⊕ Mark) α}
    (minds : right.Minds) :
    (Try.equal (fun a b => payload.look (a, b)) left right).Gives
      (Act.Upholds (fun _ => True) fun kept => kept.1.Minds ∧ kept.2.Minds) := by
  rw [Try.equalTrying]
  refine Act.upholdsTrying ⟨Try.mindsPoisoned, minds⟩ fun first => ?_
  refine Act.upholdsTrying ⟨left.mindsKept first, Try.mindsPoisoned⟩ fun second => ?_
  exact Act.upholdsWithin (Act.upholdsNothing _) (fun _ _ => trivial)
    fun kept => ⟨left.mindsKept kept.1, right.mindsKept kept.2⟩

def equal (payload : Lent κ ν (α × α) Bool) :
    Lent κ ν (Sound κ ν α × Sound κ ν α) {_same : Bool // True} :=
  .along (fun pair => ⟨(pair.1.val, pair.2.val), pair.1.property, pair.2.property⟩)
    (fun kept => (⟨kept.val.1, kept.property.1⟩, ⟨kept.val.2, kept.property.2⟩))
    (.sealing (fun pair => Try.equal (fun a b => payload.look (a, b)) pair.1 pair.2)
      (fun _ minds => equalUpholds payload minds.2)
      fun _ minds => equalLends payload minds.1 minds.2)

inductive EqualBreaks (payload : Lent κ ν (α × α) Bool) (left right : Sound κ ν α) (context : κ)
    (next : Nat) (panic : Panic) : Sound κ ν α × Sound κ ν α → Prop where
  | left (ended : (left.val.intoResult.run context next).ending = .error panic) :
      EqualBreaks payload left right context next panic (.poisoned, right)
  | right {first : Except Capture α}
      (leftEnded : (left.val.intoResult.run context next).ending = .ok first)
      (rightEnded : (right.val.intoResult.run context
        (next + (left.val.intoResult.run context next).used)).ending = .error panic) :
      EqualBreaks payload left right context next panic (left.kept first, .poisoned)
  | payload {a b later beside : α}
      (leftEnded : (left.val.intoResult.run context next).ending = .ok (.ok a))
      (rightEnded : (right.val.intoResult.run context
        (next + (left.val.intoResult.run context next).used)).ending = .ok (.ok b))
      (compared : (Act.run (payload.look (a, b)) context
        (next + (left.val.intoResult.run context next).used + (right.val.intoResult.run context
          (next + (left.val.intoResult.run context next).used)).used)).ending =
            .ok (.error panic, later, beside)) :
      EqualBreaks payload left right context next panic
        (left.kept (.ok later), right.kept (.ok beside))

theorem equalBreaks {payload : Lent κ ν (α × α) Bool} {left right : Sound κ ν α}
    {kept : Sound κ ν α × Sound κ ν α} {context : κ} {next : Nat} {panic : Panic}
    (ended : (Act.run ((equal payload).look (left, right)) context next).ending =
      .ok (.error panic, kept)) :
    EqualBreaks payload left right context next panic kept := by
  obtain ⟨pair, broke, rfl⟩ := Act.withinBreaks ended
  have compared := Lent.sealedBreaks (equalUpholds payload right.property) broke
  rw [Try.equalTrying] at compared
  obtain ⟨⟨a, b⟩, aMinds, bMinds⟩ := pair
  rcases Act.tryingBreaks compared with ⟨panicked, spoiled⟩ | ⟨first, leftEnded, rest⟩
  · cases spoiled
    exact .left panicked
  rcases Act.tryingBreaks rest with ⟨panicked, spoiled⟩ | ⟨second, rightEnded, last⟩
  · cases spoiled
    exact .right leftEnded panicked
  · obtain ⟨later, looked, put⟩ := Act.withinBreaks last
    cases put
    rcases first with capture | a <;> rcases second with other | b
    case ok.ok =>
      obtain ⟨⟨later, beside⟩, payloadBroke, rfl⟩ := Act.withinBreaks looked
      exact .payload leftEnded rightEnded payloadBroke
    all_goals cases looked

end Sound

end OutcomeAlgebra
