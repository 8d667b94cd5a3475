import OutcomeAlgebra.Proofs.Try.Program
/-! What a program demands. The rules say of each operation whose outcome it wants, and
in which order. Wanting the outcome of a `Try` that is not evaluated starts its
computation and leaves the outcome with the `Try`, so that it is not started again.
A program starts what the rules start, in their order, and nothing else. -/
namespace OutcomeAlgebra

variable {κ ν α β γ τ σ ρ : Type}

namespace Try

/- The outcome of a `Try`, with what is started to have it. -/
def demand : Try κ (ν ⊕ Nat) α → Act κ Nat (Except Capture α)
  | .success value => pure (.ok value)
  | .failure capture => pure (.error capture)
  | .deferred (.pending run) => Act.tally run
  | .deferred (.ready outcome) => pure outcome
  | .deferred .poisoned => Act.stop .poisoned

def glanced (look : Glance α β) (attempt : Try κ (ν ⊕ Nat) α) :
    Act κ Nat (β × Try κ (ν ⊕ Nat) α) := do
  let outcome ← attempt.demand
  pure (look.sees outcome, attempt.kept outcome)

def examined (payload : Borrow κ ν α β) (missed : Capture → γ) (answer : β → γ)
    (attempt : Try κ (ν ⊕ Nat) α) : Act κ Nat (γ × Try κ (ν ⊕ Nat) α) := do
  match ← attempt.demand with
  | .error capture => pure (missed capture, attempt.kept (.error capture))
  | .ok value =>
    let (found, value) ← (Borrow.keep payload value).silent
    pure (answer found, attempt.kept (.ok value))

def compared (payload : α → α → Act κ ν (Except Panic Bool × α × α))
    (left right : Try κ (ν ⊕ Nat) α) :
    Act κ Nat (Bool × Try κ (ν ⊕ Nat) α × Try κ (ν ⊕ Nat) α) := do
  let first ← left.demand
  let second ← right.demand
  match first, second with
  | .ok a, .ok b =>
    let (answer, a, b) ← (keepBoth (payload a b)).silent
    pure (answer, left.kept (.ok a), right.kept (.ok b))
  | .error a, .error b => pure (a.same b, left.kept first, right.kept second)
  | _, _ => pure (false, left.kept first, right.kept second)

/- What is done with the outcome that has been demanded. Only `map2` and `product`
demand another one, and they do so only behind a success. -/
def Spend.rule : Spend κ ν α β → Except Capture α → Act κ Nat β
  | .intoResult, outcome => pure outcome
  | .get, .ok value => pure (.ok value)
  | .get, .error _ => pure (.error .failure)
  | .getOrElse _, .ok value => pure value
  | .getOrElse supplier, .error _ => supplier.silent
  | .fold _ onSuccess, .ok value => (onSuccess value).silent
  | .fold onFailure _, .error capture => (onFailure capture).silent
  | .toOption, outcome => pure outcome.toOption
  | .toEither, outcome => pure (.ofExcept outcome)
  | .toList, outcome => pure outcome.toOption.toList
  | .map f, .ok value => success <$> (f value).silent
  | .replace value, .ok _ => pure (.success value)
  | .void, .ok _ => pure (.success ())
  | .filter predicate supplier, .ok value => do
    let (accepted, value) ← (predicate value).silent
    if accepted then pure (.success value)
    else
      let raised ← supplier.silent
      failure <$> Capture.new raised
  | .recover _, .ok value => pure (.success value)
  | .recover f, .error capture => success <$> (f capture).silent
  | .mapFailure _, .ok value => pure (.success value)
  | .mapFailure f, .error capture => do
    let raised ← (f capture).silent
    failure <$> Capture.new raised
  | .flatMap f, .ok value => (f value).silent
  | .andThen f, .ok value => (f value).silent
  | .followedBy next, .ok _ => pure next
  | .recoverWith _, .ok value => pure (.success value)
  | .recoverWith f, .error capture => (f capture).silent
  | .flatten, .ok inner => pure inner
  | .map2 second f, .ok a => do
    match ← second.demand with
    | .ok b => success <$> (f a b).silent
    | .error capture => pure (.failure capture)
  | .product second, .ok a => do
    match ← second.demand with
    | .ok b => pure (.success (a, b))
    | .error capture => pure (.failure capture)
  | .begins first, .ok value => pure ⟨.ok (first value)⟩
  | .begins _, .error capture => pure ⟨.error capture⟩
  | .map _, .error capture => pure (.failure capture)
  | .replace _, .error capture => pure (.failure capture)
  | .void, .error capture => pure (.failure capture)
  | .filter _ _, .error capture => pure (.failure capture)
  | .flatMap _, .error capture => pure (.failure capture)
  | .andThen _, .error capture => pure (.failure capture)
  | .followedBy _, .error capture => pure (.failure capture)
  | .flatten, .error capture => pure (.failure capture)
  | .map2 _ _, .error capture => pure (.failure capture)
  | .product _, .error capture => pure (.failure capture)

def demandAll : List (Act κ ν (Try κ (ν ⊕ Nat) α)) → Act κ Nat (Except Capture (List α))
  | [] => pure (.ok [])
  | pull :: rest => do
    let attempt ← pull.silent
    match ← attempt.demand with
    | .error capture => pure (.error capture)
    | .ok value => Except.map (value :: ·) <$> demandAll rest

def joined (push : τ → α → σ) (steps : Steps Capture τ)
    (f : StateT τ (Act κ ν) (Try κ (ν ⊕ Nat) α)) : Act κ Nat (Steps Capture σ) :=
  match steps.state with
  | .error capture => pure ⟨.error capture⟩
  | .ok values => do
    let (attempt, values) ← (f values).silent
    match ← attempt.demand with
    | .ok value => pure ⟨.ok (push values value)⟩
    | .error capture => pure ⟨.error capture⟩

def projected (steps : Steps Capture τ) (f : τ → Act κ ν β) : Act κ Nat (Try κ (ν ⊕ Nat) β) :=
  match steps.state with
  | .error capture => pure (.failure capture)
  | .ok values => success <$> (f values).silent

def Operation.rule {types others : List Type} : Operation κ ν types others → Values types →
    Act κ Nat (Values others)
  | .aside captured act, owned => do
    let made ← (act (captured.look owned)).silent
    pure (made, captured.without owned)
  | .of captured computation, owned => do
    let outcome ← (computation (captured.look owned) >>= capture).silent
    pure (ofOutcome outcome, captured.without owned)
  | .delayed captured name computation, owned =>
    pure (named name (computation (captured.look owned)), captured.without owned)
  | .fail raised, owned => do
    let capture ← Capture.new (raised.look owned)
    pure (.failure capture, raised.without owned)
  | .drop dropped, owned => pure (dropped.without owned)
  | .isEvaluated attempt, owned => pure ((attempt.look owned).isEvaluated, owned)
  | .shown payload attempt, owned => pure ((attempt.look owned).shown payload, owned)
  | .glance look attempt, owned => do
    let (answer, kept) ← glanced look (attempt.look owned)
    pure (answer, attempt.putBack kept (attempt.without owned))
  | .copy payload attempt, owned => do
    let (copied, kept) ← examined payload failure success (attempt.look owned)
    pure (copied, attempt.putBack kept (attempt.without owned))
  | .equal payload left right, owned => do
    let others := left.without owned
    let (answer, a, b) ← compared payload (left.look owned) (right.look others)
    pure (answer, left.putBack a (right.putBack b (right.without others)))
  | .equalSelf payload attempt, owned => do
    let (answer, kept) ← examined payload (fun _ => true) id (attempt.look owned)
    pure (answer, attempt.putBack kept (attempt.without owned))
  | .spend attempt captured chosen, owned => do
    let others := attempt.without owned
    let outcome ← (attempt.look owned).demand
    let answer ← (chosen (captured.look others)).rule outcome
    pure (answer, captured.without others)
  | .sequence captured pulls, owned => do
    let outcome ← demandAll (pulls (captured.look owned))
    pure (ofOutcome outcome, captured.without owned)
  | .next steps captured push f, owned => do
    let others := steps.without owned
    let made ← joined push (steps.look owned) (f (captured.look others))
    pure (made, captured.without others)
  | .nextWith steps captured push supplier, owned => do
    let others := steps.without owned
    let made ← joined push (steps.look owned) fun values =>
      (fun attempt => (attempt, values)) <$> supplier (captured.look others)
    pure (made, captured.without others)
  | .filterOr steps captured predicate onFailure, owned => do
    let others := steps.without owned
    let taken := captured.look others
    let made ← ((steps.look owned).filterOr (predicate taken) (onFailure taken)).silent
    pure (made, captured.without others)
  | .yields steps captured f, owned => do
    let others := steps.without owned
    let attempt ← projected (steps.look owned) (f (captured.look others))
    pure (attempt, captured.without others)

def Program.rules {types others : List Type} : Program κ ν types others → Values types →
    Act κ Nat (Values others)
  | .done, owned => pure owned
  | .step operation rest, owned => do
    let owned ← operation.rule owned
    rest.rules owned

theorem demandKept (attempt : Try κ (ν ⊕ Nat) α) (outcome : Except Capture α) :
    (attempt.kept outcome).demand = pure outcome := by
  cases attempt <;> cases outcome <;> rfl

theorem tallyIntoResult (attempt : Try κ (ν ⊕ Nat) α) :
    attempt.intoResult.tally = attempt.demand := by
  cases attempt with
  | success value => rfl
  | failure capture => rfl
  | deferred cell =>
    cases cell with
    | ready outcome => rfl
    | poisoned => rfl
    | pending run =>
      have begun := Act.tallyBind (Act.emit .evaluating) fun _ =>
        (show Act κ (ν ⊕ Nat) (Except Capture α) from run)
      rw [Act.tallyEmit, pure_bind] at begun
      exact begun

theorem tallyNew (raised : Raised Fault) :
    (Capture.new raised : Act κ (ν ⊕ Nat) Capture).tally = Capture.new raised := by
  cases raised <;> rfl

theorem tallyCapture (ended : Except (Raised Fault) α) :
    (capture ended : Act κ (ν ⊕ Nat) _).tally = (capture ended : Act κ ν _).silent := by
  rcases ended with (fault | ⟨handle, fault⟩) | value <;> rfl

theorem tallyFail (raised : Raised Fault) :
    (Try.fail raised : Act κ (ν ⊕ Nat) (Try κ (ν ⊕ Nat) α)).tally =
      failure <$> (Capture.new raised : Act κ Nat Capture) := by
  rw [Try.fail, Act.tallyBind, tallyNew, map_eq_pure_bind]
  rfl

theorem demandNamed (name : Nat) (computation : Act κ ν (Except (Raised Fault) α)) :
    (named name computation).demand =
      Act.note name >>= fun _ => (computation >>= capture).silent := by
  change (((Act.note (.inr name) : Act κ (ν ⊕ Nat) Unit) >>= fun _ => computation.plain) >>=
    capture).tally = _
  simp only [Act.tallyBind, Act.tallyName, Act.tallyPlain, tallyCapture, Act.silentBind, bind_assoc]

theorem tallyKeep (payload : Borrow κ ν τ β) (owner : τ) :
    (Borrow.keep payload.plain owner).tally = (Borrow.keep payload owner).silent := by
  unfold Borrow.keep Borrow.plain
  rw [Act.tallyBind, Act.tallyPlain, Act.silentBind]
  refine bind_congr fun answer => ?_
  obtain ⟨ending, owner⟩ := answer
  cases ending <;> rfl

theorem tallyKeepBoth (compared : Act κ ν (Except Panic β × τ × σ)) :
    (keepBoth compared.plain).tally = (keepBoth compared).silent := by
  rw [keepBoth, keepBoth, Act.tallyBind, Act.tallyPlain, Act.silentBind]
  refine bind_congr fun answer => ?_
  obtain ⟨ending, left, right⟩ := answer
  cases ending <;> rfl

theorem tallyGlance (look : Glance α β) (attempt : Try κ (ν ⊕ Nat) α) :
    (Borrow.keep look.seen attempt).tally = glanced look attempt := by
  rw [glanceKeeps, Act.tallyBind, tallyIntoResult]
  rfl

theorem tallyOntoValue (payload : Borrow κ ν α β) (missed : Capture → γ) (answer : β → γ)
    (attempt : Try κ (ν ⊕ Nat) α) :
    (Borrow.keep (ontoValue payload.plain missed answer) attempt).tally =
      examined payload missed answer attempt := by
  rw [ontoValueKeeps, Act.tallyBind, tallyIntoResult]
  refine bind_congr fun outcome => ?_
  cases outcome with
  | error capture => rfl
  | ok value =>
    rw [Act.tallyBind, tallyKeep]
    rfl

theorem tallyEqual (payload : α → α → Act κ ν (Except Panic Bool × α × α))
    (left right : Try κ (ν ⊕ Nat) α) :
    (keepBoth (Try.equal (fun a b => (payload a b).plain) left right)).tally =
      compared payload left right := by
  rw [equalKeeps, Act.tallyBind, tallyIntoResult]
  refine bind_congr fun first => ?_
  rw [Act.tallyBind, tallyIntoResult]
  refine bind_congr fun second => ?_
  cases first <;> cases second
  case ok.ok a b =>
    rw [Act.tallyBind, tallyKeepBoth]
    rfl
  all_goals rfl

theorem tallySpend (chosen : Spend κ ν α β) (attempt : Try κ (ν ⊕ Nat) α) :
    (chosen.run attempt).tally = attempt.demand >>= chosen.rule := by
  cases chosen with
  | intoResult =>
    simp only [Spend.run, tallyIntoResult]
    exact (bind_pure _).symm
  | get | getOrElse | fold | toOption | toEither | map | flatMap | recoverWith | begins =>
    simp only [Spend.run, get, getOrElse, fold, toOption, toEither, map, flatMap, recoverWith,
      Steps.start, Family.attempt, Act.tallyBind, tallyIntoResult]
    refine bind_congr fun outcome => ?_
    cases outcome <;> simp only [Spend.rule, Act.tallyPlain, Act.tallyMap] <;> rfl
  | replace | void =>
    simp only [Spend.run, Outcome.replace, Outcome.void, Outcome.map, map, Act.tallyBind,
      tallyIntoResult]
    refine bind_congr fun outcome => ?_
    cases outcome <;> rfl
  | andThen | followedBy | flatten =>
    simp only [Spend.run, Outcome.andThen, Outcome.followedBy, Outcome.flatMap, flatten, flatMap,
      Act.tallyBind, tallyIntoResult]
    refine bind_congr fun outcome => ?_
    cases outcome <;> simp only [Spend.rule, Act.tallyPlain] <;> rfl
  | toList =>
    simp only [Spend.run, toList, toOption, bind_assoc, Act.tallyBind, tallyIntoResult]
    refine bind_congr fun outcome => ?_
    cases outcome <;> rfl
  | filter predicate supplier =>
    simp only [Spend.run, filter, Act.tallyBind, tallyIntoResult]
    refine bind_congr fun outcome => ?_
    cases outcome with
    | error capture => rfl
    | ok value =>
      simp only [Spend.rule, Act.tallyBind, Act.tallyPlain]
      refine bind_congr fun verdict => ?_
      obtain ⟨accepted, value⟩ := verdict
      cases accepted with
      | true => rfl
      | false =>
        simp only [Bool.false_eq_true, if_false, Act.tallyBind, Act.tallyPlain, tallyFail]
  | recover f =>
    simp only [Spend.run, recover, fold, Act.tallyMap, Act.tallyBind, tallyIntoResult, map_bind]
    refine bind_congr fun outcome => ?_
    cases outcome <;> simp only [Spend.rule, Act.tallyPlain, Act.tallyPure, map_pure]
  | mapFailure f =>
    simp only [Spend.run, mapFailure, Act.tallyBind, tallyIntoResult]
    refine bind_congr fun outcome => ?_
    cases outcome with
    | ok value => rfl
    | error capture => simp only [Spend.rule, Act.tallyBind, Act.tallyPlain, tallyFail]
  | map2 second f =>
    simp only [Spend.run, map2, flatMap, map, Act.tallyBind, tallyIntoResult]
    refine bind_congr fun outcome => ?_
    cases outcome with
    | error capture => rfl
    | ok a =>
      simp only [Spend.rule, Act.tallyBind, tallyIntoResult]
      refine bind_congr fun outcome => ?_
      cases outcome with
      | ok b => simp only [Act.tallyPlain, Act.tallyMap]
      | error capture => rfl
  | product second =>
    simp only [Spend.run, Outcome.product, Outcome.map2, map2, flatMap, map, Act.tallyBind,
      tallyIntoResult]
    refine bind_congr fun outcome => ?_
    cases outcome with
    | error capture => rfl
    | ok a =>
      simp only [Spend.rule, Act.tallyBind, tallyIntoResult]
      refine bind_congr fun outcome => ?_
      cases outcome <;> rfl

theorem tallySequence (index : Nat) (pulls : List (Act κ ν (Try κ (ν ⊕ Nat) α))) :
    (sequenceFrom index (pulls.map Act.plain)).tally = ofOutcome <$> demandAll pulls := by
  induction pulls generalizing index with
  | nil => rfl
  | cons pull rest ih =>
    simp only [List.map_cons, sequenceFrom, demandAll, Act.tallyBind, Act.tallyPlain,
      tallyIntoResult, map_bind]
    refine bind_congr fun attempt => bind_congr fun outcome => ?_
    cases outcome with
    | error capture => rfl
    | ok value =>
      simp only [Act.tallyMap, ih, Functor.map_map]
      refine congrArg (· <$> demandAll rest) (funext fun outcome => ?_)
      cases outcome <;> rfl

theorem tallyNext (push : τ → α → σ) (steps : Steps Capture τ)
    (f : StateT τ (Act κ ν) (Try κ (ν ⊕ Nat) α)) :
    (steps.next Family.attempt push fun values => (f values).plain).tally =
      joined push steps f := by
  obtain ⟨state⟩ := steps
  cases state with
  | error capture => rfl
  | ok values =>
    simp only [Steps.next, joined, Family.attempt, Act.tallyBind, Act.tallyPlain]
    refine bind_congr fun made => ?_
    simp only [tallyIntoResult]
    refine bind_congr fun outcome => ?_
    cases outcome <;> rfl

theorem tallyNextWith (push : τ → α → σ) (steps : Steps Capture τ)
    (supplier : Act κ ν (Try κ (ν ⊕ Nat) α)) :
    (steps.nextWith Family.attempt push supplier.plain).tally =
      joined push steps fun values => (fun attempt => (attempt, values)) <$> supplier := by
  obtain ⟨state⟩ := steps
  cases state with
  | error capture => rfl
  | ok values =>
    simp only [Steps.nextWith, Steps.next, joined, Family.attempt, bind_assoc, pure_bind,
      Act.tallyBind, Act.tallyPlain, Act.silentMap, bind_map_left]
    refine bind_congr fun attempt => ?_
    rw [tallyIntoResult]
    refine bind_congr fun outcome => ?_
    cases outcome <;> rfl

theorem tallyFilterOr (steps : Steps Capture τ) (predicate : StateT τ (Act κ ν) Bool)
    (onFailure : Act κ ν Capture) :
    (steps.filterOr (fun values => (predicate values).plain) onFailure.plain).tally =
      (steps.filterOr predicate onFailure).silent := by
  obtain ⟨state⟩ := steps
  cases state with
  | error capture => rfl
  | ok values =>
    simp only [Steps.filterOr, Act.tallyBind, Act.tallyPlain, Act.silentBind]
    refine bind_congr fun verdict => ?_
    obtain ⟨accepted, values⟩ := verdict
    cases accepted with
    | true => rfl
    | false =>
      simp only [Bool.false_eq_true, if_false, Act.tallyBind, Act.tallyPlain, Act.silentBind]
      rfl

theorem tallyYields (steps : Steps Capture τ) (f : τ → Act κ ν β) :
    (steps.yields Family.attempt fun values => (f values).plain).tally = projected steps f := by
  obtain ⟨state⟩ := steps
  cases state with
  | error capture => rfl
  | ok values =>
    simp only [Steps.yields, projected, Act.tallyBind, Act.tallyPlain, map_eq_pure_bind]
    rfl

theorem tallyOperation {types others : List Type} (operation : Operation κ ν types others)
    (owned : Values types) : (operation.run owned).tally = operation.rule owned := by
  cases operation with
  | delayed | drop | isEvaluated | shown => rfl
  | aside captured act =>
    simp only [Operation.run, Operation.rule, Act.tallyBind, Act.tallyPlain]
    rfl
  | of captured computation =>
    simp only [Operation.run, Operation.rule, Try.of, bind_assoc, pure_bind, Act.tallyBind,
      Act.tallyPlain, tallyCapture, Act.silentBind]
    rfl
  | fail raised =>
    simp only [Operation.run, Operation.rule, Act.tallyBind, tallyFail, bind_map_left]
    rfl
  | glance look attempt =>
    simp only [Operation.run, Operation.rule, Act.tallyBind, tallyGlance]
    rfl
  | copy payload attempt =>
    simp only [Operation.run, Operation.rule, Act.tallyBind, copyOntoValue, tallyOntoValue]
    rfl
  | equal payload left right =>
    simp only [Operation.run, Operation.rule, Act.tallyBind, tallyEqual]
    rfl
  | equalSelf payload attempt =>
    simp only [Operation.run, Operation.rule, Act.tallyBind, equalSelfOntoValue, tallyOntoValue]
    rfl
  | spend attempt captured chosen =>
    simp only [Operation.run, Operation.rule, Act.tallyBind, tallySpend, bind_assoc]
    rfl
  | sequence captured pulls =>
    simp only [Operation.run, Operation.rule, Try.sequence, Act.tallyBind, tallySequence,
      bind_map_left]
    rfl
  | next steps captured push f =>
    simp only [Operation.run, Operation.rule, Act.tallyBind, tallyNext]
    rfl
  | nextWith steps captured push supplier =>
    simp only [Operation.run, Operation.rule, Act.tallyBind, tallyNextWith]
    rfl
  | filterOr steps captured predicate onFailure =>
    simp only [Operation.run, Operation.rule, Act.tallyBind, tallyFilterOr]
    rfl
  | yields steps captured f =>
    simp only [Operation.run, Operation.rule, Act.tallyBind, tallyYields]
    rfl

theorem tallyProgram {types others : List Type} (program : Program κ ν types others)
    (owned : Values types) : (program.run owned).tally = program.rules owned := by
  induction program with
  | done => rfl
  | step operation rest ih =>
    simp only [Program.run, Program.rules, Act.tallyBind, tallyOperation, ih]

theorem demandExact (κ ν : Type) :
    (∀ {types others : List Type} (program : Program κ ν types others) (owned : Values types),
      (program.run owned).tally = program.rules owned) ∧
    (∀ {α : Type} (name : Nat) (computation : Act κ ν (Except (Raised Fault) α)),
      (named name computation).demand =
        Act.note name >>= fun _ => (computation >>= capture).silent) ∧
    ∀ {α : Type} (attempt : Try κ (ν ⊕ Nat) α) (outcome : Except Capture α),
      (attempt.kept outcome).demand = pure outcome :=
  ⟨fun program owned => tallyProgram program owned,
    fun name computation => demandNamed name computation,
    fun attempt outcome => demandKept attempt outcome⟩

example : ((.step (.delayed .none 2 fun _ => pure (.ok 5))
      (.step (.delayed .none 1 fun _ => pure (.error (.plain (.text "broken"))))
        (.step (.spend .here (.more .here .none) fun taken => .map2 taken.1 fun a b => pure (a + b))
          .done)) : Program Unit Unit [] [Try Unit (Unit ⊕ Nat) Nat]).rules ()).run () 0 =
    ⟨[.note 1], 1, .ok (.failure ⟨0, .text "broken"⟩, ())⟩ := rfl

end Try

end OutcomeAlgebra
