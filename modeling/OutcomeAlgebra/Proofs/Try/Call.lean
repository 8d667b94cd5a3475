import OutcomeAlgebra.Proofs.Outcome.Ordinary
import OutcomeAlgebra.Proofs.Try.Sight
import OutcomeAlgebra.Try.Sequence
/-! What programs ask of the library. A call owns the values that it uses up and the code
that it may call; it marks each piece of code that it calls, each computation that comes
back with an error, and each element that a collection asks for. Every call is accounted
for, so that its callbacks may be code with calls of its own. -/
namespace OutcomeAlgebra

variable {κ ν α β γ τ σ : Type} {holds : β → Prop}

namespace Try

theorem Minds.onto {attempt : Try κ (ν ⊕ Mark) α} {rest : Except Capture α → Act κ (ν ⊕ Mark) β}
    (minds : attempt.Minds) (ok : ∀ value, (rest (.ok value)).Minds holds)
    (error : ∀ capture, (rest (.error capture)).Minds holds) :
    (attempt.intoResult >>= rest).Minds holds := by
  refine Act.Minds.bind minds fun outcome _ => ?_
  cases outcome with
  | ok value => exact ok value
  | error capture => exact error capture

def relabel (f : α → β) : Try κ ν α → Try κ ν β
  | .success value => .success (f value)
  | .failure capture => .failure capture
  | .deferred (.pending run) => .deferred (.ofAct (Except.map f <$> (run : Act κ ν _)))
  | .deferred (.ready outcome) => .deferred (.ready (outcome.map f))
  | .deferred .poisoned => .deferred .poisoned

theorem intoResultRelabel (f : α → β) (attempt : Try κ ν α) :
    (attempt.relabel f).intoResult = Except.map f <$> attempt.intoResult := by
  cases attempt with
  | success value => rfl
  | failure capture => rfl
  | deferred cell =>
    cases cell with
    | pending run => exact (map_bind _ _ _).symm
    | ready outcome => rfl
    | poisoned => rfl

end Try

namespace Code

def reported (code : Code κ ν (Except (Raised Fault) α)) :
    Act κ (ν ⊕ Mark) (Except (Raised Fault) α) := do
  match ← code.act with
  | .ok value => pure (.ok value)
  | .error raised => do
    Act.note (.inr (.failed raised.fault.message))
    pure (.error raised)

def outcome (code : Code κ ν (Except (Raised Fault) α)) :
    Act κ (ν ⊕ Mark) (Except (Raised Fault) α) := do
  Act.note (.inr .called)
  code.reported

def delayed (code : Code κ ν (Except (Raised Fault) α)) : Try κ (ν ⊕ Mark) α :=
  Try.delayed do
    Act.note (.inr .started)
    code.reported

def pulled (code : Code κ ν α) : Act κ (ν ⊕ Mark) α := do
  Act.note (.inr .pulled)
  code.act

theorem pulledMoves (code : Code κ ν α) (made : Nat) (outer : List Nat) :
    code.pulled.Moves (.running (made :: outer)) fun _ phase =>
      phase = .running ((made + 1) :: outer) :=
  Act.movesThen rfl ((code.minds _).weaken fun _ _ there => there.1)

end Code

theorem newMoves (raised : Raised Fault) (phase : Phase) :
    (Capture.new raised : Act κ (ν ⊕ Mark) Capture).Moves phase fun capture reached =>
      reached = phase ∧ capture.message = raised.fault.message := by
  cases raised with
  | plain fault =>
    refine (Act.movesFresh phase).bind fun handle reached there => ?_
    exact Act.movesPure ⟨there, rfl⟩
  | captured handle fault => exact Act.movesPure ⟨rfl, rfl⟩

theorem reportedMinds (code : Code κ ν (Except (Raised Fault) α)) :
    (code.reported >>= Try.capture).Minds fun _ => True := by
  intro pulls
  unfold Code.reported
  rw [bind_assoc]
  refine (code.minds pulls).bind fun ended phase there => ?_
  obtain ⟨rfl, _⟩ := there
  cases ended with
  | ok value => exact Act.movesPure ⟨rfl, trivial⟩
  | error raised =>
    simp only [bind_assoc, pure_bind, Try.capture]
    refine Act.movesThen rfl ?_
    refine (newMoves raised _).bind fun capture phase there => ?_
    obtain ⟨rfl, message⟩ := there
    rw [message]
    refine Act.movesThen (if_pos rfl) ?_
    exact Act.movesPure ⟨rfl, trivial⟩

theorem outcomeMinds (code : Code κ ν (Except (Raised Fault) α)) :
    (code.outcome >>= Try.capture).Minds fun _ => True := by
  intro pulls
  have reported := reportedMinds code pulls
  rw [Code.outcome, bind_assoc]
  exact Act.movesThen rfl reported

theorem delayedMinds (code : Code κ ν (Except (Raised Fault) α)) : code.delayed.Minds := by
  intro pulls
  have reported := reportedMinds code pulls
  refine Act.movesThen rfl ?_
  change ((Act.note (.inr .started) >>= fun _ => code.reported) >>= Try.capture).Moves _ _
  rw [bind_assoc]
  exact Act.movesThen rfl reported

def Gathers (outer : List Nat) : Try κ (ν ⊕ Mark) (List α) → Phase → Prop
  | .success _, phase => ∃ made, phase = .running (made :: outer)
  | .failure _, phase => phase = .stopping outer
  | .deferred _, _ => False

section Gathering

variable {outer : List Nat}

theorem gathersConsTo (value : α) {made : Try κ (ν ⊕ Mark) (List α)} {phase : Phase}
    (gathers : Gathers outer made phase) : Gathers outer (Try.consTo value made) phase := by
  cases made <;> exact gathers

theorem stopGathers (index : Nat) (capture : Capture) :
    (Try.stopAt index capture : Act κ (ν ⊕ Mark) (Try κ (ν ⊕ Mark) (List α))).Moves
      (.running ((index + 1) :: outer)) (Gathers outer) :=
  Act.movesThen (if_pos rfl) (Act.movesPure rfl)

theorem sequenceGathers (pulls : List (Code κ ν (Sound κ ν α))) (index : Nat) :
    (Try.sequenceFrom index (pulls.map fun code => Subtype.val <$> code.pulled)).Moves
      (.running (index :: outer)) (Gathers outer) := by
  induction pulls generalizing index with
  | nil => exact Act.movesPure ⟨index, rfl⟩
  | cons code rest ih =>
    simp only [List.map_cons, Try.sequenceFrom, bind_map_left]
    refine (code.pulledMoves index outer).bind fun attempt phase there => ?_
    rw [there]
    refine (attempt.property _).bind fun split phase there => ?_
    rw [there.1]
    cases split with
    | error capture => exact stopGathers index capture
    | ok value => exact (ih (index + 1)).map fun made phase => gathersConsTo value

theorem collectGathers (pull : Nat → Code κ ν (Option (Sound κ ν α))) (limit index : Nat) :
    (Try.collectFrom (fun index => Option.map Subtype.val <$> (pull index).pulled)
      limit index).Moves
      (.running (index :: outer)) fun
        | none, phase => ∃ made, phase = .running (made :: outer)
        | some made, phase => Gathers outer made phase := by
  induction limit generalizing index with
  | zero => exact Act.movesPure ⟨index, rfl⟩
  | succ limit ih =>
    simp only [Try.collectFrom, bind_map_left]
    refine ((pull index).pulledMoves index outer).bind fun found phase there => ?_
    rw [there]
    cases found with
    | none => exact Act.movesPure ⟨index + 1, rfl⟩
    | some attempt =>
      refine (attempt.property _).bind fun split phase there => ?_
      rw [there.1]
      cases split with
      | error capture => exact (stopGathers index capture).map fun made phase gathers => gathers
      | ok value =>
        refine (ih (index + 1)).map fun found phase there => ?_
        cases found with
        | none => exact there
        | some made => exact gathersConsTo value there

end Gathering

def gathered (collection : Act κ (ν ⊕ Mark) β) (cut : β → Bool) : Act κ (ν ⊕ Mark) β := do
  Act.note (.inr .gathering)
  let made ← collection
  Act.note (.inr (if cut made then .cut else .collected))
  pure made

theorem gatheredMinds {collection : Act κ (ν ⊕ Mark) β} {cut : β → Bool}
    (moves : ∀ outer, collection.Moves (.running (0 :: outer)) fun made phase =>
      (if cut made then phase = .stopping outer else ∃ pulls, phase = .running (pulls :: outer)) ∧
        holds made) :
    (gathered collection cut).Minds holds := by
  intro outer
  refine Act.movesThen rfl ((moves outer).bind fun made phase there => ?_)
  obtain ⟨closing, held⟩ := there
  cases stopped : cut made with
  | true =>
    rw [if_pos stopped] at closing
    rw [closing]
    exact Act.movesThen rfl (Act.movesPure ⟨rfl, held⟩)
  | false =>
    rw [if_neg (by simp [stopped])] at closing
    obtain ⟨pulls, rfl⟩ := closing
    exact Act.movesThen rfl (Act.movesPure ⟨rfl, held⟩)

def Try.isFailed : Try κ ν α → Bool
  | .failure _ => true
  | _ => false

theorem gathersShown {outer : List Nat} {made : Try κ (ν ⊕ Mark) (List α)} {phase : Phase}
    (gathers : Gathers outer made phase) :
    (if made.isFailed then phase = .stopping outer
      else ∃ pulls, phase = .running (pulls :: outer)) ∧
      made.Minds := by
  cases made with
  | success values => exact ⟨gathers, Act.mindsPure trivial⟩
  | failure capture => exact ⟨gathers, Act.mindsPure trivial⟩
  | deferred cell => exact gathers.elim

@[reducible]
def Act.marking : MonadExceptOf Panic (Act κ (ν ⊕ Mark)) where
  throw panic := do
    Act.note (.inr (.panicked panic))
    Act.stop panic
  tryCatch := tryCatchThe Panic

theorem builtMinds {act : Act κ (ν ⊕ Mark) β}
    (built : @Built _ _ Act.marking (Code κ ν) (fun _ code => code.called) _ act) :
    act.Minds fun _ => True := by
  induction built with
  | ask code => exact code.calledMinds
  | pure value => exact Act.mindsPure trivial
  | map f first ih => exact ih.map fun _ _ => trivial
  | bind first last ih ihLast => exact ih.bind fun value _ => ihLast value
  | stop panic => exact fun pulls => Act.movesThen rfl (Act.movesStop panic _)

inductive Call (κ ν : Type) : (β : Type) → (β → Prop) → Type 1 where
  | own {β : Type} (code : Code κ ν β) : Call κ ν β fun _ => True
  | ordinary {β : Type} (operation : Ordinary (Act κ (ν ⊕ Mark)) (Code κ ν) β) :
      Call κ ν β fun _ => True
  | uses {τ β : Type} (lent : Lent κ ν τ β) (value : τ) : Call κ ν (β × τ) fun _ => True
  | of {α : Type} (computation : Code κ ν (Except (Raised Fault) α)) :
      Call κ ν (Try κ (ν ⊕ Mark) α) Try.Minds
  | delayed {α : Type} (computation : Code κ ν (Except (Raised Fault) α)) :
      Call κ ν (Try κ (ν ⊕ Mark) α) Try.Minds
  | fail {α : Type} (raised : Raised Fault) : Call κ ν (Try κ (ν ⊕ Mark) α) Try.Minds
  | intoResult {α : Type} (attempt : Sound κ ν α) : Call κ ν (Except Capture α) fun _ => True
  | get {α : Type} (attempt : Sound κ ν α) : Call κ ν (Except EmptyValue α) fun _ => True
  | getOrElse {α : Type} (attempt : Sound κ ν α) (supplier : Code κ ν α) : Call κ ν α fun _ => True
  | toOption {α : Type} (attempt : Sound κ ν α) : Call κ ν (Option α) fun _ => True
  | toEither {α : Type} (attempt : Sound κ ν α) : Call κ ν (Either Capture α) fun _ => True
  | toList {α : Type} (attempt : Sound κ ν α) : Call κ ν (List α) fun _ => True
  | fold {α β : Type} (attempt : Sound κ ν α) (onFailure : Capture → Code κ ν β)
      (onSuccess : α → Code κ ν β) : Call κ ν β fun _ => True
  | map {α β : Type} (attempt : Sound κ ν α) (f : α → Code κ ν β) :
      Call κ ν (Try κ (ν ⊕ Mark) β) Try.Minds
  | replace {α β : Type} (attempt : Sound κ ν α) (value : β) :
      Call κ ν (Try κ (ν ⊕ Mark) β) Try.Minds
  | void {α : Type} (attempt : Sound κ ν α) : Call κ ν (Try κ (ν ⊕ Mark) Unit) Try.Minds
  | filter {α : Type} (attempt : Sound κ ν α) (predicate : α → Code κ ν (Bool × α))
      (supplier : Code κ ν (Raised Fault)) : Call κ ν (Try κ (ν ⊕ Mark) α) Try.Minds
  | recover {α : Type} (attempt : Sound κ ν α) (f : Capture → Code κ ν α) :
      Call κ ν (Try κ (ν ⊕ Mark) α) Try.Minds
  | mapFailure {α : Type} (attempt : Sound κ ν α) (f : Capture → Code κ ν (Raised Fault)) :
      Call κ ν (Try κ (ν ⊕ Mark) α) Try.Minds
  | recoverWith {α : Type} (attempt : Sound κ ν α) (f : Capture → Code κ ν (Sound κ ν α)) :
      Call κ ν (Try κ (ν ⊕ Mark) α) Try.Minds
  | flatMap {α β : Type} (attempt : Sound κ ν α) (f : α → Code κ ν (Sound κ ν β)) :
      Call κ ν (Try κ (ν ⊕ Mark) β) Try.Minds
  | andThen {α β : Type} (attempt : Sound κ ν α) (f : α → Code κ ν (Sound κ ν β)) :
      Call κ ν (Try κ (ν ⊕ Mark) β) Try.Minds
  | followedBy {α β : Type} (attempt : Sound κ ν α) (later : Sound κ ν β) :
      Call κ ν (Try κ (ν ⊕ Mark) β) Try.Minds
  | flatten {α : Type} (attempt : Sound κ ν (Sound κ ν α)) : Call κ ν (Try κ (ν ⊕ Mark) α) Try.Minds
  | map2 {α β γ : Type} (first : Sound κ ν α) (second : Sound κ ν β) (f : α → β → Code κ ν γ) :
      Call κ ν (Try κ (ν ⊕ Mark) γ) Try.Minds
  | product {α β : Type} (first : Sound κ ν α) (second : Sound κ ν β) :
      Call κ ν (Try κ (ν ⊕ Mark) (α × β)) Try.Minds
  | sequence {α : Type} (pulls : List (Code κ ν (Sound κ ν α))) :
      Call κ ν (Try κ (ν ⊕ Mark) (List α)) Try.Minds
  | collect {α : Type} (pull : Nat → Code κ ν (Option (Sound κ ν α))) (limit : Nat) :
      Call κ ν (Option (Try κ (ν ⊕ Mark) (List α))) fun found => ∀ made ∈ found, made.Minds
  | begins {α τ : Type} (attempt : Sound κ ν α) (first : α → τ) :
      Call κ ν (Steps Capture τ) fun _ => True
  | next {τ α σ : Type} (steps : Steps Capture τ) (push : τ → α → σ)
      (f : τ → Code κ ν (Sound κ ν α × τ)) : Call κ ν (Steps Capture σ) fun _ => True
  | nextWith {τ α σ : Type} (steps : Steps Capture τ) (push : τ → α → σ)
      (supplier : Code κ ν (Sound κ ν α)) : Call κ ν (Steps Capture σ) fun _ => True
  | yields {τ β : Type} (steps : Steps Capture τ) (f : τ → Code κ ν β) :
      Call κ ν (Try κ (ν ⊕ Mark) β) Try.Minds

namespace Call

def run : Call κ ν β holds → Act κ (ν ⊕ Mark) β
  | .own code => code.act
  | .ordinary operation => @Ordinary.run _ _ Act.marking _ _ (fun _ code => code.called) operation
  | .uses lent value => Borrow.keep lent.look value
  | .of computation => Try.of computation.outcome
  | .delayed computation => pure computation.delayed
  | .fail raised => Try.fail raised
  | .intoResult attempt => attempt.val.intoResult
  | .get attempt => attempt.val.get
  | .getOrElse attempt supplier => attempt.val.getOrElse supplier.called
  | .toOption attempt => attempt.val.toOption
  | .toEither attempt => attempt.val.toEither
  | .toList attempt => attempt.val.toList
  | .fold attempt onFailure onSuccess =>
    attempt.val.fold (fun capture => (onFailure capture).called)
      fun value => (onSuccess value).called
  | .map attempt f => attempt.val.map fun value => (f value).called
  | .replace attempt value => Outcome.replace attempt.val value
  | .void attempt => Outcome.void attempt.val
  | .filter attempt predicate supplier =>
    attempt.val.filter (fun value => (predicate value).called) supplier.called
  | .recover attempt f => attempt.val.recover fun capture => (f capture).called
  | .mapFailure attempt f => attempt.val.mapFailure fun capture => (f capture).called
  | .recoverWith attempt f =>
    attempt.val.recoverWith fun capture => Subtype.val <$> (f capture).called
  | .flatMap attempt f => attempt.val.flatMap fun value => Subtype.val <$> (f value).called
  | .andThen attempt f => Outcome.andThen attempt.val fun value => Subtype.val <$> (f value).called
  | .followedBy attempt later => Outcome.followedBy attempt.val later.val
  | .flatten attempt => (attempt.val.relabel Subtype.val).flatten
  | .map2 first second f => first.val.map2 second.val fun a b => (f a b).called
  | .product first second => Outcome.product first.val second.val
  | .sequence pulls =>
    gathered (Try.sequence (pulls.map fun code => Subtype.val <$> code.pulled)) Try.isFailed
  | .collect pull limit =>
    gathered (Try.collectFrom (fun index => Option.map Subtype.val <$> (pull index).pulled) limit 0)
      fun found => found.any Try.isFailed
  | .begins attempt first => Steps.start Family.attempt first attempt.val
  | .next steps push f => steps.next Family.attempt push fun values => do
    let (attempt, values) ← (f values).called
    pure (attempt.val, values)
  | .nextWith steps push supplier =>
    steps.nextWith Family.attempt push (Subtype.val <$> supplier.called)
  | .yields steps f => steps.yields Family.attempt fun values => (f values).called

theorem failMinds (raised : Raised Fault) :
    (Try.fail raised : Act κ (ν ⊕ Mark) (Try κ (ν ⊕ Mark) α)).Minds Try.Minds := by
  intro pulls
  refine (newMoves raised _).bind fun capture phase there => ?_
  exact Act.movesPure ⟨there.1, Act.mindsPure trivial⟩

theorem successMinds {act : Act κ (ν ⊕ Mark) α} (minds : act.Minds fun _ => True) :
    (Try.success <$> act : Act κ (ν ⊕ Mark) (Try κ (ν ⊕ Mark) α)).Minds Try.Minds :=
  minds.map fun _ _ => Act.mindsPure trivial

theorem valMinds {act : Act κ (ν ⊕ Mark) (Sound κ ν α)} (minds : act.Minds fun _ => True) :
    (Subtype.val <$> act).Minds Try.Minds :=
  minds.map fun attempt _ => attempt.property

theorem failureMinds (capture : Capture) :
    (pure (.failure capture) : Act κ (ν ⊕ Mark) (Try κ (ν ⊕ Mark) α)).Minds Try.Minds :=
  Act.mindsPure (Act.mindsPure trivial)

theorem plainMinds (value : β) : (pure value : Act κ (ν ⊕ Mark) β).Minds fun _ => True :=
  Act.mindsPure trivial

theorem startMinds {attempt : Try κ (ν ⊕ Mark) α} (minds : attempt.Minds) (first : α → τ) :
    (Steps.start Family.attempt first attempt).Minds fun _ => True := by
  refine Act.Minds.bind minds fun outcome _ => ?_
  cases outcome <;> exact Act.mindsPure trivial

theorem minds (call : Call κ ν β holds) : call.run.Minds holds := by
  cases call with
  | own code => exact code.minds
  | ordinary operation => exact builtMinds (@Ordinary.built _ _ Act.marking _ _ _ _ operation)
  | uses lent value => exact lent.keepMinds value
  | of computation =>
    have outcome := outcomeMinds computation
    have regrouped : Try.of computation.outcome =
        Try.ofOutcome <$> (computation.outcome >>= Try.capture) := by
      rw [map_eq_pure_bind, bind_assoc]
      rfl
    rw [run, regrouped]
    exact outcome.map fun result _ => Try.mindsOutcome result
  | delayed computation => exact Act.mindsPure (delayedMinds computation)
  | fail raised => exact failMinds raised
  | intoResult attempt => exact attempt.property
  | get attempt | toOption attempt =>
    exact attempt.property.onto (fun value => plainMinds _) fun capture => plainMinds _
  | toEither attempt => exact attempt.property.bind fun outcome _ => plainMinds _
  | toList attempt =>
    have option : attempt.val.toOption.Minds fun _ => True :=
      attempt.property.onto (fun value => plainMinds _) fun capture => plainMinds _
    exact option.bind fun found _ => plainMinds _
  | getOrElse attempt supplier =>
    exact attempt.property.onto (fun value => plainMinds value) fun capture => supplier.calledMinds
  | fold attempt onFailure onSuccess =>
    exact attempt.property.onto (fun value => (onSuccess value).calledMinds)
      fun capture => (onFailure capture).calledMinds
  | map attempt f =>
    exact attempt.property.onto (fun value => successMinds (f value).calledMinds) failureMinds
  | replace attempt value =>
    exact attempt.property.onto (fun _ => successMinds (plainMinds value)) failureMinds
  | void attempt =>
    exact attempt.property.onto (fun _ => successMinds (plainMinds ())) failureMinds
  | filter attempt predicate supplier =>
    refine attempt.property.onto (fun value => ?_) failureMinds
    refine (predicate value).calledMinds.bind fun verdict _ => ?_
    obtain ⟨accepted, value⟩ := verdict
    cases accepted with
    | true => exact Act.mindsPure (Act.mindsPure trivial)
    | false => exact supplier.calledMinds.bind fun raised _ => failMinds raised
  | recover attempt f =>
    have folded : (attempt.val.fold (fun capture => (f capture).called) pure).Minds fun _ => True :=
      attempt.property.onto (fun value => plainMinds value) fun capture => (f capture).calledMinds
    exact successMinds folded
  | mapFailure attempt f =>
    refine attempt.property.onto (fun value => Act.mindsPure (Act.mindsPure trivial))
      fun capture => ?_
    exact (f capture).calledMinds.bind fun raised _ => failMinds raised
  | recoverWith attempt f =>
    exact attempt.property.onto (fun value => Act.mindsPure (Act.mindsPure trivial))
      fun capture => valMinds (f capture).calledMinds
  | flatMap attempt f | andThen attempt f =>
    exact attempt.property.onto (fun value => valMinds (f value).calledMinds) failureMinds
  | followedBy attempt later =>
    exact attempt.property.onto (fun _ => Act.mindsPure later.property) failureMinds
  | flatten attempt =>
    rw [run, Try.flatten, Try.flatMap, Try.intoResultRelabel, bind_map_left]
    exact attempt.property.onto (fun inner => Act.mindsPure inner.property) failureMinds
  | map2 first second f =>
    refine first.property.onto (fun a => ?_) failureMinds
    exact second.property.onto (fun b => successMinds (f a b).calledMinds) failureMinds
  | product first second =>
    refine first.property.onto (fun a => ?_) failureMinds
    exact second.property.onto (fun b => successMinds (plainMinds (a, b))) failureMinds
  | sequence pulls =>
    exact gatheredMinds fun outer =>
      (sequenceGathers pulls 0).weaken fun _ _ gathers => gathersShown gathers
  | collect pull limit =>
    refine gatheredMinds fun outer =>
      (collectGathers pull limit 0).weaken fun found phase there => ?_
    cases found with
    | none => exact ⟨there, nofun⟩
    | some made =>
      obtain ⟨shown, minds⟩ := gathersShown there
      refine ⟨shown, ?_⟩
      rintro _ ⟨⟩
      exact minds
  | begins attempt first => exact startMinds attempt.property first
  | next steps push f =>
    obtain ⟨state⟩ := steps
    cases state with
    | error capture => exact plainMinds _
    | ok values =>
      simp only [run, Steps.next, bind_assoc, pure_bind]
      refine (f values).calledMinds.bind fun answer _ => ?_
      exact startMinds answer.1.property (push answer.2)
  | nextWith steps push supplier =>
    obtain ⟨state⟩ := steps
    cases state with
    | error capture => exact plainMinds _
    | ok values =>
      simp only [run, Steps.nextWith, Steps.next, bind_map_left, bind_assoc, pure_bind]
      refine supplier.calledMinds.bind fun attempt _ => ?_
      exact startMinds attempt.property (push values)
  | yields steps f =>
    obtain ⟨state⟩ := steps
    cases state with
    | error capture => exact failureMinds capture
    | ok values =>
      exact (f values).calledMinds.bind fun value _ => Act.mindsPure (Act.mindsPure trivial)

def code (call : Call κ ν β holds) : Code κ ν {value // holds value} :=
  ⟨call.run.attach call.minds.gives, fun pulls =>
    (Act.attachMoves _ (call.minds pulls)).weaken fun _ _ there => ⟨there.1, trivial⟩⟩

end Call

end OutcomeAlgebra
