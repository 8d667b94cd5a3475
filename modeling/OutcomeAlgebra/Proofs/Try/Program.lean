import OutcomeAlgebra.Outcome.Basic
import OutcomeAlgebra.Proofs.Act.Tally
import OutcomeAlgebra.Proofs.Steps.Nesting
import OutcomeAlgebra.Proofs.Try.Keeping
import OutcomeAlgebra.Try.Sequence
/-! Straight-line programs on owned values. An operation takes what it consumes out
of the values at hand, gives back what it only borrows, and puts its result in front;
so nothing can be used after it was given up. Callbacks may keep any values that the
program gives up to them. They write plain notes, and a delayed computation writes
its name when it starts: by their types, callbacks cannot evaluate a `Try`. -/
namespace OutcomeAlgebra

inductive Pick (τ : Type) : List Type → List Type → Type 1 where
  | here {types : List Type} : Pick τ (τ :: types) types
  | there {σ : Type} {types others : List Type} (pick : Pick τ types others) :
      Pick τ (σ :: types) (σ :: others)

namespace Pick

variable {τ : Type}

def look : {types others : List Type} → Pick τ types others → Values types → τ
  | _, _, .here, (value, _) => value
  | _, _, .there pick, (_, values) => pick.look values

def without : {types others : List Type} → Pick τ types others → Values types → Values others
  | _, _, .here, (_, values) => values
  | _, _, .there pick, (value, values) => (value, pick.without values)

def putBack : {types others : List Type} → Pick τ types others → τ → Values others → Values types
  | _, _, .here, kept, values => (kept, values)
  | _, _, .there pick, kept, (value, values) => (value, pick.putBack kept values)

end Pick

inductive Picks : List Type → List Type → List Type → Type 1 where
  | none {types : List Type} : Picks [] types types
  | more {τ : Type} {taken types between others : List Type} (pick : Pick τ types between)
      (rest : Picks taken between others) : Picks (τ :: taken) types others

namespace Picks

def look : {taken types others : List Type} → Picks taken types others → Values types → Values taken
  | _, _, _, .none, _ => ()
  | _, _, _, .more pick rest, values => (pick.look values, rest.look (pick.without values))

def without : {taken types others : List Type} → Picks taken types others →
    Values types → Values others
  | _, _, _, .none, values => values
  | _, _, _, .more pick rest, values => rest.without (pick.without values)

end Picks

namespace Try

inductive Spend (κ ν : Type) : Type → Type → Type 1 where
  | intoResult {α : Type} : Spend κ ν α (Except Capture α)
  | get {α : Type} : Spend κ ν α (Except EmptyValue α)
  | getOrElse {α : Type} (supplier : Act κ ν α) : Spend κ ν α α
  | fold {α β : Type} (onFailure : Capture → Act κ ν β) (onSuccess : α → Act κ ν β) : Spend κ ν α β
  | toOption {α : Type} : Spend κ ν α (Option α)
  | toEither {α : Type} : Spend κ ν α (Either Capture α)
  | toList {α : Type} : Spend κ ν α (List α)
  | map {α β : Type} (f : α → Act κ ν β) : Spend κ ν α (Try κ (ν ⊕ Nat) β)
  | replace {α β : Type} (value : β) : Spend κ ν α (Try κ (ν ⊕ Nat) β)
  | void {α : Type} : Spend κ ν α (Try κ (ν ⊕ Nat) Unit)
  | filter {α : Type} (predicate : StateT α (Act κ ν) Bool) (supplier : Act κ ν (Raised Fault)) :
      Spend κ ν α (Try κ (ν ⊕ Nat) α)
  | recover {α : Type} (f : Capture → Act κ ν α) : Spend κ ν α (Try κ (ν ⊕ Nat) α)
  | mapFailure {α : Type} (f : Capture → Act κ ν (Raised Fault)) : Spend κ ν α (Try κ (ν ⊕ Nat) α)
  | flatMap {α β : Type} (f : α → Act κ ν (Try κ (ν ⊕ Nat) β)) : Spend κ ν α (Try κ (ν ⊕ Nat) β)
  | andThen {α β : Type} (f : α → Act κ ν (Try κ (ν ⊕ Nat) β)) : Spend κ ν α (Try κ (ν ⊕ Nat) β)
  | followedBy {α β : Type} (next : Try κ (ν ⊕ Nat) β) : Spend κ ν α (Try κ (ν ⊕ Nat) β)
  | recoverWith {α : Type} (f : Capture → Act κ ν (Try κ (ν ⊕ Nat) α)) :
      Spend κ ν α (Try κ (ν ⊕ Nat) α)
  | flatten {α : Type} : Spend κ ν (Try κ (ν ⊕ Nat) α) (Try κ (ν ⊕ Nat) α)
  | map2 {α β γ : Type} (second : Try κ (ν ⊕ Nat) β) (f : α → β → Act κ ν γ) :
      Spend κ ν α (Try κ (ν ⊕ Nat) γ)
  | product {α β : Type} (second : Try κ (ν ⊕ Nat) β) : Spend κ ν α (Try κ (ν ⊕ Nat) (α × β))
  | begins {α τ : Type} (first : α → τ) : Spend κ ν α (Steps Capture τ)

variable {κ ν α β : Type}

def Spend.run : Spend κ ν α β → Try κ (ν ⊕ Nat) α → Act κ (ν ⊕ Nat) β
  | .intoResult, attempt => attempt.intoResult
  | .get, attempt => attempt.get
  | .getOrElse supplier, attempt => attempt.getOrElse supplier.plain
  | .fold onFailure onSuccess, attempt =>
    attempt.fold (fun capture => (onFailure capture).plain) fun value => (onSuccess value).plain
  | .toOption, attempt => attempt.toOption
  | .toEither, attempt => attempt.toEither
  | .toList, attempt => attempt.toList
  | .map f, attempt => attempt.map fun value => (f value).plain
  | .replace value, attempt => Outcome.replace attempt value
  | .void, attempt => Outcome.void attempt
  | .filter predicate supplier, attempt =>
    attempt.filter (fun value => (predicate value).plain) supplier.plain
  | .recover f, attempt => attempt.recover fun capture => (f capture).plain
  | .mapFailure f, attempt => attempt.mapFailure fun capture => (f capture).plain
  | .flatMap f, attempt => attempt.flatMap fun value => (f value).plain
  | .andThen f, attempt => Outcome.andThen attempt fun value => (f value).plain
  | .followedBy next, attempt => Outcome.followedBy attempt next
  | .recoverWith f, attempt => attempt.recoverWith fun capture => (f capture).plain
  | .flatten, attempt => attempt.flatten
  | .map2 second f, attempt => attempt.map2 second fun a b => (f a b).plain
  | .product second, attempt => Outcome.product attempt second
  | .begins first, attempt => Steps.start Family.attempt first attempt

def named (name : Nat) (computation : Act κ ν (Except (Raised Fault) α)) :
    Try κ (ν ⊕ Nat) α :=
  delayed do
    Act.note (.inr name)
    computation.plain

inductive Operation (κ ν : Type) : List Type → List Type → Type 1 where
  | aside {types others taken : List Type} {τ : Type} (captured : Picks taken types others)
      (act : Values taken → Act κ ν τ) : Operation κ ν types (τ :: others)
  | of {types others taken : List Type} {α : Type} (captured : Picks taken types others)
      (computation : Values taken → Act κ ν (Except (Raised Fault) α)) :
      Operation κ ν types (Try κ (ν ⊕ Nat) α :: others)
  | delayed {types others taken : List Type} {α : Type} (captured : Picks taken types others)
      (name : Nat) (computation : Values taken → Act κ ν (Except (Raised Fault) α)) :
      Operation κ ν types (Try κ (ν ⊕ Nat) α :: others)
  | fail {types others : List Type} {α : Type} (raised : Pick (Raised Fault) types others) :
      Operation κ ν types (Try κ (ν ⊕ Nat) α :: others)
  | drop {types others : List Type} {τ : Type} (dropped : Pick τ types others) :
      Operation κ ν types others
  | isEvaluated {types others : List Type} {α : Type}
      (attempt : Pick (Try κ (ν ⊕ Nat) α) types others) : Operation κ ν types (Bool :: types)
  | shown {types others : List Type} {α : Type} (payload : α → Shown)
      (attempt : Pick (Try κ (ν ⊕ Nat) α) types others) : Operation κ ν types (Shown :: types)
  | glance {types others : List Type} {α β : Type} (look : Glance α β)
      (attempt : Pick (Try κ (ν ⊕ Nat) α) types others) : Operation κ ν types (β :: types)
  | copy {types others : List Type} {α : Type} (payload : Borrow κ ν α α)
      (attempt : Pick (Try κ (ν ⊕ Nat) α) types others) :
      Operation κ ν types (Try κ (ν ⊕ Nat) α :: types)
  | equal {types others rest : List Type} {α : Type}
      (payload : α → α → Act κ ν (Except Panic Bool × α × α))
      (left : Pick (Try κ (ν ⊕ Nat) α) types others)
      (right : Pick (Try κ (ν ⊕ Nat) α) others rest) : Operation κ ν types (Bool :: types)
  | equalSelf {types others : List Type} {α : Type} (payload : Borrow κ ν α Bool)
      (attempt : Pick (Try κ (ν ⊕ Nat) α) types others) : Operation κ ν types (Bool :: types)
  | spend {types others rest taken : List Type} {α β : Type}
      (attempt : Pick (Try κ (ν ⊕ Nat) α) types others) (captured : Picks taken others rest)
      (chosen : Values taken → Spend κ ν α β) : Operation κ ν types (β :: rest)
  | sequence {types others taken : List Type} {α : Type} (captured : Picks taken types others)
      (pulls : Values taken → List (Act κ ν (Try κ (ν ⊕ Nat) α))) :
      Operation κ ν types (Try κ (ν ⊕ Nat) (List α) :: others)
  | next {types others rest taken : List Type} {α τ σ : Type}
      (steps : Pick (Steps Capture τ) types others) (captured : Picks taken others rest)
      (push : τ → α → σ) (f : Values taken → StateT τ (Act κ ν) (Try κ (ν ⊕ Nat) α)) :
      Operation κ ν types (Steps Capture σ :: rest)
  | nextWith {types others rest taken : List Type} {α τ σ : Type}
      (steps : Pick (Steps Capture τ) types others) (captured : Picks taken others rest)
      (push : τ → α → σ) (supplier : Values taken → Act κ ν (Try κ (ν ⊕ Nat) α)) :
      Operation κ ν types (Steps Capture σ :: rest)
  | filterOr {types others rest taken : List Type} {τ : Type}
      (steps : Pick (Steps Capture τ) types others) (captured : Picks taken others rest)
      (predicate : Values taken → StateT τ (Act κ ν) Bool)
      (onFailure : Values taken → Act κ ν Capture) :
      Operation κ ν types (Steps Capture τ :: rest)
  | yields {types others rest taken : List Type} {τ β : Type}
      (steps : Pick (Steps Capture τ) types others) (captured : Picks taken others rest)
      (f : Values taken → τ → Act κ ν β) : Operation κ ν types (Try κ (ν ⊕ Nat) β :: rest)

def Operation.run {types others : List Type} : Operation κ ν types others → Values types →
    Act κ (ν ⊕ Nat) (Values others)
  | .aside captured act, owned => do
    let made ← (act (captured.look owned)).plain
    pure (made, captured.without owned)
  | .of captured computation, owned => do
    let attempt ← Try.of (computation (captured.look owned)).plain
    pure (attempt, captured.without owned)
  | .delayed captured name computation, owned =>
    pure (named name (computation (captured.look owned)), captured.without owned)
  | .fail raised, owned => do
    let attempt ← Try.fail (raised.look owned)
    pure (attempt, raised.without owned)
  | .drop dropped, owned => pure (dropped.without owned)
  | .isEvaluated attempt, owned => pure ((attempt.look owned).isEvaluated, owned)
  | .shown payload attempt, owned => pure ((attempt.look owned).shown payload, owned)
  | .glance look attempt, owned => do
    let (answer, kept) ← Borrow.keep look.seen (attempt.look owned)
    pure (answer, attempt.putBack kept (attempt.without owned))
  | .copy payload attempt, owned => do
    let (copied, kept) ← Borrow.keep (Try.copy payload.plain) (attempt.look owned)
    pure (copied, attempt.putBack kept (attempt.without owned))
  | .equal payload left right, owned => do
    let others := left.without owned
    let (answer, a, b) ←
      keepBoth (Try.equal (fun a b => (payload a b).plain) (left.look owned) (right.look others))
    pure (answer, left.putBack a (right.putBack b (right.without others)))
  | .equalSelf payload attempt, owned => do
    let (answer, kept) ← Borrow.keep (Try.equalSelf payload.plain) (attempt.look owned)
    pure (answer, attempt.putBack kept (attempt.without owned))
  | .spend attempt captured chosen, owned => do
    let others := attempt.without owned
    let answer ← (chosen (captured.look others)).run (attempt.look owned)
    pure (answer, captured.without others)
  | .sequence captured pulls, owned => do
    let attempt ← Try.sequence ((pulls (captured.look owned)).map Act.plain)
    pure (attempt, captured.without owned)
  | .next steps captured push f, owned => do
    let others := steps.without owned
    let made ← (steps.look owned).next Family.attempt push fun values =>
      (f (captured.look others) values).plain
    pure (made, captured.without others)
  | .nextWith steps captured push supplier, owned => do
    let others := steps.without owned
    let made ←
      (steps.look owned).nextWith Family.attempt push (supplier (captured.look others)).plain
    pure (made, captured.without others)
  | .filterOr steps captured predicate onFailure, owned => do
    let others := steps.without owned
    let made ← (steps.look owned).filterOr
      (fun values => (predicate (captured.look others) values).plain)
      (onFailure (captured.look others)).plain
    pure (made, captured.without others)
  | .yields steps captured f, owned => do
    let others := steps.without owned
    let attempt ← (steps.look owned).yields Family.attempt fun values =>
      (f (captured.look others) values).plain
    pure (attempt, captured.without others)

inductive Program (κ ν : Type) : List Type → List Type → Type 1 where
  | done {types : List Type} : Program κ ν types types
  | step {types between others : List Type} (operation : Operation κ ν types between)
      (rest : Program κ ν between others) : Program κ ν types others

def Program.run {types others : List Type} : Program κ ν types others → Values types →
    Act κ (ν ⊕ Nat) (Values others)
  | .done, owned => pure owned
  | .step operation rest, owned => do
    let owned ← operation.run owned
    rest.run owned

end Try

end OutcomeAlgebra
