import OutcomeAlgebra.Proofs.Try.Call
import OutcomeAlgebra.Proofs.Try.Program
/-! Deeds on a store. A deed uses some of the values up, or only looks at some; a panic
ends the deed and leaves the store to whoever catches it. Nothing happens behind the
panic. Of the values that are still there, only those that the deed has looked at can
have changed, and they are at what is known of them so far: poisoned where their own
computation has panicked, evaluated where the panic came later. -/
namespace OutcomeAlgebra

variable {κ ν : Type}

def Picks.putBack : {taken types others : List Type} → Picks taken types others →
    Values taken → Values others → Values types
  | _, _, _, .none, _, values => values
  | _, _, _, .more pick rest, (value, kept), values => pick.putBack value (rest.putBack kept values)

inductive Deed (κ ν : Type) : List Type → List Type → Type → Type 1 where
  | call {types others taken : List Type} {β : Type} {holds : β → Prop}
      (captured : Picks taken types others) (chosen : Values taken → Call κ ν β holds) :
      Deed κ ν types others {answer // holds answer}
  | sight {types others : List Type} {α β : Type} {holds : β → Prop}
      (attempt : Pick (Sound κ ν α) types others) (look : Sight κ ν α β holds) :
      Deed κ ν types types {answer // holds answer}
  | equal {types others rest : List Type} {α : Type} (payload : Lent κ ν (α × α) Bool)
      (left : Pick (Sound κ ν α) types others) (right : Pick (Sound κ ν α) others rest) :
      Deed κ ν types types {_same : Bool // True}
  | lend {types others taken : List Type} {β : Type} (borrowed : Picks taken types others)
      (lent : Lent κ ν (Values taken) β) : Deed κ ν types types β

namespace Deed

variable {types others : List Type} {answer : Type}

def run : Deed κ ν types others answer → Values types →
    Act κ (ν ⊕ Mark) (Except Panic answer × Values others)
  | .call captured chosen, owned => do
    let ending ← (chosen (captured.look owned)).code.act.ending
    pure (ending, captured.without owned)
  | .sight attempt look, owned =>
    Borrow.within (fun kept => attempt.putBack kept (attempt.without owned)) id
      (look.lent.look (attempt.look owned))
  | .equal payload left right, owned =>
    let others := left.without owned
    Borrow.within (fun kept => left.putBack kept.1 (right.putBack kept.2 (right.without others))) id
      ((Sound.equal payload).look (left.look owned, right.look others))
  | .lend borrowed lent, owned =>
    Borrow.within (fun kept => borrowed.putBack kept (borrowed.without owned)) id
      (lent.look (borrowed.look owned))

theorem lends (deed : Deed κ ν types others answer) (owned : Values types) :
    (deed.run owned).Lends := by
  cases deed with
  | call captured chosen =>
    have minds := (chosen (captured.look owned)).code.minds
    exact {
      ends := (Act.endsEnding _).bind fun ending => Act.endsPure _
      moves := fun pulls => (Act.endingMoves minds pulls).bind fun ending phase there =>
        Act.movesPure there }
  | sight attempt look => exact (look.lent.lends _).within _ _
  | equal payload left right => exact ((Sound.equal payload).lends _).within _ _
  | lend borrowed lent => exact (lent.lends _).within _ _

/- How a deed breaks, and the store that it leaves behind. -/
inductive Breaks (context : κ) (next : Nat) (panic : Panic) : {types others : List Type} →
    {answer : Type} → Deed κ ν types others answer → Values types → Values others → Prop where
  | call {types others taken : List Type} {β : Type} {holds : β → Prop}
      {captured : Picks taken types others} {chosen : Values taken → Call κ ν β holds}
      {owned : Values types}
      (ended : ((chosen (captured.look owned)).run.run context next).ending = .error panic) :
      Breaks context next panic (.call captured chosen) owned (captured.without owned)
  | sight {types others : List Type} {α β : Type} {holds : β → Prop}
      {attempt : Pick (Sound κ ν α) types others} {look : Sight κ ν α β holds}
      {owned : Values types} {kept : Sound κ ν α}
      (broke : look.Breaks (attempt.look owned) context next panic kept) :
      Breaks context next panic (.sight attempt look) owned
        (attempt.putBack kept (attempt.without owned))
  | equal {types others rest : List Type} {α : Type} {payload : Lent κ ν (α × α) Bool}
      {left : Pick (Sound κ ν α) types others} {right : Pick (Sound κ ν α) others rest}
      {owned : Values types} {kept : Sound κ ν α × Sound κ ν α}
      (broke : Sound.EqualBreaks payload (left.look owned) (right.look (left.without owned))
        context next panic kept) :
      Breaks context next panic (.equal payload left right) owned
        (left.putBack kept.1 (right.putBack kept.2 (right.without (left.without owned))))
  | lend {types others taken : List Type} {β : Type} {borrowed : Picks taken types others}
      {lent : Lent κ ν (Values taken) β} {owned : Values types} {kept : Values taken}
      (ended : (Act.run (lent.look (borrowed.look owned)) context next).ending =
        .ok (.error panic, kept)) :
      Breaks context next panic (.lend borrowed lent) owned
        (borrowed.putBack kept (borrowed.without owned))

theorem runBreaks {deed : Deed κ ν types others answer} {owned : Values types}
    {after : Values others} {context : κ} {next : Nat} {panic : Panic}
    (ended : ((deed.run owned).run context next).ending = .ok (.error panic, after)) :
    Breaks context next panic deed owned after := by
  cases deed with
  | call captured chosen =>
    obtain ⟨ending, first, last⟩ := Act.runBindEnds _ ended
    cases last
    exact .call (Act.attachPanics _ (Except.ok.inj first))
  | sight attempt look =>
    obtain ⟨kept, broke, rfl⟩ := Act.withinBreaks ended
    exact .sight (Sight.lentBreaks broke)
  | equal payload left right =>
    obtain ⟨kept, broke, rfl⟩ := Act.withinBreaks ended
    exact .equal (Sound.equalBreaks broke)
  | lend borrowed lent =>
    obtain ⟨kept, broke, rfl⟩ := Act.withinBreaks ended
    exact .lend broke

end Deed

theorem panicsPassThrough (κ ν : Type) {types others : List Type} {answer : Type}
    (deed : Deed κ ν types others answer) (owned : Values types) (context : κ) (next : Nat) :
    ∃ log used ending after, (deed.run owned).run context next = ⟨log, used, .ok (ending, after)⟩ ∧
      (∀ front entry back panic, log = front ++ entry :: back → entry.panic? = some panic →
        back = [] ∧ ending = .error panic) ∧
      (∀ panic, ending = .error panic →
        (∃ front entry, log = front ++ [entry] ∧ entry.panic? = some panic) ∧
        deed.Breaks context next panic owned after) := by
  obtain ⟨log, used, ending, after, ran, read⟩ := (deed.lends owned).reads [] context next
  refine ⟨log, used, ending, after, ran, ?_, ?_⟩
  · rintro front entry back panic rfl raised
    obtain ⟨nothing, broken⟩ := panicLast read raised
    cases ending with
    | ok answer => cases broken
    | error other =>
      cases broken
      exact ⟨nothing, rfl⟩
  · rintro panic rfl
    exact ⟨brokenBy read, Deed.runBreaks (by rw [ran])⟩

example :
    let one : Sound Unit Unit Int := ⟨Code.delayed (pure (.ok 1)), delayedMinds _⟩
    let boom : Sound Unit Unit Int :=
      ⟨Code.delayed (.user (throw (.raised "boom"))), delayedMinds _⟩
    let payload : Lent Unit Unit (Int × Int) Bool :=
      .user (fun pair => pure (.ok (pair.1 == pair.2), pair)) fun _ => Act.endsPure _
    let owned : Values [Sound Unit Unit Int, Sound Unit Unit Int] := (one, boom, ())
    let after : Values [Sound Unit Unit Int, Sound Unit Unit Int] :=
      (one.kept (.ok 1), .poisoned, ())
    ((Deed.equal payload .here .here).run owned).run () 0 =
      ⟨[.event .evaluating, .note (.inr .started), .event .evaluating, .note (.inr .started),
        .note (.inr (.panicked (.raised "boom")))], 0, .ok (.error (.raised "boom"), after)⟩ := rfl

end OutcomeAlgebra
