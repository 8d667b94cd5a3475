import OutcomeAlgebra.Proofs.Outcome.Printing
import OutcomeAlgebra.Proofs.Shape.Looking
/-! Peeks into a nested value: printing any part of it, and asking any `Try` in it whether it
is evaluated. A peek goes on into a `Try` only where the outcome is there already. It runs
nothing, whatever the cells on its way hold, and its answer depends on nothing but the outcomes
that they hold. -/
namespace OutcomeAlgebra.Layout

variable {κ ν α β γ : Type}

inductive Peek {κ ν : Type} : {α : Type} → Layout κ ν α → Type → Type 1 where
  | text {α : Type} {layout : Layout κ ν α} (spread : Bool) : Peek layout String
  | isEvaluated {α : Type} {inner : Layout κ ν α} : Peek (.attempt inner) Bool
  | onValue {α β : Type} {inner : Layout κ ν α} (peek : Peek inner β) (missed : β) :
      Peek (.attempt inner) β
  | onPresent {α β : Type} {inner : Layout κ ν α} (peek : Peek inner β) (missed : β) :
      Peek (.optional inner) β
  | onLeft {L R β : Type} {left : Layout κ ν L} {right : Layout κ ν R} (peek : Peek left β)
      (missed : β) : Peek (.either left right) β
  | onRight {L R β : Type} {left : Layout κ ν L} {right : Layout κ ν R} (peek : Peek right β)
      (missed : β) : Peek (.either left right) β
  | onItem {α β : Type} {inner : Layout κ ν α} (place : Nat) (peek : Peek inner β) (missed : β) :
      Peek (.list inner) β
  | onFirst {α β γ : Type} {first : Layout κ ν α} {second : Layout κ ν β} (peek : Peek first γ) :
      Peek (.pair first second) γ
  | onSecond {α β γ : Type} {first : Layout κ ν α} {second : Layout κ ν β} (peek : Peek second γ) :
      Peek (.pair first second) γ

namespace Peek

def sight {α : Type} {layout : Layout κ ν α} {β : Type} : Peek layout β → Borrow κ ν α β
  | text spread => fun value => Borrow.within id (Shown.write spread) (layout.print value)
  | isEvaluated => fun held => pure (.ok held.isEvaluated, held)
  | onValue peek missed => fun held =>
    if held.isEvaluated then Try.ontoValue peek.sight (fun _ => missed) id held
    else pure (.ok missed, held)
  | onPresent peek missed => fun
    | none => pure (.ok missed, none)
    | some value => Borrow.within some id (peek.sight value)
  | onLeft peek missed => fun
    | .left value => Borrow.within .left id (peek.sight value)
    | .right value => pure (.ok missed, .right value)
  | onRight peek missed => fun
    | .left value => pure (.ok missed, .left value)
    | .right value => Borrow.within .right id (peek.sight value)
  | onItem place peek missed => fun items =>
    match items[place]? with
    | none => pure (.ok missed, items)
    | some item => Borrow.within (items.set place ·) id (peek.sight item)
  | onFirst peek => fun (a, b) => Borrow.within (·, b) id (peek.sight a)
  | onSecond peek => fun (a, b) => Borrow.within (a, ·) id (peek.sight b)

def sees {α : Type} {layout : Layout κ ν α} {β : Type} : Peek layout β → layout.Cached → β
  | text spread => fun held => (layout.shown held).write spread
  | isEvaluated => fun held => held.isSome
  | onValue peek missed => fun
    | some (.ok value) => peek.sees value
    | _ => missed
  | onPresent peek missed => fun
    | none => missed
    | some value => peek.sees value
  | onLeft peek missed => fun
    | .left value => peek.sees value
    | .right _ => missed
  | onRight peek missed => fun
    | .left _ => missed
    | .right value => peek.sees value
  | @onItem _ _ _ _ inner place peek missed => fun (items : List inner.Cached) =>
    match items[place]? with
    | none => missed
    | some item => peek.sees item
  | onFirst peek => fun held => peek.sees held.1
  | onSecond peek => fun held => peek.sees held.2

end Peek

theorem ontoValueThere {payload : Borrow κ ν α β} {held : Try κ ν α} {outcome : Except Capture α}
    {missed : Capture → γ} {whole : β → γ} {answer : γ} (there : held.outcome? = some outcome)
    (ends : Try.overValue payload missed whole outcome = pure (.ok answer, outcome)) :
    Try.ontoValue payload missed whole held = pure (.ok answer, held) := by
  rw [Try.ontoValueTrying, Shape.tryingEvaluated there]
  have kept := Borrow.withinOk ends held.kept id
  rwa [Try.keptEvaluated there] at kept

theorem peekCached {layout : Layout κ ν α} (peek : Peek layout β) (value : α) :
    peek.sight value = pure (.ok (peek.sees (layout.cached value)), value) := by
  induction peek with
  | text spread => exact Borrow.withinOk (printCached _ value) id (Shown.write spread)
  | isEvaluated =>
    unfold Peek.sight Peek.sees cached Try.isEvaluated
    rw [Option.isSome_map]
  | onValue peek missed ih =>
    unfold Peek.sight Peek.sees cached Try.isEvaluated
    cases there : value.outcome? with
    | none => rfl
    | some outcome =>
      -- The peek asks before it demands, so here the outcome is demanded where it is cached.
      cases outcome with
      | error capture => exact ontoValueThere there rfl
      | ok value => exact ontoValueThere there (Borrow.withinOk (ih value) Except.ok id)
  | onPresent peek missed ih =>
    cases value with
    | none => rfl
    | some value => exact Borrow.withinOk (ih value) some id
  | onLeft peek missed ih =>
    cases value with
    | left value => exact Borrow.withinOk (ih value) Either.left id
    | right value => rfl
  | onRight peek missed ih =>
    cases value with
    | left value => rfl
    | right value => exact Borrow.withinOk (ih value) Either.right id
  | onItem place peek missed ih =>
    unfold Peek.sight Peek.sees cached
    simp only [List.getElem?_map]
    cases there : value[place]? with
    | none => rfl
    | some item =>
      have quiet := Borrow.withinOk (ih item) (value.set place ·) id
      rwa [Shape.setHeld there] at quiet
  | onFirst peek ih => exact Borrow.withinOk (ih value.1) (·, value.2) id
  | onSecond peek ih => exact Borrow.withinOk (ih value.2) (value.1, ·) id

def Inert (look : Borrow κ ν α β) (value : α) (answer : β) : Prop :=
  ∀ context next, (look value).run context next = ⟨[], 0, .ok (.ok answer, value)⟩

theorem peekInert {layout : Layout κ ν α} (peek : Peek layout β) (value : α) :
    Inert peek.sight value (peek.sees (layout.cached value)) := by
  intro context next
  rw [peekCached]
  rfl

theorem inertAlike {layout : Layout κ ν α} (peek : Peek layout β) {a b : α}
    (same : layout.cached a = layout.cached b) :
    ∃ answer, Inert peek.sight a answer ∧ Inert peek.sight b answer := by
  refine ⟨peek.sees (layout.cached a), peekInert peek a, ?_⟩
  rw [same]
  exact peekInert peek b

theorem cachedReady (layout : Layout κ ν α) (outcome : Except Capture α) :
    (attempt layout).cached (.deferred (.ready outcome)) =
      (attempt layout).cached (.ofOutcome outcome) := by
  cases outcome <;> rfl

theorem inertUnready {layout : Layout κ ν α} {held : Try κ ν α} (missing : held.outcome? = none)
    (spread : Bool) :
    Inert (Peek.text spread : Peek (attempt layout) String).sight held "Delayed(<pending>)" := by
  have unready : (attempt layout).cached held = none := congrArg (Option.map _) missing
  have inert := peekInert (Peek.text spread : Peek (attempt layout) String) held
  rw [unready] at inert
  cases spread <;> exact inert

structure Peeks (layout : Layout κ ν α) : Prop where
  inert : ∀ {β : Type} (peek : Peek layout β) (value : α),
    Inert peek.sight value (peek.sees (layout.cached value))
  alike : ∀ {β : Type} (peek : Peek layout β) {a b : α}, layout.cached a = layout.cached b →
    ∃ answer, Inert peek.sight a answer ∧ Inert peek.sight b answer
  ready : ∀ {β : Type} (peek : Peek (attempt layout) β) (outcome : Except Capture α),
    ∃ answer, Inert peek.sight (.deferred (.ready outcome)) answer ∧
      Inert peek.sight (.ofOutcome outcome) answer
  pending : ∀ (spread : Bool) (run : Act κ ν (Except Capture α)),
    Inert (Peek.text spread : Peek (attempt layout) String).sight (.deferred (.pending run))
      "Delayed(<pending>)"
  poisoned : ∀ spread : Bool,
    Inert (Peek.text spread : Peek (attempt layout) String).sight (.deferred .poisoned)
      "Delayed(<pending>)"

theorem peeksInert (layout : Layout κ ν α) : Peeks layout where
  inert := peekInert
  alike := inertAlike
  ready peek outcome := inertAlike peek (cachedReady layout outcome)
  pending spread _ := inertUnready rfl spread
  poisoned spread := inertUnready rfl spread

theorem mixedPeeks :
    let layout : Layout Unit Nat (List (Either (Try Unit Nat Bool) (Option (Try Unit Nat Bool)))) :=
      .list (.either (.attempt (.payload fun _ => .atom "_")) (.optional (.attempt
        (.payload fun _ => .atom "_"))))
    let a := [.left (.success true), .right (some (.deferred .poisoned))]
    let b := [.left (.deferred (.ready (.ok true))),
      .right (some (.deferred (.pending fun _ _ => ⟨[.note 4], 0, .ok (.ok false)⟩)))]
    layout.cached a = layout.cached b ∧
      layout.shown (layout.cached a) =
        .list [.apply "Left" [.apply "Success" [.atom "_"]],
          .apply "Right" [.apply "Some" [.atom "Delayed(<pending>)"]]] ∧
      ∃ text, Inert (Peek.text true : Peek layout String).sight a text ∧
        Inert (Peek.text true : Peek layout String).sight b text :=
  ⟨rfl, rfl, (peeksInert _).alike (.text true) rfl⟩

end OutcomeAlgebra.Layout
