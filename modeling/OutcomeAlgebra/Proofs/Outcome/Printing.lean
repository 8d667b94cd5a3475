import OutcomeAlgebra.Outcome.Printing
import OutcomeAlgebra.Proofs.Shape.Holding
/-! Printing nested values where they are. Of a cell, printing sees the outcome that it holds,
or that it holds none: whether a computation waits in it or has panicked makes no difference,
nor whether a value that is there was computed or given. What is seen has no cells in it, so
nothing in it could be run, and the printed value stays as it was. -/
namespace OutcomeAlgebra

variable {κ ν α : Type}

namespace Fault

def unnumbered : Fault → Fault
  | .layered label (.plain source) => .layered label (.plain source.unnumbered)
  | .layered label (.captured _ source) => .layered label (.captured 0 source.unnumbered)
  | fault => fault

theorem unnumberedShown : (fault : Fault) → fault.unnumbered.shown = fault.shown
  | .text _ | .coded _ _ | .integer _ => by rw [unnumbered] <;> nofun
  | .layered _ (.plain source) => by rw [unnumbered, shown, shown, unnumberedShown source]
  | .layered _ (.captured _ source) => by rw [unnumbered, shown, shown, unnumberedShown source]

end Fault

theorem Try.putBackHeld {attempt : Try κ ν α} {value : α}
    (there : attempt.outcome? = some (.ok value)) : attempt.putBack value = attempt := by
  have stays := Try.putBackKept attempt value value
  rwa [Try.keptEvaluated there] at stays

inductive Layout (κ ν : Type) : Type → Type 1 where
  | payload {α : Type} (shown : α → Shown) : Layout κ ν α
  | attempt {α : Type} (inner : Layout κ ν α) : Layout κ ν (Try κ ν α)
  | optional {α : Type} (inner : Layout κ ν α) : Layout κ ν (Option α)
  | either {L R : Type} (left : Layout κ ν L) (right : Layout κ ν R) : Layout κ ν (Either L R)
  | list {α : Type} (inner : Layout κ ν α) : Layout κ ν (List α)
  | pair {α β : Type} (first : Layout κ ν α) (second : Layout κ ν β) : Layout κ ν (α × β)

namespace Layout

def print {α : Type} : Layout κ ν α → Borrow κ ν α Shown
  | .payload shown => fun value => pure (.ok (shown value), value)
  | .attempt inner => Try.print inner.print
  | .optional inner => Optional.print inner.print
  | .either left right => Either.print left.print right.print
  | .list inner => Items.print inner.print
  | .pair first second => Pair.print first.print second.print

/- A value without its cells: an outcome stands where a cell holds one, and nothing where it
holds none. -/
def Cached {α : Type} : Layout κ ν α → Type
  | .payload (α := α) _ => α
  | .attempt inner => Option (Except Fault inner.Cached)
  | .optional inner => Option inner.Cached
  | .either left right => Either left.Cached right.Cached
  | .list inner => List inner.Cached
  | .pair first second => first.Cached × second.Cached

def cachedOutcome {τ : Type} (cached : α → τ) : Except Capture α → Except Fault τ
  | .ok value => .ok (cached value)
  | .error capture => .error capture.fault.unnumbered

def cached {α : Type} : (layout : Layout κ ν α) → α → layout.Cached
  | .payload _ => fun value => value
  | .attempt inner => fun held => held.outcome?.map (cachedOutcome inner.cached)
  | .optional inner => fun held => held.map inner.cached
  | .either left right => fun
    | .left value => .left (left.cached value)
    | .right value => .right (right.cached value)
  | .list inner => fun items => items.map inner.cached
  | .pair first second => fun (a, b) => (first.cached a, second.cached b)

def shown {α : Type} : (layout : Layout κ ν α) → layout.Cached → Shown
  | .payload shown => shown
  | .attempt inner => fun
    | some (.ok value) => .apply "Success" [inner.shown value]
    | some (.error fault) => .apply "Failure" [.apply "TryError" [fault.shown]]
    | none => .atom "Delayed(<pending>)"
  | .optional inner => fun
    | some value => .apply "Some" [inner.shown value]
    | none => .atom "None"
  | .either left right => fun
    | .left value => .apply "Left" [left.shown value]
    | .right value => .apply "Right" [right.shown value]
  | .list inner => fun items => .list (items.map inner.shown)
  | .pair first second => fun (a, b) => .apply "" [first.shown a, second.shown b]

theorem attemptPrints {inner : Layout κ ν α}
    (prints : ∀ value, inner.print value = pure (.ok (inner.shown (inner.cached value)), value))
    (held : Try κ ν α) :
    (attempt inner).print held =
      pure (.ok ((attempt inner).shown ((attempt inner).cached held)), held) := by
  unfold print shown cached Try.print
  cases there : held.outcome? with
  | none => rfl
  | some outcome =>
    cases outcome with
    | error capture =>
      have same := capture.fault.unnumberedShown
      simp only [Option.map_some, cachedOutcome, same]
      rfl
    | ok value =>
      have put := Borrow.withinOk (prints value) held.putBack
        fun shown => Shown.apply "Success" [shown]
      rwa [Try.putBackHeld there] at put

theorem itemsPrint {inner : Layout κ ν α}
    (prints : ∀ value, inner.print value = pure (.ok (inner.shown (inner.cached value)), value))
    (items : List α) :
    Items.printEach inner.print items =
      pure (.ok ((items.map inner.cached).map inner.shown), items) := by
  induction items with
  | nil => rfl
  | cons item items ih => exact Borrow.bothOk (prints item) ih List.cons List.cons items

theorem printCached (layout : Layout κ ν α) (value : α) :
    layout.print value = pure (.ok (layout.shown (layout.cached value)), value) := by
  induction layout with
  | payload shown => rfl
  | attempt inner ih => exact attemptPrints ih value
  | optional inner ih =>
    cases value with
    | none => rfl
    | some value => exact Borrow.withinOk (ih value) some _
  | either left right onLeft onRight =>
    cases value with
    | left value => exact Borrow.withinOk (onLeft value) Either.left _
    | right value => exact Borrow.withinOk (onRight value) Either.right _
  | list inner ih => exact Borrow.withinOk (itemsPrint ih value) id _
  | pair first second onFirst onSecond =>
    obtain ⟨a, b⟩ := value
    exact Borrow.bothOk (onFirst a) (onSecond b) Prod.mk _ b

end Layout

end OutcomeAlgebra
