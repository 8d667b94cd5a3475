import OutcomeAlgebra.Proofs.Shape.Basic
/-! Which trees a value holds. A pending computation holds a tree for each state that it may
be run in; what is left of a value after a look holds no tree that it did not hold before.
A value whose computations return holds a tree, and an evaluated one holds no second. -/
namespace OutcomeAlgebra

variable {κ ν α β L R : Type}

namespace Try

theorem intoResultKept (attempt : Try κ ν α) (outcome : Except Capture α) :
    (attempt.kept outcome).intoResult = pure outcome := by
  cases attempt with
  | success value => cases outcome <;> rfl
  | failure capture => cases outcome <;> rfl
  | deferred cell => rfl

theorem putBackKept (attempt : Try κ ν α) (value held : α) :
    (attempt.kept (.ok value)).putBack held = attempt.kept (.ok held) := by
  cases attempt <;> rfl

theorem outcomeThere {attempt : Try κ ν α} {outcome : Except Capture α}
    (there : attempt.outcome? = some outcome) :
    attempt = .ofOutcome outcome ∨ attempt = .deferred (.ready outcome) := by
  cases attempt with
  | success value | failure capture =>
    cases there
    exact .inl rfl
  | deferred cell =>
    cases cell with
    | ready held =>
      cases there
      exact .inr rfl
    | pending run | poisoned => cases there

theorem intoResultEvaluated {attempt : Try κ ν α} {outcome : Except Capture α}
    (there : attempt.outcome? = some outcome) : attempt.intoResult = pure outcome := by
  obtain rfl | rfl := outcomeThere there
  · cases outcome <;> rfl
  · rfl

theorem keptEvaluated {attempt : Try κ ν α} {outcome : Except Capture α}
    (there : attempt.outcome? = some outcome) : attempt.kept outcome = attempt := by
  obtain rfl | rfl := outcomeThere there
  · cases outcome <;> rfl
  · rfl

theorem outcomeKept (attempt : Try κ ν α) (outcome : Except Capture α) :
    (attempt.kept outcome).outcome? = some outcome := by
  cases attempt with
  | success value => cases outcome <;> rfl
  | failure capture => cases outcome <;> rfl
  | deferred cell => rfl

end Try

namespace Shape

section Parts

variable {τ σ : Type}

inductive HoldsOutcome (holds : α → τ → Prop) : Except Capture α → Except Capture τ → Prop where
  | value {value : α} {tree : τ} (held : holds value tree) :
      HoldsOutcome holds (.ok value) (.ok tree)
  | failure (capture : Capture) : HoldsOutcome holds (.error capture) (.error capture)

inductive HoldsOption (holds : α → τ → Prop) : Option α → Option τ → Prop where
  | absent : HoldsOption holds none none
  | present {value : α} {tree : τ} (held : holds value tree) :
      HoldsOption holds (some value) (some tree)

inductive HoldsEither (left : L → τ → Prop) (right : R → σ → Prop) :
    Either L R → Either τ σ → Prop where
  | left {value : L} {tree : τ} (held : left value tree) :
      HoldsEither left right (.left value) (.left tree)
  | right {value : R} {tree : σ} (held : right value tree) :
      HoldsEither left right (.right value) (.right tree)

inductive HoldsItems (holds : α → τ → Prop) : List α → List τ → Prop where
  | nil : HoldsItems holds [] []
  | cons {item : α} {tree : τ} {items : List α} {trees : List τ} (first : holds item tree)
      (rest : HoldsItems holds items trees) : HoldsItems holds (item :: items) (tree :: trees)

end Parts

def Holds {α : Type} : (shape : Shape κ ν α) → α → shape.Tree → Prop
  | .payload _ _ => fun value tree => value = tree
  | .attempt inner => fun attempt tree => ∃ context next outcome,
      (attempt.intoResult.run context next).ending = .ok outcome ∧
        HoldsOutcome inner.Holds outcome tree
  | .optional inner => HoldsOption inner.Holds
  | .either left right => HoldsEither left.Holds right.Holds
  | .list inner => HoldsItems inner.Holds

def Returns {α : Type} : Shape κ ν α → α → Prop
  | .payload _ _ => fun _ => True
  | .attempt inner => fun attempt => ∀ context next, ∃ outcome,
      (attempt.intoResult.run context next).ending = .ok outcome ∧
        ∀ value, outcome = .ok value → inner.Returns value
  | .optional inner => fun option => ∀ value, option = some value → inner.Returns value
  | .either left right => fun
    | .left value => left.Returns value
    | .right value => right.Returns value
  | .list inner => fun items => ∀ item ∈ items, inner.Returns item

def Evaluated {α : Type} : Shape κ ν α → α → Prop
  | .payload _ _ => fun _ => True
  | .attempt inner => fun attempt => ∃ outcome, attempt.outcome? = some outcome ∧
      ∀ value, outcome = .ok value → inner.Evaluated value
  | .optional inner => fun option => ∀ value, option = some value → inner.Evaluated value
  | .either left right => fun
    | .left value => left.Evaluated value
    | .right value => right.Evaluated value
  | .list inner => fun items => ∀ item ∈ items, inner.Evaluated item

def Refines (shape : Shape κ ν α) (before after : α) : Prop :=
  ∀ tree, shape.Holds after tree → shape.Holds before tree

section Kept

variable {inner : Shape κ ν α} {outcome : Except Capture α} {context : κ} {next : Nat}

theorem holdsKept (held : Try κ ν α) {tree : Except Capture inner.Tree}
    (holds : (attempt inner).Holds (held.kept outcome) tree) :
    HoldsOutcome inner.Holds outcome tree := by
  obtain ⟨context, next, found, ended, reached⟩ := holds
  rw [Try.intoResultKept] at ended
  cases ended
  exact reached

theorem keptHolds (context : κ) (held : Try κ ν α) {tree : Except Capture inner.Tree}
    (reached : HoldsOutcome inner.Holds outcome tree) :
    (attempt inner).Holds (held.kept outcome) tree := by
  refine ⟨context, 0, outcome, ?_, reached⟩
  rw [Try.intoResultKept]
  rfl

theorem returnsKept (held : Try κ ν α)
    (returns : ∀ value, outcome = .ok value → inner.Returns value) :
    (attempt inner).Returns (held.kept outcome) := by
  intro context next
  rw [Try.intoResultKept]
  exact ⟨outcome, rfl, returns⟩

theorem refinesKept {held : Try κ ν α} {later : Except Capture α}
    (ended : (held.intoResult.run context next).ending = .ok outcome)
    (refines : ∀ tree, HoldsOutcome inner.Holds later tree →
      HoldsOutcome inner.Holds outcome tree) :
    (attempt inner).Refines held (held.kept later) := by
  intro tree holds
  exact ⟨context, next, outcome, ended, refines tree (holdsKept held holds)⟩

theorem evaluatedKept (held : Try κ ν α)
    (evaluated : ∀ value, outcome = .ok value → inner.Evaluated value) :
    (attempt inner).Evaluated (held.kept outcome) :=
  ⟨outcome, held.outcomeKept outcome, evaluated⟩

end Kept

section Wholes

variable {inner : Shape κ ν α} {left : Shape κ ν L} {right : Shape κ ν R}

theorem holdsPresent (value : α) (tree : Option inner.Tree) :
    (optional inner).Holds (some value) tree ↔
      ∃ part, tree = some part ∧ inner.Holds value part := by
  constructor
  · intro holds
    cases holds with
    | present held => exact ⟨_, rfl, held⟩
  · rintro ⟨part, rfl, held⟩
    exact .present held

theorem holdsLeft (value : L) (tree : Either left.Tree right.Tree) :
    (either left right).Holds (.left value) tree ↔
      ∃ part, tree = .left part ∧ left.Holds value part := by
  constructor
  · intro holds
    cases holds with
    | left held => exact ⟨_, rfl, held⟩
  · rintro ⟨part, rfl, held⟩
    exact .left held

theorem holdsRight (value : R) (tree : Either left.Tree right.Tree) :
    (either left right).Holds (.right value) tree ↔
      ∃ part, tree = .right part ∧ right.Holds value part := by
  constructor
  · intro holds
    cases holds with
    | right held => exact ⟨_, rfl, held⟩
  · rintro ⟨part, rfl, held⟩
    exact .right held

end Wholes

theorem refinesSelf (shape : Shape κ ν α) (value : α) : shape.Refines value value :=
  fun _ holds => holds

theorem holdsSome (context : κ) {shape : Shape κ ν α} {value : α} (returns : shape.Returns value) :
    ∃ tree, shape.Holds value tree := by
  induction shape with
  | payload same duplicate => exact ⟨value, rfl⟩
  | attempt inner ih =>
    obtain ⟨outcome, ended, further⟩ := returns context 0
    cases outcome with
    | error capture => exact ⟨.error capture, context, 0, .error capture, ended, .failure capture⟩
    | ok held =>
      obtain ⟨tree, holds⟩ := ih (further held rfl)
      exact ⟨.ok tree, context, 0, .ok held, ended, .value holds⟩
  | optional inner ih =>
    cases value with
    | none => exact ⟨none, .absent⟩
    | some held =>
      obtain ⟨tree, holds⟩ := ih (returns held rfl)
      exact ⟨some tree, .present holds⟩
  | either left right onLeft onRight =>
    cases value with
    | left held =>
      obtain ⟨tree, holds⟩ := onLeft returns
      exact ⟨.left tree, .left holds⟩
    | right held =>
      obtain ⟨tree, holds⟩ := onRight returns
      exact ⟨.right tree, .right holds⟩
  | list inner ih =>
    induction value with
    | nil => exact ⟨[], .nil⟩
    | cons item items rest =>
      obtain ⟨tree, holds⟩ := ih (returns item List.mem_cons_self)
      obtain ⟨trees, others⟩ := rest fun other member =>
        returns other (List.mem_cons_of_mem _ member)
      exact ⟨tree :: trees, .cons holds others⟩

theorem evaluatedReturns {shape : Shape κ ν α} {value : α} (evaluated : shape.Evaluated value) :
    shape.Returns value := by
  induction shape with
  | payload same duplicate => exact trivial
  | attempt inner ih =>
    obtain ⟨outcome, found, further⟩ := evaluated
    intro context next
    rw [Try.intoResultEvaluated found]
    exact ⟨outcome, rfl, fun held shape => ih (further held shape)⟩
  | optional inner ih => exact fun held shape => ih (evaluated held shape)
  | either left right onLeft onRight =>
    cases value with
    | left held => exact onLeft evaluated
    | right held => exact onRight evaluated
  | list inner ih => exact fun item member => ih (evaluated item member)

theorem evaluatedEager (shape : Shape κ ν α) (tree : shape.Tree) :
    shape.Evaluated (shape.eager tree) := by
  induction shape with
  | payload same duplicate => exact trivial
  | attempt inner ih =>
    cases tree with
    | ok tree =>
      refine ⟨.ok (inner.eager tree), rfl, fun held shape => ?_⟩
      cases shape
      exact ih tree
    | error capture => exact ⟨.error capture, rfl, nofun⟩
  | optional inner ih =>
    cases tree with
    | none => exact nofun
    | some tree =>
      intro held shape
      cases shape
      exact ih tree
  | either left right onLeft onRight =>
    cases tree with
    | left tree => exact onLeft tree
    | right tree => exact onRight tree
  | list inner ih =>
    intro item member
    obtain ⟨tree, _, rfl⟩ := List.mem_map.mp member
    exact ih tree

theorem holdsEager (context : κ) (shape : Shape κ ν α) (tree : shape.Tree) :
    shape.Holds (shape.eager tree) tree := by
  induction shape with
  | payload same duplicate => rfl
  | attempt inner ih =>
    cases tree with
    | ok tree => exact ⟨context, 0, .ok (inner.eager tree), rfl, .value (ih tree)⟩
    | error capture => exact ⟨context, 0, .error capture, rfl, .failure capture⟩
  | optional inner ih =>
    cases tree with
    | none => exact .absent
    | some tree => exact .present (ih tree)
  | either left right onLeft onRight =>
    cases tree with
    | left tree => exact .left (onLeft tree)
    | right tree => exact .right (onRight tree)
  | list inner ih =>
    induction tree with
    | nil => exact .nil
    | cons tree trees rest => exact .cons (ih tree) rest

theorem evaluatedOne {shape : Shape κ ν α} {value : α} (evaluated : shape.Evaluated value)
    {tree other : shape.Tree} (first : shape.Holds value tree) (second : shape.Holds value other) :
    tree = other := by
  induction shape with
  | payload same duplicate => exact first.symm.trans second
  | attempt inner ih =>
    obtain ⟨outcome, found, further⟩ := evaluated
    rw [← Try.keptEvaluated found] at first second
    cases holdsKept value first with
    | value held =>
      cases holdsKept value second with
      | value reached => exact congrArg Except.ok (ih (further _ rfl) held reached)
    | failure capture =>
      cases holdsKept value second
      rfl
  | optional inner ih =>
    cases first with
    | absent =>
      cases second
      rfl
    | present held =>
      cases second with
      | present reached => exact congrArg some (ih (evaluated _ rfl) held reached)
  | either left right onLeft onRight =>
    cases first with
    | left held =>
      cases second with
      | left reached => exact congrArg Either.left (onLeft evaluated held reached)
    | right held =>
      cases second with
      | right reached => exact congrArg Either.right (onRight evaluated held reached)
  | list inner ih =>
    induction first generalizing other with
    | nil =>
      cases second
      rfl
    | cons held rest ihRest =>
      cases second with
      | cons reached others =>
        have same := ih (evaluated _ List.mem_cons_self) held reached
        have sameRest :=
          ihRest (fun item member => evaluated item (List.mem_cons_of_mem _ member)) others
        rw [same, sameRest]

end Shape

end OutcomeAlgebra
