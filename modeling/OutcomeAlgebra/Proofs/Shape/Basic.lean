import OutcomeAlgebra.Outcome.InPlace
import OutcomeAlgebra.Proofs.Try.Keeping
/-! Types of nested payloads, and the trees of their outcomes. A value that is not evaluated
throughout holds every tree that it may still come to; evaluated throughout it holds one.
Two trees are the same by the equality of the payloads in them. -/
namespace OutcomeAlgebra

variable {κ ν α β L R : Type}

inductive Shape (κ ν : Type) : Type → Type 1 where
  | payload {α : Type} (same : α → α → Bool) (duplicate : α → α) : Shape κ ν α
  | attempt {α : Type} (inner : Shape κ ν α) : Shape κ ν (Try κ ν α)
  | optional {α : Type} (inner : Shape κ ν α) : Shape κ ν (Option α)
  | either {L R : Type} (left : Shape κ ν L) (right : Shape κ ν R) : Shape κ ν (Either L R)
  | list {α : Type} (inner : Shape κ ν α) : Shape κ ν (List α)

namespace Shape

def equal {α : Type} : Shape κ ν α → α → α → Act κ ν (Except Panic Bool × α × α)
  | .payload same _ => fun a b => pure (.ok (same a b), a, b)
  | .attempt inner => Try.equal inner.equal
  | .optional inner => Optional.equal inner.equal
  | .either left right => Either.equal left.equal right.equal
  | .list inner => Items.equal inner.equal

def equalSelf {α : Type} : Shape κ ν α → Borrow κ ν α Bool
  | .payload same _ => fun value => pure (.ok (same value value), value)
  | .attempt inner => Try.equalSelf inner.equalSelf
  | .optional inner => Optional.equalSelf inner.equalSelf
  | .either left right => Either.equalSelf left.equalSelf right.equalSelf
  | .list inner => Items.equalSelf inner.equalSelf

def copy {α : Type} : Shape κ ν α → Borrow κ ν α α
  | .payload _ duplicate => fun value => pure (.ok (duplicate value), value)
  | .attempt inner => Try.copy inner.copy
  | .optional inner => Optional.copy inner.copy
  | .either left right => Either.copy left.copy right.copy
  | .list inner => Items.copy inner.copy

/- What a value comes to once everything in it is evaluated. -/
def Tree {α : Type} : Shape κ ν α → Type
  | .payload (α := α) _ _ => α
  | .attempt inner => Except Capture inner.Tree
  | .optional inner => Option inner.Tree
  | .either left right => Either left.Tree right.Tree
  | .list inner => List inner.Tree

def eager {α : Type} : (shape : Shape κ ν α) → shape.Tree → α
  | .payload _ _ => fun value => value
  | .attempt inner => fun
    | .ok tree => .success (inner.eager tree)
    | .error capture => .failure capture
  | .optional inner => fun tree => tree.map inner.eager
  | .either left right => fun
    | .left tree => .left (left.eager tree)
    | .right tree => .right (right.eager tree)
  | .list inner => fun trees => trees.map inner.eager

def duplicate {α : Type} : (shape : Shape κ ν α) → shape.Tree → shape.Tree
  | .payload _ duplicate => duplicate
  | .attempt inner => fun
    | .ok tree => .ok (inner.duplicate tree)
    | .error capture => .error capture
  | .optional inner => fun tree => tree.map inner.duplicate
  | .either left right => fun
    | .left tree => .left (left.duplicate tree)
    | .right tree => .right (right.duplicate tree)
  | .list inner => fun trees => trees.map inner.duplicate

section Same

variable {τ σ : Type}

def sameOutcome (same : τ → τ → Bool) : Except Capture τ → Except Capture τ → Bool
  | .ok a, .ok b => same a b
  | .error a, .error b => a.same b
  | _, _ => false

def sameOption (same : τ → τ → Bool) : Option τ → Option τ → Bool
  | some a, some b => same a b
  | none, none => true
  | _, _ => false

def sameEither (left : τ → τ → Bool) (right : σ → σ → Bool) : Either τ σ → Either τ σ → Bool
  | .left a, .left b => left a b
  | .right a, .right b => right a b
  | _, _ => false

def sameItems (same : τ → τ → Bool) : List τ → List τ → Bool
  | a :: as, b :: bs => same a b && sameItems same as bs
  | [], [] => true
  | _, _ => false

def Equates (same : τ → τ → Bool) : Prop := Equivalence fun a b => same a b = true

theorem captureEquates : Equates Capture.same where
  refl _ := beq_self_eq_true _
  symm same := by
    unfold Capture.same at same ⊢
    rw [beq_iff_eq] at same ⊢
    exact same.symm
  trans first second := by
    unfold Capture.same at first second ⊢
    rw [beq_iff_eq] at first second ⊢
    exact first.trans second

theorem Equates.outcome {same : τ → τ → Bool} (inner : Equates same) :
    Equates (sameOutcome same) where
  refl
    | .ok a => inner.refl a
    | .error a => captureEquates.refl a
  symm {a b} same :=
    match a, b, same with
    | .ok _, .ok _, same => inner.symm same
    | .error _, .error _, same => captureEquates.symm same
  trans {a b c} first second :=
    match a, b, c, first, second with
    | .ok _, .ok _, .ok _, first, second => inner.trans first second
    | .error _, .error _, .error _, first, second => captureEquates.trans first second

theorem Equates.option {same : τ → τ → Bool} (inner : Equates same) :
    Equates (sameOption same) where
  refl
    | some a => inner.refl a
    | none => rfl
  symm {a b} same :=
    match a, b, same with
    | some _, some _, same => inner.symm same
    | none, none, _ => rfl
  trans {a b c} first second :=
    match a, b, c, first, second with
    | some _, some _, some _, first, second => inner.trans first second
    | none, none, none, _, _ => rfl

theorem Equates.either {left : τ → τ → Bool} {right : σ → σ → Bool} (onLeft : Equates left)
    (onRight : Equates right) : Equates (sameEither left right) where
  refl
    | .left a => onLeft.refl a
    | .right a => onRight.refl a
  symm {a b} same :=
    match a, b, same with
    | .left _, .left _, same => onLeft.symm same
    | .right _, .right _, same => onRight.symm same
  trans {a b c} first second :=
    match a, b, c, first, second with
    | .left _, .left _, .left _, first, second => onLeft.trans first second
    | .right _, .right _, .right _, first, second => onRight.trans first second

theorem Equates.items {same : τ → τ → Bool} (inner : Equates same) :
    Equates (sameItems same) where
  refl items := by
    induction items with
    | nil => rfl
    | cons a as ih => exact Bool.and_eq_true_iff.mpr ⟨inner.refl a, ih⟩
  symm {as bs} same := by
    induction as generalizing bs with
    | nil =>
      cases bs with
      | nil => rfl
      | cons b bs => cases same
    | cons a as ih =>
      cases bs with
      | nil => cases same
      | cons b bs =>
        obtain ⟨first, rest⟩ := Bool.and_eq_true_iff.mp same
        exact Bool.and_eq_true_iff.mpr ⟨inner.symm first, ih rest⟩
  trans {as bs cs} before after := by
    induction as generalizing bs cs with
    | nil =>
      cases bs with
      | nil => exact after
      | cons b bs => cases before
    | cons a as ih =>
      cases bs with
      | nil => cases before
      | cons b bs =>
        cases cs with
        | nil => cases after
        | cons c cs =>
          obtain ⟨first, rest⟩ := Bool.and_eq_true_iff.mp before
          obtain ⟨second, further⟩ := Bool.and_eq_true_iff.mp after
          exact Bool.and_eq_true_iff.mpr ⟨inner.trans first second, ih rest further⟩

end Same

def same {α : Type} : (shape : Shape κ ν α) → shape.Tree → shape.Tree → Bool
  | .payload same _ => same
  | .attempt inner => sameOutcome inner.same
  | .optional inner => sameOption inner.same
  | .either left right => sameEither left.same right.same
  | .list inner => sameItems inner.same

def Lawful {α : Type} : Shape κ ν α → Prop
  | .payload same _ => Equates same
  | .attempt inner => inner.Lawful
  | .optional inner => inner.Lawful
  | .either left right => left.Lawful ∧ right.Lawful
  | .list inner => inner.Lawful

def Faithful {α : Type} : Shape κ ν α → Prop
  | .payload same duplicate => ∀ value, same value (duplicate value) = true
  | .attempt inner => inner.Faithful
  | .optional inner => inner.Faithful
  | .either left right => left.Faithful ∧ right.Faithful
  | .list inner => inner.Faithful

theorem sameEquates {shape : Shape κ ν α} (lawful : shape.Lawful) : Equates shape.same := by
  induction shape with
  | payload same duplicate => exact lawful
  | attempt inner ih => exact (ih lawful).outcome
  | optional inner ih => exact (ih lawful).option
  | either left right onLeft onRight => exact (onLeft lawful.1).either (onRight lawful.2)
  | list inner ih => exact (ih lawful).items

theorem duplicateSame {shape : Shape κ ν α} (faithful : shape.Faithful) (tree : shape.Tree) :
    shape.same tree (shape.duplicate tree) = true := by
  induction shape with
  | payload same duplicate => exact faithful tree
  | attempt inner ih =>
    cases tree with
    | ok tree => exact ih faithful tree
    | error capture => exact captureEquates.refl capture
  | optional inner ih =>
    cases tree with
    | some tree => exact ih faithful tree
    | none => rfl
  | either left right onLeft onRight =>
    cases tree with
    | left tree => exact onLeft faithful.1 tree
    | right tree => exact onRight faithful.2 tree
  | list inner ih =>
    induction tree with
    | nil => rfl
    | cons tree trees rest => exact Bool.and_eq_true_iff.mpr ⟨ih faithful tree, rest⟩

end Shape

end OutcomeAlgebra
