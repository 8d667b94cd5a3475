import Mathlib.Data.List.ReduceOption
import OutcomeAlgebra.Proofs.Algebra.Calling
import OutcomeAlgebra.Proofs.Algebra.Instances
/-! Joining optional values. Absent ones are skipped wherever they stand, and the present ones
are combined in their order, the first of them with no identity in front of it. Taking the
first, or the last, of them is combining them with an operation that keeps one side. -/
namespace OutcomeAlgebra

variable {κ ν μ α : Type} {m : Type → Type}

structure MonoidOp.JoinsPresent (monoid : MonoidOp m (Option α)) (combine : List α → m (Option α)) :
    Prop where
  join : ∀ values, monoid.join values = combine values.reduceOption
  skips : ∀ front count back,
    monoid.join (front ++ List.replicate count none ++ back) = monoid.join (front ++ back)

theorem joinsPresent {monoid : MonoidOp m (Option α)} {combine : List α → m (Option α)}
    (join : ∀ values, monoid.join values = combine values.reduceOption) :
    monoid.JoinsPresent combine where
  join := join
  skips front count back := by
    have same : (front ++ List.replicate count none ++ back).reduceOption =
        (front ++ back).reduceOption := by simp [List.reduceOption_append]
    rw [join, join, same]

variable [Monad m]

namespace SemigroupOp

def total (op : SemigroupOp m α) : List α → m (Option α)
  | [] => pure none
  | first :: others => some <$> op.sumNonEmpty first others

def keepFirst : SemigroupOp m α := ⟨fun a _ => pure a⟩

def keepLast : SemigroupOp m α := ⟨fun _ b => pure b⟩

end SemigroupOp

variable [LawfulMonad m]

theorem firstSomeOptional :
    MonoidOp.firstSome = MonoidOp.optional (.keepFirst : SemigroupOp m α) := by
  have same : (SemigroupOp.firstSome : SemigroupOp m (Option α)) = .optional .keepFirst := by
    refine congrArg SemigroupOp.mk (funext fun a => funext fun b => ?_)
    cases a <;> cases b <;> simp [SemigroupOp.keepFirst]
  rw [MonoidOp.firstSome, MonoidOp.optional, same]

theorem lastSomeOptional :
    MonoidOp.lastSome = MonoidOp.optional (.keepLast : SemigroupOp m α) := by
  have same : (SemigroupOp.lastSome : SemigroupOp m (Option α)) = .optional .keepLast := by
    refine congrArg SemigroupOp.mk (funext fun a => funext fun b => ?_)
    cases a <;> cases b <;> simp [SemigroupOp.keepLast]
  rw [MonoidOp.lastSome, MonoidOp.optional, same]

section Folds

variable (op : SemigroupOp m α)

theorem someFold (start : α) (values : List (Option α)) :
    values.foldlM op.optional.append (some start) =
      some <$> op.sumNonEmpty start values.reduceOption := by
  induction values generalizing start with
  | nil => exact (map_pure some start).symm
  | cons value rest ih =>
    cases value with
    | none => rw [List.foldlM_cons, optionalNone, pure_bind, ih, List.reduceOption_cons_of_none]
    | some value =>
      have combined : op.optional.append (some start) (some value) =
          some <$> op.append start value := rfl
      rw [List.foldlM_cons, combined, bind_map_left, List.reduceOption_cons_of_some,
        SemigroupOp.sumNonEmpty, List.foldlM_cons, map_bind]
      simp only [ih, SemigroupOp.sumNonEmpty]

theorem noneFold (values : List (Option α)) :
    values.foldlM op.optional.append none = op.total values.reduceOption := by
  induction values with
  | nil => rfl
  | cons value rest ih =>
    rw [List.foldlM_cons, noneOptional, pure_bind]
    cases value with
    | none => rw [ih, List.reduceOption_cons_of_none]
    | some value =>
      rw [someFold, List.reduceOption_cons_of_some]
      rfl

theorem optionalJoin : (MonoidOp.optional op).JoinsPresent op.total := by
  refine joinsPresent fun values => ?_
  have folded : (MonoidOp.optional op).join values =
      pure none >>= values.foldlM op.optional.append := rfl
  rw [folded, pure_bind, noneFold]

end Folds

theorem totalFirst (values : List α) :
    (.keepFirst : SemigroupOp m α).total values = pure values.head? := by
  cases values with
  | nil => rfl
  | cons first others =>
    have kept : (.keepFirst : SemigroupOp m α).sumNonEmpty first others = pure first := by
      rw [SemigroupOp.sumNonEmpty, SemigroupOp.keepFirst, List.foldlM_pure, List.foldl_fixed]
    rw [SemigroupOp.total, kept, map_pure, List.head?_cons]

theorem totalLast (values : List α) :
    (.keepLast : SemigroupOp m α).total values = pure values.getLast? := by
  cases values with
  | nil => rfl
  | cons first others =>
    have kept : (.keepLast : SemigroupOp m α).sumNonEmpty first others =
        pure (others.getLastD first) := by
      induction others generalizing first with
      | nil => rfl
      | cons second others ih =>
        have passed : (.keepLast : SemigroupOp m α).append first second = pure second := rfl
        rw [SemigroupOp.sumNonEmpty, List.foldlM_cons, passed, pure_bind, List.getLastD_cons]
        exact ih second
    rw [SemigroupOp.total, kept, map_pure, List.getLast?_cons, List.getLastD_eq_getLast?]

theorem firstSomeJoin :
    (MonoidOp.firstSome : MonoidOp m (Option α)).JoinsPresent fun values => pure values.head? := by
  rw [firstSomeOptional, ← funext totalFirst]
  exact optionalJoin .keepFirst

theorem lastSomeJoin :
    (MonoidOp.lastSome : MonoidOp m (Option α)).JoinsPresent
      fun values => pure values.getLast? := by
  rw [lastSomeOptional, ← funext totalLast]
  exact optionalJoin .keepLast

section Runs

theorem totalNone (op : SemigroupOp (Act κ ν) α) (values : List α) (context : κ) (next : Nat) :
    ((op.total values).run context next).ending = .ok none ↔ values = [] := by
  cases values with
  | nil => exact ⟨fun _ => rfl, fun _ => rfl⟩
  | cons first others =>
    rw [SemigroupOp.total, Act.runMap]
    exact ⟨fun ended => absurd ended (Report.mapSomeAnswers _), nofun⟩

def MonoidOp.AbsentOnly (monoid : MonoidOp (Act κ ν) (Option α)) : Prop :=
  ∀ values context next, ((monoid.join values).run context next).ending = .ok none ↔
    ∀ value ∈ values, value = none

theorem optionalAbsent (op : SemigroupOp (Act κ ν) α) : (MonoidOp.optional op).AbsentOnly := by
  intro values context next
  rw [(optionalJoin op).join, totalNone]
  exact List.filterMap_eq_nil_iff

theorem totalCalls (name : μ) (op : SemigroupOp (Act κ ν) α) (values : List α) :
    ((op.named name).total values).Calls (List.replicate values.tail.length name) := by
  cases values with
  | nil => exact Act.callsPure none
  | cons first others => exact (foldCalls name op others first).map some

end Runs

structure PresentJoined (m : Type → Type) [Monad m] (α : Type) : Prop where
  optional : ∀ inner : SemigroupOp m α, (MonoidOp.optional inner).JoinsPresent inner.total
  firstSome : (MonoidOp.firstSome : MonoidOp m (Option α)).JoinsPresent
    fun values => pure values.head?
  lastSome : (MonoidOp.lastSome : MonoidOp m (Option α)).JoinsPresent
    fun values => pure values.getLast?
  keepFirst : MonoidOp.firstSome = MonoidOp.optional (.keepFirst : SemigroupOp m α)
  keepLast : MonoidOp.lastSome = MonoidOp.optional (.keepLast : SemigroupOp m α)

structure AbsentJoined (κ ν μ α : Type) : Prop where
  optional : ∀ inner : SemigroupOp (Act κ ν) α, (MonoidOp.optional inner).AbsentOnly
  firstSome : (MonoidOp.firstSome : MonoidOp (Act κ ν) (Option α)).AbsentOnly
  lastSome : (MonoidOp.lastSome : MonoidOp (Act κ ν) (Option α)).AbsentOnly
  calls : ∀ (name : μ) (inner : SemigroupOp (Act κ ν) α) values,
    ((MonoidOp.optional (inner.named name)).join values).Calls
      (List.replicate values.reduceOption.tail.length name)

theorem presentJoined (m : Type → Type) [Monad m] [LawfulMonad m] (α : Type) :
    PresentJoined m α where
  optional := optionalJoin
  firstSome := firstSomeJoin
  lastSome := lastSomeJoin
  keepFirst := firstSomeOptional
  keepLast := lastSomeOptional

theorem absentJoined (κ ν μ α : Type) : AbsentJoined κ ν μ α where
  optional := optionalAbsent
  firstSome := by
    rw [firstSomeOptional]
    exact optionalAbsent .keepFirst
  lastSome := by
    rw [lastSomeOptional]
    exact optionalAbsent .keepLast
  calls name inner values := by
    rw [(optionalJoin (inner.named name)).join]
    exact totalCalls name inner values.reduceOption

theorem optionsJoined :
    (∀ (m : Type → Type) [Monad m] [LawfulMonad m] (α : Type), PresentJoined m α) ∧
    ∀ κ ν μ α : Type, AbsentJoined κ ν μ α :=
  ⟨presentJoined, absentJoined⟩

theorem differencesJoined :
    let op : SemigroupOp (Act Unit Unit) Int := ⟨fun a b => pure (a - b)⟩
    let values := [none, some 9, none, none, some 4, some 3, none]
    LawfulMonad (Act Unit Unit) ∧ (MonoidOp.optional op).join values = pure (some 2) := by
  intro op values
  have joined := ((optionsJoined.1 (Act Unit Unit) Int).optional op).join values
  exact ⟨inferInstance, joined.trans rfl⟩

end OutcomeAlgebra
