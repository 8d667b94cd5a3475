import Mathlib.Data.List.Basic
import OutcomeAlgebra.Algebra.Scalar
import OutcomeAlgebra.Outcome.InPlace
import OutcomeAlgebra.Proofs.Algebra.Cloning
import OutcomeAlgebra.Proofs.Algebra.Reading
/-! Joining in one pass. Strings and lists have a `join` of their own, which is not seen where
they are used through a reference, with an identity given to them, or as a component of a
composed monoid. There the fold takes its place, and what comes of it is the same. -/
namespace OutcomeAlgebra

variable {m : Type → Type} [Monad m] {κ ν α γ δ : Type}

namespace MonoidOp

def Folds (monoid : MonoidOp m α) : Prop :=
  monoid.join = foldJoin monoid.toSemigroupOp monoid.empty

/- An identity that was made once, and is copied whenever it is wanted. -/
def withIdentity (op : SemigroupOp m α) (copy : Copying m α) (identity : α) : MonoidOp m α :=
  .of op (Prod.fst <$> copy identity)

inductive Component (part : MonoidOp m α) : {γ : Type} → MonoidOp m γ → (γ → α) → Prop where
  | whole : Component part part id
  | first {γ δ : Type} {monoid : MonoidOp m γ} {read : γ → α}
      (inside : Component part monoid read) (other : MonoidOp m δ) :
      Component part (monoid.compose other) fun value => read value.1
  | second {γ δ : Type} {monoid : MonoidOp m γ} {read : γ → α}
      (inside : Component part monoid read) (other : MonoidOp m δ) :
      Component part (other.compose monoid) fun value => read value.2

end MonoidOp

theorem composeFolds (first : MonoidOp m γ) (second : MonoidOp m δ) :
    (first.compose second).Folds := rfl

variable [LawfulMonad m]

theorem foldJoinPure (f : α → α → α) (identity : α) (values : List α) :
    MonoidOp.foldJoin ⟨fun a b => pure (f a b)⟩ (pure identity) values =
      (pure (values.foldl f identity) : m α) := by
  rw [MonoidOp.foldJoin, pure_bind, List.foldlM_pure]

theorem foldlFlatten (values : List (List α)) :
    values.foldl (fun front back => front ++ back) [] = values.flatten := by
  simpa using @List.foldl_append_eq_append _ _ values id []

section Components

variable {f : α → α → α} {identity : α} {monoid : MonoidOp m γ} {read : γ → α}

structure MonoidOp.Reads (monoid : MonoidOp m γ) (read : γ → α) (f : α → α → α) (identity : α) :
    Prop where
  append : ∀ a b, Verdict.certain.comes (monoid.append a b) fun c => read c = f (read a) (read b)
  empty : Verdict.certain.comes monoid.empty fun value => read value = identity
  folds : monoid.Folds

theorem certainAnything (act : m γ) : Verdict.certain.comes act fun _ => True :=
  fun _ _ _ same => bind_congr fun value => same value trivial

theorem certainFirst {left : m γ} {holds : γ → Prop} (certain : Verdict.certain.comes left holds)
    (right : m δ) :
    Verdict.certain.comes (left >>= fun a => right >>= fun b => pure (a, b)) fun pair =>
      holds pair.1 := by
  refine Verdict.certain.ofBind certain fun _ held => ?_
  exact Verdict.certain.ofBind (certainAnything right) fun _ _ => Verdict.certain.ofPure held

theorem certainSecond {right : m δ} {holds : δ → Prop} (left : m γ)
    (certain : Verdict.certain.comes right holds) :
    Verdict.certain.comes (left >>= fun a => right >>= fun b => pure (a, b)) fun pair =>
      holds pair.2 := by
  refine Verdict.certain.ofBind (certainAnything left) fun _ _ => ?_
  exact Verdict.certain.ofBind certain fun _ held => Verdict.certain.ofPure held

theorem foldReadsCertain (reads : monoid.Reads read f identity) (values : List γ) (start : γ) :
    Verdict.certain.comes (values.foldlM monoid.append start) fun result =>
      read result = (values.map read).foldl f (read start) := by
  induction values generalizing start with
  | nil => exact Verdict.certain.ofPure rfl
  | cons value rest ih =>
    rw [List.foldlM_cons, List.map_cons, List.foldl_cons]
    refine Verdict.certain.ofBind (reads.append start value) fun combined held => ?_
    rw [← held]
    exact ih combined

theorem joinReadsCertain (reads : monoid.Reads read f identity) (values : List γ) :
    Verdict.certain.comes (monoid.join values) fun result =>
      read result = (values.map read).foldl f identity := by
  rw [reads.folds]
  refine Verdict.certain.ofBind reads.empty fun start held => ?_
  rw [← held]
  exact foldReadsCertain reads values start

theorem componentReads {part : MonoidOp m α} {whole : MonoidOp m γ}
    (component : part.Component whole read) (reads : part.Reads id f identity) :
    whole.Reads read f identity := by
  induction component with
  | whole => exact reads
  | @first γ δ monoid read inside other ih =>
    exact ⟨fun a b => certainFirst (ih.append a.1 b.1) (other.append a.2 b.2),
      certainFirst ih.empty other.empty, composeFolds monoid other⟩
  | @second γ δ monoid read inside other ih =>
    exact ⟨fun a b => certainSecond (other.append a.1 b.1) (ih.append a.2 b.2),
      certainSecond other.empty ih.empty, composeFolds other monoid⟩

end Components

/- The `join` is the fold, and it makes no difference which of the two is used. -/
structure MonoidOp.Flattens (monoid : MonoidOp m α) (identity : α) (joined : List α → α) :
    Prop where
  empty : monoid.empty = pure identity
  direct : ∀ values, monoid.join values = pure (joined values)
  folds : ∀ values, monoid.join values = foldJoin monoid.toSemigroupOp monoid.empty values
  referred : ∀ values, monoid.byReference.join values = monoid.join values
  given : ∀ {copy : Copying m α} {effect : m Unit}, copy.Clones identity effect → ∀ values,
    (withIdentity monoid.toSemigroupOp copy identity).join values =
      effect >>= fun _ => monoid.join values
  inside : ∀ {γ : Type} {whole : MonoidOp m γ} {read : γ → α}, monoid.Component whole read →
    ∀ values, read <$> whole.join values =
      (fun _ => joined (values.map read)) <$> whole.join values

theorem flattens {f : α → α → α} {identity : α} {joined : List α → α}
    (comes : ∀ values, values.foldl f identity = joined values) :
    ({ MonoidOp.ofFunction f identity with join := fun values => pure (joined values) } :
      MonoidOp m α).Flattens identity joined := by
  let monoid : MonoidOp m α :=
    { MonoidOp.ofFunction f identity with join := fun values => pure (joined values) }
  have folds : monoid.Folds := by
    funext values
    have folded := foldJoinPure (m := m) f identity values
    rw [comes] at folded
    exact folded.symm
  have reads : monoid.Reads id f identity :=
    ⟨fun _ _ => Verdict.certain.ofPure rfl, Verdict.certain.ofPure rfl, folds⟩
  constructor
  case empty => rfl
  case direct => exact fun _ => rfl
  case folds => exact fun values => congrFun folds values
  case referred => exact fun values => (congrFun folds values).symm
  case given =>
    intro copy effect clones values
    have copied : Prod.fst <$> copy identity = effect >>= fun _ => monoid.empty := by
      rw [show copy identity = effect >>= fun _ => pure (identity, identity) from clones, map_bind]
      exact bind_congr fun _ => map_pure _ _
    have folded : (MonoidOp.withIdentity monoid.toSemigroupOp copy identity).join values =
        Prod.fst <$> copy identity >>= values.foldlM monoid.append := rfl
    rw [folded, copied, bind_assoc]
    exact bind_congr fun _ => (congrFun folds values).symm
  case inside =>
    intro γ whole read component values
    rw [map_eq_pure_bind, map_eq_pure_bind]
    refine joinReadsCertain (componentReads component reads) values _ _ _ fun value held => ?_
    rw [held, comes]

theorem emptyClones (payload : Borrow κ ν α α) :
    Copying.Clones (Borrow.keep (Items.copy payload)) [] (pure ()) := rfl

theorem stringFlattens : (MonoidOp.string : MonoidOp m String).Flattens "" String.join :=
  flattens fun _ => rfl

theorem listFlattens : (MonoidOp.list : MonoidOp m (List α)).Flattens [] List.flatten :=
  flattens foldlFlatten

theorem joinsFlatten :
    (∀ (m : Type → Type) [Monad m] [LawfulMonad m],
      (MonoidOp.string : MonoidOp m String).Flattens "" String.join ∧
      ∀ α : Type, (MonoidOp.list : MonoidOp m (List α)).Flattens [] List.flatten) ∧
    (∀ values, (String.join values).toList = values.flatMap String.toList) ∧
    ∀ {κ ν α : Type} (payload : Borrow κ ν α α),
      Copying.Clones (Borrow.keep (Items.copy payload)) [] (pure ()) :=
  ⟨fun _ _ _ => ⟨stringFlattens, fun _ => listFlattens⟩, fun _ => String.toList_join, emptyClones⟩

theorem nestedFlattened :
    let noted : MonoidOp (Act Unit String) Nat := .of ⟨fun a b => do
      Act.note "combined"
      pure (a + b)⟩ (pure 0)
    let whole := noted.compose (MonoidOp.string.compose (.list : MonoidOp _ (List Bool)))
    let values := [(1, "a", [true]), (2, "", []), (3, "bc", [false, true])]
    LawfulMonad (Act Unit String) ∧
      MonoidOp.Component .string whole (fun value => value.2.1) ∧
      (fun value => value.2.1) <$> whole.join values = (fun _ => "abc") <$> whole.join values := by
  intro noted whole values
  have component : MonoidOp.Component .string whole (fun value => value.2.1) :=
    .second (.first .whole .list) noted
  exact ⟨inferInstance, component, (joinsFlatten.1 (Act Unit String)).1.inside component values⟩

end OutcomeAlgebra
