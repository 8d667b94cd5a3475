import OutcomeAlgebra.Proofs.Algebra.Instances
/-! The instances of the library, nested in any way. A rule asks of the caller what
the library leaves to the caller: that an order is total, that a function of the
caller's is associative, that a value is an identity, that a copy is faithful. A
semigroup used through a reference is the same operation and has no rule of its own. -/
namespace OutcomeAlgebra

mutual

inductive SemigroupInstance (m : Type → Type) [Monad m] :
    {α : Type} → Comparison α → SemigroupOp m α → Prop where
  | greatest {α : Type} {le : α → α → Bool} (order : TotalPreorder le) :
      SemigroupInstance m (.plain α) (.greatest fun a b => !le b a)
  | least {α : Type} {le : α → α → Bool} (order : TotalPreorder le) :
      SemigroupInstance m (.plain α) (.least fun a b => !le b a)
  | given {α : Type} {comparison : Comparison α} {append : α → α → m α}
      (promised : LawfulSemigroup comparison ⟨append⟩) : SemigroupInstance m comparison ⟨append⟩
  | pair {α β : Type} {first : Comparison α} {second : Comparison β} {firstOp : SemigroupOp m α}
      {secondOp : SemigroupOp m β} (left : SemigroupInstance m first firstOp)
      (right : SemigroupInstance m second secondOp) :
      SemigroupInstance m (first.pair second) (firstOp.pair secondOp)
  | accumulate {α β : Type} {first : Comparison α} {second : Comparison β}
      {firstOp : SemigroupOp m α} {secondOp : SemigroupOp m β}
      (left : SemigroupInstance m first firstOp) (right : SemigroupInstance m second secondOp) :
      SemigroupInstance m (first.either second) (firstOp.accumulate secondOp)
  | pointwise {χ β : Type} {argument : Comparison χ} {result : Comparison β}
      {op : SemigroupOp m β} {copy : Copying m χ} (faithful : CopiesFaithfully argument copy)
      (inner : SemigroupInstance m result op) :
      SemigroupInstance m (.function m argument result) (op.pointwise copy)
  | ofMonoid {α : Type} {comparison : Comparison α} {monoid : MonoidOp m α}
      (inner : MonoidInstance m comparison monoid) :
      SemigroupInstance m comparison monoid.toSemigroupOp

inductive MonoidInstance (m : Type → Type) [Monad m] :
    {α : Type} → Comparison α → MonoidOp m α → Prop where
  | wordSum (width : Nat) : MonoidInstance m (.plain (BitVec width)) (.wordSum width)
  | wordProduct (width : Nat) : MonoidInstance m (.plain (BitVec width)) (.wordProduct width)
  | integerSum : MonoidInstance m (.plain Int) .integerSum
  | integerProduct : MonoidInstance m (.plain Int) .integerProduct
  | all : MonoidInstance m (.plain Bool) .all
  | any : MonoidInstance m (.plain Bool) .any
  | odd : MonoidInstance m (.plain Bool) .odd
  | string : MonoidInstance m (.plain String) .string
  | list (α : Type) : MonoidInstance m (.plain (List α)) .list
  | unit : MonoidInstance m (.plain Unit) .unit
  | firstSome {α : Type} (inner : Comparison α) : MonoidInstance m inner.option .firstSome
  | lastSome {α : Type} (inner : Comparison α) : MonoidInstance m inner.option .lastSome
  | composition {α : Type} (inner : Comparison α) :
      MonoidInstance m (.function m inner inner) .composition
  | chaining (α : Type) : MonoidInstance m (.iter m α) Iter.chaining
  | optional {α : Type} {inner : Comparison α} {op : SemigroupOp m α}
      (part : SemigroupInstance m inner op) : MonoidInstance m inner.option (.optional op)
  | accumulate {α β : Type} {first : Comparison α} {second : Comparison β}
      {op : SemigroupOp m α} {monoid : MonoidOp m β} (left : SemigroupInstance m first op)
      (right : MonoidInstance m second monoid) :
      MonoidInstance m (first.either second) (.accumulate op monoid)
  | compose {α β : Type} {first : Comparison α} {second : Comparison β}
      {firstMonoid : MonoidOp m α} {secondMonoid : MonoidOp m β}
      (left : MonoidInstance m first firstMonoid) (right : MonoidInstance m second secondMonoid) :
      MonoidInstance m (first.pair second) (firstMonoid.compose secondMonoid)
  | pointwise {χ β : Type} {argument : Comparison χ} {result : Comparison β}
      {monoid : MonoidOp m β} {copy : Copying m χ} (faithful : CopiesFaithfully argument copy)
      (inner : MonoidInstance m result monoid) :
      MonoidInstance m (.function m argument result) (.pointwise copy monoid)
  | withIdentity {α : Type} {comparison : Comparison α} {op : SemigroupOp m α} {empty : α}
      (inner : SemigroupInstance m comparison op) (promised : IsIdentity comparison op empty) :
      MonoidInstance m comparison (.of op (pure empty))
  | byReference {α : Type} {comparison : Comparison α} {monoid : MonoidOp m α}
      (inner : MonoidInstance m comparison monoid) :
      MonoidInstance m comparison monoid.byReference

end

variable {m : Type → Type} [Monad m] [LawfulMonad m]

mutual

theorem semigroupLaw : ∀ {α : Type} {comparison : Comparison α} {op : SemigroupOp m α},
    SemigroupInstance m comparison op → LawfulSemigroup comparison op
  | _, _, _, .greatest order => lawfulGreatest order
  | _, _, _, .least order => lawfulLeast order
  | _, _, _, .given promised => promised
  | _, _, _, .pair left right => lawfulPair (semigroupLaw left) (semigroupLaw right)
  | _, _, _, .accumulate left right => lawfulAccumulate (semigroupLaw left) (semigroupLaw right)
  | _, _, _, .pointwise faithful inner => lawfulPointwise faithful (semigroupLaw inner)
  | _, _, _, .ofMonoid inner => (monoidLaw inner).semigroup

theorem monoidLaw : ∀ {α : Type} {comparison : Comparison α} {monoid : MonoidOp m α},
    MonoidInstance m comparison monoid → LawfulMonoid comparison monoid
  | _, _, _, .wordSum _ => lawfulOfFunction BitVec.add_assoc BitVec.zero_add BitVec.add_zero
  | _, _, _, .wordProduct _ => lawfulOfFunction BitVec.mul_assoc BitVec.one_mul BitVec.mul_one
  | _, _, _, .integerSum => lawfulOfFunction Int.add_assoc Int.zero_add Int.add_zero
  | _, _, _, .integerProduct => lawfulOfFunction Int.mul_assoc Int.one_mul Int.mul_one
  | _, _, _, .all => lawfulOfFunction Bool.and_assoc Bool.true_and Bool.and_true
  | _, _, _, .any => lawfulOfFunction Bool.or_assoc Bool.false_or Bool.or_false
  | _, _, _, .odd => lawfulOfFunction Bool.xor_assoc Bool.false_xor Bool.xor_false
  | _, _, _, .string => lawfulString
  | _, _, _, .list _ => lawfulList
  | _, _, _, .unit => lawfulOfFunction (fun _ _ _ => rfl) (fun _ => rfl) fun _ => rfl
  | _, _, _, .firstSome inner => lawfulFirstSome inner
  | _, _, _, .lastSome inner => lawfulLastSome inner
  | _, _, _, .composition inner => lawfulComposition inner
  | _, _, _, .chaining α => lawfulChaining m α
  | _, _, _, .optional part => lawfulOptionalMonoid (semigroupLaw part)
  | _, _, _, .accumulate left right => lawfulAccumulateMonoid (semigroupLaw left) (monoidLaw right)
  | _, _, _, .compose left right => lawfulCompose (monoidLaw left) (monoidLaw right)
  | _, _, _, .pointwise faithful inner => lawfulPointwiseMonoid faithful (monoidLaw inner)
  | _, _, _, .withIdentity inner promised => ⟨semigroupLaw inner, _, rfl, promised⟩
  | _, _, _, .byReference inner => lawfulByReference (monoidLaw inner)

end

theorem instancesLawful (m : Type → Type) [Monad m] [LawfulMonad m] :
    (∀ {α : Type} {comparison : Comparison α} {op : SemigroupOp m α},
      SemigroupInstance m comparison op → LawfulSemigroup comparison op) ∧
    (∀ {α : Type} {comparison : Comparison α} {monoid : MonoidOp m α},
      MonoidInstance m comparison monoid → LawfulMonoid comparison monoid) :=
  ⟨semigroupLaw, monoidLaw⟩

theorem nestedTiesLawful : LawfulMonad (Act Unit Unit) ∧
    LawfulMonoid (m := Act Unit Unit)
      ((Comparison.plain (Int × Int)).option.pair
        ((Comparison.plain (Int × Int)).either
          ((Comparison.plain Nat).function (Act Unit Unit) (Comparison.plain Int))))
      (.compose (.optional (.greatest fun a b => !decide (b.1 ≤ a.1)))
        (.accumulate (.least fun a b => !decide (b.1 ≤ a.1))
          (.pointwise plainCopy .integerSum))) := by
  have order : TotalPreorder fun a b : Int × Int => decide (a.1 ≤ b.1) := {
    total := fun a b => by simpa using Int.le_total a.1 b.1
    trans := fun first second => by simp at first second ⊢; omega }
  refine ⟨inferInstance, (instancesLawful (Act Unit Unit)).2 ?_⟩
  exact .compose (.optional (.greatest order))
    (.accumulate (.least order) (.pointwise (fun _ _ => rfl) .integerSum))

end OutcomeAlgebra
