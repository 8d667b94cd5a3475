import Mathlib.Algebra.Group.WithOne.Defs
import Mathlib.Data.Setoid.Basic
import Mathlib.Order.CompletePartialOrder
import OutcomeAlgebra.Proofs.Algebra.Flattening
import OutcomeAlgebra.Proofs.Algebra.Language
import OutcomeAlgebra.Proofs.Algebra.Reading
/-! Repeating and joining values with an associative operation. The values, taken up to an
equivalence, are a monoid, in which repetitions are powers and joins are products of lists;
an operation without an identity is given one there, which stands for no value. -/
namespace OutcomeAlgebra

variable {κ ν α : Type}

/- Wherever the two are run, both return, and they return the same up to the equivalence. -/
def Act.Agree (same : Setoid α) (left right : Act κ ν α) : Prop :=
  ∀ context next context' next', ∃ l r, (left.run context next).ending = .ok l ∧
    (right.run context' next').ending = .ok r ∧ same l r

/- What is combined is a function of the operands, up to the equivalence, and it does not
depend on the grouping. The operation may have any effect beside that, but a panic. -/
structure SemigroupOp.Associates (op : SemigroupOp (Act κ ν) α) (same : Setoid α)
    (f : α → α → α) : Prop where
  returns : ∀ a b, Verdict.everyRun.comes (op.append a b) fun c => same c (f a b)
  respects : ∀ {a b c d}, same a b → same c d → same (f a c) (f b d)
  associative : ∀ a b c, same (f (f a b) c) (f a (f b c))

structure MonoidOp.Unital (monoid : MonoidOp (Act κ ν) α) (same : Setoid α) (f : α → α → α)
    (identity : α) : Prop where
  associates : monoid.toSemigroupOp.Associates same f
  returns : Verdict.everyRun.comes monoid.empty fun value => same value identity
  left : ∀ a, same (f identity a) a
  right : ∀ a, same (f a identity) a
  folds : monoid.join = MonoidOp.foldJoin monoid.toSemigroupOp monoid.empty

def Copying.Faithful (copy : Copying (Act κ ν) α) (same : Setoid α) : Prop :=
  ∀ a, Verdict.everyRun.comes (copy a) fun both => same both.1 a ∧ same both.2 a

section Laws

variable (same : Setoid α)

structure SemigroupOp.Repeats (op : SemigroupOp (Act κ ν) α) (copy : Copying (Act κ ν) α) :
    Prop where
  splits : ∀ value {first second}, 0 < first → 0 < second →
    (op.appendN copy value (first + second)).Agree same do
      let left ← op.appendN copy value first
      let right ← op.appendN copy value second
      op.append left right
  nests : ∀ value {inner outer}, 0 < inner → 0 < outer →
    (op.appendN copy value (inner * outer)).Agree same do
      let once ← op.appendN copy value inner
      op.appendN copy once outer
  panics : ∀ value count context next panic,
    ((op.appendN copy value count).run context next).ending = .error panic ↔
      count = 0 ∧ panic = .emptyRepeat

structure MonoidOp.Joins (monoid : MonoidOp (Act κ ν) α) (copy : Copying (Act κ ν) α) :
    Prop where
  splits : ∀ value first second, (monoid.multiply copy value (first + second)).Agree same do
    let left ← monoid.multiply copy value first
    let right ← monoid.multiply copy value second
    monoid.append left right
  nests : ∀ value inner outer, (monoid.multiply copy value (inner * outer)).Agree same do
    let once ← monoid.multiply copy value inner
    monoid.multiply copy once outer
  returns : ∀ value count, (monoid.multiply copy value count).Ends
  copies : ∀ value count,
    (monoid.multiply copy value count).Agree same (monoid.join (List.replicate count value))
  appends : ∀ front back, (monoid.join (front ++ back)).Agree same do
    let left ← monoid.join front
    let right ← monoid.join back
    monoid.append left right
  heads : ∀ head tail, (monoid.sumNonEmpty head tail).Agree same do
    let joined ← monoid.join tail
    monoid.append head joined

structure MonoidOp.Commutes (monoid : MonoidOp (Act κ ν) α) (copy : Copying (Act κ ν) α) :
    Prop where
  permutes : ∀ {values others}, values.Perm others →
    (monoid.join values).Agree same (monoid.join others)
  distributes : ∀ a b count,
    Act.Agree same (do
      let both ← monoid.append a b
      monoid.multiply copy both count) do
        let left ← monoid.multiply copy a count
        let right ← monoid.multiply copy b count
        monoid.append left right

structure Reading {M : Type} [Monoid M] (op : SemigroupOp (Act κ ν) α)
    (copy : Copying (Act κ ν) α) (stands : α → M → Prop) : Prop where
  multiplies : op.Multiplies Verdict.everyRun stands
  keeps : copy.Keeps Verdict.everyRun stands
  total : ∀ a, ∃ x, stands a x
  separates : ∀ {a b x}, stands a x → stands b x → same a b

end Laws

variable {same : Setoid α}

section Monoids

variable {M : Type} [Monoid M] {op : SemigroupOp (Act κ ν) α} {monoid : MonoidOp (Act κ ν) α}
  {copy : Copying (Act κ ν) α} {stands : α → M → Prop}

theorem Reading.agree (reading : Reading same op copy stands) {left right : Act κ ν α} {x : M}
    (first : Verdict.everyRun.comes left fun value => stands value x)
    (second : Verdict.everyRun.comes right fun value => stands value x) :
    left.Agree same right := by
  intro context next context' next'
  obtain ⟨l, leftEnded, leftStands⟩ := first context next
  obtain ⟨r, rightEnded, rightStands⟩ := second context' next'
  exact ⟨l, r, leftEnded, rightEnded, reading.separates leftStands rightStands⟩

theorem Reading.totalList (reading : Reading same op copy stands) (values : List α) :
    ∃ ys, List.Forall₂ stands values ys := by
  induction values with
  | nil => exact ⟨[], .nil⟩
  | cons value rest ih =>
    obtain ⟨y, head⟩ := reading.total value
    obtain ⟨ys, tail⟩ := ih
    exact ⟨y :: ys, .cons head tail⟩

theorem Reading.combined (reading : Reading same op copy stands) {first second : Act κ ν α}
    {x y : M} (left : Verdict.everyRun.comes first fun value => stands value x)
    (right : Verdict.everyRun.comes second fun value => stands value y) :
    Verdict.everyRun.comes (first >>= fun a => second >>= fun b => op.append a b) fun c =>
      stands c (x * y) := by
  refine Verdict.everyRun.ofBind left fun a standsLeft => ?_
  exact Verdict.everyRun.ofBind right fun b standsRight => reading.multiplies standsLeft standsRight

theorem Reading.repeated (reading : Reading same op copy stands) {value : α} {x : M}
    (given : stands value x) {count : Nat} (positive : 0 < count) :
    Verdict.everyRun.comes (op.appendN copy value count) fun result => stands result (x ^ count) :=
  appendNReads reading.multiplies reading.keeps given positive

theorem appendNPanics {value : α} {x : M} (reading : Reading same op copy stands)
    (given : stands value x) (count : Nat) (context : κ) (next : Nat) (panic : Panic) :
    ((op.appendN copy value count).run context next).ending = .error panic ↔
      count = 0 ∧ panic = .emptyRepeat := by
  cases count with
  | zero =>
    have stopped : ((op.appendN copy value 0).run context next).ending =
        .error Panic.emptyRepeat := rfl
    simp [stopped, eq_comm]
  | succ count =>
    obtain ⟨result, returned, _⟩ := reading.repeated given count.succ_pos context next
    simp [returned]

theorem Reading.repeats (reading : Reading same op copy stands) : op.Repeats same copy where
  splits value first second front back := by
    obtain ⟨x, given⟩ := reading.total value
    refine reading.agree (reading.repeated given (Nat.add_pos_left front second)) ?_
    rw [pow_add]
    exact reading.combined (reading.repeated given front) (reading.repeated given back)
  nests value inner outer once often := by
    obtain ⟨x, given⟩ := reading.total value
    refine reading.agree (reading.repeated given (Nat.mul_pos once often)) ?_
    rw [pow_mul]
    exact Verdict.everyRun.ofBind (reading.repeated given once) fun made stood =>
      reading.repeated stood often
  panics value count context next panic := by
    obtain ⟨x, given⟩ := reading.total value
    exact appendNPanics reading given count context next panic

variable (reading : Reading same monoid.toSemigroupOp copy stands)
  (made : Verdict.everyRun.comes monoid.empty fun value => stands value 1)
  (folds : monoid.join = MonoidOp.foldJoin monoid.toSemigroupOp monoid.empty)

include reading made

theorem Reading.multiplied {value : α} {x : M} (given : stands value x) (count : Nat) :
    Verdict.everyRun.comes (monoid.multiply copy value count) fun result =>
      stands result (x ^ count) :=
  multiplyReads reading.multiplies reading.keeps made given count

include folds

theorem Reading.joined {values : List α} {ys : List M} (all : List.Forall₂ stands values ys) :
    Verdict.everyRun.comes (monoid.join values) fun result => stands result ys.prod := by
  rw [folds]
  exact joinReads reading.multiplies made all

theorem Reading.joins : monoid.Joins same copy where
  splits value first second := by
    obtain ⟨x, given⟩ := reading.total value
    refine reading.agree (reading.multiplied made given (first + second)) ?_
    rw [pow_add]
    exact reading.combined (reading.multiplied made given first)
      (reading.multiplied made given second)
  nests value inner outer := by
    obtain ⟨x, given⟩ := reading.total value
    refine reading.agree (reading.multiplied made given (inner * outer)) ?_
    rw [pow_mul]
    exact Verdict.everyRun.ofBind (reading.multiplied made given inner)
      fun once stood => reading.multiplied made stood outer
  returns value count context next := by
    obtain ⟨x, given⟩ := reading.total value
    obtain ⟨result, returned, _⟩ := reading.multiplied made given count context next
    exact ⟨result, returned⟩
  copies value count := by
    obtain ⟨x, given⟩ := reading.total value
    have all : List.Forall₂ stands (List.replicate count value) (List.replicate count x) := by
      induction count with
      | zero => exact .nil
      | succ count ih => exact .cons given ih
    have joined := reading.joined made folds all
    rw [List.prod_replicate] at joined
    exact reading.agree (reading.multiplied made given count) joined
  appends front back := by
    obtain ⟨xs, first⟩ := reading.totalList front
    obtain ⟨ys, second⟩ := reading.totalList back
    refine reading.agree (reading.joined made folds (List.rel_append first second)) ?_
    rw [List.prod_append]
    exact reading.combined (reading.joined made folds first) (reading.joined made folds second)
  heads head tail := by
    obtain ⟨x, first⟩ := reading.total head
    obtain ⟨ys, rest⟩ := reading.totalList tail
    refine reading.agree (foldReads reading.multiplies first rest) ?_
    exact Verdict.everyRun.ofBind (reading.joined made folds rest)
      fun joined stood => reading.multiplies first stood

end Monoids

theorem Reading.commutes {M : Type} [CommMonoid M] {monoid : MonoidOp (Act κ ν) α}
    {copy : Copying (Act κ ν) α} {stands : α → M → Prop}
    (reading : Reading same monoid.toSemigroupOp copy stands)
    (made : Verdict.everyRun.comes monoid.empty fun value => stands value 1)
    (folds : monoid.join = MonoidOp.foldJoin monoid.toSemigroupOp monoid.empty) :
    monoid.Commutes same copy where
  permutes {values others} perm := by
    obtain ⟨ys, all⟩ := reading.totalList others
    obtain ⟨xs, first, permuted⟩ := List.perm_comp_forall₂ perm all
    have joined := reading.joined made folds first
    rw [permuted.prod_eq] at joined
    exact reading.agree joined (reading.joined made folds all)
  distributes a b count := by
    obtain ⟨x, first⟩ := reading.total a
    obtain ⟨y, second⟩ := reading.total b
    refine reading.agree (x := (x * y) ^ count) ?_ ?_
    · exact Verdict.everyRun.ofBind (reading.multiplies first second)
        fun both stood => reading.multiplied made stood count
    · rw [mul_pow]
      exact reading.combined (reading.multiplied made first count)
        (reading.multiplied made second count)

section Quotients

variable {op : SemigroupOp (Act κ ν) α} {monoid : MonoidOp (Act κ ν) α} {f : α → α → α}
  {identity : α} {copy : Copying (Act κ ν) α}

@[reducible]
def SemigroupOp.Associates.semigroup (law : op.Associates same f) : Semigroup (Quotient same) where
  mul := Quotient.map₂ f fun _ _ first _ _ second => law.respects first second
  mul_assoc := by
    rintro ⟨a⟩ ⟨b⟩ ⟨c⟩
    exact Quotient.sound (law.associative a b c)

@[reducible]
def MonoidOp.Unital.quotient (law : monoid.Unital same f identity) : Monoid (Quotient same) where
  toSemigroup := law.associates.semigroup
  one := Quotient.mk same identity
  one_mul := by
    rintro ⟨a⟩
    exact Quotient.sound (law.left a)
  mul_one := by
    rintro ⟨a⟩
    exact Quotient.sound (law.right a)

@[reducible]
def MonoidOp.Unital.commuting (law : monoid.Unital same f identity)
    (commutes : ∀ a b, same (f a b) (f b a)) : CommMonoid (Quotient same) where
  toMonoid := law.quotient
  mul_comm := by
    rintro ⟨a⟩ ⟨b⟩
    exact Quotient.sound (commutes a b)

theorem readingOf {M : Type} [Monoid M] (law : op.Associates same f) (faithful : copy.Faithful same)
    {element : α → M} (exact : ∀ {a b}, element a = element b ↔ same a b)
    (multiplies : ∀ a b, element (f a b) = element a * element b) :
    Reading same op copy fun value x => element value = x where
  multiplies := by
    rintro a b _ _ rfl rfl
    exact Verdict.everyRun.weaken (law.returns a b) fun c made =>
      (exact.mpr made).trans (multiplies a b)
  keeps := by
    rintro a _ rfl
    exact Verdict.everyRun.weaken (faithful a) fun both held =>
      ⟨exact.mpr held.1, exact.mpr held.2⟩
  total a := ⟨element a, rfl⟩
  separates first second := exact.mp (first.trans second.symm)

theorem associatesReading (law : op.Associates same f) (faithful : copy.Faithful same) :
    ∃ (M : Type) (_ : Monoid M) (stands : α → M → Prop), Reading same op copy stands := by
  let _ := law.semigroup
  -- Powers are taken in a monoid; the one that is added is no value's element.
  let element (value : α) : WithOne (Quotient same) := (Quotient.mk same value : Quotient same)
  have exact {a b : α} : element a = element b ↔ same a b :=
    WithOne.coe_inj.trans Quotient.eq
  have multiplies (a b : α) : element (f a b) = element a * element b :=
    WithOne.coe_mul (Quotient.mk same a) (Quotient.mk same b)
  exact ⟨_, inferInstance, _, readingOf law faithful exact multiplies⟩

theorem unitalReading (law : monoid.Unital same f identity) (faithful : copy.Faithful same) :
    ∃ (M : Type) (_ : Monoid M) (stands : α → M → Prop),
      Reading same monoid.toSemigroupOp copy stands ∧
        Verdict.everyRun.comes monoid.empty fun value => stands value 1 := by
  let _ := law.quotient
  have reading := readingOf law.associates faithful Quotient.eq fun _ _ => rfl
  have made := Verdict.everyRun.weaken law.returns fun _ made => Quotient.sound made
  exact ⟨_, inferInstance, _, reading, made⟩

theorem associatesRepeats (law : op.Associates same f) (faithful : copy.Faithful same) :
    op.Repeats same copy := by
  obtain ⟨M, _, stands, reading⟩ := associatesReading law faithful
  exact reading.repeats

theorem unitalJoins (law : monoid.Unital same f identity) (faithful : copy.Faithful same) :
    monoid.Joins same copy := by
  obtain ⟨M, _, stands, reading, made⟩ := unitalReading law faithful
  exact reading.joins made law.folds

theorem unitalCommutes (law : monoid.Unital same f identity) (faithful : copy.Faithful same)
    (commutes : ∀ a b, same (f a b) (f b a)) : monoid.Commutes same copy := by
  let _ := law.commuting commutes
  have reading := readingOf law.associates faithful Quotient.eq fun _ _ => rfl
  have made := Verdict.everyRun.weaken law.returns fun _ made => Quotient.sound made
  exact reading.commutes made law.folds

end Quotients

theorem equalAssociates {op : SemigroupOp (Act κ ν) α} {f : α → α → α}
    (returns : ∀ a b, Verdict.everyRun.comes (op.append a b) fun c => c = f a b)
    (associative : ∀ a b c, f (f a b) c = f a (f b c)) : op.Associates ⊥ f where
  returns := returns
  respects := by
    rintro a _ b _ rfl rfl
    rfl
  associative := associative

section Instances

variable {m : Type → Type} [Monad m] [LawfulMonad m]

theorem joinFolds {comparison : Comparison α} {monoid : MonoidOp m α}
    (built : MonoidInstance m comparison monoid) :
    monoid.join = MonoidOp.foldJoin monoid.toSemigroupOp monoid.empty := by
  cases built with
  | string => exact funext stringFlattens.folds
  | list α => exact funext listFlattens.folds
  | _ => rfl

structure Comparison.Exact (comparison : Comparison α) : Prop where
  clean : ∀ a, comparison.Clean a
  same : ∀ {a b}, comparison.Same a b → a = b

namespace Comparison

variable {β : Type} {inner left : Comparison α} {right : Comparison β}

theorem exactPlain (α : Type) : (plain α).Exact := ⟨fun _ => trivial, id⟩

theorem Exact.option (exact : inner.Exact) : inner.option.Exact where
  clean
    | none => trivial
    | some value => exact.clean value
  same {a b} same := by
    cases a <;> cases b
    · rfl
    · exact same.elim
    · exact same.elim
    · exact congrArg some (exact.same same)

theorem Exact.either (first : left.Exact) (second : right.Exact) : (left.either right).Exact where
  clean
    | .left value => first.clean value
    | .right value => second.clean value
  same {a b} same := by
    cases a <;> cases b
    · exact congrArg Either.left (first.same same)
    · exact same.elim
    · exact same.elim
    · exact congrArg Either.right (second.same same)

theorem Exact.pair (first : left.Exact) (second : right.Exact) : (left.pair right).Exact where
  clean value := ⟨first.clean value.1, second.clean value.2⟩
  same same := Prod.ext (first.same same.1) (second.same same.2)

end Comparison

section Runs

variable {comparison : Comparison α} {op : SemigroupOp (Act κ ν) α} {monoid : MonoidOp (Act κ ν) α}
  {copy : Copying (Act κ ν) α}

theorem Act.pureInjective [Nonempty κ] {a b : α} (same : (pure a : Act κ ν α) = pure b) :
    a = b := by
  have context : κ := Classical.arbitrary κ
  exact Except.ok.inj (congrArg (fun act : Act κ ν α => (act.run context 0).ending) same)

variable [Nonempty κ] (exact : comparison.Exact)

include exact

theorem exactAssociates (law : LawfulSemigroup comparison op) :
    ∃ f, (∀ a b, op.append a b = pure (f a b)) ∧ op.Associates ⊥ f := by
  choose f made _ using fun a b => law.defined (exact.clean a) (exact.clean b)
  refine ⟨f, made, equalAssociates (fun a b => ?_) fun a b c => ?_⟩
  · rw [made a b]
    exact Verdict.everyRun.ofPure rfl
  · obtain ⟨l, r, left, right, same⟩ :=
      law.associative (exact.clean a) (exact.clean b) (exact.clean c)
    rw [made, pure_bind, made] at left right
    rw [Act.pureInjective left, Act.pureInjective right]
    exact exact.same same

theorem exactUnital (law : LawfulMonoid comparison monoid)
    (folds : monoid.join = MonoidOp.foldJoin monoid.toSemigroupOp monoid.empty) :
    ∃ f identity, (∀ a b, monoid.append a b = pure (f a b)) ∧ monoid.Unital ⊥ f identity := by
  obtain ⟨f, made, associates⟩ := exactAssociates exact law.semigroup
  obtain ⟨identity, found, neutral⟩ := law.identity
  refine ⟨f, identity, made, associates, ?_, fun a => ?_, fun a => ?_, folds⟩
  · rw [found]
    exact Verdict.everyRun.ofPure rfl
  · obtain ⟨l, left, same⟩ := neutral.left (exact.clean a)
    rw [made] at left
    rw [Act.pureInjective left]
    exact exact.same same
  · obtain ⟨r, right, same⟩ := neutral.right (exact.clean a)
    rw [made] at right
    rw [Act.pureInjective right]
    exact exact.same same

theorem instanceJoins (faithful : copy.Faithful ⊥)
    (built : MonoidInstance (Act κ ν) comparison monoid) : monoid.Joins ⊥ copy ∧
      ((∀ a b, monoid.append a b = monoid.append b a) → monoid.Commutes ⊥ copy) := by
  obtain ⟨f, identity, made, law⟩ := exactUnital exact (monoidLaw built) (joinFolds built)
  refine ⟨unitalJoins law faithful, fun commutes => unitalCommutes law faithful fun a b => ?_⟩
  have swapped := commutes a b
  rw [made, made] at swapped
  exact Act.pureInjective swapped

end Runs

end Instances

theorem chainingUnital (κ ν β : Type) :
    (Iter.chaining : MonoidOp (Act κ ν) (Iter (Act κ ν) β)).Unital (Iter.sameItems (Act κ ν) β)
      Iter.chain Iter.ended where
  associates := {
    returns := fun front back _ _ => ⟨.chain front back, rfl, fun _ => rfl⟩
    respects := Iter.chainRespects
    associative := Iter.chainAssociative }
  returns _ _ := ⟨.ended, rfl, fun _ => rfl⟩
  left := Iter.endedChain
  right := Iter.chainEnded
  folds := rfl

section Functions

variable {χ : Type} {inner : MonoidOp (Act κ ν) α} {f : α → α → α} {identity : α}
  {copy : Copying (Act κ ν) χ}

theorem functionUnital (κ ν : Type) (associative : ∀ a b c, f (f a b) c = f a (f b c))
    (left : ∀ a, f identity a = a) (right : ∀ a, f a identity = a) :
    (MonoidOp.ofFunction f identity : MonoidOp (Act κ ν) α).Unital ⊥ f identity where
  associates := equalAssociates (fun a b _ _ => ⟨f a b, rfl, rfl⟩) associative
  returns _ _ := ⟨identity, rfl, rfl⟩
  left := left
  right := right
  folds := rfl

theorem notedUnital (write : α → α → ν) (associative : ∀ a b c, f (f a b) c = f a (f b c))
    (left : ∀ a, f identity a = a) (right : ∀ a, f a identity = a) :
    (MonoidOp.of ⟨fun a b => do
      Act.note (write a b)
      pure (f a b)⟩ (pure identity) : MonoidOp (Act κ ν) α).Unital ⊥ f identity where
  associates := equalAssociates (fun a b _ _ => ⟨f a b, rfl, rfl⟩) associative
  returns _ _ := ⟨identity, rfl, rfl⟩
  left := left
  right := right
  folds := rfl

theorem compositionUnital (κ ν α : Type) :
    (MonoidOp.composition : MonoidOp (Act κ ν) (α → Act κ ν α)).Unital ⊥ (fun f g => f >=> g)
      pure where
  associates := equalAssociates (fun f g _ _ => ⟨f >=> g, rfl, rfl⟩)
    fun f g h => funext fun x => bind_assoc (f x) g h
  returns _ _ := ⟨pure, rfl, rfl⟩
  left f := funext fun x => pure_bind x f
  right f := funext fun x => bind_pure (f x)
  folds := rfl

theorem pointwiseUnital (law : inner.Unital ⊥ f identity)
    (made : ∀ a b, inner.append a b = pure (f a b)) (found : inner.empty = pure identity)
    (copies : ∀ x, copy x = pure (x, x)) :
    (MonoidOp.pointwise copy inner).Unital ⊥ (fun g h x => f <$> g x <*> h x)
      fun _ => pure identity where
  associates := by
    refine equalAssociates (fun g h _ _ => ⟨_, rfl, funext fun x => ?_⟩)
      fun g h k => funext fun x => ?_
    · simp [copies, made, seq_eq_bind_map]
    · have grouped (a b : α) : f (f a b) = fun c => f a (f b c) :=
        funext fun c => law.associates.associative a b c
      simp [seq_eq_bind_map, grouped]
  returns _ _ := ⟨_, rfl, funext fun _ => found⟩
  left h := funext fun x => by
    have neutral : f identity = id := funext law.left
    simp [seq_eq_bind_map, neutral]
  right g := funext fun x => by
    have neutral (a : α) : f a identity = a := law.right a
    simp [neutral]
  folds := rfl

end Functions

theorem repetitionLaws (κ ν : Type) :
    (∀ {α : Type} {same : Setoid α} {op : SemigroupOp (Act κ ν) α} {f : α → α → α}
      {copy : Copying (Act κ ν) α},
      op.Associates same f → copy.Faithful same → op.Repeats same copy) ∧
    (∀ {α : Type} {same : Setoid α} {monoid : MonoidOp (Act κ ν) α} {f : α → α → α} {identity : α}
      {copy : Copying (Act κ ν) α},
      monoid.Unital same f identity → copy.Faithful same →
        monoid.Joins same copy ∧
        ((∀ a b, same (f a b) (f b a)) → monoid.Commutes same copy)) ∧
    (Nonempty κ → ∀ {α : Type} {comparison : Comparison α} {copy : Copying (Act κ ν) α},
      comparison.Exact → copy.Faithful ⊥ →
        (∀ {op}, SemigroupInstance (Act κ ν) comparison op → op.Repeats ⊥ copy) ∧
        ∀ {monoid}, MonoidInstance (Act κ ν) comparison monoid → monoid.Joins ⊥ copy ∧
          ((∀ a b, monoid.append a b = monoid.append b a) → monoid.Commutes ⊥ copy)) := by
  refine ⟨associatesRepeats, fun law faithful => ⟨unitalJoins law faithful,
    unitalCommutes law faithful⟩, fun _ α comparison copy exact faithful => ⟨?_, ?_⟩⟩
  · intro op built
    obtain ⟨f, _, law⟩ := exactAssociates exact (semigroupLaw built)
    exact associatesRepeats law faithful
  · intro monoid built
    exact instanceJoins exact faithful built

theorem notedRepeats :
    let noted : MonoidOp (Act Unit String) Nat := .of ⟨fun a b => do
      Act.note "combined"
      pure (a.gcd b)⟩ (pure 0)
    let nested : MonoidOp (Act Unit String) (Option (BitVec 32) × Either Int Bool) :=
      .compose (.optional (MonoidOp.wordSum 32).toSemigroupOp)
        (.accumulate MonoidOp.integerSum.toSemigroupOp .odd)
    let chaining : MonoidOp (Act Unit String) (Iter (Act Unit String) Nat) := Iter.chaining
    let behind : MonoidOp (Act Unit String) (Nat → Act Unit String Nat) := .composition
    let beside : MonoidOp (Act Unit String) (Nat → Act Unit String Int) :=
      .pointwise plainCopy .integerSum
    noted.Repeats ⊥ plainCopy ∧ noted.Joins ⊥ plainCopy ∧ noted.Commutes ⊥ plainCopy ∧
      nested.Repeats ⊥ plainCopy ∧ nested.Joins ⊥ plainCopy ∧ nested.Commutes ⊥ plainCopy ∧
      chaining.Joins (Iter.sameItems (Act Unit String) Nat) plainCopy ∧
      behind.Joins ⊥ plainCopy ∧ beside.Joins ⊥ plainCopy := by
  intro noted nested chaining behind beside
  obtain ⟨repeats, joins, instances⟩ := repetitionLaws Unit String
  have copied {α : Type} (same : Setoid α) :
      (plainCopy : Copying (Act Unit String) α).Faithful same :=
    fun a _ _ => ⟨(a, a), rfl, same.refl a, same.refl a⟩
  have unital : noted.Unital ⊥ Nat.gcd 0 :=
    notedUnital (fun _ _ => "combined") Nat.gcd_assoc Nat.gcd_zero_left Nat.gcd_zero_right
  have exact : ((Comparison.plain (BitVec 32)).option.pair
      ((Comparison.plain Int).either (.plain Bool))).Exact :=
    (Comparison.exactPlain _).option.pair
      ((Comparison.exactPlain _).either (Comparison.exactPlain _))
  have built : MonoidInstance (Act Unit String) _ nested :=
    .compose (.optional (.ofMonoid (.wordSum 32))) (.accumulate (.ofMonoid .integerSum) .odd)
  have swaps (a b) : nested.append a b = nested.append b a := by
    obtain ⟨_ | a, c | c⟩ := a <;> obtain ⟨_ | b, d | d⟩ := b <;>
      simp [nested, MonoidOp.compose, MonoidOp.of, SemigroupOp.pair, MonoidOp.optional,
        SemigroupOp.optional, MonoidOp.wordSum, MonoidOp.odd, MonoidOp.accumulate,
        SemigroupOp.accumulate, MonoidOp.integerSum, MonoidOp.ofFunction, Bool.xor_comm,
        BitVec.add_comm, Int.add_comm]
  have sums := functionUnital Unit String Int.add_assoc Int.zero_add Int.add_zero
  have pointwise := pointwiseUnital sums (fun _ _ => rfl) rfl fun x : Nat => rfl
  have alone := joins unital (copied ⊥)
  have parts := instances inferInstance exact (copied ⊥)
  have composed := parts.2 built
  exact ⟨repeats unital.associates (copied ⊥), alone.1, alone.2 Nat.gcd_comm,
    parts.1 (.ofMonoid built), composed.1, composed.2 swaps,
    (joins (chainingUnital Unit String Nat) (copied _)).1,
    (joins (compositionUnital Unit String Nat) (copied ⊥)).1, (joins pointwise (copied ⊥)).1⟩

end OutcomeAlgebra
