import Mathlib.Algebra.BigOperators.Group.Finset.Defs
import Mathlib.Algebra.Group.Int.TypeTags
import Mathlib.Algebra.Ring.Int.Defs
import OutcomeAlgebra.Algebra.Scalar
import OutcomeAlgebra.Proofs.Algebra.Reading
/-! Words that wrap around, and whole numbers that do not. A word stands for every number
that it is the two's-complement form of, so whatever is computed with words stands for what
the numbers come to, however often it overflowed on the way. Sums are read in the integers
with addition, products in the integers with multiplication. -/
namespace OutcomeAlgebra

variable {m : Type → Type} [Monad m] {α : Type} {width : Nat}

section Results

variable [MonadExceptOf Panic m]

/- What each operation comes to, as a number: a total of what was joined, and a value taken
a number of times. -/
structure MonoidOp.Computes (monoid : MonoidOp m α) (read : α → Int) (represent : Int → α)
    (total : List Int → Int) (times : Int → Nat → Int) : Prop where
  join : ∀ values, monoid.join values = pure (represent (total (values.map read)))
  sumNonEmpty : ∀ head tail,
    monoid.sumNonEmpty head tail = pure (represent (total ((head :: tail).map read)))
  multiply : ∀ value count,
    monoid.multiply plainCopy value count = pure (represent (times (read value) count))
  appendN : ∀ value count, monoid.appendN plainCopy value count =
    if count = 0 then throw .emptyRepeat else pure (represent (times (read value) count))
  intersperse : ∀ separator values, monoid.intersperse plainCopy separator values =
    pure (represent (total ((values.map read).intersperse (read separator))))

structure MonoidOp.Reduces (word : MonoidOp m (BitVec width)) (integer : MonoidOp m Int) :
    Prop where
  join : ∀ values,
    word.join values = BitVec.ofInt width <$> integer.join (values.map BitVec.toInt)
  sumNonEmpty : ∀ head tail, word.sumNonEmpty head tail =
    BitVec.ofInt width <$> integer.sumNonEmpty head.toInt (tail.map BitVec.toInt)
  multiply : ∀ value count, word.multiply plainCopy value count =
    BitVec.ofInt width <$> integer.multiply plainCopy value.toInt count
  appendN : ∀ value {count}, 0 < count → word.appendN plainCopy value count =
    BitVec.ofInt width <$> integer.appendN plainCopy value.toInt count
  intersperse : ∀ separator values, word.intersperse plainCopy separator values =
    BitVec.ofInt width <$>
      integer.intersperse plainCopy separator.toInt (values.map BitVec.toInt)

end Results

theorem intersperseMap {M N : Type} (g : M → N) (separator : M) (values : List M) :
    (values.intersperse separator).map g = (values.map g).intersperse (g separator) := by
  cases values with
  | nil => rfl
  | cons first rest => simp [intersperseCons, List.map_flatMap, List.flatMap_map]

variable [LawfulMonad m]

section Numbers

variable {M : Type} {represent : Int → α} {read : α → Int}

def StandsFor (number : Int ≃ M) (represent : Int → α) (value : α) (x : M) : Prop :=
  value = represent (number.symm x)

variable {number : Int ≃ M}

theorem standsReturned {act : m α} {x : M} {i : Int}
    (comes : Verdict.exact.comes act fun value => StandsFor number represent value x)
    (named : number i = x) : act = pure (represent i) := by
  obtain ⟨_, returned, rfl⟩ := comes
  rw [returned, ← named, Equiv.symm_apply_apply]

theorem standsRead (represents : ∀ a, represent (read a) = a) (value : α) :
    StandsFor number represent value (number (read value)) := by
  rw [StandsFor, Equiv.symm_apply_apply, represents]

theorem standsAll (represents : ∀ a, represent (read a) = a) (values : List α) :
    List.Forall₂ (StandsFor number represent) values ((values.map read).map number) := by
  induction values with
  | nil => exact .nil
  | cons value rest ih => exact .cons (standsRead represents value) ih

variable [MonadExceptOf Panic m] {f : α → α → α} {identity : α}

theorem functionComputes [Monoid M] (number : Int ≃ M) {total : List Int → Int}
    {times : Int → Nat → Int} (represents : ∀ a, represent (read a) = a)
    (neutral : represent (number.symm 1) = identity)
    (combines : ∀ x y, represent (number.symm (x * y)) =
      f (represent (number.symm x)) (represent (number.symm y)))
    (totals : ∀ values, number (total values) = (values.map number).prod)
    (powers : ∀ value count, number (times value count) = number value ^ count) :
    (MonoidOp.ofFunction (m := m) f identity).Computes read represent total times := by
  let monoid : MonoidOp m α := .ofFunction f identity
  have multiplies : monoid.toSemigroupOp.Multiplies .exact (StandsFor number represent) := by
    rintro _ _ x y rfl rfl
    exact ⟨_, rfl, (combines x y).symm⟩
  have keeps : (plainCopy : Copying m α).Keeps .exact (StandsFor number represent) :=
    fun given => ⟨_, rfl, given, given⟩
  have made : Verdict.exact.comes monoid.empty fun value => StandsFor number represent value 1 :=
    ⟨identity, rfl, neutral.symm⟩
  constructor
  case join =>
    intro values
    exact standsReturned (joinReads multiplies made (standsAll represents values)) (totals _)
  case sumNonEmpty =>
    intro head tail
    refine standsReturned
      (foldReads multiplies (standsRead represents head) (standsAll represents tail)) ?_
    rw [totals, List.map_cons, List.map_cons, List.prod_cons]
  case multiply =>
    intro value count
    exact standsReturned (multiplyReads multiplies keeps made (standsRead represents value) count)
      (powers _ _)
  case appendN =>
    intro value count
    cases count with
    | zero => rfl
    | succ count =>
      exact standsReturned
        (appendNReads multiplies keeps (standsRead represents value) count.succ_pos) (powers _ _)
  case intersperse =>
    intro separator values
    refine standsReturned (intersperseReads multiplies keeps made (standsRead represents separator)
      (standsAll represents values)) ?_
    rw [totals, intersperseMap]

theorem sumComputes (represents : ∀ a, represent (read a) = a) (neutral : represent 0 = identity)
    (combines : ∀ i j, represent (i + j) = f (represent i) (represent j)) :
    (MonoidOp.ofFunction (m := m) f identity).Computes read represent List.sum
      fun value count => value * count :=
  functionComputes Multiplicative.ofAdd represents neutral combines ofAdd_list_prod
    fun value count => (congrArg Multiplicative.ofAdd (Int.toAdd_pow (.ofAdd value) count)).symm

theorem productComputes (represents : ∀ a, represent (read a) = a)
    (neutral : represent 1 = identity)
    (combines : ∀ i j, represent (i * j) = f (represent i) (represent j)) :
    (MonoidOp.ofFunction (m := m) f identity).Computes read represent List.prod
      fun value count => value ^ count :=
  functionComputes (Equiv.refl Int) represents neutral combines
    (fun values => congrArg List.prod (List.map_id values).symm) fun _ _ => rfl

theorem computesReduces {word : MonoidOp m (BitVec width)} {integer : MonoidOp m Int}
    {total : List Int → Int} {times : Int → Nat → Int}
    (narrow : word.Computes BitVec.toInt (BitVec.ofInt width) total times)
    (exact : integer.Computes id id total times) : word.Reduces integer where
  join values := by
    rw [narrow.join, exact.join, map_pure, List.map_id, id]
  sumNonEmpty head tail := by
    rw [narrow.sumNonEmpty, exact.sumNonEmpty, map_pure, List.map_id, id, List.map_cons]
  multiply value count := by
    rw [narrow.multiply, exact.multiply, map_pure, id, id]
  appendN value count positive := by
    have some : count ≠ 0 := Nat.ne_of_gt positive
    rw [narrow.appendN, exact.appendN, if_neg some, if_neg some, map_pure, id, id]
  intersperse separator values := by
    rw [narrow.intersperse, exact.intersperse, map_pure, List.map_id, id, id]

end Numbers

structure WordsWrap (m : Type → Type) [Monad m] [MonadExceptOf Panic m] (width : Nat) :
    Prop where
  sum : (MonoidOp.wordSum (m := m) width).Computes BitVec.toInt (BitVec.ofInt width) List.sum
    fun value count => value * count
  product : (MonoidOp.wordProduct (m := m) width).Computes BitVec.toInt (BitVec.ofInt width)
    List.prod fun value count => value ^ count
  integerSum : (MonoidOp.integerSum (m := m)).Computes id id List.sum
    fun value count => value * count
  integerProduct : (MonoidOp.integerProduct (m := m)).Computes id id List.prod
    fun value count => value ^ count
  sumReduces : (MonoidOp.wordSum (m := m) width).Reduces .integerSum
  productReduces : (MonoidOp.wordProduct (m := m) width).Reduces .integerProduct

theorem wordsWrap (m : Type → Type) [Monad m] [LawfulMonad m] [MonadExceptOf Panic m]
    (width : Nat) : WordsWrap m width := by
  have represents (a : BitVec width) : BitVec.ofInt width a.toInt = a := BitVec.ofInt_toInt
  have sum := sumComputes (m := m) represents rfl BitVec.ofInt_add
  have product := productComputes (m := m) represents rfl BitVec.ofInt_mul
  have integerSum : (MonoidOp.integerSum (m := m)).Computes id id List.sum _ :=
    sumComputes (fun _ => rfl) rfl fun _ _ => rfl
  have integerProduct : (MonoidOp.integerProduct (m := m)).Computes id id List.prod _ :=
    productComputes (fun _ => rfl) rfl fun _ _ => rfl
  exact ⟨sum, product, integerSum, integerProduct, computesReduces sum integerSum,
    computesReduces product integerProduct⟩

theorem overflowsWrap :
    let values : List (BitVec 32) := [2147483647, 2147483647, 3]
    LawfulMonad (Act Unit Unit) ∧
    (MonoidOp.wordSum 32).join values = (pure 1 : Act Unit Unit (BitVec 32)) ∧
    (MonoidOp.wordProduct 64).multiply plainCopy 3 41 =
      (pure (BitVec.ofInt 64 (-420491770248316829)) : Act Unit Unit (BitVec 64)) := by
  intro values
  have sums := (wordsWrap (Act Unit Unit) 32).sum
  have products := (wordsWrap (Act Unit Unit) 64).product
  have total : BitVec.ofInt 32 (values.map BitVec.toInt).sum = 1 := by decide
  have power : BitVec.ofInt 64 ((3 : BitVec 64).toInt ^ 41) =
      BitVec.ofInt 64 (-420491770248316829) := by decide
  refine ⟨inferInstance, ?_, ?_⟩
  · exact (sums.join values).trans (congrArg pure total)
  · exact (products.multiply 3 41).trans (congrArg pure power)

end OutcomeAlgebra
