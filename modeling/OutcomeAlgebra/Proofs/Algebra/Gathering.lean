import OutcomeAlgebra.Algebra.Accumulate
import OutcomeAlgebra.Algebra.Scalar
import OutcomeAlgebra.Proofs.Algebra.Calling
/-! Many eithers combined into one. Rights are combined up to the first left; from there on
only lefts count, each of them once and in order. Nothing is asked of the operations: they
may depend on the grouping, have effects, or panic. -/
namespace OutcomeAlgebra

variable {m : Type → Type} {κ ν μ L R : Type}

namespace Either

def lefts (values : List (Either L R)) : List L := values.filterMap left?

def rights (values : List (Either L R)) : List R := values.filterMap right?

def rightsBefore (values : List (Either L R)) : List R := rights (values.takeWhile isRight)

theorem rightsBeforeAll {values : List (Either L R)} (none : lefts values = []) :
    rightsBefore values = rights values := by
  induction values with
  | nil => rfl
  | cons value rest ih =>
    cases value with
    | left value => simp [lefts, left?] at none
    | right value =>
      have noneLater : lefts rest = [] := by simpa [lefts, left?] using none
      exact congrArg (value :: ·) (ih noneLater)

/- Combines rights only up to the first left, and drops what came of them if there is one. -/
def gathered [Monad m] (left : SemigroupOp m L) (combine : List R → m R)
    (values : List (Either L R)) : m (Either L R) :=
  match lefts values with
  | [] => Either.right <$> combine (rights values)
  | first :: others => do
    let _ ← combine (rightsBefore values)
    Either.left <$> left.sumNonEmpty first others

theorem gatheredRight [Monad m] (left : SemigroupOp m L) (combine : List R → m R) (value : R)
    (rest : List (Either L R)) :
    gathered left combine (.right value :: rest) =
      gathered left (fun values => combine (value :: values)) rest := by
  have same : lefts (.right value :: rest : List (Either L R)) = lefts rest := rfl
  have before : rightsBefore (.right value :: rest : List (Either L R)) =
      value :: rightsBefore rest := rfl
  rw [gathered, gathered, same, before]
  cases lefts rest <;> rfl

section Folds

variable [Monad m] [LawfulMonad m] (left : SemigroupOp m L) (right : SemigroupOp m R)

theorem foldLeft (start : L) (values : List (Either L R)) :
    values.foldlM (left.accumulate right).append (.left start) =
      Either.left <$> left.sumNonEmpty start (lefts values) := by
  induction values generalizing start with
  | nil => exact (map_pure Either.left start).symm
  | cons value rest ih =>
    cases value with
    | right value =>
      have dropped : (left.accumulate right).append (.left start) (.right value) =
          pure (.left start) := rfl
      rw [List.foldlM_cons, dropped, pure_bind, ih]
      rfl
    | left value =>
      have combined : (left.accumulate right).append (.left start) (.left value) =
          Either.left <$> left.append start value := rfl
      have counted : lefts (.left value :: rest : List (Either L R)) = value :: lefts rest := rfl
      rw [List.foldlM_cons, combined, bind_map_left, counted, SemigroupOp.sumNonEmpty,
        List.foldlM_cons, map_bind]
      simp only [ih, SemigroupOp.sumNonEmpty]

theorem gatheredBind (first : m R) (combine : R → List R → m R) (values : List (Either L R)) :
    gathered left (fun rights => first >>= fun start => combine start rights) values =
      first >>= fun start => gathered left (combine start) values := by
  unfold gathered
  cases lefts values with
  | nil => exact map_bind _ _ _
  | cons value others => exact bind_assoc _ _ _

theorem foldRight (start : R) (values : List (Either L R)) :
    values.foldlM (left.accumulate right).append (.right start) =
      gathered left (right.sumNonEmpty start) values := by
  induction values generalizing start with
  | nil => exact (map_pure Either.right start).symm
  | cons value rest ih =>
    cases value with
    | left value =>
      have taken : (left.accumulate right).append (.right start) (.left value) =
          pure (.left value) := rfl
      have gathers : gathered left (right.sumNonEmpty start) (.left value :: rest) =
          pure start >>= fun _ => Either.left <$> left.sumNonEmpty value (lefts rest) := rfl
      rw [List.foldlM_cons, taken, pure_bind, foldLeft, gathers, pure_bind]
    | right value =>
      have combined : (left.accumulate right).append (.right start) (.right value) =
          Either.right <$> right.append start value := rfl
      rw [List.foldlM_cons, combined, bind_map_left, gatheredRight]
      simp only [ih, SemigroupOp.sumNonEmpty, List.foldlM_cons]
      exact (gatheredBind left (right.append start value)
        (fun start values => values.foldlM right.append start) rest).symm

theorem joinGathers (right : MonoidOp m R) (values : List (Either L R)) :
    (MonoidOp.accumulate left right).join values =
      gathered left (MonoidOp.foldJoin right.toSemigroupOp right.empty) values := by
  have folded : (MonoidOp.accumulate left right).join values =
      (Either.right <$> right.empty) >>=
        values.foldlM (left.accumulate right.toSemigroupOp).append := rfl
  rw [folded, bind_map_left]
  simp only [foldRight]
  exact (gatheredBind left right.empty right.toSemigroupOp.sumNonEmpty values).symm

end Folds

section Calls

variable {leftName rightName : μ} {left : SemigroupOp (Act κ ν) L} {values : List (Either L R)}

theorem gatheredCalls {combine : List R → Act κ (ν ⊕ μ) R} {calls : List R → List μ}
    (combines : ∀ rights, (combine rights).Calls (calls rights)) :
    (gathered (left.named leftName) combine values).Calls
      (calls (rightsBefore values) ++ List.replicate (lefts values).tail.length leftName) := by
  unfold gathered
  cases found : lefts values with
  | nil =>
    rw [rightsBeforeAll found]
    simpa using (combines (rights values)).map Either.right
  | cons first others =>
    refine (combines (rightsBefore values)).bind fun _ => ?_
    exact (foldCalls leftName left others first).map Either.left

theorem joinCalls (right : MonoidOp (Act κ ν) R) :
    ((MonoidOp.accumulate (left.named leftName) (right.named rightName)).join values).Calls
      (List.replicate (rightsBefore values).length rightName ++
        List.replicate (lefts values).tail.length leftName) := by
  have combines : ∀ rights, (MonoidOp.foldJoin (right.toSemigroupOp.named rightName)
      (right.empty.renote .inl) rights).Calls (List.replicate rights.length rightName) :=
    fun rights => (Act.callsRenote right.empty).bind fun start =>
      foldCalls rightName right.toSemigroupOp rights start
  rw [joinGathers]
  exact gatheredCalls combines

theorem sumCalls (right : SemigroupOp (Act κ ν) R) (head : Either L R) :
    (((left.named leftName).accumulate (right.named rightName)).sumNonEmpty head values).Calls
      (List.replicate (rightsBefore (head :: values)).tail.length rightName ++
        List.replicate (lefts (head :: values)).tail.length leftName) := by
  cases head with
  | left head =>
    rw [SemigroupOp.sumNonEmpty, foldLeft]
    exact (foldCalls leftName left (lefts values) head).map Either.left
  | right head =>
    rw [SemigroupOp.sumNonEmpty, foldRight]
    exact gatheredCalls fun rights => foldCalls rightName right rights head

end Calls

structure LeftsGather (m : Type → Type) [Monad m] {L : Type} (left : SemigroupOp m L)
    (R : Type) : Prop where
  join : ∀ (right : MonoidOp m R) (values : List (Either L R)),
    (MonoidOp.accumulate left right).join values =
      gathered left (MonoidOp.foldJoin right.toSemigroupOp right.empty) values
  leftHead : ∀ (right : SemigroupOp m R) (tail : List (Either L R)) head,
    (left.accumulate right).sumNonEmpty (.left head) tail =
      Either.left <$> left.sumNonEmpty head (lefts tail)
  rightHead : ∀ (right : SemigroupOp m R) (tail : List (Either L R)) head,
    (left.accumulate right).sumNonEmpty (.right head) tail =
      gathered left (right.sumNonEmpty head) tail

structure LeftsCalled (leftName rightName : μ) (left : SemigroupOp (Act κ ν) L)
    (values : List (Either L R)) : Prop where
  join : ∀ right : MonoidOp (Act κ ν) R,
    ((MonoidOp.accumulate (left.named leftName) (right.named rightName)).join values).Calls
      (List.replicate (rightsBefore values).length rightName ++
        List.replicate (lefts values).tail.length leftName)
  sum : ∀ (right : SemigroupOp (Act κ ν) R) head,
    (((left.named leftName).accumulate (right.named rightName)).sumNonEmpty head values).Calls
      (List.replicate (rightsBefore (head :: values)).tail.length rightName ++
        List.replicate (lefts (head :: values)).tail.length leftName)

end Either

open Either in
theorem leftsGathered (κ ν μ : Type) :
    (∀ (m : Type → Type) [Monad m] [LawfulMonad m] {L R : Type} (left : SemigroupOp m L),
      LeftsGather m left R) ∧
    ∀ {L R : Type} (leftName rightName : μ) (left : SemigroupOp (Act κ ν) L)
      (values : List (Either L R)), LeftsCalled leftName rightName left values := by
  constructor
  · intro m _ _ L R left
    exact ⟨joinGathers left, fun right tail head => foldLeft left right head tail,
      fun right tail head => foldRight left right head tail⟩
  · intro L R leftName rightName left values
    exact ⟨joinCalls, sumCalls⟩

theorem differencesGathered :
    let left : SemigroupOp (Act Unit Unit) Int := ⟨fun a b => pure (a - b)⟩
    let values : List (Either Int (List Nat)) :=
      [.right [1], .left 9, .right [2], .left 4, .left 3, .right [5]]
    LawfulMonad (Act Unit Unit) ∧
      (MonoidOp.accumulate left .list).join values = pure (.left 2) := by
  intro left values
  have gathers := ((leftsGathered Unit Unit Unit).1 (Act Unit Unit) left).join .list values
  exact ⟨inferInstance, gathers.trans rfl⟩

end OutcomeAlgebra
