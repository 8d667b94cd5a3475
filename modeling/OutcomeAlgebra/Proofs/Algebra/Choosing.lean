import OutcomeAlgebra.Proofs.Algebra.Bracketing
import OutcomeAlgebra.Proofs.Algebra.Cloning
import OutcomeAlgebra.Proofs.Algebra.Instances
/-! Which of several equal elements is chosen. The order is total, but distinct elements may
be equal in it, and then they are told apart by their places. Of the greatest elements the
last one is taken, of the least ones the first, however the combination is grouped. The
least is the greatest of the opposite order, with everything turned around. -/
namespace OutcomeAlgebra

variable {α : Type} {le : α → α → Bool}

/- No element is above it, and those behind it are below it. -/
def LastGreatest (le : α → α → Bool) (values : List α) (value : α) : Prop :=
  ∃ front back, values = front ++ value :: back ∧ (∀ other ∈ values, le other value = true) ∧
    ∀ later ∈ back, le value later = false

def FirstGreatest (le : α → α → Bool) (values : List α) (value : α) : Prop :=
  ∃ front back, values = front ++ value :: back ∧ (∀ other ∈ values, le other value = true) ∧
    ∀ earlier ∈ front, le value earlier = false

def LastLeast (le : α → α → Bool) : List α → α → Prop := LastGreatest fun a b => le b a

def FirstLeast (le : α → α → Bool) : List α → α → Prop := FirstGreatest fun a b => le b a

theorem TotalPreorder.reflexive (order : TotalPreorder le) (a : α) : le a a = true := by
  rcases order.total a a with same | same <;> exact same

theorem TotalPreorder.back (order : TotalPreorder le) {a b : α} (above : le a b = false) :
    le b a = true :=
  (order.total a b).resolve_left (by simp [above])

section Places

variable {values : List α} {a b : α}

theorem greatestTurned : LastGreatest le values.reverse a ↔ FirstGreatest le values a := by
  constructor
  · rintro ⟨front, back, split, above, later⟩
    refine ⟨back.reverse, front.reverse, ?_, ?_, ?_⟩
    · have turned := congrArg List.reverse split
      simpa using turned
    · intro other member
      exact above other (List.mem_reverse.mpr member)
    · intro earlier member
      exact later earlier (List.mem_reverse.mp member)
  · rintro ⟨front, back, split, above, earlier⟩
    refine ⟨back.reverse, front.reverse, ?_, ?_, ?_⟩
    · rw [split]
      simp
    · intro other member
      exact above other (List.mem_reverse.mp member)
    · intro later member
      exact earlier later (List.mem_reverse.mp member)

theorem LastGreatest.unique (first : LastGreatest le values a) (second : LastGreatest le values b) :
    a = b := by
  obtain ⟨front, back, split, above, later⟩ := first
  obtain ⟨front', back', split', above', later'⟩ := second
  have both : front ++ a :: back = front' ++ b :: back' := split.symm.trans split'
  have belowA : le b a = true := above b (by rw [split']; simp)
  have belowB : le a b = true := above' a (by rw [split]; simp)
  rcases List.append_eq_append_iff.mp both with ⟨between, _, rest⟩ | ⟨between, _, rest⟩
  · cases between with
    | nil => exact (List.cons.inj rest).1
    | cons value between =>
      have member : b ∈ back := by rw [(List.cons.inj rest).2]; simp
      rw [later b member] at belowB
      exact absurd belowB Bool.false_ne_true
  · cases between with
    | nil => exact (List.cons.inj rest).1.symm
    | cons value between =>
      have member : a ∈ back' := by rw [(List.cons.inj rest).2]; simp
      rw [later' a member] at belowA
      exact absurd belowA Bool.false_ne_true

end Places

theorem laterSelf (a : α) : laterGreatest le a a = a := by
  cases same : le a a with
  | true => exact laterOf same
  | false => exact laterKeeps same

theorem lastAppend (order : TotalPreorder le) {front back : List α} {a b : α}
    (first : LastGreatest le front a) (second : LastGreatest le back b) :
    LastGreatest le (front ++ back) (laterGreatest le a b) := by
  obtain ⟨before, after, split, above, later⟩ := first
  obtain ⟨before', after', split', above', later'⟩ := second
  cases below : le a b with
  | true =>
    rw [laterOf below]
    refine ⟨front ++ before', after', by simp [split'], ?_, later'⟩
    intro other member
    rcases List.mem_append.mp member with inside | inside
    · exact order.trans (above other inside) below
    · exact above' other inside
  | false =>
    have under : le b a = true := order.back below
    rw [laterKeeps below]
    refine ⟨before, after ++ back, by simp [split], ?_, ?_⟩
    · intro other member
      rcases List.mem_append.mp member with inside | inside
      · exact above other inside
      · exact order.trans (above' other inside) under
    · intro other member
      rcases List.mem_append.mp member with inside | inside
      · exact later other inside
      · cases upward : le a other with
        | false => rfl
        | true =>
          have whole := order.trans upward (above' other inside)
          rw [below] at whole
          exact absurd whole Bool.false_ne_true

theorem foldLast (order : TotalPreorder le) (tree : Bracketing α) :
    LastGreatest le tree.parts (tree.fold (laterGreatest le)) := by
  induction tree with
  | one part =>
    refine ⟨[], [], rfl, ?_, nofun⟩
    intro other member
    obtain rfl := List.mem_singleton.mp member
    exact order.reflexive other
  | both front back first second => exact lastAppend order first second

theorem foldFirst (order : TotalPreorder le) (tree : Bracketing α) :
    FirstGreatest le tree.parts (tree.fold fun a b => laterGreatest le b a) := by
  have turned := foldLast order tree.turned
  rwa [Bracketing.turnedParts, Bracketing.turnedFold, greatestTurned] at turned

variable {m : Type → Type} [Monad m] [MonadExceptOf Panic m]

/- An operation that picks one element of its input, by its value and its place, and another
one from the input turned around. -/
structure SemigroupOp.Chooses (op : SemigroupOp m α) (chosen turned : List α → α → Prop) :
    Prop where
  folds : ∀ head tail, ∃ value, op.sumNonEmpty head tail = pure value ∧ chosen (head :: tail) value
  turns : ∀ {head tail first rest}, (head :: tail).reverse = first :: rest →
    ∃ value, op.sumNonEmpty first rest = pure value ∧ turned (head :: tail) value
  groups : ∀ {tree : Bracketing α} {head tail}, tree.parts = head :: tail →
    tree.combine op = op.sumNonEmpty head tail
  repeats : ∀ {copy : Copying m α} {value effect count}, copy.Clones value effect → 0 < count →
    op.appendN copy value count = times count effect >>= fun _ => pure value

variable [LawfulMonad m]

theorem choosesFold {f : α → α → α} {chosen turned : List α → α → Prop}
    (picks : ∀ tree : Bracketing α, chosen tree.parts (tree.fold f))
    (unique : ∀ {values a b}, chosen values a → chosen values b → a = b)
    (turns : ∀ {values a}, chosen values.reverse a → turned values a) (same : ∀ a, f a a = a) :
    (⟨fun a b => pure (f a b)⟩ : SemigroupOp m α).Chooses chosen turned := by
  let op : SemigroupOp m α := ⟨fun a b => pure (f a b)⟩
  have folds (head : α) (tail : List α) :
      ∃ value, op.sumNonEmpty head tail = pure value ∧ chosen (head :: tail) value := by
    let tree := Bracketing.leftward (.one head) tail
    have parts : tree.parts = head :: tail := Bracketing.leftwardParts (.one head) tail
    have picked := picks tree
    rw [parts] at picked
    exact ⟨tree.fold f,
      (Bracketing.combineSum op head tail).symm.trans (Bracketing.combineFold f tree), picked⟩
  constructor
  case folds => exact folds
  case turns =>
    intro head tail first rest reversed
    obtain ⟨value, summed, picked⟩ := folds first rest
    rw [← reversed] at picked
    exact ⟨value, summed, turns picked⟩
  case groups =>
    intro tree head tail parts
    obtain ⟨value, summed, picked⟩ := folds head tail
    have grouped := picks tree
    rw [parts] at grouped
    have fromGrouping : tree.combine op = pure (tree.fold f) := Bracketing.combineFold f tree
    rw [fromGrouping, unique grouped picked, summed]
  case repeats =>
    intro copy value effect count clones positive
    obtain ⟨fewer, rfl⟩ := Nat.exists_eq_succ_of_ne_zero (Nat.ne_of_gt positive)
    exact appendNSame (congrArg pure (same value)) clones fewer

theorem tiesChosen (m : Type → Type) [Monad m] [LawfulMonad m] [MonadExceptOf Panic m]
    (order : TotalPreorder le) :
    (SemigroupOp.greatest (m := m) fun a b => !le b a).Chooses (LastGreatest le)
      (FirstGreatest le) ∧
    (SemigroupOp.least (m := m) fun a b => !le b a).Chooses (FirstLeast le) (LastLeast le) := by
  constructor
  · exact choosesFold (f := laterGreatest le) (foldLast order) LastGreatest.unique
      greatestTurned.mp laterSelf
  · let above : α → α → Bool := fun a b => le b a
    refine choosesFold (f := fun a b => laterGreatest above b a) (foldFirst order.opposite)
      ?_ ?_ laterSelf
    · intro values a b first second
      exact (greatestTurned.mpr first).unique (greatestTurned.mpr second)
    · intro values a first
      have turned := greatestTurned.mpr first
      rwa [List.reverse_reverse] at turned

theorem namedTiesChosen :
    let le : Nat × String → Nat × String → Bool := fun a b => decide (a.1 ≤ b.1)
    let op : SemigroupOp (Act Unit Unit) (Nat × String) := .greatest fun a b => !le b a
    TotalPreorder le ∧
      op.sumNonEmpty (3, "a") [(1, "b"), (3, "c"), (2, "d")] = pure (3, "c") ∧
      Bracketing.combine op (.both (.both (.one (3, "a")) (.one (1, "b")))
        (.both (.one (3, "c")) (.one (2, "d")))) = pure (3, "c") := by
  intro le op
  have order : TotalPreorder le := {
    total := fun a b => by simpa [le] using Nat.le_total a.1 b.1
    trans := fun first second => by simp [le] at first second ⊢; omega }
  have chooses := (tiesChosen (Act Unit Unit) order).1
  exact ⟨order, rfl, (chooses.groups rfl).trans rfl⟩

end OutcomeAlgebra
