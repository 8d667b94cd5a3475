import OutcomeAlgebra.Iter.Basic
/-! Chains of iterators, compared by the items they give out. Two iterators give the
same items when every number of requests is the same program on both, effects of
the parts included; how a chain is nested is then not to be seen. -/
namespace OutcomeAlgebra.Iter

variable {m : Type → Type} [Monad m] {α : Type}

def SameItems (left right : Iter m α) : Prop :=
  ∀ count, Prod.fst <$> left.take count = Prod.fst <$> right.take count

theorem nextChain (front back : Iter m α) :
    (chain front back).next = front.next >>= fun
      | (some item, front) => pure (some item, .chain front back)
      | (none, _) => back.next := rfl

variable [LawfulMonad m]

theorem takeZero (iter : Iter m α) : Prod.fst <$> iter.take 0 = pure [] := by
  rw [take, map_pure]

theorem takeSucc (iter : Iter m α) (count : Nat) :
    Prod.fst <$> iter.take (count + 1) = iter.next >>= fun
      | (none, _) => pure []
      | (some item, iter) => (fun items => item :: items) <$> Prod.fst <$> iter.take count := by
  rw [take, map_bind]
  refine bind_congr fun answer => ?_
  obtain ⟨item, iter⟩ := answer
  cases item with
  | none => simp
  | some item => simp

theorem nextNested (first second third : Iter m α) :
    (chain (chain first second) third).next = first.next >>= fun
      | (some item, first) => pure (some item, .chain (.chain first second) third)
      | (none, _) => (chain second third).next := by
  rw [nextChain, nextChain, bind_assoc]
  refine bind_congr fun answer => ?_
  obtain ⟨item, first⟩ := answer
  cases item with
  | none => rfl
  | some item => exact pure_bind _ _

theorem nextEndedChain (back : Iter m α) : (chain ended back).next = back.next := by
  rw [nextChain, ended, ofAnswers, next]
  simp

theorem chainAssociative (first second third : Iter m α) :
    SameItems (chain (chain first second) third) (chain first (chain second third)) := by
  intro count
  induction count generalizing first with
  | zero => rw [takeZero, takeZero]
  | succ count ih =>
    rw [takeSucc, takeSucc, nextNested, nextChain first, bind_assoc, bind_assoc]
    refine bind_congr fun answer => ?_
    obtain ⟨item, first⟩ := answer
    cases item with
    | none => rfl
    | some item => simp only [pure_bind, ih first]

theorem endedChain (back : Iter m α) : SameItems (chain ended back) back := by
  intro count
  cases count with
  | zero => rw [takeZero, takeZero]
  | succ count => rw [takeSucc, takeSucc, nextEndedChain]

theorem chainEnded (front : Iter m α) : SameItems (chain front ended) front := by
  intro count
  induction count generalizing front with
  | zero => rw [takeZero, takeZero]
  | succ count ih =>
    rw [takeSucc, takeSucc, nextChain, bind_assoc]
    refine bind_congr fun answer => ?_
    obtain ⟨item, front⟩ := answer
    cases item with
    | none => simp [ended, ofAnswers, next]
    | some item => simp only [pure_bind, ih front]

theorem takeChain (front back : Iter m α) (count : Nat) :
    Prod.fst <$> (chain front back).take count = Prod.fst <$> front.take count >>= fun items =>
      (fun rest => items ++ rest) <$> Prod.fst <$> back.take (count - items.length) := by
  induction count generalizing front with
  | zero => simp [take]
  | succ count ih =>
    rw [takeSucc, takeSucc, nextChain, bind_assoc, bind_assoc]
    refine bind_congr fun answer => ?_
    obtain ⟨item, front⟩ := answer
    cases item with
    | none =>
      have whole : (fun rest : List α => [] ++ rest) = id := rfl
      rw [pure_bind, whole, id_map]
      exact (takeSucc back count).symm
    | some item =>
      have further := congrArg (fun items => List.cons item <$> items) (ih front)
      simp only [map_bind] at further
      simpa only [pure_bind, bind_map_left, Functor.map_map, List.length_cons, List.cons_append,
        Nat.add_sub_add_right] using further

theorem chainRespects {front front' back back' : Iter m α} (first : SameItems front front')
    (second : SameItems back back') : SameItems (chain front back) (chain front' back') := by
  intro count
  rw [takeChain, takeChain, first count]
  exact bind_congr fun items => by rw [second (count - items.length)]

def sameItems (m : Type → Type) [Monad m] (α : Type) : Setoid (Iter m α) where
  r := SameItems
  iseqv := {
    refl := fun _ _ => rfl
    symm := fun same count => (same count).symm
    trans := fun first second count => (first count).trans (second count) }

end OutcomeAlgebra.Iter
