import OutcomeAlgebra.Algebra.Semigroup
/-! Copies that are the value itself. Copying may have an effect beside that, and it has it
once for every copy that is made. -/
namespace OutcomeAlgebra

variable {m : Type → Type} [Monad m] {α : Type}

def times (count : Nat) (effect : m Unit) : m Unit := (List.replicate count effect).forM id

def Copying.Clones (copy : Copying m α) (value : α) (effect : m Unit) : Prop :=
  copy value = effect >>= fun _ => pure (value, value)

theorem timesFirst (count : Nat) (effect : m Unit) :
    times (count + 1) effect = effect >>= fun _ => times count effect := by
  simp [times, List.replicate_succ]

variable [LawfulMonad m]

theorem timesLast (count : Nat) (effect : m Unit) :
    times (count + 1) effect = times count effect >>= fun _ => effect := by
  simp [times, List.replicate_succ', List.forM_append]

theorem plainClones (value : α) : (plainCopy : Copying m α).Clones value (pure ()) := by
  simp [Copying.Clones, plainCopy]

theorem timesNothing (count : Nat) : times count (pure () : m Unit) = pure () := by
  induction count with
  | zero => rfl
  | succ count ih => rw [timesFirst, pure_bind, ih]

section Idempotent

variable {op : SemigroupOp m α} {copy : Copying m α} {value : α} {effect : m Unit}

theorem copiesSame (same : op.append value value = pure value) (clones : copy.Clones value effect)
    (count : Nat) :
    op.appendCopies copy value count value = times count effect >>= fun _ => pure value := by
  induction count with
  | zero => simp [SemigroupOp.appendCopies, times]
  | succ count ih =>
    have copied : copy value = effect >>= fun _ => pure (value, value) := clones
    simp only [SemigroupOp.appendCopies, copied, bind_assoc, pure_bind, same, ih, timesFirst]

theorem appendNSame [MonadExceptOf Panic m] (same : op.append value value = pure value)
    (clones : copy.Clones value effect) (count : Nat) :
    op.appendN copy value (count + 1) = times (count + 1) effect >>= fun _ => pure value := by
  have copied : copy value = effect >>= fun _ => pure (value, value) := clones
  simp only [SemigroupOp.appendN, copied, bind_assoc, pure_bind, copiesSame same clones, timesFirst]

end Idempotent

end OutcomeAlgebra
