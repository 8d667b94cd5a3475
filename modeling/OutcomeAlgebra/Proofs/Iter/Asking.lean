import OutcomeAlgebra.Proofs.Iter.Chaining
import OutcomeAlgebra.Proofs.Algebra.Bracketing
/-! Chains of iterators as their parts in a row. A request to a chain goes to the first part
of the row, and on to the part behind it where that one has nothing more; a part that is
passed is given up. How the chain is nested has no say in it, so no client that asks and
decides after each answer can tell two groupings of the same parts apart, whatever the
parts do when they are asked. -/
namespace OutcomeAlgebra.Iter

variable {m : Type → Type} {α β γ σ τ : Type}

/- Asks as often as it likes, and may stop at any answer. -/
inductive Client (α β : Type) where
  | done (result : β)
  | ask (further : Option α → Client α β)

namespace Client

def map (f : β → γ) : Client α β → Client α γ
  | done result => done (f result)
  | ask further => ask fun answer => (further answer).map f

def taking : (count : Nat) → Client α (List α)
  | 0 => done []
  | count + 1 => ask fun
    | none => done []
    | some item => (taking count).map (List.cons item)

variable [Monad m]

def serve (request : σ → m (Option α × σ)) : Client α β → σ → m β
  | done result, _ => pure result
  | ask further, state => do
    let (answer, state) ← request state
    (further answer).serve request state

variable [LawfulMonad m]

theorem serveMap (f : β → γ) (request : σ → m (Option α × σ)) (client : Client α β) (state : σ) :
    (client.map f).serve request state = f <$> client.serve request state := by
  induction client generalizing state with
  | done result => rw [map, serve, serve, map_pure]
  | ask further ih =>
    rw [map, serve, serve, map_bind]
    exact bind_congr fun answer => ih answer.1 answer.2

theorem serveThrough {request : σ → m (Option α × σ)} {other : τ → m (Option α × τ)} (view : σ → τ)
    (same : ∀ state, other (view state) = Prod.map id view <$> request state)
    (client : Client α β) (state : σ) :
    client.serve other (view state) = client.serve request state := by
  induction client generalizing state with
  | done result => rfl
  | ask further ih =>
    rw [serve, serve, same, bind_map_left]
    exact bind_congr fun answer => ih answer.1 answer.2

end Client

structure Place (m : Type → Type) (α : Type) where
  answer : Nat → m (Option α)
  requests : Nat

def row : Iter m α → List (Place m α)
  | .part answer requests => [⟨answer, requests⟩]
  | .chain front back => front.row ++ back.row

theorem rowSome (iter : Iter m α) : iter.row ≠ [] := by
  induction iter with
  | part answer requests => exact List.cons_ne_nil _ _
  | chain front back frontSome backSome => exact List.append_ne_nil_of_left_ne_nil frontSome _

theorem foldRow (tree : Bracketing (Iter m α)) :
    (tree.fold chain).row = tree.parts.flatMap row := by
  induction tree with
  | one part => simp [Bracketing.fold, Bracketing.parts]
  | both front back frontRow backRow =>
    rw [Bracketing.fold, row, frontRow, backRow, Bracketing.parts, List.flatMap_append]

theorem foldlRow (front : Iter m α) (parts : List (Iter m α)) :
    (parts.foldl chain front).row = front.row ++ parts.flatMap row := by
  induction parts generalizing front with
  | nil => simp
  | cons part parts ih => rw [List.foldl_cons, ih, row, List.flatMap_cons, List.append_assoc]

section Rows

variable [Monad m]

def askRow : List (Place m α) → m (Option α × List (Place m α))
  | [] => pure (none, [])
  | [place] => do
    let item ← place.answer place.requests
    pure (item, [⟨place.answer, place.requests + 1⟩])
  | place :: later :: rest => do
    match ← place.answer place.requests with
    | some item => pure (some item, ⟨place.answer, place.requests + 1⟩ :: later :: rest)
    | none => askRow (later :: rest)

/- The ways to make one iterator of several. -/
inductive Chained (parts : List (Iter m α)) : m (Iter m α) → Prop where
  | grouped (tree : Bracketing (Iter m α)) (inOrder : tree.parts = parts) :
      Chained parts (tree.combine chaining.toSemigroupOp)
  | joined : Chained parts (chaining.join parts)

variable [LawfulMonad m]

theorem askAppend {front back : List (Place m α)} (some : front ≠ []) (more : back ≠ []) :
    askRow (front ++ back) = askRow front >>= fun
      | (.some item, front) => pure (.some item, front ++ back)
      | (none, _) => askRow back := by
  obtain ⟨first, rest, rfl⟩ := List.exists_cons_of_ne_nil more
  induction front with
  | nil => exact absurd rfl some
  | cons place front ih =>
    cases front with
    | nil =>
      simp only [List.cons_append, List.nil_append, askRow, bind_assoc, pure_bind]
      refine bind_congr fun answer => ?_
      cases answer <;> rfl
    | cons later front =>
      have further := ih (List.cons_ne_nil _ _)
      simp only [List.cons_append, askRow, bind_assoc] at further ⊢
      refine bind_congr fun answer => ?_
      cases answer with
      | none => exact further
      | some item => simp only [pure_bind, List.cons_append]

theorem askIter (iter : Iter m α) : askRow iter.row = Prod.map id row <$> iter.next := by
  induction iter with
  | part answer requests => simp [row, askRow, next]
  | chain front back frontAsked backAsked =>
    rw [row, askAppend front.rowSome back.rowSome, frontAsked, backAsked, nextChain, map_bind,
      bind_map_left]
    refine bind_congr fun answer => ?_
    obtain ⟨item, iter⟩ := answer
    cases item with
    | none => rfl
    | some item => rw [map_pure]; rfl

namespace Client

theorem serveIter (client : Client α β) (iter : Iter m α) :
    client.serve next iter = client.serve askRow iter.row :=
  (client.serveThrough row askIter iter).symm

theorem serveTaking (count : Nat) (iter : Iter m α) :
    (taking count).serve next iter = Prod.fst <$> iter.take count := by
  induction count generalizing iter with
  | zero => rw [takeZero, taking, serve]
  | succ count ih =>
    rw [takeSucc, taking, serve]
    refine bind_congr fun answer => ?_
    obtain ⟨item, iter⟩ := answer
    cases item with
    | none => rfl
    | some item => simp only [serveMap, ih]

theorem serveEnded (client : Client α β) (requests : Nat) (places : List (Place m α)) :
    client.serve askRow (⟨fun _ => pure none, requests⟩ :: places) =
      client.serve askRow places := by
  induction client generalizing requests with
  | done result => rfl
  | ask further ih =>
    cases places with
    | nil => simp only [serve, askRow, pure_bind, ih]
    | cons later rest => simp only [serve, askRow, pure_bind]

end Client

theorem chainedServe {parts : List (Iter m α)} {program : m (Iter m α)}
    (chained : Chained parts program) : ∃ iter, program = pure iter ∧
      ∀ {β : Type} (client : Client α β),
        client.serve next iter = client.serve askRow (parts.flatMap row) := by
  cases chained with
  | grouped tree inOrder =>
    refine ⟨tree.fold chain, Bracketing.combineFold chain tree, fun client => ?_⟩
    rw [client.serveIter, foldRow, inOrder]
  | joined =>
    refine ⟨parts.foldl chain ended, ?_, fun client => ?_⟩
    · simp only [chaining, MonoidOp.of, MonoidOp.foldJoin, pure_bind]
      exact List.foldlM_pure
    · rw [client.serveIter, foldlRow]
      exact client.serveEnded 0 _

end Rows

end OutcomeAlgebra.Iter
