import OutcomeAlgebra.Algebra.Function
import OutcomeAlgebra.Proofs.Algebra.Calling
import OutcomeAlgebra.Proofs.Algebra.Cloning
/-! Functions joined into one, and what an application of it does. Combined point by point,
the functions are called in order, each result combined before the next call; combined one
behind the other, each is called on what the one before it gave. Joining calls nothing, and
what is joined is a function, so that every application does all of it again. Nothing is
asked of the inner operation, and it may be one on functions itself. -/
namespace OutcomeAlgebra

variable {m : Type → Type} [Monad m] {α β χ : Type}

def SemigroupOp.afterCalls (op : SemigroupOp m β) (calls : List (m β)) (start : β) : m β :=
  calls.foldlM (fun result call => do
    let y ← call
    op.append result y) start

def MonoidOp.foldCalls (monoid : MonoidOp m β) (calls : List (m β)) : m β := do
  let start ← monoid.empty
  monoid.afterCalls calls start

def piped (fs : List (α → m α)) (x : α) : m α := fs.foldlM (fun y f => f y) x

section Nested

def Curried (m : Type → Type) (β : Type) : List Type → Type
  | [] => β
  | χ :: types => χ → m (Curried m β types)

inductive Copies (m : Type → Type) : List Type → Type 1 where
  | none : Copies m []
  | more {χ : Type} {types : List Type} (copy : Copying m χ) (others : Copies m types) :
      Copies m (χ :: types)

/- Arguments whose copies do not differ from them, with what copying does beside. -/
inductive Arguments (m : Type → Type) [Monad m] : {types : List Type} → Copies m types →
    Type 1 where
  | none : Arguments m .none
  | more {χ : Type} {types : List Type} {copy : Copying m χ} {copies : Copies m types} (x : χ)
      (effect : m Unit) (clones : copy.Clones x effect) (others : Arguments m copies) :
      Arguments m (.more copy copies)

variable {types : List Type}

def MonoidOp.pointwiseAll (inner : MonoidOp m β) :
    {types : List Type} → Copies m types → MonoidOp m (Curried m β types)
  | _, .none => inner
  | _, .more copy others => .pointwise copy (inner.pointwiseAll others)

def Arguments.applyTo {β : Type} : {types : List Type} → {copies : Copies m types} →
    Arguments m copies → Curried m β types → m β
  | _, _, .none, value => pure value
  | _, _, .more x _ _ others, f => do
    let g ← f x
    others.applyTo g

/- All functions are called on an argument, in order, before any is given the next one. Only
the results of the last calls are combined. -/
def Arguments.foldCalls {β : Type} (inner : MonoidOp m β) : {types : List Type} →
    {copies : Copies m types} → Arguments m copies → List (m (Curried m β types)) → m β
  | _, _, .none, calls => inner.foldCalls calls
  | _, _, .more x effect _ others, calls => do
    let fs ← calls.mapM id
    times fs.length effect
    others.foldCalls inner (fs.map fun f => f x)

end Nested

variable [LawfulMonad m]

section Pointwise

variable {copy : Copying m χ} {inner : SemigroupOp m β}

def beside (copy : Copying m χ) (inner : SemigroupOp m β) (f g : χ → m β) (x : χ) : m β := do
  let (again, x) ← copy x
  let left ← f again
  let right ← g x
  inner.append left right

theorem besideApplied {x : χ} {effect : m Unit} (clones : copy.Clones x effect)
    (fs : List (χ → m β)) (g : χ → m β) :
    fs.foldl (beside copy inner) g x = times fs.length effect >>= fun _ => g x >>= fun start =>
      inner.afterCalls (fs.map fun f => f x) start := by
  have copied : copy x = effect >>= fun _ => pure (x, x) := clones
  induction fs generalizing g with
  | nil => simp [times, SemigroupOp.afterCalls]
  | cons f fs ih =>
    rw [List.foldl_cons, ih, List.length_cons, timesLast]
    simp only [beside, copied, bind_assoc, pure_bind, List.map_cons, SemigroupOp.afterCalls,
      List.foldlM_cons]

theorem pointwiseJoin (copy : Copying m χ) (monoid : MonoidOp m β) (fs : List (χ → m β)) :
    (MonoidOp.pointwise copy monoid).join fs =
      pure (fs.foldl (beside copy monoid.toSemigroupOp) fun _ => monoid.empty) := by
  have folded : (MonoidOp.pointwise copy monoid).join fs = pure (fun _ => monoid.empty) >>=
      fs.foldlM fun f g => pure (beside copy monoid.toSemigroupOp f g) := rfl
  rw [folded, pure_bind, List.foldlM_pure]

theorem pointwiseApplied {monoid : MonoidOp m β} {x : χ} {effect : m Unit}
    (clones : copy.Clones x effect) (fs : List (χ → m β)) :
    fs.foldl (beside copy monoid.toSemigroupOp) (fun _ => monoid.empty) x =
      times fs.length effect >>= fun _ => monoid.foldCalls (fs.map fun f => f x) :=
  besideApplied clones fs fun _ => monoid.empty

theorem callsFirst (f : β → β → β) (calls : List (m β)) (start : β) :
    (⟨fun a b => pure (f a b)⟩ : SemigroupOp m β).afterCalls calls start =
      (fun values => values.foldl f start) <$> calls.mapM id := by
  induction calls generalizing start with
  | nil => simp [SemigroupOp.afterCalls]
  | cons call calls ih =>
    simp only [SemigroupOp.afterCalls] at ih
    simp only [SemigroupOp.afterCalls, List.foldlM_cons, List.mapM_cons, bind_assoc, pure_bind, id,
      ih, map_eq_pure_bind, List.foldl_cons]

theorem pointwiseCalls (copy : Copying m χ) (monoid : MonoidOp m β) (calls : List (m (χ → m β))) :
    (MonoidOp.pointwise copy monoid).foldCalls calls =
      (fun fs => fs.foldl (beside copy monoid.toSemigroupOp) fun _ => monoid.empty) <$>
        calls.mapM id := by
  have folded : (MonoidOp.pointwise copy monoid).foldCalls calls =
      pure (fun _ => monoid.empty) >>= (⟨fun f g => pure (beside copy monoid.toSemigroupOp f g)⟩ :
        SemigroupOp m (χ → m β)).afterCalls calls := rfl
  rw [folded, pure_bind, callsFirst]

theorem pointwiseGiven {monoid : MonoidOp m β} {x : χ} {effect : m Unit}
    (clones : copy.Clones x effect) (calls : List (m (χ → m β))) (rest : β → m α) :
    ((MonoidOp.pointwise copy monoid).foldCalls calls >>= fun f => f x >>= rest) =
      calls.mapM id >>= fun fs => times fs.length effect >>= fun _ =>
        monoid.foldCalls (fs.map fun f => f x) >>= rest := by
  rw [pointwiseCalls, bind_map_left]
  refine bind_congr fun fs => ?_
  rw [pointwiseApplied clones, bind_assoc]

theorem nestedCalls (inner : MonoidOp m β) {types : List Type} {copies : Copies m types}
    (arguments : Arguments m copies) (calls : List (m (Curried m β types))) :
    (inner.pointwiseAll copies).foldCalls calls >>= arguments.applyTo =
      arguments.foldCalls inner calls := by
  induction arguments with
  | none => exact bind_pure _
  | more x effect clones others ih =>
    refine (pointwiseGiven clones calls others.applyTo).trans ?_
    exact bind_congr fun fs => bind_congr fun _ => ih (fs.map fun f => f x)

end Pointwise

section Composition

theorem pipedFold (fs : List (α → m α)) (f : α → m α) (x : α) :
    fs.foldl (fun f g x => f x >>= g) f x = f x >>= piped fs := by
  induction fs generalizing f with
  | nil => exact (bind_pure (f x)).symm
  | cons g fs ih =>
    rw [List.foldl_cons, ih, bind_assoc]
    rfl

theorem compositionJoin (fs : List (α → m α)) :
    MonoidOp.composition.join fs =
      (pure (fs.foldl (fun f g x => f x >>= g) fun x => pure x) : m (α → m α)) := by
  have folded : MonoidOp.composition.join fs = (pure (fun x => pure x) : m (α → m α)) >>=
      fs.foldlM fun f g => pure fun x => f x >>= g := rfl
  rw [folded, pure_bind, List.foldlM_pure]

theorem compositionApplied (fs : List (α → m α)) (x : α) :
    fs.foldl (fun f g x => f x >>= g) (fun x => pure x) x = piped fs x := by
  rw [pipedFold, pure_bind]

end Composition

theorem foldCallsPure (monoid : MonoidOp m β) (values : List β) :
    monoid.foldCalls (values.map pure) =
      MonoidOp.foldJoin monoid.toSemigroupOp monoid.empty values := by
  simp only [MonoidOp.foldCalls, MonoidOp.foldJoin, SemigroupOp.afterCalls, List.foldlM_map,
    pure_bind]

theorem nestedJoin (inner : MonoidOp m β) {types : List Type} (copies : Copies m (χ :: types))
    (fs : List (Curried m β (χ :: types))) :
    ∃ joined, (inner.pointwiseAll copies).join fs = pure joined ∧ ∀ arguments : Arguments m copies,
      arguments.applyTo joined = arguments.foldCalls inner (fs.map pure) := by
  cases copies with
  | more copy others =>
    let monoid := inner.pointwiseAll others
    have made : (MonoidOp.pointwise copy monoid).join fs = pure _ := pointwiseJoin copy monoid fs
    refine ⟨_, made, fun arguments => ?_⟩
    have folded : (MonoidOp.pointwise copy monoid).foldCalls (fs.map pure) = pure _ :=
      (foldCallsPure _ fs).trans made
    have nested := nestedCalls inner arguments (fs.map pure)
    exact ((pure_bind _ _).symm.trans (congrArg (· >>= arguments.applyTo) folded.symm)).trans nested

section Panics

variable {κ ν : Type}

/- Where the program in front returns, a call that panics is the last thing that is done. -/
def Act.CutBy {γ : Type} (whole : Act κ ν γ) (front : Act κ ν α) (call : α → Act κ ν β) : Prop :=
  ∀ ⦃context next log used value more further panic⦄,
    front.run context next = ⟨log, used, .ok value⟩ →
    (call value).run context (next + used) = ⟨more, further, .error panic⟩ →
    whole.run context next = ⟨log ++ more, used + further, .error panic⟩

theorem cutBetween (front : Act κ ν α) (call : α → Act κ ν β) (rest : α → β → Act κ ν χ) :
    (front >>= fun value => call value >>= rest value).CutBy front call := by
  intro context next log used value more further panic returned panicked
  rw [Act.runBindOk returned, Act.runBindError panicked]
  rfl

theorem foldCallsCut (monoid : MonoidOp (Act κ ν) β) (front : List (Act κ ν β)) (call : Act κ ν β)
    (back : List (Act κ ν β)) :
    (monoid.foldCalls (front ++ call :: back)).CutBy (monoid.foldCalls front) fun _ => call := by
  have split : monoid.foldCalls (front ++ call :: back) = monoid.foldCalls front >>= fun result =>
      call >>= fun y => monoid.append result y >>= monoid.afterCalls back := by
    simp only [MonoidOp.foldCalls, SemigroupOp.afterCalls, List.foldlM_append, List.foldlM_cons,
      bind_assoc]
    rfl
  rw [split]
  exact cutBetween _ _ _

theorem pipedCut (front : List (α → Act κ ν α)) (f : α → Act κ ν α) (back : List (α → Act κ ν α))
    (x : α) : (piped (front ++ f :: back) x).CutBy (piped front x) f := by
  have split : piped (front ++ f :: back) x = piped front x >>= fun y => f y >>= piped back := by
    simp only [piped, List.foldlM_append, List.foldlM_cons]
    rfl
  rw [split]
  exact cutBetween _ _ _

theorem pointwiseUncopied {copy : Copying (Act κ ν) χ} {monoid : MonoidOp (Act κ ν) β} {x : χ}
    (clones : copy.Clones x (pure ())) (fs : List (χ → Act κ ν β)) :
    fs.foldl (beside copy monoid.toSemigroupOp) (fun _ => monoid.empty) x =
      monoid.foldCalls (fs.map fun f => f x) := by
  rw [pointwiseApplied clones, timesNothing, pure_bind]

end Panics

section Names

variable {κ ν μ : Type}

def namedFunction (name : μ) (f : χ → Act κ ν β) (x : χ) : Act κ (ν ⊕ μ) β := do
  Act.note (.inr name)
  (f x).renote .inl

theorem functionCalls (name : μ) (f : χ → Act κ ν β) (x : χ) :
    (namedFunction name f x).Calls [name] :=
  (Act.callsName name).bind fun _ => Act.callsRenote (f x)

theorem afterNamedCalls (combining : μ) (op : SemigroupOp (Act κ ν) β)
    (fs : List (μ × (χ → Act κ ν β))) (x : χ) (start : β) :
    ((op.named combining).afterCalls (fs.map fun f => namedFunction f.1 f.2 x) start).Calls
      (fs.flatMap fun f => [f.1, combining]) := by
  induction fs generalizing start with
  | nil => exact Act.callsPure start
  | cons f fs ih =>
    have first := (functionCalls f.1 f.2 x).bind fun y => namedCalls combining op start y
    exact first.bind fun result => ih result

theorem foldNamedCalls (combining : μ) (monoid : MonoidOp (Act κ ν) β)
    (fs : List (μ × (χ → Act κ ν β))) (x : χ) :
    ((monoid.named combining).foldCalls (fs.map fun f => namedFunction f.1 f.2 x)).Calls
      (fs.flatMap fun f => [f.1, combining]) :=
  (Act.callsRenote monoid.empty).bind fun start =>
    afterNamedCalls combining monoid.toSemigroupOp fs x start

theorem pipedNamedCalls (fs : List (μ × (α → Act κ ν α))) (x : α) :
    (piped (fs.map fun f => namedFunction f.1 f.2) x).Calls (fs.map Prod.fst) := by
  induction fs generalizing x with
  | nil => exact Act.callsPure x
  | cons f fs ih => exact (functionCalls f.1 f.2 x).bind fun y => ih y

end Names

structure FunctionsFold (m : Type → Type) [Monad m] (χ β : Type) : Prop where
  pointwise : ∀ (copy : Copying m χ) (inner : MonoidOp m β) (fs : List (χ → m β)),
    ∃ joined, (MonoidOp.pointwise copy inner).join fs = pure joined ∧
      ∀ x effect, copy.Clones x effect → joined x =
        times fs.length effect >>= fun _ => inner.foldCalls (fs.map fun f => f x)
  nested : ∀ (inner : MonoidOp m β) {types : List Type} (copies : Copies m (χ :: types))
    (fs : List (Curried m β (χ :: types))),
    ∃ joined, (inner.pointwiseAll copies).join fs = pure joined ∧
      ∀ arguments : Arguments m copies,
        arguments.applyTo joined = arguments.foldCalls inner (fs.map pure)
  composition : ∀ fs : List (χ → m χ), ∃ joined, MonoidOp.composition.join fs = pure joined ∧
    ∀ x, joined x = piped fs x

structure FunctionsCut (κ ν χ β : Type) : Prop where
  pointwise : ∀ (copy : Copying (Act κ ν) χ) (inner : MonoidOp (Act κ ν) β) front f back,
    ∃ whole before, (MonoidOp.pointwise copy inner).join (front ++ f :: back) = pure whole ∧
      (MonoidOp.pointwise copy inner).join front = pure before ∧
      ∀ x, copy.Clones x (pure ()) → (whole x).CutBy (before x) fun _ => f x
  composition : ∀ (front : List (χ → Act κ ν χ)) f back,
    ∃ whole before, MonoidOp.composition.join (front ++ f :: back) = pure whole ∧
      MonoidOp.composition.join front = pure before ∧ ∀ x, (whole x).CutBy (before x) f

structure FunctionsCalled (κ ν μ χ β : Type) : Prop where
  pointwise : ∀ (combining : μ) (inner : MonoidOp (Act κ ν) β) (fs : List (μ × (χ → Act κ ν β))),
    ∃ joined, (MonoidOp.pointwise plainCopy (inner.named combining)).join
        (fs.map fun f => namedFunction f.1 f.2) = pure joined ∧
      ∀ x, (joined x).Calls (fs.flatMap fun f => [f.1, combining])
  composition : ∀ fs : List (μ × (χ → Act κ ν χ)),
    ∃ joined, MonoidOp.composition.join (fs.map fun f => namedFunction f.1 f.2) = pure joined ∧
      ∀ x, (joined x).Calls (fs.map Prod.fst)

theorem functionsFold (m : Type → Type) [Monad m] [LawfulMonad m] (χ β : Type) :
    FunctionsFold m χ β where
  pointwise copy inner fs :=
    ⟨_, pointwiseJoin copy inner fs, fun _ _ clones => pointwiseApplied clones fs⟩
  nested := nestedJoin
  composition fs := ⟨_, compositionJoin fs, compositionApplied fs⟩

theorem functionsCut (κ ν χ β : Type) : FunctionsCut κ ν χ β where
  pointwise copy inner front f back := by
    refine ⟨_, _, pointwiseJoin copy inner _, pointwiseJoin copy inner front, fun x clones => ?_⟩
    rw [pointwiseUncopied clones, pointwiseUncopied clones, List.map_append, List.map_cons]
    exact foldCallsCut inner _ (f x) _
  composition front f back := by
    refine ⟨_, _, compositionJoin _, compositionJoin front, fun x => ?_⟩
    rw [compositionApplied, compositionApplied]
    exact pipedCut front f back x

theorem functionsCalled (κ ν μ χ β : Type) : FunctionsCalled κ ν μ χ β where
  pointwise combining inner fs := by
    refine ⟨_, pointwiseJoin plainCopy (inner.named combining) _, fun x => ?_⟩
    rw [pointwiseUncopied (plainClones x), List.map_map]
    exact foldNamedCalls combining inner fs x
  composition fs := by
    refine ⟨_, compositionJoin _, fun x => ?_⟩
    rw [compositionApplied]
    exact pipedNamedCalls fs x

structure FunctionsJoin : Prop where
  folds : ∀ (m : Type → Type) [Monad m] [LawfulMonad m] {χ β : Type}, FunctionsFold m χ β
  cut : ∀ {κ ν χ β : Type}, FunctionsCut κ ν χ β
  calls : ∀ {κ ν μ χ β : Type}, FunctionsCalled κ ν μ χ β

theorem functionsJoined : FunctionsJoin where
  folds m := functionsFold m _ _
  cut := functionsCut _ _ _ _
  calls := functionsCalled _ _ _ _ _

end OutcomeAlgebra
