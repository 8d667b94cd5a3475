import OutcomeAlgebra.Proofs.Algebra.Applying
import OutcomeAlgebra.Proofs.Algebra.Repeating
/-! Values with a separator between them. A separator is combined in front of every value but
the first, so that neighbours have one between them and the ends have none. Where grouping
does not matter, a separated list can be cut at any separator; where the separator is the
identity, it is as if there were none. -/
namespace OutcomeAlgebra

variable {m : Type → Type} [Monad m] {κ ν μ α : Type}

def SemigroupOp.Regroups (op : SemigroupOp m α) : Prop :=
  ∀ a b c, (op.append a b >>= fun ab => op.append ab c) =
    op.append b c >>= fun bc => op.append a bc

def SemigroupOp.withBetween (op : SemigroupOp m α) (separator : α) (front back : m α) : m α := do
  let left ← front
  let marked ← op.append left separator
  let right ← back
  op.append marked right

structure MonoidOp.Neutral (monoid : MonoidOp m α) (identity : α) : Prop where
  empty : monoid.empty = pure identity
  left : ∀ a, monoid.append identity a = pure a
  right : ∀ a, monoid.append a identity = pure a

structure MonoidOp.Intersperses (monoid : MonoidOp m α) (copy : Copying m α) (separator : α) :
    Prop where
  sums : ∀ first rest, monoid.intersperse copy separator (first :: rest) =
    monoid.sumNonEmpty first (rest.flatMap fun y => [separator, y])
  splits : monoid.toSemigroupOp.Regroups → ∀ first second front back,
    monoid.intersperse copy separator (first :: front ++ second :: back) =
      monoid.withBetween separator (monoid.intersperse copy separator (first :: front))
        (monoid.intersperse copy separator (second :: back))
  joins : monoid.Neutral separator → monoid.Folds → ∀ values,
    monoid.intersperse copy separator values = monoid.join values

variable [LawfulMonad m]

section Programs

variable {op : SemigroupOp m α} {monoid : MonoidOp m α} {copy : Copying m α} {separator : α}
  {effect : m Unit}

theorem separatedCalls (clones : copy.Clones separator effect) (values : List α) (result : α) :
    MonoidOp.appendSeparated op copy values separator result =
      op.afterCalls (values.flatMap fun y => [effect >>= fun _ => pure separator, pure y])
        result := by
  have copied : copy separator = effect >>= fun _ => pure (separator, separator) := clones
  induction values generalizing result with
  | nil => rfl
  | cons value values ih =>
    simp only [MonoidOp.appendSeparated, copied, bind_assoc, pure_bind, ih, List.flatMap_cons,
      SemigroupOp.afterCalls, List.foldlM_append, List.foldlM_cons, List.foldlM_nil, bind_pure]

theorem afterCallsPure (values : List α) (start : α) :
    op.afterCalls (values.map pure) start = op.sumNonEmpty start values := by
  simp only [SemigroupOp.afterCalls, SemigroupOp.sumNonEmpty, List.foldlM_map, pure_bind]

theorem intersperseSums (clones : copy.Clones separator (pure ())) (first : α) (rest : List α) :
    monoid.intersperse copy separator (first :: rest) =
      monoid.sumNonEmpty first (rest.flatMap fun y => [separator, y]) := by
  have separated : monoid.intersperse copy separator (first :: rest) = _ :=
    separatedCalls clones rest first
  have calls : (rest.flatMap fun y => [(pure () : m Unit) >>= fun _ => pure separator, pure y]) =
      (rest.flatMap fun y => [separator, y]).map pure := by
    simp [List.map_flatMap]
  rw [separated, calls, afterCallsPure]

theorem regroupFold (regroups : op.Regroups) (values : List α) (a b : α) :
    (op.append a b >>= fun ab => op.sumNonEmpty ab values) =
      op.sumNonEmpty b values >>= fun rest => op.append a rest := by
  induction values generalizing b with
  | nil => simp [SemigroupOp.sumNonEmpty]
  | cons value values ih =>
    simp only [SemigroupOp.sumNonEmpty, List.foldlM_cons, bind_assoc] at ih ⊢
    simp only [← ih]
    rw [← bind_assoc, ← bind_assoc, regroups]

theorem intersperseSplits (clones : copy.Clones separator (pure ()))
    (regroups : monoid.toSemigroupOp.Regroups) (first second : α) (front back : List α) :
    monoid.intersperse copy separator (first :: front ++ second :: back) =
      monoid.withBetween separator (monoid.intersperse copy separator (first :: front))
        (monoid.intersperse copy separator (second :: back)) := by
  rw [List.cons_append, intersperseSums clones, intersperseSums clones, intersperseSums clones,
    List.flatMap_append, SemigroupOp.withBetween, SemigroupOp.sumNonEmpty, List.foldlM_append]
  refine bind_congr fun left => ?_
  rw [List.flatMap_cons, List.cons_append, List.cons_append, List.nil_append, List.foldlM_cons]
  refine bind_congr fun marked => ?_
  exact regroupFold regroups (back.flatMap fun y => [separator, y]) marked second

theorem neutralFold (neutral : monoid.Neutral separator) (values : List α) (start : α) :
    monoid.sumNonEmpty start (values.flatMap fun y => [separator, y]) =
      monoid.sumNonEmpty start values := by
  induction values generalizing start with
  | nil => rfl
  | cons value values ih =>
    rw [List.flatMap_cons, List.cons_append, List.cons_append, List.nil_append,
      SemigroupOp.sumNonEmpty, List.foldlM_cons, neutral.right, pure_bind, List.foldlM_cons,
      SemigroupOp.sumNonEmpty, List.foldlM_cons]
    exact bind_congr fun combined => ih combined

theorem intersperseNeutral (neutral : monoid.Neutral separator) (folds : monoid.Folds)
    (clones : copy.Clones separator (pure ())) (values : List α) :
    monoid.intersperse copy separator values = monoid.join values := by
  have joined : monoid.join values = values.foldlM monoid.append separator := by
    rw [folds, MonoidOp.foldJoin, neutral.empty, pure_bind]
  rw [joined]
  cases values with
  | nil => exact neutral.empty
  | cons first rest =>
    rw [intersperseSums clones, neutralFold neutral, List.foldlM_cons, neutral.left, pure_bind]
    rfl

end Programs

section Calls

def MonoidOp.namedBoth (combining emptying : μ) (monoid : MonoidOp (Act κ ν) α) :
    MonoidOp (Act κ (ν ⊕ μ)) α :=
  .of (monoid.toSemigroupOp.named combining) do
    Act.note (.inr emptying)
    monoid.empty.renote .inl

theorem separatedNames (name : μ) (op : SemigroupOp (Act κ ν) α) (copy : Copying (Act κ ν) α)
    (values : List α) (separator result : α) :
    (MonoidOp.appendSeparated (op.named name) copy.unnamed values separator result).Calls
      (List.replicate (2 * values.length) name) := by
  induction values generalizing separator result with
  | nil => exact Act.callsPure result
  | cons value values ih =>
    have copied : (copy.unnamed separator : Act κ (ν ⊕ μ) (α × α)).Calls [] :=
      Act.callsRenote (copy separator)
    exact copied.bind fun both => (namedCalls name op result both.1).bind fun marked =>
      (namedCalls name op marked value).bind fun combined => ih both.2 combined

end Calls

section Equivalences

variable {same : Setoid α} {monoid : MonoidOp (Act κ ν) α} {copy : Copying (Act κ ν) α}
  {f : α → α → α} {identity : α}

theorem intersperseCut (law : monoid.toSemigroupOp.Associates same f)
    (faithful : copy.Faithful same) (separator first second : α) (front back : List α) :
    (monoid.intersperse copy separator (first :: front ++ second :: back)).Agree same
      (monoid.withBetween separator (monoid.intersperse copy separator (first :: front))
        (monoid.intersperse copy separator (second :: back))) := by
  obtain ⟨M, _, stands, reading⟩ := associatesReading law faithful
  obtain ⟨s, given⟩ := reading.total separator
  obtain ⟨x, head⟩ := reading.total first
  obtain ⟨xs, tail⟩ := reading.totalList front
  obtain ⟨y, head'⟩ := reading.total second
  obtain ⟨ys, tail'⟩ := reading.totalList back
  have cut : ((x :: (xs ++ y :: ys)).intersperse s).prod =
      ((x :: xs).intersperse s).prod * s * ((y :: ys).intersperse s).prod := by
    simp [intersperseCons, mul_assoc]
  have left := betweenReads reading.multiplies reading.keeps given head tail
  have right := betweenReads reading.multiplies reading.keeps given head' tail'
  have whole := betweenReads reading.multiplies reading.keeps given head
    (List.rel_append tail (.cons head' tail'))
  rw [cut] at whole
  refine reading.agree whole (Verdict.everyRun.ofBind left fun _ standsLeft => ?_)
  refine Verdict.everyRun.ofBind (reading.multiplies standsLeft given) fun _ standsMarked => ?_
  exact Verdict.everyRun.ofBind right fun _ standsRight =>
    reading.multiplies standsMarked standsRight

theorem intersperseOnes {M : Type} [Monoid M] (ys : List M) :
    (ys.intersperse 1).prod = ys.prod := by
  have skipped (rest : List M) : (rest.flatMap fun y => [1, y]).prod = rest.prod := by
    induction rest with
    | nil => rfl
    | cons z rest ih => simp [ih]
  cases ys with
  | nil => rfl
  | cons y ys => rw [intersperseCons, List.prod_cons, List.prod_cons, skipped]

theorem intersperseIdentity (law : monoid.Unital same f identity) (faithful : copy.Faithful same)
    (values : List α) :
    (monoid.empty >>= fun separator => monoid.intersperse copy separator values).Agree same
      (monoid.join values) := by
  obtain ⟨M, _, stands, reading, made⟩ := unitalReading law faithful
  obtain ⟨ys, all⟩ := reading.totalList values
  refine reading.agree (x := ys.prod) ?_ (reading.joined made law.folds all)
  refine Verdict.everyRun.ofBind made fun separator given => ?_
  rw [← intersperseOnes]
  exact intersperseReads reading.multiplies reading.keeps made given all

end Equivalences

structure MonoidOp.Separates {m : Type → Type} [Monad m] (monoid : MonoidOp m α)
    (copy : Copying m α) (separator : α) : Prop where
  nothing : monoid.intersperse copy separator [] = monoid.empty
  between : ∀ effect, copy.Clones separator effect → ∀ first rest,
    monoid.intersperse copy separator (first :: rest) = monoid.afterCalls
      (rest.flatMap fun y => [effect >>= fun _ => pure separator, pure y]) first
  laws : copy.Clones separator (pure ()) → monoid.Intersperses copy separator

structure MonoidOp.SeparatesCalled (combining emptying : μ) (monoid : MonoidOp (Act κ ν) α)
    (copy : Copying (Act κ ν) α) (separator : α) : Prop where
  nothing : ((monoid.namedBoth combining emptying).intersperse copy.unnamed separator []).Calls
    [emptying]
  between : ∀ first rest, ((monoid.namedBoth combining emptying).intersperse copy.unnamed separator
    (first :: rest)).Calls (List.replicate (2 * rest.length) combining)

theorem monoidSeparates {m : Type → Type} [Monad m] [LawfulMonad m] (monoid : MonoidOp m α)
    (copy : Copying m α) (separator : α) : monoid.Separates copy separator where
  nothing := rfl
  between _ clones first rest := separatedCalls clones rest first
  laws clones := ⟨intersperseSums clones, intersperseSplits clones,
    fun neutral folds => intersperseNeutral neutral folds clones⟩

theorem monoidSeparatesCalled (combining emptying : μ) (monoid : MonoidOp (Act κ ν) α)
    (copy : Copying (Act κ ν) α) (separator : α) :
    monoid.SeparatesCalled combining emptying copy separator where
  nothing := (Act.callsName emptying).bind fun _ => Act.callsRenote monoid.empty
  between first rest := separatedNames combining monoid.toSemigroupOp copy rest separator first

structure SeparatorsPlaced : Prop where
  separates : ∀ (m : Type → Type) [Monad m] [LawfulMonad m] {α : Type} (monoid : MonoidOp m α)
    (copy : Copying m α) separator, monoid.Separates copy separator
  calls : ∀ {κ ν μ α : Type} (combining emptying : μ) (monoid : MonoidOp (Act κ ν) α)
    (copy : Copying (Act κ ν) α) separator,
      monoid.SeparatesCalled combining emptying copy separator
  cut : ∀ {κ ν α : Type} {same : Setoid α} {monoid : MonoidOp (Act κ ν) α}
    {copy : Copying (Act κ ν) α} {f : α → α → α}, copy.Faithful same →
      monoid.toSemigroupOp.Associates same f → ∀ separator first second front back,
        (monoid.intersperse copy separator (first :: front ++ second :: back)).Agree same
          (monoid.withBetween separator (monoid.intersperse copy separator (first :: front))
            (monoid.intersperse copy separator (second :: back)))
  identity : ∀ {κ ν α : Type} {same : Setoid α} {monoid : MonoidOp (Act κ ν) α}
    {copy : Copying (Act κ ν) α} {f : α → α → α} {identity}, copy.Faithful same →
      monoid.Unital same f identity → ∀ values,
        (monoid.empty >>= fun separator => monoid.intersperse copy separator values).Agree same
          (monoid.join values)

theorem separatorsPlaced : SeparatorsPlaced where
  separates _ := monoidSeparates
  calls := monoidSeparatesCalled
  cut faithful law := intersperseCut law faithful
  identity faithful law := intersperseIdentity law faithful

theorem wordsSeparated :
    let text : MonoidOp (Act Unit String) String := .string
    let noted : MonoidOp (Act Unit String) Nat := .of ⟨fun a b => do
      Act.note "combined"
      pure (a.gcd b)⟩ (pure 0)
    text.toSemigroupOp.Regroups ∧ Copying.Clones (m := Act Unit String) plainCopy "-" (pure ()) ∧
      text.intersperse plainCopy "-" ["a", "", "b", "c"] =
        text.withBetween "-" (text.intersperse plainCopy "-" ["a", ""])
          (text.intersperse plainCopy "-" ["b", "c"]) ∧
      text.intersperse plainCopy "-" ["a", "", "b", "c"] = pure "a--b-c" ∧
      noted.Unital ⊥ Nat.gcd 0 ∧
      (noted.empty >>= fun separator => noted.intersperse plainCopy separator [12, 18, 27]).Agree ⊥
        (noted.join [12, 18, 27]) := by
  intro text noted
  have regroups : text.toSemigroupOp.Regroups := by
    intro a b c
    have same : a ++ b ++ c = a ++ (b ++ c) := String.append_assoc
    exact congrArg (pure : String → Act Unit String String) same
  have clones : Copying.Clones (m := Act Unit String) plainCopy "-" (pure ()) := rfl
  have unital : noted.Unital ⊥ Nat.gcd 0 :=
    notedUnital (fun _ _ => "combined") Nat.gcd_assoc Nat.gcd_zero_left Nat.gcd_zero_right
  have faithful : (plainCopy : Copying (Act Unit String) Nat).Faithful ⊥ :=
    fun a _ _ => ⟨(a, a), rfl, rfl, rfl⟩
  have placed := (separatorsPlaced.separates (Act Unit String) text plainCopy "-").laws clones
  have joined : (noted.empty >>= fun separator =>
      noted.intersperse plainCopy separator [12, 18, 27]).Agree ⊥ (noted.join [12, 18, 27]) :=
    separatorsPlaced.identity faithful unital [12, 18, 27]
  exact ⟨regroups, clones, placed.splits regroups "a" "b" [""] ["c"],
    (placed.sums "a" ["", "b", "c"]).trans rfl, unital, joined⟩

end OutcomeAlgebra
