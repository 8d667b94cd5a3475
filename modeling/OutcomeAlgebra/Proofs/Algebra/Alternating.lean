import OutcomeAlgebra.Proofs.Algebra.Calling
import OutcomeAlgebra.Proofs.Algebra.Flattening
/-! Monoids side by side. Whatever is derived from combining pairs takes turns between the two:
each call of the first is followed by the same call of the second, and neither hears of the
other. So each component of what comes of it is what comes of its own operation, and the calls
of the two alternate. Nothing is asked of the operations but that they do the same whenever
they are called on the same values; they may leave notes, and they may panic. -/
namespace OutcomeAlgebra

variable {m : Type → Type} {κ ν μ α β γ δ ρ σ : Type}

structure CopyMonoid (m : Type → Type) (α : Type) extends MonoidOp m α where
  copy : Copying m α

def CopyMonoid.beside [Monad m] (first : CopyMonoid m α) (second : CopyMonoid m β) :
    CopyMonoid m (α × β) where
  toMonoidOp := first.toMonoidOp.compose second.toMonoidOp
  copy value := do
    let left ← first.copy value.1
    let right ← second.copy value.2
    pure ((left.1, right.1), left.2, right.2)

/- What can be derived from combining, with the values it is used on. -/
inductive Combination (α : Type) where
  | join (values : List α)
  | sumNonEmpty (head : α) (tail : List α)
  | appendN (value : α) (count : Nat)
  | multiply (value : α) (count : Nat)
  | intersperse (separator : α) (values : List α)

namespace Combination

def map (f : α → β) : Combination α → Combination β
  | join values => .join (values.map f)
  | sumNonEmpty head tail => .sumNonEmpty (f head) (tail.map f)
  | appendN value count => .appendN (f value) count
  | multiply value count => .multiply (f value) count
  | intersperse separator values => .intersperse (f separator) (values.map f)

def run [Monad m] [MonadExceptOf Panic m] (monoid : CopyMonoid m α) : Combination α → m α
  | join values => monoid.join values
  | sumNonEmpty head tail => monoid.sumNonEmpty head tail
  | appendN value count => monoid.appendN monoid.copy value count
  | multiply value count => monoid.multiply monoid.copy value count
  | intersperse separator values => monoid.intersperse monoid.copy separator values

theorem mapMap (f : α → β) (g : β → γ) (combination : Combination α) :
    (combination.map f).map g = combination.map fun value => g (f value) := by
  cases combination <;> simp [map]

theorem mapSelf (combination : Combination α) : combination.map id = combination := by
  cases combination <;> simp [map]

end Combination

section Programs

variable [Monad m] [MonadExceptOf Panic m]

inductive Turn (first : CopyMonoid m α) (second : CopyMonoid m β) :
    {χ ξ : Type} → m χ → m ξ → Prop where
  | empty : Turn first second first.empty second.empty
  | append (a b : α × β) : Turn first second (first.append a.1 b.1) (second.append a.2 b.2)
  | copy (a : α × β) : Turn first second (first.copy a.1) (second.copy a.2)

/- Two programs that make the same calls, and one that makes both calls in turn. -/
inductive TakesTurns (first : CopyMonoid m α) (second : CopyMonoid m β) :
    {ρ σ : Type} → m ρ → m σ → m (ρ × σ) → Prop where
  | returns {ρ σ : Type} (left : ρ) (right : σ) :
      TakesTurns first second (pure left) (pure right) (pure (left, right))
  | panics {ρ σ : Type} (panic : Panic) :
      TakesTurns first second (throw panic : m ρ) (throw panic : m σ) (throw panic)
  | calls {χ ξ ρ σ : Type} {x : m χ} {y : m ξ} {f : χ → m ρ} {g : ξ → m σ} {h : χ → ξ → m (ρ × σ)}
      (turn : Turn first second x y)
      (rest : ∀ left right, TakesTurns first second (f left) (g right) (h left right)) :
      TakesTurns first second (x >>= f) (y >>= g) (x >>= fun left => y >>= h left)

variable [LawfulMonad m] {first : CopyMonoid m α} {second : CopyMonoid m β}

section Calls

variable {f : α → m ρ} {g : β → m σ} {h : α × β → m (ρ × σ)}

theorem turnEmpty
    (rest : ∀ left right, TakesTurns first second (f left) (g right) (h (left, right))) :
    TakesTurns first second (first.empty >>= f) (second.empty >>= g)
      ((first.beside second).empty >>= h) := by
  have both : (first.beside second).empty >>= h =
      first.empty >>= fun left => second.empty >>= fun right => h (left, right) := by
    simp [CopyMonoid.beside, MonoidOp.compose, MonoidOp.of]
  rw [both]
  exact .calls .empty rest

theorem turnAppend (a b : α × β)
    (rest : ∀ left right, TakesTurns first second (f left) (g right) (h (left, right))) :
    TakesTurns first second (first.append a.1 b.1 >>= f) (second.append a.2 b.2 >>= g)
      ((first.beside second).append a b >>= h) := by
  have both : (first.beside second).append a b >>= h = first.append a.1 b.1 >>= fun left =>
      second.append a.2 b.2 >>= fun right => h (left, right) := by
    simp [CopyMonoid.beside, MonoidOp.compose, MonoidOp.of, SemigroupOp.pair]
  rw [both]
  exact .calls (.append a b) rest

theorem turnCopy (a : α × β) {f : α × α → m ρ} {g : β × β → m σ}
    {h : (α × β) × (α × β) → m (ρ × σ)}
    (rest : ∀ left right, TakesTurns first second (f left) (g right)
      (h ((left.1, right.1), left.2, right.2))) :
    TakesTurns first second (first.copy a.1 >>= f) (second.copy a.2 >>= g)
      ((first.beside second).copy a >>= h) := by
  have both : (first.beside second).copy a >>= h = first.copy a.1 >>= fun left =>
      second.copy a.2 >>= fun right => h ((left.1, right.1), left.2, right.2) := by
    simp [CopyMonoid.beside]
  rw [both]
  exact .calls (.copy a) rest

end Calls

section Loops

variable (first second)

theorem foldTurns (values : List (α × β)) (start : α × β) :
    TakesTurns first second ((values.map Prod.fst).foldlM first.append start.1)
      ((values.map Prod.snd).foldlM second.append start.2)
      (values.foldlM (first.beside second).append start) := by
  induction values generalizing start with
  | nil => exact .returns start.1 start.2
  | cons value rest ih =>
    rw [List.map_cons, List.map_cons, List.foldlM_cons, List.foldlM_cons, List.foldlM_cons]
    exact turnAppend start value fun left right => ih (left, right)

theorem copiesTurns (count : Nat) (value result : α × β) :
    TakesTurns first second (first.appendCopies first.copy value.1 count result.1)
      (second.appendCopies second.copy value.2 count result.2)
      ((first.beside second).appendCopies (first.beside second).copy value count result) := by
  induction count generalizing value result with
  | zero => exact .returns result.1 result.2
  | succ count ih =>
    exact turnCopy value fun left right => turnAppend result (left.1, right.1) fun left' right' =>
      ih (left.2, right.2) (left', right')

theorem separatedTurns (values : List (α × β)) (separator result : α × β) :
    TakesTurns first second
      (MonoidOp.appendSeparated first.toSemigroupOp first.copy (values.map Prod.fst) separator.1
        result.1)
      (MonoidOp.appendSeparated second.toSemigroupOp second.copy (values.map Prod.snd) separator.2
        result.2)
      (MonoidOp.appendSeparated (first.beside second).toSemigroupOp (first.beside second).copy
        values separator result) := by
  induction values generalizing separator result with
  | nil => exact .returns result.1 result.2
  | cons value rest ih =>
    exact turnCopy separator fun left right => turnAppend result (left.1, right.1)
      fun left' right' => turnAppend (left', right') value
        fun left'' right'' => ih (left.2, right.2) (left'', right'')

theorem emptyTurns :
    TakesTurns first second first.empty second.empty (first.beside second).empty := by
  have turns : TakesTurns first second (first.empty >>= pure) (second.empty >>= pure)
      ((first.beside second).empty >>= pure) := turnEmpty .returns
  simpa only [bind_pure] using turns

theorem repeatedTurns (value : α × β) (count : Nat) :
    TakesTurns first second (first.appendN first.copy value.1 count)
      (second.appendN second.copy value.2 count)
      ((first.beside second).appendN (first.beside second).copy value count) := by
  cases count with
  | zero => exact .panics .emptyRepeat
  | succ count =>
    exact turnCopy value fun left right =>
      copiesTurns first second count (left.2, right.2) (left.1, right.1)

end Loops

theorem combinationTurns (firstFolds : first.Folds) (secondFolds : second.Folds)
    (combination : Combination (α × β)) :
    TakesTurns first second ((combination.map Prod.fst).run first)
      ((combination.map Prod.snd).run second) (combination.run (first.beside second)) := by
  cases combination with
  | join values =>
    simp only [Combination.map, Combination.run]
    rw [firstFolds, secondFolds]
    exact turnEmpty fun left right => foldTurns first second values (left, right)
  | sumNonEmpty head tail => exact foldTurns first second tail head
  | appendN value count => exact repeatedTurns first second value count
  | multiply value count =>
    cases count with
    | zero => exact emptyTurns first second
    | succ count => exact repeatedTurns first second value (count + 1)
  | intersperse separator values =>
    cases values with
    | nil => exact emptyTurns first second
    | cons value rest => exact separatedTurns first second rest separator value

end Programs

section Steadiness

def Act.Steady (act : Act κ ν α) : Prop :=
  ∀ context next next', act.run context next = act.run context next'

theorem Act.Steady.bind {act : Act κ ν α} {rest : α → Act κ ν β} (first : act.Steady)
    (second : ∀ value, (rest value).Steady) : (act >>= rest).Steady := by
  intro context next next'
  cases ran : act.run context next with
  | mk log used ending =>
    have again : act.run context next' = ⟨log, used, ending⟩ := (first context next' next).trans ran
    cases ending with
    | error panic => rw [runBindError ran, runBindError again]
    | ok value => rw [runBindOk ran, runBindOk again, second value context _ (next' + used)]

theorem Act.Steady.renote {act : Act κ ν α} (steady : act.Steady) (f : ν → μ) :
    (act.renote f).Steady := by
  intro context next next'
  have same := steady context next next'
  show Report.mk _ _ _ = Report.mk _ _ _
  rw [same]

/- An operation does the same whenever it is called on the same values. -/
structure CopyMonoid.Regular (monoid : CopyMonoid (Act κ ν) α) : Prop where
  append : ∀ a b, (monoid.append a b).Steady
  empty : monoid.empty.Steady
  copy : ∀ a, (monoid.copy a).Steady
  folds : monoid.Folds

theorem CopyMonoid.Regular.beside {first : CopyMonoid (Act κ ν) α}
    {second : CopyMonoid (Act κ ν) β} (left : first.Regular) (right : second.Regular) :
    (first.beside second).Regular where
  append a b := (left.append a.1 b.1).bind fun _ => (right.append a.2 b.2).bind fun _ _ _ _ => rfl
  empty := left.empty.bind fun _ => right.empty.bind fun _ _ _ _ => rfl
  copy a := (left.copy a.1).bind fun _ => (right.copy a.2).bind fun _ _ _ _ => rfl
  folds := composeFolds first.toMonoidOp second.toMonoidOp

theorem turnSteady {first : CopyMonoid (Act κ ν) α} {second : CopyMonoid (Act κ ν) β}
    (left : first.Regular) (right : second.Regular) {x : Act κ ν ρ} {y : Act κ ν σ}
    (turn : Turn first second x y) : x.Steady ∧ y.Steady := by
  cases turn with
  | empty => exact ⟨left.empty, right.empty⟩
  | append a b => exact ⟨left.append a.1 b.1, right.append a.2 b.2⟩
  | copy a => exact ⟨left.copy a.1, right.copy a.2⟩

end Steadiness

section Reports

structure Pairs (whole : Except Panic (ρ × σ)) (first : Except Panic ρ) (second : Except Panic σ) :
    Prop where
  returns : ∀ left right,
    whole = .ok (left, right) ↔ first = .ok left ∧ second = .ok right
  panics : ∀ panic, whole = .error panic → first = .error panic ∨ second = .error panic

theorem pairsFirst (panic : Panic) (second : Except Panic σ) :
    Pairs (.error panic : Except Panic (ρ × σ)) (.error panic) second where
  returns _ _ := ⟨nofun, nofun⟩
  panics _ stopped := .inl (congrArg Except.error (Except.error.inj stopped))

theorem pairsSecond (panic : Panic) (first : Except Panic ρ) :
    Pairs (.error panic : Except Panic (ρ × σ)) first (.error panic) where
  returns _ _ := ⟨nofun, fun both => nomatch both.2⟩
  panics _ stopped := .inr (congrArg Except.error (Except.error.inj stopped))

def alternate : List μ → List μ → List μ
  | x :: xs, y :: ys => x :: y :: alternate xs ys
  | _, _ => []

theorem alternateTurn {c d : Option μ} (same : c.isSome = d.isSome) (xs ys : List μ) :
    alternate (c.toList ++ xs) (d.toList ++ ys) = c.toList ++ d.toList ++ alternate xs ys := by
  cases c <;> cases d <;> simp_all [alternate]

variable (seen : Entry ν → Option μ)

/- What is seen of the halves alternates in what is seen of the whole, up to a panic. -/
structure Report.Alternates (whole : Report ν (ρ × σ)) (first : Report ν ρ)
    (second : Report ν σ) : Prop where
  begins : whole.log.filterMap seen <+:
    alternate (first.log.filterMap seen) (second.log.filterMap seen)
  goesOn : ∀ both, whole.ending = .ok both →
    whole.log.filterMap seen = alternate (first.log.filterMap seen) (second.log.filterMap seen) ∧
      (first.log.filterMap seen).length = (second.log.filterMap seen).length

theorem Report.Alternates.behind {seen : Entry ν → Option μ} {whole : Report ν (ρ × σ)}
    {first : Report ν ρ} {second : Report ν σ} (alternates : whole.Alternates seen first second)
    {c d : Option μ} (same : c.isSome = d.isSome) {front back : List (Entry ν)}
    (shown : front.filterMap seen = c.toList) (shown' : back.filterMap seen = d.toList)
    (used used' : Nat) :
    ((whole.behind back used').behind front used).Alternates seen (first.behind front used)
      (second.behind back used') := by
  constructor
  case begins =>
    simp only [Report.behind, List.filterMap_append, shown, shown', alternateTurn same,
      ← List.append_assoc]
    exact (List.prefix_append_right_inj _).mpr alternates.begins
  case goesOn =>
    intro both ended
    obtain ⟨exact, even⟩ := alternates.goesOn both ended
    have length : c.toList.length = d.toList.length := by cases c <;> cases d <;> simp_all
    simp only [Report.behind, List.filterMap_append, shown, shown', alternateTurn same,
      ← List.append_assoc, exact, List.length_append, even, length, and_self]

theorem alternatesFirst {seen : Entry ν → Option μ} {c d : Option μ} (same : c.isSome = d.isSome)
    {log : List (Entry ν)} (shown : log.filterMap seen = c.toList) {second : Report ν σ}
    {ys : List μ} (shown' : second.log.filterMap seen = d.toList ++ ys) (panic : Panic)
    (used used' : Nat) :
    (⟨log, used, .error panic⟩ : Report ν (ρ × σ)).Alternates seen ⟨log, used', .error panic⟩
      second := by
  have turned := alternateTurn same [] ys
  rw [List.append_nil] at turned
  refine ⟨?_, nofun⟩
  simp only [shown, shown', turned, List.append_assoc]
  exact List.prefix_append _ _

theorem alternatesSecond {seen : Entry ν → Option μ} {c d : Option μ} (same : c.isSome = d.isSome)
    {front log : List (Entry ν)} (shown : front.filterMap seen = c.toList)
    (shown' : log.filterMap seen = d.toList) (first : Report ν ρ) (panic : Panic)
    (used used' used'' : Nat) :
    ((⟨log, used', .error panic⟩ : Report ν (ρ × σ)).behind front used).Alternates seen
      (first.behind front used) ⟨log, used'', .error panic⟩ := by
  have turned := alternateTurn same (first.log.filterMap seen) []
  rw [List.append_nil] at turned
  refine ⟨?_, nofun⟩
  simp only [Report.behind, List.filterMap_append, shown, shown', turned]
  exact List.prefix_append _ _

def Act.Shows (act : Act κ ν α) (name : Option μ) : Prop :=
  ∀ context next, (act.run context next).log.filterMap seen = name.toList

def SeenAlike (x : Act κ ν ρ) (y : Act κ ν σ) : Prop :=
  ∃ c d : Option μ, c.isSome = d.isSome ∧ x.Shows seen c ∧ y.Shows seen d

variable {seen}

theorem Act.Shows.begins {act : Act κ ν α} {name : Option μ} (shows : act.Shows seen name)
    (rest : α → Act κ ν β) (context : κ) (next : Nat) :
    ∃ more, ((act >>= rest).run context next).log.filterMap seen = name.toList ++ more := by
  have shown := shows context next
  cases ran : act.run context next with
  | mk log used ending =>
    rw [ran] at shown
    cases ending with
    | error panic =>
      rw [runBindError ran]
      exact ⟨[], by simpa using shown⟩
    | ok value =>
      rw [runBindOk ran]
      exact ⟨_, by rw [Report.behind, List.filterMap_append, shown]⟩

end Reports

section Runs

variable {first : CopyMonoid (Act κ ν) α} {second : CopyMonoid (Act κ ν) β}

theorem TakesTurns.reports (regular : first.Regular) (regular' : second.Regular)
    (seen : Entry ν → Option μ)
    (alike : ∀ {χ ξ : Type} {x : Act κ ν χ} {y : Act κ ν ξ}, Turn first second x y →
      SeenAlike seen x y)
    {p : Act κ ν ρ} {q : Act κ ν σ} {whole : Act κ ν (ρ × σ)}
    (turns : TakesTurns first second p q whole) (context : κ) (next next₁ next₂ : Nat) :
    Pairs (whole.run context next).ending (p.run context next₁).ending
        (q.run context next₂).ending ∧
      (whole.run context next).Alternates seen (p.run context next₁) (q.run context next₂) := by
  induction turns generalizing next next₁ next₂ with
  | returns left right =>
    refine ⟨⟨fun left' right' => ?_, nofun⟩, List.nil_prefix, fun _ _ => ⟨rfl, rfl⟩⟩
    simp [Act.runPure]
  | panics panic => exact ⟨pairsFirst panic _, List.nil_prefix, nofun⟩
  | @calls χ ξ ρ σ x y f g h turn rest ih =>
    obtain ⟨steadyFirst, steadySecond⟩ := turnSteady regular regular' turn
    obtain ⟨c, d, same, shows, shows'⟩ := alike turn
    have shown := shows context next
    cases ran : x.run context next with
    | mk log used ending =>
      have ran₁ : x.run context next₁ = ⟨log, used, ending⟩ :=
        (steadyFirst context next₁ next).trans ran
      rw [ran] at shown
      cases ending with
      | error panic =>
        obtain ⟨ys, seenSecond⟩ := shows'.begins g context next₂
        rw [Act.runBindError ran, Act.runBindError ran₁]
        exact ⟨pairsFirst panic _, alternatesFirst same shown seenSecond panic used used⟩
      | ok left =>
        have shown' := shows' context (next + used)
        cases ran' : y.run context (next + used) with
        | mk log' used' ending' =>
          have ran₂ : y.run context next₂ = ⟨log', used', ending'⟩ :=
            (steadySecond context next₂ (next + used)).trans ran'
          rw [ran'] at shown'
          rw [Act.runBindOk ran, Act.runBindOk ran₁]
          cases ending' with
          | error panic =>
            rw [Act.runBindError ran', Act.runBindError ran₂]
            exact ⟨pairsSecond panic _, alternatesSecond same shown shown' _ panic used used' used'⟩
          | ok right =>
            rw [Act.runBindOk ran', Act.runBindOk ran₂]
            obtain ⟨pairs, alternates⟩ :=
              ih left right (next + used + used') (next₁ + used) (next₂ + used')
            exact ⟨pairs, alternates.behind same shown shown' used used'⟩

end Runs

section Projections

variable {first : CopyMonoid (Act κ ν) α} {second : CopyMonoid (Act κ ν) β}

theorem combinationPairs (left : first.Regular) (right : second.Regular)
    (combination : Combination (α × β)) (context : κ) (next : Nat) :
    Pairs ((combination.run (first.beside second)).run context next).ending
      (((combination.map Prod.fst).run first).run context next).ending
      (((combination.map Prod.snd).run second).run context next).ending := by
  have unseen {χ : Type} (act : Act κ ν χ) : act.Shows (fun _ => (none : Option Empty)) none :=
    fun context next => List.filterMap_none (act.run context next).log
  have turns := combinationTurns left.folds right.folds combination
  exact (turns.reports left right (fun _ => none)
    (fun {_ _ x y} _ => ⟨none, none, rfl, unseen x, unseen y⟩) context next next next).1

/- A monoid somewhere among others side by side, and how its part of a value is read. -/
inductive CopyMonoid.Among (part : CopyMonoid (Act κ ν) α) :
    {γ : Type} → CopyMonoid (Act κ ν) γ → (γ → α) → Prop where
  | alone : Among part part id
  | first {γ δ : Type} {monoid : CopyMonoid (Act κ ν) γ} {read : γ → α}
      (inside : Among part monoid read) {other : CopyMonoid (Act κ ν) δ} (regular : other.Regular) :
      Among part (monoid.beside other) fun value => read value.1
  | second {γ δ : Type} {monoid : CopyMonoid (Act κ ν) γ} {read : γ → α}
      (inside : Among part monoid read) {other : CopyMonoid (Act κ ν) δ} (regular : other.Regular) :
      Among part (other.beside monoid) fun value => read value.2

theorem amongRegular {part : CopyMonoid (Act κ ν) α} {whole : CopyMonoid (Act κ ν) γ}
    {read : γ → α} (among : part.Among whole read) (regular : part.Regular) : whole.Regular := by
  induction among with
  | alone => exact regular
  | first inside other ih => exact ih.beside other
  | second inside other ih => exact other.beside ih

theorem amongReturns {part : CopyMonoid (Act κ ν) α} {whole : CopyMonoid (Act κ ν) γ}
    {read : γ → α} (among : part.Among whole read) (regular : part.Regular)
    (combination : Combination γ) {context : κ} {next : Nat} {value : γ}
    (returned : ((combination.run whole).run context next).ending = .ok value) :
    (((combination.map read).run part).run context next).ending = .ok (read value) := by
  induction among with
  | alone =>
    rw [Combination.mapSelf]
    exact returned
  | first inside other ih =>
    have pairs := combinationPairs (amongRegular inside regular) other combination context next
    have half := ih (combination.map Prod.fst) ((pairs.returns _ _).mp returned).1
    rwa [Combination.mapMap] at half
  | second inside other ih =>
    have pairs := combinationPairs other (amongRegular inside regular) combination context next
    have half := ih (combination.map Prod.snd) ((pairs.returns _ _).mp returned).2
    rwa [Combination.mapMap] at half

end Projections

section Notes

def SemigroupOp.noting (write : α → α → μ) (op : SemigroupOp (Act κ ν) α) :
    SemigroupOp (Act κ (ν ⊕ μ)) α where
  append a b := do
    Act.note (.inr (write a b))
    (op.append a b).renote .inl

def CopyMonoid.noting (write : α → α → μ) (monoid : CopyMonoid (Act κ ν) α) :
    CopyMonoid (Act κ (ν ⊕ μ)) α where
  toMonoidOp := .of (monoid.toSemigroupOp.noting write) (monoid.empty.renote .inl)
  copy := monoid.copy.unnamed

variable {first : CopyMonoid (Act κ ν) α} {second : CopyMonoid (Act κ ν) β}
  {write : α → α → μ} {write' : β → β → μ}

theorem CopyMonoid.Regular.noting {monoid : CopyMonoid (Act κ ν) α} (regular : monoid.Regular)
    (write : α → α → μ) : (monoid.noting write).Regular where
  append a b := Act.Steady.bind (fun _ _ _ => rfl) fun _ => (regular.append a b).renote Sum.inl
  empty := regular.empty.renote Sum.inl
  copy a := (regular.copy a).renote Sum.inl
  folds := rfl

theorem renoteShows (act : Act κ ν α) :
    (act.renote (.inl : ν → ν ⊕ μ)).Shows Entry.called? none :=
  fun context next => callsUnnamed (act.run context next).log

theorem notingShows (write : α → α → μ) (op : SemigroupOp (Act κ ν) α) (a b : α) :
    ((op.noting write).append a b).Shows Entry.called? (some (write a b)) := by
  intro context next
  have noted : (Act.note (.inr (write a b)) : Act κ (ν ⊕ μ) Unit).run context next =
      ⟨[.note (.inr (write a b))], 0, .ok ()⟩ := rfl
  rw [SemigroupOp.noting, Act.runBindOk noted, Report.behind, List.filterMap_append,
    renoteShows (op.append a b) context (next + 0)]
  rfl

theorem combinationAlternates (left : first.Regular) (right : second.Regular)
    (write : α → α → μ) (write' : β → β → μ) (combination : Combination (α × β)) (context : κ)
    (next : Nat) :
    ((combination.run ((first.noting write).beside (second.noting write'))).run context
      next).Alternates Entry.called?
        (((combination.map Prod.fst).run (first.noting write)).run context next)
        (((combination.map Prod.snd).run (second.noting write')).run context next) := by
  have turns := combinationTurns (left.noting write).folds (right.noting write').folds combination
  refine (turns.reports (left.noting write) (right.noting write') Entry.called? ?_ context next
    next next).2
  intro χ ξ x y turn
  cases turn with
  | empty => exact ⟨none, none, rfl, renoteShows first.empty, renoteShows second.empty⟩
  | append a b =>
    exact ⟨some (write a.1 b.1), some (write' a.2 b.2), rfl,
      notingShows write first.toSemigroupOp a.1 b.1,
      notingShows write' second.toSemigroupOp a.2 b.2⟩
  | copy a =>
    exact ⟨none, none, rfl, renoteShows (first.copy a.1), renoteShows (second.copy a.2)⟩

end Notes

structure FoldingMonoids (m : Type → Type) [Monad m] (α β : Type) : Prop where
  plain : ∀ (op : SemigroupOp m α) empty, (MonoidOp.of op empty).Folds
  string : (MonoidOp.string : MonoidOp m String).Folds
  list : (MonoidOp.list : MonoidOp m (List α)).Folds
  beside : ∀ (first : CopyMonoid m α) (second : CopyMonoid m β), (first.beside second).Folds

structure ComponentsAlternate : Prop where
  turns : ∀ (m : Type → Type) [Monad m] [LawfulMonad m] [MonadExceptOf Panic m] {α β : Type}
    {first : CopyMonoid m α} {second : CopyMonoid m β}, first.Folds → second.Folds →
      ∀ combination : Combination (α × β),
        TakesTurns first second ((combination.map Prod.fst).run first)
          ((combination.map Prod.snd).run second) (combination.run (first.beside second))
  folding : ∀ (m : Type → Type) [Monad m] [LawfulMonad m] {α β : Type}, FoldingMonoids m α β
  pairs : ∀ {κ ν α β : Type} {first : CopyMonoid (Act κ ν) α} {second : CopyMonoid (Act κ ν) β},
    first.Regular → second.Regular → ∀ (combination : Combination (α × β)) context next,
      Pairs ((combination.run (first.beside second)).run context next).ending
        (((combination.map Prod.fst).run first).run context next).ending
        (((combination.map Prod.snd).run second).run context next).ending
  calls : ∀ {κ ν μ α β : Type} {first : CopyMonoid (Act κ ν) α} {second : CopyMonoid (Act κ ν) β},
    first.Regular → second.Regular → ∀ (combination : Combination (α × β)) context next
      (write : α → α → μ) (write' : β → β → μ),
      ((combination.run ((first.noting write).beside (second.noting write'))).run context
        next).Alternates Entry.called?
          (((combination.map Prod.fst).run (first.noting write)).run context next)
          (((combination.map Prod.snd).run (second.noting write')).run context next)
  regular : ∀ {κ ν α γ : Type} {part : CopyMonoid (Act κ ν) α} {whole : CopyMonoid (Act κ ν) γ}
    {read : γ → α}, part.Among whole read → part.Regular → whole.Regular
  returns : ∀ {κ ν α γ : Type} {part : CopyMonoid (Act κ ν) α} {whole : CopyMonoid (Act κ ν) γ}
    {read : γ → α}, part.Among whole read → part.Regular →
      ∀ (combination : Combination γ) context next value,
        ((combination.run whole).run context next).ending = .ok value →
          (((combination.map read).run part).run context next).ending = .ok (read value)

theorem foldingMonoids (m : Type → Type) [Monad m] [LawfulMonad m] (α β : Type) :
    FoldingMonoids m α β where
  plain _ _ := rfl
  string := funext stringFlattens.folds
  list := funext listFlattens.folds
  beside first second := composeFolds first.toMonoidOp second.toMonoidOp

theorem componentsAlternate : ComponentsAlternate where
  turns _ := combinationTurns
  folding m := foldingMonoids m _ _
  pairs := combinationPairs
  calls left right combination context next write write' :=
    combinationAlternates left right write write' combination context next
  regular := amongRegular
  returns among regular combination _ _ _ := amongReturns among regular combination

theorem quotientsBesideText :
    let quotient : CopyMonoid (Act Unit String) Int :=
      ⟨.of ⟨fun a b => if b = 0 then Act.stop (.raised "zero") else do
        Act.note "divided"
        pure (a / b)⟩ (pure 1), plainCopy⟩
    let text : CopyMonoid (Act Unit String) String := ⟨.string, plainCopy⟩
    let combination : Combination (Int × String) := .intersperse (2, "-") [(40, "a"), (5, "b")]
    let copies : Combination (Int × String × Int) := .appendN (1, "ab", 1) 3
    quotient.Regular ∧ text.Regular ∧
      (((combination.map Prod.fst).run quotient).run () 0).ending = .ok 4 ∧
      (((combination.map Prod.snd).run text).run () 0).ending = .ok "a-b" ∧
      ((combination.run (quotient.beside text)).run () 0).ending = .ok (4, "a-b") ∧
      text.Among (quotient.beside (text.beside quotient)) (fun value => value.2.1) ∧
      (((copies.map fun value => value.2.1).run text).run () 0).ending = .ok "ababab" := by
  intro quotient text combination copies
  have left : quotient.Regular := {
    append := fun a b => by
      show (if b = 0 then _ else _ : Act Unit String Int).Steady
      split
      case isTrue => exact fun _ _ _ => rfl
      case isFalse => exact fun _ _ _ => rfl
    empty := fun _ _ _ => rfl
    copy := fun _ _ _ _ => rfl
    folds := rfl }
  have right : text.Regular :=
    ⟨fun _ _ _ _ _ => rfl, fun _ _ _ => rfl, fun _ _ _ _ => rfl, funext stringFlattens.folds⟩
  have among : text.Among (quotient.beside (text.beside quotient)) (fun value => value.2.1) :=
    .second (.first .alone left) left
  have pairs := componentsAlternate.pairs left right combination () 0
  have half := componentsAlternate.returns among right copies () 0 (1, "ababab", 1) rfl
  exact ⟨left, right, rfl, rfl, (pairs.returns 4 "a-b").mpr ⟨rfl, rfl⟩, among, half⟩

end OutcomeAlgebra
