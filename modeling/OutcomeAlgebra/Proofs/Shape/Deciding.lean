import OutcomeAlgebra.Proofs.Shape.Comparing
/-! What a comparison answers. Operands whose computations return can be compared in every
state; the answer is the answer for the trees that they have come to, however much of them was
evaluated before. What is evaluated already stays as it is, and is compared without effect. -/
namespace OutcomeAlgebra

variable {κ ν α β L R : Type}

namespace Shape

section Reaching

variable {context : κ} {next : Nat}

theorem comparesSome (context : κ) {shape : Shape κ ν α} {a b : α} (left : shape.Returns a)
    (right : shape.Returns b) (next : Nat) : ∃ found, shape.Compares context next a b found := by
  induction shape generalizing next with
  | payload same duplicate => exact ⟨_, rfl⟩
  | attempt inner ih =>
    obtain ⟨first, firstEnded, firstReturns⟩ := left context next
    cases firstRan : a.intoResult.run context next with
    | mk log used ending =>
      rw [firstRan] at firstEnded
      cases firstEnded
      obtain ⟨second, secondEnded, secondReturns⟩ := right context (next + used)
      cases secondRan : b.intoResult.run context (next + used) with
      | mk more further ending =>
        rw [secondRan] at secondEnded
        cases secondEnded
        cases first with
        | error c =>
          cases second with
          | error d => exact ⟨_, .failures firstRan secondRan⟩
          | ok y => exact ⟨_, .apart firstRan secondRan nofun⟩
        | ok x =>
          cases second with
          | error d => exact ⟨_, .apart firstRan secondRan nofun⟩
          | ok y =>
            obtain ⟨found, compared⟩ :=
              ih (firstReturns x rfl) (secondReturns y rfl) (next + used + further)
            exact ⟨_, .values firstRan secondRan compared⟩
  | optional inner ih =>
    cases a with
    | none =>
      cases b with
      | none => exact ⟨_, .absent⟩
      | some y => exact ⟨_, .apart nofun⟩
    | some x =>
      cases b with
      | none => exact ⟨_, .apart nofun⟩
      | some y =>
        obtain ⟨found, compared⟩ := ih (left x rfl) (right y rfl) next
        exact ⟨_, .present compared⟩
  | either onLeft onRight leftSome rightSome =>
    cases a with
    | left x =>
      cases b with
      | left y =>
        obtain ⟨found, compared⟩ := leftSome left right next
        exact ⟨_, .lefts compared⟩
      | right y => exact ⟨_, .apart nofun⟩
    | right x =>
      cases b with
      | left y => exact ⟨_, .apart nofun⟩
      | right y =>
        obtain ⟨found, compared⟩ := rightSome left right next
        exact ⟨_, .rights compared⟩
  | list inner ih =>
    by_cases same : a.length = b.length
    · have items : ∃ found, ComparesItems (inner.Compares context) next a b found := by
        induction a generalizing b next with
        | nil =>
          cases b with
          | nil => exact ⟨_, .nil⟩
          | cons y ys => cases same
        | cons x xs rest =>
          cases b with
          | nil => cases same
          | cons y ys =>
            obtain ⟨found, compared⟩ :=
              ih (left x List.mem_cons_self) (right y List.mem_cons_self) next
            cases answer : found.answer with
            | false => exact ⟨_, .differ compared answer⟩
            | true =>
              obtain ⟨others, further⟩ := rest
                (fun item member => left item (List.mem_cons_of_mem _ member))
                (fun item member => right item (List.mem_cons_of_mem _ member)) (next + found.used)
                (Nat.succ.inj same)
              exact ⟨_, .alike compared answer further⟩
      obtain ⟨found, compared⟩ := items
      exact ⟨found, .items same compared⟩
    · exact ⟨_, .lengths same⟩

/- What a comparison leaves has come no further than the operands could, and the trees that
it has come to decide the answer. -/
structure Came (shape : Shape κ ν α) (a b : α) (found : Compared ν α) : Prop where
  left : shape.Refines a found.left
  right : shape.Refines b found.right
  answer : ∀ p q, shape.Holds found.left p → shape.Holds found.right q →
    found.answer = shape.same p q

def Decides (shape : Shape κ ν α) (relation : Comparing ν α) : Prop :=
  ∀ next a b found, relation next a b found → shape.Came a b found

theorem Came.whole {inner : Shape κ ν α} {outer : Shape κ ν β} {f : α → β}
    {g : inner.Tree → outer.Tree} {a b : α} {found : Compared ν α} (came : inner.Came a b found)
    (holds : ∀ value tree,
      outer.Holds (f value) tree ↔ ∃ part, tree = g part ∧ inner.Holds value part)
    (same : ∀ p q, outer.same (g p) (g q) = inner.same p q) :
    outer.Came (f a) (f b) (found.map f f) where
  left tree held := by
    obtain ⟨part, rfl, reached⟩ := (holds found.left tree).mp held
    exact (holds a _).mpr ⟨part, rfl, came.left part reached⟩
  right tree held := by
    obtain ⟨part, rfl, reached⟩ := (holds found.right tree).mp held
    exact (holds b _).mpr ⟨part, rfl, came.right part reached⟩
  answer p q heldLeft heldRight := by
    obtain ⟨p, rfl, reachedLeft⟩ := (holds found.left p).mp heldLeft
    obtain ⟨q, rfl, reachedRight⟩ := (holds found.right q).mp heldRight
    exact (came.answer p q reachedLeft reachedRight).trans (same p q).symm

theorem untouchedCame {shape : Shape κ ν α} {a b : α} {answer : Bool}
    (decided : ∀ p q, shape.Holds a p → shape.Holds b q → answer = shape.same p q) :
    shape.Came a b (.none answer a b) :=
  ⟨refinesSelf shape a, refinesSelf shape b, decided⟩

variable {inner : Shape κ ν α} {relation : Comparing ν α}

theorem triesDecide (decides : inner.Decides relation) :
    (attempt inner).Decides (ComparesTries context relation) := by
  intro next a b found compares
  cases compares with
  | values first second compared =>
    obtain ⟨left, right, answer⟩ := decides _ _ _ _ compared
    refine ⟨refinesKept (by rw [first]) ?_, refinesKept (by rw [second]) ?_, ?_⟩
    · intro tree holds
      cases holds with
      | value held => exact .value (left _ held)
    · intro tree holds
      cases holds with
      | value held => exact .value (right _ held)
    · intro p q holdsLeft holdsRight
      cases holdsKept a holdsLeft with
      | value heldLeft =>
        cases holdsKept b holdsRight with
        | value heldRight => exact answer _ _ heldLeft heldRight
  | failures first second =>
    refine ⟨refinesKept (by rw [first]) fun _ holds => holds,
      refinesKept (by rw [second]) fun _ holds => holds, ?_⟩
    intro p q holdsLeft holdsRight
    cases holdsKept a holdsLeft
    cases holdsKept b holdsRight
    rfl
  | apart first second differ =>
    refine ⟨refinesKept (by rw [first]) fun _ holds => holds,
      refinesKept (by rw [second]) fun _ holds => holds, ?_⟩
    intro p q holdsLeft holdsRight
    cases holdsKept a holdsLeft with
    | value heldLeft =>
      cases holdsKept b holdsRight with
      | value heldRight => exact absurd rfl differ
      | failure capture => rfl
    | failure capture =>
      cases holdsKept b holdsRight with
      | value heldRight => rfl
      | failure capture => exact absurd rfl differ

theorem optionsDecide (decides : inner.Decides relation) :
    (optional inner).Decides (ComparesOptions relation) := by
  intro next a b found compares
  cases compares with
  | absent =>
    refine untouchedCame fun p q holdsLeft holdsRight => ?_
    cases holdsLeft
    cases holdsRight
    rfl
  | present compared => exact (decides _ _ _ _ compared).whole holdsPresent fun _ _ => rfl
  | apart differ =>
    refine untouchedCame fun p q holdsLeft holdsRight => ?_
    cases holdsLeft with
    | absent =>
      cases holdsRight with
      | absent => exact absurd rfl differ
      | present held => rfl
    | present held =>
      cases holdsRight with
      | absent => rfl
      | present held => exact absurd rfl differ

theorem eithersDecide {left : Shape κ ν L} {right : Shape κ ν R} {onLeft : Comparing ν L}
    {onRight : Comparing ν R} (leftDecides : left.Decides onLeft)
    (rightDecides : right.Decides onRight) :
    (either left right).Decides (ComparesEithers onLeft onRight) := by
  intro next a b found compares
  cases compares with
  | lefts compared => exact (leftDecides _ _ _ _ compared).whole holdsLeft fun _ _ => rfl
  | rights compared => exact (rightDecides _ _ _ _ compared).whole holdsRight fun _ _ => rfl
  | apart differ =>
    refine untouchedCame fun p q heldLeft heldRight => ?_
    cases heldLeft with
    | left held =>
      cases heldRight with
      | left held => exact absurd rfl differ
      | right held => rfl
    | right held =>
      cases heldRight with
      | left held => rfl
      | right held => exact absurd rfl differ

theorem itemsDecide (decides : inner.Decides relation) :
    (list inner).Decides (ComparesItems relation) := by
  intro next as bs found compares
  induction compares with
  | nil =>
    refine untouchedCame fun p q holdsLeft holdsRight => ?_
    cases holdsLeft
    cases holdsRight
    rfl
  | differ compared differ =>
    obtain ⟨left, right, answer⟩ := decides _ _ _ _ compared
    refine ⟨?_, ?_, ?_⟩
    · intro trees holds
      cases holds with
      | cons held rest => exact .cons (left _ held) rest
    · intro trees holds
      cases holds with
      | cons held rest => exact .cons (right _ held) rest
    · intro ps qs holdsLeft holdsRight
      cases holdsLeft with
      | cons heldLeft restLeft =>
        cases holdsRight with
        | cons heldRight restRight =>
          have apart := differ.symm.trans (answer _ _ heldLeft heldRight)
          simp only [Compared.map, differ, same, sameItems, ← apart, Bool.false_and]
  | alike compared alike rest ih =>
    obtain ⟨left, right, answer⟩ := decides _ _ _ _ compared
    refine ⟨?_, ?_, ?_⟩
    · intro trees holds
      cases holds with
      | cons held others => exact .cons (left _ held) (ih.left _ others)
    · intro trees holds
      cases holds with
      | cons held others => exact .cons (right _ held) (ih.right _ others)
    · intro ps qs holdsLeft holdsRight
      cases holdsLeft with
      | cons heldLeft restLeft =>
        cases holdsRight with
        | cons heldRight restRight =>
          have equal := alike.symm.trans (answer _ _ heldLeft heldRight)
          have others := ih.answer _ _ restLeft restRight
          simp only [Compared.map, Compared.behind, others, same, sameItems, ← equal, Bool.true_and]

theorem sameItemsLength {τ : Type} {same : τ → τ → Bool} {ps qs : List τ}
    (alike : sameItems same ps qs = true) : ps.length = qs.length := by
  induction ps generalizing qs with
  | nil =>
    cases qs with
    | nil => rfl
    | cons q qs => cases alike
  | cons p ps ih =>
    cases qs with
    | nil => cases alike
    | cons q qs => exact congrArg (· + 1) (ih (Bool.and_eq_true_iff.mp alike).2)

theorem holdsItemsLength {τ : Type} {holds : α → τ → Prop} {items : List α} {trees : List τ}
    (held : HoldsItems holds items trees) : items.length = trees.length := by
  induction held with
  | nil => rfl
  | cons first rest ih => exact congrArg (· + 1) ih

theorem listsDecide (decides : inner.Decides relation) :
    (list inner).Decides (ComparesLists relation) := by
  intro next as bs found compares
  cases compares with
  | items same compared => exact itemsDecide decides _ _ _ _ compared
  | lengths differ =>
    refine untouchedCame fun ps qs holdsLeft holdsRight => ?_
    cases alike : (list inner).same ps qs with
    | false => rfl
    | true =>
      have lengths := sameItemsLength alike
      rw [← holdsItemsLength holdsLeft, ← holdsItemsLength holdsRight] at lengths
      exact absurd lengths differ

theorem comparesDecide (context : κ) (shape : Shape κ ν α) :
    shape.Decides (shape.Compares context) := by
  induction shape with
  | payload same duplicate =>
    intro next a b found compares
    cases compares
    refine untouchedCame fun p q holdsLeft holdsRight => ?_
    cases holdsLeft
    cases holdsRight
    rfl
  | attempt inner ih => exact triesDecide ih
  | optional inner ih => exact optionsDecide ih
  | either left right onLeft onRight => exact eithersDecide onLeft onRight
  | list inner ih => exact listsDecide ih

theorem returnsOutcome {held : Try κ ν α} (returns : (attempt inner).Returns held)
    {outcome : Except Capture α} (ended : (held.intoResult.run context next).ending = .ok outcome) :
    ∀ value, outcome = .ok value → inner.Returns value := by
  obtain ⟨found, reached, further⟩ := returns context next
  rw [ended] at reached
  cases reached
  exact further

theorem comparesReturns {shape : Shape κ ν α} {a b : α} {found : Compared ν α}
    (compares : shape.Compares context next a b found) (left : shape.Returns a)
    (right : shape.Returns b) : shape.Returns found.left ∧ shape.Returns found.right := by
  induction shape generalizing next with
  | payload same duplicate => exact ⟨trivial, trivial⟩
  | attempt inner ih =>
    cases compares with
    | values first second compared =>
      obtain ⟨onLeft, onRight⟩ := ih compared (returnsOutcome left (by rw [first]) _ rfl)
        (returnsOutcome right (by rw [second]) _ rfl)
      exact ⟨returnsKept a fun _ shape => Except.ok.inj shape ▸ onLeft,
        returnsKept b fun _ shape => Except.ok.inj shape ▸ onRight⟩
    | failures first second => exact ⟨returnsKept a nofun, returnsKept b nofun⟩
    | apart first second differ =>
      exact ⟨returnsKept a (returnsOutcome left (by rw [first])),
        returnsKept b (returnsOutcome right (by rw [second]))⟩
  | optional inner ih =>
    cases compares with
    | absent => exact ⟨left, right⟩
    | apart differ => exact ⟨left, right⟩
    | present compared =>
      obtain ⟨onLeft, onRight⟩ := ih compared (left _ rfl) (right _ rfl)
      exact ⟨fun _ shape => Option.some.inj shape ▸ onLeft,
        fun _ shape => Option.some.inj shape ▸ onRight⟩
  | either leftShape rightShape leftReturns rightReturns =>
    cases compares with
    | lefts compared => exact leftReturns compared left right
    | rights compared => exact rightReturns compared left right
    | apart differ => exact ⟨left, right⟩
  | list inner ih =>
    cases compares with
    | lengths differ => exact ⟨left, right⟩
    | items same compared =>
      clear same
      induction compared with
      | nil => exact ⟨left, right⟩
      | differ compared differ =>
        obtain ⟨onLeft, onRight⟩ :=
          ih compared (left _ List.mem_cons_self) (right _ List.mem_cons_self)
        obtain ⟨_, leftRest⟩ := List.forall_mem_cons.mp left
        obtain ⟨_, rightRest⟩ := List.forall_mem_cons.mp right
        exact ⟨List.forall_mem_cons.mpr ⟨onLeft, leftRest⟩,
          List.forall_mem_cons.mpr ⟨onRight, rightRest⟩⟩
      | alike compared alike rest ihRest =>
        obtain ⟨onLeft, onRight⟩ :=
          ih compared (left _ List.mem_cons_self) (right _ List.mem_cons_self)
        obtain ⟨_, leftRest⟩ := List.forall_mem_cons.mp left
        obtain ⟨_, rightRest⟩ := List.forall_mem_cons.mp right
        obtain ⟨leftOthers, rightOthers⟩ := ihRest leftRest rightRest
        exact ⟨List.forall_mem_cons.mpr ⟨onLeft, leftOthers⟩,
          List.forall_mem_cons.mpr ⟨onRight, rightOthers⟩⟩

end Reaching

section Evaluated

variable {context : κ} {next : Nat} {inner : Shape κ ν α}

theorem evaluatedRun {held : Try κ ν α} {log : List (Entry ν)} {used : Nat}
    {outcome : Except Capture α} (evaluated : (attempt inner).Evaluated held)
    (ran : held.intoResult.run context next = ⟨log, used, .ok outcome⟩) :
    log = [] ∧ used = 0 ∧ held.kept outcome = held ∧
      ∀ value, outcome = .ok value → inner.Evaluated value := by
  obtain ⟨found, there, further⟩ := evaluated
  rw [Try.intoResultEvaluated there] at ran
  cases ran
  exact ⟨rfl, rfl, Try.keptEvaluated there, further⟩

structure Silent (shape : Shape κ ν α) (a b : α) (found : Compared ν α) : Prop where
  left : shape.Evaluated a → found.left = a
  right : shape.Evaluated b → found.right = b
  log : shape.Evaluated a → shape.Evaluated b → found.log = [] ∧ found.used = 0

theorem comparesSilent {shape : Shape κ ν α} {a b : α} {found : Compared ν α}
    (compares : shape.Compares context next a b found) : shape.Silent a b found := by
  induction shape generalizing next with
  | payload same duplicate =>
    cases compares
    exact ⟨fun _ => rfl, fun _ => rfl, fun _ _ => ⟨rfl, rfl⟩⟩
  | attempt inner ih =>
    cases compares with
    | values first second compared =>
      obtain ⟨left, right, log⟩ := ih compared
      refine ⟨fun evaluated => ?_, fun evaluated => ?_, fun leftEvaluated rightEvaluated => ?_⟩
      · obtain ⟨_, _, stays, further⟩ := evaluatedRun evaluated first
        rw [← left (further _ rfl)] at stays
        exact stays
      · obtain ⟨_, _, stays, further⟩ := evaluatedRun evaluated second
        rw [← right (further _ rfl)] at stays
        exact stays
      · obtain ⟨rfl, rfl, _, leftFurther⟩ := evaluatedRun leftEvaluated first
        obtain ⟨rfl, rfl, _, rightFurther⟩ := evaluatedRun rightEvaluated second
        obtain ⟨quiet, unused⟩ := log (leftFurther _ rfl) (rightFurther _ rfl)
        simp [Compared.behind, Compared.map, quiet, unused]
    | failures first second | apart first second =>
      refine ⟨fun evaluated => (evaluatedRun evaluated first).2.2.1,
        fun evaluated => (evaluatedRun evaluated second).2.2.1, fun left right => ?_⟩
      obtain ⟨rfl, rfl, _⟩ := evaluatedRun left first
      obtain ⟨rfl, rfl, _⟩ := evaluatedRun right second
      exact ⟨rfl, rfl⟩
  | optional inner ih =>
    cases compares with
    | absent | apart => exact ⟨fun _ => rfl, fun _ => rfl, fun _ _ => ⟨rfl, rfl⟩⟩
    | present compared =>
      obtain ⟨left, right, log⟩ := ih compared
      exact ⟨fun evaluated => congrArg some (left (evaluated _ rfl)),
        fun evaluated => congrArg some (right (evaluated _ rfl)),
        fun onLeft onRight => log (onLeft _ rfl) (onRight _ rfl)⟩
  | either leftShape rightShape leftSilent rightSilent =>
    cases compares with
    | apart => exact ⟨fun _ => rfl, fun _ => rfl, fun _ _ => ⟨rfl, rfl⟩⟩
    | lefts compared =>
      obtain ⟨left, right, log⟩ := leftSilent compared
      exact ⟨fun evaluated => congrArg Either.left (left evaluated),
        fun evaluated => congrArg Either.left (right evaluated), log⟩
    | rights compared =>
      obtain ⟨left, right, log⟩ := rightSilent compared
      exact ⟨fun evaluated => congrArg Either.right (left evaluated),
        fun evaluated => congrArg Either.right (right evaluated), log⟩
  | list inner ih =>
    cases compares with
    | lengths => exact ⟨fun _ => rfl, fun _ => rfl, fun _ _ => ⟨rfl, rfl⟩⟩
    | items same compared =>
      clear same
      induction compared with
      | nil => exact ⟨fun _ => rfl, fun _ => rfl, fun _ _ => ⟨rfl, rfl⟩⟩
      | @differ _ _ _ as bs _ compared differ =>
        obtain ⟨left, right, log⟩ := ih compared
        exact ⟨fun evaluated => congrArg (· :: as) (left (List.forall_mem_cons.mp evaluated).1),
          fun evaluated => congrArg (· :: bs) (right (List.forall_mem_cons.mp evaluated).1),
          fun onLeft onRight =>
            log (List.forall_mem_cons.mp onLeft).1 (List.forall_mem_cons.mp onRight).1⟩
      | alike compared alike rest ihRest =>
        obtain ⟨left, right, log⟩ := ih compared
        obtain ⟨leftRest, rightRest, logRest⟩ := ihRest
        refine ⟨fun evaluated => ?_, fun evaluated => ?_, fun onLeft onRight => ?_⟩
        · obtain ⟨first, others⟩ := List.forall_mem_cons.mp evaluated
          exact congr (congrArg List.cons (left first)) (leftRest others)
        · obtain ⟨first, others⟩ := List.forall_mem_cons.mp evaluated
          exact congr (congrArg List.cons (right first)) (rightRest others)
        · obtain ⟨firstLeft, othersLeft⟩ := List.forall_mem_cons.mp onLeft
          obtain ⟨firstRight, othersRight⟩ := List.forall_mem_cons.mp onRight
          obtain ⟨quiet, unused⟩ := log firstLeft firstRight
          obtain ⟨quietRest, unusedRest⟩ := logRest othersLeft othersRight
          simp [Compared.behind, Compared.map, quiet, unused, quietRest, unusedRest]

end Evaluated

end Shape

end OutcomeAlgebra
