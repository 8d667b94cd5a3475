import OutcomeAlgebra.Proofs.Shape.Holding
/-! What a comparison does, one rule for each way that it can go. It evaluates both outcomes of
two tries, and goes into what they hold only where both are values; of two lists it goes up to
the first difference, and into neither where the lengths differ. What it does not go into stays
as it was, and nothing is written but what the evaluations write. -/
namespace OutcomeAlgebra

variable {κ ν α β L R : Type}

structure Compared (ν α : Type) where
  log : List (Entry ν)
  used : Nat
  answer : Bool
  left : α
  right : α

abbrev Comparing (ν α : Type) := Nat → α → α → Compared ν α → Prop

namespace Compared

def none (answer : Bool) (left right : α) : Compared ν α := ⟨[], 0, answer, left, right⟩

def map (f g : α → β) (found : Compared ν α) : Compared ν β :=
  ⟨found.log, found.used, found.answer, f found.left, g found.right⟩

def behind (log : List (Entry ν)) (used : Nat) (found : Compared ν α) : Compared ν α :=
  ⟨log ++ found.log, used + found.used, found.answer, found.left, found.right⟩

def report (found : Compared ν α) : Report ν (Except Panic Bool × α × α) :=
  ⟨found.log, found.used, .ok (.ok found.answer, found.left, found.right)⟩

theorem behindReport (log : List (Entry ν)) (used : Nat) (found : Compared ν α) :
    found.report.behind log used = (found.behind log used).report := rfl

end Compared

namespace Shape

inductive ComparesTries (context : κ) (inner : Comparing ν α) : Comparing ν (Try κ ν α) where
  | values {next used further : Nat} {left right : Try κ ν α} {log more : List (Entry ν)} {a b : α}
      {found : Compared ν α}
      (first : left.intoResult.run context next = ⟨log, used, .ok (.ok a)⟩)
      (second : right.intoResult.run context (next + used) = ⟨more, further, .ok (.ok b)⟩)
      (compared : inner (next + used + further) a b found) :
      ComparesTries context inner next left right
        (((found.map (left.kept <| .ok ·) (right.kept <| .ok ·)).behind more further).behind
          log used)
  | failures {next used further : Nat} {left right : Try κ ν α} {log more : List (Entry ν)}
      {a b : Capture}
      (first : left.intoResult.run context next = ⟨log, used, .ok (.error a)⟩)
      (second : right.intoResult.run context (next + used) = ⟨more, further, .ok (.error b)⟩) :
      ComparesTries context inner next left right
        (((Compared.none (a.same b) (left.kept (.error a)) (right.kept (.error b))).behind
          more further).behind log used)
  | apart {next used further : Nat} {left right : Try κ ν α} {log more : List (Entry ν)}
      {a b : Except Capture α}
      (first : left.intoResult.run context next = ⟨log, used, .ok a⟩)
      (second : right.intoResult.run context (next + used) = ⟨more, further, .ok b⟩)
      (differ : a.isOk ≠ b.isOk) :
      ComparesTries context inner next left right
        (((Compared.none false (left.kept a) (right.kept b)).behind more further).behind log used)

inductive ComparesOptions (inner : Comparing ν α) : Comparing ν (Option α) where
  | absent {next : Nat} : ComparesOptions inner next none none (.none true none none)
  | present {next : Nat} {a b : α} {found : Compared ν α} (compared : inner next a b found) :
      ComparesOptions inner next (some a) (some b) (found.map some some)
  | apart {next : Nat} {a b : Option α} (differ : a.isSome ≠ b.isSome) :
      ComparesOptions inner next a b (.none false a b)

inductive ComparesEithers (left : Comparing ν L) (right : Comparing ν R) :
    Comparing ν (Either L R) where
  | lefts {next : Nat} {a b : L} {found : Compared ν L} (compared : left next a b found) :
      ComparesEithers left right next (.left a) (.left b) (found.map .left .left)
  | rights {next : Nat} {a b : R} {found : Compared ν R} (compared : right next a b found) :
      ComparesEithers left right next (.right a) (.right b) (found.map .right .right)
  | apart {next : Nat} {a b : Either L R} (differ : a.isLeft ≠ b.isLeft) :
      ComparesEithers left right next a b (.none false a b)

inductive ComparesItems (inner : Comparing ν α) : Comparing ν (List α) where
  | nil {next : Nat} : ComparesItems inner next [] [] (.none true [] [])
  | differ {next : Nat} {a b : α} {as bs : List α} {found : Compared ν α}
      (compared : inner next a b found) (differ : found.answer = false) :
      ComparesItems inner next (a :: as) (b :: bs) (found.map (· :: as) (· :: bs))
  | alike {next : Nat} {a b : α} {as bs : List α} {found : Compared ν α}
      {others : Compared ν (List α)} (compared : inner next a b found) (same : found.answer = true)
      (rest : ComparesItems inner (next + found.used) as bs others) :
      ComparesItems inner next (a :: as) (b :: bs)
        ((others.map (found.left :: ·) (found.right :: ·)).behind found.log found.used)

inductive ComparesLists (inner : Comparing ν α) : Comparing ν (List α) where
  | lengths {next : Nat} {as bs : List α} (differ : as.length ≠ bs.length) :
      ComparesLists inner next as bs (.none false as bs)
  | items {next : Nat} {as bs : List α} {found : Compared ν (List α)}
      (same : as.length = bs.length) (compared : ComparesItems inner next as bs found) :
      ComparesLists inner next as bs found

def Compares (context : κ) {α : Type} : Shape κ ν α → Comparing ν α
  | .payload same _ => fun _ a b found => found = .none (same a b) a b
  | .attempt inner => ComparesTries context (inner.Compares context)
  | .optional inner => ComparesOptions (inner.Compares context)
  | .either left right => ComparesEithers (left.Compares context) (right.Compares context)
  | .list inner => ComparesLists (inner.Compares context)

section Running

variable {context : κ} {next : Nat} {inner : Comparing ν α}
  {payload : α → α → Act κ ν (Except Panic Bool × α × α)}

def Runs (context : κ) (payload : α → α → Act κ ν (Except Panic Bool × α × α))
    (relation : Comparing ν α) : Prop :=
  ∀ next a b found, relation next a b found → (payload a b).run context next = found.report

theorem runAsResult {held : Try κ ν α} {log : List (Entry ν)} {used : Nat}
    {outcome : Except Capture α}
    (ran : held.intoResult.run context next = ⟨log, used, .ok outcome⟩) :
    (Try.asResult held).run context next =
      ⟨log, used, .ok (.ok outcome, held.kept outcome)⟩ := by
  rw [Try.asResultKept, Act.runBindOk (Act.runEnding ran)]
  simp [Report.behind, Act.runPure]

theorem runWhole {act : Act κ ν (Except Panic Bool × α × α)} {found : Compared ν α}
    (ran : act.run context next = found.report) (f g : α → β) :
    (act >>= fun (answer, a, b) => pure (answer, f a, g b)).run context next =
      (found.map f g).report := by
  rw [Act.runBindOk ran]
  simp [Report.behind, Act.runPure, Compared.report, Compared.map]

theorem triesRun (runs : Runs context payload inner) :
    Runs context (Try.equal payload) (ComparesTries context inner) := by
  intro next left right found compares
  unfold Try.equal
  cases compares with
  | values first second compared =>
    have inside := runWhole (runs _ _ _ _ compared) (left.kept <| .ok ·) (right.kept <| .ok ·)
    rw [Act.runBindOk (runAsResult first)]
    simp only []
    rw [Act.runBindOk (runAsResult second)]
    simp only [Try.putBackKept, inside, Compared.behindReport]
  | failures first second =>
    rw [Act.runBindOk (runAsResult first)]
    simp only []
    rw [Act.runBindOk (runAsResult second)]
    rfl
  | @apart _ _ _ _ _ _ _ a b first second differ =>
    rw [Act.runBindOk (runAsResult first)]
    simp only []
    rw [Act.runBindOk (runAsResult second)]
    cases a with
    | ok a =>
      cases b with
      | ok b => exact absurd rfl differ
      | error b => rfl
    | error a =>
      cases b with
      | ok b => rfl
      | error b => exact absurd rfl differ

theorem optionsRun (runs : Runs context payload inner) :
    Runs context (Optional.equal payload) (ComparesOptions inner) := by
  intro next left right found compares
  cases compares with
  | absent => rfl
  | present compared => exact runWhole (runs _ _ _ _ compared) some some
  | apart differ =>
    cases left with
    | none =>
      cases right with
      | none => exact absurd rfl differ
      | some b => rfl
    | some a =>
      cases right with
      | none => rfl
      | some b => exact absurd rfl differ

theorem eithersRun {left : L → L → Act κ ν (Except Panic Bool × L × L)}
    {right : R → R → Act κ ν (Except Panic Bool × R × R)} {onLeft : Comparing ν L}
    {onRight : Comparing ν R} (leftRuns : Runs context left onLeft)
    (rightRuns : Runs context right onRight) :
    Runs context (Either.equal left right) (ComparesEithers onLeft onRight) := by
  intro next a b found compares
  cases compares with
  | lefts compared => exact runWhole (leftRuns _ _ _ _ compared) Either.left Either.left
  | rights compared => exact runWhole (rightRuns _ _ _ _ compared) Either.right Either.right
  | apart differ =>
    cases a with
    | left a =>
      cases b with
      | left b => exact absurd rfl differ
      | right b => rfl
    | right a =>
      cases b with
      | left b => rfl
      | right b => exact absurd rfl differ

theorem itemsRun (runs : Runs context payload inner) :
    Runs context (Items.compare payload) (ComparesItems inner) := by
  intro next left right found compares
  induction compares with
  | nil => rfl
  | differ compared differ =>
    unfold Items.compare
    rw [Act.runBindOk (runs _ _ _ _ compared)]
    simp only [differ]
    simp [Compared.report, Compared.map, Report.behind, Act.runPure, differ]
  | alike compared same rest ih =>
    unfold Items.compare
    rw [Act.runBindOk (runs _ _ _ _ compared)]
    simp only [same]
    rw [runWhole ih]
    rfl

theorem listsRun (runs : Runs context payload inner) :
    Runs context (Items.equal payload) (ComparesLists inner) := by
  intro next left right found compares
  unfold Items.equal
  cases compares with
  | lengths differ =>
    rw [if_neg differ]
    rfl
  | items same compared =>
    rw [if_pos same]
    exact itemsRun runs _ _ _ _ compared

theorem comparesRun (context : κ) (shape : Shape κ ν α) :
    Runs context shape.equal (shape.Compares context) := by
  induction shape with
  | payload same duplicate =>
    intro next a b found compares
    cases compares
    rfl
  | attempt inner ih => exact triesRun ih
  | optional inner ih => exact optionsRun ih
  | either left right onLeft onRight => exact eithersRun onLeft onRight
  | list inner ih => exact listsRun ih

end Running

end Shape

end OutcomeAlgebra
