import OutcomeAlgebra.Proofs.Shape.Watching
/-! Equality and copying, by outcome alone. The trees that two values come to decide whether
the values are equal, and it does not matter what was evaluated beforehand. A copy is built of
what its source has come to; nothing in it is left to evaluate, and it equals the source. -/
namespace OutcomeAlgebra

variable {κ ν α : Type}

namespace Shape

structure Comes (shape : Shape κ ν α) (value : α) (tree : shape.Tree) : Prop where
  returns : shape.Returns value
  only : ∀ other, shape.Holds value other → other = tree

section Evaluated

variable {shape : Shape κ ν α} {a b : α} {p q : shape.Tree}

theorem comesEvaluated (evaluated : shape.Evaluated a) (holds : shape.Holds a p) :
    shape.Comes a p where
  returns := evaluatedReturns evaluated
  only _ held := evaluatedOne evaluated held holds

theorem comesLater (context : κ) (comes : shape.Comes a p) (returns : shape.Returns b)
    (refines : shape.Refines a b) : shape.Holds b p := by
  obtain ⟨tree, holds⟩ := holdsSome context returns
  have one := comes.only tree (refines tree holds)
  rw [← one]
  exact holds

theorem evaluatedEqual (left : shape.Evaluated a) (right : shape.Evaluated b)
    (onLeft : shape.Holds a p) (onRight : shape.Holds b q) (context : κ) (next : Nat) :
    (shape.equal a b).run context next = ⟨[], 0, .ok (.ok (shape.same p q), a, b)⟩ := by
  obtain ⟨found, compares⟩ :=
    comparesSome context (evaluatedReturns left) (evaluatedReturns right) next
  have silent := comparesSilent compares
  have came := comparesDecide context shape next a b found compares
  have stays := silent.left left
  have staysRight := silent.right right
  obtain ⟨quiet, unused⟩ := silent.log left right
  have answer := came.answer p q (by rw [stays]; exact onLeft) (by rw [staysRight]; exact onRight)
  rw [comparesRun context shape next a b found compares, Compared.report, quiet, unused, answer,
    stays, staysRight]

theorem eagerEqual (shape : Shape κ ν α) (p q : shape.Tree) (context : κ) (next : Nat) :
    (shape.equal (shape.eager p) (shape.eager q)).run context next =
      ⟨[], 0, .ok (.ok (shape.same p q), shape.eager p, shape.eager q)⟩ :=
  evaluatedEqual (evaluatedEager shape p) (evaluatedEager shape q) (holdsEager context shape p)
    (holdsEager context shape q) context next

end Evaluated

/- A comparison ends in an answer. The trees come to decide it, and eager values of those
trees are compared to the same answer. -/
structure Judged (shape : Shape κ ν α) (context : κ) (next : Nat) (a b : α)
    (found : Compared ν α) : Prop where
  goes : shape.Compares context next a b found
  ran : (shape.equal a b).run context next = found.report
  left : shape.Returns found.left
  right : shape.Returns found.right
  came : shape.Came a b found
  silent : shape.Silent a b found
  eager : ∀ p q, shape.Holds found.left p → shape.Holds found.right q → ∀ context next,
    (shape.equal (shape.eager p) (shape.eager q)).run context next =
      ⟨[], 0, .ok (.ok found.answer, shape.eager p, shape.eager q)⟩
  comes : ∀ p q, shape.Comes a p → shape.Comes b q → found.answer = shape.same p q

def clone (shape : Shape κ ν α) (found : Settled ν α shape.Tree) : α :=
  shape.eager (shape.duplicate found.tree)

/- Copying ends in an evaluated copy that equals the source, and leaves the source evaluated. -/
structure Cloned (shape : Shape κ ν α) (context : κ) (next : Nat) (value : α)
    (found : Settled ν α shape.Tree) : Prop where
  goes : shape.Settles context next value found
  ran : (shape.copy value).run context next =
    ⟨found.log, found.used, .ok (.ok (shape.clone found), found.kept)⟩
  self : (shape.equalSelf value).run context next =
    ⟨found.log, found.used, .ok (.ok true, found.kept)⟩
  reached : shape.Reached value found
  evaluated : shape.Evaluated (shape.clone found)
  quiet : ∀ {β : Type} (look : Look shape β) context, Quiet look.sight context (shape.clone found)
  equal : shape.Faithful → ∀ context next,
    (shape.equal found.kept (shape.clone found)).run context next =
      ⟨[], 0, .ok (.ok true, found.kept, shape.clone found)⟩

theorem judgedSome {shape : Shape κ ν α} {a b : α} (left : shape.Returns a)
    (right : shape.Returns b) (context : κ) (next : Nat) :
    ∃ found, shape.Judged context next a b found := by
  obtain ⟨found, compares⟩ := comparesSome context left right next
  obtain ⟨leftReturns, rightReturns⟩ := comparesReturns compares left right
  have came := comparesDecide context shape next a b found compares
  refine ⟨found, compares, comparesRun context shape next a b found compares, leftReturns,
    rightReturns, came, comparesSilent compares, ?_, ?_⟩
  · intro p q onLeft onRight context next
    rw [came.answer p q onLeft onRight]
    exact eagerEqual shape p q context next
  · intro p q leftComes rightComes
    have onLeft := comesLater context leftComes leftReturns came.left
    have onRight := comesLater context rightComes rightReturns came.right
    exact came.answer p q onLeft onRight

theorem clonedSome {shape : Shape κ ν α} (lawful : shape.Lawful) {value : α}
    (returns : shape.Returns value) (context : κ) (next : Nat) :
    ∃ found, shape.Cloned context next value found := by
  obtain ⟨found, settles⟩ := settlesSome context returns next
  have reached := settlesReached settles
  have evaluated := evaluatedEager shape (shape.duplicate found.tree)
  refine ⟨found, settles, copyRuns context shape next value found settles,
    equalSelfRuns context lawful next value found settles, reached, evaluated,
    fun look => lookQuiet look lawful evaluated, ?_⟩
  intro faithful context next
  have alike := duplicateSame faithful found.tree
  rw [← alike]
  exact evaluatedEqual reached.evaluated evaluated reached.holds (holdsEager context shape _)
    context next

section Tries

variable {shape : Shape κ ν α} {context : κ} {next : Nat}

theorem outcomesCompared {left right : Try κ ν α} {found : Compared ν (Try κ ν α)}
    (compares : (attempt shape).Compares context next left right found) :
    ∃ first second, found.left.outcome? = some first ∧ found.right.outcome? = some second ∧
      (∀ c d, first = .error c → second = .error d → (found.answer = true ↔ c.handle = d.handle)) ∧
      (first.isOk ≠ second.isOk → found.answer = false) := by
  cases compares with
  | values first second compared =>
    refine ⟨_, _, left.outcomeKept _, right.outcomeKept _, nofun, fun differ => ?_⟩
    exact absurd rfl differ
  | failures first second =>
    refine ⟨_, _, left.outcomeKept _, right.outcomeKept _, ?_, fun differ => absurd rfl differ⟩
    rintro c d ⟨⟩ ⟨⟩
    exact beq_iff_eq
  | apart first second differ =>
    refine ⟨_, _, left.outcomeKept _, right.outcomeKept _, ?_, fun _ => rfl⟩
    rintro c d rfl rfl
    exact absurd rfl differ

theorem pendingSettled {run : Act κ ν (Except Capture α)} {found : Settled ν (Try κ ν α) _}
    (settles : (attempt shape).Settles context next (.deferred (.pending run)) found) :
    ∃ more outcome, found.log = .event .evaluating :: (run.run context next).log ++ more ∧
      found.kept = .deferred (.ready outcome) := by
  have started : (Try.deferred (.pending run) : Try κ ν α).intoResult.run context next =
      (run.run context next).behind [.event .evaluating] 0 := Act.runBindOk rfl fun _ => run
  cases settles with
  | value ran settled =>
    rw [started] at ran
    have log := congrArg Report.log ran
    exact ⟨_, _, congrArg (· ++ _) log.symm, rfl⟩
  | failure ran =>
    rw [started] at ran
    have log := congrArg Report.log ran
    exact ⟨[], _, log.symm.trans (List.append_nil _).symm, rfl⟩

theorem cloneOutcome (shape : Shape κ ν α) (found : Settled ν (Try κ ν α) (attempt shape).Tree) :
    ∃ outcome, (attempt shape).clone found = Try.ofOutcome outcome := by
  unfold clone
  cases found.tree with
  | ok tree => exact ⟨.ok (shape.eager (shape.duplicate tree)), rfl⟩
  | error capture => exact ⟨.error capture, rfl⟩

end Tries

end Shape

/- Equality and copies depend on outcomes alone, for tries and for what is built of them: of
two values, of one that is copied, and of values that are looked at in any order. -/
structure Shape.EqualByOutcome (shape : Shape κ ν α) : Prop where
  equates : Shape.Equates shape.same
  eager : ∀ tree, shape.Comes (shape.eager tree) tree
  compares : ∀ a b, shape.Returns a → shape.Returns b → ∀ context next,
    ∃ found, shape.Judged context next a b found
  copies : ∀ value, shape.Returns value → ∀ context next,
    ∃ found, shape.Cloned context next value found
  watches : ∀ store sightings final, (∀ value ∈ store, shape.Returns value) →
    shape.Watches store sightings final →
      Consistent sightings ∧ (shape.Faithful → CopiesEqual sightings) ∧
      ∃ trees, shape.Fits store trees ∧ shape.Fits final trees ∧
        ∀ sighting ∈ sightings, shape.Explains trees sighting
  outcomes : ∀ left right : Try κ ν α, (Shape.attempt shape).Returns left →
    (Shape.attempt shape).Returns right → ∀ context next, ∃ found first second,
      (Shape.attempt shape).Judged context next left right found ∧
      found.left.outcome? = some first ∧ found.right.outcome? = some second ∧
      (∀ c d, first = .error c → second = .error d →
        (found.answer = true ↔ c.handle = d.handle)) ∧
      (first.isOk ≠ second.isOk → found.answer = false)
  pending : ∀ run, (Shape.attempt shape).Returns (.deferred (.pending run)) →
    ∀ context next, ∃ found more outcome copied,
      (Shape.attempt shape).Cloned context next (.deferred (.pending run)) found ∧
      found.log = .event .evaluating :: (run context next).log ++ more ∧
      found.kept = .deferred (.ready outcome) ∧
      (Shape.attempt shape).clone found = Try.ofOutcome copied

theorem equalByOutcome [Nonempty κ] (shape : Shape κ ν α) (lawful : shape.Lawful) :
    shape.EqualByOutcome where
  equates := Shape.sameEquates lawful
  eager tree := by
    obtain ⟨context⟩ := ‹Nonempty κ›
    exact Shape.comesEvaluated (Shape.evaluatedEager shape tree)
      (Shape.holdsEager context shape tree)
  compares _ _ left right := Shape.judgedSome left right
  copies _ returns := Shape.clonedSome lawful returns
  watches store sightings final returns watches := by
    obtain ⟨context⟩ := ‹Nonempty κ›
    obtain ⟨later, explained⟩ := Shape.watchesExplained lawful returns watches
    obtain ⟨trees, fits⟩ := Shape.fitsSome context later
    obtain ⟨fitted, explains⟩ := explained trees fits
    have consistent := Shape.explainedConsistent lawful explains
    have copies := fun faithful => Shape.explainedCopies lawful faithful explains
    exact ⟨consistent, copies, trees, fitted, fits, explains⟩
  outcomes left right leftReturns rightReturns context next := by
    obtain ⟨found, judged⟩ := Shape.judgedSome leftReturns rightReturns context next
    obtain ⟨first, second, onLeft, onRight, failures, apart⟩ := Shape.outcomesCompared judged.goes
    exact ⟨found, first, second, judged, onLeft, onRight, failures, apart⟩
  pending run returns context next := by
    have lawfulTries : (Shape.attempt shape).Lawful := lawful
    obtain ⟨found, cloned⟩ := Shape.clonedSome lawfulTries returns context next
    obtain ⟨more, outcome, log, kept⟩ := Shape.pendingSettled cloned.goes
    obtain ⟨copied, same⟩ := Shape.cloneOutcome shape found
    exact ⟨found, more, outcome, copied, cloned, log, kept, same⟩

section Nested

open Shape

def nestedTries : Shape Unit Unit (Try Unit Unit (List (Try Unit Unit Nat))) :=
  .attempt (.list (.attempt (.payload (· == ·) id)))

def nestedPending : Try Unit Unit (List (Try Unit Unit Nat)) :=
  .delayed (pure (.ok [.delayed (pure (.ok 3)), .success 4]))

def nestedEager : Try Unit Unit (List (Try Unit Unit Nat)) := .success [.success 3, .success 5]

theorem nestedReturns : nestedTries.Returns nestedPending := by
  intro context next
  refine ⟨_, rfl, ?_⟩
  rintro items ⟨⟩ item member
  cases member with
  | head => exact fun context next => ⟨_, rfl, fun _ _ => trivial⟩
  | tail _ member =>
    cases List.mem_singleton.mp member
    exact fun context next => ⟨_, rfl, fun _ _ => trivial⟩

theorem nestedEvaluated : nestedTries.Evaluated nestedEager :=
  evaluatedEager nestedTries (.ok [.ok (3 : Nat), .ok (5 : Nat)])

theorem nestedCompared : nestedTries.Lawful ∧ ∃ found copied,
    nestedTries.Judged () 0 nestedPending nestedEager found ∧
      found.log = [.event .evaluating, .event .evaluating] ∧ found.answer = false ∧
      nestedTries.Cloned () 0 found.left copied ∧ copied.log = [] := by
  have lawful : nestedTries.Lawful :=
    ⟨fun a => beq_self_eq_true a, fun same => beq_iff_eq.mpr (beq_iff_eq.mp same).symm,
      fun first second => beq_iff_eq.mpr ((beq_iff_eq.mp first).trans (beq_iff_eq.mp second))⟩
  have equal := equalByOutcome nestedTries lawful
  obtain ⟨found, judged⟩ :=
    equal.compares nestedPending nestedEager nestedReturns (evaluatedReturns nestedEvaluated) () 0
  obtain ⟨copied, cloned⟩ := equal.copies found.left judged.left () 0
  have ran := judged.ran
  have log : found.log = [.event .evaluating, .event .evaluating] :=
    (congrArg Report.log ran).symm
  have compared := Except.ok.inj (congrArg Report.ending ran)
  have answer : found.answer = false := (Except.ok.inj (congrArg Prod.fst compared)).symm
  have left : _ = found.left := congrArg (fun ended => ended.2.1) compared
  have quiet : copied.log = [] := by
    have copiedRan := cloned.ran
    rw [← left] at copiedRan
    exact (congrArg Report.log copiedRan).symm
  exact ⟨lawful, found, copied, judged, log, answer, cloned, quiet⟩

end Nested

end OutcomeAlgebra
