import OutcomeAlgebra.Proofs.Try.Consuming
import OutcomeAlgebra.Proofs.Try.Starting
/-! The life of a delayed `Try` under any sequence of looks. Each look may be taken
in a context of its own and may panic; the `Try` is looked at again all the same.
One look at most starts the computation, and all later ones see what came of it. -/
namespace OutcomeAlgebra.Try

variable {κ ν α : Type}

structure Use (κ α : Type) where
  context : κ
  next : Nat
  look : Look α

structure Moment (κ ν α : Type) where
  use : Use κ α
  before : Try κ ν α
  report : Report ν (Seen κ ν α)
  after : Try κ ν α

def awaiting (act : Act κ ν (Except Capture α)) : Try κ ν α := .deferred (.ofAct act)

def poisoned : Try κ ν α := .deferred .poisoned

variable (payload : Payload κ ν α)

namespace Moment

def Happens (moment : Moment κ ν α) : Prop :=
  (moment.use.look.run payload moment.before).run moment.use.context moment.use.next =
    ⟨moment.report.log, moment.report.used, .ok (moment.report.ending, moment.after)⟩

def Idle (moment : Moment κ ν α) (attempt : Try κ ν α) : Prop :=
  moment.use.look.demands = false ∧ moment.before = attempt ∧
    moment.report = ⟨[], 0, .ok moment.use.look.unevaluated⟩ ∧ moment.after = attempt

def Sees (moment : Moment κ ν α) (log : List (Entry ν)) (used : Nat)
    (outcome kept : Except Capture α) : Prop :=
  ((moment.use.look.onOutcome payload outcome).run moment.use.context
      (moment.use.next + used)).behind log used =
    ⟨moment.report.log, moment.report.used, .ok (moment.report.ending, kept)⟩ ∧
  moment.after = evaluated kept

def Panics (moment : Moment κ ν α) (log : List (Entry ν)) (used : Nat) (panic : Panic) : Prop :=
  moment.report = ⟨log, used, .error panic⟩ ∧ moment.after = poisoned

end Moment

inductive Watched : Try κ ν α → List (Moment κ ν α) → Try κ ν α → Prop where
  | done (attempt) : Watched attempt [] attempt
  | look {before moment later last} (starts : moment.before = before)
      (happens : moment.Happens payload) (rest : Watched moment.after later last) :
      Watched before (moment :: later) last

inductive Moves : Cell κ ν α → Cell κ ν α → Prop where
  | rest (run) : Moves (.pending run) (.pending run)
  | settle (run outcome) : Moves (.pending run) (.ready outcome)
  | poison (run) : Moves (.pending run) .poisoned
  | keep {outcome kept} (same : payload.Keeps outcome kept) : Moves (.ready outcome) (.ready kept)
  | stay : Moves .poisoned .poisoned

/- What a whole history comes to: no look started the computation, or exactly one
did and the computation returned, or exactly one did and the computation panicked. -/
inductive Lifecycle (act : Act κ ν (Except Capture α)) :
    List (Moment κ ν α) → Try κ ν α → Prop where
  | untouched {history} (idle : ∀ moment ∈ history, moment.Idle (awaiting act)) :
      Lifecycle act history (awaiting act)
  | returned {quiet first later log used outcome kept last}
      (idle : ∀ moment ∈ quiet, moment.Idle (awaiting act))
      (demands : first.use.look.demands = true)
      (starts : first.before = awaiting act)
      (ran : act.run first.use.context first.use.next = ⟨log, used, .ok outcome⟩)
      (sees : first.Sees payload (.event .evaluating :: log) used outcome kept)
      (same : ∀ moment ∈ later, ∃ held kept, payload.Keeps outcome held ∧
        payload.Keeps outcome kept ∧ moment.before = evaluated held ∧
        moment.Sees payload [] 0 held kept)
      (ends : payload.Keeps outcome last) :
      Lifecycle act (quiet ++ first :: later) (evaluated last)
  | panicked {quiet first later log used panic}
      (idle : ∀ moment ∈ quiet, moment.Idle (awaiting act))
      (demands : first.use.look.demands = true)
      (starts : first.before = awaiting act)
      (ran : act.run first.use.context first.use.next = ⟨log, used, .error panic⟩)
      (fails : first.Panics (.event .evaluating :: log) used panic)
      (after : ∀ moment ∈ later, moment.Idle poisoned ∨ moment.before = poisoned ∧
        moment.use.look.demands = true ∧
        moment.Panics [.event .poisoned] 0 .poisoned) :
      Lifecycle act (quiet ++ first :: later) poisoned

variable {payload}

theorem awaitingReport (act : Act κ ν (Except Capture α)) (context : κ) (next : Nat) :
    (Cell.ofAct act).intoOutcome.run context next =
      (act.run context next).behind [.event .evaluating] 0 := rfl

section Steps

variable {moment : Moment κ ν α} {cell : Cell κ ν α} {log : List (Entry ν)} {used : Nat}
  {first outcome : Except Capture α}

theorem Moment.Happens.exact {ending : Except Panic (Seen κ ν α)} {kept : Try κ ν α}
    (happens : moment.Happens payload)
    (ran : (moment.use.look.run payload moment.before).run moment.use.context moment.use.next =
      ⟨log, used, .ok (ending, kept)⟩) :
    moment.report = ⟨log, used, ending⟩ ∧ moment.after = kept := by
  have same := happens.symm.trans ran
  simp only [Report.mk.injEq, Except.ok.injEq, Prod.mk.injEq] at same
  obtain ⟨logs, claims, endings, kepts⟩ := same
  rw [← logs, ← claims, ← endings]
  exact ⟨rfl, kepts⟩

theorem Moment.Happens.sees (happens : moment.Happens payload) (keeps : payload.Keeps first outcome)
    (ran : (moment.use.look.run payload moment.before).run moment.use.context moment.use.next =
      ((Borrow.within evaluated id (moment.use.look.onOutcome payload outcome)).run
        moment.use.context (moment.use.next + used)).behind log used) :
    ∃ kept, moment.Sees payload log used outcome kept ∧ payload.Keeps first kept := by
  obtain ⟨⟨ending, kept⟩, ended⟩ := onOutcomeEnds payload moment.use.look outcome
    moment.use.context (moment.use.next + used)
  cases seen : (moment.use.look.onOutcome payload outcome).run moment.use.context
      (moment.use.next + used) with
  | mk more further result =>
    rw [seen] at ended
    cases ended
    rw [runWithin evaluated id seen, id_map] at ran
    obtain ⟨report, after⟩ := happens.exact ran
    refine ⟨kept, ⟨?_, after⟩, onOutcomeKeeps keeps (by rw [seen])⟩
    rw [seen, report]
    rfl

theorem idleStep (happens : moment.Happens payload) (starts : moment.before = .deferred cell)
    (absent : cell.outcome? = none) (idle : moment.use.look.demands = false) :
    moment.Idle (.deferred cell) := by
  obtain ⟨report, after⟩ := happens.exact (by rw [starts, lookIdle idle absent, Act.runPure])
  exact ⟨idle, starts, report, after⟩

theorem returnedStep (happens : moment.Happens payload) (starts : moment.before = .deferred cell)
    (demands : moment.use.look.demands = true)
    (ran : cell.intoOutcome.run moment.use.context moment.use.next = ⟨log, used, .ok outcome⟩) :
    ∃ kept, moment.Sees payload log used outcome kept ∧ payload.Keeps outcome kept := by
  refine happens.sees (payload.keepsSame outcome) ?_
  rw [starts, lookForces demands, Act.runBindOk (Act.runEnding ran)]

theorem panickedStep {panic : Panic} (happens : moment.Happens payload)
    (starts : moment.before = .deferred cell)
    (demands : moment.use.look.demands = true)
    (ran : cell.intoOutcome.run moment.use.context moment.use.next = ⟨log, used, .error panic⟩) :
    moment.Panics log used panic := by
  refine happens.exact ?_
  rw [starts, lookForces demands, Act.runBindOk (Act.runEnding ran), Act.runPure]
  simp [Report.behind, poisoned]

theorem evaluatedStep (happens : moment.Happens payload)
    (starts : moment.before = evaluated outcome) (keeps : payload.Keeps first outcome) :
    ∃ kept, moment.Sees payload [] 0 outcome kept ∧ payload.Keeps first kept := by
  refine happens.sees keeps ?_
  rw [starts, lookEvaluated, Report.behindNothing]
  rfl

theorem poisonedStep (happens : moment.Happens payload) (starts : moment.before = poisoned) :
    moment.Idle poisoned ∨ moment.before = poisoned ∧
      moment.use.look.demands = true ∧
      moment.Panics [.event .poisoned] 0 .poisoned := by
  cases asked : moment.use.look.demands with
  | false => exact .inl (idleStep happens starts rfl asked)
  | true => exact .inr ⟨starts, rfl, panickedStep happens starts asked rfl⟩

theorem movesStep (happens : moment.Happens payload) (starts : moment.before = .deferred cell) :
    ∃ next, moment.after = .deferred next ∧ Moves payload cell next := by
  cases cell with
  | ready outcome =>
    obtain ⟨kept, ⟨_, after⟩, keeps⟩ := evaluatedStep happens starts (payload.keepsSame outcome)
    exact ⟨.ready kept, after, .keep keeps⟩
  | poisoned =>
    obtain ⟨_, _, _, after⟩ | ⟨_, _, _, after⟩ := poisonedStep happens starts
    · exact ⟨.poisoned, after, .stay⟩
    · exact ⟨.poisoned, after, .stay⟩
  | pending run =>
    cases asked : moment.use.look.demands with
    | false =>
      obtain ⟨_, _, _, after⟩ := idleStep happens starts rfl asked
      exact ⟨.pending run, after, .rest run⟩
    | true =>
      cases ran : (Cell.pending run).intoOutcome.run moment.use.context moment.use.next with
      | mk log used ending =>
        cases ending with
        | error panic => exact ⟨.poisoned, (panickedStep happens starts asked ran).2, .poison run⟩
        | ok outcome =>
          obtain ⟨kept, ⟨_, after⟩, _⟩ := returnedStep happens starts asked ran
          exact ⟨.ready kept, after, .settle run kept⟩

end Steps

section Runs

variable {history : List (Moment κ ν α)} {last : Try κ ν α} {act : Act κ ν (Except Capture α)}

theorem movesRun {cell : Cell κ ν α} (watched : Watched payload (.deferred cell) history last) :
    ∀ moment ∈ history, ∃ before after, moment.before = .deferred before ∧
      moment.after = .deferred after ∧ Moves payload before after := by
  induction history generalizing cell with
  | nil => exact List.forall_mem_nil _
  | cons moment later ih =>
    cases watched with
    | look starts happens rest =>
      obtain ⟨next, after, moves⟩ := movesStep happens starts
      rw [after] at rest
      intro found member
      cases member with
      | head => exact ⟨cell, next, starts, after, moves⟩
      | tail _ member => exact ih rest found member

theorem evaluatedRun {first outcome : Except Capture α} (keeps : payload.Keeps first outcome)
    (watched : Watched payload (evaluated outcome) history last) :
    (∀ moment ∈ history, ∃ held kept, payload.Keeps first held ∧ payload.Keeps first kept ∧
      moment.before = evaluated held ∧ moment.Sees payload [] 0 held kept) ∧
    ∃ held, last = evaluated held ∧ payload.Keeps first held := by
  induction history generalizing outcome with
  | nil =>
    cases watched
    exact ⟨List.forall_mem_nil _, outcome, rfl, keeps⟩
  | cons moment later ih =>
    cases watched with
    | look starts happens rest =>
      obtain ⟨kept, sees, still⟩ := evaluatedStep happens starts keeps
      rw [sees.2] at rest
      obtain ⟨others, ends⟩ := ih still rest
      refine ⟨fun found member => ?_, ends⟩
      cases member with
      | head => exact ⟨outcome, kept, keeps, still, starts, sees⟩
      | tail _ member => exact others found member

theorem poisonedRun (watched : Watched payload poisoned history last) :
    (∀ moment ∈ history, moment.Idle poisoned ∨ moment.before = poisoned ∧
      moment.use.look.demands = true ∧
      moment.Panics [.event .poisoned] 0 .poisoned) ∧ last = poisoned := by
  induction history with
  | nil =>
    cases watched
    exact ⟨List.forall_mem_nil _, rfl⟩
  | cons moment later ih =>
    cases watched with
    | look starts happens rest =>
      have step := poisonedStep happens starts
      have after : moment.after = poisoned := by
        obtain ⟨_, _, _, after⟩ | ⟨_, _, _, after⟩ := step
        · exact after
        · exact after
      rw [after] at rest
      obtain ⟨others, ends⟩ := ih rest
      refine ⟨fun found member => ?_, ends⟩
      cases member with
      | head => exact step
      | tail _ member => exact others found member

theorem Lifecycle.prepend {moment : Moment κ ν α} (idle : moment.Idle (awaiting act))
    (life : Lifecycle payload act history last) :
    Lifecycle payload act (moment :: history) last := by
  cases life with
  | untouched quiet => exact .untouched (List.forall_mem_cons.mpr ⟨idle, quiet⟩)
  | returned quiet demands starts ran sees same ends =>
    exact .returned (List.forall_mem_cons.mpr ⟨idle, quiet⟩) demands starts ran sees same ends
  | panicked quiet demands starts ran fails after =>
    exact .panicked (List.forall_mem_cons.mpr ⟨idle, quiet⟩) demands starts ran fails after

theorem awaitingRun (watched : Watched payload (awaiting act) history last) :
    Lifecycle payload act history last := by
  induction history with
  | nil =>
    cases watched
    exact .untouched (List.forall_mem_nil _)
  | cons moment later ih =>
    cases watched with
    | look starts happens rest =>
      -- Nothing happens up to the first look that demands; that one decides what follows.
      cases asked : moment.use.look.demands with
      | false =>
        have idle : moment.Idle (awaiting act) := idleStep happens starts rfl asked
        have ⟨_, _, _, after⟩ := idle
        rw [after] at rest
        exact (ih rest).prepend idle
      | true =>
        cases ran : act.run moment.use.context moment.use.next with
        | mk log used ending =>
          have evaluating : (Cell.ofAct act).intoOutcome.run moment.use.context moment.use.next =
              ⟨.event .evaluating :: log, used, ending⟩ := by
            rw [awaitingReport, ran]
            simp [Report.behind]
          cases ending with
          | error panic =>
            have fails := panickedStep happens starts asked evaluating
            rw [fails.2] at rest
            obtain ⟨others, rfl⟩ := poisonedRun rest
            have life : Lifecycle payload act ([] ++ moment :: later) poisoned :=
              .panicked (List.forall_mem_nil _) asked starts ran fails others
            exact life
          | ok outcome =>
            obtain ⟨kept, sees, keeps⟩ := returnedStep happens starts asked evaluating
            rw [sees.2] at rest
            obtain ⟨others, held, rfl, ends⟩ := evaluatedRun keeps rest
            have life : Lifecycle payload act ([] ++ moment :: later) (evaluated held) :=
              .returned (List.forall_mem_nil _) asked starts ran sees others ends
            exact life

theorem everyUse (payload : Payload κ ν α) (cell : Cell κ ν α) (uses : List (Use κ α)) :
    ∃ history last, Watched payload (.deferred cell) history last ∧
      history.map Moment.use = uses := by
  induction uses generalizing cell with
  | nil => exact ⟨[], .deferred cell, .done _, rfl⟩
  | cons use others ih =>
    obtain ⟨⟨ending, after⟩, ended⟩ := lookEnds payload use.look cell use.context use.next
    cases ran : (use.look.run payload (.deferred cell)).run use.context use.next with
    | mk log used result =>
      rw [ran] at ended
      cases ended
      have happens : Moment.Happens payload ⟨use, .deferred cell, ⟨log, used, ending⟩, after⟩ := ran
      obtain ⟨next, rfl, _⟩ := movesStep happens rfl
      obtain ⟨history, last, watched, same⟩ := ih next
      exact ⟨_ :: history, last, .look rfl happens watched, congrArg (use :: ·) same⟩

end Runs

def logs (history : List (Moment κ ν α)) : List (Entry ν) := history.flatMap (·.report.log)

section Starts

variable {payload : Payload κ ν α} {history : List (Moment κ (Option ν) α)}
  {act : Act κ (Option ν) (Except Capture α)}

theorem startsNone (none : ∀ moment ∈ history, starts moment.report.log = 0) :
    starts (logs history) = 0 := by
  induction history with
  | nil => rfl
  | cons moment later ih =>
    obtain ⟨here, others⟩ := List.forall_mem_cons.mp none
    rw [logs, List.flatMap_cons, startsAppend, here, Nat.zero_add]
    exact ih others

theorem Moment.Idle.startsNone {moment : Moment κ (Option ν) α} {attempt : Try κ (Option ν) α}
    (idle : moment.Idle attempt) : starts moment.report.log = 0 := by
  rw [idle.2.2.1]
  rfl

theorem Moment.Sees.starts {moment : Moment κ (Option ν) α} {log : List (Entry (Option ν))}
    {used : Nat} {outcome kept : Except Capture α}
    (sees : moment.Sees (payload.renoted some) log used outcome kept) :
    starts moment.report.log = starts log := by
  have same := congrArg Report.log sees.1
  rw [← same, Report.behind, startsAppend, unmarkedOnOutcome]
  rfl

theorem startsFirst {quiet later : List (Moment κ (Option ν) α)} {first : Moment κ (Option ν) α}
    {attempt : Try κ (Option ν) α} (idle : ∀ moment ∈ quiet, moment.Idle attempt)
    (none : ∀ moment ∈ later, starts moment.report.log = 0) :
    starts (logs (quiet ++ first :: later)) = starts first.report.log := by
  have before : starts (logs quiet) = 0 :=
    startsNone fun moment member => (idle moment member).startsNone
  have behind : starts (logs later) = 0 := startsNone none
  rw [logs, List.flatMap_append, List.flatMap_cons, startsAppend, startsAppend]
  rw [logs] at before behind
  rw [before, behind, Nat.zero_add, Nat.add_zero]

theorem startsOnce {last : Try κ (Option ν) α}
    (once : ∀ context next, starts (act.run context next).log = 1)
    (life : Lifecycle (payload.renoted some) act history last) :
    starts (logs history) = (if history.any (·.use.look.demands) then 1 else 0) ∧
    ∀ context next, starts (logs history) + starts (last.intoResult.run context next).log = 1 := by
  cases life with
  | untouched idle =>
    have none : starts (logs history) = 0 :=
      startsNone fun moment member => (idle moment member).startsNone
    have calm : history.any (·.use.look.demands) = false := by
      rw [List.any_eq_false]
      intro moment member
      simp [(idle moment member).1]
    rw [none, calm]
    refine ⟨rfl, fun context next => ?_⟩
    have start := once context next
    rwa [Nat.zero_add]
  | @returned quiet first later log used outcome kept last idle demands starting ran sees same ends =>
    have silent : ∀ moment ∈ later, starts moment.report.log = 0 := by
      intro moment member
      obtain ⟨_, _, _, _, _, others⟩ := same moment member
      exact others.starts
    have start : starts (.event .evaluating :: log) = 1 := by
      have here := once first.use.context first.use.next
      rwa [ran] at here
    rw [startsFirst idle silent, sees.starts]
    refine ⟨?_, fun _ _ => ?_⟩
    · simpa [demands] using start
    · exact start
  | @panicked quiet first later log used panic idle demands starting ran fails after =>
    have silent : ∀ moment ∈ later, starts moment.report.log = 0 := by
      intro moment member
      obtain idle | ⟨_, _, report, _⟩ := after moment member
      · exact idle.startsNone
      · rw [report]
        rfl
    have start : starts (.event .evaluating :: log) = 1 := by
      have here := once first.use.context first.use.next
      rwa [ran] at here
    rw [startsFirst idle silent, fails.1]
    refine ⟨?_, fun _ _ => ?_⟩
    · simpa [demands] using start
    · exact start

end Starts

structure ConsumedOnce {β : Type} (computation : Act κ ν (Except (Raised Fault) α))
    (consumer : Consumer κ ν α β) : Prop where
  pending : consumer.run (delayed computation) = (do
    Act.emit .evaluating
    let ended ← computation
    let outcome ← capture ended
    consumer.run (ofOutcome outcome))
  ready : ∀ outcome, consumer.run (evaluated outcome) = consumer.run (ofOutcome outcome)
  poisoned : consumer.run Try.poisoned = (do Act.emit .poisoned; Act.stop .poisoned)

theorem consumedOnce {β : Type} (computation : Act κ ν (Except (Raised Fault) α))
    (consumer : Consumer κ ν α β) : ConsumedOnce computation consumer where
  pending := by
    have given : (delayed computation).intoResult =
        (Act.emit .evaluating >>= fun _ => computation >>= capture) := rfl
    rw [consumes, given, bind_assoc]
    simp only [bind_assoc]
  ready outcome := by
    rw [consumes]
    exact pure_bind _ _
  poisoned := by
    have given : (Try.poisoned : Try κ ν α).intoResult =
        (Act.emit .poisoned >>= fun _ => Act.stop .poisoned) := rfl
    rw [consumes, given, bind_assoc]
    simp only [Act.stopBind]

structure DelayedLifecycle (payload : Payload κ ν α)
    (computation : Act κ ν (Except (Raised Fault) α)) : Prop where
  uses : ∀ uses, ∃ history last, Watched payload (delayed computation) history last ∧
    history.map Moment.use = uses
  lives : ∀ history last, Watched payload (delayed computation) history last →
    Lifecycle payload (computation >>= capture) history last
  moves : ∀ history last, Watched payload (delayed computation) history last →
    ∀ moment ∈ history, ∃ before after, moment.before = .deferred before ∧
      moment.after = .deferred after ∧ Moves payload before after
  once : ∀ history last,
    Watched (payload.renoted some) (delayed computation.marked) history last →
      starts (logs history) = (if history.any (·.use.look.demands) then 1 else 0) ∧
      ∀ context next, starts (logs history) + starts (last.intoResult.run context next).log = 1
  consumed : ∀ {β : Type} (consumer : Consumer κ ν α β), ConsumedOnce computation consumer
  keeps : payload.Plain → ∀ outcome kept, payload.Keeps outcome kept → kept = outcome

theorem delayedLifecycle (payload : Payload κ ν α)
    (computation : Act κ ν (Except (Raised Fault) α)) : DelayedLifecycle payload computation where
  uses := everyUse payload _
  lives _ _ watched := awaitingRun watched
  moves _ _ watched := movesRun watched
  once history last watched := by
    refine startsOnce (fun context next => ?_) (awaitingRun watched)
    rw [Act.startsBind _ unmarkedCapture, Act.startsMarked]
  consumed := consumedOnce computation
  keeps plain _ _ := plain.keeps

end OutcomeAlgebra.Try
