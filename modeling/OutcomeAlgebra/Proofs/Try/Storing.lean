import OutcomeAlgebra.Proofs.Try.Lifecycle
import OutcomeAlgebra.Try.Once
/-! The two fields of a cell under any sequence of looks. A computation that has been taken out
does not come back, and an outcome stands only where one was taken out. So the fields are in
one of the three states of a cell, and every history of theirs is a history of that cell. -/
namespace OutcomeAlgebra.Once

open Try (Look Seen Use Moment Lifecycle)

variable {κ ν α β γ : Type} {payload : Payload κ ν α}

def look (payload : Payload κ ν α) (look : Look α) : Borrow κ ν (Once κ ν α) (Seen κ ν α) :=
  fun once => do
    if look.demands then
      match ← once.force with
      | (.ok outcome, once) => Borrow.within once.store id (look.onOutcome payload outcome)
      | (.error panic, once) => pure (.error panic, once)
    else
      match once.outcome with
      | some outcome => Borrow.within once.store id (look.onOutcome payload outcome)
      | none => pure (.ok look.unevaluated, once)

section Looking

variable {look : Look α} {once after : Once κ ν α} {outcome : Except Capture α}

theorem lookStored (there : once.outcome = some outcome) :
    once.look payload look = Borrow.within once.store id (look.onOutcome payload outcome) := by
  unfold Once.look force
  rw [there]
  cases look.demands with
  | true => exact pure_bind _ _
  | false => rfl

theorem lookStarts (absent : once.outcome = none) (demands : look.demands = true) :
    once.look payload look = (start once.computation).ending >>= fun
      | .ok outcome => Borrow.within once.take.2.store id (look.onOutcome payload outcome)
      | .error panic => pure (.error panic, once.take.2) := by
  unfold Once.look force
  rw [absent, if_pos demands, bind_assoc]
  refine bind_congr fun ending => ?_
  cases ending <;> exact pure_bind _ _

theorem lookIdle (absent : once.outcome = none) (idle : look.demands = false) :
    once.look payload look = pure (.ok look.unevaluated, once) := by
  unfold Once.look
  rw [absent, idle]
  rfl

theorem lookCell (payload : Payload κ ν α) (look : Look α) (once : Once κ ν α) :
    Borrow.within (Try.deferred ∘ cell) id (once.look payload look) =
      look.run payload (.deferred once.cell) := by
  cases there : once.outcome with
  | some outcome =>
    have ready : once.cell = .ready outcome := by rw [cell, there]
    rw [lookStored there, Borrow.withinWithin, ready]
    exact (Try.lookEvaluated outcome).symm
  | none =>
    have absent := (outcomeCell once).trans there
    cases asked : look.demands with
    | false =>
      rw [lookIdle there asked, Try.lookIdle asked absent]
      exact Borrow.withinOk rfl _ id
    | true =>
      have started : once.cell.intoOutcome = start once.computation := by
        rw [intoOutcomeCell, intoOutcome, there]
        rfl
      rw [lookStarts there asked, Try.lookForces asked, started, Borrow.within, bind_assoc]
      refine bind_congr fun ending => ?_
      cases ending with
      | ok outcome => exact Borrow.withinWithin once.take.2.store _ id id _
      | error panic =>
        have empty : once.take.2.cell = .poisoned := by simp [cell, take, there]
        exact (pure_bind _ _).trans
          (congrArg (fun cell => pure (Except.error panic, Try.deferred cell)) empty)

theorem withinLeaves {τ σ : Type} {whole : τ → σ} {answer : β → γ}
    {part : Act κ ν (Except Panic β × τ)} {context : κ} {next : Nat} {ending : Except Panic γ}
    {left : σ} (ended : ((Borrow.within whole answer part).run context next).ending =
      .ok (ending, left)) : ∃ kept, left = whole kept := by
  obtain ⟨⟨found, kept⟩, _, last⟩ := Act.runBindEnds _ ended
  cases found <;> cases last <;> exact ⟨kept, rfl⟩

inductive Changes (once : Once κ ν α) : Once κ ν α → Prop where
  | stays : Changes once once
  | stored (there : once.outcome.isSome) (kept : Except Capture α) : Changes once (once.store kept)
  | settled (absent : once.outcome = none) (kept : Except Capture α) :
      Changes once (once.take.2.store kept)
  | emptied (absent : once.outcome = none) : Changes once once.take.2

theorem lookChanges {context : κ} {next : Nat} {ending : Except Panic (Seen κ ν α)}
    (ended : ((once.look payload look).run context next).ending = .ok (ending, after)) :
    once.Changes after := by
  cases there : once.outcome with
  | some outcome =>
    rw [lookStored there] at ended
    obtain ⟨kept, rfl⟩ := withinLeaves ended
    exact .stored (by rw [there]; rfl) kept
  | none =>
    cases asked : look.demands with
    | false =>
      rw [lookIdle there asked] at ended
      cases ended
      exact .stays
    | true =>
      rw [lookStarts there asked] at ended
      obtain ⟨found, _, last⟩ := Act.runBindEnds _ ended
      cases found with
      | ok outcome =>
        obtain ⟨kept, rfl⟩ := withinLeaves last
        exact .settled there kept
      | error panic =>
        cases last
        exact .emptied there

theorem lookEnds (payload : Payload κ ν α) (look : Look α) (once : Once κ ν α) :
    (once.look payload look).Ends := by
  cases there : once.outcome with
  | some outcome =>
    rw [lookStored there]
    exact Try.withinEnds _ _ (Try.onOutcomeEnds payload look outcome)
  | none =>
    cases asked : look.demands with
    | false =>
      rw [lookIdle there asked]
      exact Act.endsPure _
    | true =>
      rw [lookStarts there asked]
      refine (Act.endsEnding _).bind fun ending => ?_
      cases ending with
      | ok outcome => exact Try.withinEnds _ _ (Try.onOutcomeEnds payload look outcome)
      | error panic => exact Act.endsPure _

end Looking

inductive Watched (payload : Payload κ ν α) : Once κ ν α → List (Moment κ ν α) → Once κ ν α → Prop
    where
  | done {once} : Watched payload once [] once
  | look {once after last use report later}
      (happens : (once.look payload use.look).run use.context use.next =
        ⟨report.log, report.used, .ok (report.ending, after)⟩)
      (rest : Watched payload after later last) :
      Watched payload once (⟨use, .deferred once.cell, report, .deferred after.cell⟩ :: later) last

section Histories

variable {once after last : Once κ ν α} {history : List (Moment κ ν α)}

def Taken (once : Once κ ν α) : Prop := once.outcome.isSome → once.computation = none

theorem takenOfCell (taken : once.Taken) : ofCell once.cell = once := by
  obtain ⟨outcome, computation⟩ := once
  cases outcome with
  | none => cases computation <;> rfl
  | some outcome =>
    cases taken rfl
    rfl

theorem changesTaken (changes : once.Changes after) (taken : once.Taken) : after.Taken := by
  cases changes with
  | stays => exact taken
  | stored there kept => exact fun _ => taken there
  | settled absent kept | emptied absent => exact fun _ => rfl

theorem changesGone (changes : once.Changes after) (gone : once.computation = none) :
    after.computation = none := by
  cases changes with
  | stays | stored there kept => exact gone
  | settled absent kept | emptied absent => rfl

theorem watchedCell (watched : Watched payload once history last) :
    Try.Watched payload (.deferred once.cell) history (.deferred last.cell) := by
  induction watched with
  | done => exact .done _
  | look happens rest ih =>
    refine .look rfl ?_ ih
    have ran := Try.runWithin (Try.deferred ∘ cell) id happens
    rwa [lookCell, id_map] at ran

theorem watchedTaken (watched : Watched payload once history last) (taken : once.Taken) :
    last.Taken := by
  induction watched with
  | done => exact taken
  | look happens rest ih =>
    have changes := lookChanges (congrArg Report.ending happens)
    exact ih (changesTaken changes taken)

theorem watchedGone (watched : Watched payload once history last)
    (gone : once.computation = none) : last.computation = none := by
  induction watched with
  | done => exact gone
  | look happens rest ih =>
    have changes := lookChanges (congrArg Report.ending happens)
    exact ih (changesGone changes gone)

theorem everyUse (payload : Payload κ ν α) (once : Once κ ν α) (uses : List (Use κ α)) :
    ∃ history last, Watched payload once history last ∧ history.map Moment.use = uses := by
  induction uses generalizing once with
  | nil => exact ⟨[], once, .done, rfl⟩
  | cons use others ih =>
    obtain ⟨⟨ending, after⟩, ended⟩ := lookEnds payload use.look once use.context use.next
    obtain ⟨history, last, watched, same⟩ := ih after
    cases ran : (once.look payload use.look).run use.context use.next with
    | mk log used result =>
      rw [ran] at ended
      cases ended
      have looked : Watched payload once (⟨use, _, ⟨log, used, ending⟩, _⟩ :: history) last :=
        .look ran watched
      exact ⟨_, last, looked, congrArg (use :: ·) same⟩

/- What is left of a stored computation, and what can still become of it. -/
structure Stores (payload : Payload κ ν α) (act : Act κ ν (Except Capture α))
    (history : List (Moment κ ν α)) (last : Once κ ν α) : Prop where
  life : Lifecycle payload act history (.deferred last.cell)
  state : ofCell last.cell = last
  gone : last.computation = none → ∀ later final, Watched payload last later final →
    final.computation = none

theorem storedLifecycle (payload : Payload κ ν α) (act : Act κ ν (Except Capture α)) :
    (∀ uses, ∃ history last, Watched payload (ofAct act) history last ∧
      history.map Moment.use = uses) ∧
    ∀ history last, Watched payload (ofAct act) history last → Stores payload act history last := by
  refine ⟨everyUse payload (ofAct act), fun history last watched => ?_⟩
  have taken : (ofAct act).Taken := nofun
  exact {
    life := Try.awaitingRun (watchedCell watched)
    state := takenOfCell (watchedTaken watched taken)
    gone := fun gone later final further => watchedGone further gone }

end Histories

end OutcomeAlgebra.Once
