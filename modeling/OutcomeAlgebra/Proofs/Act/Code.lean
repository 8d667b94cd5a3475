import OutcomeAlgebra.Proofs.Act.Audit
/-! Code that a program is made of: what it does is accounted for, whatever is around it.
User code is any computation, but that it has no events of its own to report, and that a
panic is marked where it is raised. Code behind code is code, and so is what the library
does with it; that is shown where the library is. -/
namespace OutcomeAlgebra

variable {κ ν α β : Type} {holds : α → Prop}

def Entry.noted? : Entry ν → Option (Entry (ν ⊕ Mark))
  | .note written => some (.note (.inl written))
  | .event _ => none

def Report.watched : Report ν α → Report (ν ⊕ Mark) α
  | ⟨log, used, .ok value⟩ => ⟨log.filterMap Entry.noted?, used, .ok value⟩
  | ⟨log, used, .error panic⟩ =>
    ⟨log.filterMap Entry.noted? ++ [.note (.inr (.panicked panic))], used, .error panic⟩

theorem auditNotes (pulls : List Nat) (log : List (Entry ν)) :
    audit (.running pulls) (log.filterMap Entry.noted?) = some (.running pulls) := by
  induction log with
  | nil => rfl
  | cons entry rest ih =>
    cases entry with
    | event event => exact ih
    | note note =>
      rw [List.filterMap_cons]
      exact ih

theorem watchedMoves (pulls : List Nat) (report : Report ν α) :
    report.watched.Moves (.running pulls) fun _ phase => phase = .running pulls ∧ True := by
  obtain ⟨log, used, ending⟩ := report
  have notes := auditNotes pulls log
  cases ending with
  | ok value => exact ⟨_, notes, rfl, trivial⟩
  | error panic =>
    simp only [Report.watched, Report.Moves, auditAppend, notes]
    rfl

def Report.attach : (report : Report ν α) →
    (∀ value, report.ending = .ok value → holds value) → Report ν {value // holds value}
  | ⟨log, used, .ok value⟩, held => ⟨log, used, .ok ⟨value, held value rfl⟩⟩
  | ⟨log, used, .error panic⟩, _ => ⟨log, used, .error panic⟩

theorem attachedVal (report : Report ν α)
    (held : ∀ value, report.ending = .ok value → holds value) :
    (report.attach held).map Subtype.val = report := by
  obtain ⟨log, used, ending⟩ := report
  cases ending <;> rfl

theorem attachedMoves {before : Phase} {after : α → Phase → Prop} {report : Report (ν ⊕ Mark) α}
    (held : ∀ value, report.ending = .ok value → holds value) (moves : report.Moves before after) :
    (report.attach held).Moves before fun value phase => after value.val phase := by
  obtain ⟨log, used, ending⟩ := report
  cases ending <;> exact moves

namespace Act

def watched (act : Act κ ν α) : Act κ (ν ⊕ Mark) α := fun context next =>
  (act.run context next).watched

theorem watchedMinds (act : Act κ ν α) : act.watched.Minds fun _ => True :=
  fun pulls context next => watchedMoves pulls (act.run context next)

theorem endsWatched {act : Act κ ν α} (ends : act.Ends) : act.watched.Ends := by
  intro context next
  obtain ⟨value, ended⟩ := ends context next
  cases ran : act.run context next with
  | mk log used ending =>
    rw [ran] at ended
    cases ended
    refine ⟨value, ?_⟩
    change (act.run context next).watched.ending = .ok value
    rw [ran]
    rfl

def Gives (holds : α → Prop) (act : Act κ ν α) : Prop :=
  ∀ context next value, (act.run context next).ending = .ok value → holds value

theorem Minds.gives {act : Act κ (ν ⊕ Mark) α} (minds : act.Minds holds) : act.Gives holds := by
  intro context next value ended
  have moved := minds [] context next
  cases ran : act.run context next with
  | mk log used ending =>
    rw [ran] at moved ended
    cases ended
    obtain ⟨_, _, _, held⟩ := moved
    exact held

def attach (act : Act κ ν α) (gives : act.Gives holds) : Act κ ν {value // holds value} :=
  fun context next => (act.run context next).attach (gives context next)

theorem attachVal (act : Act κ ν α) (gives : act.Gives holds) :
    Subtype.val <$> act.attach gives = act := by
  funext context next
  exact (runMap _ _ context next).trans (attachedVal _ (gives context next))

theorem attachPanics {act : Act κ ν α} (gives : act.Gives holds) {context : κ} {next : Nat}
    {panic : Panic} (ended : ((act.attach gives).run context next).ending = .error panic) :
    (act.run context next).ending = .error panic := by
  rw [← attachVal act gives, runMap, Report.map, ended]
  rfl

theorem attachRun {act : Act κ ν α} (gives : act.Gives holds) {context : κ} {next used : Nat}
    {log : List (Entry ν)} {value : α} (ran : act.run context next = ⟨log, used, .ok value⟩) :
    ∃ held, (act.attach gives).run context next = ⟨log, used, .ok ⟨value, held⟩⟩ := by
  have attached : ∀ {report : Report ν α} (held : ∀ value, report.ending = .ok value → holds value),
      report = ⟨log, used, .ok value⟩ →
        ∃ kept, report.attach held = ⟨log, used, .ok ⟨value, kept⟩⟩ := by
    rintro report held rfl
    exact ⟨held value rfl, rfl⟩
  exact attached (gives context next) ran

theorem attachMoves {act : Act κ (ν ⊕ Mark) α} {before : Phase} {after : α → Phase → Prop}
    (gives : act.Gives holds) (moves : act.Moves before after) :
    (act.attach gives).Moves before fun value phase => after value.val phase :=
  fun context next => attachedMoves (gives context next) (moves context next)

end Act

structure Code (κ ν α : Type) where
  act : Act κ (ν ⊕ Mark) α
  minds : act.Minds fun _ => True

namespace Code

instance : Monad (Code κ ν) where
  pure value := ⟨pure value, Act.mindsPure trivial⟩
  bind code rest := ⟨code.act >>= fun value => (rest value).act,
    code.minds.bind fun value _ => (rest value).minds⟩

def user (act : Act κ ν α) : Code κ ν α := ⟨act.watched, Act.watchedMinds act⟩

def called (code : Code κ ν α) : Act κ (ν ⊕ Mark) α := do
  Act.note (.inr .called)
  code.act

theorem calledMinds (code : Code κ ν α) : code.called.Minds fun _ => True :=
  fun pulls => Act.movesThen rfl (code.minds pulls)

end Code

end OutcomeAlgebra
