import OutcomeAlgebra.Proofs.Act.Run
/-! A log that accounts for itself. Code marks what happens in it: a computation starts, an
error comes back, a collection asks for one more element, a panic is raised. A reader goes
over the log once, mark by mark and event by event, and stops at the first event that is not
where it belongs, or is not there. Nothing follows a panic until somebody catches it. -/
namespace OutcomeAlgebra

inductive Mark where
  | called
  | started
  | failed (message : String)
  | gathering
  | pulled
  | collected
  | cut
  | panicked (panic : Panic)
  | caught (panic : Panic)
  deriving DecidableEq, Repr

inductive Phase where
  | running (pulls : List Nat)
  | starting (pulls : List Nat)
  | reporting (message : String) (pulls : List Nat)
  | stopping (pulls : List Nat)
  | broken (panic : Panic)
  deriving DecidableEq, Repr

section Reading

variable {ν : Type}

/- What is read next, and where it leads; `none` is for what does not belong there. -/
def Phase.read : Phase → Entry (ν ⊕ Mark) → Option Phase
  | .running pulls, .note (.inl _) => some (.running pulls)
  | .running pulls, .note (.inr .called) => some (.running pulls)
  | .running pulls, .event .evaluating => some (.starting pulls)
  | .starting pulls, .note (.inr .started) => some (.running pulls)
  | .running pulls, .note (.inr (.failed message)) => some (.reporting message pulls)
  | .reporting message pulls, .event (.captured told) =>
    if told = message then some (.running pulls) else none
  | .running pulls, .note (.inr .gathering) => some (.running (0 :: pulls))
  | .running (made :: pulls), .note (.inr .pulled) => some (.running ((made + 1) :: pulls))
  | .running (_ :: pulls), .note (.inr .collected) => some (.running pulls)
  | .running (made :: pulls), .event (.stopped position) =>
    if made = position + 1 then some (.stopping pulls) else none
  | .stopping pulls, .note (.inr .cut) => some (.running pulls)
  | .running _, .note (.inr (.panicked panic)) => some (.broken panic)
  | .running _, .event .poisoned => some (.broken .poisoned)
  | _, _ => none

def audit (phase : Phase) (log : List (Entry (ν ⊕ Mark))) : Option Phase :=
  log.foldlM Phase.read phase

theorem auditAppend (phase : Phase) (front back : List (Entry (ν ⊕ Mark))) :
    audit phase (front ++ back) = audit phase front >>= fun reached => audit reached back :=
  List.foldlM_append

theorem auditOne (phase : Phase) (entry : Entry (ν ⊕ Mark)) :
    audit phase [entry] = phase.read entry := by
  cases read : phase.read entry <;> simp [audit, read]

theorem brokenEnds {panic : Panic} {log : List (Entry (ν ⊕ Mark))} {phase : Phase}
    (audited : audit (.broken panic) log = some phase) : log = [] ∧ phase = .broken panic := by
  cases log with
  | nil =>
    cases audited
    exact ⟨rfl, rfl⟩
  | cons entry rest => cases audited

def Entry.panic? : Entry (ν ⊕ Mark) → Option Panic
  | .note (.inr (.panicked panic)) => some panic
  | .event .poisoned => some .poisoned
  | _ => none

theorem readPanics {entry : Entry (ν ⊕ Mark)} {panic : Panic} {before after : Phase}
    (read : before.read entry = some after) :
    entry.panic? = some panic ↔ after = .broken panic := by
  unfold Phase.read at read
  split at read <;> simp_all [Entry.panic?, eq_comm]

theorem panicLast {front back : List (Entry (ν ⊕ Mark))} {entry : Entry (ν ⊕ Mark)} {panic : Panic}
    {before after : Phase} (audited : audit before (front ++ entry :: back) = some after)
    (raised : entry.panic? = some panic) : back = [] ∧ after = .broken panic := by
  rw [auditAppend] at audited
  obtain ⟨reached, _, rest⟩ := Option.bind_eq_some_iff.mp audited
  obtain ⟨next, read, rest⟩ := Option.bind_eq_some_iff.mp rest
  obtain rfl := (readPanics read).mp raised
  exact brokenEnds rest

theorem brokenBy {log : List (Entry (ν ⊕ Mark))} {panic : Panic} {pulls : List Nat}
    (audited : audit (.running pulls) log = some (.broken panic)) :
    ∃ front entry, log = front ++ [entry] ∧ entry.panic? = some panic := by
  rcases List.eq_nil_or_concat log with rfl | ⟨front, entry, rfl⟩
  · cases audited
  · rw [List.concat_eq_append, auditAppend] at audited
    obtain ⟨reached, _, last⟩ := Option.bind_eq_some_iff.mp audited
    rw [auditOne] at last
    exact ⟨front, entry, List.concat_eq_append, (readPanics last).mpr rfl⟩

end Reading

def Report.Moves {ν α : Type} (before : Phase) (after : α → Phase → Prop) :
    Report (ν ⊕ Mark) α → Prop
  | ⟨log, _, .ok value⟩ => ∃ phase, audit before log = some phase ∧ after value phase
  | ⟨log, _, .error panic⟩ => audit before log = some (.broken panic)

namespace Act

variable {κ ν α β : Type}

def Moves (before : Phase) (after : α → Phase → Prop) (act : Act κ (ν ⊕ Mark) α) : Prop :=
  ∀ context next, (act.run context next).Moves before after

/- Leaves no event unaccounted for, wherever it runs. -/
def Minds (holds : α → Prop) (act : Act κ (ν ⊕ Mark) α) : Prop :=
  ∀ pulls, act.Moves (.running pulls) fun value phase => phase = .running pulls ∧ holds value

theorem movesPure {value : α} {phase : Phase} {after : α → Phase → Prop}
    (there : after value phase) :
    (pure value : Act κ (ν ⊕ Mark) α).Moves phase after :=
  fun _ _ => ⟨phase, rfl, there⟩

theorem movesStop (panic : Panic) (after : α → Phase → Prop) :
    (stop panic : Act κ (ν ⊕ Mark) α).Moves (.broken panic) after :=
  fun _ _ => rfl

theorem movesWrite {entry : Entry (ν ⊕ Mark)} {before phase : Phase}
    (read : before.read entry = some phase) :
    (write entry : Act κ (ν ⊕ Mark) Unit).Moves before fun _ reached => reached = phase :=
  fun _ _ => ⟨phase, (auditOne before entry).trans read, rfl⟩

theorem Moves.bind {act : Act κ (ν ⊕ Mark) α} {rest : α → Act κ (ν ⊕ Mark) β} {before : Phase}
    {between : α → Phase → Prop} {after : β → Phase → Prop} (first : act.Moves before between)
    (second : ∀ value phase, between value phase → (rest value).Moves phase after) :
    (act >>= rest).Moves before after := by
  intro context next
  have began := first context next
  cases ran : act.run context next with
  | mk log used ending =>
    rw [ran] at began
    cases ending with
    | error panic =>
      rw [runBindError ran]
      exact began
    | ok value =>
      obtain ⟨phase, read, there⟩ := began
      have ended := second value phase there context (next + used)
      rw [runBindOk ran]
      cases last : (rest value).run context (next + used) with
      | mk more further ending =>
        rw [last] at ended
        have joined : audit before (log ++ more) = audit phase more := by
          simp only [auditAppend, read, Option.bind_eq_bind, Option.bind_some]
        cases ending with
        | error panic => exact joined.trans ended
        | ok value =>
          obtain ⟨reached, readOn, there⟩ := ended
          exact ⟨reached, joined.trans readOn, there⟩

theorem movesFresh (phase : Phase) :
    (fresh : Act κ (ν ⊕ Mark) Nat).Moves phase fun _ reached => reached = phase :=
  fun _ _ => ⟨phase, rfl, rfl⟩

theorem movesThen {entry : Entry (ν ⊕ Mark)} {rest : Unit → Act κ (ν ⊕ Mark) α}
    {before phase : Phase} {after : α → Phase → Prop} (read : before.read entry = some phase)
    (second : (rest ()).Moves phase after) : (write entry >>= rest).Moves before after := by
  refine (movesWrite read).bind fun _ reached there => ?_
  rw [there]
  exact second

theorem Moves.map {act : Act κ (ν ⊕ Mark) α} {f : α → β} {before : Phase}
    {between : α → Phase → Prop} {after : β → Phase → Prop} (moves : act.Moves before between)
    (there : ∀ value phase, between value phase → after (f value) phase) :
    (f <$> act).Moves before after := by
  rw [map_eq_pure_bind]
  exact moves.bind fun value phase held => movesPure (there value phase held)

theorem Moves.weaken {act : Act κ (ν ⊕ Mark) α} {before : Phase} {between after : α → Phase → Prop}
    (moves : act.Moves before between)
    (there : ∀ value phase, between value phase → after value phase) :
    act.Moves before after := by
  have mapped := moves.map (f := id) there
  rwa [id_map] at mapped

theorem mindsPure {holds : α → Prop} {value : α} (held : holds value) :
    (pure value : Act κ (ν ⊕ Mark) α).Minds holds :=
  fun _ => movesPure ⟨rfl, held⟩

theorem Minds.bind {act : Act κ (ν ⊕ Mark) α} {rest : α → Act κ (ν ⊕ Mark) β} {holds : α → Prop}
    {after : β → Prop} (first : act.Minds holds)
    (second : ∀ value, holds value → (rest value).Minds after) : (act >>= rest).Minds after := by
  intro pulls
  refine (first pulls).bind fun value phase there => ?_
  obtain ⟨rfl, held⟩ := there
  exact second value held pulls

theorem Minds.map {act : Act κ (ν ⊕ Mark) α} {f : α → β} {holds : α → Prop} {after : β → Prop}
    (first : act.Minds holds) (held : ∀ value, holds value → after (f value)) :
    (f <$> act).Minds after := by
  rw [map_eq_pure_bind]
  exact first.bind fun value there => mindsPure (held value there)

end Act

end OutcomeAlgebra
