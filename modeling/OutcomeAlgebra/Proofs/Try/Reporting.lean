import OutcomeAlgebra.Proofs.Try.Deed
/-! What whole programs report. A program does one deed after the other and decides by the
answers how to go on; it catches each panic between two deeds. Every event of a run stands
where one mark says that it should, and every such mark has its event. -/
namespace OutcomeAlgebra

variable {κ ν : Type}

section Watching

def Phase.watch : Phase → Entry (ν ⊕ Mark) → Option Phase
  | .broken panic, .note (.inr (.caught seen)) => if seen = panic then some (.running []) else none
  | phase, entry => phase.read entry

def watch (phase : Phase) (log : List (Entry (ν ⊕ Mark))) : Option Phase :=
  log.foldlM Phase.watch phase

variable {before after phase : Phase} {entry : Entry (ν ⊕ Mark)}
  {log front back : List (Entry (ν ⊕ Mark))}

theorem watchAppend (phase : Phase) (front back : List (Entry (ν ⊕ Mark))) :
    watch phase (front ++ back) = watch phase front >>= fun reached => watch reached back :=
  List.foldlM_append

theorem readWatched (read : before.read entry = some after) : before.watch entry = some after := by
  unfold Phase.watch
  split
  · cases read
  · exact read

theorem auditWatched (audited : audit before log = some after) : watch before log = some after := by
  induction log generalizing before with
  | nil => exact audited
  | cons entry rest ih =>
    obtain ⟨between, read, rest⟩ := Option.bind_eq_some_iff.mp audited
    exact Option.bind_eq_some_iff.mpr ⟨between, readWatched read, ih rest⟩

theorem watchSplit (watched : watch before (front ++ entry :: back) = some after) :
    ∃ reached next, watch before front = some reached ∧ reached.watch entry = some next ∧
      watch next back = some after := by
  rw [watchAppend] at watched
  obtain ⟨reached, first, rest⟩ := Option.bind_eq_some_iff.mp watched
  obtain ⟨next, read, last⟩ := Option.bind_eq_some_iff.mp rest
  exact ⟨reached, next, first, read, last⟩

theorem watchNext (watched : watch before log = some after) (moved : after ≠ before) :
    ∃ entry rest next, log = entry :: rest ∧ before.watch entry = some next := by
  cases log with
  | nil =>
    cases watched
    exact absurd rfl moved
  | cons entry rest =>
    obtain ⟨next, read, _⟩ := Option.bind_eq_some_iff.mp watched
    exact ⟨entry, rest, next, rfl, read⟩

theorem watchLast (watched : watch before log = some after) (moved : after ≠ before) :
    ∃ front entry, ∃ reached : Phase,
      log = front ++ [entry] ∧ reached.watch entry = some after := by
  rcases List.eq_nil_or_concat log with rfl | ⟨front, entry, rfl⟩
  · cases watched
    exact absurd rfl moved
  · rw [List.concat_eq_append] at watched ⊢
    obtain ⟨reached, next, _, read, last⟩ := watchSplit watched
    cases last
    exact ⟨front, entry, reached, rfl, read⟩

def Phase.due? : Phase → Option (Entry (ν ⊕ Mark))
  | .running _ => none
  | .starting _ => some (.note (.inr .started))
  | .reporting message _ => some (.event (.captured message))
  | .stopping _ => some (.note (.inr .cut))
  | .broken panic => some (.note (.inr (.caught panic)))

inductive Reads : Phase → Entry (ν ⊕ Mark) → Phase → Prop where
  | written (note : ν) (pulls : List Nat) :
      Reads (.running pulls) (.note (.inl note)) (.running pulls)
  | called (pulls : List Nat) : Reads (.running pulls) (.note (.inr .called)) (.running pulls)
  | evaluating (pulls : List Nat) : Reads (.running pulls) (.event .evaluating) (.starting pulls)
  | started (pulls : List Nat) : Reads (.starting pulls) (.note (.inr .started)) (.running pulls)
  | failed (message : String) (pulls : List Nat) :
      Reads (.running pulls) (.note (.inr (.failed message))) (.reporting message pulls)
  | captured (message : String) (pulls : List Nat) :
      Reads (.reporting message pulls) (.event (.captured message)) (.running pulls)
  | gathering (pulls : List Nat) :
      Reads (.running pulls) (.note (.inr .gathering)) (.running (0 :: pulls))
  | pulled (made : Nat) (pulls : List Nat) :
      Reads (.running (made :: pulls)) (.note (.inr .pulled)) (.running ((made + 1) :: pulls))
  | collected (made : Nat) (pulls : List Nat) :
      Reads (.running (made :: pulls)) (.note (.inr .collected)) (.running pulls)
  | stopped (position : Nat) (pulls : List Nat) :
      Reads (.running ((position + 1) :: pulls)) (.event (.stopped position)) (.stopping pulls)
  | cut (pulls : List Nat) : Reads (.stopping pulls) (.note (.inr .cut)) (.running pulls)
  | panicked (panic : Panic) (pulls : List Nat) :
      Reads (.running pulls) (.note (.inr (.panicked panic))) (.broken panic)
  | poisoned (pulls : List Nat) : Reads (.running pulls) (.event .poisoned) (.broken .poisoned)
  | caught (panic : Panic) : Reads (.broken panic) (.note (.inr (.caught panic))) (.running [])

theorem watchReads (read : before.watch entry = some after) : Reads before entry after := by
  unfold Phase.watch at read
  split at read
  · obtain ⟨rfl, rfl⟩ := by simpa using read
    exact .caught _
  · unfold Phase.read at read
    split at read
    case h_6 | h_10 =>
      obtain ⟨rfl, rfl⟩ := by simpa using read
      constructor
    all_goals cases read
    all_goals constructor

theorem watchDue {due : Entry (ν ⊕ Mark)} (read : Reads before entry after)
    (expected : before.due? = some due) : entry = due := by
  cases read <;> cases expected <;> rfl

theorem nextDue {due : Entry (ν ⊕ Mark)}
    (watched : watch before (front ++ entry :: back) = some (.running []))
    (leads : ∀ reached next : Phase, Reads reached entry next → next.due? = some due) :
    ∃ rest, back = due :: rest := by
  obtain ⟨reached, next, _, read, rest⟩ := watchSplit watched
  have expected := leads reached next (watchReads read)
  have moved : Phase.running [] ≠ next := by
    rintro rfl
    cases expected
  obtain ⟨entry, more, after, rfl, readNext⟩ := watchNext rest moved
  exact ⟨more, by rw [watchDue (watchReads readNext) expected]⟩

theorem lastDue {due : Entry (ν ⊕ Mark)}
    (watched : watch (.running []) (front ++ entry :: back) = some after)
    (follows : ∀ reached next : Phase, Reads reached entry next → reached.due? = some due) :
    ∃ rest last, ∃ reached next : Phase, front = rest ++ [last] ∧ Reads reached last next ∧
      next.due? = some due := by
  obtain ⟨reached, next, first, read, _⟩ := watchSplit watched
  have expected := follows reached next (watchReads read)
  have moved : reached ≠ .running [] := by
    rintro rfl
    cases expected
  obtain ⟨rest, last, earlier, split, readLast⟩ := watchLast first moved
  exact ⟨rest, last, earlier, reached, split, watchReads readLast, expected⟩

end Watching

/- Wherever one of the two is, the other is next to it, and the first is first. -/
def Coupled (first second : Entry (ν ⊕ Mark)) (log : List (Entry (ν ⊕ Mark))) : Prop :=
  ∀ front back, (log = front ++ first :: back → ∃ rest, back = second :: rest) ∧
    (log = front ++ second :: back → ∃ before, front = before ++ [first])

/- The events of a log, each with the mark that it belongs to. Where a collection stops, its
position is the number of its pulls before the last one, whatever was collected meanwhile. -/
structure Accounted (log : List (Entry (ν ⊕ Mark))) : Prop where
  starts : Coupled (.event .evaluating) (.note (.inr .started)) log
  errors (message : String) :
    Coupled (.note (.inr (.failed message))) (.event (.captured message)) log
  poisoned (front back : List (Entry (ν ⊕ Mark)))
    (split : log = front ++ .event .poisoned :: back) :
    ∃ rest, back = .note (.inr (.caught .poisoned)) :: rest
  caught (front back : List (Entry (ν ⊕ Mark))) (panic : Panic)
    (split : log = front ++ .note (.inr (.caught panic)) :: back) :
    ∃ before entry, front = before ++ [entry] ∧ entry.panic? = some panic
  stopped (front back : List (Entry (ν ⊕ Mark))) (position : Nat)
    (split : log = front ++ .event (.stopped position) :: back) :
    (∃ outer, watch (.running []) front = some (.running ((position + 1) :: outer))) ∧
      ∃ rest, back = .note (.inr .cut) :: rest
  cut (front back : List (Entry (ν ⊕ Mark))) (split : log = front ++ .note (.inr .cut) :: back) :
    ∃ before position, front = before ++ [.event (.stopped position)]

theorem coupled {log : List (Entry (ν ⊕ Mark))} {first second : Entry (ν ⊕ Mark)}
    (watched : watch (.running []) log = some (.running []))
    (leads : ∀ reached next, Reads reached first next → next.due? = some second)
    (follows : ∀ reached next, Reads reached second next → reached.due? = some second)
    (comes : ∀ reached entry next, Reads reached entry next → next.due? = some second →
      entry = first) : Coupled first second log := by
  intro front back
  constructor
  · rintro rfl
    exact nextDue watched leads
  · rintro rfl
    obtain ⟨rest, last, reached, next, rfl, read, expected⟩ := lastDue watched follows
    exact ⟨rest, by rw [comes reached last next read expected]⟩

theorem watchAccounted {log : List (Entry (ν ⊕ Mark))}
    (watched : watch (.running []) log = some (.running [])) : Accounted log where
  starts := by
    refine coupled watched ?_ ?_ ?_
    · rintro _ _ ⟨⟩
      rfl
    · rintro _ _ ⟨⟩
      rfl
    · rintro _ _ _ ⟨⟩ ⟨⟩
      rfl
  errors message := by
    refine coupled watched ?_ ?_ ?_
    · rintro _ _ ⟨⟩
      rfl
    · rintro _ _ ⟨⟩
      rfl
    · rintro _ _ _ ⟨⟩ ⟨⟩
      rfl
  poisoned front back split := by
    subst split
    refine nextDue watched ?_
    rintro _ _ ⟨⟩
    rfl
  caught front back panic split := by
    subst split
    have follows : ∀ reached next : Phase,
        Reads reached (.note (.inr (.caught panic)) : Entry (ν ⊕ Mark)) next →
          reached.due? = some (.note (.inr (.caught panic)) : Entry (ν ⊕ Mark)) := by
      rintro _ _ ⟨⟩
      rfl
    obtain ⟨rest, last, reached, next, rfl, read, expected⟩ := lastDue watched follows
    refine ⟨rest, last, rfl, ?_⟩
    cases read <;> cases expected <;> rfl
  stopped front back position split := by
    subst split
    constructor
    · obtain ⟨reached, next, first, read, _⟩ := watchSplit watched
      cases watchReads read
      exact ⟨_, first⟩
    · refine nextDue watched ?_
      rintro _ _ ⟨⟩
      rfl
  cut front back split := by
    subst split
    have follows : ∀ reached next : Phase,
      Reads reached (.note (.inr .cut) : Entry (ν ⊕ Mark)) next →
        reached.due? = some (.note (.inr .cut) : Entry (ν ⊕ Mark)) := by
      rintro _ _ ⟨⟩
      rfl
    obtain ⟨rest, last, reached, next, rfl, read, expected⟩ := lastDue watched follows
    cases read <;> cases expected
    exact ⟨rest, _, rfl⟩

inductive Deeds (κ ν : Type) : List Type → Type 1 where
  | done {types : List Type} : Deeds κ ν types
  | step {types others : List Type} {answer : Type} (deed : Deed κ ν types others answer)
      (returned : answer → Deeds κ ν (answer :: others)) (panicked : Panic → Deeds κ ν others) :
      Deeds κ ν types

namespace Deeds

def run : {types : List Type} → Deeds κ ν types → Values types → Act κ (ν ⊕ Mark) Unit
  | _, .done, _ => pure ()
  | _, .step deed returned panicked, owned => do
    match ← deed.run owned with
    | (.ok answer, others) => (returned answer).run (answer, others)
    | (.error panic, others) => do
      Act.note (.inr (.caught panic))
      (panicked panic).run others

theorem runWatched {types : List Type} (deeds : Deeds κ ν types) (owned : Values types)
    (context : κ)
    (next : Nat) : ∃ log used, (deeds.run owned).run context next = ⟨log, used, .ok ()⟩ ∧
      watch (.running []) log = some (.running []) := by
  induction deeds generalizing next with
  | done => exact ⟨[], 0, rfl, rfl⟩
  | step deed returned panicked ihReturned ihPanicked =>
    obtain ⟨log, used, ending, others, ran, read⟩ := (deed.lends owned).reads [] context next
    have watched := auditWatched read
    rw [run, Act.runBindOk ran]
    cases ending with
    | ok answer =>
      obtain ⟨more, further, ranOn, readOn⟩ := ihReturned answer (answer, others) (next + used)
      refine ⟨log ++ more, used + further, by simp only [ranOn, Report.behind], ?_⟩
      simp only [watchAppend, watched]
      exact readOn
    | error panic =>
      obtain ⟨more, further, ranOn, readOn⟩ := ihPanicked panic others (next + used)
      have noted : (Act.note (.inr (.caught panic)) : Act _ (ν ⊕ Mark) Unit).run context
          (next + used) = ⟨[.note (.inr (.caught panic))], 0, .ok ()⟩ := rfl
      refine ⟨log ++ .note (.inr (.caught panic)) :: more, used + further, ?_, ?_⟩
      · simp only [Act.runBindOk noted, Nat.add_zero, ranOn, Report.behind, Nat.zero_add,
          List.singleton_append]
      · simp only [watchAppend, watched]
        exact (congrArg (· >>= fun reached => watch reached more) (if_pos rfl)).trans readOn

theorem runAccounted {types : List Type} (deeds : Deeds κ ν types) (owned : Values types)
    (context : κ) (next : Nat) : ∃ log used,
      (deeds.run owned).run context next = ⟨log, used, .ok ()⟩ ∧ Accounted log := by
  obtain ⟨log, used, ran, watched⟩ := deeds.runWatched owned context next
  exact ⟨log, used, ran, watchAccounted watched⟩

end Deeds

def Act.Quiet {α : Type} (act : Act κ ν α) : Prop :=
  ∀ context next event, .event event ∉ (act.run context next).log

theorem builtQuiet {C : Type → Type} {ask : ⦃γ : Type⦄ → C γ → Act κ ν γ}
    (quiet : ∀ {γ : Type} (callback : C γ), (ask callback).Quiet) {β : Type} {act : Act κ ν β}
    (built : Built ask act) : act.Quiet := by
  induction built with
  | ask callback => exact quiet callback
  | pure value => exact fun _ _ _ => List.not_mem_nil
  | stop panic => exact fun _ _ _ => List.not_mem_nil
  | map f first ih =>
    intro context next event
    rw [Act.runMap]
    exact ih context next event
  | @bind _ _ act rest first last ih ihLast =>
    intro context next event
    have before := ih context next event
    cases ran : act.run context next with
    | mk log used ending =>
      rw [ran] at before
      cases ending with
      | error panic =>
        rw [Act.runBindError ran]
        exact before
      | ok value =>
        rw [Act.runBindOk ran]
        exact fun reported => (List.mem_append.mp reported).elim before
          (ihLast value context (next + used) event)

/- A run of a program ends, with every event in its place; and of the events in it none is
an ordinary operation's own. -/
theorem eventsAccounted (κ ν : Type) :
    (∀ {types : List Type} (deeds : Deeds κ ν types) (owned : Values types) (context : κ)
      (next : Nat), ∃ log used,
        (deeds.run owned).run context next = ⟨log, used, .ok ()⟩ ∧ Accounted log) ∧
    (∀ {C : Type → Type} {ask : ⦃γ : Type⦄ → C γ → Act κ ν γ} {β : Type}
      (operation : Ordinary (Act κ ν) C β), Built ask (operation.run ask) ∧
        ((∀ {γ : Type} (callback : C γ), (ask callback).Quiet) → (operation.run ask).Quiet)) :=
  ⟨Deeds.runAccounted, fun operation =>
    ⟨operation.built, fun quiet => builtQuiet quiet operation.built⟩⟩

example :
    let failing : Sound Unit Unit Int :=
      ⟨Code.delayed (pure (.error (.plain (.text "boom")))), delayedMinds _⟩
    let seen : Sight Unit Unit Int Bool _ := .glance .isFailure
    let asked : Lent Unit Unit (Values [Sound Unit Unit Int]) Bool :=
      .peek fun taken => taken.1.val.isEvaluated
    let deeds : Deeds Unit Unit [Sound Unit Unit Int] :=
      .step (.lend (.more .here .none) asked)
        (fun _ => .step (.sight (.there .here) seen)
          (fun _ => .step (.sight (.there (.there .here)) seen) (fun _ => .done) fun _ => .done)
          fun _ => .done) fun _ => .done
    ((deeds.run (failing, ())).run () 0).log = [.event .evaluating, .note (.inr .started),
      .note (.inr (.failed "boom")), .event (.captured "boom")] := by
  decide +kernel

end OutcomeAlgebra
