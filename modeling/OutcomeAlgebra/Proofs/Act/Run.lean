import OutcomeAlgebra.Act.Basic
/-! Reading a run off its parts. A report is taken as it stands: nothing is said
here of how often a computation runs, only of what one run leaves behind. -/
namespace OutcomeAlgebra

variable {κ ν α β γ : Type}

namespace Report

def behind (log : List (Entry ν)) (used : Nat) (report : Report ν α) : Report ν α :=
  ⟨log ++ report.log, used + report.used, report.ending⟩

def map (f : α → β) (report : Report ν α) : Report ν β :=
  ⟨report.log, report.used, f <$> report.ending⟩

theorem behindNothing (report : Report ν α) : report.behind [] 0 = report := by
  simp [behind]

theorem behindBehind (log more : List (Entry ν)) (used further : Nat) (report : Report ν α) :
    (report.behind more further).behind log used =
      report.behind (log ++ more) (used + further) := by
  simp [behind, List.append_assoc, Nat.add_assoc]

theorem mapBehind (f : α → β) (log : List (Entry ν)) (used : Nat) (report : Report ν α) :
    (report.behind log used).map f = (report.map f).behind log used := rfl

theorem mapMap (f : α → β) (g : β → γ) (report : Report ν α) :
    (report.map f).map g = report.map (g ∘ f) := by
  obtain ⟨log, used, ending⟩ := report
  cases ending <;> rfl

theorem mapId (report : Report ν α) : report.map id = report := by
  obtain ⟨log, used, ending⟩ := report
  cases ending <;> rfl

theorem mapSomeAnswers (report : Report ν α) : (report.map some).ending ≠ .ok none := by
  obtain ⟨log, used, ending⟩ := report
  cases ending with
  | error panic => exact nofun
  | ok value => exact nofun

theorem mapSomeInjective {left right : Report ν α} (same : left.map some = right.map some) :
    left = right := by
  obtain ⟨log, used, ending⟩ := left
  obtain ⟨otherLog, otherUsed, other⟩ := right
  simp only [map, Report.mk.injEq] at same
  obtain ⟨rfl, rfl, endings⟩ := same
  cases ending <;> cases other <;> simp_all [Functor.map, Except.map]

end Report

namespace Act

def pullsOf (elements : List (Act κ ν α)) (position : Nat) : Act κ ν (Option α) :=
  match elements[position]? with
  | some element => some <$> element
  | none => pure none

variable {act : Act κ ν α} {context : κ} {next used : Nat} {log : List (Entry ν)}

theorem runBindOk {value : α} (ran : act.run context next = ⟨log, used, .ok value⟩)
    (rest : α → Act κ ν β) :
    (act >>= rest).run context next = ((rest value).run context (next + used)).behind log used := by
  rw [runBind, ran]
  rfl

theorem runBindError {panic : Panic} (ran : act.run context next = ⟨log, used, .error panic⟩)
    (rest : α → Act κ ν β) :
    (act >>= rest).run context next = ⟨log, used, .error panic⟩ := by
  rw [runBind, ran]
  rfl

theorem runMap (f : α → β) (act : Act κ ν α) (context : κ) (next : Nat) :
    (f <$> act).run context next = (act.run context next).map f := by
  rw [map_eq_pure_bind, runBind]
  cases ran : act.run context next with
  | mk log used ending => cases ending <;> simp [follow, Report.map, pure, Functor.map, Except.map]

theorem runBindEnds {value : β} (rest : α → Act κ ν β)
    (ended : ((act >>= rest).run context next).ending = .ok value) :
    ∃ between, (act.run context next).ending = .ok between ∧
      ((rest between).run context (next + (act.run context next).used)).ending = .ok value := by
  rw [runBind] at ended
  cases ran : act.run context next with
  | mk log used ending =>
    rw [ran] at ended
    cases ending with
    | error panic => cases ended
    | ok between => exact ⟨between, rfl, ended⟩

theorem runBindEnding {value : α} (ended : (act.run context next).ending = .ok value)
    (rest : α → Act κ ν β) :
    ((act >>= rest).run context next).ending =
      ((rest value).run context (next + (act.run context next).used)).ending := by
  rw [runBind]
  unfold follow
  rw [ended]
  rfl

theorem runEnding {ending : Except Panic α} (ran : act.run context next = ⟨log, used, ending⟩) :
    act.ending.run context next = ⟨log, used, .ok ending⟩ := by
  have handed : act.ending.run context next = ⟨(act.run context next).log,
    (act.run context next).used, .ok (act.run context next).ending⟩ := rfl
  rw [handed, ran]

theorem endingBind (act : Act κ ν α) {rest : Except Panic α → Act κ ν β}
    (stops : ∀ panic, rest (.error panic) = stop panic) :
    (act.ending >>= rest) = act >>= fun value => rest (.ok value) := by
  funext context next
  change (act.ending >>= rest).run context next =
    (act >>= fun value => rest (.ok value)).run context next
  cases ran : act.run context next with
  | mk log used ending =>
    cases ending with
    | error panic =>
      rw [runBindOk (runEnding ran), runBindError ran, stops panic]
      simp [Report.behind, run, stop]
    | ok value => rw [runBindOk (runEnding ran), runBindOk ran]

def Ends (act : Act κ ν α) : Prop :=
  ∀ context next, ∃ value, (act.run context next).ending = .ok value

theorem endsPure (value : α) : (pure value : Act κ ν α).Ends := fun _ _ => ⟨value, rfl⟩

theorem endsEnding (act : Act κ ν α) : act.ending.Ends :=
  fun context next => ⟨(act.run context next).ending, rfl⟩

theorem Ends.bind {rest : α → Act κ ν β} (first : act.Ends) (second : ∀ value, (rest value).Ends) :
    (act >>= rest).Ends := by
  intro context next
  obtain ⟨between, ended⟩ := first context next
  cases ran : act.run context next with
  | mk log used ending =>
    rw [ran] at ended
    cases ended
    obtain ⟨value, last⟩ := second between context (next + used)
    refine ⟨value, ?_⟩
    rw [runBindOk ran]
    exact last

end Act

end OutcomeAlgebra
