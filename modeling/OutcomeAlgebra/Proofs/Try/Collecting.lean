import OutcomeAlgebra.Proofs.Try.Evaluation
import OutcomeAlgebra.Try.Sequence
/-! Where collecting ends, and what it has done by then. Elements come from pulls of
any kind, finitely many or not; a pull may have effects of its own. `Reaches` says
that the first positions were all pulled and successful, `Decides` how the next one
ends the run. Neither mentions a pull behind that position. -/
namespace OutcomeAlgebra.Try

variable {κ ν α : Type}

inductive Reaches (pull : Nat → Act κ ν (Option (Try κ ν α))) (context : κ) (next : Nat) :
    (position : Nat) → (values : List α) → (log : List (Entry ν)) → (used : Nat) → Prop where
  | start : Reaches pull context next 0 [] [] 0
  | more {position values log used pullLog pullUsed attempt evaluationLog evaluationUsed value}
      (earlier : Reaches pull context next position values log used)
      (pulled : (pull position).run context (next + used) = ⟨pullLog, pullUsed, .ok (some attempt)⟩)
      (evaluated : Evaluates context (next + used + pullUsed) attempt
        ⟨evaluationLog, evaluationUsed, .ok (.ok value)⟩) :
      Reaches pull context next (position + 1) (values ++ [value])
        (log ++ (pullLog ++ evaluationLog)) (used + (pullUsed + evaluationUsed))

inductive Decides (pull : Nat → Act κ ν (Option (Try κ ν α))) (context : κ) (next : Nat) :
    (position : Nat) → Report ν (Try κ ν (List α)) → Prop where
  | exhausted {position values log used pullLog pullUsed}
      (earlier : Reaches pull context next position values log used)
      (pulled : (pull position).run context (next + used) = ⟨pullLog, pullUsed, .ok none⟩) :
      Decides pull context next position ⟨log ++ pullLog, used + pullUsed, .ok (.success values)⟩
  | failed {position values log used pullLog pullUsed attempt evaluationLog evaluationUsed capture}
      (earlier : Reaches pull context next position values log used)
      (pulled : (pull position).run context (next + used) = ⟨pullLog, pullUsed, .ok (some attempt)⟩)
      (evaluated : Evaluates context (next + used + pullUsed) attempt
        ⟨evaluationLog, evaluationUsed, .ok (.error capture)⟩) :
      Decides pull context next position
        ⟨log ++ (pullLog ++ evaluationLog ++ [.event (.stopped position)]),
          used + (pullUsed + evaluationUsed), .ok (.failure capture)⟩
  | panicked {position values log used pullLog pullUsed attempt evaluationLog evaluationUsed panic}
      (earlier : Reaches pull context next position values log used)
      (pulled : (pull position).run context (next + used) = ⟨pullLog, pullUsed, .ok (some attempt)⟩)
      (evaluated : Evaluates context (next + used + pullUsed) attempt
        ⟨evaluationLog, evaluationUsed, .error panic⟩) :
      Decides pull context next position
        ⟨log ++ (pullLog ++ evaluationLog), used + (pullUsed + evaluationUsed), .error panic⟩
  | unpulled {position values log used pullLog pullUsed panic}
      (earlier : Reaches pull context next position values log used)
      (pulled : (pull position).run context (next + used) = ⟨pullLog, pullUsed, .error panic⟩) :
      Decides pull context next position ⟨log ++ pullLog, used + pullUsed, .error panic⟩

def prependTo (values : List α) : Try κ ν (List α) → Try κ ν (List α)
  | .success more => .success (values ++ more)
  | other => other

theorem prependNothing (attempt : Try κ ν (List α)) : prependTo [] attempt = attempt := by
  cases attempt <;> rfl

theorem prependConsTo (values : List α) (value : α) (attempt : Try κ ν (List α)) :
    prependTo values (consTo value attempt) = prependTo (values ++ [value]) attempt := by
  cases attempt with
  | success more => simp [prependTo, consTo]
  | failure capture => rfl
  | deferred cell => rfl

section Position

variable {pull : Nat → Act κ ν (Option (Try κ ν α))} {context : κ} {index next : Nat}
  {log evaluationLog : List (Entry ν)} {used evaluationUsed : Nat} {attempt : Try κ ν α}

theorem collectEnded (pulled : (pull index).run context next = ⟨log, used, .ok none⟩)
    (limit : Nat) :
    (collectFrom pull (limit + 1) index).run context next =
      ⟨log, used, .ok (some (.success []))⟩ := by
  rw [collectFrom, Act.runBindOk pulled]
  simp [Report.behind, Act.runPure]

theorem collectUnpulled {panic : Panic}
    (pulled : (pull index).run context next = ⟨log, used, .error panic⟩) (limit : Nat) :
    (collectFrom pull (limit + 1) index).run context next = ⟨log, used, .error panic⟩ := by
  rw [collectFrom, Act.runBindError pulled]

theorem collectSucceeded {value : α}
    (pulled : (pull index).run context next = ⟨log, used, .ok (some attempt)⟩)
    (evaluated : Evaluates context (next + used) attempt
      ⟨evaluationLog, evaluationUsed, .ok (.ok value)⟩) (limit : Nat) :
    (collectFrom pull (limit + 1) index).run context next =
      (((collectFrom pull limit (index + 1)).run context (next + (used + evaluationUsed))).map
        (Option.map (consTo value))).behind (log ++ evaluationLog) (used + evaluationUsed) := by
  have ended := evaluatesExact.mp evaluated
  rw [collectFrom, Act.runBindOk pulled, Act.runBindOk ended, Act.runMap, Report.behindBehind,
    Nat.add_assoc]

theorem collectFailed {capture : Capture}
    (pulled : (pull index).run context next = ⟨log, used, .ok (some attempt)⟩)
    (evaluated : Evaluates context (next + used) attempt
      ⟨evaluationLog, evaluationUsed, .ok (.error capture)⟩) (limit : Nat) :
    (collectFrom pull (limit + 1) index).run context next =
      ⟨log ++ evaluationLog ++ [.event (.stopped index)], used + evaluationUsed,
        .ok (some (.failure capture))⟩ := by
  have ended := evaluatesExact.mp evaluated
  rw [collectFrom, Act.runBindOk pulled, Act.runBindOk ended, Act.runMap, Report.behindBehind]
  rfl

theorem collectPanicked {panic : Panic}
    (pulled : (pull index).run context next = ⟨log, used, .ok (some attempt)⟩)
    (evaluated : Evaluates context (next + used) attempt
      ⟨evaluationLog, evaluationUsed, .error panic⟩) (limit : Nat) :
    (collectFrom pull (limit + 1) index).run context next =
      ⟨log ++ evaluationLog, used + evaluationUsed, .error panic⟩ := by
  have ended := evaluatesExact.mp evaluated
  rw [collectFrom, Act.runBindOk pulled, Act.runBindError ended]
  rfl

end Position

section Runs

variable {pull other : Nat → Act κ ν (Option (Try κ ν α))} {context : κ} {next position : Nat}
  {report : Report ν (Try κ ν (List α))}

theorem collectPast {values : List α} {log : List (Entry ν)} {used : Nat}
    (reaches : Reaches pull context next position values log used) (limit : Nat) :
    (collectFrom pull (position + limit) 0).run context next =
      (((collectFrom pull limit position).run context (next + used)).map
        (Option.map (prependTo values))).behind log used := by
  induction reaches generalizing limit with
  | start =>
    have same : Option.map (prependTo (κ := κ) (ν := ν) ([] : List α)) = id :=
      funext fun found => by cases found <;> simp [prependNothing]
    rw [same, Report.mapId, Report.behindNothing, Nat.zero_add, Nat.add_zero]
  | @more position values log used _ _ _ _ _ value earlier pulled evaluated ih =>
    have later := ih (limit + 1)
    have same : Option.map (prependTo (κ := κ) (ν := ν) values) ∘ Option.map (consTo value) =
        Option.map (prependTo (values ++ [value])) :=
      funext fun found => by cases found <;> simp [prependConsTo]
    rw [collectSucceeded pulled evaluated, Report.mapBehind, Report.mapMap, same,
      Report.behindBehind] at later
    rw [Nat.add_right_comm, Nat.add_assoc position, later, Nat.add_assoc next]

theorem collectDecided (decides : Decides pull context next position report) (limit : Nat) :
    (collectFrom pull (position + (limit + 1)) 0).run context next = report.map some := by
  cases decides with
  | exhausted earlier pulled =>
    rw [collectPast earlier, collectEnded pulled]
    simp [Report.map, Report.behind, Functor.map, Except.map, prependTo]
  | failed earlier pulled evaluated =>
    rw [collectPast earlier, collectFailed pulled evaluated]
    simp [Report.map, Report.behind, Functor.map, Except.map, prependTo]
  | panicked earlier pulled evaluated =>
    rw [collectPast earlier, collectPanicked pulled evaluated]
    rfl
  | unpulled earlier pulled =>
    rw [collectPast earlier, collectUnpulled pulled]
    rfl

theorem reachedBefore {values : List α} {log : List (Entry ν)} {used earlier : Nat}
    (reaches : Reaches pull context next position values log used) (before : earlier ≤ position) :
    ∃ values log used, Reaches pull context next earlier values log used := by
  induction reaches with
  | start =>
    obtain rfl := Nat.le_zero.mp before
    exact ⟨_, _, _, .start⟩
  | @more position _ _ _ _ _ _ _ _ _ previous pulled evaluated ih =>
    rcases Nat.lt_or_eq_of_le before with less | rfl
    · exact ih (Nat.le_of_lt_succ less)
    · exact ⟨_, _, _, .more previous pulled evaluated⟩

theorem decidedReached (decides : Decides pull context next position report) :
    ∃ values log used, Reaches pull context next position values log used := by
  cases decides with
  | exhausted earlier pulled => exact ⟨_, _, _, earlier⟩
  | failed earlier pulled evaluated => exact ⟨_, _, _, earlier⟩
  | panicked earlier pulled evaluated => exact ⟨_, _, _, earlier⟩
  | unpulled earlier pulled => exact ⟨_, _, _, earlier⟩

theorem undecidedAt {values : List α} {log : List (Entry ν)} {used : Nat}
    (reached : Reaches pull context next position values log used) :
    ((collectFrom pull position 0).run context next).ending = .ok none := by
  have past := collectPast reached 0
  rw [Nat.add_zero] at past
  rw [past]
  rfl

theorem undecidedBefore (decides : Decides pull context next position report) {limit : Nat}
    (before : limit ≤ position) :
    ((collectFrom pull limit 0).run context next).ending = .ok none := by
  obtain ⟨values, log, used, reached⟩ := decidedReached decides
  obtain ⟨values, log, used, reached⟩ := reachedBefore reached before
  exact undecidedAt reached

theorem advance {values : List α} {log : List (Entry ν)} {used : Nat}
    (reached : Reaches pull context next position values log used) :
    (∃ values log used, Reaches pull context next (position + 1) values log used) ∨
      ∃ report, Decides pull context next position report := by
  cases pulled : (pull position).run context (next + used) with
  | mk pullLog pullUsed pulling =>
    cases pulling with
    | error panic => exact .inr ⟨_, .unpulled reached pulled⟩
    | ok found =>
      cases found with
      | none => exact .inr ⟨_, .exhausted reached pulled⟩
      | some attempt =>
        have evaluated := intoResultEvaluates attempt context (next + used + pullUsed)
        cases ended : attempt.intoResult.run context (next + used + pullUsed) with
        | mk evaluationLog evaluationUsed ending =>
          rw [ended] at evaluated
          cases ending with
          | error panic => exact .inr ⟨_, .panicked reached pulled evaluated⟩
          | ok outcome =>
            cases outcome with
            | error capture => exact .inr ⟨_, .failed reached pulled evaluated⟩
            | ok value => exact .inl ⟨_, _, _, .more reached pulled evaluated⟩

theorem reachedOrDecided (pull : Nat → Act κ ν (Option (Try κ ν α))) (context : κ)
    (next position : Nat) :
    (∃ values log used, Reaches pull context next position values log used) ∨
      ∃ earlier < position, ∃ report, Decides pull context next earlier report := by
  induction position with
  | zero => exact .inl ⟨_, _, _, .start⟩
  | succ position ih =>
    rcases ih with ⟨values, log, used, reached⟩ | ⟨earlier, before, report, decides⟩
    · rcases advance reached with further | ⟨report, decides⟩
      · exact .inl further
      · exact .inr ⟨position, Nat.lt_succ_self position, report, decides⟩
    · exact .inr ⟨earlier, Nat.lt_succ_of_lt before, report, decides⟩

theorem decidedOrEndless (pull : Nat → Act κ ν (Option (Try κ ν α))) (context : κ) (next : Nat) :
    (∃ position report, Decides pull context next position report) ∨
      ∀ position, ∃ values log used, Reaches pull context next position values log used := by
  by_cases decided : ∃ position report, Decides pull context next position report
  · exact .inl decided
  · refine .inr fun position => ?_
    rcases reachedOrDecided pull context next position with reached | ⟨earlier, _, report, decides⟩
    · exact reached
    · exact absurd ⟨earlier, report, decides⟩ decided

theorem decidesExact : Decides pull context next position report ↔
    (∀ limit ≤ position, ((collectFrom pull limit 0).run context next).ending = .ok none) ∧
      ∀ limit, position < limit →
        (collectFrom pull limit 0).run context next = report.map some := by
  constructor
  · intro decides
    refine ⟨fun limit before => undecidedBefore decides before, fun limit after => ?_⟩
    obtain ⟨further, rfl⟩ := Nat.exists_eq_add_of_lt after
    exact collectDecided decides further
  · rintro ⟨undecided, decided⟩
    have last := decided (position + 1) (Nat.lt_succ_self position)
    rcases reachedOrDecided pull context next (position + 1) with
      ⟨values, log, used, reached⟩ | ⟨earlier, before, found, decides⟩
    · -- A run that reaches beyond the position is still open there.
      have stillOpen := undecidedAt reached
      rw [last] at stillOpen
      exact absurd stillOpen (Report.mapSomeAnswers report)
    · rcases Nat.lt_or_eq_of_le (Nat.le_of_lt_succ before) with less | rfl
      · have answered := congrArg Report.ending (collectDecided decides 0)
        rw [undecided (earlier + 1) less] at answered
        exact absurd answered.symm (Report.mapSomeAnswers found)
      · have same := (collectDecided decides 0).symm.trans last
        rwa [Report.mapSomeInjective same] at decides

theorem decidesUnique {otherPosition : Nat} {otherReport : Report ν (Try κ ν (List α))}
    (first : Decides pull context next position report)
    (second : Decides pull context next otherPosition otherReport) :
    position = otherPosition ∧ report = otherReport := by
  have late := collectDecided first 0
  have otherLate := collectDecided second 0
  have same : position = otherPosition := by
    rcases Nat.lt_trichotomy position otherPosition with less | same | more
    · have stillOpen := undecidedBefore second (Nat.succ_le_of_lt less)
      rw [late] at stillOpen
      exact absurd stillOpen (Report.mapSomeAnswers report)
    · exact same
    · have stillOpen := undecidedBefore first (Nat.succ_le_of_lt more)
      rw [otherLate] at stillOpen
      exact absurd stillOpen (Report.mapSomeAnswers otherReport)
  subst same
  exact ⟨rfl, Report.mapSomeInjective (late.symm.trans otherLate)⟩

theorem reachesAgree {values : List α} {log : List (Entry ν)} {used : Nat}
    (reached : Reaches pull context next position values log used)
    (agree : ∀ index < position, other index = pull index) :
    Reaches other context next position values log used := by
  induction reached with
  | start => exact .start
  | @more position _ _ _ _ _ _ _ _ _ earlier pulled evaluated ih =>
    rw [← agree position (Nat.lt_succ_self position)] at pulled
    exact .more (ih fun index before => agree index (Nat.lt_succ_of_lt before)) pulled evaluated

theorem decidesAgree (decides : Decides pull context next position report)
    (agree : ∀ index ≤ position, other index = pull index) :
    Decides other context next position report := by
  have before : ∀ index < position, other index = pull index :=
    fun index less => agree index (Nat.le_of_lt less)
  have here := agree position (Nat.le_refl position)
  cases decides with
  | exhausted earlier pulled => exact .exhausted (reachesAgree earlier before) (here ▸ pulled)
  | failed earlier pulled evaluated =>
    exact .failed (reachesAgree earlier before) (here ▸ pulled) evaluated
  | panicked earlier pulled evaluated =>
    exact .panicked (reachesAgree earlier before) (here ▸ pulled) evaluated
  | unpulled earlier pulled => exact .unpulled (reachesAgree earlier before) (here ▸ pulled)

end Runs

section Lists

theorem collectSequenceFrom {pull : Nat → Act κ ν (Option (Try κ ν α))}
    (elements : List (Act κ ν (Try κ ν α))) (index further : Nat)
    (pulls : ∀ offset, pull (index + offset) = Act.pullsOf elements offset) :
    collectFrom pull (elements.length + 1 + further) index =
      some <$> sequenceFrom index elements := by
  induction elements generalizing index with
  | nil =>
    have here := pulls 0
    rw [Nat.add_zero] at here
    rw [List.length_nil, Nat.zero_add, Nat.add_comm, collectFrom, here]
    simp [Act.pullsOf, sequenceFrom]
  | cons element elements ih =>
    have here := pulls 0
    rw [Nat.add_zero] at here
    have rest := ih (index + 1) fun offset => by
      have shifted := pulls (offset + 1)
      rwa [← Nat.add_assoc, Nat.add_right_comm] at shifted
    have enough : (element :: elements).length + 1 + further =
      elements.length + 1 + further + 1 := by
      simp only [List.length_cons]
      omega
    rw [enough, collectFrom, here, sequenceFrom, map_bind]
    change some <$> element >>= _ = _
    rw [bind_map_left]
    refine bind_congr fun attempt => ?_
    rw [map_bind]
    refine bind_congr fun outcome => ?_
    cases outcome with
    | error capture => rfl
    | ok value =>
      rw [rest]
      simp only [Functor.map_map]
      rfl

theorem collectSequence (elements : List (Act κ ν (Try κ ν α))) {limit : Nat}
    (enough : elements.length < limit) :
    collectFrom (Act.pullsOf elements) limit 0 = some <$> sequence elements := by
  obtain ⟨further, rfl⟩ := Nat.exists_eq_add_of_lt enough
  rw [Nat.add_right_comm]
  exact collectSequenceFrom elements 0 further fun offset => by rw [Nat.zero_add]

theorem sequenceDecides (elements : List (Act κ ν (Try κ ν α))) (context : κ) (next : Nat) :
    ∃ position ≤ elements.length, Decides (Act.pullsOf elements) context next position
      ((sequence elements).run context next) := by
  have whole := collectSequence elements (Nat.lt_succ_self elements.length)
  rcases reachedOrDecided (Act.pullsOf elements) context next (elements.length + 1) with
    ⟨values, log, used, reached⟩ | ⟨position, before, report, decides⟩
  · have stillOpen := undecidedAt reached
    rw [whole, Act.runMap] at stillOpen
    exact absurd stillOpen (Report.mapSomeAnswers _)
  · have answered := collectDecided decides (elements.length - position)
    have enough : elements.length < position + (elements.length - position + 1) := by omega
    rw [collectSequence elements enough, Act.runMap] at answered
    rw [Report.mapSomeInjective answered]
    exact ⟨position, Nat.le_of_lt_succ before, decides⟩

end Lists

structure ListCollected (elements : List (Act κ ν (Try κ ν α))) (context : κ) (next : Nat) :
    Prop where
  decided : ∃ position ≤ elements.length, Decides (Act.pullsOf elements) context next position
    ((sequence elements).run context next)
  source : ∀ limit, elements.length < limit →
    collectFrom (Act.pullsOf elements) limit 0 = some <$> sequence elements

structure SourceCollected (pull : Nat → Act κ ν (Option (Try κ ν α))) (context : κ)
    (next : Nat) : Prop where
  decided : (∃ position report, Decides pull context next position report) ∨
    ∀ position, ∃ values log used, Reaches pull context next position values log used
  limits : ∀ (position : Nat) (report : Report ν (Try κ ν (List α))),
    Decides pull context next position report ↔
      (∀ limit ≤ position, ((collectFrom pull limit 0).run context next).ending = .ok none) ∧
        ∀ limit, position < limit → (collectFrom pull limit 0).run context next = report.map some
  agree : ∀ {position report}, Decides pull context next position report →
    ∀ other, (∀ index ≤ position, other index = pull index) →
      Decides other context next position report
  unique : ∀ {position report}, Decides pull context next position report →
    ∀ otherPosition otherReport, Decides pull context next otherPosition otherReport →
      position = otherPosition ∧ report = otherReport

theorem collectingExact (context : κ) (next : Nat) :
    (∀ elements : List (Act κ ν (Try κ ν α)), ListCollected elements context next) ∧
    ∀ pull : Nat → Act κ ν (Option (Try κ ν α)), SourceCollected pull context next := by
  constructor
  · intro elements
    exact ⟨sequenceDecides elements context next, fun _ enough => collectSequence elements enough⟩
  · intro pull
    exact {
      decided := decidedOrEndless pull context next
      limits := fun _ _ => decidesExact
      agree := fun decides _ same => decidesAgree decides same
      unique := fun decides _ _ also => decidesUnique decides also }

end OutcomeAlgebra.Try
