import OutcomeAlgebra.Algebra.Accumulate
import OutcomeAlgebra.Algebra.Scalar
import OutcomeAlgebra.Either.Sequence
import OutcomeAlgebra.Proofs.Outcome.Agreeing
import OutcomeAlgebra.Try.Sequence
/-! Collecting as a traversal. The loops over eithers and over tries are the left fold of
`map2`, and split wherever the list is split. A loop over tries says in the log where it
stopped, which no fold does; but for that one entry, always the last one of a run that
ends in a failure, all programs here are equal. -/
namespace OutcomeAlgebra

section Folds

variable {m F : Type → Type} [Monad m] {α ε : Type}

def Outcome.pushOnto [Outcome m F] (outcome : F (List α)) (outcomes : List (F α)) :
    m (F (List α)) :=
  outcomes.foldlM (fun earlier outcome =>
    Outcome.map2 earlier outcome fun values value => pure (values ++ [value])) outcome

def Outcome.pushAll [Outcome m F] (outcomes : List (F α)) : m (F (List α)) :=
  Outcome.pushOnto (Outcome.lift m []) outcomes

/- The values of two collections, the second one made only if there are values already. -/
def Outcome.spliced [Outcome m F] (first second : m (F (List α))) : m (F (List α)) := do
  let outcome ← first
  Outcome.flatMap outcome fun values => do
    let further ← second
    Outcome.map further fun more => pure (values ++ more)

def Family.collect (family : Family m F ε) : List (m (F α)) → m (Except ε (List α))
  | [] => pure (.ok [])
  | pull :: rest => do
    let outcome ← pull
    match ← family.split outcome with
    | .error failure => pure (.error failure)
    | .ok value => Except.map (value :: ·) <$> family.collect rest

structure Family.Pairs [Outcome m F] (family : Family m F ε) (fail : {β : Type} → ε → F β) : Prop
    extends family.Describes fail where
  splitFail : ∀ {α : Type} (failure : ε), family.split (fail (β := α) failure) =
    pure (.error failure)
  rebuildOk : ∀ {α : Type} (value : α), family.rebuild (.ok value) = Outcome.lift m value
  map2 : ∀ {α β γ : Type} (first : F α) (second : F β) (f : α → β → m γ),
    Outcome.map2 first second f = Outcome.flatMap first fun a => Outcome.map second (f a)

theorem pushOntoCons [Outcome m F] (earlier : F (List α)) (outcome : F α) (rest : List (F α)) :
    Outcome.pushOnto (m := m) earlier (outcome :: rest) =
      Outcome.map2 earlier outcome (fun values value => pure (values ++ [value])) >>= fun earlier =>
        Outcome.pushOnto earlier rest :=
  List.foldlM_cons

variable [LawfulMonad m]

theorem prependNone : Except.map (ε := ε) (([] : List α) ++ ·) = id := by
  funext result
  cases result <;> rfl

theorem prependTwice (first second : List α) :
    Except.map (ε := ε) (first ++ ·) ∘ Except.map (second ++ ·) =
      Except.map (first ++ second ++ ·) := by
  funext result
  cases result with
  | error failure => rfl
  | ok values => simp [Except.map]

theorem collectAppend (family : Family m F ε) (front back : List (m (F α))) :
    family.collect (front ++ back) = family.collect front >>= fun
      | .error failure => pure (.error failure)
      | .ok values => Except.map (values ++ ·) <$> family.collect back := by
  induction front with
  | nil =>
    have same := id_map (family.collect back)
    rw [← prependNone] at same
    simp only [Family.collect, List.nil_append, pure_bind]
    exact same.symm
  | cons pull rest ih =>
    simp only [List.cons_append, Family.collect, bind_assoc, ih]
    refine bind_congr fun outcome => bind_congr fun split => ?_
    cases split with
    | error failure => simp only [pure_bind]
    | ok value =>
      simp only [map_bind, bind_map_left]
      refine bind_congr fun values => ?_
      cases values with
      | error failure => exact map_pure _ _
      | ok values =>
        have twice := congrArg (· <$> family.collect back) (prependTwice (ε := ε) [value] values)
        exact (comp_map _ _ _).symm.trans twice

section Pushing

variable [Outcome m F] {family : Family m F ε} {fail : {β : Type} → ε → F β}

theorem pushOntoFailed (pairs : family.Pairs fail) (failure : ε) (outcomes : List (F α)) :
    Outcome.pushOnto (fail failure) outcomes = (pure (fail failure) : m (F (List α))) := by
  induction outcomes with
  | nil => rfl
  | cons outcome rest ih =>
    rw [pushOntoCons, pairs.map2, pairs.flatMap, pairs.splitFail, pure_bind]
    exact (pure_bind _ _).trans ih

theorem pushOntoCollects (pairs : family.Pairs fail) (values : List α) (outcomes : List (F α)) :
    Outcome.pushOnto (Outcome.lift m values) outcomes =
      (fun result => family.rebuild (result.map (values ++ ·))) <$>
        family.collect (outcomes.map (pure : F α → m (F α))) := by
  induction outcomes generalizing values with
  | nil => simp [Outcome.pushOnto, Family.collect, Except.map, pairs.rebuildOk]
  | cons outcome rest ih =>
    simp only [pushOntoCons, pairs.map2, pairs.flatMap, pairs.splitLift, pure_bind, pairs.map,
      bind_assoc, List.map_cons, Family.collect, map_bind]
    refine bind_congr fun split => ?_
    cases split with
    | error failure =>
      rw [pure_bind, map_pure, pushOntoFailed pairs]
      exact congrArg pure (pairs.rebuildError failure).symm
    | ok value =>
      have further := ih (values ++ [value])
      simp only [map_pure, pure_bind, pairs.rebuildOk, further, Functor.map_map]
      refine congrArg (· <$> _) (funext fun result => congrArg family.rebuild ?_)
      cases result <;> simp [Except.map]

theorem pushAllCollects (pairs : family.Pairs fail) (outcomes : List (F α)) :
    Outcome.pushAll outcomes =
      family.rebuild <$> family.collect (outcomes.map (pure : F α → m (F α))) := by
  have pushed := pushOntoCollects pairs [] outcomes
  rw [prependNone] at pushed
  exact pushed

theorem spliceCollects (pairs : family.Pairs fail) (front back : List (m (F α))) :
    family.rebuild <$> family.collect (front ++ back) =
      Outcome.spliced (family.rebuild <$> family.collect front)
        (family.rebuild <$> family.collect back) := by
  rw [collectAppend, Outcome.spliced, map_bind, bind_map_left]
  refine bind_congr fun collected => ?_
  cases collected with
  | error failure =>
    simp only [map_pure, pairs.flatMap, pairs.rebuildError, pairs.splitFail, pure_bind]
  | ok values =>
    simp only [pairs.rebuildOk, pairs.flatMap, pairs.splitLift, map_eq_pure_bind, bind_assoc,
      pure_bind]
    refine bind_congr fun further => ?_
    cases further with
    | error failure =>
      simp only [Except.map, pairs.map, pairs.rebuildError, pairs.splitFail, pure_bind]
    | ok more =>
      simp only [Except.map, pairs.map, pairs.rebuildOk, pairs.splitLift, pure_bind, map_pure]

end Pushing

end Folds

namespace Either

variable {m : Type → Type} [Monad m] {L α : Type}

theorem splitEither (either : Either L α) :
    Family.either.split either = (pure either.toExcept : m (Except L α)) := rfl

variable [LawfulMonad m]

theorem pairs : (Family.either (m := m) (L := L)).Pairs .left where
  toDescribes := eitherDescribes
  splitFail failure := rfl
  rebuildOk value := rfl
  map2 first second f := by
    cases first <;> cases second <;> rfl

theorem sequenceCollects (pulls : List (m (Either L α))) :
    sequence pulls = ofExcept <$> Family.either.collect pulls := by
  induction pulls with
  | nil => simp [sequence, Family.collect, ofExcept]
  | cons pull rest ih =>
    simp only [sequence, Family.collect, ih, map_bind, splitEither, pure_bind]
    refine bind_congr fun either => ?_
    cases either with
    | left failure => simp [toExcept, ofExcept]
    | right value =>
      simp only [toExcept, map_eq_pure_bind, bind_assoc, pure_bind]
      refine bind_congr fun collected => ?_
      cases collected <;> rfl

theorem sequencePushes (eithers : List (Either L α)) :
    sequence (eithers.map (pure : _ → m (Either L α))) = Outcome.pushAll eithers := by
  rw [sequenceCollects, pushAllCollects pairs]
  rfl

theorem sequenceSplices (front back : List (m (Either L α))) :
    sequence (front ++ back) = Outcome.spliced (sequence front) (sequence back) := by
  simp only [sequenceCollects]
  exact spliceCollects pairs front back

def keepFirst : SemigroupOp m L where
  append first _ := pure first

def alone : Either L α → Either L (List α)
  | .left failure => .left failure
  | .right value => .right [value]

theorem mapAlone (either : Either L α) :
    (either.map fun value => pure [value]) = (pure either.alone : m _) := by
  cases either with
  | left failure => rfl
  | right value => exact map_pure _ _

theorem appendAlone (earlier : Either L (List α)) (either : Either L α) :
    (keepFirst.accumulate MonoidOp.list.toSemigroupOp).append earlier either.alone =
      (Outcome.map2 earlier either fun values value => pure (values ++ [value]) : m _) := by
  cases earlier with
  | left failure =>
    cases either <;> simp [alone, SemigroupOp.accumulate, keepFirst, Outcome.map2, map2]
  | right values => cases either <;> rfl

theorem joinAlone (eithers : List (Either L α)) :
    (MonoidOp.accumulate keepFirst MonoidOp.list).join (eithers.map alone) =
      (Outcome.pushAll eithers : m _) := by
  have empty : (Either.right <$> MonoidOp.list.empty : m (Either L (List α))) = pure (.right []) :=
    map_pure _ _
  simp only [MonoidOp.accumulate, MonoidOp.of, MonoidOp.foldJoin, empty, pure_bind,
    List.foldlM_map, appendAlone]
  rfl

theorem sequenceJoins (eithers : List (Either L α)) :
    sequence (eithers.map (pure : _ → m (Either L α))) =
      eithers.mapM (fun either => either.map fun value => pure [value]) >>=
        (MonoidOp.accumulate keepFirst MonoidOp.list).join := by
  simp only [mapAlone, List.mapM_pure, pure_bind, joinAlone, sequencePushes]

end Either

namespace Try

variable {κ ν α : Type}

theorem pairs : (Family.attempt (κ := κ) (ν := ν)).Pairs .failure where
  toDescribes := attemptDescribes
  splitFail _ := rfl
  rebuildOk _ := rfl
  map2 _ _ _ := rfl

def located (index : Nat) : List (Act κ ν (Try κ ν α)) → Act κ ν (Except (Nat × Capture) (List α))
  | [] => pure (.ok [])
  | pull :: rest => do
    let attempt ← pull
    match ← attempt.intoResult with
    | .error capture => pure (.error (index, capture))
    | .ok value => Except.map (value :: ·) <$> located (index + 1) rest

def announce : Except (Nat × Capture) (List α) → Act κ ν (Try κ ν (List α))
  | .ok values => pure (.success values)
  | .error (index, capture) => stopAt index capture

theorem sequenceLocated (index : Nat) (pulls : List (Act κ ν (Try κ ν α))) :
    sequenceFrom index pulls = located index pulls >>= announce := by
  induction pulls generalizing index with
  | nil => rfl
  | cons pull rest ih =>
    simp only [sequenceFrom, located, bind_assoc, ih]
    refine bind_congr fun attempt => bind_congr fun split => ?_
    cases split with
    | error capture => rfl
    | ok value =>
      simp only [map_bind, bind_map_left]
      refine bind_congr fun result => ?_
      obtain ⟨position, capture⟩ | values := result <;> rfl

theorem locatedCollects (index : Nat) (pulls : List (Act κ ν (Try κ ν α))) :
    Except.mapError Prod.snd <$> located index pulls = Family.attempt.collect pulls := by
  induction pulls generalizing index with
  | nil => rfl
  | cons pull rest ih =>
    simp only [located, Family.collect, map_bind, ← ih (index + 1)]
    refine bind_congr fun attempt => bind_congr fun split => ?_
    cases split with
    | error capture => rfl
    | ok value =>
      simp only [Functor.map_map]
      refine congrArg (· <$> _) (funext fun result => ?_)
      cases result <;> rfl

def dropStop (report : Report ν (Try κ ν α)) : Report ν (Try κ ν α) :=
  match report.ending with
  | .ok (.failure _) => ⟨report.log.dropLast, report.used, report.ending⟩
  | _ => report

def unannounced (act : Act κ ν (Try κ ν α)) : Act κ ν (Try κ ν α) := fun context next =>
  dropStop (act.run context next)

/- A run that says where it stopped, beside the same run that does not. -/
inductive Announces : Report ν (Try κ ν α) → Report ν (Try κ ν α) → Prop where
  | success {log used value} :
      Announces ⟨log, used, .ok (.success value)⟩ ⟨log, used, .ok (.success value)⟩
  | failure {log used capture} (position : Nat) :
      Announces ⟨log, used, .ok (.failure capture)⟩
        ⟨log ++ [.event (.stopped position)], used, .ok (.failure capture)⟩
  | panicked {log used panic} : Announces ⟨log, used, .error panic⟩ ⟨log, used, .error panic⟩

theorem Announces.dropped {quiet spoken : Report ν (Try κ ν α)}
    (announces : Announces quiet spoken) : dropStop spoken = quiet := by
  cases announces with
  | success => rfl
  | failure position => simp [dropStop]
  | panicked => rfl

theorem announceAnnounces (act : Act κ ν (Except (Nat × Capture) (List α))) (context : κ)
    (next : Nat) :
    Announces ((ofOutcome <$> Except.mapError Prod.snd <$> act).run context next)
      ((act >>= announce).run context next) := by
  rw [Functor.map_map, Act.runMap]
  cases ran : act.run context next with
  | mk log used ending =>
    cases ending with
    | error panic =>
      rw [Act.runBindError ran]
      exact .panicked
    | ok result =>
      rw [Act.runBindOk ran]
      cases result with
      | ok values =>
        simp only [announce, Act.runPure, Report.behind, List.append_nil, Nat.add_zero]
        exact .success
      | error found => exact .failure found.1

theorem announceDropped (act : Act κ ν (Except (Nat × Capture) (List α))) :
    unannounced (act >>= announce) = ofOutcome <$> Except.mapError Prod.snd <$> act := by
  funext context next
  exact (announceAnnounces act context next).dropped

theorem sequenceQuiet (pulls : List (Act κ ν (Try κ ν α))) :
    unannounced (sequence pulls) = ofOutcome <$> Family.attempt.collect pulls := by
  rw [sequence, sequenceLocated, announceDropped, locatedCollects]

theorem sequencePushes (attempts : List (Try κ ν α)) :
    unannounced (sequence (attempts.map pure)) = Outcome.pushAll attempts := by
  rw [sequenceQuiet, pushAllCollects pairs]
  rfl

theorem spliceLocated (front back : List (Act κ ν (Try κ ν α))) :
    Outcome.spliced (sequence front) (sequence back) =
      (located 0 front >>= fun
        | .error stop => pure (.error stop)
        | .ok values => Except.map (values ++ ·) <$> located 0 back) >>= announce := by
  simp only [Outcome.spliced, sequence, sequenceLocated, bind_assoc]
  refine bind_congr fun collected => ?_
  cases collected with
  | error stop => rfl
  | ok values =>
    have held : (intoResult (.success values) : Act κ ν _) = pure (.ok values) := rfl
    simp only [announce, pure_bind, Outcome.flatMap, flatMap, held, bind_map_left]
    refine bind_congr fun result => ?_
    cases result <;> rfl

theorem sequenceSplices (front back : List (Act κ ν (Try κ ν α))) :
    unannounced (sequence (front ++ back)) =
      unannounced (Outcome.spliced (sequence front) (sequence back)) := by
  rw [sequenceQuiet, collectAppend, spliceLocated, announceDropped]
  simp only [map_bind, ← locatedCollects 0, bind_map_left]
  refine bind_congr fun collected => congrArg (ofOutcome <$> ·) ?_
  cases collected with
  | error stop => exact (map_pure _ _).symm
  | ok values =>
    change (Except.map (values ++ ·) <$> Except.mapError Prod.snd <$> located 0 back) =
      Except.mapError Prod.snd <$> Except.map (values ++ ·) <$> located 0 back
    simp only [Functor.map_map]
    refine congrArg (· <$> _) (funext fun result => ?_)
    cases result <;> rfl

theorem collectEithers (pulls : List (Act κ ν (Try κ ν α))) :
    Family.either.collect (pulls.map fun pull => pull >>= toEither) =
      Family.attempt.collect pulls := by
  induction pulls with
  | nil => rfl
  | cons pull rest ih =>
    have split : ∀ attempt : Try κ ν α,
        (attempt.toEither >>= Family.either.split) = Family.attempt.split attempt := by
      intro attempt
      rw [attemptFollows.split]
      refine (bind_congr fun split => ?_).trans (bind_pure _)
      cases split <;> simp
    simp only [List.map_cons, Family.collect, ih, bind_assoc, ← split]

theorem sequenceConverts (pulls : List (Act κ ν (Try κ ν α))) :
    (unannounced (sequence pulls) >>= toEither) =
      Either.sequence (pulls.map fun pull => pull >>= toEither) := by
  rw [sequenceQuiet, Either.sequenceCollects, collectEithers, bind_map_left, map_eq_pure_bind]
  refine bind_congr fun collected => ?_
  cases collected <;> rfl

end Try

structure SequenceTraverses (κ ν : Type) : Prop where
  eithers : ∀ {L α : Type} (eithers : List (Either L α)),
    Either.sequence (eithers.map pure) = (Outcome.pushAll eithers : Act κ ν _)
  joins : ∀ {L α : Type} (eithers : List (Either L α)),
    Either.sequence (eithers.map pure) =
      (eithers.mapM (fun either => either.map fun value => pure [value]) >>=
        (MonoidOp.accumulate Either.keepFirst MonoidOp.list).join : Act κ ν _)
  eithersSplit : ∀ {L α : Type} (front back : List (Act κ ν (Either L α))),
    Either.sequence (front ++ back) =
      Outcome.spliced (Either.sequence front) (Either.sequence back)
  attempts : ∀ {α : Type} (attempts : List (Try κ ν α)),
    Try.unannounced (Try.sequence (attempts.map pure)) = Outcome.pushAll attempts
  attemptsSplit : ∀ {α : Type} (front back : List (Act κ ν (Try κ ν α))),
    Try.unannounced (Try.sequence (front ++ back)) =
      Try.unannounced (Outcome.spliced (Try.sequence front) (Try.sequence back))
  converts : ∀ {α : Type} (pulls : List (Act κ ν (Try κ ν α))),
    (Try.unannounced (Try.sequence pulls) >>= Try.toEither) =
      Either.sequence (pulls.map fun pull => pull >>= Try.toEither)
  announces : ∀ {α : Type} (pulls : List (Act κ ν (Try κ ν α))) (context : κ) (next : Nat),
    Try.Announces ((Try.unannounced (Try.sequence pulls)).run context next)
      ((Try.sequence pulls).run context next)

theorem sequenceTraverses (κ ν : Type) : SequenceTraverses κ ν where
  eithers := Either.sequencePushes
  joins := Either.sequenceJoins
  eithersSplit := Either.sequenceSplices
  attempts := Try.sequencePushes
  attemptsSplit := Try.sequenceSplices
  converts := Try.sequenceConverts
  announces pulls context next := by
    rw [Try.sequenceQuiet, ← Try.locatedCollects 0, Try.sequence, Try.sequenceLocated]
    exact Try.announceAnnounces _ context next

end OutcomeAlgebra
