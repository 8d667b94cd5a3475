import OutcomeAlgebra.Proofs.Outcome.Binding
/-! The error side of a `Try`. Handlers of failures are bound to each other as callbacks of
values are. A capture keeps its handle until a handler makes a new error of it, and a value
goes past any number of handlers. The laws are equations between programs, so they also say
which handlers run, on which captures, and what is left unevaluated. -/
namespace OutcomeAlgebra.Try

variable {κ ν α β : Type}

/- The laws of the error side. Where handlers change nothing, what is left of an attempt is
its evaluation. -/
structure ErrorSide (κ ν : Type) : Prop where
  lift : ∀ {α : Type} (raised : Raised Fault) (f : Capture → Act κ ν (Try κ ν α)),
    (fail raised >>= fun attempt => attempt.recoverWith f) = Capture.new raised >>= f
  keep : ∀ {α : Type} (attempt : Try κ ν α),
    attempt.recoverWith (fun capture => fail capture.raise) = attempt.evaluate
  again : ∀ {α : Type} (attempt : Try κ ν α) (f g : Capture → Act κ ν (Try κ ν α)),
    (attempt.recoverWith f >>= fun made => made.recoverWith g) =
      attempt.recoverWith fun capture => f capture >>= fun made => made.recoverWith g
  recover : ∀ {α : Type} (attempt : Try κ ν α) (f : Capture → Act κ ν α),
    attempt.recover f = attempt.recoverWith fun capture => success <$> f capture
  recovered : ∀ {α : Type} (attempt : Try κ ν α) (f : Capture → Act κ ν α) ⦃context next made⦄,
    ((attempt.recover f).run context next).ending = .ok made → ∃ value, made = success value
  mapFailure : ∀ {α : Type} (attempt : Try κ ν α) (f : Capture → Act κ ν (Raised Fault)),
    attempt.mapFailure f = attempt.recoverWith fun capture => f capture >>= fail
  mapFailureKeep : ∀ {α : Type} (attempt : Try κ ν α),
    attempt.mapFailure (fun capture => pure capture.raise) = attempt.evaluate

theorem recoverBinds (attempt : Try κ ν α) (f : Capture → Act κ ν α) :
    attempt.recover f = attempt.recoverWith fun capture => success <$> f capture := by
  rw [recover, fold, recoverWith, map_bind]
  refine bind_congr fun outcome => ?_
  cases outcome with
  | ok value => exact map_pure success value
  | error capture => rfl

theorem recoverSucceeds (attempt : Try κ ν α) (f : Capture → Act κ ν α) {context : κ} {next : Nat}
    {made : Try κ ν α} (ended : ((attempt.recover f).run context next).ending = .ok made) :
    ∃ value, made = success value := by
  have folded : (attempt.recover f).run context next =
      ((attempt.fold f pure).run context next).map success := Act.runMap _ _ context next
  rw [folded, Report.map] at ended
  cases found : ((attempt.fold f pure).run context next).ending with
  | error panic => simp [found, Functor.map, Except.map] at ended
  | ok value =>
    simp [found, Functor.map, Except.map] at ended
    exact ⟨value, ended.symm⟩

theorem mapFailureBinds (attempt : Try κ ν α) (f : Capture → Act κ ν (Raised Fault)) :
    attempt.mapFailure f = attempt.recoverWith fun capture => f capture >>= fail := by
  refine bind_congr fun outcome => ?_
  cases outcome <;> rfl

theorem failRaise (capture : Capture) : (fail capture.raise : Act κ ν (Try κ ν α)) =
    pure (failure capture) := by
  rw [fail, Capture.newRaise, pure_bind]

theorem recoverWithFail (attempt : Try κ ν α) :
    attempt.recoverWith (fun capture => fail capture.raise) = attempt.evaluate := by
  rw [recoverWith, evaluate, map_eq_pure_bind]
  refine bind_congr fun outcome => ?_
  cases outcome with
  | ok value => rfl
  | error capture => exact failRaise capture

theorem failRecoverWith (raised : Raised Fault) (f : Capture → Act κ ν (Try κ ν α)) :
    (fail raised >>= fun attempt => attempt.recoverWith f) = Capture.new raised >>= f := by
  rw [fail, bind_assoc]
  refine bind_congr fun capture => ?_
  have handled : (failure capture : Try κ ν α).recoverWith f = f capture := pure_bind _ _
  rw [pure_bind, handled]

theorem recoverWithAgain (attempt : Try κ ν α) (f g : Capture → Act κ ν (Try κ ν α)) :
    (attempt.recoverWith f >>= fun made => made.recoverWith g) =
      attempt.recoverWith fun capture => f capture >>= fun made => made.recoverWith g := by
  rw [recoverWith, recoverWith, bind_assoc]
  refine bind_congr fun outcome => ?_
  cases outcome with
  | ok value =>
    have passed : (success value : Try κ ν α).recoverWith g = pure (success value) := pure_bind _ _
    exact (pure_bind _ _).trans passed
  | error capture => rfl

theorem errorSide (κ ν : Type) : ErrorSide κ ν where
  lift raised f := failRecoverWith raised f
  keep attempt := recoverWithFail attempt
  again attempt f g := recoverWithAgain attempt f g
  recover attempt f := recoverBinds attempt f
  recovered attempt f context next made ended := recoverSucceeds attempt f ended
  mapFailure attempt f := mapFailureBinds attempt f
  mapFailureKeep attempt := by
    rw [mapFailureBinds]
    simp only [pure_bind]
    exact recoverWithFail attempt

section Pipelines

inductive Rescue (κ ν α : Type) where
  | recover (f : Capture → Act κ ν α)
  | recoverWith (f : Capture → Act κ ν (Try κ ν α))
  | mapFailure (f : Capture → Act κ ν (Raised Fault))

def Rescue.run : Rescue κ ν α → Try κ ν α → Act κ ν (Try κ ν α)
  | .recover f, attempt => attempt.recover f
  | .recoverWith f, attempt => attempt.recoverWith f
  | .mapFailure f, attempt => attempt.mapFailure f

def Rescue.handler : Rescue κ ν α → Capture → Act κ ν (Try κ ν α)
  | .recover f, capture => success <$> f capture
  | .recoverWith f, capture => f capture
  | .mapFailure f, capture => f capture >>= fail

def rescued (rescues : List (Rescue κ ν α)) (attempt : Try κ ν α) : Act κ ν (Try κ ν α) :=
  rescues.foldlM (fun attempt rescue => rescue.run attempt) attempt

variable (rescues : List (Rescue κ ν α))

theorem rescueHandles (rescue : Rescue κ ν α) (attempt : Try κ ν α) :
    rescue.run attempt = attempt.recoverWith rescue.handler := by
  cases rescue with
  | recover f => exact recoverBinds attempt f
  | recoverWith f => rfl
  | mapFailure f => exact mapFailureBinds attempt f

theorem rescuedSuccess (value : α) :
    rescued rescues (success value : Try κ ν α) = pure (success value) := by
  induction rescues with
  | nil => rfl
  | cons rescue rest ih =>
    have passed : rescue.run (success value) = pure (success value) := by
      rw [rescueHandles]
      exact pure_bind _ _
    rw [rescued, List.foldlM_cons, passed, pure_bind]
    exact ih

theorem rescuedCons (rescue : Rescue κ ν α) (attempt : Try κ ν α) :
    rescued (rescue :: rescues) attempt =
      attempt.recoverWith fun capture => rescue.handler capture >>= rescued rescues := by
  have began : rescued (rescue :: rescues) attempt = rescue.run attempt >>= rescued rescues :=
    List.foldlM_cons
  rw [began, rescueHandles, recoverWith, recoverWith, bind_assoc]
  refine bind_congr fun outcome => ?_
  cases outcome with
  | ok value => exact (pure_bind _ _).trans (rescuedSuccess rescues value)
  | error capture => rfl

variable {attempt : Try κ ν α} {context : κ} {next used : Nat} {log : List (Entry ν)}

theorem rescuedSucceeds {value : α}
    (succeeds : attempt.intoResult.run context next = ⟨log, used, .ok (.ok value)⟩) :
    (rescued rescues attempt >>= intoResult).run context next = ⟨log, used, .ok (.ok value)⟩ := by
  cases rescues with
  | nil =>
    have untouched : rescued [] attempt = pure attempt := rfl
    rw [untouched, pure_bind]
    exact succeeds
  | cons rescue rest =>
    have kept : (success value : Try κ ν α).intoResult = pure (.ok value) := rfl
    rw [rescuedCons, recoverWith, bind_assoc, Act.runBindOk succeeds, pure_bind, kept]
    simp [Report.behind, Act.runPure]

def chosen (onFailure : Capture → Act κ ν β) (onSuccess : α → Act κ ν β) :
    Except Capture α → Act κ ν β
  | .ok value => onSuccess value
  | .error capture => onFailure capture

/- What a run leaves that goes on to one of two callbacks, and to no more than that. -/
def FoldsOnce (onFailure : Capture → Act κ ν β) (onSuccess : α → Act κ ν β) (context : κ)
    (next : Nat) : (evaluated : Report ν (Except Capture α)) → Report ν β → Prop
  | ⟨log, used, .error panic⟩, whole => whole = ⟨log, used, .error panic⟩
  | ⟨log, used, .ok (.ok value)⟩, whole =>
    whole = ((onSuccess value).run context (next + used)).behind log used
  | ⟨log, used, .ok (.error capture)⟩, whole =>
    whole = ((onFailure capture).run context (next + used)).behind log used

theorem rescuedFold (attempt : Try κ ν α) (onFailure : Capture → Act κ ν β)
    (onSuccess : α → Act κ ν β) (context : κ) (next : Nat) :
    FoldsOnce onFailure onSuccess context next
      ((rescued rescues attempt >>= intoResult).run context next)
      ((rescued rescues attempt >>= fun made => made.fold onFailure onSuccess).run
        context next) := by
  have folds : (rescued rescues attempt >>= fun made => made.fold onFailure onSuccess) =
      (rescued rescues attempt >>= intoResult) >>= chosen onFailure onSuccess :=
    (bind_assoc _ _ _).symm
  rw [folds]
  cases ran : (rescued rescues attempt >>= intoResult).run context next with
  | mk log used ending =>
    rcases ending with panic | capture | value
    · exact Act.runBindError ran _
    · exact Act.runBindOk ran _
    · exact Act.runBindOk ran _

end Pipelines

structure RescuesPass (rescues : List (Rescue κ ν α)) : Prop where
  eager : ∀ value, rescued rescues (success value) = pure (success value)
  succeeds : ∀ {attempt : Try κ ν α} {context next log used value},
    attempt.intoResult.run context next = ⟨log, used, .ok (.ok value)⟩ →
      (rescued rescues attempt >>= intoResult).run context next = ⟨log, used, .ok (.ok value)⟩
  first : ∀ rescue (attempt : Try κ ν α), rescued (rescue :: rescues) attempt =
    attempt.recoverWith fun capture => rescue.handler capture >>= rescued rescues

structure ErrorSideBinds (κ ν : Type) : Prop where
  side : ErrorSide κ ν
  kept : ∀ {α : Type} (attempt : Try κ ν α),
    (attempt.evaluate >>= intoResult) = attempt.intoResult
  rescues : ∀ {α : Type} (rescues : List (Rescue κ ν α)), RescuesPass rescues
  folds : ∀ {α β : Type} (rescues : List (Rescue κ ν α)) (attempt : Try κ ν α)
    (onFailure : Capture → Act κ ν β) (onSuccess : α → Act κ ν β) (context : κ) (next : Nat),
    FoldsOnce onFailure onSuccess context next
      ((rescued rescues attempt >>= intoResult).run context next)
      ((rescued rescues attempt >>= fun made => made.fold onFailure onSuccess).run context next)

theorem errorSideBinds (κ ν : Type) : ErrorSideBinds κ ν where
  side := errorSide κ ν
  kept := evaluateIntoResult
  rescues rescues :=
    ⟨rescuedSuccess rescues, rescuedSucceeds rescues, rescuedCons rescues⟩
  folds := rescuedFold

theorem handlersPassed :
    let noted (line : String) (capture : Capture) : Act Unit String Capture := do
      Act.note line
      pure capture
    let rescues : List (Rescue Unit String Nat) :=
      [.mapFailure fun capture => Capture.raise <$> noted "replaced" capture,
        .recoverWith fun capture => failure <$> noted "retried" capture,
        .recover fun capture => Capture.handle <$> noted "recovered" capture]
    let pending : Try Unit String Nat := delayed (pure (.ok 4))
    let failed : Try Unit String Nat := failure ⟨7, .text "broken"⟩
    let recovery := failed.recover fun capture => Capture.handle <$> noted "recovered" capture
    pending.intoResult.run () 0 = ⟨[.event .evaluating], 0, .ok (.ok 4)⟩ ∧
      (rescued rescues pending >>= intoResult).run () 0 =
        ⟨[.event .evaluating], 0, .ok (.ok 4)⟩ ∧
      (recovery.run () 8).log = [.note "recovered"] ∧
      ∃ made value, (recovery.run () 8).ending = .ok made ∧ made = success value := by
  intro noted rescues pending failed recovery
  have evaluated : pending.intoResult.run () 0 = ⟨[.event .evaluating], 0, .ok (.ok 4)⟩ := rfl
  have passed := ((errorSideBinds Unit String).rescues rescues).succeeds evaluated
  have ended : (recovery.run () 8).ending = .ok (success 7) := rfl
  obtain ⟨value, made⟩ := (errorSideBinds Unit String).side.recovered failed _ ended
  exact ⟨evaluated, passed, rfl, success 7, value, ended, made⟩

end OutcomeAlgebra.Try
