import OutcomeAlgebra.Either.Basic
import OutcomeAlgebra.Proofs.Act.Run
/-! Left and right are mirror images. An operation on one side does to an either what its
counterpart on the other side does to the either turned around. So does a pipeline of them,
up to its last answer. The laws are equations between programs: the same callbacks run, on
the same values and in the same order. A panic of an unwrap is told apart from a panic of a
callback, which is the same on both sides. -/
namespace OutcomeAlgebra

variable {κ ν L R S T U V β γ : Type} {m n : Type → Type}

def Panic.opposite : Panic → Panic
  | .leftOfRight => .rightOfLeft
  | .rightOfLeft => .leftOfRight
  | panic => panic

namespace Either

def swapWithin : Either L (Either R S) → Either L (Either S R)
  | .left value => .left value
  | .right inner => .right inner.swap

theorem joinLeftTurned (nested : Either (Either L R) R) :
    nested.swap.swapWithin.flatten = nested.joinLeft.swap := by
  cases nested <;> rfl

theorem flattenTurned (nested : Either L (Either L R)) :
    nested.swapWithin.swap.joinLeft = nested.flatten.swap := by
  cases nested <;> rfl

theorem foldSwap (either : Either L R) (f : L → m S) (g : R → m S) :
    either.swap.fold g f = either.fold f g := by
  cases either <;> rfl

section Operations

variable [Monad m] [LawfulMonad m] (either : Either L R)

theorem mapLeftBimap (f : L → m S) : either.mapLeft f = either.bimap f pure := by
  cases either with
  | left value => rfl
  | right value => exact (map_pure _ _).symm

theorem mapRightBimap (f : R → m S) : either.mapRight f = either.bimap pure f := by
  cases either with
  | left value => exact (map_pure _ _).symm
  | right value => rfl

theorem bimapSwap (f : L → m S) (g : R → m T) :
    either.swap.bimap g f = swap <$> either.bimap f g := by
  cases either with
  | left value => exact (Functor.map_map Either.left swap (f value)).symm
  | right value => exact (Functor.map_map Either.right swap (g value)).symm

theorem mapLeftSwap (f : L → m S) : either.swap.mapRight f = swap <$> either.mapLeft f := by
  rw [mapRightBimap, mapLeftBimap, bimapSwap]

theorem mapRightSwap (f : R → m S) : either.swap.mapLeft f = swap <$> either.mapRight f := by
  rw [mapLeftBimap, mapRightBimap, bimapSwap]

theorem mapRightSwapWithin (nested : Either L (Either R S)) :
    (nested.mapRight fun inner => pure inner.swap) = (pure nested.swapWithin : m _) := by
  cases nested with
  | left value => rfl
  | right inner => exact map_pure _ _

theorem mapLeftSwapWithin (nested : Either L (Either R S)) :
    (nested.swap.mapLeft fun inner => pure inner.swap) = (pure nested.swapWithin.swap : m _) := by
  rw [mapRightSwap, mapRightSwapWithin, map_pure]

theorem bimapAgain (f : L → m S) (g : R → m T) (h : S → m U) (k : T → m V) :
    (either.bimap f g >>= fun made => made.bimap h k) =
      either.bimap (fun value => f value >>= h) (fun value => g value >>= k) := by
  cases either with
  | left value => exact (bind_map_left _ _ _).trans (map_bind _ _ _).symm
  | right value => exact (bind_map_left _ _ _).trans (map_bind _ _ _).symm

theorem bimapLeftFirst (f : L → m S) (g : R → m T) :
    (either.mapLeft f >>= fun made => made.mapRight g) = either.bimap f g := by
  simp only [mapLeftBimap, mapRightBimap, bimapAgain, bind_pure, pure_bind]

theorem bimapRightFirst (f : L → m S) (g : R → m T) :
    (either.mapRight g >>= fun made => made.mapLeft f) = either.bimap f g := by
  simp only [mapLeftBimap, mapRightBimap, bimapAgain, bind_pure, pure_bind]

theorem bimapKeep : either.bimap pure pure = (pure either : m (Either L R)) := by
  cases either <;> exact map_pure _ _

end Operations

inductive Stage (m : Type → Type) : (L R S T : Type) → Type 1 where
  | mapLeft {L R S : Type} (f : L → m S) : Stage m L R S R
  | mapRight {L R S : Type} (f : R → m S) : Stage m L R L S
  | map {L R S : Type} (f : R → m S) : Stage m L R L S
  | bimap {L R S T : Type} (f : L → m S) (g : R → m T) : Stage m L R S T
  | swap {L R : Type} : Stage m L R R L
  | joinLeft {L R : Type} : Stage m (Either L R) R L R
  | flatten {L R : Type} : Stage m L (Either L R) L R

inductive Pipeline (m : Type → Type) : (L R S T : Type) → Type 1 where
  | done {L R : Type} : Pipeline m L R L R
  | step {L R S T U V : Type} (stage : Stage m L R S T) (rest : Pipeline m S T U V) :
      Pipeline m L R U V

/- How a pipeline ends. The last two types are those of the answer, and of the answer turned
around. A look at a side leaves the either where it is. -/
inductive Ending (m : Type → Type) : (L R β γ : Type) → Type 1 where
  | left {L R : Type} : Ending m L R (Option L) (Option L)
  | right {L R : Type} : Ending m L R (Option R) (Option R)
  | leftLook {L R : Type} : Ending m L R (Option L × Either L R) (Option L × Either R L)
  | rightLook {L R : Type} : Ending m L R (Option R × Either L R) (Option R × Either R L)
  | fold {L R β : Type} (f : L → m β) (g : R → m β) : Ending m L R β β
  | toOptions {L R : Type} : Ending m L R (Option L × Option R) (Option R × Option L)
  | leftOrDefault {L R : Type} [Inhabited L] : Ending m L R L L
  | rightOrDefault {L R : Type} [Inhabited R] : Ending m L R R R
  | unwrapLeft {L R : Type} : Ending m L R L L
  | unwrapRight {L R : Type} : Ending m L R R R

def Stage.run [Monad m] : Stage m L R S T → Either L R → m (Either S T)
  | .mapLeft f, either => either.mapLeft f
  | .mapRight f, either => either.mapRight f
  | .map f, either => either.map f
  | .bimap f g, either => either.bimap f g
  | .swap, either => pure either.swap
  | .joinLeft, either => pure either.joinLeft
  | .flatten, either => pure either.flatten

def Pipeline.run [Monad m] {L R S T : Type} : Pipeline m L R S T → Either L R → m (Either S T)
  | .done, either => pure either
  | .step stage rest, either => do
    let made ← stage.run either
    rest.run made

def Ending.run [Monad n] [MonadLiftT m n] [MonadExceptOf Panic n] :
    Ending m L R β γ → Either L R → n β
  | .left, either => pure either.left?
  | .right, either => pure either.right?
  | .leftLook, either => pure (either.left?, either)
  | .rightLook, either => pure (either.right?, either)
  | .fold f g, either => either.fold (fun value => liftM (f value)) fun value => liftM (g value)
  | .toOptions, either => pure either.toOptions
  | @leftOrDefault _ _ _ _, either => pure either.leftOrDefault
  | @rightOrDefault _ _ _ _, either => pure either.rightOrDefault
  | .unwrapLeft, either => either.unwrapLeft
  | .unwrapRight, either => either.unwrapRight

/- The counterpart of a stage, with what comes behind it. A nested either is turned around
before it is merged into one that is turned around already. -/
def Stage.mirror [Monad m] : Stage m L R S T → Pipeline m T S U V → Pipeline m R L U V
  | .mapLeft f, rest => .step (.mapRight f) rest
  | .mapRight f, rest => .step (.mapLeft f) rest
  | .map f, rest => .step (.mapLeft f) rest
  | .bimap f g, rest => .step (.bimap g f) rest
  | .swap, rest => .step .swap rest
  | .joinLeft, rest => .step (.mapRight fun inner => pure inner.swap) (.step .flatten rest)
  | .flatten, rest => .step (.mapLeft fun inner => pure inner.swap) (.step .joinLeft rest)

def Pipeline.mirror [Monad m] {L R S T : Type} : Pipeline m L R S T → Pipeline m R L T S
  | .done => .done
  | .step stage rest => stage.mirror rest.mirror

def Ending.mirror : Ending m L R β γ → Ending m R L γ β
  | .left => .right
  | .right => .left
  | .leftLook => .rightLook
  | .rightLook => .leftLook
  | .fold f g => .fold g f
  | .toOptions => .toOptions
  | @leftOrDefault _ _ _ _ => .rightOrDefault
  | @rightOrDefault _ _ _ _ => .leftOrDefault
  | .unwrapLeft => .unwrapRight
  | .unwrapRight => .unwrapLeft

def Ending.turned : Ending m L R β γ → β → γ
  | .left, value => value
  | .right, value => value
  | .leftLook, (value, either) => (value, either.swap)
  | .rightLook, (value, either) => (value, either.swap)
  | .fold _ _, value => value
  | .toOptions, options => options.swap
  | @leftOrDefault _ _ _ _, value => value
  | @rightOrDefault _ _ _ _, value => value
  | .unwrapLeft, value => value
  | .unwrapRight, value => value

def Ending.reflected (ending : Ending m L R β γ) : Except Panic β → Except Panic γ
  | .ok answer => .ok (ending.turned answer)
  | .error panic => .error panic.opposite

section Running

variable [Monad m]

def Pipeline.ended [Monad n] [MonadLiftT m n] [MonadExceptOf Panic n]
    (pipeline : Pipeline m L R S T) (ending : Ending m S T β γ) (either : Either L R) : n β := do
  let made ← liftM (pipeline.run either)
  ending.run made

/- What an ending comes to. The panic of an unwrap is handed over as a value here, and so is
not taken for a panic of a callback. -/
def Ending.reached (ending : Ending m L R β γ) (either : Either L R) : m (Except Panic β) :=
  ExceptT.run (ending.run either)

def Pipeline.reached (pipeline : Pipeline m L R S T) (ending : Ending m S T β γ)
    (either : Either L R) : m (Except Panic β) :=
  ExceptT.run (pipeline.ended ending either)

theorem foldReached (either : Either L R) (f : L → m β) (g : R → m β) :
    (Ending.fold f g).reached either = Except.ok <$> either.fold f g := by
  cases either <;> rfl

variable [LawfulMonad m]

theorem stageMirrored (stage : Stage m L R S T) (rest : Pipeline m T S U V) (either : Either L R) :
    (stage.mirror rest).run either.swap =
      stage.run either >>= fun made => rest.run made.swap := by
  cases stage with
  | mapLeft f =>
    simp only [Stage.mirror, Pipeline.run, Stage.run]
    rw [mapLeftSwap, bind_map_left]
  | mapRight f | map f =>
    simp only [Stage.mirror, Pipeline.run, Stage.run, map]
    rw [mapRightSwap, bind_map_left]
  | bimap f g =>
    simp only [Stage.mirror, Pipeline.run, Stage.run]
    rw [bimapSwap, bind_map_left]
  | swap => simp only [Stage.mirror, Pipeline.run, Stage.run, pure_bind]
  | joinLeft =>
    simp only [Stage.mirror, Pipeline.run, Stage.run]
    rw [mapRightSwapWithin, pure_bind, pure_bind, pure_bind, joinLeftTurned]
  | flatten =>
    simp only [Stage.mirror, Pipeline.run, Stage.run]
    rw [mapLeftSwapWithin, pure_bind, pure_bind, pure_bind, flattenTurned]

theorem pipelineMirrored (pipeline : Pipeline m L R S T) (either : Either L R) :
    pipeline.mirror.run either.swap = swap <$> pipeline.run either := by
  induction pipeline with
  | done => exact (map_pure _ _).symm
  | step stage rest ih =>
    rw [Pipeline.mirror, stageMirrored, Pipeline.run, map_bind]
    exact bind_congr ih

theorem endingMirrored (ending : Ending m L R β γ) (either : Either L R) :
    ending.mirror.reached either.swap = ending.reflected <$> ending.reached either := by
  cases ending with
  | fold f g =>
    rw [Ending.mirror, foldReached, foldReached, foldSwap, Functor.map_map]
    rfl
  -- the other endings only read off which side there is
  | _ =>
    cases either <;> simp [Ending.reached, Ending.run, Ending.mirror, Ending.reflected,
      Ending.turned, swap, left?, right?, toOptions, leftOrDefault, rightOrDefault, unwrapLeft,
      unwrapRight, Panic.opposite]

theorem reachedRuns (pipeline : Pipeline m L R S T) (ending : Ending m S T β γ)
    (either : Either L R) :
    pipeline.reached ending either = pipeline.run either >>= ending.reached :=
  ExceptT.run_bind_lift _ _

theorem reachedMirrored (pipeline : Pipeline m L R S T) (ending : Ending m S T β γ)
    (either : Either L R) :
    pipeline.mirror.reached ending.mirror either.swap =
      ending.reflected <$> pipeline.reached ending either := by
  rw [reachedRuns, pipelineMirrored, bind_map_left, reachedRuns, map_bind]
  exact bind_congr fun made => endingMirrored ending made

end Running

section Panicking

theorem endingResumes (ending : Ending (Act κ ν) L R β γ) (either : Either L R) :
    (ending.run either : Act κ ν β) = ending.reached either >>= Act.resume := by
  cases ending with
  | fold f g =>
    rw [foldReached, bind_map_left]
    exact (bind_pure (either.fold f g)).symm
  | _ => cases either <;> rfl

theorem endedResumes (pipeline : Pipeline (Act κ ν) L R S T) (ending : Ending (Act κ ν) S T β γ)
    (either : Either L R) :
    (pipeline.ended ending either : Act κ ν β) =
      pipeline.reached ending either >>= Act.resume := by
  rw [reachedRuns, bind_assoc]
  exact bind_congr fun made => endingResumes ending made

theorem resumeReport (act : Act κ ν (Except Panic β)) (context : κ) (next : Nat) :
    (act >>= Act.resume).run context next =
      ⟨(act.run context next).log, (act.run context next).used,
        (act.run context next).ending >>= id⟩ := by
  cases ran : act.run context next with
  | mk log used ending =>
    cases ending with
    | error panic => exact Act.runBindError ran _
    | ok found =>
      have resumed : (Act.resume found : Act κ ν β).run context (next + used) =
          ⟨[], 0, found⟩ := rfl
      rw [Act.runBindOk ran, resumed, Report.behind, List.append_nil]
      rfl

section Laws

variable {pipeline : Pipeline (Act κ ν) L R S T} {ending : Ending (Act κ ν) S T β γ}
  {either : Either L R}

theorem mirrorReport (context : κ) (next : Nat) :
    (pipeline.mirror.reached ending.mirror either.swap).run context next =
      ((pipeline.reached ending either).run context next).map ending.reflected := by
  rw [reachedMirrored, Act.runMap]

theorem mirrorUnwraps (context : κ) (next : Nat) :
    (∃ panic, ((pipeline.mirror.reached ending.mirror either.swap).run context next).ending =
      .ok (.error panic)) ↔
    ∃ panic, ((pipeline.reached ending either).run context next).ending = .ok (.error panic) := by
  rw [mirrorReport]
  unfold Report.map
  rcases ((pipeline.reached ending either).run context next).ending with panic | panic | answer
  · constructor <;> rintro ⟨_, ⟨⟩⟩
  · exact ⟨fun _ => ⟨panic, rfl⟩, fun _ => ⟨panic.opposite, rfl⟩⟩
  · constructor <;> rintro ⟨_, ⟨⟩⟩

theorem mirrorReports (context : κ) (next : Nat) :
    let found := (pipeline.reached ending either).run context next
    (pipeline.ended ending either : Act κ ν β).run context next =
      ⟨found.log, found.used, found.ending >>= id⟩ ∧
    (pipeline.mirror.ended ending.mirror either.swap : Act κ ν γ).run context next =
      ⟨found.log, found.used, found.ending >>= ending.reflected⟩ := by
  rw [endedResumes, endedResumes, resumeReport, resumeReport, mirrorReport]
  refine ⟨rfl, ?_⟩
  unfold Report.map
  cases ((pipeline.reached ending either).run context next).ending <;> rfl

end Laws

/- A pipeline with its ending, and its mirror image. Coming to the ending is told apart from
what the ending is: a run that does not reach it was broken off by a panic of a callback. -/
structure Mirrors (pipeline : Pipeline (Act κ ν) L R S T) (ending : Ending (Act κ ν) S T β γ)
    (either : Either L R) : Prop where
  passes : pipeline.mirror.run either.swap = swap <$> pipeline.run either
  reaches : pipeline.mirror.reached ending.mirror either.swap =
    ending.reflected <$> pipeline.reached ending either
  unwraps : ∀ context next,
    (∃ panic, ((pipeline.mirror.reached ending.mirror either.swap).run context next).ending =
      .ok (.error panic)) ↔
    ∃ panic, ((pipeline.reached ending either).run context next).ending = .ok (.error panic)
  reports : ∀ context next, let found := (pipeline.reached ending either).run context next
    (pipeline.ended ending either : Act κ ν β).run context next =
      ⟨found.log, found.used, found.ending >>= id⟩ ∧
    (pipeline.mirror.ended ending.mirror either.swap : Act κ ν γ).run context next =
      ⟨found.log, found.used, found.ending >>= ending.reflected⟩

structure Sides (κ ν : Type) : Prop where
  swapSwap : ∀ {L R : Type} (either : Either L R), either.swap.swap = either
  joinLeft : ∀ {L R : Type} (nested : Either (Either L R) R),
    nested.joinLeft = nested.swap.swapWithin.flatten.swap
  flatten : ∀ {L R : Type} (nested : Either L (Either L R)),
    nested.flatten = nested.swapWithin.swap.joinLeft.swap
  leftFirst : ∀ {L R S T : Type} (either : Either L R) (f : L → Act κ ν S) (g : R → Act κ ν T),
    either.bimap f g = either.mapLeft f >>= fun made => made.mapRight g
  rightFirst : ∀ {L R S T : Type} (either : Either L R) (f : L → Act κ ν S) (g : R → Act κ ν T),
    either.bimap f g = either.mapRight g >>= fun made => made.mapLeft f
  again : ∀ {L R S T U V : Type} (either : Either L R) (f : L → Act κ ν S) (g : R → Act κ ν T)
    (h : S → Act κ ν U) (k : T → Act κ ν V),
    (either.bimap f g >>= fun made => made.bimap h k) =
      either.bimap (fun value => f value >>= h) fun value => g value >>= k
  keep : ∀ {L R : Type} (either : Either L R),
    either.bimap pure pure = (pure either : Act κ ν (Either L R))

theorem sides (κ ν : Type) : Sides κ ν where
  swapSwap := Either.swapSwap
  joinLeft nested := by rw [joinLeftTurned, Either.swapSwap]
  flatten nested := by rw [flattenTurned, Either.swapSwap]
  leftFirst either f g := (bimapLeftFirst either f g).symm
  rightFirst either f g := (bimapRightFirst either f g).symm
  again := bimapAgain
  keep := bimapKeep

theorem sidesMirrored (κ ν : Type) :
    Sides κ ν ∧ ∀ {L R S T β γ : Type} (pipeline : Pipeline (Act κ ν) L R S T)
      (ending : Ending (Act κ ν) S T β γ) (either : Either L R),
      Mirrors pipeline ending either := by
  refine ⟨sides κ ν, fun pipeline ending either => ?_⟩
  exact ⟨pipelineMirrored pipeline either, reachedMirrored pipeline ending either,
    mirrorUnwraps, mirrorReports⟩

example :
    let noted (value : Nat) : Act Unit Nat Nat := do
      Act.note value
      pure (value + 1)
    let pipeline : Pipeline (Act Unit Nat) (Either Nat Nat) Nat Nat Nat :=
      .step .joinLeft (.step (.mapLeft noted) .done)
    (pipeline.ended .unwrapRight (.left (.left 4)) : Act Unit Nat Nat).run () 0 =
      ⟨[.note 4], 0, .error .rightOfLeft⟩ ∧
    (pipeline.mirror.ended .unwrapLeft (.right (.left 4)) : Act Unit Nat Nat).run () 0 =
      ⟨[.note 4], 0, .error .leftOfRight⟩ := ⟨rfl, rfl⟩

end Panicking

end Either

end OutcomeAlgebra
