import OutcomeAlgebra.Proofs.Outcome.Binding
import OutcomeAlgebra.Proofs.Outcome.Failing
/-! Capturing errors. A cause is any nesting of errors and handles, a handle around a handle
among them; what is captured wherever errors come in is a cause without that, and errors and
captures are just such causes. Following the sources of an error shows no handles. -/
namespace OutcomeAlgebra

inductive Cause where
  | alone (message : String)
  | layered (label : String) (source : Cause)
  | held (handle : Nat) (cause : Cause)

namespace Cause

def message : Cause → String
  | .alone message => message
  | .layered label _ => label
  | .held _ cause => cause.message

def source? : Cause → Option Cause
  | .alone _ => none
  | .layered _ source => some source
  | .held _ cause => cause.source?

def trace : (depth : Nat) → Cause → List String
  | 0, _ => []
  | depth + 1, cause =>
    match cause.source? with
    | none => []
    | some source => source.message :: trace depth source

def handle? : Cause → Option Nat
  | .held handle _ => some handle
  | _ => none

def captured (free : Nat) : Cause → Cause
  | .held handle cause => .held handle cause
  | cause => .held free cause

inductive Arises : Cause → Prop where
  | alone (message : String) : Arises (.alone message)
  | layered {source : Cause} (label : String) (before : Arises source) :
      Arises (.layered label source)
  | captured {cause : Cause} (free : Nat) (before : Arises cause) : Arises (cause.captured free)

def Single : Cause → Prop
  | .alone _ => True
  | .layered _ source => source.Single
  | .held _ cause => cause.handle? = none ∧ cause.Single

theorem capturedSingle {cause : Cause} (single : cause.Single) (free : Nat) :
    (cause.captured free).Single := by
  cases cause with
  | alone message => exact ⟨rfl, trivial⟩
  | layered label source => exact ⟨rfl, single⟩
  | held handle cause => exact single

theorem arisesSingle {cause : Cause} (arises : cause.Arises) : cause.Single := by
  induction arises with
  | alone message => trivial
  | layered label before ih => exact ih
  | captured free before ih => exact capturedSingle ih free

/- The same cause, with some handles replaced by what they hold. -/
inductive Unwraps : Cause → Cause → Prop where
  | alone (message : String) : Unwraps (.alone message) (.alone message)
  | layered {source other : Cause} (label : String) (inner : Unwraps source other) :
      Unwraps (.layered label source) (.layered label other)
  | kept {cause other : Cause} (handle : Nat) (inner : Unwraps cause other) :
      Unwraps (.held handle cause) (.held handle other)
  | replaced {cause other : Cause} (handle : Nat) (inner : Unwraps cause other) :
      Unwraps (.held handle cause) other

theorem Unwraps.message {cause other : Cause} (unwraps : Unwraps cause other) :
    cause.message = other.message := by
  induction unwraps with
  | alone message => rfl
  | layered label inner ih => rfl
  | kept handle inner ih => exact ih
  | replaced handle inner ih => exact ih

theorem Unwraps.source {cause other : Cause} (unwraps : Unwraps cause other) :
    Option.Rel Unwraps cause.source? other.source? := by
  induction unwraps with
  | alone message => exact .none
  | layered label inner ih => exact .some inner
  | kept handle inner ih => exact ih
  | replaced handle inner ih => exact ih

theorem unwrapsTrace {cause other : Cause} (unwraps : Unwraps cause other) (depth : Nat) :
    cause.trace depth = other.trace depth := by
  induction depth generalizing cause other with
  | zero => rfl
  | succ depth ih =>
    have sources := unwraps.source
    unfold trace
    generalize cause.source? = first at sources ⊢
    generalize other.source? = second at sources ⊢
    cases sources with
    | none => rfl
    | some inner =>
      have rest := ih inner
      simp only [inner.message, rest]

def ofFault : Fault → Cause
  | .text message => .alone message
  | .coded code detail => .alone (Fault.coded code detail).message
  | .integer fault => .alone fault.message
  | .layered label (.plain source) => .layered label (ofFault source)
  | .layered label (.captured handle source) => .layered label (.held handle (ofFault source))

def ofRaised : Raised Fault → Cause
  | .plain fault => ofFault fault
  | .captured handle fault => .held handle (ofFault fault)

def ofCapture (capture : Capture) : Cause := .held capture.handle (ofFault capture.fault)

theorem ofFaultMessage (fault : Fault) : (ofFault fault).message = fault.message := by
  unfold ofFault
  split <;> rfl

theorem ofFaultNoHandle (fault : Fault) : (ofFault fault).handle? = none := by
  unfold ofFault
  split <;> rfl

theorem ofFaultCaptured (fault : Fault) (free : Nat) :
    (ofFault fault).captured free = .held free (ofFault fault) := by
  have bare := ofFaultNoHandle fault
  cases made : ofFault fault with
  | alone message => rfl
  | layered label source => rfl
  | held handle cause =>
    rw [made] at bare
    cases bare

theorem ofFaultTrace (fault : Fault) (depth : Nat) :
    (ofFault fault).trace depth = fault.sources.take depth := by
  fun_induction ofFault fault generalizing depth with
  | case1 | case2 | case3 => cases depth <;> simp [trace, source?, Fault.sources]
  | case4 label source ih =>
    cases depth with
    | zero => rfl
    | succ depth => simp [trace, source?, Fault.sources, ofFaultMessage, ih]
  | case5 label handle source ih =>
    cases depth with
    | zero => rfl
    | succ depth =>
      have through :
          (Cause.held handle (ofFault source)).trace depth = (ofFault source).trace depth := by
        cases depth <;> rfl
      simp [trace, source?, Fault.sources, message, ofFaultMessage, through, ih]

theorem ofFaultArises (fault : Fault) : (ofFault fault).Arises := by
  fun_induction ofFault fault with
  | case1 | case2 | case3 => exact .alone _
  | case4 label source ih => exact .layered label ih
  | case5 label handle source ih =>
    have captured := Arises.captured handle ih
    rw [ofFaultCaptured] at captured
    exact .layered label captured

theorem ofRaisedArises (raised : Raised Fault) : (ofRaised raised).Arises := by
  cases raised with
  | plain fault => exact ofFaultArises fault
  | captured handle fault =>
    have captured := Arises.captured handle (ofFaultArises fault)
    rwa [ofFaultCaptured] at captured

theorem singleRaised {cause : Cause} (single : cause.Single) :
    ∃ raised, ofRaised raised = cause := by
  induction cause with
  | alone message => exact ⟨.plain (.text message), by simp [ofRaised, ofFault]⟩
  | layered label source ih =>
    obtain ⟨raised, rfl⟩ := ih single
    refine ⟨.plain (.layered label raised), ?_⟩
    cases raised <;> simp [ofRaised, ofFault]
  | held handle cause ih =>
    obtain ⟨raised, rfl⟩ := ih single.2
    cases raised with
    | plain fault => exact ⟨.captured handle fault, rfl⟩
    | captured other fault => cases single.1

theorem arisesExact (cause : Cause) : cause.Arises ↔ ∃ raised, ofRaised raised = cause := by
  constructor
  · intro arises
    exact singleRaised (arisesSingle arises)
  · rintro ⟨raised, rfl⟩
    exact ofRaisedArises raised

theorem newCaptures {κ ν : Type} (raised : Raised Fault) (context : κ) (next : Nat) :
    ∃ used ≤ 1, (ofCapture <$> (Capture.new raised : Act κ ν Capture)).run context next =
      ⟨[], used, .ok ((ofRaised raised).captured next)⟩ := by
  cases raised with
  | captured handle fault => exact ⟨0, Nat.zero_le 1, rfl⟩
  | plain fault =>
    refine ⟨1, Nat.le_refl 1, ?_⟩
    rw [ofRaised, ofFaultCaptured]
    rfl

theorem captureTrace (capture : Capture) (depth : Nat) :
    (ofCapture capture).trace depth = (ofFault capture.fault).trace depth := by
  cases depth <;> rfl

end Cause

namespace Try

inductive Door (κ ν : Type) : Type → Type 1 where
  | fail {α : Type} (raised : Raised Fault) : Door κ ν α
  | of {α : Type} (computation : Act κ ν (Except (Raised Fault) α)) : Door κ ν α
  | delayed {α : Type} (computation : Act κ ν (Except (Raised Fault) α)) : Door κ ν α
  | filter {α : Type} (attempt : Try κ ν α) (predicate : StateT α (Act κ ν) Bool)
      (supplier : Act κ ν (Raised Fault)) : Door κ ν α
  | mapFailure {α : Type} (attempt : Try κ ν α) (f : Capture → Act κ ν (Raised Fault)) : Door κ ν α

namespace Door

variable {κ ν α : Type}

def enter : Door κ ν α → Act κ ν (Try κ ν α)
  | .fail raised => Try.fail raised
  | .of computation => Try.of computation
  | .delayed computation => pure (Try.delayed computation)
  | .filter attempt predicate supplier => attempt.filter predicate supplier
  | .mapFailure attempt f => attempt.mapFailure f

def brings : Door κ ν α → Act κ ν (Except (Raised Fault) (Except Capture α))
  | .fail raised => pure (.error raised)
  | .of computation => Except.map .ok <$> computation
  | .delayed computation => do
    Act.emit .evaluating
    Except.map .ok <$> computation
  | .filter attempt predicate supplier => do
    match ← attempt.intoResult with
    | .error capture => pure (.ok (.error capture))
    | .ok value =>
      let (accepted, value) ← predicate value
      if accepted then pure (.ok (.ok value)) else .error <$> supplier
  | .mapFailure attempt f => do
    match ← attempt.intoResult with
    | .ok value => pure (.ok (.ok value))
    | .error capture => .error <$> f capture

def reports : Door κ ν α → Capture → Act κ ν Unit
  | .of _, capture => Act.emit (.captured capture.message)
  | .delayed _, capture => Act.emit (.captured capture.message)
  | _, _ => pure ()

def takesIn (door : Door κ ν α) : Except (Raised Fault) (Except Capture α) →
    Act κ ν (Except Capture α)
  | .ok outcome => pure outcome
  | .error raised => do
    let capture ← Capture.new raised
    door.reports capture
    pure (.error capture)

theorem captures (door : Door κ ν α) :
    (door.enter >>= intoResult) = door.brings >>= door.takesIn := by
  cases door with
  | fail raised =>
    simp only [enter, brings, takesIn, reports, Try.fail, pure_bind, bind_assoc]
    rfl
  | of computation =>
    simp only [enter, brings, Try.of, bind_assoc, bind_map_left, pure_bind, intoResultEager]
    refine bind_congr fun ended => ?_
    cases ended <;> simp [takesIn, reports, capture, Except.map]
  | delayed computation =>
    simp only [enter, brings, pure_bind, bind_assoc, bind_map_left]
    have evaluates : (Try.delayed computation).intoResult = (do
        Act.emit .evaluating
        let ended ← computation
        capture ended) := rfl
    rw [evaluates]
    refine bind_congr fun _ => bind_congr fun ended => ?_
    cases ended <;> simp [takesIn, reports, capture, Except.map]
  | filter attempt predicate supplier =>
    simp only [enter, brings, Try.filter, bind_assoc]
    refine bind_congr fun outcome => ?_
    cases outcome with
    | error capture => rfl
    | ok value =>
      simp only [bind_assoc]
      refine bind_congr fun verdict => ?_
      obtain ⟨accepted, value⟩ := verdict
      cases accepted with
      | true => rfl
      | false => simp [Try.fail, takesIn, reports, intoResult]
  | mapFailure attempt f =>
    simp only [enter, brings, Try.mapFailure, bind_assoc]
    refine bind_congr fun outcome => ?_
    cases outcome with
    | ok value => rfl
    | error capture => simp [Try.fail, takesIn, reports, intoResult]

theorem takesInHandle (door : Door κ ν α) (handle : Nat) (fault : Fault) :
    door.takesIn (.error (.captured handle fault)) =
      door.reports ⟨handle, fault⟩ >>= fun _ => pure (.error ⟨handle, fault⟩) := by
  have kept : (Capture.new (.captured handle fault) : Act κ ν Capture) = pure ⟨handle, fault⟩ := rfl
  rw [takesIn, kept, pure_bind]

theorem takesInPlain (door : Door κ ν α) (fault : Fault) (context : κ) (next : Nat) :
    ∃ log, (door.takesIn (.error (.plain fault))).run context next =
      ⟨log, 1, .ok (.error ⟨next, fault⟩)⟩ := by
  cases door <;> exact ⟨_, rfl⟩

end Door

theorem mapFailureRaise {κ ν α : Type} (attempt : Try κ ν α) :
    attempt.mapFailure (fun capture => pure capture.raise) = attempt.evaluate := by
  rw [mapFailure, evaluate, map_eq_pure_bind]
  refine bind_congr fun outcome => ?_
  cases outcome <;> rfl

end Try

theorem newAgain {κ ν : Type} (raised : Raised Fault) :
    (Capture.new raised >>= fun capture => Capture.new capture.raise : Act κ ν Capture) =
      Capture.new raised := by
  simp only [Capture.newRaise, bind_pure]

structure Try.Door.Captures {κ ν α : Type} (door : Try.Door κ ν α) : Prop where
  enter : (door.enter >>= Try.intoResult) = door.brings >>= door.takesIn
  handle : ∀ handle fault, door.takesIn (.error (.captured handle fault)) =
    door.reports ⟨handle, fault⟩ >>= fun _ => pure (.error ⟨handle, fault⟩)
  plain : ∀ fault context next, ∃ log, (door.takesIn (.error (.plain fault))).run context next =
    ⟨log, 1, .ok (.error ⟨next, fault⟩)⟩

structure ErrorsCaptured (κ ν : Type) : Prop where
  raise : ∀ capture : Capture, (Capture.new capture.raise : Act κ ν Capture) = pure capture
  again : ∀ raised : Raised Fault,
    (Capture.new raised >>= fun capture => Capture.new capture.raise : Act κ ν Capture) =
      Capture.new raised
  doors : ∀ {α : Type} (door : Try.Door κ ν α), door.Captures
  mapFailure : ∀ {α : Type} (attempt : Try κ ν α),
    attempt.mapFailure (fun capture => pure capture.raise) = attempt.evaluate
  apart : Capture.Apart κ ν
  causes : ∀ (raised : Raised Fault) (context : κ) (next : Nat), ∃ used ≤ 1,
    (Cause.ofCapture <$> (Capture.new raised : Act κ ν Capture)).run context next =
      ⟨[], used, .ok ((Cause.ofRaised raised).captured next)⟩
  arises : ∀ capture : Capture, (Cause.ofCapture capture).Arises ∧
    (Cause.ofFault capture.fault).handle? = none
  single : ∀ cause : Cause, cause.Arises → cause.Single
  exact : ∀ cause : Cause, cause.Arises ↔ ∃ raised, Cause.ofRaised raised = cause
  trace : ∀ (capture : Capture) (depth : Nat),
    (Cause.ofCapture capture).trace depth = (Cause.ofFault capture.fault).trace depth ∧
    (Cause.ofFault capture.fault).trace depth = capture.sources.take depth
  unwraps : ∀ {cause other : Cause}, cause.Unwraps other →
    ∀ depth, cause.trace depth = other.trace depth

theorem errorsCapturedOnce (κ ν : Type) : ErrorsCaptured κ ν where
  raise := Capture.newRaise
  again := newAgain
  doors door := ⟨door.captures, door.takesInHandle, door.takesInPlain⟩
  mapFailure := Try.mapFailureRaise
  apart := capturesApart
  causes := Cause.newCaptures
  arises capture :=
    ⟨Cause.ofRaisedArises capture.raise, Cause.ofFaultNoHandle capture.fault⟩
  single _ arises := Cause.arisesSingle arises
  exact := Cause.arisesExact
  trace capture depth :=
    ⟨Cause.captureTrace capture depth, Cause.ofFaultTrace capture.fault depth⟩
  unwraps unwraps depth := Cause.unwrapsTrace unwraps depth

end OutcomeAlgebra
