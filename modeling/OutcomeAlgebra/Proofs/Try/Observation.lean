import OutcomeAlgebra.Proofs.Act.Run
import OutcomeAlgebra.Try.InPlace
/-! Looks at a `Try` that stays where it is. What a look sees of a bare outcome is
said once; at a delayed `Try` it sees just that, behind the run of a computation
that has not run yet. Two looks see no outcome unless there is one already. -/
namespace OutcomeAlgebra

variable {κ ν α β : Type}

/- Copying and comparing payloads may panic, but never loses them. -/
structure Payload (κ ν α : Type) where
  copy : Borrow κ ν α α
  equal : α → α → Act κ ν (Except Panic Bool × α × α)
  shown : α → Shown
  copyEnds : ∀ value, (copy value).Ends
  equalEnds : ∀ left right, (equal left right).Ends

inductive Payload.Evolves (payload : Payload κ ν α) (value : α) : α → Prop where
  | same : Evolves payload value value
  | copied {kept later answer context next} (before : Evolves payload value kept)
      (ran : ((payload.copy kept).run context next).ending = .ok (answer, later)) :
      Evolves payload value later
  | comparedLeft {kept other later beside answer context next}
      (before : Evolves payload value kept)
      (ran : ((payload.equal kept other).run context next).ending = .ok (answer, later, beside)) :
      Evolves payload value later
  | comparedRight {kept other later beside answer context next}
      (before : Evolves payload value kept)
      (ran : ((payload.equal other kept).run context next).ending = .ok (answer, beside, later)) :
      Evolves payload value later

/- One outcome at two times: the same value, or the very same capture. -/
def Payload.Keeps (payload : Payload κ ν α) : Except Capture α → Except Capture α → Prop
  | .ok value, .ok kept => payload.Evolves value kept
  | .error capture, .error kept => kept = capture
  | _, _ => False

theorem Payload.keepsSame (payload : Payload κ ν α) (outcome : Except Capture α) :
    payload.Keeps outcome outcome := by
  cases outcome with
  | error capture => rfl
  | ok value => exact .same

structure Payload.Plain (payload : Payload κ ν α) : Prop where
  copied : ∀ {value later answer context next},
    ((payload.copy value).run context next).ending = .ok (answer, later) → later = value
  compared : ∀ {left right later beside answer context next},
    ((payload.equal left right).run context next).ending = .ok (answer, later, beside) →
      later = left ∧ beside = right

theorem Payload.Plain.keeps {payload : Payload κ ν α} (plain : payload.Plain)
    {outcome kept : Except Capture α} (keeps : payload.Keeps outcome kept) : kept = outcome := by
  cases outcome with
  | error capture =>
    cases kept with
    | error kept => exact congrArg Except.error keeps
    | ok kept => exact keeps.elim
  | ok value =>
    cases kept with
    | error kept => exact keeps.elim
    | ok kept =>
      refine congrArg Except.ok ?_
      induction (keeps : payload.Evolves value kept) with
      | same => rfl
      | copied before ran ih => exact (plain.copied ran).trans ih
      | comparedLeft before ran ih => exact (plain.compared ran).1.trans ih
      | comparedRight before ran ih => exact (plain.compared ran).2.trans ih

namespace Try

inductive Look (α : Type) where
  | result
  | isSuccess
  | isFailure
  | failure
  | items
  | copy
  | equalTo (other : Except Capture α)
  | equalFrom (other : Except Capture α)
  | shown
  | isEvaluated

inductive Seen (κ ν α : Type) where
  | result (outcome : Except Capture α)
  | truth (value : Bool)
  | failure (capture : Option Capture)
  | items (values : List α)
  | copy (copied : Try κ ν α)
  | shown (tree : Shown)

namespace Look

variable (payload : Payload κ ν α)

def run : Look α → Borrow κ ν (Try κ ν α) (Seen κ ν α)
  | .result => fun attempt => Borrow.within id .result (Try.asResult attempt)
  | .isSuccess => fun attempt => Borrow.within id .truth (Try.isSuccess attempt)
  | .isFailure => fun attempt => Borrow.within id .truth (Try.isFailure attempt)
  | .failure => fun attempt => Borrow.within id .failure (Try.failure? attempt)
  | .items => fun attempt => Borrow.within id .items (Try.items attempt)
  | .copy => fun attempt => Borrow.within id .copy (Try.copy payload.copy attempt)
  | .equalTo other => fun attempt => do
    let (ending, attempt, _) ← Try.equal payload.equal attempt (ofOutcome other)
    pure (.truth <$> ending, attempt)
  | .equalFrom other => fun attempt => do
    let (ending, _, attempt) ← Try.equal payload.equal (ofOutcome other) attempt
    pure (.truth <$> ending, attempt)
  | .shown => fun attempt => pure (.ok (.shown (attempt.shown payload.shown)), attempt)
  | .isEvaluated => fun attempt => pure (.ok (.truth attempt.isEvaluated), attempt)

def demands : Look α → Bool
  | .shown => false
  | .isEvaluated => false
  | _ => true

def unevaluated : Look α → Seen κ ν α
  | .shown => .shown (.atom "Delayed(<pending>)")
  | _ => .truth false

def onOutcome : Look α → Borrow κ ν (Except Capture α) (Seen κ ν α)
  | .result, outcome => pure (.ok (.result outcome), outcome)
  | .isSuccess, outcome => pure (.ok (.truth outcome.isOk), outcome)
  | .isFailure, outcome => pure (.ok (.truth !outcome.isOk), outcome)
  | .failure, .ok value => pure (.ok (.failure none), .ok value)
  | .failure, .error capture => pure (.ok (.failure (some capture)), .error capture)
  | .items, .ok value => pure (.ok (.items [value]), .ok value)
  | .items, .error capture => pure (.ok (.items []), .error capture)
  | .copy, .ok value => Borrow.within .ok (fun copied => .copy (.success copied))
    (payload.copy value)
  | .copy, .error capture => pure (.ok (.copy (.failure capture)), .error capture)
  | .equalTo (.ok other), .ok value => do
    let (ending, value, _) ← payload.equal value other
    pure (.truth <$> ending, .ok value)
  | .equalTo (.error other), .error capture =>
    pure (.ok (.truth (capture.same other)), .error capture)
  | .equalTo _, outcome => pure (.ok (.truth false), outcome)
  | .equalFrom (.ok other), .ok value => do
    let (ending, _, value) ← payload.equal other value
    pure (.truth <$> ending, .ok value)
  | .equalFrom (.error other), .error capture =>
    pure (.ok (.truth (other.same capture)), .error capture)
  | .equalFrom _, outcome => pure (.ok (.truth false), outcome)
  | .shown, .ok value =>
    pure (.ok (.shown (.apply "Success" [payload.shown value])), .ok value)
  | .shown, .error capture =>
    pure (.ok (.shown (.apply "Failure" [capture.shown])), .error capture)
  | .isEvaluated, outcome => pure (.ok (.truth true), outcome)

end Look

def evaluated (outcome : Except Capture α) : Try κ ν α := .deferred (.ready outcome)

variable {payload : Payload κ ν α} {look : Look α}

theorem bindAt {τ γ : Type} (first : Borrow κ ν τ β) (rest : β → Borrow κ ν τ γ) (owner : τ) :
    (first >>= rest) owner = (first owner : Act κ ν _) >>= fun
      | (.ok value, owner) => (rest value owner : Act κ ν _)
      | (.error panic, owner) => pure (.error panic, owner) := by
  refine bind_congr (m := Act κ ν) fun answer => ?_
  obtain ⟨ending, owner⟩ := answer
  cases ending <;> rfl

theorem runWithin {τ σ γ : Type} (whole : τ → σ) (answer : β → γ)
    {part : Act κ ν (Except Panic β × τ)} {context : κ} {next used : Nat} {log : List (Entry ν)}
    {ending : Except Panic β} {kept : τ}
    (ran : part.run context next = ⟨log, used, .ok (ending, kept)⟩) :
    (Borrow.within whole answer part).run context next =
      ⟨log, used, .ok (answer <$> ending, whole kept)⟩ := by
  rw [Borrow.within, Act.runBindOk ran]
  cases ending <;> simp [Act.runPure, Report.behind, Functor.map, Except.map]

theorem forceSettles (cell : Cell κ ν α) :
    cell.force = Act.ending cell.intoOutcome >>= fun ending =>
      pure (ending, Cell.settle ending) := by
  cases cell <;> rfl

theorem asResultSettles (cell : Cell κ ν α) :
    asResult (.deferred cell) = Act.ending cell.intoOutcome >>= fun ending =>
      pure (ending, .deferred (Cell.settle ending)) := by
  rw [asResult, forceSettles, bind_assoc]
  rfl

theorem lookForces (demands : look.demands = true) (cell : Cell κ ν α) :
    look.run payload (.deferred cell) = Act.ending cell.intoOutcome >>= fun
      | .ok outcome => Borrow.within evaluated id (look.onOutcome payload outcome)
      | .error panic => pure (.error panic, .deferred .poisoned) := by
  cases look with
  | result | isSuccess | isFailure | failure | items =>
    simp only [Look.run, isSuccess, isFailure, failure?, items, bindAt, asResultSettles,
      Borrow.within, bind_assoc]
    refine bind_congr fun ending => ?_
    rcases ending with panic | capture | value <;> rfl
  | copy =>
    simp only [Look.run, copy, asResultSettles, Borrow.within, bind_assoc]
    refine bind_congr fun ending => ?_
    rcases ending with panic | capture | value
    · rfl
    · rfl
    · simp only [pure_bind, bind_assoc, Look.onOutcome, Borrow.within]
      refine bind_congr fun result => ?_
      obtain ⟨ending, kept⟩ := result
      cases ending <;> rfl
  | equalTo other =>
    simp only [Look.run, equal, asResultSettles, bind_assoc]
    refine bind_congr fun ending => ?_
    rcases ending with panic | capture | value
    · rfl
    · cases other <;> rfl
    · cases other with
      | error other => rfl
      | ok other =>
        simp only [pure_bind, bind_assoc, Look.onOutcome, Borrow.within, ofOutcome, asResult]
        refine bind_congr fun result => ?_
        obtain ⟨ending, kept, _⟩ := result
        cases ending <;> rfl
  | equalFrom other =>
    cases other with
    | error other =>
      simp only [Look.run, equal, ofOutcome, asResult, pure_bind, forceSettles, bind_assoc]
      refine bind_congr fun ending => ?_
      rcases ending with panic | capture | value <;> rfl
    | ok other =>
      simp only [Look.run, equal, ofOutcome, asResult, pure_bind, forceSettles, bind_assoc]
      refine bind_congr fun ending => ?_
      rcases ending with panic | capture | value
      · rfl
      · rfl
      · simp only [pure_bind, bind_assoc, Look.onOutcome, Borrow.within]
        refine bind_congr fun result => ?_
        obtain ⟨ending, _, kept⟩ := result
        cases ending <;> rfl
  | shown => cases demands
  | isEvaluated => cases demands

theorem lookEvaluated (outcome : Except Capture α) :
    look.run payload (evaluated outcome) =
      Borrow.within evaluated id (look.onOutcome payload outcome) := by
  cases asked : look.demands with
  | true =>
    have settled : Act.ending (Cell.ready outcome : Cell κ ν α).intoOutcome = pure (.ok outcome) :=
      rfl
    rw [evaluated, lookForces asked, settled, pure_bind]
  | false =>
    cases look with
    | shown => cases outcome <;> rfl
    | isEvaluated => rfl
    | _ => cases asked

theorem lookIdle (idle : look.demands = false) {cell : Cell κ ν α} (absent : cell.outcome? = none) :
    look.run payload (.deferred cell) = pure (.ok look.unevaluated, .deferred cell) := by
  cases look with
  | shown => simp [Look.run, Look.unevaluated, Try.shown, outcome?, absent]
  | isEvaluated => simp [Look.run, Look.unevaluated, Try.isEvaluated, outcome?, absent]
  | _ => cases idle

theorem onOutcomeBuilt {P : ∀ {γ : Type}, Act κ ν γ → Prop} (pures : ∀ {γ : Type} (value : γ),
      P (pure value : Act κ ν γ))
    (binds : ∀ {γ χ : Type} {act : Act κ ν γ} {rest : γ → Act κ ν χ}, P act →
      (∀ value, P (rest value)) → P (act >>= rest))
    (copies : ∀ value, P (payload.copy value)) (equals : ∀ left right, P (payload.equal left right))
    (look : Look α) (outcome : Except Capture α) : P (look.onOutcome payload outcome) := by
  cases look with
  | result | isSuccess | isFailure | isEvaluated => exact pures _
  | failure | items | shown => cases outcome <;> exact pures _
  | copy =>
    cases outcome with
    | error capture => exact pures _
    | ok value =>
      refine binds (copies value) fun result => ?_
      obtain ⟨ending, kept⟩ := result
      cases ending <;> exact pures _
  | equalTo other =>
    cases outcome <;> cases other
    case ok.ok value other => exact binds (equals value other) fun _ => pures _
    all_goals exact pures _
  | equalFrom other =>
    cases outcome <;> cases other
    case ok.ok value other => exact binds (equals other value) fun _ => pures _
    all_goals exact pures _

theorem onOutcomeEnds (payload : Payload κ ν α) (look : Look α) (outcome : Except Capture α) :
    (look.onOutcome payload outcome).Ends :=
  onOutcomeBuilt (P := Act.Ends) Act.endsPure Act.Ends.bind payload.copyEnds payload.equalEnds
    look outcome

theorem withinEnds {τ σ γ : Type} (whole : τ → σ) (answer : β → γ)
    {part : Act κ ν (Except Panic β × τ)} (ends : part.Ends) :
    (Borrow.within whole answer part).Ends := by
  refine ends.bind fun result => ?_
  obtain ⟨ending, kept⟩ := result
  cases ending <;> exact Act.endsPure _

theorem lookEnds (payload : Payload κ ν α) (look : Look α) (cell : Cell κ ν α) :
    (look.run payload (.deferred cell)).Ends := by
  cases asked : look.demands with
  | true =>
    rw [lookForces asked]
    refine (Act.endsEnding _).bind fun ending => ?_
    cases ending with
    | error panic => exact Act.endsPure _
    | ok outcome => exact withinEnds evaluated id (onOutcomeEnds payload look outcome)
  | false =>
    cases look with
    | shown | isEvaluated => exact Act.endsPure _
    | _ => cases asked

theorem onOutcomeKeeps {first outcome kept : Except Capture α} {answer} {context : κ} {next : Nat}
    (before : payload.Keeps first outcome)
    (ran : ((look.onOutcome payload outcome).run context next).ending = .ok (answer, kept)) :
    payload.Keeps first kept := by
  cases outcome with
  | error capture =>
    have same : kept = .error capture := by
      cases look with
      | equalTo other | equalFrom other => cases other <;> cases ran <;> rfl
      | _ => cases ran; rfl
    exact same ▸ before
  | ok value =>
    cases first with
    | error capture => exact before.elim
    | ok start =>
      cases look with
      | copy =>
        obtain ⟨⟨ending, later⟩, copied, rest⟩ := Act.runBindEnds _ ran
        cases ending <;> cases rest <;> exact .copied before copied
      | equalTo other =>
        cases other with
        | error other => cases ran; exact before
        | ok other =>
          obtain ⟨⟨ending, later, beside⟩, compared, rest⟩ := Act.runBindEnds _ ran
          cases rest
          exact .comparedLeft before compared
      | equalFrom other =>
        cases other with
        | error other => cases ran; exact before
        | ok other =>
          obtain ⟨⟨ending, beside, later⟩, compared, rest⟩ := Act.runBindEnds _ ran
          cases rest
          exact .comparedRight before compared
      | _ => cases ran; exact before

end Try

end OutcomeAlgebra
