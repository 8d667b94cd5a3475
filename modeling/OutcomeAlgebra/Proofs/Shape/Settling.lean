import OutcomeAlgebra.Proofs.Shape.Deciding
/-! Evaluating a value throughout, from the left and each part once. Copying a value does so,
and so does comparing it with itself; the copy is built from the tree that the value has come
to. A value that is evaluated already is copied without effect. -/
namespace OutcomeAlgebra

variable {κ ν α β γ L R τ σ : Type}

structure Settled (ν α τ : Type) where
  log : List (Entry ν)
  used : Nat
  tree : τ
  kept : α

abbrev Settling (ν α τ : Type) := Nat → α → Settled ν α τ → Prop

namespace Settled

def map (f : α → β) (g : τ → σ) (found : Settled ν α τ) : Settled ν β σ :=
  ⟨found.log, found.used, g found.tree, f found.kept⟩

def behind (log : List (Entry ν)) (used : Nat) (found : Settled ν α τ) : Settled ν α τ :=
  ⟨log ++ found.log, used + found.used, found.tree, found.kept⟩

def report (answer : τ → γ) (found : Settled ν α τ) : Report ν (Except Panic γ × α) :=
  ⟨found.log, found.used, .ok (.ok (answer found.tree), found.kept)⟩

end Settled

namespace Shape

inductive SettlesTry (context : κ) (inner : Settling ν α τ) :
    Settling ν (Try κ ν α) (Except Capture τ) where
  | value {next used : Nat} {held : Try κ ν α} {log : List (Entry ν)} {value : α}
      {found : Settled ν α τ}
      (ran : held.intoResult.run context next = ⟨log, used, .ok (.ok value)⟩)
      (settled : inner (next + used) value found) :
      SettlesTry context inner next held ((found.map (held.kept <| .ok ·) .ok).behind log used)
  | failure {next used : Nat} {held : Try κ ν α} {log : List (Entry ν)} {capture : Capture}
      (ran : held.intoResult.run context next = ⟨log, used, .ok (.error capture)⟩) :
      SettlesTry context inner next held ⟨log, used, .error capture, held.kept (.error capture)⟩

inductive SettlesOption (inner : Settling ν α τ) : Settling ν (Option α) (Option τ) where
  | absent {next : Nat} : SettlesOption inner next none ⟨[], 0, none, none⟩
  | present {next : Nat} {value : α} {found : Settled ν α τ} (settled : inner next value found) :
      SettlesOption inner next (some value) (found.map some some)

inductive SettlesEither (left : Settling ν L τ) (right : Settling ν R σ) :
    Settling ν (Either L R) (Either τ σ) where
  | left {next : Nat} {value : L} {found : Settled ν L τ} (settled : left next value found) :
      SettlesEither left right next (.left value) (found.map .left .left)
  | right {next : Nat} {value : R} {found : Settled ν R σ} (settled : right next value found) :
      SettlesEither left right next (.right value) (found.map .right .right)

inductive SettlesItems (inner : Settling ν α τ) : Settling ν (List α) (List τ) where
  | nil {next : Nat} : SettlesItems inner next [] ⟨[], 0, [], []⟩
  | cons {next : Nat} {item : α} {items : List α} {found : Settled ν α τ}
      {others : Settled ν (List α) (List τ)} (settled : inner next item found)
      (rest : SettlesItems inner (next + found.used) items others) :
      SettlesItems inner next (item :: items)
        ((others.map (found.kept :: ·) (found.tree :: ·)).behind found.log found.used)

def Settles (context : κ) {α : Type} : (shape : Shape κ ν α) → Settling ν α shape.Tree
  | .payload _ _ => fun _ value found => found = ⟨[], 0, value, value⟩
  | .attempt inner => SettlesTry context (inner.Settles context)
  | .optional inner => SettlesOption (inner.Settles context)
  | .either left right => SettlesEither (left.Settles context) (right.Settles context)
  | .list inner => SettlesItems (inner.Settles context)

section Running

variable {context : κ} {next : Nat} {relation : Settling ν α τ}

def Looks (context : κ) (look : Borrow κ ν α γ) (answer : τ → γ)
    (relation : Settling ν α τ) : Prop :=
  ∀ next value found, relation next value found →
    (look value).run context next = found.report answer

theorem ontoValueLooks {payload : Borrow κ ν α β} {part : τ → β}
    (looks : Looks context payload part relation) {missed : Capture → γ} {whole : β → γ}
    {answer : Except Capture τ → γ} (onValue : ∀ tree, answer (.ok tree) = whole (part tree))
    (onFailure : ∀ capture, answer (.error capture) = missed capture) :
    Looks context (Try.ontoValue payload missed whole) answer (SettlesTry context relation) := by
  intro next held found settles
  unfold Try.ontoValue
  cases settles with
  | @value _ _ _ _ value _ ran settled =>
    have inside := Try.runWithin (held.kept (.ok value)).putBack whole (looks _ _ _ settled)
    rw [Act.runBindOk (runAsResult ran)]
    simp only [inside, Try.putBackKept, Settled.report, Settled.behind, Settled.map, onValue]
    rfl
  | failure ran =>
    rw [Act.runBindOk (runAsResult ran)]
    simp [Report.behind, Act.runPure, Settled.report, onFailure]

theorem itemsCopyLooks {payload : Borrow κ ν α α} {part : τ → α}
    (looks : Looks context payload part relation) :
    Looks context (Items.copy payload) (List.map part) (SettlesItems relation) := by
  intro next items found settles
  induction settles with
  | nil => rfl
  | cons settled rest ih =>
    unfold Items.copy Borrow.both
    rw [Act.runBindOk (looks _ _ _ settled)]
    simp only [Try.runWithin _ _ ih]
    rfl

theorem itemsEqualLooks {payload : Borrow κ ν α Bool}
    (looks : Looks context payload (fun _ => true) relation) :
    Looks context (Items.equalSelf payload) (fun _ => true) (SettlesItems relation) := by
  intro next items found settles
  induction settles with
  | nil => rfl
  | cons settled rest ih =>
    unfold Items.equalSelf
    rw [Act.runBindOk (looks _ _ _ settled)]
    simp only [Try.runWithin _ _ ih]
    rfl

theorem copyRuns (context : κ) (shape : Shape κ ν α) :
    Looks context shape.copy (fun tree => shape.eager (shape.duplicate tree))
      (shape.Settles context) := by
  induction shape with
  | payload same duplicate =>
    intro next value found settles
    cases settles
    rfl
  | attempt inner ih =>
    unfold copy
    rw [Try.copyOntoValue]
    exact ontoValueLooks ih (fun _ => rfl) fun _ => rfl
  | optional inner ih =>
    intro next held found settles
    cases settles with
    | absent => rfl
    | present settled => exact Try.runWithin some some (ih _ _ _ settled)
  | either left right onLeft onRight =>
    intro next held found settles
    cases settles with
    | left settled => exact Try.runWithin Either.left Either.left (onLeft _ _ _ settled)
    | right settled => exact Try.runWithin Either.right Either.right (onRight _ _ _ settled)
  | list inner ih =>
    have twice : List.map (fun tree => inner.eager (inner.duplicate tree)) =
        fun trees => List.map inner.eager (List.map inner.duplicate trees) := by
      funext trees
      exact List.map_map.symm
    have looks := itemsCopyLooks ih
    rw [twice] at looks
    exact looks

theorem equalSelfRuns (context : κ) {shape : Shape κ ν α} (lawful : shape.Lawful) :
    Looks context shape.equalSelf (fun _ => true) (shape.Settles context) := by
  induction shape with
  | payload same duplicate =>
    intro next value found settles
    cases settles
    unfold equalSelf
    rw [lawful.refl value]
    rfl
  | attempt inner ih =>
    unfold equalSelf
    rw [Try.equalSelfOntoValue]
    exact ontoValueLooks (ih lawful) (fun _ => rfl) fun _ => rfl
  | optional inner ih =>
    intro next held found settles
    cases settles with
    | absent => rfl
    | present settled => exact Try.runWithin some id (ih lawful _ _ _ settled)
  | either left right onLeft onRight =>
    intro next held found settles
    cases settles with
    | left settled => exact Try.runWithin Either.left id (onLeft lawful.1 _ _ _ settled)
    | right settled => exact Try.runWithin Either.right id (onRight lawful.2 _ _ _ settled)
  | list inner ih => exact itemsEqualLooks (ih lawful)

end Running

section Reaching

variable {context : κ} {next : Nat}

theorem settlesSome (context : κ) {shape : Shape κ ν α} {value : α} (returns : shape.Returns value)
    (next : Nat) : ∃ found, shape.Settles context next value found := by
  induction shape generalizing next with
  | payload same duplicate => exact ⟨_, rfl⟩
  | attempt inner ih =>
    obtain ⟨outcome, ended, further⟩ := returns context next
    cases ran : value.intoResult.run context next with
    | mk log used ending =>
      rw [ran] at ended
      cases ended
      cases outcome with
      | error capture => exact ⟨_, .failure ran⟩
      | ok held =>
        obtain ⟨found, settled⟩ := ih (further held rfl) (next + used)
        exact ⟨_, .value ran settled⟩
  | optional inner ih =>
    cases value with
    | none => exact ⟨_, .absent⟩
    | some held =>
      obtain ⟨found, settled⟩ := ih (returns held rfl) next
      exact ⟨_, .present settled⟩
  | either left right onLeft onRight =>
    cases value with
    | left held =>
      obtain ⟨found, settled⟩ := onLeft returns next
      exact ⟨_, .left settled⟩
    | right held =>
      obtain ⟨found, settled⟩ := onRight returns next
      exact ⟨_, .right settled⟩
  | list inner ih =>
    induction value generalizing next with
    | nil => exact ⟨_, .nil⟩
    | cons item items rest =>
      obtain ⟨first, others⟩ := List.forall_mem_cons.mp returns
      obtain ⟨found, settled⟩ := ih first next
      obtain ⟨further, settledRest⟩ := rest others (next + found.used)
      exact ⟨_, .cons settled settledRest⟩

structure Reached (shape : Shape κ ν α) (value : α) (found : Settled ν α shape.Tree) : Prop where
  evaluated : shape.Evaluated found.kept
  holds : shape.Holds found.kept found.tree
  refines : shape.Refines value found.kept
  silent : shape.Evaluated value → found.log = [] ∧ found.used = 0 ∧ found.kept = value

theorem settlesReached {shape : Shape κ ν α} {value : α} {found : Settled ν α shape.Tree}
    (settles : shape.Settles context next value found) : shape.Reached value found := by
  induction shape generalizing next with
  | payload same duplicate =>
    cases settles
    exact ⟨trivial, rfl, refinesSelf _ _, fun _ => ⟨rfl, rfl, rfl⟩⟩
  | attempt inner ih =>
    cases settles with
    | value ran settled =>
      obtain ⟨evaluated, holds, refines, silent⟩ := ih settled
      refine ⟨evaluatedKept value ?_, keptHolds context value (.value holds),
        refinesKept (by rw [ran]) ?_, ?_⟩
      · intro held shape
        cases shape
        exact evaluated
      · intro tree held
        cases held with
        | value held => exact .value (refines _ held)
      · intro was
        obtain ⟨rfl, rfl, stays, further⟩ := evaluatedRun was ran
        obtain ⟨quiet, unused, same⟩ := silent (further _ rfl)
        rw [← same] at stays
        exact ⟨quiet, by simp [Settled.behind, Settled.map, unused], stays⟩
    | failure ran =>
      refine ⟨evaluatedKept value nofun, keptHolds context value (.failure _),
        refinesKept (by rw [ran]) fun _ holds => holds, fun was => ?_⟩
      obtain ⟨rfl, rfl, stays, _⟩ := evaluatedRun was ran
      exact ⟨rfl, rfl, stays⟩
  | optional inner ih =>
    cases settles with
    | absent => exact ⟨nofun, .absent, refinesSelf _ _, fun _ => ⟨rfl, rfl, rfl⟩⟩
    | present settled =>
      obtain ⟨evaluated, holds, refines, silent⟩ := ih settled
      refine ⟨?_, .present holds, ?_, ?_⟩
      · intro held shape
        cases shape
        exact evaluated
      · intro tree held
        cases held with
        | present held => exact .present (refines _ held)
      · intro was
        obtain ⟨quiet, unused, same⟩ := silent (was _ rfl)
        exact ⟨quiet, unused, congrArg some same⟩
  | either left right onLeft onRight =>
    cases settles with
    | left settled =>
      obtain ⟨evaluated, holds, refines, silent⟩ := onLeft settled
      refine ⟨evaluated, .left holds, ?_, ?_⟩
      · intro tree held
        cases held with
        | left held => exact .left (refines _ held)
      · intro was
        obtain ⟨quiet, unused, same⟩ := silent was
        exact ⟨quiet, unused, congrArg Either.left same⟩
    | right settled =>
      obtain ⟨evaluated, holds, refines, silent⟩ := onRight settled
      refine ⟨evaluated, .right holds, ?_, ?_⟩
      · intro tree held
        cases held with
        | right held => exact .right (refines _ held)
      · intro was
        obtain ⟨quiet, unused, same⟩ := silent was
        exact ⟨quiet, unused, congrArg Either.right same⟩
  | list inner ih =>
    induction settles with
    | nil => exact ⟨nofun, .nil, refinesSelf _ _, fun _ => ⟨rfl, rfl, rfl⟩⟩
    | cons settled rest ihRest =>
      obtain ⟨evaluated, holds, refines, silent⟩ := ih settled
      obtain ⟨evaluatedRest, holdsRest, refinesRest, silentRest⟩ := ihRest
      refine ⟨List.forall_mem_cons.mpr ⟨evaluated, evaluatedRest⟩, .cons holds holdsRest, ?_, ?_⟩
      · intro trees held
        cases held with
        | cons held others => exact .cons (refines _ held) (refinesRest _ others)
      · intro was
        obtain ⟨first, others⟩ := List.forall_mem_cons.mp was
        obtain ⟨quiet, unused, same⟩ := silent first
        obtain ⟨quietRest, unusedRest, sameRest⟩ := silentRest others
        refine ⟨?_, ?_, congr (congrArg List.cons same) sameRest⟩
        · simp [Settled.behind, Settled.map, quiet, quietRest]
        · simp [Settled.behind, Settled.map, unused, unusedRest]

end Reaching

end Shape

end OutcomeAlgebra
