import Mathlib.Data.Seq.Basic
import OutcomeAlgebra.Proofs.Act.Run
import OutcomeAlgebra.Proofs.Iter.Asking
import OutcomeAlgebra.Proofs.Iter.Polling
/-! Chains of parts that note their polls. A request goes through the parts that have no more
and ends with the first poll that finds an item, or at the last part. Along a whole session
of requests this gives the log, the answers and the items: those of the parts one after the
other, where a part may go on for ever. -/
namespace OutcomeAlgebra.Iter

variable {κ α β : Type}

def watch (part : Nat) (answers : Nat → Option α) (request : Nat) : Act κ (Poll α) (Option α) := do
  Act.note ⟨part, request, answers request⟩
  pure (answers request)

def watched (sources : List (Nat → Option α)) : List (Iter (Act κ (Poll α)) α) :=
  sources.mapIdx fun part answers => ofAnswers (watch part answers)

def notes (polls : List (Poll α)) : List (Entry (Poll α)) := polls.map .note

section Rows

def waiting (part : Nat) (rest : List (Nat → Option α)) : List (Place (Act κ (Poll α)) α) :=
  rest.mapIdx fun offset answers => ⟨watch (part + offset) answers, 0⟩

def standing (position : Position α) : List (Place (Act κ (Poll α)) α) :=
  ⟨watch position.part position.current, position.request⟩ ::
    waiting (position.part + 1) position.rest

theorem waitingCons (part : Nat) (current : Nat → Option α) (rest : List (Nat → Option α)) :
    waiting (κ := κ) part (current :: rest) = standing ⟨part, 0, current, rest⟩ := by
  simp [waiting, standing, List.mapIdx_cons, Nat.add_assoc, Nat.add_comm 1]

theorem watchedRow (sources : List (Nat → Option α)) :
    (watched (κ := κ) sources).flatMap row = waiting 0 sources := by
  have places : watched (κ := κ) sources =
      (waiting 0 sources).map fun place => .part place.answer place.requests := by
    simp [watched, waiting, ofAnswers, List.mapIdx_eq_zipIdx_map]
  rw [places, List.flatMap_map]
  exact List.flatMap_singleton' _

theorem watchRun (position : Position α) (context : κ) (next : Nat) :
    (watch position.part position.current position.request).run context next =
      ⟨notes [position.poll], 0, .ok position.poll.answer⟩ := rfl

theorem askStanding (part request : Nat) (current later : Nat → Option α)
    (rest : List (Nat → Option α)) :
    askRow (standing (κ := κ) ⟨part, request, current, later :: rest⟩) =
      watch part current request >>= fun
        | some item => pure (some item, standing ⟨part, request + 1, current, later :: rest⟩)
        | none => askRow (standing ⟨part + 1, 0, later, rest⟩) := by
  simp only [standing, waitingCons]
  exact bind_congr fun answer => by cases answer <;> rfl

end Rows

section Requests

/- One request: the position it finds, its polls, its answer, and the position it leaves. -/
inductive Requested : Position α → List (Poll α) → Option α → Position α → Prop where
  | stays {position} (decided : position.poll.answer ≠ none ∨ position.rest = []) :
      Requested position [position.poll] position.poll.answer position.again
  | passed {part request current later rest round answer position}
      (spent : current request = none)
      (further : Requested ⟨part + 1, 0, later, rest⟩ round answer position) :
      Requested ⟨part, request, current, later :: rest⟩
        (⟨part, request, current request⟩ :: round) answer position

theorem requestRun (position : Position α) (context : κ) (next : Nat) :
    ∃ round answer after, Requested position round answer after ∧
      (askRow (standing position)).run context next =
        ⟨notes round, 0, .ok (answer, standing after)⟩ := by
  obtain ⟨part, request, current, rest⟩ := position
  induction rest generalizing part request current with
  | nil =>
    refine ⟨_, _, _, .stays (.inr rfl), ?_⟩
    rw [standing, waiting, List.mapIdx_nil, askRow,
      Act.runBindOk (watchRun ⟨part, request, current, []⟩ _ _)]
    rfl
  | cons later rest ih =>
    have first := watchRun ⟨part, request, current, later :: rest⟩ context next
    rw [askStanding, Act.runBindOk first]
    cases answered : current request with
    | some item =>
      have found : (Position.poll ⟨part, request, current, later :: rest⟩).answer = some item :=
        answered
      have there : (Position.poll ⟨part, request, current, later :: rest⟩).answer ≠ none := by
        rw [found]
        exact Option.some_ne_none item
      refine ⟨_, _, _, .stays (.inl there), ?_⟩
      rw [found]
      rfl
    | none =>
      obtain ⟨round, answer, after, further, ran⟩ := ih (part + 1) 0 later
      have spent : (Position.poll ⟨part, request, current, later :: rest⟩).answer = none := answered
      refine ⟨_, answer, after, .passed answered further, ?_⟩
      simp only [spent, Nat.add_zero, ran]
      simp [Report.behind, notes, Position.poll]

/- No part is polled behind the one that has an item, and only the last part ends a request
without one. -/
inductive Round (sources : List (Nat → Option α)) : List (Poll α) → Option α → Prop where
  | asked (front : List (Poll α)) (last : Poll α) (passed : ∀ poll ∈ front, poll.answer = none)
      (ended : last.answer = none → last.part + 1 = sources.length) :
      Round sources (front ++ [last]) last.answer
  | nobody (empty : sources = []) : Round sources [] none

namespace Requested

variable {sources : List (Nat → Option α)} {position after : Position α}
  {polled log : List (Poll α)}
  {answer : Option α}

theorem lastAnswers (requested : Requested position polled answer after) :
    ∃ front last, polled = front ++ [last] ∧ (∀ poll ∈ front, poll.answer = none) ∧
      last.answer = answer ∧ last.part = after.part ∧ (answer = none → after.rest = []) := by
  induction requested with
  | @stays position decided =>
    have ended (none : position.poll.answer = none) : position.rest = [] :=
      decided.resolve_left fun found => found none
    exact ⟨[], position.poll, rfl, nofun, rfl, rfl, ended⟩
  | @passed part request current later rest round answer after spent _ ih =>
    obtain ⟨front, last, rfl, passed, answered, here, ended⟩ := ih
    refine ⟨⟨part, request, current request⟩ :: front, last, rfl, ?_, answered, here, ended⟩
    intro poll member
    rcases List.mem_cons.mp member with rfl | behind
    · exact spent
    · exact passed poll behind

theorem polls (requested : Requested position polled answer after)
    (before : Polls sources log position) : Polls sources (log ++ polled) after := by
  induction requested generalizing log with
  | stays decided => exact before.again decided
  | @passed part request current later rest round answer after spent _ ih =>
    have further := ih (before.passed spent)
    rwa [List.append_assoc] at further

theorem round (requested : Requested position polled answer after)
    (before : Polls sources log position) : Round sources polled answer := by
  obtain ⟨front, last, rfl, passed, rfl, here, ended⟩ := requested.lastAnswers
  have behind := requested.polls before
  refine .asked front last passed fun none => ?_
  have atEnd : ¬ after.part + 1 < sources.length := fun more => behind.lastPart.mp more (ended none)
  have inside := (List.getElem?_eq_some_iff.mp behind.here).1
  omega

theorem asked (requested : Requested position polled answer after) :
    ∃ poll ∈ polled, poll.part = after.part := by
  obtain ⟨front, last, rfl, _, _, here, _⟩ := requested.lastAnswers
  exact ⟨last, by simp, here⟩

end Requested

end Requests

section Sessions

/- A client served request by request: it goes on with what each request has answered. -/
inductive Transcript (sources : List (Nat → Option α)) :
    Client α β → List (List (Poll α)) → β → Prop where
  | done {result} : Transcript sources (.done result) [] result
  | ask {further round answer rounds result} (first : Round sources round answer)
      (rest : Transcript sources (further answer) rounds result) :
      Transcript sources (.ask further) (round :: rounds) result

variable {sources : List (Nat → Option α)}

theorem sessionRun (client : Client α β) {log : List (Poll α)} {position : Position α}
    (before : Polls sources log position)
    (reached : 0 < position.part → ∃ poll ∈ log, poll.part = position.part)
    (context : κ) (next : Nat) :
    ∃ rounds result, Transcript sources client rounds result ∧
      Orderly sources (log ++ rounds.flatten) ∧
      (client.serve askRow (standing position)).run context next =
        ⟨notes rounds.flatten, 0, .ok result⟩ := by
  -- The log and the position are those of the requests that were served before.
  induction client generalizing log position with
  | done result =>
    refine ⟨[], result, .done, ?_, rfl⟩
    rw [List.flatten_nil, List.append_nil]
    exact before.orderly reached
  | ask further ih =>
    obtain ⟨round, answer, after, requested, ran⟩ := requestRun position context next
    obtain ⟨poll, member, same⟩ := requested.asked
    obtain ⟨rounds, result, rest, orderly, served⟩ := ih answer (requested.polls before)
      fun _ => ⟨poll, List.mem_append_right _ member, same⟩
    refine ⟨round :: rounds, result, .ask (requested.round before) rest, ?_, ?_⟩
    · rwa [List.flatten_cons, ← List.append_assoc]
    · rw [Client.serve, Act.runBindOk ran]
      simp only [Nat.add_zero, served]
      simp [Report.behind, notes]

theorem sessionNobody (client : Client α β) (context : κ) (next : Nat) :
    ∃ rounds result, Transcript ([] : List (Nat → Option α)) client rounds result ∧
      rounds.flatten = [] ∧
      (client.serve askRow ([] : List (Place (Act κ (Poll α)) α))).run context next =
        ⟨[], 0, .ok result⟩ := by
  induction client with
  | done result => exact ⟨[], result, .done, rfl, rfl⟩
  | ask further ih =>
    obtain ⟨rounds, result, rest, nothing, served⟩ := ih none
    refine ⟨[] :: rounds, result, .ask (.nobody rfl) rest, nothing, ?_⟩
    rw [Client.serve, askRow, pure_bind]
    exact served

theorem sessions (client : Client α β) (sources : List (Nat → Option α)) (context : κ)
    (next : Nat) :
    ∃ rounds result, Transcript sources client rounds result ∧ Orderly sources rounds.flatten ∧
      (client.serve askRow (waiting (κ := κ) 0 sources)).run context next =
        ⟨notes rounds.flatten, 0, .ok result⟩ := by
  cases sources with
  | nil =>
    obtain ⟨rounds, result, transcript, nothing, served⟩ := sessionNobody client context next
    refine ⟨rounds, result, transcript, ?_, ?_⟩
    · rw [nothing]
      exact orderlyNothing []
    · rw [nothing]
      exact served
  | cons current rest =>
    rw [waitingCons]
    have first : ¬ 0 < 0 := Nat.lt_irrefl 0
    exact sessionRun client (.start rfl) (fun positive => absurd positive first) context next

end Sessions

section Items

open Stream'

def itemsFrom (answers : Nat → Option α) : (request : Nat) → Seq α :=
  Seq.corec fun request => (answers request).map fun item => (item, request + 1)

def concatenation (sources : List (Nat → Option α)) : Seq α :=
  sources.foldr (fun answers rest => (itemsFrom answers 0).append rest) .nil

def Position.items (position : Position α) : Seq α :=
  (itemsFrom position.current position.request).append (concatenation position.rest)

theorem itemsSome {answers : Nat → Option α} {request : Nat} {item : α}
    (there : answers request = some item) :
    itemsFrom answers request = Seq.cons item (itemsFrom answers (request + 1)) :=
  Seq.corec_cons (by rw [there]; rfl)

theorem itemsNone {answers : Nat → Option α} {request : Nat} (spent : answers request = none) :
    itemsFrom answers request = Seq.nil :=
  Seq.corec_nil _ _ (by rw [spent]; rfl)

theorem Requested.items {position after : Position α} {round : List (Poll α)} {answer : Option α}
    (requested : Requested position round answer after) :
    position.items.destruct = answer.map fun item => (item, after.items) := by
  induction requested with
  | @stays position decided =>
    cases answered : position.current position.request with
    | some item =>
      have here : position.items = Seq.cons item position.again.items := by
        rw [Position.items, itemsSome answered, Seq.cons_append]
        rfl
      rw [here, Seq.destruct_cons, Position.poll, answered]
      rfl
    | none =>
      have last : position.rest = [] := decided.resolve_left fun found => found answered
      have nothing : position.items = Seq.nil := by
        rw [Position.items, itemsNone answered, last, Seq.nil_append]
        rfl
      rw [nothing, Seq.destruct_nil, Position.poll, answered]
      rfl
  | @passed part request current later rest round answer after spent _ ih =>
    have onward : Position.items ⟨part, request, current, later :: rest⟩ =
        Position.items ⟨part + 1, 0, later, rest⟩ := by
      rw [Position.items, itemsNone spent, Seq.nil_append]
      rfl
    rw [onward, ih]

theorem takenItems (count : Nat) (position : Position α) (context : κ) (next : Nat) :
    (((Client.taking count).serve askRow (standing position)).run context next).ending =
      .ok (position.items.take count) := by
  induction count generalizing position next with
  | zero => rfl
  | succ count ih =>
    obtain ⟨round, answer, after, requested, ran⟩ := requestRun position context next
    have items := requested.items
    rw [Client.taking, Client.serve, Act.runBindOk ran]
    cases answer with
    | none =>
      rw [Seq.destruct_eq_none items, Seq.take_nil]
      rfl
    | some item =>
      have further := ih after (next + 0)
      rw [Seq.destruct_eq_cons items, Seq.take_succ_cons]
      simp only [Client.serveMap, Act.runMap, Report.behind, Report.map, further]
      rfl

theorem takenFirst (count : Nat) (sources : List (Nat → Option α)) (context : κ) (next : Nat) :
    (((Client.taking count).serve askRow (waiting (κ := κ) 0 sources)).run context next).ending =
      .ok ((concatenation sources).take count) := by
  cases sources with
  | nil =>
    cases count with
    | zero => rfl
    | succ count =>
      rw [concatenation, List.foldr_nil, Seq.take_nil]
      rfl
  | cons current rest =>
    rw [waitingCons]
    exact takenItems count ⟨0, 0, current, rest⟩ context next

end Items

/- Nothing is asked where a chain is made, and no client can tell how it was grouped, whatever
the parts do when they are asked. -/
structure Alike {m : Type → Type} [Monad m] (left right : m (Iter m α)) : Prop where
  unasked : ∃ iter, left = pure iter
  served : ∀ (β : Type) (client : Client α β),
    left >>= client.serve next = right >>= client.serve next
  taken : ∀ count, Prod.fst <$> (left >>= take count) = Prod.fst <$> (right >>= take count)

structure Polled (sources : List (Nat → Option α))
    (program : Act κ (Poll α) (Iter (Act κ (Poll α)) α)) (context : κ) (handle : Nat) :
    Prop where
  served : ∀ (β : Type) (client : Client α β), ∃ rounds result,
    Transcript sources client rounds result ∧ Orderly sources rounds.flatten ∧
    (program >>= client.serve next).run context handle = ⟨notes rounds.flatten, 0, .ok result⟩
  taken : ∀ count, ∃ rounds,
    Transcript sources (Client.taking count) rounds ((concatenation sources).take count) ∧
    Orderly sources rounds.flatten ∧
    (Prod.fst <$> (program >>= take count)).run context handle =
      ⟨notes rounds.flatten, 0, .ok ((concatenation sources).take count)⟩

theorem chainsPolled :
    (∀ (m : Type → Type) [Monad m] [LawfulMonad m] (α : Type) (parts : List (Iter m α))
      (left right : m (Iter m α)), Chained parts left → Chained parts right →
        Alike left right) ∧
    ∀ (κ α : Type) (sources : List (Nat → Option α))
      (program : Act κ (Poll α) (Iter (Act κ (Poll α)) α)), Chained (watched sources) program →
      ∀ (context : κ) (handle : Nat), Polled sources program context handle := by
  constructor
  · intro m _ _ α parts left right first second
    obtain ⟨iter, rfl, served⟩ := chainedServe first
    obtain ⟨other, rfl, likewise⟩ := chainedServe second
    refine ⟨⟨iter, rfl⟩, fun β client => ?_, fun count => ?_⟩
    · rw [pure_bind, pure_bind, served, likewise]
    · rw [pure_bind, pure_bind, ← Client.serveTaking, ← Client.serveTaking, served, likewise]
  · intro κ α sources program chained context handle
    obtain ⟨iter, rfl, served⟩ := chainedServe chained
    rw [watchedRow] at served
    refine ⟨fun β client => ?_, fun count => ?_⟩
    · obtain ⟨rounds, result, transcript, orderly, ran⟩ := sessions client sources context handle
      rw [pure_bind, served]
      exact ⟨rounds, result, transcript, orderly, ran⟩
    · obtain ⟨rounds, items, transcript, orderly, ran⟩ :=
        sessions (Client.taking count) sources context handle
      have taken := takenFirst count sources context handle
      rw [ran] at taken
      cases taken
      rw [pure_bind, ← Client.serveTaking, served]
      exact ⟨rounds, transcript, orderly, ran⟩

example : (chaining.join (watched [fun request => [7][request]?, fun _ => none, some]) >>=
    fun iter =>
    (Client.taking 3).serve next iter).run () 0 =
      ⟨notes [⟨0, 0, some 7⟩, ⟨0, 1, none⟩, ⟨1, 0, none⟩, ⟨2, 0, some 0⟩, ⟨2, 1, some 1⟩], 0,
        .ok [7, 0, 1]⟩ := rfl

end OutcomeAlgebra.Iter
