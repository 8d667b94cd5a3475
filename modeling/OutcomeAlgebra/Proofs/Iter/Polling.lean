import Mathlib.Data.List.Basic
/-! The polls of parts in a row, one after the other. A part is polled until it says that it
has no more; then the part behind it is polled, and only the last part may be polled again.
`Polls` says which polls there can be and where they lead; what holds of every log of polls
is read off it by induction. -/
namespace OutcomeAlgebra.Iter

variable {α : Type}

structure Poll (α : Type) where
  part : Nat
  request : Nat
  answer : Option α
  deriving DecidableEq, Repr

structure Position (α : Type) where
  part : Nat
  request : Nat
  current : Nat → Option α
  rest : List (Nat → Option α)

namespace Position

def poll (position : Position α) : Poll α :=
  ⟨position.part, position.request, position.current position.request⟩

def again (position : Position α) : Position α :=
  { position with request := position.request + 1 }

end Position

inductive Polls (sources : List (Nat → Option α)) : List (Poll α) → Position α → Prop where
  | start {current rest} (whole : sources = current :: rest) :
      Polls sources [] ⟨0, 0, current, rest⟩
  | again {log position} (before : Polls sources log position)
      (stays : position.poll.answer ≠ none ∨ position.rest = []) :
      Polls sources (log ++ [position.poll]) position.again
  | passed {log part request current later rest}
      (before : Polls sources log ⟨part, request, current, later :: rest⟩)
      (spent : current request = none) :
      Polls sources (log ++ [⟨part, request, current request⟩]) ⟨part + 1, 0, later, rest⟩

def EndsAt (length : Nat) (answers : Nat → Option α) : Prop :=
  answers length = none ∧ ∀ request < length, answers request ≠ none

def pastEnd (part length : Nat) (log : List (Poll α)) : Nat :=
  log.countP fun poll => poll.part = part ∧ length ≤ poll.request

theorem pastEndAppend (part length : Nat) (front back : List (Poll α)) :
    pastEnd part length (front ++ back) = pastEnd part length front + pastEnd part length back :=
  List.countP_append

namespace Polls

variable {sources : List (Nat → Option α)} {log : List (Poll α)} {position : Position α}

theorem placed (polls : Polls sources log position) :
    sources.drop position.part = position.current :: position.rest := by
  induction polls with
  | start whole => exact whole
  | again _ _ ih => exact ih
  | passed _ _ ih => rw [← List.tail_drop, ih, List.tail_cons]

theorem here (polls : Polls sources log position) :
    sources[position.part]? = some position.current := by
  have first := congrArg List.head? polls.placed
  rwa [List.head?_drop] at first

theorem lastPart (polls : Polls sources log position) :
    position.part + 1 < sources.length ↔ position.rest ≠ [] := by
  have count := congrArg List.length polls.placed
  rw [List.length_drop, List.length_cons] at count
  rw [← List.length_pos_iff]
  omega

theorem stopped (polls : Polls sources log position) {front : List (Poll α)} {poll : Poll α}
    (asked : front ++ [poll] <+: log) :
    ∃ position, Polls sources front position ∧ poll = position.poll := by
  induction polls with
  | start => exact absurd (List.prefix_nil.mp asked) (by simp)
  | @again log position before _ ih =>
    rcases List.prefix_concat_iff.mp asked with now | earlier
    · obtain ⟨rfl, rfl⟩ := List.append_singleton_inj.mp now
      exact ⟨position, before, rfl⟩
    · exact ih earlier
  | @passed log part request current later rest before spent ih =>
    rcases List.prefix_concat_iff.mp asked with now | earlier
    · obtain ⟨rfl, rfl⟩ := List.append_singleton_inj.mp now
      exact ⟨⟨part, request, current, later :: rest⟩, before, rfl⟩
    · exact ih earlier

theorem honest (polls : Polls sources log position) {poll : Poll α} (asked : poll ∈ log) :
    ∃ answers, sources[poll.part]? = some answers ∧ answers poll.request = poll.answer := by
  obtain ⟨front, back, rfl⟩ := List.append_of_mem asked
  have there : front ++ [poll] <+: front ++ poll :: back := ⟨back, by simp⟩
  obtain ⟨position, before, rfl⟩ := polls.stopped there
  exact ⟨position.current, before.here, rfl⟩

theorem reached (polls : Polls sources log position) {poll : Poll α} (asked : poll ∈ log) :
    poll.part ≤ position.part := by
  induction polls with
  | start => cases asked
  | again _ _ ih =>
    rcases List.mem_append.mp asked with earlier | now
    · exact ih earlier
    · rw [List.mem_singleton.mp now]
      exact Nat.le_refl _
  | passed _ _ ih =>
    rcases List.mem_append.mp asked with earlier | now
    · exact Nat.le_succ_of_le (ih earlier)
    · rw [List.mem_singleton.mp now]
      exact Nat.le_succ _

theorem counted (polls : Polls sources log position) :
    position.request = log.countP fun poll => poll.part = position.part := by
  induction polls with
  | start => rfl
  | @again log position _ _ ih =>
    have shown : (log ++ [position.poll]).countP (fun poll => poll.part = position.part) =
        log.countP (fun poll => poll.part = position.part) + 1 := by simp [Position.poll]
    exact (congrArg (· + 1) ih).trans shown.symm
  | @passed log part request current later rest before _ _ =>
    have new : ∀ poll ∈ log ++ [⟨part, request, current request⟩], poll.part ≠ part + 1 := by
      intro poll asked
      rcases List.mem_append.mp asked with earlier | now
      · exact Nat.ne_of_lt (Nat.lt_succ_of_le (before.reached earlier))
      · rw [List.mem_singleton.mp now]
        exact Nat.ne_of_lt (Nat.lt_succ_self part)
    exact (List.countP_eq_zero.mpr (by simpa using new)).symm

theorem passedAll (polls : Polls sources log position) {earlier : Nat}
    (behind : earlier < position.part) :
    ∃ last ∈ log, last.part = earlier ∧ last.answer = none := by
  induction polls with
  | start => exact absurd behind (Nat.not_lt_zero _)
  | again _ _ ih =>
    obtain ⟨last, asked, passed⟩ := ih behind
    exact ⟨last, List.mem_append_left _ asked, passed⟩
  | @passed log part request current later rest _ spent ih =>
    rcases Nat.lt_succ_iff_lt_or_eq.mp behind with before | rfl
    · obtain ⟨last, asked, passed⟩ := ih before
      exact ⟨last, List.mem_append_left _ asked, passed⟩
    · exact ⟨⟨earlier, request, current request⟩, by simp, rfl, spent⟩

theorem unended (polls : Polls sources log position) (more : position.rest ≠ []) :
    ∀ request < position.request, position.current request ≠ none := by
  induction polls with
  | start => exact fun _ below => absurd below (Nat.not_lt_zero _)
  | @again log position _ stays ih =>
    intro request below
    rcases Nat.lt_succ_iff_lt_or_eq.mp below with before | rfl
    · exact ih more request before
    · exact stays.resolve_right more
  | passed => exact fun _ below => absurd below (Nat.not_lt_zero _)

theorem pastEndOnce (polls : Polls sources log position) {part length : Nat}
    {answers : Nat → Option α} (later : part + 1 < sources.length)
    (there : sources[part]? = some answers) (ends : EndsAt length answers) :
    pastEnd part length log = if part < position.part then 1 else 0 := by
  induction polls with
  | start => rfl
  | @again log position before stays ih =>
    have within : ¬ (position.part = part ∧ length ≤ position.request) := by
      rintro ⟨rfl, past⟩
      have same := Option.some.inj (before.here.symm.trans there)
      have more := before.lastPart.mp later
      subst same
      rcases Nat.lt_or_eq_of_le past with below | rfl
      · exact before.unended more length below ends.1
      · exact stays.resolve_right more ends.1
    have kept : pastEnd part length [position.poll] = 0 := by
      simpa [pastEnd, Position.poll] using within
    rw [pastEndAppend, ih, kept]
    rfl
  | @passed log current request answered later' rest before spent ih =>
    rw [pastEndAppend, ih]
    by_cases same : current = part
    · subst same
      have alike := Option.some.inj (before.here.symm.trans there)
      subst alike
      have past : length ≤ request :=
        Nat.le_of_not_lt fun below => ends.2 request below spent
      simp [pastEnd, past]
    · have onward : part < current + 1 ↔ part < current := by omega
      simp [pastEnd, same, onward]

end Polls

structure Orderly (sources : List (Nat → Option α)) (log : List (Poll α)) : Prop where
  honest : ∀ poll ∈ log,
    ∃ answers, sources[poll.part]? = some answers ∧ answers poll.request = poll.answer
  inTurn : ∀ front poll, front ++ [poll] <+: log →
    poll.request = front.countP fun other => other.part = poll.part
  inOrder : ∀ front poll, front ++ [poll] <+: log → ∀ earlier < poll.part,
    ∃ last ∈ front, last.part = earlier ∧ last.answer = none
  behindEndless : ∀ part answers, sources[part]? = some answers →
    (∀ request, answers request ≠ none) → ∀ poll ∈ log, poll.part ≤ part
  once : ∀ part answers length, part + 1 < sources.length → sources[part]? = some answers →
    EndsAt length answers →
    ((∃ poll ∈ log, part < poll.part) → pastEnd part length log = 1) ∧
    ((∀ poll ∈ log, poll.part ≤ part) → pastEnd part length log = 0)

theorem orderlyNothing (sources : List (Nat → Option α)) : Orderly sources [] where
  honest := nofun
  inTurn := fun _ _ asked => absurd (List.prefix_nil.mp asked) (by simp)
  inOrder := fun _ _ asked => absurd (List.prefix_nil.mp asked) (by simp)
  behindEndless := fun _ _ _ _ => nofun
  once := fun _ _ _ _ _ _ => ⟨nofun, fun _ => rfl⟩

theorem Polls.orderly {sources : List (Nat → Option α)} {log : List (Poll α)}
    {position : Position α}
    (polls : Polls sources log position)
    (asked : 0 < position.part → ∃ poll ∈ log, poll.part = position.part) :
    Orderly sources log where
  honest := fun _ => polls.honest
  inTurn := by
    intro front poll there
    obtain ⟨position, before, rfl⟩ := polls.stopped there
    exact before.counted
  inOrder := by
    intro front poll there earlier behind
    obtain ⟨position, before, rfl⟩ := polls.stopped there
    exact before.passedAll behind
  behindEndless := by
    intro part answers there endless poll member
    refine Nat.le_of_not_lt fun behind => ?_
    obtain ⟨last, passed, rfl, spent⟩ :=
      polls.passedAll (Nat.lt_of_lt_of_le behind (polls.reached member))
    obtain ⟨same, found, answered⟩ := polls.honest passed
    have alike := Option.some.inj (there.symm.trans found)
    subst alike
    exact endless last.request (answered.trans spent)
  once := by
    intro part answers length later there ends
    rw [polls.pastEndOnce later there ends]
    constructor
    · rintro ⟨poll, member, behind⟩
      exact if_pos (Nat.lt_of_lt_of_le behind (polls.reached member))
    · intro unpolled
      refine if_neg fun behind => ?_
      obtain ⟨poll, member, same⟩ := asked (Nat.zero_lt_of_lt behind)
      have within := unpolled poll member
      omega

end OutcomeAlgebra.Iter
