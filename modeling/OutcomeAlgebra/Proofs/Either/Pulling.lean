import OutcomeAlgebra.Either.Sequence
import OutcomeAlgebra.Proofs.Act.Run
/-! What is pulled when eithers are collected. `Pulled` says what the next pulls of a source
give out, each run once and behind the one before it; `Stops` how many pulls decide the
answer, and which one it is. A pull may have effects of its own, and may panic. Neither
mentions a pull behind the last one that is run, so a source may be endless there. -/
namespace OutcomeAlgebra

variable {κ ν α L R : Type}

inductive Pulled (pull : Nat → Act κ ν (Option α)) (context : κ) :
    (index next : Nat) → (items : List α) → (log : List (Entry ν)) → (used : Nat) → Prop where
  | none {index next} : Pulled pull context index next [] [] 0
  | more {index next item items log used further more}
      (first : (pull index).run context next = ⟨log, used, .ok (some item)⟩)
      (rest : Pulled pull context (index + 1) (next + used) items further more) :
      Pulled pull context index next (item :: items) (log ++ further) (used + more)

namespace Either

/- How a source is decided, and after how many pulls. -/
inductive Stops (pull : Nat → Act κ ν (Option (Either L R))) (context : κ) (next : Nat) :
    (pulls : Nat) → Report ν (Either L (List R)) → Prop where
  | left {rights : List R} {value log used}
      (pulled : Pulled pull context 0 next (rights.map .right ++ [.left value]) log used) :
      Stops pull context next (rights.length + 1) ⟨log, used, .ok (.left value)⟩
  | ended {rights : List R} {log used further more}
      (pulled : Pulled pull context 0 next (rights.map .right) log used)
      (last : (pull rights.length).run context (next + used) = ⟨further, more, .ok none⟩) :
      Stops pull context next (rights.length + 1) ⟨log ++ further, used + more, .ok (.right rights)⟩
  | panicked {rights : List R} {log used further more panic}
      (pulled : Pulled pull context 0 next (rights.map .right) log used)
      (last : (pull rights.length).run context (next + used) = ⟨further, more, .error panic⟩) :
      Stops pull context next (rights.length + 1) ⟨log ++ further, used + more, .error panic⟩

/- As many rights as pulls, and no answer yet. -/
def Undecided (pull : Nat → Act κ ν (Option (Either L R))) (context : κ) (next limit : Nat) :
    Prop :=
  ∃ (rights : List R) (log : List (Entry ν)) (used : Nat), rights.length = limit ∧
    Pulled pull context 0 next (rights.map .right) log used ∧
    (collectFrom pull limit 0).run context next = ⟨log, used, .ok none⟩

def onto (rights : List R) : Either L (List R) → Either L (List R)
  | .left value => .left value
  | .right more => .right (rights ++ more)

theorem ontoNothing : onto ([] : List R) = (id : Either L (List R) → Either L (List R)) := by
  funext either
  cases either <;> rfl

theorem ontoTwice (value : R) (rights : List R) :
    onto [value] ∘ onto rights = (onto (value :: rights) : Either L (List R) → _) := by
  funext either
  cases either <;> rfl

section Runs

variable {pull : Nat → Act κ ν (Option (Either L R))} {context : κ} {index next used : Nat}
  {log : List (Entry ν)}

theorem collectRight {value : R}
    (first : (pull index).run context next = ⟨log, used, .ok (some (.right value))⟩) (limit : Nat) :
    (collectFrom pull (limit + 1) index).run context next =
      (((collectFrom pull limit (index + 1)).run context (next + used)).map
        (Option.map (onto [value]))).behind log used := by
  rw [collectFrom, Act.runBindOk first, ← Act.runMap, map_eq_pure_bind]
  refine congrArg (fun act : Act κ ν (Option (Either L (List R))) =>
    (act.run context (next + used)).behind log used) ?_
  refine bind_congr fun found => ?_
  rcases found with _ | failure | values <;> rfl

theorem collectRights {rights : List R}
    (pulled : Pulled pull context index next (rights.map .right) log used) (limit : Nat) :
    (collectFrom pull (rights.length + limit) index).run context next =
      (((collectFrom pull limit (index + rights.length)).run context (next + used)).map
        (Option.map (onto rights))).behind log used := by
  induction rights generalizing index next log used with
  | nil =>
    cases pulled
    simp [ontoNothing, Report.mapId, Report.behindNothing]
  | cons value rights ih =>
    cases pulled with
    | more first rest =>
      have later := ih rest
      have twice : Option.map (onto [value]) ∘ Option.map (onto rights) =
          (Option.map (onto (value :: rights)) : Option (Either L (List R)) → _) := by
        rw [Option.map_comp_map, ontoTwice]
      rw [List.length_cons, Nat.add_right_comm, collectRight first, later, Report.mapBehind,
        Report.mapMap, twice, Report.behindBehind, Nat.add_assoc next, Nat.add_assoc index,
        Nat.add_comm 1]

theorem pulledAppend {front back : List (Either L R)} {further : List (Entry ν)} {more : Nat}
    (first : Pulled pull context index next front log used)
    (rest : Pulled pull context (index + front.length) (next + used) back further more) :
    Pulled pull context index next (front ++ back) (log ++ further) (used + more) := by
  induction first with
  | none => simpa using rest
  | more pulled _ ih =>
    rw [List.length_cons, Nat.add_comm _ 1, ← Nat.add_assoc, ← Nat.add_assoc] at rest
    rw [List.cons_append, List.append_assoc, Nat.add_assoc]
    exact .more pulled (ih rest)

theorem pulledSplit {front back : List (Either L R)}
    (pulled : Pulled pull context index next (front ++ back) log used) :
    ∃ log' used' further more, Pulled pull context index next front log' used' ∧
      Pulled pull context (index + front.length) (next + used') back further more ∧
      log = log' ++ further ∧ used = used' + more := by
  induction front generalizing index next log used with
  | nil => exact ⟨[], 0, log, used, .none, pulled, rfl, (Nat.zero_add used).symm⟩
  | cons item front ih =>
    cases pulled with
    | more first rest =>
      obtain ⟨log', used', further, more, earlier, later, rfl, rfl⟩ := ih rest
      refine ⟨_, _, further, more, .more first earlier, ?_, ?_, ?_⟩
      · rw [List.length_cons, Nat.add_comm _ 1, ← Nat.add_assoc, ← Nat.add_assoc]
        exact later
      · rw [List.append_assoc]
      · rw [Nat.add_assoc]

theorem pulledOne {item : Either L R} : Pulled pull context index next [item] log used ↔
    (pull index).run context next = ⟨log, used, .ok (some item)⟩ := by
  constructor
  · intro pulled
    cases pulled with
    | more first rest =>
      cases rest
      rw [first, List.append_nil, Nat.add_zero]
  · intro first
    have nothing : Pulled pull context (index + 1) (next + used) [] [] 0 := .none
    have alone := Pulled.more first nothing
    rwa [List.append_nil, Nat.add_zero] at alone

variable {rights : List R} {pulls : Nat} {report : Report ν (Either L (List R))}

theorem collectUndecided (pulled : Pulled pull context 0 next (rights.map .right) log used) :
    (collectFrom pull rights.length 0).run context next = ⟨log, used, .ok none⟩ := by
  have past := collectRights pulled 0
  rw [Nat.add_zero] at past
  rw [past]
  simp [collectFrom, Report.map, Report.behind, Act.runPure, Functor.map, Except.map]

theorem undecided (pulled : Pulled pull context 0 next (rights.map .right) log used) :
    Undecided pull context next rights.length :=
  ⟨rights, log, used, rfl, pulled, collectUndecided pulled⟩

theorem collectBehind {further : List (Entry ν)} {more limit : Nat}
    {ending : Except Panic (Option (Either L (List R)))}
    (pulled : Pulled pull context 0 next (rights.map .right) log used)
    (last : (collectFrom pull (limit + 1) rights.length).run context (next + used) =
      ⟨further, more, ending⟩) :
    (collectFrom pull (rights.length + (limit + 1)) 0).run context next =
      ⟨log ++ further, used + more, Option.map (onto rights) <$> ending⟩ := by
  rw [collectRights pulled, Nat.zero_add, last]
  rfl

theorem collectDecided (stops : Stops pull context next pulls report) {enough : Nat}
    (within : pulls ≤ enough) :
    (collectFrom pull enough 0).run context next = report.map some := by
  obtain ⟨limit, rfl⟩ := Nat.exists_eq_add_of_le within
  cases stops with
  | @left rights value log used pulled =>
    obtain ⟨earlier, before, further, more, front, last, rfl, rfl⟩ := pulledSplit pulled
    have first := pulledOne.mp last
    rw [List.length_map, Nat.zero_add] at first
    have decided : (collectFrom pull (limit + 1) rights.length).run context (next + before) =
        ⟨further, more, .ok (some (.left value))⟩ := by
      rw [collectFrom, Act.runBindOk first]
      simp [Report.behind, Act.runPure]
    rw [Nat.add_assoc, Nat.add_comm 1, collectBehind front decided]
    rfl
  | @ended rights log used further more pulled last =>
    have decided : (collectFrom pull (limit + 1) rights.length).run context (next + used) =
        ⟨further, more, .ok (some (.right []))⟩ := by
      rw [collectFrom, Act.runBindOk last]
      simp [Report.behind, Act.runPure]
    rw [Nat.add_assoc, Nat.add_comm 1, collectBehind pulled decided]
    simp [Report.map, Functor.map, Except.map, onto]
  | @panicked rights log used further more panic pulled last =>
    have decided : (collectFrom pull (limit + 1) rights.length).run context (next + used) =
        ⟨further, more, .error panic⟩ := by
      rw [collectFrom, Act.runBindError last]
    rw [Nat.add_assoc, Nat.add_comm 1, collectBehind pulled decided]
    rfl

theorem stopsRights (stops : Stops pull context next pulls report) {count : Nat}
    (fewer : count < pulls) :
    ∃ rights : List R, ∃ log used, rights.length = count ∧
      Pulled pull context 0 next (rights.map .right) log used := by
  have front (rights : List R) {back : List (Either L R)} {log : List (Entry ν)} {used : Nat}
      (pulled : Pulled pull context 0 next (rights.map .right ++ back) log used)
      (enough : count < rights.length + 1) : ∃ rights : List R, ∃ log used,
        rights.length = count ∧ Pulled pull context 0 next (rights.map .right) log used := by
    rw [← List.take_append_drop count rights, List.map_append, List.append_assoc] at pulled
    obtain ⟨log, used, _, _, earlier, _⟩ := pulledSplit pulled
    exact ⟨rights.take count, log, used, by rw [List.length_take]; omega, earlier⟩
  cases stops with
  | @left rights value log used pulled => exact front rights pulled fewer
  | @ended rights log used further more pulled last =>
    rw [← List.append_nil (rights.map Either.right)] at pulled
    exact front rights pulled fewer
  | @panicked rights log used further more panic pulled last =>
    rw [← List.append_nil (rights.map Either.right)] at pulled
    exact front rights pulled fewer

theorem pullsOn (pulled : Pulled pull context 0 next (rights.map .right) log used) :
    (∃ value log used, Pulled pull context 0 next ((rights ++ [value]).map .right) log used) ∨
      ∃ report, Stops pull context next (rights.length + 1) report := by
  cases last : (pull rights.length).run context (next + used) with
  | mk further more ending =>
    have one {item : Either L R} (given : ending = .ok (some item)) :
        Pulled pull context 0 next (rights.map .right ++ [item]) (log ++ further)
          (used + more) := by
      refine pulledAppend pulled (pulledOne.mpr ?_)
      rw [List.length_map, Nat.zero_add, last, given]
    cases ending with
    | error panic => exact .inr ⟨_, .panicked pulled last⟩
    | ok found =>
      cases found with
      | none => exact .inr ⟨_, .ended pulled last⟩
      | some item =>
        cases item with
        | left value => exact .inr ⟨_, .left (one rfl)⟩
        | right value =>
          refine .inl ⟨value, log ++ further, used + more, ?_⟩
          rw [List.map_append]
          exact one rfl

theorem rightsOrStops (pull : Nat → Act κ ν (Option (Either L R))) (context : κ)
    (next count : Nat) :
    (∃ rights : List R, ∃ log used, rights.length = count ∧
      Pulled pull context 0 next (rights.map .right) log used) ∨
      ∃ pulls ≤ count, ∃ report, Stops pull context next pulls report := by
  induction count with
  | zero => exact .inl ⟨[], [], 0, rfl, .none⟩
  | succ count ih =>
    rcases ih with ⟨rights, log, used, rfl, pulled⟩ | ⟨pulls, before, report, stops⟩
    · rcases pullsOn pulled with ⟨value, log, used, further⟩ | ⟨report, stops⟩
      · exact .inl ⟨rights ++ [value], log, used, by simp, further⟩
      · exact .inr ⟨rights.length + 1, Nat.le_refl _, report, stops⟩
    · exact .inr ⟨pulls, Nat.le_succ_of_le before, report, stops⟩

end Runs

section Lists

theorem collectSequence {pull : Nat → Act κ ν (Option (Either L R))}
    (elements : List (Act κ ν (Either L R))) (index further : Nat)
    (pulls : ∀ offset, pull (index + offset) = Act.pullsOf elements offset) :
    collectFrom pull (elements.length + 1 + further) index = some <$> sequence elements := by
  induction elements generalizing index with
  | nil =>
    have here : pull index = pure none := pulls 0
    rw [List.length_nil, Nat.zero_add, Nat.add_comm, collectFrom, here]
    simp [sequence]
  | cons element elements ih =>
    have here : pull index = some <$> element := pulls 0
    have rest := ih (index + 1) fun offset => by
      have shifted := pulls (offset + 1)
      rwa [← Nat.add_assoc, Nat.add_right_comm] at shifted
    rw [List.length_cons, Nat.add_right_comm _ 1, collectFrom, here, sequence, map_bind,
      bind_map_left]
    refine bind_congr fun either => ?_
    cases either with
    | left value => rfl
    | right value =>
      simp only [rest, bind_map_left, map_bind]
      refine bind_congr fun collected => ?_
      cases collected <;> rfl

theorem collectList (elements : List (Act κ ν (Either L R))) {limit : Nat}
    (enough : elements.length < limit) :
    collectFrom (Act.pullsOf elements) limit 0 = some <$> sequence elements := by
  obtain ⟨further, rfl⟩ := Nat.exists_eq_add_of_le (Nat.succ_le_of_lt enough)
  exact collectSequence elements 0 further fun offset => by rw [Nat.zero_add]

theorem sequenceRun {elements : List (Act κ ν (Either L R))} {context : κ} {next pulls : Nat}
    {report : Report ν (Either L (List R))}
    (stops : Stops (Act.pullsOf elements) context next pulls report) :
    (sequence elements).run context next = report := by
  have decided := collectDecided stops (Nat.le_add_left pulls (elements.length + 1))
  rw [collectList elements (by omega), Act.runMap] at decided
  exact Report.mapSomeInjective decided

theorem sequenceStops (elements : List (Act κ ν (Either L R))) (context : κ) (next : Nat) :
    ∃ pulls ≤ elements.length + 1,
      Stops (Act.pullsOf elements) context next pulls ((sequence elements).run context next) := by
  rcases rightsOrStops (Act.pullsOf elements) context next (elements.length + 1) with
    ⟨rights, log, used, count, pulled⟩ | ⟨pulls, within, report, stops⟩
  · have undecided := collectUndecided pulled
    rw [count, collectList elements (Nat.lt_succ_self _), Act.runMap] at undecided
    exact absurd (congrArg Report.ending undecided) (Report.mapSomeAnswers _)
  · rw [sequenceRun stops]
    exact ⟨pulls, within, stops⟩

end Lists

section Noted

def noted (position : Nat) (item : Option α) : Act κ Nat (Option α) := do
  Act.note position
  pure item

def notes (count : Nat) : List (Entry Nat) := (List.range count).map .note

theorem notedRun (position : Nat) (item : Option α) (context : κ) (next : Nat) :
    (noted position item).run context next = ⟨[.note position], 0, .ok item⟩ := rfl

theorem notedPulled (pull : Nat → Act κ Nat (Option α)) (context : κ) (index next : Nat)
    (items : List α)
    (pulls : ∀ offset (inside : offset < items.length),
      pull (index + offset) = noted (index + offset) (some items[offset])) :
    Pulled pull context index next items ((List.range' index items.length).map .note) 0 := by
  induction items generalizing index with
  | nil => exact .none
  | cons item items ih =>
    have here : (pull index).run context next = ⟨[.note index], 0, .ok (some item)⟩ := by
      rw [show pull index = noted index (some item) from pulls 0 (Nat.succ_pos _), notedRun]
    have rest := ih (index + 1) fun offset inside => by
      have shifted := pulls (offset + 1) (Nat.succ_lt_succ inside)
      rwa [← Nat.add_assoc, Nat.add_right_comm] at shifted
    exact .more here rest

theorem notedFront (pull : Nat → Act κ Nat (Option α)) (context : κ) (next : Nat) (items : List α)
    (pulls : ∀ position (inside : position < items.length),
      pull position = noted position (some items[position])) :
    Pulled pull context 0 next items (notes items.length) 0 := by
  have pulled := notedPulled pull context 0 next items fun offset inside => by
    rw [Nat.zero_add, pulls offset inside]
  rwa [← List.range_eq_range'] at pulled

theorem notedLeft {pull : Nat → Act κ Nat (Option (Either L R))} (context : κ) (next : Nat)
    {rights : List R} {value : L}
    (front : ∀ position (inside : position < rights.length),
      pull position = noted position (some (.right rights[position])))
    (first : pull rights.length = noted rights.length (some (.left value))) :
    Stops pull context next (rights.length + 1)
      ⟨notes (rights.length + 1), 0, .ok (.left value)⟩ := by
  have pulled := notedFront pull context next (rights.map Either.right ++ [.left value])
    fun position inside => by
      rw [List.length_append, List.length_map, List.length_singleton] at inside
      rcases Nat.lt_succ_iff_lt_or_eq.mp inside with before | rfl
      · rw [front position before, List.getElem_append_left (by simpa using before),
        List.getElem_map]
      · rw [first, List.getElem_append_right (by simp)]
        simp
  rw [List.length_append, List.length_map, List.length_singleton] at pulled
  exact .left pulled

def counted (elements : List α) : List (Act κ Nat α) :=
  elements.mapIdx fun position item => do
    Act.note position
    pure item

theorem countedPulls {elements : List (Either L R)} {position : Nat} {item : Either L R}
    (there : elements[position]? = some item) :
    Act.pullsOf (counted (κ := κ) elements) position = noted position (some item) := by
  unfold Act.pullsOf counted
  rw [List.getElem?_mapIdx, there]
  simp [noted]

end Noted

structure PullsDecide (pull : Nat → Act κ ν (Option (Either L R))) (context : κ) (next : Nat) :
    Prop where
  before : ∀ pulls report, Stops pull context next pulls report →
    ∀ limit < pulls, Undecided pull context next limit
  after : ∀ pulls report, Stops pull context next pulls report →
    ∀ limit, pulls ≤ limit → (collectFrom pull limit 0).run context next = report.map some
  endless : (∃ pulls report, Stops pull context next pulls report) ∨
    ∀ limit, Undecided pull context next limit

structure ListPulls (elements : List (Act κ ν (Either L R))) : Prop where
  collects : ∀ limit, elements.length < limit →
    collectFrom (Act.pullsOf elements) limit 0 = some <$> sequence elements
  stops : ∀ context next, ∃ pulls ≤ elements.length + 1,
    Stops (Act.pullsOf elements) context next pulls ((sequence elements).run context next)

/- Sources whose pulls leave their positions in the log, with no end in sight. -/
structure NotesPulls (source : Nat → Option (Either L R)) (rights : List R) (limit : Nat)
    (context : κ) (next : Nat) : Prop where
  left : ∀ value, source rights.length = some (.left value) →
    (collectFrom (fun position => noted position (source position)) limit 0).run context next =
      ⟨notes (rights.length + 1), 0, .ok (some (.left value))⟩
  ended : source rights.length = none →
    (collectFrom (fun position => noted position (source position)) limit 0).run context next =
      ⟨notes (rights.length + 1), 0, .ok (some (.right rights))⟩

structure NotesElements (L : Type) (rights : List R) (context : κ) (next : Nat) : Prop where
  left : ∀ (value : L) (behind : List (Either L R)),
    (sequence (counted (rights.map .right ++ .left value :: behind))).run context next =
      ⟨notes (rights.length + 1), 0, .ok (.left value)⟩
  ended : (sequence (counted (rights.map (.right : R → Either L R)))).run context next =
    ⟨notes rights.length, 0, .ok (.right rights)⟩

theorem pullsDecide (pull : Nat → Act κ ν (Option (Either L R))) (context : κ) (next : Nat) :
    PullsDecide pull context next where
  before pulls report stops limit fewer := by
    obtain ⟨rights, log, used, rfl, pulled⟩ := stopsRights stops fewer
    exact undecided pulled
  after _ _ stops _ enough := collectDecided stops enough
  endless := by
    by_cases decided : ∃ pulls report, Stops pull context next pulls report
    · exact .inl decided
    · refine .inr fun limit => ?_
      rcases rightsOrStops pull context next limit with
        ⟨rights, log, used, rfl, pulled⟩ | ⟨pulls, _, report, stops⟩
      · exact undecided pulled
      · exact absurd ⟨pulls, report, stops⟩ decided

theorem listPulls (elements : List (Act κ ν (Either L R))) : ListPulls elements where
  collects _ enough := collectList elements enough
  stops := sequenceStops elements

theorem notesPulls {source : Nat → Option (Either L R)} {rights : List R} {limit : Nat}
    (context : κ) (next : Nat) (front : ∀ position (inside : position < rights.length),
      source position = some (.right rights[position])) (enough : rights.length < limit) :
    NotesPulls source rights limit context next where
  left value first := by
    refine collectDecided (notedLeft context next (fun position inside => ?_) ?_) enough
    · rw [front position inside]
    · rw [first]
  ended last := by
    have pulled := notedFront (fun position => noted position (source position)) context next
      (rights.map .right) fun position inside => by
        rw [front position (by simpa using inside), List.getElem_map]
    rw [List.length_map] at pulled
    have ended : (noted (κ := κ) rights.length (source rights.length)).run context (next + 0) =
        ⟨[.note rights.length], 0, .ok none⟩ := by rw [last, notedRun]
    have decided := collectDecided (.ended pulled ended) enough
    rw [notes, List.range_succ, List.map_append]
    exact decided

theorem notesElements (L : Type) (rights : List R) (context : κ) (next : Nat) :
    NotesElements L rights context next where
  left value behind := by
    refine sequenceRun (notedLeft context next (fun position inside => ?_) ?_)
    · exact countedPulls (by simp [List.getElem?_append, inside])
    · exact countedPulls (by simp)
  ended := by
    have pulled := notedFront (Act.pullsOf
      (counted (κ := κ) (rights.map (.right : R → Either L R))))
      context next (rights.map .right) fun position inside =>
        countedPulls (List.getElem?_eq_getElem inside)
    rw [List.length_map] at pulled
    have ended : (Act.pullsOf (counted (κ := κ) (rights.map (.right : R → Either L R)))
        rights.length).run context (next + 0) = ⟨[], 0, .ok none⟩ := by
      simp [Act.pullsOf, counted, Act.runPure]
    have decided := sequenceRun (.ended pulled ended)
    rwa [List.append_nil] at decided

structure PullsExact (κ ν L R : Type) : Prop where
  decides : ∀ (pull : Nat → Act κ ν (Option (Either L R))) (context : κ) (next : Nat),
    PullsDecide pull context next
  lists : ∀ elements : List (Act κ ν (Either L R)), ListPulls elements
  sources : ∀ (source : Nat → Option (Either L R)) (rights : List R) (limit : Nat) (context : κ)
    (next : Nat), (∀ position (inside : position < rights.length),
      source position = some (.right rights[position])) → rights.length < limit →
      NotesPulls source rights limit context next
  elements : ∀ (rights : List R) (context : κ) (next : Nat), NotesElements L rights context next

theorem pullsExact (κ ν L R : Type) : PullsExact κ ν L R where
  decides := pullsDecide
  lists := listPulls
  sources _ _ _ context next := notesPulls context next
  elements := notesElements L

end Either

end OutcomeAlgebra
