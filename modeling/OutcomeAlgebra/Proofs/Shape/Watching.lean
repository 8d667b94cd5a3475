import OutcomeAlgebra.Proofs.Shape.Looking
/-! Values that are compared, copied and looked at in any order, each time in a state of its
own. Whatever is left to evaluate is decided by the first look that goes so far; one choice of
trees explains every answer, those from before a computation ran as well as those from after. -/
namespace OutcomeAlgebra

variable {κ ν α β γ : Type}

inductive Sighting where
  | equal (left right : Nat) (answer : Bool)
  | copied (source place : Nat)
  | looked (place : Nat)

structure Consistent (sightings : List Sighting) : Prop where
  reflexive : ∀ i answer, .equal i i answer ∈ sightings → answer = true
  symmetric : ∀ i j answer back,
    .equal i j answer ∈ sightings → .equal j i back ∈ sightings → answer = back
  transitive : ∀ i j k answer, .equal i j true ∈ sightings → .equal j k true ∈ sightings →
    .equal i k answer ∈ sightings → answer = true
  repeated : ∀ i j answer again,
    .equal i j answer ∈ sightings → .equal i j again ∈ sightings → answer = again

def CopiesEqual (sightings : List Sighting) : Prop :=
  ∀ source place answer, .copied source place ∈ sightings →
    .equal source place answer ∈ sightings ∨ .equal place source answer ∈ sightings → answer = true

namespace Shape

inductive Sees (shape : Shape κ ν α) : List α → Sighting → List α → Prop where
  | equal {store : List α} {i j next : Nat} {context : κ} {a b left right : α} {answer : Bool}
      (apart : i ≠ j) (first : store[i]? = some a) (second : store[j]? = some b)
      (ran : ((shape.equal a b).run context next).ending = .ok (.ok answer, left, right)) :
      Sees shape store (.equal i j answer) ((store.set i left).set j right)
  | equalSelf {store : List α} {i next : Nat} {context : κ} {a after : α} {answer : Bool}
      (held : store[i]? = some a)
      (ran : ((shape.equalSelf a).run context next).ending = .ok (.ok answer, after)) :
      Sees shape store (.equal i i answer) (store.set i after)
  | copied {store : List α} {i next : Nat} {context : κ} {a clone after : α}
      (held : store[i]? = some a)
      (ran : ((shape.copy a).run context next).ending = .ok (.ok clone, after)) :
      Sees shape store (.copied i store.length) (store.set i after ++ [clone])
  | looked {store : List α} {i next : Nat} {context : κ} {a after : α} {β : Type}
      {ending : Except Panic β} (look : Look shape β) (held : store[i]? = some a)
      (ran : ((look.sight a).run context next).ending = .ok (ending, after)) :
      Sees shape store (.looked i) (store.set i after)

inductive Watches (shape : Shape κ ν α) : List α → List Sighting → List α → Prop where
  | nothing (store : List α) : Watches shape store [] store
  | further {store between final : List α} {sighting : Sighting} {sightings : List Sighting}
      (sees : shape.Sees store sighting between) (rest : shape.Watches between sightings final) :
      Watches shape store (sighting :: sightings) final

def Fits (shape : Shape κ ν α) (store : List α) (trees : List shape.Tree) : Prop :=
  ∀ (i : Nat) (value : α), store[i]? = some value →
    ∃ tree, trees[i]? = some tree ∧ shape.Holds value tree

def Explains (shape : Shape κ ν α) (trees : List shape.Tree) : Sighting → Prop
  | .equal i j answer => ∃ p q, trees[i]? = some p ∧ trees[j]? = some q ∧ answer = shape.same p q
  | .copied source place =>
    ∃ tree, trees[source]? = some tree ∧ trees[place]? = some (shape.duplicate tree)
  | .looked _ => True

section Stores

variable {shape : Shape κ ν α} {store : List α} {trees : List shape.Tree} {i : Nat}

theorem fitsSet {before after : α} (held : store[i]? = some before)
    (refines : shape.Refines before after) (fits : shape.Fits (store.set i after) trees) :
    shape.Fits store trees ∧ ∃ tree, trees[i]? = some tree ∧ shape.Holds after tree := by
  have inside : i < store.length := by
    obtain ⟨inside, _⟩ := List.getElem?_eq_some_iff.mp held
    exact inside
  obtain ⟨tree, placed, holds⟩ := fits i after (List.getElem?_set_self inside)
  refine ⟨fun j value found => ?_, tree, placed, holds⟩
  by_cases same : i = j
  · subst same
    rw [held] at found
    cases found
    exact ⟨tree, placed, refines tree holds⟩
  · rw [← List.getElem?_set_ne same] at found
    exact fits j value found

theorem fitsAppend {clone : α} (fits : shape.Fits (store ++ [clone]) trees) :
    shape.Fits store trees ∧
      ∃ tree, trees[store.length]? = some tree ∧ shape.Holds clone tree := by
  refine ⟨fun j value found => ?_, fits store.length clone List.getElem?_concat_length⟩
  have inside : j < store.length := by
    obtain ⟨inside, _⟩ := List.getElem?_eq_some_iff.mp found
    exact inside
  rw [← List.getElem?_append_left inside] at found
  exact fits j value found

theorem fitsSome (context : κ) (returns : ∀ value ∈ store, shape.Returns value) :
    ∃ trees, shape.Fits store trees := by
  induction store with
  | nil => exact ⟨[], nofun⟩
  | cons value store ih =>
    obtain ⟨first, others⟩ := List.forall_mem_cons.mp returns
    obtain ⟨tree, holds⟩ := holdsSome context first
    obtain ⟨trees, fits⟩ := ih others
    refine ⟨tree :: trees, fun i held found => ?_⟩
    cases i with
    | zero =>
      cases found
      exact ⟨tree, rfl, holds⟩
    | succ i => exact fits i held found

theorem returnsSet {after : α} (returns : ∀ value ∈ store, shape.Returns value)
    (later : shape.Returns after) : ∀ value ∈ store.set i after, shape.Returns value := by
  intro value member
  rcases List.mem_or_eq_of_mem_set member with there | rfl
  · exact returns value there
  · exact later

theorem returnsPlace {value : α} (returns : ∀ value ∈ store, shape.Returns value)
    (held : store[i]? = some value) : shape.Returns value :=
  returns value (List.mem_of_getElem? held)

end Stores

section Explaining

variable {shape : Shape κ ν α} {store between final : List α} {sighting : Sighting}
  {sightings : List Sighting}

theorem seesExplained (lawful : shape.Lawful) (returns : ∀ value ∈ store, shape.Returns value)
    (sees : shape.Sees store sighting between) :
    (∀ value ∈ between, shape.Returns value) ∧
      ∀ trees, shape.Fits between trees →
        shape.Fits store trees ∧ shape.Explains trees sighting := by
  cases sees with
  | @equal i j next context a b left right answer apart first second ran =>
    have firstReturns := returnsPlace returns first
    have secondReturns := returnsPlace returns second
    obtain ⟨found, compares⟩ := comparesSome context firstReturns secondReturns next
    rw [comparesRun context shape next a b found compares] at ran
    cases ran
    obtain ⟨leftReturns, rightReturns⟩ := comparesReturns compares firstReturns secondReturns
    have came := comparesDecide context shape next a b found compares
    refine ⟨returnsSet (returnsSet returns leftReturns) rightReturns, fun trees fits => ?_⟩
    have there : (store.set i found.left)[j]? = some b := by
      rw [List.getElem?_set_ne apart]
      exact second
    obtain ⟨fits, q, placedRight, holdsRight⟩ := fitsSet there came.right fits
    obtain ⟨fits, p, placedLeft, holdsLeft⟩ := fitsSet first came.left fits
    exact ⟨fits, p, q, placedLeft, placedRight, came.answer p q holdsLeft holdsRight⟩
  | @equalSelf i next context a after answer held ran =>
    obtain ⟨found, settles⟩ := settlesSome context (returnsPlace returns held) next
    rw [equalSelfRuns context lawful next a found settles] at ran
    cases ran
    obtain ⟨evaluated, _, refines, _⟩ := settlesReached settles
    refine ⟨returnsSet returns (evaluatedReturns evaluated), fun trees fits => ?_⟩
    obtain ⟨fits, tree, placed, _⟩ := fitsSet held refines fits
    exact ⟨fits, tree, tree, placed, placed, ((sameEquates lawful).refl tree).symm⟩
  | @copied i next context a clone after held ran =>
    obtain ⟨found, settles⟩ := settlesSome context (returnsPlace returns held) next
    rw [copyRuns context shape next a found settles] at ran
    cases ran
    obtain ⟨evaluated, holds, refines, _⟩ := settlesReached settles
    have copied := evaluatedEager shape (shape.duplicate found.tree)
    refine ⟨?_, fun trees fits => ?_⟩
    · intro value member
      rcases List.mem_append.mp member with there | added
      · exact returnsSet returns (evaluatedReturns evaluated) value there
      · cases List.mem_singleton.mp added
        exact evaluatedReturns copied
    · obtain ⟨fits, other, placedCopy, holdsCopy⟩ := fitsAppend fits
      obtain ⟨fits, tree, placed, holdsTree⟩ := fitsSet held refines fits
      have same := evaluatedOne evaluated holds holdsTree
      have sameCopy := evaluatedOne copied (holdsEager context shape _) holdsCopy
      rw [List.length_set] at placedCopy
      subst same
      subst sameCopy
      exact ⟨fits, found.tree, placed, placedCopy⟩
  | looked look held ran =>
    obtain ⟨later, refines⟩ := lookGentle look lawful _ (returnsPlace returns held) _ _ _ _ ran
    refine ⟨returnsSet returns later, fun trees fits => ?_⟩
    obtain ⟨fits, _⟩ := fitsSet held refines fits
    exact ⟨fits, trivial⟩

theorem watchesExplained (lawful : shape.Lawful) (returns : ∀ value ∈ store, shape.Returns value)
    (watches : shape.Watches store sightings final) :
    (∀ value ∈ final, shape.Returns value) ∧
      ∀ trees, shape.Fits final trees →
        shape.Fits store trees ∧ ∀ sighting ∈ sightings, shape.Explains trees sighting := by
  -- Trees that fit the final values are carried back, step by step, to the first ones.
  induction watches with
  | nothing store => exact ⟨returns, fun trees fits => ⟨fits, nofun⟩⟩
  | further sees rest ih =>
    obtain ⟨between, first⟩ := seesExplained lawful returns sees
    obtain ⟨later, others⟩ := ih between
    refine ⟨later, fun trees fits => ?_⟩
    obtain ⟨fits, explained⟩ := others trees fits
    obtain ⟨fits, explains⟩ := first trees fits
    exact ⟨fits, List.forall_mem_cons.mpr ⟨explains, explained⟩⟩

theorem explainedConsistent (lawful : shape.Lawful) {trees : List shape.Tree}
    (explained : ∀ sighting ∈ sightings, shape.Explains trees sighting) : Consistent sightings where
  reflexive i answer seen := by
    obtain ⟨p, q, first, second, decided⟩ := explained _ seen
    rw [first] at second
    cases second
    exact decided.trans ((sameEquates lawful).refl p)
  symmetric i j answer back seen seenBack := by
    obtain ⟨p, q, first, second, decided⟩ := explained _ seen
    obtain ⟨r, s, third, fourth, decidedBack⟩ := explained _ seenBack
    rw [second] at third
    rw [first] at fourth
    cases third
    cases fourth
    rw [decided, decidedBack, Bool.eq_iff_iff]
    exact ⟨(sameEquates lawful).symm, (sameEquates lawful).symm⟩
  transitive i j k answer seen seenNext seenWhole := by
    obtain ⟨p, q, first, second, decided⟩ := explained _ seen
    obtain ⟨r, s, third, fourth, decidedNext⟩ := explained _ seenNext
    obtain ⟨t, u, fifth, sixth, decidedWhole⟩ := explained _ seenWhole
    rw [second] at third
    rw [first] at fifth
    rw [fourth] at sixth
    cases third
    cases fifth
    cases sixth
    exact decidedWhole.trans ((sameEquates lawful).trans decided.symm decidedNext.symm)
  repeated i j answer again seen seenAgain := by
    obtain ⟨p, q, first, second, decided⟩ := explained _ seen
    obtain ⟨r, s, third, fourth, decidedAgain⟩ := explained _ seenAgain
    rw [first] at third
    rw [second] at fourth
    cases third
    cases fourth
    exact decided.trans decidedAgain.symm

theorem explainedCopies (lawful : shape.Lawful) (faithful : shape.Faithful)
    {trees : List shape.Tree} (explained : ∀ sighting ∈ sightings, shape.Explains trees sighting) :
    CopiesEqual sightings := by
  intro source place answer copied seen
  obtain ⟨tree, held, placed⟩ := explained _ copied
  have alike := duplicateSame faithful tree
  rcases seen with seen | seen
  · obtain ⟨p, q, first, second, decided⟩ := explained _ seen
    rw [held] at first
    rw [placed] at second
    cases first
    cases second
    exact decided.trans alike
  · obtain ⟨p, q, first, second, decided⟩ := explained _ seen
    rw [placed] at first
    rw [held] at second
    cases first
    cases second
    exact decided.trans ((sameEquates lawful).symm alike)

end Explaining

end Shape

end OutcomeAlgebra
