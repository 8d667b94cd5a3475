import OutcomeAlgebra.Act.Borrow
import OutcomeAlgebra.Proofs.Act.Code
/-! Uses of values that stay with their owner. A use hands back what it has borrowed, also
when it panics, and leaves no event unaccounted for. Often it needs something computed
first; where that panics, the use panics with it and leaves a spoiled value behind. -/
namespace OutcomeAlgebra

variable {κ ν α β γ τ σ : Type}

def Phase.behind (pulls : List Nat) : Except Panic β → Phase
  | .ok _ => .running pulls
  | .error panic => .broken panic

namespace Act

structure Lends (act : Act κ (ν ⊕ Mark) (Except Panic β × τ)) : Prop where
  ends : act.Ends
  moves (pulls : List Nat) : act.Moves (.running pulls) fun looked phase =>
    phase = .behind pulls looked.1

theorem lendsPure (answer : β) (owner : τ) :
    (pure (.ok answer, owner) : Act κ (ν ⊕ Mark) (Except Panic β × τ)).Lends where
  ends := endsPure _
  moves _ := movesPure rfl

theorem Lends.reads {act : Act κ (ν ⊕ Mark) (Except Panic β × τ)} (lends : act.Lends)
    (pulls : List Nat) (context : κ) (next : Nat) :
    ∃ log used ending kept, act.run context next = ⟨log, used, .ok (ending, kept)⟩ ∧
      audit (.running pulls) log = some (.behind pulls ending) := by
  obtain ⟨looked, ended⟩ := lends.ends context next
  have moved := lends.moves pulls context next
  cases ran : act.run context next with
  | mk log used ending =>
    rw [ran] at ended moved
    cases ended
    obtain ⟨phase, read, there⟩ := moved
    rw [there] at read
    exact ⟨log, used, looked.1, looked.2, rfl, read⟩

theorem Lends.within {part : Act κ (ν ⊕ Mark) (Except Panic β × τ)} (lends : part.Lends)
    (whole : τ → σ) (answer : β → γ) : (Borrow.within whole answer part).Lends where
  ends := lends.ends.bind fun looked => by
    rcases looked with ⟨panic | value, owner⟩ <;> exact endsPure _
  moves pulls := (lends.moves pulls).bind fun looked phase there => by
    rcases looked with ⟨panic | value, owner⟩ <;> exact movesPure there

/- Goes on with what a computation ends in; where that is a panic, leaves `spoiled`. -/
def trying (act : Act κ ν α) (spoiled : τ) (rest : α → Act κ ν (Except Panic β × τ)) :
    Act κ ν (Except Panic β × τ) := do
  match ← act.ending with
  | .ok value => rest value
  | .error panic => pure (.error panic, spoiled)

theorem endingMoves {act : Act κ (ν ⊕ Mark) α} {holds : α → Prop} (minds : act.Minds holds)
    (pulls : List Nat) :
    act.ending.Moves (.running pulls) fun ending phase => phase = .behind pulls ending := by
  intro context next
  have moved := minds pulls context next
  cases ran : act.run context next with
  | mk log used ending =>
    rw [ran] at moved
    rw [runEnding ran]
    cases ending with
    | error panic => exact ⟨_, moved, rfl⟩
    | ok value =>
      obtain ⟨phase, read, there, _⟩ := moved
      exact ⟨phase, read, there⟩

theorem Minds.trying {act : Act κ (ν ⊕ Mark) α} {holds : α → Prop} (minds : act.Minds holds)
    (spoiled : τ) {rest : α → Act κ (ν ⊕ Mark) (Except Panic β × τ)}
    (lends : ∀ value, (rest value).Lends) : (act.trying spoiled rest).Lends where
  ends := (endsEnding act).bind fun ending => by
    cases ending with
    | error panic => exact endsPure _
    | ok value => exact (lends value).ends
  moves pulls := (endingMoves minds pulls).bind fun ending phase there => by
    rw [there]
    cases ending with
    | error panic => exact movesPure rfl
    | ok value => exact (lends value).moves pulls

def Upholds (holds : β → Prop) (sound : τ → Prop) (looked : Except Panic β × τ) : Prop :=
  (∀ answer, looked.1 = .ok answer → holds answer) ∧ sound looked.2

section Upholding

variable {holds : β → Prop} {sound : τ → Prop}

theorem upholdsNothing (act : Act κ ν (Except Panic β × τ)) :
    act.Gives (Upholds (fun _ => True) fun _ => True) :=
  fun _ _ _ _ => ⟨fun _ _ => trivial, trivial⟩

theorem upholdsPure {answer : β} {owner : τ} (held : holds answer) (kept : sound owner) :
    (pure (.ok answer, owner) : Act κ ν (Except Panic β × τ)).Gives (Upholds holds sound) := by
  rintro context next _ ⟨⟩
  exact ⟨by rintro _ ⟨⟩; exact held, kept⟩

theorem upholdsWithin {part : Act κ ν (Except Panic β × τ)} {after : γ → Prop} {whole : τ → σ}
    {answer : β → γ} {keeps : σ → Prop} (gives : part.Gives (Upholds holds sound))
    (held : ∀ value, holds value → after (answer value)) (kept : ∀ owner, keeps (whole owner)) :
    (Borrow.within whole answer part).Gives (Upholds after keeps) := by
  intro context next looked ended
  obtain ⟨⟨ending, owner⟩, first, last⟩ := runBindEnds _ ended
  have upholds := gives context next _ first
  cases ending with
  | error panic =>
    cases last
    exact ⟨nofun, kept owner⟩
  | ok value =>
    cases last
    exact ⟨by rintro _ ⟨⟩; exact held value (upholds.1 value rfl), kept owner⟩

theorem upholdsTrying {act : Act κ ν α} {spoiled : τ} {rest : α → Act κ ν (Except Panic β × τ)}
    (spoils : sound spoiled) (gives : ∀ value, (rest value).Gives (Upholds holds sound)) :
    (act.trying spoiled rest).Gives (Upholds holds sound) := by
  intro context next looked ended
  obtain ⟨ending, _, last⟩ := runBindEnds _ ended
  cases ending with
  | error panic =>
    cases last
    exact ⟨nofun, spoils⟩
  | ok value => exact gives value _ _ looked last

end Upholding

theorem withinBreaks {part : Act κ ν (Except Panic β × τ)} {whole : τ → σ} {answer : β → γ}
    {after : σ} {context : κ} {next : Nat} {panic : Panic}
    (ended : ((Borrow.within whole answer part).run context next).ending =
      .ok (.error panic, after)) :
    ∃ kept, (part.run context next).ending = .ok (.error panic, kept) ∧ after = whole kept := by
  obtain ⟨⟨ending, owner⟩, first, last⟩ := runBindEnds _ ended
  cases ending with
  | error raised =>
    cases last
    exact ⟨owner, first, rfl⟩
  | ok value => cases last

theorem tryingBreaks {act : Act κ ν α} {spoiled after : τ}
    {rest : α → Act κ ν (Except Panic β × τ)} {context : κ} {next : Nat} {panic : Panic}
    (ended : ((act.trying spoiled rest).run context next).ending = .ok (.error panic, after)) :
    (act.run context next).ending = .error panic ∧ after = spoiled ∨
    ∃ value, (act.run context next).ending = .ok value ∧
      ((rest value).run context (next + (act.run context next).used)).ending =
        .ok (.error panic, after) := by
  cases ran : act.run context next with
  | mk log used ending =>
    rw [trying, runBindOk (runEnding ran)] at ended
    cases ending with
    | error raised =>
      cases ended
      exact .inl ⟨rfl, rfl⟩
    | ok value => exact .inr ⟨value, rfl, ended⟩

end Act

structure Lent (κ ν τ β : Type) where
  look : Borrow κ (ν ⊕ Mark) τ β
  lends (value : τ) : (look value).Lends

namespace Lent

def user (look : Borrow κ ν τ β) (ends : ∀ value, Act.Ends (look value)) : Lent κ ν τ β where
  look value := do
    match ← Act.watched (look value) with
    | (.ok answer, owner) => pure (.ok answer, owner)
    | (.error panic, owner) => do
      Act.note (.inr (.panicked panic))
      pure (.error panic, owner)
  lends value := {
    ends := (Act.endsWatched (ends value)).bind fun looked => by
      rcases looked with ⟨panic | answer, owner⟩
      · exact Act.Ends.bind (fun _ _ => ⟨(), rfl⟩) fun _ => Act.endsPure _
      · exact Act.endsPure _
    moves := fun pulls => (Act.watchedMinds (look value) pulls).bind fun looked phase there => by
      rw [there.1]
      rcases looked with ⟨panic | answer, owner⟩
      · exact Act.movesThen rfl (Act.movesPure rfl)
      · exact Act.movesPure rfl }

def peek (f : τ → β) : Lent κ ν τ β :=
  ⟨fun value => pure (.ok (f value), value), fun _ => Act.lendsPure _ _⟩

def along (part : σ → τ) (whole : τ → σ) (lent : Lent κ ν τ β) : Lent κ ν σ β :=
  ⟨fun owner => Borrow.within whole id (lent.look (part owner)),
    fun owner => (lent.lends (part owner)).within whole id⟩

theorem keepMinds (lent : Lent κ ν τ β) (value : τ) :
    (Borrow.keep lent.look value).Minds fun _ => True := by
  intro pulls
  refine ((lent.lends value).moves pulls).bind fun looked phase there => ?_
  rw [there]
  rcases looked with ⟨panic | answer, owner⟩
  · exact Act.movesStop panic _
  · exact Act.movesPure ⟨rfl, trivial⟩

section Sealing

variable {holds : β → Prop} {sound : τ → Prop}

def sealed : {looked : Except Panic β × τ // Act.Upholds holds sound looked} →
    Except Panic {answer // holds answer} × {owner // sound owner}
  | ⟨(.ok answer, owner), upholds⟩ => (.ok ⟨answer, upholds.1 answer rfl⟩, ⟨owner, upholds.2⟩)
  | ⟨(.error panic, owner), upholds⟩ => (.error panic, ⟨owner, upholds.2⟩)

theorem sealedRun {act : Act κ ν (Except Panic β × τ)} (gives : act.Gives (Act.Upholds holds sound))
    {context : κ} {next used : Nat} {log : List (Entry ν)} {looked : Except Panic β × τ}
    (ran : act.run context next = ⟨log, used, .ok looked⟩) :
    ∃ upholds, (sealed <$> act.attach gives).run context next =
      ⟨log, used, .ok (sealed ⟨looked, upholds⟩)⟩ := by
  obtain ⟨upholds, attached⟩ := Act.attachRun gives ran
  refine ⟨upholds, ?_⟩
  rw [Act.runMap, attached]
  rfl

theorem sealedBreaks {act : Act κ ν (Except Panic β × τ)}
    (gives : act.Gives (Act.Upholds holds sound)) {context : κ} {next : Nat} {panic : Panic}
    {kept : {owner // sound owner}}
    (ended : ((sealed <$> act.attach gives).run context next).ending = .ok (.error panic, kept)) :
    (act.run context next).ending = .ok (.error panic, kept.val) := by
  rw [Act.runMap] at ended
  have same : (Subtype.val <$> act.attach gives).run context next = act.run context next :=
    congrArg (fun act => act.run context next) (act.attachVal gives)
  rw [Act.runMap] at same
  rw [← same]
  cases attached : (act.attach gives).run context next with
  | mk log used ending =>
    rw [attached] at ended
    rcases ending with raised | ⟨⟨raised | answer, owner⟩, upholds⟩
    · cases ended
    · cases ended
      rfl
    · cases ended

theorem sealedEnding (looked : {looked : Except Panic β × τ // Act.Upholds holds sound looked})
    (pulls : List Nat) : Phase.behind pulls (sealed looked).1 = .behind pulls looked.val.1 := by
  obtain ⟨⟨ending, owner⟩, upholds⟩ := looked
  cases ending <;> rfl

def sealing (look : Borrow κ (ν ⊕ Mark) τ β)
    (gives : ∀ owner, sound owner → Act.Gives (Act.Upholds holds sound) (look owner))
    (lends : ∀ owner, sound owner → Act.Lends (look owner)) :
    Lent κ ν {owner // sound owner} {answer // holds answer} where
  look owner := sealed <$> Act.attach (look owner.val) (gives owner.val owner.property)
  lends owner := {
    ends := by
      intro context next
      obtain ⟨log, used, ending, kept, ran, _⟩ :=
        (lends owner.val owner.property).reads [] context next
      obtain ⟨upholds, sealedRan⟩ := sealedRun (gives owner.val owner.property) ran
      exact ⟨_, by rw [sealedRan]⟩
    moves := fun pulls => (Act.attachMoves _ ((lends owner.val owner.property).moves pulls)).map
      fun looked phase there => there.trans (sealedEnding looked pulls).symm }

end Sealing

end Lent

end OutcomeAlgebra
