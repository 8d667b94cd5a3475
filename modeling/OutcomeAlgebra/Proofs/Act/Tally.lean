import OutcomeAlgebra.Proofs.Try.Starting
/-! A run with only its starts left in the log. Delayed computations write their name
when they start, beside whatever notes there are; a tally keeps the names, in order,
and everything but the log as it was. It goes through binding, so the tally of a
program is put together from the tallies of its parts. -/
namespace OutcomeAlgebra

variable {κ ν μ α β : Type}

def Entry.started? : Entry (ν ⊕ Nat) → Option (Entry Nat)
  | .note (.inr name) => some (.note name)
  | _ => none

namespace Act

def plain (act : Act κ ν α) : Act κ (ν ⊕ Nat) α := act.renote .inl

def tally (act : Act κ (ν ⊕ Nat) α) : Act κ Nat α := fun context next =>
  let report := act.run context next
  ⟨report.log.filterMap Entry.started?, report.used, report.ending⟩

def silent (act : Act κ ν α) : Act κ Nat α := fun context next =>
  let report := act.run context next
  ⟨[], report.used, report.ending⟩

def filtered (kept : Entry ν → Option (Entry μ)) (act : Act κ ν α) : Act κ μ α :=
  fun context next =>
    let report := act.run context next
    ⟨report.log.filterMap kept, report.used, report.ending⟩

theorem filteredBind (kept : Entry ν → Option (Entry μ)) (act : Act κ ν α)
    (rest : α → Act κ ν β) :
    (act >>= rest).filtered kept =
      act.filtered kept >>= fun value => (rest value).filtered kept := by
  funext context next
  show filtered kept (act >>= rest) context next =
    follow context next (act.filtered kept context next) _
  cases ran : act.run context next with
  | mk log used ending =>
    cases ending with
    | error panic => simp [filtered, follow, runBindError ran, ran]
    | ok value =>
      simp only [filtered, follow, runBindOk ran, ran, Report.behind, List.filterMap_append]

theorem tallyPure (value : α) : (pure value : Act κ (ν ⊕ Nat) α).tally = pure value := rfl

theorem tallyBind (act : Act κ (ν ⊕ Nat) α) (rest : α → Act κ (ν ⊕ Nat) β) :
    (act >>= rest).tally = act.tally >>= fun value => (rest value).tally :=
  filteredBind Entry.started? act rest

theorem tallyMap (f : α → β) (act : Act κ (ν ⊕ Nat) α) : (f <$> act).tally = f <$> act.tally := by
  rw [map_eq_pure_bind, map_eq_pure_bind, tallyBind]
  rfl

theorem tallyEmit (event : Event) : (Act.emit event : Act κ (ν ⊕ Nat) Unit).tally = pure () := rfl

theorem tallyName (name : Nat) :
    (Act.note (.inr name) : Act κ (ν ⊕ Nat) Unit).tally = Act.note name := rfl

theorem tallyPlain (act : Act κ ν α) : act.plain.tally = act.silent := by
  funext context next
  have unnamed : ∀ entry ∈ (act.run context next).log.map (Entry.renote (.inl : ν → ν ⊕ Nat)),
      entry.started? = none := by
    intro entry member
    obtain ⟨original, _, rfl⟩ := List.mem_map.mp member
    cases original <;> rfl
  show (⟨_, _, _⟩ : Report Nat α) = ⟨_, _, _⟩
  exact congrArg (Report.mk · _ _) (List.filterMap_eq_nil_iff.mpr unnamed)

theorem silentFilters (act : Act κ ν α) : act.silent = act.filtered fun _ => none := by
  funext context next
  simp [silent, filtered]

theorem silentBind (act : Act κ ν α) (rest : α → Act κ ν β) :
    (act >>= rest).silent = act.silent >>= fun value => (rest value).silent := by
  simp only [silentFilters]
  exact filteredBind (fun _ => none) act rest

theorem silentMap (f : α → β) (act : Act κ ν α) : (f <$> act).silent = f <$> act.silent := by
  rw [map_eq_pure_bind, map_eq_pure_bind, silentBind]
  rfl

end Act

def Borrow.plain {τ : Type} (borrow : Borrow κ ν τ β) : Borrow κ (ν ⊕ Nat) τ β :=
  fun owner => (borrow owner).plain

end OutcomeAlgebra
