import Mathlib.Algebra.BigOperators.Group.List.Basic
import OutcomeAlgebra.Algebra.Monoid
import OutcomeAlgebra.Proofs.Act.Run
/-! Operations read in a monoid. Values stand for elements of it, and combining two of them
comes to a value that stands for the product. All that is derived from the operation can
then be read off: a fold is the product of a list, and a repetition is a power. What a
program comes to is said in one of three ways: it is that value, or it returns it in any run,
whatever else it does, or what comes of it is that value if anything comes of it. -/
namespace OutcomeAlgebra

/- A way to say what a program comes to, that goes through binding. -/
structure Verdict (m : Type → Type) [Monad m] where
  comes : {α : Type} → m α → (α → Prop) → Prop
  ofPure : ∀ {α : Type} {value : α} {holds : α → Prop}, holds value → comes (pure value) holds
  ofBind : ∀ {α β : Type} {act : m α} {rest : α → m β} {between : α → Prop} {holds : β → Prop},
    comes act between → (∀ value, between value → comes (rest value) holds) →
      comes (act >>= rest) holds

namespace Verdict

variable {m : Type → Type} [Monad m] [LawfulMonad m] {κ ν α : Type}

def exact : Verdict m where
  comes act holds := ∃ value, act = pure value ∧ holds value
  ofPure held := ⟨_, rfl, held⟩
  ofBind := by
    rintro α β act rest between holds ⟨value, rfl, held⟩ further
    rw [pure_bind]
    exact further value held

def everyRun : Verdict (Act κ ν) where
  comes act holds := ∀ context next, ∃ value,
    (act.run context next).ending = .ok value ∧ holds value
  ofPure held _ _ := ⟨_, rfl, held⟩
  ofBind first further context next := by
    obtain ⟨between, ended, held⟩ := first context next
    rw [Act.runBindEnding ended]
    exact further between held context _

def certain : Verdict m where
  comes {α} act holds := ∀ (β : Type) (f g : α → m β),
    (∀ value, holds value → f value = g value) → act >>= f = act >>= g
  ofPure held _ _ _ same := by rw [pure_bind, pure_bind, same _ held]
  ofBind first further _ _ _ same := by
    rw [bind_assoc, bind_assoc]
    exact first _ _ _ fun between held => further between held _ _ _ same

theorem weaken (verdict : Verdict m) {act : m α} {strong weak : α → Prop}
    (comes : verdict.comes act strong) (weaker : ∀ value, strong value → weak value) :
    verdict.comes act weak := by
  have same := verdict.ofBind comes fun value held => verdict.ofPure (weaker value held)
  rwa [bind_pure] at same

end Verdict

theorem intersperseCons {M : Type} (separator first : M) (rest : List M) :
    (first :: rest).intersperse separator = first :: rest.flatMap fun y => [separator, y] := by
  induction rest generalizing first with
  | nil => rfl
  | cons second rest ih =>
    rw [List.intersperse_cons_cons, ih second]
    rfl

section Products

variable {m : Type → Type} [Monad m] {α M : Type} [Monoid M]

def SemigroupOp.Multiplies (op : SemigroupOp m α) (verdict : Verdict m) (stands : α → M → Prop) :
    Prop :=
  ∀ {a b x y}, stands a x → stands b y → verdict.comes (op.append a b) fun c => stands c (x * y)

def Copying.Keeps (copy : Copying m α) (verdict : Verdict m) (stands : α → M → Prop) : Prop :=
  ∀ {a x}, stands a x → verdict.comes (copy a) fun both => stands both.1 x ∧ stands both.2 x

variable {op : SemigroupOp m α} {copy : Copying m α} {verdict : Verdict m} {stands : α → M → Prop}

theorem foldReads (multiplies : op.Multiplies verdict stands) {start : α} {x : M} {values : List α}
    {ys : List M} (first : stands start x) (rest : List.Forall₂ stands values ys) :
    verdict.comes (values.foldlM op.append start) fun result => stands result (x * ys.prod) := by
  induction rest generalizing start x with
  | nil =>
    rw [List.prod_nil, mul_one]
    exact verdict.ofPure first
  | cons head tail ih =>
    rw [List.foldlM_cons, List.prod_cons, ← mul_assoc]
    exact verdict.ofBind (multiplies first head) fun combined held => ih held

theorem joinReads (multiplies : op.Multiplies verdict stands) {empty : m α}
    (made : verdict.comes empty fun value => stands value 1) {values : List α} {ys : List M}
    (all : List.Forall₂ stands values ys) :
    verdict.comes (MonoidOp.foldJoin op empty values) fun result => stands result ys.prod := by
  refine verdict.ofBind made fun start held => ?_
  have folded := foldReads multiplies held all
  rwa [one_mul] at folded

theorem copiesRead (multiplies : op.Multiplies verdict stands) (keeps : copy.Keeps verdict stands)
    {value result : α} {x y : M} (given : stands value x) (started : stands result y)
    (count : Nat) :
    verdict.comes (op.appendCopies copy value count result) fun made =>
      stands made (y * x ^ count) := by
  induction count generalizing value result y with
  | zero =>
    rw [pow_zero, mul_one]
    exact verdict.ofPure started
  | succ count ih =>
    rw [pow_succ', ← mul_assoc]
    refine verdict.ofBind (keeps given) fun both held => ?_
    refine verdict.ofBind (multiplies started held.1) fun combined further => ?_
    exact ih held.2 further

theorem separatedReads (multiplies : op.Multiplies verdict stands)
    (keeps : copy.Keeps verdict stands) {separator result : α} {s x : M}
    (given : stands separator s) (started : stands result x) {values : List α} {ys : List M}
    (all : List.Forall₂ stands values ys) :
    verdict.comes (MonoidOp.appendSeparated op copy values separator result) fun made =>
      stands made (x * (ys.flatMap fun y => [s, y]).prod) := by
  induction all generalizing separator result x with
  | nil =>
    rw [List.flatMap_nil, List.prod_nil, mul_one]
    exact verdict.ofPure started
  | @cons value y values ys head tail ih =>
    have unfolded : ((y :: ys).flatMap fun y => [s, y]).prod =
        s * y * (ys.flatMap fun y => [s, y]).prod := by simp [mul_assoc]
    rw [unfolded, ← mul_assoc, ← mul_assoc]
    refine verdict.ofBind (keeps given) fun both held => ?_
    refine verdict.ofBind (multiplies started held.1) fun between further => ?_
    exact verdict.ofBind (multiplies further head) fun made last => ih held.2 last

section Repetition

variable [MonadExceptOf Panic m]

theorem appendNReads (multiplies : op.Multiplies verdict stands) (keeps : copy.Keeps verdict stands)
    {value : α} {x : M} (given : stands value x) {count : Nat} (positive : 0 < count) :
    verdict.comes (op.appendN copy value count) fun result => stands result (x ^ count) := by
  cases count with
  | zero => omega
  | succ count =>
    rw [pow_succ']
    exact verdict.ofBind (keeps given) fun both held =>
      copiesRead multiplies keeps held.2 held.1 count

end Repetition

section Identity

variable {monoid : MonoidOp m α}

theorem multiplyReads [MonadExceptOf Panic m]
    (multiplies : monoid.toSemigroupOp.Multiplies verdict stands)
    (keeps : copy.Keeps verdict stands)
    (made : verdict.comes monoid.empty fun value => stands value 1) {value : α} {x : M}
    (given : stands value x) (count : Nat) :
    verdict.comes (monoid.multiply copy value count) fun result => stands result (x ^ count) := by
  by_cases none : count = 0
  · simpa [MonoidOp.multiply, none] using made
  · rw [MonoidOp.multiply, if_neg none]
    exact appendNReads multiplies keeps given (Nat.pos_of_ne_zero none)

theorem betweenReads (multiplies : monoid.toSemigroupOp.Multiplies verdict stands)
    (keeps : copy.Keeps verdict stands) {separator first : α} {s x : M}
    (given : stands separator s) (head : stands first x) {rest : List α} {xs : List M}
    (tail : List.Forall₂ stands rest xs) :
    verdict.comes (monoid.intersperse copy separator (first :: rest)) fun result =>
      stands result ((x :: xs).intersperse s).prod := by
  rw [intersperseCons, List.prod_cons]
  exact separatedReads multiplies keeps given head tail

theorem intersperseReads (multiplies : monoid.toSemigroupOp.Multiplies verdict stands)
    (keeps : copy.Keeps verdict stands)
    (made : verdict.comes monoid.empty fun value => stands value 1) {separator : α} {s : M}
    (given : stands separator s) {values : List α} {ys : List M}
    (all : List.Forall₂ stands values ys) :
    verdict.comes (monoid.intersperse copy separator values) fun result =>
      stands result (ys.intersperse s).prod := by
  cases all with
  | nil => exact made
  | cons head tail => exact betweenReads multiplies keeps given head tail

end Identity

end Products

end OutcomeAlgebra
