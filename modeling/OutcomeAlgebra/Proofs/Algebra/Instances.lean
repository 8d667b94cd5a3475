import OutcomeAlgebra.Algebra.Accumulate
import OutcomeAlgebra.Algebra.Function
import OutcomeAlgebra.Algebra.Scalar
import OutcomeAlgebra.Proofs.Algebra.Laws
/-! One law for each way of building an operation. What a combinator needs of its
parts stands in its hypotheses: `optional` and the left of `accumulate` need no
identity of their parts. -/
namespace OutcomeAlgebra

variable {m : Type → Type} [Monad m] {α β χ : Type}

section Cases

variable {op : SemigroupOp m α} {firstOp : SemigroupOp m α} {secondOp : SemigroupOp m β}

theorem accumulateLeftRight (a : α) (b : β) :
    (firstOp.accumulate secondOp).append (.left a) (.right b) = pure (.left a) := rfl

theorem accumulateRightLeft (a : β) (b : α) :
    (firstOp.accumulate secondOp).append (.right a) (.left b) = pure (.left b) := rfl

theorem optionalNone (value : Option α) : op.optional.append value none = pure value := by
  cases value <;> rfl

theorem noneOptional (value : Option α) : op.optional.append none value = pure value := rfl

theorem noneIdentity (inner : Comparison α) : IsIdentity inner.option op.optional none where
  clean := trivial
  left := fun {a} clean => ⟨a, noneOptional a, inner.option.sameSelf clean⟩
  right := fun {a} clean => ⟨a, optionalNone a, inner.option.sameSelf clean⟩

theorem identityExact {comparison : Comparison α} {f : α → α → α} {empty : α}
    (clean : comparison.Clean empty) (left : ∀ a, f empty a = a) (right : ∀ a, f a empty = a) :
    IsIdentity comparison (⟨fun a b => pure (f a b)⟩ : SemigroupOp m α) empty where
  clean := clean
  left := fun {a} given => ⟨a, congrArg pure (left a), comparison.sameSelf given⟩
  right := fun {a} given => ⟨a, congrArg pure (right a), comparison.sameSelf given⟩

theorem lawfulByReference {comparison : Comparison α} {monoid : MonoidOp m α}
    (law : LawfulMonoid comparison monoid) : LawfulMonoid comparison monoid.byReference :=
  ⟨law.semigroup, law.identity⟩

end Cases

variable [LawfulMonad m]

theorem LawfulSemigroup.groupings {comparison : Comparison α} {op : SemigroupOp m α}
    (lawful : LawfulSemigroup comparison op) {a b c : α} (first : comparison.Clean a)
    (second : comparison.Clean b) (third : comparison.Clean c) :
    ∃ ab bc l r, op.append a b = pure ab ∧ op.append b c = pure bc ∧
      op.append ab c = pure l ∧ op.append a bc = pure r ∧ comparison.Same l r := by
  obtain ⟨ab, front, _⟩ := lawful.defined first second
  obtain ⟨bc, back, _⟩ := lawful.defined second third
  obtain ⟨l, r, left, right, same⟩ := lawful.associative first second third
  rw [front, pure_bind] at left
  rw [back, pure_bind] at right
  exact ⟨ab, bc, l, r, front, back, left, right, same⟩

theorem lawfulExact {comparison : Comparison α} {f : α → α → α}
    (keeps : ∀ {a b}, comparison.Clean a → comparison.Clean b → comparison.Clean (f a b))
    (associative : ∀ a b c, f (f a b) c = f a (f b c)) :
    LawfulSemigroup comparison (⟨fun a b => pure (f a b)⟩ : SemigroupOp m α) where
  defined := fun {a b} first second => ⟨f a b, rfl, keeps first second⟩
  associative := by
    intro a b c first second third
    have same := comparison.sameSelf (keeps (keeps first second) third)
    refine ⟨f (f a b) c, f a (f b c), pure_bind _ _, pure_bind _ _, ?_⟩
    rwa [← associative a b c]

section Plain

theorem lawfulPlain {f : α → α → α} (associative : ∀ a b c, f (f a b) c = f a (f b c)) :
    LawfulSemigroup (.plain α) (⟨fun a b => pure (f a b)⟩ : SemigroupOp m α) :=
  lawfulExact (fun _ _ => trivial) associative

theorem lawfulOfFunction {f : α → α → α} {identity : α}
    (associative : ∀ a b c, f (f a b) c = f a (f b c)) (left : ∀ a, f identity a = a)
    (right : ∀ a, f a identity = a) :
    LawfulMonoid (.plain α) (MonoidOp.ofFunction (m := m) f identity) where
  semigroup := lawfulPlain associative
  identity := ⟨identity, rfl, identityExact trivial left right⟩

theorem lawfulString : LawfulMonoid (.plain String) (MonoidOp.string (m := m)) where
  semigroup := lawfulPlain fun _ _ _ => String.append_assoc
  identity := ⟨"", rfl, identityExact trivial (fun _ => String.empty_append)
    fun _ => String.append_empty⟩

theorem lawfulList : LawfulMonoid (.plain (List α)) (MonoidOp.list (m := m)) where
  semigroup := lawfulPlain List.append_assoc
  identity := ⟨[], rfl, identityExact trivial List.nil_append List.append_nil⟩

/- An order in which any two values compare, and distinct ones may be equal. -/
structure TotalPreorder (le : α → α → Bool) : Prop where
  total : ∀ a b, le a b = true ∨ le b a = true
  trans : ∀ {a b c}, le a b = true → le b c = true → le a c = true

section Orders

variable {le : α → α → Bool}

theorem TotalPreorder.opposite (order : TotalPreorder le) : TotalPreorder fun a b => le b a where
  total a b := order.total b a
  trans first second := order.trans second first

theorem TotalPreorder.strictTrans (order : TotalPreorder le) {a b c : α}
    (first : le a b = false) (second : le b c = false) : le a c = false := by
  have back : le b a = true := (order.total a b).resolve_left (by simp [first])
  cases whole : le a c with
  | false => rfl
  | true => exact absurd (order.trans back whole) (by simp [second])

def laterGreatest (le : α → α → Bool) (a b : α) : α := if !le a b then a else b

theorem laterOf {a b : α} (below : le a b = true) : laterGreatest le a b = b := by
  simp [laterGreatest, below]

theorem laterKeeps {a b : α} (above : le a b = false) : laterGreatest le a b = a := by
  simp [laterGreatest, above]

theorem laterRegroups (order : TotalPreorder le) (a b c : α) :
    laterGreatest le (laterGreatest le a b) c = laterGreatest le a (laterGreatest le b c) := by
  cases ab : le a b with
  | true =>
    rw [laterOf ab]
    cases bc : le b c with
    | true => rw [laterOf bc, laterOf (order.trans ab bc)]
    | false => rw [laterKeeps bc, laterOf ab]
  | false =>
    rw [laterKeeps ab]
    cases bc : le b c with
    | true => rw [laterOf bc]
    | false => rw [laterKeeps bc, laterKeeps ab, laterKeeps (order.strictTrans ab bc)]

theorem lawfulGreatest (order : TotalPreorder le) :
    LawfulSemigroup (.plain α) (SemigroupOp.greatest (m := m) fun a b => !le b a) :=
  lawfulPlain (f := laterGreatest le) (laterRegroups order)

theorem lawfulLeast (order : TotalPreorder le) :
    LawfulSemigroup (.plain α) (SemigroupOp.least (m := m) fun a b => !le b a) :=
  lawfulPlain (f := fun a b => laterGreatest (fun a b => le b a) b a)
    fun a b c => (laterRegroups order.opposite c b a).symm

end Orders

end Plain

section Pairs

variable {first : Comparison α} {second : Comparison β} {firstOp : SemigroupOp m α}
  {secondOp : SemigroupOp m β}

theorem pairAppend {a c ac : α} {b d bd : β} (left : firstOp.append a c = pure ac)
    (right : secondOp.append b d = pure bd) :
    (firstOp.pair secondOp).append (a, b) (c, d) = pure (ac, bd) := by
  simp [SemigroupOp.pair, left, right]

theorem lawfulPair (firstLaw : LawfulSemigroup first firstOp)
    (secondLaw : LawfulSemigroup second secondOp) :
    LawfulSemigroup (first.pair second) (firstOp.pair secondOp) where
  defined := by
    rintro ⟨a, b⟩ ⟨c, d⟩ ⟨cleanA, cleanB⟩ ⟨cleanC, cleanD⟩
    obtain ⟨ac, left, cleanLeft⟩ := firstLaw.defined cleanA cleanC
    obtain ⟨bd, right, cleanRight⟩ := secondLaw.defined cleanB cleanD
    exact ⟨(ac, bd), pairAppend left right, cleanLeft, cleanRight⟩
  associative := by
    rintro ⟨a, a'⟩ ⟨b, b'⟩ ⟨c, c'⟩ ⟨cleanA, cleanA'⟩ ⟨cleanB, cleanB'⟩ ⟨cleanC, cleanC'⟩
    obtain ⟨ab, bc, l, r, front, back, left, right, same⟩ := firstLaw.groupings cleanA cleanB cleanC
    obtain ⟨ab', bc', l', r', front', back', left', right', same'⟩ :=
      secondLaw.groupings cleanA' cleanB' cleanC'
    refine ⟨(l, l'), (r, r'), ?_, ?_, same, same'⟩
    · rw [pairAppend front front', pure_bind, pairAppend left left']
    · rw [pairAppend back back', pure_bind, pairAppend right right']

theorem identityPair {firstEmpty : α} {secondEmpty : β}
    (firstIs : IsIdentity first firstOp firstEmpty)
    (secondIs : IsIdentity second secondOp secondEmpty) :
    IsIdentity (first.pair second) (firstOp.pair secondOp) (firstEmpty, secondEmpty) where
  clean := ⟨firstIs.clean, secondIs.clean⟩
  left := by
    rintro ⟨a, b⟩ ⟨cleanA, cleanB⟩
    obtain ⟨l, left, same⟩ := firstIs.left cleanA
    obtain ⟨l', left', same'⟩ := secondIs.left cleanB
    exact ⟨(l, l'), pairAppend left left', same, same'⟩
  right := by
    rintro ⟨a, b⟩ ⟨cleanA, cleanB⟩
    obtain ⟨r, right, same⟩ := firstIs.right cleanA
    obtain ⟨r', right', same'⟩ := secondIs.right cleanB
    exact ⟨(r, r'), pairAppend right right', same, same'⟩

theorem lawfulCompose {firstMonoid : MonoidOp m α} {secondMonoid : MonoidOp m β}
    (firstLaw : LawfulMonoid first firstMonoid) (secondLaw : LawfulMonoid second secondMonoid) :
    LawfulMonoid (first.pair second) (firstMonoid.compose secondMonoid) where
  semigroup := lawfulPair firstLaw.semigroup secondLaw.semigroup
  identity := by
    obtain ⟨empty, made, identity⟩ := firstLaw.identity
    obtain ⟨empty', made', identity'⟩ := secondLaw.identity
    refine ⟨(empty, empty'), ?_, identityPair identity identity'⟩
    simp [MonoidOp.compose, MonoidOp.of, made, made']

end Pairs

section Eithers

variable {first : Comparison α} {second : Comparison β} {firstOp : SemigroupOp m α}
  {secondOp : SemigroupOp m β}

theorem accumulateLefts {a b ab : α} (made : firstOp.append a b = pure ab) :
    (firstOp.accumulate secondOp).append (.left a) (.left b) = pure (.left ab) := by
  simp [SemigroupOp.accumulate, made]

theorem accumulateRights {a b ab : β} (made : secondOp.append a b = pure ab) :
    (firstOp.accumulate secondOp).append (.right a) (.right b) = pure (.right ab) := by
  simp [SemigroupOp.accumulate, made]

theorem lawfulAccumulate (firstLaw : LawfulSemigroup first firstOp)
    (secondLaw : LawfulSemigroup second secondOp) :
    LawfulSemigroup (first.either second) (firstOp.accumulate secondOp) where
  defined := by
    rintro (a | a) (b | b) cleanA cleanB
    · obtain ⟨ab, made, clean⟩ := firstLaw.defined cleanA cleanB
      exact ⟨.left ab, accumulateLefts made, clean⟩
    · exact ⟨.left a, rfl, cleanA⟩
    · exact ⟨.left b, rfl, cleanB⟩
    · obtain ⟨ab, made, clean⟩ := secondLaw.defined cleanA cleanB
      exact ⟨.right ab, accumulateRights made, clean⟩
  associative := by
    -- Rights beside a left are dropped, so only the lefts of a mixed case are combined.
    rintro (a | a) (b | b) (c | c) cleanA cleanB cleanC
    · obtain ⟨ab, bc, l, r, front, back, left, right, same⟩ :=
        firstLaw.groupings cleanA cleanB cleanC
      refine ⟨.left l, .left r, ?_, ?_, same⟩
      · rw [accumulateLefts front, pure_bind, accumulateLefts left]
      · rw [accumulateLefts back, pure_bind, accumulateLefts right]
    · obtain ⟨ab, made, clean⟩ := firstLaw.defined cleanA cleanB
      refine ⟨.left ab, .left ab, ?_, ?_, first.sameSelf clean⟩
      · rw [accumulateLefts made, pure_bind, accumulateLeftRight]
      · rw [accumulateLeftRight, pure_bind, accumulateLefts made]
    · obtain ⟨ac, made, clean⟩ := firstLaw.defined cleanA cleanC
      refine ⟨.left ac, .left ac, ?_, ?_, first.sameSelf clean⟩
      · rw [accumulateLeftRight, pure_bind, accumulateLefts made]
      · rw [accumulateRightLeft, pure_bind, accumulateLefts made]
    · obtain ⟨bc, made, _⟩ := secondLaw.defined cleanB cleanC
      refine ⟨.left a, .left a, ?_, ?_, first.sameSelf cleanA⟩
      · rw [accumulateLeftRight, pure_bind, accumulateLeftRight]
      · rw [accumulateRights made, pure_bind, accumulateLeftRight]
    · obtain ⟨bc, made, clean⟩ := firstLaw.defined cleanB cleanC
      refine ⟨.left bc, .left bc, ?_, ?_, first.sameSelf clean⟩
      · rw [accumulateRightLeft, pure_bind, accumulateLefts made]
      · rw [accumulateLefts made, pure_bind, accumulateRightLeft]
    · refine ⟨.left b, .left b, ?_, ?_, first.sameSelf cleanB⟩
      · rw [accumulateRightLeft, pure_bind, accumulateLeftRight]
      · rw [accumulateLeftRight, pure_bind, accumulateRightLeft]
    · obtain ⟨ab, made, _⟩ := secondLaw.defined cleanA cleanB
      refine ⟨.left c, .left c, ?_, ?_, first.sameSelf cleanC⟩
      · rw [accumulateRights made, pure_bind, accumulateRightLeft]
      · rw [accumulateRightLeft, pure_bind, accumulateRightLeft]
    · obtain ⟨ab, bc, l, r, front, back, left, right, same⟩ :=
        secondLaw.groupings cleanA cleanB cleanC
      refine ⟨.right l, .right r, ?_, ?_, same⟩
      · rw [accumulateRights front, pure_bind, accumulateRights left]
      · rw [accumulateRights back, pure_bind, accumulateRights right]

theorem lawfulAccumulateMonoid {monoid : MonoidOp m β} (firstLaw : LawfulSemigroup first firstOp)
    (secondLaw : LawfulMonoid second monoid) :
    LawfulMonoid (first.either second) (.accumulate firstOp monoid) where
  semigroup := lawfulAccumulate firstLaw secondLaw.semigroup
  identity := by
    obtain ⟨empty, made, identity⟩ := secondLaw.identity
    refine ⟨.right empty, ?_, identity.clean, ?_, ?_⟩
    · simp [MonoidOp.accumulate, MonoidOp.of, made]
    · rintro (a | a) clean
      · exact ⟨.left a, rfl, first.sameSelf clean⟩
      · obtain ⟨l, left, same⟩ := identity.left clean
        exact ⟨.right l, accumulateRights left, same⟩
    · rintro (a | a) clean
      · exact ⟨.left a, rfl, first.sameSelf clean⟩
      · obtain ⟨r, right, same⟩ := identity.right clean
        exact ⟨.right r, accumulateRights right, same⟩

end Eithers

section Options

variable {inner : Comparison α} {op : SemigroupOp m α}

theorem optionalSome {a b ab : α} (made : op.append a b = pure ab) :
    op.optional.append (some a) (some b) = pure (some ab) := by
  simp [SemigroupOp.optional, made]

theorem optionalDefined (law : LawfulSemigroup inner op) {a b : Option α}
    (first : inner.option.Clean a) (second : inner.option.Clean b) :
    ∃ ab, op.optional.append a b = pure ab ∧ inner.option.Clean ab := by
  cases a with
  | none => exact ⟨b, rfl, second⟩
  | some a =>
    cases b with
    | none => exact ⟨some a, rfl, first⟩
    | some b =>
      obtain ⟨ab, made, clean⟩ := law.defined first second
      exact ⟨some ab, optionalSome made, clean⟩

theorem lawfulOptional (law : LawfulSemigroup inner op) :
    LawfulSemigroup inner.option op.optional where
  defined := optionalDefined law
  associative := by
    intro a b c first second third
    cases a with
    | none =>
      obtain ⟨bc, made, clean⟩ := optionalDefined law second third
      refine ⟨bc, bc, ?_, ?_, inner.option.sameSelf clean⟩
      · rw [noneOptional, pure_bind, made]
      · rw [made, pure_bind, noneOptional]
    | some a =>
      cases b with
      | none =>
        obtain ⟨ac, made, clean⟩ := optionalDefined law first third
        refine ⟨ac, ac, ?_, ?_, inner.option.sameSelf clean⟩
        · rw [optionalNone, pure_bind, made]
        · rw [noneOptional, pure_bind, made]
      | some b =>
        cases c with
        | none =>
          obtain ⟨ab, made, clean⟩ := optionalDefined law first second
          refine ⟨ab, ab, ?_, ?_, inner.option.sameSelf clean⟩
          · rw [made, pure_bind, optionalNone]
          · rw [optionalNone, pure_bind, made]
        | some c =>
          obtain ⟨ab, bc, l, r, front, back, left, right, same⟩ :=
            law.groupings first second third
          refine ⟨some l, some r, ?_, ?_, same⟩
          · rw [optionalSome front, pure_bind, optionalSome left]
          · rw [optionalSome back, pure_bind, optionalSome right]

theorem lawfulOptionalMonoid (law : LawfulSemigroup inner op) :
    LawfulMonoid inner.option (.optional op) :=
  ⟨lawfulOptional law, none, rfl, noneIdentity inner⟩

theorem cleanOr {a b : Option α} (first : inner.option.Clean a) (second : inner.option.Clean b) :
    inner.option.Clean (a.or b) := by
  cases a with
  | none => exact second
  | some a => exact first

theorem lawfulFirstSome (inner : Comparison α) :
    LawfulMonoid inner.option (MonoidOp.firstSome (m := m)) where
  semigroup := lawfulExact cleanOr fun _ _ _ => Option.or_assoc
  identity := ⟨none, rfl, identityExact trivial (fun _ => Option.none_or) fun _ => Option.or_none⟩

theorem lawfulLastSome (inner : Comparison α) :
    LawfulMonoid inner.option (MonoidOp.lastSome (m := m)) where
  semigroup := lawfulExact (fun first second => cleanOr second first)
    fun _ _ _ => Option.or_assoc.symm
  identity := ⟨none, rfl, identityExact trivial (fun _ => Option.or_none) fun _ => Option.none_or⟩

end Options

section Functions

variable {argument : Comparison χ} {result : Comparison β}

theorem behindEachOther {f g : α → m α} {x y : α} (applied : f x = pure y) :
    (f >=> g) x = g y := by
  show f x >>= g = g y
  rw [applied, pure_bind]

theorem lawfulBehindEachOther (comparison : Comparison α) :
    LawfulSemigroup (.function m comparison comparison) (SemigroupOp.composition (m := m)) where
  defined := by
    intro f g first second
    refine ⟨f >=> g, rfl, fun x given => ?_⟩
    obtain ⟨y, applied, clean⟩ := first x given
    obtain ⟨z, further, still⟩ := second y clean
    exact ⟨z, (behindEachOther applied).trans further, still⟩
  associative := by
    intro f g h first second third
    refine ⟨(f >=> g) >=> h, f >=> g >=> h, pure_bind _ _, pure_bind _ _, fun x given => ?_⟩
    obtain ⟨y, applied, clean⟩ := first x given
    obtain ⟨z, further, still⟩ := second y clean
    obtain ⟨w, last, kept⟩ := third z still
    have front : (f >=> g) x = pure z := (behindEachOther applied).trans further
    have back : (g >=> h) y = pure w := (behindEachOther further).trans last
    exact ⟨w, w, (behindEachOther front).trans last, (behindEachOther applied).trans back,
      comparison.sameSelf kept⟩

theorem lawfulComposition (comparison : Comparison α) :
    LawfulMonoid (.function m comparison comparison) (MonoidOp.composition (m := m)) where
  semigroup := lawfulBehindEachOther comparison
  identity := by
    refine ⟨fun x => pure x, rfl, fun x given => ⟨x, rfl, given⟩, fun {f} clean => ?_,
      fun {f} clean => ?_⟩
    · refine ⟨(fun x => pure x) >=> f, rfl, fun x given => ?_⟩
      obtain ⟨y, applied, still⟩ := clean x given
      exact ⟨y, y, (behindEachOther rfl).trans applied, applied, comparison.sameSelf still⟩
    · refine ⟨f >=> fun x => pure x, rfl, fun x given => ?_⟩
      obtain ⟨y, applied, still⟩ := clean x given
      exact ⟨y, y, behindEachOther applied, applied, comparison.sameSelf still⟩

def CopiesFaithfully (argument : Comparison χ) (copy : Copying m χ) : Prop :=
  ∀ x, argument.Clean x → copy x = pure (x, x)

variable {copy : Copying m χ} {op : SemigroupOp m β}

theorem lawfulPointwise (faithful : CopiesFaithfully argument copy)
    (law : LawfulSemigroup result op) :
    LawfulSemigroup (.function m argument result) (op.pointwise copy) where
  defined := by
    intro f g first second
    refine ⟨_, rfl, fun x given => ?_⟩
    obtain ⟨y, left, cleanLeft⟩ := first x given
    obtain ⟨z, right, cleanRight⟩ := second x given
    obtain ⟨yz, made, clean⟩ := law.defined cleanLeft cleanRight
    refine ⟨yz, ?_, clean⟩
    simp [faithful x given, left, right, made]
  associative := by
    intro f g h first second third
    refine ⟨_, _, pure_bind _ _, pure_bind _ _, fun x given => ?_⟩
    obtain ⟨y, left, cleanLeft⟩ := first x given
    obtain ⟨z, middle, cleanMiddle⟩ := second x given
    obtain ⟨w, right, cleanRight⟩ := third x given
    obtain ⟨yz, zw, l, r, front, back, nested, further, same⟩ :=
      law.groupings cleanLeft cleanMiddle cleanRight
    refine ⟨l, r, ?_, ?_, same⟩
    · simp [faithful x given, left, middle, right, front, nested]
    · simp [faithful x given, left, middle, right, back, further]

theorem lawfulPointwiseMonoid {monoid : MonoidOp m β} (faithful : CopiesFaithfully argument copy)
    (law : LawfulMonoid result monoid) :
    LawfulMonoid (.function m argument result) (.pointwise copy monoid) where
  semigroup := lawfulPointwise faithful law.semigroup
  identity := by
    obtain ⟨empty, made, identity⟩ := law.identity
    refine ⟨fun _ => monoid.empty, rfl, fun x _ => ⟨empty, made, identity.clean⟩,
      fun {f} clean => ⟨_, rfl, fun x given => ?_⟩, fun {f} clean => ⟨_, rfl, fun x given => ?_⟩⟩
    · obtain ⟨y, applied, still⟩ := clean x given
      obtain ⟨l, left, same⟩ := identity.left still
      refine ⟨l, y, ?_, applied, same⟩
      simp [faithful x given, applied, made, left]
    · obtain ⟨y, applied, still⟩ := clean x given
      obtain ⟨r, right, same⟩ := identity.right still
      refine ⟨r, y, ?_, applied, same⟩
      simp [faithful x given, applied, made, right]

end Functions

theorem lawfulChaining (m : Type → Type) [Monad m] [LawfulMonad m] (α : Type) :
    LawfulMonoid (.iter m α) (Iter.chaining (m := m) (α := α)) where
  semigroup := {
    defined := fun {front back} _ _ => ⟨.chain front back, rfl, trivial⟩
    associative := by
      intro first second third _ _ _
      exact ⟨.chain (.chain first second) third, .chain first (.chain second third),
        pure_bind _ _, pure_bind _ _, Iter.chainAssociative first second third⟩ }
  identity := ⟨.ended, rfl, trivial, fun {back} _ =>
    ⟨.chain .ended back, rfl, Iter.endedChain back⟩,
    fun {front} _ => ⟨.chain front .ended, rfl, Iter.chainEnded front⟩⟩

end OutcomeAlgebra
