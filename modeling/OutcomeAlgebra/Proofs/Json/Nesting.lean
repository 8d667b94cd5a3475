import OutcomeAlgebra.Proofs.Json.Agreement
import OutcomeAlgebra.Script.Conversion
/-! Eithers through their JSON form, however deep they are nested in one another and in lists.
A type is a tree of eithers and lists over payloads; of the payloads nothing is known but that
they are read back and that their readers agree with their decoders. -/
namespace OutcomeAlgebra

variable {α L R : Type}

namespace Codec

def Faithful (codec : Codec α) : Prop :=
  ∀ value, codec.decode (codec.encode value) = some value

def Canonical (codec : Codec α) : Prop :=
  ∀ json value, codec.decode json = some value → codec.encode value = json

theorem Faithful.either {left : Codec L} {right : Codec R} (onLeft : left.Faithful)
    (onRight : right.Faithful) : (Codec.either left right).Faithful
  | .left value => congrArg (Either.left <$> ·) (onLeft value)
  | .right value => congrArg (Either.right <$> ·) (onRight value)

theorem Faithful.list {codec : Codec α} (inner : codec.Faithful) : codec.list.Faithful := by
  intro values
  show (values.map codec.encode).mapM codec.decode = some values
  induction values with
  | nil => rfl
  | cons value values ih =>
    rw [List.map_cons, List.mapM_cons, inner, ih]
    rfl

theorem decodeEither (left : Codec L) (right : Codec R) (json : Json) (value : Either L R) :
    (Codec.either left right).decode json = some value ↔
      (∃ inner held, json = .object [("Left", inner)] ∧ left.decode inner = some held ∧
        value = .left held) ∨
      ∃ inner held, json = .object [("Right", inner)] ∧ right.decode inner = some held ∧
        value = .right held := by
  constructor
  · intro decoded
    simp only [Codec.either] at decoded
    split at decoded
    · rename_i inner
      obtain ⟨held, found, rfl⟩ := Option.map_eq_some_iff.mp decoded
      exact .inl ⟨inner, held, rfl, found, rfl⟩
    · rename_i inner
      obtain ⟨held, found, rfl⟩ := Option.map_eq_some_iff.mp decoded
      exact .inr ⟨inner, held, rfl, found, rfl⟩
    · cases decoded
  · rintro (⟨inner, held, rfl, found, rfl⟩ | ⟨inner, held, rfl, found, rfl⟩)
    · exact congrArg (Either.left <$> ·) found
    · exact congrArg (Either.right <$> ·) found

theorem Canonical.either {left : Codec L} {right : Codec R} (onLeft : left.Canonical)
    (onRight : right.Canonical) : (Codec.either left right).Canonical := by
  intro json value decoded
  rcases (decodeEither left right json value).mp decoded with
    ⟨inner, held, rfl, found, rfl⟩ | ⟨inner, held, rfl, found, rfl⟩
  · exact congrArg (Json.tagged "Left") (onLeft inner held found)
  · exact congrArg (Json.tagged "Right") (onRight inner held found)

theorem Canonical.list {codec : Codec α} (inner : codec.Canonical) : codec.list.Canonical := by
  have items : ∀ (items : List Json) (values : List α),
      items.mapM codec.decode = some values → values.map codec.encode = items := by
    intro items
    induction items with
    | nil =>
      intro values decoded
      cases decoded
      rfl
    | cons item items ih =>
      intro values decoded
      rw [List.mapM_cons] at decoded
      obtain ⟨value, first, further⟩ := Option.bind_eq_some_iff.mp decoded
      obtain ⟨others, rest, built⟩ := Option.bind_eq_some_iff.mp further
      cases built
      rw [List.map_cons, inner item value first, ih others rest]
  intro json values decoded
  cases json with
  | array written => exact congrArg Json.array (items written values decoded)
  | _ => cases decoded

theorem textFaithful : text.Faithful := fun _ => rfl

theorem boolFaithful : bool.Faithful := fun _ => rfl

theorem wordFaithful : word.Faithful := by
  intro value
  have inside := And.intro value.minValue_le_toInt value.toInt_le
  have decoded : word.decode (word.encode value) = some (Int64.ofInt value.toInt) := if_pos inside
  rw [decoded, Int64.ofInt_toInt]

theorem Faithful.nullable {codec : Codec α} (inner : codec.Faithful)
    (present : ∀ value, codec.encode value ≠ .null) : codec.nullable.Faithful := by
  intro value
  cases value with
  | none => rfl
  | some value =>
    have decoded : codec.nullable.decode (codec.encode value) =
        some <$> codec.decode (codec.encode value) := by
      have notNull := present value
      cases shape : codec.encode value with
      | null => exact absurd shape notNull
      | _ => rfl
    have written : codec.nullable.encode (some value) = codec.encode value := rfl
    rw [written, decoded, inner]
    rfl

theorem textCanonical : text.Canonical := by
  intro json value decoded
  cases json with
  | text written =>
    cases decoded
    rfl
  | _ => cases decoded

theorem boolCanonical : bool.Canonical := by
  intro json value decoded
  cases json with
  | bool written =>
    cases decoded
    rfl
  | _ => cases decoded

theorem wordCanonical : word.Canonical := by
  intro json value decoded
  cases json with
  | integer written =>
    have bounds : Int64.minValue.toInt = -2 ^ 63 ∧ Int64.maxValue.toInt = 2 ^ 63 - 1 := ⟨rfl, rfl⟩
    simp only [word] at decoded
    split at decoded
    · rename_i inside
      cases decoded
      exact congrArg Json.integer (Int64.toInt_ofInt_of_le (by omega) (by omega))
    · cases decoded
  | _ => cases decoded

theorem Canonical.nullable {codec : Codec α} (inner : codec.Canonical) :
    codec.nullable.Canonical := by
  intro json value decoded
  by_cases absent : json = .null
  · subst absent
    cases decoded
    rfl
  · have present : codec.nullable.decode json = some <$> codec.decode json := by
      cases json with
      | null => exact absurd rfl absent
      | _ => rfl
    rw [present] at decoded
    obtain ⟨held, found, rfl⟩ := Option.map_eq_some_iff.mp decoded
    exact inner json held found

end Codec

inductive Nested : Type → Type 1 where
  | payload {α : Type} (codec : Codec α) (scan : Json.Scan α) : Nested α
  | either {L R : Type} (left : Nested L) (right : Nested R) : Nested (Either L R)
  | list {α : Type} (inner : Nested α) : Nested (List α)

namespace Nested

def codec {α : Type} : Nested α → Codec α
  | .payload codec _ => codec
  | .either left right => .either left.codec right.codec
  | .list inner => .list inner.codec

def scan {α : Type} : Nested α → Json.Scan α
  | .payload _ scan => scan
  | .either left right => Json.readEither left.scan right.scan
  | .list inner => Json.readList inner.scan

def All (property : ∀ {α : Type}, Codec α → Json.Scan α → Prop) {α : Type} : Nested α → Prop
  | .payload codec scan => property codec scan
  | .either left right => left.All property ∧ right.All property
  | .list inner => inner.All property

def Sound (nested : Nested α) : Prop :=
  nested.All fun codec scan => codec.Faithful ∧ Json.Agrees scan codec.decode

def Canonical (nested : Nested α) : Prop := nested.All fun codec _ => codec.Canonical

def write (nested : Nested α) (value : α) : String := (nested.codec.encode value).compact

def read (nested : Nested α) (text : String) : Except Json.Fault α :=
  Json.readDocument nested.scan text

theorem Sound.faithful {nested : Nested α} (sound : nested.Sound) : nested.codec.Faithful := by
  induction nested with
  | payload codec scan => exact sound.1
  | either left right onLeft onRight => exact .either (onLeft sound.1) (onRight sound.2)
  | list inner ih => exact .list (ih sound)

theorem Sound.agrees {nested : Nested α} (sound : nested.Sound) :
    Json.Agrees nested.scan nested.codec.decode := by
  induction nested with
  | payload codec scan => exact sound.2
  | either left right onLeft onRight => exact Json.eitherAgrees (onLeft sound.1) (onRight sound.2)
  | list inner ih => exact Json.listAgrees (ih sound)

theorem Canonical.codec {nested : Nested α} (canonical : nested.Canonical) :
    nested.codec.Canonical := by
  induction nested with
  | payload codec scan => exact canonical
  | either left right onLeft onRight => exact .either (onLeft canonical.1) (onRight canonical.2)
  | list inner ih => exact .list (ih canonical)

theorem Sound.reads {nested : Nested α} (sound : nested.Sound) (json : Json) (value : α) :
    nested.read json.compact = .ok value ↔ nested.codec.decode json = some value := by
  have same := Json.readDocumentAgrees sound.agrees json
  rw [← same]
  unfold read
  cases Json.readDocument nested.scan json.compact <;> simp [Except.toOption]

theorem Sound.writtenBack {nested : Nested α} (sound : nested.Sound) (value : α) :
    nested.codec.decode (nested.codec.encode value) = some value ∧
      nested.read (nested.write value) = .ok value :=
  ⟨sound.faithful value, (sound.reads _ value).mpr (sound.faithful value)⟩

theorem Sound.apart {nested : Nested α} (sound : nested.Sound) {value other : α}
    (different : value ≠ other) :
    nested.codec.encode value ≠ nested.codec.encode other ∧
      nested.write value ≠ nested.write other := by
  have back := sound.writtenBack value
  have otherBack := sound.writtenBack other
  constructor
  · intro same
    rw [same, otherBack.1] at back
    exact different (Option.some.inj back.1).symm
  · intro same
    rw [same, otherBack.2] at back
    exact different (Except.ok.inj back.2).symm

def Accepts (nested : Nested α) (json : Json) : Prop :=
  ∃ value, nested.codec.decode json = some value

def OneMember (left : Nested L) (right : Nested R) (json : Json) : Prop :=
  (∃ inner, json = .object [("Left", inner)] ∧ left.Accepts inner) ∨
    ∃ inner, json = .object [("Right", inner)] ∧ right.Accepts inner

theorem acceptsEither (left : Nested L) (right : Nested R) (json : Json) :
    (Nested.either left right).Accepts json ↔ OneMember left right json := by
  constructor
  · rintro ⟨value, decoded⟩
    rcases (Codec.decodeEither _ _ json value).mp decoded with
      ⟨inner, held, shape, found, _⟩ | ⟨inner, held, shape, found, _⟩
    · exact .inl ⟨inner, shape, held, found⟩
    · exact .inr ⟨inner, shape, held, found⟩
  · rintro (⟨inner, shape, held, found⟩ | ⟨inner, shape, held, found⟩)
    · exact ⟨.left held,
        (Codec.decodeEither _ _ json _).mpr (.inl ⟨inner, held, shape, found, rfl⟩)⟩
    · exact ⟨.right held,
        (Codec.decodeEither _ _ json _).mpr (.inr ⟨inner, held, shape, found, rfl⟩)⟩

end Nested

namespace Nested

structure Rejects (either : Nested (Either L R)) : Prop where
  text : ∀ tag, ¬ either.Accepts (.text tag)
  array : ∀ items, ¬ either.Accepts (.array items)
  empty : ¬ either.Accepts (.object [])
  more : ∀ first second members, ¬ either.Accepts (.object (first :: second :: members))
  other : ∀ key inner, key ≠ "Left" → key ≠ "Right" → ¬ either.Accepts (.object [(key, inner)])

structure Tagged (left : Nested L) (right : Nested R) : Prop where
  apart : ∀ l r, (left.either right).codec.encode (.left l) ≠
      (left.either right).codec.encode (.right r) ∧
    (left.either right).write (.left l) ≠ (left.either right).write (.right r)
  members : ∀ inner, (left.either right).codec.decode (.object [("Left", inner)]) =
      Either.left <$> left.codec.decode inner ∧
    (left.either right).codec.decode (.object [("Right", inner)]) =
      Either.right <$> right.codec.decode inner
  accepts : ∀ json, ((left.either right).Accepts json ↔ OneMember left right json) ∧
    ((∃ value, (left.either right).read json.compact = .ok value) ↔ OneMember left right json)
  rejects : (left.either right).Rejects

theorem eitherRejects (left : Nested L) (right : Nested R) : (left.either right).Rejects := by
  refine ⟨fun tag => ?_, fun items => ?_, ?_, fun first second members => ?_,
    fun key inner notLeft notRight => ?_⟩
  all_goals
    rw [acceptsEither, OneMember]
    simp [*]

theorem Sound.tagged {left : Nested L} {right : Nested R} (sound : (left.either right).Sound) :
    Tagged left right where
  apart _ _ := sound.apart fun same => nomatch same
  members _ := ⟨rfl, rfl⟩
  accepts json := by
    refine ⟨acceptsEither left right json, ?_⟩
    rw [← acceptsEither left right json]
    exact exists_congr fun value => sound.reads json value
  rejects := eitherRejects left right

structure ThroughJson (nested : Nested α) : Prop where
  back : ∀ value, nested.codec.decode (nested.codec.encode value) = some value ∧
    nested.read (nested.write value) = .ok value
  canonical : nested.Canonical → ∀ json value, nested.codec.decode json = some value →
    nested.codec.encode value = json

end Nested

theorem eithersThroughJson {α L R : Type} (nested : Nested α) (left : Nested L) (right : Nested R)
    (sound : nested.Sound) (leftSound : left.Sound) (rightSound : right.Sound) :
    nested.ThroughJson ∧ Nested.Tagged left right := by
  have eitherSound : (left.either right).Sound := ⟨leftSound, rightSound⟩
  exact ⟨⟨sound.writtenBack, fun canonical => canonical.codec⟩, eitherSound.tagged⟩

namespace Script.Form

def words : Nested (List (Option Int64)) :=
  .list (.payload (.nullable .word) (Json.readNullable Json.readWord))

def textOrBool : Nested (Either String Bool) :=
  .either (.payload .text Json.readText) (.payload .bool Json.readBool)

theorem wordsSound : words.Sound := by
  have neverNull : ∀ value, Codec.word.encode value ≠ .null := by
    intro value null
    cases null
  exact ⟨.nullable Codec.wordFaithful neverNull, Json.nullableAgrees Json.wordAgrees⟩

theorem textOrBoolSound : textOrBool.Sound :=
  ⟨⟨Codec.textFaithful, Json.textAgrees⟩, Codec.boolFaithful, Json.boolAgrees⟩

theorem nestedCanonical : (words.either textOrBool).list.Canonical :=
  ⟨.nullable Codec.wordCanonical, Codec.textCanonical, Codec.boolCanonical⟩

end Script.Form

open Script.Form in
theorem nestedThroughJson :
    Script.Form.nested.list.codec = (words.either textOrBool).list.codec ∧
    Script.Form.nested.list.scan = (words.either textOrBool).list.scan ∧
    (words.either textOrBool).list.Sound ∧ words.Sound ∧ textOrBool.Sound ∧
    (words.either textOrBool).list.read ((words.either textOrBool).list.write
      [.left [none, some 3], .right (.left "Left"), .right (.right true)]) =
        .ok [.left [none, some 3], .right (.left "Left"), .right (.right true)] ∧
    ¬ (words.either textOrBool).Accepts (.text "Left") ∧
    (words.either textOrBool).list.codec.decode (.array [.object [("Left", .array [.null])]]) =
      some [.left [none]] ∧
    (words.either textOrBool).list.codec.encode [.left [none]] =
      .array [.object [("Left", .array [.null])]] := by
  have sound : (words.either textOrBool).list.Sound := ⟨wordsSound, textOrBoolSound⟩
  obtain ⟨through, tagged⟩ := eithersThroughJson (words.either textOrBool).list words textOrBool
    sound wordsSound textOrBoolSound
  have decoded : (words.either textOrBool).list.codec.decode
      (.array [.object [("Left", .array [.null])]]) = some [.left [none]] := rfl
  exact ⟨rfl, rfl, sound, wordsSound, textOrBoolSound, (through.back _).2,
    tagged.rejects.text "Left", decoded, through.canonical nestedCanonical _ _ decoded⟩

end OutcomeAlgebra
