import OutcomeAlgebra.Json.Codec
import OutcomeAlgebra.Json.Read
import OutcomeAlgebra.Proofs.Json.Token
/-! Reading the compact text of a tree is decoding the tree. The first character of a text
tells the kind of its tree, so a reader meets either the text of a value that it knows or
one that it turns down at once; it never goes on into what stands behind. -/
namespace OutcomeAlgebra.Json

variable {α L R : Type}

inductive Kind where
  | null
  | bool
  | number
  | text
  | array
  | object
  deriving DecidableEq

def kind : Json → Kind
  | .null => .null
  | .bool _ => .bool
  | .integer _ => .number
  | .decimal _ _ => .number
  | .text _ => .text
  | .array _ => .array
  | .object _ => .object

def opening (c : Char) : Option Kind :=
  if c = 'n' then some .null
  else if c = 't' || c = 'f' then some .bool
  else if c = '-' || Numeral.isDigit c then some .number
  else if c = '"' then some .text
  else if c = '[' then some .array
  else if c = '\x7b' then some .object
  else none

inductive Follows : List Char → Prop where
  | nothing : Follows []
  | comma (rest : List Char) : Follows (',' :: rest)
  | bracket (rest : List Char) : Follows (']' :: rest)
  | brace (rest : List Char) : Follows ('\x7d' :: rest)

/- A value is read up to what stands behind it; without one the scan ends in a fault. -/
def Answers (value : Option α) (rest : List Char) (scanned : Except Fault (α × List Char)) : Prop :=
  match value with
  | some value => scanned = .ok (value, rest)
  | none => ∃ fault, scanned = .error fault

def Agrees (scan : Scan α) (decode : Json → Option α) : Prop :=
  ∀ (json : Json) (rest : List Char), Follows rest →
    Answers (decode json) rest (scan (json.compact.toList ++ rest))

section Answer

variable {β : Type} {value : Option α} {rest between : List Char}
  {scanned : Except Fault (α × List Char)}

theorem Answers.bind {next : α → Option β} {go : α × List Char → Except Fault (β × List Char)}
    (read : Answers value between scanned)
    (later : ∀ held, Answers (next held) rest (go (held, between))) :
    Answers (value >>= next) rest (scanned >>= go) := by
  cases value with
  | none =>
    obtain ⟨fault, failed⟩ := read
    exact ⟨fault, by rw [failed]; rfl⟩
  | some held =>
    have found : scanned = .ok (held, between) := read
    rw [found]
    exact later held

theorem Answers.map (f : α → β) (read : Answers value rest scanned) :
    Answers (f <$> value) rest (scanned >>= fun (value, rest) => pure (f value, rest)) := by
  have mapped : f <$> value = value >>= fun held => some (f held) := by cases value <;> rfl
  rw [mapped]
  exact read.bind fun _ => rfl

end Answer

section Opening

variable {c : Char} {seen : Kind}

theorem openingShown (opens : opening c = some seen) : isBlank c = false := by
  unfold isBlank
  simp only [Bool.or_eq_false_iff, decide_eq_false_iff_not]
  refine ⟨⟨⟨?_, ?_⟩, ?_⟩, ?_⟩
  all_goals
    intro blank
    subst blank
    cases opens

theorem digitOpening (digit : Numeral.isDigit c = true) : opening c = some .number := by
  have letterless : c ≠ 'n' ∧ c ≠ 't' ∧ c ≠ 'f' := by
    refine ⟨?_, ?_, ?_⟩
    all_goals
      intro letter
      subst letter
      cases digit
  unfold opening
  simp [letterless, digit]

theorem openingNumber : opening c = some .number ↔ (c = '-' || Numeral.isDigit c) = true := by
  constructor
  · intro opens
    unfold opening at opens
    split at opens
    · cases opens
    · split at opens
      · cases opens
      · split at opens
        · assumption
        · repeat (split at opens; cases opens)
          cases opens
  · intro numeral
    rcases Bool.or_eq_true_iff.mp numeral with minus | digit
    · rw [of_decide_eq_true minus]
      rfl
    · exact digitOpening digit

theorem integerOpening (value : Int) :
    ∃ c tail, (toString value).toList = c :: tail ∧ opening c = some .number := by
  rw [integerText]
  by_cases negative : value < 0
  · rw [if_pos negative]
    exact ⟨_, _, rfl, rfl⟩
  · rw [if_neg negative]
    obtain ⟨c, tail, shape⟩ :=
      List.exists_cons_of_ne_nil (Nat.toDigits_ne_nil (b := 10) (n := value.natAbs))
    exact ⟨c, tail, shape, digitOpening (digitWritten (n := value.natAbs) (by simp [shape]))⟩

theorem compactArray (items : List Json) :
    (compact (.array items)).toList = '[' :: ((compactItems items).toList ++ [']']) := by
  unfold compact
  simp only [String.toList_append]
  rfl

theorem compactObject (members : List (String × Json)) :
    (compact (.object members)).toList =
      '\x7b' :: ((compactMembers members).toList ++ ['\x7d']) := by
  unfold compact
  simp only [String.toList_append]
  rfl

theorem compactDecimal (mantissa exponent : Int) :
    (compact (.decimal mantissa exponent)).toList =
      (toString mantissa).toList ++ 'e' :: (toString exponent).toList := by
  unfold compact
  simp only [String.toList_append, List.append_assoc]
  rfl

theorem compactOpening (json : Json) :
    ∃ c tail, json.compact.toList = c :: tail ∧ opening c = some json.kind := by
  cases json with
  | null => exact ⟨_, _, rfl, rfl⟩
  | bool value => cases value <;> exact ⟨_, _, rfl, rfl⟩
  | integer value => exact integerOpening value
  | decimal mantissa exponent =>
    obtain ⟨c, tail, shape, opens⟩ := integerOpening mantissa
    rw [compactDecimal, shape]
    exact ⟨c, _, rfl, opens⟩
  | text value => exact ⟨_, _, quoteCharacters value, rfl⟩
  | array items => exact ⟨_, _, compactArray items, rfl⟩
  | object members => exact ⟨_, _, compactObject members, rfl⟩

theorem agreesOn {scan : Scan α} {decode : Json → Option α} (known : Kind)
    (reads : ∀ json rest, json.kind = known → Follows rest →
      Answers (decode json) rest (scan (json.compact.toList ++ rest)))
    (rejects : ∀ json, json.kind ≠ known → decode json = none)
    (turnsDown : ∀ c tail, opening c ≠ some known → isBlank c = false →
      ∃ fault, scan (c :: tail) = .error fault) :
    Agrees scan decode := by
  intro json rest follows
  by_cases same : json.kind = known
  · exact reads json rest same follows
  · obtain ⟨c, tail, shape, opens⟩ := compactOpening json
    have apart : opening c ≠ some known := by
      rw [opens]
      intro met
      exact same (Option.some.inj met)
    rw [rejects json same, shape]
    exact turnsDown c (tail ++ rest) apart (openingShown opens)

end Opening

section Payload

theorem boolAgrees : Agrees readBool Codec.bool.decode := by
  refine agreesOn .bool ?_ ?_ ?_
  · intro json rest same _
    cases json with
    | bool value => cases value <;> rfl
    | _ => cases same
  · intro json apart
    cases json with
    | bool value => exact absurd rfl apart
    | _ => rfl
  · intro c tail apart shown
    unfold readBool
    rw [skipBlanksNone shown]
    split
    · rename_i shape
      cases shape
      exact absurd rfl apart
    · rename_i shape
      cases shape
      exact absurd rfl apart
    · exact ⟨_, rfl⟩

theorem textAgrees : Agrees readText Codec.text.decode := by
  refine agreesOn .text ?_ ?_ ?_
  · intro json rest same _
    cases json with
    | text value =>
      obtain ⟨tail, shape, read⟩ := quotedText value rest
      have written : (compact (.text value)).toList ++ rest = '"' :: tail := shape
      rw [written]
      exact read
    | _ => cases same
  · intro json apart
    cases json with
    | text value => exact absurd rfl apart
    | _ => rfl
  · intro c tail apart shown
    unfold readText
    rw [skipBlanksNone shown]
    split
    · rename_i shape
      cases shape
      exact absurd rfl apart
    · exact ⟨_, rfl⟩

theorem followsStops {rest : List Char} (follows : Follows rest) : Stops rest := by
  intro c first
  cases follows <;> cases first <;> decide

theorem followsNoExponent {rest : List Char} (follows : Follows rest) :
    scanExponent rest = .ok (none, rest) := by
  refine scanExponentNone fun c first => ?_
  cases follows <;> cases first <;> decide

theorem readWordNumeral {text tail : List Char} {c : Char} (shape : text = c :: tail)
    (opens : opening c = some .number) :
    readWord text = (scanNumeral text >>= fun (numeral, rest) =>
      match numeral.word? with
      | some value => pure (value, rest)
      | none => .error .mismatched) := by
  subst shape
  unfold readWord
  rw [skipBlanksNone (openingShown opens)]
  exact if_pos (openingNumber.mp opens)

theorem readWordInteger (value : Int) {rest : List Char} (follows : Follows rest) :
    Answers (Codec.word.decode (.integer value)) rest
      (readWord ((toString value).toList ++ rest)) := by
  obtain ⟨c, tail, shape, opens⟩ := integerOpening value
  have head : (toString value).toList ++ rest = c :: (tail ++ rest) := by rw [shape]; rfl
  rw [readWordNumeral head opens,
    scanNumeralWritten value (followsStops follows) (followsNoExponent follows)]
  have word := wordWritten value
  by_cases inside : Int64.minValue.toInt ≤ value ∧ value ≤ Int64.maxValue.toInt
  · have small : value.natAbs < UInt64.size := by
      unfold UInt64.size
      have least : Int64.minValue.toInt = -2 ^ 63 := rfl
      have greatest : Int64.maxValue.toInt = 2 ^ 63 - 1 := rfl
      omega
    have decoded : Codec.word.decode (.integer value) = some (Int64.ofInt value) := if_pos inside
    have fits : ¬ Numeral.tooLarge (Nat.toDigits 10 value.natAbs) [] 0 = true := by
      simp [notTooLarge small]
    rw [if_pos inside] at word
    rw [decoded, Option.getD_none, if_neg fits]
    simp only [bind, Except.bind, Option.isNone_none, word]
    rfl
  · have decoded : Codec.word.decode (.integer value) = none := if_neg inside
    rw [if_neg inside] at word
    rw [decoded, Option.getD_none]
    split
    · exact ⟨_, rfl⟩
    · simp only [bind, Except.bind, Option.isNone_none, word]
      exact ⟨_, rfl⟩

theorem readWordDecimal (mantissa exponent : Int) {rest : List Char} (follows : Follows rest) :
    ∃ fault, readWord ((compact (.decimal mantissa exponent)).toList ++ rest) = .error fault := by
  obtain ⟨c, tail, shape, opens⟩ := integerOpening mantissa
  obtain ⟨power, read⟩ := scanExponentWritten exponent fun c first =>
    (followsStops follows c first).1
  have stops : Stops ('e' :: ((toString exponent).toList ++ rest)) := by
    intro c first
    cases first
    decide
  have head : (toString mantissa).toList ++ 'e' :: ((toString exponent).toList ++ rest) =
      c :: (tail ++ 'e' :: ((toString exponent).toList ++ rest)) := by rw [shape]; rfl
  rw [compactDecimal, List.append_assoc, List.cons_append, readWordNumeral head opens,
    scanNumeralWritten mantissa stops read]
  split
  · exact ⟨_, rfl⟩
  · exact ⟨.mismatched, rfl⟩

theorem wordAgrees : Agrees readWord Codec.word.decode := by
  refine agreesOn .number ?_ ?_ ?_
  · intro json rest same follows
    cases json with
    | integer value => exact readWordInteger value follows
    | decimal mantissa exponent => exact readWordDecimal mantissa exponent follows
    | _ => cases same
  · intro json apart
    cases json with
    | integer value => exact absurd rfl apart
    | _ => rfl
  · intro c tail apart shown
    have other : ¬ (c = '-' || Numeral.isDigit c) = true := fun numeral =>
      apart (openingNumber.mpr numeral)
    unfold readWord
    rw [skipBlanksNone shown]
    simp only [other]
    exact ⟨_, rfl⟩

theorem nullableAgrees {scan : Scan α} {codec : Codec α} (inner : Agrees scan codec.decode) :
    Agrees (readNullable scan) codec.nullable.decode := by
  intro json rest follows
  by_cases absent : json.kind = .null
  · cases json with
    | null => rfl
    | _ => cases absent
  · have decoded : codec.nullable.decode json = some <$> codec.decode json := by
      cases json with
      | null => exact absurd rfl absent
      | _ => rfl
    have scanned : readNullable scan (json.compact.toList ++ rest) =
        (scan (json.compact.toList ++ rest) >>= fun (value, rest) => pure (some value, rest)) := by
      obtain ⟨c, tail, shape, opens⟩ := compactOpening json
      rw [shape, List.cons_append]
      unfold readNullable
      rw [skipBlanksNone (openingShown opens)]
      split
      · rename_i letter
        cases letter
        exact absurd (Option.some.inj opens).symm absent
      · rfl
    rw [decoded, scanned]
    exact (inner json rest follows).map some

end Payload

section Nesting

theorem compactItemsCons (item : Json) (items : List Json) :
    (compactItems (item :: items)).toList =
      item.compact.toList ++ items.flatMap (fun json => ',' :: json.compact.toList) := by
  induction items generalizing item with
  | nil =>
    unfold compactItems
    simp
  | cons next items ih =>
    have split : compactItems (item :: next :: items) =
        item.compact ++ "," ++ compactItems (next :: items) := by
      rw [compactItems]
      simp
    simp only [split, String.toList_append, ih, List.flatMap_cons, List.append_assoc]
    rfl

def furtherItems (items : List Json) (rest : List Char) : List Char :=
  items.flatMap (fun json => ',' :: json.compact.toList) ++ ']' :: rest

theorem furtherFollows (items : List Json) (rest : List Char) :
    Follows (furtherItems items rest) := by
  cases items with
  | nil => exact .bracket rest
  | cons item items => exact .comma _

theorem readRestMore (scan : Scan α) (bound : Nat) (item : Json) (items : List Json)
    (rest : List Char) :
    readRest scan (bound + 1) (furtherItems (item :: items) rest) =
      (scan (item.compact.toList ++ furtherItems items rest) >>= fun (value, rest) =>
        readRest scan bound rest >>= fun (values, rest) => pure (value :: values, rest)) := by
  have split : furtherItems (item :: items) rest =
      ',' :: (item.compact.toList ++ furtherItems items rest) := by
    unfold furtherItems
    simp
  obtain ⟨c, tail, shape, opens⟩ := compactOpening item
  rw [split, readRest, skipBlanksNone rfl]
  simp only [shape, List.cons_append, skipBlanksNone (openingShown opens)]
  split
  · rename_i empty
    cases empty
  · rename_i bracket
    cases bracket
    cases opens
  · rfl

theorem readRestAgrees {scan : Scan α} {decode : Json → Option α} (inner : Agrees scan decode)
    (items : List Json) {bound : Nat} (enough : items.length < bound) (rest : List Char) :
    Answers (items.mapM decode) rest (readRest scan bound (furtherItems items rest)) := by
  induction items generalizing bound with
  | nil =>
    cases bound with
    | zero => exact absurd enough (Nat.not_lt_zero _)
    | succ bound => rfl
  | cons item items ih =>
    cases bound with
    | zero => exact absurd enough (Nat.not_lt_zero _)
    | succ bound =>
      have fewer : items.length < bound := Nat.lt_of_succ_lt_succ enough
      have first := inner item (furtherItems items rest) (furtherFollows items rest)
      rw [List.mapM_cons, readRestMore]
      exact first.bind fun value => (ih fewer).bind fun _ => rfl

theorem furtherLength (items : List Json) (rest : List Char) :
    items.length < (furtherItems items rest).length := by
  unfold furtherItems
  induction items with
  | nil => simp
  | cons item items ih =>
    simp only [List.flatMap_cons, List.append_assoc, List.length_append, List.length_cons] at ih ⊢
    omega

theorem listAgrees {scan : Scan α} {codec : Codec α} (inner : Agrees scan codec.decode) :
    Agrees (readList scan) codec.list.decode := by
  refine agreesOn .array ?_ ?_ ?_
  · intro json rest same _
    cases json with
    | array items =>
      cases items with
      | nil => rfl
      | cons item items =>
        have text : (compact (.array (item :: items))).toList ++ rest =
            '[' :: (item.compact.toList ++ furtherItems items rest) := by
          unfold furtherItems
          rw [compactArray, compactItemsCons]
          simp
        have scanned : readList scan ((compact (.array (item :: items))).toList ++ rest) =
            (scan (item.compact.toList ++ furtherItems items rest) >>= fun (value, rest) =>
              readRest scan (rest.length + 1) rest >>= fun (values, rest) =>
                pure (value :: values, rest)) := by
          obtain ⟨c, tail, shape, opens⟩ := compactOpening item
          rw [text, readList, skipBlanksNone rfl]
          simp only [shape, List.cons_append, skipBlanksNone (openingShown opens)]
          split
          · rename_i empty
            cases empty
          · rename_i bracket
            cases bracket
            cases opens
          · rfl
        have decoded : codec.list.decode (.array (item :: items)) =
            (item :: items).mapM codec.decode := rfl
        have first := inner item (furtherItems items rest) (furtherFollows items rest)
        have enough := Nat.lt_succ_of_lt (furtherLength items rest)
        rw [decoded, scanned, List.mapM_cons]
        exact first.bind fun value => (readRestAgrees inner items enough rest).bind fun _ => rfl
    | _ => cases same
  · intro json apart
    cases json with
    | array items => exact absurd rfl apart
    | _ => rfl
  · intro c tail apart shown
    unfold readList
    rw [skipBlanksNone shown]
    split
    · rename_i shape
      cases shape
      exact absurd rfl apart
    · exact ⟨_, rfl⟩

def furtherMembers (members : List (String × Json)) (rest : List Char) : List Char :=
  members.flatMap (fun (key, json) => ',' :: ((quote key).toList ++ ':' :: json.compact.toList)) ++
    '\x7d' :: rest

theorem compactMembersCons (key : String) (json : Json) (members : List (String × Json))
    (rest : List Char) :
    (compactMembers ((key, json) :: members)).toList ++ '\x7d' :: rest =
      (quote key).toList ++ ':' :: (json.compact.toList ++ furtherMembers members rest) := by
  unfold furtherMembers
  induction members generalizing key json with
  | nil =>
    unfold compactMembers
    simp
  | cons next members ih =>
    have split : compactMembers ((key, json) :: next :: members) =
        quote key ++ ":" ++ json.compact ++ "," ++ compactMembers (next :: members) := by
      rw [compactMembers]
      simp
    have later := ih next.1 next.2
    simp only [split, String.toList_append, List.append_assoc, later, List.flatMap_cons]
    simp

def alone (members : List (String × Json)) : Option Unit :=
  if members.isEmpty then some () else none

theorem readMarkAgrees (members : List (String × Json)) (rest : List Char) :
    Answers (alone members) rest (readMark '\x7d' (furtherMembers members rest)) := by
  cases members with
  | nil => rfl
  | cons member members => exact ⟨.malformed, rfl⟩

theorem furtherMembersFollow (members : List (String × Json)) (rest : List Char) :
    Follows (furtherMembers members rest) := by
  cases members with
  | nil => exact .brace rest
  | cons member members => exact .comma _

theorem decodeEitherMember (left : Codec L) (right : Codec R) (key : String) (json : Json)
    (members : List (String × Json)) :
    (Codec.either left right).decode (.object ((key, json) :: members)) =
      if key = "Left" then
        left.decode json >>= fun value => alone members >>= fun _ => some (.left value)
      else if key = "Right" then
        right.decode json >>= fun value => alone members >>= fun _ => some (.right value)
      else none := by
  cases members with
  | nil =>
    by_cases isLeft : key = "Left"
    · subst isLeft
      cases decoded : left.decode json <;> simp [Codec.either, decoded, alone]
    · by_cases isRight : key = "Right"
      · subst isRight
        cases decoded : right.decode json <;> simp [Codec.either, decoded, alone]
      · simp [Codec.either, isLeft, isRight]
  | cons member members =>
    have nothing : (Codec.either left right).decode (.object ((key, json) :: member :: members)) =
        none := by simp [Codec.either]
    rw [nothing]
    cases left.decode json <;> cases right.decode json <;> simp [alone]

theorem readEitherMember (left : Scan L) (right : Scan R) (key : String) (json : Json)
    (members : List (String × Json)) (rest : List Char) :
    readEither left right ((compact (.object ((key, json) :: members))).toList ++ rest) =
      if key = "Left" then
        left (json.compact.toList ++ furtherMembers members rest) >>= fun (value, rest) =>
          readMark '\x7d' rest >>= fun (_, rest) => pure (.left value, rest)
      else if key = "Right" then
        right (json.compact.toList ++ furtherMembers members rest) >>= fun (value, rest) =>
          readMark '\x7d' rest >>= fun (_, rest) => pure (.right value, rest)
      else .error .mismatched := by
  have text : (compact (.object ((key, json) :: members))).toList ++ rest =
      '\x7b' ::
        ((quote key).toList ++ ':' :: (json.compact.toList ++ furtherMembers members rest)) := by
    rw [compactObject, List.cons_append, List.append_assoc, List.singleton_append,
      compactMembersCons]
  obtain ⟨tail, shape, read⟩ :=
    quotedText key (':' :: (json.compact.toList ++ furtherMembers members rest))
  have named : readName ((quote key).toList ++ ':' :: (json.compact.toList ++
      furtherMembers members rest)) =
      .ok (key, ':' :: (json.compact.toList ++ furtherMembers members rest)) := by
    rw [shape, ← read]
    rfl
  rw [text, readEither, skipBlanksNone rfl]
  simp only [named, bind, Except.bind]
  rfl

theorem eitherAgrees {leftScan : Scan L} {rightScan : Scan R} {left : Codec L} {right : Codec R}
    (onLeft : Agrees leftScan left.decode) (onRight : Agrees rightScan right.decode) :
    Agrees (readEither leftScan rightScan) (Codec.either left right).decode := by
  refine agreesOn .object ?_ ?_ ?_
  · intro json rest same _
    cases json with
    | object members =>
      cases members with
      | nil => exact ⟨.malformed, rfl⟩
      | cons member members =>
        obtain ⟨key, json⟩ := member
        have between := furtherMembersFollow members rest
        have ends := readMarkAgrees members rest
        rw [decodeEitherMember, readEitherMember]
        split
        · exact (onLeft json _ between).bind fun value => ends.bind fun _ => rfl
        · split
          · exact (onRight json _ between).bind fun value => ends.bind fun _ => rfl
          · exact ⟨.mismatched, rfl⟩
    | _ => cases same
  · intro json apart
    cases json with
    | object members => exact absurd rfl apart
    | _ => rfl
  · intro c tail apart shown
    unfold readEither
    rw [skipBlanksNone shown]
    split
    · exact ⟨_, rfl⟩
    · rename_i shape
      cases shape
      exact absurd rfl apart
    · exact ⟨_, rfl⟩
    · exact ⟨_, rfl⟩

end Nesting

theorem readDocumentAgrees {scan : Scan α} {decode : Json → Option α} (agrees : Agrees scan decode)
    (json : Json) : (readDocument scan json.compact).toOption = decode json := by
  have read := agrees json [] .nothing
  rw [List.append_nil] at read
  unfold readDocument
  cases found : decode json with
  | none =>
    rw [found] at read
    obtain ⟨fault, failed⟩ := read
    rw [failed]
    rfl
  | some value =>
    rw [found] at read
    have whole : scan json.compact.toList = .ok (value, []) := read
    rw [whole]
    rfl

end OutcomeAlgebra.Json
