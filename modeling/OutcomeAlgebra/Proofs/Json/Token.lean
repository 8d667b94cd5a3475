import OutcomeAlgebra.Json.Scan
import OutcomeAlgebra.Json.Tree
/-! Strings and integers, written and read again. What is behind them stays as it is, and
an integer ends where the text behind it does not go on with one. Numbers with an exponent
are read as far as it takes to see that they are no integers. -/
namespace OutcomeAlgebra.Json

theorem skipBlanksNone {c : Char} (shown : isBlank c = false) (text : List Char) :
    skipBlanks (c :: text) = c :: text :=
  List.dropWhile_cons_of_neg (by simp [shown])

theorem byteLengthAtLeast (text : List Char) : text.length ≤ byteLength text := by
  have counted : ∀ (text : List Char) (total : Nat),
      total + text.length ≤ text.foldl (fun total c => total + c.utf8Size) total := by
    intro text
    induction text with
    | nil => intro total; exact Nat.le_refl _
    | cons c rest ih =>
      intro total
      have size := Char.utf8Size_pos c
      have later := ih (total + c.utf8Size)
      simp only [List.length_cons, List.foldl_cons]
      omega
  have fromZero := counted text 0
  unfold byteLength
  omega

theorem hexDigitValue : ∀ n < 16, hexValue? (hexDigit n) = some n := by
  decide

theorem scanHexWritten (high low : Nat) (highSmall : high < 16) (lowSmall : low < 16)
    (rest : List Char) :
    scanHex ('0' :: '0' :: hexDigit high :: hexDigit low :: rest) =
      .ok (high * 16 + low, rest) := by
  have long := byteLengthAtLeast ('0' :: '0' :: hexDigit high :: hexDigit low :: rest)
  have enough : ¬ byteLength ('0' :: '0' :: hexDigit high :: hexDigit low :: rest) < 4 := by
    simp only [List.length_cons] at long
    omega
  have zero : hexValue? '0' = some 0 := rfl
  unfold scanHex
  rw [if_neg enough]
  simp only [zero, hexDigitValue high highSmall, hexDigitValue low lowSmall]
  simp

theorem scanEscapedControl (c : Char) (control : c.toNat < 0x20) (rest : List Char) :
    scanEscape ('u' :: '0' :: '0' :: hexDigit (c.toNat / 16) :: hexDigit (c.toNat % 16) :: rest) =
      .ok (c, rest) := by
  have read := scanHexWritten (c.toNat / 16) (c.toNat % 16) (by omega) (by omega) rest
  have code : c.toNat / 16 * 16 + c.toNat % 16 = c.toNat := by omega
  have low : (c.toNat < 0xd800 || 0xdfff < c.toNat) = true := by
    simp only [Bool.or_eq_true, decide_eq_true_eq]
    omega
  rw [code] at read
  simp only [scanEscape, scanUnits, read, bind, Except.bind, low, if_true, Char.ofNat_toNat]
  rfl

theorem scanCharactersEscaped {text rest : List Char} {c : Char}
    (read : scanEscape text = .ok (c, rest)) :
    scanCharacters ('\\' :: text) =
      (scanCharacters rest >>= fun (values, rest) => pure (c :: values, rest)) := by
  rw [scanCharacters, if_neg (by decide), if_pos rfl]
  split
  · rename_i failed
    rw [read] at failed
    contradiction
  · rename_i found
    rw [read] at found
    cases found
    rfl

theorem scanCharactersPlain {c : Char} (noQuote : c ≠ '"') (noEscape : c ≠ '\\')
    (noControl : ¬ c.toNat < 0x20) (rest : List Char) :
    scanCharacters (c :: rest) =
      (scanCharacters rest >>= fun (values, rest) => pure (c :: values, rest)) := by
  rw [scanCharacters, if_neg noQuote, if_neg noEscape, if_neg noControl]

theorem scanCharactersWritten (c : Char) (rest : List Char) :
    scanCharacters ((escape c).toList ++ rest) =
      (scanCharacters rest >>= fun (values, rest) => pure (c :: values, rest)) := by
  unfold escape
  split
  · rename_i quote
    subst quote
    exact scanCharactersEscaped rfl
  split
  · rename_i backslash
    subst backslash
    exact scanCharactersEscaped rfl
  split
  · rename_i newline
    subst newline
    exact scanCharactersEscaped rfl
  split
  · rename_i tab
    subst tab
    exact scanCharactersEscaped rfl
  split
  · rename_i feed
    subst feed
    exact scanCharactersEscaped rfl
  split
  · rename_i code
    have known : c = Char.ofNat 0x08 := by rw [← code, Char.ofNat_toNat]
    exact scanCharactersEscaped (by rw [known]; rfl)
  split
  · rename_i code
    have known : c = Char.ofNat 0x0c := by rw [← code, Char.ofNat_toNat]
    exact scanCharactersEscaped (by rw [known]; rfl)
  split
  · rename_i control
    simp only [String.toList_append, String.toList_ofList]
    exact scanCharactersEscaped (scanEscapedControl c control rest)
  · rename_i noQuote noEscape _ _ _ _ _ noControl
    rw [Char.toString_eq_singleton, String.toList_singleton]
    exact scanCharactersPlain noQuote noEscape noControl rest

theorem scanCharactersQuoted (characters rest : List Char) :
    scanCharacters (characters.flatMap (fun c => (escape c).toList) ++ '"' :: rest) =
      .ok (characters, rest) := by
  induction characters with
  | nil =>
    rw [List.flatMap_nil, List.nil_append, scanCharacters, if_pos rfl]
  | cons c characters ih =>
    rw [List.flatMap_cons, List.append_assoc, scanCharactersWritten, ih]
    rfl

theorem quoteCharacters (text : String) :
    (quote text).toList =
      '"' :: (text.toList.flatMap (fun c => (escape c).toList) ++ ['"']) := by
  unfold quote
  simp only [String.toList_append, String.toList_join, List.flatMap_map]
  rfl

theorem quotedText (text : String) (rest : List Char) :
    ∃ tail, (quote text).toList ++ rest = '"' :: tail ∧ scanText tail = .ok (text, rest) := by
  refine ⟨text.toList.flatMap (fun c => (escape c).toList) ++ '"' :: rest, ?_, ?_⟩
  · rw [quoteCharacters, List.cons_append, List.append_assoc]
    rfl
  · unfold scanText
    rw [scanCharactersQuoted]
    simp only [bind, Except.bind, pure, Except.pure, String.ofList_toList]

section Integer

theorem digitWritten {n : Nat} {c : Char} (written : c ∈ Nat.toDigits 10 n) :
    Numeral.isDigit c = true := by
  have digit := Nat.isDigit_of_mem_toDigits (by decide) (by decide) written
  simpa [Char.isDigit, Numeral.isDigit, Char.le_def] using digit

theorem valueWritten (n : Nat) : Numeral.value (Nat.toDigits 10 n) = n := by
  have value := Nat.ofDigitChars_ten_toDigits (n := n)
  rw [Nat.ofDigitChars_eq_foldl] at value
  simp only [Nat.mul_comm 10] at value
  exact value

theorem leadingZero {n : Nat} (positive : 0 < n) : (Nat.toDigits 10 n).head? ≠ some '0' := by
  induction n using Nat.strongRecOn with
  | ind n ih =>
    by_cases small : n < 10
    · have known : ∀ n < 10, 0 < n → n.digitChar ≠ '0' := by decide
      rw [Nat.toDigits_of_lt_base small]
      simpa using known n small positive
    · have before := ih (n / 10) (by omega) (by omega)
      obtain ⟨first, others, shape⟩ :=
        List.exists_cons_of_ne_nil (Nat.toDigits_ne_nil (b := 10) (n := n / 10))
      rw [Nat.toDigits_of_base_le (by decide) (by omega), shape]
      rw [shape] at before
      exact before

theorem noNeedlessZero (n : Nat) :
    ((Nat.toDigits 10 n).head? = some '0' && 1 < (Nat.toDigits 10 n).length) = false := by
  rcases Nat.eq_zero_or_pos n with rfl | positive
  · rfl
  · simp [leadingZero positive]

theorem scanDigitsWritten (n : Nat) {rest : List Char}
    (ends : ∀ c ∈ rest.head?, Numeral.isDigit c = false) :
    scanDigits (Nat.toDigits 10 n ++ rest) = .ok (Nat.toDigits 10 n, rest) := by
  have taken : (Nat.toDigits 10 n ++ rest).takeWhile Numeral.isDigit = Nat.toDigits 10 n := by
    rw [List.takeWhile_append_of_pos (fun _ written => digitWritten written)]
    cases rest with
    | nil => simp
    | cons c rest => simp [ends c rfl]
  have dropped : (Nat.toDigits 10 n ++ rest).dropWhile Numeral.isDigit = rest := by
    rw [List.dropWhile_append_of_pos (fun _ written => digitWritten written)]
    cases rest with
    | nil => rfl
    | cons c rest => exact List.dropWhile_cons_of_neg (by simp [ends c rfl])
  unfold scanDigits
  rw [taken, dropped]
  split
  · rename_i none _
    exact absurd none Nat.toDigits_ne_nil
  · rename_i none _
    exact absurd none Nat.toDigits_ne_nil
  · rfl

theorem leadingAll (digits : List Char) (total : Nat)
    (small : digits.foldl (fun total c => total * 10 + Numeral.digit c) total < UInt64.size) :
    Numeral.leading total digits =
      (digits.foldl (fun total c => total * 10 + Numeral.digit c) total, 0) := by
  induction digits generalizing total with
  | nil => rfl
  | cons c digits ih =>
    have grows : ∀ (digits : List Char) (total : Nat),
        total ≤ digits.foldl (fun total c => total * 10 + Numeral.digit c) total := by
      intro digits
      induction digits with
      | nil => exact fun total => Nat.le_refl _
      | cons c digits ih =>
        intro total
        have later := ih (total * 10 + Numeral.digit c)
        rw [List.foldl_cons]
        omega
    have fits := Nat.lt_of_le_of_lt (grows digits (total * 10 + Numeral.digit c)) small
    have goesOn : Numeral.leading total (c :: digits) =
        if total * 10 + Numeral.digit c < UInt64.size then
          Numeral.leading (total * 10 + Numeral.digit c) digits
        else (total, digits.length + 1) := rfl
    rw [goesOn, if_pos fits]
    exact ih _ small

theorem notTooLarge {n : Nat} (small : n < UInt64.size) :
    Numeral.tooLarge (Nat.toDigits 10 n) [] 0 = false := by
  have value := valueWritten n
  unfold Numeral.value at value
  have all := leadingAll (Nat.toDigits 10 n) 0 (by rw [value]; exact small)
  have none : Numeral.leading n [] = (n, 0) := rfl
  unfold Numeral.tooLarge
  simp [all, value, none, Numeral.overflows]

def Stops (rest : List Char) : Prop :=
  ∀ c ∈ rest.head?, Numeral.isDigit c = false ∧ c ≠ '.'

theorem integerText (value : Int) :
    (toString value).toList =
      if value < 0 then '-' :: Nat.toDigits 10 value.natAbs else Nat.toDigits 10 value.natAbs := by
  rw [Int.toString_eq_repr, Int.repr_eq_if]
  by_cases negative : value < 0
  · have size : (-value).toNat = value.natAbs := by omega
    rw [if_neg (by omega), if_pos negative, size, Nat.repr_eq_ofList_toDigits]
    simp only [String.toList_append, String.toList_ofList]
    rfl
  · have size : value.toNat = value.natAbs := by omega
    rw [if_pos (by omega), if_neg negative, size, Nat.repr_eq_ofList_toDigits,
      String.toList_ofList]

theorem digitFirst {n : Nat} {rest tail : List Char} {c : Char}
    (shape : Nat.toDigits 10 n ++ rest = c :: tail) : Numeral.isDigit c = true := by
  obtain ⟨first, others, digits⟩ :=
    List.exists_cons_of_ne_nil (Nat.toDigits_ne_nil (b := 10) (n := n))
  have digit := digitWritten (n := n) (c := first) (by simp [digits])
  rw [digits, List.cons_append] at shape
  cases shape
  exact digit

theorem scanNumeralWritten (value : Int) {rest behind : List Char} {exponent : Option Int}
    (stops : Stops rest) (read : scanExponent rest = .ok (exponent, behind)) :
    scanNumeral ((toString value).toList ++ rest) =
      if Numeral.tooLarge (Nat.toDigits 10 value.natAbs) [] (exponent.getD 0) then
        .error .malformed
      else .ok (⟨decide (value < 0), value.natAbs, exponent.isNone⟩, behind) := by
  have digits := scanDigitsWritten value.natAbs (fun c first => (stops c first).1)
  have noFraction : ∀ tail, rest ≠ '.' :: tail := by
    intro tail point
    subst point
    exact (stops '.' rfl).2 rfl
  rw [integerText]
  by_cases negative : value < 0
  · rw [if_pos negative, List.cons_append]
    unfold scanNumeral
    simp only [digits, noNeedlessZero, valueWritten, read, bind, Except.bind, pure, Except.pure]
    simp [negative]
  · rw [if_neg negative]
    unfold scanNumeral
    split
    rename_i signed
    split at signed
    · rename_i dashed
      exact absurd (digitFirst dashed) (by decide)
    · cases signed
      simp only [digits, noNeedlessZero, valueWritten, read, bind, Except.bind, pure, Except.pure]
      simp [negative]

theorem scanExponentNone {rest : List Char} (ends : ∀ c ∈ rest.head?, c ≠ 'e' ∧ c ≠ 'E') :
    scanExponent rest = .ok (none, rest) := by
  cases rest with
  | nil => rfl
  | cons c rest =>
    obtain ⟨small, capital⟩ := ends c rfl
    unfold scanExponent
    simp [small, capital]

theorem scanExponentWritten (value : Int) {rest : List Char}
    (ends : ∀ c ∈ rest.head?, Numeral.isDigit c = false) :
    ∃ exponent, scanExponent ('e' :: ((toString value).toList ++ rest)) =
      .ok (some exponent, rest) := by
  have digits := scanDigitsWritten value.natAbs ends
  rw [integerText]
  by_cases negative : value < 0
  · rw [if_pos negative, List.cons_append]
    unfold scanExponent
    simp only [digits, bind, Except.bind, pure, Except.pure]
    exact ⟨_, rfl⟩
  · rw [if_neg negative]
    rw [scanExponent, if_pos (by decide)]
    · simp only [digits, bind, Except.bind, pure, Except.pure]
      exact ⟨_, rfl⟩
    · exact fun _ plus => absurd (digitFirst plus) (by decide)
    · exact fun _ minus => absurd (digitFirst minus) (by decide)

theorem wordWritten (value : Int) :
    Numeral.word? ⟨decide (value < 0), value.natAbs, true⟩ =
      if Int64.minValue.toInt ≤ value ∧ value ≤ Int64.maxValue.toInt then some (Int64.ofInt value)
      else none := by
  have sign :
      (if decide (value < 0) = true then -(value.natAbs : Int) else value.natAbs) = value := by
    by_cases negative : value < 0
    · rw [if_pos (decide_eq_true negative)]
      omega
    · rw [if_neg (by simpa using negative)]
      omega
  have notMinusZero : (decide (value < 0) && decide (value.natAbs = 0)) = false := by
    simp only [Bool.and_eq_false_iff, decide_eq_false_iff_not]
    omega
  unfold Numeral.word?
  simp only [sign, notMinusZero]
  simp

end Integer

end OutcomeAlgebra.Json
