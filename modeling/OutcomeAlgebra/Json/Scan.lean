/-! The tokens of JSON text: words, strings and numbers, each read off the front of
the characters that are left. A fault says whether the text ended too early, is
no JSON at all, or is JSON of another type; the first that shows decides. -/
namespace OutcomeAlgebra.Json

inductive Fault where
  | truncated
  | malformed
  | mismatched
  deriving DecidableEq, Repr

def Fault.name : Fault → String
  | .truncated => "eof"
  | .malformed => "syntax"
  | .mismatched => "data"

abbrev Scan (α : Type) : Type := List Char → Except Fault (α × List Char)

def isBlank (c : Char) : Bool := c = ' ' || c = '\n' || c = '\t' || c = '\r'

def skipBlanks (text : List Char) : List Char := text.dropWhile isBlank

def scanWord : (letters : List Char) → Scan Unit
  | [], text => .ok ((), text)
  | _ :: _, [] => .error .truncated
  | letter :: letters, c :: text =>
    if c = letter then scanWord letters text else .error .malformed

def hexValue? (c : Char) : Option Nat :=
  if '0' ≤ c ∧ c ≤ '9' then some (c.toNat - '0'.toNat)
  else if 'a' ≤ c ∧ c ≤ 'f' then some (c.toNat - 'a'.toNat + 10)
  else if 'A' ≤ c ∧ c ≤ 'F' then some (c.toNat - 'A'.toNat + 10)
  else none

def byteLength (text : List Char) : Nat :=
  text.foldl (fun total c => total + c.utf8Size) 0

def scanHex : Scan Nat := fun text =>
  if byteLength text < 4 then .error .truncated
  else
    match text with
    | a :: b :: c :: d :: rest =>
      match hexValue? a, hexValue? b, hexValue? c, hexValue? d with
      | some a, some b, some c, some d => .ok (((a * 16 + b) * 16 + c) * 16 + d, rest)
      | _, _, _, _ => .error .malformed
    | _ => .error .malformed

def scanUnits : Scan Char := fun text => do
  let (first, rest) ← scanHex text
  if first < 0xd800 || 0xdfff < first then pure (Char.ofNat first, rest)
  else if 0xdbff < first then .error .malformed
  else
    match rest with
    | '\\' :: 'u' :: rest =>
      let (second, rest) ← scanHex rest
      if second < 0xdc00 || 0xdfff < second then .error .malformed
      else
        pure (Char.ofNat (0x10000 + (first - 0xd800) * 0x400 + (second - 0xdc00)), rest)
    | [] | ['\\'] => .error .truncated
    | _ => .error .malformed

def scanEscape : Scan Char
  | [] => .error .truncated
  | 'u' :: rest => scanUnits rest
  | '"' :: rest => .ok ('"', rest)
  | '\\' :: rest => .ok ('\\', rest)
  | '/' :: rest => .ok ('/', rest)
  | 'b' :: rest => .ok (Char.ofNat 0x08, rest)
  | 'f' :: rest => .ok (Char.ofNat 0x0c, rest)
  | 'n' :: rest => .ok ('\n', rest)
  | 'r' :: rest => .ok ('\r', rest)
  | 't' :: rest => .ok ('\t', rest)
  | _ :: _ => .error .malformed

theorem scanHexShorter {text rest : List Char} {value : Nat}
    (read : scanHex text = .ok (value, rest)) : rest.length < text.length := by
  unfold scanHex at read
  split at read
  · contradiction
  · split at read
    · split at read
      · cases read
        simp
        omega
      · contradiction
    · contradiction

theorem scanUnitsShorter {text rest : List Char} {value : Char}
    (read : scanUnits text = .ok (value, rest)) : rest.length < text.length := by
  unfold scanUnits at read
  cases first : scanHex text with
  | error fault => simp [first, bind, Except.bind] at read
  | ok pair =>
    obtain ⟨unit, middle⟩ := pair
    have short := scanHexShorter first
    simp only [first, bind, Except.bind, pure, Except.pure] at read
    split at read
    · cases read
      exact short
    · split at read
      · contradiction
      · split at read
        · rename_i tail
          cases second : scanHex tail with
          | error fault => simp [second] at read
          | ok pair =>
            obtain ⟨low, behind⟩ := pair
            have shorter := scanHexShorter second
            simp only [second] at read
            split at read
            · contradiction
            · simp only [Except.ok.injEq, Prod.mk.injEq] at read
              simp only [List.length_cons] at short
              rw [← read.2]
              omega
        · contradiction
        · contradiction
        · contradiction

theorem scanEscapeShorter {text rest : List Char} {value : Char}
    (read : scanEscape text = .ok (value, rest)) : rest.length < text.length := by
  unfold scanEscape at read
  split at read
  all_goals first
    | contradiction
    | (have shorter := scanUnitsShorter read; simp; omega)
    | (cases read; simp)

def scanCharacters : Scan (List Char)
  | [] => .error .truncated
  | c :: rest =>
    if c = '"' then .ok ([], rest)
    else if c = '\\' then
      match _escaped : scanEscape rest with
      | .error fault => .error fault
      | .ok (value, rest) => do
        let (values, rest) ← scanCharacters rest
        pure (value :: values, rest)
    else if c.toNat < 0x20 then .error .malformed
    else do
      let (values, rest) ← scanCharacters rest
      pure (c :: values, rest)
termination_by text => text.length
decreasing_by
  · have shorter := scanEscapeShorter _escaped
    simp
    omega
  · simp

def scanText : Scan String := fun text => do
  let (characters, rest) ← scanCharacters text
  pure (String.ofList characters, rest)

structure Numeral where
  negative : Bool
  magnitude : Nat
  whole : Bool
  deriving DecidableEq, Repr

namespace Numeral

def isDigit (c : Char) : Bool := '0' ≤ c && c ≤ '9'

def digit (c : Char) : Nat := c.toNat - '0'.toNat

def value (digits : List Char) : Nat :=
  digits.foldl (fun total c => total * 10 + digit c) 0

def leading (value : Nat) : List Char → Nat × Nat
  | [] => (value, 0)
  | c :: rest =>
    let next := value * 10 + digit c
    if next < 2 ^ 64 then leading next rest else (value, rest.length + 1)

def overflows (value : Nat) (exponent : Int) : Bool :=
  if value = 0 || exponent ≤ 0 then false
  else if 308 < exponent then true
  else (Float.ofNat value * Float.ofScientific 1 false exponent.toNat).isInf

/-- Whether a number is too large for a double. Its leading digits decide; those
left over count as a power of ten in front of the point, and not at all behind it. -/
def tooLarge (integer fraction : List Char) (exponent : Int) : Bool :=
  let (value, left) := leading 0 integer
  let (value, unread) := leading value fraction
  overflows value (exponent + left - (fraction.length - unread : Nat))

def word? (numeral : Numeral) : Option Int64 :=
  let magnitude : Int := numeral.magnitude
  let value := if numeral.negative then -magnitude else magnitude
  if numeral.whole && !(numeral.negative && numeral.magnitude = 0)
      && Int64.minValue.toInt ≤ value && value ≤ Int64.maxValue.toInt then
    some (Int64.ofInt value)
  else none

end Numeral

def scanDigits : Scan (List Char) := fun text =>
  match text.takeWhile Numeral.isDigit, text with
  | [], [] => .error .truncated
  | [], _ :: _ => .error .malformed
  | digits, _ => .ok (digits, text.dropWhile Numeral.isDigit)

def scanExponent : Scan (Option Int)
  | c :: text =>
    if c = 'e' || c = 'E' then do
      let (sign, text) := match text with
        | '+' :: text => ((1 : Int), text)
        | '-' :: text => (-1, text)
        | text => (1, text)
      let (digits, rest) ← scanDigits text
      pure (some (sign * Numeral.value digits), rest)
    else .ok (none, c :: text)
  | [] => .ok (none, [])

def scanNumeral : Scan Numeral := fun text => do
  let (negative, text) := match text with
    | '-' :: text => (true, text)
    | text => (false, text)
  let (integer, rest) ← scanDigits text
  if integer.head? = some '0' && 1 < integer.length then .error .malformed
  else
    let (fraction, rest) ← match rest with
      | '.' :: rest => scanDigits rest
      | rest => pure ([], rest)
    let (exponent, rest) ← scanExponent rest
    if Numeral.tooLarge integer fraction (exponent.getD 0) then .error .malformed
    else
      pure (⟨negative, Numeral.value integer, fraction.isEmpty && exponent.isNone⟩, rest)

def mismatch (text : List Char) : Fault :=
  let seen {α : Type} (scanned : Except Fault α) : Fault :=
    match scanned with
    | .ok _ => .mismatched
    | .error fault => fault
  match text with
  | [] => .truncated
  | 'n' :: rest => seen (scanWord ['u', 'l', 'l'] rest)
  | 't' :: rest => seen (scanWord ['r', 'u', 'e'] rest)
  | 'f' :: rest => seen (scanWord ['a', 'l', 's', 'e'] rest)
  | '"' :: rest => seen (scanText rest)
  | '[' :: _ => .mismatched
  | '\x7b' :: _ => .mismatched
  | c :: rest =>
    if c = '-' || Numeral.isDigit c then seen (scanNumeral (c :: rest)) else .malformed

end OutcomeAlgebra.Json
