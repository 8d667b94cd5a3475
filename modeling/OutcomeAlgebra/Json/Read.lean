import OutcomeAlgebra.Either.Basic
import OutcomeAlgebra.Json.Scan
/-! Reading JSON text straight into a type. Text is read once, from the left, and
the first thing that is wrong for the type decides the fault. -/
namespace OutcomeAlgebra.Json

variable {α L R : Type}

def readBool : Scan Bool := fun text =>
  match skipBlanks text with
  | 't' :: rest => do
    let (_, rest) ← scanWord ['r', 'u', 'e'] rest
    pure (true, rest)
  | 'f' :: rest => do
    let (_, rest) ← scanWord ['a', 'l', 's', 'e'] rest
    pure (false, rest)
  | text => .error (mismatch text)

def readText : Scan String := fun text =>
  match skipBlanks text with
  | '"' :: rest => scanText rest
  | text => .error (mismatch text)

def readWord : Scan Int64 := fun text =>
  match skipBlanks text with
  | [] => .error .truncated
  | c :: rest =>
    if c = '-' || Numeral.isDigit c then do
      let (numeral, rest) ← scanNumeral (c :: rest)
      match numeral.word? with
      | some value => pure (value, rest)
      | none => .error .mismatched
    else .error (mismatch (c :: rest))

def readNullable (inner : Scan α) : Scan (Option α) := fun text =>
  match skipBlanks text with
  | 'n' :: rest => do
    let (_, rest) ← scanWord ['u', 'l', 'l'] rest
    pure (none, rest)
  | text => do
    let (value, rest) ← inner text
    pure (some value, rest)

/-- Reads the items behind the first one. Every item is led by a comma, so
the length of the text bounds their number. -/
def readRest (inner : Scan α) : (bound : Nat) → Scan (List α)
  | 0, _ => .error .malformed
  | bound + 1, text =>
    match skipBlanks text with
    | [] => .error .truncated
    | ']' :: rest => pure ([], rest)
    | ',' :: rest =>
      match skipBlanks rest with
      | [] => .error .truncated
      | ']' :: _ => .error .malformed
      | rest => do
        let (value, rest) ← inner rest
        let (values, rest) ← readRest inner bound rest
        pure (value :: values, rest)
    | _ => .error .malformed

def readList (inner : Scan α) : Scan (List α) := fun text =>
  match skipBlanks text with
  | '[' :: rest =>
    match skipBlanks rest with
    | [] => .error .truncated
    | ']' :: rest => pure ([], rest)
    | rest => do
      let (value, rest) ← inner rest
      let (values, rest) ← readRest inner (rest.length + 1) rest
      pure (value :: values, rest)
  | text => .error (mismatch text)

def readMark (mark : Char) : Scan Unit := fun text =>
  match skipBlanks text with
  | [] => .error .truncated
  | c :: rest => if c = mark then pure ((), rest) else .error .malformed

def readName : Scan String := fun text =>
  match skipBlanks text with
  | [] => .error .truncated
  | '"' :: rest => scanText rest
  | _ => .error .malformed

def readEither (left : Scan L) (right : Scan R) : Scan (Either L R) := fun text =>
  match skipBlanks text with
  | [] => .error .truncated
  | '\x7b' :: rest => do
    let (tag, rest) ← readName rest
    if tag = "Left" then
      let (_, rest) ← readMark ':' rest
      let (value, rest) ← left rest
      let (_, rest) ← readMark '\x7d' rest
      pure (.left value, rest)
    else if tag = "Right" then
      let (_, rest) ← readMark ':' rest
      let (value, rest) ← right rest
      let (_, rest) ← readMark '\x7d' rest
      pure (.right value, rest)
    else .error .mismatched
  | '"' :: rest => .error (mismatch ('"' :: rest))
  | _ => .error .malformed

def readDocument (inner : Scan α) (text : String) : Except Fault α := do
  let (value, rest) ← inner text.toList
  if (skipBlanks rest).isEmpty then pure value else .error .malformed

end OutcomeAlgebra.Json
