import OutcomeAlgebra.Shown.Hidden
/-! A string between double quotes, one line whatever it holds. Quotes and
backslashes are escaped, and so is every character that would not show; all
other characters stand for themselves. -/
namespace OutcomeAlgebra.Quoted

def hexadecimal (n : Nat) : String := String.ofList (Nat.toDigits 16 n)

def escape (c : Char) : String :=
  if c = '"' then "\\\""
  else if c = '\\' then "\\\\"
  else if c = '\n' then "\\n"
  else if c = '\t' then "\\t"
  else if c = '\r' then "\\r"
  else if c.toNat = 0 then "\\0"
  else if Hidden.holds c then "\\u\x7b" ++ hexadecimal c.toNat ++ "\x7d"
  else c.toString

def quote (text : String) : String :=
  "\"" ++ String.join (text.toList.map escape) ++ "\""

end OutcomeAlgebra.Quoted
