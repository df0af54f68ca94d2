import AppLint.Text.Unprintable

/-! Texts between double quotes, with what cannot be shown written as an escape. -/
namespace AppLint
namespace Text

def isPrintable (c : Char) : Bool :=
  let n := c.toNat
  if n < 128 then 32 ≤ n && n < 127
  else !inRanges n unprintableRanges && !inRanges n graphemeExtendRanges

def hexDigits (n : Nat) : List Char := Nat.toDigits 16 n

def quoteChar (c : Char) : List Char :=
  if c == '"' then ['\\','"']
  else if c == '\\' then ['\\','\\']
  else if c == '\t' then ['\\','t']
  else if c == '\r' then ['\\','r']
  else if c == '\n' then ['\\','n']
  else if c.toNat == 0 then ['\\','0']
  else if isPrintable c then [c]
  else ['\\','u','\x7b'] ++ hexDigits c.toNat ++ ['\x7d']

/-- The text in double quotes: quotes and backslashes escaped, unprintable characters by number. -/
def quoted (s : String) : String :=
  String.ofList ('"' :: s.toList.flatMap quoteChar ++ ['"'])

end Text
end AppLint
