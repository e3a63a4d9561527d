import DeltaDebugging.Text.HiddenTable

/-!
# Quoted text

A text between double quotes in which the quote, the backslash and every character that
would not show as one of its own are written as escapes.
-/
namespace DeltaDebugging.Text

def isHidden (c : Char) : Bool :=
  c.toNat < 0x20 || c.toNat == 0x7f ||
    (0x80 ≤ c.toNat && HiddenTable.ranges.any fun r => r.1 ≤ c.toNat && c.toNat ≤ r.2)

def hexDigits (n : Nat) : String := String.ofList (Nat.toDigits 16 n)

def escape (c : Char) : String :=
  if c = '\x00' then "\\0"
  else if c = '\t' then "\\t"
  else if c = '\n' then "\\n"
  else if c = '\r' then "\\r"
  else if c = '"' then "\\\""
  else if c = '\\' then "\\\\"
  else if isHidden c then "\\u\x7b" ++ hexDigits c.toNat ++ "\x7d"
  else String.singleton c

def quoted (s : String) : String := "\"" ++ String.join (s.toList.map escape) ++ "\""

end DeltaDebugging.Text
