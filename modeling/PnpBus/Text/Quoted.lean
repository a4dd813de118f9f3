import PnpBus.Text.Hidden

/-!
# Quoted text and hexadecimal numbers

`quote` writes text between double quotes with backslash escapes: the four
control characters that have a letter, the quote and the backslash, and a
number in braces for whatever cannot be seen. `hex` writes at least two
upper-case digits.
-/

namespace PnpBus

namespace Text

def lowerDigits (n : Nat) : String := String.ofList (Nat.toDigits 16 n)

/-- Hexadecimal in capitals, padded to two digits. -/
def hex (n : Nat) : String :=
  let digits := (Nat.toDigits 16 n).map Char.toUpper
  String.ofList (if digits.length < 2 then '0' :: digits else digits)

def escape (c : Char) : String :=
  if c = '\x00' then "\\0"
  else if c = '\t' then "\\t"
  else if c = '\r' then "\\r"
  else if c = '\n' then "\\n"
  else if c = '"' then "\\\""
  else if c = '\\' then "\\\\"
  else if isHidden c then "\\u\x7b" ++ lowerDigits c.toNat ++ "\x7d"
  else String.singleton c

def quote (s : String) : String := "\"" ++ String.join (s.toList.map escape) ++ "\""

/-- Equality up to the case of the ASCII letters. -/
def sameIgnoringCase (s t : String) : Bool := s.toList.map Char.toLower == t.toList.map Char.toLower

end Text

end PnpBus
