import ToneLink.Text.PrintableTable

/-!
# Quoted text

Text that comes from a user is quoted in messages: double quotes and backslashes get a backslash,
four controls have short names, and whatever cannot be seen, or would attach itself to the character
before it, is written as its code point.
-/

namespace ToneLink.Text

/-- A code point in braces, in lowercase hexadecimal digits. -/
def codePoint (c : Char) : String :=
  "\\u\x7b" ++ String.ofList (Nat.toDigits 16 c.toNat) ++ "\x7d"

/-- A character as it stands between quotes. -/
def quotedChar (c : Char) : String :=
  if c = Char.ofNat 0 then "\\0"
  else if c = '\t' then "\\t"
  else if c = '\r' then "\\r"
  else if c = '\n' then "\\n"
  else if c = '"' then "\\\""
  else if c = '\\' then "\\\\"
  else if extendingRanges.contains c then codePoint c
  else if unprintableRanges.contains c then codePoint c
  else c.toString

/-- The text between double quotes. -/
def quoted (text : String) : String :=
  "\"" ++ String.join (text.toList.map quotedChar) ++ "\""

end ToneLink.Text
