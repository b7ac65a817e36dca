import ToneLink.Text.CasedTable

/-!
# Lowercase text

Device names are compared in lowercase. Two characters follow no simple mapping: a capital I with a
dot becomes two characters, and a capital sigma becomes the final form of the letter at the end of a
word, that is where a letter stands somewhere before it and none after it.
-/

namespace ToneLink.Text

/-- The lowercase form of a character by the simple mappings. -/
def lowerChar (c : Char) : Char :=
  match lowerRuns.find? fun r =>
      r.first ≤ c.toNat && c.toNat ≤ r.last && (c.toNat - r.first) % r.step == 0 with
  | some r => Char.ofNat (c.toNat + r.shift).toNat
  | none => c

/-- Whether the first character that is not looked through has case. -/
def leadsToCased : List Char → Bool
  | [] => false
  | c :: rest =>
    if caseIgnorableRanges.contains c then leadsToCased rest else casedRanges.contains c

/-- Lowercases a text; `before` is what stands before it, nearest character first. -/
def lowerFrom (before : List Char) : List Char → List Char
  | [] => []
  | c :: rest =>
    let lowered :=
      if c = 'Σ' then
        [if leadsToCased before && !leadsToCased rest then 'ς' else 'σ']
      else if c = 'İ' then ['i', Char.ofNat 0x307]
      else [lowerChar c]
    lowered ++ lowerFrom (c :: before) rest

/-- The text in lowercase. -/
def lowercase (text : String) : String := String.ofList (lowerFrom [] text.toList)

/-- Whether `part` occurs in a text. -/
def occursIn (part : List Char) : List Char → Bool
  | [] => part.isEmpty
  | c :: rest => part.isPrefixOf (c :: rest) || occursIn part rest

/-- Whether `part` occurs in `text` if case is disregarded. -/
def containsIgnoringCase (text part : String) : Bool :=
  occursIn (lowercase part).toList (lowercase text).toList

end ToneLink.Text
