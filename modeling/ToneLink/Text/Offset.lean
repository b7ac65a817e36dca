/-!
# Places in a text

A place in a text is the number of bytes before it, in the encoding of text as bytes. Not every
number of bytes is a place: it may lead into the middle of a character.

- `Text.marked`: the characters of a text with their places;
- `Text.part?`: what stands between two places.
-/

namespace ToneLink.Text

/-- Characters with their places. -/
abbrev Marked := List (Nat × Char)

/-- The characters of a text that starts at a place. -/
def marked (place : Nat) : List Char → Marked
  | [] => []
  | c :: rest => (place, c) :: marked (place + c.utf8Size) rest

/-- What stands behind so many bytes. -/
def dropBytes? : (count : Nat) → List Char → Option (List Char)
  | 0, text => some text
  | _ + 1, [] => none
  | count + 1, c :: rest =>
    if c.utf8Size ≤ count + 1 then dropBytes? (count + 1 - c.utf8Size) rest else none

/-- So many bytes from the front. -/
def takeBytes? : (count : Nat) → List Char → Option (List Char)
  | 0, _ => some []
  | _ + 1, [] => none
  | count + 1, c :: rest =>
    if c.utf8Size ≤ count + 1 then (takeBytes? (count + 1 - c.utf8Size) rest).map (c :: ·) else none

/-- What stands between two places; nothing, if one of them is none. -/
def part? (text : List Char) (start stop : Nat) : Option String :=
  ((dropBytes? start text).bind (takeBytes? (stop - start))).map String.ofList

/-- What stands behind a place. -/
def rest? (text : List Char) (start : Nat) : Option String :=
  (dropBytes? start text).map String.ofList

end ToneLink.Text
