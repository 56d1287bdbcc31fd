/-!
# Texts

A text is the list of its characters, so positions and lengths count characters. This module holds
the four operations that instructions are read with:

* `trim`, which drops white space at both ends;
* `pieces` and `normalize`, which reduce a text to its non-blank pieces between single spaces;
* `indexOf?`, the first place where a phrase occurs;
* `cut`, the characters between two positions.
-/

namespace Remit

/-- A text, as the list of its characters. -/
abbrev Text := List Char

namespace Text

/-! ## White space -/

/-- The ranges of white-space characters. They are those of the Unicode property `White_Space` and
the four information separators U+001C to U+001F. -/
def blankRanges : List (Nat × Nat) := [
  (0x09, 0x0d), (0x1c, 0x20), (0x85, 0x85), (0xa0, 0xa0), (0x1680, 0x1680), (0x2000, 0x200a),
  (0x2028, 0x2029), (0x202f, 0x202f), (0x205f, 0x205f), (0x3000, 0x3000)]

/-- Whether a character is white space. -/
def isBlank (c : Char) : Bool :=
  blankRanges.any fun r => r.1 ≤ c.toNat && c.toNat ≤ r.2

/-- The text without the white space at its end. -/
def trimEnd (t : Text) : Text :=
  (t.reverse.dropWhile isBlank).reverse

/-- The text without the white space at either end. -/
def trim (t : Text) : Text :=
  trimEnd (t.dropWhile isBlank)

/-! ## Pieces between spaces -/

/-- A text of white space only; the empty text is one. -/
def isBlankText (t : Text) : Bool :=
  t.all isBlank

/-- The pieces of a text between its spaces, leaving out blank ones. Only the space U+0020 divides
pieces: other white space stays inside them. -/
def pieces (t : Text) : List Text :=
  (t.splitOn ' ').filter fun p => !isBlankText p

/-- The texts written one after another with single spaces between them. -/
def unpieces (ps : List Text) : Text :=
  [' '].intercalate ps

/-- A text reduced to its non-blank pieces, with one space between neighbours. -/
def normalize (t : Text) : Text :=
  unpieces (pieces t)

/-! ## Places in a text -/

/-- The first position at which `phrase` occurs in a text. -/
def indexOf? (phrase : Text) : Text → Option Nat
  | [] => if phrase.isEmpty then some 0 else none
  | c :: rest =>
    if phrase.isPrefixOf (c :: rest) then some 0 else (indexOf? phrase rest).map (· + 1)

/-- The characters from position `start` up to but not including position `stop`. Positions beyond
the end are cut to it, and a `start` that is not before `stop` gives the empty text. -/
def cut (t : Text) (start stop : Nat) : Text :=
  (t.take stop).drop start

end Text
end Remit
