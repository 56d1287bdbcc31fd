import Remit.Text.Basic

/-!
# Whole numbers in decimal

Reading and writing of whole numbers. A number is read from at most `digitLimit` digits; leading
zeros count as digits, a sign does not.

* `leadingInteger` reads the number a text begins with and ignores what follows.
* `wholeInteger` reads a text that is a number as a whole and allows single underscores between
  digits.
-/

namespace Remit.Text

/-- The most digits that a number is read from. -/
def digitLimit : Nat := 4300

/-- The value of a run of decimal digits. -/
def decimalValue (digits : Text) : Nat :=
  Nat.ofDigitChars 10 digits 0

/-- The decimal digits of a natural number, without leading zeros. -/
def natText (n : Nat) : Text :=
  Nat.toDigits 10 n

/-- Digits with zeros before them up to a width. -/
def zeroPadded (width : Nat) (digits : Text) : Text :=
  List.replicate (width - digits.length) '0' ++ digits

/-- A natural number in at least `width` hexadecimal digits. -/
def hexText (width n : Nat) : Text :=
  zeroPadded width (Nat.toDigits 16 n)

/-- A whole number in decimal, with a minus sign when it is negative. -/
def integerText : Int → Text
  | .ofNat n => natText n
  | .negSucc n => '-' :: natText (n + 1)

/-- An optional sign and what follows it; the first part says whether the sign is a minus. -/
def signAndRest : Text → Bool × Text
  | '+' :: rest => (false, rest)
  | '-' :: rest => (true, rest)
  | rest => (false, rest)

/-- The number with the given sign and size. -/
def signed (negative : Bool) (size : Nat) : Int :=
  if negative then -(size : Int) else size

/-- The whole number at the start of a text, after white space and an optional sign: the digits up
to the first character that is no ASCII digit. There is none without digits or beyond the
limit. -/
def leadingInteger (t : Text) : Option Int :=
  let (negative, rest) := signAndRest (trim t)
  let digits := rest.takeWhile Char.isDigit
  if digits.isEmpty || digitLimit < digits.length then none
  else some (signed negative (decimalValue digits))

/-- White space that may stand around a number: every kind but the information separators. -/
def isNumberBlank (c : Char) : Bool :=
  isBlank c && !(0x1c ≤ c.toNat && c.toNat ≤ 0x1f)

/-- A text without the white space that may stand around a number. -/
def trimNumber (t : Text) : Text :=
  ((t.dropWhile isNumberBlank).reverse.dropWhile isNumberBlank).reverse

/-- A text without the single underscores that divide it into groups. There is none where a group
is empty, as beside two underscores in a row or one at an end. -/
def ungrouped? (t : Text) : Option Text :=
  let groups := t.splitOn '_'
  if groups.any List.isEmpty then none else some groups.flatten

/-- Why a text is not read as a whole number. -/
inductive NumberError where
  /-- The text does not spell a number. -/
  | malformed
  /-- The text begins with more digits than a number is read from. -/
  | tooManyDigits (found : Nat)
  deriving DecidableEq

/-- The whole number that a text spells: an optional sign and digits in groups, with white space
allowed around them. The digits are counted before the rest of the text is looked at. -/
def wholeInteger (t : Text) : Except NumberError Int :=
  let (negative, body) := signAndRest (trimNumber t)
  let belongs (c : Char) := c.isDigit || c == '_'
  match ungrouped? (body.takeWhile belongs) with
  | none => .error .malformed
  | some digits =>
    if digitLimit < digits.length then .error (.tooManyDigits digits.length)
    else if body.all belongs then .ok (signed negative (decimalValue digits))
    else .error .malformed

/-! ## Digits of every script -/

/-- The zeros of the scripts that write decimal numbers with ten consecutive characters, as the
Unicode character database lists them (version 14.0). -/
def scriptZeros : List Nat := [
  0x30, 0x660, 0x6f0, 0x7c0, 0x966, 0x9e6, 0xa66, 0xae6, 0xb66, 0xbe6, 0xc66, 0xce6, 0xd66, 0xde6,
  0xe50, 0xed0, 0xf20, 0x1040, 0x1090, 0x17e0, 0x1810, 0x1946, 0x19d0, 0x1a80, 0x1a90, 0x1b50,
  0x1bb0, 0x1c40, 0x1c50, 0xa620, 0xa8d0, 0xa900, 0xa9d0, 0xa9f0, 0xaa50, 0xabf0, 0xff10, 0x104a0,
  0x10d30, 0x11066, 0x110f0, 0x11136, 0x111d0, 0x112f0, 0x11450, 0x114d0, 0x11650, 0x116c0,
  0x11730, 0x118e0, 0x11950, 0x11c50, 0x11d50, 0x11da0, 0x16a60, 0x16ac0, 0x16b50, 0x1d7ce,
  0x1d7d8, 0x1d7e2, 0x1d7ec, 0x1d7f6, 0x1e140, 0x1e2f0, 0x1e950, 0x1fbf0]

/-- A decimal digit of any script as an ASCII digit; any other character as it is. -/
def plainDigit (c : Char) : Char :=
  match scriptZeros.find? fun z => z ≤ c.toNat && c.toNat < z + 10 with
  | some z => Char.ofNat (0x30 + (c.toNat - z))
  | none => c

end Remit.Text
