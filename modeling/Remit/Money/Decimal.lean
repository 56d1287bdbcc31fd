import Remit.Money.Double
import Remit.Text.Numeral

/-!
# Binary64 numbers in decimal

* `Double.ofDecimal` is the nearest number to decimal digits with an exponent.
* `Double.shortestDecimal` finds the fewest digits that read back as the same number, and among
  those the nearest to it.
* `Double.text` lays the digits out: positional notation for exponents from -4 to 15, always with a
  point, and scientific notation beyond.
-/

namespace Remit

open Text

/-- A power of ten. -/
def tenPow (k : Nat) : Nat :=
  Nat.pow 10 k

/-- A decimal number `digits * 10 ^ exponent`. -/
structure Decimal where
  digits : Nat
  exponent : Int
  deriving DecidableEq

namespace Decimal

/-- The number of digits. Zero has one. -/
def length (d : Decimal) : Nat :=
  (natText d.digits).length

/-- The exponent of the first digit: the number is `d.ddd * 10 ^ leading`. -/
def leading (d : Decimal) : Int :=
  d.length - 1 + d.exponent

/-- The number as a ratio of two whole numbers, counted in units. -/
def ratio (d : Decimal) : Nat × Nat :=
  match d.exponent with
  | .ofNat e => (d.digits * tenPow e * unitsPerOne, 1)
  | .negSucc e => (d.digits * unitsPerOne, tenPow (e + 1))

/-- The nearest count of units. -/
def units (d : Decimal) : Nat :=
  nearest d.ratio.1 d.ratio.2

end Decimal

namespace Double

/-- The number nearest to a decimal one. Numbers of `10 ^ 310` or more are infinite and numbers
below `10 ^ -330` are zero, whatever their digits. -/
def ofDecimal (negative : Bool) (d : Decimal) : Double :=
  if d.digits = 0 then zero negative
  else if 310 ≤ d.leading then .infinite negative
  else if d.leading < -330 then zero negative
  else ofRatio negative d.ratio.1 d.ratio.2

/-! ## The shortest digits -/

/-- The exponent of the first decimal digit of a count of units that is not zero. The shift by 324
places makes the smallest count larger than 1, so the whole part keeps every leading digit. -/
def leadingExponent (units : Nat) : Int :=
  (natText (units * tenPow 324 / unitsPerOne)).length - 325

/-- The decimal number with `length` digits that reads back as the count of units. Of the two
neighbours on that grid the nearer is taken, and the even one when both are equally near. -/
def decimalOfLength? (units length : Nat) : Option Decimal :=
  let exponent := leadingExponent units - (length - 1)
  let (num, den) := match exponent with
    | .ofNat e => (units, unitsPerOne * tenPow e)
    | .negSucc e => (units * tenPow (e + 1), unitsPerOne)
  let low : Decimal := ⟨num / den, exponent⟩
  let high : Decimal := ⟨num / den + 1, exponent⟩
  let upward := low.digits != roundHalfEven num den
  match decide (low.units = units), decide (high.units = units) with
  | true, true => some (if upward then high else low)
  | true, false => some low
  | false, true => some high
  | false, false => none

/-- The fewest digits that read back as the count of units. Seventeen always do; the exact decimal
expansion stands in for the case that cannot arise. -/
def shortestDecimal (units : Nat) : Decimal :=
  match (List.range' 1 17).findSome? (decimalOfLength? units) with
  | some d => d
  | none => ⟨units * Nat.pow 5 1074, -1074⟩

/-! ## Layout -/

/-- How the digits of a number are laid out. -/
structure NumberLayout where
  /-- The least leading exponent written in positional notation. -/
  positionalFrom : Int
  /-- The first leading exponent written in scientific notation again. -/
  positionalTo : Int
  /-- The least number of digits of an exponent. -/
  exponentWidth : Nat

/-- Balances are written positionally from `0.0001` up to below `1e+16`, and exponents have two
digits at least. -/
def layout : NumberLayout := ⟨-4, 16, 2⟩

/-- Digits with a point after the first `whole` ones, and zeros where digits are missing. A zero
follows a point at the end. -/
def pointedText (digits : Text) (whole : Nat) : Text :=
  if digits.length ≤ whole then
    digits ++ List.replicate (whole - digits.length) '0' ++ ['.', '0']
  else digits.take whole ++ '.' :: digits.drop whole

/-- An exponent with its sign. -/
def exponentText (l : NumberLayout) (exponent : Int) : Text :=
  (if exponent < 0 then '-' else '+') :: zeroPadded l.exponentWidth (natText exponent.natAbs)

/-- A decimal number in a layout. Zeros at the end of its digits are not written. -/
def decimalText (l : NumberLayout) (d : Decimal) : Text :=
  let digits := ((natText d.digits).reverse.dropWhile (· = '0')).reverse
  let leading := d.leading
  if leading < l.positionalFrom ∨ l.positionalTo ≤ leading then
    (if digits.length ≤ 1 then digits else digits.take 1 ++ '.' :: digits.drop 1)
      ++ 'e' :: exponentText l leading
  else if leading < 0 then
    '0' :: '.' :: (List.replicate (leading.natAbs - 1) '0' ++ digits)
  else pointedText digits (leading.toNat + 1)

/-- A sign before a text. -/
def withSign (negative : Bool) (t : Text) : Text :=
  if negative then '-' :: t else t

/-- The text of a number. -/
def text : Double → Text
  | .nan => ['n', 'a', 'n']
  | .infinite negative => withSign negative ['i', 'n', 'f']
  | .finite negative units _ =>
    withSign negative
      (if units = 0 then ['0', '.', '0'] else decimalText layout (shortestDecimal units))

end Double
end Remit
