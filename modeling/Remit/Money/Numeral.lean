import Remit.Money.Decimal

/-!
# Written numbers

The way numbers are written in data: an optional minus sign, digits without a leading zero, and
optionally a fraction and an exponent. `Numeral.scan?` takes the longest numeral at the start of a
text. A numeral with neither fraction nor exponent is an integer; any other is a binary64 number.
-/

namespace Remit

open Text

/-- A number as it is written. -/
structure Numeral where
  negative : Bool
  whole : Text
  fraction : Option Text
  /-- The sign and the digits of the exponent. -/
  exponent : Option (Bool × Text)

namespace Numeral

/-! ## Scanning -/

/-- The digits at the start of a text, and the rest. -/
def scanDigits (t : Text) : Text × Text :=
  (t.takeWhile Char.isDigit, t.dropWhile Char.isDigit)

/-- The digits before the point: a zero alone, or digits that do not start with zero. -/
def scanWhole? : Text → Option (Text × Text)
  | '0' :: rest => some (['0'], rest)
  | t => match scanDigits t with
    | ([], _) => none
    | found => some found

/-- A point with at least one digit after it. -/
def scanFraction : Text → Option Text × Text
  | '.' :: rest => match scanDigits rest with
    | ([], _) => (none, '.' :: rest)
    | (digits, rest) => (some digits, rest)
  | t => (none, t)

/-- The letter of an exponent, an optional sign and at least one digit. -/
def scanExponent : Text → Option (Bool × Text) × Text
  | [] => (none, [])
  | c :: rest =>
    if c = 'e' ∨ c = 'E' then
      let (negative, body) := signAndRest rest
      match scanDigits body with
      | ([], _) => (none, c :: rest)
      | (digits, rest) => (some (negative, digits), rest)
    else (none, c :: rest)

/-- The minus sign of a number, and the rest. -/
def scanSign : Text → Bool × Text
  | '-' :: rest => (true, rest)
  | t => (false, t)

/-- The numeral at the start of a text, and the rest. A point or an exponent letter without digits
is left to the rest. -/
def scan? (t : Text) : Option (Numeral × Text) := do
  let (negative, t) := scanSign t
  let (whole, t) ← scanWhole? t
  let (fraction, t) := scanFraction t
  let (exponent, t) := scanExponent t
  some (⟨negative, whole, fraction, exponent⟩, t)

/-! ## Values -/

/-- A numeral with neither fraction nor exponent. -/
def isInteger (n : Numeral) : Bool :=
  n.fraction.isNone && n.exponent.isNone

/-- The integer that the digits before the point spell. -/
def integer (n : Numeral) : Int :=
  signed n.negative (decimalValue n.whole)

/-- The decimal number that the numeral spells, without its sign. -/
def decimal (n : Numeral) : Decimal :=
  let fraction := n.fraction.getD []
  let exponent : Int := match n.exponent with
    | some (negative, digits) => signed negative (decimalValue digits)
    | none => 0
  ⟨decimalValue (n.whole ++ fraction), exponent - fraction.length⟩

/-- The binary64 number nearest to the numeral. -/
def double (n : Numeral) : Double :=
  Double.ofDecimal n.negative n.decimal

end Numeral
end Remit
