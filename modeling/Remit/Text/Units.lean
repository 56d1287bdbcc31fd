import Remit.Text.Basic

/-!
# Texts from code units

Characters beyond U+FFFF may be given as two code units of 16 bits, a high surrogate followed by a
low one. `ofUnits` joins such pairs. A surrogate without its partner stands for no character; the
reader says which character is to stand in for it.
-/

namespace Remit.Text

/-- A high surrogate, the first unit of a pair. -/
def isHighSurrogate (unit : Nat) : Bool :=
  0xd800 ≤ unit && unit ≤ 0xdbff

/-- A low surrogate, the second unit of a pair. -/
def isLowSurrogate (unit : Nat) : Bool :=
  0xdc00 ≤ unit && unit ≤ 0xdfff

/-- The code of the character that a pair of surrogates stands for. -/
def pairCode (high low : Nat) : Nat :=
  0x10000 + (high - 0xd800) * 0x400 + (low - 0xdc00)

/-- The character with a code, or the stand-in if there is none. -/
def charOfCode (standIn : Char) (code : Nat) : Char :=
  if h : code.isValidChar then Char.ofNatAux code h else standIn

/-- The text that code units spell. -/
def ofUnits (standIn : Char) : List Nat → Text
  | [] => []
  | [unit] => [charOfCode standIn unit]
  | high :: low :: rest =>
    if isHighSurrogate high && isLowSurrogate low then
      charOfCode standIn (pairCode high low) :: ofUnits standIn rest
    else charOfCode standIn high :: ofUnits standIn (low :: rest)

end Remit.Text
