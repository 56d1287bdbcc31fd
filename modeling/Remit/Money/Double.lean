/-!
# Binary64 numbers

A balance may be a binary64 number. Every finite one is a whole number of units of `2 ^ -1074`, the
smallest step of the format, so this module keeps it as a sign and a count of units. Exact sums and
comparisons are then sums and comparisons of whole numbers, and rounding is the one function
`nearest`.

* `Double.Fits` says which counts the format holds: 53 significant bits, below `2 ^ 2098` units.
* `nearest num den` rounds `num / den` units to 53 significant bits, a half going to the even
  neighbour; `twoPow_excessBits_dvd_nearest` shows that the result has no more bits.
* `Double.add` is the exact sum rounded, and `Double.ofInt?` the nearest number to an integer.
-/

namespace Remit

/-! ## Powers of two -/

/-- A power of two. -/
def twoPow (k : Nat) : Nat :=
  Nat.pow 2 k

theorem twoPow_pos (k : Nat) : 0 < twoPow k :=
  Nat.two_pow_pos k

theorem twoPow_add (j k : Nat) : twoPow (j + k) = twoPow j * twoPow k :=
  Nat.pow_add 2 j k

theorem twoPow_le {j k : Nat} (h : j ≤ k) : twoPow j ≤ twoPow k :=
  Nat.pow_le_pow_right (by decide) h

theorem twoPow_lt {j k : Nat} (h : j < k) : twoPow j < twoPow k :=
  Nat.pow_lt_pow_right (by decide) h

theorem twoPow_dvd {j k : Nat} (h : j ≤ k) : twoPow j ∣ twoPow k :=
  Nat.pow_dvd_pow 2 h

/-- The number of binary digits of a natural number. -/
def bitLength (n : Nat) : Nat :=
  if n = 0 then 0 else n.log2 + 1

theorem lt_twoPow_bitLength (n : Nat) : n < twoPow (bitLength n) := by
  unfold bitLength
  split
  · subst n
    exact twoPow_pos 0
  · exact Nat.lt_log2_self

theorem bitLength_le {n k : Nat} (h : n < twoPow k) : bitLength n ≤ k := by
  unfold bitLength
  split
  · omega
  · next hn => exact (Nat.log2_lt hn).2 h

/-! ## Rounding -/

/-- The whole number nearest to `num / den`, a half going to the even neighbour. -/
def roundHalfEven (num den : Nat) : Nat :=
  let floor := num / den
  let rest := num % den
  if 2 * rest < den ∨ 2 * rest = den ∧ floor % 2 = 0 then floor else floor + 1

theorem roundHalfEven_le (num den : Nat) : roundHalfEven num den ≤ num / den + 1 := by
  unfold roundHalfEven
  dsimp only
  split <;> omega

/-- The number of binary digits in which a count of units exceeds 53 significant ones. -/
def excessBits (units : Nat) : Nat :=
  bitLength units - 53

/-- The count of units with at most 53 significant bits that is nearest to `num / den`. -/
def nearest (num den : Nat) : Nat :=
  let step := twoPow (excessBits (num / den))
  roundHalfEven num (den * step) * step

private theorem twoPow_excessBits_dvd {m k : Nat} (h : m ≤ twoPow 53) :
    twoPow (excessBits (m * twoPow k)) ∣ m * twoPow k := by
  unfold excessBits
  rcases Nat.lt_or_eq_of_le h with h | rfl
  · have : bitLength (m * twoPow k) ≤ 53 + k := bitLength_le (by
      rw [twoPow_add]
      exact Nat.mul_lt_mul_of_pos_right h (twoPow_pos k))
    exact Nat.dvd_trans (twoPow_dvd (by omega)) (Nat.dvd_mul_left _ m)
  · rw [← twoPow_add]
    have : bitLength (twoPow (53 + k)) ≤ 53 + k + 1 := bitLength_le (twoPow_lt (by omega))
    exact twoPow_dvd (by omega)

/-- Rounding leaves no digit beyond the 53rd. -/
theorem twoPow_excessBits_dvd_nearest (num den : Nat) :
    twoPow (excessBits (nearest num den)) ∣ nearest num den := by
  refine twoPow_excessBits_dvd (Nat.le_trans (roundHalfEven_le _ _) ?_)
  rw [← Nat.div_div_eq_div_mul]
  have hlt := lt_twoPow_bitLength (num / den)
  have hle : twoPow (bitLength (num / den)) ≤ twoPow 53 * twoPow (excessBits (num / den)) := by
    rw [← twoPow_add]
    exact twoPow_le (by unfold excessBits; omega)
  exact (Nat.div_lt_iff_lt_mul (twoPow_pos _)).2 (Nat.lt_of_lt_of_le hlt hle)

/-! ## The numbers -/

/-- The number of units in 1. -/
def unitsPerOne : Nat := twoPow 1074

/-- The count of units at which the finite numbers end. -/
def unitsEnd : Nat := twoPow 2098

theorem unitsEnd_pos : 0 < unitsEnd :=
  twoPow_pos 2098

/-- The counts of units that a finite number may have. -/
def Fits (units : Nat) : Prop :=
  twoPow (excessBits units) ∣ units ∧ units < unitsEnd

instance (units : Nat) : Decidable (Fits units) := by
  unfold Fits; infer_instance

/-- A binary64 number. Zero has two signs. -/
inductive Double where
  /-- A finite number: its sign and its size in units of `2 ^ -1074`. -/
  | finite (negative : Bool) (units : Nat) (fits : Fits units)
  /-- Plus or minus infinity. -/
  | infinite (negative : Bool)
  /-- No number. -/
  | nan
  deriving DecidableEq

namespace Double

/-- Zero with a sign. -/
def zero (negative : Bool) : Double :=
  .finite negative 0 ⟨Nat.dvd_zero _, unitsEnd_pos⟩

/-- The finite number nearest to `num / den` units, unless rounding leaves the range. -/
def finite? (negative : Bool) (num den : Nat) : Option Double :=
  if h : nearest num den < unitsEnd then
    some (.finite negative (nearest num den) ⟨twoPow_excessBits_dvd_nearest num den, h⟩)
  else none

/-- The number nearest to `num / den` units, which is infinite beyond the finite range. -/
def ofRatio (negative : Bool) (num den : Nat) : Double :=
  (finite? negative num den).getD (.infinite negative)

/-- A signed count of units. -/
def signedUnits (negative : Bool) (units : Nat) : Int :=
  if negative then -(units : Int) else units

/-- The same size with the other sign. -/
def neg : Double → Double
  | .finite negative units fits => .finite (!negative) units fits
  | .infinite negative => .infinite (!negative)
  | .nan => .nan

/-- The exact sum, rounded. A sum that is exactly zero is negative only if both parts are. -/
def add : Double → Double → Double
  | .nan, _ => .nan
  | _, .nan => .nan
  | .infinite a, .infinite b => if a = b then .infinite a else .nan
  | .infinite a, .finite .. => .infinite a
  | .finite .., .infinite b => .infinite b
  | .finite a u _, .finite b v _ =>
    let sum := signedUnits a u + signedUnits b v
    if sum = 0 then zero (a && b) else ofRatio (sum < 0) sum.natAbs 1

/-- The number nearest to an integer; none if rounding leaves the finite range. -/
def ofInt? (n : Int) : Option Double :=
  finite? (n < 0) (n.natAbs * unitsPerOne) 1

/-- Exactly less than an integer. Nothing holds of the number that is none. -/
def ltInt : Double → Int → Bool
  | .nan, _ => false
  | .infinite negative, _ => negative
  | .finite negative units _, n => signedUnits negative units < n * unitsPerOne

end Double
end Remit
