import Remit.Money.Balance
import Remit.Proofs.Money.Rounding

/-!
# Balances as exact numbers

A balance that is no infinity and not the number that is none has an exact value, counted in the
units of binary64 numbers (`Balance.units?`). This module says what the operations on balances do to
it:

* `isBelow_eq_false_iff`: a balance that is not below an amount covers it, or is no number at all;
* `units?_debit`, `units?_credit`: a debit that is covered lowers the value but not below zero, and
  a credit raises it, or else leaves the finite range upwards. Neither need be exact;
* `units?_debit_of_canTake`, `units?_credit_of_canTake`: both are exact if amount and new value are
  numbers of the balance's kind.
-/

namespace Remit

namespace Balance

/-- The exact value of a finite balance, as a count of units. -/
def units? : Balance → Option Int
  | .whole n => some (n * unitsPerOne)
  | .real value => value.units?

/-- The balance is at least the amount, compared exactly. -/
def Covers (amount : Int) : Balance → Prop
  | .whole n => amount ≤ n
  | .real (.finite negative units _) => amount * unitsPerOne ≤ Double.signedUnits negative units
  | .real (.infinite negative) => negative = false
  | .real .nan => False

/-- The balance can take a change exactly: integers any, and binary64 numbers one that is such a
number if the new value is one, too. -/
def CanTake (change : Int) : Balance → Prop
  | .whole _ => True
  | .real value => Fits (change * unitsPerOne).natAbs
    ∧ ∀ u ∈ value.units?, Fits (u + change * unitsPerOne).natAbs

/-! ## Comparison -/

theorem isBelow_eq_false_iff {amount : Int} {b : Balance} :
    b.isBelow amount = false ↔ b.Covers amount ∨ b = .real .nan := by
  cases b with
  | whole n => simp [isBelow, Covers]
  | real value =>
    cases value with
    | finite negative units fits =>
      rw [isBelow, Double.ltInt, decide_eq_false_iff_not, Int.not_lt, Covers, Balance.real.injEq]
      exact (or_iff_left Double.noConfusion).symm
    | infinite negative => simp [isBelow, Double.ltInt, Covers]
    | nan => simp [isBelow, Double.ltInt]

theorem not_covers_nan (amount : Int) : ¬ (Balance.real .nan).Covers amount :=
  id

/-- For finite balances the comparison is one of exact values. -/
theorem le_of_covers {amount : Int} {b : Balance} {u : Int} (h : b.Covers amount)
    (hb : b.units? = some u) : amount * unitsPerOne ≤ u := by
  match b with
  | .whole n =>
    rw [Covers] at h
    rw [units?, Option.some.injEq] at hb
    have hmul := Int.mul_le_mul_of_nonneg_right h (Int.natCast_nonneg unitsPerOne)
    rw [hb] at hmul
    exact hmul
  | .real (.finite negative units fits) =>
    rw [Covers] at h
    rw [units?, Double.units?, Option.some.injEq] at hb
    rw [hb] at h
    exact h
  | .real (.infinite negative) => cases hb
  | .real .nan => cases hb

/-! ## Changes -/

/-- What a debit does: an integer balance takes the amount itself, and a binary64 balance the number
nearest to it. -/
theorem debit_eq_ok {b after : Balance} {amount : Int} (h : b.debit amount = .ok after) :
    (∃ n, b = .whole n ∧ after = .whole (n - amount))
      ∨ ∃ value y, b = .real value ∧ after = .real (value.add y)
        ∧ y.units? = some (roundedUnits (-amount * unitsPerOne)) := by
  unfold debit at h
  -- The number is named before the balance is looked at, so that nothing evaluates it.
  generalize hx : Double.ofInt? amount = found at h
  cases b with
  | whole n =>
    cases h
    exact Or.inl ⟨n, rfl, rfl⟩
  | real value =>
    cases found with
    | none => cases h
    | some x =>
      cases h
      have hunits := Double.units?_neg (Double.units?_ofInt? hx)
      rw [← roundedUnits_neg, ← Int.neg_mul] at hunits
      exact Or.inr ⟨value, x.neg, rfl, rfl, hunits⟩

/-- What a credit does. -/
theorem credit_eq_ok {b after : Balance} {amount : Int} (h : b.credit amount = .ok after) :
    (∃ n, b = .whole n ∧ after = .whole (n + amount))
      ∨ ∃ value y, b = .real value ∧ after = .real (value.add y)
        ∧ y.units? = some (roundedUnits (amount * unitsPerOne)) := by
  unfold credit at h
  generalize hx : Double.ofInt? amount = found at h
  cases b with
  | whole n =>
    cases h
    exact Or.inl ⟨n, rfl, rfl⟩
  | real value =>
    cases found with
    | none => cases h
    | some x =>
      cases h
      exact Or.inr ⟨value, x, rfl, rfl, Double.units?_ofInt? hx⟩

/-- A change of which every part fits is exact. -/
theorem units?_add_of_canTake {value y : Double} {u change : Int}
    (h : (real value).CanTake change) (hu : value.units? = some u)
    (hy : y.units? = some (roundedUnits (change * unitsPerOne))) :
    (real (value.add y)).units? = some (u + change * unitsPerOne) := by
  obtain ⟨hchange, hsum⟩ := h
  have hfits := hsum u hu
  rw [roundedUnits_of_fits hchange] at hy
  rcases Double.units?_add hu hy with ⟨-, hadd⟩ | ⟨hrange, -⟩
  · rw [units?, hadd, roundedUnits_of_fits hfits]
  · exact absurd (nearest_lt_unitsEnd hfits (Nat.le_refl _)) (Nat.not_lt.2 hrange)

/-! ## Debits and credits -/

theorem units?_debit_of_canTake {b after : Balance} {u amount : Int}
    (h : b.debit amount = .ok after) (hu : b.units? = some u) (htake : b.CanTake (-amount)) :
    after.units? = some (u - amount * unitsPerOne) := by
  rcases debit_eq_ok h with ⟨n, rfl, rfl⟩ | ⟨value, y, rfl, rfl, hy⟩
  · rw [units?, Option.some.injEq] at hu
    rw [units?, ← hu, Int.sub_mul]
  · rw [units?_add_of_canTake htake hu hy, Int.neg_mul, ← Int.sub_eq_add_neg]

theorem units?_credit_of_canTake {b after : Balance} {u amount : Int}
    (h : b.credit amount = .ok after) (hu : b.units? = some u) (htake : b.CanTake amount) :
    after.units? = some (u + amount * unitsPerOne) := by
  rcases credit_eq_ok h with ⟨n, rfl, rfl⟩ | ⟨value, y, rfl, rfl, hy⟩
  · rw [units?, Option.some.injEq] at hu
    rw [units?, ← hu, Int.add_mul]
  · exact units?_add_of_canTake htake hu hy

/-- A covered debit leaves a value between zero and the one before. -/
theorem units?_debit {b after : Balance} {u amount : Int} (h : b.debit amount = .ok after)
    (hu : b.units? = some u) (hpos : 0 < amount) (hcovered : amount * unitsPerOne ≤ u) :
    ∃ a, after.units? = some a ∧ 0 ≤ a ∧ a ≤ u := by
  have hamount : 0 ≤ amount * (unitsPerOne : Int) :=
    Int.mul_nonneg (Int.le_of_lt hpos) (Int.natCast_nonneg _)
  rcases debit_eq_ok h with ⟨n, rfl, rfl⟩ | ⟨value, y, rfl, rfl, hy⟩
  · exact ⟨_, units?_debit_of_canTake h hu trivial, by omega, by omega⟩
  · rw [Int.neg_mul, roundedUnits_neg] at hy
    -- The amount is rounded to something between zero and the balance, and so is the difference.
    have hfits := Double.fits_of_units? hu
    have hlow := le_roundedUnits fits_zero hamount
    have hhigh := roundedUnits_le hfits hcovered
    rcases Double.units?_add hu hy with ⟨-, hadd⟩ | ⟨hrange, -⟩
    · exact ⟨_, hadd, le_roundedUnits fits_zero (by omega), roundedUnits_le hfits (by omega)⟩
    · exact absurd (nearest_lt_unitsEnd hfits (by omega)) (Nat.not_lt.2 hrange)

/-- A credit does not lower the value. It may leave the finite range. -/
theorem units?_credit {b after : Balance} {u amount : Int} (h : b.credit amount = .ok after)
    (hu : b.units? = some u) (hpos : 0 < amount) :
    after = .real (.infinite false) ∨ ∃ a, after.units? = some a ∧ u ≤ a := by
  have hamount : 0 ≤ amount * (unitsPerOne : Int) :=
    Int.mul_nonneg (Int.le_of_lt hpos) (Int.natCast_nonneg _)
  rcases credit_eq_ok h with ⟨n, rfl, rfl⟩ | ⟨value, y, rfl, rfl, hy⟩
  · exact Or.inr ⟨_, units?_credit_of_canTake h hu trivial, by omega⟩
  · have hfits := Double.fits_of_units? hu
    have hlow := le_roundedUnits fits_zero hamount
    rcases Double.units?_add hu hy with ⟨-, hadd⟩ | ⟨hrange, hadd⟩
    · exact Or.inr ⟨_, hadd, le_roundedUnits hfits (by omega)⟩
    · left
      -- A negative sum is no larger in size than the balance, and that is finite.
      have hsum : ¬ u + roundedUnits (amount * unitsPerOne) < 0 := by
        intro hneg
        exact absurd (nearest_lt_unitsEnd hfits (by omega)) (Nat.not_lt.2 hrange)
      rw [hadd, decide_eq_false hsum]

end Balance
end Remit
