import Remit.Money.Double

/-!
# Rounding to binary64 numbers

`nearest` never crosses a number that the format holds: what lies below such a number is rounded to
something below it, and what lies above to something above it (`nearest_le`, `le_nearest`). Hence it
leaves those numbers alone (`nearest_of_dvd`). It leaves the finite range from half a step above
the largest of them on (`unitsEnd_le_nearest_iff`).

`roundedUnits` is the same for counts of units with a sign, and `Double.units?_add` says that a sum
is the exact sum rounded, unless it leaves the finite range.
-/

namespace Remit

/-! ## Counts of units -/

theorem bitLength_mono {u v : Nat} (h : u ≤ v) : bitLength u ≤ bitLength v :=
  bitLength_le (Nat.lt_of_le_of_lt h (lt_twoPow_bitLength v))

theorem excessBits_mono {u v : Nat} (h : u ≤ v) : excessBits u ≤ excessBits v :=
  Nat.sub_le_sub_right (bitLength_mono h) 53

theorem excessBits_le {u k : Nat} (h : u < twoPow (53 + k)) : excessBits u ≤ k :=
  Nat.sub_le_iff_le_add'.2 (bitLength_le h)

theorem lt_bitLength {u k : Nat} (h : twoPow k ≤ u) : k < bitLength u := by
  refine Nat.lt_of_not_le fun hle => ?_
  have hlt := Nat.lt_of_lt_of_le (lt_twoPow_bitLength u) (twoPow_le hle)
  omega

/-- The largest power of two in a count is one less than its number of digits. -/
theorem twoPow_bitLength_pred_le {u : Nat} (h : u ≠ 0) : twoPow (bitLength u - 1) ≤ u := by
  rw [bitLength, if_neg h, Nat.add_sub_cancel]
  exact Nat.log2_self_le h

/-- Whole counts are rounded to a multiple of the step at their size. -/
theorem nearest_one (u : Nat) :
    nearest u 1 = roundHalfEven u (twoPow (excessBits u)) * twoPow (excessBits u) := by
  rw [nearest, Nat.div_one, Nat.one_mul]

theorem div_le_roundHalfEven (num den : Nat) : num / den ≤ roundHalfEven num den := by
  unfold roundHalfEven
  dsimp only
  split <;> omega

/-- Only what is no multiple is rounded up. -/
theorem roundHalfEven_le_of_dvd {num den k : Nat} (hden : 0 < den) (h : num ≤ den * k) :
    roundHalfEven num den ≤ k := by
  have hdiv : num / den ≤ k := Nat.div_le_of_le_mul h
  have hsplit := Nat.div_add_mod num den
  unfold roundHalfEven
  dsimp only
  split
  · exact hdiv
  · next hup =>
    rcases Nat.lt_or_eq_of_le hdiv with hlt | heq
    · exact hlt
    · -- All of `den * k` is used up, so nothing is left to be rounded.
      rw [heq] at hsplit
      omega

theorem roundHalfEven_add {den rest : Nat} (k : Nat) (h : rest < den) :
    roundHalfEven (k * den + rest) den
      = if 2 * rest < den ∨ 2 * rest = den ∧ k % 2 = 0 then k else k + 1 := by
  have hfloor : (k * den + rest) / den = k := by
    rw [Nat.mul_comm, Nat.mul_add_div (Nat.zero_lt_of_lt h), Nat.div_eq_of_lt h, Nat.add_zero]
  have hrest : (k * den + rest) % den = rest := by
    rw [Nat.mul_comm, Nat.mul_add_mod, Nat.mod_eq_of_lt h]
  rw [roundHalfEven, hfloor, hrest]

/-- Rounding does not go above a count that the format holds. -/
theorem nearest_le {u v : Nat} (hv : twoPow (excessBits v) ∣ v) (h : u ≤ v) :
    nearest u 1 ≤ v := by
  obtain ⟨k, hk⟩ := Nat.dvd_trans (twoPow_dvd (excessBits_mono h)) hv
  have hround := roundHalfEven_le_of_dvd (twoPow_pos (excessBits u)) (hk ▸ h)
  rw [nearest_one, hk, Nat.mul_comm (twoPow (excessBits u)) k]
  exact Nat.mul_le_mul_right _ hround

/-- Rounding does not go below a multiple of the step. -/
theorem le_nearest_of_dvd {u w : Nat} (hw : twoPow (excessBits u) ∣ w) (h : w ≤ u) :
    w ≤ nearest u 1 := by
  obtain ⟨k, rfl⟩ := hw
  have hdiv : k ≤ u / twoPow (excessBits u) := by
    rw [Nat.le_div_iff_mul_le (twoPow_pos _), Nat.mul_comm]
    exact h
  rw [nearest_one, Nat.mul_comm]
  exact Nat.mul_le_mul_right _ (Nat.le_trans hdiv (div_le_roundHalfEven _ _))

/-- Rounding does not go below a count that the format holds. -/
theorem le_nearest {u v : Nat} (hv : twoPow (excessBits v) ∣ v) (h : v ≤ u) :
    v ≤ nearest u 1 := by
  rcases Nat.lt_or_eq_of_le (bitLength_mono h) with hlt | heq
  · -- A shorter count lies below the largest power of two in `u`, which is a multiple of the step.
    have hu : u ≠ 0 := by
      rintro rfl
      exact absurd hlt (Nat.not_lt_zero _)
    have hpow : twoPow (bitLength u - 1) ≤ nearest u 1 :=
      le_nearest_of_dvd (twoPow_dvd (by unfold excessBits; omega)) (twoPow_bitLength_pred_le hu)
    have hle : v ≤ twoPow (bitLength u - 1) :=
      Nat.le_trans (Nat.le_of_lt (lt_twoPow_bitLength v)) (twoPow_le (by omega))
    exact Nat.le_trans hle hpow
  · have hstep : excessBits u = excessBits v := by
      rw [excessBits, excessBits, heq]
    exact le_nearest_of_dvd (hstep ▸ hv) h

/-- What the format holds is not rounded. -/
theorem nearest_of_dvd {u : Nat} (h : twoPow (excessBits u) ∣ u) : nearest u 1 = u :=
  Nat.le_antisymm (nearest_le h (Nat.le_refl u)) (le_nearest h (Nat.le_refl u))

/-- What is no larger than a finite number is rounded to a finite number. -/
theorem nearest_lt_unitsEnd {u v : Nat} (hv : Fits v) (h : u ≤ v) : nearest u 1 < unitsEnd :=
  Nat.lt_of_le_of_lt (nearest_le hv.1 h) hv.2

/-! ## The end of the finite range -/

/-- Rounding reaches the power of two from half a step below it on. -/
theorem twoPow_le_nearest_iff (u k : Nat) :
    twoPow (54 + k) ≤ nearest u 1 ↔ twoPow (54 + k) ≤ u + twoPow k := by
  have hpow : twoPow 53 = 9007199254740992 := by decide
  have hend : twoPow (54 + k) = 9007199254740992 * twoPow (1 + k) := by
    rw [← hpow, ← twoPow_add, ← Nat.add_assoc]
  have hstep : twoPow (1 + k) = 2 * twoPow k := twoPow_add 1 k
  have hpos := twoPow_pos k
  -- `last` is the largest number below the power of two that the format holds.
  obtain ⟨last, hlast⟩ : ∃ last, last = 9007199254740991 * twoPow (1 + k) := ⟨_, rfl⟩
  have hlastEnd : last < twoPow (53 + (1 + k)) := by
    have hassoc : 53 + (1 + k) = 54 + k := by omega
    rw [hassoc]
    omega
  rcases Nat.lt_or_ge u last with hlow | hlow
  · have hdvd : twoPow (excessBits last) ∣ last := by
      rw [hlast]
      exact Nat.dvd_mul_left_of_dvd (twoPow_dvd (hlast ▸ excessBits_le hlastEnd)) _
    have hround := nearest_le hdvd (Nat.le_of_lt hlow)
    omega
  rcases Nat.lt_or_ge u (twoPow (54 + k)) with hhigh | hhigh
  · obtain ⟨rest, hu⟩ := Nat.exists_eq_add_of_le hlow
    have hbits : excessBits u = 1 + k := by
      have hle := excessBits_le (u := u) (k := 1 + k) (by rwa [← Nat.add_assoc])
      have hlen : 53 + k < bitLength u := by
        apply lt_bitLength
        have hhalf : twoPow (53 + k) = 9007199254740992 * twoPow k := hpow ▸ twoPow_add 53 k
        omega
      unfold excessBits at hle ⊢
      omega
    have hrest : rest < twoPow (1 + k) := by omega
    rw [nearest_one, hbits, hu, hlast, roundHalfEven_add _ hrest]
    split
    · omega
    · omega
  · have hdvd : twoPow (excessBits (twoPow (54 + k))) ∣ twoPow (54 + k) := by
      refine twoPow_dvd (Nat.le_trans (excessBits_le (k := 2 + k) ?_) (by omega))
      exact twoPow_lt (by omega)
    have hround := le_nearest hdvd hhigh
    omega

/-- The finite range ends half a step above the largest finite number. -/
theorem unitsEnd_le_nearest_iff (n : Nat) :
    unitsEnd ≤ nearest (n * unitsPerOne) 1 ↔ twoPow 1024 ≤ n + twoPow 970 := by
  have hend : unitsEnd = twoPow (54 + 2044) := rfl
  have hrange : twoPow (54 + 2044) = twoPow 1024 * twoPow 1074 := twoPow_add 1024 1074
  have hhalf : twoPow 2044 = twoPow 970 * twoPow 1074 := twoPow_add 970 1074
  rw [hend, twoPow_le_nearest_iff, unitsPerOne, hrange, hhalf, ← Nat.add_mul]
  exact Nat.mul_le_mul_right_iff (twoPow_pos 1074)

/-! ## Counts with a sign -/

open Double

/-- A count of units with a sign, rounded. -/
def roundedUnits (z : Int) : Int :=
  signedUnits (z < 0) (nearest z.natAbs 1)

theorem roundedUnits_of_neg {z : Int} (h : z < 0) :
    roundedUnits z = -(nearest z.natAbs 1 : Int) := by
  rw [roundedUnits, decide_eq_true h]
  rfl

theorem roundedUnits_of_nonneg {z : Int} (h : 0 ≤ z) : roundedUnits z = nearest z.natAbs 1 := by
  rw [roundedUnits, decide_eq_false (Int.not_lt.2 h)]
  rfl

theorem fits_zero : Fits (0 : Int).natAbs :=
  ⟨Nat.dvd_zero _, unitsEnd_pos⟩

theorem roundedUnits_le {y z : Int} (hz : Fits z.natAbs) (h : y ≤ z) : roundedUnits y ≤ z := by
  rcases Int.lt_or_le y 0 with hy | hy
  · rw [roundedUnits_of_neg hy]
    rcases Int.lt_or_le z 0 with hz' | hz'
    · have hle := le_nearest (u := y.natAbs) hz.1 (by omega)
      omega
    · omega
  · rw [roundedUnits_of_nonneg hy]
    have hle := nearest_le (u := y.natAbs) hz.1 (by omega)
    omega

theorem le_roundedUnits {y z : Int} (hz : Fits z.natAbs) (h : z ≤ y) : z ≤ roundedUnits y := by
  rcases Int.lt_or_le y 0 with hy | hy
  · rw [roundedUnits_of_neg hy]
    have hle := nearest_le (u := y.natAbs) hz.1 (by omega)
    omega
  · rw [roundedUnits_of_nonneg hy]
    rcases Int.lt_or_le z 0 with hz' | hz'
    · omega
    · have hle := le_nearest (u := y.natAbs) hz.1 (by omega)
      omega

theorem roundedUnits_of_fits {z : Int} (h : Fits z.natAbs) : roundedUnits z = z :=
  Int.le_antisymm (roundedUnits_le h (Int.le_refl z)) (le_roundedUnits h (Int.le_refl z))

theorem roundedUnits_neg (z : Int) : roundedUnits (-z) = -roundedUnits z := by
  rcases Int.lt_trichotomy z 0 with hz | rfl | hz
  · rw [roundedUnits_of_neg hz, roundedUnits_of_nonneg (by omega), Int.natAbs_neg, Int.neg_neg]
  · rfl
  · rw [roundedUnits_of_neg (by omega), roundedUnits_of_nonneg (by omega), Int.natAbs_neg]

/-! ## Numbers -/

namespace Double

/-- The exact value of a finite number, as a count of units with a sign. -/
def units? : Double → Option Int
  | .finite negative units _ => some (signedUnits negative units)
  | .infinite _ => none
  | .nan => none

theorem natAbs_signedUnits (negative : Bool) (units : Nat) :
    (signedUnits negative units).natAbs = units := by
  cases negative with
  | true => simp [signedUnits]
  | false => simp [signedUnits]

theorem fits_of_units? {x : Double} {u : Int} (h : x.units? = some u) : Fits u.natAbs := by
  cases x with
  | finite negative units fits =>
    rw [units?, Option.some.injEq] at h
    rw [← h, natAbs_signedUnits]
    exact fits
  | infinite negative => cases h
  | nan => cases h

theorem units?_neg {x : Double} {u : Int} (h : x.units? = some u) : x.neg.units? = some (-u) := by
  cases x with
  | finite negative units fits =>
    rw [units?, Option.some.injEq] at h
    rw [neg, units?, ← h]
    cases negative with
    | true => simp [signedUnits]
    | false => simp [signedUnits]
  | infinite negative => cases h
  | nan => cases h

theorem units?_finite? {z : Int} {x : Double} (h : finite? (z < 0) z.natAbs 1 = some x) :
    x.units? = some (roundedUnits z) := by
  unfold finite? at h
  split at h
  · cases h
    rfl
  · cases h

/-- An integer is read as the number nearest to it. -/
theorem units?_ofInt? {n : Int} {x : Double} (h : ofInt? n = some x) :
    x.units? = some (roundedUnits (n * unitsPerOne)) := by
  have hone : (0 : Int) < unitsPerOne := Int.natCast_pos.2 (twoPow_pos 1074)
  have hsign : n < 0 ↔ n * (unitsPerOne : Int) < 0 := by
    constructor
    · intro hn
      exact Int.mul_neg_of_neg_of_pos hn hone
    · intro hmul
      exact Int.not_le.1 fun hn => Int.not_le.2 hmul (Int.mul_nonneg hn (Int.le_of_lt hone))
  have habs : n.natAbs * unitsPerOne = (n * (unitsPerOne : Int)).natAbs := by
    rw [Int.natAbs_mul, Int.natAbs_natCast]
  rw [ofInt?, habs, decide_eq_decide.2 hsign] at h
  exact units?_finite? h

/-- A sum is the exact sum rounded, unless that leaves the finite range. -/
theorem units?_add {x y : Double} {u v : Int} (hx : x.units? = some u) (hy : y.units? = some v) :
    (nearest (u + v).natAbs 1 < unitsEnd ∧ (x.add y).units? = some (roundedUnits (u + v)))
      ∨ (unitsEnd ≤ nearest (u + v).natAbs 1 ∧ x.add y = .infinite (u + v < 0)) := by
  cases x with
  | infinite negative => cases hx
  | nan => cases hx
  | finite a m fits =>
    cases y with
    | infinite negative => cases hy
    | nan => cases hy
    | finite b n fits' =>
      rw [units?, Option.some.injEq] at hx hy
      rw [add, hx, hy]
      by_cases hsum : u + v = 0
      · left
        have hzero : nearest 0 1 = 0 := nearest_of_dvd (Nat.dvd_zero _)
        rw [if_pos hsum, hsum, Int.natAbs_zero, hzero, roundedUnits_of_nonneg (Int.le_refl 0),
          Int.natAbs_zero, hzero]
        refine ⟨unitsEnd_pos, ?_⟩
        show some (signedUnits (a && b) 0) = some 0
        cases (a && b) <;> rfl
      · rw [if_neg hsum, ofRatio]
        by_cases hrange : nearest (u + v).natAbs 1 < unitsEnd
        · left
          refine ⟨hrange, ?_⟩
          rw [finite?, dif_pos hrange]
          rfl
        · right
          refine ⟨Nat.le_of_not_lt hrange, ?_⟩
          rw [finite?, dif_neg hrange]
          rfl

end Double
end Remit
