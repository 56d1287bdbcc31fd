import Remit.Proofs.Text.Case

/-!
# The upper case of an upper case

What is in upper case stays as it is (`upper_upper`). So a text is the upper case of some text
exactly if it is its own upper case.

For ASCII and for the characters with a longer upper case this is checked one by one. The runs of
characters with a one-character upper case hold more than a thousand, so there only the bounds of
the runs are compared: a run that avoids all of them (`CaseRun.avoids`) leads to characters in none.
-/

namespace Remit.Text

/-! ## Runs -/

/-- The upper cases in the run are not among the codes with the given bounds and stride: all of them
come before these or behind them, or they lie between them. -/
private def CaseRun.avoids (r : CaseRun) (first last stride : Nat) : Bool :=
  Nat.ble (r.target + (r.last - r.first) + 1) first || (Nat.ble (last + 1) r.target
    || ((Nat.beq r.first r.last || Nat.beq r.stride 2)
      && (Nat.beq stride 2 && Nat.beq ((r.target + first) % 2) 1)))

private theorem avoids_caseRuns :
    (caseRuns.all fun r => caseRuns.all fun r' => r.avoids r'.first r'.last r'.stride) = true := by
  decide +kernel

private theorem avoids_caseExpansions :
    (caseRuns.all fun r => caseExpansions.all fun e => r.avoids e.1 e.1 1) = true := by
  decide +kernel

/-- Two runs lead back into ASCII. -/
private theorem upper_target_ascii : ∀ r ∈ caseRuns, r.target < 0x80 →
    r.first = r.last ∧ upperChar (Char.ofNat r.target) = [Char.ofNat r.target] := by
  decide +kernel

private theorem upper_caseExpansions :
    ∀ e ∈ caseExpansions, upper (e.2.map Char.ofNat) = e.2.map Char.ofNat := by
  decide +kernel

private theorem upper_ascii_codes :
    ∀ n ∈ List.range 0x80, upper (upperChar (Char.ofNat n)) = upperChar (Char.ofNat n) := by
  decide +kernel

/-- A run that avoids others does not lead into them. -/
private theorem CaseRun.not_between_of_avoids {r : CaseRun} {n first last stride : Nat}
    (hn : r.covers n = true) (h : r.avoids first last stride = true) :
    ¬ ((first ≤ r.map n ∧ r.map n ≤ last) ∧ (r.map n - first) % stride = 0) := by
  simp only [covers, Bool.and_eq_true, decide_eq_true_eq, beq_iff_eq] at hn
  simp only [avoids, Bool.or_eq_true, Bool.and_eq_true, Nat.ble_eq, Nat.beq_eq] at h
  rw [map]
  rintro ⟨⟨hfirst, hlast⟩, hstride⟩
  rcases h with hbefore | hbehind | ⟨hown, hother, hodd⟩
  · omega
  · omega
  · -- Of the codes and the upper cases, the ones are even and the others odd.
    rw [hother] at hstride
    rcases hown with hsingle | hown
    · omega
    · rw [hown] at hn
      omega

section

variable {r : CaseRun} (hr : r ∈ caseRuns) {n : Nat} (hn : r.covers n = true)

include hr hn

private theorem find?_caseExpansions_map : caseExpansions.find? (·.1 == r.map n) = none := by
  rw [List.find?_eq_none]
  intro e he heq
  have havoids := List.all_eq_true.1 (List.all_eq_true.1 avoids_caseExpansions r hr) e he
  have heq' : e.1 = r.map n := beq_iff_eq.1 heq
  exact CaseRun.not_between_of_avoids hn havoids
    ⟨⟨Nat.le_of_eq heq', Nat.le_of_eq heq'.symm⟩, Nat.mod_one _⟩

private theorem find?_caseRuns_map : caseRuns.find? (·.covers (r.map n)) = none := by
  rw [List.find?_eq_none]
  intro r' hr' hcovers
  have havoids := List.all_eq_true.1 (List.all_eq_true.1 avoids_caseRuns r hr) r' hr'
  simp only [CaseRun.covers, Bool.and_eq_true, decide_eq_true_eq, beq_iff_eq] at hcovers
  exact CaseRun.not_between_of_avoids hn havoids hcovers

/-- The upper case that a run gives to a character is its own upper case. -/
private theorem upperChar_map : upperChar (Char.ofNat (r.map n)) = [Char.ofNat (r.map n)] := by
  have hrange : r.first ≤ n ∧ n ≤ r.last := by
    simp only [CaseRun.covers, Bool.and_eq_true, decide_eq_true_eq] at hn
    exact hn.1
  by_cases hascii : r.target < 0x80
  · obtain ⟨hsingle, hupper⟩ := upper_target_ascii r hr hascii
    have hmap : r.map n = r.target := by
      rw [CaseRun.map]
      omega
    rw [hmap, hupper]
  · by_cases hvalid : (r.map n).isValidChar
    · have hcode : (Char.ofNat (r.map n)).toNat = r.map n := by
        rw [Char.ofNat, dif_pos hvalid]
        rfl
      have hlarge : ¬ r.map n < 0x80 := by
        rw [CaseRun.map]
        omega
      rw [upperChar, hcode, if_neg hlarge, find?_caseExpansions_map hr hn,
        find?_caseRuns_map hr hn]
    · rw [Char.ofNat, dif_neg hvalid]
      decide

end

/-! ## Characters and texts -/

/-- The upper case of a character is in upper case. -/
theorem upper_upperChar (c : Char) : upper (upperChar c) = upperChar c := by
  by_cases h : c.toNat < 0x80
  · have hcode := upper_ascii_codes c.toNat (List.mem_range.2 h)
    rwa [Char.ofNat_toNat] at hcode
  · rw [upperChar, if_neg h]
    split
    · next e he => exact upper_caseExpansions e (List.mem_of_find?_eq_some he)
    · next hnone =>
      split
      · next r hr =>
        have hcovers := List.find?_some hr
        rw [upper_cons, upperChar_map (List.mem_of_find?_eq_some hr) hcovers]
        rfl
      · next hruns =>
        rw [upper_cons, upperChar, if_neg h, hnone, hruns]
        rfl

/-- A text in upper case stays as it is. -/
@[simp] theorem upper_upper (t : Text) : upper (upper t) = upper t := by
  induction t with
  | nil => rfl
  | cons c t ih => rw [upper_cons, upper_append, upper_upperChar, ih]

end Remit.Text
