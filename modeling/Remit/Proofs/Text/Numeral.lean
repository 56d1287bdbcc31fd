import Remit.Proofs.Text.Trim
import Remit.Text.Numeral

/-!
# Whole numbers in digits

A text of ASCII digits is read as the number that it spells, however it is read: as the number that
a text begins with (`leadingInteger_eq_ite`) or as a whole (`IsDigits.wholeInteger_eq`). A natural
number is written in such digits, so it is read again from what it was written as
(`leadingInteger_natText`), unless it has more digits than a number is read from.
-/

namespace Remit.Text

/-! ## Digits -/

theorem toNat_of_isDigit {c : Char} (h : c.isDigit = true) : 48 ≤ c.toNat ∧ c.toNat ≤ 57 := by
  obtain ⟨hlow, hhigh⟩ := Bool.and_eq_true_iff.1 h
  exact ⟨UInt32.le_iff_toNat_le.1 (of_decide_eq_true hlow),
    UInt32.le_iff_toNat_le.1 (of_decide_eq_true hhigh)⟩

theorem isBlank_of_isDigit {c : Char} (h : c.isDigit = true) : isBlank c = false := by
  have hrange := toNat_of_isDigit h
  simp only [isBlank, blankRanges, List.any_cons, List.any_nil, Bool.or_false,
    Bool.or_eq_false_iff, Bool.and_eq_false_iff, decide_eq_false_iff_not]
  omega

/-- A digit of ASCII is the plain one of its value. -/
theorem plainDigit_of_isDigit {c : Char} (h : c.isDigit = true) : plainDigit c = c := by
  obtain ⟨hlow, hhigh⟩ := toNat_of_isDigit h
  have hfind : (scriptZeros.find? fun z => z ≤ c.toNat && c.toNat < z + 10) = some 0x30 :=
    List.find?_cons_of_pos (by simp only [Bool.and_eq_true, decide_eq_true_eq]; omega)
  rw [plainDigit, hfind]
  dsimp only
  rw [Nat.add_sub_cancel' hlow, Char.ofNat_toNat]

/-- A number in digits: a text that is not empty and has nothing but ASCII digits in it. -/
def IsDigits (t : Text) : Prop :=
  t ≠ [] ∧ ∀ c ∈ t, c.isDigit = true

namespace IsDigits

variable {t : Text} (h : IsDigits t)

include h

/-- Digits have no sign before them. -/
theorem signAndRest_append (rest : Text) : signAndRest (t ++ rest) = (false, t ++ rest) := by
  obtain ⟨c, digits, rfl⟩ := List.exists_cons_of_ne_nil h.1
  have hc := h.2 c List.mem_cons_self
  rw [List.cons_append]
  unfold signAndRest
  split
  · next heq =>
    obtain ⟨rfl, -⟩ := List.cons.inj heq
    exact absurd hc (by decide)
  · next heq =>
    obtain ⟨rfl, -⟩ := List.cons.inj heq
    exact absurd hc (by decide)
  · rfl

theorem signAndRest_eq : signAndRest t = (false, t) := by
  have hnil := h.signAndRest_append []
  rwa [List.append_nil] at hnil

theorem notMem {c : Char} (hc : c.isDigit = false) : c ∉ t := by
  intro hmem
  rw [h.2 c hmem] at hc
  cases hc

theorem trimNumber_eq : trimNumber t = t := by
  have hkeep : ∀ {s : Text}, (∀ c ∈ s, c.isDigit = true) → s.dropWhile isNumberBlank = s := by
    intro s hs
    rw [List.dropWhile_eq_self_iff]
    intro hpos
    rw [isNumberBlank, isBlank_of_isDigit (hs _ (List.getElem_mem hpos)), Bool.false_and]
    exact Bool.false_ne_true
  rw [trimNumber, hkeep h.2, hkeep fun c hc => h.2 c (List.mem_reverse.1 hc), List.reverse_reverse]

theorem ungrouped?_eq : ungrouped? t = some t := by
  have hsplit : t.splitOn '_' = [t] := List.splitOn_eq_singleton (h.notMem (by decide))
  unfold ungrouped?
  rw [hsplit]
  simp [h.1]

/-- A number in digits is read as a whole. -/
theorem wholeInteger_eq (hlimit : t.length ≤ digitLimit) :
    wholeInteger t = .ok (decimalValue t : Int) := by
  have hall : ∀ c ∈ t, (c.isDigit || c == '_') = true := fun c hc => by rw [h.2 c hc, Bool.true_or]
  unfold wholeInteger
  rw [h.trimNumber_eq, h.signAndRest_eq]
  dsimp only
  rw [List.takeWhile_eq_self_iff.2 hall, h.ungrouped?_eq]
  dsimp only
  rw [if_neg (Nat.not_lt.2 hlimit), if_pos (List.all_eq_true.2 hall)]
  rfl

theorem map_plainDigit_eq : t.map plainDigit = t := by
  rw [List.map_congr_left fun c hc => plainDigit_of_isDigit (h.2 c hc), List.map_id']

end IsDigits

/-! ## Values -/

/-- The first digit counts as often as the place it stands at. -/
theorem decimalValue_cons (c : Char) (t : Text) : decimalValue (c :: t)
    = Nat.pow 10 t.length * (c.toNat - '0'.toNat) + decimalValue t := by
  rw [decimalValue, Nat.ofDigitChars_cons, Nat.ofDigitChars_eq_ofDigitChars_zero, Nat.mul_zero,
    Nat.zero_add]
  rfl

/-- A number has at most as many digits as it is written with. -/
theorem decimalValue_lt {t : Text} (h : ∀ c ∈ t, c.isDigit = true) :
    decimalValue t < Nat.pow 10 t.length := by
  induction t with
  | nil => exact Nat.zero_lt_one
  | cons c t ih =>
    have hc := toNat_of_isDigit (h c List.mem_cons_self)
    have hrest := ih fun d hd => h d (List.mem_cons_of_mem c hd)
    have hvalue := decimalValue_cons c t
    have hdigit : Nat.pow 10 t.length * (c.toNat - '0'.toNat) ≤ Nat.pow 10 t.length * 9 :=
      Nat.mul_le_mul_left _ (by rw [show '0'.toNat = 48 from rfl]; omega)
    have hpow : Nat.pow 10 (c :: t).length = Nat.pow 10 t.length * 10 := rfl
    omega

/-! ## Numbers at the start of a text -/

/-- Digits in front of anything else are told from it. -/
theorem IsDigits.takeWhile_append {digits rest : Text} (h : IsDigits digits)
    (hrest : ∀ c ∈ rest.head?, c.isDigit = false) :
    (digits ++ rest).takeWhile Char.isDigit = digits := by
  have hbehind : rest.takeWhile Char.isDigit = [] := by
    cases rest with
    | nil => rfl
    | cons c rest => rw [List.takeWhile_cons, hrest c rfl]; rfl
  rw [List.takeWhile_append_of_pos h.2, hbehind, List.append_nil]

/-- The number that a text begins with is spelled by its first digits, unless they are too many. -/
theorem leadingInteger_eq_ite {t digits rest : Text} {negative : Bool}
    (htext : signAndRest (trim t) = (negative, digits ++ rest)) (hdigits : IsDigits digits)
    (hrest : ∀ c ∈ rest.head?, c.isDigit = false) : leadingInteger t
      = if digits.length ≤ digitLimit then some (signed negative (decimalValue digits))
        else none := by
  unfold leadingInteger
  rw [htext]
  dsimp only
  rw [hdigits.takeWhile_append hrest, List.isEmpty_eq_false_iff.2 hdigits.1, Bool.false_or]
  by_cases hlimit : digits.length ≤ digitLimit
  · rw [if_pos hlimit, decide_eq_false (Nat.not_lt.2 hlimit)]
    rfl
  · rw [if_neg hlimit, decide_eq_true (Nat.lt_of_not_le hlimit)]
    rfl

theorem leadingInteger_eq {t digits rest : Text} {negative : Bool}
    (htext : signAndRest (trim t) = (negative, digits ++ rest)) (hdigits : IsDigits digits)
    (hrest : ∀ c ∈ rest.head?, c.isDigit = false) (hlimit : digits.length ≤ digitLimit) :
    leadingInteger t = some (signed negative (decimalValue digits)) := by
  rw [leadingInteger_eq_ite htext hdigits hrest, if_pos hlimit]

/-- A number that is read is spelled by digits at the start of the text. -/
theorem exists_isDigits_of_leadingInteger {t : Text} {n : Int} (h : leadingInteger t = some n) :
    ∃ negative digits rest, signAndRest (trim t) = (negative, digits ++ rest) ∧ IsDigits digits
      ∧ (∀ c ∈ rest.head?, c.isDigit = false) ∧ digits.length ≤ digitLimit
      ∧ n = signed negative (decimalValue digits) := by
  unfold leadingInteger at h
  cases hsign : signAndRest (trim t) with
  | mk negative body =>
    rw [hsign] at h
    dsimp only at h
    split at h
    · cases h
    · next hread =>
      rw [Bool.or_eq_true, not_or, decide_eq_true_eq, List.isEmpty_iff] at hread
      have hdigits : IsDigits (body.takeWhile Char.isDigit) :=
        ⟨hread.1, List.all_eq_true.1 List.all_takeWhile⟩
      refine ⟨negative, _, body.dropWhile Char.isDigit, ?_, hdigits, ?_, Nat.le_of_not_lt hread.2,
        (Option.some.inj h).symm⟩
      · rw [List.takeWhile_append_dropWhile]
      · intro c hc
        have hhead := List.head?_dropWhile_not Char.isDigit body
        rw [hc] at hhead
        simpa using hhead

theorem isDigits_natText (n : Nat) : IsDigits (natText n) :=
  ⟨Nat.toDigits_ne_nil, fun _ hc => Nat.isDigit_of_mem_toDigits (by decide) (by decide) hc⟩

/-- A number is read from the digits that it is written in. -/
theorem decimalValue_natText (n : Nat) : decimalValue (natText n) = n :=
  Nat.ofDigitChars_ten_toDigits

theorem leadingInteger_natText {n : Nat} (h : (natText n).length ≤ digitLimit) :
    leadingInteger (natText n) = some (n : Int) := by
  have hdigits := isDigits_natText n
  have htext : signAndRest (trim (natText n)) = (false, natText n ++ []) := by
    rw [trim_of_forall_isBlank fun c hc => isBlank_of_isDigit (hdigits.2 c hc), List.append_nil,
      hdigits.signAndRest_eq]
  rw [leadingInteger_eq htext hdigits (fun c hc => by cases hc) h, decimalValue_natText]
  rfl

end Remit.Text
