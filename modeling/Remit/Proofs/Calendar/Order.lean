import Remit.Proofs.Calendar.Schedule

/-!
# The order of dates and of their texts

A date is written from the year down to the day, in digits of fixed widths, so that texts of dates
are in the order of the dates:

* `lt_iff_decimalValue_lt`: rows of digits of one length are in the order of the numbers they spell;
* `Date.text_lt_iff`: the text of a date comes before a date text exactly if its year, month and day
  come before those that the other spells.

`executionDate_decided` is what there is to say about a date text: which day it names, and when that
day is still to come. If the month has the day, comparing the texts is enough.
-/

namespace Remit

open Text

namespace Text

/-! ## Rows of digits -/

/-- Of two texts whose first parts are of one length, these parts are compared first. -/
theorem append_lt_append_iff {a b s t : Text} (h : a.length = b.length) :
    a ++ s < b ++ t ↔ a < b ∨ a = b ∧ s < t := by
  induction a generalizing b with
  | nil =>
    obtain rfl := List.length_eq_zero_iff.1 h.symm
    simp
  | cons c a ih =>
    obtain ⟨d, b, rfl⟩ := List.exists_cons_of_length_eq_add_one h.symm
    have hlen : a.length = b.length := Nat.succ.inj h
    rw [List.cons_append, List.cons_append, List.cons_lt_cons_iff, List.cons_lt_cons_iff, ih hlen,
      List.cons.injEq]
    constructor
    · intro hlt
      rcases hlt with hc | ⟨hc, ha | ⟨ha, hs⟩⟩
      · exact Or.inl (Or.inl hc)
      · exact Or.inl (Or.inr ⟨hc, ha⟩)
      · exact Or.inr ⟨⟨hc, ha⟩, hs⟩
    · intro hlt
      rcases hlt with (hc | ⟨hc, ha⟩) | ⟨⟨hc, ha⟩, hs⟩
      · exact Or.inl hc
      · exact Or.inr ⟨hc, Or.inl ha⟩
      · exact Or.inr ⟨hc, Or.inr ⟨ha, hs⟩⟩

section

variable {s t : Text} (hs : ∀ c ∈ s, c.isDigit = true) (ht : ∀ c ∈ t, c.isDigit = true)
  (hlen : s.length = t.length)

include hs ht hlen

/-- Digits are in the order of the numbers that they spell. -/
theorem lt_iff_decimalValue_lt : s < t ↔ decimalValue s < decimalValue t := by
  induction s generalizing t with
  | nil =>
    obtain rfl := List.length_eq_zero_iff.1 hlen.symm
    simp
  | cons c s ih =>
    obtain ⟨d, t, rfl⟩ := List.exists_cons_of_length_eq_add_one hlen.symm
    rw [List.forall_mem_cons] at hs ht
    have hrest := ih hs.2 ht.2 (Nat.succ.inj hlen)
    have hc := toNat_of_isDigit hs.1
    have hd := toNat_of_isDigit ht.1
    have hslt := decimalValue_lt hs.2
    have htlt := decimalValue_lt ht.2
    rw [show s.length = t.length from Nat.succ.inj hlen] at hslt
    have hvalues := And.intro (decimalValue_cons c s) (decimalValue_cons d t)
    rw [show s.length = t.length from Nat.succ.inj hlen, show '0'.toNat = 48 from rfl] at hvalues
    rw [List.cons_lt_cons_iff, hrest]
    -- A smaller first digit outweighs whatever follows.
    have hweight : ∀ m n : Nat, m < n →
        Nat.pow 10 t.length * m + Nat.pow 10 t.length ≤ Nat.pow 10 t.length * n := by
      intro m n hmn
      rw [← Nat.mul_succ]
      exact Nat.mul_le_mul_left _ hmn
    have hlt : c < d ↔ c.toNat < d.toNat := Char.lt_def.trans UInt32.lt_iff_toNat_lt
    rcases Nat.lt_trichotomy c.toNat d.toNat with hcd | hcd | hcd
    · have := hweight (c.toNat - 48) (d.toNat - 48) (by omega)
      exact iff_of_true (Or.inl (hlt.2 hcd)) (by omega)
    · obtain rfl := Char.toNat_inj.1 hcd
      have hirrefl : ¬ c < c := by
        rw [hlt]
        omega
      simp only [hirrefl, false_or, true_and]
      omega
    · have := hweight (d.toNat - 48) (c.toNat - 48) (by omega)
      refine iff_of_false ?_ (by omega)
      intro hcase
      rcases hcase with hless | ⟨rfl, -⟩
      · have := hlt.1 hless
        omega
      · omega

/-- Rows of digits of one length are different texts of different numbers. -/
theorem eq_iff_decimalValue_eq : s = t ↔ decimalValue s = decimalValue t := by
  refine ⟨congrArg decimalValue, fun heq => ?_⟩
  have hst : ¬ s < t := by
    rw [lt_iff_decimalValue_lt hs ht hlen]
    omega
  have hts : ¬ t < s := by
    rw [lt_iff_decimalValue_lt ht hs hlen.symm]
    omega
  exact List.le_antisymm hts hst

end

/-- A number is spelled by its digits with zeros before them, which fill the width. -/
theorem zeroPadded_natText (width n : Nat) (hwidth : 0 < width) (hn : n < Nat.pow 10 width) :
    (zeroPadded width (natText n)).length = width
      ∧ (∀ c ∈ zeroPadded width (natText n), c.isDigit = true)
      ∧ decimalValue (zeroPadded width (natText n)) = n := by
  have hlen : (natText n).length ≤ width :=
    (Nat.length_toDigits_le_iff (by decide) hwidth).2 hn
  refine ⟨?_, ?_, ?_⟩
  · rw [zeroPadded, List.length_append, List.length_replicate]
    omega
  · intro c hc
    rcases List.mem_append.1 hc with hc | hc
    · rw [(List.mem_replicate.1 hc).2]
      decide
    · exact (isDigits_natText n).2 c hc
  · rw [zeroPadded, decimalValue, Nat.ofDigitChars_append, Nat.ofDigitChars_replicate_zero,
      Nat.mul_zero]
    exact decimalValue_natText n

end Text

/-! ## Texts of dates -/

/-- A text of three parts is put together from them. -/
theorem eq_of_splitOn {t year month day : Text} (h : t.splitOn '-' = [year, month, day]) :
    t = year ++ '-' :: (month ++ '-' :: day) := by
  have hrow : ['-'].intercalate (t.splitOn '-') = t := List.intercalate_splitOn '-'
  rw [← hrow, h, List.intercalate_cons_cons, List.intercalate_cons_cons, List.intercalate_singleton]
  simp

/-- Of texts in three parts of the same widths, the first parts that differ are compared. -/
theorem parts_lt_parts_iff {year month day year' month' day' : Text}
    (hyear : year.length = year'.length) (hmonth : month.length = month'.length) :
    year ++ '-' :: (month ++ '-' :: day) < year' ++ '-' :: (month' ++ '-' :: day')
      ↔ year < year' ∨ year = year' ∧ (month < month' ∨ month = month' ∧ day < day') := by
  rw [append_lt_append_iff hyear, List.cons_lt_cons_self, append_lt_append_iff hmonth,
    List.cons_lt_cons_self]

/-- The text of a date comes before a date text exactly if the date comes before what that spells,
by year, then by month, then by day. -/
theorem Date.text_lt_iff (date : Date) {t : Text} (h : isDateText t = true) :
    date.text < t ↔ date.year < (dateFields t).1 ∨ date.year = (dateFields t).1
      ∧ (date.month < (dateFields t).2.1 ∨ date.month = (dateFields t).2.1
        ∧ date.day < (dateFields t).2.2) := by
  obtain ⟨year, month, day, hsplit, hparts, ⟨hyearLen, hmonthLen, hdayLen⟩, -⟩ :=
    exists_parts_of_isDateText h
  simp only [List.forall_mem_cons] at hparts
  obtain ⟨⟨-, hyear⟩, ⟨-, hmonth⟩, ⟨-, hday⟩, -⟩ := hparts
  have hfields : dateFields t = (decimalValue year, decimalValue month, decimalValue day) := by
    rw [dateFields, hsplit]
  -- The parts of the date are written in the same widths.
  obtain ⟨-, hyearMax, -, hmonthMax, -, hdayMax⟩ := date.isDate
  have hdays := daysInMonth_le date.year date.month
  obtain ⟨hyearLen', hyear', hyearValue⟩ := zeroPadded_natText 4 date.year (by decide)
    (show date.year < 10000 by omega)
  obtain ⟨hmonthLen', hmonth', hmonthValue⟩ := zeroPadded_natText 2 date.month (by decide)
    (show date.month < 100 by omega)
  obtain ⟨hdayLen', hday', hdayValue⟩ := zeroPadded_natText 2 date.day (by decide)
    (show date.day < 100 by omega)
  rw [hfields, eq_of_splitOn hsplit, text, List.append_assoc, List.cons_append,
    parts_lt_parts_iff (hyearLen'.trans hyearLen.symm) (hmonthLen'.trans hmonthLen.symm),
    lt_iff_decimalValue_lt hyear' hyear (hyearLen'.trans hyearLen.symm),
    lt_iff_decimalValue_lt hmonth' hmonth (hmonthLen'.trans hmonthLen.symm),
    lt_iff_decimalValue_lt hday' hday (hdayLen'.trans hdayLen.symm),
    eq_iff_decimalValue_eq hyear' hyear (hyearLen'.trans hyearLen.symm),
    eq_iff_decimalValue_eq hmonth' hmonth (hmonthLen'.trans hmonthLen.symm),
    hyearValue, hmonthValue, hdayValue]

/-! ## The decision on a date -/

/-- Whether a date text is still to come is decided by the day that it names. -/
theorem isFuture_of_executionDate {t : Text} (h : isDateText t = true) {day : Option Date}
    (hday : executionDate t = .ok day) (today : Date) :
    isFuture (some t) today = .ok (day.any fun date => today.Before date) := by
  cases t with
  | nil => cases h
  | cons c t =>
    unfold isFuture
    dsimp only
    rw [hday]
    cases day with
    | none => rfl
    | some date => rfl

/-- If the month has the day, a date text is still to come exactly if the text of today comes before
it. -/
theorem isFuture_eq_text_lt {t : Text} (h : isDateText t = true) (today : Date)
    (hin : (dateFields t).2.2 ≤ daysInMonth (dateFields t).1 (dateFields t).2.1) :
    isFuture (some t) today = .ok (decide (today.text < t)) := by
  have hlt := today.text_lt_iff h
  rcases executionDate_cases h with ⟨hzero, hnone⟩ | ⟨date, hnames, hsome⟩
  · -- Every date comes after the year 0.
    have hyear := today.isDate.1
    have hnot : ¬ today.text < t := by
      rw [hlt]
      omega
    rw [isFuture_of_executionDate h hnone, decide_eq_false hnot]
    rfl
  · rw [NamesDay, rolledOver, if_pos hin, Prod.mk.injEq, Prod.mk.injEq] at hnames
    rw [isFuture_of_executionDate h hsome, Option.any_some, Except.ok.injEq, decide_eq_decide, hlt,
      Date.Before, hnames.1, hnames.2.1, hnames.2.2]

/-- A date text names a day, unless its year is 0: the one that it spells, or a day of the next
month of that year if the month is too short. It is still to come if today is before that day. If
the month is long enough, the texts may be compared instead. -/
theorem executionDate_decided {t : Text} {year month day : Nat} (h : isDateText t = true)
    (hfields : dateFields t = (year, month, day)) (today : Date) :
    (year = 0 ∧ executionDate t = .ok none ∧ isFuture (some t) today = .ok false
        ∨ 1 ≤ year ∧ ∃ date : Date, executionDate t = .ok (some date)
          ∧ (date.year, date.month, date.day)
            = (if day ≤ daysInMonth year month then (year, month, day)
              else (year, month + 1, day - daysInMonth year month))
          ∧ isFuture (some t) today = .ok (decide (today.Before date)))
      ∧ (day ≤ daysInMonth year month →
        isFuture (some t) today = .ok (decide (today.text < t))) := by
  refine ⟨?_, fun hin => isFuture_eq_text_lt h today (by rw [hfields]; exact hin)⟩
  rcases executionDate_cases h with ⟨hzero, hnone⟩ | ⟨date, hnames, hsome⟩
  · rw [hfields] at hzero
    exact Or.inl ⟨hzero, hnone, isFuture_of_executionDate h hnone today⟩
  · have hyear := hnames.one_le_year
    rw [NamesDay, hfields] at hnames
    rw [hfields] at hyear
    exact Or.inr ⟨hyear, date, hsome, hnames, isFuture_of_executionDate h hsome today⟩

/-- The year 1900 has no leap day, so that one counts on into March. The year 2000 has one. -/
theorem executionDate_decided_leapDays :
    isDateText "1900-02-29".toList = true
      ∧ (∃ date : Date, executionDate "1900-02-29".toList = .ok (some date)
        ∧ (date.year, date.month, date.day) = (1900, 3, 1)
        ∧ isFuture (some "1900-02-29".toList) ⟨1900, 2, 28, by decide⟩
          = .ok (decide ((⟨1900, 2, 28, by decide⟩ : Date).Before date)))
      ∧ isDateText "2000-02-29".toList = true
      ∧ (⟨2000, 2, 28, by decide⟩ : Date).text < "2000-02-29".toList
      ∧ isFuture (some "2000-02-29".toList) ⟨2000, 2, 28, by decide⟩ = .ok true := by
  have h1900 : isDateText "1900-02-29".toList = true := by decide +kernel
  have h2000 : isDateText "2000-02-29".toList = true := by decide +kernel
  have hfields1900 : dateFields "1900-02-29".toList = (1900, 2, 29) := by decide +kernel
  have hfields2000 : dateFields "2000-02-29".toList = (2000, 2, 29) := by decide +kernel
  have hlt : (⟨2000, 2, 28, by decide⟩ : Date).text < "2000-02-29".toList := by decide +kernel
  refine ⟨h1900, ?_, h2000, hlt, ?_⟩
  · rcases (executionDate_decided h1900 hfields1900 ⟨1900, 2, 28, by decide⟩).1 with
      ⟨hzero, -⟩ | ⟨-, date, hdate, hday, hfuture⟩
    · cases hzero
    · exact ⟨date, hdate, hday, hfuture⟩
  · rw [(executionDate_decided h2000 hfields2000 ⟨2000, 2, 28, by decide⟩).2 (by decide),
      decide_eq_true hlt]

end Remit
