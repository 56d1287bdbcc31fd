import Remit.Calendar.Schedule
import Remit.Proofs.Text.Numeral

/-!
# The day that a date names

A text of the form of a date always names a day or lies before all dates. `executionDate_cases` says
which: the day that it spells, where days past the end of the month are counted on into the next one
(`rolledOver`), or none if the year is 0. No such text is refused, whatever its month and day, since
a day of at most 31 never runs on past the next month, and never out of December.

`isFuture_cases` compares that day with today.
-/

namespace Remit

open Text

/-! ## Counting on into the next month -/

/-- The year, month and day that are reached from a month and a day in it. Days past the end of the
month are counted on into the next one. -/
def rolledOver (year month day : Nat) : Nat × Nat × Nat :=
  if day ≤ daysInMonth year month then (year, month, day)
  else (year, month + 1, day - daysInMonth year month)

theorem le_daysInMonth (year month : Nat) : 28 ≤ daysInMonth year month := by
  unfold daysInMonth
  split
  · split <;> decide
  all_goals decide

theorem daysInMonth_le (year month : Nat) : daysInMonth year month ≤ 31 := by
  unfold daysInMonth
  split
  · split <;> decide
  all_goals decide

/-- December has every day that a date text can spell. -/
theorem ne_december {year month day : Nat} (hday : day ≤ 31)
    (hpast : ¬ day ≤ daysInMonth year month) : month ≠ 12 := by
  rintro rfl
  exact hpast hday

section

variable {year month day : Nat} (hyear : 1 ≤ year ∧ year ≤ 9999) (hmonth : 1 ≤ month ∧ month ≤ 12)
  (hday : 1 ≤ day ∧ day ≤ 31)

include hyear hmonth hday

/-- What is reached is a day of the calendar, in the same year. -/
theorem isDate_rolledOver : IsDate (rolledOver year month day).1 (rolledOver year month day).2.1
    (rolledOver year month day).2.2 := by
  unfold rolledOver
  split
  · next hin => exact ⟨hyear.1, hyear.2, hmonth.1, hmonth.2, hday.1, hin⟩
  · next hpast =>
    have hdecember := ne_december hday.2 hpast
    have hroom := le_daysInMonth year month
    have hnext := le_daysInMonth year (month + 1)
    show IsDate year (month + 1) (day - daysInMonth year month)
    exact ⟨hyear.1, hyear.2, by omega, by omega, by omega, by omega⟩

/-- Counting on from month to month stops in the next month at the latest. -/
theorem rollOver?_eq : Date.rollOver? year month day
    = some ⟨_, _, _, isDate_rolledOver hyear hmonth hday⟩ := by
  have hdate := isDate_rolledOver hyear hmonth hday
  rw [Date.rollOver?]
  by_cases hin : day ≤ daysInMonth year month
  · have hroll : rolledOver year month day = (year, month, day) := if_pos hin
    rw [dif_pos ⟨hyear.1, hyear.2, hmonth.1, hmonth.2, hday.1, hin⟩]
    simp only [hroll]
  · have hroll : rolledOver year month day = (year, month + 1, day - daysInMonth year month) :=
      if_neg hin
    have hnext : Date.nextMonth year month = (year, month + 1) := if_neg (ne_december hday.2 hin)
    rw [dif_neg fun h => hin h.2.2.2.2.2, if_pos ⟨hyear.2, Nat.lt_of_not_le hin⟩, hnext,
      Date.rollOver?]
    simp only [hroll] at hdate ⊢
    rw [dif_pos hdate]

end

/-! ## Date texts -/

/-- The year, the month and the day that a date text spells. -/
def dateFields (t : Text) : Nat × Nat × Nat :=
  match t.splitOn '-' with
  | [year, month, day] => (decimalValue year, decimalValue month, decimalValue day)
  | _ => (0, 0, 0)

/-- A date text spells three numbers in four, two and two digits, with a month of the year and a day
of at most 31. -/
theorem exists_parts_of_isDateText {t : Text} (h : isDateText t = true) :
    ∃ year month day, t.splitOn '-' = [year, month, day]
      ∧ (∀ part ∈ [year, month, day], IsDigits part)
      ∧ (year.length = 4 ∧ month.length = 2 ∧ day.length = 2)
      ∧ (1 ≤ decimalValue month ∧ decimalValue month ≤ 12)
      ∧ 1 ≤ decimalValue day ∧ decimalValue day ≤ 31 := by
  unfold isDateText at h
  split at h
  · next year month day hsplit =>
    simp only [Bool.and_eq_true, beq_iff_eq, decide_eq_true_eq, List.all_eq_true] at h
    obtain ⟨⟨⟨⟨⟨⟨⟨⟨⟨hyearLen, hmonthLen⟩, hdayLen⟩, hyear⟩, hmonth⟩, hday⟩, hlowMonth⟩, hhighMonth⟩,
      hlowDay⟩, hhighDay⟩ := h
    have hdigits : ∀ {part : Text}, 0 < part.length → (∀ c ∈ part, c.isDigit = true) →
        IsDigits part := fun hpos hall => ⟨List.ne_nil_of_length_pos hpos, hall⟩
    refine ⟨year, month, day, hsplit, ?_, ⟨hyearLen, hmonthLen, hdayLen⟩, ⟨hlowMonth, hhighMonth⟩,
      hlowDay, hhighDay⟩
    simp only [List.forall_mem_cons]
    exact ⟨hdigits (by omega) hyear, hdigits (by omega) hmonth, hdigits (by omega) hday,
      List.forall_mem_nil _⟩
  · cases h

theorem readPart_of_isDigits {part : Text} (h : IsDigits part) (hlen : part.length ≤ digitLimit) :
    readPart part = .ok (decimalValue part : Int) := by
  rw [readPart, h.map_plainDigit_eq, h.wholeInteger_eq hlen]

theorem dateParts_of_isDateText {t : Text} (h : isDateText t = true) :
    dateParts t = .ok ((dateFields t).1, (dateFields t).2.1, (dateFields t).2.2) := by
  obtain ⟨year, month, day, hsplit, hparts, ⟨hyearLen, hmonthLen, hdayLen⟩, -⟩ :=
    exists_parts_of_isDateText h
  simp only [List.forall_mem_cons] at hparts
  have hlimit : 4 ≤ digitLimit := by decide
  have hyear := readPart_of_isDigits hparts.1 (by omega)
  have hmonth := readPart_of_isDigits hparts.2.1 (by omega)
  have hday := readPart_of_isDigits hparts.2.2.1 (by omega)
  rw [dateParts, dateFields, hsplit]
  simp only [List.take_succ_cons, List.take_nil, List.mapM_cons, List.mapM_nil, hyear, hmonth, hday]
  rfl

/-- Numbers in the range of dates are within every bound, so the day is worked out. -/
theorem executionDate_of_dateParts {t : Text} {year month day : Nat}
    (hparts : dateParts t = .ok (year, month, day)) (hyear : year ≤ 9999)
    (hmonth : 1 ≤ month ∧ month ≤ 12) (hday : 1 ≤ day ∧ day ≤ 31) :
    executionDate t = .ok (if h : 1 ≤ year then
      some ⟨_, _, _, isDate_rolledOver ⟨h, hyear⟩ hmonth hday⟩ else none) := by
  have hword : ∀ n : Nat, n ≤ 9999 → inWord n = .ok (n : Int) := by
    intro n hn
    unfold inWord longWordMax wordMax
    rw [if_neg (by omega), if_neg (by omega)]
  have hdistance : inDistance day = .ok (day : Int) := by
    unfold inDistance wordMax daysMax
    rw [if_neg (by omega), if_neg (by omega)]
  unfold executionDate
  rw [hparts]
  simp only [bind, Except.bind]
  by_cases h : 1 ≤ year
  · have hrange : ¬ ((month : Int) < 1 ∨ 12 < (month : Int)) := by omega
    have hday' : Date.dayOfMonth? year month day = Date.rollOver? year month day :=
      if_neg (by omega)
    rw [dif_pos h, if_neg (by omega), hword year hyear, hword month (by omega)]
    dsimp only
    rw [if_neg (by omega), if_neg hrange, hdistance]
    dsimp only
    rw [Int.toNat_natCast, Int.toNat_natCast, Int.toNat_natCast, hday',
      rollOver?_eq ⟨h, hyear⟩ hmonth hday]
  · rw [dif_neg h, if_pos (by omega)]

/-- A date text names a day: the one that it spells, counted on past the end of the month. -/
def NamesDay (t : Text) (date : Date) : Prop :=
  (date.year, date.month, date.day)
    = rolledOver (dateFields t).1 (dateFields t).2.1 (dateFields t).2.2

theorem NamesDay.unique {t : Text} {date date' : Date} (h : NamesDay t date)
    (h' : NamesDay t date') : date = date' := by
  obtain ⟨year, month, day, hdate⟩ := date
  obtain ⟨year', month', day', hdate'⟩ := date'
  have heq : (year, month, day) = (year', month', day') := h.trans h'.symm
  simp only [Prod.mk.injEq] at heq
  obtain ⟨rfl, rfl, rfl⟩ := heq
  rfl

/-- The year 0 is the only one that names no day. -/
theorem NamesDay.one_le_year {t : Text} {date : Date} (h : NamesDay t date) :
    1 ≤ (dateFields t).1 := by
  have hyear : date.year = (dateFields t).1 := by
    have hfst := congrArg Prod.fst h
    rw [rolledOver] at hfst
    split at hfst <;> exact hfst
  have hdate := date.isDate.1
  omega

/-- Every date text names one day, unless its year is 0. -/
theorem executionDate_cases {t : Text} (h : isDateText t = true) :
    ((dateFields t).1 = 0 ∧ executionDate t = .ok none)
      ∨ ∃ date, NamesDay t date ∧ executionDate t = .ok (some date) := by
  obtain ⟨year, month, day, hsplit, hparts, ⟨hlen, -⟩, hmonth, hday⟩ :=
    exists_parts_of_isDateText h
  have hyear9999 : decimalValue year < Nat.pow 10 4 :=
    hlen ▸ decimalValue_lt (hparts year List.mem_cons_self).2
  have hfields : dateFields t = (decimalValue year, decimalValue month, decimalValue day) := by
    rw [dateFields, hsplit]
  have hread := dateParts_of_isDateText h
  rw [hfields] at hread
  have hdate := executionDate_of_dateParts hread (Nat.le_of_lt_succ hyear9999) hmonth hday
  rw [hdate, hfields]
  by_cases hpos : 1 ≤ decimalValue year
  · rw [dif_pos hpos]
    exact Or.inr ⟨_, by rw [NamesDay, hfields], rfl⟩
  · rw [dif_neg hpos]
    exact Or.inl ⟨by omega, rfl⟩

/-! ## Today -/

/-- The day that a date names is after today. -/
def IsAhead (today : Date) (executeBy : Option Text) : Prop :=
  ∃ t ∈ executeBy, ∃ date, NamesDay t date ∧ today.Before date

/-- Whether a date is still to come is decided for every date text: it is if the day that it names
is after today. -/
theorem isFuture_cases {executeBy : Option Text} (h : ∀ t ∈ executeBy, isDateText t = true)
    (today : Date) :
    (isFuture executeBy today = .ok true ∧ IsAhead today executeBy)
      ∨ (isFuture executeBy today = .ok false ∧ ¬ IsAhead today executeBy) := by
  match executeBy with
  | none => exact Or.inr ⟨rfl, fun ⟨t, ht, _⟩ => by cases ht⟩
  | some [] => exact absurd (h [] rfl) (by decide)
  | some (c :: t) =>
    have hahead : IsAhead today (some (c :: t))
        ↔ ∃ date, NamesDay (c :: t) date ∧ today.Before date := by
      simp [IsAhead]
    rw [hahead]
    unfold isFuture
    dsimp only
    rcases executionDate_cases (h _ rfl) with ⟨hzero, hnone⟩ | ⟨date, hnames, hsome⟩
    · rw [hnone]
      refine Or.inr ⟨rfl, fun ⟨date, hnames, _⟩ => ?_⟩
      have hyear := hnames.one_le_year
      omega
    · rw [hsome]
      have hday : (∃ date, NamesDay (c :: t) date ∧ today.Before date) ↔ today.Before date :=
        ⟨fun ⟨date', hnames', hbefore⟩ => hnames'.unique hnames ▸ hbefore,
          fun hbefore => ⟨date, hnames, hbefore⟩⟩
      rw [hday]
      by_cases hbefore : today.Before date
      · exact Or.inl ⟨congrArg Except.ok (decide_eq_true hbefore), hbefore⟩
      · exact Or.inr ⟨congrArg Except.ok (decide_eq_false hbefore), hbefore⟩

end Remit
