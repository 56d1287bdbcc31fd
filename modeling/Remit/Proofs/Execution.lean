import Remit.Proofs.Calendar.Schedule
import Remit.Proofs.Instruction.WellFormed
import Remit.Proofs.Money.Exact
import Remit.Proofs.Processing

/-!
# What becomes of a transfer

A transfer with a date that can be read has one of three ends (`Transfer.execution`): it is
scheduled if its date is still to come; otherwise it is completed, unless its amount is too large
for one of its balances (`Transfer.Overflows`). Only a binary64 balance can be too small for an
amount, so a transfer between whole balances never fails.
-/

namespace Remit

/-! ## Amounts beyond the range of binary64 numbers -/

/-- An integer beyond the finite binary64 numbers: one that is no nearer to the largest of them,
`2 ^ 1024 - 2 ^ 971`, than to `2 ^ 1024`. -/
def Double.IsTooLarge (n : Int) : Prop :=
  twoPow 1024 ≤ n.natAbs + twoPow 970

theorem Double.ofInt?_eq_none_iff {n : Int} : ofInt? n = none ↔ IsTooLarge n := by
  rw [ofInt?, finite?, IsTooLarge, ← unitsEnd_le_nearest_iff]
  split
  · next hrange => simp only [reduceCtorEq, false_iff, Nat.not_le, hrange]
  · next hrange => simp only [Nat.le_of_not_lt hrange]

namespace Balance

/-- A balance that is a binary64 number. -/
def IsReal (b : Balance) : Prop :=
  ∃ value, b = .real value

theorem not_isReal_whole (n : Int) : ¬ (whole n).IsReal := by
  rintro ⟨value, hreal⟩
  cases hreal

/-- Only an amount that is too large cannot be taken from a binary64 balance. -/
theorem debit_cases (b : Balance) (amount : Int) :
    ((∃ after, b.debit amount = .ok after) ∧ ¬ (Double.IsTooLarge amount ∧ b.IsReal))
      ∨ b.debit amount = .error .amountTooLarge ∧ Double.IsTooLarge amount ∧ b.IsReal := by
  rw [← Double.ofInt?_eq_none_iff]
  unfold debit
  -- The number is named before the balance is looked at, so that nothing evaluates it.
  generalize Double.ofInt? amount = found
  cases b with
  | whole n => exact Or.inl ⟨⟨_, rfl⟩, fun h => not_isReal_whole n h.2⟩
  | real value =>
    cases found with
    | none => exact Or.inr ⟨rfl, rfl, value, rfl⟩
    | some x => exact Or.inl ⟨⟨_, rfl⟩, fun h => by cases h.1⟩

theorem credit_cases (b : Balance) (amount : Int) :
    ((∃ after, b.credit amount = .ok after) ∧ ¬ (Double.IsTooLarge amount ∧ b.IsReal))
      ∨ b.credit amount = .error .amountTooLarge ∧ Double.IsTooLarge amount ∧ b.IsReal := by
  rw [← Double.ofInt?_eq_none_iff]
  unfold credit
  -- The number is named before the balance is looked at, so that nothing evaluates it.
  generalize Double.ofInt? amount = found
  cases b with
  | whole n => exact Or.inl ⟨⟨_, rfl⟩, fun h => not_isReal_whole n h.2⟩
  | real value =>
    cases found with
    | none => exact Or.inr ⟨rfl, rfl, value, rfl⟩
    | some x => exact Or.inl ⟨⟨_, rfl⟩, fun h => by cases h.1⟩

end Balance

/-! ## The ends of a transfer -/

namespace Transfer

/-- The amount is too large for one of the two balances. -/
def Overflows (t : Transfer) : Prop :=
  Double.IsTooLarge t.amount ∧ (t.debitAccount.balance.IsReal ∨ t.creditAccount.balance.IsReal)

/-- One of the two new balances cannot be worked out. -/
def Fails (t : Transfer) : Prop :=
  t.debitAccount.balance.debit t.amount = .error .amountTooLarge
    ∨ t.creditAccount.balance.credit t.amount = .error .amountTooLarge

theorem complete_cases (t : Transfer) :
    (∃ debit credit, t.debitAccount.balance.debit t.amount = .ok debit
        ∧ t.creditAccount.balance.credit t.amount = .ok credit
        ∧ t.complete = .ok (t.completed debit credit) ∧ ¬ t.Overflows)
      ∨ t.complete = .error .amountTooLarge ∧ t.Fails ∧ t.Overflows := by
  rcases t.debitAccount.balance.debit_cases t.amount with
    ⟨⟨debit, hdebit⟩, hfits⟩ | ⟨hdebit, hlarge, hreal⟩
  · rcases t.creditAccount.balance.credit_cases t.amount with
      ⟨⟨credit, hcredit⟩, hfits'⟩ | ⟨hcredit, hlarge, hreal⟩
    · refine Or.inl ⟨debit, credit, hdebit, hcredit, ?_, ?_⟩
      · rw [complete_eq_ok_iff]
        exact ⟨debit, credit, hdebit, hcredit, rfl⟩
      · rintro ⟨hlarge, hreal | hreal⟩
        · exact hfits ⟨hlarge, hreal⟩
        · exact hfits' ⟨hlarge, hreal⟩
    · -- The debit is worked out by then, but nothing is kept of it.
      refine Or.inr ⟨?_, Or.inr hcredit, hlarge, Or.inr hreal⟩
      rw [complete, hdebit, hcredit]
      rfl
  · refine Or.inr ⟨?_, Or.inl hdebit, hlarge, Or.inl hreal⟩
    rw [complete, hdebit]
    rfl

/-- Nothing but an amount that is too large makes a transfer fail. -/
theorem fails_iff {t : Transfer} : t.Fails ↔ t.Overflows := by
  rcases t.complete_cases with ⟨debit, credit, hdebit, hcredit, -, hfits⟩ | ⟨-, hfails, hlarge⟩
  · refine ⟨fun h => ?_, fun hlarge => absurd hlarge hfits⟩
    rcases h with h | h
    · rw [hdebit] at h
      cases h
    · rw [hcredit] at h
      cases h
  · exact ⟨fun _ => hlarge, fun _ => hfails⟩

/-- How a transfer ends: scheduled, completed, or with an amount that is too large. -/
inductive Execution (today : Date) (t : Transfer) : Prop
  | scheduled (hahead : IsAhead today t.executeBy) (hexecute : t.execute today = .ok t.scheduled)
  | completed {debit credit : Balance} (hdue : ¬ IsAhead today t.executeBy)
    (hfits : ¬ t.Overflows) (hdebit : t.debitAccount.balance.debit t.amount = .ok debit)
    (hcredit : t.creditAccount.balance.credit t.amount = .ok credit)
    (hexecute : t.execute today = .ok (t.completed debit credit))
  | overflowed (hdue : ¬ IsAhead today t.executeBy) (hlarge : t.Overflows)
    (hexecute : t.execute today = .error (.balance .amountTooLarge))

theorem execution {t : Transfer} (hdate : ∀ date ∈ t.executeBy, isDateText date = true)
    (today : Date) : t.Execution today := by
  rcases isFuture_cases hdate today with ⟨hfuture, hahead⟩ | ⟨hfuture, hdue⟩
  · exact .scheduled hahead (execute_eq_ok_iff.2 (Or.inl ⟨hfuture, rfl⟩))
  · rcases t.complete_cases with
      ⟨debit, credit, hdebit, hcredit, hcomplete, hfits⟩ | ⟨hcomplete, -, hlarge⟩
    · exact .completed hdue hfits hdebit hcredit
        (execute_eq_ok_iff.2 (Or.inr ⟨hfuture, hcomplete⟩))
    · refine .overflowed hdue hlarge ?_
      rw [execute, hfuture, hcomplete]

/-- Every transfer that an instruction was read for ends in one of these ways, as the date of the
instruction was checked when it was read. -/
theorem execution_of_parse {supported : List Text} {accounts : List Account} {text : Text}
    {i : Instruction} {t : Transfer} (hparse : Instruction.parse text = .ok i)
    (hchecks : ChecksOut supported accounts i t) (today : Date) : t.Execution today :=
  execution (hchecks.executeBy ▸ (Instruction.wellFormed_of_parse hparse).isDateText) today

end Transfer
end Remit
