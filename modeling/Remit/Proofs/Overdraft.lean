import Remit.Proofs.Entries
import Remit.Proofs.Ledger

/-!
# No overdraft in a session

With whole balances, no step of a session takes a balance below zero. `noOverdraft_run` says so of
every account after any number of steps, and of the debit entry of every completed transfer.

An account may be in debt from the start. It is then never debited, so its balance does not fall;
hence the bound is zero or the first balance, whichever is less (`Solvent`). Only this bound, and
not the sign of a balance, carries over from one step to the next (`Solvent.trans`).
-/

namespace Remit

open Text

/-! ## Balances that do not fall below zero -/

/-- The accounts are as before except for their balances, and none of these has fallen below zero,
or below where it was if that is less. -/
structure Solvent (before after : List Account) : Prop where
  length_eq : after.length = before.length
  floor : ∀ (i : Nat) (account : Account) (n : Int), before[i]? = some account →
    account.balance = .whole n →
    ∃ m : Int, after[i]? = some { account with balance := .whole m } ∧ min 0 n ≤ m

namespace Solvent

theorem refl (accounts : List Account) : Solvent accounts accounts := by
  refine ⟨rfl, fun i account n hi hn => ⟨n, ?_, Int.min_le_right 0 n⟩⟩
  rw [hi, ← hn]

theorem trans {first second third : List Account} (h : Solvent first second)
    (h' : Solvent second third) : Solvent first third := by
  refine ⟨h'.length_eq.trans h.length_eq, fun i account n hi hn => ?_⟩
  obtain ⟨m, hm, hfloor⟩ := h.floor i account n hi hn
  obtain ⟨m', hm', hfloor'⟩ := h'.floor i _ m hm rfl
  exact ⟨m', hm', by omega⟩

/-- An account may be given any balance above the bound. -/
theorem setBalance {accounts : List Account} {account : Account}
    (h : Account.find? accounts account.id = some account) {b : Int}
    (hb : account.balance = .whole b) {n : Int} (hn : min 0 b ≤ n) :
    Solvent accounts (Account.setBalance account.id (.whole n) accounts) := by
  have hids := congrArg List.length (Account.map_id_setBalance account.id (.whole n) accounts)
  rw [List.length_map, List.length_map] at hids
  refine ⟨hids, fun i other m hi hm => ?_⟩
  rw [Account.getElem?_setBalance, hi, Option.map_some]
  by_cases hposition : Account.position accounts account.id = i
  · -- What stands there is the account itself.
    rw [Account.find?_eq_getElem?, hposition, hi, Option.some.injEq] at h
    rw [h, hb, Balance.whole.injEq] at hm
    rw [if_pos hposition]
    exact ⟨n, rfl, hm ▸ hn⟩
  · refine ⟨m, ?_, Int.min_le_right 0 m⟩
    rw [if_neg hposition, ← hm]

end Solvent

/-! ## Covered transfers -/

/-- The account that a response debits had the amount, which is positive, and is not overdrawn
afterwards. -/
def Response.Covered (r : Response) : Prop :=
  ∃ debit amount before after, r.debitEntry = some debit ∧ r.amount = some amount
    ∧ debit.balanceBefore = .whole before ∧ debit.balance = .whole after
    ∧ 1 ≤ amount ∧ amount ≤ before ∧ 0 ≤ after

namespace Session

theorem covered_of_code {supported : List Text} {accounts : List Account}
    (hwhole : AllWhole accounts) {step : Step}
    (h : (respond supported accounts step).code = .AP00) :
    (respond supported accounts step).Covered := by
  obtain ⟨i, t, debit, credit, hchecks, hreports⟩ := Request.reports_of_code (Or.inl h)
  obtain ⟨before, hbefore⟩ := hwhole _ (List.mem_of_find?_eq_some hchecks.debit)
  have hpos := readAmount_pos hchecks.amount
  have hfunds := hchecks.funds
  rw [hbefore, Balance.isBelow_whole, decide_eq_false_iff_not, Int.not_lt] at hfunds
  have hdebit := hreports.debit_before.trans hbefore
  rcases hreports.balances with ⟨hpending, -⟩ | ⟨-, hafter, -⟩
  · exact absurd (h.symm.trans hpending) (by decide)
  · rw [hdebit, Balance.debit_whole, Except.ok.injEq] at hafter
    exact ⟨debit, t.amount, before, before - t.amount, hreports.debitEntry, hreports.amount,
      hdebit, hafter.symm, hpos, hfunds, by omega⟩

/-- A step takes no more from an account than it has. -/
theorem solvent_next (supported : List Text) {accounts : List Account}
    (hwhole : AllWhole accounts) (step : Step) :
    Solvent accounts (next supported accounts step) := by
  rcases next_of_allWhole supported hwhole step with ⟨-, hnext⟩ |
    ⟨debit, credit, bd, bc, n, hdebit, hcredit, hne, hbd, hbc, -, hpos, hfunds, -, -, -, -, hnext⟩
  · rw [hnext]
    exact Solvent.refl accounts
  · have hcredit' : Account.find? (Account.setBalance debit.id (.whole (bd - n)) accounts) credit.id
        = some credit := by
      rw [Account.find?_setBalance_of_ne hne, hcredit]
    have htaken := Solvent.setBalance hdebit hbd (n := bd - n) (by omega)
    have hgiven := Solvent.setBalance hcredit' hbc (n := bc + n) (by omega)
    rw [hnext]
    exact htaken.trans hgiven

/-- Each step keeps the balances whole, and the bounds of the steps add up. -/
theorem solvent_run (supported : List Text) (steps : List Step) {accounts : List Account}
    (hwhole : AllWhole accounts) :
    Solvent accounts (final accounts (run supported accounts steps)) := by
  induction steps generalizing accounts with
  | nil => exact Solvent.refl accounts
  | cons step rest ih =>
    rw [run, final_cons]
    have hstep := solvent_next supported hwhole step
    exact hstep.trans (ih (hwhole.moves (moves_next supported hwhole step)))

theorem covered_run (supported : List Text) (steps : List Step) {accounts : List Account}
    (hwhole : AllWhole accounts) :
    ∀ r ∈ responses (run supported accounts steps), r.code = .AP00 → r.Covered := by
  induction steps generalizing accounts with
  | nil => exact fun r hr => by cases hr
  | cons step rest ih =>
    intro r hr hcode
    rcases List.mem_cons.1 hr with rfl | hr
    · exact covered_of_code hwhole hcode
    · exact ih (hwhole.moves (moves_next supported hwhole step)) r hr hcode

end Session

/-! ## Sessions -/

/-- After any number of steps no balance is below zero, or below its first value if that is less;
and every completed transfer was covered by the account that it debited. -/
theorem noOverdraft_run (supported : List Text) (accounts : List Account)
    (steps : List Session.Step) (hwhole : AllWhole accounts) (k : Nat) :
    Solvent accounts (Session.final accounts ((Session.run supported accounts steps).take k))
      ∧ ∀ r ∈ Session.responses ((Session.run supported accounts steps).take k),
        r.code = .AP00 → r.Covered := by
  rw [Session.take_run]
  exact ⟨Session.solvent_run supported (steps.take k) hwhole,
    Session.covered_run supported (steps.take k) hwhole⟩

/-- An account in debt, one with funds, and a second one with the id of the first. -/
def accountInDebt : List Account := [
  ⟨"A".toList, .whole (-3), "NGN".toList⟩, ⟨"B".toList, .whole 5, "NGN".toList⟩,
  ⟨"A".toList, .whole 100, "NGN".toList⟩]

/-- A debit of the account in debt, a credit to it that leaves it in debt, a transfer of all that is
left, and one more. -/
def drainingSteps : List Session.Step := [
  ⟨"DEBIT 1 NGN FROM ACCOUNT A FOR CREDIT TO ACCOUNT B".toList, ⟨2025, 6, 1, by decide⟩⟩,
  ⟨"CREDIT +02x NGN TO ACCOUNT A FOR DEBIT FROM ACCOUNT B".toList, ⟨2025, 6, 2, by decide⟩⟩,
  ⟨"DEBIT 3 NGN FROM ACCOUNT B FOR CREDIT TO ACCOUNT A".toList, ⟨2025, 6, 2, by decide⟩⟩,
  ⟨"DEBIT 1 NGN FROM ACCOUNT B FOR CREDIT TO ACCOUNT A".toList, ⟨2025, 6, 3, by decide⟩⟩]

/-- The debt is paid off by the second and the third step, the others are refused. -/
theorem noOverdraft_run_accountInDebt :
    Session.final accountInDebt
          ((Session.run ["NGN".toList] accountInDebt drainingSteps).take 4)
        = [⟨"A".toList, .whole 2, "NGN".toList⟩, ⟨"B".toList, .whole 0, "NGN".toList⟩,
          ⟨"A".toList, .whole 100, "NGN".toList⟩]
      ∧ Solvent accountInDebt (Session.final accountInDebt
          ((Session.run ["NGN".toList] accountInDebt drainingSteps).take 4))
      ∧ ∀ r ∈ Session.responses
          ((Session.run ["NGN".toList] accountInDebt drainingSteps).take 4),
        r.code = .AP00 → r.Covered := by
  have hwhole : AllWhole accountInDebt := by
    simp [AllWhole, accountInDebt]
  exact ⟨by decide +kernel, noOverdraft_run ["NGN".toList] accountInDebt drainingSteps hwhole 4⟩

end Remit
