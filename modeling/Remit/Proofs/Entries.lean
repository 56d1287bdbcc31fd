import Remit.Proofs.Processing
import Remit.Proofs.RequestOrder

/-!
# What a response of success lists

A response names two accounts and lists an entry for each of them. `Response.debitEntry` and
`Response.creditEntry` pick them out by the ids, whichever comes first in the list.

`Request.reports_of_code` is what the later modules need of the whole processing: behind a code of
success there is a transfer that passed every check, and the two entries hold its balances before
and after (`Response.Reports`).
-/

namespace Remit

open Text

namespace Response

/-- The first entry of the account that a response names in one of its fields. -/
def entryOf (r : Response) (id : Option Text) : Option Entry :=
  r.accounts.find? fun e => id = some e.id

/-- The entry of the account that is debited. -/
def debitEntry (r : Response) : Option Entry :=
  r.entryOf r.debitAccount

/-- The entry of the account that is credited. -/
def creditEntry (r : Response) : Option Entry :=
  r.entryOf r.creditAccount

/-- Either of two entries with different ids is found, whichever is listed first. -/
theorem find?_inRequestOrder {debit credit : Entry} (h : debit.id ≠ credit.id)
    (accounts : List Account) :
    (inRequestOrder accounts [debit, credit]).find? (fun e => some debit.id = some e.id)
        = some debit
      ∧ (inRequestOrder accounts [debit, credit]).find? (fun e => some credit.id = some e.id)
        = some credit := by
  rw [inRequestOrder_pair]
  split
  · simp [h]
  · simp [h.symm]

theorem debitEntry_ofOutcome {o : Outcome} (h : o.debitAccount.id ≠ o.creditAccount.id)
    (accounts : List Account) :
    (ofOutcome o accounts).debitEntry = some (changedEntry o.debitAccount o.debitBefore) :=
  have hids : (changedEntry o.debitAccount o.debitBefore).id
      ≠ (changedEntry o.creditAccount o.creditBefore).id := h
  (find?_inRequestOrder hids accounts).1

theorem creditEntry_ofOutcome {o : Outcome} (h : o.debitAccount.id ≠ o.creditAccount.id)
    (accounts : List Account) :
    (ofOutcome o accounts).creditEntry = some (changedEntry o.creditAccount o.creditBefore) :=
  have hids : (changedEntry o.debitAccount o.debitBefore).id
      ≠ (changedEntry o.creditAccount o.creditBefore).id := h
  (find?_inRequestOrder hids accounts).2

/-- A response that reports a transfer in two entries: scheduled with the balances as they are, or
completed with the amount moved between them. -/
structure Reports (r : Response) (t : Transfer) (debit credit : Entry) : Prop where
  amount : r.amount = some t.amount
  debitEntry : r.debitEntry = some debit
  creditEntry : r.creditEntry = some credit
  debit_before : debit.balanceBefore = t.debitAccount.balance
  credit_before : credit.balanceBefore = t.creditAccount.balance
  balances : (r.code = .AP02 ∧ debit.balance = debit.balanceBefore
      ∧ credit.balance = credit.balanceBefore)
    ∨ (r.code = .AP00 ∧ debit.balanceBefore.debit t.amount = .ok debit.balance
      ∧ credit.balanceBefore.credit t.amount = .ok credit.balance)

theorem reports_ofOutcome {t : Transfer} {today : Date} {o : Outcome}
    (h : t.execute today = .ok o) (hne : t.debitAccount.id ≠ t.creditAccount.id)
    (accounts : List Account) :
    Reports (ofOutcome o accounts) t (changedEntry o.debitAccount o.debitBefore)
      (changedEntry o.creditAccount o.creditBefore) := by
  rcases Transfer.execute_eq_ok_iff.1 h with ⟨-, rfl⟩ | ⟨-, hcomplete⟩
  · exact {
      amount := rfl
      debitEntry := debitEntry_ofOutcome hne accounts
      creditEntry := creditEntry_ofOutcome hne accounts
      debit_before := rfl
      credit_before := rfl
      balances := Or.inl ⟨rfl, rfl, rfl⟩ }
  · obtain ⟨debit, credit, hdebit, hcredit, rfl⟩ := Transfer.complete_eq_ok_iff.1 hcomplete
    exact {
      amount := rfl
      debitEntry := debitEntry_ofOutcome hne accounts
      creditEntry := creditEntry_ofOutcome hne accounts
      debit_before := rfl
      credit_before := rfl
      balances := Or.inr ⟨rfl, hdebit, hcredit⟩ }

end Response

/-- A response with a code of success reports a transfer that passed every check. -/
theorem Request.reports_of_code {supported : List Text} {today : Date} {request : Request}
    (h : (request.respond supported today).code = .AP00
      ∨ (request.respond supported today).code = .AP02) :
    ∃ i t debit credit, Transfer.ChecksOut supported request.accounts i t
      ∧ Response.Reports (request.respond supported today) t debit credit := by
  obtain ⟨i, t, o, -, hchecks, hexecute, hrespond⟩ := outcome_of_code h
  rw [hrespond]
  exact ⟨i, t, _, _, hchecks, Response.reports_ofOutcome hexecute hchecks.distinct request.accounts⟩

end Remit
