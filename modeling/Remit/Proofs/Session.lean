import Remit.Session
import Remit.Proofs.Processing
import Remit.Proofs.RequestOrder

/-!
# Steps of a session

`Session.next_cases` says all that a step can do to the accounts. A transfer that is completed
changes the balances of two accounts. Every other response lists accounts as they are or none at
all, and writing it back changes nothing.
-/

namespace Remit

open Text

/-! ## Entries that change nothing -/

/-- An entry that lists the first account with its id as it is. -/
def Entry.IsUnchanged (accounts : List Account) (e : Entry) : Prop :=
  ∃ account, Account.find? accounts e.id = some account ∧ e.balance = account.balance
    ∧ e.balanceBefore = account.balance

namespace Response

theorem isUnchanged_unchangedEntry {accounts : List Account} {id : Text} {account : Account}
    (h : Account.find? accounts id = some account) :
    (unchangedEntry account).IsUnchanged accounts := by
  refine ⟨account, ?_, rfl, rfl⟩
  show Account.find? accounts account.id = some account
  rw [Account.id_of_find? h, h]

/-- Accounts that were looked up are listed as they are. -/
theorem isUnchanged_inRequestOrder {accounts : List Account} {debitId creditId : Text}
    {debit credit : Account} (hdebit : Account.find? accounts debitId = some debit)
    (hcredit : Account.find? accounts creditId = some credit) :
    ∀ e ∈ inRequestOrder accounts [unchangedEntry debit, unchangedEntry credit],
      e.IsUnchanged accounts := by
  intro e he
  rcases mem_inRequestOrder.1 he with rfl | rfl
  · exact isUnchanged_unchangedEntry hdebit
  · exact isUnchanged_unchangedEntry hcredit

/-- A failure lists accounts only as they are. -/
theorem isUnchanged_ofFailure (failure : Failure) (parsed : Option Instruction)
    (accounts : List Account) :
    ∀ e ∈ (ofFailure failure parsed accounts).accounts, e.IsUnchanged accounts := by
  unfold ofFailure
  cases parsed with
  | none => exact fun e he => by cases he
  | some i =>
    dsimp only
    split
    · exact fun e he => by cases he
    · -- Entries are listed only if both accounts were found.
      show ∀ e ∈ concerned i accounts, e.IsUnchanged accounts
      unfold concerned
      split
      · exact fun e he => by cases he
      · split
        · next debit credit haccounts =>
          obtain ⟨hdebit, hcredit⟩ := Instruction.accounts?_eq_some_iff.1 haccounts
          exact isUnchanged_inRequestOrder hdebit hcredit
        · exact fun e he => by cases he

end Response

/-! ## Writing back -/

/-- Entries that list accounts as they are change nothing. -/
theorem settle_of_unchanged {accounts : List Account} {entries : List Entry}
    (h : ∀ e ∈ entries, e.IsUnchanged accounts) : settle accounts entries = accounts := by
  induction entries with
  | nil => rfl
  | cons e rest ih =>
    obtain ⟨account, hfind, hbalance, -⟩ := h e List.mem_cons_self
    have hrest := ih fun e' he' => h e' (List.mem_cons_of_mem e he')
    have hsame : Account.setBalance e.id e.balance accounts = accounts := by
      rw [hbalance]
      exact Account.setBalance_of_find? hfind
    -- The other entries are written to the accounts as they were.
    rw [settle, List.foldl_cons, hsame]
    exact hrest

/-- Two entries with different ids are both written back, whichever comes first. -/
theorem settle_inRequestOrder {accounts : List Account} {debit credit : Entry}
    (h : debit.id ≠ credit.id) :
    settle accounts (Response.inRequestOrder accounts [debit, credit])
      = Account.setBalance credit.id credit.balance
        (Account.setBalance debit.id debit.balance accounts) := by
  rw [Response.inRequestOrder_pair]
  split
  · exact Account.setBalance_comm h _ _ accounts
  · rfl

/-! ## Steps -/

namespace Session

/-- What a step does. Either it leaves the accounts as they are, and the response has another code
than `AP00`; or it completes the transfer that its instruction amounts to. -/
theorem next_cases (supported : List Text) (accounts : List Account) (step : Step) :
    ((respond supported accounts step).code ≠ .AP00 ∧ next supported accounts step = accounts)
      ∨ ∃ i t debit credit, Transfer.ChecksOut supported accounts i t
        ∧ t.debitAccount.balance.debit t.amount = .ok debit
        ∧ t.creditAccount.balance.credit t.amount = .ok credit
        ∧ respond supported accounts step = .ofOutcome (t.completed debit credit) accounts
        ∧ next supported accounts step
          = Account.setBalance t.creditAccount.id credit
            (Account.setBalance t.debitAccount.id debit accounts) := by
  rw [next]
  obtain ⟨failure, parsed, hrefused⟩ | ⟨i, t, o, -, hchecks, hexecute, haccepted⟩ :=
    Request.respond_cases supported step.today ⟨accounts, step.instruction⟩
  · left
    rw [respond, hrefused, Response.code_ofFailure]
    exact ⟨(codeOf_ne failure.stage failure.cause).1,
      settle_of_unchanged (Response.isUnchanged_ofFailure _ _ _)⟩
  · rw [respond, haccepted]
    rcases Transfer.execute_eq_ok_iff.1 hexecute with ⟨-, rfl⟩ | ⟨-, hcomplete⟩
    · left
      refine ⟨by simp [Response.ofOutcome, Transfer.scheduled], ?_⟩
      exact settle_of_unchanged (Response.isUnchanged_inRequestOrder hchecks.debit hchecks.credit)
    · right
      obtain ⟨debit, credit, hdebit, hcredit, rfl⟩ := Transfer.complete_eq_ok_iff.1 hcomplete
      refine ⟨i, t, debit, credit, hchecks, hdebit, hcredit, rfl, ?_⟩
      exact settle_inRequestOrder hchecks.distinct

/-- The first steps of a run are the run of the first steps. -/
theorem take_run (supported : List Text) (accounts : List Account) (steps : List Step) (k : Nat) :
    (run supported accounts steps).take k = run supported accounts (steps.take k) := by
  induction steps generalizing accounts k with
  | nil => rw [run, List.take_nil, List.take_nil, run]
  | cons step rest ih =>
    cases k with
    | zero => rfl
    | succ k => rw [run, List.take_succ_cons, List.take_succ_cons, run, ih]

end Session
end Remit
