import Remit.Proofs.Ledger
import Remit.Proofs.Refusal
import Remit.Proofs.Relevance
import Remit.Proofs.Session

/-!
# Independent steps

A step of a session lists, and so writes back, only accounts that its instruction names
(`Request.names_of_mem_accounts`), and its response depends on no others. Two steps that name no
account in common are therefore answered alike in either order, and lead to the same accounts
(`run_comm`). This includes steps that are refused or fail, and texts that are not read at all: they
name no account.
-/

namespace Remit

open Text

/-! ## What a response lists -/

namespace Response

theorem names_of_mem_inRequestOrder {i : Instruction} {accounts : List Account}
    {debit credit e : Entry} (hdebit : debit.id = i.debitAccount)
    (hcredit : credit.id = i.creditAccount)
    (he : e ∈ inRequestOrder accounts [debit, credit]) : i.Names e.id := by
  rcases mem_inRequestOrder.1 he with rfl | rfl
  · exact Or.inl hdebit
  · exact Or.inr hcredit

theorem names_of_mem_concerned {i : Instruction} {accounts : List Account} {e : Entry}
    (he : e ∈ concerned i accounts) : i.Names e.id := by
  unfold concerned at he
  split at he
  · cases he
  · split at he
    · next debit credit hfound =>
      obtain ⟨hdebit, hcredit⟩ := Instruction.accounts?_eq_some_iff.1 hfound
      exact names_of_mem_inRequestOrder (Account.id_of_find? hdebit) (Account.id_of_find? hcredit)
        he
    · cases he

theorem names_of_mem_ofFailure {failure : Failure} {i : Instruction} {accounts : List Account}
    {e : Entry} (he : e ∈ (ofFailure failure (some i) accounts).accounts) : i.Names e.id := by
  unfold ofFailure at he
  dsimp only at he
  split at he
  · cases he
  · exact names_of_mem_concerned he

end Response

/-- A response lists only accounts that the instruction names. -/
theorem Request.names_of_mem_accounts {supported : List Text} {today : Date} {request : Request}
    {e : Entry} (he : e ∈ (request.respond supported today).accounts) :
    ∃ i, Instruction.parse request.instruction = .ok i ∧ i.Names e.id := by
  cases request.course supported today with
  | unread hparse hrun =>
    rw [respond_of_run hrun] at he
    cases he
  | @refused i cause hparse hrefused hrun =>
    rw [respond_of_run hrun] at he
    exact ⟨i, hparse, Response.names_of_mem_ofFailure he⟩
  | faulted hparse hchecks hexecute hrun =>
    rw [respond_of_fault hrun] at he
    cases he
  | @settled i t o hparse hchecks hexecute hrun =>
    rw [respond_of_run hrun] at he
    obtain ⟨hdebit, hcredit, -⟩ := Transfer.execute_keeps hexecute
    refine ⟨i, hparse, Response.names_of_mem_inRequestOrder ?_ ?_ he⟩
    · exact hdebit.trans (Account.id_of_find? hchecks.debit)
    · exact hcredit.trans (Account.id_of_find? hchecks.credit)

/-! ## What writing back leaves alone -/

theorem settle_cons (accounts : List Account) (e : Entry) (entries : List Entry) :
    settle accounts (e :: entries) = settle (Account.setBalance e.id e.balance accounts) entries :=
  rfl

theorem map_id_settle (accounts : List Account) (entries : List Entry) :
    (settle accounts entries).map Account.id = accounts.map Account.id := by
  induction entries generalizing accounts with
  | nil => rfl
  | cons e rest ih => rw [settle_cons, ih, Account.map_id_setBalance]

theorem find?_settle {entries : List Entry} {id : Text} (h : ∀ e ∈ entries, e.id ≠ id)
    (accounts : List Account) :
    Account.find? (settle accounts entries) id = Account.find? accounts id := by
  induction entries generalizing accounts with
  | nil => rfl
  | cons e rest ih =>
    obtain ⟨he, hrest⟩ := List.forall_mem_cons.1 h
    rw [settle_cons, ih hrest, Account.find?_setBalance_of_ne he]

theorem settle_setBalance {entries : List Entry} {id : Text} (h : ∀ e ∈ entries, e.id ≠ id)
    (balance : Balance) (accounts : List Account) :
    settle (Account.setBalance id balance accounts) entries
      = Account.setBalance id balance (settle accounts entries) := by
  induction entries generalizing accounts with
  | nil => rfl
  | cons e rest ih =>
    obtain ⟨he, hrest⟩ := List.forall_mem_cons.1 h
    rw [settle_cons, settle_cons, Account.setBalance_comm he, ih hrest]

/-- Entries without an id in common may be written back in either order. -/
theorem settle_comm {entries entries' : List Entry}
    (h : ∀ e ∈ entries, ∀ e' ∈ entries', e'.id ≠ e.id) (accounts : List Account) :
    settle (settle accounts entries) entries' = settle (settle accounts entries') entries := by
  induction entries generalizing accounts with
  | nil => rfl
  | cons e rest ih =>
    obtain ⟨he, hrest⟩ := List.forall_mem_cons.1 h
    rw [settle_cons, settle_cons, ih hrest, settle_setBalance he]

/-- What is written to other accounts is not seen by an instruction. -/
theorem Instruction.seesAlike_settle {i : Instruction} {entries : List Entry}
    (h : ∀ e ∈ entries, ¬ i.Names e.id) (accounts : List Account) :
    i.SeesAlike (settle accounts entries) accounts := by
  have hposition := Account.position_congr (map_id_settle accounts entries)
  refine ⟨fun id hnames => find?_settle (fun e he heq => ?_) accounts, fun _ _ _ => ?_⟩
  · exact h e he (heq ▸ hnames)
  · rw [hposition, hposition]

/-! ## Independent steps -/

namespace Session

/-- Two steps name no account in common. A text that is not read names none. -/
def Independent (first second : Step) : Prop :=
  ∀ i j, Instruction.parse first.instruction = .ok i →
    Instruction.parse second.instruction = .ok j →
    ∀ id, i.Names id → ¬ j.Names id

theorem Independent.symm {first second : Step} (h : Independent first second) :
    Independent second first :=
  fun i j hi hj id hnames hnames' => h j i hj hi id hnames' hnames

variable {first second : Step} (h : Independent first second) (supported : List Text)
  (accounts : List Account)

include h

/-- An earlier step makes no difference to a step that is independent of it. -/
theorem respond_next :
    respond supported (next supported accounts first) second
      = respond supported accounts second := by
  refine Request.respond_congr (fun j hj => ?_) supported second.today
  refine Instruction.seesAlike_settle (fun e he hnames => ?_) accounts
  obtain ⟨i, hi, hnames'⟩ := Request.names_of_mem_accounts he
  exact h i j hi hj e.id hnames' hnames

theorem next_comm :
    next supported (next supported accounts first) second
      = next supported (next supported accounts second) first := by
  rw [next, respond_next h, next, next, respond_next h.symm, next]
  refine settle_comm (fun e he e' he' heq => ?_) accounts
  obtain ⟨i, hi, hnames⟩ := Request.names_of_mem_accounts he
  obtain ⟨j, hj, hnames'⟩ := Request.names_of_mem_accounts he'
  exact h i j hi hj e.id hnames (heq ▸ hnames')

end Session

/-- Two independent steps may be taken in either order: each has the same response in both, the
accounts are the same afterwards, and so is all that follows. -/
theorem run_comm {first second : Session.Step} (h : Session.Independent first second)
    (supported : List Text) (accounts : List Account) (rest : List Session.Step) :
    ∃ r s later,
      Session.responses (Session.run supported accounts (first :: second :: rest)) = r :: s :: later
        ∧ Session.responses (Session.run supported accounts (second :: first :: rest))
          = s :: r :: later
        ∧ Session.final accounts (Session.run supported accounts (first :: second :: rest))
          = Session.final accounts (Session.run supported accounts (second :: first :: rest)) := by
  refine ⟨Session.respond supported accounts first, Session.respond supported accounts second,
    Session.responses (Session.run supported
      (Session.next supported (Session.next supported accounts first) second) rest), ?_, ?_, ?_⟩
  · rw [Session.run, Session.run, Session.respond_next h]
    rfl
  · rw [Session.run, Session.run, Session.respond_next h.symm, Session.next_comm h]
    rfl
  · simp only [Session.run, Session.final_cons, Session.next_comm h]

/-- Two pairs of accounts among each other, and a second account `A`. -/
def interleavedAccounts : List Account := [
  ⟨"A".toList, .whole 10, "NGN".toList⟩,
  ⟨"C".toList, .real (.finite false (5 * twoPow 1073) (by decide +kernel)), "NGN".toList⟩,
  ⟨"A".toList, .whole 1, "NGN".toList⟩, ⟨"D".toList, .whole (-1), "NGN".toList⟩,
  ⟨"B".toList, .whole 0, "NGN".toList⟩]

/-- A transfer from `A` to `B`. -/
def wholeStep : Session.Step :=
  ⟨"DEBIT 4 NGN FROM ACCOUNT A FOR CREDIT TO ACCOUNT B".toList, ⟨2024, 2, 29, by decide⟩⟩

/-- A transfer from `C`, which holds 2.5, to `D`. -/
def halfLeftStep : Session.Step :=
  ⟨"CREDIT 2 NGN TO ACCOUNT D FOR DEBIT FROM ACCOUNT C".toList, ⟨2024, 1, 1, by decide⟩⟩

/-- Both transfers are completed, whichever comes first. -/
theorem run_comm_interleaved :
    Session.Independent wholeStep halfLeftStep
      ∧ Session.final interleavedAccounts
          (Session.run ["NGN".toList] interleavedAccounts [wholeStep, halfLeftStep])
        = [⟨"A".toList, .whole 6, "NGN".toList⟩,
          ⟨"C".toList, .real (.finite false (twoPow 1073) (by decide +kernel)), "NGN".toList⟩,
          ⟨"A".toList, .whole 1, "NGN".toList⟩, ⟨"D".toList, .whole 1, "NGN".toList⟩,
          ⟨"B".toList, .whole 4, "NGN".toList⟩]
      ∧ ∃ r s later,
        Session.responses
            (Session.run ["NGN".toList] interleavedAccounts [wholeStep, halfLeftStep])
          = r :: s :: later
        ∧ Session.responses
            (Session.run ["NGN".toList] interleavedAccounts [halfLeftStep, wholeStep])
          = s :: r :: later
        ∧ Session.final interleavedAccounts
            (Session.run ["NGN".toList] interleavedAccounts [wholeStep, halfLeftStep])
          = Session.final interleavedAccounts
            (Session.run ["NGN".toList] interleavedAccounts [halfLeftStep, wholeStep]) := by
  have hwhole : Instruction.parse wholeStep.instruction
      = .ok ⟨.debit, "4".toList, "NGN".toList, "A".toList, "B".toList, none⟩ := by
    decide +kernel
  have hhalfLeft : Instruction.parse halfLeftStep.instruction
      = .ok ⟨.credit, "2".toList, "NGN".toList, "C".toList, "D".toList, none⟩ := by
    decide +kernel
  have hindependent : Session.Independent wholeStep halfLeftStep := by
    intro i j hi hj id hnames
    rw [hwhole] at hi
    rw [hhalfLeft] at hj
    cases hi
    cases hj
    unfold Instruction.Names
    rcases hnames with rfl | rfl
    · decide
    · decide
  exact ⟨hindependent, by decide +kernel,
    run_comm hindependent ["NGN".toList] interleavedAccounts []⟩

end Remit
