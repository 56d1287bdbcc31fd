import Remit.Proofs.Execution
import Remit.Proofs.Request
import Remit.Proofs.Session
import Remit.Proofs.Shape

/-!
# All or nothing

A transfer changes both balances or none, whatever kinds they are of. The response to one that is
completed lists the debited account with the difference and the credited one with the sum
(`Response.Carries`); every other response lists accounts as they are (`Entry.IsUnchanged`).

The two new balances are worked out one after the other. `Transfer.fails_iff` says when one of
them cannot be: the amount is too large for a binary64 balance, on either side. The response then
tells nothing at all, even if the debit had been worked out before the credit failed
(`process_allOrNothing`).
-/

namespace Remit

open Text

/-! ## Changed balances -/

/-- A balance before and after a change, as far as its kind allows. -/
inductive Balance.Changed (change : Int) : Balance → Balance → Prop
  /-- An integer changes exactly. -/
  | whole (n : Int) : Changed change (.whole n) (.whole (n + change))
  /-- A finite binary64 number changes by the one nearest to the change, and the sum is rounded. -/
  | rounded {value after : Double} {u : Int} (hbefore : value.units? = some u)
    (hafter : after.units? = some (roundedUnits (u + roundedUnits (change * unitsPerOne)))) :
    Changed change (.real value) (.real after)
  /-- A sum beyond the finite range is infinite. -/
  | beyond {value : Double} {u : Int} (hbefore : value.units? = some u)
    (hrange : unitsEnd ≤ nearest (u + roundedUnits (change * unitsPerOne)).natAbs 1) :
    Changed change (.real value)
      (.real (.infinite (u + roundedUnits (change * unitsPerOne) < 0)))
  /-- An infinity stays the same, and so does what is no number. -/
  | kept {value : Double} (hbefore : value.units? = none) :
    Changed change (.real value) (.real value)

/-- What is not finite absorbs what is. -/
theorem Double.add_of_units?_eq_none {x y : Double} {v : Int} (hx : x.units? = none)
    (hy : y.units? = some v) : x.add y = x := by
  cases x with
  | finite negative units fits => cases hx
  | infinite negative =>
    cases y with
    | finite negative' units fits => rfl
    | infinite negative' => cases hy
    | nan => cases hy
  | nan => rfl

namespace Balance

theorem changed_add {value y : Double} {change : Int}
    (hy : y.units? = some (roundedUnits (change * unitsPerOne))) :
    Changed change (.real value) (.real (value.add y)) := by
  cases hvalue : value.units? with
  | none =>
    rw [Double.add_of_units?_eq_none hvalue hy]
    exact .kept hvalue
  | some u =>
    rcases Double.units?_add hvalue hy with ⟨-, hsum⟩ | ⟨hrange, hsum⟩
    · exact .rounded hvalue hsum
    · rw [hsum]
      exact .beyond hvalue hrange

theorem changed_of_debit {b after : Balance} {amount : Int} (h : b.debit amount = .ok after) :
    b.Changed (-amount) after := by
  rcases debit_eq_ok h with ⟨n, rfl, rfl⟩ | ⟨value, y, rfl, rfl, hy⟩
  · rw [Int.sub_eq_add_neg]
    exact .whole n
  · exact changed_add hy

theorem changed_of_credit {b after : Balance} {amount : Int} (h : b.credit amount = .ok after) :
    b.Changed amount after := by
  rcases credit_eq_ok h with ⟨n, rfl, rfl⟩ | ⟨value, y, rfl, rfl, hy⟩
  · exact .whole n
  · exact changed_add hy

end Balance

/-! ## Completed transfers -/

/-- A response lists both sides of a completed transfer. Each is the first account with its id; the
debited one has the difference now, and the credited one the sum. -/
structure Response.Carries (accounts : List Account) (r : Response) (amount : Int)
    (debit credit : Entry) : Prop where
  listed : r.accounts.Perm [debit, credit]
  distinct : debit.id ≠ credit.id
  debitAccount : r.debitAccount = some debit.id
  creditAccount : r.creditAccount = some credit.id
  tells : r.amount = some amount
  debit_before : (Account.find? accounts debit.id).map Account.balance = some debit.balanceBefore
  credit_before : (Account.find? accounts credit.id).map Account.balance = some credit.balanceBefore
  debit_after : debit.balanceBefore.Changed (-amount) debit.balance
  credit_after : credit.balanceBefore.Changed amount credit.balance

theorem Account.balance_of_find? {accounts : List Account} {id : Text} {account : Account}
    (h : find? accounts id = some account) :
    (find? accounts account.id).map Account.balance = some account.balance := by
  rw [id_of_find? h, h, Option.map_some]

theorem Response.carries_completed {supported : List Text} {accounts : List Account}
    {i : Instruction} {t : Transfer} {debit credit : Balance}
    (hchecks : Transfer.ChecksOut supported accounts i t)
    (hdebit : t.debitAccount.balance.debit t.amount = .ok debit)
    (hcredit : t.creditAccount.balance.credit t.amount = .ok credit) :
    Carries accounts (ofOutcome (t.completed debit credit) accounts) t.amount
      (changedEntry { t.debitAccount with balance := debit } t.debitAccount.balance)
      (changedEntry { t.creditAccount with balance := credit } t.creditAccount.balance) where
  listed := perm_inRequestOrder _ _
  distinct := hchecks.distinct
  debitAccount := rfl
  creditAccount := rfl
  tells := rfl
  debit_before := Account.balance_of_find? hchecks.debit
  credit_before := Account.balance_of_find? hchecks.credit
  debit_after := Balance.changed_of_debit hdebit
  credit_after := Balance.changed_of_credit hcredit

/-- A response either lists both sides of a transfer with their new balances, or no account that is
not as it was. -/
theorem Request.carries_or_isUnchanged (supported : List Text) (today : Date) (request : Request) :
    ((request.respond supported today).code = .AP00
        ∧ ∃ amount debit credit,
          (request.respond supported today).Carries request.accounts amount debit credit)
      ∨ ((request.respond supported today).code ≠ .AP00
        ∧ ∀ e ∈ (request.respond supported today).accounts, e.IsUnchanged request.accounts) := by
  obtain ⟨failure, parsed, hrefused⟩ | ⟨i, t, o, -, hchecks, hexecute, haccepted⟩ :=
    respond_cases supported today request
  · right
    rw [hrefused, Response.code_ofFailure]
    exact ⟨(codeOf_ne failure.stage failure.cause).1, Response.isUnchanged_ofFailure _ _ _⟩
  · rw [haccepted]
    rcases Transfer.execute_eq_ok_iff.1 hexecute with ⟨-, rfl⟩ | ⟨-, hcomplete⟩
    · exact Or.inr ⟨Code.noConfusion,
        Response.isUnchanged_inRequestOrder hchecks.debit hchecks.credit⟩
    · obtain ⟨debit, credit, hdebit, hcredit, rfl⟩ := Transfer.complete_eq_ok_iff.1 hcomplete
      exact Or.inl ⟨rfl, _, _, _, Response.carries_completed hchecks hdebit hcredit⟩

/-! ## Transfers that fail -/

namespace Request

variable {supported : List Text} {today : Date} {request : Request} {i : Instruction} {t : Transfer}

/-- Nothing is told of a transfer that fails, and nothing is written back. -/
theorem respond_of_fails (hparse : Instruction.parse request.instruction = .ok i)
    (hchecks : Transfer.ChecksOut supported request.accounts i t)
    (hexecute : t.execute today = .error (.balance .amountTooLarge)) :
    (request.respond supported today).code = .SY03
      ∧ (request.respond supported today).TellsNothing
      ∧ settle request.accounts (request.respond supported today).accounts = request.accounts := by
  have hrun := run_of_checksOut hparse hchecks today
  rw [hexecute] at hrun
  obtain ⟨told, hunread⟩ :=
    Response.exists_unexpected (ExecutionError.balance .amountTooLarge).message
  rw [respond_of_fault hrun, hunread]
  exact ⟨rfl, Response.tellsNothing_unread _ _, rfl⟩

/-- A transfer that is due is completed, unless it fails. -/
theorem respond_of_due (hparse : Instruction.parse request.instruction = .ok i)
    (hchecks : Transfer.ChecksOut supported request.accounts i t)
    (hdue : ¬ IsAhead today t.executeBy) :
    (t.Overflows ∧ (request.respond supported today).code = .SY03
        ∧ (request.respond supported today).TellsNothing
        ∧ settle request.accounts (request.respond supported today).accounts = request.accounts)
      ∨ (¬ t.Overflows ∧ (request.respond supported today).code = .AP00) := by
  cases Transfer.execution_of_parse hparse hchecks today with
  | scheduled hahead hexecute => exact absurd hahead hdue
  | completed _ hfits hdebit hcredit hexecute =>
    have hrun := run_of_checksOut hparse hchecks today
    rw [hexecute] at hrun
    rw [respond_of_run hrun]
    exact Or.inr ⟨hfits, rfl⟩
  | overflowed _ hlarge hexecute =>
    exact Or.inl ⟨hlarge, respond_of_fails hparse hchecks hexecute⟩

end Request

/-! ## Every payload -/

/-- Whatever is processed, either both sides of a transfer are listed with their new balances, or no
account is that is not as it was. A transfer whose day has come fails if the amount is too large for
one of its balances, and then no trace of it is left; otherwise it is completed. -/
theorem process_allOrNothing (supported : List Text) (today : Date) (payload : Json) :
    (((process supported today payload).code = .AP00
          ∧ ∃ amount debit credit,
            (process supported today payload).Carries (accountsOf payload) amount debit credit)
        ∨ ((process supported today payload).code ≠ .AP00
          ∧ ∀ e ∈ (process supported today payload).accounts, e.IsUnchanged (accountsOf payload)))
      ∧ ∀ request i t, Request.ofJson payload = .ok request →
        Instruction.parse request.instruction = .ok i →
        Transfer.ChecksOut supported request.accounts i t → ¬ IsAhead today t.executeBy →
        (t.Overflows ↔ t.Fails)
          ∧ (t.Fails → (process supported today payload).code = .SY03
            ∧ (process supported today payload).TellsNothing
            ∧ settle request.accounts (process supported today payload).accounts = request.accounts)
          ∧ (¬ t.Fails → (process supported today payload).code = .AP00) := by
  unfold process accountsOf
  cases Request.ofJson payload with
  | ok request =>
    refine ⟨request.carries_or_isUnchanged supported today, ?_⟩
    rintro request' i t hjson hparse hchecks hdue
    cases hjson
    rw [Transfer.fails_iff]
    rcases Request.respond_of_due hparse hchecks hdue with ⟨hlarge, hundone⟩ | ⟨hfits, hcode⟩
    · exact ⟨Iff.rfl, fun _ => hundone, fun hfits => absurd hlarge hfits⟩
    · exact ⟨Iff.rfl, fun hlarge => absurd hlarge hfits, fun _ => hcode⟩
  | error faults =>
    obtain ⟨told, hunread⟩ := Response.exists_unexpected (faultReason faults)
    dsimp only
    rw [hunread]
    exact ⟨Or.inr ⟨Code.noConfusion, fun e he => by cases he⟩, fun _ _ _ hjson => by cases hjson⟩

/-- A transfer of `10 ^ 309` from an integer balance that covers it to a binary64 one. -/
def hugeTransfer : Transfer :=
  ⟨.debit, Nat.pow 10 309, "NGN".toList, ⟨"A".toList, .whole (Nat.pow 10 310), "NGN".toList⟩,
    ⟨"B".toList, .real (.zero false), "NGN".toList⟩, none⟩

/-- The instruction for it. -/
def hugeInstruction : Instruction :=
  ⟨.debit, '1' :: List.replicate 309 '0', "NGN".toList, "A".toList, "B".toList, none⟩

/-- The request for it. -/
def hugeRequest : Request :=
  ⟨[hugeTransfer.debitAccount, hugeTransfer.creditAccount], hugeInstruction.text⟩

/-- The debit can be worked out and the credit cannot, so that nothing is told. -/
theorem process_allOrNothing_hugeTransfer :
    Instruction.parse hugeRequest.instruction = .ok hugeInstruction
      ∧ Transfer.ChecksOut ["NGN".toList] hugeRequest.accounts hugeInstruction hugeTransfer
      ∧ ¬ IsAhead ⟨2025, 1, 3, by decide⟩ hugeTransfer.executeBy
      ∧ hugeTransfer.debitAccount.balance.debit hugeTransfer.amount
        = .ok (.whole (Nat.pow 10 310 - Nat.pow 10 309 : Int))
      ∧ hugeTransfer.Fails
      ∧ (process ["NGN".toList] ⟨2025, 1, 3, by decide⟩ hugeRequest.toJson).code = .SY03
      ∧ (process ["NGN".toList] ⟨2025, 1, 3, by decide⟩ hugeRequest.toJson).TellsNothing
      ∧ settle hugeRequest.accounts
          (process ["NGN".toList] ⟨2025, 1, 3, by decide⟩ hugeRequest.toJson).accounts
        = hugeRequest.accounts := by
  have hparse : Instruction.parse hugeRequest.instruction = .ok hugeInstruction := by
    decide +kernel
  have hchecks : Transfer.ChecksOut ["NGN".toList] hugeRequest.accounts hugeInstruction
      hugeTransfer := by
    rw [← Transfer.ofInstruction_eq_ok_iff]
    decide +kernel
  have hdue : ¬ IsAhead ⟨2025, 1, 3, by decide⟩ hugeTransfer.executeBy := by
    rintro ⟨date, hdate, -⟩
    cases hdate
  have hfails : hugeTransfer.Fails := by
    rw [Transfer.fails_iff]
    exact ⟨by unfold Double.IsTooLarge; decide +kernel, Or.inr ⟨_, rfl⟩⟩
  obtain ⟨-, hundone, -⟩ := (process_allOrNothing ["NGN".toList] ⟨2025, 1, 3, by decide⟩
    hugeRequest.toJson).2 hugeRequest hugeInstruction hugeTransfer
    (Request.ofJson_toJson hugeRequest) hparse hchecks hdue
  exact ⟨hparse, hchecks, hdue, rfl, hfails, hundone hfails⟩

end Remit
