import Remit.Processing
import Remit.Proofs.Account
import Remit.Proofs.Instruction.Fields

/-!
# The stages of a request

A request is either refused or accepted, and this module says once what each means:

* `Transfer.ofInstruction_eq_ok_iff`: which transfer an instruction amounts to (`ChecksOut`);
* `Transfer.execute_eq_ok_iff`: a transfer is scheduled and changes nothing, or is completed and
  moves its amount;
* `Request.respond_cases`: a response reports either a failure or the outcome of such a transfer.
  The two are told apart by the code (`Request.outcome_of_code`).
-/

namespace Remit

open Text

/-! ## Checks -/

/-- An amount is accepted as the number that its text begins with, if there is neither a minus sign
nor a point in the text and the number is positive. -/
theorem readAmount_eq_ok_iff {t : Text} {amount : Int} : readAmount t = .ok amount
    ↔ '-' ∉ t ∧ '.' ∉ t ∧ leadingInteger t = some amount ∧ 1 ≤ amount := by
  unfold readAmount
  split
  · next hempty =>
    obtain rfl := List.isEmpty_iff.1 hempty
    exact iff_of_false nofun fun h => by cases h.2.2.1
  split
  · next hminus => exact iff_of_false nofun fun h => h.1 (by simpa using hminus)
  split
  · next hpoint => exact iff_of_false nofun fun h => h.2.1 (by simpa using hpoint)
  · next hminus hpoint =>
    have hplain : '-' ∉ t ∧ '.' ∉ t := ⟨by simpa using hminus, by simpa using hpoint⟩
    split
    · next n hread =>
      split
      · next hle =>
        refine iff_of_false nofun fun h => ?_
        have heq := Option.some.inj (hread.symm.trans h.2.2.1)
        omega
      · next hpos =>
        rw [hread, Except.ok.injEq, Option.some.injEq]
        constructor
        · rintro rfl
          exact ⟨hplain.1, hplain.2, rfl, by omega⟩
        · exact fun h => h.2.2.1
    · next hnone =>
      rw [hnone]
      exact iff_of_false nofun fun h => by cases h.2.2.1

/-- Only positive amounts are accepted. -/
theorem readAmount_pos {t : Text} {amount : Int} (h : readAmount t = .ok amount) : 0 < amount := by
  have hpos := (readAmount_eq_ok_iff.1 h).2.2.2
  omega

/-- What is accepted as a currency is a text that is not empty and in upper case is supported. -/
theorem readCurrency_eq_ok_iff {supported : List Text} {t currency : Text} :
    readCurrency supported t = .ok currency
      ↔ (t ≠ [] ∧ upper t ∈ supported) ∧ currency = upper t := by
  unfold readCurrency
  split
  · next hempty =>
    exact iff_of_false nofun fun h => h.1.1 (List.isEmpty_iff.1 hempty)
  · next hne =>
    have hne' : t ≠ [] := mt List.isEmpty_iff.2 hne
    split
    · next hmem =>
      rw [Except.ok.injEq, eq_comm]
      exact (and_iff_right ⟨hne', by simpa using hmem⟩).symm
    · next hmem => exact iff_of_false nofun fun h => hmem (by simpa using h.1.2)

theorem Instruction.accounts?_eq_some_iff {i : Instruction} {accounts : List Account}
    {debit credit : Account} :
    i.accounts? accounts = some (debit, credit)
      ↔ Account.find? accounts i.debitAccount = some debit
        ∧ Account.find? accounts i.creditAccount = some credit := by
  rw [accounts?]
  cases Account.find? accounts i.debitAccount with
  | none => simp
  | some d =>
    cases Account.find? accounts i.creditAccount with
    | none => simp
    | some c => simp

theorem Instruction.isSome_accounts?_iff {i : Instruction} {accounts : List Account} :
    (i.accounts? accounts).isSome = true
      ↔ i.debitAccount ∈ accounts.map Account.id ∧ i.creditAccount ∈ accounts.map Account.id := by
  rw [accounts?, ← Account.isSome_find?_iff, ← Account.isSome_find?_iff]
  cases Account.find? accounts i.debitAccount with
  | none => simp
  | some debit =>
    cases Account.find? accounts i.creditAccount with
    | none => simp
    | some credit => simp

namespace Transfer

/-- A transfer is what an instruction amounts to: it passes every check. -/
structure ChecksOut (supported : List Text) (accounts : List Account) (i : Instruction)
    (t : Transfer) : Prop where
  form : t.form = i.form
  amount : readAmount i.amount = .ok t.amount
  currency : readCurrency supported i.currency = .ok t.currency
  debit : Account.find? accounts i.debitAccount = some t.debitAccount
  credit : Account.find? accounts i.creditAccount = some t.creditAccount
  distinct : t.debitAccount.id ≠ t.creditAccount.id
  debit_currency : upper t.debitAccount.currency = t.currency
  credit_currency : upper t.creditAccount.currency = t.currency
  funds : t.debitAccount.balance.isBelow t.amount = false
  executeBy : t.executeBy = i.executeBy

theorem ofInstruction_eq_ok_iff {supported : List Text} {accounts : List Account}
    {i : Instruction} {t : Transfer} :
    ofInstruction supported accounts i = .ok t ↔ ChecksOut supported accounts i t := by
  constructor
  · intro h
    obtain ⟨amount, hamount, h⟩ := bind_eq_ok_iff.1 h
    obtain ⟨currency, hcurrency, h⟩ := bind_eq_ok_iff.1 h
    split at h
    · cases h
    · next debit credit haccounts =>
      obtain ⟨hdebit, hcredit⟩ := Instruction.accounts?_eq_some_iff.1 haccounts
      split at h
      · cases h
      · next hdistinct =>
        split at h
        · cases h
        · next hcurrencies =>
          split at h
          · cases h
          · next hfunds =>
            cases h
            rw [not_or, not_not, not_not] at hcurrencies
            exact ⟨rfl, hamount, hcurrency, hdebit, hcredit, hdistinct, hcurrencies.2,
              hcurrencies.1 ▸ hcurrencies.2, Bool.not_eq_true _ ▸ hfunds, rfl⟩
  · intro h
    have haccounts := Instruction.accounts?_eq_some_iff.2 ⟨h.debit, h.credit⟩
    have hcurrencies : ¬ (upper t.debitAccount.currency ≠ upper t.creditAccount.currency
        ∨ upper t.debitAccount.currency ≠ t.currency) := by
      rw [h.debit_currency, h.credit_currency]
      simp
    simp only [ofInstruction, h.amount, h.currency, haccounts, bind, Except.bind,
      if_neg h.distinct, if_neg hcurrencies, h.funds, ← h.form, ← h.executeBy]
    rfl

/-! ## Execution -/

theorem complete_eq_ok_iff {t : Transfer} {o : Outcome} :
    t.complete = .ok o ↔ ∃ debit credit, t.debitAccount.balance.debit t.amount = .ok debit
      ∧ t.creditAccount.balance.credit t.amount = .ok credit ∧ o = t.completed debit credit := by
  constructor
  · intro h
    obtain ⟨debit, hdebit, h⟩ := bind_eq_ok_iff.1 h
    obtain ⟨credit, hcredit, h⟩ := bind_eq_ok_iff.1 h
    cases h
    exact ⟨debit, credit, hdebit, hcredit, rfl⟩
  · rintro ⟨debit, credit, hdebit, hcredit, rfl⟩
    rw [complete, hdebit, hcredit]
    rfl

/-- A transfer is scheduled if its date is still to come, and completed otherwise. -/
theorem execute_eq_ok_iff {t : Transfer} {today : Date} {o : Outcome} :
    t.execute today = .ok o
      ↔ (isFuture t.executeBy today = .ok true ∧ o = t.scheduled)
        ∨ (isFuture t.executeBy today = .ok false ∧ t.complete = .ok o) := by
  rw [execute]
  cases isFuture t.executeBy today with
  | error error => simp
  | ok future =>
    cases future with
    | true => simp [eq_comm]
    | false =>
      cases t.complete with
      | error error => simp
      | ok outcome => simp

/-- The accounts stay those of the transfer, and so does the date. -/
theorem execute_keeps {t : Transfer} {today : Date} {o : Outcome} (h : t.execute today = .ok o) :
    o.debitAccount.id = t.debitAccount.id ∧ o.creditAccount.id = t.creditAccount.id
      ∧ o.executeBy = t.executeBy := by
  rcases execute_eq_ok_iff.1 h with ⟨-, rfl⟩ | ⟨-, hcomplete⟩
  · exact ⟨rfl, rfl, rfl⟩
  · obtain ⟨debit, credit, -, -, rfl⟩ := complete_eq_ok_iff.1 hcomplete
    exact ⟨rfl, rfl, rfl⟩

end Transfer

/-! ## Codes of failures -/

/-- Every failure has one of the codes in the rules, or else `SY03`. -/
theorem codeOf_mem (stage : Stage) (cause : Cause) :
    codeOf stage cause ∈ Code.SY03 :: codeRules.map CodeRule.code := by
  rw [codeOf]
  split
  · next rule hfind =>
    exact List.mem_cons_of_mem _ (List.mem_map_of_mem (List.mem_of_find?_eq_some hfind))
  · exact List.mem_cons_self

/-- No failure is reported as a success. -/
theorem codeOf_ne (stage : Stage) (cause : Cause) :
    codeOf stage cause ≠ .AP00 ∧ codeOf stage cause ≠ .AP02 := by
  have hmem := codeOf_mem stage cause
  -- None of the listed codes is one of success.
  have hcodes : ∀ code ∈ Code.SY03 :: codeRules.map CodeRule.code,
      code ≠ .AP00 ∧ code ≠ .AP02 := by
    decide
  exact hcodes _ hmem

theorem Response.code_ofFailure (failure : Failure) (parsed : Option Instruction)
    (accounts : List Account) :
    (ofFailure failure.classify parsed accounts).code = codeOf failure.stage failure.cause := by
  unfold ofFailure
  dsimp only [Failure.classify, Option.getD_some]
  cases parsed with
  | none => rfl
  | some i =>
    dsimp only
    split <;> rfl

/-! ## Responses -/

namespace Request

/-- What a response is: the report of a failure, or of the outcome of the transfer that the
instruction amounts to. -/
theorem respond_cases (supported : List Text) (today : Date) (request : Request) :
    (∃ failure : Failure, ∃ parsed, request.respond supported today
        = .ofFailure failure.classify parsed request.accounts)
      ∨ ∃ i t o, Instruction.parse request.instruction = .ok i
        ∧ Transfer.ChecksOut supported request.accounts i t ∧ t.execute today = .ok o
        ∧ request.respond supported today = .ofOutcome o request.accounts := by
  rw [respond, run]
  cases hparse : Instruction.parse request.instruction with
  | error cause => exact Or.inl ⟨_, none, rfl⟩
  | ok i =>
    dsimp only
    cases htransfer : Transfer.ofInstruction supported request.accounts i with
    | error cause => exact Or.inl ⟨_, some i, rfl⟩
    | ok t =>
      dsimp only
      cases hexecute : t.execute today with
      | error error => exact Or.inl ⟨_, none, rfl⟩
      | ok o =>
        have hchecks := Transfer.ofInstruction_eq_ok_iff.1 htransfer
        exact Or.inr ⟨i, t, o, rfl, hchecks, hexecute, rfl⟩

/-- A code of success is reported with an outcome. -/
theorem outcome_of_code {supported : List Text} {today : Date} {request : Request}
    (h : (request.respond supported today).code = .AP00
      ∨ (request.respond supported today).code = .AP02) :
    ∃ i t o, Instruction.parse request.instruction = .ok i
      ∧ Transfer.ChecksOut supported request.accounts i t ∧ t.execute today = .ok o
      ∧ request.respond supported today = .ofOutcome o request.accounts := by
  obtain ⟨failure, parsed, hrefused⟩ | haccepted := respond_cases supported today request
  · rw [hrefused, Response.code_ofFailure] at h
    have hne := codeOf_ne failure.stage failure.cause
    exact absurd h (by simp [hne])
  · exact haccepted

/-- A JSON value that is answered with a code of success is a request. -/
theorem ofJson_of_code {supported : List Text} {today : Date} {payload : Json}
    (h : (process supported today payload).code = .AP00
      ∨ (process supported today payload).code = .AP02) :
    ∃ request, ofJson payload = .ok request
      ∧ process supported today payload = request.respond supported today := by
  unfold process at h ⊢
  cases hjson : ofJson payload with
  | ok request => exact ⟨request, rfl, rfl⟩
  | error faults =>
    rw [hjson] at h
    dsimp only at h
    rw [Response.unexpected, Response.code_ofFailure] at h
    have hne := codeOf_ne .unexpected .unexpected
    exact absurd h (by simp [hne])

end Request
end Remit
