import Remit.Proofs.Refusal
import Remit.Proofs.RequestOrder

/-!
# What the code of a response says about the rest

The code of a response comes from the failure, what is repeated of the instruction from a second
look at its text and at the accounts. `process_fitsCode` says that the two always go together: from
the code alone one can tell which fields are there and how many accounts are listed
(`Response.FitsCode`), whatever JSON value is processed.

There is one lemma for each kind of response: one that tells nothing (`fitsCode_unread`), one that
repeats a refused instruction (`fitsCode_refused`) and one of success (`fitsCode_settled`).
-/

namespace Remit

open Text

/-! ## The shape of a response -/

/-- The codes of instructions that were not read, and of everything unexpected. -/
def untoldCodes : List Code := [.SY01, .SY02, .SY03, .DT01, .AC04]

namespace Response

/-- Nothing of the instruction is told, and no account is listed. -/
structure TellsNothing (r : Response) : Prop where
  form : r.form = none
  amount : r.amount = none
  currency : r.currency = none
  debitAccount : r.debitAccount = none
  creditAccount : r.creditAccount = none
  executeBy : r.executeBy = none
  accounts : r.accounts = []

/-- The instruction is told, and both of its accounts are listed if the request has them. -/
def TellsInstruction (accounts : List Account) (r : Response) : Prop :=
  ∃ form currency debit credit, r.form = some form ∧ r.currency = some currency
    ∧ r.debitAccount = some debit ∧ r.creditAccount = some credit
    ∧ r.accounts.length
      = if debit ∈ accounts.map Account.id ∧ credit ∈ accounts.map Account.id then 2 else 0

/-- The two accounts that are listed are the debited one and the credited one. -/
def ListsBoth (r : Response) : Prop :=
  ∃ debit credit : Entry, r.accounts.Perm [debit, credit] ∧ debit.id ≠ credit.id
    ∧ r.debitAccount = some debit.id ∧ r.creditAccount = some credit.id

/-- A response to a request with the given accounts has the shape that its code says. -/
structure FitsCode (accounts : List Account) (r : Response) : Prop where
  successful : r.status = .successful ↔ r.code = .AP00
  pending : r.status = .pending ↔ r.code = .AP02
  failed : r.status = .failed ↔ r.code ≠ .AP00 ∧ r.code ≠ .AP02
  untold : r.code ∈ untoldCodes → r.TellsNothing
  refused : r.code ∈ refusalCodes → r.TellsInstruction accounts
  notFound : r.code = .AC03 → r.accounts = []
  found : r.code ∈ [Code.CU01, .AC01, .AC02] → r.accounts.length = 2
  amount : r.code ∈ [Code.CU01, .CU02, .AC01, .AC02, .AC03, .AP00, .AP02] →
    ∃ amount, r.amount = some amount ∧ 0 < amount
  settled : r.code ∈ [Code.AP00, .AP02] → r.ListsBoth

/-! ## Responses that tell nothing -/

theorem tellsNothing_unread (reason : String) (code : Code) : (unread reason code).TellsNothing :=
  ⟨rfl, rfl, rfl, rfl, rfl, rfl, rfl⟩

theorem fitsCode_unread (accounts : List Account) (reason : String) {code : Code}
    (h : code ∈ untoldCodes) : FitsCode accounts (unread reason code) := by
  have hcode : (unread reason code).code = code := rfl
  have hfailed : (unread reason code).status = .failed := rfl
  have hother : ∀ code ∈ untoldCodes, code ∉ refusalCodes ∧ code ≠ .AC03
      ∧ code ∉ [Code.CU01, .AC01, .AC02]
      ∧ code ∉ [Code.CU01, .CU02, .AC01, .AC02, .AC03, .AP00, .AP02]
      ∧ code ≠ .AP00 ∧ code ≠ .AP02 ∧ code ∉ [Code.AP00, .AP02] := by
    decide
  obtain ⟨hrefusal, hnotFound, hfound, hamount, hAP00, hAP02, hsettled⟩ := hother code h
  exact {
    successful := by simp [hfailed, hcode, hAP00]
    pending := by simp [hfailed, hcode, hAP02]
    failed := by simp [hfailed, hcode, hAP00, hAP02]
    untold := fun _ => tellsNothing_unread reason code
    refused := fun hmem => absurd hmem hrefusal
    notFound := fun heq => absurd heq hnotFound
    found := fun hmem => absurd hmem hfound
    amount := fun hmem => absurd hmem hamount
    settled := fun hmem => absurd hmem hsettled }

/-! ## Refused instructions -/

theorem nonEmpty?_of_ne_nil {t : Text} (h : t ≠ []) : nonEmpty? t = some t :=
  if_neg (by simpa using h)

/-- A failure of an instruction that was read repeats the instruction. -/
theorem ofFailure_of_readable {stage : Stage} {cause : Cause}
    (h : (codeOf stage cause).isUnreadable = false) (i : Instruction) (accounts : List Account) :
    ofFailure (Failure.ofCause stage cause).classify (some i) accounts
      = { form := some i.form, amount := leadingInteger i.amount
          currency := nonEmpty? (upper i.currency)
          debitAccount := nonEmpty? i.debitAccount, creditAccount := nonEmpty? i.creditAccount
          executeBy := i.executeBy.bind nonEmpty?
          status := .failed, reason := cause.message, code := codeOf stage cause
          accounts := concerned i accounts } := by
  have hreason : cause.message.isEmpty = false := by
    cases cause <;> decide +kernel
  simp only [ofFailure, Failure.classify, Failure.ofCause, Option.getD_some, h, hreason]
  rfl

/-- Nothing is missing of an instruction that is well formed, apart from its amount. -/
theorem ofFailure_of_wellFormed {stage : Stage} {cause : Cause}
    (h : (codeOf stage cause).isUnreadable = false) {i : Instruction} (hi : i.WellFormed)
    (accounts : List Account) :
    ofFailure (Failure.ofCause stage cause).classify (some i) accounts
      = { form := some i.form, amount := leadingInteger i.amount
          currency := some (upper i.currency)
          debitAccount := some i.debitAccount, creditAccount := some i.creditAccount
          executeBy := i.executeBy.bind nonEmpty?
          status := .failed, reason := cause.message, code := codeOf stage cause
          accounts := concerned i accounts } := by
  rw [ofFailure_of_readable h,
    nonEmpty?_of_ne_nil (mt upper_eq_nil_iff.1 hi.currency_ne_nil),
    nonEmpty?_of_ne_nil (ne_nil_of_isAccountId hi.isAccountId_debit),
    nonEmpty?_of_ne_nil (ne_nil_of_isAccountId hi.isAccountId_credit)]

section

variable {accounts : List Account} {i : Instruction} (hdebit : i.debitAccount ≠ [])
  (hcredit : i.creditAccount ≠ [])

include hdebit hcredit

theorem concerned_of_some {debit credit : Account}
    (h : i.accounts? accounts = some (debit, credit)) : concerned i accounts
      = inRequestOrder accounts [unchangedEntry debit, unchangedEntry credit] := by
  rw [concerned, if_neg (by simp [hdebit, hcredit]), h]

theorem concerned_of_none (h : i.accounts? accounts = none) : concerned i accounts = [] := by
  rw [concerned, if_neg (by simp [hdebit, hcredit]), h]

/-- Both accounts of an instruction are listed if the request has them, and none otherwise. -/
theorem length_concerned : (concerned i accounts).length
    = if i.debitAccount ∈ accounts.map Account.id ∧ i.creditAccount ∈ accounts.map Account.id
      then 2 else 0 := by
  have hboth : (i.accounts? accounts).isSome = true ↔ _ := Instruction.isSome_accounts?_iff
  cases h : i.accounts? accounts with
  | none =>
    rw [h] at hboth
    rw [concerned_of_none hdebit hcredit h, if_neg fun hmem => by cases hboth.2 hmem]
    rfl
  | some found =>
    rw [h] at hboth
    rw [concerned_of_some hdebit hcredit h, (perm_inRequestOrder _ _).length_eq,
      if_pos (hboth.1 rfl)]
    rfl

end

/-- A response of failure fits its code if it tells an instruction and has the amount and the
accounts that go with the code. -/
theorem fitsCode_of_refusal {accounts : List Account} {r : Response} (hstatus : r.status = .failed)
    (hcode : r.code ∈ refusalCodes) (htells : r.TellsInstruction accounts)
    (hnotFound : r.code = .AC03 → r.accounts = [])
    (hfound : r.code ∈ [Code.CU01, .AC01, .AC02] → r.accounts.length = 2)
    (hamount : r.code ≠ .AM01 → ∃ amount, r.amount = some amount ∧ 0 < amount) :
    FitsCode accounts r := by
  have hother : ∀ code ∈ refusalCodes, code ∉ untoldCodes ∧ code ≠ .AP00 ∧ code ≠ .AP02
      ∧ code ∉ [Code.AP00, .AP02]
      ∧ (code ∈ [Code.CU01, .CU02, .AC01, .AC02, .AC03, .AP00, .AP02] → code ≠ .AM01) := by
    decide
  obtain ⟨huntold, hAP00, hAP02, hsettled, hread⟩ := hother r.code hcode
  exact {
    successful := by simp [hstatus, hAP00]
    pending := by simp [hstatus, hAP02]
    failed := by simp [hstatus, hAP00, hAP02]
    untold := fun hmem => absurd hmem huntold
    refused := fun _ => htells
    notFound := hnotFound
    found := hfound
    amount := fun hmem => hamount (hread hmem)
    settled := fun hmem => absurd hmem hsettled }

/-- What is repeated of a refused instruction goes with the check that it failed. -/
theorem fitsCode_refused {supported : List Text} {accounts : List Account} {i : Instruction}
    {cause : Cause} (hi : i.WellFormed) (h : Transfer.Refused supported accounts i cause) :
    FitsCode accounts (ofFailure (Failure.ofCause .validate cause).classify (some i) accounts) := by
  obtain ⟨hcode, hamount, hnotFound, hfound⟩ := h.of_code
  have hdebit := ne_nil_of_isAccountId hi.isAccountId_debit
  have hcredit := ne_nil_of_isAccountId hi.isAccountId_credit
  rw [ofFailure_of_wellFormed h.isUnreadable hi]
  refine fitsCode_of_refusal rfl hcode
    ⟨_, _, _, _, rfl, rfl, rfl, rfl, length_concerned hdebit hcredit⟩ ?_ ?_ ?_
  · exact fun heq => concerned_of_none hdebit hcredit (hnotFound heq)
  · intro hmem
    obtain ⟨debit, credit, haccounts⟩ := hfound hmem
    rw [concerned_of_some hdebit hcredit haccounts, (perm_inRequestOrder _ _).length_eq]
    rfl
  · intro hne
    obtain ⟨amount, hread⟩ := hamount hne
    exact ⟨amount, leadingInteger_of_readAmount hread⟩

/-! ## Responses of success -/

/-- A response of success fits its code if it has an amount and lists both accounts. -/
theorem fitsCode_of_success {accounts : List Account} {r : Response}
    (h : (r.status = .successful ∧ r.code = .AP00) ∨ (r.status = .pending ∧ r.code = .AP02))
    (hamount : ∃ amount, r.amount = some amount ∧ 0 < amount) (hlists : r.ListsBoth) :
    FitsCode accounts r := by
  have hcode : r.code ∈ [Code.AP00, .AP02] := by
    rcases h with ⟨-, hcode⟩ | ⟨-, hcode⟩
    · rw [hcode]
      decide
    · rw [hcode]
      decide
  have hother : ∀ code ∈ [Code.AP00, .AP02], code ∉ untoldCodes ∧ code ∉ refusalCodes
      ∧ code ≠ .AC03 ∧ code ∉ [Code.CU01, .AC01, .AC02] := by
    decide
  obtain ⟨huntold, hrefusal, hnotFound, hfound⟩ := hother r.code hcode
  have hstatus : (r.status = .successful ↔ r.code = .AP00) ∧ (r.status = .pending ↔ r.code = .AP02)
      ∧ (r.status = .failed ↔ r.code ≠ .AP00 ∧ r.code ≠ .AP02) := by
    rcases h with ⟨hstatus, hcode⟩ | ⟨hstatus, hcode⟩
    · simp [hstatus, hcode]
    · simp [hstatus, hcode]
  exact {
    successful := hstatus.1
    pending := hstatus.2.1
    failed := hstatus.2.2
    untold := fun hmem => absurd hmem huntold
    refused := fun hmem => absurd hmem hrefusal
    notFound := fun heq => absurd heq hnotFound
    found := fun hmem => absurd hmem hfound
    amount := fun _ => hamount
    settled := fun _ => hlists }

theorem fitsCode_settled {t : Transfer} {today : Date} {o : Outcome}
    (h : t.execute today = .ok o) (hpos : 0 < t.amount)
    (hne : t.debitAccount.id ≠ t.creditAccount.id) (accounts : List Account) :
    FitsCode accounts (ofOutcome o accounts) := by
  rcases Transfer.execute_eq_ok_iff.1 h with ⟨-, rfl⟩ | ⟨-, hcomplete⟩
  · exact fitsCode_of_success (Or.inr ⟨rfl, rfl⟩) ⟨_, rfl, hpos⟩
      ⟨_, _, perm_inRequestOrder _ _, hne, rfl, rfl⟩
  · obtain ⟨debit, credit, -, -, rfl⟩ := Transfer.complete_eq_ok_iff.1 hcomplete
    exact fitsCode_of_success (Or.inl ⟨rfl, rfl⟩) ⟨_, rfl, hpos⟩
      ⟨_, _, perm_inRequestOrder _ _, hne, rfl, rfl⟩

end Response

/-! ## Every response -/

/-- A failure that is told without an instruction tells nothing. -/
theorem Response.exists_ofFailure_none (failure : Failure) (accounts : List Account) :
    ∃ reason, ofFailure failure.classify none accounts
      = unread reason (codeOf failure.stage failure.cause) :=
  ⟨_, rfl⟩

theorem Response.exists_unexpected (reason : String) :
    ∃ told, unexpected reason = unread told .SY03 :=
  ⟨_, rfl⟩

theorem Request.fitsCode_respond (supported : List Text) (today : Date) (request : Request) :
    (request.respond supported today).FitsCode request.accounts := by
  cases request.course supported today with
  | @unread cause hparse hrun =>
    have hcode : codeOf .parse cause ∈ untoldCodes := by
      cases cause <;> decide
    obtain ⟨reason, hunread⟩ := Response.exists_ofFailure_none (Failure.ofCause .parse cause)
      request.accounts
    rw [respond_of_run hrun, hunread]
    exact Response.fitsCode_unread _ _ hcode
  | refused hparse hrefused hrun =>
    rw [respond_of_run hrun]
    exact Response.fitsCode_refused (Instruction.wellFormed_of_parse hparse) hrefused
  | faulted hparse hchecks hexecute hrun =>
    obtain ⟨told, hunread⟩ := Response.exists_unexpected _
    rw [respond_of_fault hrun, hunread]
    exact Response.fitsCode_unread _ _ (by decide)
  | settled hparse hchecks hexecute hrun =>
    rw [respond_of_run hrun]
    exact Response.fitsCode_settled hexecute (readAmount_pos hchecks.amount) hchecks.distinct _

/-- The accounts of a JSON value that is to be a request. There are none if it is no request. -/
def accountsOf (payload : Json) : List Account :=
  match Request.ofJson payload with
  | .ok request => request.accounts
  | .error _ => []

/-- Whatever is processed, the response has the shape that its code says. -/
theorem process_fitsCode (supported : List Text) (today : Date) (payload : Json) :
    (process supported today payload).FitsCode (accountsOf payload) := by
  unfold process accountsOf
  cases Request.ofJson payload with
  | ok request => exact request.fitsCode_respond supported today
  | error faults =>
    obtain ⟨told, hunread⟩ := Response.exists_unexpected (faultReason faults)
    dsimp only
    rw [hunread]
    exact Response.fitsCode_unread _ _ (by decide)

end Remit
