import Remit.Proofs.Processing
import Remit.Proofs.Instruction.WellFormed

/-!
# Why a request is refused

Each stage of a request refuses for causes of its own:

* `parse_error_mem` lists those for which a text is not read as an instruction;
* `Transfer.Refused` says of an instruction which check is the first that fails, and
  `ofInstruction_eq_error_iff` that this is the one reported;
* `Request.course` tells how a request can go on from stage to stage, and with which response it
  ends. It is what the later modules split on.
-/

namespace Remit

open Text

/-! ## Reading -/

/-- The causes for which a text is not read as an instruction. -/
def readingCauses : List Cause :=
  [.missingKeyword, .invalidKeywordOrder, .malformedInstruction, .invalidDateFormat,
    .invalidAccountId]

theorem Form.marks_error_mem {form : Form} {upperText : Text} {cause : Cause}
    (h : form.marks upperText = .error cause) : cause ∈ readingCauses := by
  unfold Form.marks at h
  split at h
  · split at h
    · cases h
      decide
    · cases h
  · cases h
    decide

theorem amountAndCurrency_error_mem {field : Text} {cause : Cause}
    (h : amountAndCurrency field = .error cause) : cause ∈ readingCauses := by
  unfold amountAndCurrency at h
  split at h
  · cases h
  · cases h
    decide

namespace Instruction

theorem dateAt_error_mem {clean : Text} {place : Option Nat} {cause : Cause}
    (h : dateAt clean place = .error cause) : cause ∈ readingCauses := by
  cases place with
  | none => cases h
  | some place =>
    rw [dateAt, dateField] at h
    split at h
    · cases h
    · split at h
      · cases h
      · cases h
        decide

theorem ofFields_error_mem {form : Form} {amount currency first second : Text}
    {executeBy : Option Text} {cause : Cause}
    (h : ofFields form amount currency first second executeBy = .error cause) :
    cause ∈ readingCauses := by
  unfold ofFields at h
  split at h
  · cases form <;> cases h
  · cases h
    decide

theorem parse_error_mem {t : Text} {cause : Cause} (h : parse t = .error cause) :
    cause ∈ readingCauses := by
  unfold parse at h
  dsimp only at h
  split at h
  · next form _ =>
    rw [ofForm_eq_bind] at h
    obtain hmarks | ⟨marks, -, h⟩ := bind_eq_error_iff.1 h
    · exact Form.marks_error_mem hmarks
    obtain hfield | ⟨field, -, h⟩ := bind_eq_error_iff.1 h
    · exact amountAndCurrency_error_mem hfield
    obtain hdate | ⟨executeBy, -, h⟩ := bind_eq_error_iff.1 h
    · exact dateAt_error_mem hdate
    · exact ofFields_error_mem h
  · cases h
    decide

end Instruction

/-! ## Checking -/

/-- An amount is refused for one of three causes, or it is the positive number that its text begins
with. -/
theorem readAmount_cases (t : Text) :
    (∃ cause ∈ [Cause.negativeAmount, .decimalAmount, .invalidAmount], readAmount t = .error cause)
      ∨ ∃ amount, readAmount t = .ok amount ∧ leadingInteger t = some amount ∧ 0 < amount := by
  unfold readAmount
  split
  · exact Or.inl ⟨_, by decide, rfl⟩
  split
  · exact Or.inl ⟨_, by decide, rfl⟩
  split
  · exact Or.inl ⟨_, by decide, rfl⟩
  split
  · next amount hread =>
    split
    · exact Or.inl ⟨_, by decide, rfl⟩
    · exact Or.inr ⟨amount, rfl, hread, by omega⟩
  · exact Or.inl ⟨_, by decide, rfl⟩

theorem leadingInteger_of_readAmount {t : Text} {amount : Int} (h : readAmount t = .ok amount) :
    leadingInteger t = some amount ∧ 0 < amount :=
  ⟨(readAmount_eq_ok_iff.1 h).2.2.1, readAmount_pos h⟩

theorem codeOf_of_readAmount {t : Text} {cause : Cause} (h : readAmount t = .error cause) :
    codeOf .validate cause = .AM01 := by
  obtain ⟨cause', hmem, hrefused⟩ | ⟨amount, hread, -⟩ := readAmount_cases t
  · have hcodes : ∀ cause ∈ [Cause.negativeAmount, .decimalAmount, .invalidAmount],
        codeOf .validate cause = .AM01 := by
      decide
    rw [h, Except.error.injEq] at hrefused
    exact hrefused ▸ hcodes cause' hmem
  · rw [h] at hread
    cases hread

theorem readCurrency_eq_error {supported : List Text} {t : Text} {cause : Cause}
    (h : readCurrency supported t = .error cause) : cause = .unsupportedCurrency := by
  unfold readCurrency at h
  split at h
  · cases h
    rfl
  · split at h
    · cases h
    · cases h
      rfl

/-- The codes of instructions that were read and then refused. -/
def refusalCodes : List Code := [.AM01, .CU01, .CU02, .AC01, .AC02, .AC03]

namespace Transfer

/-- The first check that an instruction fails. All checks before it were passed. -/
inductive Refused (supported : List Text) (accounts : List Account) (i : Instruction) :
    Cause → Prop
  | amount {cause : Cause} (h : readAmount i.amount = .error cause) :
    Refused supported accounts i cause
  | currency {amount : Int} {cause : Cause} (hamount : readAmount i.amount = .ok amount)
    (h : readCurrency supported i.currency = .error cause) : Refused supported accounts i cause
  | accountNotFound {amount : Int} {currency : Text} (hamount : readAmount i.amount = .ok amount)
    (hcurrency : readCurrency supported i.currency = .ok currency)
    (h : i.accounts? accounts = none) : Refused supported accounts i .accountNotFound
  | sameAccount {amount : Int} {currency : Text} {debit credit : Account}
    (hamount : readAmount i.amount = .ok amount)
    (hcurrency : readCurrency supported i.currency = .ok currency)
    (haccounts : i.accounts? accounts = some (debit, credit)) (h : debit.id = credit.id) :
    Refused supported accounts i .sameAccount
  | currencyMismatch {amount : Int} {currency : Text} {debit credit : Account}
    (hamount : readAmount i.amount = .ok amount)
    (hcurrency : readCurrency supported i.currency = .ok currency)
    (haccounts : i.accounts? accounts = some (debit, credit)) (hdistinct : debit.id ≠ credit.id)
    (h : upper debit.currency ≠ upper credit.currency ∨ upper debit.currency ≠ currency) :
    Refused supported accounts i .currencyMismatch
  | insufficientFunds {amount : Int} {currency : Text} {debit credit : Account}
    (hamount : readAmount i.amount = .ok amount)
    (hcurrency : readCurrency supported i.currency = .ok currency)
    (haccounts : i.accounts? accounts = some (debit, credit)) (hdistinct : debit.id ≠ credit.id)
    (hcurrencies : ¬ (upper debit.currency ≠ upper credit.currency
      ∨ upper debit.currency ≠ currency))
    (h : debit.balance.isBelow amount = true) : Refused supported accounts i .insufficientFunds

variable {supported : List Text} {accounts : List Account} {i : Instruction} {cause : Cause}

/-- The first check that fails is the one that is reported. -/
theorem ofInstruction_eq_error_iff :
    ofInstruction supported accounts i = .error cause ↔ Refused supported accounts i cause := by
  constructor
  · intro h
    obtain hamount | ⟨amount, hamount, h⟩ := bind_eq_error_iff.1 h
    · exact .amount hamount
    obtain hcurrency | ⟨currency, hcurrency, h⟩ := bind_eq_error_iff.1 h
    · exact .currency hamount hcurrency
    split at h
    · next haccounts =>
      cases h
      exact .accountNotFound hamount hcurrency haccounts
    · next debit credit haccounts =>
      split at h
      · next hsame =>
        cases h
        exact .sameAccount hamount hcurrency haccounts hsame
      · next hdistinct =>
        split at h
        · next hmismatch =>
          cases h
          exact .currencyMismatch hamount hcurrency haccounts hdistinct hmismatch
        · next hcurrencies =>
          split at h
          · next hfunds =>
            cases h
            exact .insufficientFunds hamount hcurrency haccounts hdistinct hcurrencies hfunds
          · cases h
  · rintro (hamount | ⟨hamount, hcurrency⟩ | ⟨hamount, hcurrency, haccounts⟩
      | ⟨hamount, hcurrency, haccounts, hsame⟩
      | ⟨hamount, hcurrency, haccounts, hdistinct, hmismatch⟩
      | ⟨hamount, hcurrency, haccounts, hdistinct, hcurrencies, hfunds⟩)
    · simp [ofInstruction, bind, Except.bind, hamount]
    · simp [ofInstruction, bind, Except.bind, hamount, hcurrency]
    · simp [ofInstruction, bind, Except.bind, hamount, hcurrency, haccounts]
    · simp [ofInstruction, bind, Except.bind, hamount, hcurrency, haccounts, hsame]
    · simp only [ofInstruction, bind, Except.bind, hamount, hcurrency, haccounts,
        if_neg hdistinct, if_pos hmismatch]
    · simp only [ofInstruction, bind, Except.bind, hamount, hcurrency, haccounts,
        if_neg hdistinct, if_neg hcurrencies, hfunds, if_true]

/-- The code of a refusal tells how far the checks went: whether there is an amount, and whether
there are accounts. -/
theorem Refused.of_code (h : Refused supported accounts i cause) :
    codeOf .validate cause ∈ refusalCodes
      ∧ (codeOf .validate cause ≠ .AM01 → ∃ amount, readAmount i.amount = .ok amount)
      ∧ (codeOf .validate cause = .AC03 → i.accounts? accounts = none)
      ∧ (codeOf .validate cause ∈ [Code.CU01, .AC01, .AC02] →
        ∃ debit credit, i.accounts? accounts = some (debit, credit)) := by
  cases h with
  | amount hamount =>
    have hcode : codeOf .validate cause = .AM01 := codeOf_of_readAmount hamount
    rw [hcode]
    exact ⟨by decide, fun hne => absurd rfl hne, fun heq => absurd heq (by decide),
      fun hmem => absurd hmem (by decide)⟩
  | currency hamount hcurrency =>
    rw [readCurrency_eq_error hcurrency]
    exact ⟨by decide, fun _ => ⟨_, hamount⟩, fun heq => absurd heq (by decide),
      fun hmem => absurd hmem (by decide)⟩
  | accountNotFound hamount _ haccounts =>
    exact ⟨by decide, fun _ => ⟨_, hamount⟩, fun _ => haccounts,
      fun hmem => absurd hmem (by decide)⟩
  | sameAccount hamount _ haccounts _ =>
    exact ⟨by decide, fun _ => ⟨_, hamount⟩, fun heq => absurd heq (by decide),
      fun _ => ⟨_, _, haccounts⟩⟩
  | currencyMismatch hamount _ haccounts _ _ =>
    exact ⟨by decide, fun _ => ⟨_, hamount⟩, fun heq => absurd heq (by decide),
      fun _ => ⟨_, _, haccounts⟩⟩
  | insufficientFunds hamount _ haccounts _ _ _ =>
    exact ⟨by decide, fun _ => ⟨_, hamount⟩, fun heq => absurd heq (by decide),
      fun _ => ⟨_, _, haccounts⟩⟩

/-- An instruction that fails a check was read. -/
theorem Refused.isUnreadable (h : Refused supported accounts i cause) :
    (codeOf .validate cause).isUnreadable = false := by
  have hcodes : ∀ code ∈ refusalCodes, code.isUnreadable = false := by decide
  exact hcodes _ h.of_code.1

end Transfer

/-! ## The stages of a request -/

namespace Request

/-- How a request goes on, and where it ends: its instruction is not read, or it fails a check, or
an error comes up while it is carried out, or it has an outcome. -/
inductive Course (supported : List Text) (today : Date) (request : Request) : Prop
  | unread {cause : Cause} (hparse : Instruction.parse request.instruction = .error cause)
    (hrun : request.run supported today
      = .ok (.ofFailure (Failure.ofCause .parse cause).classify none request.accounts))
  | refused {i : Instruction} {cause : Cause}
    (hparse : Instruction.parse request.instruction = .ok i)
    (hrefused : Transfer.Refused supported request.accounts i cause)
    (hrun : request.run supported today
      = .ok (.ofFailure (Failure.ofCause .validate cause).classify (some i) request.accounts))
  | faulted {i : Instruction} {t : Transfer} {error : ExecutionError}
    (hparse : Instruction.parse request.instruction = .ok i)
    (hchecks : Transfer.ChecksOut supported request.accounts i t)
    (hexecute : t.execute today = .error error) (hrun : request.run supported today = .error error)
  | settled {i : Instruction} {t : Transfer} {o : Outcome}
    (hparse : Instruction.parse request.instruction = .ok i)
    (hchecks : Transfer.ChecksOut supported request.accounts i t)
    (hexecute : t.execute today = .ok o)
    (hrun : request.run supported today = .ok (.ofOutcome o request.accounts))

/-- A transfer that passes every check is carried out, and its outcome is the response. -/
theorem run_of_checksOut {supported : List Text} {request : Request} {i : Instruction}
    {t : Transfer} (hparse : Instruction.parse request.instruction = .ok i)
    (hchecks : Transfer.ChecksOut supported request.accounts i t) (today : Date) :
    request.run supported today
      = (t.execute today).map fun outcome => .ofOutcome outcome request.accounts := by
  simp only [run, hparse, Transfer.ofInstruction_eq_ok_iff.2 hchecks]

theorem course (supported : List Text) (today : Date) (request : Request) :
    Course supported today request := by
  cases hparse : Instruction.parse request.instruction with
  | error cause => exact .unread hparse (by rw [run, hparse])
  | ok i =>
    cases htransfer : Transfer.ofInstruction supported request.accounts i with
    | error cause =>
      refine .refused hparse (Transfer.ofInstruction_eq_error_iff.1 htransfer) ?_
      simp only [run, hparse, htransfer]
    | ok t =>
      have hchecks := Transfer.ofInstruction_eq_ok_iff.1 htransfer
      have hrun := run_of_checksOut hparse hchecks today
      cases hexecute : t.execute today with
      | error error =>
        rw [hexecute] at hrun
        exact .faulted hparse hchecks hexecute hrun
      | ok o =>
        rw [hexecute] at hrun
        exact .settled hparse hchecks hexecute hrun

theorem respond_of_run {supported : List Text} {today : Date} {request : Request}
    {response : Response} (h : request.run supported today = .ok response) :
    request.respond supported today = response := by
  rw [respond, h]

theorem respond_of_fault {supported : List Text} {today : Date} {request : Request}
    {error : ExecutionError} (h : request.run supported today = .error error) :
    request.respond supported today = .unexpected error.message := by
  rw [respond, h]

theorem respond_of_refused {supported : List Text} {request : Request} {i : Instruction}
    {cause : Cause} (hparse : Instruction.parse request.instruction = .ok i)
    (h : Transfer.ofInstruction supported request.accounts i = .error cause) (today : Date) :
    request.respond supported today
      = .ofFailure (Failure.ofCause .validate cause).classify (some i) request.accounts := by
  simp only [respond, run, hparse, h]

theorem respond_of_execute {supported : List Text} {today : Date} {request : Request}
    {i : Instruction} {t : Transfer} {o : Outcome}
    (hparse : Instruction.parse request.instruction = .ok i)
    (hchecks : Transfer.ChecksOut supported request.accounts i t)
    (hexecute : t.execute today = .ok o) :
    request.respond supported today = .ofOutcome o request.accounts := by
  have hrun := run_of_checksOut hparse hchecks today
  rw [hexecute] at hrun
  exact respond_of_run hrun

end Request
end Remit
