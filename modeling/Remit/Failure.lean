/-!
# Failures

Why an instruction is refused. A `Cause` names the reason and has one message; together with the
`Stage` at which it arose it decides the `Code` that is reported. The rules for codes are a list,
of which the first that matches counts.
-/

namespace Remit

/-- The codes that are reported with a response. -/
inductive Code where
  /-- Carried out. -/
  | AP00
  /-- Scheduled for a later date. -/
  | AP02
  /-- A keyword is missing. -/
  | SY01
  /-- The keywords are out of order. -/
  | SY02
  /-- The instruction cannot be read, or anything else went wrong. -/
  | SY03
  /-- The amount is invalid. -/
  | AM01
  /-- The currencies differ. -/
  | CU01
  /-- The currency is not supported. -/
  | CU02
  /-- The funds do not suffice. -/
  | AC01
  /-- Both accounts are the same. -/
  | AC02
  /-- An account does not exist. -/
  | AC03
  /-- An account id is malformed. -/
  | AC04
  /-- The date is malformed. -/
  | DT01
  deriving DecidableEq

/-- The part of the processing in which a failure arose. -/
inductive Stage where
  /-- Reading the instruction. -/
  | parse
  /-- Checking it against the accounts. -/
  | validate
  /-- Anywhere else. -/
  | unexpected
  deriving DecidableEq

/-- Why an instruction is refused. -/
inductive Cause where
  | missingKeyword
  | invalidKeywordOrder
  | malformedInstruction
  | invalidAccountId
  | invalidDateFormat
  | negativeAmount
  | decimalAmount
  | invalidAmount
  | unsupportedCurrency
  | accountNotFound
  | sameAccount
  | currencyMismatch
  | insufficientFunds
  | unexpected
  deriving DecidableEq

/-- The message of a cause. -/
def Cause.message : Cause → String
  | missingKeyword => "Missing required keyword in instruction"
  | invalidKeywordOrder => "Invalid keyword order in instruction"
  | malformedInstruction => "Malformed instruction: unable to parse keywords"
  | invalidAccountId => "Invalid account ID format"
  | invalidDateFormat => "Invalid date format, expected YYYY-MM-DD"
  | negativeAmount => "Amount cannot be negative"
  | decimalAmount => "Amount must be a whole number, decimals are not allowed"
  | invalidAmount => "Amount must be a positive integer"
  | unsupportedCurrency => "Unsupported currency"
  | accountNotFound => "Account not found"
  | sameAccount => "Debit and credit accounts cannot be the same"
  | currencyMismatch => "Currency mismatch between accounts and instruction"
  | insufficientFunds => "Insufficient funds in debit account"
  | unexpected => "An unexpected error occurred"

/-- A refusal: its cause, the stage at which it arose, the reason given to the sender and, once it
is settled, its code. -/
structure Failure where
  cause : Cause
  stage : Stage
  reason : String
  code : Option Code
  deriving DecidableEq

/-! ## Codes of failures -/

/-- A rule gives a code to the failures of some stages and causes. -/
structure CodeRule where
  stages : List Stage
  causes : List Cause
  code : Code

/-- Every stage. -/
def Stage.all : List Stage := [.parse, .validate, .unexpected]

/-- The rules: keyword problems first, then malformed dates and ids from any stage, then what the
checks against the accounts found. -/
def codeRules : List CodeRule := [
  ⟨[.parse], [.invalidKeywordOrder], .SY02⟩,
  ⟨[.parse], [.missingKeyword], .SY01⟩,
  ⟨[.parse], [.malformedInstruction], .SY03⟩,
  ⟨Stage.all, [.invalidDateFormat], .DT01⟩,
  ⟨Stage.all, [.invalidAccountId], .AC04⟩,
  ⟨[.validate], [.negativeAmount, .decimalAmount, .invalidAmount], .AM01⟩,
  ⟨[.validate], [.currencyMismatch], .CU01⟩,
  ⟨[.validate], [.unsupportedCurrency], .CU02⟩,
  ⟨[.validate], [.insufficientFunds], .AC01⟩,
  ⟨[.validate], [.sameAccount], .AC02⟩,
  ⟨[.validate], [.accountNotFound], .AC03⟩]

/-- Whether a rule applies to a stage and a cause. -/
def CodeRule.applies (rule : CodeRule) (stage : Stage) (cause : Cause) : Bool :=
  rule.stages.contains stage && rule.causes.contains cause

/-- The code of a stage and a cause: that of the first rule that applies, or `SY03`. -/
def codeOf (stage : Stage) (cause : Cause) : Code :=
  match codeRules.find? (·.applies stage cause) with
  | some rule => rule.code
  | none => .SY03

/-- The codes of instructions that could not be read at all. -/
def Code.isUnreadable : Code → Bool
  | .SY01 | .SY02 | .SY03 => true
  | _ => false

namespace Failure

/-- A failure with the message of its cause, not yet classified. -/
def ofCause (stage : Stage) (cause : Cause) : Failure :=
  ⟨cause, stage, cause.message, none⟩

/-- The failure with its code settled anew. -/
def classify (failure : Failure) : Failure :=
  { failure with code := some (codeOf failure.stage failure.cause) }

end Failure
end Remit
