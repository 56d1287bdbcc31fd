import Remit.Proofs.Execution
import Remit.Proofs.Instruction.Forms
import Remit.Proofs.Ledger
import Remit.Proofs.Request
import Remit.Proofs.RequestOrder
import Remit.Proofs.Shape

/-!
# Payments that are carried out

Every instruction to pay an amount that the debited account has is carried out, in however many
spaces and in whatever letters its keywords are written, and whatever words its currency and its
accounts are named with (`Instruction.IsAffordable`). `process_affordable` gives the whole response:
the payment is completed, or scheduled if its date is still to come.

The stages are taken in their order: the text is read (`parse_eq`), the instruction passes every
check (`checksOut`), and the transfer between whole balances cannot fail.
-/

namespace Remit

open Text

/-! ## Amounts -/

/-- A positive number is accepted as it is written, unless it has too many digits. -/
theorem readAmount_natText {n : Nat} (hpos : 1 ≤ n) (hlimit : (natText n).length ≤ digitLimit) :
    readAmount (natText n) = .ok n := by
  have hdigits := isDigits_natText n
  have hminus : (natText n).contains '-' = false := by
    simpa using hdigits.notMem (c := '-') (by decide)
  have hpoint : (natText n).contains '.' = false := by
    simpa using hdigits.notMem (c := '.') (by decide)
  have hne : (natText n).isEmpty = false := List.isEmpty_eq_false_iff.2 hdigits.1
  rw [readAmount, hne, hminus, hpoint, leadingInteger_natText hlimit]
  simp only [Bool.false_eq_true, if_false]
  rw [if_neg (by omega)]

/-- Digits have no letters to be changed. -/
theorem upper_natText (n : Nat) : upper (natText n) = natText n := by
  have hcodes : ∀ code ∈ List.range' 48 10, upperChar (Char.ofNat code) = [Char.ofNat code] := by
    decide +kernel
  have hdigit : ∀ c ∈ natText n, upperChar c = [c] := by
    intro c hc
    have hrange := toNat_of_isDigit ((isDigits_natText n).2 c hc)
    have hupper := hcodes c.toNat (List.mem_range'_1.2 ⟨hrange.1, by omega⟩)
    rwa [Char.ofNat_toNat] at hupper
  rw [upper, List.flatMap_congr hdigit, List.flatMap_singleton']

theorem isPlainWord_natText (n : Nat) : IsPlainWord (natText n) := by
  refine Instruction.isPlainWord_of_isAccountId ?_
  have hdigits := isDigits_natText n
  rw [isAccountId, List.isEmpty_eq_false_iff.2 hdigits.1, Bool.not_false, Bool.true_and,
    List.all_eq_true]
  intro c hc
  simp [isAccountIdChar, Char.isAlphanum, hdigits.2 c hc]

/-- No keyword begins with a digit. -/
theorem natText_ne_cons {n : Nat} {c : Char} {t : Text} (hc : c.isDigit = false) :
    natText n ≠ c :: t := by
  intro heq
  have hdigit := (isDigits_natText n).2 c (heq ▸ List.mem_cons_self)
  rw [hc] at hdigit
  cases hdigit

namespace Instruction

/-- An instruction to pay `n` that can be carried out on the given accounts. The debited account has
`funds` and the credited one `holdings`, both whole numbers; the amount is written in digits, the
currency is one plain word, and no field can be taken for the date keyword. -/
structure IsAffordable (supported : List Text) (accounts : List Account) (i : Instruction)
    (n : Nat) (funds holdings : Int) : Prop where
  amount : i.amount = natText n
  amount_pos : 1 ≤ n
  amount_length : (natText n).length ≤ digitLimit
  currency : IsPlainWord i.currency
  currency_ne : upper i.currency ≠ "ON".toList
  currency_mem : upper i.currency ∈ supported
  isAccountId_debit : isAccountId i.debitAccount = true
  isAccountId_credit : isAccountId i.creditAccount = true
  debit_ne : upper i.debitAccount ≠ "ON".toList
  credit_ne : upper i.creditAccount ≠ "ON".toList
  distinct : i.debitAccount ≠ i.creditAccount
  isDateText : ∀ date ∈ i.executeBy, isDateText date = true
  debit : ∃ account, Account.find? accounts i.debitAccount = some account
    ∧ account.balance = .whole funds ∧ upper account.currency = upper i.currency
  credit : ∃ account, Account.find? accounts i.creditAccount = some account
    ∧ account.balance = .whole holdings ∧ upper account.currency = upper i.currency
  covered : n ≤ funds

/-- Well-formed ids and a date of the right form pass the checks of reading. -/
theorem checked_eq_ok {i : Instruction} (hdebit : isAccountId i.debitAccount = true)
    (hcredit : isAccountId i.creditAccount = true)
    (hdate : ∀ date ∈ i.executeBy, isDateText date = true) : i.checked = .ok i := by
  rw [checked, statedDate_eq_ok hdate, hdebit, hcredit]
  rfl

namespace IsAffordable

variable {supported : List Text} {accounts : List Account} {i : Instruction} {n : Nat}
  {funds holdings : Int} (h : i.IsAffordable supported accounts n funds holdings)

include h

/-- None of the words can be taken for a keyword at the place where it stands. -/
theorem interchangeable : i.Interchangeable where
  plain := by
    intro w hw
    simp only [List.mem_append, List.mem_cons, List.not_mem_nil, or_false,
      Option.mem_toList] at hw
    rcases hw with (rfl | rfl | rfl | rfl) | hw
    · rw [h.amount]
      exact isPlainWord_natText n
    · exact h.currency
    · exact isPlainWord_of_isAccountId h.isAccountId_debit
    · exact isPlainWord_of_isAccountId h.isAccountId_credit
    · exact isPlainWord_of_isDateText (h.isDateText w hw)
  ne_dateKeyword := by
    intro w hw
    simp only [List.mem_cons, List.not_mem_nil, or_false] at hw
    rcases hw with rfl | rfl | rfl | rfl
    · rw [h.amount, upper_natText]
      exact natText_ne_cons (by decide)
    · exact h.currency_ne
    · exact h.debit_ne
    · exact h.credit_ne
  ne_firstKeyword := by
    intro form heq
    rw [h.amount, upper_natText] at heq
    cases form with
    | debit => exact natText_ne_cons (by decide) (List.cons.inj heq).1
    | credit => exact natText_ne_cons (by decide) (List.cons.inj heq).1

/-- The text is read as the instruction, however it is written. -/
theorem parse_eq (s : Spelling i.form) {t : Text} (ht : words t = i.wordsIn s) :
    parse t = .ok i := by
  rw [h.interchangeable.parse_of_words s ht,
    checked_eq_ok h.isAccountId_debit h.isAccountId_credit h.isDateText]
  rfl

/-- The two accounts, with the currency of the instruction in some spelling. -/
theorem exists_accounts : ∃ debitCurrency creditCurrency,
    Account.find? accounts i.debitAccount = some ⟨i.debitAccount, .whole funds, debitCurrency⟩
      ∧ Account.find? accounts i.creditAccount
        = some ⟨i.creditAccount, .whole holdings, creditCurrency⟩
      ∧ upper debitCurrency = upper i.currency ∧ upper creditCurrency = upper i.currency := by
  obtain ⟨⟨debitId, debitBalance, debitCurrency⟩, hdebit, rfl, hdebitCurrency⟩ := h.debit
  obtain ⟨⟨creditId, creditBalance, creditCurrency⟩, hcredit, rfl, hcreditCurrency⟩ := h.credit
  obtain rfl : debitId = i.debitAccount := Account.id_of_find? hdebit
  obtain rfl : creditId = i.creditAccount := Account.id_of_find? hcredit
  exact ⟨debitCurrency, creditCurrency, hdebit, hcredit, hdebitCurrency, hcreditCurrency⟩

/-- The instruction passes every check. -/
theorem checksOut {debitCurrency creditCurrency : Text}
    (hdebit : Account.find? accounts i.debitAccount
      = some ⟨i.debitAccount, .whole funds, debitCurrency⟩)
    (hcredit : Account.find? accounts i.creditAccount
      = some ⟨i.creditAccount, .whole holdings, creditCurrency⟩)
    (hdebitCurrency : upper debitCurrency = upper i.currency)
    (hcreditCurrency : upper creditCurrency = upper i.currency) :
    Transfer.ChecksOut supported accounts i
      ⟨i.form, n, upper i.currency, ⟨i.debitAccount, .whole funds, debitCurrency⟩,
        ⟨i.creditAccount, .whole holdings, creditCurrency⟩, i.executeBy⟩ where
  form := rfl
  amount := h.amount ▸ readAmount_natText h.amount_pos h.amount_length
  currency := by
    rw [readCurrency, List.isEmpty_eq_false_iff.2 h.currency.1.1, if_neg Bool.false_ne_true,
      if_pos (List.contains_iff_mem.2 h.currency_mem)]
  debit := hdebit
  credit := hcredit
  distinct := h.distinct
  debit_currency := hdebitCurrency
  credit_currency := hcreditCurrency
  funds := decide_eq_false (Int.not_lt.2 h.covered)
  executeBy := rfl

end IsAffordable
end Instruction

/-- The entry of one of the accounts of a payment between whole balances. -/
def Instruction.paymentEntry (i : Instruction) (id : Text) (before after : Int) : Entry :=
  ⟨id, .whole after, .whole before, upper i.currency⟩

namespace Response

/-- The response to a payment that was completed or scheduled: the instruction, and the entries of
its accounts. -/
def ofPayment (i : Instruction) (n : Nat) (status : Status) (reason : String) (code : Code)
    (entries : List Entry) : Response :=
  { form := some i.form, amount := some (n : Int), currency := some (upper i.currency)
    debitAccount := some i.debitAccount, creditAccount := some i.creditAccount
    executeBy := i.executeBy, status, reason, code, accounts := entries }

theorem bind_nonEmpty?_of_isDateText {executeBy : Option Text}
    (h : ∀ date ∈ executeBy, isDateText date = true) : executeBy.bind nonEmpty? = executeBy := by
  cases executeBy with
  | none => rfl
  | some date => exact nonEmpty?_of_ne_nil (ne_nil_of_isDateText (h date rfl))

end Response

/-! ## Processing -/

/-- An affordable payment is completed unless its date is still to come, and scheduled then. Either
way both accounts are listed in the order of the request. -/
theorem Request.respond_of_affordable {supported : List Text} {request : Request} {i : Instruction}
    {n : Nat} {funds holdings : Int}
    (h : i.IsAffordable supported request.accounts n funds holdings) (s : Spelling i.form)
    (hwords : words request.instruction = i.wordsIn s) (today : Date) :
    (¬ IsAhead today i.executeBy → ∃ entries,
        ListsInOrder request.accounts (i.paymentEntry i.debitAccount funds (funds - n))
            (i.paymentEntry i.creditAccount holdings (holdings + n)) entries
          ∧ request.respond supported today = .ofPayment i n .successful
            "Transaction executed successfully" .AP00 entries)
      ∧ (IsAhead today i.executeBy → ∃ entries,
        ListsInOrder request.accounts (i.paymentEntry i.debitAccount funds funds)
            (i.paymentEntry i.creditAccount holdings holdings) entries
          ∧ request.respond supported today = .ofPayment i n .pending
            "Transaction scheduled for future execution" .AP02 entries) := by
  obtain ⟨debitCurrency, creditCurrency, hdebit, hcredit, hdebitCurrency, hcreditCurrency⟩ :=
    h.exists_accounts
  have hchecks := h.checksOut hdebit hcredit hdebitCurrency hcreditCurrency
  have hparse := h.parse_eq s hwords
  have hrun := run_of_checksOut hparse hchecks today
  have hexecuteBy := Response.bind_nonEmpty?_of_isDateText h.isDateText
  cases Transfer.execution_of_parse hparse hchecks today with
  | scheduled hahead hexecute =>
    rw [hexecute] at hrun
    refine ⟨fun hdue => absurd hahead hdue, fun _ => ⟨_, listsInOrder_inRequestOrder _ _ _, ?_⟩⟩
    rw [respond_of_run hrun]
    simp only [Response.ofOutcome, Transfer.scheduled, Response.changedEntry, Response.ofPayment,
      Instruction.paymentEntry, hexecuteBy, hdebitCurrency, hcreditCurrency]
  | completed hdue hfits hdebitAfter hcreditAfter hexecute =>
    rw [Balance.debit_whole, Except.ok.injEq] at hdebitAfter
    rw [Balance.credit_whole, Except.ok.injEq] at hcreditAfter
    rw [hexecute] at hrun
    refine ⟨fun _ => ⟨_, listsInOrder_inRequestOrder _ _ _, ?_⟩, fun hahead => absurd hahead hdue⟩
    rw [respond_of_run hrun]
    simp only [Response.ofOutcome, Transfer.completed, Response.changedEntry, Response.ofPayment,
      Instruction.paymentEntry, hexecuteBy, hdebitCurrency, hcreditCurrency, ← hdebitAfter,
      ← hcreditAfter]
  | overflowed hdue hlarge hexecute =>
    -- Whole balances have room for any amount.
    rcases hlarge.2 with hreal | hreal
    · exact absurd hreal (Balance.not_isReal_whole funds)
    · exact absurd hreal (Balance.not_isReal_whole holdings)

/-- Whoever can afford a payment can make it: however its keywords are spelled, and however many
spaces there are, it is completed with the amount moved from one balance to the other, or scheduled
if its date is still to come. The response repeats the instruction and lists both accounts in the
order of the request. -/
theorem process_affordable {supported : List Text} {payload : Json} {request : Request}
    (hjson : Request.ofJson payload = .ok request) {i : Instruction} {n : Nat}
    {funds holdings : Int} (h : i.IsAffordable supported request.accounts n funds holdings)
    (s : Spelling i.form) (hwords : words request.instruction = i.wordsIn s) (today : Date) :
    (¬ IsAhead today i.executeBy → ∃ entries,
        ListsInOrder request.accounts (i.paymentEntry i.debitAccount funds (funds - n))
            (i.paymentEntry i.creditAccount holdings (holdings + n)) entries
          ∧ process supported today payload = .ofPayment i n .successful
            "Transaction executed successfully" .AP00 entries)
      ∧ (IsAhead today i.executeBy → ∃ entries,
        ListsInOrder request.accounts (i.paymentEntry i.debitAccount funds funds)
            (i.paymentEntry i.creditAccount holdings holdings) entries
          ∧ process supported today payload = .ofPayment i n .pending
            "Transaction scheduled for future execution" .AP02 entries) := by
  rw [process, hjson]
  exact Request.respond_of_affordable h s hwords today

/-- A payment between accounts that are named like keywords, on a day that the month does not
have. -/
def awkwardPayment : Instruction :=
  ⟨.debit, "5".toList, "ngn".toList, "FOR".toList, "TO".toList, some "2025-02-31".toList⟩

/-- Keywords in small letters and in mixed ones. -/
def awkwardSpelling : Spelling .debit where
  word := "deBit".toList
  first := ["from".toList, "ACCOUNT".toList]
  second := ["For".toList, "CREDIT".toList, "tO".toList, "account".toList]
  date := ["on".toList]
  upper_word := by decide
  upper_first := by decide
  upper_second := by decide
  upper_date := by decide
  keepsLength := by decide

/-- A request for the payment, with two accounts of the debited id. -/
def awkwardRequest : Request where
  accounts := [⟨"TO".toList, .whole (-2), "Ngn".toList⟩, ⟨"FOR".toList, .whole 5, "NGN".toList⟩,
    ⟨"FOR".toList, .whole 0, "USD".toList⟩]
  instruction := "  deBit 5   ngn from ACCOUNT FOR For CREDIT tO account TO on 2025-02-31 ".toList

/-- The payment is due on the third of March, and scheduled before. -/
theorem process_affordable_awkward :
    process ["NGN".toList] ⟨2025, 3, 3, by decide⟩ awkwardRequest.toJson
        = { form := some .debit, amount := some 5, currency := some "NGN".toList
            debitAccount := some "FOR".toList, creditAccount := some "TO".toList
            executeBy := some "2025-02-31".toList, status := .successful
            reason := "Transaction executed successfully", code := .AP00
            accounts := [⟨"TO".toList, .whole 3, .whole (-2), "NGN".toList⟩,
              ⟨"FOR".toList, .whole 0, .whole 5, "NGN".toList⟩] }
      ∧ process ["NGN".toList] ⟨2025, 3, 2, by decide⟩ awkwardRequest.toJson
        = { form := some .debit, amount := some 5, currency := some "NGN".toList
            debitAccount := some "FOR".toList, creditAccount := some "TO".toList
            executeBy := some "2025-02-31".toList, status := .pending
            reason := "Transaction scheduled for future execution", code := .AP02
            accounts := [⟨"TO".toList, .whole (-2), .whole (-2), "NGN".toList⟩,
              ⟨"FOR".toList, .whole 5, .whole 5, "NGN".toList⟩] } := by
  have hday : NamesDay "2025-02-31".toList ⟨2025, 3, 3, by decide⟩ := by
    unfold NamesDay
    decide
  have haffordable : awkwardPayment.IsAffordable ["NGN".toList] awkwardRequest.accounts
      5 5 (-2) := {
    amount := by decide
    amount_pos := by decide
    amount_length := by decide
    currency := Instruction.isPlainWord_of_isAccountId (by decide)
    currency_ne := by decide
    currency_mem := by decide
    isAccountId_debit := by decide
    isAccountId_credit := by decide
    debit_ne := by decide
    credit_ne := by decide
    distinct := by decide
    isDateText := by
      rintro date ⟨⟩
      decide
    debit := ⟨_, rfl, rfl, by decide⟩
    credit := ⟨_, rfl, rfl, by decide⟩
    covered := by decide }
  obtain ⟨hcompleted, -⟩ := process_affordable (Request.ofJson_toJson awkwardRequest) haffordable
    awkwardSpelling (by decide) ⟨2025, 3, 3, by decide⟩
  obtain ⟨-, hscheduled⟩ := process_affordable (Request.ofJson_toJson awkwardRequest) haffordable
    awkwardSpelling (by decide) ⟨2025, 3, 2, by decide⟩
  constructor
  · have hdue : ¬ IsAhead ⟨2025, 3, 3, by decide⟩ awkwardPayment.executeBy := by
      rintro ⟨date, ⟨⟩, day, hnames, hbefore⟩
      rw [hnames.unique hday] at hbefore
      exact absurd hbefore (by decide)
    obtain ⟨entries, hlists, hresponse⟩ := hcompleted hdue
    rw [hresponse, listsInOrder_iff.1 hlists]
    decide
  · obtain ⟨entries, hlists, hresponse⟩ := hscheduled ⟨_, rfl, _, hday, by decide⟩
    rw [hresponse, listsInOrder_iff.1 hlists]
    decide

end Remit
