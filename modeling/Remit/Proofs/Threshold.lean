import Remit.Proofs.Decision

/-!
# The funds threshold

Of all that a request holds, the balance of the account that is to be debited decides nothing but
whether the funds suffice. `process_fundsThreshold` compares the responses for all balances that the
account might have: either all are refused for the same reason, or there is an amount below which
the funds do not suffice and from which on the transfer is settled.

What the responses tell of the instruction is the same throughout (`Response.TellsAlike`), although
a refusal takes it from the text of the instruction and a settlement from the checked transfer
(`Response.tellsAlike_ofOutcome`).
-/

namespace Remit

open Text

/-! ## Accounts with another balance -/

namespace Account

/-- An account with another balance. -/
def withBalance (balance : Balance) (account : Account) : Account :=
  { account with balance }

theorem find?_setBalance_self (id : Text) (balance : Balance) (accounts : List Account) :
    find? (setBalance id balance accounts) id = (find? accounts id).map (withBalance balance) := by
  rw [find?_eq_getElem?, position_congr (map_id_setBalance id balance accounts),
    getElem?_setBalance, find?_eq_getElem?]
  simp only [if_true]
  rfl

end Account

theorem AllWhole.setBalance {accounts : List Account} (h : AllWhole accounts) (id : Text)
    (n : Int) :
    AllWhole (Account.setBalance id (.whole n) accounts) := by
  intro account hmem
  obtain ⟨k, hk⟩ := List.mem_iff_getElem?.1 hmem
  rw [Account.getElem?_setBalance, Option.map_eq_some_iff] at hk
  obtain ⟨old, hold, rfl⟩ := hk
  split
  · exact ⟨n, rfl⟩
  · exact h old (List.mem_of_getElem? hold)

/-- The two accounts that an instruction names, after the debited one is given a balance. They may
be one and the same. -/
theorem Instruction.accounts?_setBalance (i : Instruction) (balance : Balance)
    (accounts : List Account) :
    i.accounts? (Account.setBalance i.debitAccount balance accounts)
      = (i.accounts? accounts).map fun found => (found.1.withBalance balance,
        if i.debitAccount = i.creditAccount then found.2.withBalance balance else found.2) := by
  have hcredit : Account.find? (Account.setBalance i.debitAccount balance accounts) i.creditAccount
      = (Account.find? accounts i.creditAccount).map fun account =>
        if i.debitAccount = i.creditAccount then account.withBalance balance else account := by
    by_cases hsame : i.debitAccount = i.creditAccount
    · simp only [← hsame, if_true, Account.find?_setBalance_self]
    · simp only [if_neg hsame, Option.map_id', Account.find?_setBalance_of_ne hsame]
  rw [accounts?, accounts?, Account.find?_setBalance_self, hcredit]
  cases Account.find? accounts i.debitAccount with
  | none => rfl
  | some debit =>
    cases Account.find? accounts i.creditAccount with
    | none => rfl
    | some credit => rfl

/-! ## Checks -/

namespace Transfer

/-- A transfer in which the debited account has other funds. -/
def withFunds (funds : Int) (t : Transfer) : Transfer :=
  { t with debitAccount := t.debitAccount.withBalance (.whole funds) }

/-- With other funds, an instruction fails the same check before the last, or passes all of these,
and then the last one compares the funds with the amount. -/
theorem ofInstruction_setBalance (supported : List Text) (accounts : List Account)
    (i : Instruction) :
    (∃ cause, cause ≠ .insufficientFunds ∧ ∀ funds,
        ofInstruction supported (Account.setBalance i.debitAccount (.whole funds) accounts) i
          = .error cause)
      ∨ ∃ t : Transfer, ∀ funds,
        ofInstruction supported (Account.setBalance i.debitAccount (.whole funds) accounts) i
          = if funds < t.amount then .error .insufficientFunds else .ok (t.withFunds funds) := by
  simp only [ofInstruction, Instruction.accounts?_setBalance, bind, Except.bind]
  obtain ⟨cause, hcause, hamount⟩ | ⟨amount, hamount, -⟩ := readAmount_cases i.amount
  · have hother : ∀ cause ∈ [Cause.negativeAmount, .decimalAmount, .invalidAmount],
        cause ≠ .insufficientFunds := by
      decide
    exact Or.inl ⟨cause, hother cause hcause, fun funds => by rw [hamount]⟩
  rw [hamount]
  cases hcurrency : readCurrency supported i.currency with
  | error cause =>
    rw [readCurrency_eq_error hcurrency]
    exact Or.inl ⟨.unsupportedCurrency, by decide, fun funds => rfl⟩
  | ok currency =>
    cases hfound : i.accounts? accounts with
    | none => exact Or.inl ⟨.accountNotFound, by decide, fun funds => rfl⟩
    | some found =>
      obtain ⟨debit, credit⟩ := found
      obtain ⟨hdebit, hcredit⟩ := Instruction.accounts?_eq_some_iff.1 hfound
      by_cases hsame : i.debitAccount = i.creditAccount
      · have hids : debit.id = credit.id := by
          rw [Account.id_of_find? hdebit, Account.id_of_find? hcredit, hsame]
        refine Or.inl ⟨.sameAccount, by decide, fun funds => ?_⟩
        simp only [Option.map_some, if_pos hsame, Account.withBalance, if_pos hids]
      have hids : debit.id ≠ credit.id := by
        rw [Account.id_of_find? hdebit, Account.id_of_find? hcredit]
        exact hsame
      by_cases hcurrencies : upper debit.currency ≠ upper credit.currency
          ∨ upper debit.currency ≠ currency
      · refine Or.inl ⟨.currencyMismatch, by decide, fun funds => ?_⟩
        simp only [Option.map_some, if_neg hsame, Account.withBalance, if_neg hids,
          if_pos hcurrencies]
      · refine Or.inr ⟨⟨i.form, amount, currency, debit, credit, i.executeBy⟩, fun funds => ?_⟩
        simp only [Option.map_some, if_neg hsame, Account.withBalance, if_neg hids,
          if_neg hcurrencies, Balance.isBelow_whole, decide_eq_true_eq, withFunds]

end Transfer

/-! ## What responses tell -/

/-- What an entry says of an account apart from its balances. -/
def Entry.label (e : Entry) : Text × Text :=
  (e.id, e.currency)

namespace Response

/-- Two responses tell the same of the instruction and list the same accounts in the same order.
What became of the instruction is left open, and so are the balances. -/
structure TellsAlike (r s : Response) : Prop where
  form : r.form = s.form
  amount : r.amount = s.amount
  currency : r.currency = s.currency
  debitAccount : r.debitAccount = s.debitAccount
  creditAccount : r.creditAccount = s.creditAccount
  executeBy : r.executeBy = s.executeBy
  accounts : r.accounts.map Entry.label = s.accounts.map Entry.label

namespace TellsAlike

theorem symm {r s : Response} (h : r.TellsAlike s) : s.TellsAlike r :=
  ⟨h.form.symm, h.amount.symm, h.currency.symm, h.debitAccount.symm, h.creditAccount.symm,
    h.executeBy.symm, h.accounts.symm⟩

theorem trans {r s t : Response} (h : r.TellsAlike s) (h' : s.TellsAlike t) : r.TellsAlike t :=
  ⟨h.form.trans h'.form, h.amount.trans h'.amount, h.currency.trans h'.currency,
    h.debitAccount.trans h'.debitAccount, h.creditAccount.trans h'.creditAccount,
    h.executeBy.trans h'.executeBy, h.accounts.trans h'.accounts⟩

end TellsAlike

theorem map_label_inRequestOrder (accounts : List Account) {d c d' c' : Entry}
    (hd : d.label = d'.label) (hc : c.label = c'.label) :
    (inRequestOrder accounts [d, c]).map Entry.label
      = (inRequestOrder accounts [d', c']).map Entry.label := by
  obtain ⟨hdid, -⟩ := Prod.mk.inj hd
  obtain ⟨hcid, -⟩ := Prod.mk.inj hc
  rw [inRequestOrder_pair, inRequestOrder_pair, hdid, hcid]
  split
  · simp only [List.map_cons, List.map_nil, hd, hc]
  · simp only [List.map_cons, List.map_nil, hd, hc]

/-- The accounts that a refusal lists do not change with the balance of one of them. -/
theorem map_label_concerned_setBalance (i : Instruction) (balance : Balance)
    (accounts : List Account) :
    (concerned i (Account.setBalance i.debitAccount balance accounts)).map Entry.label
      = (concerned i accounts).map Entry.label := by
  have hposition := Account.position_congr
    (Account.map_id_setBalance i.debitAccount balance accounts)
  rw [concerned, concerned, Instruction.accounts?_setBalance]
  split
  · rfl
  · cases i.accounts? accounts with
    | none => rfl
    | some found =>
      simp only [Option.map_some]
      have horder : ∀ d c, inRequestOrder (Account.setBalance i.debitAccount balance accounts)
          [d, c] = inRequestOrder accounts [d, c] := by
        intro d c
        rw [inRequestOrder_pair, inRequestOrder_pair, hposition, hposition]
      rw [horder]
      refine map_label_inRequestOrder accounts rfl ?_
      split <;> rfl

/-- Refusals of one instruction tell alike, for whatever reasons and balances. -/
theorem tellsAlike_ofFailure {cause cause' : Cause}
    (h : (codeOf .validate cause).isUnreadable = false)
    (h' : (codeOf .validate cause').isUnreadable = false) (i : Instruction) (balance : Balance)
    (accounts : List Account) :
    (ofFailure (Failure.ofCause .validate cause).classify (some i)
        (Account.setBalance i.debitAccount balance accounts)).TellsAlike
      (ofFailure (Failure.ofCause .validate cause').classify (some i) accounts) := by
  rw [ofFailure_of_readable h, ofFailure_of_readable h']
  exact ⟨rfl, rfl, rfl, rfl, rfl, rfl, map_label_concerned_setBalance i balance accounts⟩

/-- A completed transfer tells what it would tell if it were scheduled. -/
theorem tellsAlike_scheduled {t : Transfer} {today : Date} {o : Outcome}
    (h : t.execute today = .ok o) (accounts : List Account) :
    (ofOutcome o accounts).TellsAlike (ofOutcome t.scheduled accounts) := by
  rcases Transfer.execute_eq_ok_iff.1 h with ⟨-, rfl⟩ | ⟨-, hcomplete⟩
  · exact ⟨rfl, rfl, rfl, rfl, rfl, rfl, rfl⟩
  · obtain ⟨debit, credit, -, -, rfl⟩ := Transfer.complete_eq_ok_iff.1 hcomplete
    exact ⟨rfl, rfl, rfl, rfl, rfl, rfl, map_label_inRequestOrder accounts rfl rfl⟩

/-- A settlement tells what a refusal of the same instruction would tell. -/
theorem tellsAlike_ofOutcome {supported : List Text} {accounts : List Account} {i : Instruction}
    {t : Transfer} {today : Date} {o : Outcome} (hi : i.WellFormed)
    (hchecks : Transfer.ChecksOut supported accounts i t) (hexecute : t.execute today = .ok o)
    {cause : Cause} (h : (codeOf .validate cause).isUnreadable = false) :
    (ofOutcome o accounts).TellsAlike
      (ofFailure (Failure.ofCause .validate cause).classify (some i) accounts) := by
  have hdebit := ne_nil_of_isAccountId hi.isAccountId_debit
  have hcredit := ne_nil_of_isAccountId hi.isAccountId_credit
  have hfound := Instruction.accounts?_eq_some_iff.2 ⟨hchecks.debit, hchecks.credit⟩
  refine (tellsAlike_scheduled hexecute accounts).trans ?_
  rw [ofFailure_of_wellFormed h hi, concerned_of_some hdebit hcredit hfound,
    (leadingInteger_of_readAmount hchecks.amount).1]
  refine ⟨congrArg some hchecks.form, rfl, congrArg some ?_, congrArg some ?_, congrArg some ?_,
    congrArg (·.bind nonEmpty?) hchecks.executeBy, map_label_inRequestOrder accounts rfl rfl⟩
  · exact (readCurrency_eq_ok_iff.1 hchecks.currency).2
  · exact Account.id_of_find? hchecks.debit
  · exact Account.id_of_find? hchecks.credit

end Response
/-! ## Requests with other funds -/

/-- The code of a response is decided by the funds that it is given for: it is the same refusal for
all funds, or the funds do not suffice below some amount and the transfer is settled from there
on. -/
inductive Response.DecidedByFunds (r : Int → Response) : Prop
  | refused {code : Code} (hfunds : code ≠ .AC01) (hcode : code ≠ .AP00 ∧ code ≠ .AP02)
    (h : ∀ funds, (r funds).code = code)
  | settled {n : Int} {code : Code} (hpos : 1 ≤ n) (hcode : code = .AP00 ∨ code = .AP02)
    (below : ∀ funds < n, (r funds).code = .AC01)
    (upward : ∀ funds, n ≤ funds → (r funds).code = code)
    (amount : ∀ funds, (r funds).amount = some n)

/-- No other cause is reported as insufficient funds. -/
theorem codeOf_validate_ne_AC01 {cause : Cause} (h : cause ≠ .insufficientFunds) :
    codeOf .validate cause ≠ .AC01 := by
  revert h
  cases cause <;> decide

namespace Request

/-- A request in which the first account with an id has other funds. -/
def withFunds (id : Text) (funds : Int) (request : Request) : Request :=
  { request with accounts := Account.setBalance id (.whole funds) request.accounts }

variable {supported : List Text} {today : Date} {request : Request} {i : Instruction}

/-- A transfer between whole balances is settled, and whether today does not depend on the funds. -/
theorem exists_outcome_withFunds (hparse : Instruction.parse request.instruction = .ok i)
    (hwhole : AllWhole request.accounts) (today : Date) {t : Transfer}
    (hchecks : ∀ funds, t.amount ≤ funds → Transfer.ChecksOut supported
      (request.withFunds i.debitAccount funds).accounts i (t.withFunds funds)) :
    ∃ code, (code = .AP00 ∨ code = .AP02) ∧ ∀ funds, t.amount ≤ funds →
      ∃ o : Outcome, o.code = code ∧ (t.withFunds funds).execute today = .ok o := by
  by_cases hahead : IsAhead today t.executeBy
  · refine ⟨.AP02, Or.inr rfl, fun funds hfunds => ?_⟩
    cases Transfer.execution_of_parse hparse (hchecks funds hfunds) today with
    | scheduled _ hexecute => exact ⟨_, rfl, hexecute⟩
    | completed hdue => exact absurd hahead hdue
    | overflowed hdue => exact absurd hahead hdue
  · refine ⟨.AP00, Or.inl rfl, fun funds hfunds => ?_⟩
    cases Transfer.execution_of_parse hparse (hchecks funds hfunds) today with
    | scheduled hahead' => exact absurd hahead' hahead
    | completed _ _ _ _ hexecute => exact ⟨_, rfl, hexecute⟩
    | overflowed _ hlarge =>
      have hfits := Transfer.not_overflows_of_allWhole (hwhole.setBalance i.debitAccount funds)
        (hchecks funds hfunds)
      exact absurd hlarge hfits

/-- What the responses for all funds have in common is told by one refusal. -/
theorem respond_withFunds (hparse : Instruction.parse request.instruction = .ok i)
    (hwhole : AllWhole request.accounts) (supported : List Text) (today : Date) :
    Response.DecidedByFunds
        (fun funds => respond supported today (request.withFunds i.debitAccount funds))
      ∧ ∀ funds, (respond supported today (request.withFunds i.debitAccount funds)).TellsAlike
        (.ofFailure (Failure.ofCause .validate .insufficientFunds).classify (some i)
          request.accounts) := by
  have hinsufficient : (codeOf .validate .insufficientFunds).isUnreadable = false := by decide
  have hread : ∀ funds,
      Instruction.parse (request.withFunds i.debitAccount funds).instruction = .ok i :=
    fun _ => hparse
  rcases Transfer.ofInstruction_setBalance supported request.accounts i with
    ⟨cause, hcause, hall⟩ | ⟨t, hall⟩
  · have hreadable : (codeOf .validate cause).isUnreadable = false := by
      have hcodes : ∀ code ∈ refusalCodes, code.isUnreadable = false := by decide
      exact hcodes _ (Transfer.ofInstruction_eq_error_iff.1 (hall 0)).of_code.1
    have hrespond : ∀ funds, respond supported today (request.withFunds i.debitAccount funds)
        = .ofFailure (Failure.ofCause .validate cause).classify (some i)
          (request.withFunds i.debitAccount funds).accounts :=
      fun funds => respond_of_refused (hread funds) (hall funds) today
    refine ⟨.refused (codeOf_validate_ne_AC01 hcause) (codeOf_ne .validate cause) fun funds => ?_,
      fun funds => ?_⟩
    · rw [hrespond, Response.code_ofFailure]
      rfl
    · rw [hrespond]
      exact Response.tellsAlike_ofFailure hreadable hinsufficient i (.whole funds) request.accounts
  · have hbelow : ∀ funds < t.amount,
        respond supported today (request.withFunds i.debitAccount funds)
          = .ofFailure (Failure.ofCause .validate .insufficientFunds).classify (some i)
            (request.withFunds i.debitAccount funds).accounts :=
      fun funds hfunds =>
        respond_of_refused (hread funds) ((hall funds).trans (if_pos hfunds)) today
    have hchecks : ∀ funds, t.amount ≤ funds → Transfer.ChecksOut supported
        (request.withFunds i.debitAccount funds).accounts i (t.withFunds funds) :=
      fun funds hfunds => Transfer.ofInstruction_eq_ok_iff.1
        ((hall funds).trans (if_neg (Int.not_lt.2 hfunds)))
    obtain ⟨code, hcode, hsettled⟩ := exists_outcome_withFunds hparse hwhole today hchecks
    have hamount : leadingInteger i.amount = some t.amount ∧ 0 < t.amount :=
      leadingInteger_of_readAmount (hchecks t.amount (Int.le_refl _)).amount
    have halike : ∀ funds, (respond supported today
        (request.withFunds i.debitAccount funds)).TellsAlike
          (.ofFailure (Failure.ofCause .validate .insufficientFunds).classify (some i)
            request.accounts) := by
      intro funds
      have hrefusal := Response.tellsAlike_ofFailure hinsufficient hinsufficient i (.whole funds)
        request.accounts
      rcases Int.lt_or_le funds t.amount with hfunds | hfunds
      · rw [hbelow funds hfunds]
        exact hrefusal
      · obtain ⟨o, -, hexecute⟩ := hsettled funds hfunds
        rw [respond_of_execute (hread funds) (hchecks funds hfunds) hexecute]
        exact (Response.tellsAlike_ofOutcome (Instruction.wellFormed_of_parse hparse)
          (hchecks funds hfunds) hexecute hinsufficient).trans hrefusal
    refine ⟨.settled hamount.2 hcode (fun funds hfunds => ?_) (fun funds hfunds => ?_)
      (fun funds => ?_), halike⟩
    · rw [hbelow funds hfunds, Response.code_ofFailure]
      rfl
    · obtain ⟨o, hsame, hexecute⟩ := hsettled funds hfunds
      rw [respond_of_execute (hread funds) (hchecks funds hfunds) hexecute]
      exact hsame
    · rw [(halike funds).amount, Response.ofFailure_of_readable hinsufficient]
      exact hamount.1

end Request

/-! ## Processing -/

/-- Whatever balance the account to be debited has, among whole balances: either every response is
the same refusal, or the amount of the instruction is the least balance for which the transfer is
settled, and all smaller ones do not suffice. All responses tell alike. -/
theorem process_fundsThreshold {supported : List Text} {today : Date} {request : Request}
    {i : Instruction} {payload : Int → Json}
    (hparse : Instruction.parse request.instruction = .ok i) (hwhole : AllWhole request.accounts)
    (hjson : ∀ funds,
      Request.ofJson (payload funds) = .ok (request.withFunds i.debitAccount funds)) :
    Response.DecidedByFunds (fun funds => process supported today (payload funds))
      ∧ ∀ funds funds', (process supported today (payload funds)).TellsAlike
        (process supported today (payload funds')) := by
  have hprocess : ∀ funds, process supported today (payload funds)
      = (request.withFunds i.debitAccount funds).respond supported today := by
    intro funds
    rw [process, hjson funds]
  obtain ⟨hdecided, halike⟩ := Request.respond_withFunds hparse hwhole supported today
  simp only [hprocess]
  exact ⟨hdecided, fun funds funds' => (halike funds).trans (halike funds').symm⟩

/-- A request to pay 5 on a day that is written as the thirtieth of February. There are two accounts
with the id that is debited. -/
def thresholdRequest : Request where
  accounts := [⟨"B".toList, .whole (-1), "ngn".toList⟩, ⟨"A".toList, .whole 3, "NGN".toList⟩,
    ⟨"A".toList, .whole 99, "NGN".toList⟩]
  instruction := "CREDIT +5x ngn TO ACCOUNT B FOR DEBIT FROM ACCOUNT A ON 2025-02-30".toList

/-- The second account `A` does not make up for the first. -/
theorem process_fundsThreshold_twoHolders :
    AllWhole thresholdRequest.accounts
      ∧ Response.DecidedByFunds (fun funds => process ["NGN".toList] ⟨2025, 3, 1, by decide⟩
          (thresholdRequest.withFunds "A".toList funds).toJson)
      ∧ (process ["NGN".toList] ⟨2025, 3, 1, by decide⟩
          (thresholdRequest.withFunds "A".toList 4).toJson).code = .AC01
      ∧ (process ["NGN".toList] ⟨2025, 3, 1, by decide⟩
          (thresholdRequest.withFunds "A".toList 5).toJson).code = .AP02
      ∧ (process ["NGN".toList] ⟨2025, 3, 1, by decide⟩
          (thresholdRequest.withFunds "A".toList 4).toJson).TellsAlike
        (process ["NGN".toList] ⟨2025, 3, 1, by decide⟩
          (thresholdRequest.withFunds "A".toList 5).toJson) := by
  have hparse : Instruction.parse thresholdRequest.instruction
      = .ok ⟨.credit, "+5x".toList, "ngn".toList, "A".toList, "B".toList,
        some "2025-02-30".toList⟩ := by
    decide +kernel
  have hwhole : AllWhole thresholdRequest.accounts := by
    simp [AllWhole, thresholdRequest]
  have hjson : ∀ funds, Request.ofJson (thresholdRequest.withFunds "A".toList funds).toJson
      = .ok (thresholdRequest.withFunds "A".toList funds) :=
    fun funds => Request.ofJson_toJson _
  obtain ⟨hdecided, halike⟩ := process_fundsThreshold hparse hwhole hjson
  exact ⟨hwhole, hdecided, by decide +kernel, by decide +kernel, halike 4 5⟩

end Remit
