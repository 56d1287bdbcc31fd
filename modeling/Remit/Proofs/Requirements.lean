import Remit.Proofs.Refusal

/-!
# What an instruction has to meet

The checks of an instruction are made one after another, and the first that fails is reported. This
module says the same without the order of computation: `Transfer.requirements` lists what an
instruction has to meet, each with the cause for which it is refused otherwise, and
`ofInstruction_requirements` says that it is accepted if all of them are met, and refused for the
first that is not if one is not.

No list has two first unmet requirements (`FirstUnmet.unique`). So it is enough to go through the
ways in which an instruction is refused (`Refused.firstUnmet`) and the one in which it passes
(`ChecksOut.forall_holds`).
-/

namespace Remit

open Text

/-! ## Requirements in order -/

/-- Something that has to hold, and the cause for which an instruction is refused if it does not. -/
structure Requirement where
  holds : Prop
  cause : Cause

/-- The cause of the first requirement in a list that is not met. -/
inductive FirstUnmet : List Requirement → Cause → Prop
  | here {r : Requirement} {rest : List Requirement} (h : ¬ r.holds) :
    FirstUnmet (r :: rest) r.cause
  | later {r : Requirement} {rest : List Requirement} {cause : Cause} (h : r.holds)
    (hrest : FirstUnmet rest cause) : FirstUnmet (r :: rest) cause

namespace FirstUnmet

variable {rs : List Requirement} {cause : Cause}

/-- There is only one first unmet requirement. -/
theorem unique {cause' : Cause} (h : FirstUnmet rs cause) (h' : FirstUnmet rs cause') :
    cause = cause' := by
  induction h with
  | here hunmet =>
    cases h' with
    | here => rfl
    | later hholds => exact absurd hholds hunmet
  | later hholds _ ih =>
    cases h' with
    | here hunmet => exact absurd hholds hunmet
    | later _ hrest => exact ih hrest

theorem not_forall_holds (h : FirstUnmet rs cause) : ¬ ∀ r ∈ rs, r.holds := by
  induction h with
  | here hunmet => exact fun hall => hunmet (hall _ List.mem_cons_self)
  | later _ _ ih => exact fun hall => ih fun r hr => hall r (List.mem_cons_of_mem _ hr)

end FirstUnmet

/-! ## The requirements of a transfer -/

namespace Transfer

/-- What an instruction has to meet, in the order in which it is checked. -/
def requirements (supported : List Text) (accounts : List Account) (i : Instruction) :
    List Requirement := [
  ⟨'-' ∉ i.amount, .negativeAmount⟩,
  ⟨'.' ∉ i.amount, .decimalAmount⟩,
  ⟨∃ n, leadingInteger i.amount = some n ∧ 1 ≤ n, .invalidAmount⟩,
  ⟨i.currency ≠ [] ∧ upper i.currency ∈ supported, .unsupportedCurrency⟩,
  ⟨i.debitAccount ∈ accounts.map Account.id ∧ i.creditAccount ∈ accounts.map Account.id,
    .accountNotFound⟩,
  ⟨i.debitAccount ≠ i.creditAccount, .sameAccount⟩,
  ⟨∃ debit credit, Account.find? accounts i.debitAccount = some debit
      ∧ Account.find? accounts i.creditAccount = some credit
      ∧ upper debit.currency = upper i.currency ∧ upper credit.currency = upper i.currency,
    .currencyMismatch⟩,
  ⟨∃ n debit, leadingInteger i.amount = some n
      ∧ Account.find? accounts i.debitAccount = some debit ∧ debit.balance.isBelow n = false,
    .insufficientFunds⟩]

/-- A transfer is what an instruction states: of its form and date, with the number that its amount
begins with, its currency in upper case and the first accounts with its ids. -/
structure IsStatedBy (accounts : List Account) (i : Instruction) (t : Transfer) : Prop where
  form : t.form = i.form
  amount : leadingInteger i.amount = some t.amount
  currency : t.currency = upper i.currency
  debit : Account.find? accounts i.debitAccount = some t.debitAccount
  credit : Account.find? accounts i.creditAccount = some t.creditAccount
  executeBy : t.executeBy = i.executeBy

variable {supported : List Text} {accounts : List Account} {i : Instruction} {t : Transfer}
  {cause : Cause}

/-- An instruction states one transfer at most. -/
theorem IsStatedBy.unique {t' : Transfer} (h : IsStatedBy accounts i t)
    (h' : IsStatedBy accounts i t') : t = t' := by
  obtain ⟨form, amount, currency, debit, credit, executeBy⟩ := t
  obtain ⟨hform, hamount, hcurrency, hdebit, hcredit, hexecute⟩ := h
  obtain ⟨form', amount', currency', debit', credit', executeBy'⟩ := t'
  obtain ⟨hform', hamount', hcurrency', hdebit', hcredit', hexecute'⟩ := h'
  rw [hamount, Option.some.injEq] at hamount'
  rw [hdebit, Option.some.injEq] at hdebit'
  rw [hcredit, Option.some.injEq] at hcredit'
  rw [← hform'] at hform
  rw [← hcurrency'] at hcurrency
  rw [← hexecute'] at hexecute
  subst hform hamount' hcurrency hdebit' hcredit' hexecute
  rfl

/-- Two accounts that are found have the ids that were looked for. -/
theorem id_eq_id_iff {debit credit : Account}
    (haccounts : i.accounts? accounts = some (debit, credit)) :
    debit.id = credit.id ↔ i.debitAccount = i.creditAccount := by
  obtain ⟨hdebit, hcredit⟩ := Instruction.accounts?_eq_some_iff.1 haccounts
  rw [Account.id_of_find? hdebit, Account.id_of_find? hcredit]

/-- The ids of accounts that are found are in the list. -/
theorem mem_ids_of_accounts? {found : Account × Account}
    (haccounts : i.accounts? accounts = some found) :
    i.debitAccount ∈ accounts.map Account.id ∧ i.creditAccount ∈ accounts.map Account.id :=
  Instruction.isSome_accounts?_iff.1 (Option.isSome_of_eq_some haccounts)

theorem ChecksOut.isStatedBy (h : ChecksOut supported accounts i t) : IsStatedBy accounts i t where
  form := h.form
  amount := (readAmount_eq_ok_iff.1 h.amount).2.2.1
  currency := (readCurrency_eq_ok_iff.1 h.currency).2
  debit := h.debit
  credit := h.credit
  executeBy := h.executeBy

/-- What passes every check meets every requirement. -/
theorem ChecksOut.forall_holds (h : ChecksOut supported accounts i t) :
    ∀ r ∈ requirements supported accounts i, r.holds := by
  obtain ⟨hminus, hpoint, hread, hpos⟩ := readAmount_eq_ok_iff.1 h.amount
  obtain ⟨hsupported, hcurrency⟩ := readCurrency_eq_ok_iff.1 h.currency
  have haccounts := Instruction.accounts?_eq_some_iff.2 ⟨h.debit, h.credit⟩
  have hexist := mem_ids_of_accounts? haccounts
  have hdistinct := mt (id_eq_id_iff haccounts).2 h.distinct
  simp only [requirements, List.forall_mem_cons]
  exact ⟨hminus, hpoint, ⟨t.amount, hread, hpos⟩, hsupported, hexist, hdistinct,
    ⟨t.debitAccount, t.creditAccount, h.debit, h.credit, h.debit_currency.trans hcurrency,
      h.credit_currency.trans hcurrency⟩,
    ⟨t.amount, t.debitAccount, hread, h.debit, h.funds⟩, by simp⟩

/-- A refused amount fails one of the first three requirements. -/
theorem firstUnmet_of_readAmount (h : readAmount i.amount = .error cause) :
    FirstUnmet (requirements supported accounts i) cause := by
  unfold readAmount at h
  split at h
  · next hempty =>
    -- The empty text has no sign and no point in it, but it does not begin with a number either.
    have hnil : i.amount = [] := List.isEmpty_iff.1 hempty
    cases h
    refine .later ?_ (.later ?_ (.here ?_))
    · simp [hnil]
    · simp [hnil]
    · rintro ⟨n, hread, -⟩
      rw [hnil] at hread
      cases hread
  split at h
  · next hminus =>
    cases h
    exact .here fun hnot => hnot (by simpa using hminus)
  split at h
  · next hminus hpoint =>
    cases h
    exact .later (by simpa using hminus) (.here fun hnot => hnot (by simpa using hpoint))
  · next hminus hpoint =>
    have hcause : (¬ ∃ n, leadingInteger i.amount = some n ∧ 1 ≤ n) ∧ cause = .invalidAmount := by
      split at h
      · next amount hread =>
        split at h
        · next hle =>
          cases h
          refine ⟨?_, rfl⟩
          rintro ⟨n, hn, hpos⟩
          rw [hread, Option.some.injEq] at hn
          omega
        · cases h
      · next hnone =>
        cases h
        refine ⟨?_, rfl⟩
        rintro ⟨n, hn, -⟩
        rw [hnone] at hn
        cases hn
    obtain ⟨hnot, rfl⟩ := hcause
    exact .later (by simpa using hminus) (.later (by simpa using hpoint) (.here hnot))

/-- An amount that is accepted leaves the first unmet requirement to the others. -/
theorem firstUnmet_of_rest {amount : Int} (hamount : readAmount i.amount = .ok amount)
    (h : FirstUnmet ((requirements supported accounts i).drop 3) cause) :
    FirstUnmet (requirements supported accounts i) cause := by
  obtain ⟨hminus, hpoint, hread, hpos⟩ := readAmount_eq_ok_iff.1 hamount
  exact .later hminus (.later hpoint (.later ⟨amount, hread, hpos⟩ h))

/-- An instruction is refused for the first requirement that it does not meet. -/
theorem Refused.firstUnmet (h : Refused supported accounts i cause) :
    FirstUnmet (requirements supported accounts i) cause := by
  cases h with
  | amount hamount => exact firstUnmet_of_readAmount hamount
  | currency hamount hcurrency =>
    obtain rfl := readCurrency_eq_error hcurrency
    refine firstUnmet_of_rest hamount (.here fun hsupported => ?_)
    rw [readCurrency_eq_ok_iff.2 ⟨hsupported, rfl⟩] at hcurrency
    cases hcurrency
  | accountNotFound hamount hcurrency haccounts =>
    have hsupported := (readCurrency_eq_ok_iff.1 hcurrency).1
    refine firstUnmet_of_rest hamount (.later hsupported (.here fun hexist => ?_))
    have hsome := Instruction.isSome_accounts?_iff.2 hexist
    rw [haccounts] at hsome
    cases hsome
  | sameAccount hamount hcurrency haccounts hsame =>
    have hsupported := (readCurrency_eq_ok_iff.1 hcurrency).1
    have hexist := mem_ids_of_accounts? haccounts
    refine firstUnmet_of_rest hamount (.later hsupported (.later hexist (.here fun hne => ?_)))
    exact hne ((id_eq_id_iff haccounts).1 hsame)
  | currencyMismatch hamount hcurrency haccounts hdistinct hmismatch =>
    obtain ⟨hsupported, rfl⟩ := readCurrency_eq_ok_iff.1 hcurrency
    have hexist := mem_ids_of_accounts? haccounts
    have hne := mt (id_eq_id_iff haccounts).2 hdistinct
    refine firstUnmet_of_rest hamount (.later hsupported (.later hexist (.later hne (.here ?_))))
    -- If both accounts had the currency of the instruction, they would not differ in it.
    rintro ⟨debit, credit, hdebit, hcredit, hdebitCurrency, hcreditCurrency⟩
    rw [Instruction.accounts?_eq_some_iff.2 ⟨hdebit, hcredit⟩] at haccounts
    cases haccounts
    rcases hmismatch with hdiffer | hdiffer
    · exact hdiffer (hdebitCurrency.trans hcreditCurrency.symm)
    · exact hdiffer hdebitCurrency
  | insufficientFunds hamount hcurrency haccounts hdistinct hcurrencies hbelow =>
    obtain ⟨hsupported, rfl⟩ := readCurrency_eq_ok_iff.1 hcurrency
    have hexist := mem_ids_of_accounts? haccounts
    have hne := mt (id_eq_id_iff haccounts).2 hdistinct
    obtain ⟨hdebit, hcredit⟩ := Instruction.accounts?_eq_some_iff.1 haccounts
    rw [not_or, not_not, not_not] at hcurrencies
    have hagree := And.intro hcurrencies.2 (hcurrencies.1.symm.trans hcurrencies.2)
    refine firstUnmet_of_rest hamount (.later hsupported (.later hexist (.later hne
      (.later ⟨_, _, hdebit, hcredit, hagree⟩ (.here ?_)))))
    -- The amount and the account are the ones that were compared.
    rintro ⟨n, debit, hread, hdebit', hcovered⟩
    rw [(readAmount_eq_ok_iff.1 hamount).2.2.1] at hread
    rw [hdebit] at hdebit'
    cases hread
    cases hdebit'
    rw [hbelow] at hcovered
    cases hcovered

theorem ofInstruction_eq_error_iff_firstUnmet : ofInstruction supported accounts i = .error cause
    ↔ FirstUnmet (requirements supported accounts i) cause := by
  refine ⟨fun h => (ofInstruction_eq_error_iff.1 h).firstUnmet, fun hunmet => ?_⟩
  cases hresult : ofInstruction supported accounts i with
  | error cause' =>
    have hunmet' := (ofInstruction_eq_error_iff.1 hresult).firstUnmet
    rw [hunmet.unique hunmet']
  | ok t =>
    exact absurd (ofInstruction_eq_ok_iff.1 hresult).forall_holds hunmet.not_forall_holds

theorem exists_ofInstruction_eq_ok_iff : (∃ t, ofInstruction supported accounts i = .ok t)
    ↔ ∀ r ∈ requirements supported accounts i, r.holds := by
  constructor
  · rintro ⟨t, h⟩
    exact (ofInstruction_eq_ok_iff.1 h).forall_holds
  · intro hall
    cases hresult : ofInstruction supported accounts i with
    | error cause =>
      exact absurd hall (ofInstruction_eq_error_iff_firstUnmet.1 hresult).not_forall_holds
    | ok t => exact ⟨t, rfl⟩

/-- An instruction is accepted if and only if it meets every requirement, and then as the transfer
that it states. Otherwise it is refused for the first requirement that it does not meet, and a
request with it is answered with this failure of the checks. -/
theorem ofInstruction_requirements (supported : List Text) (accounts : List Account)
    (i : Instruction) :
    ((∃ t, ofInstruction supported accounts i = .ok t)
        ↔ ∀ r ∈ requirements supported accounts i, r.holds)
      ∧ (∀ t, ofInstruction supported accounts i = .ok t
        ↔ (∀ r ∈ requirements supported accounts i, r.holds) ∧ IsStatedBy accounts i t)
      ∧ (∀ cause, ofInstruction supported accounts i = .error cause
        ↔ FirstUnmet (requirements supported accounts i) cause)
      ∧ ∀ cause, FirstUnmet (requirements supported accounts i) cause →
        ∀ (today : Date) (request : Request),
          Instruction.parse request.instruction = .ok i → request.accounts = accounts →
          request.respond supported today
            = .ofFailure (Failure.ofCause .validate cause).classify (some i) accounts := by
  refine ⟨exists_ofInstruction_eq_ok_iff, fun t => ⟨fun h => ?_, ?_⟩,
    fun cause => ofInstruction_eq_error_iff_firstUnmet, ?_⟩
  · have hchecks := ofInstruction_eq_ok_iff.1 h
    exact ⟨hchecks.forall_holds, hchecks.isStatedBy⟩
  · rintro ⟨hall, hstated⟩
    obtain ⟨t', h⟩ := exists_ofInstruction_eq_ok_iff.2 hall
    rw [h, hstated.unique (ofInstruction_eq_ok_iff.1 h).isStatedBy]
  · rintro cause hunmet today request hparse rfl
    exact Request.respond_of_refused hparse (ofInstruction_eq_error_iff_firstUnmet.2 hunmet) today

/-- A transfer in the currency that is no text at all. -/
def namelessInstruction : Instruction where
  form := .debit
  amount := "5".toList
  currency := []
  debitAccount := "A".toList
  creditAccount := "B".toList
  executeBy := none

/-- Two accounts in that currency. -/
def namelessAccounts : List Account :=
  [⟨"A".toList, .whole 10, []⟩, ⟨"B".toList, .whole 0, []⟩]

/-- Even in a list of supported currencies the empty text is none. -/
theorem ofInstruction_nameless :
    (∀ r ∈ requirements [[]] namelessAccounts namelessInstruction,
        r.cause ≠ .unsupportedCurrency → r.holds)
      ∧ upper namelessInstruction.currency ∈ [[]]
      ∧ ofInstruction [[]] namelessAccounts namelessInstruction = .error .unsupportedCurrency := by
  refine ⟨?_, by decide, by decide +kernel⟩
  simp only [requirements, List.forall_mem_cons]
  have hread : leadingInteger namelessInstruction.amount = some 5 := by decide
  have hdebit : Account.find? namelessAccounts namelessInstruction.debitAccount
      = some ⟨"A".toList, .whole 10, []⟩ := by
    decide
  have hcredit : Account.find? namelessAccounts namelessInstruction.creditAccount
      = some ⟨"B".toList, .whole 0, []⟩ := by
    decide
  exact ⟨fun _ => by decide, fun _ => by decide, fun _ => ⟨5, hread, by decide⟩,
    fun hne => absurd rfl hne, fun _ => by decide, fun _ => by decide,
    fun _ => ⟨_, _, hdebit, hcredit, rfl, rfl⟩, fun _ => ⟨5, _, hread, hdebit, by decide⟩, by simp⟩

end Transfer
end Remit
