import Remit.Proofs.Request
import Remit.Proofs.RequestOrder
import Remit.Proofs.Shape

/-!
# The order in which accounts are listed

A response lists the debited and the credited account in the order in which the request first names
them, which `ListsInOrder` says of any two entries. For the answer to a request there is a shorter
way to say it: take the ids in the request, leave out those that came before and those that are not
concerned, and what remains is the list (`filter_eraseDups_ids`). `process_listing` states both, the
one for every outcome and every failure and the other for every value that is processed.
-/

namespace Remit

open Text

/-! ## First occurrences -/

/-- Whether repetitions are left out before or after a selection is made is the same. -/
theorem eraseDups_filter {α : Type} [BEq α] [LawfulBEq α] (p : α → Bool) :
    ∀ l : List α, (l.filter p).eraseDups = l.eraseDups.filter p
  | [] => rfl
  | a :: l => by
    have ih := eraseDups_filter p (l.filter fun b => !b == a)
    by_cases ha : p a = true
    · rw [List.filter_cons_of_pos ha, List.eraseDups_cons, List.eraseDups_cons,
        List.filter_cons_of_pos ha, ← ih, List.filter_filter, List.filter_filter]
      simp only [Bool.and_comm]
    · -- What is not selected is not missed among the rest.
      have hrest : (l.filter fun b => !b == a).filter p = l.filter p := by
        rw [List.filter_filter]
        refine List.filter_congr fun b _ => ?_
        by_cases hb : b = a
        · simp [hb, ha]
        · simp [hb]
      rw [List.filter_cons_of_neg ha, List.eraseDups_cons, List.filter_cons_of_neg ha, ← ih, hrest]
termination_by l => l.length
decreasing_by exact Nat.lt_succ_of_le (List.length_filter_le _ _)

/-- All occurrences of one item come down to one. -/
theorem eraseDups_filter_eq {α : Type} [BEq α] [LawfulBEq α] [DecidableEq α] {a : α} {l : List α}
    (h : a ∈ l) : (l.filter fun b => b = a).eraseDups = [a] := by
  obtain ⟨n, hn⟩ : ∃ n, l.count a = n + 1 :=
    Nat.exists_eq_add_one_of_ne_zero (Nat.ne_of_gt (List.count_pos_iff.2 h))
  rw [List.filter_eq, hn, List.replicate_succ, List.eraseDups_cons]
  simp

/-- Of two items the one at the head comes first. -/
theorem eraseDups_filter_cons {α : Type} [BEq α] [LawfulBEq α] [DecidableEq α] {a b : α}
    {l : List α} {p : α → Bool} (hne : a ≠ b) (hb : b ∈ l)
    (hp : ∀ x, p x = true ↔ x = a ∨ x = b) : ((a :: l).filter p).eraseDups = [a, b] := by
  have hrest : ((l.filter p).filter fun x => !x == a) = l.filter fun x => x = b := by
    rw [List.filter_filter]
    refine List.filter_congr fun x _ => ?_
    rw [Bool.eq_iff_iff, Bool.and_eq_true, hp, decide_eq_true_eq, Bool.not_eq_true',
      beq_eq_false_iff_ne]
    constructor
    · exact fun h => h.2.resolve_left h.1
    · rintro rfl
      exact ⟨hne.symm, Or.inr rfl⟩
  rw [List.filter_cons_of_pos ((hp a).2 (Or.inl rfl)), List.eraseDups_cons, hrest,
    eraseDups_filter_eq hb]

/-- The ids of two accounts come in the order of their first positions in a request. -/
theorem filter_eraseDups_ids {accounts : List Account} {d c : Text} (hne : d ≠ c)
    (hd : d ∈ accounts.map Account.id) (hc : c ∈ accounts.map Account.id) :
    ((accounts.map Account.id).eraseDups.filter fun id => id = d ∨ id = c)
      = if Account.position accounts c < Account.position accounts d then [c, d] else [d, c] := by
  -- The first account with either id decides which comes first. Those before it are passed over.
  rw [← eraseDups_filter]
  induction accounts with
  | nil => cases hd
  | cons account rest ih =>
    rw [List.map_cons, List.mem_cons] at hd hc
    rw [List.map_cons, Account.position_cons, Account.position_cons]
    by_cases hid : account.id = d
    · subst hid
      rw [if_pos rfl, if_neg (Nat.not_lt_zero _),
        eraseDups_filter_cons hne (hc.resolve_left hne.symm) (by simp)]
    by_cases hid' : account.id = c
    · subst hid'
      rw [if_pos rfl, if_neg hid, if_pos (Nat.succ_pos _),
        eraseDups_filter_cons hid (hd.resolve_left hne) (by simp [or_comm])]
    · rw [if_neg hid, if_neg hid', List.filter_cons_of_neg (by simp [hid, hid']),
        ih (hd.resolve_left (Ne.symm hid)) (hc.resolve_left (Ne.symm hid'))]
      simp only [Nat.add_lt_add_iff_right]

/-! ## Entries in order -/

theorem Code.isUnreadable_eq_false_iff {code : Code} :
    code.isUnreadable = false ↔ code ∉ [Code.SY01, .SY02, .SY03] := by
  cases code <;> decide

namespace Response

/-- A failure with a readable code lists the accounts that the instruction names. -/
theorem accounts_ofFailure {failure : Failure} {code : Code} (h : failure.code = some code)
    (hcode : code.isUnreadable = false) (i : Instruction) (accounts : List Account) :
    (ofFailure failure (some i) accounts).accounts = concerned i accounts := by
  simp [ofFailure, h, hcode]

theorem ids_ne_of_inRequestOrder {accounts : List Account} {debit credit e e' : Entry}
    (h : inRequestOrder accounts [debit, credit] = [e, e']) (hne : e.id ≠ e'.id) :
    debit.id ≠ credit.id := by
  rw [inRequestOrder_pair] at h
  split at h
  · cases h
    exact hne.symm
  · cases h
    exact hne

end Response

/-! ## The first accounts with the ids -/

/-- An entry tells the balance that an account had, and its currency. -/
structure Entry.Tells (e : Entry) (account : Account) : Prop where
  id : e.id = account.id
  balanceBefore : e.balanceBefore = account.balance
  currency : e.currency = upper account.currency

theorem Response.tells_unchangedEntry (account : Account) :
    (unchangedEntry account).Tells account :=
  ⟨rfl, rfl, rfl⟩

theorem Transfer.tells_of_execute {t : Transfer} {today : Date} {o : Outcome}
    (h : t.execute today = .ok o) :
    (Response.changedEntry o.debitAccount o.debitBefore).Tells t.debitAccount
      ∧ (Response.changedEntry o.creditAccount o.creditBefore).Tells t.creditAccount := by
  rcases execute_eq_ok_iff.1 h with ⟨-, rfl⟩ | ⟨-, hcomplete⟩
  · exact ⟨⟨rfl, rfl, rfl⟩, ⟨rfl, rfl, rfl⟩⟩
  · obtain ⟨debit, credit, -, -, rfl⟩ := complete_eq_ok_iff.1 hcomplete
    exact ⟨⟨rfl, rfl, rfl⟩, ⟨rfl, rfl, rfl⟩⟩

/-- The entries are those of the two accounts that an instruction names, in the order in which the
ids first occur in the request, and each tells the first account with its id. -/
structure ListsFirsts (accounts : List Account) (i : Instruction) (entries : List Entry) :
    Prop where
  ids : entries.map Entry.id = (accounts.map Account.id).eraseDups.filter fun id =>
    id = i.debitAccount ∨ id = i.creditAccount
  tells : ∀ e ∈ entries, ∃ account, Account.find? accounts e.id = some account ∧ e.Tells account

theorem listsFirsts_inRequestOrder {accounts : List Account} {i : Instruction}
    {debit credit : Account} (hdebit : Account.find? accounts i.debitAccount = some debit)
    (hcredit : Account.find? accounts i.creditAccount = some credit) {d c : Entry}
    (hd : d.Tells debit) (hc : c.Tells credit) (hne : d.id ≠ c.id) :
    ListsFirsts accounts i (Response.inRequestOrder accounts [d, c]) := by
  have hdId : d.id = i.debitAccount := hd.id.trans (Account.id_of_find? hdebit)
  have hcId : c.id = i.creditAccount := hc.id.trans (Account.id_of_find? hcredit)
  rw [← hdId] at hdebit
  rw [← hcId] at hcredit
  refine ⟨?_, fun e he => ?_⟩
  · have hdMem := Account.isSome_find?_iff.1 (Option.isSome_of_eq_some hdebit)
    have hcMem := Account.isSome_find?_iff.1 (Option.isSome_of_eq_some hcredit)
    rw [← hdId, ← hcId, filter_eraseDups_ids hne hdMem hcMem, Response.inRequestOrder_pair]
    split <;> rfl
  · rcases Response.mem_inRequestOrder.1 he with rfl | rfl
    · exact ⟨debit, hdebit, hd⟩
    · exact ⟨credit, hcredit, hc⟩

/-- A response that lists two accounts lists the first ones with the ids in the instruction, which
are the ids that it repeats. -/
theorem Request.listsFirsts_respond {supported : List Text} {today : Date} {request : Request}
    {e e' : Entry} (h : (request.respond supported today).accounts = [e, e'])
    (hne : e.id ≠ e'.id) :
    ∃ i, Instruction.parse request.instruction = .ok i
      ∧ (request.respond supported today).debitAccount = some i.debitAccount
      ∧ (request.respond supported today).creditAccount = some i.creditAccount
      ∧ ListsFirsts request.accounts i (request.respond supported today).accounts := by
  cases request.course supported today with
  | unread hparse hrun =>
    rw [respond_of_run hrun] at h
    cases h
  | @refused i cause hparse hrefused hrun =>
    have hi := Instruction.wellFormed_of_parse hparse
    have hdebit := ne_nil_of_isAccountId hi.isAccountId_debit
    have hcredit := ne_nil_of_isAccountId hi.isAccountId_credit
    rw [respond_of_run hrun, Response.ofFailure_of_wellFormed hrefused.isUnreadable hi] at h ⊢
    refine ⟨i, hparse, rfl, rfl, ?_⟩
    dsimp only at h ⊢
    cases haccounts : i.accounts? request.accounts with
    | none =>
      rw [Response.concerned_of_none hdebit hcredit haccounts] at h
      cases h
    | some found =>
      rw [Response.concerned_of_some hdebit hcredit haccounts] at h ⊢
      obtain ⟨hfindDebit, hfindCredit⟩ := Instruction.accounts?_eq_some_iff.1 haccounts
      exact listsFirsts_inRequestOrder hfindDebit hfindCredit
        (Response.tells_unchangedEntry _) (Response.tells_unchangedEntry _)
        (Response.ids_ne_of_inRequestOrder h hne)
  | faulted hparse hchecks hexecute hrun =>
    rw [respond_of_fault hrun] at h
    cases h
  | @settled i t o hparse hchecks hexecute hrun =>
    rw [respond_of_run hrun] at h ⊢
    obtain ⟨hdebitId, hcreditId, -⟩ := Transfer.execute_keeps hexecute
    obtain ⟨hdebit, hcredit⟩ := Transfer.tells_of_execute hexecute
    refine ⟨i, hparse, ?_, ?_, listsFirsts_inRequestOrder hchecks.debit hchecks.credit hdebit
      hcredit (Response.ids_ne_of_inRequestOrder h hne)⟩
    · exact congrArg some (hdebitId.trans (Account.id_of_find? hchecks.debit))
    · exact congrArg some (hcreditId.trans (Account.id_of_find? hchecks.credit))

/-! ## Every listing -/

/-- Every outcome, and every failure of an instruction whose accounts are in the request, lists the
debit and the credit entry in the order of the request. So whenever two accounts with different ids
are listed, they are the first ones with their ids, in the order in which these first occur. -/
theorem process_listing :
    (∀ (o : Outcome) (accounts : List Account) (entries : List Entry),
      (Response.ofOutcome o accounts).accounts = entries
        ↔ ListsInOrder accounts (Response.changedEntry o.debitAccount o.debitBefore)
          (Response.changedEntry o.creditAccount o.creditBefore) entries)
    ∧ (∀ (failure : Failure) (code : Code) (i : Instruction) (accounts : List Account),
      failure.code = some code → code ∉ [Code.SY01, .SY02, .SY03] →
      i.debitAccount ≠ [] → i.creditAccount ≠ [] →
      i.debitAccount ∈ accounts.map Account.id → i.creditAccount ∈ accounts.map Account.id →
      ∃ debit credit, Account.find? accounts i.debitAccount = some debit
        ∧ Account.find? accounts i.creditAccount = some credit
        ∧ ∀ entries, (Response.ofFailure failure (some i) accounts).accounts = entries
          ↔ ListsInOrder accounts (Response.unchangedEntry debit) (Response.unchangedEntry credit)
            entries)
    ∧ ∀ (supported : List Text) (today : Date) (payload : Json) (e e' : Entry),
      (process supported today payload).accounts = [e, e'] → e.id ≠ e'.id →
      ∃ request i, Request.ofJson payload = .ok request
        ∧ Instruction.parse request.instruction = .ok i
        ∧ (process supported today payload).debitAccount = some i.debitAccount
        ∧ (process supported today payload).creditAccount = some i.creditAccount
        ∧ ListsFirsts request.accounts i (process supported today payload).accounts := by
  refine ⟨fun o accounts entries => ?_, ?_, ?_⟩
  · rw [listsInOrder_iff, eq_comm]
    rfl
  · intro failure code i accounts hcode hreadable hdebit hcredit hdebitMem hcreditMem
    have hunreadable := Code.isUnreadable_eq_false_iff.2 hreadable
    obtain ⟨found, haccounts⟩ :=
      Option.isSome_iff_exists.1 (Instruction.isSome_accounts?_iff.2 ⟨hdebitMem, hcreditMem⟩)
    obtain ⟨hfindDebit, hfindCredit⟩ := Instruction.accounts?_eq_some_iff.1 haccounts
    refine ⟨found.1, found.2, hfindDebit, hfindCredit, fun entries => ?_⟩
    rw [Response.accounts_ofFailure hcode hunreadable,
      Response.concerned_of_some hdebit hcredit haccounts, listsInOrder_iff, eq_comm]
  · intro supported today payload e e' h hne
    rw [process] at h ⊢
    cases hjson : Request.ofJson payload with
    | ok request =>
      rw [hjson] at h
      obtain ⟨i, hparse, hlists⟩ := Request.listsFirsts_respond h hne
      exact ⟨request, i, rfl, hparse, hlists⟩
    | error faults =>
      rw [hjson] at h
      cases h

/-- Both ids occur twice, and the credited account comes first. -/
def crowdedRequest : Request where
  accounts := [⟨"C".toList, .whole 0, "NGN".toList⟩, ⟨"B".toList, .whole 2, "ngn".toList⟩,
    ⟨"A".toList, .whole 8, "Ngn".toList⟩, ⟨"B".toList, .whole 5, "USD".toList⟩,
    ⟨"A".toList, .whole 1, "USD".toList⟩]
  instruction := "DEBIT 3 NGN FROM ACCOUNT A FOR CREDIT TO ACCOUNT B".toList

/-- The instruction of the request. -/
def crowdedInstruction : Instruction :=
  ⟨.debit, "3".toList, "NGN".toList, "A".toList, "B".toList, none⟩

/-- Only the first accounts with the ids count: whether the instruction is refused or carried out,
`B` is listed before `A`, each with the first currency and balance that the request gives it. -/
theorem process_listing_crowded :
    (Response.ofFailure ⟨.unexpected, .validate, "", some .AC01⟩ (some crowdedInstruction)
        crowdedRequest.accounts).accounts
      = [⟨"B".toList, .whole 2, .whole 2, "NGN".toList⟩,
        ⟨"A".toList, .whole 8, .whole 8, "NGN".toList⟩]
    ∧ (process ["NGN".toList] ⟨2025, 1, 6, by decide⟩ crowdedRequest.toJson).accounts.map Entry.id
      = ["B".toList, "A".toList] := by
  obtain ⟨-, hfailure, hprocess⟩ := process_listing
  constructor
  · obtain ⟨debit, credit, hdebit, hcredit, hlists⟩ := hfailure
      ⟨.unexpected, .validate, "", some .AC01⟩ .AC01 crowdedInstruction crowdedRequest.accounts
      rfl (by decide) (by decide) (by decide) (by decide) (by decide)
    obtain rfl : (⟨"A".toList, .whole 8, "Ngn".toList⟩ : Account) = debit :=
      Option.some.inj (by rw [← hdebit]; rfl)
    obtain rfl : (⟨"B".toList, .whole 2, "ngn".toList⟩ : Account) = credit :=
      Option.some.inj (by rw [← hcredit]; rfl)
    exact (hlists _).2 (listsInOrder_iff.2 (by decide))
  · have hlisted : (process ["NGN".toList] ⟨2025, 1, 6, by decide⟩ crowdedRequest.toJson).accounts
        = [⟨"B".toList, .whole 5, .whole 2, "NGN".toList⟩,
          ⟨"A".toList, .whole 5, .whole 8, "NGN".toList⟩] := by
      decide +kernel
    obtain ⟨request, i, hjson, hparse, -, -, hfirsts⟩ := hprocess ["NGN".toList]
      ⟨2025, 1, 6, by decide⟩ crowdedRequest.toJson _ _ hlisted (by decide)
    obtain rfl := Except.ok.inj ((Request.ofJson_toJson crowdedRequest).symm.trans hjson)
    obtain rfl : crowdedInstruction = i :=
      Except.ok.inj ((by decide +kernel : Instruction.parse crowdedRequest.instruction
        = .ok crowdedInstruction).symm.trans hparse)
    rw [hfirsts.ids]
    decide

end Remit
