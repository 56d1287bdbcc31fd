import Remit.Proofs.Processing
import Remit.Proofs.Request
import Remit.Proofs.RequestOrder

/-!
# Which accounts matter

The checks, the listing of a refused instruction and the order of the entries each look accounts up
on their own. None of them sees more of the accounts than two things: the first account with either
id that the instruction names, and which of the two comes first. Lists that agree in this are alike
to the instruction (`Instruction.SeesAlike`), and it gets the same answer on them
(`process_seesAlike`).

So accounts with other ids do not matter, nor do later accounts with an id that has occurred before
(`Instruction.Ignores`).
-/

namespace Remit

open Text

/-! ## What an instruction sees -/

namespace Instruction

/-- The two ids that an instruction names. -/
def Names (i : Instruction) (id : Text) : Prop :=
  id = i.debitAccount ∨ id = i.creditAccount

/-- Two lists of accounts are alike to an instruction: the first account with an id that it names is
the same in both, and if it names two accounts they stand in the same order. -/
structure SeesAlike (i : Instruction) (accounts accounts' : List Account) : Prop where
  find?_eq : ∀ id, i.Names id → Account.find? accounts id = Account.find? accounts' id
  order : i.debitAccount ∈ accounts.map Account.id → i.creditAccount ∈ accounts.map Account.id →
    i.debitAccount ≠ i.creditAccount →
    (Account.position accounts i.creditAccount < Account.position accounts i.debitAccount
      ↔ Account.position accounts' i.creditAccount < Account.position accounts' i.debitAccount)

namespace SeesAlike

variable {i : Instruction} {accounts accounts' : List Account} (h : i.SeesAlike accounts accounts')

include h

theorem accounts?_eq : i.accounts? accounts = i.accounts? accounts' := by
  rw [accounts?, accounts?, h.find?_eq _ (Or.inl rfl), h.find?_eq _ (Or.inr rfl)]

/-- Entries of the two accounts are listed in the same order. -/
theorem inRequestOrder_eq {debit credit : Account}
    (hfound : i.accounts? accounts = some (debit, credit)) {d c : Entry} (hd : d.id = debit.id)
    (hc : c.id = credit.id) :
    Response.inRequestOrder accounts [d, c] = Response.inRequestOrder accounts' [d, c] := by
  obtain ⟨hdebit, hcredit⟩ := accounts?_eq_some_iff.1 hfound
  rw [Account.id_of_find? hdebit] at hd
  rw [Account.id_of_find? hcredit] at hc
  rw [Response.inRequestOrder_pair, Response.inRequestOrder_pair, hd, hc]
  by_cases hsame : i.debitAccount = i.creditAccount
  · -- With one id there is one position, and the debit entry comes first.
    rw [hsame, if_neg (Nat.lt_irrefl _), if_neg (Nat.lt_irrefl _)]
  · have hmem : (i.accounts? accounts).isSome = true := by
      rw [hfound]
      rfl
    obtain ⟨hdebitMem, hcreditMem⟩ := isSome_accounts?_iff.1 hmem
    simp only [h.order hdebitMem hcreditMem hsame]

theorem concerned_eq : Response.concerned i accounts = Response.concerned i accounts' := by
  rw [Response.concerned, Response.concerned, ← h.accounts?_eq]
  split
  · rfl
  · split
    · next debit credit hfound => exact h.inRequestOrder_eq hfound rfl rfl
    · rfl

theorem ofFailure_eq (failure : Failure) :
    Response.ofFailure failure (some i) accounts
      = Response.ofFailure failure (some i) accounts' := by
  rw [Response.ofFailure, Response.ofFailure, h.concerned_eq]

theorem ofInstruction_eq (supported : List Text) :
    Transfer.ofInstruction supported accounts i = Transfer.ofInstruction supported accounts' i := by
  rw [Transfer.ofInstruction, Transfer.ofInstruction, h.accounts?_eq]

theorem ofOutcome_eq {supported : List Text} {t : Transfer} {today : Date} {o : Outcome}
    (hchecks : Transfer.ChecksOut supported accounts i t) (hexecute : t.execute today = .ok o) :
    Response.ofOutcome o accounts = Response.ofOutcome o accounts' := by
  obtain ⟨hdebit, hcredit, -⟩ := Transfer.execute_keeps hexecute
  have hfound := accounts?_eq_some_iff.2 ⟨hchecks.debit, hchecks.credit⟩
  rw [Response.ofOutcome, Response.ofOutcome, h.inRequestOrder_eq hfound hdebit hcredit]

end SeesAlike
end Instruction

/-- An instruction is answered alike on lists that are alike to it. If the text is not read as one,
the accounts do not matter at all. -/
theorem Request.respond_congr {text : Text} {accounts accounts' : List Account}
    (h : ∀ i, Instruction.parse text = .ok i → i.SeesAlike accounts accounts')
    (supported : List Text) (today : Date) :
    respond supported today ⟨accounts, text⟩ = respond supported today ⟨accounts', text⟩ := by
  rw [respond, respond, run, run]
  cases hparse : Instruction.parse text with
  | error cause => rfl
  | ok i =>
    have halike := h i hparse
    dsimp only
    rw [← halike.ofInstruction_eq]
    cases htransfer : Transfer.ofInstruction supported accounts i with
    | error cause => exact halike.ofFailure_eq _
    | ok t =>
      dsimp only
      cases hexecute : t.execute today with
      | error error => rfl
      | ok o => exact halike.ofOutcome_eq (Transfer.ofInstruction_eq_ok_iff.1 htransfer) hexecute

/-! ## What it does not see -/

namespace Account

theorem position_lt_length_iff {accounts : List Account} {id : Text} :
    position accounts id < accounts.length ↔ id ∈ accounts.map Account.id := by
  rw [position, List.findIdx_lt_length]
  simp

theorem find?_append (accounts rest : List Account) (id : Text) :
    find? (accounts ++ rest) id = (find? accounts id).or (find? rest id) :=
  List.find?_append

theorem position_append (accounts rest : List Account) (id : Text) :
    position (accounts ++ rest) id = if id ∈ accounts.map Account.id then position accounts id
      else accounts.length + position rest id := by
  rw [position, List.findIdx_append, Nat.add_comm]
  simp only [← position_lt_length_iff, position]

theorem find?_of_notMem {accounts : List Account} {id : Text} (h : id ∉ accounts.map Account.id) :
    find? accounts id = none := by
  rw [← isSome_find?_iff, Bool.not_eq_true, Option.isSome_eq_false_iff,
    Option.isNone_iff_eq_none] at h
  exact h

section

variable {before middle rest : List Account} {id id' : Text}
  (h : id ∈ middle.map Account.id → id ∈ before.map Account.id)

include h

/-- Nothing in the middle is looked up with an id that has occurred before, or does not occur. -/
theorem find?_append_middle :
    find? (before ++ middle ++ rest) id = find? (before ++ rest) id := by
  rw [find?_append, find?_append, find?_append]
  by_cases hbefore : id ∈ before.map Account.id
  · obtain ⟨account, hfound⟩ := Option.isSome_iff_exists.1 (isSome_find?_iff.2 hbefore)
    rw [hfound]
    rfl
  · rw [find?_of_notMem fun hmiddle => hbefore (h hmiddle), Option.or_none]

/-- What stands in the middle moves all later positions by the same. -/
theorem position_append_middle :
    position (before ++ middle ++ rest) id = if id ∈ before.map Account.id then position before id
      else before.length + (middle.length + position rest id) := by
  rw [List.append_assoc, position_append]
  by_cases hbefore : id ∈ before.map Account.id
  · rw [if_pos hbefore, if_pos hbefore]
  · rw [if_neg hbefore, if_neg hbefore, position_append, if_neg fun hmiddle => hbefore (h hmiddle)]

theorem position_append_middle_lt_iff
    (h' : id' ∈ middle.map Account.id → id' ∈ before.map Account.id) :
    position (before ++ middle ++ rest) id < position (before ++ middle ++ rest) id'
      ↔ position (before ++ rest) id < position (before ++ rest) id' := by
  rw [position_append_middle h, position_append_middle h', position_append, position_append]
  by_cases hid : id ∈ before.map Account.id
  · have hlt := position_lt_length_iff.2 hid
    rw [if_pos hid, if_pos hid]
    split <;> omega
  · rw [if_neg hid, if_neg hid]
    split
    · next hid' =>
      have hlt := position_lt_length_iff.2 hid'
      omega
    · omega

end

end Account

/-- An account that comes after some others does not matter to an instruction: the instruction does
not name it, or its id has occurred before. -/
def Instruction.Ignores (i : Instruction) (before : List Account) (account : Account) : Prop :=
  i.Names account.id → account.id ∈ before.map Account.id

/-- Accounts that do not matter can be exchanged for others that do not. -/
theorem Instruction.seesAlike_of_ignores {i : Instruction} {before middle middle' : List Account}
    (h : ∀ account ∈ middle, i.Ignores before account)
    (h' : ∀ account ∈ middle', i.Ignores before account) (rest : List Account) :
    i.SeesAlike (before ++ middle ++ rest) (before ++ middle' ++ rest) := by
  -- No id that the instruction names occurs in the middle for the first time.
  have hlater : ∀ accounts : List Account, (∀ account ∈ accounts, i.Ignores before account) →
      ∀ id, i.Names id → id ∈ accounts.map Account.id → id ∈ before.map Account.id := by
    intro accounts hignores id hnames hmem
    obtain ⟨account, haccount, rfl⟩ := List.mem_map.1 hmem
    exact hignores account haccount hnames
  refine ⟨fun id hnames => ?_, fun _ _ _ => ?_⟩
  · rw [Account.find?_append_middle (hlater middle h id hnames),
      Account.find?_append_middle (hlater middle' h' id hnames)]
  · rw [Account.position_append_middle_lt_iff (hlater middle h _ (Or.inr rfl))
        (hlater middle h _ (Or.inl rfl)),
      Account.position_append_middle_lt_iff (hlater middle' h' _ (Or.inr rfl))
        (hlater middle' h' _ (Or.inl rfl))]

/-! ## Processing -/

/-- One text is answered alike on two lists of accounts that are alike to the instruction, if it is
one. In particular, accounts that do not matter may come in, go or change at any place. -/
theorem process_seesAlike (supported : List Text) (today : Date) (text : Text) :
    (∀ accounts accounts' p q, Request.ofJson p = .ok ⟨accounts, text⟩ →
        Request.ofJson q = .ok ⟨accounts', text⟩ →
        (∀ i, Instruction.parse text = .ok i → i.SeesAlike accounts accounts') →
        process supported today p = process supported today q)
      ∧ ∀ before middle middle' rest p q,
        Request.ofJson p = .ok ⟨before ++ middle ++ rest, text⟩ →
        Request.ofJson q = .ok ⟨before ++ middle' ++ rest, text⟩ →
        (∀ i, Instruction.parse text = .ok i →
          ∀ account ∈ middle ++ middle', i.Ignores before account) →
        process supported today p = process supported today q := by
  have halike : ∀ accounts accounts' p q, Request.ofJson p = .ok ⟨accounts, text⟩ →
      Request.ofJson q = .ok ⟨accounts', text⟩ →
      (∀ i, Instruction.parse text = .ok i → i.SeesAlike accounts accounts') →
      process supported today p = process supported today q := by
    intro accounts accounts' p q hp hq h
    rw [process, process, hp, hq]
    exact Request.respond_congr h supported today
  refine ⟨halike, fun before middle middle' rest p q hp hq h => halike _ _ p q hp hq ?_⟩
  intro i hparse
  exact Instruction.seesAlike_of_ignores
    (fun account hmem => h i hparse account (List.mem_append_left _ hmem))
    (fun account hmem => h i hparse account (List.mem_append_right _ hmem)) rest

/-- Two accounts, the credited one first. -/
def twoAccounts : List Account := [
  ⟨"B".toList, .whole 0, "NGN".toList⟩, ⟨"A".toList, .whole 9, "ngn".toList⟩]

/-- The same two among others, and both a second time with other balances and currencies. -/
def crowdedAccounts : List Account := [
  ⟨"C".toList, .real .nan, "USD".toList⟩, ⟨"B".toList, .whole 0, "NGN".toList⟩,
  ⟨"B".toList, .whole 70, "USD".toList⟩, ⟨"a".toList, .whole 1, "NGN".toList⟩,
  ⟨"A".toList, .whole 9, "ngn".toList⟩, ⟨"A".toList, .real .nan, "NGN".toList⟩]

/-- A transfer between the two. -/
def crowdedText : Text :=
  "debit 9 Ngn from account A for credit to account B".toList

/-- The crowd is not noticed, whether it is compared as a whole or only in part. -/
theorem process_seesAlike_crowded :
    (∀ i, Instruction.parse crowdedText = .ok i → i.SeesAlike crowdedAccounts twoAccounts)
      ∧ (process ["NGN".toList] ⟨2025, 1, 1, by decide⟩
          (Request.toJson ⟨crowdedAccounts, crowdedText⟩)).code = .AP00
      ∧ process ["NGN".toList] ⟨2025, 1, 1, by decide⟩
          (Request.toJson ⟨crowdedAccounts, crowdedText⟩)
        = process ["NGN".toList] ⟨2025, 1, 1, by decide⟩
          (Request.toJson ⟨twoAccounts, crowdedText⟩)
      ∧ process ["NGN".toList] ⟨2025, 1, 1, by decide⟩
          (Request.toJson ⟨twoAccounts ++ crowdedAccounts, crowdedText⟩)
        = process ["NGN".toList] ⟨2025, 1, 1, by decide⟩
          (Request.toJson ⟨twoAccounts, crowdedText⟩) := by
  have hparse : Instruction.parse crowdedText
      = .ok ⟨.debit, "9".toList, "Ngn".toList, "A".toList, "B".toList, none⟩ := by
    decide +kernel
  have halike : ∀ i, Instruction.parse crowdedText = .ok i →
      i.SeesAlike crowdedAccounts twoAccounts := by
    intro i hi
    rw [hparse] at hi
    cases hi
    refine ⟨fun id hnames => ?_, fun _ _ _ => by decide⟩
    rcases hnames with rfl | rfl
    · decide
    · decide
  have hignores : ∀ i, Instruction.parse crowdedText = .ok i →
      ∀ account ∈ crowdedAccounts ++ [], i.Ignores twoAccounts account := by
    intro i hi account _ hnames
    rw [hparse] at hi
    cases hi
    rcases hnames with hid | hid
    · rw [hid]
      decide
    · rw [hid]
      decide
  obtain ⟨hsame, hcrowd⟩ := process_seesAlike ["NGN".toList] ⟨2025, 1, 1, by decide⟩ crowdedText
  refine ⟨halike, by decide +kernel, ?_, ?_⟩
  · exact hsame _ _ _ _ (Request.ofJson_toJson _) (Request.ofJson_toJson _) halike
  · refine hcrowd twoAccounts crowdedAccounts [] [] _ _ (Request.ofJson_toJson _) ?_ hignores
    exact Request.ofJson_toJson _

end Remit
