import Mathlib.Algebra.Ring.Int.Defs
import Remit.Proofs.Session

/-!
# The ledger of a session

With whole balances, the responses of a session are its books: `ledger_run` says that after any
number of steps each balance is what it was at first, less the amounts that completed transfers took
from the account, plus those that they gave to it. Only the first account with an id takes part, and
no step changes how much there is of any currency.

The invariant is `Moves`, which says position by position by how much the balances have changed. A
step moves the amount of its transfer (`moves_next`), and moves add up (`Moves.trans`).
-/

namespace Remit

open Text

/-! ## What responses say -/

namespace Response

/-- What a completed transfer took from the account with an id. -/
def taken (r : Response) (id : Text) : Int :=
  if r.code = .AP00 ∧ r.debitAccount = some id then r.amount.getD 0 else 0

/-- What a completed transfer gave to the account with an id. -/
def given (r : Response) (id : Text) : Int :=
  if r.code = .AP00 ∧ r.creditAccount = some id then r.amount.getD 0 else 0

theorem taken_of_code {r : Response} (h : r.code ≠ .AP00) (id : Text) : r.taken id = 0 :=
  if_neg fun hcode => h hcode.1

theorem given_of_code {r : Response} (h : r.code ≠ .AP00) (id : Text) : r.given id = 0 :=
  if_neg fun hcode => h hcode.1

end Response

/-- What was taken from an account in all. -/
def debited (responses : List Response) (id : Text) : Int :=
  (responses.map (·.taken id)).sum

/-- What was given to an account in all. -/
def credited (responses : List Response) (id : Text) : Int :=
  (responses.map (·.given id)).sum

/-! ## Moves -/

namespace Balance

theorem isBelow_whole (n amount : Int) : (whole n).isBelow amount = decide (n < amount) := rfl

theorem debit_whole (n amount : Int) : (whole n).debit amount = .ok (.whole (n - amount)) := rfl

theorem credit_whole (n amount : Int) : (whole n).credit amount = .ok (.whole (n + amount)) := rfl

end Balance

namespace Account

/-- The whole units that an account holds. -/
def units (account : Account) : Int :=
  match account.balance with
  | .whole n => n
  | .real _ => 0

/-- The account with some more whole units. A binary64 balance stays as it is. -/
def plus (amount : Int) (account : Account) : Account :=
  match account.balance with
  | .whole n => { account with balance := .whole (n + amount) }
  | .real _ => account

theorem plus_of_whole {account : Account} {n : Int} (h : account.balance = .whole n)
    (amount : Int) : account.plus amount = { account with balance := .whole (n + amount) } := by
  rw [plus, h]

@[simp] theorem id_plus (amount : Int) (account : Account) :
    (account.plus amount).id = account.id := by
  unfold plus
  split <;> rfl

@[simp] theorem plus_zero (account : Account) : account.plus 0 = account := by
  obtain ⟨id, balance, currency⟩ := account
  cases balance with
  | whole n => simp [plus]
  | real value => rfl

theorem plus_plus (account : Account) (m n : Int) :
    (account.plus m).plus n = account.plus (m + n) := by
  obtain ⟨id, balance, currency⟩ := account
  cases balance with
  | whole units => simp [plus, Int.add_assoc]
  | real value => rfl

end Account

/-- The first account with each id has changed by some amount, and all others are as before. -/
def Moves (change : Text → Int) (before after : List Account) : Prop :=
  ∀ i : Nat, after[i]? = before[i]?.map fun account =>
    if Account.position before account.id = i then account.plus (change account.id) else account

namespace Moves

theorem refl (accounts : List Account) : Moves (fun _ => 0) accounts accounts := by
  intro i
  simp

theorem map_id {change : Text → Int} {before after : List Account} (h : Moves change before after) :
    after.map Account.id = before.map Account.id := by
  apply List.ext_getElem?
  intro i
  rw [List.getElem?_map, List.getElem?_map, h i, Option.map_map]
  cases before[i]? with
  | none => rfl
  | some account =>
    rw [Option.map_some, Option.map_some, Function.comp_apply]
    split
    · rw [Account.id_plus]
    · rfl

/-- Moves add up. -/
theorem trans {f g : Text → Int} {first second third : List Account}
    (hf : Moves f first second) (hg : Moves g second third) :
    Moves (fun id => f id + g id) first third := by
  have hposition := Account.position_congr hf.map_id
  intro i
  rw [hg i, hf i, Option.map_map]
  cases first[i]? with
  | none => rfl
  | some account =>
    rw [Option.map_some, Option.map_some, Function.comp_apply]
    by_cases hi : Account.position first account.id = i
    · rw [if_pos hi, Account.id_plus, hposition, if_pos hi, if_pos hi, Account.plus_plus]
    · rw [if_neg hi, hposition, if_neg hi, if_neg hi]

end Moves

/-- Every balance is a whole number. -/
def AllWhole (accounts : List Account) : Prop :=
  ∀ account ∈ accounts, ∃ n, account.balance = .whole n

theorem AllWhole.moves {change : Text → Int} {before after : List Account}
    (hwhole : AllWhole before) (h : Moves change before after) : AllWhole after := by
  intro account hmem
  obtain ⟨i, hi⟩ := List.mem_iff_getElem?.1 hmem
  rw [h i, Option.map_eq_some_iff] at hi
  obtain ⟨old, hold, rfl⟩ := hi
  obtain ⟨n, hn⟩ := hwhole old (List.mem_of_getElem? hold)
  split
  · rw [Account.plus_of_whole hn]
    exact ⟨_, rfl⟩
  · exact ⟨n, hn⟩

/-- Writing a whole balance to an account is a move. -/
theorem moves_setBalance {accounts : List Account} {account : Account}
    (h : Account.find? accounts account.id = some account) {b : Int}
    (hb : account.balance = .whole b) (n : Int) :
    Moves (fun id => if account.id = id then n else 0) accounts
      (Account.setBalance account.id (.whole (b + n)) accounts) := by
  intro i
  rw [Account.getElem?_setBalance]
  rw [Account.find?_eq_getElem?] at h
  cases hother : accounts[i]? with
  | none => rfl
  | some other =>
    rw [Option.map_some, Option.map_some, Option.some.injEq]
    dsimp only
    by_cases hi : Account.position accounts account.id = i
    · rw [hi, hother, Option.some.injEq] at h
      rw [if_pos hi, h, if_pos hi, if_pos rfl, Account.plus_of_whole hb]
    · -- If this is the first account with its id, the id is another one.
      rw [if_neg hi]
      split
      · next hfirst =>
        have hid : account.id ≠ other.id := fun heq => hi (heq ▸ hfirst)
        rw [if_neg hid, Account.plus_zero]
      · rfl

/-- Taking an amount from one account and giving it to another is a move. -/
theorem moves_transfer {accounts : List Account} {debit credit : Account}
    (hdebit : Account.find? accounts debit.id = some debit)
    (hcredit : Account.find? accounts credit.id = some credit) (hne : debit.id ≠ credit.id)
    {bd bc : Int} (hbd : debit.balance = .whole bd) (hbc : credit.balance = .whole bc) (n : Int) :
    Moves (fun id => (if debit.id = id then -n else 0) + (if credit.id = id then n else 0)) accounts
      (Account.setBalance credit.id (.whole (bc + n))
        (Account.setBalance debit.id (.whole (bd - n)) accounts)) := by
  have htaken := moves_setBalance hdebit hbd (-n)
  rw [← Int.sub_eq_add_neg] at htaken
  apply htaken.trans
  apply moves_setBalance _ hbc
  rw [Account.find?_setBalance_of_ne hne, hcredit]

/-! ## Totals -/

/-- How many whole units of a currency there are. Currencies are the same if their upper cases
are. -/
def total (currency : Text) (accounts : List Account) : Int :=
  ((accounts.filter fun account => upper account.currency = currency).map Account.units).sum

/-- A change of one balance changes the total of its currency as much. -/
theorem total_setBalance {accounts : List Account} {account : Account}
    (h : Account.find? accounts account.id = some account) (n : Int) (currency : Text) :
    total currency (Account.setBalance account.id (.whole n) accounts)
      = total currency accounts
        + if upper account.currency = currency then n - account.units else 0 := by
  induction accounts with
  | nil => cases h
  | cons head rest ih =>
    rw [Account.setBalance]
    by_cases hid : head.id = account.id
    · -- The head is the account itself, since it is the first with the id.
      rw [Account.find?, List.find?_cons_of_pos (by simpa using hid), Option.some.injEq] at h
      rw [if_pos hid, ← h]
      by_cases hcurrency : upper head.currency = currency
      · simp only [total, List.filter_cons, hcurrency, decide_true, if_true, List.map_cons,
          List.sum_cons]
        show n + _ = _
        omega
      · simp only [total, List.filter_cons, hcurrency, decide_false]
        simp
    · rw [Account.find?, List.find?_cons_of_neg (by simpa using hid)] at h
      have hrest := ih h
      rw [if_neg hid]
      simp only [total, List.filter_cons] at hrest ⊢
      split
      · rw [List.map_cons, List.sum_cons, List.map_cons, List.sum_cons, hrest]
        omega
      · exact hrest

/-- Moving an amount between accounts of one currency changes no total. -/
theorem total_transfer {accounts : List Account} {debit credit : Account}
    (hdebit : Account.find? accounts debit.id = some debit)
    (hcredit : Account.find? accounts credit.id = some credit) (hne : debit.id ≠ credit.id)
    {bd bc : Int} (hbd : debit.balance = .whole bd) (hbc : credit.balance = .whole bc)
    (hcurrency : upper debit.currency = upper credit.currency) (n : Int) (currency : Text) :
    total currency (Account.setBalance credit.id (.whole (bc + n))
        (Account.setBalance debit.id (.whole (bd - n)) accounts))
      = total currency accounts := by
  have hcredit' : Account.find? (Account.setBalance debit.id (.whole (bd - n)) accounts) credit.id
      = some credit := by
    rw [Account.find?_setBalance_of_ne hne, hcredit]
  have hbdUnits : debit.units = bd := by
    rw [Account.units, hbd]
  have hbcUnits : credit.units = bc := by
    rw [Account.units, hbc]
  rw [total_setBalance hcredit', total_setBalance hdebit, hcurrency, hbdUnits, hbcUnits]
  split
  · omega
  · omega

/-! ## Steps and runs -/

namespace Session

/-- A step either completes no transfer and changes nothing, or moves the amount that its response
tells between two accounts of one currency. -/
theorem next_of_allWhole (supported : List Text) {accounts : List Account}
    (hwhole : AllWhole accounts) (step : Step) :
    ((respond supported accounts step).code ≠ .AP00 ∧ next supported accounts step = accounts)
      ∨ ∃ debit credit bd bc n, Account.find? accounts debit.id = some debit
        ∧ Account.find? accounts credit.id = some credit ∧ debit.id ≠ credit.id
        ∧ debit.balance = .whole bd ∧ credit.balance = .whole bc
        ∧ upper debit.currency = upper credit.currency ∧ 0 < n ∧ n ≤ bd
        ∧ (respond supported accounts step).code = .AP00
        ∧ (respond supported accounts step).amount = some n
        ∧ (respond supported accounts step).debitAccount = some debit.id
        ∧ (respond supported accounts step).creditAccount = some credit.id
        ∧ next supported accounts step = Account.setBalance credit.id (.whole (bc + n))
          (Account.setBalance debit.id (.whole (bd - n)) accounts) := by
  obtain hrefused | ⟨i, t, debit, credit, hchecks, hdebit, hcredit, hrespond, hnext⟩ :=
    next_cases supported accounts step
  · exact Or.inl hrefused
  · right
    obtain ⟨bd, hbd⟩ := hwhole _ (List.mem_of_find?_eq_some hchecks.debit)
    obtain ⟨bc, hbc⟩ := hwhole _ (List.mem_of_find?_eq_some hchecks.credit)
    have hfunds := hchecks.funds
    rw [hbd, Balance.isBelow_whole, decide_eq_false_iff_not, Int.not_lt] at hfunds
    rw [hbd, Balance.debit_whole, Except.ok.injEq] at hdebit
    rw [hbc, Balance.credit_whole, Except.ok.injEq] at hcredit
    rw [← hdebit, ← hcredit] at hnext
    refine ⟨t.debitAccount, t.creditAccount, bd, bc, t.amount, ?_, ?_, hchecks.distinct, hbd, hbc,
      hchecks.debit_currency.trans hchecks.credit_currency.symm, readAmount_pos hchecks.amount,
      hfunds, ?_, ?_, ?_, ?_, hnext⟩
    · rw [Account.id_of_find? hchecks.debit, hchecks.debit]
    · rw [Account.id_of_find? hchecks.credit, hchecks.credit]
    all_goals rw [hrespond]; rfl

/-- A step moves what its response says. -/
theorem moves_next (supported : List Text) {accounts : List Account} (hwhole : AllWhole accounts)
    (step : Step) :
    Moves (fun id => (respond supported accounts step).given id
      - (respond supported accounts step).taken id) accounts (next supported accounts step) := by
  rcases next_of_allWhole supported hwhole step with ⟨hcode, hnext⟩ |
    ⟨debit, credit, bd, bc, n, hdebit, hcredit, hne, hbd, hbc, -, -, -, hcode, hamount, hdebitId,
      hcreditId, hnext⟩
  · have hzero : (fun id => (respond supported accounts step).given id
        - (respond supported accounts step).taken id) = fun _ => 0 := by
      funext id
      rw [Response.given_of_code hcode, Response.taken_of_code hcode, Int.sub_zero]
    rw [hzero, hnext]
    exact Moves.refl accounts
  · have hchange : (fun id => (respond supported accounts step).given id
        - (respond supported accounts step).taken id)
        = fun id => (if debit.id = id then -n else 0) + (if credit.id = id then n else 0) := by
      funext id
      simp only [Response.given, Response.taken, hcode, hamount, hdebitId, hcreditId, true_and,
        Option.some.injEq, Option.getD_some]
      split <;> split <;> omega
    rw [hchange, hnext]
    exact moves_transfer hdebit hcredit hne hbd hbc n

theorem total_next (supported : List Text) {accounts : List Account} (hwhole : AllWhole accounts)
    (step : Step) (currency : Text) :
    total currency (next supported accounts step) = total currency accounts := by
  rcases next_of_allWhole supported hwhole step with ⟨-, hnext⟩ |
    ⟨debit, credit, bd, bc, n, hdebit, hcredit, hne, hbd, hbc, hcurrency, -, -, -, -, -, -, hnext⟩
  · rw [hnext]
  · rw [hnext, total_transfer hdebit hcredit hne hbd hbc hcurrency]

/-- The responses of a run. -/
def responses (trace : List (Response × List Account)) : List Response :=
  trace.map Prod.fst

/-- The accounts after the last step of a run that began with the given ones. -/
def final (accounts : List Account) (trace : List (Response × List Account)) : List Account :=
  (trace.getLast?.map Prod.snd).getD accounts

theorem final_cons (accounts : List Account) (entry : Response × List Account)
    (trace : List (Response × List Account)) :
    final accounts (entry :: trace) = final entry.2 trace := by
  rw [final, final, List.getLast?_cons]
  cases trace.getLast? with
  | none => rfl
  | some last => rfl

/-- A run moves what its responses say, each in turn. -/
theorem moves_run (supported : List Text) (steps : List Step) {accounts : List Account}
    (hwhole : AllWhole accounts) :
    Moves (fun id => credited (responses (run supported accounts steps)) id
        - debited (responses (run supported accounts steps)) id)
      accounts (final accounts (run supported accounts steps)) := by
  induction steps generalizing accounts with
  | nil => exact Moves.refl accounts
  | cons step rest ih =>
    have hstep := moves_next supported hwhole step
    -- The invariant carries over: balances stay whole, and the rest moves further amounts.
    have hmoves := hstep.trans (ih (hwhole.moves hstep))
    rw [run, final_cons]
    have hchange : ∀ r : Response, ∀ rs : List Response, ∀ id,
        credited (r :: rs) id - debited (r :: rs) id
          = (r.given id - r.taken id) + (credited rs id - debited rs id) := by
      intro r rs id
      simp only [credited, debited, List.map_cons, List.sum_cons]
      omega
    simpa only [responses, List.map_cons, hchange] using hmoves

theorem total_run (supported : List Text) (steps : List Step) {accounts : List Account}
    (hwhole : AllWhole accounts) (currency : Text) :
    total currency (final accounts (run supported accounts steps)) = total currency accounts := by
  induction steps generalizing accounts with
  | nil => rfl
  | cons step rest ih =>
    have hrest := ih (hwhole.moves (moves_next supported hwhole step))
    rw [run, final_cons, hrest, total_next supported hwhole]

/-- Every completed transfer tells a positive amount. -/
theorem amount_of_code_run (supported : List Text) (steps : List Step) {accounts : List Account}
    (hwhole : AllWhole accounts) :
    ∀ r ∈ responses (run supported accounts steps), r.code = .AP00 →
      ∃ n, r.amount = some n ∧ 0 < n := by
  induction steps generalizing accounts with
  | nil => exact fun r hr => by cases hr
  | cons step rest ih =>
    intro r hr hcode
    rcases List.mem_cons.1 hr with rfl | hr
    · rcases next_of_allWhole supported hwhole step with ⟨hrefused, -⟩ |
        ⟨-, -, -, -, n, -, -, -, -, -, -, hpos, -, -, hamount, -⟩
      · exact absurd hcode hrefused
      · exact ⟨n, hamount, hpos⟩
    · exact ih (hwhole.moves (moves_next supported hwhole step)) r hr hcode

end Session

/-! ## The ledger -/

/-- The accounts before and after some steps agree with the responses. -/
structure LedgerHolds (before after : List Account) (responses : List Response) : Prop where
  length_eq : after.length = before.length
  /-- The balance of the first account with an id. -/
  first : ∀ i account n, before[i]? = some account → Account.position before account.id = i →
    account.balance = .whole n →
    after[i]? = some { account with
      balance := .whole (n - debited responses account.id + credited responses account.id) }
  /-- Later accounts with the same id are left alone. -/
  later : ∀ i account, before[i]? = some account → Account.position before account.id ≠ i →
    after[i]? = some account
  /-- Completed transfers tell their amounts. -/
  amounts : ∀ r ∈ responses, r.code = .AP00 → ∃ n, r.amount = some n ∧ 0 < n
  conserved : ∀ currency, total currency after = total currency before

/-- After any number of steps, each balance is what it was at first, less what completed transfers
took from the account, plus what they gave to it; and there is as much of each currency as there
was. -/
theorem ledger_run (supported : List Text) (accounts : List Account) (steps : List Session.Step)
    (hwhole : AllWhole accounts) (k : Nat) :
    LedgerHolds accounts
      (Session.final accounts ((Session.run supported accounts steps).take k))
      (Session.responses ((Session.run supported accounts steps).take k)) := by
  rw [Session.take_run]
  have hmoves := Session.moves_run supported (steps.take k) hwhole
  refine ⟨?_, ?_, ?_, Session.amount_of_code_run supported (steps.take k) hwhole,
    Session.total_run supported (steps.take k) hwhole⟩
  · simpa using congrArg List.length hmoves.map_id
  · intro i account n hi hposition hn
    rw [hmoves i, hi, Option.map_some, if_pos hposition, Account.plus_of_whole hn]
    congr 3
    show n + (_ - _) = _
    omega
  · intro i account hi hposition
    rw [hmoves i, hi, Option.map_some, if_neg hposition]

/-- Accounts of which the first and the last have the same id. -/
def duplicateIds : List Account := [
  ⟨"A".toList, .whole 100, "NGN".toList⟩, ⟨"B".toList, .whole 5, "ngn".toList⟩,
  ⟨"A".toList, .whole 7, "NGN".toList⟩]

/-- A transfer that is completed, one that the funds do not cover, one to the same account, and one
the other way. -/
def mixedSteps : List Session.Step := [
  ⟨"DEBIT 30 NGN FROM ACCOUNT A FOR CREDIT TO ACCOUNT B".toList, ⟨2025, 1, 1, by decide⟩⟩,
  ⟨"DEBIT 71 NGN FROM ACCOUNT A FOR CREDIT TO ACCOUNT B".toList, ⟨2025, 1, 2, by decide⟩⟩,
  ⟨"DEBIT 1 NGN FROM ACCOUNT A FOR CREDIT TO ACCOUNT A".toList, ⟨2025, 1, 2, by decide⟩⟩,
  ⟨"CREDIT 4 NGN TO ACCOUNT A FOR DEBIT FROM ACCOUNT B".toList, ⟨2025, 1, 3, by decide⟩⟩]

/-- The second account `A` keeps its 7 units throughout. -/
theorem ledger_run_duplicateIds :
    Session.final duplicateIds ((Session.run ["NGN".toList] duplicateIds mixedSteps).take 4)
        = [⟨"A".toList, .whole 74, "NGN".toList⟩, ⟨"B".toList, .whole 31, "ngn".toList⟩,
          ⟨"A".toList, .whole 7, "NGN".toList⟩]
      ∧ LedgerHolds duplicateIds
        (Session.final duplicateIds ((Session.run ["NGN".toList] duplicateIds mixedSteps).take 4))
        (Session.responses ((Session.run ["NGN".toList] duplicateIds mixedSteps).take 4)) := by
  have hwhole : AllWhole duplicateIds := by
    simp [AllWhole, duplicateIds]
  exact ⟨by decide +kernel, ledger_run ["NGN".toList] duplicateIds mixedSteps hwhole 4⟩

end Remit
