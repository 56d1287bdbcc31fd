import Remit.Proofs.Entries
import Remit.Proofs.Money.Exact

/-!
# Funds and balances of a settled transfer

What a response of success says about the money, for balances of any kind:

* `process_covers`: the debited account had at least the amount, unless its balance was not a number
  at all, which no comparison refuses;
* `process_moved`: with finite balances, a completed transfer never moves a balance the wrong way,
  and it moves the amount exactly wherever the balances can take it (`Balance.CanTake`). Integers
  always can. A binary64 balance cannot if the amount has more than 53 significant digits, or the
  new balance would have (`process_not_movedExactly`).
-/

namespace Remit

open Text

/-! ## Sufficient funds -/

/-- The funds check refuses every balance that does not cover the amount, except the one that is no
number. -/
theorem Request.covers_of_code {supported : List Text} {today : Date} {request : Request}
    (h : (request.respond supported today).code = .AP00
      ∨ (request.respond supported today).code = .AP02) :
    ∃ debit amount, (request.respond supported today).debitEntry = some debit
      ∧ (request.respond supported today).amount = some amount
      ∧ (debit.balanceBefore.Covers amount ↔ debit.balanceBefore ≠ .real .nan) := by
  obtain ⟨i, t, debit, credit, hchecks, hreports⟩ := reports_of_code h
  refine ⟨debit, t.amount, hreports.debitEntry, hreports.amount, ?_⟩
  rw [hreports.debit_before]
  constructor
  · intro hcovers hnan
    rw [hnan] at hcovers
    exact Balance.not_covers_nan t.amount hcovers
  · intro hnumber
    exact (Balance.isBelow_eq_false_iff.1 hchecks.funds).resolve_right hnumber

/-- What is answered with success was covered by the balance that the debited account had, if that
was a number. -/
theorem process_covers {supported : List Text} {today : Date} {payload : Json}
    (h : (process supported today payload).code = .AP00
      ∨ (process supported today payload).code = .AP02) :
    ∃ debit amount, (process supported today payload).debitEntry = some debit
      ∧ (process supported today payload).amount = some amount
      ∧ (debit.balanceBefore.Covers amount ↔ debit.balanceBefore ≠ .real .nan) := by
  obtain ⟨request, -, hrespond⟩ := Request.ofJson_of_code h
  rw [hrespond] at h ⊢
  exact Request.covers_of_code h

/-- A request with two accounts `A` and `B` of NGN. -/
def requestWith (debit credit : Json) (instruction : Text) : Json :=
  .object [("accounts".toList, .list [
      .object [("id".toList, .text "A".toList), ("balance".toList, debit),
        ("currency".toList, .text "NGN".toList)],
      .object [("id".toList, .text "B".toList), ("balance".toList, credit),
        ("currency".toList, .text "NGN".toList)]]),
    ("instruction".toList, .text instruction)]

/-- A transfer of all that a binary64 balance of 4 holds, on a day still to come. -/
def lastUnitsRequest : Json :=
  requestWith (.real (.finite false (twoPow 1076) (by decide +kernel))) (.integer 0)
    "DEBIT 4 NGN FROM ACCOUNT A FOR CREDIT TO ACCOUNT B ON 2025-02-03".toList

theorem process_covers_scheduled :
    (process ["NGN".toList] ⟨2025, 1, 1, by decide⟩ lastUnitsRequest).code = .AP02
      ∧ ∃ debit amount,
        (process ["NGN".toList] ⟨2025, 1, 1, by decide⟩ lastUnitsRequest).debitEntry = some debit
        ∧ (process ["NGN".toList] ⟨2025, 1, 1, by decide⟩ lastUnitsRequest).amount = some amount
        ∧ (debit.balanceBefore.Covers amount ↔ debit.balanceBefore ≠ .real .nan) := by
  have hcode : (process ["NGN".toList] ⟨2025, 1, 1, by decide⟩ lastUnitsRequest).code = .AP02 := by
    decide +kernel
  exact ⟨hcode, process_covers (Or.inr hcode)⟩

/-- A transfer from a balance that is no number. -/
def noNumberRequest : Json :=
  requestWith (.real .nan) (.integer 0)
    "DEBIT 5 NGN FROM ACCOUNT A FOR CREDIT TO ACCOUNT B".toList

/-- What is no number is not below the amount, so the transfer is completed without the funds. -/
theorem process_not_covers :
    (process ["NGN".toList] ⟨2025, 1, 1, by decide⟩ noNumberRequest).code = .AP00
      ∧ (process ["NGN".toList] ⟨2025, 1, 1, by decide⟩ noNumberRequest).amount = some 5
      ∧ (process ["NGN".toList] ⟨2025, 1, 1, by decide⟩ noNumberRequest).debitEntry
        = some ⟨"A".toList, .real .nan, .real .nan, "NGN".toList⟩
      ∧ ¬ (Balance.real .nan).Covers 5 :=
  ⟨by decide +kernel, by decide +kernel, by decide +kernel, Balance.not_covers_nan 5⟩

/-! ## Balances before and after -/

/-- Every balance is a finite number. -/
def AllFinite (accounts : List Account) : Prop :=
  ∀ account ∈ accounts, ∃ u, account.balance.units? = some u

theorem allFinite_pair {a b : Account} (ha : ∃ u, a.balance.units? = some u)
    (hb : ∃ u, b.balance.units? = some u) : AllFinite [a, b] :=
  List.forall_mem_cons.2 ⟨ha, List.forall_mem_singleton.2 hb⟩

/-- The amount has left one account and reached the other, with nothing lost or gained. Balances are
compared as exact numbers. -/
def MovedExactly (amount : Int) (debit credit : Entry) : Prop :=
  ∃ d d' c c' : Int, debit.balanceBefore.units? = some d ∧ debit.balance.units? = some d'
    ∧ credit.balanceBefore.units? = some c ∧ credit.balance.units? = some c'
    ∧ d' = d - amount * unitsPerOne ∧ c' = c + amount * unitsPerOne
    ∧ d' < d ∧ c < c' ∧ d' + c' = d + c

/-- No balance has moved the wrong way: the debited one has not risen, nor fallen below zero, and
the credited one has not fallen. The latter may have left the finite range. -/
def MovedForward (debit credit : Entry) : Prop :=
  ∃ d d' c : Int, debit.balanceBefore.units? = some d ∧ debit.balance.units? = some d'
    ∧ credit.balanceBefore.units? = some c ∧ 0 ≤ d' ∧ d' ≤ d
    ∧ (credit.balance = .real (.infinite false) ∨ ∃ c', credit.balance.units? = some c' ∧ c ≤ c')

section

variable {amount : Int} {debit credit : Entry} {d c : Int}
  (hdebit : debit.balanceBefore.debit amount = .ok debit.balance)
  (hcredit : credit.balanceBefore.credit amount = .ok credit.balance)
  (hd : debit.balanceBefore.units? = some d) (hc : credit.balanceBefore.units? = some c)
  (hpos : 0 < amount)

include hdebit hcredit hd hc hpos

theorem movedExactly_of_canTake (hdebitTakes : debit.balanceBefore.CanTake (-amount))
    (hcreditTakes : credit.balanceBefore.CanTake amount) : MovedExactly amount debit credit := by
  have hunits : 0 < amount * (unitsPerOne : Int) :=
    Int.mul_pos hpos (Int.natCast_pos.2 (twoPow_pos 1074))
  exact ⟨d, d - amount * unitsPerOne, c, c + amount * unitsPerOne, hd,
    Balance.units?_debit_of_canTake hdebit hd hdebitTakes, hc,
    Balance.units?_credit_of_canTake hcredit hc hcreditTakes, rfl, rfl, by omega, by omega,
    by omega⟩

theorem movedForward_of_covers (hcovers : debit.balanceBefore.Covers amount) :
    MovedForward debit credit := by
  obtain ⟨d', hd', hnonneg, hle⟩ :=
    Balance.units?_debit hdebit hd hpos (Balance.le_of_covers hcovers hd)
  exact ⟨d, d', c, hd, hd', hc, hnonneg, hle, Balance.units?_credit hcredit hc hpos⟩

end

theorem Request.moved_of_code {supported : List Text} {today : Date} {request : Request}
    (h : (request.respond supported today).code = .AP00) (hfinite : AllFinite request.accounts) :
    ∃ debit credit amount, (request.respond supported today).debitEntry = some debit
      ∧ (request.respond supported today).creditEntry = some credit
      ∧ (request.respond supported today).amount = some amount ∧ MovedForward debit credit
      ∧ (debit.balanceBefore.CanTake (-amount) → credit.balanceBefore.CanTake amount →
        MovedExactly amount debit credit) := by
  obtain ⟨i, t, debit, credit, hchecks, hreports⟩ := reports_of_code (Or.inl h)
  obtain ⟨d, hd⟩ := hfinite _ (List.mem_of_find?_eq_some hchecks.debit)
  obtain ⟨c, hc⟩ := hfinite _ (List.mem_of_find?_eq_some hchecks.credit)
  have hpos := readAmount_pos hchecks.amount
  have hfunds := hchecks.funds
  rw [← hreports.debit_before] at hd hfunds
  rw [← hreports.credit_before] at hc
  rcases hreports.balances with ⟨hpending, -⟩ | ⟨-, hdebit, hcredit⟩
  · exact absurd (h.symm.trans hpending) (by decide)
  · have hcovers : debit.balanceBefore.Covers t.amount := by
      refine (Balance.isBelow_eq_false_iff.1 hfunds).resolve_right fun hnan => ?_
      rw [hnan] at hd
      cases hd
    exact ⟨debit, credit, t.amount, hreports.debitEntry, hreports.creditEntry, hreports.amount,
      movedForward_of_covers hdebit hcredit hd hc hpos hcovers,
      movedExactly_of_canTake hdebit hcredit hd hc hpos⟩

/-- With finite balances, a completed transfer moves no balance the wrong way, and moves the amount
exactly if both balances can take it. -/
theorem process_moved {supported : List Text} {today : Date} {payload : Json}
    (h : (process supported today payload).code = .AP00) :
    ∃ request, Request.ofJson payload = .ok request ∧ (AllFinite request.accounts →
      ∃ debit credit amount, (process supported today payload).debitEntry = some debit
        ∧ (process supported today payload).creditEntry = some credit
        ∧ (process supported today payload).amount = some amount ∧ MovedForward debit credit
        ∧ (debit.balanceBefore.CanTake (-amount) → credit.balanceBefore.CanTake amount →
          MovedExactly amount debit credit)) := by
  obtain ⟨request, hjson, hrespond⟩ := Request.ofJson_of_code (Or.inl h)
  rw [hrespond] at h ⊢
  exact ⟨request, hjson, Request.moved_of_code h⟩

/-- A transfer of 100 from a binary64 balance of 100.5 to an integer one. -/
def halfLeftRequest : Json :=
  requestWith (.real (.finite false (201 * twoPow 1073) (by decide +kernel))) (.integer 0)
    "DEBIT 100 NGN FROM ACCOUNT A FOR CREDIT TO ACCOUNT B".toList

/-- One half is left, exactly. -/
theorem process_moved_halfLeft :
    (process ["NGN".toList] ⟨2025, 1, 1, by decide⟩ halfLeftRequest).code = .AP00
      ∧ ∃ debit credit,
        (process ["NGN".toList] ⟨2025, 1, 1, by decide⟩ halfLeftRequest).debitEntry = some debit
        ∧ (process ["NGN".toList] ⟨2025, 1, 1, by decide⟩ halfLeftRequest).creditEntry
          = some credit
        ∧ MovedExactly 100 debit credit := by
  have hcode : (process ["NGN".toList] ⟨2025, 1, 1, by decide⟩ halfLeftRequest).code = .AP00 := by
    decide +kernel
  have hdebit : (process ["NGN".toList] ⟨2025, 1, 1, by decide⟩ halfLeftRequest).debitEntry
      = some ⟨"A".toList, .real (.finite false (twoPow 1073) (by decide +kernel)),
        .real (.finite false (201 * twoPow 1073) (by decide +kernel)), "NGN".toList⟩ := by
    decide +kernel
  have hcredit : (process ["NGN".toList] ⟨2025, 1, 1, by decide⟩ halfLeftRequest).creditEntry
      = some ⟨"B".toList, .whole 100, .whole 0, "NGN".toList⟩ := by
    decide +kernel
  have hamount : (process ["NGN".toList] ⟨2025, 1, 1, by decide⟩ halfLeftRequest).amount
      = some 100 := by
    decide +kernel
  obtain ⟨request, hjson, hmoved⟩ := process_moved hcode
  have hfinite : AllFinite request.accounts := by
    cases hjson
    exact allFinite_pair ⟨_, rfl⟩ ⟨_, rfl⟩
  obtain ⟨debit, credit, amount, hd, hc, ha, -, hexact⟩ := hmoved hfinite
  rw [hdebit, Option.some.injEq] at hd
  rw [hcredit, Option.some.injEq] at hc
  rw [hamount, Option.some.injEq] at ha
  subst hd hc ha
  refine ⟨hcode, _, _, hdebit, hcredit, hexact ⟨by decide +kernel, fun u hu => ?_⟩ trivial⟩
  cases hu
  decide +kernel

/-- A transfer of `2 ^ 53 + 1` from a binary64 balance of `2 ^ 54` to an integer one. What is to be
left, `2 ^ 53 - 1`, is a binary64 number. -/
def longAmountRequest : Json :=
  requestWith (.real (.finite false (twoPow 1128) (by decide +kernel))) (.integer 0)
    "DEBIT 9007199254740993 NGN FROM ACCOUNT A FOR CREDIT TO ACCOUNT B".toList

/-- The amount has 54 significant digits. It is rounded to `2 ^ 53` where it is taken away and not
where it is added, so that there is one unit more than before. -/
theorem process_not_movedExactly :
    (∃ request, Request.ofJson longAmountRequest = .ok request ∧ AllFinite request.accounts)
      ∧ (process ["NGN".toList] ⟨2025, 1, 1, by decide⟩ longAmountRequest).code = .AP00
      ∧ ¬ ∃ debit credit amount,
        (process ["NGN".toList] ⟨2025, 1, 1, by decide⟩ longAmountRequest).debitEntry = some debit
        ∧ (process ["NGN".toList] ⟨2025, 1, 1, by decide⟩ longAmountRequest).creditEntry
          = some credit
        ∧ (process ["NGN".toList] ⟨2025, 1, 1, by decide⟩ longAmountRequest).amount = some amount
        ∧ MovedExactly amount debit credit := by
  have hdebit : (process ["NGN".toList] ⟨2025, 1, 1, by decide⟩ longAmountRequest).debitEntry
      = some ⟨"A".toList, .real (.finite false (twoPow 1127) (by decide +kernel)),
        .real (.finite false (twoPow 1128) (by decide +kernel)), "NGN".toList⟩ := by
    decide +kernel
  have hamount : (process ["NGN".toList] ⟨2025, 1, 1, by decide⟩ longAmountRequest).amount
      = some 9007199254740993 := by
    decide +kernel
  refine ⟨⟨_, rfl, allFinite_pair ⟨_, rfl⟩ ⟨_, rfl⟩⟩, by decide +kernel, ?_⟩
  rintro ⟨debit, credit, amount, hd, -, ha, d, d', c, c', hbefore, hafter, -, -, hleft, -⟩
  rw [hdebit, Option.some.injEq] at hd
  rw [hamount, Option.some.injEq] at ha
  subst hd ha
  cases hbefore
  cases hafter
  exact absurd hleft (by decide +kernel)

end Remit
