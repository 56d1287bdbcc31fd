import Remit.Proofs.Atomicity
import Remit.Proofs.Entries
import Remit.Proofs.Json.Grammar
import Remit.Proofs.Refusal
import Remit.Proofs.Request

/-!
# Numbers that can be sent

A number can be sent if it can be written as JSON: an integer of at most `digitLimit` digits, or a
binary64 number that is finite (`Balance.IsInRange`). A JSON text has only such numbers
(`isWritable_of_spells`), so the balances of a request are among them. A response repeats balances
and amounts that were read, and what is left after a debit lies between zero and the balance before.
Only a credit can leave the range, and `isWritable_respond_iff` says that this is the one response
that cannot be sent.
-/

namespace Remit

open Text

/-! ## Digits -/

theorem length_natText_le_iff (n : Nat) {k : Nat} (hk : 0 < k) :
    (natText n).length ≤ k ↔ n < tenPow k :=
  Nat.length_toDigits_le_iff (by decide) hk

theorem natAbs_signed (negative : Bool) (size : Nat) : (signed negative size).natAbs = size := by
  cases negative with
  | true => simp [signed]
  | false => simp [signed]

/-- A number that is read from few enough digits has few enough digits. -/
theorem decimalValue_lt_tenPow {t : Text} (h : ∀ c ∈ t, c.isDigit = true) {k : Nat}
    (hlimit : t.length ≤ k) : decimalValue t < tenPow k :=
  Nat.lt_of_lt_of_le (decimalValue_lt h) (Nat.pow_le_pow_right (by decide) hlimit)

theorem natAbs_leadingInteger_lt {t : Text} {n : Int} (h : leadingInteger t = some n) :
    n.natAbs < tenPow digitLimit := by
  unfold leadingInteger at h
  dsimp only at h
  split at h
  · cases h
  · next hdigits =>
    rw [Bool.or_eq_true, not_or, decide_eq_true_eq] at hdigits
    rw [Option.some.injEq] at h
    rw [← h, natAbs_signed]
    exact decimalValue_lt_tenPow (fun c hc => List.mem_takeWhile_imp hc)
      (Nat.le_of_not_lt hdigits.2)

/-! ## JSON values -/

namespace Json

theorem isWritable_integer_iff (n : Int) :
    (integer n).isWritable = true ↔ n.natAbs < tenPow digitLimit := by
  rw [isWritable, decide_eq_true_eq]
  exact length_natText_le_iff n.natAbs (by decide)

theorem isWritable_real_iff (x : Double) :
    (real x).isWritable = true ↔ ∃ u, x.units? = some u := by
  cases x <;> simp [isWritable, Double.units?]

theorem areItemsWritable_iff {items : List Json} :
    areItemsWritable items = true ↔ ∀ item ∈ items, item.isWritable = true := by
  induction items with
  | nil => simp [areItemsWritable]
  | cons item items ih => rw [areItemsWritable, Bool.and_eq_true, ih, List.forall_mem_cons]

theorem areMembersWritable_iff {members : List (Text × Json)} :
    areMembersWritable members = true ↔ ∀ member ∈ members, member.2.isWritable = true := by
  induction members with
  | nil => simp [areMembersWritable]
  | cons member members ih =>
    rw [areMembersWritable, Bool.and_eq_true, ih, List.forall_mem_cons]

theorem natAbs_integer_lt {t : Text} {n : Numeral} (h : Numeral.Spells t n)
    (hlimit : n.whole.length ≤ digitLimit) : n.integer.natAbs < tenPow digitLimit := by
  obtain ⟨hwhole, -, -⟩ := h
  rw [Numeral.integer, natAbs_signed]
  exact decimalValue_lt_tenPow (Numeral.isDigits_of_isWhole hwhole).2 hlimit

/-- The numbers of a JSON text can be written again. -/
theorem isWritable_of_spells {standIn : Char} {depth : Nat} {t : Text} {v : Json}
    (h : Spells standIn depth t v) : v.isWritable = true := by
  induction h with
  | padded hbefore hafter h ih => exact ih
  | integer h hinteger hlimit => exact (isWritable_integer_iff _).2 (natAbs_integer_lt h hlimit)
  | real h hinteger hfinite =>
    exact (isWritable_real_iff _).2 (Option.isSome_iff_exists.1 hfinite)
  | list hitems h ih =>
    refine areItemsWritable_iff.2 fun value hvalue => ?_
    obtain ⟨item, hitem, rfl⟩ := List.mem_map.1 hvalue
    exact ih item hitem
  | object hmembers hnames h ih =>
    refine areMembersWritable_iff.2 fun pair hpair => ?_
    obtain ⟨member, hmember, rfl⟩ := List.mem_map.1 hpair
    exact ih member hmember
  | _ => rfl

end Json

/-! ## Requests -/

/-- A balance can be sent: an integer of few enough digits, or a finite binary64 number. -/
def Balance.IsInRange : Balance → Prop
  | .whole n => n.natAbs < tenPow digitLimit
  | .real x => ∃ u, x.units? = some u

theorem Balance.isWritable_toJson_iff (b : Balance) : b.toJson.isWritable = true ↔ b.IsInRange := by
  cases b with
  | whole n => exact Json.isWritable_integer_iff n
  | real x => exact Json.isWritable_real_iff x

theorem Json.isInRange_of_checkAccount {v : Json} {account : Account}
    (h : checkAccount v = .ok account) (hv : v.isWritable = true) : account.balance.IsInRange := by
  unfold checkAccount at h
  split at h
  · next members =>
    obtain ⟨⟨id, balance, currency⟩, hchecks, rfl⟩ := Checked.map_eq_ok h
    obtain ⟨-, hchecks⟩ := Checked.both_eq_ok hchecks
    obtain ⟨hbalance, -⟩ := Checked.both_eq_ok hchecks
    obtain ⟨entry, hmem, hcheck⟩ := Checked.member_eq_ok hbalance
    have hentry := areMembersWritable_iff.1 hv entry hmem
    unfold checkBalance at hcheck
    split at hcheck
    · next n heq =>
      cases hcheck
      rw [heq] at hentry
      exact (isWritable_integer_iff n).1 hentry
    · next x heq =>
      cases hcheck
      rw [heq] at hentry
      exact (isWritable_real_iff x).1 hentry
    · cases hcheck
  · cases h

/-- The balances of a request that came as a JSON text are in range. -/
theorem Request.isInRange_of_ofJson {v : Json} {request : Request} (h : ofJson v = .ok request)
    (hv : v.isWritable = true) : ∀ account ∈ request.accounts, account.balance.IsInRange := by
  unfold ofJson at h
  split at h
  · next members =>
    obtain ⟨⟨accounts, instruction⟩, hchecks, rfl⟩ := Checked.map_eq_ok h
    obtain ⟨haccounts, -⟩ := Checked.both_eq_ok hchecks
    obtain ⟨entry, hmem, hcheck⟩ := Checked.member_eq_ok haccounts
    have hentry := Json.areMembersWritable_iff.1 hv entry hmem
    unfold Json.checkAccounts at hcheck
    split at hcheck
    · next items heq =>
      rw [heq] at hentry
      intro account haccount
      obtain ⟨item, hitem, haccount⟩ := Checked.items_eq_ok hcheck account haccount
      exact Json.isInRange_of_checkAccount haccount (Json.areItemsWritable_iff.1 hentry item hitem)
    · cases hcheck
  · cases h

/-! ## Responses -/

/-- Every number of a response can be sent. -/
structure Response.IsInRange (r : Response) : Prop where
  amount : ∀ amount ∈ r.amount, amount.natAbs < tenPow digitLimit
  balances : ∀ e ∈ r.accounts, e.balance.IsInRange ∧ e.balanceBefore.IsInRange

theorem Entry.isWritable_toJson_iff (e : Entry) :
    e.toJson.isWritable = true ↔ e.balance.IsInRange ∧ e.balanceBefore.IsInRange := by
  rw [← Balance.isWritable_toJson_iff, ← Balance.isWritable_toJson_iff]
  simp [Entry.toJson, Json.ofMembers, Json.isWritable, Json.areMembersWritable]

theorem Json.isWritable_ofOption {α : Type} (f : α → Json) (x : Option α) :
    (ofOption f x).isWritable = true ↔ ∀ a ∈ x, (f a).isWritable = true := by
  cases x with
  | none => simp [ofOption, isWritable]
  | some a => simp [ofOption]

/-- A completed transfer has left the credited account with more than can be sent. -/
def Response.CreditLeavesRange (r : Response) : Prop :=
  r.code = .AP00 ∧ ∃ credit, r.creditEntry = some credit ∧ ¬ credit.balance.IsInRange

theorem Response.creditLeavesRange_iff {r : Response} {credit : Entry}
    (h : r.creditEntry = some credit) :
    r.CreditLeavesRange ↔ r.code = .AP00 ∧ ¬ credit.balance.IsInRange := by
  simp [CreditLeavesRange, h]

/-- A response can be written as JSON if its numbers can. -/
theorem Response.isWritable_toJson_iff (r : Response) :
    r.toJson.isWritable = true ↔ r.IsInRange := by
  have hamount : (Json.ofOption .integer r.amount).isWritable = true
      ↔ ∀ amount ∈ r.amount, amount.natAbs < tenPow digitLimit := by
    rw [Json.isWritable_ofOption]
    exact forall₂_congr fun amount _ => Json.isWritable_integer_iff amount
  have haccounts : (Json.list (r.accounts.map Entry.toJson)).isWritable = true
      ↔ ∀ e ∈ r.accounts, e.balance.IsInRange ∧ e.balanceBefore.IsInRange := by
    rw [Json.isWritable, Json.areItemsWritable_iff, List.forall_mem_map]
    exact forall₂_congr fun e _ => e.isWritable_toJson_iff
  have htext : ∀ x : Option Text, (Json.ofOption .text x).isWritable = true := fun x =>
    (Json.isWritable_ofOption _ _).2 fun _ _ => rfl
  have hform : (Json.ofOption (fun form => .text form.word) r.form).isWritable = true :=
    (Json.isWritable_ofOption _ _).2 fun _ _ => rfl
  have hword : ∀ s : String, (Json.word s).isWritable = true := fun _ => rfl
  rw [toJson, Json.ofMembers, Json.isWritable, Json.areMembersWritable_iff, List.forall_mem_map]
  simp only [List.forall_mem_cons, List.not_mem_nil, false_implies, implies_true, and_true,
    true_and, htext, hform, hword, hamount, haccounts]
  constructor
  · rintro ⟨hamounts, hbalances⟩
    exact ⟨hamounts, hbalances⟩
  · exact fun h => ⟨h.amount, h.balances⟩

/-- What is left after a covered debit is in range. -/
theorem Balance.isInRange_debit {b after : Balance} {amount : Int} (h : b.debit amount = .ok after)
    (hb : b.IsInRange) (hpos : 0 < amount) (hfunds : b.isBelow amount = false) :
    after.IsInRange := by
  rcases Balance.debit_eq_ok h with ⟨n, rfl, rfl⟩ | ⟨x, y, rfl, rfl, -⟩
  · rw [isBelow, decide_eq_false_iff_not] at hfunds
    rw [IsInRange] at hb ⊢
    omega
  · obtain ⟨u, hu⟩ := hb
    have hcovers : (Balance.real x).Covers amount := by
      refine (isBelow_eq_false_iff.1 hfunds).resolve_right ?_
      rintro ⟨⟩
      cases hu
    obtain ⟨a, ha, -⟩ := units?_debit h hu hpos (le_of_covers hcovers hu)
    exact ⟨a, ha⟩

/-- The amount that a refusal repeats is read from a text. -/
theorem Response.leadingInteger_of_amount_ofFailure {failure : Failure}
    {parsed : Option Instruction} {accounts : List Account} {amount : Int}
    (h : amount ∈ (ofFailure failure parsed accounts).amount) :
    ∃ t, leadingInteger t = some amount := by
  unfold ofFailure at h
  cases parsed with
  | none => cases h
  | some i =>
    dsimp only at h
    split at h
    · cases h
    · exact ⟨i.amount, h⟩

namespace Request

/-- The amount that a response tells is in range. -/
theorem natAbs_amount_lt (supported : List Text) (today : Date) (request : Request) :
    ∀ amount ∈ (request.respond supported today).amount, amount.natAbs < tenPow digitLimit := by
  intro amount hamount
  obtain ⟨failure, parsed, hrefused⟩ | ⟨i, t, o, -, hchecks, hexecute, haccepted⟩ :=
    respond_cases supported today request
  · rw [hrefused] at hamount
    obtain ⟨t, hread⟩ := Response.leadingInteger_of_amount_ofFailure hamount
    exact natAbs_leadingInteger_lt hread
  · have hkept : o.amount = t.amount := by
      rcases Transfer.execute_eq_ok_iff.1 hexecute with ⟨-, rfl⟩ | ⟨-, hcomplete⟩
      · rfl
      · obtain ⟨debit, credit, -, -, rfl⟩ := Transfer.complete_eq_ok_iff.1 hcomplete
        rfl
    rw [haccepted] at hamount
    cases hamount
    rw [hkept]
    exact natAbs_leadingInteger_lt (leadingInteger_of_readAmount hchecks.amount).1

/-- With balances in range, nothing leaves the range but a credit. -/
theorem isInRange_respond_iff {request : Request} (supported : List Text) (today : Date)
    (h : ∀ account ∈ request.accounts, account.balance.IsInRange) :
    (request.respond supported today).IsInRange
      ↔ ¬ (request.respond supported today).CreditLeavesRange := by
  constructor
  · rintro hrange ⟨-, credit, hcredit, hout⟩
    exact hout (hrange.balances credit (List.mem_of_find?_eq_some hcredit)).1
  · intro hstays
    refine ⟨natAbs_amount_lt supported today request, fun e he => ?_⟩
    -- Without a completed transfer every balance is one of the request.
    by_cases hcode : (request.respond supported today).code = .AP00
    · obtain ⟨i, t, o, -, hchecks, hexecute, hrespond⟩ := outcome_of_code (Or.inl hcode)
      rw [hrespond] at hcode hstays he
      rcases Transfer.execute_eq_ok_iff.1 hexecute with ⟨-, rfl⟩ | ⟨-, hcomplete⟩
      · cases hcode
      · obtain ⟨debit, credit, hdebit, hcredit, rfl⟩ := Transfer.complete_eq_ok_iff.1 hcomplete
        have hdebitBefore := h _ (List.mem_of_find?_eq_some hchecks.debit)
        have hcreditBefore := h _ (List.mem_of_find?_eq_some hchecks.credit)
        rcases Response.mem_inRequestOrder.1 he with rfl | rfl
        · exact ⟨Balance.isInRange_debit hdebit hdebitBefore
            (readAmount_pos hchecks.amount) hchecks.funds, hdebitBefore⟩
        · refine ⟨?_, hcreditBefore⟩
          by_contra hout
          exact hstays ⟨rfl, _, Response.creditEntry_ofOutcome hchecks.distinct request.accounts,
            hout⟩
    · obtain ⟨hsuccess, -⟩ | ⟨-, hunchanged⟩ := carries_or_isUnchanged supported today request
      · exact absurd hsuccess hcode
      · obtain ⟨account, hfind, hafter, hbefore⟩ := hunchanged e he
        rw [hafter, hbefore]
        exact ⟨h account (List.mem_of_find?_eq_some hfind),
          h account (List.mem_of_find?_eq_some hfind)⟩

end Request

/-- The response to a value that came as a JSON text can be sent, unless a credit leaves the
range. -/
theorem isInRange_process_iff {payload : Json} (h : payload.isWritable = true)
    (supported : List Text) (today : Date) :
    (process supported today payload).IsInRange
      ↔ ¬ (process supported today payload).CreditLeavesRange := by
  unfold process
  cases hjson : Request.ofJson payload with
  | ok request =>
    exact Request.isInRange_respond_iff supported today (Request.isInRange_of_ofJson hjson h)
  | error faults =>
    have hrange : (Response.unexpected (faultReason faults)).IsInRange := by
      constructor
      · intro amount hamount
        cases hamount
      · intro e he
        cases he
    refine iff_of_true hrange ?_
    rintro ⟨⟨⟩, -⟩

end Remit
