import Remit.Proofs.Decision

/-!
# Scheduled transfers fall due

A request is processed on some day, and the day is looked at only once: when a transfer that has
passed every check is carried out or scheduled. So the response on a later day is the same, with one
exception. A transfer that is scheduled today may be completed later, and then the response tells
the same as before, but the amount has moved (`Response.FallsDue`).

The reason is that a date which is still to come on a later day is still to come today
(`IsAhead.of_not_before`), however it is counted on past the end of its month.
-/

namespace Remit

open Text

/-! ## Days that have come -/

/-- What comes after a later day comes after today. -/
theorem Date.Before.of_not_before {today later date : Date} (h : ¬ later.Before today)
    (hdate : later.Before date) : today.Before date := by
  unfold Date.Before at h hdate ⊢
  omega

/-- A date that is still to come on a later day is still to come today. -/
theorem IsAhead.of_not_before {today later : Date} (h : ¬ later.Before today)
    {executeBy : Option Text} (hahead : IsAhead later executeBy) : IsAhead today executeBy := by
  obtain ⟨t, ht, date, hnames, hbefore⟩ := hahead
  exact ⟨t, ht, date, hnames, hbefore.of_not_before h⟩

/-! ## Responses before and after -/

/-- An entry whose whole balance has changed. -/
def Entry.plus (change : Int) (e : Entry) : Entry :=
  match e.balance with
  | .whole n => { e with balance := .whole (n + change) }
  | .real _ => e

theorem Entry.id_plus (change : Int) (e : Entry) : (e.plus change).id = e.id := by
  unfold Entry.plus
  split
  · rfl
  · rfl

namespace Response

/-- The entries of a response after the amount has moved from the debit account to the credit
account. -/
def moved (amount : Int) (r : Response) : List Entry :=
  r.accounts.map fun e => e.plus (if r.debitAccount = some e.id then -amount else amount)

/-- A response tells of a scheduled transfer between whole balances, and a later one of the same
transfer as completed. They differ in the status with its reason and code, and in the two balances,
between which the amount has moved. -/
structure FallsDue (amount : Int) (r later : Response) : Prop where
  tells : r.amount = some amount
  amount_pos : 0 < amount
  pending : r.status = .pending ∧ r.code = .AP02
  listed : r.ListsBoth
  unmoved : ∀ e ∈ r.accounts, ∃ n, e.balance = .whole n ∧ e.balanceBefore = .whole n
  completed : later = { r with
    status := .successful, reason := "Transaction executed successfully", code := .AP00
    accounts := r.moved amount }

/-- Entries that keep their ids keep their order. -/
theorem map_inRequestOrder {f : Entry → Entry} (hf : ∀ e, (f e).id = e.id)
    (accounts : List Account) (debit credit : Entry) :
    (inRequestOrder accounts [debit, credit]).map f
      = inRequestOrder accounts [f debit, f credit] := by
  rw [inRequestOrder_pair, inRequestOrder_pair, hf, hf]
  split
  · rfl
  · rfl

variable {t : Transfer} {d c : Int}

/-- Moving the amount in the response to a scheduled transfer gives the entries of the completed
one. -/
theorem moved_scheduled (hdebit : t.debitAccount.balance = .whole d)
    (hcredit : t.creditAccount.balance = .whole c)
    (hne : t.debitAccount.id ≠ t.creditAccount.id) (accounts : List Account) :
    (ofOutcome t.scheduled accounts).moved t.amount
      = (ofOutcome (t.completed (.whole (d - t.amount)) (.whole (c + t.amount)))
          accounts).accounts := by
  -- The amount is taken from the entry with the id of the debit account, and only from that.
  have hother : ¬ some t.debitAccount.id = some t.creditAccount.id :=
    fun h => hne (Option.some.inj h)
  simp only [moved, ofOutcome, Transfer.scheduled, Transfer.completed]
  rw [map_inRequestOrder fun e => Entry.id_plus _ e]
  simp only [changedEntry, if_neg hother, if_true, Entry.plus, hdebit, hcredit, Int.sub_eq_add_neg]

/-- Completing a transfer between whole balances after it was scheduled. -/
theorem fallsDue_ofOutcome (hdebit : t.debitAccount.balance = .whole d)
    (hcredit : t.creditAccount.balance = .whole c) (hpos : 0 < t.amount)
    (hne : t.debitAccount.id ≠ t.creditAccount.id) (accounts : List Account) :
    FallsDue t.amount (ofOutcome t.scheduled accounts)
      (ofOutcome (t.completed (.whole (d - t.amount)) (.whole (c + t.amount))) accounts) where
  tells := rfl
  amount_pos := hpos
  pending := ⟨rfl, rfl⟩
  listed := ⟨_, _, perm_inRequestOrder _ _, hne, rfl, rfl⟩
  unmoved := by
    intro e he
    rcases mem_inRequestOrder.1 he with rfl | rfl
    · exact ⟨d, hdebit, hdebit⟩
    · exact ⟨c, hcredit, hcredit⟩
  completed := by
    rw [moved_scheduled hdebit hcredit hne accounts]
    rfl

end Response

/-! ## Requests -/

namespace Request

variable {supported : List Text} {request : Request} {i : Instruction} {t : Transfer}

/-- What is not read, and what fails a check, is answered alike on all days. -/
theorem respond_of_not_checksOut
    (h : ∀ i t, Instruction.parse request.instruction = .ok i →
      ¬ Transfer.ChecksOut supported request.accounts i t) (today later : Date) :
    request.respond supported later = request.respond supported today := by
  cases hparse : Instruction.parse request.instruction with
  | error cause => simp only [respond, run, hparse]
  | ok i =>
    cases htransfer : Transfer.ofInstruction supported request.accounts i with
    | error cause => rw [respond_of_refused hparse htransfer, respond_of_refused hparse htransfer]
    | ok t => exact absurd (Transfer.ofInstruction_eq_ok_iff.1 htransfer) (h i t hparse)

/-- A transfer whose date is still to come on both days, or on none of them. -/
theorem respond_of_ahead_iff {today later : Date}
    (hparse : Instruction.parse request.instruction = .ok i)
    (hchecks : Transfer.ChecksOut supported request.accounts i t)
    (h : IsAhead today t.executeBy ↔ IsAhead later t.executeBy) :
    request.respond supported later = request.respond supported today := by
  have hdate : ∀ date ∈ t.executeBy, isDateText date = true :=
    hchecks.executeBy ▸ (Instruction.wellFormed_of_parse hparse).isDateText
  have hfuture : isFuture t.executeBy later = isFuture t.executeBy today := by
    rcases isFuture_cases hdate today with ⟨htoday, hahead⟩ | ⟨htoday, hdue⟩
    · rcases isFuture_cases hdate later with ⟨hlater, -⟩ | ⟨-, hdue⟩
      · rw [htoday, hlater]
      · exact absurd (h.1 hahead) hdue
    · rcases isFuture_cases hdate later with ⟨-, hahead⟩ | ⟨hlater, -⟩
      · exact absurd (h.2 hahead) hdue
      · rw [htoday, hlater]
  rw [respond, respond, run_of_checksOut hparse hchecks, run_of_checksOut hparse hchecks,
    Transfer.execute, Transfer.execute, hfuture]

/-- A transfer between whole balances whose date comes between two days. -/
theorem fallsDue_respond {today later : Date} (hwhole : AllWhole request.accounts)
    (hparse : Instruction.parse request.instruction = .ok i)
    (hchecks : Transfer.ChecksOut supported request.accounts i t)
    (hahead : IsAhead today t.executeBy) (hdue : ¬ IsAhead later t.executeBy) :
    Response.FallsDue t.amount (request.respond supported today)
      (request.respond supported later) := by
  obtain ⟨d, hd⟩ := hwhole _ (List.mem_of_find?_eq_some hchecks.debit)
  obtain ⟨c, hc⟩ := hwhole _ (List.mem_of_find?_eq_some hchecks.credit)
  have htoday : t.execute today = .ok t.scheduled := by
    cases Transfer.execution_of_parse hparse hchecks today with
    | scheduled _ hexecute => exact hexecute
    | completed hdue _ _ _ _ => exact absurd hahead hdue
    | overflowed hdue _ _ => exact absurd hahead hdue
  have hlater : t.execute later
      = .ok (t.completed (.whole (d - t.amount)) (.whole (c + t.amount))) := by
    cases Transfer.execution_of_parse hparse hchecks later with
    | scheduled hahead _ => exact absurd hahead hdue
    | completed _ _ hdebit hcredit hexecute =>
      rw [hd] at hdebit
      rw [hc] at hcredit
      cases hdebit
      cases hcredit
      exact hexecute
    | overflowed _ hlarge _ =>
      exact absurd hlarge (Transfer.not_overflows_of_allWhole hwhole hchecks)
  rw [respond_of_execute hparse hchecks htoday, respond_of_execute hparse hchecks hlater]
  exact Response.fallsDue_ofOutcome hd hc (readAmount_pos hchecks.amount) hchecks.distinct
    request.accounts

end Request

/-! ## Processing -/

/-- A response that falls due is a different one afterwards. -/
theorem Response.FallsDue.ne {amount : Int} {r later : Response} (h : r.FallsDue amount later) :
    later ≠ r := by
  intro heq
  have hcode := h.pending.2
  rw [← heq, h.completed] at hcode
  cases hcode

/-- Passing time changes a response in one way only: the transfer that it tells of as scheduled is
completed. In particular a response that does not tell of a scheduled transfer is the same on every
later day. The change comes about exactly when the transfer passes every check and its date is
still to come on the one day, but not on the other. -/
theorem process_later {supported : List Text} {today later : Date} {payload : Json}
    {request : Request} (hjson : Request.ofJson payload = .ok request)
    (hwhole : AllWhole request.accounts) (hlater : ¬ later.Before today) :
    (process supported later payload = process supported today payload
        ∨ ∃ amount, (process supported today payload).FallsDue amount
          (process supported later payload))
      ∧ ((process supported today payload).code ≠ .AP02 →
        process supported later payload = process supported today payload)
      ∧ ((∃ amount, (process supported today payload).FallsDue amount
          (process supported later payload))
        ↔ ∃ i t, Instruction.parse request.instruction = .ok i
          ∧ Transfer.ChecksOut supported request.accounts i t
          ∧ IsAhead today i.executeBy ∧ ¬ IsAhead later i.executeBy) := by
  have hprocess : ∀ day, process supported day payload = request.respond supported day := by
    intro day
    rw [process, hjson]
  rw [hprocess, hprocess]
  by_cases hcomes : ∃ i t, Instruction.parse request.instruction = .ok i
      ∧ Transfer.ChecksOut supported request.accounts i t
      ∧ IsAhead today i.executeBy ∧ ¬ IsAhead later i.executeBy
  · -- The date comes between the two days.
    have hfalls : ∃ amount, (request.respond supported today).FallsDue amount
        (request.respond supported later) := by
      obtain ⟨i, t, hparse, hchecks, hahead, hdue⟩ := hcomes
      rw [← hchecks.executeBy] at hahead hdue
      exact ⟨t.amount, Request.fallsDue_respond hwhole hparse hchecks hahead hdue⟩
    refine ⟨Or.inr hfalls, fun hcode => ?_, iff_of_true hfalls hcomes⟩
    obtain ⟨amount, h⟩ := hfalls
    exact absurd h.pending.2 hcode
  · -- Nothing comes between them, so that the later response is the earlier one.
    have hsame : request.respond supported later = request.respond supported today := by
      by_cases hpasses : ∃ i t, Instruction.parse request.instruction = .ok i
          ∧ Transfer.ChecksOut supported request.accounts i t
      · obtain ⟨i, t, hparse, hchecks⟩ := hpasses
        refine Request.respond_of_ahead_iff hparse hchecks ⟨fun hahead => ?_, fun hahead =>
          hahead.of_not_before hlater⟩
        by_contra hdue
        rw [hchecks.executeBy] at hahead hdue
        exact hcomes ⟨i, t, hparse, hchecks, hahead, hdue⟩
      · exact Request.respond_of_not_checksOut
          (fun i t hparse hchecks => hpasses ⟨i, t, hparse, hchecks⟩) today later
    have hnot : ¬ ∃ amount, (request.respond supported today).FallsDue amount
        (request.respond supported later) := by
      rintro ⟨amount, h⟩
      exact h.ne hsame
    exact ⟨Or.inl hsame, fun _ => hsame, iff_of_false hnot hcomes⟩

/-- A transfer on a day that February does not have, which is counted on to the second of March. -/
def marchRequest : Request where
  accounts := [⟨"B".toList, .whole (-3), "NGN".toList⟩, ⟨"A".toList, .whole 40, "ngn".toList⟩]
  instruction := "DEBIT 30 ngn FROM ACCOUNT A FOR CREDIT TO ACCOUNT B ON 2023-02-30".toList

/-- It is scheduled on the first of March and falls due on the next day. -/
theorem process_later_march :
    AllWhole marchRequest.accounts
      ∧ ¬ (⟨2023, 3, 2, by decide⟩ : Date).Before ⟨2023, 3, 1, by decide⟩
      ∧ ∃ amount, (process ["NGN".toList] ⟨2023, 3, 1, by decide⟩ marchRequest.toJson).FallsDue
        amount (process ["NGN".toList] ⟨2023, 3, 2, by decide⟩ marchRequest.toJson) := by
  have hwhole : AllWhole marchRequest.accounts := by
    simp [AllWhole, marchRequest]
  have hlater : ¬ (⟨2023, 3, 2, by decide⟩ : Date).Before ⟨2023, 3, 1, by decide⟩ := by decide
  refine ⟨hwhole, hlater, ?_⟩
  obtain hsame | hfalls := (process_later (Request.ofJson_toJson marchRequest) hwhole hlater).1
  · have hcode : (process ["NGN".toList] ⟨2023, 3, 2, by decide⟩ marchRequest.toJson).code
        ≠ (process ["NGN".toList] ⟨2023, 3, 1, by decide⟩ marchRequest.toJson).code := by
      decide +kernel
    exact absurd (congrArg Response.code hsame) hcode
  · exact hfalls

end Remit
