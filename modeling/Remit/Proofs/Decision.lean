import Remit.Proofs.Execution
import Remit.Proofs.Ledger
import Remit.Proofs.Request
import Remit.Proofs.Shape

/-!
# Every request is decided

Two stages read a text that an earlier one has let through: the checks read the amount, the
execution reads the date. Neither is surprised by what it gets. Every text is an amount or is
refused as one (`readAmount_decided`), and every date that an instruction is read with names a day
or lies before all days (`Instruction.isDateDecided_of_parse`).

This leaves the amounts that are too large for a binary64 balance. Among whole balances there is no
such amount, so that `SY03` means a malformed instruction and nothing else (`process_decided`).
-/

namespace Remit

open Text

/-- However long a text is, it is refused as an amount with `AM01`, or it is one. -/
theorem readAmount_decided (t : Text) :
    (∃ cause, readAmount t = .error cause ∧ codeOf .validate cause = .AM01)
      ∨ ∃ amount, readAmount t = .ok amount := by
  obtain ⟨cause, -, hrefused⟩ | ⟨amount, hread, -⟩ := readAmount_cases t
  · exact Or.inl ⟨cause, hrefused, codeOf_of_readAmount hrefused⟩
  · exact Or.inr ⟨amount, hread⟩

namespace Instruction

/-- The day of an instruction is worked out without an error, and so is whether it is still to
come. -/
structure IsDateDecided (today : Date) (i : Instruction) : Prop where
  day : ∀ date ∈ i.executeBy, ∃ day, executionDate date = .ok day
  ahead : ∃ ahead, isFuture i.executeBy today = .ok ahead

/-- The dates that instructions are read with need not be days of the calendar, but the execution
gets along with all of them. -/
theorem isDateDecided_of_parse {t : Text} {i : Instruction} (h : parse t = .ok i) (today : Date) :
    i.IsDateDecided today := by
  have hdate := (wellFormed_of_parse h).isDateText
  refine ⟨fun date hmem => ?_, ?_⟩
  · rcases executionDate_cases (hdate date hmem) with ⟨-, hnone⟩ | ⟨day, -, hsome⟩
    · exact ⟨none, hnone⟩
    · exact ⟨some day, hsome⟩
  · rcases isFuture_cases hdate today with ⟨hahead, -⟩ | ⟨hdue, -⟩
    · exact ⟨true, hahead⟩
    · exact ⟨false, hdue⟩

end Instruction

/-! ## Whole balances -/

theorem Transfer.not_overflows_of_allWhole {supported : List Text} {accounts : List Account}
    {i : Instruction} {t : Transfer} (hwhole : AllWhole accounts)
    (h : ChecksOut supported accounts i t) : ¬ t.Overflows := by
  obtain ⟨m, hm⟩ := hwhole _ (List.mem_of_find?_eq_some h.debit)
  obtain ⟨n, hn⟩ := hwhole _ (List.mem_of_find?_eq_some h.credit)
  rintro ⟨-, hreal | hreal⟩
  · exact Balance.not_isReal_whole m (hm ▸ hreal)
  · exact Balance.not_isReal_whole n (hn ▸ hreal)

namespace Request

/-- A request is decided: its response is one that its stages lead to and no fault, and it is
reported as malformed only if its instruction is. -/
structure IsDecided (supported : List Text) (today : Date) (request : Request) : Prop where
  run : request.run supported today = .ok (request.respond supported today)
  malformed : (request.respond supported today).code = .SY03
    ↔ Instruction.parse request.instruction = .error .malformedInstruction
  amount : ∀ i, Instruction.parse request.instruction = .ok i →
    (request.respond supported today).code = .AM01
      ∨ ∃ amount, readAmount i.amount = .ok amount
        ∧ (request.respond supported today).amount = some amount

variable {supported : List Text} {today : Date} {request : Request}

theorem isDecided_of_unread {cause : Cause}
    (hparse : Instruction.parse request.instruction = .error cause)
    (hrun : request.run supported today
      = .ok (.ofFailure (Failure.ofCause .parse cause).classify none request.accounts)) :
    request.IsDecided supported today := by
  have hmalformed : ∀ cause ∈ readingCauses,
      codeOf .parse cause = .SY03 ↔ cause = .malformedInstruction := by
    decide
  refine ⟨by rw [respond_of_run hrun, hrun], ?_, fun i hi => ?_⟩
  · rw [respond_of_run hrun, Response.code_ofFailure, hparse, Except.error.injEq]
    exact hmalformed cause (Instruction.parse_error_mem hparse)
  · rw [hparse] at hi
    cases hi

/-- A request whose instruction is read is decided if its response is one of the stages, has another
code than `SY03`, and tells the amount. -/
theorem isDecided_of_parse {i : Instruction} {response : Response}
    (hparse : Instruction.parse request.instruction = .ok i)
    (hrun : request.run supported today = .ok response) (hcode : response.code ≠ .SY03)
    (hamount : response.code = .AM01
      ∨ ∃ amount, readAmount i.amount = .ok amount ∧ response.amount = some amount) :
    request.IsDecided supported today := by
  refine ⟨by rw [respond_of_run hrun, hrun], ?_, fun j hj => ?_⟩
  · rw [respond_of_run hrun, hparse]
    exact ⟨fun hSY03 => absurd hSY03 hcode, fun h => by cases h⟩
  · rw [hparse] at hj
    cases hj
    rw [respond_of_run hrun]
    exact hamount

/-- Every request with whole balances is decided. -/
theorem isDecided (supported : List Text) (today : Date) (hwhole : AllWhole request.accounts) :
    request.IsDecided supported today := by
  cases request.course supported today with
  | unread hparse hrun => exact isDecided_of_unread hparse hrun
  | @refused i cause hparse hrefused hrun =>
    obtain ⟨hmem, hread, -, -⟩ := hrefused.of_code
    have hcodes : ∀ code ∈ refusalCodes, code ≠ .SY03 := by
      decide
    rw [Response.ofFailure_of_readable hrefused.isUnreadable] at hrun
    refine isDecided_of_parse hparse hrun (hcodes _ hmem) ?_
    by_cases hAM01 : codeOf .validate cause = .AM01
    · exact Or.inl hAM01
    · obtain ⟨amount, hamount⟩ := hread hAM01
      exact Or.inr ⟨amount, hamount, (leadingInteger_of_readAmount hamount).1⟩
  | @faulted i t error hparse hchecks hexecute hrun =>
    cases Transfer.execution_of_parse hparse hchecks today with
    | scheduled hahead hok =>
      rw [hok] at hexecute
      cases hexecute
    | completed hdue hfits hdebit hcredit hok =>
      rw [hok] at hexecute
      cases hexecute
    | overflowed hdue hlarge hfault =>
      exact absurd hlarge (Transfer.not_overflows_of_allWhole hwhole hchecks)
  | @settled i t o hparse hchecks hexecute hrun =>
    rcases Transfer.execute_eq_ok_iff.1 hexecute with ⟨-, rfl⟩ | ⟨-, hcomplete⟩
    · exact isDecided_of_parse hparse hrun Code.noConfusion
        (Or.inr ⟨t.amount, hchecks.amount, rfl⟩)
    · obtain ⟨debit, credit, -, -, rfl⟩ := Transfer.complete_eq_ok_iff.1 hcomplete
      exact isDecided_of_parse hparse hrun Code.noConfusion
        (Or.inr ⟨t.amount, hchecks.amount, rfl⟩)

end Request

/-! ## Processing -/

/-- Among whole balances nothing unexpected comes up: the response is the one that the stages lead
to, and it has the code `SY03` only for a malformed instruction. Whatever date an instruction was
read with is decided, and whatever text stands for the amount is one or is refused as one. -/
theorem process_decided {supported : List Text} {today : Date} {payload : Json} {request : Request}
    (hjson : Request.ofJson payload = .ok request) (hwhole : AllWhole request.accounts) :
    request.run supported today = .ok (process supported today payload)
      ∧ ((process supported today payload).code = .SY03
        ↔ Instruction.parse request.instruction = .error .malformedInstruction)
      ∧ (∀ i, Instruction.parse request.instruction = .ok i →
        (process supported today payload).code = .AM01
          ∨ ∃ amount, readAmount i.amount = .ok amount
            ∧ (process supported today payload).amount = some amount)
      ∧ (∀ t i, Instruction.parse t = .ok i → i.IsDateDecided today)
      ∧ ∀ t, (∃ cause, readAmount t = .error cause ∧ codeOf .validate cause = .AM01)
        ∨ ∃ amount, readAmount t = .ok amount := by
  have hrespond : process supported today payload = request.respond supported today := by
    rw [process, hjson]
  obtain ⟨hrun, hmalformed, hamount⟩ := Request.isDecided supported today hwhole
  rw [hrespond]
  exact ⟨hrun, hmalformed, hamount, fun t i h => Instruction.isDateDecided_of_parse h today,
    readAmount_decided⟩

/-- A transfer on the last day that there is. -/
def lastDayRequest : Request where
  accounts := [⟨"A".toList, .whole 7, "NGN".toList⟩, ⟨"B".toList, .whole (-7), "NGN".toList⟩]
  instruction := "CREDIT 7 NGN TO ACCOUNT B FOR DEBIT FROM ACCOUNT A ON 9999-12-31".toList

/-- The date is decided, though no day comes after it. -/
theorem process_decided_lastDay :
    AllWhole lastDayRequest.accounts
      ∧ lastDayRequest.run ["NGN".toList] ⟨2025, 1, 2, by decide⟩
        = .ok (process ["NGN".toList] ⟨2025, 1, 2, by decide⟩ lastDayRequest.toJson)
      ∧ (process ["NGN".toList] ⟨2025, 1, 2, by decide⟩ lastDayRequest.toJson).code = .AP02 := by
  have hwhole : AllWhole lastDayRequest.accounts := by
    simp [AllWhole, lastDayRequest]
  exact ⟨hwhole, (process_decided (Request.ofJson_toJson lastDayRequest) hwhole).1,
    by decide +kernel⟩

end Remit
