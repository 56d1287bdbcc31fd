import Remit.Proofs.Refusal
import Remit.Proofs.Request
import Remit.Proofs.Text.Upper

/-!
# Which currencies are supported

The currency of an instruction is put in upper case before it is looked for among the supported
ones, and these are compared with it as they are spelled. So letters of either case may be used in
an instruction, but not in the list: only an entry that is in upper case serves the currencies that
differ from it in the case of their letters (`process_supports`).

The list as a whole means the same ignoring case if the upper case of each entry is an entry too.
`process_refusesListed` shows a list where it is not: an instruction is refused for the currency
that stands in the list, letter by letter.
-/

namespace Remit

open Text

variable {supported : List Text} {today : Date}

/-! ## The check of the currency -/

theorem readCurrency_of_notMem {t : Text} (h : upper t ∉ supported) :
    readCurrency supported t = .error .unsupportedCurrency := by
  cases hread : readCurrency supported t with
  | ok currency => exact absurd (readCurrency_eq_ok_iff.1 hread).1.2 h
  | error cause => rw [readCurrency_eq_error hread]

/-- If amount and currency are accepted, it is for another cause that an instruction is refused. -/
theorem Transfer.Refused.codeOf_ne_CU02 {accounts : List Account} {i : Instruction} {cause : Cause}
    (h : Refused supported accounts i cause) {amount : Int} {currency : Text}
    (hamount : readAmount i.amount = .ok amount)
    (hcurrency : readCurrency supported i.currency = .ok currency) :
    codeOf .validate cause ≠ .CU02 := by
  cases h with
  | amount hrefused =>
    rw [hamount] at hrefused
    cases hrefused
  | currency _ hrefused =>
    rw [hcurrency] at hrefused
    cases hrefused
  | accountNotFound | sameAccount | currencyMismatch | insufficientFunds => decide

/-- An outcome is reported with a code of success. -/
theorem Transfer.code_of_execute {t : Transfer} {o : Outcome} (h : t.execute today = .ok o) :
    o.code = .AP00 ∨ o.code = .AP02 := by
  rcases execute_eq_ok_iff.1 h with ⟨-, rfl⟩ | ⟨-, hcomplete⟩
  · exact Or.inr rfl
  · obtain ⟨debit, credit, -, -, rfl⟩ := complete_eq_ok_iff.1 hcomplete
    exact Or.inl rfl

/-! ## The code for it -/

namespace Request

variable {request : Request} {i : Instruction} {amount : Int}
  (hparse : Instruction.parse request.instruction = .ok i)
  (hamount : readAmount i.amount = .ok amount)

include hparse hamount

theorem code_of_unsupported (h : upper i.currency ∉ supported) :
    (request.respond supported today).code = .CU02 := by
  have hrefused : Transfer.ofInstruction supported request.accounts i
      = .error .unsupportedCurrency :=
    Transfer.ofInstruction_eq_error_iff.2 (.currency hamount (readCurrency_of_notMem h))
  rw [respond_of_refused hparse hrefused, Response.code_ofFailure]
  rfl

theorem code_of_supported (h : upper i.currency ∈ supported) :
    (request.respond supported today).code ≠ .CU02 := by
  have hne := (Instruction.wellFormed_of_parse hparse).currency_ne_nil
  have hcurrency := readCurrency_eq_ok_iff.2 ⟨⟨hne, h⟩, rfl⟩
  cases request.course supported today with
  | unread hunread hrun =>
    rw [hparse] at hunread
    cases hunread
  | refused hread hrefused hrun =>
    obtain rfl := Except.ok.inj (hparse.symm.trans hread)
    rw [respond_of_run hrun, Response.code_ofFailure]
    exact hrefused.codeOf_ne_CU02 hamount hcurrency
  | faulted hread hchecks hexecute hrun =>
    have hcode : codeOf .unexpected .unexpected ≠ .CU02 := by decide
    rw [respond_of_fault hrun, Response.unexpected, Response.code_ofFailure]
    exact hcode
  | @settled _ t o hread hchecks hexecute hrun =>
    have hcode : (Response.ofOutcome o request.accounts).code = o.code := rfl
    rw [respond_of_run hrun, hcode]
    rcases Transfer.code_of_execute hexecute with hcode | hcode
    · rw [hcode]
      decide
    · rw [hcode]
      decide

/-- What counts is whether the upper case of the currency is in the list. -/
theorem code_eq_CU02_iff : (request.respond supported today).code = .CU02
    ↔ upper i.currency ∉ supported :=
  ⟨fun hcode hmem => code_of_supported hparse hamount hmem hcode,
    code_of_unsupported hparse hamount⟩

end Request

/-! ## Lists read ignoring case -/

/-- The list has the currency in it, in letters of whatever case. -/
def Mentions (supported : List Text) (currency : Text) : Prop :=
  ∃ entry ∈ supported, upper entry = upper currency

theorem mentions_of_upper_mem {currency : Text} (h : upper currency ∈ supported) :
    Mentions supported currency :=
  ⟨upper currency, h, upper_upper currency⟩

/-- Among the entries in upper case there is one for a currency exactly if it is the upper case of
the currency. -/
theorem mentions_filter_iff {currency : Text} :
    Mentions (supported.filter fun entry => upper entry = entry) currency
      ↔ upper currency ∈ supported := by
  constructor
  · rintro ⟨entry, hmem, heq⟩
    obtain ⟨hentry, hupper⟩ := List.mem_filter.1 hmem
    rwa [← heq, of_decide_eq_true hupper]
  · intro hmem
    exact mentions_of_upper_mem
      (List.mem_filter.2 ⟨hmem, decide_eq_true (upper_upper currency)⟩)

/-- An instruction with a valid amount is refused for its currency exactly if no entry that is in
upper case is its currency ignoring case. To count in the other entries changes nothing exactly if
they are not alone in mentioning the currency, and they never are if the upper case of each entry is
an entry. -/
theorem process_supports {payload : Json} {request : Request} {i : Instruction} {amount : Int}
    (hjson : Request.ofJson payload = .ok request)
    (hparse : Instruction.parse request.instruction = .ok i)
    (hamount : readAmount i.amount = .ok amount) :
    ((process supported today payload).code = .CU02
        ↔ ¬ Mentions (supported.filter fun entry => upper entry = entry) i.currency)
      ∧ (((process supported today payload).code = .CU02 ↔ ¬ Mentions supported i.currency)
        ↔ (Mentions supported i.currency → upper i.currency ∈ supported))
      ∧ ((∀ entry ∈ supported, upper entry ∈ supported) →
        ((process supported today payload).code = .CU02 ↔ ¬ Mentions supported i.currency)) := by
  have hcode : (process supported today payload).code = .CU02 ↔ upper i.currency ∉ supported := by
    rw [process, hjson]
    exact Request.code_eq_CU02_iff hparse hamount
  have hexact : ((process supported today payload).code = .CU02 ↔ ¬ Mentions supported i.currency)
      ↔ (Mentions supported i.currency → upper i.currency ∈ supported) := by
    rw [hcode, not_iff_not]
    exact ⟨fun hiff => hiff.2, fun hlisted => ⟨mentions_of_upper_mem, hlisted⟩⟩
  refine ⟨?_, hexact, fun hclosed => hexact.2 ?_⟩
  · rw [mentions_filter_iff, hcode]
  · rintro ⟨entry, hmem, heq⟩
    exact heq ▸ hclosed entry hmem

/-- An instruction in a currency that is in the list in upper case and in lower case, but not as the
instruction spells it. -/
def unevenRequest : Request where
  accounts := [⟨"A".toList, .whole 3, "Usd".toList⟩, ⟨"B".toList, .whole 0, "usd".toList⟩]
  instruction := "CREDIT 7 uSd TO ACCOUNT B FOR DEBIT FROM ACCOUNT A".toList

theorem process_supports_uneven :
    Mentions ["usd".toList, "USD".toList] "uSd".toList
      ∧ (process ["usd".toList, "USD".toList] ⟨2025, 1, 4, by decide⟩ unevenRequest.toJson).code
        ≠ .CU02 := by
  have hmentions : Mentions ["usd".toList, "USD".toList] "uSd".toList :=
    ⟨"usd".toList, by decide, by decide⟩
  have hparse : Instruction.parse unevenRequest.instruction
      = .ok ⟨.credit, "7".toList, "uSd".toList, "A".toList, "B".toList, none⟩ := by
    decide +kernel
  have hamount : readAmount "7".toList = .ok 7 := by decide +kernel
  have hclosed : ∀ entry ∈ ["usd".toList, "USD".toList],
      upper entry ∈ ["usd".toList, "USD".toList] := by
    decide
  have hcode : (process ["usd".toList, "USD".toList] ⟨2025, 1, 4, by decide⟩
      unevenRequest.toJson).code = .CU02 ↔ ¬ Mentions ["usd".toList, "USD".toList] "uSd".toList :=
    (process_supports (Request.ofJson_toJson unevenRequest) hparse hamount).2.2 hclosed
  exact ⟨hmentions, fun heq => hcode.1 heq hmentions⟩

/-- An instruction in a currency that is spelled in lower case. -/
def plainRequest : Request where
  accounts := [⟨"A".toList, .whole 9, "ngn".toList⟩, ⟨"B".toList, .whole 1, "ngn".toList⟩]
  instruction := "DEBIT 5 ngn FROM ACCOUNT A FOR CREDIT TO ACCOUNT B".toList

/-- The currency of the instruction is the only one in the list, letter by letter, and it is not
supported. -/
theorem process_refusesListed :
    ∃ i, Instruction.parse plainRequest.instruction = .ok i ∧ readAmount i.amount = .ok 5
      ∧ i.currency ∈ ["ngn".toList]
      ∧ ¬ ((process ["ngn".toList] ⟨2025, 1, 5, by decide⟩ plainRequest.toJson).code = .CU02
        ↔ ¬ Mentions ["ngn".toList] i.currency) := by
  refine ⟨⟨.debit, "5".toList, "ngn".toList, "A".toList, "B".toList, none⟩, by decide +kernel,
    by decide +kernel, by decide, fun hiff => ?_⟩
  have hcode : (process ["ngn".toList] ⟨2025, 1, 5, by decide⟩ plainRequest.toJson).code
      = .CU02 := by
    decide +kernel
  exact hiff.1 hcode ⟨"ngn".toList, by decide, rfl⟩

end Remit
