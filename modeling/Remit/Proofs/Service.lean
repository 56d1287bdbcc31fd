import Remit.Proofs.Json.Encoding
import Remit.Proofs.Json.Write
import Remit.Proofs.Range
import Remit.Service.Endpoint

/-!
# Answers to posted instructions

A body that is JSON with numbers in range is always read, whatever it says, and gets a response. The
answer is the report of this response (`Response.report`), with status 200 or 400 and the response
as its body, whenever the response can be sent (`Service.CanBeSent`). `Service.handle_posting` says
that there are two ways for it not to be: a completed transfer leaves the credited account with a
balance beyond the range of numbers that can be written, or a surrogate without its partner would
show. The answer is then a server error, though the transfer was successful.
-/

namespace Remit

open Text

/-! ## Reports -/

/-- The answer that reports a response. -/
def Response.report (r : Response) : HttpResponse :=
  ⟨Service.httpStatus r.status, "application/json", r.toJson.write⟩

theorem Response.status_report (r : Response) : r.report.status = 200 ∨ r.report.status = 400 := by
  unfold report
  cases r.status with
  | successful => exact Or.inl rfl
  | pending => exact Or.inl rfl
  | failed => exact Or.inr rfl

namespace Service

/-- A request that posts a body. -/
def posting (body : List UInt8) : HttpRequest :=
  ⟨"POST".toList, "/payment-instructions".toList, body⟩

theorem handle_posting_eq (settings : Settings) (today : Date) (timestamp : Text)
    (body : List UInt8) :
    handle settings today timestamp (posting body) = postInstruction settings today body :=
  rfl

/-- The characters that are tried in the place of surrogates without a partner. -/
def standIns : List Char := ['\ufffd', '\ufffe']

/-- The responses to a value that may depend on what stands in for surrogates. -/
def responses (settings : Settings) (today : Date) (value : Char → Json) (standIn : Char) :
    Response :=
  process settings.supportedCurrencies today (value standIn)

/-- A response that may depend on what stands in for surrogates can be sent: no credit leaves the
range of numbers, and the report is the same for every stand-in. -/
def CanBeSent (response : Char → Response) : Prop :=
  ∀ standIn ∈ standIns, ¬ (response standIn).CreditLeavesRange
    ∧ (response standIn).report = (response '\ufffd').report

/-- Without such a surrogate only a credit can stand in the way. -/
theorem canBeSent_iff_of_eq {response : Char → Response}
    (h : ∀ standIn, response standIn = response '\ufffd') :
    CanBeSent response ↔ ¬ (response '\ufffd').CreditLeavesRange := by
  constructor
  · exact fun hsent => (hsent '\ufffd' (by decide)).1
  · intro hstays standIn _
    rw [h standIn]
    exact ⟨hstays, rfl⟩

/-! ## Reading the body -/

section

variable {body : List UInt8} {t : Text} {value : Char → Json} (hbody : Encodes body t)
  (hspells : ∀ standIn, Json.Spells standIn 100 t (value standIn)) (settings : Settings)
  (today : Date)

include hbody hspells

/-- A body that is JSON in range is read as its value. -/
theorem readBody_of_spells (standIn : Char) : readBody standIn body = .ok (value standIn) := by
  rw [readBody, hbody standIn]
  dsimp only
  rw [Json.read_of_spells ((hspells standIn).mono (by decide : 100 ≤ nestingLimit))]

theorem answerWith_of_spells (standIn : Char) :
    (¬ (responses settings today value standIn).CreditLeavesRange
        ∧ answerWith standIn settings today body = (responses settings today value standIn).report)
      ∨ ((responses settings today value standIn).CreditLeavesRange
        ∧ answerWith standIn settings today body = .serverError) := by
  have hrange := isInRange_process_iff (Json.isWritable_of_spells (hspells standIn))
    settings.supportedCurrencies today
  rw [answerWith, readBody_of_spells hbody hspells]
  dsimp only
  rw [HttpResponse.ofJson]
  by_cases hleaves : (responses settings today value standIn).CreditLeavesRange
  · right
    refine ⟨hleaves, if_neg fun hwritable => ?_⟩
    exact hrange.1 ((Response.isWritable_toJson_iff _).1 hwritable) hleaves
  · left
    exact ⟨hleaves, if_pos ((Response.isWritable_toJson_iff _).2 (hrange.2 hleaves))⟩

/-! ## The answer -/

theorem postInstruction_of_canBeSent (hsent : CanBeSent (responses settings today value)) :
    postInstruction settings today body = (responses settings today value '\ufffd').report := by
  have hanswer : ∀ standIn ∈ standIns, answerWith standIn settings today body
      = (responses settings today value '\ufffd').report := by
    intro standIn hmem
    obtain ⟨hstays, hsame⟩ := hsent standIn hmem
    rcases answerWith_of_spells hbody hspells settings today standIn with
      ⟨-, hreport⟩ | ⟨hleaves, -⟩
    · rw [hreport, hsame]
    · exact absurd hleaves hstays
  rw [postInstruction, hanswer '\ufffd' (by decide), hanswer '\ufffe' (by decide)]
  exact if_pos rfl

theorem postInstruction_of_not_canBeSent
    (hsent : ¬ CanBeSent (responses settings today value)) :
    postInstruction settings today body = .serverError := by
  -- An answer that is no server error is the same for both stand-ins, so it reports both responses.
  by_contra hanswer
  rw [postInstruction] at hanswer
  split at hanswer
  · next hsame =>
    have hreport : ∀ standIn ∈ standIns,
        ¬ (responses settings today value standIn).CreditLeavesRange
          ∧ answerWith '\ufffd' settings today body
            = (responses settings today value standIn).report := by
      intro standIn hmem
      have hfirst : answerWith standIn settings today body
          = answerWith '\ufffd' settings today body := by
        rcases List.mem_pair.1 hmem with rfl | rfl
        · rfl
        · exact hsame
      rcases answerWith_of_spells hbody hspells settings today standIn with
        ⟨hstays, hreport⟩ | ⟨-, herror⟩
      · exact ⟨hstays, hfirst.symm.trans hreport⟩
      · exact absurd (hfirst.symm.trans herror) hanswer
    refine hsent fun standIn hmem => ⟨(hreport standIn hmem).1, ?_⟩
    exact (hreport standIn hmem).2.symm.trans (hreport '\ufffd' (by decide)).2
  · exact hanswer rfl

end

/-- A request with integer balances in range can be posted as it is written. -/
theorem encodes_and_spells {request : Request}
    (h : ∀ account ∈ request.accounts, ∃ n, account.balance = .whole n
      ∧ n.natAbs < tenPow digitLimit) :
    Encodes (utf8 request.toJson.write) request.toJson.write
      ∧ ∀ standIn, Json.Spells standIn 100 request.toJson.write request.toJson := by
  have hspells : ∀ standIn, Json.Spells standIn 100 request.toJson.write request.toJson :=
    fun standIn => (Request.spells_write h).mono (by decide)
  exact ⟨Json.encodes_utf8_of_spells (hspells '\ufffd'), hspells⟩

/-- A body that is JSON, nested at most 100 deep and with numbers in range, is answered by a report
of its response, with status 200 or 400. Only a response that cannot be sent is a server error. -/
theorem handle_posting (settings : Settings) (today : Date) (timestamp : Text)
    {body : List UInt8} {t : Text} {value : Char → Json} (hbody : Encodes body t)
    (hspells : ∀ standIn, Json.Spells standIn 100 t (value standIn)) :
    (CanBeSent (responses settings today value) →
        handle settings today timestamp (posting body)
            = (responses settings today value '\ufffd').report
          ∧ ((handle settings today timestamp (posting body)).status = 200
            ∨ (handle settings today timestamp (posting body)).status = 400))
      ∧ (¬ CanBeSent (responses settings today value) →
        handle settings today timestamp (posting body) = .serverError)
      ∧ ((∀ standIn, value standIn = value '\ufffd') →
        (CanBeSent (responses settings today value)
          ↔ ¬ (responses settings today value '\ufffd').CreditLeavesRange)) := by
  rw [handle_posting_eq]
  refine ⟨fun hsent => ?_, fun hsent => ?_, fun hvalue => ?_⟩
  · rw [postInstruction_of_canBeSent hbody hspells settings today hsent]
    exact ⟨rfl, Response.status_report _⟩
  · exact postInstruction_of_not_canBeSent hbody hspells settings today hsent
  · refine canBeSent_iff_of_eq fun standIn => ?_
    rw [responses, responses, hvalue standIn]

/-- The day on which the requests below are posted. -/
def postingDay : Date :=
  ⟨2025, 6, 15, by decide⟩

/-- A transfer of everything on one account to an empty one. -/
def emptyingRequest : Request where
  accounts := [⟨"A".toList, .whole 5, "NGN".toList⟩, ⟨"B".toList, .whole 0, "NGN".toList⟩]
  instruction := "DEBIT 5 NGN FROM ACCOUNT A FOR CREDIT TO ACCOUNT B".toList

theorem handle_posting_emptying :
    Encodes (utf8 emptyingRequest.toJson.write) emptyingRequest.toJson.write
      ∧ (∀ standIn, Json.Spells standIn 100 emptyingRequest.toJson.write emptyingRequest.toJson)
      ∧ handle Settings.defaults postingDay [] (posting (utf8 emptyingRequest.toJson.write))
        = (process Settings.defaults.supportedCurrencies postingDay emptyingRequest.toJson).report
      ∧ (process Settings.defaults.supportedCurrencies postingDay
          emptyingRequest.toJson).report.status = 200 := by
  have hwhole : ∀ account ∈ emptyingRequest.accounts, ∃ n, account.balance = .whole n
      ∧ n.natAbs < tenPow digitLimit :=
    List.forall_mem_cons.2 ⟨⟨5, rfl, by decide +kernel⟩,
      List.forall_mem_singleton.2 ⟨0, rfl, by decide +kernel⟩⟩
  obtain ⟨hbody, hspells⟩ := encodes_and_spells hwhole
  obtain ⟨hreport, -, hsent⟩ := handle_posting Settings.defaults postingDay [] hbody hspells
  have hcredit : (process Settings.defaults.supportedCurrencies postingDay
      emptyingRequest.toJson).creditEntry
        = some ⟨"B".toList, .whole 5, .whole 0, "NGN".toList⟩ := by
    decide +kernel
  have hrange : (Balance.whole 5).IsInRange := by
    show (5 : Int).natAbs < tenPow digitLimit
    decide +kernel
  have hstays := fun hleaves => ((Response.creditLeavesRange_iff hcredit).1 hleaves).2 hrange
  obtain ⟨hanswer, -⟩ := hreport ((hsent fun _ => rfl).2 hstays)
  exact ⟨hbody, hspells, hanswer, by decide +kernel⟩

/-- A transfer of 1 to an account with the largest balance that can be written. -/
def overfullRequest : Request where
  accounts := [⟨"A".toList, .whole 1, "NGN".toList⟩,
    ⟨"B".toList, .whole (tenPow digitLimit - 1 : Nat), "NGN".toList⟩]
  instruction := "DEBIT 1 NGN FROM ACCOUNT A FOR CREDIT TO ACCOUNT B".toList

/-- The transfer is successful, and the answer says that it is not. -/
theorem handle_posting_overfull :
    Encodes (utf8 overfullRequest.toJson.write) overfullRequest.toJson.write
      ∧ (∀ standIn, Json.Spells standIn 100 overfullRequest.toJson.write overfullRequest.toJson)
      ∧ (process Settings.defaults.supportedCurrencies postingDay
        overfullRequest.toJson).status = .successful
      ∧ (handle Settings.defaults postingDay []
        (posting (utf8 overfullRequest.toJson.write))).status = 500 := by
  have hwhole : ∀ account ∈ overfullRequest.accounts, ∃ n, account.balance = .whole n
      ∧ n.natAbs < tenPow digitLimit :=
    List.forall_mem_cons.2 ⟨⟨1, rfl, by decide +kernel⟩,
      List.forall_mem_singleton.2 ⟨_, rfl, by decide +kernel⟩⟩
  obtain ⟨hbody, hspells⟩ := encodes_and_spells hwhole
  have hcode : (process Settings.defaults.supportedCurrencies postingDay
      overfullRequest.toJson).code = .AP00 := by
    decide +kernel
  have hcredit : (process Settings.defaults.supportedCurrencies postingDay
      overfullRequest.toJson).creditEntry
        = some ⟨"B".toList, .whole (tenPow digitLimit : Nat),
          .whole (tenPow digitLimit - 1 : Nat), "NGN".toList⟩ := by
    decide +kernel
  have hout : ¬ (Balance.whole (tenPow digitLimit : Nat)).IsInRange := by
    rw [Balance.IsInRange, Int.natAbs_natCast]
    exact Nat.lt_irrefl _
  have hleaves := (Response.creditLeavesRange_iff hcredit).2 ⟨hcode, hout⟩
  have hsent : ¬ CanBeSent (responses Settings.defaults postingDay
      fun _ => overfullRequest.toJson) := fun hsent => (hsent '\ufffd' (by decide)).1 hleaves
  have hanswer :=
    postInstruction_of_not_canBeSent hbody hspells Settings.defaults postingDay hsent
  refine ⟨hbody, hspells, by decide +kernel, ?_⟩
  rw [handle_posting_eq, hanswer]
  rfl

end Service
end Remit
