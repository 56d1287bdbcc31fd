import Remit.Proofs.Processing
import Remit.Proofs.Instruction.Forms

/-!
# One request in two forms

Behind the reading of the instruction no stage looks at its form: the form is only passed on, into
the transfer, its outcome and the response. So each stage gives the same for the instruction in
another form, in that form (`respond_of_parse`), and an interchangeable instruction is answered
alike in either form (`process_sameButForm`).
-/

namespace Remit

open Text

/-! ## Another form -/

/-- The transfer in a form. -/
def Transfer.inForm (form : Form) (t : Transfer) : Transfer :=
  { t with form }

/-- The outcome in a form. -/
def Outcome.inForm (form : Form) (o : Outcome) : Outcome :=
  { o with form }

namespace Response

/-- The response in a form, if it tells a form at all. -/
def inForm (form : Form) (r : Response) : Response :=
  { r with form := r.form.map fun _ => form }

/-- Two responses differ at most in the form they tell, and both tell one or neither does. -/
def SameButForm (r s : Response) : Prop :=
  { r with form := none } = { s with form := none } ∧ (r.form = none ↔ s.form = none)

theorem sameButForm_inForm (form : Form) (r : Response) : r.SameButForm (r.inForm form) :=
  ⟨rfl, Option.map_eq_none_iff.symm⟩

end Response

/-! ## The stages -/

/-- No check looks at the form. -/
theorem Transfer.ofInstruction_inForm (form : Form) (supported : List Text)
    (accounts : List Account) (i : Instruction) :
    ofInstruction supported accounts (i.inForm form)
      = (ofInstruction supported accounts i).map (inForm form) := by
  have haccounts : (i.inForm form).accounts? accounts = i.accounts? accounts := rfl
  rw [ofInstruction, ofInstruction, haccounts]
  simp only [Instruction.inForm, bind, Except.bind]
  cases readAmount i.amount with
  | error cause => rfl
  | ok amount =>
    cases readCurrency supported i.currency with
    | error cause => rfl
    | ok currency =>
      dsimp only
      cases i.accounts? accounts with
      | none => rfl
      | some found =>
        dsimp only
        split
        · rfl
        split
        · rfl
        split <;> rfl

theorem Transfer.complete_inForm (form : Form) (t : Transfer) :
    (t.inForm form).complete = t.complete.map (Outcome.inForm form) := by
  simp only [complete, inForm, bind, Except.bind]
  cases t.debitAccount.balance.debit t.amount with
  | error error => rfl
  | ok debit =>
    dsimp only
    cases t.creditAccount.balance.credit t.amount with
    | error error => rfl
    | ok credit => rfl

theorem Transfer.execute_inForm (form : Form) (t : Transfer) (today : Date) :
    (t.inForm form).execute today = (t.execute today).map (Outcome.inForm form) := by
  rw [execute, execute, complete_inForm]
  dsimp only [inForm]
  cases isFuture t.executeBy today with
  | error error => rfl
  | ok future =>
    cases future with
    | true => rfl
    | false =>
      dsimp only
      cases t.complete with
      | error error => rfl
      | ok outcome => rfl

namespace Response

theorem ofOutcome_inForm (form : Form) (o : Outcome) (accounts : List Account) :
    ofOutcome (o.inForm form) accounts = (ofOutcome o accounts).inForm form :=
  rfl

theorem ofFailure_inForm (form : Form) (failure : Failure) (parsed : Option Instruction)
    (accounts : List Account) :
    ofFailure failure (parsed.map (Instruction.inForm form)) accounts
      = (ofFailure failure parsed accounts).inForm form := by
  cases parsed with
  | none => rfl
  | some i =>
    unfold ofFailure
    dsimp only [Option.map_some]
    split <;> rfl

end Response

namespace Request

/-- A text that is read as another one is, in some form, is answered as that one is, in that
form. -/
theorem respond_of_parse {t u : Text} {form : Form}
    (h : Instruction.parse t = (Instruction.parse u).map (Instruction.inForm form))
    (supported : List Text) (today : Date) (accounts : List Account) :
    respond supported today ⟨accounts, t⟩
      = (respond supported today ⟨accounts, u⟩).inForm form := by
  rw [respond, respond, run, run, h]
  dsimp only
  cases Instruction.parse u with
  | error cause => exact Response.ofFailure_inForm form _ none accounts
  | ok i =>
    dsimp only [Except.map]
    rw [Transfer.ofInstruction_inForm]
    cases Transfer.ofInstruction supported accounts i with
    | error cause => exact Response.ofFailure_inForm form _ (some i) accounts
    | ok transfer =>
      dsimp only [Except.map]
      rw [Transfer.execute_inForm]
      cases transfer.execute today with
      | error error => exact Response.ofFailure_inForm form _ none []
      | ok outcome => exact Response.ofOutcome_inForm form outcome accounts

end Request

/-! ## Either form -/

/-- Two requests for the same accounts, with an interchangeable instruction in the two forms, are
answered alike but for the form. -/
theorem process_sameButForm {supported : List Text} {today : Date} {accounts : List Account}
    {i : Instruction} (h : i.Interchangeable) {p q : Json}
    (hp : Request.ofJson p = .ok ⟨accounts, (i.inForm .debit).text⟩)
    (hq : Request.ofJson q = .ok ⟨accounts, (i.inForm .credit).text⟩) :
    (process supported today p).SameButForm (process supported today q) := by
  have hparse : Instruction.parse (i.inForm .credit).text
      = (Instruction.parse (i.inForm .debit).text).map (Instruction.inForm .credit) := by
    rw [h.parse_text, h.parse_text]
    cases i.checked <;> rfl
  rw [process, process, hp, hq]
  dsimp only
  rw [Request.respond_of_parse hparse]
  exact Response.sameButForm_inForm _ _

/-- An instruction whose words are hard to tell from keywords. -/
def keywordLike : Instruction :=
  ⟨.debit, "5x".toList, "ngn".toList, "FOR".toList, "to".toList, some "2025-02-03".toList⟩

/-- A request for the accounts `FOR` and `to`. -/
def keywordLikeRequest (instruction : Text) : Json :=
  .object [("accounts".toList, .list [
      .object [("id".toList, .text "to".toList), ("balance".toList, .integer 0),
        ("currency".toList, .text "NGN".toList)],
      .object [("id".toList, .text "FOR".toList), ("balance".toList, .integer 9),
        ("currency".toList, .text "NGN".toList)]]),
    ("instruction".toList, .text instruction)]

theorem process_sameButForm_keywordLike :
    (process ["NGN".toList] ⟨2025, 1, 1, by decide⟩ (keywordLikeRequest
        "DEBIT 5x ngn FROM ACCOUNT FOR FOR CREDIT TO ACCOUNT to ON 2025-02-03".toList)).SameButForm
      (process ["NGN".toList] ⟨2025, 1, 1, by decide⟩ (keywordLikeRequest
        "CREDIT 5x ngn TO ACCOUNT to FOR DEBIT FROM ACCOUNT FOR ON 2025-02-03".toList)) := by
  have hinterchangeable : keywordLike.Interchangeable := by
    refine ⟨fun w hw => Instruction.isPlainWord_of_isAccountId ?_, by decide, fun form => ?_⟩
    · revert w
      decide
    · cases form <;> decide
  have hdebit : (keywordLike.inForm .debit).text
      = "DEBIT 5x ngn FROM ACCOUNT FOR FOR CREDIT TO ACCOUNT to ON 2025-02-03".toList := by
    decide +kernel
  have hcredit : (keywordLike.inForm .credit).text
      = "CREDIT 5x ngn TO ACCOUNT to FOR DEBIT FROM ACCOUNT FOR ON 2025-02-03".toList := by
    decide +kernel
  rw [← hdebit, ← hcredit]
  exact process_sameButForm hinterchangeable rfl rfl

end Remit
