import Remit.Instruction.Parse
import Remit.Proofs.Text.Case
import Remit.Proofs.Text.Trim

/-!
# Fields of an instruction

Reading an instruction cuts fields out of a text and accepts or refuses each. This module says what
acceptance means:

* ids and dates are made of visible ASCII characters (`isVisible_of_isAccountId`,
  `isVisible_of_isDateText`), so they hold no white space and keep their length in upper case;
* `FieldsAt` says that the fields cut at given marks are those of an instruction, and
  `ofForm_eq_ok_iff` that reading succeeds exactly where the keywords have marks with such fields.
-/

namespace Remit

open Text

/-- A chain of steps succeeds exactly if its first step does and the rest does with its result. -/
theorem bind_eq_ok_iff {ε α β : Type} {x : Except ε α} {f : α → Except ε β} {b : β} :
    x.bind f = .ok b ↔ ∃ a, x = .ok a ∧ f a = .ok b := by
  cases x with
  | error e => simp [Except.bind]
  | ok a => simp [Except.bind]

/-- A chain of steps fails exactly if its first step does, or else the rest with its result. -/
theorem bind_eq_error_iff {ε α β : Type} {x : Except ε α} {f : α → Except ε β} {e : ε} :
    x.bind f = .error e ↔ x = .error e ∨ ∃ a, x = .ok a ∧ f a = .error e := by
  cases x with
  | error e => simp [Except.bind]
  | ok a => simp [Except.bind]

/-! ## Visible characters -/

/-- An ASCII character that prints: no control character, and not the space. -/
def IsVisible (c : Char) : Prop :=
  0x20 < c.toNat ∧ c.toNat < 0x7f

namespace IsVisible

theorem ne_space {c : Char} (h : IsVisible c) : c ≠ ' ' := by
  rintro rfl
  exact absurd h.1 (by decide)

theorem isBlank {c : Char} (h : IsVisible c) : Text.isBlank c = false := by
  have hlow := h.1
  have hhigh := h.2
  simp only [Text.isBlank, blankRanges, List.any_cons, List.any_nil, Bool.or_false,
    Bool.or_eq_false_iff, Bool.and_eq_false_iff, decide_eq_false_iff_not]
  omega

theorem length_upperChar {c : Char} (h : IsVisible c) : (upperChar c).length = 1 := by
  have hhigh := h.2
  rw [upperChar_ascii (by omega), List.length_singleton]

end IsVisible

/-- What lies between visible characters is visible. -/
theorem isVisible_of_between {c low high : Char} (hlow : 0x20 < low.toNat)
    (hhigh : high.toNat < 0x7f) (h : low.val ≤ c.val ∧ c.val ≤ high.val) : IsVisible c := by
  have hle : low.toNat ≤ c.toNat := UInt32.le_iff_toNat_le.1 h.1
  have hge : c.toNat ≤ high.toNat := UInt32.le_iff_toNat_le.1 h.2
  exact ⟨by omega, by omega⟩

theorem isVisible_of_isDigit {c : Char} (h : c.isDigit = true) : IsVisible c := by
  obtain ⟨hlow, hhigh⟩ := Bool.and_eq_true_iff.1 h
  have hrange : '0'.val ≤ c.val ∧ c.val ≤ '9'.val :=
    ⟨of_decide_eq_true hlow, of_decide_eq_true hhigh⟩
  exact isVisible_of_between (by decide) (by decide) hrange

theorem isVisible_of_isAlpha {c : Char} (h : c.isAlpha = true) : IsVisible c := by
  rcases Bool.or_eq_true_iff.1 h with hupper | hlower
  · have hrange : 'A'.val ≤ c.val ∧ c.val ≤ 'Z'.val := of_decide_eq_true hupper
    exact isVisible_of_between (by decide) (by decide) hrange
  · obtain ⟨hlow, hhigh⟩ := Bool.and_eq_true_iff.1 hlower
    have hrange : 'a'.val ≤ c.val ∧ c.val ≤ 'z'.val :=
      ⟨of_decide_eq_true hlow, of_decide_eq_true hhigh⟩
    exact isVisible_of_between (by decide) (by decide) hrange

theorem isVisible_of_isAccountIdChar {c : Char} (h : isAccountIdChar c = true) : IsVisible c := by
  simp only [isAccountIdChar, Bool.or_eq_true, decide_eq_true_eq] at h
  rcases h with ((halnum | rfl) | rfl) | rfl
  · rcases Bool.or_eq_true_iff.1 halnum with halpha | hdigit
    · exact isVisible_of_isAlpha halpha
    · exact isVisible_of_isDigit hdigit
  · exact ⟨by decide, by decide⟩
  · exact ⟨by decide, by decide⟩
  · exact ⟨by decide, by decide⟩

theorem isVisible_of_isAccountId {t : Text} (h : isAccountId t = true) : ∀ c ∈ t, IsVisible c := by
  obtain ⟨-, hall⟩ := Bool.and_eq_true_iff.1 h
  exact fun c hc => isVisible_of_isAccountIdChar (List.all_eq_true.1 hall c hc)

theorem isVisible_of_isDateText {t : Text} (h : isDateText t = true) : ∀ c ∈ t, IsVisible c := by
  -- The text is put together from its three parts, which are digits, and two hyphens.
  have hrow : ['-'].intercalate (t.splitOn '-') = t := List.intercalate_splitOn '-'
  rw [isDateText] at h
  split at h
  · next year month day hsplit =>
    simp only [Bool.and_eq_true, List.all_eq_true] at h
    obtain ⟨⟨⟨⟨⟨⟨⟨-, hyear⟩, hmonth⟩, hday⟩, -⟩, -⟩, -⟩, -⟩ := h
    rw [hsplit, List.intercalate_cons_cons, List.intercalate_cons_cons,
      List.intercalate_singleton] at hrow
    intro c hc
    rw [← hrow] at hc
    simp only [List.mem_append, List.mem_singleton] at hc
    rcases hc with (hc | rfl) | (hc | rfl) | hc
    · exact isVisible_of_isDigit (hyear c hc)
    · exact ⟨by decide, by decide⟩
    · exact isVisible_of_isDigit (hmonth c hc)
    · exact ⟨by decide, by decide⟩
    · exact isVisible_of_isDigit (hday c hc)
  · cases h

/-- Texts of visible characters are trimmed. -/
theorem trim_of_isVisible {t : Text} (h : ∀ c ∈ t, IsVisible c) : trim t = t :=
  trim_of_forall_isBlank fun c hc => (h c hc).isBlank

theorem ne_nil_of_isAccountId {t : Text} (h : isAccountId t = true) : t ≠ [] := by
  rintro rfl
  cases h

theorem ne_nil_of_isDateText {t : Text} (h : isDateText t = true) : t ≠ [] := by
  rintro rfl
  cases h

/-! ## Accepted fields -/

/-- The field before the first keyword is accepted exactly if it has a space in it. The amount is
what stands before the first one. -/
theorem amountAndCurrency_eq_ok_iff {field amount currency : Text} :
    amountAndCurrency field = .ok (amount, currency)
      ↔ trim field = amount ++ ' ' :: currency ∧ ' ' ∉ amount := by
  rw [amountAndCurrency]
  constructor
  · intro h
    split at h
    · next a c more hsplit =>
      obtain ⟨rfl, rfl⟩ : a = amount ∧ unpieces (c :: more) = currency := by simpa using h
      have hrow : unpieces ((trim field).splitOn ' ') = trim field := List.intercalate_splitOn ' '
      rw [hsplit, unpieces_cons, spaced_eq_cons (List.cons_ne_nil _ _)] at hrow
      exact ⟨hrow.symm, space_notMem_of_mem_splitOn (hsplit ▸ List.mem_cons_self)⟩
    · cases h
  · rintro ⟨htrim, hspace⟩
    rw [htrim, List.splitOn_append_cons_self_of_not_mem hspace]
    have hrow : unpieces (currency.splitOn ' ') = currency := List.intercalate_splitOn ' '
    obtain ⟨c, more, hsplit⟩ := List.exists_cons_of_ne_nil (List.splitOn_ne_nil ' ' currency)
    rw [hsplit] at hrow ⊢
    rw [← hrow]

/-- The date field is accepted exactly if it is blank or spells a date. -/
theorem dateField_eq_ok_iff {field : Text} {executeBy : Option Text} :
    dateField field = .ok executeBy
      ↔ (trim field = [] ∧ executeBy = none)
        ∨ ∃ date, trim field = date ∧ isDateText date = true ∧ executeBy = some date := by
  rw [dateField]
  constructor
  · intro h
    split at h
    · next hempty =>
      cases h
      exact Or.inl ⟨List.isEmpty_iff.1 hempty, rfl⟩
    · split at h
      · next hdate =>
        cases h
        exact Or.inr ⟨_, rfl, hdate, rfl⟩
      · cases h
  · rintro (⟨htrim, rfl⟩ | ⟨date, htrim, hdate, rfl⟩)
    · rw [htrim]
      rfl
    · have hne := ne_nil_of_isDateText hdate
      rw [htrim, if_neg (by simpa using hne), if_pos hdate]

namespace Instruction

/-- The ids are accepted exactly if both are well formed. The form says which one is debited. -/
theorem ofFields_eq_ok_iff {form : Form} {amount currency first second : Text}
    {executeBy : Option Text} {i : Instruction} :
    ofFields form amount currency first second executeBy = .ok i
      ↔ isAccountId first = true ∧ isAccountId second = true ∧ i.form = form
        ∧ i.amount = amount ∧ i.currency = currency ∧ i.firstAccount = first
        ∧ i.secondAccount = second ∧ i.executeBy = executeBy := by
  unfold ofFields
  constructor
  · intro h
    split at h
    · next hids =>
      obtain ⟨hfirst, hsecond⟩ := Bool.and_eq_true_iff.1 hids
      cases form <;> cases h <;> exact ⟨hfirst, hsecond, rfl, rfl, rfl, rfl, rfl, rfl⟩
    · cases h
  · rintro ⟨hfirst, hsecond, rfl, rfl, rfl, rfl, rfl, rfl⟩
    rw [hfirst, hsecond]
    obtain ⟨form, amount, currency, debit, credit, executeBy⟩ := i
    cases form <;> rfl

/-- The date behind the mark of its keyword, if there is a mark. -/
def dateAt (clean : Text) : Option Nat → Except Cause (Option Text)
  | none => .ok none
  | some place => dateField (clean.drop (place + dateMarker.length))

/-- Reading in a known form, step by step: the marks, the field before the first keyword, the date,
the ids. -/
theorem ofForm_eq_bind (form : Form) (clean upperText : Text) :
    ofForm form clean upperText
      = (form.marks upperText).bind fun marks =>
        (amountAndCurrency (cut clean form.opening.length marks.first)).bind fun field =>
        (dateAt clean marks.date).bind fun executeBy =>
        ofFields form field.1 field.2
          (trim (cut clean (marks.first + form.firstMarker.length) marks.second))
          (trim (cut clean (marks.second + form.secondMarker.length)
            (marks.date.getD clean.length))) executeBy := by
  rw [ofForm]
  cases form.marks upperText with
  | error cause => rfl
  | ok marks =>
    simp only [bind, Except.bind]
    cases amountAndCurrency (cut clean form.opening.length marks.first) with
    | error cause => rfl
    | ok field =>
      dsimp only
      cases marks.date with
      | none => rfl
      | some place => rfl

/-- The fields of a text that lie between the marks are those of the instruction, and all of them
are acceptable. -/
structure FieldsAt (form : Form) (clean : Text) (marks : Marks) (i : Instruction) : Prop where
  form_eq : i.form = form
  amount_currency :
    trim (cut clean form.opening.length marks.first) = i.amount ++ ' ' :: i.currency
  space_notMem_amount : ' ' ∉ i.amount
  first : trim (cut clean (marks.first + form.firstMarker.length) marks.second) = i.firstAccount
  isAccountId_first : isAccountId i.firstAccount = true
  second : trim (cut clean (marks.second + form.secondMarker.length)
    (marks.date.getD clean.length)) = i.secondAccount
  isAccountId_second : isAccountId i.secondAccount = true
  date : dateAt clean marks.date = .ok i.executeBy

/-- Reading succeeds exactly if the keywords can be marked and the fields between the marks are
acceptable. -/
theorem ofForm_eq_ok_iff {form : Form} {clean upperText : Text} {i : Instruction} :
    ofForm form clean upperText = .ok i
      ↔ ∃ marks, form.marks upperText = .ok marks ∧ FieldsAt form clean marks i := by
  rw [ofForm_eq_bind]
  constructor
  · intro h
    obtain ⟨marks, hmarks, h⟩ := bind_eq_ok_iff.1 h
    obtain ⟨⟨amount, currency⟩, hfield, h⟩ := bind_eq_ok_iff.1 h
    obtain ⟨executeBy, hdate, h⟩ := bind_eq_ok_iff.1 h
    obtain ⟨htrim, hspace⟩ := amountAndCurrency_eq_ok_iff.1 hfield
    obtain ⟨hfirst, hsecond, hform, ha, hc, hf, hs, he⟩ := ofFields_eq_ok_iff.1 h
    exact ⟨marks, hmarks, hform, by rw [ha, hc, htrim], ha ▸ hspace, hf.symm, hf ▸ hfirst,
      hs.symm, hs ▸ hsecond, he ▸ hdate⟩
  · rintro ⟨marks, hmarks, h⟩
    have hfield := amountAndCurrency_eq_ok_iff.2 ⟨h.amount_currency, h.space_notMem_amount⟩
    rw [hmarks, Except.bind, hfield, Except.bind, h.date, Except.bind, h.first, h.second]
    exact ofFields_eq_ok_iff.2 ⟨h.isAccountId_first, h.isAccountId_second, h.form_eq, rfl, rfl,
      rfl, rfl, rfl⟩

/-- Reading a text succeeds exactly if its normal form opens with the word of a form and can be
read in that form. -/
theorem parse_eq_ok_iff {t : Text} {i : Instruction} :
    parse t = .ok i ↔ ∃ form, Form.ofOpening? (upper (normalize t)) = some form
      ∧ ofForm form (normalize t) (upper (normalize t)) = .ok i := by
  rw [parse]
  cases Form.ofOpening? (upper (normalize t)) with
  | none => simp
  | some form => simp

end Instruction
end Remit
