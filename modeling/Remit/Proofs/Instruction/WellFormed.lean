import Remit.Proofs.Instruction.Grammar

/-!
# Well-formed instructions

Whatever text an instruction was read from, its fields can be written in a row again: amount and
currency consist of words that are not blank (`wellFormed_of_parse`), so the text of the instruction
is in normal form (`normalize_text`).

The words inside amount and currency are words of the text read, since a word between two spaces of
a stretch is a word of the whole; the two outermost ones may have been cut, but trimming leaves
something of them.
-/

namespace Remit

open Text

namespace Text

theorem isInfix_cut (t : Text) (start stop : Nat) : cut t start stop <:+: t :=
  (List.drop_suffix start _).isInfix.trans (List.take_prefix stop t).isInfix

theorem isInfix_trim (t : Text) : trim t <:+: t := by
  obtain ⟨x, y, ht, -⟩ := exists_eq_append_trim_append t
  exact ⟨x, y, by rw [List.append_assoc, ← ht]⟩

/-- In normal form, no piece between spaces is blank. -/
theorem isBlankText_of_mem_splitOn_normalize {t w : Text} (hne : normalize t ≠ [])
    (h : w ∈ (normalize t).splitOn ' ') : isBlankText w = false := by
  rw [splitOn_normalize (mt normalize_eq_nil_iff.2 hne)] at h
  exact (isWord_of_mem_pieces h).2

/-- A trimmed stretch of a text has no blank piece if the text has none. -/
theorem isBlankText_of_mem_splitOn_infix {s t w : Text} (hst : s <:+: t)
    (ht : ∀ v ∈ t.splitOn ' ', isBlankText v = false) (htrim : trim s = s) (hs : s ≠ [])
    (h : w ∈ s.splitOn ' ') : isBlankText w = false := by
  obtain ⟨hhead, hlast⟩ := trim_eq_self_iff.1 htrim
  obtain ⟨vs, us, hsplit⟩ := List.append_of_mem h
  have hrow : unpieces (s.splitOn ' ') = s := List.intercalate_splitOn ' '
  rw [hsplit] at hrow
  by_cases hvs : vs = []
  · -- The first piece begins as the stretch does, and that is no white space.
    rw [hvs, List.nil_append, unpieces_cons] at hrow
    cases w with
    | nil =>
      rw [List.nil_append] at hrow
      have hus : us ≠ [] := by
        rintro rfl
        exact hs hrow.symm
      rw [spaced_eq_cons hus] at hrow
      exact absurd (hhead ' ' (by rw [← hrow]; rfl)) (by decide)
    | cons c w =>
      have hc : isBlank c = false := hhead c (by rw [← hrow]; rfl)
      simp [isBlankText, hc]
  · rw [unpieces_append hvs, spaced_cons] at hrow
    by_cases hus : us = []
    · -- The last piece ends as the stretch does.
      rw [hus, spaced_nil, List.append_nil] at hrow
      rcases List.eq_nil_or_concat' w with rfl | ⟨w', c, rfl⟩
      · exact absurd (hlast ' ' (by rw [← hrow]; simp)) (by decide)
      · have hc : isBlank c = false := by
          refine hlast c ?_
          rw [← hrow, ← List.cons_append, ← List.append_assoc, List.getLast?_concat]
          rfl
        simp [isBlankText, hc]
    · -- Any other piece is a piece of the text.
      obtain ⟨x, y, hxy⟩ := hst
      refine ht w ?_
      have hmem := mem_splitOn_of_spaces (space_notMem_of_mem_splitOn h) (x ++ unpieces vs)
        (unpieces us ++ y)
      rw [spaced_eq_cons hus] at hrow
      rw [← hxy, ← hrow]
      simpa using hmem

end Text

namespace Instruction

/-! ## What reading ensures -/

/-- The fields of an instruction are such that it can be read from some text: amount and currency
are words between single spaces, none of them blank, and ids and date have their form. -/
structure WellFormed (i : Instruction) : Prop where
  space_notMem_amount : ' ' ∉ i.amount
  trimmed : trim (i.amount ++ ' ' :: i.currency) = i.amount ++ ' ' :: i.currency
  not_blank : ∀ w ∈ (i.amount ++ ' ' :: i.currency).splitOn ' ', isBlankText w = false
  isAccountId_first : isAccountId i.firstAccount = true
  isAccountId_second : isAccountId i.secondAccount = true
  isDateText : ∀ date ∈ i.executeBy, isDateText date = true

namespace WellFormed

variable {i : Instruction} (h : WellFormed i)

include h

/-- Both ids are well formed, whichever the form names first. -/
theorem isAccountId_debit : isAccountId i.debitAccount = true := by
  obtain ⟨form, amount, currency, debit, credit, executeBy⟩ := i
  cases form with
  | debit => exact h.isAccountId_first
  | credit => exact h.isAccountId_second

theorem isAccountId_credit : isAccountId i.creditAccount = true := by
  obtain ⟨form, amount, currency, debit, credit, executeBy⟩ := i
  cases form with
  | debit => exact h.isAccountId_second
  | credit => exact h.isAccountId_first

/-- Without a currency there would be a space at the end of the field. -/
theorem currency_ne_nil : i.currency ≠ [] := by
  intro hnil
  have hlast := (trim_eq_self_iff.1 h.trimmed).2 ' '
  rw [hnil, List.getLast?_concat] at hlast
  exact absurd (hlast rfl) (by decide)

/-- The first piece of the field is the amount, and all others are the currency. -/
theorem splitOn_field : (i.amount ++ ' ' :: i.currency).splitOn ' '
    = i.amount :: i.currency.splitOn ' ' :=
  List.splitOn_append_cons_self_of_not_mem h.space_notMem_amount _

/-- Each piece of the field has something to read in it. -/
theorem exists_visible {w : Text} (hw : w ∈ i.amount :: i.currency.splitOn ' ') :
    ∃ c ∈ w, isBlank c = false := by
  rw [← h.splitOn_field] at hw
  simpa [isBlankText] using h.not_blank w hw

theorem amount_ne_nil : i.amount ≠ [] := by
  obtain ⟨c, hc, -⟩ := h.exists_visible List.mem_cons_self
  exact List.ne_nil_of_mem hc

end WellFormed

theorem isDateText_of_dateAt {clean : Text} {place : Option Nat} {executeBy : Option Text}
    (h : dateAt clean place = .ok executeBy) :
    ∀ date ∈ executeBy, Remit.isDateText date = true := by
  intro date hmem
  rw [Option.mem_def] at hmem
  cases place with
  | none =>
    rw [dateAt, hmem] at h
    cases h
  | some place =>
    rcases dateField_eq_ok_iff.1 h with ⟨-, hnone⟩ | ⟨found, -, hdate, hsome⟩
    · rw [hmem] at hnone
      cases hnone
    · rw [hmem, Option.some.injEq] at hsome
      exact hsome ▸ hdate

/-- Fields that stand at marks of a text in normal form are well formed. -/
theorem FieldsAt.wellFormed {form : Form} {t : Text} {marks : Marks} {i : Instruction}
    (h : FieldsAt form (normalize t) marks i) : WellFormed i := by
  have hne : i.amount ++ ' ' :: i.currency ≠ [] := by simp
  have htrim : trim (i.amount ++ ' ' :: i.currency) = i.amount ++ ' ' :: i.currency := by
    rw [← h.amount_currency, trim_trim]
  have hinfix : i.amount ++ ' ' :: i.currency <:+: normalize t := by
    rw [← h.amount_currency]
    exact (isInfix_trim _).trans (isInfix_cut _ _ _)
  have hnormal : normalize t ≠ [] := by
    intro hnil
    rw [hnil, List.infix_nil] at hinfix
    exact hne hinfix
  exact ⟨h.space_notMem_amount, htrim,
    fun w hw => isBlankText_of_mem_splitOn_infix hinfix
      (fun v hv => isBlankText_of_mem_splitOn_normalize hnormal hv) htrim hne hw,
    h.isAccountId_first, h.isAccountId_second, isDateText_of_dateAt h.date⟩

/-- What is read from a text is well formed. -/
theorem wellFormed_of_parse {t : Text} {i : Instruction} (h : parse t = .ok i) : WellFormed i := by
  obtain ⟨form, -, hform⟩ := parse_eq_ok_iff.1 h
  obtain ⟨marks, -, hfields⟩ := ofForm_eq_ok_iff.1 hform
  exact hfields.wellFormed

/-- The characters of account ids. -/
def accountIdAlphabet : Text :=
  "abcdefghijklmnopqrstuvwxyzABCDEFGHIJKLMNOPQRSTUVWXYZ0123456789-@.".toList

theorem isAccountIdChar_iff_mem {c : Char} :
    isAccountIdChar c = true ↔ c ∈ accountIdAlphabet := by
  have hascii : ∀ n < 0x7f, isAccountIdChar (Char.ofNat n) = true
      ↔ Char.ofNat n ∈ accountIdAlphabet := by
    decide +kernel
  have halphabet : accountIdAlphabet.all isAccountIdChar = true := by decide
  constructor
  · intro h
    have hc := hascii c.toNat (isVisible_of_isAccountIdChar h).2
    rw [Char.ofNat_toNat] at hc
    exact hc.1 h
  · exact List.all_eq_true.1 halphabet c

theorem ne_nil_and_alphabet_of_isAccountId {id : Text} (h : isAccountId id = true) :
    id ≠ [] ∧ ∀ c ∈ id, c ∈ accountIdAlphabet := by
  refine ⟨ne_nil_of_isAccountId h, fun c hc => isAccountIdChar_iff_mem.1 ?_⟩
  rw [isAccountId, Bool.and_eq_true, List.all_eq_true] at h
  exact h.2 c hc

/-- What is read from a text has all of its fields, wherever the text is cut: there is an amount
without a space in it and a currency, each piece of which has something to read, two ids in the
alphabet of ids, and nothing but a date as the date. -/
theorem fields_of_parse {t : Text} {i : Instruction} (h : parse t = .ok i) :
    (i.amount ≠ [] ∧ ' ' ∉ i.amount) ∧ i.currency ≠ []
      ∧ (∀ w ∈ i.amount :: i.currency.splitOn ' ', ∃ c ∈ w, isBlank c = false)
      ∧ (i.debitAccount ≠ [] ∧ ∀ c ∈ i.debitAccount, c ∈ accountIdAlphabet)
      ∧ (i.creditAccount ≠ [] ∧ ∀ c ∈ i.creditAccount, c ∈ accountIdAlphabet)
      ∧ ∀ date ∈ i.executeBy, isDateText date = true := by
  have hi := wellFormed_of_parse h
  exact ⟨⟨hi.amount_ne_nil, hi.space_notMem_amount⟩, hi.currency_ne_nil,
    fun _ hw => hi.exists_visible hw, ne_nil_and_alphabet_of_isAccountId hi.isAccountId_debit,
    ne_nil_and_alphabet_of_isAccountId hi.isAccountId_credit, hi.isDateText⟩

/-- In upper case the amount is one character longer, so everything behind it is cut one character
too late: the ids and the date lose their first letters. -/
theorem fields_of_parse_shifted :
    ∃ i, parse "debit  5ß U\tS  \t D FROM ACCOUNT xA FOR CREDIT TO ACCOUNT yB ON z2025-02-31".toList
        = .ok i
      ∧ i.currency.splitOn ' ' = ["U\tS".toList, "D".toList] ∧ i.debitAccount = "A".toList
      ∧ (∀ w ∈ i.amount :: i.currency.splitOn ' ', ∃ c ∈ w, isBlank c = false)
      ∧ ∀ date ∈ i.executeBy, isDateText date = true := by
  have hparse : parse
      "debit  5ß U\tS  \t D FROM ACCOUNT xA FOR CREDIT TO ACCOUNT yB ON z2025-02-31".toList
      = .ok ⟨.debit, "5ß".toList, "U\tS D".toList, "A".toList, "B".toList,
        some "2025-02-31".toList⟩ := by
    decide +kernel
  obtain ⟨-, -, hwords, -, -, hdate⟩ := fields_of_parse hparse
  exact ⟨_, hparse, by decide, rfl, hwords, hdate⟩

/-! ## The words of a written instruction -/

/-- The words of the date clause. -/
def dateWords : Option Text → List Text
  | none | some [] => []
  | some date => dateKeyword ++ [date]

/-- The words of an instruction written in its form. -/
def textWords (i : Instruction) : List Text :=
  i.form.word :: ((i.amount ++ ' ' :: i.currency).splitOn ' '
    ++ (i.form.firstKeyword ++ i.firstAccount ::
      (i.form.secondKeyword ++ i.secondAccount :: dateWords i.executeBy)))

theorem dateClause_eq_spaced (executeBy : Option Text) :
    dateClause executeBy = spaced (dateWords executeBy) := by
  match executeBy with
  | none => rfl
  | some [] => rfl
  | some (c :: date) =>
    show dateMarker ++ c :: date = spaced (dateKeyword ++ [c :: date])
    rw [dateMarker, marker_eq_spaced dateKeyword_ne_nil, spaced_append, spaced_cons, spaced_nil]
    simp

/-- An instruction is written as the row of its words. -/
theorem text_eq_unpieces (i : Instruction) : i.text = unpieces (textWords i) := by
  have hfield : spaced ((i.amount ++ ' ' :: i.currency).splitOn ' ')
      = ' ' :: (i.amount ++ ' ' :: i.currency) := by
    rw [spaced_eq_cons (List.splitOn_ne_nil _ _), unpieces, List.intercalate_splitOn]
  rw [textWords, unpieces_cons, spaced_append, hfield, spaced_append, spaced_cons, spaced_append,
    spaced_cons, text, dateClause_eq_spaced, Form.opening, Form.firstMarker, Form.secondMarker,
    marker_eq_spaced i.form.firstKeyword_ne_nil, marker_eq_spaced i.form.secondKeyword_ne_nil]
  simp

private theorem isBlankText_of_isVisible {w : Text} (hne : w ≠ []) (h : ∀ c ∈ w, IsVisible c) :
    IsWord w ∧ isBlankText w = false := by
  refine ⟨⟨hne, fun hspace => (h ' ' hspace).ne_space rfl⟩, ?_⟩
  obtain ⟨c, rest, rfl⟩ := List.exists_cons_of_ne_nil hne
  simp [isBlankText, (h c List.mem_cons_self).isBlank]

/-- The words of a well-formed instruction are words, and none is blank. -/
theorem WellFormed.isWord_textWords {i : Instruction} (h : WellFormed i) :
    ∀ w ∈ textWords i, IsWord w ∧ isBlankText w = false := by
  have hkeywords : ∀ form : Form, ∀ w ∈ form.word :: (form.firstKeyword ++ form.secondKeyword),
      IsWord w ∧ isBlankText w = false := by
    intro form
    cases form <;> decide
  have hdateKeyword : ∀ w ∈ dateKeyword, IsWord w ∧ isBlankText w = false := by
    decide
  have hdate : ∀ w ∈ dateWords i.executeBy, IsWord w ∧ isBlankText w = false := by
    intro w hw
    unfold dateWords at hw
    split at hw
    · cases hw
    · cases hw
    · next date _ heq =>
      rcases List.mem_append.1 hw with hw | hw
      · exact hdateKeyword w hw
      · rw [List.mem_singleton] at hw
        have hform := h.isDateText date heq
        rw [hw]
        exact isBlankText_of_isVisible (ne_nil_of_isDateText hform) (isVisible_of_isDateText hform)
  intro w hw
  rw [textWords] at hw
  simp only [List.mem_cons, List.mem_append] at hw
  rcases hw with hw | hw | hw | hw | hw | hw | hw
  · exact hkeywords i.form w (by simp [hw])
  · have hblank := h.not_blank w hw
    refine ⟨⟨?_, space_notMem_of_mem_splitOn hw⟩, hblank⟩
    rintro rfl
    cases hblank
  · exact hkeywords i.form w (by simp [hw])
  · rw [hw]
    exact isBlankText_of_isVisible (ne_nil_of_isAccountId h.isAccountId_first)
      (isVisible_of_isAccountId h.isAccountId_first)
  · exact hkeywords i.form w (by simp [hw])
  · rw [hw]
    exact isBlankText_of_isVisible (ne_nil_of_isAccountId h.isAccountId_second)
      (isVisible_of_isAccountId h.isAccountId_second)
  · exact hdate w hw

/-- The text of a well-formed instruction is in normal form. -/
theorem WellFormed.normalize_text {i : Instruction} (h : WellFormed i) :
    normalize i.text = i.text := by
  rw [text_eq_unpieces, normalize_unpieces h.isWord_textWords]

/-- A written instruction is read in the form in which it is written. -/
theorem WellFormed.parse_text {i : Instruction} (h : WellFormed i) :
    parse i.text = ofForm i.form i.text (upper i.text) := by
  have hopening : Form.ofOpening? (upper i.text) = some i.form := by
    rw [ofOpening?_eq_some_iff, text]
    simp only [upper_append, List.append_assoc]
    have hupper : upper i.form.opening = i.form.opening := by
      cases i.form <;> decide
    rw [hupper]
    exact List.prefix_append _ _
  rw [parse, h.normalize_text, hopening]

end Instruction
end Remit
