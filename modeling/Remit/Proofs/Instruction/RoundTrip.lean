import Remit.Proofs.Instruction.WellFormed

/-!
# Writing an instruction and reading it again

An instruction that was read from some text can be written in its form, but reading that text again
need not give the instruction back: a currency may end in the word `ON` that white space kept apart
from the space after it, and a character whose upper case is longer moves the places of all keywords
behind it.

`parse_text_eq_ok_iff` is the exact condition. The instruction is read again if and only if the
search in the upper case finds the keywords where they were written (`AsWritten`). One direction
computes the cuts; the other compares lengths, since fields cut at any other places would together
be shorter than what was written (`FieldsAt.asWritten`).

Texts in which the space is the only white space and upper-casing keeps lengths always meet the
condition: there the text read and the text written have the same upper case
(`upper_text_eq_upper_normalize`).
-/

namespace Remit

open Text

namespace Text

/-- The middle part of a text is cut out at its own ends. -/
theorem cut_of_eq_append {t a b c : Text} (ht : t = a ++ (b ++ c)) {start stop : Nat}
    (hstart : start = a.length) (hstop : stop = a.length + b.length) : cut t start stop = b := by
  rw [ht, hstart, hstop, cut, ← List.append_assoc, ← List.length_append, List.take_left,
    List.drop_left]

/-- A cut ends with the text at the latest. -/
theorem cut_min_length (t : Text) (start stop : Nat) :
    cut t start (min stop t.length) = cut t start stop := by
  rw [cut, cut, ← List.take_take, List.take_length]

theorem length_cut (t : Text) (start stop : Nat) :
    (cut t start stop).length = min stop t.length - start := by
  rw [cut, List.length_drop, List.length_take]

end Text

namespace Instruction

/-! ## The places of keywords in a written instruction -/

/-- The place at which the marker of the first account is written. -/
def firstPlace (i : Instruction) : Nat :=
  i.form.opening.length + (i.amount ++ ' ' :: i.currency).length

/-- The place at which the marker of the second account is written. -/
def secondPlace (i : Instruction) : Nat :=
  i.firstPlace + i.form.firstMarker.length + i.firstAccount.length

/-- The place at which the date clause is written, or the end of the text. -/
def datePlace (i : Instruction) : Nat :=
  i.secondPlace + i.form.secondMarker.length + i.secondAccount.length

/-- The marks are those places. A mark of the date keyword beyond the end of the text does not
count. -/
structure AsWritten (i : Instruction) (marks : Marks) : Prop where
  first : marks.first = i.firstPlace
  second : marks.second = i.secondPlace
  date : marks.date.filter (· < i.text.length) = i.executeBy.map fun _ => i.datePlace

theorem text_eq_append (i : Instruction) :
    i.text = i.form.opening ++ ((i.amount ++ ' ' :: i.currency) ++ (i.form.firstMarker
      ++ (i.firstAccount ++ (i.form.secondMarker ++ (i.secondAccount
      ++ dateClause i.executeBy))))) := by
  simp [text]

theorem length_text (i : Instruction) :
    i.text.length = i.datePlace + (dateClause i.executeBy).length := by
  rw [text_eq_append, datePlace, secondPlace, firstPlace]
  simp only [List.length_append]
  omega

theorem dateClause_some {date : Text} (h : date ≠ []) :
    dateClause (some date) = dateMarker ++ date := by
  obtain ⟨c, rest, rfl⟩ := List.exists_cons_of_ne_nil h
  rfl

/-- Every field has room between the marks. -/
theorem FieldsAt.le_marks {form : Form} {clean : Text} {marks : Marks} {i : Instruction}
    (h : FieldsAt form clean marks i) :
    i.firstPlace ≤ marks.first
      ∧ marks.first + form.firstMarker.length + i.firstAccount.length ≤ marks.second
      ∧ marks.second + form.secondMarker.length + i.secondAccount.length
        ≤ min (marks.date.getD clean.length) clean.length := by
  have hfield := length_trim_le (cut clean i.form.opening.length marks.first)
  have hfirst := length_trim_le (cut clean (marks.first + form.firstMarker.length) marks.second)
  have hsecond := length_trim_le
    (cut clean (marks.second + form.secondMarker.length) (marks.date.getD clean.length))
  rw [h.form_eq, h.amount_currency, length_cut] at hfield
  rw [h.first, length_cut] at hfirst
  rw [h.second, length_cut] at hsecond
  -- No field is empty, so each cut begins before it ends.
  have hfieldpos : 0 < (i.amount ++ ' ' :: i.currency).length := List.length_pos_iff.2 (by simp)
  have hfirstpos := List.length_pos_iff.2 (ne_nil_of_isAccountId h.isAccountId_first)
  have hsecondpos := List.length_pos_iff.2 (ne_nil_of_isAccountId h.isAccountId_second)
  rw [firstPlace, h.form_eq]
  omega

/-- A date has room behind the mark of its keyword. -/
theorem FieldsAt.le_length_of_date {form : Form} {clean : Text} {marks : Marks} {i : Instruction}
    (h : FieldsAt form clean marks i) {date : Text} (hdate : i.executeBy = some date) :
    date ≠ [] ∧ ∃ place, marks.date = some place
      ∧ place + dateMarker.length + date.length ≤ clean.length := by
  have hfield := h.date
  rw [hdate] at hfield
  cases hplace : marks.date with
  | none =>
    rw [hplace, dateAt] at hfield
    cases hfield
  | some place =>
    rw [hplace, dateAt] at hfield
    rcases dateField_eq_ok_iff.1 hfield with ⟨-, hnone⟩ | ⟨found, htrim, hform, hsome⟩
    · cases hnone
    · cases hsome
      have hne := ne_nil_of_isDateText hform
      have hpos := List.length_pos_iff.2 hne
      have hlen := length_trim_le (clean.drop (place + dateMarker.length))
      rw [htrim, List.length_drop] at hlen
      exact ⟨hne, place, rfl, by omega⟩

/-- Fields read at marks of a text as long as the written one leave no room between them: the marks
are the places at which the keywords are written. -/
theorem FieldsAt.asWritten {clean : Text} {marks : Marks} {i : Instruction}
    (h : FieldsAt i.form clean marks i) (hlen : clean.length = i.text.length) :
    AsWritten i marks := by
  obtain ⟨hfirst, hsecond, hstop⟩ := h.le_marks
  have htext := length_text i
  have hsecondPlace : i.secondPlace = i.firstPlace + i.form.firstMarker.length
    + i.firstAccount.length := rfl
  have hdatePlace : i.datePlace = i.secondPlace + i.form.secondMarker.length
    + i.secondAccount.length := rfl
  -- No field can begin earlier than where it is written, and the last one must end in time.
  cases hexecute : i.executeBy with
  | none =>
    rw [hexecute, dateClause, List.length_nil] at htext
    refine ⟨by omega, by omega, ?_⟩
    rw [hexecute, Option.map_none, Option.filter_eq_none_iff]
    intro place hplace
    rw [hplace, Option.getD_some] at hstop
    simp only [decide_eq_true_eq]
    omega
  | some date =>
    obtain ⟨hne, place, hplace, hroom⟩ := h.le_length_of_date hexecute
    have hpos := List.length_pos_iff.2 hne
    rw [hplace, Option.getD_some] at hstop
    rw [hexecute, dateClause_some hne, List.length_append] at htext
    refine ⟨by omega, by omega, ?_⟩
    rw [hplace, hexecute, Option.map_some, Option.filter_some, if_pos]
    · rw [Option.some.injEq]
      omega
    · simp only [decide_eq_true_eq]
      omega

theorem cut_text_field (i : Instruction) :
    cut i.text i.form.opening.length i.firstPlace = i.amount ++ ' ' :: i.currency :=
  cut_of_eq_append (text_eq_append i) rfl rfl

theorem cut_text_first (i : Instruction) :
    cut i.text (i.firstPlace + i.form.firstMarker.length) i.secondPlace = i.firstAccount := by
  refine cut_of_eq_append
    (a := i.form.opening ++ ((i.amount ++ ' ' :: i.currency) ++ i.form.firstMarker))
    (c := i.form.secondMarker ++ (i.secondAccount ++ dateClause i.executeBy)) ?_ ?_ ?_
  · rw [text_eq_append]
    simp only [List.append_assoc]
  · rw [firstPlace]
    simp only [List.length_append, Nat.add_assoc]
  · rw [secondPlace, firstPlace]
    simp only [List.length_append, Nat.add_assoc]

theorem cut_text_second (i : Instruction) :
    cut i.text (i.secondPlace + i.form.secondMarker.length) i.datePlace = i.secondAccount := by
  refine cut_of_eq_append
    (a := i.form.opening ++ ((i.amount ++ ' ' :: i.currency) ++ (i.form.firstMarker
      ++ (i.firstAccount ++ i.form.secondMarker))))
    (c := dateClause i.executeBy) ?_ ?_ ?_
  · rw [text_eq_append]
    simp only [List.append_assoc]
  · rw [secondPlace, firstPlace]
    simp only [List.length_append, Nat.add_assoc]
  · rw [datePlace, secondPlace, firstPlace]
    simp only [List.length_append, Nat.add_assoc]

theorem drop_text_datePlace (i : Instruction) :
    i.text.drop i.datePlace = dateClause i.executeBy := by
  have hhead : (i.form.opening ++ ((i.amount ++ ' ' :: i.currency) ++ (i.form.firstMarker
      ++ (i.firstAccount ++ (i.form.secondMarker ++ i.secondAccount))))).length
      = i.datePlace := by
    rw [datePlace, secondPlace, firstPlace]
    simp only [List.length_append, Nat.add_assoc]
  have htext : i.text = i.form.opening ++ ((i.amount ++ ' ' :: i.currency) ++ (i.form.firstMarker
      ++ (i.firstAccount ++ (i.form.secondMarker ++ i.secondAccount))))
      ++ dateClause i.executeBy := by
    rw [text_eq_append]
    simp only [List.append_assoc]
  rw [htext, ← hhead, List.drop_left]

/-- Marks that are as written lead to the date, and to the end of the second id before it. -/
theorem WellFormed.date_of_asWritten {i : Instruction} (hi : WellFormed i) {marks : Marks}
    (h : AsWritten i marks) :
    min (marks.date.getD i.text.length) i.text.length = i.datePlace
      ∧ dateAt i.text marks.date = .ok i.executeBy := by
  have hlen := length_text i
  have hdrop := drop_text_datePlace i
  have hdate := h.date
  cases hexecute : i.executeBy with
  | none =>
    rw [hexecute, dateClause, List.length_nil] at hlen
    rw [hexecute, Option.map_none, Option.filter_eq_none_iff] at hdate
    cases hplace : marks.date with
    | none => exact ⟨by rw [Option.getD_none]; omega, rfl⟩
    | some place =>
      -- Behind a mark beyond the end nothing is left to be read.
      have hbeyond := hdate place hplace
      simp only [decide_eq_true_eq, Nat.not_lt] at hbeyond
      refine ⟨by rw [Option.getD_some]; omega, ?_⟩
      rw [dateAt, List.drop_of_length_le (by omega)]
      rfl
  | some date =>
    have hform := hi.isDateText date hexecute
    rw [hexecute, dateClause_some (ne_nil_of_isDateText hform)] at hdrop
    rw [hexecute, Option.map_some] at hdate
    obtain ⟨hplace, -⟩ := Option.filter_eq_some_iff.1 hdate
    rw [hplace, Option.getD_some, dateAt, ← List.drop_drop, hdrop, List.drop_left]
    exact ⟨by omega, dateField_eq_ok_iff.2
      (Or.inr ⟨date, trim_of_isVisible (isVisible_of_isDateText hform), hform, rfl⟩)⟩

/-- At the places at which the keywords are written, the fields are read. -/
theorem WellFormed.fieldsAt {i : Instruction} (hi : WellFormed i) {marks : Marks}
    (h : AsWritten i marks) : FieldsAt i.form i.text marks i := by
  obtain ⟨hstop, hdate⟩ := hi.date_of_asWritten h
  have hsecond : cut i.text (marks.second + i.form.secondMarker.length)
      (marks.date.getD i.text.length) = i.secondAccount := by
    rw [← cut_min_length, hstop, h.second, cut_text_second]
  exact {
    form_eq := rfl
    amount_currency := by rw [h.first, cut_text_field, hi.trimmed]
    space_notMem_amount := hi.space_notMem_amount
    first := by
      rw [h.first, h.second, cut_text_first,
        trim_of_isVisible (isVisible_of_isAccountId hi.isAccountId_first)]
    isAccountId_first := hi.isAccountId_first
    second := by
      rw [hsecond, trim_of_isVisible (isVisible_of_isAccountId hi.isAccountId_second)]
    isAccountId_second := hi.isAccountId_second
    date := hdate }

/-- A well-formed instruction is read again from its text exactly if its keywords are found where
they are written. -/
theorem WellFormed.parse_text_eq_ok_iff {i : Instruction} (hi : WellFormed i) :
    parse i.text = .ok i
      ↔ ∃ marks, i.form.marks (upper i.text) = .ok marks ∧ AsWritten i marks := by
  rw [hi.parse_text, ofForm_eq_ok_iff]
  constructor
  · rintro ⟨marks, hmarks, hfields⟩
    exact ⟨marks, hmarks, hfields.asWritten rfl⟩
  · rintro ⟨marks, hmarks, hwritten⟩
    exact ⟨marks, hmarks, hi.fieldsAt hwritten⟩

/-! ## Plain texts -/

/-- What the fields are of an instruction that was read from words. -/
theorem ofFormWords_ok {form : Form} {ws : List Text} {i : Instruction}
    (h : ofFormWords form ws = .ok i) :
    ∃ p q, form.occurrences (ws.map upper) = .ok (p, q) ∧ i.form = form
      ∧ unpieces (between ws 1 p) = i.amount ++ ' ' :: i.currency
      ∧ between ws (p + form.firstKeyword.length) q = [i.firstAccount]
      ∧ between ws (q + form.secondKeyword.length)
          ((firstOccurrence dateKeyword (ws.map upper)).getD ws.length) = [i.secondAccount]
      ∧ dateAfter ws (firstOccurrence dateKeyword (ws.map upper)) = .ok i.executeBy := by
  obtain ⟨⟨p, q⟩, hocc, h⟩ := bind_eq_ok_iff.1 h
  obtain ⟨⟨amount, currency⟩, hfield, h⟩ := bind_eq_ok_iff.1 h
  obtain ⟨executeBy, hdate, h⟩ := bind_eq_ok_iff.1 h
  unfold ofFieldWords at h
  split at h
  · next a b hfirst hsecond =>
    have h := (ofFieldWords_singleton form amount currency a b executeBy).symm.trans h
    obtain ⟨-, -, hform, hamount, hcurrency, ha, hb, hexecute⟩ := ofFields_eq_ok_iff.1 h
    refine ⟨p, q, hocc, hform, ?_, by rw [ha]; exact hfirst, by rw [hb]; exact hsecond,
      by rw [hexecute]; exact hdate⟩
    unfold amountAndCurrencyOfWords at hfield
    split at hfield
    · next c more rest hrow =>
      cases hfield
      rw [hrow, hamount, hcurrency, unpieces_cons, spaced_eq_cons (List.cons_ne_nil _ _)]
    · cases hfield
  · cases h

theorem upper_keywords (form : Form) : form.firstKeyword.map upper = form.firstKeyword
    ∧ form.secondKeyword.map upper = form.secondKeyword ∧ upper form.word = form.word := by
  cases form <;> decide

theorem dateWords_some {date : Text} (h : date ≠ []) :
    dateWords (some date) = dateKeyword ++ [date] := by
  obtain ⟨c, rest, rfl⟩ := List.exists_cons_of_ne_nil h
  rfl

/-- The words from the date keyword on are those of the date clause. -/
theorem drop_of_dateAfter {ws : List Text} {executeBy : Option Text}
    (h : dateAfter ws (firstOccurrence dateKeyword (ws.map upper)) = .ok executeBy) :
    (ws.map upper).drop ((firstOccurrence dateKeyword (ws.map upper)).getD ws.length)
      = (dateWords executeBy).map upper := by
  cases hplace : firstOccurrence dateKeyword (ws.map upper) with
  | none =>
    rw [hplace, dateAfter] at h
    cases h
    rw [Option.getD_none, List.drop_of_length_le (by simp)]
    rfl
  | some k =>
    have hocc := (firstOccurrence_eq_some_iff.1 hplace).1
    rw [hplace, dateAfter, dateOfWords.eq_def] at h
    rw [Option.getD_some, hocc.drop_eq]
    split at h
    · next date hrest =>
      split at h
      · next hform =>
        cases h
        rw [dateWords_some (ne_nil_of_isDateText hform), List.map_append, ← hrest, List.map_drop]
        rfl
      · cases h
    · cases h

/-- The words before the first keyword are those of amount and currency. -/
theorem between_eq_splitOn {ws : List Text} (hw : ∀ w ∈ ws, IsWord w) {i : Instruction} {p : Nat}
    (h : unpieces (between ws 1 p) = i.amount ++ ' ' :: i.currency) :
    between ws 1 p = (i.amount ++ ' ' :: i.currency).splitOn ' ' := by
  have hne : between ws 1 p ≠ [] := by
    intro hnil
    rw [hnil] at h
    exact absurd h.symm (by simp [unpieces])
  rw [← h, unpieces, List.splitOn_intercalate ' '
    (fun w hmem => (hw w (mem_of_mem_between hmem)).2) hne]

/-- Up to the case of its letters, an instruction is written with the words it was read from. -/
theorem map_upper_textWords {ws : List Text} (hw : ∀ w ∈ ws, IsWord w) {i : Instruction}
    (h : ofWords ws = .ok i) : (textWords i).map upper = ws.map upper := by
  rw [ofWords] at h
  split at h
  · next form hform =>
    obtain ⟨rest, -, hrest⟩ := ofWords?_eq_some_iff.1 hform
    obtain ⟨p, q, hocc, hiform, hfield, hfirst, hsecond, hdate⟩ := ofFormWords_ok h
    obtain ⟨hfirstKeyword, hsecondKeyword, hword⟩ := upper_keywords form
    obtain ⟨hp, hq, -⟩ := occurrences_eq_ok_iff.1 hocc
    have hpocc := (firstOccurrence_eq_some_iff.1 hp).1
    have hqocc := (firstOccurrence_eq_some_iff.1 hq).1
    have hrow := between_eq_splitOn hw hfield
    -- The row of words falls into opening word, fields, keywords and what follows.
    have hopening : ws.map upper = form.word :: (ws.map upper).drop 1 := by
      rw [hrest]
      rfl
    have hbefore := between_append_drop (ws.map upper) hpocc.1
    have hmiddle := between_append_drop (ws.map upper)
      (Nat.le_of_lt (lt_of_between_ne_nil (hfirst ▸ List.cons_ne_nil _ _)))
    have hlast := between_append_drop (ws.map upper)
      (Nat.le_of_lt (lt_of_between_ne_nil (hsecond ▸ List.cons_ne_nil _ _)))
    rw [← map_between, hrow] at hbefore
    rw [← map_between, hfirst] at hmiddle
    rw [← map_between, hsecond] at hlast
    rw [hopening, ← hbefore, hpocc.drop_eq, ← hmiddle, hqocc.drop_eq, ← hlast,
      drop_of_dateAfter hdate, textWords, hiform]
    simp only [List.map_cons, List.map_append, List.map_nil, List.cons_append, List.nil_append,
      hfirstKeyword, hsecondKeyword, hword]
  · cases h

/-- No upper case in a written instruction is longer than its character if none was in the text
read. -/
theorem FieldsAt.keepsLength_text {form : Form} {clean : Text} {marks : Marks} {i : Instruction}
    (h : FieldsAt form clean marks i) (hkeep : KeepsLength clean) : KeepsLength i.text := by
  have hvisible : ∀ s : Text, (∀ c ∈ s, IsVisible c) → KeepsLength s :=
    fun s hs c hc => (hs c hc).length_upperChar
  have hkeywords : ∀ form : Form, KeepsLength form.opening ∧ KeepsLength form.firstMarker
      ∧ KeepsLength form.secondMarker := by
    intro form
    cases form <;> decide
  have hfield : KeepsLength (i.amount ++ ' ' :: i.currency) := by
    rw [← h.amount_currency]
    apply hkeep.subset
    intro c hc
    exact (isInfix_cut _ _ _).subset (mem_of_mem_trim hc)
  have hdate : KeepsLength (dateClause i.executeBy) := by
    cases hexecute : i.executeBy with
    | none => exact fun c hc => by cases hc
    | some date =>
      have hform := isDateText_of_dateAt h.date date hexecute
      rw [dateClause_some (ne_nil_of_isDateText hform)]
      exact KeepsLength.append (by decide) (hvisible date (isVisible_of_isDateText hform))
  -- Only amount and currency can hold anything but ASCII, and they come from the text read.
  obtain ⟨hopening, hfirst, hsecond⟩ := hkeywords i.form
  rw [text_eq_append]
  apply hopening.append
  apply hfield.append
  apply hfirst.append
  apply (hvisible _ (isVisible_of_isAccountId h.isAccountId_first)).append
  apply hsecond.append
  exact (hvisible _ (isVisible_of_isAccountId h.isAccountId_second)).append hdate

/-- A plain text and what is written of it have the same upper case. -/
theorem upper_text_eq_upper_normalize {t : Text} (hplain : ∀ w ∈ pieces t, IsPlainWord w)
    {i : Instruction} (h : parse t = .ok i) : upper i.text = upper (normalize t) := by
  rw [parse_eq_ofWords_pieces hplain] at h
  rw [text_eq_unpieces, Text.normalize, upper_unpieces, upper_unpieces,
    map_upper_textWords (fun w hw => (hplain w hw).1) h]

/-- What is read from a plain text has its keywords where they are written. -/
theorem asWritten_of_parse {t : Text} (hplain : ∀ w ∈ pieces t, IsPlainWord w) {i : Instruction}
    (h : parse t = .ok i) :
    ∃ marks, i.form.marks (upper i.text) = .ok marks ∧ AsWritten i marks := by
  have hupper := upper_text_eq_upper_normalize hplain h
  obtain ⟨form, -, hform⟩ := parse_eq_ok_iff.1 h
  obtain ⟨marks, hmarks, hfields⟩ := ofForm_eq_ok_iff.1 hform
  have hkeep : KeepsLength (normalize t) := keepsLength_unpieces fun w hw => (hplain w hw).2.2
  have hlen : (normalize t).length = i.text.length := by
    rw [← keepsLength_iff.1 hkeep, ← keepsLength_iff.1 (hfields.keepsLength_text hkeep), hupper]
  obtain rfl := hfields.form_eq
  exact ⟨marks, by rw [hupper, hmarks], hfields.asWritten hlen⟩

/-- An instruction that was read from a text is read again from the text written of it exactly if
its keywords are found there where they are written. It always is when the space is the only white
space in the text and no upper case is longer than its character. -/
theorem parse_text_of_parse {t : Text} {i : Instruction} (h : parse t = .ok i) :
    (parse i.text = .ok i
        ↔ ∃ marks, i.form.marks (upper i.text) = .ok marks ∧ AsWritten i marks)
      ∧ (KeepsLength t → SpacesOnly t → parse i.text = .ok i) := by
  have hwritten := (wellFormed_of_parse h).parse_text_eq_ok_iff
  refine ⟨hwritten, fun hkeep hblank => ?_⟩
  exact hwritten.2 (asWritten_of_parse (isPlainWord_of_mem_pieces hkeep hblank) h)

/-- Letters of either case, doubled spaces and keywords inside the currency do no harm. -/
theorem parse_text_of_parse_lowerCase :
    parse "credit 5  to Ngn to account b for debit from account A on 2025-02-03".toList
        = .ok ⟨.credit, "5".toList, "to Ngn".toList, "A".toList, "b".toList,
          some "2025-02-03".toList⟩
      ∧ parse (text ⟨.credit, "5".toList, "to Ngn".toList, "A".toList, "b".toList,
          some "2025-02-03".toList⟩)
        = .ok ⟨.credit, "5".toList, "to Ngn".toList, "A".toList, "b".toList,
          some "2025-02-03".toList⟩ := by
  have hread : parse "credit 5  to Ngn to account b for debit from account A on 2025-02-03".toList
      = .ok ⟨.credit, "5".toList, "to Ngn".toList, "A".toList, "b".toList,
        some "2025-02-03".toList⟩ := by
    decide +kernel
  exact ⟨hread, (parse_text_of_parse hread).2 (by decide +kernel) (by decide +kernel)⟩

/-- A tab keeps the word `ON` at the end of the currency from being read as the date keyword. It is
trimmed off with the currency, so that the written text has a date. -/
theorem parse_text_currency_on :
    parse "DEBIT 5 USD ON\t FROM ACCOUNT A FOR CREDIT TO ACCOUNT B".toList
        = .ok ⟨.debit, "5".toList, "USD ON".toList, "A".toList, "B".toList, none⟩
      ∧ parse (text ⟨.debit, "5".toList, "USD ON".toList, "A".toList, "B".toList, none⟩)
        = .error .invalidDateFormat := by
  decide +kernel

end Instruction
end Remit
