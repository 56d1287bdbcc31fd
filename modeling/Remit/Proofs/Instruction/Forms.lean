import Remit.Proofs.Instruction.Spelling

/-!
# One instruction in two forms

The same instruction can be written in either form. This module says when its words are read as
they were meant, whatever they are otherwise: amount and currency need not be acceptable, nor the
ids well formed.

* `Form.row` is the row of words that a form makes of its fields. `occurrences_row`,
  `firstOccurrence_row_nil` and `firstOccurrence_row_date` find the keywords in it. A keyword can
  only be found too early inside a field, since its words do not overlap with another keyword or
  with itself;
* `Unmistakable` collects the conditions, and `Unmistakable.ofWords_row` says what is read then from
  the words in any spelling;
* `Interchangeable` is enough for both forms, and `Interchangeable.parse_text` says that they are
  read alike: with the same faults, or as the same instruction but for the form.
-/

namespace Remit

open Text

namespace Text

/-- A word of a phrase stands at its place in an occurrence of the phrase. -/
theorem OccursAt.getElem? {phrase ws : List Text} {i : Nat} (h : OccursAt phrase ws i) {k : Nat}
    (hk : k < phrase.length) : ws[i + k]? = phrase[k]? := by
  have htake := congrArg (fun vs : List Text => vs[k]?) h.2.1
  rw [List.getElem?_take_of_lt hk, List.getElem?_drop] at htake
  exact htake

/-- An occurrence that ends inside a stretch behind the first word is one of the stretch. -/
theorem OccursAt.isInfix {phrase field rest : List Text} {w : Text} {i : Nat}
    (h : OccursAt phrase (w :: (field ++ rest)) (i + 1)) (hi : i + phrase.length ≤ field.length) :
    phrase <:+: field := by
  have htake := h.2.1
  rw [List.drop_succ_cons, List.drop_append_of_le_length (by omega),
    List.take_append_of_le_length (by rw [List.length_drop]; omega)] at htake
  rw [← htake]
  exact (List.take_prefix _ _).isInfix.trans (List.drop_suffix i field).isInfix

/-- A word does not occur among words that it is none of. -/
theorem OccursAt.length_lt {v w : Text} {ws rest : List Text} (hv : v ∉ ws) {i : Nat}
    (h : OccursAt [v] (w :: (ws ++ rest)) i) : ws.length < i := by
  obtain ⟨i, rfl⟩ : ∃ j, i = j + 1 := ⟨i - 1, by have := h.1; omega⟩
  refine Nat.lt_succ_of_le (Nat.le_of_not_lt fun hlt => hv ?_)
  have hword := h.getElem? (k := 0) Nat.zero_lt_one
  rw [Nat.add_zero, List.getElem?_cons_succ, List.getElem?_append_left hlt] at hword
  exact List.mem_of_getElem? hword

end Text

/-! ## Keywords in a row of words -/

namespace Form

/-- The words of an instruction in a form: the words of amount and currency, the two ids in the
order of the form, and the date with its keyword. -/
def row (form : Form) (field : List Text) (first second : Text) (date : List Text) : List Text :=
  form.word :: (field ++ (form.firstKeyword ++ first :: (form.secondKeyword ++ second :: date)))

theorem map_upper_row (form : Form) (field : List Text) (first second : Text) (date : List Text) :
    (form.row field first second date).map upper
      = form.row (field.map upper) (upper first) (upper second) (date.map upper) := by
  obtain ⟨hfirst, hsecond, hword⟩ := Instruction.upper_keywords form
  simp only [row, List.map_cons, List.map_append, hfirst, hsecond, hword]

section

variable (form : Form) (field : List Text) (first second : Text) (date : List Text)

theorem drop_row (k : Nat) : (form.row field first second date).drop (field.length + 1 + k)
    = (form.firstKeyword ++ first :: (form.secondKeyword ++ second :: date)).drop k := by
  rw [row, ← List.cons_append, ← List.drop_drop, ← List.length_cons, List.drop_left]

theorem getElem?_row (k : Nat) : (form.row field first second date)[field.length + 1 + k]?
    = (form.firstKeyword ++ first :: (form.secondKeyword ++ second :: date))[k]? := by
  rw [← List.getElem?_drop, ← Nat.add_zero (field.length + 1), drop_row, List.drop_zero]

theorem length_row :
    (form.row field first second date).length = field.length + 9 + date.length := by
  simp only [row, List.length_cons, List.length_append, length_firstKeyword, length_secondKeyword]
  omega

theorem drop_row_second : (form.row field first second date).drop (field.length + 4)
    = form.secondKeyword ++ second :: date := by
  rw [show field.length + 4 = field.length + 1 + 3 from rfl, drop_row]
  cases form <;> rfl

theorem drop_row_date : (form.row field first second date).drop (field.length + 9) = date := by
  rw [show field.length + 9 = field.length + 1 + 8 from rfl, drop_row]
  cases form <;> rfl

end

section

variable {form : Form} {field : List Text} {first second : Text} {date : List Text}

/-- The first keyword is found behind the field unless the field has it. -/
theorem firstOccurrence_first_row (h : ¬ form.firstKeyword <:+: field) :
    firstOccurrence form.firstKeyword (form.row field first second date)
      = some (field.length + 1) := by
  refine firstOccurrence_eq_some_iff.2 ⟨occursAt_iff.2 ⟨by omega, _, List.cons_ne_nil _ _,
    drop_row form field first second date 0⟩, fun j hj hocc => ?_⟩
  obtain ⟨i, rfl⟩ : ∃ i, j = i + 1 := ⟨j - 1, by have := hocc.1; omega⟩
  have hlen := form.length_firstKeyword
  rcases Nat.lt_or_ge field.length (i + 2) with hover | hinside
  · -- Its second word would stand where its first one does.
    have hword := hocc.getElem? (k := 1) (by omega)
    rw [show i + 1 + 1 = field.length + 1 + 0 by omega, getElem?_row] at hword
    cases form <;> exact absurd hword (by simp [firstKeyword])
  · exact h (hocc.isInfix (by omega))

/-- The second keyword is found behind the first id unless the field has it. -/
theorem firstOccurrence_second_row (h : ¬ form.secondKeyword <:+: field) :
    firstOccurrence form.secondKeyword (form.row field first second date)
      = some (field.length + 4) := by
  refine firstOccurrence_eq_some_iff.2 ⟨occursAt_iff.2 ⟨by omega, _, List.cons_ne_nil _ _,
    drop_row_second form field first second date⟩, fun j hj hocc => ?_⟩
  obtain ⟨i, rfl⟩ : ∃ i, j = i + 1 := ⟨j - 1, by have := hocc.1; omega⟩
  have hlen := form.length_secondKeyword
  have hfirst : ∀ k < 4, form.secondKeyword[k]? ≠ form.firstKeyword[0]? := by
    cases form <;> decide
  rcases Nat.lt_or_ge field.length (i + 4) with hover | hinside
  · rcases Nat.lt_trichotomy i (field.length + 1) with hbefore | rfl | hbehind
    · -- It would go over the first word of the first keyword, which is none of its words.
      have hword := hocc.getElem? (k := field.length - i) (by omega)
      rw [show i + 1 + (field.length - i) = field.length + 1 + 0 by omega, getElem?_row,
        List.getElem?_append_left (by cases form <;> decide)] at hword
      exact hfirst _ (by omega) hword.symm
    · -- It would begin with the second word of the first keyword.
      have hword := hocc.getElem? (k := 0) (by omega)
      rw [show field.length + 1 + 1 + 0 = field.length + 1 + 1 from rfl, getElem?_row] at hword
      cases form <;> exact absurd hword (by simp [firstKeyword, secondKeyword])
    · -- It would begin with the first id and go on with its own first word.
      obtain rfl : i = field.length + 2 := by omega
      have hword := hocc.getElem? (k := 1) (by omega)
      rw [show field.length + 2 + 1 + 1 = field.length + 1 + 3 by omega, getElem?_row] at hword
      cases form <;> exact absurd hword (by simp [firstKeyword, secondKeyword])
  · exact h (hocc.isInfix (by omega))

theorem occurrences_row (hfirst : ¬ form.firstKeyword <:+: field)
    (hsecond : ¬ form.secondKeyword <:+: field) :
    form.occurrences (form.row field first second date)
      = .ok (field.length + 1, field.length + 4) :=
  occurrences_eq_ok_iff.2
    ⟨firstOccurrence_first_row hfirst, firstOccurrence_second_row hsecond, by omega⟩

/-- Without a date no date keyword is found, even if the second id is one. -/
theorem firstOccurrence_row_nil {dateWord : Text} (hfield : dateWord ∉ field)
    (hfirst : first ≠ dateWord) (hkeywords : dateWord ∉ form.firstKeyword ++ form.secondKeyword) :
    firstOccurrence [dateWord] (form.row field first second []) = none := by
  have hnotMem : dateWord ∉ field ++ (form.firstKeyword ++ first :: form.secondKeyword) := by
    simp only [List.mem_append, List.mem_cons, not_or] at hkeywords ⊢
    exact ⟨hfield, hkeywords.1, hfirst.symm, hkeywords.2⟩
  have hlen : (field ++ (form.firstKeyword ++ first :: form.secondKeyword)).length
      = field.length + 7 := by
    cases form <;> rw [List.length_append] <;> rfl
  have hrow : form.row field first second []
      = form.word :: ((field ++ (form.firstKeyword ++ first :: form.secondKeyword))
        ++ [second]) := by
    simp [row]
  refine firstOccurrence_eq_none_iff.2 fun i hocc => ?_
  -- Behind those words there is only the last one, and no word follows it.
  have hend := hocc.2.2
  rw [length_row, List.length_singleton, List.length_nil] at hend
  rw [hrow] at hocc
  have hlt := hocc.length_lt hnotMem
  omega

/-- The keyword of a date is found behind the second id. -/
theorem firstOccurrence_row_date {dateWord : Text} (hfield : dateWord ∉ field)
    (hfirst : first ≠ dateWord) (hsecond : second ≠ dateWord)
    (hkeywords : dateWord ∉ form.firstKeyword ++ form.secondKeyword) (day : Text) :
    firstOccurrence [dateWord] (form.row field first second [dateWord, day])
      = some (field.length + 9) := by
  have hnotMem : dateWord
      ∉ field ++ (form.firstKeyword ++ first :: (form.secondKeyword ++ [second])) := by
    simp only [List.mem_append, List.mem_cons, List.not_mem_nil, or_false, not_or] at hkeywords ⊢
    exact ⟨hfield, hkeywords.1, hfirst.symm, hkeywords.2, hsecond.symm⟩
  have hlen : (field ++ (form.firstKeyword ++ first :: (form.secondKeyword ++ [second]))).length
      = field.length + 8 := by
    cases form <;> rw [List.length_append] <;> rfl
  have hdrop := drop_row_date form field first second [dateWord, day]
  refine firstOccurrence_eq_some_iff.2
    ⟨occursAt_iff.2 ⟨by omega, [day], List.cons_ne_nil _ _, hdrop⟩, fun i hi hocc => ?_⟩
  have hrow : form.row field first second [dateWord, day]
      = form.word :: ((field ++ (form.firstKeyword ++ first :: (form.secondKeyword ++ [second])))
        ++ [dateWord, day]) := by
    simp [row]
  rw [hrow] at hocc
  have hlt := hocc.length_lt hnotMem
  omega

end

end Form

/-! ## Reading a row of words -/

namespace Instruction

theorem textWords_eq_row (i : Instruction) :
    textWords i = i.form.row i.fieldWords i.firstAccount i.secondAccount (dateWords i.executeBy) :=
  rfl

theorem map_upper_textWords_eq_row (i : Instruction) : (textWords i).map upper
    = i.form.row (i.fieldWords.map upper) (upper i.firstAccount) (upper i.secondAccount)
      ((dateWords i.executeBy).map upper) := by
  rw [textWords_eq_row, Form.map_upper_row]

theorem amountAndCurrencyOfWords_fieldWords {i : Instruction} (h : ' ' ∉ i.amount) :
    amountAndCurrencyOfWords i.fieldWords = .ok (i.amount, i.currency) := by
  have hrow : unpieces (i.currency.splitOn ' ') = i.currency := List.intercalate_splitOn ' '
  obtain ⟨c, more, hsplit⟩ := List.exists_cons_of_ne_nil (List.splitOn_ne_nil ' ' i.currency)
  rw [fieldWords, List.splitOn_append_cons_self_of_not_mem h]
  rw [hsplit] at hrow ⊢
  rw [amountAndCurrencyOfWords, hrow]

/-- The date that an instruction states, if it has the form of a date. -/
def statedDate : Option Text → Except Cause (Option Text)
  | none | some [] => .ok none
  | some date => dateOfWords [date]

theorem statedDate_eq_ok {executeBy : Option Text}
    (h : ∀ date ∈ executeBy, isDateText date = true) : statedDate executeBy = .ok executeBy := by
  rcases executeBy with _ | _ | ⟨c, day⟩
  · rfl
  · exact absurd (h [] rfl) (by decide)
  · show dateOfWords [c :: day] = _
    rw [dateOfWords, if_pos (h _ rfl)]

/-- What holds of both accounts holds of the first and of the second one. -/
theorem accounts_of_form {i : Instruction} {P : Text → Prop} (hdebit : P i.debitAccount)
    (hcredit : P i.creditAccount) : P i.firstAccount ∧ P i.secondAccount := by
  unfold firstAccount secondAccount
  cases i.form with
  | debit => exact ⟨hdebit, hcredit⟩
  | credit => exact ⟨hcredit, hdebit⟩

/-- A written instruction has plain words only, if its fields have. -/
theorem isPlainWord_textWords {i : Instruction} (hfield : ∀ w ∈ i.fieldWords, IsPlainWord w)
    (hdebit : IsPlainWord i.debitAccount) (hcredit : IsPlainWord i.creditAccount)
    (hdate : ∀ date ∈ i.executeBy, IsPlainWord date) : ∀ w ∈ textWords i, IsPlainWord w := by
  have haccounts := accounts_of_form hdebit hcredit
  have hkeywords := i.form.isPlainWord_keywords
  rw [Form.keywords] at hkeywords
  have hclause : ∀ w ∈ dateWords i.executeBy, IsPlainWord w := by
    intro w hw
    match hexecute : i.executeBy with
    | none | some [] => simp [hexecute, dateWords] at hw
    | some (c :: day) =>
      have hwords : dateWords (some (c :: day)) = dateKeyword ++ [c :: day] := rfl
      rw [hexecute, hwords, List.mem_append, List.mem_singleton] at hw
      rcases hw with hw | rfl
      · exact hkeywords w (by simp [hw])
      · exact hdate _ hexecute
  intro w hw
  rw [textWords_eq_row, Form.row] at hw
  simp only [List.mem_cons, List.mem_append] at hw
  rcases hw with hw | hw | hw | rfl | hw | rfl | hw
  · exact hkeywords w (by simp [hw])
  · exact hfield w hw
  · exact hkeywords w (by simp [hw])
  · exact haccounts.1
  · exact hkeywords w (by simp [hw])
  · exact haccounts.2
  · exact hclause w hw

/-- The text of an instruction is read from the words it was written with. -/
theorem parse_text_eq_ofWords {i : Instruction} (h : ∀ w ∈ textWords i, IsPlainWord w) :
    parse i.text = ofWords (textWords i) := by
  have hpieces : pieces i.text = textWords i := by
    rw [text_eq_unpieces, pieces_unpieces]
    intro w hw
    obtain ⟨hword, hblank, -⟩ := h w hw
    obtain ⟨c, rest, rfl⟩ := List.exists_cons_of_ne_nil hword.1
    exact ⟨hword, by simp [isBlankText, hblank c List.mem_cons_self]⟩
  rw [parse_eq_ofWords_pieces (by rw [hpieces]; exact h), hpieces]

/-- No word of the instruction can be taken for a keyword, and all of them are plain. -/
structure Unmistakable (i : Instruction) : Prop where
  plain : ∀ w ∈ textWords i, IsPlainWord w
  space_notMem_amount : ' ' ∉ i.amount
  firstKeyword : ¬ i.form.firstKeyword <:+: i.fieldWords.map upper
  secondKeyword : ¬ i.form.secondKeyword <:+: i.fieldWords.map upper
  dateKeyword_field : "ON".toList ∉ i.fieldWords.map upper
  dateKeyword_first : upper i.firstAccount ≠ "ON".toList
  dateKeyword_second : dateWords i.executeBy = [] ∨ upper i.secondAccount ≠ "ON".toList

namespace Unmistakable

variable {i : Instruction} (h : Unmistakable i)

include h

/-- The date is read as it is stated, and the second id ends before it. -/
theorem date_row {ws : List Text} (hws : i.IsRowOf ws) :
    (firstOccurrence dateKeyword (ws.map upper)).getD ws.length = i.fieldWords.length + 9
      ∧ dateAfter ws (firstOccurrence dateKeyword (ws.map upper)) = statedDate i.executeBy := by
  have hkeywords : "ON".toList ∉ i.form.firstKeyword ++ i.form.secondKeyword := by
    cases i.form <;> decide
  have hlen : ws.length = i.fieldWords.length + 9 + (dateWords i.executeBy).length := by
    have hupper := congrArg List.length hws.upper_eq
    rwa [List.length_map, List.length_map, textWords_eq_row, Form.length_row] at hupper
  have hdate := hws.date
  rw [hws.upper_eq]
  match hexecute : i.executeBy with
  | none | some [] =>
    have hnil : dateWords i.executeBy = [] := by
      rw [hexecute]
      rfl
    have hnone : firstOccurrence dateKeyword ((textWords i).map upper) = none := by
      rw [map_upper_textWords_eq_row, hnil]
      exact Form.firstOccurrence_row_nil h.dateKeyword_field h.dateKeyword_first hkeywords
    rw [hnone, hlen, hnil]
    exact ⟨rfl, rfl⟩
  | some (c :: day) =>
    have hwords : dateWords i.executeBy = ["ON".toList, c :: day] := by
      rw [hexecute]
      rfl
    have hsecond := h.dateKeyword_second.resolve_left (by rw [hwords]; exact List.cons_ne_nil _ _)
    have hfound : firstOccurrence dateKeyword ((textWords i).map upper)
        = some (i.fieldWords.length + 9) := by
      have hrow := Form.firstOccurrence_row_date h.dateKeyword_field h.dateKeyword_first hsecond
        hkeywords (upper (c :: day))
      rw [List.length_map] at hrow
      rw [map_upper_textWords_eq_row, hwords]
      exact hrow
    rw [hwords] at hdate
    refine ⟨by rw [hfound]; rfl, ?_⟩
    rw [hfound, dateAfter, hdate]
    rfl

/-- Reading a row of the instruction checks the date, then the ids. -/
theorem ofWords_row {ws : List Text} (hws : i.IsRowOf ws) : ofWords ws
    = (statedDate i.executeBy).bind fun date =>
      ofFields i.form i.amount i.currency i.firstAccount i.secondAccount date := by
  obtain ⟨hend, hdate⟩ := h.date_row hws
  have hform : Form.ofWords? (ws.map upper) = some i.form := by
    rw [hws.upper_eq, map_upper_textWords_eq_row, ofWords?_eq_some_iff]
    exact ⟨_, by simp, rfl⟩
  have hocc : i.form.occurrences (ws.map upper)
      = .ok (i.fieldWords.length + 1, i.fieldWords.length + 4) := by
    rw [hws.upper_eq, map_upper_textWords_eq_row,
      Form.occurrences_row h.firstKeyword h.secondKeyword, List.length_map]
  have hfield : amountAndCurrencyOfWords (between ws 1 (i.fieldWords.length + 1))
      = .ok (i.amount, i.currency) := by
    rw [hws.field, amountAndCurrencyOfWords_fieldWords h.space_notMem_amount]
  rw [ofWords, hform]
  dsimp only
  rw [ofFormWords, hocc]
  simp only [bind, Except.bind, hfield, hdate, hend, hws.first, hws.second,
    ofFieldWords_singleton]

/-- In whatever spelling and with whatever spaces the words are written, they are read alike. -/
theorem parse_of_words {t : Text} (s : Spelling i.form) (ht : words t = i.wordsIn s) : parse t
    = (statedDate i.executeBy).bind fun date =>
      ofFields i.form i.amount i.currency i.firstAccount i.secondAccount date := by
  have hplain := isPlainWord_wordsIn h.plain s
  have hpieces : pieces t = i.wordsIn s := by
    rw [pieces_eq_words_of_plain (ht ▸ hplain), ht]
  rw [parse_eq_ofWords_pieces (hpieces ▸ hplain), hpieces, h.ofWords_row (isRowOf_wordsIn i s)]

/-- Reading the text checks the date, then the ids. -/
theorem parse_text : parse i.text
    = (statedDate i.executeBy).bind fun date =>
      ofFields i.form i.amount i.currency i.firstAccount i.secondAccount date := by
  rw [parse_text_eq_ofWords h.plain, h.ofWords_row (isRowOf_textWords i)]

end Unmistakable

/-! ## Either form -/

/-- The instruction in a form. -/
def inForm (form : Form) (i : Instruction) : Instruction :=
  { i with form }

/-- Amount, currency and ids are plain words, of which none is the date keyword and the first two
are no other keyword. The date, if there is one, is a plain word. -/
structure Interchangeable (i : Instruction) : Prop where
  plain : ∀ w ∈ [i.amount, i.currency, i.debitAccount, i.creditAccount] ++ i.executeBy.toList,
    IsPlainWord w
  ne_dateKeyword : ∀ w ∈ [i.amount, i.currency, i.debitAccount, i.creditAccount],
    upper w ≠ "ON".toList
  ne_firstKeyword : ∀ form : Form, [upper i.amount, upper i.currency] ≠ form.firstKeyword

/-- The instruction with its date and ids checked, whatever its form. -/
def checked (i : Instruction) : Except Cause Instruction :=
  (statedDate i.executeBy).bind fun date =>
    if isAccountId i.debitAccount && isAccountId i.creditAccount then
      .ok { i with executeBy := date }
    else .error .invalidAccountId

/-- The form decides in which order the ids are looked at, but they are checked together. -/
theorem ofFields_inForm (i : Instruction) (form : Form) (date : Option Text) :
    ofFields form i.amount i.currency (i.inForm form).firstAccount (i.inForm form).secondAccount
        date
      = (if isAccountId i.debitAccount && isAccountId i.creditAccount then
          Except.ok { i with executeBy := date }
        else .error .invalidAccountId).map (inForm form) := by
  unfold ofFields
  cases form with
  | debit =>
    show (if isAccountId i.debitAccount && isAccountId i.creditAccount then _ else _) = _
    split <;> rfl
  | credit =>
    show (if isAccountId i.creditAccount && isAccountId i.debitAccount then _ else _) = _
    rw [Bool.and_comm]
    split <;> rfl

namespace Interchangeable

variable {i : Instruction} (h : Interchangeable i)

include h

theorem fieldWords_eq : i.fieldWords = [i.amount, i.currency] := by
  have hspace : ∀ w ∈ [i.amount, i.currency], ' ' ∉ w := by
    intro w hw
    exact (h.plain w (List.mem_append_left _ (List.mem_of_mem_take (i := 2) hw))).1.2
  have hrow : i.amount ++ ' ' :: i.currency = [' '].intercalate [i.amount, i.currency] := by
    simp [List.intercalate_cons_cons]
  rw [fieldWords, hrow, List.splitOn_intercalate ' ' hspace (List.cons_ne_nil _ _)]

theorem unmistakable (form : Form) : Unmistakable (i.inForm form) := by
  have hfield : (i.inForm form).fieldWords.map upper = [upper i.amount, upper i.currency] :=
    congrArg (List.map upper) h.fieldWords_eq
  have haccounts : ∀ w ∈ [(i.inForm form).firstAccount, (i.inForm form).secondAccount],
      w ∈ [i.amount, i.currency, i.debitAccount, i.creditAccount] := by
    cases form <;> simp [inForm, firstAccount, secondAccount]
  have hplain : ∀ w ∈ [i.amount, i.currency, i.debitAccount, i.creditAccount], IsPlainWord w :=
    fun w hw => h.plain w (List.mem_append_left _ hw)
  refine ⟨isPlainWord_textWords ?_ (hplain i.debitAccount (by simp))
    (hplain i.creditAccount (by simp)) ?_, (hplain i.amount (by simp)).1.2, ?_, ?_, ?_, ?_,
    Or.inr ?_⟩
  · rw [show (i.inForm form).fieldWords = [i.amount, i.currency] from h.fieldWords_eq]
    exact fun w hw => hplain w (List.mem_of_mem_take (i := 2) hw)
  · exact fun date hdate => h.plain date
      (List.mem_append_right _ (Option.mem_toList.2 hdate))
  · intro hwithin
    rw [hfield] at hwithin
    exact h.ne_firstKeyword form (hwithin.eq_of_length form.length_firstKeyword).symm
  · intro hwithin
    rw [hfield] at hwithin
    have hlen := hwithin.length_le
    cases form <;> exact absurd hlen (by simp [inForm, Form.secondKeyword])
  · rw [hfield]
    intro hmem
    simp only [List.mem_cons, List.not_mem_nil, or_false] at hmem
    rcases hmem with hmem | hmem
    · exact h.ne_dateKeyword i.amount (by simp) hmem.symm
    · exact h.ne_dateKeyword i.currency (by simp) hmem.symm
  · exact h.ne_dateKeyword _ (haccounts _ (by simp))
  · exact h.ne_dateKeyword _ (haccounts _ (by simp))

/-- Either text is read as the same instruction but for the form, or refused for the same cause. -/
theorem parse_text (form : Form) :
    parse (i.inForm form).text = i.checked.map (inForm form) := by
  rw [(h.unmistakable form).parse_text, checked]
  show (statedDate i.executeBy).bind _ = _
  cases statedDate i.executeBy with
  | error cause => rfl
  | ok date => exact ofFields_inForm i form date

/-- So is any text with the words of the instruction, in whatever spelling. -/
theorem parse_of_words {t : Text} (s : Spelling i.form) (ht : words t = i.wordsIn s) :
    parse t = i.checked.map (inForm i.form) := by
  have hi := h.unmistakable i.form
  rw [← h.parse_text i.form, hi.parse_text]
  exact hi.parse_of_words s ht

end Interchangeable
end Instruction
end Remit
