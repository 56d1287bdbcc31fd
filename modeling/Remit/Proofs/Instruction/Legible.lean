import Remit.Proofs.Instruction.Forms

/-!
# Which instructions survive being written

An instruction can be put together from any fields, and its text need not be read as what was
meant: the words of amount and currency, or an account, may be taken for a keyword.
`survives_text_iff` lists what must not be among them, word by word.

That nothing else does harm is `Unmistakable.parse_text`. That all of it does is shown from the
places of the keywords: an instruction that is read back leaves room for its fields only if every
keyword is found where it is written (`firstOccurrence_of_parse_text`). A keyword among the words
before that place would be found too early (`not_isInfix_of_firstOccurrence`).
-/

namespace Remit

open Text

namespace Text

/-- A phrase in a stretch behind the first word occurs there, if a word follows the stretch. -/
theorem exists_occursAt_of_isInfix {phrase field rest : List Text} (h : phrase <:+: field)
    (hrest : rest ≠ []) (w : Text) :
    ∃ i, OccursAt phrase (w :: (field ++ rest)) i ∧ i + phrase.length ≤ field.length + 1 := by
  obtain ⟨before, after, rfl⟩ := h
  have hdrop : (w :: (before ++ phrase ++ after ++ rest)).drop (before.length + 1)
      = phrase ++ (after ++ rest) := by
    rw [List.drop_succ_cons, List.append_assoc, List.append_assoc, List.drop_left]
  refine ⟨before.length + 1, occursAt_iff.2 ⟨by omega, after ++ rest, ?_, hdrop⟩, ?_⟩
  · exact fun hnil => hrest (List.append_eq_nil_iff.1 hnil).2
  · simp only [List.length_append]
    omega

/-- A phrase is not in a stretch behind the first word if it is found only later. -/
theorem not_isInfix_of_firstOccurrence {phrase ws field rest : List Text} {w : Text}
    (hws : ws = w :: (field ++ rest)) (hrest : rest ≠ [])
    (h : ∀ n ∈ firstOccurrence phrase ws, field.length + 1 < n + phrase.length) :
    ¬ phrase <:+: field := by
  intro hin
  obtain ⟨i, hocc, hi⟩ := exists_occursAt_of_isInfix hin hrest w
  rw [← hws] at hocc
  cases hfirst : firstOccurrence phrase ws with
  | none => exact firstOccurrence_eq_none_iff.1 hfirst i hocc
  | some n =>
    have hn := h n hfirst
    exact (firstOccurrence_eq_some_iff.1 hfirst).2 i (by omega) hocc

/-- A word is not among those behind the first one if it is found only later. -/
theorem notMem_of_firstOccurrence {ws field rest : List Text} {v w : Text}
    (hws : ws = w :: (field ++ rest)) (hrest : rest ≠ [])
    (h : ∀ n ∈ firstOccurrence [v] ws, field.length < n) : v ∉ field := by
  intro hmem
  obtain ⟨before, after, hfield⟩ := List.append_of_mem hmem
  have hin : [v] <:+: field := ⟨before, after, by rw [hfield]; simp⟩
  exact not_isInfix_of_firstOccurrence hws hrest (fun n hn => Nat.succ_lt_succ (h n hn)) hin

theorem length_between (ws : List Text) (i j : Nat) :
    (between ws i j).length = min j ws.length - i := by
  rw [between, List.length_drop, List.length_take]

end Text

/-! ## Where the keywords are found -/

namespace Form

variable {form : Form} {field : List Text} {first second : Text} {date : List Text}

/-- A phrase that is found behind the field of a row is not in the field. -/
theorem not_isInfix_of_row {phrase : List Text} {n : Nat}
    (h : firstOccurrence phrase (form.row field first second date) = some n)
    (hn : field.length + 1 < n + phrase.length) : ¬ phrase <:+: field := by
  apply not_isInfix_of_firstOccurrence rfl (List.append_ne_nil_of_right_ne_nil _
    (List.cons_ne_nil _ _))
  intro m hm
  have heq := Option.some.inj (h.symm.trans hm)
  omega

/-- A date keyword that is found behind the second id, if at all, is no word before the second id.
It is not the second id either, unless no word follows that. -/
theorem ne_dateWord_of_row {dateWord : Text}
    (h : ∀ n ∈ firstOccurrence [dateWord] (form.row field first second date),
      n = field.length + 9) :
    dateWord ∉ field ∧ first ≠ dateWord ∧ (date = [] ∨ second ≠ dateWord) := by
  have hfirstLength := form.length_firstKeyword
  have hsecondLength := form.length_secondKeyword
  -- A word follows every word before the second id, and also the second id if there is a date.
  have hbefore : dateWord ∉ field ++ (form.firstKeyword ++ first :: form.secondKeyword) := by
    have hrow : form.row field first second date = form.word ::
        ((field ++ (form.firstKeyword ++ first :: form.secondKeyword)) ++ second :: date) := by
      simp [row]
    apply notMem_of_firstOccurrence hrow (List.cons_ne_nil _ _)
    intro n hn
    rw [h n hn]
    simp only [List.length_append, List.length_cons]
    omega
  have hupto (hdate : date ≠ []) :
      dateWord ∉ field ++ (form.firstKeyword ++ first :: (form.secondKeyword ++ [second])) := by
    have hrow : form.row field first second date = form.word ::
        ((field ++ (form.firstKeyword ++ first :: (form.secondKeyword ++ [second]))) ++ date) := by
      simp [row]
    apply notMem_of_firstOccurrence hrow hdate
    intro n hn
    rw [h n hn]
    simp only [List.length_append, List.length_cons, List.length_nil]
    omega
  simp only [List.mem_append, List.mem_cons, not_or, List.not_mem_nil, or_false] at hbefore hupto
  refine ⟨hbefore.1, Ne.symm hbefore.2.2.1, ?_⟩
  by_cases hdate : date = []
  · exact Or.inl hdate
  · exact Or.inr (Ne.symm (hupto hdate).2.2.2.2)

end Form

namespace Instruction

variable {i : Instruction}

/-- If an instruction is read back, its keywords are found where they are written. -/
theorem firstOccurrence_of_parse_text (hplain : ∀ w ∈ textWords i, IsPlainWord w)
    (h : parse i.text = .ok i) :
    firstOccurrence i.form.firstKeyword ((textWords i).map upper) = some (i.fieldWords.length + 1)
      ∧ firstOccurrence i.form.secondKeyword ((textWords i).map upper)
        = some (i.fieldWords.length + 4)
      ∧ ∀ n ∈ firstOccurrence dateKeyword ((textWords i).map upper),
        n = i.fieldWords.length + 9 := by
  have hform : Form.ofWords? ((textWords i).map upper) = some i.form := by
    rw [map_upper_textWords_eq_row, ofWords?_eq_some_iff]
    exact ⟨_, by simp, rfl⟩
  rw [parse_text_eq_ofWords hplain, ofWords, hform] at h
  obtain ⟨p, q, hocc, -, hfield, hfirst, hsecond, -⟩ := ofFormWords_ok h
  obtain ⟨hp, hq, -⟩ := occurrences_eq_ok_iff.1 hocc
  have hpocc := (firstOccurrence_eq_some_iff.1 hp).1
  have hqocc := (firstOccurrence_eq_some_iff.1 hq).1
  have hrow : between (textWords i) 1 p = i.fieldWords :=
    between_eq_splitOn (fun w hw => (hplain w hw).1) hfield
  -- Each field fills the room between its keywords, so the lengths give the places.
  have hfieldRoom := congrArg List.length hrow
  have hfirstRoom := congrArg List.length hfirst
  have hsecondRoom := congrArg List.length hsecond
  have hpos := hpocc.1
  have hpend := hpocc.2.2
  have hqend := hqocc.2.2
  rw [length_between] at hfieldRoom hfirstRoom hsecondRoom
  rw [List.length_map, Form.length_firstKeyword] at hpend
  rw [List.length_map, Form.length_secondKeyword] at hqend
  rw [Form.length_firstKeyword, List.length_singleton] at hfirstRoom
  rw [Form.length_secondKeyword, List.length_singleton] at hsecondRoom
  have hpplace : p = i.fieldWords.length + 1 := by omega
  have hqplace : q = i.fieldWords.length + 4 := by omega
  refine ⟨hpplace ▸ hp, hqplace ▸ hq, fun n hn => ?_⟩
  have hnend := (firstOccurrence_eq_some_iff.1 hn).1.2.2
  rw [Option.mem_def.1 hn, Option.getD_some] at hsecondRoom
  rw [List.length_map] at hnend
  omega

/-- An instruction that is read back has no word that can be taken for a keyword. -/
theorem unmistakable_of_parse_text (hplain : ∀ w ∈ textWords i, IsPlainWord w)
    (h : parse i.text = .ok i) : Unmistakable i := by
  obtain ⟨hfirst, hsecond, hdate⟩ := firstOccurrence_of_parse_text hplain h
  have hfieldLength : (i.fieldWords.map upper).length = i.fieldWords.length := List.length_map upper
  have hfirstLength := i.form.length_firstKeyword
  have hsecondLength := i.form.length_secondKeyword
  rw [map_upper_textWords_eq_row] at hfirst hsecond hdate
  rw [← hfieldLength] at hdate
  obtain ⟨hfield, hfirstAccount, hsecondAccount⟩ := Form.ne_dateWord_of_row hdate
  rw [List.map_eq_nil_iff] at hsecondAccount
  exact ⟨hplain, (wellFormed_of_parse h).space_notMem_amount,
    Form.not_isInfix_of_row hfirst (by omega), Form.not_isInfix_of_row hsecond (by omega),
    hfield, hfirstAccount, hsecondAccount⟩

/-! ## Instructions put together from tokens -/

/-- An instruction with a plain amount, the given plain tokens as its currency, well-formed ids and
a date of the right form, or none. -/
structure IsMadeOf (i : Instruction) (tokens : List Text) : Prop where
  currency : i.currency = unpieces tokens
  tokens_ne_nil : tokens ≠ []
  plain : ∀ w ∈ i.amount :: tokens, IsPlainWord w
  isAccountId_debit : isAccountId i.debitAccount = true
  isAccountId_credit : isAccountId i.creditAccount = true
  isDateText : ∀ date ∈ i.executeBy, isDateText date = true

namespace IsMadeOf

variable {tokens : List Text} (h : i.IsMadeOf tokens)

include h

theorem fieldWords_eq : i.fieldWords = i.amount :: tokens := by
  have hrow : i.amount ++ ' ' :: i.currency = [' '].intercalate (i.amount :: tokens) := by
    rw [h.currency, ← spaced_eq_cons h.tokens_ne_nil, ← unpieces_cons, unpieces]
  rw [fieldWords, hrow, List.splitOn_intercalate ' ' (fun w hw => (h.plain w hw).1.2)
    (List.cons_ne_nil _ _)]

theorem isPlainWord_textWords : ∀ w ∈ textWords i, IsPlainWord w :=
  Instruction.isPlainWord_textWords (h.fieldWords_eq ▸ h.plain)
    (isPlainWord_of_isAccountId h.isAccountId_debit)
    (isPlainWord_of_isAccountId h.isAccountId_credit)
    fun date hdate => isPlainWord_of_isDateText (h.isDateText date hdate)

/-- Nothing but a word that is taken for a keyword keeps such an instruction from being read
back. -/
theorem parse_text_iff_unmistakable : parse i.text = .ok i ↔ Unmistakable i := by
  refine ⟨unmistakable_of_parse_text h.isPlainWord_textWords, fun hi => ?_⟩
  obtain ⟨hfirst, hsecond⟩ :
      isAccountId i.firstAccount = true ∧ isAccountId i.secondAccount = true :=
    accounts_of_form (P := fun id => isAccountId id = true) h.isAccountId_debit h.isAccountId_credit
  rw [hi.parse_text, statedDate_eq_ok h.isDateText]
  exact ofFields_eq_ok_iff.2 ⟨hfirst, hsecond, rfl, rfl, rfl, rfl, rfl, rfl⟩

/-- The second id stands before a date, if there is one. -/
theorem dateWords_eq_nil_iff : dateWords i.executeBy = [] ↔ i.executeBy = none := by
  cases hexecute : i.executeBy with
  | none => exact iff_of_true rfl rfl
  | some date =>
    rw [dateWords_some (ne_nil_of_isDateText (h.isDateText date hexecute))]
    exact iff_of_false (List.cons_ne_nil _ _) (Option.some_ne_none _)

end IsMadeOf

/-- An instruction put together from tokens is read back from its text if and only if, in letters of
either case, none of the tokens is the date keyword, the account named first is not, the account
named second is not when a date follows it, and neither keyword of the form stands among the
tokens. -/
theorem survives_text_iff {tokens : List Text} (h : i.IsMadeOf tokens) :
    parse i.text = .ok i
      ↔ "ON".toList ∉ (i.amount :: tokens).map upper
        ∧ upper i.firstAccount ≠ "ON".toList
        ∧ (i.executeBy ≠ none → upper i.secondAccount ≠ "ON".toList)
        ∧ ¬ i.form.firstKeyword <:+: (i.amount :: tokens).map upper
        ∧ ¬ i.form.secondKeyword <:+: (i.amount :: tokens).map upper := by
  rw [h.parse_text_iff_unmistakable, ← h.fieldWords_eq]
  constructor
  · intro hi
    refine ⟨hi.dateKeyword_field, hi.dateKeyword_first, fun hstated => ?_, hi.firstKeyword,
      hi.secondKeyword⟩
    exact hi.dateKeyword_second.resolve_left (mt h.dateWords_eq_nil_iff.1 hstated)
  · rintro ⟨hfield, hfirst, hsecond, hfirstKeyword, hsecondKeyword⟩
    refine ⟨h.isPlainWord_textWords, (h.plain i.amount List.mem_cons_self).1.2, hfirstKeyword,
      hsecondKeyword, hfield, hfirst, ?_⟩
    rw [h.dateWords_eq_nil_iff, or_iff_not_imp_left]
    exact hsecond

/-- A credit to the account `FOR` from the account `on`, in a currency that has a keyword of the
other form in it. -/
def oddCredit (executeBy : Option Text) : Instruction where
  form := .credit
  amount := "5".toList
  currency := "NGN from Account".toList
  debitAccount := "on".toList
  creditAccount := "FOR".toList
  executeBy := executeBy

/-- It is read back as it is, but not with a date. -/
theorem survives_text_iff_oddCredit :
    (oddCredit none).IsMadeOf ["NGN".toList, "from".toList, "Account".toList]
      ∧ parse (oddCredit none).text = .ok (oddCredit none)
      ∧ (oddCredit (some "2025-02-30".toList)).IsMadeOf
        ["NGN".toList, "from".toList, "Account".toList]
      ∧ parse (oddCredit (some "2025-02-30".toList)).text
        ≠ .ok (oddCredit (some "2025-02-30".toList)) := by
  have hmade : ∀ executeBy : Option Text, (∀ date ∈ executeBy, Remit.isDateText date = true) →
      (oddCredit executeBy).IsMadeOf ["NGN".toList, "from".toList, "Account".toList] := by
    intro executeBy hdate
    have hids : ∀ w ∈ ["5".toList, "NGN".toList, "from".toList, "Account".toList],
        isAccountId w = true := by
      decide
    refine ⟨?_, List.cons_ne_nil _ _, fun w hw => isPlainWord_of_isAccountId (hids w hw), ?_, ?_,
      hdate⟩
    · show "NGN from Account".toList = _
      decide
    · show isAccountId "on".toList = true
      decide
    · show isAccountId "FOR".toList = true
      decide
  have hnone := hmade none (by rintro date ⟨⟩)
  have hsome := hmade (some "2025-02-30".toList) (by rintro date ⟨⟩; decide)
  refine ⟨hnone, (survives_text_iff hnone).2 (by decide), hsome, fun h => ?_⟩
  exact ((survives_text_iff hsome).1 h).2.2.1 (Option.some_ne_none _) (by decide)

end Instruction
end Remit
