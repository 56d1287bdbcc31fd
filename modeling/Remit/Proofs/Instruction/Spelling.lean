import Remit.Proofs.Instruction.RoundTrip

/-!
# Spellings of an instruction

The letters of keywords may be of either case, so one instruction can be written in many rows of
words. A `Spelling` is a choice of letters for the keywords of a form, and `Instruction.wordsIn` the
row that an instruction makes with it; `textWords` is the row in upper case.

Whatever the spelling, the row is an `IsRowOf` the instruction: the fields stand at the same places
between the keywords, and the upper case is the same. This is all that reading asks for.
-/

namespace Remit

open Text

namespace Text

/-- What stands between two stretches of a row. -/
theorem between_of_eq_append {ws u v w : List Text} (h : ws = u ++ (v ++ w)) {j k : Nat}
    (hj : u.length = j) (hk : j + v.length = k) : between ws j k = v := by
  subst hk hj h
  rw [between, List.take_length_add_append, List.drop_left, List.take_left]

/-- The pieces of a text are its words if these are plain. -/
theorem pieces_eq_words_of_plain {t : Text} (h : ∀ w ∈ words t, IsPlainWord w) :
    pieces t = words t := by
  refine List.filter_congr fun w hw => ?_
  cases w with
  | nil => rfl
  | cons c w =>
    have hplain := h (c :: w) (List.mem_filter.2 ⟨hw, rfl⟩)
    simp [isBlankText, hplain.2.1 c List.mem_cons_self]

/-- A word is plain if its upper case has no white space and is no longer. -/
theorem isPlainWord_of_upper {w : Text} (hkeep : KeepsLength w) (h : IsPlainWord (upper w)) :
    IsPlainWord w := by
  obtain ⟨⟨hne, hspace⟩, hblank, -⟩ := h
  refine ⟨⟨mt upper_eq_nil_iff.2 hne, mt space_mem_upper_iff.2 hspace⟩, fun c hc => ?_, hkeep⟩
  cases hc' : isBlank c with
  | false => rfl
  | true =>
    -- White space is its own upper case.
    have hmem : c ∈ upper w :=
      List.mem_flatMap.2 ⟨c, hc, upperChar_of_isBlank hc' ▸ List.mem_singleton_self c⟩
    rw [hblank c hmem] at hc'
    cases hc'

end Text

namespace Instruction

theorem isPlainWord_of_isVisible {w : Text} (hne : w ≠ []) (h : ∀ c ∈ w, IsVisible c) :
    IsPlainWord w :=
  ⟨⟨hne, fun hspace => (h ' ' hspace).ne_space rfl⟩, fun c hc => (h c hc).isBlank,
    fun c hc => (h c hc).length_upperChar⟩

/-- A well-formed id is a plain word, and so is anything else that is spelled like one. -/
theorem isPlainWord_of_isAccountId {w : Text} (h : isAccountId w = true) : IsPlainWord w :=
  isPlainWord_of_isVisible (ne_nil_of_isAccountId h) (isVisible_of_isAccountId h)

theorem isPlainWord_of_isDateText {w : Text} (h : isDateText w = true) : IsPlainWord w :=
  isPlainWord_of_isVisible (ne_nil_of_isDateText h) (isVisible_of_isDateText h)

end Instruction

namespace Form

/-- The words of all keywords of a form. -/
def keywords (form : Form) : List Text :=
  form.word :: (form.firstKeyword ++ (form.secondKeyword ++ dateKeyword))

theorem isPlainWord_keywords (form : Form) : ∀ w ∈ form.keywords, IsPlainWord w := by
  intro w hw
  refine Instruction.isPlainWord_of_isAccountId ?_
  cases form <;> revert w <;> decide

theorem length_firstKeyword (form : Form) : form.firstKeyword.length = 2 := by
  cases form <;> rfl

theorem length_secondKeyword (form : Form) : form.secondKeyword.length = 4 := by
  cases form <;> rfl

end Form

/-- The keywords of a form in letters of either case. -/
structure Spelling (form : Form) where
  word : Text
  first : List Text
  second : List Text
  date : List Text
  upper_word : upper word = form.word
  upper_first : first.map upper = form.firstKeyword
  upper_second : second.map upper = form.secondKeyword
  upper_date : date.map upper = dateKeyword
  keepsLength : ∀ w ∈ word :: (first ++ (second ++ date)), KeepsLength w

/-- The words of all keywords in a spelling are plain. -/
theorem Spelling.isPlainWord {form : Form} (s : Spelling form) :
    ∀ w ∈ s.word :: (s.first ++ (s.second ++ s.date)), IsPlainWord w := by
  intro w hw
  have hkeywords : (s.word :: (s.first ++ (s.second ++ s.date))).map upper = form.keywords := by
    simp only [List.map_cons, List.map_append, s.upper_word, s.upper_first, s.upper_second,
      s.upper_date]
    rfl
  have hmem : upper w ∈ form.keywords := hkeywords ▸ List.mem_map_of_mem hw
  exact isPlainWord_of_upper (s.keepsLength w hw) (form.isPlainWord_keywords _ hmem)

/-- The keywords as the form has them. -/
def Spelling.own (form : Form) : Spelling form where
  word := form.word
  first := form.firstKeyword
  second := form.secondKeyword
  date := dateKeyword
  upper_word := (Instruction.upper_keywords form).2.2
  upper_first := (Instruction.upper_keywords form).1
  upper_second := (Instruction.upper_keywords form).2.1
  upper_date := by decide
  keepsLength := by cases form <;> decide

namespace Instruction

/-- The words of amount and currency. -/
def fieldWords (i : Instruction) : List Text :=
  (i.amount ++ ' ' :: i.currency).splitOn ' '

/-- The words of the date clause in a spelling. -/
def dateWordsIn {form : Form} (s : Spelling form) : Option Text → List Text
  | none | some [] => []
  | some date => s.date ++ [date]

/-- The words of an instruction in a spelling of its keywords. -/
def wordsIn (i : Instruction) (s : Spelling i.form) : List Text :=
  s.word :: (i.fieldWords ++ (s.first ++ i.firstAccount ::
    (s.second ++ i.secondAccount :: dateWordsIn s i.executeBy)))

theorem wordsIn_own (i : Instruction) : i.wordsIn (.own i.form) = textWords i := by
  have hdate : ∀ executeBy, dateWordsIn (.own i.form) executeBy = dateWords executeBy := by
    rintro (_ | _ | _) <;> rfl
  rw [wordsIn, hdate]
  rfl

theorem map_upper_dateWordsIn {form : Form} (s : Spelling form) (executeBy : Option Text) :
    (dateWordsIn s executeBy).map upper = (dateWords executeBy).map upper := by
  rcases executeBy with _ | _ | ⟨c, day⟩
  · rfl
  · rfl
  · have hkeyword : dateKeyword.map upper = dateKeyword := by decide
    rw [dateWordsIn, dateWords, List.map_append, List.map_append, s.upper_date, hkeyword]
    · rintro ⟨⟩
    · rintro ⟨⟩

theorem drop_dateWordsIn {form : Form} (s : Spelling form) (executeBy : Option Text) :
    (dateWordsIn s executeBy).drop 1 = (dateWords executeBy).drop 1 := by
  have hdate : s.date.length = 1 := by
    rw [← List.length_map, s.upper_date]
    rfl
  rcases executeBy with _ | _ | ⟨c, day⟩
  · rfl
  · rfl
  · show (s.date ++ [c :: day]).drop 1 = [c :: day]
    rw [← hdate, List.drop_left]

theorem mem_dateWordsIn {form : Form} {s : Spelling form} {executeBy : Option Text} {w : Text}
    (h : w ∈ dateWordsIn s executeBy) : w ∈ s.date ∨ w ∈ dateWords executeBy := by
  rcases executeBy with _ | _ | ⟨c, day⟩
  · cases h
  · cases h
  · exact (List.mem_append.1 h).imp_right fun hw => List.mem_append_right _ hw

theorem map_upper_wordsIn (i : Instruction) (s : Spelling i.form) :
    (i.wordsIn s).map upper = (textWords i).map upper := by
  obtain ⟨hfirst, hsecond, hword⟩ := upper_keywords i.form
  simp only [wordsIn, textWords, fieldWords, List.map_cons, List.map_append, s.upper_word,
    s.upper_first, s.upper_second, map_upper_dateWordsIn, hfirst, hsecond, hword]

/-- A spelling has plain words only, if the instruction has. -/
theorem isPlainWord_wordsIn {i : Instruction} (h : ∀ w ∈ textWords i, IsPlainWord w)
    (s : Spelling i.form) : ∀ w ∈ i.wordsIn s, IsPlainWord w := by
  have hkeyword := s.isPlainWord
  rw [textWords] at h
  simp only [List.mem_cons, List.mem_append] at h hkeyword
  intro w hw
  simp only [wordsIn, List.mem_cons, List.mem_append] at hw
  rcases hw with hw | hw | hw | hw | hw | hw | hw
  · exact hkeyword w (by simp [hw])
  · exact h w (by simp [show w ∈ (i.amount ++ ' ' :: i.currency).splitOn ' ' from hw])
  · exact hkeyword w (by simp [hw])
  · exact h w (by simp [hw])
  · exact hkeyword w (by simp [hw])
  · exact h w (by simp [hw])
  · rcases mem_dateWordsIn hw with hw | hw
    · exact hkeyword w (by simp [hw])
    · exact h w (by simp [hw])

/-! ## Where the fields stand -/

/-- A row of words from which an instruction can be read: the fields stand in it as they are, and in
upper case it is the row of the instruction. -/
structure IsRowOf (i : Instruction) (ws : List Text) : Prop where
  upper_eq : ws.map upper = (textWords i).map upper
  field : between ws 1 (i.fieldWords.length + 1) = i.fieldWords
  first : between ws (i.fieldWords.length + 1 + i.form.firstKeyword.length)
    (i.fieldWords.length + 4) = [i.firstAccount]
  second : between ws (i.fieldWords.length + 4 + i.form.secondKeyword.length)
    (i.fieldWords.length + 9) = [i.secondAccount]
  date : ws.drop (i.fieldWords.length + 9 + 1) = (dateWords i.executeBy).drop 1

/-- No spelling moves the fields. -/
theorem isRowOf_wordsIn (i : Instruction) (s : Spelling i.form) : i.IsRowOf (i.wordsIn s) := by
  have hfirst : s.first.length = i.form.firstKeyword.length := by
    rw [← s.upper_first, List.length_map]
  have hsecond : s.second.length = i.form.secondKeyword.length := by
    rw [← s.upper_second, List.length_map]
  have hlengths := And.intro i.form.length_firstKeyword i.form.length_secondKeyword
  refine ⟨map_upper_wordsIn i s, ?_, ?_, ?_, ?_⟩
  · exact between_of_eq_append (u := [s.word]) rfl rfl (Nat.add_comm 1 _)
  · refine between_of_eq_append (u := s.word :: (i.fieldWords ++ s.first))
      (v := [i.firstAccount]) (w := s.second ++ i.secondAccount :: dateWordsIn s i.executeBy)
      (by simp [wordsIn]) ?_ ?_
    · rw [List.length_cons, List.length_append]
      omega
    · rw [List.length_singleton]
      omega
  · refine between_of_eq_append
      (u := s.word :: (i.fieldWords ++ (s.first ++ i.firstAccount :: s.second)))
      (v := [i.secondAccount]) (w := dateWordsIn s i.executeBy) (by simp [wordsIn]) ?_ ?_
    · rw [List.length_cons, List.length_append, List.length_append, List.length_cons]
      omega
    · rw [List.length_singleton]
      omega
  · have hrow : i.wordsIn s = (s.word :: (i.fieldWords ++ (s.first ++ i.firstAccount ::
        (s.second ++ [i.secondAccount])))) ++ dateWordsIn s i.executeBy := by
      simp [wordsIn]
    have hlen : (s.word :: (i.fieldWords ++ (s.first ++ i.firstAccount ::
        (s.second ++ [i.secondAccount])))).length = i.fieldWords.length + 9 := by
      simp only [List.length_cons, List.length_append, List.length_nil]
      omega
    rw [← List.drop_drop, hrow, ← hlen, List.drop_left, drop_dateWordsIn]

theorem isRowOf_textWords (i : Instruction) : i.IsRowOf (textWords i) :=
  wordsIn_own i ▸ isRowOf_wordsIn i (.own i.form)

end Instruction
end Remit
