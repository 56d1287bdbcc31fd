import Remit.Proofs.Instruction.Fields
import Remit.Proofs.Text.Search

/-!
# Instructions word by word

`Instruction.ofWords` reads an instruction from its words: keywords are runs of words, and fields
are the words between them. `parse_eq_ofWords` says that this is what `Instruction.parse` does with
the characters of every text in which the space is the only white space and upper-casing keeps the
number of characters.

The proof goes through the three searches for markers. Each finds the place of the first occurrence
of its keyword (`marks_unpieces`), so that every cut between marks is a row of whole words
(`cut_marker`), and what is left is to read a field from its words.
-/

namespace Remit

open Text

/-! ## The grammar of words -/

/-- The form of an instruction with the given words in upper case: its first word says so, and it
must not be the only one. -/
def Form.ofWords? : List Text → Option Form
  | opening :: _ :: _ =>
    if opening = Form.debit.word then some .debit
    else if opening = Form.credit.word then some .credit
    else none
  | _ => none

/-- The first occurrences of a form's keywords among words in upper case. Both must be there, and
the second not before the first. -/
def Form.occurrences (form : Form) (upperWords : List Text) : Except Cause (Nat × Nat) :=
  match firstOccurrence form.firstKeyword upperWords,
    firstOccurrence form.secondKeyword upperWords with
  | some i, some j => if j < i then .error .invalidKeywordOrder else .ok (i, j)
  | _, _ => .error .missingKeyword

/-- Amount and currency, of at least two words: the first word and the others. -/
def amountAndCurrencyOfWords : List Text → Except Cause (Text × Text)
  | amount :: currency :: more => .ok (amount, unpieces (currency :: more))
  | _ => .error .malformedInstruction

/-- A date, of one word that has the form of a date. -/
def dateOfWords : List Text → Except Cause (Option Text)
  | [date] => if isDateText date then .ok (some date) else .error .invalidDateFormat
  | _ => .error .invalidDateFormat

/-- The date that follows the date keyword, if that occurs. -/
def dateAfter (ws : List Text) : Option Nat → Except Cause (Option Text)
  | none => .ok none
  | some i => dateOfWords (ws.drop (i + 1))

namespace Instruction

/-- The instruction with the given fields, where each id is one well-formed word. A debit names the
debited account first, and a credit the credited one. -/
def ofFieldWords (form : Form) (amount currency : Text) (first second : List Text)
    (executeBy : Option Text) : Except Cause Instruction :=
  match first, second with
  | [a], [b] =>
    if isAccountId a = true ∧ isAccountId b = true then
      .ok { form, amount, currency, executeBy
            debitAccount := if form = .debit then a else b
            creditAccount := if form = .debit then b else a }
    else .error .invalidAccountId
  | _, _ => .error .invalidAccountId

/-- Reads the words of an instruction of a known form. The letters of keywords may be of either
case. -/
def ofFormWords (form : Form) (ws : List Text) : Except Cause Instruction := do
  let (i, j) ← form.occurrences (ws.map upper)
  let date := firstOccurrence dateKeyword (ws.map upper)
  let (amount, currency) ← amountAndCurrencyOfWords (between ws 1 i)
  let executeBy ← dateAfter ws date
  ofFieldWords form amount currency (between ws (i + form.firstKeyword.length) j)
    (between ws (j + form.secondKeyword.length) (date.getD ws.length)) executeBy

/-- Reads an instruction from its words. -/
def ofWords (ws : List Text) : Except Cause Instruction :=
  match Form.ofWords? (ws.map upper) with
  | some form => ofFormWords form ws
  | none => .error .malformedInstruction

end Instruction

/-! ## Markers -/

theorem marker_eq_spaced {keyword : List Text} (h : keyword ≠ []) :
    marker keyword = spaced keyword ++ [' '] := by
  rw [marker, spaced_eq_cons h, List.cons_append]

theorem length_marker {keyword : List Text} (h : keyword ≠ []) :
    (marker keyword).length = (spaced keyword).length + 1 := by
  rw [marker_eq_spaced h, List.length_append, List.length_singleton]

namespace Form

theorem firstKeyword_ne_nil (form : Form) : form.firstKeyword ≠ [] := by
  cases form <;> decide

theorem secondKeyword_ne_nil (form : Form) : form.secondKeyword ≠ [] := by
  cases form <;> decide

theorem isWord_firstKeyword (form : Form) : ∀ w ∈ form.firstKeyword, IsWord w := by
  cases form <;> decide

theorem isWord_secondKeyword (form : Form) : ∀ w ∈ form.secondKeyword, IsWord w := by
  cases form <;> decide

theorem isWord_word (form : Form) : IsWord form.word := by
  cases form <;> decide

end Form

theorem dateKeyword_ne_nil : dateKeyword ≠ [] := by
  decide

theorem isWord_dateKeyword : ∀ w ∈ dateKeyword, IsWord w := by
  decide

/-- The first place of a marker is the place of the first occurrence of its keyword. -/
theorem indexOf?_marker {keyword ws : List Text} (hne : keyword ≠ [])
    (hk : ∀ w ∈ keyword, IsWord w) (hw : ∀ w ∈ ws, IsWord w) :
    indexOf? (marker keyword) (unpieces ws) = (firstOccurrence keyword ws).map (place ws) := by
  rw [marker_eq_spaced hne, indexOf?_spaced hk hw]

/-- Behind a marker, the next word begins. -/
theorem place_add_marker {keyword ws : List Text} (hne : keyword ≠ []) {i : Nat}
    (h : OccursAt keyword ws i) :
    place ws i + (marker keyword).length = place ws (i + keyword.length) + 1 := by
  obtain ⟨hpos, htake, hlen⟩ := h
  rw [place_add hpos (by omega), htake, length_marker hne, Nat.add_assoc]

/-- The marks of a form in a row of words. -/
theorem marks_unpieces (form : Form) {ws : List Text} (hw : ∀ w ∈ ws, IsWord w) :
    form.marks (unpieces ws)
      = (form.occurrences ws).map fun found =>
        ⟨place ws found.1, place ws found.2, (firstOccurrence dateKeyword ws).map (place ws)⟩ := by
  rw [Form.marks, Form.occurrences, Form.firstMarker, Form.secondMarker, dateMarker,
    indexOf?_marker form.firstKeyword_ne_nil form.isWord_firstKeyword hw,
    indexOf?_marker form.secondKeyword_ne_nil form.isWord_secondKeyword hw,
    indexOf?_marker dateKeyword_ne_nil isWord_dateKeyword hw]
  cases hi : firstOccurrence form.firstKeyword ws with
  | none => rfl
  | some i =>
    cases hj : firstOccurrence form.secondKeyword ws with
    | none => rfl
    | some j =>
      have hilen := (firstOccurrence_eq_some_iff.1 hi).1.2.2
      have hjlen := (firstOccurrence_eq_some_iff.1 hj).1.2.2
      -- Places grow with positions, so marks are in the order of the keywords.
      have hlt : place ws j < place ws i ↔ j < i :=
        place_lt_place_iff hw (by omega) (by omega)
      simp only [Option.map_some, hlt]
      split <;> rfl

theorem occurrences_eq_ok_iff {form : Form} {ws : List Text} {i j : Nat} :
    form.occurrences ws = .ok (i, j)
      ↔ firstOccurrence form.firstKeyword ws = some i
        ∧ firstOccurrence form.secondKeyword ws = some j ∧ i ≤ j := by
  rw [Form.occurrences]
  cases firstOccurrence form.firstKeyword ws with
  | none => simp
  | some i' =>
    cases firstOccurrence form.secondKeyword ws with
    | none => simp
    | some j' =>
      dsimp only
      split
      · simp only [reduceCtorEq, Option.some.injEq, false_iff]
        omega
      · simp only [Except.ok.injEq, Prod.mk.injEq, Option.some.injEq]
        omega

/-- A row of words opens with a form's word and a space exactly if its first word is that word and
a second one follows. -/
theorem opening_prefix_iff (form : Form) {ws : List Text} (hw : ∀ w ∈ ws, IsWord w) :
    form.opening <+: unpieces ws ↔ ∃ rest, rest ≠ [] ∧ ws = form.word :: rest := by
  rw [Form.opening]
  cases ws with
  | nil => simp
  | cons w rest =>
    have hstep := @spaced_prefix_iff [] rest (by simp)
      fun v hv => hw v (List.mem_cons_of_mem _ hv)
    rw [spaced_nil, List.nil_append] at hstep
    rw [unpieces_cons, word_append_prefix_iff form.isWord_word.2 (hw w List.mem_cons_self).2
      (spaced_eq_nil_or rest), hstep]
    constructor
    · rintro ⟨rfl, rest', hne, rfl⟩
      exact ⟨_, hne, rfl⟩
    · rintro ⟨rest', hne, heq⟩
      obtain ⟨rfl, rfl⟩ := List.cons.inj heq
      exact ⟨rfl, rest, hne, rfl⟩

/-- The forms of texts are told apart by their opening words. -/
theorem ofOpening?_eq_some_iff {form : Form} {t : Text} :
    Form.ofOpening? t = some form ↔ form.opening <+: t := by
  have hdisjoint : Form.debit.opening <+: t → ¬ Form.credit.opening <+: t := by
    rintro ⟨x, rfl⟩ ⟨y, hy⟩
    have hdebit : Form.debit.opening = 'D' :: "EBIT ".toList := by decide
    have hcredit : Form.credit.opening = 'C' :: "REDIT ".toList := by decide
    rw [hdebit, hcredit] at hy
    exact absurd (List.cons.inj hy).1 (by decide)
  simp only [Form.ofOpening?, List.isPrefixOf_iff_prefix]
  cases form with
  | debit =>
    split
    · next h => simp [h]
    · next h => split <;> simp [h]
  | credit =>
    split
    · next h => simp [hdisjoint h]
    · next h => split <;> simp_all

theorem ofWords?_eq_some_iff {form : Form} {ws : List Text} :
    Form.ofWords? ws = some form ↔ ∃ rest, rest ≠ [] ∧ ws = form.word :: rest := by
  have hwords : Form.debit.word ≠ Form.credit.word := by decide
  match ws with
  | [] => simp [Form.ofWords?]
  | [w] => simp [Form.ofWords?]
  | w :: v :: rest =>
    rw [Form.ofWords?]
    cases form with
    | debit =>
      split
      · next h => simp [h]
      · next h => split <;> simp [h]
    | credit =>
      split
      · next h => simp [h, hwords]
      · next h => split <;> simp_all

/-- The form of a row of words. -/
theorem ofOpening?_unpieces {ws : List Text} (hw : ∀ w ∈ ws, IsWord w) :
    Form.ofOpening? (unpieces ws) = Form.ofWords? ws := by
  refine Option.ext fun form => ?_
  rw [ofOpening?_eq_some_iff, opening_prefix_iff form hw, ofWords?_eq_some_iff]

/-! ## Plain words -/

/-- A word that can be handled character by character: without white space, and with an upper case
of its own length. -/
def IsPlainWord (w : Text) : Prop :=
  IsWord w ∧ (∀ c ∈ w, isBlank c = false) ∧ KeepsLength w

/-- The pieces of a text are plain words where the space is the only white space and no upper case
is longer than its character. -/
theorem isPlainWord_of_mem_pieces {t : Text} (hkeep : KeepsLength t) (hblank : SpacesOnly t) :
    ∀ w ∈ pieces t, IsPlainWord w := by
  intro w hw
  have hword := (isWord_of_mem_pieces hw).1
  have hmem : ∀ c ∈ w, c ∈ t := fun c hc => mem_of_mem_splitOn (List.mem_filter.1 hw).1 hc
  refine ⟨hword, ?_, hkeep.subset hmem⟩
  intro c hc
  cases hb : isBlank c with
  | false => rfl
  | true => exact absurd (hblank c (hmem c hc) hb ▸ hc) hword.2

section

variable {ws : List Text} (hw : ∀ w ∈ ws, IsPlainWord w)

include hw

theorem trim_unpieces_of_plain : trim (unpieces ws) = unpieces ws :=
  trim_unpieces (fun w hmem => (hw w hmem).1) fun w hmem => (hw w hmem).2.1

/-- Amount and currency are the first word of their field and the others. -/
theorem amountAndCurrency_unpieces :
    amountAndCurrency (unpieces ws) = amountAndCurrencyOfWords ws := by
  rw [amountAndCurrency, trim_unpieces_of_plain hw]
  cases ws with
  | nil => rfl
  | cons w rest =>
    rw [unpieces, List.splitOn_intercalate ' ' (fun v hv => (hw v hv).1.2) (List.cons_ne_nil _ _)]
    rfl

/-- A row of words that has no space in it is one word. -/
theorem eq_singleton_of_space_notMem (hne : ws ≠ []) (h : ' ' ∉ unpieces ws) :
    ∃ w, ws = [w] := by
  match ws with
  | [] => exact absurd rfl hne
  | [w] => exact ⟨w, rfl⟩
  | w :: v :: rest => simp [unpieces_cons] at h

/-- The date field is accepted exactly if it is one word, which is a date. -/
theorem dateField_unpieces (hne : ws ≠ []) :
    dateField (unpieces ws) = dateOfWords ws := by
  obtain ⟨w, rest, rfl⟩ := List.exists_cons_of_ne_nil hne
  have hrow : unpieces (w :: rest) ≠ [] := by
    rw [unpieces_cons]
    exact fun hnil => (hw w List.mem_cons_self).1.1 (List.append_eq_nil_iff.1 hnil).1
  rw [dateField, trim_unpieces_of_plain hw, if_neg (by simpa using hrow)]
  cases rest with
  | nil =>
    rw [unpieces_singleton]
    rfl
  | cons v rest =>
    -- There is a space between the words, and no date has one.
    refine if_neg fun hdate => ?_
    obtain ⟨u, hu⟩ := eq_singleton_of_space_notMem hw hne
      fun hspace => (isVisible_of_isDateText hdate ' ' hspace).ne_space rfl
    cases hu

/-- An id is well formed only if it is one word. -/
theorem eq_singleton_of_isAccountId (h : isAccountId (unpieces ws) = true) : ∃ w, ws = [w] := by
  refine eq_singleton_of_space_notMem hw ?_
    fun hspace => (isVisible_of_isAccountId h ' ' hspace).ne_space rfl
  rintro rfl
  cases h

end

/-- Of one word each, the ids are checked and the accounts told apart as in reading by
characters. -/
theorem ofFieldWords_singleton (form : Form) (amount currency a b : Text)
    (executeBy : Option Text) :
    Instruction.ofFieldWords form amount currency [a] [b] executeBy
      = Instruction.ofFields form amount currency a b executeBy := by
  unfold Instruction.ofFieldWords Instruction.ofFields
  simp only [Bool.and_eq_true]
  split
  · cases form <;> rfl
  · rfl

/-- Ids are accepted exactly if either is one well-formed word. -/
theorem ofFields_unpieces {first second : List Text} (hfirst : ∀ w ∈ first, IsPlainWord w)
    (hsecond : ∀ w ∈ second, IsPlainWord w) (form : Form) (amount currency : Text)
    (executeBy : Option Text) :
    Instruction.ofFields form amount currency (unpieces first) (unpieces second) executeBy
      = Instruction.ofFieldWords form amount currency first second executeBy := by
  by_cases hids : isAccountId (unpieces first) = true ∧ isAccountId (unpieces second) = true
  · obtain ⟨a, rfl⟩ := eq_singleton_of_isAccountId hfirst hids.1
    obtain ⟨b, rfl⟩ := eq_singleton_of_isAccountId hsecond hids.2
    rw [unpieces_singleton, unpieces_singleton, ofFieldWords_singleton]
  · -- Whatever the rows are, they are refused; rows of one word are refused for what they hold.
    have hrefused : ∀ a b, (isAccountId a = true ∧ isAccountId b = true) = False →
        Instruction.ofFields form amount currency a b executeBy = .error .invalidAccountId := by
      intro a b hab
      unfold Instruction.ofFields
      rw [if_neg (by rw [Bool.and_eq_true, hab]; exact id)]
    rw [hrefused _ _ (eq_false hids)]
    unfold Instruction.ofFieldWords
    split
    · rw [unpieces_singleton, unpieces_singleton] at hids
      exact (if_neg hids).symm
    · rfl

/-! ## Reading by characters and by words -/

section

variable {ws : List Text} (hw : ∀ w ∈ ws, IsPlainWord w)

include hw

private theorem isWord_map_upper : ∀ w ∈ ws.map upper, IsWord w := by
  intro w hmem
  obtain ⟨v, hv, rfl⟩ := List.mem_map.1 hmem
  exact isWord_upper_iff.2 (hw v hv).1

private theorem place_upper (i : Nat) : place (ws.map upper) i = place ws i :=
  place_map_upper (fun w hmem => (hw w hmem).2.2) i

/-- A cut that starts behind the marker of a keyword found in the upper case is a row of whole
words. -/
theorem cut_marker {keyword : List Text} (hne : keyword ≠ []) {i : Nat}
    (h : OccursAt keyword (ws.map upper) i) (j : Nat) :
    cut (unpieces ws) (place ws i + (marker keyword).length) (place ws j)
      = unpieces (between ws (i + keyword.length) j) := by
  have hplace := place_add_marker hne h
  rw [place_upper hw, place_upper hw] at hplace
  have hpos := h.1
  rw [hplace, cut_place ws (by omega)]

theorem dateAt_unpieces :
    Instruction.dateAt (unpieces ws)
        ((firstOccurrence dateKeyword (ws.map upper)).map (place ws))
      = dateAfter ws (firstOccurrence dateKeyword (ws.map upper)) := by
  cases hio : firstOccurrence dateKeyword (ws.map upper) with
  | none => rfl
  | some i =>
    have hocc := (firstOccurrence_eq_some_iff.1 hio).1
    have hlen := hocc.2.2
    rw [List.length_map] at hlen
    have hcut : (unpieces ws).drop (place ws i + (marker dateKeyword).length)
        = unpieces (ws.drop (i + dateKeyword.length)) := by
      have hplace := place_add_marker dateKeyword_ne_nil hocc
      rw [place_upper hw, place_upper hw] at hplace
      rw [hplace, drop_place ws (Nat.le_trans hocc.1 (Nat.le_add_right i _))]
    have hne : ws.drop (i + dateKeyword.length) ≠ [] :=
      List.ne_nil_of_length_pos (by rw [List.length_drop]; omega)
    rw [Option.map_some, Instruction.dateAt, dateMarker, hcut,
      dateField_unpieces (fun w hmem => hw w (List.mem_of_mem_drop hmem)) hne]
    rfl

theorem ofForm_unpieces (form : Form) (hplace : place ws 1 = form.word.length) :
    Instruction.ofForm form (unpieces ws) (unpieces (ws.map upper))
      = Instruction.ofFormWords form ws := by
  rw [Instruction.ofForm_eq_bind, marks_unpieces form (isWord_map_upper hw),
    Instruction.ofFormWords]
  cases hocc : form.occurrences (ws.map upper) with
  | error cause => rfl
  | ok found =>
    obtain ⟨i, j⟩ := found
    obtain ⟨hi, hj, -⟩ := occurrences_eq_ok_iff.1 hocc
    have hocci := (firstOccurrence_eq_some_iff.1 hi).1
    have hoccj := (firstOccurrence_eq_some_iff.1 hj).1
    have hopening : form.opening.length = place ws 1 + 1 := by
      rw [Form.opening, List.length_append, hplace, List.length_singleton]
    -- The second id ends at the date keyword, or else where the text does.
    have hstop : ((firstOccurrence dateKeyword (ws.map upper)).map (place ws)).getD
        (unpieces ws).length
        = place ws ((firstOccurrence dateKeyword (ws.map upper)).getD ws.length) := by
      cases firstOccurrence dateKeyword (ws.map upper) with
      | none => exact (place_of_length_le (Nat.le_refl _)).symm
      | some k => rfl
    have hplaces : place (ws.map upper) = place ws := funext (place_upper hw)
    have hbetween : ∀ i j, ∀ w ∈ between ws i j, IsPlainWord w :=
      fun i j w hmem => hw w (mem_of_mem_between hmem)
    simp only [Except.map, Except.bind, bind, hplaces, hstop]
    rw [hopening, cut_place ws (Nat.le_refl 1), amountAndCurrency_unpieces (hbetween 1 i),
      Form.firstMarker, Form.secondMarker, cut_marker hw form.firstKeyword_ne_nil hocci,
      cut_marker hw form.secondKeyword_ne_nil hoccj, trim_unpieces_of_plain (hbetween _ _),
      trim_unpieces_of_plain (hbetween _ _), dateAt_unpieces hw]
    simp only [ofFields_unpieces (hbetween _ _) (hbetween _ _)]

end

/-- Reading the characters of a text is reading its pieces, where these are plain. -/
theorem parse_eq_ofWords_pieces {t : Text} (hplain : ∀ w ∈ pieces t, IsPlainWord w) :
    Instruction.parse t = Instruction.ofWords (pieces t) := by
  rw [Instruction.parse, Text.normalize, upper_unpieces,
    ofOpening?_unpieces (isWord_map_upper hplain), Instruction.ofWords]
  cases hform : Form.ofWords? ((pieces t).map upper) with
  | none => rfl
  | some form =>
    refine ofForm_unpieces hplain form ?_
    obtain ⟨rest, -, hrest⟩ := ofWords?_eq_some_iff.1 hform
    rw [← place_upper hplain, hrest, place, List.take_succ_cons, List.take_zero,
      unpieces_singleton]

/-- Reading the characters of a text is reading its words, where the space is the only white space
and no upper case is longer than its character. -/
theorem parse_eq_ofWords {t : Text} (hkeep : KeepsLength t) (hblank : SpacesOnly t) :
    Instruction.parse t = Instruction.ofWords (words t) := by
  rw [← pieces_eq_words hblank]
  exact parse_eq_ofWords_pieces (isPlainWord_of_mem_pieces hkeep hblank)

/-- Keywords may stand inside fields, and letters of either case in keywords. In a credit, `ACCOUNT`
is the account that is named first and credited. -/
theorem parse_eq_ofWords_lowerCase :
    Instruction.ofWords
        (words "Debit 5  NGN To from ACCOUNT FOR For Credit To Account TO on 2025-02-31".toList)
      = .ok ⟨.debit, "5".toList, "NGN To".toList, "FOR".toList, "TO".toList,
        some "2025-02-31".toList⟩
    ∧ Instruction.ofWords
        (words "crediT 007 EUR From to account ACCOUNT  for debit from Account Credit".toList)
      = .ok ⟨.credit, "007".toList, "EUR From".toList, "Credit".toList, "ACCOUNT".toList,
        none⟩ := by
  have hdebit : Instruction.parse
      "Debit 5  NGN To from ACCOUNT FOR For Credit To Account TO on 2025-02-31".toList
      = .ok ⟨.debit, "5".toList, "NGN To".toList, "FOR".toList, "TO".toList,
        some "2025-02-31".toList⟩ := by
    decide +kernel
  have hcredit : Instruction.parse
      "crediT 007 EUR From to account ACCOUNT  for debit from Account Credit".toList
      = .ok ⟨.credit, "007".toList, "EUR From".toList, "Credit".toList, "ACCOUNT".toList,
        none⟩ := by
    decide +kernel
  constructor
  · rw [← parse_eq_ofWords (by decide +kernel) (by decide +kernel)]
    exact hdebit
  · rw [← parse_eq_ofWords (by decide +kernel) (by decide +kernel)]
    exact hcredit

end Remit
