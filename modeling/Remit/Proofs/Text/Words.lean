import Remit.Text.Basic

/-!
# Words of a text

A text that is normalized is a row of words with single spaces between them. This module moves
between the two views:

* `words`, the non-empty pieces between spaces; they are the pieces of the text if the space is its
  only white space (`pieces_eq_words`), and writing pieces in a row loses nothing
  (`pieces_unpieces`);
* `spaced`, a row in which a space stands before every word, the form in which a row is taken apart
  (`unpieces_append`);
* `place`, the position of the space before a word, with `cut_place` turning a cut between two
  places into the row of the words between them.
-/

namespace Remit.Text

/-! ## Words -/

/-- A word: a text that is not empty and has no space in it. -/
def IsWord (w : Text) : Prop :=
  w ≠ [] ∧ ' ' ∉ w

instance (w : Text) : Decidable (IsWord w) := by
  unfold IsWord; infer_instance

/-- The words of a text: its non-empty pieces between spaces. -/
def words (t : Text) : List Text :=
  (t.splitOn ' ').filter fun w => !w.isEmpty

/-- A row of words with a space before each of them. -/
def spaced (ws : List Text) : Text :=
  ws.flatMap fun w => ' ' :: w

@[simp] theorem spaced_nil : spaced [] = [] := rfl

@[simp] theorem spaced_cons (w : Text) (ws : List Text) :
    spaced (w :: ws) = ' ' :: (w ++ spaced ws) := rfl

@[simp] theorem spaced_append (vs ws : List Text) : spaced (vs ++ ws) = spaced vs ++ spaced ws :=
  List.flatMap_append

@[simp] theorem unpieces_nil : unpieces [] = [] := rfl

theorem unpieces_cons (w : Text) (ws : List Text) : unpieces (w :: ws) = w ++ spaced ws := by
  induction ws generalizing w with
  | nil => simp [unpieces]
  | cons v ws ih =>
    have hv : [' '].intercalate (v :: ws) = v ++ spaced ws := ih v
    rw [unpieces, List.intercalate_cons_cons, hv]
    simp

@[simp] theorem unpieces_singleton (w : Text) : unpieces [w] = w :=
  List.intercalate_singleton

theorem spaced_eq_cons {ws : List Text} (h : ws ≠ []) : spaced ws = ' ' :: unpieces ws := by
  obtain ⟨w, rest, rfl⟩ := List.exists_cons_of_ne_nil h
  rw [spaced_cons, unpieces_cons]

/-- A row of words continued by further words. -/
theorem unpieces_append {vs : List Text} (h : vs ≠ []) (ws : List Text) :
    unpieces (vs ++ ws) = unpieces vs ++ spaced ws := by
  obtain ⟨v, rest, rfl⟩ := List.exists_cons_of_ne_nil h
  rw [List.cons_append, unpieces_cons, unpieces_cons, spaced_append, List.append_assoc]

/-! ## Splitting at spaces -/

/-- No piece between spaces has a space in it. -/
theorem space_notMem_of_mem_splitOn {t w : Text} (h : w ∈ t.splitOn ' ') : ' ' ∉ w := by
  induction t generalizing w with
  | nil =>
    rw [List.splitOn_nil, List.mem_singleton] at h
    subst h
    exact List.not_mem_nil
  | cons c t ih =>
    rw [List.splitOn_cons_eq_if_modifyHead] at h
    split at h
    · rcases List.mem_cons.1 h with rfl | h
      · exact List.not_mem_nil
      · exact ih h
    · -- A character that is no space joins the first piece.
      next hc =>
      obtain ⟨v, vs, hv⟩ := List.exists_cons_of_ne_nil (List.splitOn_ne_nil ' ' t)
      rw [hv, List.modifyHead_cons] at h
      rcases List.mem_cons.1 h with rfl | h
      · intro hmem
        rcases List.mem_cons.1 hmem with rfl | hmem
        · exact hc (beq_self_eq_true _)
        · exact ih (hv ▸ List.mem_cons_self) hmem
      · exact ih (hv ▸ List.mem_cons_of_mem _ h)

/-- The pieces between spaces hold characters of the text only. -/
theorem mem_of_mem_splitOn {t w : Text} (h : w ∈ t.splitOn ' ') {c : Char} (hc : c ∈ w) :
    c ∈ t := by
  have hrow : unpieces (t.splitOn ' ') = t := List.intercalate_splitOn ' '
  rw [← hrow]
  obtain ⟨vs, us, hsplit⟩ := List.append_of_mem h
  rw [hsplit]
  cases vs with
  | nil =>
    rw [List.nil_append, unpieces_cons]
    exact List.mem_append_left _ hc
  | cons v vs =>
    rw [List.cons_append, unpieces_cons, spaced_append, spaced_cons]
    simp [hc]

/-- What stands between two spaces, without a space in it, is a piece. -/
theorem mem_splitOn_of_spaces {w : Text} (hw : ' ' ∉ w) (a b : Text) :
    w ∈ (a ++ ' ' :: (w ++ ' ' :: b)).splitOn ' ' := by
  rw [List.splitOn_append_cons_self, List.splitOn_append_cons_self_of_not_mem hw]
  exact List.mem_append_right _ List.mem_cons_self

/-- A piece is a word, and it is not white space throughout. -/
theorem isWord_of_mem_pieces {t w : Text} (h : w ∈ pieces t) :
    IsWord w ∧ isBlankText w = false := by
  obtain ⟨hw, hblank⟩ := List.mem_filter.1 h
  refine ⟨⟨?_, space_notMem_of_mem_splitOn hw⟩, by simpa using hblank⟩
  rintro rfl
  simp [isBlankText] at hblank

/-- The pieces of a text are those of its words that are not blank. -/
theorem pieces_eq_filter_words (t : Text) :
    pieces t = (words t).filter fun w => !isBlankText w := by
  rw [words, List.filter_filter]
  refine List.filter_congr fun w _ => ?_
  cases w with
  | nil => rfl
  | cons c w => simp

/-- Words written in a row are found again. -/
theorem words_unpieces {ws : List Text} (h : ∀ w ∈ ws, IsWord w) : words (unpieces ws) = ws := by
  cases ws with
  | nil => rfl
  | cons w rest =>
    rw [words, unpieces, List.splitOn_intercalate ' ' (fun v hv => (h v hv).2) (by simp)]
    exact List.filter_eq_self.2 fun v hv => by simp [(h v hv).1]

/-- Pieces written in a row are found again. -/
theorem pieces_unpieces {ws : List Text} (h : ∀ w ∈ ws, IsWord w ∧ isBlankText w = false) :
    pieces (unpieces ws) = ws := by
  rw [pieces_eq_filter_words, words_unpieces fun w hw => (h w hw).1]
  exact List.filter_eq_self.2 fun w hw => by simp [(h w hw).2]

/-- Normalizing a row of pieces changes nothing. -/
theorem normalize_unpieces {ws : List Text} (h : ∀ w ∈ ws, IsWord w ∧ isBlankText w = false) :
    normalize (unpieces ws) = unpieces ws := by
  rw [normalize, pieces_unpieces h]

/-- The words of a normalized text are the pieces of the text. -/
theorem words_normalize (t : Text) : words (normalize t) = pieces t :=
  words_unpieces fun _ hw => (isWord_of_mem_pieces hw).1

theorem normalize_eq_nil_iff {t : Text} : normalize t = [] ↔ pieces t = [] := by
  constructor
  · intro h
    rw [← words_normalize, h]
    rfl
  · intro h
    exact congrArg unpieces h

/-- Between its spaces a normalized text has exactly the pieces of the text, if there are any. -/
theorem splitOn_normalize {t : Text} (h : pieces t ≠ []) :
    (normalize t).splitOn ' ' = pieces t :=
  List.splitOn_intercalate ' ' (fun _ hw => (isWord_of_mem_pieces hw).1.2) h

/-- The space U+0020 is the only white space in the text. -/
def SpacesOnly (t : Text) : Prop :=
  ∀ c ∈ t, isBlank c = true → c = ' '

instance (t : Text) : Decidable (SpacesOnly t) :=
  List.decidableBAll (fun c => isBlank c = true → c = ' ') t

/-- Where the space is the only white space, the pieces of a text are its words. -/
theorem pieces_eq_words {t : Text} (h : SpacesOnly t) : pieces t = words t := by
  refine List.filter_congr fun w hw => ?_
  cases w with
  | nil => rfl
  | cons c w =>
    have hc : isBlank c = false := by
      cases hblank : isBlank c with
      | false => rfl
      | true =>
        have hspace := h c (mem_of_mem_splitOn hw List.mem_cons_self) hblank
        exact absurd (hspace ▸ List.mem_cons_self) (space_notMem_of_mem_splitOn hw)
    simp [isBlankText, hc]

/-! ## Places of words -/

/-- The position in a row of words at which its first `i` words end. The space before the next word
stands there. -/
def place (ws : List Text) (i : Nat) : Nat :=
  (unpieces (ws.take i)).length

@[simp] theorem place_zero (ws : List Text) : place ws 0 = 0 := rfl

theorem place_of_length_le {ws : List Text} {i : Nat} (h : ws.length ≤ i) :
    place ws i = (unpieces ws).length := by
  rw [place, List.take_of_length_le h]

/-- From the end of the first words to the end of some more. -/
theorem place_add {ws : List Text} {i : Nat} (h : 1 ≤ i) (hi : i ≤ ws.length) (n : Nat) :
    place ws (i + n) = place ws i + (spaced ((ws.drop i).take n)).length := by
  have hne : ws.take i ≠ [] := by
    apply List.ne_nil_of_length_pos
    rw [List.length_take]
    omega
  rw [place, place, List.take_add, unpieces_append hne, List.length_append]

theorem place_lt_place {ws : List Text} (hw : ∀ w ∈ ws, IsWord w) {i j : Nat} (hij : i < j)
    (hi : i < ws.length) : place ws i < place ws j := by
  have hdrop : (ws.drop i).take (j - i) ≠ [] := by
    apply List.ne_nil_of_length_pos
    rw [List.length_take, List.length_drop]
    omega
  -- The first word has no space before it, so position 0 is a case of its own.
  rcases Nat.eq_zero_or_pos i with rfl | hpos
  · obtain ⟨w, rest, rfl⟩ := List.exists_cons_of_ne_nil (List.ne_nil_of_length_pos hi)
    obtain ⟨k, rfl⟩ : ∃ k, j = k + 1 := ⟨j - 1, by omega⟩
    have hlen := List.length_pos_iff.2 (hw w List.mem_cons_self).1
    rw [place_zero, place, List.take_succ_cons, unpieces_cons, List.length_append]
    omega
  · have hadd := place_add hpos (Nat.le_of_lt hi) (j - i)
    rw [spaced_eq_cons hdrop, List.length_cons, Nat.add_sub_cancel' (Nat.le_of_lt hij)] at hadd
    omega

theorem place_lt_place_iff {ws : List Text} (hw : ∀ w ∈ ws, IsWord w) {i j : Nat}
    (hi : i < ws.length) (hj : j < ws.length) : place ws i < place ws j ↔ i < j := by
  refine ⟨fun hlt => ?_, fun hij => place_lt_place hw hij hi⟩
  rcases Nat.lt_trichotomy i j with hij | rfl | hji
  · exact hij
  · exact absurd hlt (Nat.lt_irrefl _)
  · exact absurd hlt (Nat.lt_asymm (place_lt_place hw hji hj))

/-- The words from position `i` up to but not including position `j`. -/
def between (ws : List Text) (i j : Nat) : List Text :=
  (ws.take j).drop i

theorem map_between (f : Text → Text) (ws : List Text) (i j : Nat) :
    (between ws i j).map f = between (ws.map f) i j := by
  rw [between, between, List.map_drop, List.map_take]

/-- The words from one position on are those up to another and those from there on. -/
theorem between_append_drop (ws : List Text) {i j : Nat} (h : i ≤ j) :
    between ws i j ++ ws.drop j = ws.drop i := by
  have hj : ws.drop j = (ws.drop i).drop (j - i) := by
    rw [List.drop_drop, Nat.add_sub_cancel' h]
  rw [between, List.drop_take, hj, List.take_append_drop]

theorem lt_of_between_ne_nil {ws : List Text} {i j : Nat} (h : between ws i j ≠ []) : i < j := by
  have hlen := List.length_pos_iff.2 h
  rw [between, List.length_drop, List.length_take] at hlen
  omega

theorem mem_of_mem_between {ws : List Text} {i j : Nat} {w : Text} (h : w ∈ between ws i j) :
    w ∈ ws :=
  List.mem_of_mem_take (List.mem_of_mem_drop h)

theorem take_place (ws : List Text) (i : Nat) :
    (unpieces ws).take (place ws i) = unpieces (ws.take i) := by
  by_cases hnil : ws.take i = []
  · rw [place, hnil]
    rfl
  · have hrow := unpieces_append hnil (ws.drop i)
    rw [List.take_append_drop] at hrow
    rw [place, hrow, List.take_left]

/-- The cut from behind the space before one word to the space before another is the row of the
words between them. -/
theorem cut_place (ws : List Text) {i : Nat} (h : 1 ≤ i) (j : Nat) :
    cut (unpieces ws) (place ws i + 1) (place ws j) = unpieces (between ws i j) := by
  rw [cut, take_place, between]
  by_cases hlen : i < (ws.take j).length
  · -- Some word lies between the places, and the row divides at the space before it.
    have hne : (ws.take j).take i ≠ [] := by
      apply List.ne_nil_of_length_pos
      rw [List.length_take]
      omega
    have hdrop : (ws.take j).drop i ≠ [] := by
      apply List.ne_nil_of_length_pos
      rw [List.length_drop]
      omega
    have hplace : place ws i = (unpieces ((ws.take j).take i)).length := by
      rw [List.length_take] at hlen
      rw [place, List.take_take, Nat.min_eq_left (by omega)]
    have hrow := unpieces_append hne ((ws.take j).drop i)
    rw [List.take_append_drop, spaced_eq_cons hdrop] at hrow
    rw [hrow, hplace, ← List.drop_drop, List.drop_left, List.drop_one, List.tail_cons]
  · rw [List.drop_of_length_le (Nat.le_of_not_lt hlen), unpieces_nil]
    refine List.drop_of_length_le ?_
    -- The cut starts where all `j` words have ended.
    have hall : ws.take j = (ws.take i).take j := by
      rw [List.length_take] at hlen
      rw [List.take_take]
      by_cases hj : j ≤ i
      · rw [Nat.min_eq_left hj]
      · rw [List.take_of_length_le (by omega), List.take_of_length_le (by omega)]
    have hle := List.length_take_le' (place (ws.take i) j) (unpieces (ws.take i))
    rw [take_place, ← hall] at hle
    rw [place]
    omega

/-- What stands behind the space before a word is the row of the words from there on. -/
theorem drop_place (ws : List Text) {i : Nat} (h : 1 ≤ i) :
    (unpieces ws).drop (place ws i + 1) = unpieces (ws.drop i) := by
  have hcut := cut_place ws h ws.length
  rw [place_of_length_le (Nat.le_refl _), cut, List.take_length, between, List.take_length] at hcut
  exact hcut

end Remit.Text
