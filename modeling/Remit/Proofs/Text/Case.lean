import Remit.Text.Case
import Remit.Proofs.Text.Trim

/-!
# Upper case and length

The upper case of a text may be longer than the text, and then positions in the one are not
positions in the other. Two things hold for every text all the same: no character is lost
(`length_le_length_upper`), and spaces stay spaces and nothing else becomes one
(`space_mem_upperChar_iff`), so the upper case of a row of words is a row of words
(`upper_unpieces`, `isWord_upper_iff`).

`KeepsLength` singles out the texts whose upper case has as many characters. In these, cutting and
upper-casing may be exchanged.
-/

namespace Remit.Text

/-! ## The tables -/

private theorem caseExpansions_sound :
    ∀ e ∈ caseExpansions, e.2 ≠ [] ∧ ∀ n ∈ e.2, n ≠ 0x20 := by
  decide +kernel

private theorem lt_target_of_mem_caseRuns : ∀ r ∈ caseRuns, 0x20 < r.target := by
  decide +kernel

private theorem upperChar_blank_codes : ∀ r ∈ blankRanges, ∀ n ∈ List.range' r.1 (r.2 + 1 - r.1),
    upperChar (Char.ofNat n) = [Char.ofNat n] := by
  decide +kernel

private theorem toUpper_ascii_codes :
    ∀ n ∈ List.range 0x80, (Char.ofNat n).toUpper = ' ' → Char.ofNat n = ' ' := by
  decide +kernel

/-- A code other than 32 is not the code of the space, also where it is the code of no
character. -/
private theorem ofNat_ne_space {n : Nat} (h : n ≠ 0x20) : Char.ofNat n ≠ ' ' := by
  intro hspace
  by_cases hvalid : n.isValidChar
  · have hcode := congrArg Char.toNat hspace
    rw [Char.ofNat, dif_pos hvalid] at hcode
    exact h hcode
  · rw [Char.ofNat, dif_neg hvalid] at hspace
    exact absurd hspace (by decide)

/-! ## One character -/

/-- The three ways in which a character beyond ASCII gets its upper case. -/
private theorem upperChar_cases {c : Char} (h : ¬ c.toNat < 0x80) :
    (∃ e ∈ caseExpansions, upperChar c = e.2.map Char.ofNat)
      ∨ (∃ n, 0x20 < n ∧ upperChar c = [Char.ofNat n]) ∨ upperChar c = [c] := by
  rw [upperChar, if_neg h]
  split
  · next e he => exact Or.inl ⟨e, List.mem_of_find?_eq_some he, rfl⟩
  · split
    · next r hr =>
      have htarget := lt_target_of_mem_caseRuns r (List.mem_of_find?_eq_some hr)
      refine Or.inr (Or.inl ⟨r.map c.toNat, ?_, rfl⟩)
      rw [CaseRun.map]
      omega
    · exact Or.inr (Or.inr rfl)

theorem upperChar_ne_nil (c : Char) : upperChar c ≠ [] := by
  by_cases h : c.toNat < 0x80
  · rw [upperChar_ascii h]
    exact List.cons_ne_nil _ _
  · rcases upperChar_cases h with ⟨e, he, heq⟩ | ⟨n, -, heq⟩ | heq
    · rw [heq]
      exact fun hnil => (caseExpansions_sound e he).1 (List.map_eq_nil_iff.1 hnil)
    · rw [heq]
      exact List.cons_ne_nil _ _
    · rw [heq]
      exact List.cons_ne_nil _ _

@[simp] theorem upperChar_space : upperChar ' ' = [' '] := rfl

/-- Only the space has a space in its upper case. -/
theorem space_mem_upperChar_iff {c : Char} : ' ' ∈ upperChar c ↔ c = ' ' := by
  constructor
  · intro hmem
    by_cases h : c.toNat < 0x80
    · rw [upperChar_ascii h, List.mem_singleton] at hmem
      have hcode := toUpper_ascii_codes c.toNat (List.mem_range.2 h)
      rw [Char.ofNat_toNat] at hcode
      exact hcode hmem.symm
    · rcases upperChar_cases h with ⟨e, he, heq⟩ | ⟨n, hn, heq⟩ | heq
      · rw [heq] at hmem
        obtain ⟨n, hn, hspace⟩ := List.mem_map.1 hmem
        exact absurd hspace (ofNat_ne_space ((caseExpansions_sound e he).2 n hn))
      · rw [heq, List.mem_singleton] at hmem
        exact absurd hmem.symm (ofNat_ne_space (Nat.ne_of_gt hn))
      · rw [heq, List.mem_singleton] at hmem
        exact hmem.symm
  · rintro rfl
    simp

/-- White space is its own upper case. -/
theorem upperChar_of_isBlank {c : Char} (h : isBlank c = true) : upperChar c = [c] := by
  rw [isBlank, List.any_eq_true] at h
  obtain ⟨r, hr, hrange⟩ := h
  rw [Bool.and_eq_true, decide_eq_true_eq, decide_eq_true_eq] at hrange
  have hcode := upperChar_blank_codes r hr c.toNat (List.mem_range'_1.2 (by omega))
  rwa [Char.ofNat_toNat] at hcode

/-! ## Texts -/

theorem length_le_length_upper (t : Text) : t.length ≤ (upper t).length := by
  induction t with
  | nil => exact Nat.le_refl _
  | cons c t ih =>
    have hpos := List.length_pos_iff.2 (upperChar_ne_nil c)
    rw [upper_cons, List.length_append, List.length_cons]
    omega

theorem space_mem_upper_iff {t : Text} : ' ' ∈ upper t ↔ ' ' ∈ t := by
  rw [upper, List.mem_flatMap]
  constructor
  · rintro ⟨c, hc, hmem⟩
    exact space_mem_upperChar_iff.1 hmem ▸ hc
  · exact fun h => ⟨' ', h, space_mem_upperChar_iff.2 rfl⟩

theorem upper_eq_nil_iff {t : Text} : upper t = [] ↔ t = [] := by
  constructor
  · intro hnil
    have hlen := length_le_length_upper t
    rw [hnil, List.length_nil, Nat.le_zero] at hlen
    exact List.eq_nil_of_length_eq_zero hlen
  · rintro rfl
    rfl

@[simp] theorem isWord_upper_iff {w : Text} : IsWord (upper w) ↔ IsWord w := by
  rw [IsWord, IsWord, Ne, upper_eq_nil_iff, space_mem_upper_iff]

/-- A text is trimmed if its upper case has no white space in it. -/
theorem trim_of_upper {t : Text} (h : ∀ c ∈ upper t, isBlank c = false) : trim t = t := by
  apply trim_of_forall_isBlank
  intro c hc
  cases hblank : isBlank c with
  | false => rfl
  | true =>
    have hmem : c ∈ upper t :=
      List.mem_flatMap.2 ⟨c, hc, by rw [upperChar_of_isBlank hblank]; exact List.mem_cons_self⟩
    rw [h c hmem] at hblank
    cases hblank

theorem upper_spaced (ws : List Text) : upper (spaced ws) = spaced (ws.map upper) := by
  induction ws with
  | nil => rfl
  | cons w ws ih => simp [ih]

/-- The upper case of a row of words is the row of their upper cases. -/
theorem upper_unpieces (ws : List Text) : upper (unpieces ws) = unpieces (ws.map upper) := by
  cases ws with
  | nil => rfl
  | cons w ws => rw [List.map_cons, unpieces_cons, unpieces_cons, upper_append, upper_spaced]

/-- The pieces of an upper case are the upper cases of the pieces. -/
theorem splitOn_upper (t : Text) : (upper t).splitOn ' ' = (t.splitOn ' ').map upper := by
  have hrow : unpieces (t.splitOn ' ') = t := List.intercalate_splitOn ' '
  have hne : (t.splitOn ' ').map upper ≠ [] := by
    simp [List.splitOn_ne_nil]
  have hspace : ∀ w ∈ (t.splitOn ' ').map upper, ' ' ∉ w := by
    intro w hw
    obtain ⟨v, hv, rfl⟩ := List.mem_map.1 hw
    rw [space_mem_upper_iff]
    exact space_notMem_of_mem_splitOn hv
  calc (upper t).splitOn ' '
      = (unpieces ((t.splitOn ' ').map upper)).splitOn ' ' := by rw [← upper_unpieces, hrow]
    _ = (t.splitOn ' ').map upper := List.splitOn_intercalate ' ' hspace hne

/-! ## Texts that keep their length -/

/-- Every character of the text has a one-character upper case. -/
def KeepsLength (t : Text) : Prop :=
  ∀ c ∈ t, (upperChar c).length = 1

instance (t : Text) : Decidable (KeepsLength t) :=
  List.decidableBAll (fun c => (upperChar c).length = 1) t

/-- Nothing else keeps the length of a text. -/
theorem keepsLength_iff {t : Text} : KeepsLength t ↔ (upper t).length = t.length := by
  induction t with
  | nil => simp [KeepsLength]
  | cons c t ih =>
    have hpos := List.length_pos_iff.2 (upperChar_ne_nil c)
    have hle := length_le_length_upper t
    -- No upper case is empty, so nothing makes up for one that is too long.
    have hcons : KeepsLength (c :: t) ↔ (upperChar c).length = 1 ∧ KeepsLength t :=
      List.forall_mem_cons
    rw [hcons, ih, upper_cons, List.length_append, List.length_cons]
    omega

theorem KeepsLength.append {s t : Text} (hs : KeepsLength s) (ht : KeepsLength t) :
    KeepsLength (s ++ t) := by
  intro c hc
  exact (List.mem_append.1 hc).elim (hs c) (ht c)

theorem KeepsLength.subset {s t : Text} (ht : KeepsLength t) (h : ∀ c ∈ s, c ∈ t) :
    KeepsLength s :=
  fun c hc => ht c (h c hc)

theorem KeepsLength.upper_take {t : Text} (h : KeepsLength t) (n : Nat) :
    upper (t.take n) = (upper t).take n := by
  have htake : KeepsLength (t.take n) := h.subset fun _ hc => List.mem_of_mem_take hc
  have hlen := keepsLength_iff.1 htake
  have hsplit : upper (t.take n) ++ upper (t.drop n) = upper t := by
    rw [← upper_append, List.take_append_drop]
  rw [← hsplit]
  -- The upper case of the first characters has their number, so it is what is taken.
  by_cases hn : n ≤ t.length
  · rw [List.length_take, Nat.min_eq_left hn] at hlen
    exact (List.take_left' hlen).symm
  · have hle : t.length ≤ n := by omega
    rw [List.take_of_length_le hle, List.drop_of_length_le hle, upper_nil, List.append_nil,
      List.take_of_length_le]
    rw [keepsLength_iff.1 h]
    exact hle

theorem KeepsLength.upper_drop {t : Text} (h : KeepsLength t) (n : Nat) :
    upper (t.drop n) = (upper t).drop n := by
  have hsplit : (upper t).take n ++ upper (t.drop n) = (upper t).take n ++ (upper t).drop n := by
    rw [← h.upper_take, ← upper_append, List.take_append_drop, h.upper_take,
      List.take_append_drop]
  exact List.append_cancel_left hsplit

/-- Cutting and upper-casing may be exchanged in a text that keeps its length. -/
theorem KeepsLength.upper_cut {t : Text} (h : KeepsLength t) (start stop : Nat) :
    upper (cut t start stop) = cut (upper t) start stop := by
  have htake : KeepsLength (t.take stop) := h.subset fun _ hc => List.mem_of_mem_take hc
  rw [cut, cut, htake.upper_drop, h.upper_take]

theorem keepsLength_unpieces {ws : List Text} (h : ∀ w ∈ ws, KeepsLength w) :
    KeepsLength (unpieces ws) := by
  intro c hc
  by_cases hspace : c = ' '
  · rw [hspace, upperChar_space, List.length_singleton]
  · have hmem : ∃ w ∈ ws, c ∈ w := by
      cases ws with
      | nil => cases hc
      | cons w rest =>
        rw [unpieces_cons, spaced] at hc
        simpa [hspace] using hc
    obtain ⟨w, hw, hcw⟩ := hmem
    exact h w hw c hcw

/-- Words that keep their length end at the places where their upper cases end. -/
theorem place_map_upper {ws : List Text} (h : ∀ w ∈ ws, KeepsLength w) (i : Nat) :
    place (ws.map upper) i = place ws i := by
  have hrow := keepsLength_unpieces fun w hw => h w (List.mem_of_mem_take (i := i) hw)
  rw [place, place, ← List.map_take, ← upper_unpieces, keepsLength_iff.1 hrow]

end Remit.Text
