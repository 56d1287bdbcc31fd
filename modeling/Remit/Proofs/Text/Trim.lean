import Mathlib.Data.List.Basic
import Mathlib.Data.List.TakeWhile
import Remit.Proofs.Text.Words

/-!
# Trimming

`trim` takes a stretch out of the middle of a text (`exists_eq_append_trim_append`) whose two ends
are no white space, and it changes nothing exactly if the ends are so already
(`trim_eq_self_iff`).
-/

namespace Remit.Text

/-- What `trimEnd` takes away is white space, and what it leaves does not end in any. -/
theorem exists_eq_trimEnd_append (t : Text) :
    ∃ y, t = trimEnd t ++ y ∧ (∀ c ∈ y, isBlank c = true)
      ∧ ∀ c ∈ (trimEnd t).getLast?, isBlank c = false := by
  refine ⟨(t.reverse.takeWhile isBlank).reverse, ?_, ?_, ?_⟩
  · rw [trimEnd, ← List.reverse_append, List.takeWhile_append_dropWhile, List.reverse_reverse]
  · intro c hc
    have hall := List.all_takeWhile (l := t.reverse) (p := isBlank)
    exact List.all_eq_true.1 hall c (List.mem_reverse.1 hc)
  · intro c hc
    rw [trimEnd, List.getLast?_reverse] at hc
    have hhead := List.head?_dropWhile_not isBlank t.reverse
    rw [hc] at hhead
    simpa using hhead

/-- What `trim` takes away at either end is white space, and neither end of what it leaves is. -/
theorem exists_eq_append_trim_append (t : Text) :
    ∃ x y, t = x ++ (trim t ++ y)
      ∧ (∀ c ∈ x, isBlank c = true) ∧ (∀ c ∈ y, isBlank c = true)
      ∧ (∀ c ∈ (trim t).head?, isBlank c = false)
      ∧ ∀ c ∈ (trim t).getLast?, isBlank c = false := by
  obtain ⟨y, hy, hyblank, hlast⟩ := exists_eq_trimEnd_append (t.dropWhile isBlank)
  refine ⟨t.takeWhile isBlank, y, ?_, ?_, hyblank, ?_, hlast⟩
  · rw [trim, ← hy, List.takeWhile_append_dropWhile]
  · exact List.all_eq_true.1 List.all_takeWhile
  · intro c hc
    have hhead := List.head?_dropWhile_not isBlank t
    rw [hy, List.head?_append] at hhead
    rw [trim] at hc
    rw [hc] at hhead
    simpa using hhead

theorem length_trim_le (t : Text) : (trim t).length ≤ t.length := by
  obtain ⟨x, y, ht, -⟩ := exists_eq_append_trim_append t
  have hlen := congrArg List.length ht
  rw [List.length_append, List.length_append] at hlen
  omega

theorem mem_of_mem_trim {t : Text} {c : Char} (h : c ∈ trim t) : c ∈ t := by
  obtain ⟨x, y, ht, -⟩ := exists_eq_append_trim_append t
  rw [ht]
  exact List.mem_append_right _ (List.mem_append_left _ h)

/-- A text is trimmed exactly if neither of its ends is white space. -/
theorem trim_eq_self_iff {t : Text} :
    trim t = t ↔ (∀ c ∈ t.head?, isBlank c = false) ∧ ∀ c ∈ t.getLast?, isBlank c = false := by
  obtain ⟨x, y, ht, hx, hy, hhead, hlast⟩ := exists_eq_append_trim_append t
  constructor
  · intro htrim
    rw [htrim] at hhead hlast
    exact ⟨hhead, hlast⟩
  · rintro ⟨hfirst, hend⟩
    -- Anything taken away at an end would be white space at that end of the text.
    have hxnil : x = [] := by
      cases x with
      | nil => rfl
      | cons c x =>
        have hfalse := hfirst c (by rw [ht]; rfl)
        rw [hx c List.mem_cons_self] at hfalse
        cases hfalse
    have hynil : y = [] := by
      rcases List.eq_nil_or_concat' y with rfl | ⟨y', c, rfl⟩
      · rfl
      · have hfalse := hend c (by rw [ht]; simp)
        rw [hy c (by simp)] at hfalse
        cases hfalse
    rw [hxnil, hynil, List.append_nil, List.nil_append] at ht
    exact ht.symm

@[simp] theorem trim_trim (t : Text) : trim (trim t) = trim t := by
  obtain ⟨x, y, -, -, -, hhead, hlast⟩ := exists_eq_append_trim_append t
  exact trim_eq_self_iff.2 ⟨hhead, hlast⟩

/-- A text without white space is trimmed. -/
theorem trim_of_forall_isBlank {t : Text} (h : ∀ c ∈ t, isBlank c = false) : trim t = t :=
  trim_eq_self_iff.2 ⟨fun c hc => h c (List.mem_of_mem_head? hc),
    fun c hc => h c (List.mem_of_mem_getLast? hc)⟩

theorem trim_eq_nil_iff {t : Text} : trim t = [] ↔ isBlankText t = true := by
  obtain ⟨x, y, ht, hx, hy, hhead, -⟩ := exists_eq_append_trim_append t
  rw [isBlankText, List.all_eq_true]
  constructor
  · intro hnil c hc
    rw [ht, hnil, List.nil_append] at hc
    exact (List.mem_append.1 hc).elim (hx c) (hy c)
  · intro hall
    cases htrim : trim t with
    | nil => rfl
    | cons c rest =>
      have hmem : c ∈ t := mem_of_mem_trim (htrim ▸ List.mem_cons_self)
      have hfalse := hhead c (by rw [htrim]; rfl)
      rw [hall c hmem] at hfalse
      cases hfalse

/-- A space between texts that are not blank is not trimmed off. -/
theorem space_mem_trim {s t : Text} (hs : isBlankText s = false) (ht : isBlankText t = false) :
    ' ' ∈ trim (s ++ ' ' :: t) := by
  have hdrop : ∀ u : Text, isBlankText u = false → u.dropWhile isBlank ≠ [] := by
    intro u hu hnil
    rw [List.dropWhile_eq_nil_iff] at hnil
    rw [isBlankText, List.all_eq_true.2 hnil] at hu
    cases hu
  have hend : isBlankText t.reverse = false := by
    rw [isBlankText, List.all_reverse]
    exact ht
  -- Neither end is eaten past a character that is no white space.
  have hhead : (s ++ ' ' :: t).dropWhile isBlank = s.dropWhile isBlank ++ ' ' :: t := by
    rw [List.dropWhile_append, if_neg (by simpa using hdrop s hs)]
  have hlast : ∀ u : Text, trimEnd (u ++ ' ' :: t) = u ++ ' ' :: trimEnd t := by
    intro u
    rw [trimEnd, List.reverse_append, List.reverse_cons, List.append_assoc, List.dropWhile_append,
      if_neg (by simpa using hdrop t.reverse hend), trimEnd]
    simp
  rw [trim, hhead, hlast]
  simp

/-- A text that opens and closes with trimmed ones is trimmed. -/
theorem trim_append_append {s t u : Text} (hs : trim s = s) (hsne : s ≠ []) (hu : trim u = u)
    (hune : u ≠ []) : trim (s ++ (t ++ u)) = s ++ (t ++ u) := by
  refine trim_eq_self_iff.2 ⟨fun c hc => ?_, fun c hc => ?_⟩
  · obtain ⟨a, s', rfl⟩ := List.exists_cons_of_ne_nil hsne
    exact (trim_eq_self_iff.1 hs).1 c hc
  · obtain ⟨u', b, rfl⟩ := (List.eq_nil_or_concat' u).resolve_left hune
    rw [← List.append_assoc, ← List.append_assoc, List.getLast?_concat] at hc
    exact (trim_eq_self_iff.1 hu).2 c (by rwa [List.getLast?_concat])

/-- Nothing is trimmed off the end of a text that has no white space there. -/
theorem trimEnd_append {s : Text} (hs : ∀ c ∈ s.getLast?, isBlank c = false) (rest : Text) :
    trimEnd (s ++ rest) = s ++ trimEnd rest := by
  have hkeep : s.reverse.dropWhile isBlank = s.reverse := by
    rw [List.dropWhile_eq_self_iff]
    intro hpos
    rw [Bool.not_eq_true]
    refine hs _ ?_
    rw [← List.head?_reverse, List.head?_eq_getElem?, List.getElem?_eq_getElem hpos]
    rfl
  rw [trimEnd, List.reverse_append, List.dropWhile_append, trimEnd]
  split
  · next hblank =>
    rw [List.isEmpty_iff.1 hblank, hkeep, List.reverse_nil, List.append_nil, List.reverse_reverse]
  · rw [List.reverse_append, List.reverse_reverse]

/-- Trimming takes the white space before a trimmed text away, and what is white space behind it. -/
theorem trim_blank_append {x s : Text} (hx : ∀ c ∈ x, isBlank c = true) (hs : trim s = s)
    (hne : s ≠ []) (rest : Text) : trim (x ++ (s ++ rest)) = s ++ trimEnd rest := by
  obtain ⟨hhead, hlast⟩ := trim_eq_self_iff.1 hs
  have hdrop : (x ++ (s ++ rest)).dropWhile isBlank = s ++ rest := by
    obtain ⟨c, s', rfl⟩ := List.exists_cons_of_ne_nil hne
    rw [List.dropWhile_append_of_pos hx, List.cons_append,
      List.dropWhile_cons_of_neg (by rw [hhead c rfl]; decide)]
  rw [trim, hdrop, trimEnd_append hlast]

/-- A row of words without white space is trimmed. -/
theorem trim_unpieces {ws : List Text} (h : ∀ w ∈ ws, IsWord w)
    (hblank : ∀ w ∈ ws, ∀ c ∈ w, isBlank c = false) : trim (unpieces ws) = unpieces ws := by
  have htrim : ∀ w ∈ ws, trim w = w := fun w hw => trim_of_forall_isBlank (hblank w hw)
  cases ws with
  | nil => rfl
  | cons w rest =>
    rcases List.eq_nil_or_concat' rest with rfl | ⟨init, v, rfl⟩
    · rw [unpieces_singleton]
      exact htrim w List.mem_cons_self
    · have hv : v ∈ w :: (init ++ [v]) := by simp
      have hrow : unpieces (w :: (init ++ [v])) = w ++ ((spaced init ++ [' ']) ++ v) := by
        rw [unpieces_cons, spaced_append, spaced_cons, spaced_nil]
        simp
      rw [hrow]
      exact trim_append_append (htrim w List.mem_cons_self) (h w List.mem_cons_self).1
        (htrim v hv) (h v hv).1

end Remit.Text
