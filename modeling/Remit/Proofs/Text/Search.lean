import Remit.Proofs.Text.Words

/-!
# Searching a row of words

What `indexOf?` finds, and what it finds in a row of words when the phrase itself is a row of words
with a space at either end. Such a phrase can only occur where words begin, so the search among
characters is a search among words:

* `indexOf?_eq_some_iff` and `indexOf?_eq_none_iff` say that `indexOf?` finds the first occurrence;
* `OccursAt` and `firstOccurrence` are the same notions on lists of words;
* `indexOf?_spaced` is the translation: the first place of the phrase is the place of the first
  occurrence of its words.
-/

namespace Remit.Text

/-! ## The first place of a phrase -/

/-- A phrase is found at a position when it stands there and nowhere before. -/
theorem indexOf?_eq_some_iff {phrase t : Text} {k : Nat} :
    indexOf? phrase t = some k
      ↔ k ≤ t.length ∧ phrase <+: t.drop k ∧ ∀ j < k, ¬ phrase <+: t.drop j := by
  induction t generalizing k with
  | nil =>
    rw [indexOf?]
    constructor
    · intro h
      split at h
      · next hempty =>
        cases h
        exact ⟨Nat.le_refl 0, by simp [List.isEmpty_iff.1 hempty], by simp⟩
      · cases h
    · rintro ⟨hk, hfound, -⟩
      rw [List.length_nil, Nat.le_zero] at hk
      subst hk
      rw [List.drop_zero, List.prefix_nil] at hfound
      simp [hfound]
  | cons c t ih =>
    rw [indexOf?]
    -- Either the phrase stands here, or it is searched for in the rest, one position further.
    by_cases hfound : phrase <+: c :: t
    · rw [if_pos (List.isPrefixOf_iff_prefix.2 hfound)]
      constructor
      · intro h
        cases h
        exact ⟨Nat.zero_le _, hfound, by simp⟩
      · rintro ⟨-, -, hfirst⟩
        cases k with
        | zero => rfl
        | succ k => exact absurd hfound (hfirst 0 (Nat.succ_pos k))
    · rw [if_neg fun h => hfound (List.isPrefixOf_iff_prefix.1 h), Option.map_eq_some_iff]
      constructor
      · rintro ⟨i, hi, rfl⟩
        obtain ⟨hle, hpre, hfirst⟩ := ih.1 hi
        refine ⟨Nat.succ_le_succ hle, hpre, fun j hj => ?_⟩
        cases j with
        | zero => exact hfound
        | succ j => exact hfirst j (Nat.lt_of_succ_lt_succ hj)
      · rintro ⟨hle, hpre, hfirst⟩
        cases k with
        | zero => exact absurd hpre hfound
        | succ k =>
          exact ⟨k, ih.2 ⟨Nat.le_of_succ_le_succ hle, hpre,
            fun j hj => hfirst (j + 1) (Nat.succ_lt_succ hj)⟩, rfl⟩

/-- A phrase is not found when it stands nowhere. -/
theorem indexOf?_eq_none_iff {phrase t : Text} :
    indexOf? phrase t = none ↔ ∀ k, ¬ phrase <+: t.drop k := by
  induction t with
  | nil =>
    rw [indexOf?]
    cases phrase with
    | nil => simp
    | cons c phrase => simp
  | cons c t ih =>
    rw [indexOf?]
    by_cases hfound : phrase <+: c :: t
    · rw [if_pos (List.isPrefixOf_iff_prefix.2 hfound)]
      exact ⟨fun h => absurd h (by simp), fun h => absurd hfound (h 0)⟩
    · rw [if_neg fun h => hfound (List.isPrefixOf_iff_prefix.1 h), Option.map_eq_none_iff, ih]
      constructor
      · intro h k
        cases k with
        | zero => exact hfound
        | succ k => exact h k
      · exact fun h k => h (k + 1)

/-! ## Occurrences among words -/

/-- The words of `phrase` stand among `ws` from position `i` on. A word stands before them and a
word follows them. -/
def OccursAt (phrase ws : List Text) (i : Nat) : Prop :=
  1 ≤ i ∧ (ws.drop i).take phrase.length = phrase ∧ i + phrase.length < ws.length

instance (phrase ws : List Text) (i : Nat) : Decidable (OccursAt phrase ws i) := by
  unfold OccursAt; infer_instance

/-- The least position at which a phrase occurs among words. -/
def firstOccurrence (phrase ws : List Text) : Option Nat :=
  (List.range ws.length).find? fun i => decide (OccursAt phrase ws i)

theorem firstOccurrence_eq_some_iff {phrase ws : List Text} {i : Nat} :
    firstOccurrence phrase ws = some i
      ↔ OccursAt phrase ws i ∧ ∀ j < i, ¬ OccursAt phrase ws j := by
  rw [firstOccurrence, List.find?_range_eq_some]
  constructor
  · rintro ⟨hocc, -, hfirst⟩
    exact ⟨of_decide_eq_true hocc, fun j hj => by simpa using hfirst j hj⟩
  · rintro ⟨hocc, hfirst⟩
    have hlen : i < ws.length := by
      have := hocc.2.2
      omega
    exact ⟨decide_eq_true hocc, List.mem_range.2 hlen, fun j hj => by simpa using hfirst j hj⟩

theorem firstOccurrence_eq_none_iff {phrase ws : List Text} :
    firstOccurrence phrase ws = none ↔ ∀ i, ¬ OccursAt phrase ws i := by
  rw [firstOccurrence, List.find?_range_eq_none]
  constructor
  · intro h i hocc
    have hlen : i < ws.length := by
      have := hocc.2.2
      omega
    exact absurd hocc (by simpa using h i hlen)
  · exact fun h i _ => by simpa using h i

theorem OccursAt.map {phrase ws : List Text} {i : Nat} (h : OccursAt phrase ws i)
    (f : Text → Text) : OccursAt (phrase.map f) (ws.map f) i := by
  obtain ⟨hpos, htake, hlen⟩ := h
  refine ⟨hpos, ?_, by simpa using hlen⟩
  rw [List.length_map, ← List.map_drop, ← List.map_take, htake]

/-- A phrase occurs where the remaining words begin with it and go on after it. -/
theorem occursAt_iff {phrase ws : List Text} {i : Nat} :
    OccursAt phrase ws i ↔ 1 ≤ i ∧ ∃ rest, rest ≠ [] ∧ ws.drop i = phrase ++ rest := by
  constructor
  · rintro ⟨hpos, htake, hlen⟩
    refine ⟨hpos, (ws.drop i).drop phrase.length, ?_, ?_⟩
    · rw [List.drop_drop]
      exact List.ne_nil_of_length_pos (by rw [List.length_drop]; omega)
    · exact (List.prefix_iff_eq_append.1 (htake ▸ List.take_prefix _ _)).symm
  · rintro ⟨hpos, rest, hrest, hdrop⟩
    have hlen := congrArg List.length hdrop
    have hpositive := List.length_pos_iff.2 hrest
    rw [List.length_drop, List.length_append] at hlen
    exact ⟨hpos, by rw [hdrop, List.take_left], by omega⟩

/-! ## From characters to words -/

/-- From an occurrence on, the words are the phrase and those behind it. -/
theorem OccursAt.drop_eq {phrase ws : List Text} {i : Nat} (h : OccursAt phrase ws i) :
    ws.drop i = phrase ++ ws.drop (i + phrase.length) := by
  have hsplit := List.take_append_drop phrase.length (ws.drop i)
  rw [h.2.1, List.drop_drop] at hsplit
  exact hsplit.symm

/-- Two texts that each open with a word agree on the word when one continues the other. The word
ends where the space is. -/
theorem word_append_prefix_iff {v w s t : Text} (hv : ' ' ∉ v) (hw : ' ' ∉ w)
    (ht : t = [] ∨ ∃ t', t = ' ' :: t') :
    v ++ ' ' :: s <+: w ++ t ↔ v = w ∧ ' ' :: s <+: t := by
  -- Letter by letter: neither word can go on where the other has its space.
  induction v generalizing w with
  | nil =>
    cases w with
    | nil => simp
    | cons c w =>
      have hc : ' ' ≠ c := fun h => hw (h ▸ List.mem_cons_self)
      simp [List.cons_prefix_cons, hc]
  | cons b v ih =>
    have hb : b ≠ ' ' := fun h => hv (h ▸ List.mem_cons_self)
    cases w with
    | nil => rcases ht with rfl | ⟨t', rfl⟩ <;> simp [List.cons_prefix_cons, hb]
    | cons c w =>
      have hv' : ' ' ∉ v := fun h => hv (List.mem_cons_of_mem _ h)
      have hw' : ' ' ∉ w := fun h => hw (List.mem_cons_of_mem _ h)
      simp only [List.cons_append, List.cons_prefix_cons, ih hv' hw', List.cons.injEq, and_assoc]

theorem spaced_eq_nil_or (ws : List Text) : spaced ws = [] ∨ ∃ t, spaced ws = ' ' :: t := by
  cases ws with
  | nil => exact Or.inl rfl
  | cons w ws => exact Or.inr ⟨w ++ spaced ws, rfl⟩

/-- A phrase between spaces opens with a space, also when it has no words. -/
theorem spaced_append_space_eq_cons (phrase : List Text) :
    ∃ s, spaced phrase ++ [' '] = ' ' :: s := by
  cases phrase with
  | nil => exact ⟨[], rfl⟩
  | cons w ws => exact ⟨_, rfl⟩

/-- A phrase between spaces begins a row of words exactly if its words do and a word follows. -/
theorem spaced_prefix_iff {phrase ws : List Text} (hp : ∀ w ∈ phrase, IsWord w)
    (hw : ∀ w ∈ ws, IsWord w) :
    spaced phrase ++ [' '] <+: spaced ws ↔ ∃ rest, rest ≠ [] ∧ ws = phrase ++ rest := by
  induction phrase generalizing ws with
  | nil =>
    cases ws with
    | nil => simp
    | cons w ws => simp [List.cons_prefix_cons]
  | cons v phrase ih =>
    cases ws with
    | nil => simp
    | cons w ws =>
      have hv := (hp v List.mem_cons_self).2
      have hhead := (hw w List.mem_cons_self).2
      have hstep := ih (fun u hu => hp u (List.mem_cons_of_mem _ hu))
        (fun u hu => hw u (List.mem_cons_of_mem _ hu))
      -- What follows the phrase's first word begins with a space in any case.
      obtain ⟨s, hs⟩ := spaced_append_space_eq_cons phrase
      rw [spaced_cons, spaced_cons, List.cons_append, List.append_assoc, List.cons_prefix_cons, hs,
        word_append_prefix_iff hv hhead (spaced_eq_nil_or ws), ← hs, hstep]
      simp only [true_and, List.cons_append, List.cons.injEq]
      constructor
      · rintro ⟨rfl, rest, hrest, rfl⟩
        exact ⟨rest, hrest, rfl, rfl⟩
      · rintro ⟨rest, hrest, rfl, rfl⟩
        exact ⟨rfl, rest, hrest, rfl⟩

/-- Inside a word no phrase begins that opens with a space. -/
theorem prefix_drop_word_append_iff {w s t : Text} (hw : ' ' ∉ w) (k : Nat) :
    ' ' :: s <+: (w ++ t).drop k ↔ w.length ≤ k ∧ ' ' :: s <+: t.drop (k - w.length) := by
  rw [List.drop_append]
  by_cases hk : w.length ≤ k
  · rw [List.drop_of_length_le hk, List.nil_append]
    simp [hk]
  · obtain ⟨c, rest, hrest⟩ := List.exists_cons_of_ne_nil
      (List.ne_nil_of_length_pos (l := w.drop k) (by rw [List.length_drop]; omega))
    have hc : ' ' ≠ c := by
      rintro rfl
      exact hw (List.mem_of_mem_drop (hrest ▸ List.mem_cons_self))
    simp [hrest, List.cons_prefix_cons, hc, hk]

/-- The positions of a phrase between spaces in a row of words that opens with a space. -/
theorem spaced_prefix_drop_iff {phrase ws : List Text} (hp : ∀ w ∈ phrase, IsWord w)
    (hw : ∀ w ∈ ws, IsWord w) (k : Nat) :
    spaced phrase ++ [' '] <+: (spaced ws).drop k
      ↔ ∃ i rest, k = (spaced (ws.take i)).length ∧ rest ≠ [] ∧ ws.drop i = phrase ++ rest := by
  obtain ⟨s, hs⟩ := spaced_append_space_eq_cons phrase
  induction ws generalizing k with
  | nil =>
    rw [spaced_nil, List.drop_nil, List.prefix_nil]
    constructor
    · intro h
      rw [hs] at h
      cases h
    · rintro ⟨i, rest, -, hrest, hdrop⟩
      rw [List.drop_nil] at hdrop
      exact absurd (List.append_eq_nil_iff.1 hdrop.symm).2 hrest
  | cons w ws ih =>
    have hword := (hw w List.mem_cons_self).2
    have htail : ∀ u ∈ ws, IsWord u := fun u hu => hw u (List.mem_cons_of_mem _ hu)
    -- The phrase begins at the first space, or else behind the first word.
    cases k with
    | zero =>
      rw [List.drop_zero, spaced_prefix_iff hp hw]
      constructor
      · rintro ⟨rest, hrest, hws⟩
        exact ⟨0, rest, rfl, hrest, hws⟩
      · rintro ⟨i, rest, hk, hrest, hdrop⟩
        cases i with
        | zero => exact ⟨rest, hrest, hdrop⟩
        | succ i => simp at hk
    | succ k =>
      rw [spaced_cons, List.drop_succ_cons, hs, prefix_drop_word_append_iff hword, ← hs,
        ih htail]
      constructor
      · rintro ⟨hle, i, rest, hk, hrest, hdrop⟩
        refine ⟨i + 1, rest, ?_, hrest, hdrop⟩
        rw [List.take_succ_cons, spaced_cons, List.length_cons, List.length_append]
        omega
      · rintro ⟨i, rest, hk, hrest, hdrop⟩
        cases i with
        | zero => simp at hk
        | succ i =>
          rw [List.take_succ_cons, spaced_cons, List.length_cons, List.length_append] at hk
          exact ⟨by omega, i, rest, by omega, hrest, hdrop⟩

/-- The positions of a phrase between spaces in a row of words. -/
theorem prefix_drop_unpieces_iff {phrase ws : List Text} (hp : ∀ w ∈ phrase, IsWord w)
    (hw : ∀ w ∈ ws, IsWord w) (k : Nat) :
    spaced phrase ++ [' '] <+: (unpieces ws).drop k
      ↔ ∃ i, OccursAt phrase ws i ∧ k = place ws i := by
  obtain ⟨s, hs⟩ := spaced_append_space_eq_cons phrase
  cases ws with
  | nil =>
    rw [unpieces_nil, List.drop_nil, List.prefix_nil]
    constructor
    · intro h
      rw [hs] at h
      cases h
    · rintro ⟨i, ⟨-, -, hlen⟩, -⟩
      exact absurd hlen (Nat.not_lt_zero _)
  | cons w ws =>
    have hword := (hw w List.mem_cons_self).2
    have htail : ∀ u ∈ ws, IsWord u := fun u hu => hw u (List.mem_cons_of_mem _ hu)
    -- No space stands before the first word, so the phrase begins behind it.
    rw [unpieces_cons, hs, prefix_drop_word_append_iff hword, ← hs,
      spaced_prefix_drop_iff hp htail]
    constructor
    · rintro ⟨hle, i, rest, hk, hrest, hdrop⟩
      refine ⟨i + 1, occursAt_iff.2 ⟨Nat.succ_pos i, rest, hrest, hdrop⟩, ?_⟩
      rw [place, List.take_succ_cons, unpieces_cons, List.length_append]
      omega
    · rintro ⟨i, hocc, hk⟩
      obtain ⟨hpos, rest, hrest, hdrop⟩ := occursAt_iff.1 hocc
      obtain ⟨i, rfl⟩ : ∃ i', i = i' + 1 := ⟨i - 1, by omega⟩
      rw [place, List.take_succ_cons, unpieces_cons, List.length_append] at hk
      exact ⟨by omega, i, rest, by omega, hrest, hdrop⟩

/-- Searching the characters of a row of words for a phrase between spaces is searching its
words. -/
theorem indexOf?_spaced {phrase ws : List Text} (hp : ∀ w ∈ phrase, IsWord w)
    (hw : ∀ w ∈ ws, IsWord w) :
    indexOf? (spaced phrase ++ [' ']) (unpieces ws)
      = (firstOccurrence phrase ws).map (place ws) := by
  cases hfirst : firstOccurrence phrase ws with
  | none =>
    rw [Option.map_none, indexOf?_eq_none_iff]
    intro k hk
    obtain ⟨i, hocc, -⟩ := (prefix_drop_unpieces_iff hp hw k).1 hk
    exact firstOccurrence_eq_none_iff.1 hfirst i hocc
  | some i =>
    obtain ⟨hocc, hleast⟩ := firstOccurrence_eq_some_iff.1 hfirst
    rw [Option.map_some, indexOf?_eq_some_iff]
    refine ⟨?_, (prefix_drop_unpieces_iff hp hw _).2 ⟨i, hocc, rfl⟩, fun j hj hpre => ?_⟩
    · rw [place, ← take_place]
      exact List.length_take_le' _ _
    · obtain ⟨i', hocc', rfl⟩ := (prefix_drop_unpieces_iff hp hw j).1 hpre
      have hlen := hocc'.2.2
      -- Places grow with positions, so an earlier place would be an earlier occurrence.
      have hle : i ≤ i' := Nat.le_of_not_lt fun hlt => hleast i' hlt hocc'
      rcases Nat.eq_or_lt_of_le hle with rfl | hlt
      · exact Nat.lt_irrefl _ hj
      · have hmono := place_lt_place hw hlt (by omega)
        omega

end Remit.Text
