import Mathlib.Data.List.Basic
import Remit.Instruction.Parse
import Remit.Proofs.Text.Words

/-!
# Normal form

`normalize` picks one text among those with the same pieces. The texts it picks are those in normal
form (`normalize_eq_self_iff`): single spaces between words, none at the ends, and no word that is
blank. Reading an instruction looks at nothing but the pieces (`parse_eq_of_pieces_eq`).

Spaces and words are tied together by the empty pieces (`isSingleSpaced_iff_nil_notMem`): splitting
at spaces gives one wherever a text that is not empty begins or ends with a space or has two in a
row.
-/

namespace Remit

namespace Text

/-! ## Single spaces -/

/-- No space stands at either end of the text, and no two stand next to each other. -/
structure IsSingleSpaced (t : Text) : Prop where
  head_ne : t.head? ≠ some ' '
  last_ne : t.getLast? ≠ some ' '
  not_doubled : ¬ [' ', ' '] <:+: t

theorem isSingleSpaced_nil : IsSingleSpaced [] :=
  ⟨by decide, by decide, by decide⟩

/-- Spaces are single exactly if no piece between them is empty. -/
theorem isSingleSpaced_iff_nil_notMem {t : Text} (hne : t ≠ []) :
    IsSingleSpaced t ↔ [] ∉ t.splitOn ' ' := by
  constructor
  · -- Where the empty piece stands in the row says which of the three conditions fails.
    intro h hmem
    obtain ⟨vs, us, hsplit⟩ := List.append_of_mem hmem
    have hrow : unpieces (t.splitOn ' ') = t := List.intercalate_splitOn ' '
    rw [hsplit] at hrow
    by_cases hvs : vs = []
    · by_cases hus : us = []
      · rw [hvs, hus] at hrow
        exact hne hrow.symm
      · rw [hvs, List.nil_append, unpieces_cons, spaced_eq_cons hus] at hrow
        exact h.head_ne (List.head?_eq_some_iff.2 ⟨_, hrow.symm⟩)
    · rw [unpieces_append hvs, spaced_cons, List.nil_append] at hrow
      by_cases hus : us = []
      · rw [hus, spaced_nil] at hrow
        exact h.last_ne (List.getLast?_eq_some_iff.2 ⟨_, hrow.symm⟩)
      · rw [spaced_eq_cons hus] at hrow
        exact h.not_doubled ⟨unpieces vs, unpieces us, by rw [← hrow]; simp⟩
  · intro h
    refine ⟨fun hhead => ?_, fun hlast => ?_, ?_⟩
    · obtain ⟨rest, rfl⟩ := List.head?_eq_some_iff.1 hhead
      exact h (by rw [List.splitOn_cons_eq_if_modifyHead]; simp)
    · obtain ⟨rest, rfl⟩ := List.getLast?_eq_some_iff.1 hlast
      exact h (by rw [List.splitOn_append_cons_self]; simp)
    · rintro ⟨a, b, rfl⟩
      have hmem := mem_splitOn_of_spaces (List.not_mem_nil (a := ' ')) a b
      exact h (by simpa using hmem)

/-- A row of words has single spaces. -/
theorem isSingleSpaced_unpieces {ws : List Text} (h : ∀ w ∈ ws, IsWord w) :
    IsSingleSpaced (unpieces ws) := by
  by_cases hws : ws = []
  · exact hws ▸ isSingleSpaced_nil
  · have hne : unpieces ws ≠ [] := by
      intro hnil
      have hwords := words_unpieces h
      rw [hnil] at hwords
      exact hws hwords.symm
    rw [isSingleSpaced_iff_nil_notMem hne, unpieces,
      List.splitOn_intercalate ' ' (fun w hw => (h w hw).2) hws]
    exact fun hmem => (h [] hmem).1 rfl

/-- A text with single spaces is the row of its words. -/
theorem unpieces_words {t : Text} (h : IsSingleSpaced t) : unpieces (words t) = t := by
  by_cases hne : t = []
  · rw [hne]
    rfl
  · have hnil := (isSingleSpaced_iff_nil_notMem hne).1 h
    have hwords : words t = t.splitOn ' ' := by
      refine List.filter_eq_self.2 fun w hw => ?_
      have hw' : w ≠ [] := fun heq => hnil (heq ▸ hw)
      simpa using hw'
    rw [hwords]
    exact List.intercalate_splitOn ' '

/-! ## Normal form -/

/-- A text in normal form: a row of words with single spaces between them, none of them blank. -/
structure IsNormal (t : Text) : Prop extends IsSingleSpaced t where
  not_blank : ∀ w ∈ words t, isBlankText w = false

theorem isNormal_normalize (t : Text) : IsNormal (normalize t) := by
  refine ⟨isSingleSpaced_unpieces fun w hw => (isWord_of_mem_pieces hw).1, fun w hw => ?_⟩
  rw [words_normalize] at hw
  exact (isWord_of_mem_pieces hw).2

/-- The texts that normalizing leaves as they are, and so all that it gives, are those in normal
form. -/
theorem normalize_eq_self_iff {t : Text} : normalize t = t ↔ IsNormal t := by
  constructor
  · intro h
    exact h ▸ isNormal_normalize t
  · intro h
    have hpieces : pieces t = words t := by
      rw [pieces_eq_filter_words]
      exact List.filter_eq_self.2 fun w hw => by simp [h.not_blank w hw]
    calc normalize t = unpieces (words t) := congrArg unpieces hpieces
      _ = t := unpieces_words h.toIsSingleSpaced

theorem normalize_normalize (t : Text) : normalize (normalize t) = normalize t :=
  normalize_eq_self_iff.2 (isNormal_normalize t)

/-- Normal forms differ exactly where pieces differ. -/
theorem normalize_eq_normalize_iff {s t : Text} :
    normalize s = normalize t ↔ pieces s = pieces t := by
  constructor
  · intro h
    rw [← words_normalize s, h, words_normalize]
  · intro h
    exact congrArg unpieces h

end Text

namespace Instruction

open Text

/-! ## Reading -/

theorem parse_normalize (t : Text) : parse (normalize t) = parse t := by
  rw [parse, parse, normalize_normalize]

/-- Texts with the same pieces are read alike. -/
theorem parse_eq_of_pieces_eq {s t : Text} (h : pieces s = pieces t) : parse s = parse t := by
  rw [← parse_normalize s, normalize_eq_normalize_iff.2 h, parse_normalize]

/-- A normalized text has single spaces only, and its words are the pieces of the text. Splitting it
at spaces gives the same, but for the empty text, which has no word and is split into one empty
piece. Normalizing again changes nothing. Two texts have the same normal form exactly if they have
the same pieces, and then they are read alike, each as its normal form is. -/
theorem normalize_canonical (s t : Text) :
    IsSingleSpaced (normalize s)
      ∧ words (normalize s) = pieces s
      ∧ (normalize s).splitOn ' ' = (if pieces s = [] then [[]] else pieces s)
      ∧ normalize (normalize s) = normalize s
      ∧ (normalize s = normalize t ↔ pieces s = pieces t)
      ∧ (pieces s = pieces t → parse s = parse t)
      ∧ parse (normalize s) = parse s := by
  have hsplit : (normalize s).splitOn ' ' = if pieces s = [] then [[]] else pieces s := by
    split
    · next hnil =>
      rw [normalize_eq_nil_iff.2 hnil]
      rfl
    · next hne => exact splitOn_normalize hne
  exact ⟨(isNormal_normalize s).toIsSingleSpaced, words_normalize s, hsplit, normalize_normalize s,
    normalize_eq_normalize_iff, parse_eq_of_pieces_eq, parse_normalize s⟩

/-- An instruction with blank pieces of three kinds of white space, and tabs in two other pieces. -/
def airyText : Text :=
  "\u00a0 debit  5\t  u\tsd \u3000 from account a \x1c  for credit to account b ".toList

/-- The blank pieces go. The tab behind the amount and the one inside the currency stay. -/
theorem normalize_canonical_airyText :
    pieces airyText = pieces "debit 5\t u\tsd from account a for credit to account b".toList
      ∧ normalize airyText = "debit 5\t u\tsd from account a for credit to account b".toList
      ∧ parse airyText
        = .ok ⟨.debit, "5\t".toList, "u\tsd".toList, "a".toList, "b".toList, none⟩ := by
  have hpieces : pieces airyText
      = pieces "debit 5\t u\tsd from account a for credit to account b".toList := by
    decide +kernel
  obtain ⟨-, -, -, -, hiff, hread, -⟩ := normalize_canonical airyText
    "debit 5\t u\tsd from account a for credit to account b".toList
  refine ⟨hpieces, ?_, ?_⟩
  · rw [hiff.2 hpieces]
    decide +kernel
  · rw [hread hpieces]
    decide +kernel

end Instruction
end Remit
