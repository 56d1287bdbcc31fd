import Remit.Proofs.Json.Read
import Remit.Proofs.Text.Encoding

/-!
# JSON texts in UTF-8

A JSON text in UTF-8 is taken for UTF-8 (`encodes_utf8_of_spells`), since nothing in it looks like
another encoding: the character of code zero does not occur in it (`notMem_of_spells`, an induction
over the grammar), and no value begins with a byte-order mark.
-/

namespace Remit

open Text

/-! ## Tokens -/

theorem notMem_of_isBlanks {blanks : Text} (h : IsBlanks blanks) : '\x00' ∉ blanks := by
  intro hmem
  exact absurd (h _ hmem) (by decide)

theorem Numeral.notMem_of_spells {t : Text} {n : Numeral} (h : Spells t n) : '\x00' ∉ t := by
  have hdigits : ∀ {digits : Text}, IsDigits digits → '\x00' ∉ digits := fun h =>
    h.notMem (by decide)
  obtain ⟨hwhole, hfraction, hexponent⟩ := h
  rename_i negative whole fractionText exponentText fraction exponent
  have hwhole' := hdigits (isDigits_of_isWhole hwhole)
  have hfraction' : '\x00' ∉ fractionText := by
    cases hfraction with
    | none => exact List.not_mem_nil
    | some h => simp [hdigits h]
  have hexponent' : '\x00' ∉ exponentText := by
    cases hexponent with
    | none => exact List.not_mem_nil
    | some hletter hsign h =>
      simp only [List.mem_cons, Prod.mk.injEq, List.not_mem_nil, or_false] at hsign
      rcases hletter with rfl | rfl <;> rcases hsign with ⟨rfl, -⟩ | ⟨rfl, -⟩ | ⟨rfl, -⟩ <;>
        simp [hdigits h]
  cases negative <;> simp [Double.withSign, *]

theorem notMem_of_hexUnit? {a b c d : Char} {unit : Nat} (h : hexUnit? a b c d = some unit) :
    '\x00' ∉ [a, b, c, d] := by
  simp only [List.mem_cons, List.not_mem_nil, or_false, not_or]
  unfold hexUnit? at h
  refine ⟨?_, ?_, ?_, ?_⟩
  all_goals
    rintro rfl
    simp [hexDigit?] at h

theorem notMem_of_spellsUnits {t : Text} {units : List Nat} (h : SpellsUnits t units) :
    '\x00' ∉ t := by
  induction h with
  | nil => exact List.not_mem_nil
  | plain hquote hbackslash hcontrol h ih =>
    refine List.not_mem_cons_of_ne_of_not_mem ?_ ih
    rintro rfl
    exact absurd hcontrol (by decide)
  | letter hcode h ih =>
    refine List.not_mem_cons_of_ne_of_not_mem (by decide) (List.not_mem_cons_of_ne_of_not_mem ?_ ih)
    rintro rfl
    cases hcode
  | @hex a b c d unit t units hunit h ih =>
    have hdigits := notMem_of_hexUnit? hunit
    simp only [List.mem_cons, List.not_mem_nil, or_false, not_or] at hdigits ⊢
    exact ⟨by decide, by decide, hdigits.1, hdigits.2.1, hdigits.2.2.1, hdigits.2.2.2, ih⟩

namespace Json

/-! ## Values -/

theorem notMem_of_spellsName {standIn : Char} {t name : Text} (h : SpellsName standIn t name) :
    '\x00' ∉ t := by
  obtain ⟨hbefore, hafter, hunits⟩ := h
  simp [notMem_of_isBlanks hbefore, notMem_of_isBlanks hafter, notMem_of_spellsUnits hunits]

/-- What is in parts with commas between them is a comma or in one of the parts. -/
theorem mem_separated {c : Char} {parts : List Text} (h : c ∈ separated parts) :
    c = ',' ∨ ∃ part ∈ parts, c ∈ part := by
  induction parts with
  | nil => cases h
  | cons part parts ih =>
    cases parts with
    | nil =>
      rw [separated, List.intercalate_singleton] at h
      exact Or.inr ⟨part, List.mem_cons_self, h⟩
    | cons next parts =>
      rw [separated, List.intercalate_cons_cons, List.mem_append, List.mem_append] at h
      rcases h with (h | h) | h
      · exact Or.inr ⟨part, List.mem_cons_self, h⟩
      · exact Or.inl (List.mem_singleton.1 h)
      · rcases ih h with hcomma | ⟨other, hother, hc⟩
        · exact Or.inl hcomma
        · exact Or.inr ⟨other, List.mem_cons_of_mem _ hother, hc⟩

theorem notMem_of_spells {standIn : Char} {depth : Nat} {t : Text} {v : Json}
    (h : Spells standIn depth t v) : '\x00' ∉ t := by
  induction h with
  | padded hbefore hafter h ih => simp [notMem_of_isBlanks hbefore, notMem_of_isBlanks hafter, ih]
  | null => decide
  | true => decide
  | false => decide
  | integer h hinteger hlimit => exact Numeral.notMem_of_spells h
  | real h hinteger hfinite => exact Numeral.notMem_of_spells h
  | text h => simp [notMem_of_spellsUnits h]
  | emptyList h => simp [notMem_of_isBlanks h]
  | @list depth items hitems h ih =>
    have hparts : '\x00' ∉ separated (items.map (·.1)) := by
      intro hmem
      obtain hcomma | ⟨part, hpart, hc⟩ := mem_separated hmem
      · cases hcomma
      · obtain ⟨item, hitem, rfl⟩ := List.mem_map.1 hpart
        exact ih item hitem hc
    simp [hparts]
  | emptyObject h => simp [notMem_of_isBlanks h]
  | @object depth members hmembers hnames h ih =>
    have hparts : '\x00' ∉ memberTexts members := by
      intro hmem
      obtain hcomma | ⟨part, hpart, hc⟩ := mem_separated hmem
      · cases hcomma
      · obtain ⟨member, hmember, rfl⟩ := List.mem_map.1 hpart
        simp [notMem_of_spellsName (hnames member hmember), ih member hmember] at hc
    simp [hparts]

/-- No value begins with a byte-order mark. -/
theorem head?_of_spells {standIn : Char} {depth : Nat} {t : Text} {v : Json}
    (h : Spells standIn depth t v) : t.head? ≠ some '\ufeff' := by
  intro hhead
  obtain ⟨rest, rfl⟩ := List.head?_eq_some_iff.1 hhead
  have hread := read_of_spells h
  have hplain : readPlain ('\ufeff' :: rest) = .error .malformed := by
    simp [readPlain, wordValues, List.isPrefixOf, Numeral.scan?, Numeral.scanSign,
      Numeral.scanWhole?, Numeral.scanDigits]
  rw [read, skipBlanks_cons (by decide), readValue.eq_def] at hread
  dsimp only at hread
  rw [if_neg (by decide), if_neg (by decide), if_neg (by decide), hplain] at hread
  cases hread

/-- A JSON text is read from its bytes in UTF-8. -/
theorem encodes_utf8_of_spells {standIn : Char} {depth : Nat} {t : Text} {v : Json}
    (h : Spells standIn depth t v) : Encodes (utf8 t) t :=
  encodes_utf8 (notMem_of_spells h) (head?_of_spells h)

end Json
end Remit
