import Remit.Proofs.Json.Grammar

/-!
# Every JSON text is read

The reader takes each text of the grammar for the value that it spells (`read_of_spells`), if it may
follow lists and objects as deep as they are nested there. Of a single value it reads as much as
spells it, and the white space behind that may be left over (`IsRead`).

The proof is an induction over the grammar. Its invariant carries the fuel: two steps for every
character are enough, since a list or an object takes one step for itself and one for each of its
parts before the part is read, and each of these has a character of its own.
-/

namespace Remit

open Text

/-! ## White space -/

theorem skipBlanks_append {blanks : Text} (h : IsBlanks blanks) (t : Text) :
    skipBlanks (blanks ++ t) = skipBlanks t :=
  List.dropWhile_append_of_pos h

theorem skipBlanks_cons {c : Char} (h : isJsonBlank c = false) (t : Text) :
    skipBlanks (c :: t) = c :: t :=
  List.dropWhile_cons_of_neg (by rw [h]; exact Bool.false_ne_true)

theorem isEnd_cons {c : Char} (h : c = ',' ∨ c = ']' ∨ c = '\x7d') (rest : Text) :
    IsEnd (c :: rest) := by
  intro d hd
  rw [List.head?_cons, Option.mem_some_iff] at hd
  exact Or.inr (hd ▸ h)

/-! ## Words and numbers -/

theorem ne_of_isDigit {c other : Char} (hc : c.isDigit = true) (hother : other.isDigit = false) :
    c ≠ other := by
  rintro rfl
  rw [hother] at hc
  cases hc

/-- A numeral begins with a digit, or with one behind a minus sign. -/
theorem exists_cons_of_spells {t : Text} {n : Numeral} (h : Numeral.Spells t n) :
    ∃ c tail, c.isDigit = true ∧ (t = c :: tail ∨ t = '-' :: c :: tail) := by
  obtain ⟨hwhole, -, -⟩ := h
  rename_i negative whole fractionText exponentText fraction exponent
  obtain ⟨c, digits, rfl⟩ := List.exists_cons_of_ne_nil (Numeral.isDigits_of_isWhole hwhole).1
  refine ⟨c, digits ++ (fractionText ++ exponentText),
    (Numeral.isDigits_of_isWhole hwhole).2 c List.mem_cons_self, ?_⟩
  cases negative with
  | true => exact Or.inr rfl
  | false => exact Or.inl rfl

/-- No numeral begins like a word. -/
theorem find?_wordValues_of_spells {t : Text} {n : Numeral} (h : Numeral.Spells t n)
    (rest : Text) : wordValues.find? (fun entry => entry.1.isPrefixOf (t ++ rest)) = none := by
  obtain ⟨c, tail, hc, ht⟩ := exists_cons_of_spells h
  have hn : 'n' ≠ c := (ne_of_isDigit hc (by decide)).symm
  have ht' : 't' ≠ c := (ne_of_isDigit hc (by decide)).symm
  have hf : 'f' ≠ c := (ne_of_isDigit hc (by decide)).symm
  have hN : 'N' ≠ c := (ne_of_isDigit hc (by decide)).symm
  have hI : 'I' ≠ c := (ne_of_isDigit hc (by decide)).symm
  have hminus : '-' ≠ c := (ne_of_isDigit hc (by decide)).symm
  rcases ht with rfl | rfl <;> simp [wordValues, List.isPrefixOf, *]

theorem readPlain_integer {t : Text} {n : Numeral} (h : Numeral.Spells t n)
    (hinteger : n.isInteger = true) (hlimit : n.whole.length ≤ digitLimit) {rest : Text}
    (hrest : IsEnd rest) : readPlain (t ++ rest) = .ok (.integer n.integer, rest) := by
  rw [readPlain, find?_wordValues_of_spells h, Numeral.scan?_append h hrest]
  dsimp only
  rw [hinteger]
  exact if_neg (Nat.not_lt.2 hlimit)

theorem readPlain_real {t : Text} {n : Numeral} (h : Numeral.Spells t n)
    (hinteger : n.isInteger = false) {rest : Text} (hrest : IsEnd rest) :
    readPlain (t ++ rest) = .ok (.real n.double, rest) := by
  rw [readPlain, find?_wordValues_of_spells h, Numeral.scan?_append h hrest]
  dsimp only
  rw [hinteger]
  rfl

theorem readPlain_null (rest : Text) :
    readPlain ("null".toList ++ rest) = .ok (.null, rest) := by
  simp [readPlain, wordValues, List.isPrefixOf]

theorem readPlain_true (rest : Text) :
    readPlain ("true".toList ++ rest) = .ok (.bool true, rest) := by
  simp [readPlain, wordValues, List.isPrefixOf]

theorem readPlain_false (rest : Text) :
    readPlain ("false".toList ++ rest) = .ok (.bool false, rest) := by
  simp [readPlain, wordValues, List.isPrefixOf]

/-! ## Values -/

namespace Json

/-- The reader takes a text for a value, whatever end stands behind it. Some of the white space that
follows may be read with the value. -/
def IsRead (standIn : Char) (depth : Nat) (t : Text) (v : Json) : Prop :=
  ∀ fuel rest, 2 * t.length ≤ fuel → IsEnd rest →
    ∃ behind, readValue standIn fuel depth (skipBlanks (t ++ rest)) = .ok (v, behind)
      ∧ skipBlanks behind = skipBlanks rest

/-- The fuel for a text has a step for its first character. -/
theorem exists_fuel {c : Char} {t : Text} {fuel : Nat} (h : 2 * (c :: t).length ≤ fuel) :
    ∃ left, fuel = left + 1 ∧ 2 * t.length < left := by
  rw [List.length_cons] at h
  exact ⟨fuel - 1, by omega, by omega⟩

section

variable {standIn : Char} {depth : Nat} {t name rest : Text} {v : Json}

theorem isRead_padded {before after : Text} (hbefore : IsBlanks before) (hafter : IsBlanks after)
    (h : IsRead standIn depth t v) : IsRead standIn depth (before ++ (t ++ after)) v := by
  intro fuel rest hfuel hrest
  rw [List.length_append, List.length_append] at hfuel
  obtain ⟨behind, hread, hbehind⟩ :=
    h fuel (after ++ rest) (by omega) (isEnd_append_of_isBlanks hafter hrest)
  refine ⟨behind, ?_, hbehind.trans (skipBlanks_append hafter rest)⟩
  rw [List.append_assoc, List.append_assoc, skipBlanks_append hbefore, hread]

/-- A word or a number is read if it is taken for what it is. -/
theorem isRead_plain {c : Char} {tail : Text}
    (hc : c ≠ '"' ∧ c ≠ '[' ∧ c ≠ '\x7b' ∧ isJsonBlank c = false)
    (h : ∀ rest, IsEnd rest → readPlain (c :: tail ++ rest) = .ok (v, rest)) :
    IsRead standIn depth (c :: tail) v := by
  obtain ⟨hquote, hbracket, hbrace, hblank⟩ := hc
  intro fuel rest hfuel hrest
  obtain ⟨left, rfl, -⟩ := exists_fuel hfuel
  refine ⟨rest, ?_, rfl⟩
  rw [List.cons_append, skipBlanks_cons hblank, readValue.eq_def]
  dsimp only
  rw [if_neg hquote, if_neg hbracket, if_neg hbrace]
  exact h rest hrest

theorem isRead_text {units : List Nat} (h : SpellsUnits t units) :
    IsRead standIn depth ('"' :: (t ++ ['"'])) (.text (ofUnits standIn units)) := by
  intro fuel rest hfuel hrest
  obtain ⟨left, rfl, -⟩ := exists_fuel hfuel
  refine ⟨rest, ?_, rfl⟩
  have hbody : t ++ ['"'] ++ rest = t ++ '"' :: rest := by simp
  rw [List.cons_append, skipBlanks_cons (by decide), hbody, readValue.eq_def]
  dsimp only
  rw [if_pos rfl, readQuoted_append h]
  rfl

theorem isRead_emptyList {blanks : Text} (h : IsBlanks blanks) :
    IsRead standIn (depth + 1) ('[' :: (blanks ++ [']'])) (.list []) := by
  intro fuel rest hfuel hrest
  obtain ⟨left, rfl, -⟩ := exists_fuel hfuel
  have hbody : skipBlanks (blanks ++ [']'] ++ rest) = ']' :: rest := by
    rw [List.append_assoc, skipBlanks_append h]
    exact skipBlanks_cons (by decide) rest
  refine ⟨rest, ?_, rfl⟩
  rw [List.cons_append, skipBlanks_cons (by decide), readValue.eq_def]
  dsimp only
  rw [if_neg (by decide), if_pos rfl, hbody]
  rfl

theorem isRead_emptyObject {blanks : Text} (h : IsBlanks blanks) :
    IsRead standIn (depth + 1) ('\x7b' :: (blanks ++ ['\x7d'])) (.object []) := by
  intro fuel rest hfuel hrest
  obtain ⟨left, rfl, -⟩ := exists_fuel hfuel
  have hbody : skipBlanks (blanks ++ ['\x7d'] ++ rest) = '\x7d' :: rest := by
    rw [List.append_assoc, skipBlanks_append h]
    exact skipBlanks_cons (by decide) rest
  refine ⟨rest, ?_, rfl⟩
  rw [List.cons_append, skipBlanks_cons (by decide), readValue.eq_def]
  dsimp only
  rw [if_neg (by decide), if_neg (by decide), if_pos rfl, hbody]
  rfl

/-! ### Items -/

theorem readItems_last {fuel : Nat} (h : IsRead standIn depth t v) (hfuel : 2 * t.length ≤ fuel)
    (rest : Text) :
    readItems standIn (fuel + 1) depth (skipBlanks (t ++ ']' :: rest)) = .ok ([v], rest) := by
  obtain ⟨behind, hread, hbehind⟩ := h fuel (']' :: rest) hfuel (isEnd_cons (by decide) rest)
  rw [skipBlanks_cons (by decide)] at hbehind
  rw [readItems, hread]
  dsimp only [bind, Except.bind]
  rw [hbehind]
  rfl

theorem readItems_next {fuel : Nat} {more : Text} {vs : List Json} (h : IsRead standIn depth t v)
    (hfuel : 2 * t.length ≤ fuel)
    (hmore : readItems standIn fuel depth (skipBlanks more) = .ok (vs, rest)) :
    readItems standIn (fuel + 1) depth (skipBlanks (t ++ ',' :: more)) = .ok (v :: vs, rest) := by
  obtain ⟨behind, hread, hbehind⟩ := h fuel (',' :: more) hfuel (isEnd_cons (by decide) more)
  rw [skipBlanks_cons (by decide)] at hbehind
  rw [readItems, hread]
  dsimp only [bind, Except.bind]
  rw [hbehind]
  simp [hmore]

/-- No item begins with the bracket that closes the list. -/
theorem readItems_bracket (standIn : Char) (fuel depth : Nat) (rest : Text) :
    ∃ error, readItems standIn fuel depth (']' :: rest) = .error error := by
  cases fuel with
  | zero => exact ⟨_, by rw [readItems]⟩
  | succ fuel =>
    cases fuel with
    | zero => exact ⟨_, by rw [readItems, readValue.eq_def]; rfl⟩
    | succ fuel => exact ⟨_, by rw [readItems, readValue.eq_def]; rfl⟩

theorem readItems_separated {items : List (Text × Json)} (hitems : items ≠ [])
    (h : ∀ item ∈ items, IsRead standIn depth item.1 item.2) {fuel : Nat}
    (hfuel : 2 * (separated (items.map (·.1))).length < fuel) (rest : Text) :
    readItems standIn fuel depth (skipBlanks (separated (items.map (·.1)) ++ ']' :: rest))
      = .ok (items.map (·.2), rest) := by
  induction items generalizing fuel with
  | nil => exact absurd rfl hitems
  | cons item items ih =>
    obtain ⟨fuel, rfl⟩ := Nat.exists_eq_succ_of_ne_zero (Nat.ne_zero_of_lt hfuel)
    have hitem := h item List.mem_cons_self
    cases items with
    | nil =>
      have hone : separated ([item].map (·.1)) = item.1 := List.intercalate_singleton
      rw [hone] at hfuel ⊢
      exact readItems_last hitem (by omega) rest
    | cons next items =>
      -- The comma pays for the step that goes on to the next item.
      have htext : separated ((item :: next :: items).map (·.1))
          = item.1 ++ ',' :: separated ((next :: items).map (·.1)) := by
        simp [separated, List.intercalate_cons_cons]
      rw [htext, List.length_append, List.length_cons] at hfuel
      rw [htext, List.append_assoc, List.cons_append]
      refine readItems_next hitem (by omega) (ih (List.cons_ne_nil _ _) ?_ (by omega))
      exact fun item hmem => h item (List.mem_cons_of_mem _ hmem)

theorem isRead_list {items : List (Text × Json)} (hitems : items ≠ [])
    (h : ∀ item ∈ items, IsRead standIn depth item.1 item.2) :
    IsRead standIn (depth + 1) ('[' :: (separated (items.map (·.1)) ++ [']']))
      (.list (items.map (·.2))) := by
  intro fuel rest hfuel hrest
  obtain ⟨left, rfl, hleft⟩ := exists_fuel hfuel
  rw [List.length_append] at hleft
  have hread : readItems standIn left depth
      (skipBlanks (separated (items.map (·.1)) ++ ']' :: rest)) = .ok (items.map (·.2), rest) :=
    readItems_separated hitems h (by omega) rest
  refine ⟨rest, ?_, rfl⟩
  rw [List.cons_append, List.append_assoc, List.singleton_append, skipBlanks_cons (by decide),
    readValue.eq_def]
  dsimp only
  rw [if_neg (by decide), if_pos rfl]
  -- The list would be taken for an empty one if its first item began with the closing bracket.
  split
  · next behind heq =>
    obtain ⟨error, herror⟩ := readItems_bracket standIn left depth behind
    rw [heq, herror] at hread
    cases hread
  · rw [hread]
    rfl

/-! ### Members -/

theorem readMembers_last {fuel : Nat} {nameText : Text} (hname : SpellsName standIn nameText name)
    (h : IsRead standIn depth t v) (hfuel : 2 * t.length ≤ fuel) (rest : Text) :
    readMembers standIn (fuel + 1) depth (skipBlanks (nameText ++ ':' :: (t ++ '\x7d' :: rest)))
      = .ok ([(name, v)], rest) := by
  obtain ⟨behind, hread, hbehind⟩ := h fuel ('\x7d' :: rest) hfuel (isEnd_cons (by decide) rest)
  rw [skipBlanks_cons (by decide)] at hbehind
  obtain ⟨hbefore, hafter, hunits⟩ := hname
  rw [List.append_assoc, skipBlanks_append hbefore, List.cons_append, List.append_assoc,
    List.cons_append, skipBlanks_cons (by decide), readMembers, readQuoted_append hunits]
  dsimp only [bind, Except.bind]
  rw [skipBlanks_append hafter, skipBlanks_cons (by decide)]
  simp [hread, hbehind]

theorem readMembers_next {fuel : Nat} {nameText more : Text} {vs : List (Text × Json)}
    (hname : SpellsName standIn nameText name) (h : IsRead standIn depth t v)
    (hfuel : 2 * t.length ≤ fuel)
    (hmore : readMembers standIn fuel depth (skipBlanks more) = .ok (vs, rest)) :
    readMembers standIn (fuel + 1) depth (skipBlanks (nameText ++ ':' :: (t ++ ',' :: more)))
      = .ok ((name, v) :: vs, rest) := by
  obtain ⟨behind, hread, hbehind⟩ := h fuel (',' :: more) hfuel (isEnd_cons (by decide) more)
  rw [skipBlanks_cons (by decide)] at hbehind
  obtain ⟨hbefore, hafter, hunits⟩ := hname
  rw [List.append_assoc, skipBlanks_append hbefore, List.cons_append, List.append_assoc,
    List.cons_append, skipBlanks_cons (by decide), readMembers, readQuoted_append hunits]
  dsimp only [bind, Except.bind]
  rw [skipBlanks_append hafter, skipBlanks_cons (by decide)]
  simp [hread, hbehind, hmore]

theorem readMembers_separated {members : List ((Text × Text) × (Text × Json))}
    (hmembers : members ≠ [])
    (hnames : ∀ member ∈ members, SpellsName standIn member.1.1 member.1.2)
    (h : ∀ member ∈ members, IsRead standIn depth member.2.1 member.2.2) {fuel : Nat}
    (hfuel : 2 * (memberTexts members).length < fuel) (rest : Text) :
    readMembers standIn fuel depth (skipBlanks (memberTexts members ++ '\x7d' :: rest))
      = .ok (members.map fun member => (member.1.2, member.2.2), rest) := by
  induction members generalizing fuel with
  | nil => exact absurd rfl hmembers
  | cons member members ih =>
    obtain ⟨fuel, rfl⟩ := Nat.exists_eq_succ_of_ne_zero (Nat.ne_zero_of_lt hfuel)
    have hname := hnames member List.mem_cons_self
    have hvalue := h member List.mem_cons_self
    cases members with
    | nil =>
      have hone : memberTexts [member] = member.1.1 ++ ':' :: member.2.1 := by
        rw [memberTexts, List.map_singleton, separated, List.intercalate_singleton]
      rw [hone, List.length_append, List.length_cons] at hfuel
      rw [hone, List.append_assoc, List.cons_append]
      exact readMembers_last hname hvalue (by omega) rest
    | cons next members =>
      have htext : memberTexts (member :: next :: members)
          = member.1.1 ++ ':' :: (member.2.1 ++ ',' :: memberTexts (next :: members)) := by
        simp [memberTexts, separated, List.intercalate_cons_cons]
      rw [htext, List.length_append, List.length_cons, List.length_append, List.length_cons]
        at hfuel
      rw [htext, List.append_assoc, List.cons_append, List.append_assoc, List.cons_append]
      refine readMembers_next hname hvalue (by omega) (ih (List.cons_ne_nil _ _) ?_ ?_ (by omega))
      · exact fun member hmem => hnames member (List.mem_cons_of_mem _ hmem)
      · exact fun member hmem => h member (List.mem_cons_of_mem _ hmem)

/-- No member begins with the brace that closes the object. -/
theorem readMembers_brace (standIn : Char) (fuel depth : Nat) (rest : Text) :
    readMembers standIn fuel depth ('\x7d' :: rest) = .error .malformed := by
  cases fuel <;> rfl

theorem isRead_object {members : List ((Text × Text) × (Text × Json))} (hmembers : members ≠ [])
    (hnames : ∀ member ∈ members, SpellsName standIn member.1.1 member.1.2)
    (h : ∀ member ∈ members, IsRead standIn depth member.2.1 member.2.2) :
    IsRead standIn (depth + 1) ('\x7b' :: (memberTexts members ++ ['\x7d']))
      (.object (members.map fun member => (member.1.2, member.2.2))) := by
  intro fuel rest hfuel hrest
  obtain ⟨left, rfl, hleft⟩ := exists_fuel hfuel
  rw [List.length_append] at hleft
  have hread : readMembers standIn left depth (skipBlanks (memberTexts members ++ '\x7d' :: rest))
      = .ok (members.map fun member => (member.1.2, member.2.2), rest) :=
    readMembers_separated hmembers hnames h (by omega) rest
  refine ⟨rest, ?_, rfl⟩
  rw [List.cons_append, List.append_assoc, List.singleton_append, skipBlanks_cons (by decide),
    readValue.eq_def]
  dsimp only
  rw [if_neg (by decide), if_neg (by decide), if_pos rfl]
  split
  · next behind heq =>
    rw [heq, readMembers_brace] at hread
    cases hread
  · rw [hread]
    rfl

/-! ### The whole text -/

theorem isRead_numeral {n : Numeral} (h : Numeral.Spells t n)
    (hread : ∀ rest, IsEnd rest → readPlain (t ++ rest) = .ok (v, rest)) :
    IsRead standIn depth t v := by
  obtain ⟨c, tail, hc, rfl | rfl⟩ := exists_cons_of_spells h
  · have hblank : isJsonBlank c = false := by
      simp [isJsonBlank, ne_of_isDigit hc]
    exact isRead_plain ⟨ne_of_isDigit hc (by decide), ne_of_isDigit hc (by decide),
      ne_of_isDigit hc (by decide), hblank⟩ hread
  · exact isRead_plain (by decide) hread

/-- The induction over the grammar: each form of a value is read as it is spelled. -/
theorem isRead_of_spells (h : Spells standIn depth t v) : IsRead standIn depth t v := by
  induction h with
  | padded hbefore hafter h ih => exact isRead_padded hbefore hafter ih
  | null => exact isRead_plain (by decide) fun rest _ => readPlain_null rest
  | true => exact isRead_plain (by decide) fun rest _ => readPlain_true rest
  | false => exact isRead_plain (by decide) fun rest _ => readPlain_false rest
  | integer h hinteger hlimit =>
    exact isRead_numeral h fun rest hrest => readPlain_integer h hinteger hlimit hrest
  | real h hinteger hfinite =>
    exact isRead_numeral h fun rest hrest => readPlain_real h hinteger hrest
  | text h => exact isRead_text h
  | emptyList h => exact isRead_emptyList h
  | list hitems h ih => exact isRead_list hitems ih
  | emptyObject h => exact isRead_emptyObject h
  | object hmembers hnames h ih => exact isRead_object hmembers hnames ih

/-- A JSON text is read as the value that it spells. -/
theorem read_of_spells (h : Spells standIn depth t v) : read depth standIn t = .ok v := by
  obtain ⟨behind, hread, hbehind⟩ :=
    isRead_of_spells h (2 * t.length + 2) [] (by omega) (fun c hc => by cases hc)
  rw [List.append_nil] at hread
  rw [read, hread]
  dsimp only [bind, Except.bind]
  rw [hbehind]
  rfl

end

end Json
end Remit
