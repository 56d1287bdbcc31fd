import Remit.Json.Read
import Remit.Proofs.Money.Rounding
import Remit.Proofs.Text.Numeral

/-!
# The grammar of JSON

`Json.Spells` says which texts are JSON and which value each of them spells. It is a grammar and
knows nothing of the reader: white space around every value, numerals (`Numeral.Spells`), texts
between quotes with their escapes (`SpellsUnits`), lists and objects. The numbers it admits are
those that can be written again: integers of at most `digitLimit` digits, and binary64 numbers that
are finite. Its first index bounds how many lists and objects are open at once.

The reader takes tokens as the grammar spells them: `Numeral.scan?_append` and
`readQuoted_append` say so of a numeral and of a quoted text with any rest behind it that may
follow.
-/

namespace Remit

open Text

/-! ## Ends of values -/

/-- A text of white space, or no text. -/
def IsBlanks (t : Text) : Prop :=
  ∀ c ∈ t, isJsonBlank c = true

/-- What may stand behind a value: nothing, white space, a comma or a closing bracket. -/
def IsEnd (rest : Text) : Prop :=
  ∀ c ∈ rest.head?, isJsonBlank c = true ∨ c = ',' ∨ c = ']' ∨ c = '\x7d'

theorem isEnd_append_of_isBlanks {blanks rest : Text} (hblanks : IsBlanks blanks)
    (h : IsEnd rest) : IsEnd (blanks ++ rest) := by
  cases blanks with
  | nil => exact h
  | cons c blanks =>
    intro d hd
    rw [List.cons_append, List.head?_cons, Option.mem_some_iff] at hd
    exact Or.inl (hd ▸ hblanks c List.mem_cons_self)

/-- No end looks like one more character of a numeral. -/
theorem notNumeral_of_isEnd {rest : Text} (h : IsEnd rest) :
    ∀ c ∈ rest.head?, c.isDigit = false ∧ c ≠ '.' ∧ c ≠ 'e' ∧ c ≠ 'E' := by
  intro c hc
  rcases h c hc with hblank | rfl | rfl | rfl
  · simp only [isJsonBlank, Bool.or_eq_true, decide_eq_true_eq] at hblank
    rcases hblank with ((rfl | rfl) | rfl) | rfl <;> decide
  all_goals decide

/-! ## Numerals -/

namespace Numeral

/-- Digits before the point: a zero alone, or digits of which the first is not zero. -/
def IsWhole (t : Text) : Prop :=
  t = ['0'] ∨ IsDigits t ∧ t.head? ≠ some '0'

/-- A fraction as it is spelled, or none. -/
inductive SpellsFraction : Text → Option Text → Prop
  | none : SpellsFraction [] none
  | some {digits : Text} (hdigits : IsDigits digits) : SpellsFraction ('.' :: digits) (some digits)

/-- An exponent as it is spelled, or none. The sign may be left out. -/
inductive SpellsExponent : Text → Option (Bool × Text) → Prop
  | none : SpellsExponent [] none
  | some {letter : Char} {sign digits : Text} {negative : Bool}
    (hletter : letter = 'e' ∨ letter = 'E')
    (hsign : (sign, negative) ∈ [([], false), (['+'], false), (['-'], true)])
    (hdigits : IsDigits digits) :
    SpellsExponent (letter :: (sign ++ digits)) (some (negative, digits))

/-- A numeral as it is spelled. -/
inductive Spells : Text → Numeral → Prop
  | mk {negative : Bool} {whole fractionText exponentText : Text} {fraction : Option Text}
    {exponent : Option (Bool × Text)} (hwhole : IsWhole whole)
    (hfraction : SpellsFraction fractionText fraction)
    (hexponent : SpellsExponent exponentText exponent) :
    Spells (Double.withSign negative (whole ++ (fractionText ++ exponentText)))
      ⟨negative, whole, fraction, exponent⟩

theorem isDigits_of_isWhole {t : Text} (h : IsWhole t) : IsDigits t := by
  rcases h with rfl | ⟨h, -⟩
  · exact ⟨List.cons_ne_nil _ _, List.forall_mem_singleton.2 rfl⟩
  · exact h

/-! ### Scanning -/

theorem scanDigits_append {digits rest : Text} (hdigits : IsDigits digits)
    (hrest : ∀ c ∈ rest.head?, c.isDigit = false) :
    scanDigits (digits ++ rest) = (digits, rest) := by
  have hbehind : rest.takeWhile Char.isDigit = [] ∧ rest.dropWhile Char.isDigit = rest := by
    cases rest with
    | nil => exact ⟨rfl, rfl⟩
    | cons c rest => simp [hrest c rfl]
  rw [scanDigits, List.takeWhile_append_of_pos hdigits.2, List.dropWhile_append_of_pos hdigits.2,
    hbehind.1, hbehind.2, List.append_nil]

theorem scanWhole?_append {whole rest : Text} (hwhole : IsWhole whole)
    (hrest : ∀ c ∈ rest.head?, c.isDigit = false) :
    scanWhole? (whole ++ rest) = some (whole, rest) := by
  rcases hwhole with rfl | ⟨hdigits, hhead⟩
  · rfl
  · obtain ⟨c, digits, rfl⟩ := List.exists_cons_of_ne_nil hdigits.1
    have hscan := scanDigits_append hdigits hrest
    unfold scanWhole?
    split
    · next heq =>
      obtain ⟨rfl, -⟩ := List.cons.inj heq
      exact absurd rfl hhead
    · rw [hscan]

theorem scanFraction_append {t rest : Text} {fraction : Option Text}
    (h : SpellsFraction t fraction) (hrest : ∀ c ∈ rest.head?, c.isDigit = false ∧ c ≠ '.') :
    scanFraction (t ++ rest) = (fraction, rest) := by
  cases h with
  | none =>
    rw [List.nil_append]
    unfold scanFraction
    split
    · exact absurd rfl (hrest '.' rfl).2
    · rfl
  | some hdigits =>
    obtain ⟨c, digits, rfl⟩ := List.exists_cons_of_ne_nil hdigits.1
    have hscan := scanDigits_append hdigits fun c hc => (hrest c hc).1
    rw [List.cons_append, scanFraction, hscan]

theorem scanExponent_append {t rest : Text} {exponent : Option (Bool × Text)}
    (h : SpellsExponent t exponent) (hrest : IsEnd rest) :
    scanExponent (t ++ rest) = (exponent, rest) := by
  have hother := notNumeral_of_isEnd hrest
  cases h with
  | none =>
    cases rest with
    | nil => rfl
    | cons c rest =>
      obtain ⟨-, -, hlower, hupper⟩ := hother c rfl
      rw [List.nil_append, scanExponent, if_neg (not_or.2 ⟨hlower, hupper⟩)]
  | @some letter sign digits negative hletter hsign hdigits =>
    have hbody : signAndRest (sign ++ digits ++ rest) = (negative, digits ++ rest) := by
      simp only [List.mem_cons, Prod.mk.injEq, List.not_mem_nil, or_false] at hsign
      rcases hsign with ⟨rfl, rfl⟩ | ⟨rfl, rfl⟩ | ⟨rfl, rfl⟩
      · exact hdigits.signAndRest_append rest
      · rfl
      · rfl
    obtain ⟨d, more, rfl⟩ := List.exists_cons_of_ne_nil hdigits.1
    have hscan := scanDigits_append hdigits fun c hc => (hother c hc).1
    rw [List.cons_append, scanExponent, if_pos hletter, hbody]
    dsimp only
    rw [hscan]

/-- Behind the fraction of a numeral comes its exponent or its end. -/
theorem head?_of_spellsExponent {t rest : Text} {exponent : Option (Bool × Text)}
    (h : SpellsExponent t exponent) (hrest : IsEnd rest) :
    ∀ c ∈ (t ++ rest).head?, c.isDigit = false ∧ c ≠ '.' := by
  intro c hc
  cases h with
  | none =>
    obtain ⟨hdigit, hpoint, -⟩ := notNumeral_of_isEnd hrest c hc
    exact ⟨hdigit, hpoint⟩
  | some hletter hsign hdigits =>
    rw [List.cons_append, List.head?_cons, Option.mem_some_iff] at hc
    subst c
    rcases hletter with rfl | rfl <;> decide

/-- Behind the whole part comes a point, or what may follow a fraction. -/
theorem head?_of_spellsFraction {t rest : Text} {fraction : Option Text}
    (h : SpellsFraction t fraction) (hrest : ∀ c ∈ rest.head?, c.isDigit = false ∧ c ≠ '.') :
    ∀ c ∈ (t ++ rest).head?, c.isDigit = false := by
  intro c hc
  cases h with
  | none => exact (hrest c hc).1
  | some hdigits =>
    rw [List.cons_append, List.head?_cons, Option.mem_some_iff] at hc
    subst c
    decide

theorem scanSign_withSign {negative : Bool} {t : Text} (h : t.head? ≠ some '-') :
    scanSign (Double.withSign negative t) = (negative, t) := by
  cases negative with
  | true => rfl
  | false =>
    show scanSign t = (false, t)
    unfold scanSign
    split
    · exact absurd rfl h
    · rfl

/-- A numeral is scanned as it is spelled, whatever value's end comes behind it. -/
theorem scan?_append {t rest : Text} {n : Numeral} (h : Spells t n) (hrest : IsEnd rest) :
    scan? (t ++ rest) = some (n, rest) := by
  obtain ⟨hwhole, hfraction, hexponent⟩ := h
  rename_i negative whole fractionText exponentText fraction exponent
  have hbehindFraction := head?_of_spellsExponent hexponent hrest
  have hbehindWhole := head?_of_spellsFraction hfraction hbehindFraction
  have hsign : (whole ++ (fractionText ++ (exponentText ++ rest))).head? ≠ some '-' := by
    obtain ⟨c, digits, rfl⟩ := List.exists_cons_of_ne_nil (isDigits_of_isWhole hwhole).1
    rintro ⟨⟩
    exact absurd ((isDigits_of_isWhole hwhole).2 '-' List.mem_cons_self) (by decide)
  have htext : Double.withSign negative (whole ++ (fractionText ++ exponentText)) ++ rest
      = Double.withSign negative (whole ++ (fractionText ++ (exponentText ++ rest))) := by
    cases negative <;> simp [Double.withSign]
  rw [htext, scan?, scanSign_withSign hsign]
  dsimp only
  rw [scanWhole?_append hwhole hbehindWhole]
  dsimp only [bind, Option.bind]
  rw [scanFraction_append hfraction hbehindFraction]
  dsimp only
  rw [scanExponent_append hexponent hrest]

end Numeral

/-! ## Quoted texts -/

/-- A text between quotes spells code units: a character for itself, or an escape. -/
inductive SpellsUnits : Text → List Nat → Prop
  | nil : SpellsUnits [] []
  | plain {c : Char} {t : Text} {units : List Nat} (hquote : c ≠ '"') (hbackslash : c ≠ '\\')
    (hcontrol : 0x20 ≤ c.toNat) (h : SpellsUnits t units) : SpellsUnits (c :: t) (c.toNat :: units)
  | letter {c : Char} {code : Nat} {t : Text} {units : List Nat} (hcode : escapeCode? c = some code)
    (h : SpellsUnits t units) : SpellsUnits ('\\' :: c :: t) (code :: units)
  | hex {a b c d : Char} {unit : Nat} {t : Text} {units : List Nat}
    (hunit : hexUnit? a b c d = some unit) (h : SpellsUnits t units) :
    SpellsUnits ('\\' :: 'u' :: a :: b :: c :: d :: t) (unit :: units)

/-- A quoted text is read as it is spelled, up to its closing quote. -/
theorem readQuoted_append {t : Text} {units : List Nat} (h : SpellsUnits t units) (rest : Text) :
    readQuoted (t ++ '"' :: rest) = .ok (units, rest) := by
  induction h with
  | nil =>
    rw [List.nil_append, readQuoted.eq_def]
    exact if_pos rfl
  | plain hquote hbackslash hcontrol h ih =>
    rw [List.cons_append, readQuoted.eq_def]
    dsimp only
    rw [if_neg hquote, if_neg hbackslash, if_neg (Nat.not_lt.2 hcontrol), ih]
    rfl
  | @letter c code t units hcode h ih =>
    have hu : c ≠ 'u' := by
      rintro rfl
      cases hcode
    rw [List.cons_append, List.cons_append, readQuoted.eq_def]
    dsimp only
    rw [if_neg (by decide), if_pos rfl, if_neg hu, hcode]
    dsimp only
    rw [ih]
    rfl
  | hex hunit h ih =>
    simp only [List.cons_append]
    rw [readQuoted.eq_def]
    dsimp only
    rw [if_neg (by decide), if_pos rfl, if_pos rfl, hunit]
    dsimp only
    rw [ih]
    rfl

/-! ## Values -/

namespace Json

/-- The name of a member as it is spelled. -/
inductive SpellsName (standIn : Char) : Text → Text → Prop
  | mk {before after t : Text} {units : List Nat} (hbefore : IsBlanks before)
    (hafter : IsBlanks after) (h : SpellsUnits t units) :
    SpellsName standIn (before ++ '"' :: (t ++ '"' :: after)) (ofUnits standIn units)

/-- Parts of a list or an object with commas between them. -/
def separated (parts : List Text) : Text :=
  [','].intercalate parts

/-- The members of an object as they are spelled, each a name and a value with their texts. -/
def memberTexts (members : List ((Text × Text) × (Text × Json))) : Text :=
  separated (members.map fun member => member.1.1 ++ ':' :: member.2.1)

/-- A text is JSON and spells a value. At most `depth` lists and objects are open at once, integers
have at most `digitLimit` digits, and other numbers are read as finite ones. -/
inductive Spells (standIn : Char) : Nat → Text → Json → Prop
  | padded {depth : Nat} {before t after : Text} {v : Json} (hbefore : IsBlanks before)
    (hafter : IsBlanks after) (h : Spells standIn depth t v) :
    Spells standIn depth (before ++ (t ++ after)) v
  | null {depth : Nat} : Spells standIn depth "null".toList .null
  | true {depth : Nat} : Spells standIn depth "true".toList (.bool true)
  | false {depth : Nat} : Spells standIn depth "false".toList (.bool false)
  | integer {depth : Nat} {t : Text} {n : Numeral} (h : Numeral.Spells t n)
    (hinteger : n.isInteger = true) (hlimit : n.whole.length ≤ digitLimit) :
    Spells standIn depth t (.integer n.integer)
  | real {depth : Nat} {t : Text} {n : Numeral} (h : Numeral.Spells t n)
    (hinteger : n.isInteger = false) (hfinite : n.double.units?.isSome) :
    Spells standIn depth t (.real n.double)
  | text {depth : Nat} {t : Text} {units : List Nat} (h : SpellsUnits t units) :
    Spells standIn depth ('"' :: (t ++ ['"'])) (.text (ofUnits standIn units))
  | emptyList {depth : Nat} {blanks : Text} (h : IsBlanks blanks) :
    Spells standIn (depth + 1) ('[' :: (blanks ++ [']'])) (.list [])
  | list {depth : Nat} {items : List (Text × Json)} (hitems : items ≠ [])
    (h : ∀ item ∈ items, Spells standIn depth item.1 item.2) :
    Spells standIn (depth + 1) ('[' :: (separated (items.map (·.1)) ++ [']']))
      (.list (items.map (·.2)))
  | emptyObject {depth : Nat} {blanks : Text} (h : IsBlanks blanks) :
    Spells standIn (depth + 1) ('\x7b' :: (blanks ++ ['\x7d'])) (.object [])
  | object {depth : Nat} {members : List ((Text × Text) × (Text × Json))} (hmembers : members ≠ [])
    (hnames : ∀ member ∈ members, SpellsName standIn member.1.1 member.1.2)
    (h : ∀ member ∈ members, Spells standIn depth member.2.1 member.2.2) :
    Spells standIn (depth + 1) ('\x7b' :: (memberTexts members ++ ['\x7d']))
      (.object (members.map fun member => (member.1.2, member.2.2)))

/-- What fits into fewer levels fits into more. -/
theorem Spells.mono {standIn : Char} {depth more : Nat} {t : Text} {v : Json}
    (h : Spells standIn depth t v) (hle : depth ≤ more) : Spells standIn more t v := by
  induction h generalizing more with
  | padded hbefore hafter h ih => exact .padded hbefore hafter (ih hle)
  | null => exact .null
  | true => exact .true
  | false => exact .false
  | integer h hinteger hlimit => exact .integer h hinteger hlimit
  | real h hinteger hfinite => exact .real h hinteger hfinite
  | text h => exact .text h
  | emptyList h =>
    cases more with
    | zero => cases hle
    | succ more => exact .emptyList h
  | list hitems h ih =>
    cases more with
    | zero => cases hle
    | succ more => exact .list hitems fun item hmem => ih item hmem (Nat.le_of_succ_le_succ hle)
  | emptyObject h =>
    cases more with
    | zero => cases hle
    | succ more => exact .emptyObject h
  | object hmembers hnames h ih =>
    cases more with
    | zero => cases hle
    | succ more =>
      exact .object hmembers hnames fun member hmem => ih member hmem (Nat.le_of_succ_le_succ hle)

end Json
end Remit
