import Remit.Proofs.Processing
import Remit.Proofs.Text.Numeral

/-!
# The texts that state an amount

An amount is a positive number in digits. White space around it, a plus sign and zeros before it and
whatever else may follow are overlooked; a minus sign or a point anywhere in the text is not. This
module says exactly which texts are accepted, as which number, and why any other is refused
(`readAmount_language`):

* `StatesNumber` describes a text that states a number, and
  `leadingInteger_eq_some_iff_statesNumber` says that such texts are read, and no others;
* `Wording` holds what may be put around the digits of a number, and `readAmount_text` says that the
  number is read again, however it is worded, until its digits and the zeros are too many.
-/

namespace Remit

open Text

namespace Text

/-! ## Texts that state a number -/

/-- The text states the number `n`: it begins with the digits of `n`, after a plus sign or none, and
no further digit follows them. Zeros among the digits count to the limit. -/
def StatesNumber (t : Text) (n : Nat) : Prop :=
  ∃ sign digits rest : Text, t = sign ++ (digits ++ rest) ∧ (sign = [] ∨ sign = ['+'])
    ∧ IsDigits digits ∧ digits.length ≤ digitLimit ∧ decimalValue digits = n
    ∧ ∀ c ∈ rest.head?, c.isDigit = false

/-- A plus sign before digits is read as no sign. -/
theorem signAndRest_plus {sign digits : Text} (hsign : sign = [] ∨ sign = ['+'])
    (hdigits : IsDigits digits) (rest : Text) :
    signAndRest (sign ++ (digits ++ rest)) = (false, digits ++ rest) := by
  rcases hsign with rfl | rfl
  · exact hdigits.signAndRest_append rest
  · rfl

/-- Without a minus sign at its start, a text has a plus sign there or none. -/
theorem exists_sign_append {t body : Text} {negative : Bool} (hminus : t.head? ≠ some '-')
    (h : signAndRest t = (negative, body)) :
    negative = false ∧ ∃ sign, t = sign ++ body ∧ (sign = [] ∨ sign = ['+']) := by
  unfold signAndRest at h
  split at h
  · cases h
    exact ⟨rfl, ['+'], rfl, Or.inr rfl⟩
  · exact absurd rfl hminus
  · cases h
    exact ⟨rfl, [], rfl, Or.inl rfl⟩

/-- What is read from a text without a minus sign is the number that it states. -/
theorem leadingInteger_eq_some_iff_statesNumber {t : Text} (hminus : '-' ∉ t) {n : Int} :
    leadingInteger t = some n ↔ ∃ m : Nat, n = m ∧ StatesNumber (trim t) m := by
  constructor
  · intro h
    obtain ⟨negative, digits, rest, htext, hdigits, hrest, hlimit, rfl⟩ :=
      exists_isDigits_of_leadingInteger h
    have hhead : (trim t).head? ≠ some '-' :=
      fun heq => hminus (mem_of_mem_trim (List.mem_of_mem_head? heq))
    obtain ⟨rfl, sign, hsplit, hsign⟩ := exists_sign_append hhead htext
    exact ⟨_, rfl, sign, digits, rest, hsplit, hsign, hdigits, hlimit, rfl, hrest⟩
  · rintro ⟨m, rfl, sign, digits, rest, hsplit, hsign, hdigits, hlimit, rfl, hrest⟩
    exact leadingInteger_eq (hsplit ▸ signAndRest_plus hsign hdigits rest) hdigits hrest hlimit

/-! ## Wordings of a number -/

/-- What may be put around the digits of a number: white space on either side, a plus sign, zeros,
and behind the digits a text that begins with no other digit. -/
structure Wording where
  before : Text
  sign : Text
  zeros : Nat
  suffix : Text
  after : Text
  before_blank : ∀ c ∈ before, isBlank c = true
  sign_eq : sign = [] ∨ sign = ['+']
  head_suffix : ∀ c ∈ suffix.head?, c.isDigit = false
  minus_notMem : '-' ∉ suffix
  point_notMem : '.' ∉ suffix
  after_blank : ∀ c ∈ after, isBlank c = true

namespace Wording

variable (w : Wording) (n : Nat)

/-- The digits of a number with the zeros before them. -/
def digits : Text :=
  List.replicate w.zeros '0' ++ natText n

/-- The number in this wording. -/
def text : Text :=
  w.before ++ (w.sign ++ w.digits n ++ (w.suffix ++ w.after))

theorem length_digits : (w.digits n).length = w.zeros + (natText n).length := by
  rw [digits, List.length_append, List.length_replicate]

theorem isDigits_digits : IsDigits (w.digits n) := by
  refine ⟨List.append_ne_nil_of_right_ne_nil _ (isDigits_natText n).1, fun c hc => ?_⟩
  rcases List.mem_append.1 hc with hc | hc
  · rw [(List.mem_replicate.1 hc).2]
    decide
  · exact (isDigits_natText n).2 c hc

/-- The zeros do not change the number. -/
theorem decimalValue_digits : decimalValue (w.digits n) = n := by
  rw [digits, decimalValue, Nat.ofDigitChars_append, Nat.ofDigitChars_replicate_zero, Nat.mul_zero]
  exact decimalValue_natText n

/-- Neither the sign nor the digits are white space. -/
theorem trim_sign_digits : trim (w.sign ++ w.digits n) = w.sign ++ w.digits n := by
  apply trim_of_forall_isBlank
  intro c hc
  rcases List.mem_append.1 hc with hc | hc
  · rcases w.sign_eq with hsign | hsign
    · rw [hsign] at hc
      cases hc
    · rw [hsign, List.mem_singleton] at hc
      rw [hc]
      decide
  · exact isBlank_of_isDigit ((w.isDigits_digits n).2 c hc)

/-- The text begins with the sign and the digits once it is trimmed, and no digit follows. -/
theorem trim_text : trim (w.text n) = w.sign ++ (w.digits n ++ trimEnd (w.suffix ++ w.after))
    ∧ ∀ c ∈ (trimEnd (w.suffix ++ w.after)).head?, c.isDigit = false := by
  have hne : w.sign ++ w.digits n ≠ [] :=
    List.append_ne_nil_of_right_ne_nil _ (w.isDigits_digits n).1
  refine ⟨?_, fun c hc => ?_⟩
  · rw [text, trim_blank_append w.before_blank (w.trim_sign_digits n) hne, List.append_assoc]
  · obtain ⟨y, hy, -⟩ := exists_eq_trimEnd_append (w.suffix ++ w.after)
    have hhead : c ∈ (w.suffix ++ w.after).head? := by
      rw [hy, List.head?_append, Option.mem_def.1 hc]
      rfl
    cases hsuffix : w.suffix with
    | cons d suffix =>
      rw [hsuffix, List.cons_append, List.head?_cons] at hhead
      exact w.head_suffix c (by rw [hsuffix, List.head?_cons]; exact hhead)
    | nil =>
      -- Without a suffix the digits are followed by white space, or by nothing.
      rw [hsuffix, List.nil_append] at hhead
      have hblank := w.after_blank c (List.mem_of_mem_head? hhead)
      cases hdigit : c.isDigit with
      | false => rfl
      | true =>
        rw [isBlank_of_isDigit hdigit] at hblank
        cases hblank

/-- A character that is neither white space nor a plus sign nor a digit is not in the text unless it
is in the suffix. -/
theorem notMem_text {c : Char} (hblank : isBlank c = false) (hplus : c ≠ '+')
    (hdigit : c.isDigit = false) (hsuffix : c ∉ w.suffix) : c ∉ w.text n := by
  have hnotBlank : ∀ t : Text, (∀ d ∈ t, isBlank d = true) → c ∉ t := by
    intro t ht hc
    rw [ht c hc] at hblank
    cases hblank
  have hsign : c ∉ w.sign := by
    rcases w.sign_eq with hsign | hsign
    · simp [hsign]
    · simp [hsign, hplus]
  simp only [text, List.mem_append, not_or]
  exact ⟨hnotBlank _ w.before_blank, ⟨hsign, (w.isDigits_digits n).notMem hdigit⟩, hsuffix,
    hnotBlank _ w.after_blank⟩

/-- A number is read in any wording, as long as there are not too many digits. -/
theorem leadingInteger_text : leadingInteger (w.text n)
    = if w.zeros + (natText n).length ≤ digitLimit then some (n : Int) else none := by
  obtain ⟨htrim, hhead⟩ := w.trim_text n
  have hsign := signAndRest_plus w.sign_eq (w.isDigits_digits n)
    (trimEnd (w.suffix ++ w.after))
  rw [leadingInteger_eq_ite (htrim ▸ hsign) (w.isDigits_digits n) hhead, w.length_digits,
    w.decimalValue_digits]
  rfl

end Wording
end Text

/-! ## Amounts -/

/-- A text that is not accepted as an amount is refused for the first of three causes that applies:
it has a minus sign in it, or a point, or it begins with no positive number. -/
theorem readAmount_eq_error {t : Text} (h : ∀ n, readAmount t ≠ .ok n) : readAmount t
    = .error (if '-' ∈ t then .negativeAmount else if '.' ∈ t then .decimalAmount
      else .invalidAmount) := by
  rw [readAmount]
  split
  · next hempty =>
    rw [List.isEmpty_iff.1 hempty]
    rfl
  split
  · next hminus => rw [if_pos (List.contains_iff_mem.1 hminus)]
  split
  · next hminus hpoint =>
    rw [List.contains_iff_mem] at hminus hpoint
    rw [if_neg hminus, if_pos hpoint]
  · next hminus hpoint =>
    rw [List.contains_iff_mem] at hminus hpoint
    rw [if_neg hminus, if_neg hpoint]
    split
    · next n hread =>
      split
      · rfl
      · next hpos =>
        exact absurd (readAmount_eq_ok_iff.2 ⟨hminus, hpoint, hread, by omega⟩) (h n)
    · rfl

/-- A positive number is accepted as an amount in any wording, as long as there are not too many
digits. -/
theorem readAmount_text (w : Wording) {n : Nat} (hpos : 1 ≤ n) : readAmount (w.text n)
    = if w.zeros + (natText n).length ≤ digitLimit then .ok (n : Int)
      else .error .invalidAmount := by
  have hminus : '-' ∉ w.text n :=
    w.notMem_text n (by decide) (by decide) (by decide) w.minus_notMem
  have hpoint : '.' ∉ w.text n :=
    w.notMem_text n (by decide) (by decide) (by decide) w.point_notMem
  have hread := w.leadingInteger_text n
  split
  · next hlimit =>
    rw [if_pos hlimit] at hread
    exact readAmount_eq_ok_iff.2 ⟨hminus, hpoint, hread, by omega⟩
  · next hlimit =>
    rw [if_neg hlimit] at hread
    rw [readAmount_eq_error, if_neg hminus, if_neg hpoint]
    intro m hm
    rw [(readAmount_eq_ok_iff.1 hm).2.2.1] at hread
    cases hread

/-- An amount is a positive number that the text states, if there is neither a minus sign nor a
point in it; any other text is refused for the first thing that is wrong with it. In particular a
positive number is read again from its digits, whatever white space, plus sign, zeros and further
text is put around them, exactly up to the limit of digits. -/
theorem readAmount_language :
    (∀ (t : Text) (n : Int), readAmount t = .ok n
        ↔ '-' ∉ t ∧ '.' ∉ t ∧ ∃ m : Nat, n = m ∧ 1 ≤ m ∧ StatesNumber (trim t) m)
      ∧ (∀ t : Text, (∀ n, readAmount t ≠ .ok n) → readAmount t
        = .error (if '-' ∈ t then .negativeAmount else if '.' ∈ t then .decimalAmount
          else .invalidAmount))
      ∧ ∀ (w : Wording) (n : Nat), 1 ≤ n → readAmount (w.text n)
        = if w.zeros + (natText n).length ≤ digitLimit then .ok (n : Int)
          else .error .invalidAmount := by
  refine ⟨fun t n => ?_, fun t => readAmount_eq_error, fun w n hpos => readAmount_text w hpos⟩
  rw [readAmount_eq_ok_iff]
  constructor
  · rintro ⟨hminus, hpoint, hread, hpos⟩
    obtain ⟨m, rfl, hstates⟩ := (leadingInteger_eq_some_iff_statesNumber hminus).1 hread
    exact ⟨hminus, hpoint, m, rfl, by omega, hstates⟩
  · rintro ⟨hminus, hpoint, m, rfl, hpos, hstates⟩
    have hread := (leadingInteger_eq_some_iff_statesNumber hminus).2 ⟨m, rfl, hstates⟩
    exact ⟨hminus, hpoint, hread, by omega⟩

/-- A number as it may stand in a column of a ledger. -/
def ledgerWording : Wording where
  before := ['\t']
  sign := ['+']
  zeros := 2
  suffix := "/=".toList
  after := ['\u00a0', '\n']
  before_blank := List.forall_mem_singleton.2 (by decide)
  sign_eq := Or.inr rfl
  head_suffix := by
    rintro c ⟨⟩
    decide
  minus_notMem := by decide
  point_notMem := by decide
  after_blank := List.forall_mem_cons.2 ⟨by decide, List.forall_mem_singleton.2 (by decide)⟩

theorem readAmount_language_ledger :
    ledgerWording.text 40 = "\t+0040/=\u00a0\n".toList
      ∧ readAmount (ledgerWording.text 40) = .ok 40 := by
  have htext : ledgerWording.text 40 = "\t+0040/=\u00a0\n".toList := by decide
  have hlimit : ledgerWording.zeros + (natText 40).length ≤ digitLimit := by decide
  have hread := readAmount_language.2.2 ledgerWording 40 (by decide)
  rw [if_pos hlimit] at hread
  exact ⟨htext, hread⟩

end Remit
