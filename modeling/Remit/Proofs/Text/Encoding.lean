import Remit.Text.Encoding

/-!
# Texts in UTF-8

A text is read from its bytes in UTF-8 (`encodes_utf8`), unless these look like another encoding: a
text that begins with a byte-order mark loses it, and the character of code zero gives away a wider
encoding. Nothing has to stand in for a character then, and neither in the code units that a text
spells (`ofUnits_map_toNat`).
-/

namespace Remit.Text

/-! ## Characters and their codes -/

theorem charOfCode_toNat (standIn c : Char) : charOfCode standIn c.toNat = c := by
  have hvalid : c.toNat.isValidChar := c.valid
  rw [charOfCode, dif_pos hvalid]
  rfl

/-- Codes lie below the surrogates or beyond them. -/
theorem toNat_range (c : Char) : c.toNat < 0xd800 ∨ 0xdfff < c.toNat ∧ c.toNat < 0x110000 :=
  c.valid

theorem isHighSurrogate_toNat (c : Char) : isHighSurrogate c.toNat = false := by
  have hvalid := toNat_range c
  simp only [isHighSurrogate, Bool.and_eq_false_iff, decide_eq_false_iff_not]
  omega

/-- The codes of characters are code units that spell them. -/
theorem ofUnits_map_toNat (standIn : Char) (t : Text) : ofUnits standIn (t.map Char.toNat) = t := by
  induction t with
  | nil => rfl
  | cons c t ih =>
    cases t with
    | nil => exact congrArg (fun c => [c]) (charOfCode_toNat standIn c)
    | cons d t =>
      rw [List.map_cons, List.map_cons, ofUnits, isHighSurrogate_toNat, Bool.false_and,
        if_neg Bool.false_ne_true, charOfCode_toNat]
      exact congrArg (List.cons c) ih

/-! ## UTF-8 -/

/-- A text as bytes in UTF-8. -/
def utf8 (t : Text) : List UInt8 :=
  t.flatMap String.utf8EncodeChar

/-! ### Characters of one to four bytes -/

section

variable {a b c d : UInt8} {n : Nat}

theorem isContinuation_of_toNat {k : Nat} (hb : b.toNat = k % 0x40 + 0x80) :
    isContinuation b = true := by
  simp only [isContinuation, UInt8.le_iff_toNat_le, UInt8.reduceToNat, hb, Bool.and_eq_true,
    decide_eq_true_eq]
  omega

/-- A byte that begins a character of three or four is beyond those that begin one of fewer. -/
theorem not_start_of_le (h : 0xe0 ≤ a.toNat) :
    ¬ a < 0x80 ∧ ¬ (0xc2 ≤ a ∧ a ≤ 0xdf ∧ isContinuation b = true) := by
  simp only [UInt8.lt_iff_toNat_lt, UInt8.le_iff_toNat_le, UInt8.reduceToNat]
  omega

theorem codesOfUtf8_one (hhigh : n < 0x80) (ha : a.toNat = n) (rest : List UInt8) :
    codesOfUtf8 (a :: rest) = (codesOfUtf8 rest).map (n :: ·) := by
  have hstart : a < 0x80 := by
    simp only [UInt8.lt_iff_toNat_lt, UInt8.reduceToNat]
    omega
  rw [codesOfUtf8.eq_def]
  dsimp only
  rw [if_pos hstart, ha]

theorem codesOfUtf8_two (hlow : 0x80 ≤ n) (hhigh : n < 0x800) (ha : a.toNat = n / 0x40 + 0xc0)
    (hb : b.toNat = n % 0x40 + 0x80) (rest : List UInt8) :
    codesOfUtf8 (a :: b :: rest) = (codesOfUtf8 rest).map (n :: ·) := by
  have hone : ¬ a < 0x80 := by
    simp only [UInt8.lt_iff_toNat_lt, UInt8.reduceToNat]
    omega
  have hstart : 0xc2 ≤ a ∧ a ≤ 0xdf ∧ isContinuation b = true := by
    refine ⟨?_, ?_, isContinuation_of_toNat hb⟩
    · simp only [UInt8.le_iff_toNat_le, UInt8.reduceToNat]
      omega
    · simp only [UInt8.le_iff_toNat_le, UInt8.reduceToNat]
      omega
  have hcode : extendCode (a.toNat - 0xc0) b = n := by
    unfold extendCode
    omega
  rw [codesOfUtf8.eq_def]
  dsimp only
  rw [if_neg hone, if_pos hstart, hcode]

theorem codesOfUtf8_three (hlow : 0x800 ≤ n) (hhigh : n < 0x10000)
    (ha : a.toNat = n / 0x1000 + 0xe0) (hb : b.toNat = n / 0x40 % 0x40 + 0x80)
    (hc : c.toNat = n % 0x40 + 0x80) (rest : List UInt8) :
    codesOfUtf8 (a :: b :: c :: rest) = (codesOfUtf8 rest).map (n :: ·) := by
  obtain ⟨hone, htwo⟩ : ¬ a < 0x80 ∧ ¬ (0xc2 ≤ a ∧ a ≤ 0xdf ∧ isContinuation b = true) :=
    not_start_of_le (by omega)
  have hstart : (isThreeByteStart a b && isContinuation c) = true := by
    have hb' := isContinuation_of_toNat hb
    have hc' := isContinuation_of_toNat hc
    -- The second byte after 0xe0 is high enough, as the code is no smaller than 0x800.
    simp only [isThreeByteStart, hb', hc', UInt8.le_iff_toNat_le, UInt8.reduceToNat, bne_iff_ne,
      ne_eq, ← UInt8.toNat_inj, Bool.and_eq_true, Bool.or_eq_true, decide_eq_true_eq, and_true]
    omega
  have hcode : extendCode (extendCode (a.toNat - 0xe0) b) c = n := by
    unfold extendCode
    omega
  rw [codesOfUtf8.eq_def]
  dsimp only
  rw [if_neg hone, if_neg htwo, if_pos hstart, hcode]

theorem codesOfUtf8_four (hlow : 0x10000 ≤ n) (hhigh : n < 0x110000)
    (ha : a.toNat = n / 0x40000 + 0xf0) (hb : b.toNat = n / 0x1000 % 0x40 + 0x80)
    (hc : c.toNat = n / 0x40 % 0x40 + 0x80) (hd : d.toNat = n % 0x40 + 0x80)
    (rest : List UInt8) :
    codesOfUtf8 (a :: b :: c :: d :: rest) = (codesOfUtf8 rest).map (n :: ·) := by
  obtain ⟨hone, htwo⟩ : ¬ a < 0x80 ∧ ¬ (0xc2 ≤ a ∧ a ≤ 0xdf ∧ isContinuation b = true) :=
    not_start_of_le (by omega)
  have hthree : ¬ (isThreeByteStart a b && isContinuation c) = true := by
    simp only [isThreeByteStart, UInt8.le_iff_toNat_le, UInt8.reduceToNat, Bool.and_eq_true,
      decide_eq_true_eq]
    omega
  have hstart : (isFourByteStart a b && isContinuation c && isContinuation d) = true := by
    have hb' := isContinuation_of_toNat hb
    have hc' := isContinuation_of_toNat hc
    have hd' := isContinuation_of_toNat hd
    -- The bounds on the code are those on the second byte after 0xf0 and after 0xf4.
    simp only [isFourByteStart, hb', hc', hd', UInt8.le_iff_toNat_le, UInt8.reduceToNat, bne_iff_ne,
      ne_eq, ← UInt8.toNat_inj, Bool.and_eq_true, Bool.or_eq_true, decide_eq_true_eq, and_true]
    omega
  have hcode : extendCode (extendCode (extendCode (a.toNat - 0xf0) b) c) d = n := by
    unfold extendCode
    omega
  rw [codesOfUtf8.eq_def]
  dsimp only
  rw [if_neg hone, if_neg htwo, if_neg hthree, if_pos hstart, hcode]

end

/-- The bytes of a character are read as its code. -/
theorem codesOfUtf8_append (c : Char) (rest : List UInt8) :
    codesOfUtf8 (String.utf8EncodeChar c ++ rest) = (codesOfUtf8 rest).map (c.toNat :: ·) := by
  have hvalid := toNat_range c
  have hval : c.val.toNat = c.toNat := rfl
  have hbyte : ∀ {n}, n < 0x100 → (UInt8.ofNat n).toNat = n := UInt8.toNat_ofNat_of_lt'
  unfold String.utf8EncodeChar
  rw [hval]
  generalize c.toNat = n at hvalid
  dsimp only
  split
  · next hone => exact codesOfUtf8_one (by omega) (hbyte (by omega)) rest
  split
  · next hone htwo =>
    exact codesOfUtf8_two (by omega) (by omega) (by rw [hbyte (by omega)]; omega)
      (hbyte (by omega)) rest
  split
  · next hone htwo hthree =>
    exact codesOfUtf8_three (by omega) (by omega) (by rw [hbyte (by omega)]; omega)
      (hbyte (by omega)) (hbyte (by omega)) rest
  · next hone htwo hthree =>
    exact codesOfUtf8_four (by omega) (by omega) (by rw [hbyte (by omega)]; omega)
      (hbyte (by omega)) (hbyte (by omega)) (hbyte (by omega)) rest

theorem codesOfUtf8_utf8 (t : Text) : codesOfUtf8 (utf8 t) = some (t.map Char.toNat) := by
  induction t with
  | nil => rw [utf8, List.flatMap_nil, codesOfUtf8.eq_def]; rfl
  | cons c t ih =>
    rw [utf8, List.flatMap_cons, codesOfUtf8_append]
    show (codesOfUtf8 (utf8 t)).map _ = _
    rw [ih]
    rfl

/-- Only the character of code zero has a zero byte, and no byte is as large as those of the marks
of two bytes. -/
theorem toNat_of_mem_utf8EncodeChar {c : Char} (hc : c ≠ '\x00') {b : UInt8}
    (h : b ∈ String.utf8EncodeChar c) : 0 < b.toNat ∧ b.toNat < 0xf8 := by
  have hvalid := toNat_range c
  have hpos : c.toNat ≠ 0 := fun hcode => hc (Char.toNat_inj.1 hcode)
  have hval : c.val.toNat = c.toNat := rfl
  have hbyte : ∀ {n}, n < 0x100 → (UInt8.ofNat n).toNat = n := UInt8.toNat_ofNat_of_lt'
  unfold String.utf8EncodeChar at h
  rw [hval] at h
  generalize c.toNat = n at hvalid hpos h
  dsimp only at h
  split at h
  · rw [List.mem_singleton] at h
    rw [h, hbyte (by omega)]
    omega
  split at h
  · simp only [List.mem_cons, List.not_mem_nil, or_false] at h
    rcases h with rfl | rfl
    all_goals rw [hbyte (by omega)]; omega
  split at h
  · simp only [List.mem_cons, List.not_mem_nil, or_false] at h
    rcases h with rfl | rfl | rfl
    all_goals rw [hbyte (by omega)]; omega
  · simp only [List.mem_cons, List.not_mem_nil, or_false] at h
    rcases h with rfl | rfl | rfl | rfl
    all_goals rw [hbyte (by omega)]; omega

/-! ## Recognizing UTF-8 -/

theorem ofZeros_of_ne_zero {bytes : List UInt8} (h : ∀ b ∈ bytes, b ≠ 0) :
    Encoding.ofZeros bytes = .utf8 := by
  unfold Encoding.ofZeros
  split
  · next a b c d rest => rw [if_neg (h a (by simp)), if_neg (h b (by simp))]
  · next a b => rw [if_neg (h a (by simp)), if_neg (h b (by simp))]
  · rfl

theorem detect_utf8 {t : Text} (hzero : '\x00' ∉ t) (hmark : t.head? ≠ some '\ufeff') :
    Encoding.detect (utf8 t) = (.utf8, utf8 t) := by
  have hbytes : ∀ b ∈ utf8 t, 0 < b.toNat ∧ b.toNat < 0xf8 := by
    intro b hb
    obtain ⟨c, hc, hb⟩ := List.mem_flatMap.1 hb
    exact toNat_of_mem_utf8EncodeChar (fun hnull => hzero (hnull ▸ hc)) hb
  have hcodes := codesOfUtf8_utf8 t
  generalize utf8 t = bytes at hbytes hcodes
  unfold Encoding.detect
  split
  · exact absurd (hbytes 0x00 List.mem_cons_self).1 (by decide)
  · exact absurd (hbytes 0xff List.mem_cons_self).2 (by decide)
  · exact absurd (hbytes 0xfe List.mem_cons_self).2 (by decide)
  · exact absurd (hbytes 0xff List.mem_cons_self).2 (by decide)
  · next rest =>
    -- The three bytes are those of U+FEFF, so the text begins with it.
    rw [codesOfUtf8_three (n := 0xfeff) (by decide) (by decide) rfl rfl rfl,
      Option.map_eq_some_iff] at hcodes
    obtain ⟨codes, -, hcodes⟩ := hcodes
    obtain ⟨c, t, rfl, hcode, -⟩ := List.map_eq_cons_iff.1 hcodes.symm
    have hc : c = '\ufeff' := Char.toNat_inj.1 hcode
    exact absurd (congrArg some hc) hmark
  · rw [ofZeros_of_ne_zero]
    rintro b hb rfl
    exact absurd (hbytes 0 hb).1 (by decide)

/-- Bytes are a text in the encoding that they show, and nothing stands in for a character. -/
def Encodes (bytes : List UInt8) (t : Text) : Prop :=
  ∀ standIn, decode? standIn bytes = some t

theorem encodes_utf8 {t : Text} (hzero : '\x00' ∉ t) (hmark : t.head? ≠ some '\ufeff') :
    Encodes (utf8 t) t := by
  intro standIn
  have hchars : charOfCode standIn ∘ Char.toNat = id := funext fun c => charOfCode_toNat standIn c
  rw [decode?, detect_utf8 hzero hmark]
  show (codesOfUtf8 (utf8 t)).map _ = _
  rw [codesOfUtf8_utf8, Option.map_some, List.map_map, hchars, List.map_id]

end Remit.Text
