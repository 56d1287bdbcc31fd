import Remit.Json.Write
import Remit.Proofs.Json.Grammar
import Remit.Proofs.Range
import Remit.Proofs.Text.Encoding

/-!
# What is written is JSON

Integers, texts, lists and objects are written as the grammar spells them, so they are read as they
were before. `Request.spells_write` says so of a request: it can be posted as it is written.
-/

namespace Remit

open Text

/-! ## Integers -/

/-- A number is written without a zero before its first digit. -/
theorem isWhole_natText (n : Nat) : Numeral.IsWhole (natText n) := by
  have hdigits := isDigits_natText n
  rcases List.exists_cons_of_ne_nil hdigits.1 with ⟨c, rest, htext⟩
  by_cases hzero : c = '0' ∧ rest ≠ []
  · -- The digits behind the zero would be enough for the number.
    obtain ⟨rfl, hrest⟩ := hzero
    have hlimit := length_natText_le_iff n (List.length_pos_iff.2 hrest)
    have hvalue : decimalValue rest = n := by
      rw [← decimalValue_natText n, htext]
      rfl
    have hfew : n < tenPow rest.length := by
      have hrestDigits : ∀ c ∈ rest, c.isDigit = true := fun c hc =>
        hdigits.2 c (htext ▸ List.mem_cons_of_mem _ hc)
      exact hvalue ▸ decimalValue_lt_tenPow hrestDigits (Nat.le_refl _)
    rw [htext, List.length_cons] at hlimit
    exact absurd (hlimit.2 hfew) (by omega)
  · rw [htext]
    by_cases hc : c = '0'
    · left
      rw [hc, of_not_not fun hrest => hzero ⟨hc, hrest⟩]
    · exact Or.inr ⟨htext ▸ hdigits, by simpa using hc⟩

/-- The numeral that an integer is written as. -/
def integerNumeral : Int → Numeral
  | .ofNat n => ⟨false, natText n, none, none⟩
  | .negSucc n => ⟨true, natText (n + 1), none, none⟩

theorem spells_integerText (n : Int) : Numeral.Spells (integerText n) (integerNumeral n) := by
  have hspells : ∀ (negative : Bool) (size : Nat),
      Numeral.Spells (Double.withSign negative (natText size ++ ([] ++ [])))
        ⟨negative, natText size, none, none⟩ := fun negative size =>
    .mk (isWhole_natText size) .none .none
  simp only [List.append_nil] at hspells
  cases n with
  | ofNat n => exact hspells false n
  | negSucc n => exact hspells true (n + 1)

theorem whole_integerNumeral (n : Int) : (integerNumeral n).whole = natText n.natAbs := by
  cases n <;> rfl

theorem integer_integerNumeral (n : Int) : (integerNumeral n).integer = n := by
  cases n with
  | ofNat n =>
    show (decimalValue (natText n) : Int) = n
    rw [decimalValue_natText]
  | negSucc n =>
    show -(decimalValue (natText (n + 1)) : Int) = Int.negSucc n
    rw [decimalValue_natText, Int.negSucc_eq]
    rfl

/-! ## Texts -/

/-- The escapes of control characters give their codes. -/
theorem hexText_control : ∀ n < 0x20,
    hexText 4 n = ['0', '0', Nat.digitChar (n / 0x10), Nat.digitChar (n % 0x10)]
      ∧ hexUnit? '0' '0' (Nat.digitChar (n / 0x10)) (Nat.digitChar (n % 0x10)) = some n := by
  decide

theorem spellsUnits_escapedChar (c : Char) {t : Text} {units : List Nat} (h : SpellsUnits t units) :
    SpellsUnits (escapedChar c ++ t) (c.toNat :: units) := by
  unfold escapedChar
  split
  · next hc => subst c; exact .letter rfl h
  split
  · next hc => subst c; exact .letter rfl h
  split
  · next hc => subst c; exact .letter rfl h
  split
  · next hc => subst c; exact .letter rfl h
  split
  · next hc => subst c; exact .letter rfl h
  split
  · next hc => subst c; exact .letter rfl h
  split
  · next hc => subst c; exact .letter rfl h
  split
  · next hcontrol =>
    obtain ⟨htext, hunit⟩ := hexText_control c.toNat hcontrol
    simp only [htext, List.cons_append, List.nil_append]
    exact .hex hunit h
  · next hquote hbackslash _ _ _ _ _ hcontrol =>
    exact .plain hquote hbackslash (Nat.le_of_not_lt hcontrol) h

theorem spellsUnits_flatMap (t : Text) :
    SpellsUnits (t.flatMap escapedChar) (t.map Char.toNat) := by
  induction t with
  | nil => exact .nil
  | cons c t ih => exact spellsUnits_escapedChar c ih

/-! ## Values -/

namespace Json

variable {standIn : Char} {depth : Nat}

theorem spells_integer {n : Int} (h : n.natAbs < tenPow digitLimit) :
    Spells standIn depth (write (.integer n)) (.integer n) := by
  have hinteger : (integerNumeral n).isInteger = true := by cases n <;> rfl
  have hlimit : (integerNumeral n).whole.length ≤ digitLimit := by
    rw [whole_integerNumeral]
    exact (length_natText_le_iff _ (by decide)).2 h
  have hspells : Spells standIn depth (integerText n) (.integer (integerNumeral n).integer) :=
    .integer (spells_integerText n) hinteger hlimit
  rw [integer_integerNumeral] at hspells
  exact hspells

theorem spells_text (t : Text) : Spells standIn depth (write (.text t)) (.text t) := by
  have hspells : Spells standIn depth ('"' :: (t.flatMap escapedChar ++ ['"']))
      (.text (ofUnits standIn (t.map Char.toNat))) := .text (spellsUnits_flatMap t)
  rw [ofUnits_map_toNat] at hspells
  exact hspells

theorem spellsName_quotedText (t : Text) : SpellsName standIn (quotedText t) t := by
  have hempty : IsBlanks [] := fun c hc => by cases hc
  have hspells : SpellsName standIn ([] ++ '"' :: (t.flatMap escapedChar ++ ['"']))
      (ofUnits standIn (t.map Char.toNat)) := .mk hempty hempty (spellsUnits_flatMap t)
  rw [ofUnits_map_toNat] at hspells
  exact hspells

theorem writeItems_eq (items : List Json) : writeItems items = separated (items.map write) := by
  induction items with
  | nil => rfl
  | cons item items ih =>
    cases items with
    | nil => rw [writeItems, List.map_singleton, separated, List.intercalate_singleton]
    | cons next items =>
      rw [writeItems, ih]
      simp [separated, List.intercalate_cons_cons]

theorem spells_list {items : List Json} (h : ∀ item ∈ items, Spells standIn depth item.write item) :
    Spells standIn (depth + 1) (write (.list items)) (.list items) := by
  show Spells standIn (depth + 1) ('[' :: (writeItems items ++ [']'])) (.list items)
  rw [writeItems_eq]
  by_cases hitems : items = []
  · rw [hitems]
    exact .emptyList fun c hc => by cases hc
  · have hspells : Spells standIn (depth + 1)
        ('[' :: (separated ((items.map fun item => (item.write, item)).map (·.1)) ++ [']']))
        (.list ((items.map fun item => (item.write, item)).map (·.2))) := by
      refine .list (by simpa using hitems) fun pair hpair => ?_
      obtain ⟨item, hitem, rfl⟩ := List.mem_map.1 hpair
      exact h item hitem
    simpa [Function.comp_def] using hspells

/-- The members of an object with their texts. -/
def written (members : List (Text × Json)) : List ((Text × Text) × (Text × Json)) :=
  members.map fun member => ((quotedText member.1, member.1), (member.2.write, member.2))

theorem writeMembers_eq (members : List (Text × Json)) :
    writeMembers members = memberTexts (written members) := by
  induction members with
  | nil => rfl
  | cons member members ih =>
    cases members with
    | nil =>
      rw [memberTexts, written, List.map_singleton, List.map_singleton, separated,
        List.intercalate_singleton]
      rfl
    | cons next members =>
      rw [writeMembers, ih]
      simp [memberTexts, written, separated, List.intercalate_cons_cons]

theorem spells_object {members : List (Text × Json)}
    (h : ∀ member ∈ members, Spells standIn depth member.2.write member.2) :
    Spells standIn (depth + 1) (write (.object members)) (.object members) := by
  show Spells standIn (depth + 1) ('\x7b' :: (writeMembers members ++ ['\x7d'])) (.object members)
  rw [writeMembers_eq]
  by_cases hmembers : members = []
  · rw [hmembers]
    exact .emptyObject fun c hc => by cases hc
  · have hspells : Spells standIn (depth + 1)
        ('\x7b' :: (memberTexts (written members) ++ ['\x7d']))
        (.object ((written members).map fun member => (member.1.2, member.2.2))) := by
      refine .object (by simpa [written] using hmembers) ?_ ?_
      · intro pair hpair
        obtain ⟨member, -, rfl⟩ := List.mem_map.1 hpair
        exact spellsName_quotedText member.1
      · intro pair hpair
        obtain ⟨member, hmember, rfl⟩ := List.mem_map.1 hpair
        exact h member hmember
    simpa [written, Function.comp_def] using hspells

end Json
/-! ## Requests -/

theorem Account.spells_write {standIn : Char} {account : Account} {n : Int}
    (hbalance : account.balance = .whole n) (h : n.natAbs < tenPow digitLimit) :
    Json.Spells standIn 1 account.toJson.write account.toJson := by
  have hmember : Json.Spells standIn 0 account.balance.toJson.write account.balance.toJson := by
    rw [hbalance]
    exact Json.spells_integer h
  refine Json.spells_object ?_
  simp only [List.forall_mem_map, List.forall_mem_cons, List.not_mem_nil, false_implies,
    implies_true, and_true]
  exact ⟨Json.spells_text _, hmember, Json.spells_text _⟩

/-- A request with integer balances in range is JSON as it is written. -/
theorem Request.spells_write {standIn : Char} {request : Request}
    (h : ∀ account ∈ request.accounts, ∃ n, account.balance = .whole n
      ∧ n.natAbs < tenPow digitLimit) :
    Json.Spells standIn 3 request.toJson.write request.toJson := by
  have haccounts : Json.Spells standIn 2 (Json.list (request.accounts.map Account.toJson)).write
      (.list (request.accounts.map Account.toJson)) := by
    refine Json.spells_list ?_
    rw [List.forall_mem_map]
    intro account haccount
    obtain ⟨n, hbalance, hn⟩ := h account haccount
    exact Account.spells_write hbalance hn
  refine Json.spells_object ?_
  simp only [List.forall_mem_map, List.forall_mem_cons, List.not_mem_nil, false_implies,
    implies_true, and_true]
  exact ⟨haccounts, Json.spells_text _⟩

end Remit
