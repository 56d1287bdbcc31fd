import Remit.Text.CaseTable
import Remit.Text.Basic

/-!
# Upper case

`upper` replaces each character by its upper case, which may be two or three characters long, so
the result can be longer than the text. Texts that differ only in the case of their letters have
the same upper case. On ASCII it is core's `Char.toUpper`, character by character.
-/

namespace Remit.Text

/-- The upper case of one character. -/
def upperChar (c : Char) : Text :=
  if c.toNat < 0x80 then [c.toUpper]
  else match caseExpansions.find? (·.1 == c.toNat) with
    | some e => e.2.map Char.ofNat
    | none => match caseRuns.find? (·.covers c.toNat) with
      | some r => [Char.ofNat (r.map c.toNat)]
      | none => [c]

/-- The upper case of a text. -/
def upper (t : Text) : Text :=
  t.flatMap upperChar

@[simp] theorem upper_nil : upper [] = [] := rfl

@[simp] theorem upper_cons (c : Char) (t : Text) : upper (c :: t) = upperChar c ++ upper t := rfl

@[simp] theorem upper_append (s t : Text) : upper (s ++ t) = upper s ++ upper t :=
  List.flatMap_append

/-- An ASCII character has a one-character upper case. -/
theorem upperChar_ascii {c : Char} (h : c.toNat < 0x80) : upperChar c = [c.toUpper] :=
  if_pos h

end Remit.Text
