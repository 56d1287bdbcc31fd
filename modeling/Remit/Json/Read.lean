import Remit.Json.Value
import Remit.Money.Numeral
import Remit.Text.Units

/-!
# Reading JSON

`Json.read` reads a text as one JSON value. White space is the space, the tab and the two line
ends. Beside the numerals of JSON, `NaN`, `Infinity` and `-Infinity` are numbers. A numeral with a
point or an exponent is a binary64 number, any other an integer.

Reading goes from left to right and stops at the first fault. Integers of more than `digitLimit`
digits and lists or objects nested deeper than the reader is told to follow are faults of their own,
apart from texts that are not JSON.
-/

namespace Remit

open Text

/-- Why a text is not read as JSON. -/
inductive ReadError where
  /-- The text is not JSON. -/
  | malformed
  /-- An integer has too many digits. -/
  | tooManyDigits
  /-- Lists and objects are nested too deep. -/
  | tooDeep
  deriving DecidableEq

/-- White space between the parts of a JSON text. -/
def isJsonBlank (c : Char) : Bool :=
  c = ' ' || c = '\t' || c = '\n' || c = '\r'

/-- A text without the white space at its start. -/
def skipBlanks (t : Text) : Text :=
  t.dropWhile isJsonBlank

/-! ## Quoted texts -/

/-- The value of a hexadecimal digit. -/
def hexDigit? (c : Char) : Option Nat :=
  if c.isDigit then some (c.toNat - '0'.toNat)
  else if 'a' ≤ c ∧ c ≤ 'f' then some (c.toNat - 'a'.toNat + 10)
  else if 'A' ≤ c ∧ c ≤ 'F' then some (c.toNat - 'A'.toNat + 10)
  else none

/-- The value of four hexadecimal digits. -/
def hexUnit? (a b c d : Char) : Option Nat := do
  some ((← hexDigit? a) * 0x1000 + (← hexDigit? b) * 0x100 + (← hexDigit? c) * 0x10
    + (← hexDigit? d))

/-- The code of the character that a letter after a backslash stands for. -/
def escapeCode? (c : Char) : Option Nat :=
  if c = '"' ∨ c = '\\' ∨ c = '/' then some c.toNat
  else if c = 'b' then some 0x08
  else if c = 'f' then some 0x0c
  else if c = 'n' then some 0x0a
  else if c = 'r' then some 0x0d
  else if c = 't' then some 0x09
  else none

/-- One more code unit before those of a text that has been read. -/
def withUnit (unit : Nat) (found : List Nat × Text) : List Nat × Text :=
  (unit :: found.1, found.2)

/-- The code units of a quoted text after its opening quote, up to the closing one, and what follows
it. Control characters may not stand in it. -/
def readQuoted : Text → Except ReadError (List Nat × Text)
  | [] => .error .malformed
  | c :: rest =>
    if c = '"' then .ok ([], rest)
    else if c = '\\' then
      match rest with
      | [] => .error .malformed
      | letter :: rest =>
        if letter = 'u' then
          match rest with
          | a :: b :: c :: d :: rest =>
            match hexUnit? a b c d with
            | some unit => (readQuoted rest).map (withUnit unit)
            | none => .error .malformed
          | _ => .error .malformed
        else match escapeCode? letter with
          | some code => (readQuoted rest).map (withUnit code)
          | none => .error .malformed
    else if c.toNat < 0x20 then .error .malformed
    else (readQuoted rest).map (withUnit c.toNat)

/-! ## Words and numbers -/

/-- The words that are values. -/
def wordValues : List (Text × Json) := [
  ("null".toList, .null), ("true".toList, .bool true), ("false".toList, .bool false),
  ("NaN".toList, .real .nan), ("Infinity".toList, .real (.infinite false)),
  ("-Infinity".toList, .real (.infinite true))]

/-- A word or a number at the start of a text, and what follows it. -/
def readPlain (t : Text) : Except ReadError (Json × Text) :=
  match wordValues.find? fun entry => entry.1.isPrefixOf t with
  | some entry => .ok (entry.2, t.drop entry.1.length)
  | none => match Numeral.scan? t with
    | none => .error .malformed
    | some (numeral, rest) =>
      if !numeral.isInteger then .ok (.real numeral.double, rest)
      else if digitLimit < numeral.whole.length then .error .tooManyDigits
      else .ok (.integer numeral.integer, rest)

/-! ## Values -/

namespace Json

mutual

/-- The value at the start of a text, and what follows it. At most `depth` lists and objects may
be opened. -/
def readValue (standIn : Char) (fuel depth : Nat) (t : Text) : Except ReadError (Json × Text) :=
  match fuel, t with
  | 0, _ | _, [] => .error .malformed
  | fuel + 1, c :: rest =>
    if c = '"' then do
      let (units, rest) ← readQuoted rest
      .ok (.text (ofUnits standIn units), rest)
    else if c = '[' then
      match depth with
      | 0 => .error .tooDeep
      | depth + 1 => match skipBlanks rest with
        | ']' :: rest => .ok (.list [], rest)
        | body => do
          let (items, rest) ← readItems standIn fuel depth body
          .ok (.list items, rest)
    else if c = '\x7b' then
      match depth with
      | 0 => .error .tooDeep
      | depth + 1 => match skipBlanks rest with
        | '\x7d' :: rest => .ok (.object [], rest)
        | body => do
          let (members, rest) ← readMembers standIn fuel depth body
          .ok (.object members, rest)
    else readPlain (c :: rest)

/-- The items of a list up to its closing bracket, and what follows it. -/
def readItems (standIn : Char) (fuel depth : Nat) (t : Text) :
    Except ReadError (List Json × Text) :=
  match fuel with
  | 0 => .error .malformed
  | fuel + 1 => do
    let (item, rest) ← readValue standIn fuel depth t
    match skipBlanks rest with
    | ']' :: rest => .ok ([item], rest)
    | ',' :: rest => do
      let (items, rest) ← readItems standIn fuel depth (skipBlanks rest)
      .ok (item :: items, rest)
    | _ => .error .malformed

/-- The members of an object up to its closing brace, and what follows it. -/
def readMembers (standIn : Char) (fuel depth : Nat) (t : Text) :
    Except ReadError (List (Text × Json) × Text) :=
  match fuel, t with
  | fuel + 1, '"' :: rest => do
    let (units, rest) ← readQuoted rest
    match skipBlanks rest with
    | ':' :: rest => do
      let (value, rest) ← readValue standIn fuel depth (skipBlanks rest)
      match skipBlanks rest with
      | '\x7d' :: rest => .ok ([(ofUnits standIn units, value)], rest)
      | ',' :: rest => do
        let (members, rest) ← readMembers standIn fuel depth (skipBlanks rest)
        .ok ((ofUnits standIn units, value) :: members, rest)
      | _ => .error .malformed
    | _ => .error .malformed
  | _, _ => .error .malformed

end

/-- Reads a text as one JSON value with white space around it, in which at most `nesting` lists and
objects are open at once. In quoted texts the stand-in takes the place of escapes for surrogates
without a partner. Every step of the reader but the last takes a character, and no two steps in a
row take none, so the fuel never runs out. -/
def read (nesting : Nat) (standIn : Char) (t : Text) : Except ReadError Json := do
  let (value, rest) ← readValue standIn (2 * t.length + 2) nesting (skipBlanks t)
  if (skipBlanks rest).isEmpty then .ok value else .error .malformed

end Json
end Remit
