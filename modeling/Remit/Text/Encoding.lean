import Remit.Text.Units

/-!
# Encodings

Bytes as text. `decode?` recognizes UTF-8, UTF-16 and UTF-32 by a byte-order mark or, without one,
by the zero bytes among the first four: a text that starts with ASCII characters has them in the
places that tell the encodings apart. The mark is not part of the text. Bytes that are not well
formed in the encoding are no text; surrogates without a partner do not make them so, and a stand-in
takes their place.
-/

namespace Remit.Text

/-- How characters are written as bytes. -/
inductive Encoding where
  | utf8
  | utf16 (bigEndian : Bool)
  | utf32 (bigEndian : Bool)
  deriving DecidableEq

/-! ## Recognizing the encoding -/

/-- The encoding of bytes without a byte-order mark. -/
def Encoding.ofZeros : List UInt8 → Encoding
  | a :: b :: c :: d :: _ =>
    if a = 0 then if b = 0 then .utf32 true else .utf16 true
    else if b = 0 then if c = 0 ∧ d = 0 then .utf32 false else .utf16 false
    else .utf8
  | [a, b] => if a = 0 then .utf16 true else if b = 0 then .utf16 false else .utf8
  | _ => .utf8

/-- The encoding of bytes, and the bytes after a byte-order mark. -/
def Encoding.detect : List UInt8 → Encoding × List UInt8
  | 0x00 :: 0x00 :: 0xfe :: 0xff :: rest => (.utf32 true, rest)
  | 0xff :: 0xfe :: 0x00 :: 0x00 :: rest => (.utf32 false, rest)
  | 0xfe :: 0xff :: rest => (.utf16 true, rest)
  | 0xff :: 0xfe :: rest => (.utf16 false, rest)
  | 0xef :: 0xbb :: 0xbf :: rest => (.utf8, rest)
  | bytes => (.ofZeros bytes, bytes)

/-! ## Decoding -/

/-- A byte that continues a character of UTF-8. -/
def isContinuation (b : UInt8) : Bool :=
  0x80 ≤ b && b ≤ 0xbf

/-- The six bits that a continuation byte adds to a code. -/
def extendCode (code : Nat) (b : UInt8) : Nat :=
  code * 0x40 + (b.toNat - 0x80)

/-- The first two bytes of a character of three: no character below U+0800 is written so. -/
def isThreeByteStart (a b : UInt8) : Bool :=
  0xe0 ≤ a && a ≤ 0xef && isContinuation b && (a != 0xe0 || 0xa0 ≤ b)

/-- The first two bytes of a character of four: none below U+10000 or beyond U+10FFFF is written
so. -/
def isFourByteStart (a b : UInt8) : Bool :=
  0xf0 ≤ a && a ≤ 0xf4 && isContinuation b && (a != 0xf0 || 0x90 ≤ b) && (a != 0xf4 || b ≤ 0x8f)

/-- The codes that bytes in UTF-8 stand for. -/
def codesOfUtf8 : List UInt8 → Option (List Nat)
  | [] => some []
  | a :: rest =>
    if a < 0x80 then (codesOfUtf8 rest).map (a.toNat :: ·)
    else match rest with
      | [] => none
      | b :: rest =>
        if 0xc2 ≤ a ∧ a ≤ 0xdf ∧ isContinuation b then
          (codesOfUtf8 rest).map (extendCode (a.toNat - 0xc0) b :: ·)
        else match rest with
          | [] => none
          | c :: rest =>
            if isThreeByteStart a b && isContinuation c then
              (codesOfUtf8 rest).map (extendCode (extendCode (a.toNat - 0xe0) b) c :: ·)
            else match rest with
              | [] => none
              | d :: rest =>
                if isFourByteStart a b && isContinuation c && isContinuation d then
                  (codesOfUtf8 rest).map
                    (extendCode (extendCode (extendCode (a.toNat - 0xf0) b) c) d :: ·)
                else none

/-- The units of 16 bits that bytes spell. -/
def unitsOfUtf16 (bigEndian : Bool) : List UInt8 → Option (List Nat)
  | [] => some []
  | [_] => none
  | a :: b :: rest =>
    let unit := if bigEndian then a.toNat * 0x100 + b.toNat else b.toNat * 0x100 + a.toNat
    (unitsOfUtf16 bigEndian rest).map (unit :: ·)

/-- The codes of 32 bits that bytes spell; none is beyond U+10FFFF. -/
def codesOfUtf32 (bigEndian : Bool) : List UInt8 → Option (List Nat)
  | [] => some []
  | a :: b :: c :: d :: rest =>
    let ofBytes (a b c d : UInt8) : Nat :=
      ((a.toNat * 0x100 + b.toNat) * 0x100 + c.toNat) * 0x100 + d.toNat
    let code := if bigEndian then ofBytes a b c d else ofBytes d c b a
    if code < 0x110000 then (codesOfUtf32 bigEndian rest).map (code :: ·) else none
  | _ => none

/-- Bytes in an encoding as text. -/
def Encoding.decode? (standIn : Char) (bytes : List UInt8) : Encoding → Option Text
  | .utf8 => (codesOfUtf8 bytes).map (·.map (charOfCode standIn))
  | .utf16 bigEndian => (unitsOfUtf16 bigEndian bytes).map (ofUnits standIn)
  | .utf32 bigEndian => (codesOfUtf32 bigEndian bytes).map (·.map (charOfCode standIn))

/-- Bytes as text, in the encoding that they show. -/
def decode? (standIn : Char) (bytes : List UInt8) : Option Text :=
  let (encoding, rest) := Encoding.detect bytes
  encoding.decode? standIn rest

end Remit.Text
