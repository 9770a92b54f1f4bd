/-!
# UTF-8

Bytes are read as text even where they are not valid UTF-8: every longest run of bytes that begins
like a character and is none becomes one replacement character.

## Main definitions

* `Utf8.Begun` : a character of which some bytes are still missing.
* `decodeUtf8` : the text of bytes.
* `encodeUtf8` : the bytes of text.
-/

namespace ServerMigration.Text

/-- What stands for bytes that are no character. -/
def replacementChar : Char := '\ufffd'

/-- A character of which some bytes are still missing. -/
structure Utf8.Begun where
  /-- The bits of the bytes so far. -/
  bits : Nat
  /-- How many bytes are missing after the next one. -/
  after : Nat
  /-- The least value of the next byte. -/
  low : Nat := 0x80
  /-- The greatest value of the next byte. -/
  high : Nat := 0xBF
  deriving Repr, Inhabited

namespace Utf8

/-- What the first byte of a character begins, if it begins one of several bytes.  The bounds on
the second byte rule out overlong forms, surrogates, and values beyond the last character. -/
def begin? (byte : Nat) : Option Begun :=
  if 0xC2 ≤ byte ∧ byte ≤ 0xDF then some { bits := byte - 0xC0, after := 0 }
  else if byte = 0xE0 then some { bits := 0, after := 1, low := 0xA0 }
  else if byte = 0xED then some { bits := 0xD, after := 1, high := 0x9F }
  else if 0xE1 ≤ byte ∧ byte ≤ 0xEF then some { bits := byte - 0xE0, after := 1 }
  else if byte = 0xF0 then some { bits := 0, after := 2, low := 0x90 }
  else if byte = 0xF4 then some { bits := 4, after := 2, high := 0x8F }
  else if 0xF1 ≤ byte ∧ byte ≤ 0xF3 then some { bits := byte - 0xF0, after := 2 }
  else none

/-- Goes on with bytes, in the middle of a character or between two. -/
def decodeFrom : Option Begun → List UInt8 → List Char
  | none, [] => []
  | some _, [] => [replacementChar]
  | begun, byte :: bytes =>
    let n := byte.toNat
    let fresh (_ : Unit) :=
      if n < 0x80 then Char.ofNat n :: decodeFrom none bytes
      else match begin? n with
        | some begun => decodeFrom (some begun) bytes
        | none => replacementChar :: decodeFrom none bytes
    match begun with
    | none => fresh ()
    | some begun =>
      if begun.low ≤ n ∧ n ≤ begun.high then
        let bits := begun.bits * 64 + (n - 0x80)
        match begun.after with
        | 0 => Char.ofNat bits :: decodeFrom none bytes
        | after + 1 => decodeFrom (some { bits, after }) bytes
      else replacementChar :: fresh ()

end Utf8

/-- The text of bytes. -/
def decodeUtf8 (bytes : List UInt8) : String :=
  .ofList (Utf8.decodeFrom none bytes)

/-- The bytes of text. -/
def encodeUtf8 (text : String) : List UInt8 :=
  text.toList.flatMap String.utf8EncodeChar

end ServerMigration.Text
