import SentenceGraph.Json.Reader

/-!
# JSON bodies

A body is a sequence of octets. Its encoding is told from its first octets: a byte order mark, or
the place of the zero octets among the first four, as a JSON text starts with an ASCII character.
UTF-8, UTF-16 and UTF-32 in both orders are known; ill-formed bodies have no text.
-/

namespace SentenceGraph.Json

/-- The encodings of a JSON body. -/
inductive Encoding where
  | utf8
  | utf16 (bigEndian : Bool)
  | utf32 (bigEndian : Bool)
deriving DecidableEq, Repr

/-- The encoding of a body, and the body without its byte order mark. -/
def detectEncoding (body : List UInt8) : Encoding × List UInt8 :=
  match body with
  | 0x00 :: 0x00 :: 0xFE :: 0xFF :: rest => (.utf32 true, rest)
  | 0xFF :: 0xFE :: 0x00 :: 0x00 :: rest => (.utf32 false, rest)
  | 0xFE :: 0xFF :: rest => (.utf16 true, rest)
  | 0xFF :: 0xFE :: rest => (.utf16 false, rest)
  | 0xEF :: 0xBB :: 0xBF :: rest => (.utf8, rest)
  | first :: second :: third :: fourth :: _ =>
      if first == 0 then (if second == 0 then .utf32 true else .utf16 true, body)
      else if second == 0 then
        (if third == 0 && fourth == 0 then .utf32 false else .utf16 false, body)
      else (.utf8, body)
  | [first, second] =>
      if first == 0 then (.utf16 true, body)
      else if second == 0 then (.utf16 false, body)
      else (.utf8, body)
  | _ => (.utf8, body)

/-- The number that two octets stand for. -/
def pairValue (bigEndian : Bool) (first second : UInt8) : Nat :=
  if bigEndian then 256 * first.toNat + second.toNat else 256 * second.toNat + first.toNat

/-- The units of a UTF-16 body. -/
def utf16Units (bigEndian : Bool) : List UInt8 → Option (List Nat)
  | [] => some []
  | first :: second :: rest => (utf16Units bigEndian rest).map (pairValue bigEndian first second :: ·)
  | [_] => none

/-- The characters of UTF-16 units; a surrogate must be half of a pair. -/
def utf16Chars : List Nat → Option (List Char)
  | [] => some []
  | unit :: rest =>
      if 0xD800 ≤ unit && unit < 0xDC00 then
        match rest with
        | low :: after =>
            if 0xDC00 ≤ low && low < 0xE000 then
              (utf16Chars after).map
                (Char.ofNat (0x10000 + (unit - 0xD800) * 0x400 + (low - 0xDC00)) :: ·)
            else none
        | [] => none
      else if 0xDC00 ≤ unit && unit < 0xE000 then none
      else (utf16Chars rest).map (Char.ofNat unit :: ·)

/-- The characters of a UTF-32 body. -/
def utf32Chars (bigEndian : Bool) : List UInt8 → Option (List Char)
  | [] => some []
  | first :: second :: third :: fourth :: rest => do
      let high := pairValue bigEndian first second
      let low := pairValue bigEndian third fourth
      let point := if bigEndian then 65536 * high + low else 65536 * low + high
      if point.isValidChar then
        let characters ← utf32Chars bigEndian rest
        return Char.ofNat point :: characters
      else none
  | _ => none

/-- The text of a body, if it is well-formed. -/
def bodyText? (body : List UInt8) : Option String :=
  let (encoding, content) := detectEncoding body
  match encoding with
  | .utf8 => String.fromUTF8? (ByteArray.mk content.toArray)
  | .utf16 bigEndian => do
      let units ← utf16Units bigEndian content
      let characters ← utf16Chars units
      return String.ofList characters
  | .utf32 bigEndian => (utf32Chars bigEndian content).map String.ofList

def readBody? {R : Type} [Quantity R] (body : List UInt8) : Option (Value R) := do
  let text ← bodyText? body
  read? text

end SentenceGraph.Json
