import EntityMapper.Text.Shown

/-!
# UTF-8

Decoding bytes.  Where they need not be well formed, what is no part of an encoded character is
dropped, a byte sequence that breaks off being dropped up to the byte that breaks it.  Where they
must be, the first malformed sequence is reported.
-/

namespace EntityMapper.Text

/-- The number of bytes that follow the given first byte, the bits that it contributes, and the
range of the second byte; `none` for bytes that begin no character. -/
def leadByte? (b : Nat) : Option (Nat × Nat × Nat × Nat) :=
  if b < 0x80 then some (0, b, 0x80, 0xBF)
  else if b < 0xC2 then none
  else if b < 0xE0 then some (1, b - 0xC0, 0x80, 0xBF)
  else if b = 0xE0 then some (2, 0, 0xA0, 0xBF)
  else if b = 0xED then some (2, 0xD, 0x80, 0x9F)
  else if b < 0xF0 then some (2, b - 0xE0, 0x80, 0xBF)
  else if b = 0xF0 then some (3, 0, 0x90, 0xBF)
  else if b < 0xF4 then some (3, b - 0xF0, 0x80, 0xBF)
  else if b = 0xF4 then some (3, 4, 0x80, 0x8F)
  else none

/-- Decodes bytes of which a character has begun: so many more bytes belong to it, its bits so far
and the range of the next byte are given. -/
def decodeInside (pending bits low high : Nat) : List UInt8 → List Char
  | [] => []
  | b :: bs =>
    let n := b.toNat
    if pending ≠ 0 ∧ low ≤ n ∧ n ≤ high then
      let bits := bits * 64 + (n - 0x80)
      if pending = 1 then Char.ofNat bits :: decodeInside 0 0 0 0 bs
      else decodeInside (pending - 1) bits 0x80 0xBF bs
    else
      match leadByte? n with
      | none => decodeInside 0 0 0 0 bs
      | some (0, c, _, _) => Char.ofNat c :: decodeInside 0 0 0 0 bs
      | some (more, bits, low, high) => decodeInside more bits low high bs

/-- The characters that bytes encode, without what is malformed. -/
def decodeUtf8 (bytes : List UInt8) : List Char :=
  decodeInside 0 0 0 0 bytes

/-! ## Well-formed bytes -/

/-- What is wrong with a byte sequence. -/
inductive Malformation where
  | startByte
  | continuationByte
  | endOfData
  deriving DecidableEq, Repr

/-- A malformed byte sequence: its first byte, the index of that byte and the number of bytes. -/
structure DecodingError where
  malformation : Malformation
  byte : UInt8
  index : Nat
  length : Nat
  deriving DecidableEq, Repr

/-- The wording of what is wrong. -/
def Malformation.message : Malformation → String
  | .startByte => "invalid start byte"
  | .continuationByte => "invalid continuation byte"
  | .endOfData => "unexpected end of data"

/-- The wording of the error. -/
def DecodingError.message (e : DecodingError) : String :=
  let place :=
    if e.length = 1 then
      "byte 0x" ++ String.ofList (hex 2 e.byte.toNat) ++ " in position " ++ toString e.index
    else
      "bytes in position " ++ toString e.index ++ "-" ++ toString (e.index + e.length - 1)
  "'utf-8' codec can't decode " ++ place ++ ": " ++ e.malformation.message

/-- An encoded character of which some bytes have been read. -/
structure Unfinished where
  first : UInt8
  index : Nat
  /-- The number of bytes that have been read. -/
  seen : Nat
  /-- The number of bytes that are missing. -/
  missing : Nat
  bits : Nat
  /-- The least and the greatest value of the next byte. -/
  low : Nat
  high : Nat
  deriving DecidableEq, Repr

/-- The error of a character that is not finished. -/
def Unfinished.error (u : Unfinished) (why : Malformation) : DecodingError :=
  ⟨why, u.first, u.index, u.seen⟩

/-- Decodes bytes from an index on, within a character or between two. -/
def decodeFrom (index : Nat) : Option Unfinished → List UInt8 → Except DecodingError (List Char)
  | none, [] => .ok []
  | some u, [] => .error (u.error .endOfData)
  | none, b :: bs =>
    match leadByte? b.toNat with
    | none => .error ⟨.startByte, b, index, 1⟩
    | some (0, bits, _, _) => do
      return Char.ofNat bits :: (← decodeFrom (index + 1) none bs)
    | some (more, bits, low, high) =>
      decodeFrom (index + 1) (some ⟨b, index, 1, more, bits, low, high⟩) bs
  | some u, b :: bs =>
    let n := b.toNat
    if n < u.low ∨ u.high < n then .error (u.error .continuationByte)
    else
      let bits := u.bits * 64 + (n - 0x80)
      if u.missing = 1 then do
        return Char.ofNat bits :: (← decodeFrom (index + 1) none bs)
      else
        decodeFrom (index + 1)
          (some { u with seen := u.seen + 1, missing := u.missing - 1, bits := bits,
                         low := 0x80, high := 0xBF }) bs

/-- The characters that well-formed bytes encode. -/
def decodeStrictly (bytes : List UInt8) : Except DecodingError (List Char) :=
  decodeFrom 0 none bytes

/-- The bytes that encode a text. -/
def encodeUtf8 (s : String) : List UInt8 :=
  s.toUTF8.toList

end EntityMapper.Text
