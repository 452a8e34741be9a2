import YamlTidy.Text.Lines

/-!
# Text in bytes

UTF-8 as it is read from files: bytes that are no UTF-8 are a fault with the place and the length of
the sequence that is at fault.  `readable` also drops a byte order mark and unifies line breaks.
-/

namespace YamlTidy
namespace Text
namespace Utf8

/-- The bytes of a character. -/
def encodeChar (c : Char) : List UInt8 :=
  let n := c.toNat
  let tail (unit : Nat) : UInt8 := UInt8.ofNat (0x80 + n / unit % 0x40)
  if n < 0x80 then [UInt8.ofNat n]
  else if n < 0x800 then [UInt8.ofNat (0xC0 + n / 0x40), tail 1]
  else if n < 0x10000 then [UInt8.ofNat (0xE0 + n / 0x1000), tail 0x40, tail 1]
  else [UInt8.ofNat (0xF0 + n / 0x40000), tail 0x1000, tail 0x40, tail 1]

/-- The bytes of a text. -/
def encode (s : List Char) : List UInt8 :=
  s.flatMap encodeChar

/-- Why bytes are no UTF-8. -/
inductive Cause where
  | start
  | continuation
  | ending
  deriving Repr, DecidableEq

/-- A sequence of bytes that is no UTF-8. -/
structure Fault where
  /-- The place of its first byte. -/
  place : Nat
  /-- The number of its bytes. -/
  length : Nat
  first : UInt8
  cause : Cause
  deriving Repr, DecidableEq

/-- The wording of a cause. -/
def Cause.message : Cause → String
  | .start => "invalid start byte"
  | .continuation => "invalid continuation byte"
  | .ending => "unexpected end of data"

/-- A byte in two digits. -/
def hexByte (b : UInt8) : List Char :=
  let digit (n : Nat) : Char := Char.ofNat (if n < 10 then 48 + n else 87 + n)
  [digit (b.toNat / 16), digit (b.toNat % 16)]

/-- The wording of a fault. -/
def Fault.message (f : Fault) : List Char :=
  let number (n : Nat) : List Char := (toString n).toList
  let place :=
    if f.length == 1 then
      "byte 0x".toList ++ hexByte f.first ++ " in position ".toList ++ number f.place
    else
      "bytes in position ".toList ++ number f.place ++ '-' :: number (f.place + f.length - 1)
  "'utf-8' codec can't decode ".toList ++ place ++ ": ".toList ++ f.cause.message.toList

/-- What a first byte announces: the number of bytes that follow, its share of the code, and the
range of the second byte.  The range excludes long forms, surrogates and codes too large. -/
def announced? (b : UInt8) : Option (Nat × Nat × Nat × Nat) :=
  let n := b.toNat
  if n < 0xC2 then none
  else if n < 0xE0 then some (1, n - 0xC0, 0x80, 0xBF)
  else if n < 0xF0 then
    some (2, n - 0xE0, if n == 0xE0 then 0xA0 else 0x80, if n == 0xED then 0x9F else 0xBF)
  else if n < 0xF5 then
    some (3, n - 0xF0, if n == 0xF0 then 0x90 else 0x80, if n == 0xF4 then 0x8F else 0xBF)
  else none

/-- Reads up to `count` bytes that continue a code.  The result is the code, or the number of bytes
read and whether the data ended. -/
def continued (low high : Nat) : Nat → Nat → Nat → List UInt8 → Except (Nat × Bool) Nat
  | 0, _, code, _ => .ok code
  | _ + 1, read, _, [] => .error (read, true)
  | count + 1, read, code, b :: rest =>
      let n := b.toNat
      if low ≤ n && n ≤ high then
        continued 0x80 0xBF count (read + 1) (code * 0x40 + (n - 0x80)) rest
      else .error (read, false)

/-- Decodes bytes of which the first has place `place`.  `skip` bytes have been read already. -/
def decodeFrom (place skip : Nat) : List UInt8 → Except Fault (List Char)
  | [] => .ok []
  | b :: rest =>
      match skip with
      | skip + 1 => decodeFrom (place + 1) skip rest
      | 0 =>
          if b.toNat < 0x80 then do
            let more ← decodeFrom (place + 1) 0 rest
            pure (Char.ofNat b.toNat :: more)
          else
            match announced? b with
            | none => .error ⟨place, 1, b, .start⟩
            | some (count, code, low, high) =>
                match continued low high count 0 code rest with
                | .ok code => do
                    let more ← decodeFrom (place + 1) count rest
                    pure (Char.ofNat code :: more)
                | .error (_, true) => .error ⟨place, rest.length + 1, b, .ending⟩
                | .error (read, false) => .error ⟨place, read + 1, b, .continuation⟩

/-- The text of bytes. -/
def decode (bytes : List UInt8) : Except Fault (List Char) :=
  decodeFrom 0 0 bytes

/-- The byte order mark. -/
def byteOrderMark : List UInt8 :=
  [0xEF, 0xBB, 0xBF]

/-- The text of a file.  A byte order mark in front, even when it is cut short, is no part of it,
and every line break is a line feed. -/
def readable (bytes : List UInt8) : Except Fault (List Char) :=
  if bytes.isPrefixOf byteOrderMark then .ok []
  else if byteOrderMark.isPrefixOf bytes then (decode (bytes.drop 3)).map unifyBreaks
  else (decode bytes).map unifyBreaks

end Utf8
end Text
end YamlTidy
