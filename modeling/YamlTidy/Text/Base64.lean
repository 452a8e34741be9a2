/-!
# Base 64

Bytes as text with 64 letters, three bytes to four letters.  `decode` passes over every other
character, and stops at a group that is filled up; `encode` breaks its lines after 76 letters.
-/

namespace YamlTidy
namespace Text
namespace Base64

/-- The letters in order. -/
def alphabet : List Char :=
  "ABCDEFGHIJKLMNOPQRSTUVWXYZabcdefghijklmnopqrstuvwxyz0123456789+/".toList

/-- The letter for a number below 64. -/
def letter (n : Nat) : Char :=
  alphabet.getD n 'A'

/-- The number of a letter. -/
def number? (c : Char) : Option Nat :=
  let n := alphabet.findIdx (· == c)
  if n < 64 then some n else none

/-- Why a text cannot be decoded. -/
inductive Fault where
  /-- The last group has one letter; `count` letters were read in all. -/
  | oneLetter (count : Nat)
  | padding
  deriving Repr, DecidableEq

/-- The wording of a fault. -/
def Fault.message : Fault → List Char
  | .oneLetter count =>
      "Invalid base64-encoded string: number of data characters (".toList ++
        (toString count).toList ++ ") cannot be 1 more than a multiple of 4".toList
  | .padding => "Incorrect padding".toList

/-- Reads letters.  `place` is the number of letters read of the group under way, `left` what is
left of the last one, `pads` the number of fillers seen, and `done` the bytes so far, last first. -/
def read : List Char → Nat → Nat → Nat → List Nat → Except Fault (List Nat)
  | [], 0, _, _, done => .ok done.reverse
  | [], 1, _, _, done => .error (.oneLetter (done.length / 3 * 4 + 1))
  | [], _, _, _, _ => .error .padding
  | c :: rest, place, left, pads, done =>
      if c == '=' then
        if 2 ≤ place then
          if 4 ≤ place + (pads + 1) then .ok done.reverse
          else read rest place left (pads + 1) done
        else read rest place left pads done
      else
        match number? c with
        | none => read rest place left pads done
        | some n =>
            match place with
            | 0 => read rest 1 n 0 done
            | 1 => read rest 2 (n % 16) 0 ((left * 4 + n / 16) :: done)
            | 2 => read rest 3 (n % 4) 0 ((left * 16 + n / 4) :: done)
            | _ => read rest 0 0 0 ((left * 64 + n) :: done)

/-- The bytes of a text. -/
def decode (s : List Char) : Except Fault (List Nat) :=
  read s 0 0 0 []

/-- The letters of bytes. -/
def letters : List Nat → List Char
  | [] => []
  | [a] => [letter (a / 4), letter (a % 4 * 16), '=', '=']
  | [a, b] => [letter (a / 4), letter (a % 4 * 16 + b / 16), letter (b % 16 * 4), '=']
  | a :: b :: c :: rest =>
      letter (a / 4) :: letter (a % 4 * 16 + b / 16) :: letter (b % 16 * 4 + c / 64) ::
        letter (c % 64) :: letters rest

/-- A text in lines of 76 characters. -/
def inLines : Nat → List Char → List Char
  | 0, _ => []
  | n + 1, s => if s.isEmpty then [] else s.take 76 ++ '\n' :: inLines n (s.drop 76)

/-- Bytes as lines of letters. -/
def encode (bytes : List Nat) : List Char :=
  let s := letters bytes
  inLines s.length s

end Base64
end Text
end YamlTidy
