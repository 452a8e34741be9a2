import YamlTidy.Yaml.Tag

/-!
# What a plain scalar means

`resolve` gives the core tag of a plain scalar by its text.  The first character decides which of
the patterns below are tried.  YAML 1.1 has more words for truth values, octal numbers with a
leading zero and numbers to base 60.
-/

namespace YamlTidy
namespace Yaml
namespace Schema

/-- A text without the sign it begins with. -/
def unsigned : List Char → List Char
  | '-' :: s => s
  | '+' :: s => s
  | s => s

/-- Whether there is a character, and all are in a class. -/
def some1 (p : Char → Bool) (s : List Char) : Bool :=
  !s.isEmpty && s.all p

/-- A digit or an underscore. -/
def digit_ (c : Char) : Bool :=
  c.isDigit || c == '_'

/-- A digit followed by digits and underscores. -/
def digits_ : List Char → Bool
  | [] => false
  | c :: rest => c.isDigit && rest.all digit_

/-- An octal digit or an underscore. -/
def octal_ (c : Char) : Bool :=
  ('0' ≤ c && c ≤ '7') || c == '_'

/-- A hexadecimal digit or an underscore. -/
def hex_ (c : Char) : Bool :=
  c.isDigit || ('a' ≤ c && c ≤ 'f') || ('A' ≤ c && c ≤ 'F') || c == '_'

/-- Digits, underscores, or a mark in front of digits to another base. -/
def isInt (s : List Char) : Bool :=
  match unsigned s with
  | '0' :: 'b' :: rest => some1 (fun c => c == '0' || c == '1' || c == '_') rest
  | '0' :: 'o' :: rest => some1 octal_ rest
  | '0' :: 'x' :: rest => some1 hex_ rest
  | rest => some1 digit_ rest

/-- A part of a number to base 60: one or two digits below 60. -/
def isSixtieth : List Char → Bool
  | [a] => a.isDigit
  | [a, b] => '0' ≤ a && a ≤ '5' && b.isDigit
  | _ => false

/-- The pieces of a text between colons. -/
def byColons : List Char → List (List Char)
  | [] => [[]]
  | c :: rest =>
      if c == ':' then [] :: byColons rest
      else
        match byColons rest with
        | [] => [[c]]
        | piece :: more => (c :: piece) :: more

/-- An integer of YAML 1.1. -/
def isInt11 (s : List Char) : Bool :=
  match unsigned s with
  | '0' :: 'b' :: rest => some1 (fun c => c == '0' || c == '1' || c == '_') rest
  | '0' :: 'x' :: rest => some1 hex_ rest
  | rest =>
      let octal := match rest with
        | '0' :: more => some1 octal_ more
        | more => some1 octal_ more
      let decimal := match rest with
        | ['0'] => true
        | c :: more => '1' ≤ c && c ≤ '9' && more.all digit_
        | [] => false
      let sixty := match byColons rest with
        | (c :: more) :: part :: parts =>
            '1' ≤ c && c ≤ '9' && more.all digit_ && (part :: parts).all isSixtieth
        | _ => false
      octal || decimal || sixty

/-- An exponent with its mark; a sign must be there if `signed` says so. -/
def isExponent (signed : Bool) : List Char → Bool
  | c :: rest =>
      (c == 'e' || c == 'E') &&
        match rest with
        | '-' :: ds => some1 Char.isDigit ds
        | '+' :: ds => some1 Char.isDigit ds
        | ds => !signed && some1 Char.isDigit ds
  | [] => false

/-- The words for infinity behind the sign. -/
def isInfinity (s : List Char) : Bool :=
  s == ".inf".toList || s == ".Inf".toList || s == ".INF".toList

/-- The words for no number. -/
def isNotANumber (s : List Char) : Bool :=
  s == ".nan".toList || s == ".NaN".toList || s == ".NAN".toList

/-- Digits with a point, an exponent or both, or a word for infinity or no number. -/
def isFloat (v11 : Bool) (s : List Char) : Bool :=
  let body := unsigned s
  let whole := body.takeWhile digit_
  let rest := body.drop whole.length
  let pointed := match rest with
    | '.' :: more =>
        let fraction := more.takeWhile digit_
        let tail := more.drop fraction.length
        (digits_ whole && (tail.isEmpty || isExponent false tail)) ||
          (whole.isEmpty && !fraction.isEmpty && (!v11 || body == s) &&
            (tail.isEmpty || isExponent true tail))
    | _ => false
  let sixty := v11 && match byColons body with
    | first :: part :: parts =>
        let all := part :: parts
        let last := all.getLast?.getD []
        let lastWhole := last.takeWhile (· != '.')
        digits_ first && all.dropLast.all isSixtieth && isSixtieth lastWhole &&
          (match last.drop lastWhole.length with
            | '.' :: more => more.all digit_
            | _ => false)
    | _ => false
  pointed || (digits_ whole && isExponent false rest) || sixty || isInfinity body ||
    isNotANumber s

/-- A word for a truth value. -/
def isBool (v11 : Bool) (s : List Char) : Bool :=
  let core := ["true", "True", "TRUE", "false", "False", "FALSE"]
  let more :=
    ["y", "Y", "yes", "Yes", "YES", "n", "N", "no", "No", "NO", "on", "On", "ON", "off", "Off",
      "OFF"]
  (if v11 then core ++ more else core).any fun w => w.toList == s

/-- A word for no value, or no text. -/
def isNull (s : List Char) : Bool :=
  s.isEmpty || s == ['~'] || s == "null".toList || s == "Null".toList || s == "NULL".toList

end Schema

/-- The parts of a timestamp as written. -/
structure TimestampParts where
  year : List Char
  month : List Char
  day : List Char
  /-- Whether a letter stands between date and time. -/
  letter : Bool := false
  /-- Hour, minute and second. -/
  time : Option (List Char × List Char × List Char) := none
  fraction : Option (List Char) := none
  /-- The zone as written. -/
  zone : Option (List Char) := none
  zoneSign : Option Char := none
  zoneHour : List Char := []
  zoneMinute : Option (List Char) := none
  deriving Repr, DecidableEq

namespace TimestampParts

/-- The digits a text begins with, at least `least` and at most `most`, and the rest. -/
def digits? (least most : Nat) (s : List Char) : Option (List Char × List Char) :=
  let ds := (s.take most).takeWhile Char.isDigit
  if ds.length < least then none else some (ds, s.drop ds.length)

/-- The text behind a character that must be there. -/
def behind? (c : Char) : List Char → Option (List Char)
  | d :: rest => if c == d then some rest else none
  | [] => none

/-- The zone at the end of a timestamp. -/
def zone? (p : TimestampParts) (s : List Char) : Option TimestampParts :=
  match s.dropWhile fun c => c == ' ' || c == '\t' with
  | [] => if s.isEmpty then some p else none
  | ['Z'] => some { p with zone := some ['Z'] }
  | sign :: rest => do
      if sign != '-' && sign != '+' then none
      let (hour, rest) ← digits? 1 2 rest
      if rest.isEmpty then
        some { p with zone := some (sign :: hour), zoneSign := some sign, zoneHour := hour }
      else
        let (minute, last) ← (behind? ':' rest).bind (digits? 2 2)
        if last.isEmpty then
          some { p with
            zone := some (sign :: hour ++ ':' :: minute), zoneSign := some sign,
            zoneHour := hour, zoneMinute := some minute }
        else none

/-- The parts of a text that is a timestamp. -/
def ofText? (s : List Char) : Option TimestampParts := do
  let (year, s) ← digits? 4 4 s
  let (month, s) ← (behind? '-' s).bind (digits? 1 2)
  let (day, s) ← (behind? '-' s).bind (digits? 1 2)
  let p : TimestampParts := { year, month, day }
  match s with
  | [] => some p
  | c :: rest =>
      let letter := c == 'T' || c == 't'
      if !letter && c != ' ' && c != '\t' then none
      let rest := if letter then rest else rest.dropWhile fun c => c == ' ' || c == '\t'
      let (hour, s) ← digits? 1 2 rest
      let (minute, s) ← (behind? ':' s).bind (digits? 2 2)
      let (second, s) ← (behind? ':' s).bind (digits? 2 2)
      let p := { p with letter, time := some (hour, minute, second) }
      match s with
      | '.' :: rest =>
          let fraction := rest.takeWhile Char.isDigit
          zone? { p with fraction := some fraction } (rest.drop fraction.length)
      | s => zone? p s

end TimestampParts

namespace Schema

/-- A timestamp as a plain scalar: a date alone needs two digits for month and day. -/
def isTimestamp (s : List Char) : Bool :=
  match TimestampParts.ofText? s with
  | none => false
  | some p => p.time.isSome || (p.month.length == 2 && p.day.length == 2)

/-- The core tag of a plain scalar. -/
def resolve (v11 : Bool) (s : List Char) : CoreTag :=
  match s with
  | [] => .null
  | c :: _ =>
      let numeric := c.isDigit || c == '-' || c == '+'
      if isBool v11 s then .bool
      else if (numeric || c == '.') && isFloat v11 s then .float
      else if numeric && (if v11 then isInt11 s else isInt s) then .int
      else if s == "<<".toList then .merge
      else if isNull s then .null
      else if c.isDigit && isTimestamp s then .timestamp
      else if s == ['='] then .value
      else .str

end Schema
end Yaml
end YamlTidy
