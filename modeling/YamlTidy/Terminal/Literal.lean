import YamlTidy.Text.Lines

/-!
# Literals

The parameters of a handler are literals: numbers, sums of a real and an imaginary number, texts
and bytes between quotes, the words for truth values and for nothing, three dots, and tuples, sets
and dictionaries of literals.  Lists are left out: brackets end a tag.

Only whether a text is a literal matters, and what a set can hold.  A text is taken apart into
tokens, and `Level.step` reads them one by one with a level for each open parenthesis or brace.

Two rare forms count as no literals: texts with a character that an escape gives by name, and
comments behind a backslash that continues an empty row.
-/

namespace YamlTidy
namespace Terminal
namespace Literal

open Text

/-- A number, as far as it matters what it can be added to. -/
inductive Number where
  /-- A real number.  `fits` tells whether it is within the range of a sum. -/
  | real (fits : Bool)
  | imaginary
  deriving Repr, DecidableEq

/-- A token of a literal. -/
inductive Token where
  | comma
  | colon
  /-- A plus or minus sign. -/
  | sign
  | dots
  | opens (brace : Bool)
  | closes (brace : Bool)
  | number (n : Number)
  /-- A text, or bytes, between quotes. -/
  | text (bytes : Bool)
  | word (w : List Char)
  | rowEnd
  deriving Repr, DecidableEq

/-! ### Numbers -/

/-- The value of a digit in any base up to sixteen. -/
def digitValue? (c : Char) : Option Nat :=
  if c.isDigit then some (c.toNat - '0'.toNat)
  else if 'a' ≤ c && c ≤ 'f' then some (c.toNat - 'a'.toNat + 10)
  else if 'A' ≤ c && c ≤ 'F' then some (c.toNat - 'A'.toNat + 10)
  else none

/-- A digit of a base. -/
def isDigitOf (base : Nat) (c : Char) : Bool :=
  (digitValue? c).any (· < base)

/-- A character of a word.  Beyond ASCII no word is a literal. -/
def inWord (c : Char) : Bool :=
  c.isAlphanum || c == '_' || 128 ≤ c.toNat

/-- The digits at the beginning of a text, with the underscores among them. -/
def digitsOf (base : Nat) (s : List Char) : List Char :=
  s.takeWhile fun c => isDigitOf base c || c == '_'

/-- Whether a digit stands behind each underscore. -/
def isGrouped : List Char → Bool
  | [] => true
  | '_' :: rest => rest.head?.any (· != '_') && isGrouped rest
  | _ :: rest => isGrouped rest

/-- The value of digits, underscores left out. -/
def valueOf (base : Nat) (digits : List Char) : Nat :=
  digits.foldl (fun n c => match digitValue? c with | some d => n * base + d | none => n) 0

/-- The least whole number that is too large for a sum. -/
def tooLarge : Nat := Nat.pow 2 1024 - Nat.pow 2 970

/-- The most decimal digits of a whole number that is not zero. -/
def longest : Nat := 4300

/-- What stands behind a mark that a text may begin with. -/
def behindMark (small capital : Char) : List Char → Option (List Char)
  | [] => none
  | c :: rest => if c == small || c == capital then some rest else none

/-- The base that a text announces, and the digits behind it. -/
def base? (s : List Char) : Option (Nat × List Char) :=
  (behindMark '0' '0' s).bind fun s =>
    ((behindMark 'x' 'X' s).map fun s => (16, digitsOf 16 s)) <|>
    ((behindMark 'o' 'O' s).map fun s => (8, digitsOf 8 s)) <|>
    ((behindMark 'b' 'B' s).map fun s => (2, digitsOf 2 s))

/-- The length of the exponent that a text begins with, and whether its digits are well grouped. -/
def exponent (s : List Char) : Nat × Bool :=
  match behindMark 'e' 'E' s with
  | none => (0, true)
  | some rest =>
      let signed := (behindMark '-' '+' rest).getD rest
      let digits := digitsOf 10 signed
      if signed.head?.any Char.isDigit then
        (s.length - signed.length + digits.length, isGrouped digits)
      else (0, true)

/-- A number to the base ten that a text begins with, and its length. -/
def decimal? (s : List Char) : Option (Number × Nat) :=
  let whole := digitsOf 10 s
  let behindWhole := s.drop whole.length
  let point := (behindMark '.' '.' behindWhole).isSome
  let fraction :=
    if point && behindWhole.tail.head?.any Char.isDigit then digitsOf 10 behindWhole.tail else []
  let behindFraction := behindWhole.drop ((if point then 1 else 0) + fraction.length)
  let (power, powerIsGrouped) := exponent behindFraction
  let imaginary := (behindMark 'j' 'J' (behindFraction.drop power)).isSome
  let length := s.length - behindFraction.length + power + (if imaginary then 1 else 0)
  let hasDigits := whole.head?.any Char.isDigit || (whole.isEmpty && !fraction.isEmpty)
  let digits := whole.filter (· != '_')
  let value := valueOf 10 whole
  -- A whole number is not too long, and only zero begins with a zero.
  let isWhole := !point && power == 0 && !imaginary
  let faulty := isWhole && value != 0 && (digits.head? == some '0' || longest < digits.length)
  if !hasDigits || faulty || !isGrouped whole || !isGrouped fraction || !powerIsGrouped then none
  else if imaginary then some (.imaginary, length)
  else some (.real (!isWhole || value < tooLarge), length)

/-- The number that a text begins with, and its length.  No word follows it directly. -/
def number? (s : List Char) : Option (Number × Nat) :=
  let found := match base? s with
    | some (base, digits) =>
        if isGrouped digits && !digits.isEmpty then
          some (Number.real (valueOf base digits < tooLarge), 2 + digits.length)
        else none
    | none => decimal? s
  found.filter fun (_, length) => !(s.drop length).head?.any inWord

/-! ### Texts between quotes -/

/-- What the letters in front of a quote say: whether bytes follow, and whether backslashes count
as themselves. -/
def prefix? (w : List Char) : Option (Bool × Bool) :=
  match w.map Char.toLower with
  | [] => some (false, false)
  | ['u'] => some (false, false)
  | ['r'] => some (false, true)
  | ['b'] => some (true, false)
  | ['b', 'r'] => some (true, true)
  | ['r', 'b'] => some (true, true)
  | _ => none

/-- What stands up to the closing quote, or quotes if the text is a long one.  Only a long text
goes over rows. -/
def quotedBody? (quote : Char) (long : Bool) : List Char → Option (List Char)
  | [] => none
  | '\\' :: c :: rest => (quotedBody? quote long rest).map fun body => '\\' :: c :: body
  | c :: rest =>
      if c == quote && (!long || rest.take 2 == [quote, quote]) then some []
      else if c == '\n' && !long then none
      else (quotedBody? quote long rest).map (c :: ·)

/-- Whether some digits to the base sixteen follow, and their value is within a bound. -/
def hasCode (width bound : Nat) (s : List Char) : Bool :=
  let digits := s.take width
  digits.length == width && digits.all (isDigitOf 16) && valueOf 16 digits ≤ bound

/-- Whether the escapes in a text, or in bytes, can be read. -/
def escapesAreSound (bytes : Bool) : List Char → Bool
  | [] => true
  | '\\' :: c :: rest =>
      (match c with
        | 'x' => hasCode 2 0xFF rest
        | 'u' => bytes || hasCode 4 0xFFFF rest
        | 'U' => bytes || hasCode 8 0x10FFFF rest
        | 'N' => bytes
        | _ => true) && escapesAreSound bytes rest
  | _ :: rest => escapesAreSound bytes rest

/-- The text that begins with a quote: whether it is made of bytes, and its length. -/
def text? (bytes raw : Bool) : List Char → Option (Bool × Nat)
  | [] => none
  | quote :: rest =>
      let long := rest.take 2 == [quote, quote]
      let marks := if long then 3 else 1
      match quotedBody? quote long (rest.drop (marks - 1)) with
      | none => none
      | some body =>
          if (raw || escapesAreSound bytes body) && (!bytes || body.all (·.toNat < 128)) then
            some (bytes, body.length + 2 * marks)
          else none

/-! ### Tokens -/

/-- The token that a text begins with, and its length. -/
def tokenAt? (s : List Char) : Option (Token × Nat) :=
  match s with
  | ',' :: _ => some (.comma, 1)
  | ':' :: _ => some (.colon, 1)
  | '+' :: _ => some (.sign, 1)
  | '-' :: _ => some (.sign, 1)
  | '(' :: _ => some (.opens false, 1)
  | ')' :: _ => some (.closes false, 1)
  | '\x7b' :: _ => some (.opens true, 1)
  | '\x7d' :: _ => some (.closes true, 1)
  | '\n' :: _ => some (.rowEnd, 1)
  | '.' :: '.' :: '.' :: _ => some (.dots, 3)
  | s =>
      let word := s.takeWhile inWord
      let behind := s.drop word.length
      let isQuoted := behind.head?.any fun c => c == '\'' || c == '"'
      match (if isQuoted then prefix? word else none) with
      | some (bytes, raw) =>
          (text? bytes raw behind).map fun (bytes, length) => (.text bytes, word.length + length)
      | none =>
          if word.isEmpty || word.head?.any Char.isDigit then
            (number? s).map fun (n, length) => (.number n, length)
          else some (.word word, word.length)

/-- A blank between tokens. -/
def isGap (c : Char) : Bool :=
  c == ' ' || c == '\t' || c == '\x0c'

/-- The tokens of a text, if it is made of tokens only.  `skip` characters belong to what was read
last.  A comment ends with its row, and a backslash takes away the end of its row. -/
def tokensFrom (skip : Nat) : List Char → Option (List Token)
  | [] => some []
  | c :: rest =>
      match skip with
      | n + 1 => tokensFrom n rest
      | 0 =>
          if isGap c then tokensFrom 0 rest
          else if c == '#' then tokensFrom (rest.takeWhile (· != '\n')).length rest
          else if c == '\\' then
            if rest.head? == some '\n' && rest != ['\n'] then tokensFrom 1 rest else none
          else
            match tokenAt? (c :: rest) with
            | none => none
            | some (token, length) => (tokensFrom (length - 1) rest).map (token :: ·)

/-! ### Levels -/

/-- What has been read, as far as it matters to what stands around it. -/
inductive Kind where
  | number (n : Number)
  | signed (n : Number)
  | text (bytes : Bool)
  /-- Anything else that a set can hold. -/
  | fixed
  /-- What no set can hold. -/
  | changing
  /-- The name of sets, which parentheses with nothing between them follow. -/
  | setName
  deriving Repr, DecidableEq

namespace Kind

/-- Whether a set can hold it. -/
def isFixed (k : Kind) : Bool :=
  k != .changing && k != .setName

/-- What it is between parentheses: no other text can follow a text there. -/
def grouped : Kind → Kind
  | text _ => fixed
  | k => k

/-- A tuple, by whether all its items are fixed. -/
def ofTuple (areFixed : Bool) : Kind :=
  if areFixed then fixed else changing

end Kind

/-- What stands at the place that is being read. -/
inductive Reading where
  | nothing
  /-- A sign, and no number yet. -/
  | sign
  | literal (k : Kind)
  /-- A real number and a sign, and no imaginary number yet. -/
  | sum
  deriving Repr, DecidableEq

namespace Reading

/-- What stands there once something follows it. -/
def put (k : Kind) : Reading → Option Reading
  | nothing => some (literal k)
  | sign =>
      match k with
      | .number n => some (literal (.signed n))
      | _ => none
  | sum => if k = .number .imaginary then some (literal .fixed) else none
  | literal found =>
      match found, k with
      | .text bytes, .text more => if bytes = more then some (literal k) else none
      | .setName, .changing => some (literal k)
      | _, _ => none

/-- What stands there once a sign follows it. -/
def putSign : Reading → Option Reading
  | nothing => some sign
  | literal (.number (.real true)) => some sum
  | literal (.signed (.real true)) => some sum
  | _ => none

/-- The literal that stands there, if one does. -/
def item? : Reading → Option Kind
  | literal .setName => none
  | literal k => some k
  | _ => none

end Reading

/-- What a level is open for. -/
inductive Bracket where
  | outermost
  /-- The row with the literals has ended. -/
  | ended
  | group
  /-- The parentheses behind the name of sets. -/
  | call
  /-- Braces, and whether they hold entries, once that is known. -/
  | braces (entries : Option Bool)
  deriving Repr, DecidableEq

/-- An open parenthesis or brace, or what stands outside of all. -/
structure Level where
  bracket : Bracket
  /-- Whether sets can hold all items so far. -/
  areFixed : Bool := true
  /-- Whether there was a comma. -/
  commas : Bool := false
  /-- Whether the value of an entry is being read. -/
  atValue : Bool := false
  reading : Reading := .nothing
  deriving Repr, DecidableEq

namespace Level

/-- A level behind the item that has been read. -/
def behindItem (l : Level) : Option Level := do
  let k ← l.reading.item?
  let next := { l with areFixed := l.areFixed && k.isFixed, commas := true, reading := .nothing }
  match l.bracket with
  | .outermost => some next
  | .group => some next
  | .braces entries =>
      if l.atValue then some { next with atValue := false }
      else if entries = some true || !k.isFixed then none
      else some { next with bracket := .braces (some false) }
  | _ => none

/-- A level behind the key that has been read. -/
def behindKey (l : Level) : Option Level := do
  let k ← l.reading.item?
  match l.bracket with
  | .braces entries =>
      if l.atValue || entries = some false || !k.isFixed then none
      else some { l with bracket := .braces (some true), atValue := true, reading := .nothing }
  | _ => none

/-- The level that a parenthesis or a brace opens behind what has been read. -/
def opened (brace : Bool) : Reading → Option Level
  | .literal .setName => if brace then none else some { bracket := .call }
  | .literal _ => none
  | _ => some { bracket := if brace then .braces none else .group }

/-- What a level is once it is closed. -/
def closed (l : Level) (brace : Bool) : Option Kind :=
  match l.bracket, brace, l.reading with
  | .call, false, .nothing => some .changing
  | .group, false, .nothing => some (.ofTuple l.areFixed)
  | .group, false, .literal k =>
      if l.commas then l.behindItem.map fun l => .ofTuple l.areFixed else some k.grouped
  | .braces _, true, .nothing => if l.atValue then none else some .changing
  | .braces _, true, _ => l.behindItem.map fun _ => .changing
  | _, _, _ => none

/-- The most levels inside the outermost one. -/
def deepest : Nat := 200

/-- Reads something on the innermost level. -/
def put (k : Kind) : List Level → Option (List Level)
  | [] => none
  | l :: more => (l.reading.put k).map fun r => { l with reading := r } :: more

/-- Reads a token. -/
def step (levels : List Level) (token : Token) : Option (List Level) :=
  match levels with
  | [] => none
  | l :: more =>
      if l.bracket = .ended then
        if token = .rowEnd then some levels else none
      else
        match token with
        | .comma => l.behindItem.map (· :: more)
        | .colon => l.behindKey.map (· :: more)
        | .sign => l.reading.putSign.map fun r => { l with reading := r } :: more
        | .dots => put .fixed levels
        | .number n => put (.number n) levels
        | .text bytes => put (.text bytes) levels
        | .word w =>
            if ["True", "False", "None"].contains (String.ofList w) then put .fixed levels
            else if w = "set".toList then put .setName levels
            else none
        | .opens brace =>
            if levels.length ≤ deepest then (opened brace l.reading).map (· :: levels) else none
        | .closes brace => (l.closed brace).bind fun k => put k more
        | .rowEnd =>
            some (if l.bracket = .outermost then { l with bracket := .ended } :: more else levels)

/-- Whether what has been read is a literal, or some with commas in between. -/
def isDone : List Level → Bool
  | [l] => l.reading.item?.isSome || (l.reading = .nothing && l.commas)
  | _ => false

end Level

/-- A row with nothing but blanks and a comment. -/
def isSilent (row : List Char) : Bool :=
  match row.dropWhile isGap with
  | [] => true
  | c :: _ => c == '#'

/-- Whether a text is a literal, or some with commas in between.  Rows that say nothing may stand
around it, and nothing stands in front of it on its own row. -/
def isOneOf (s : List Char) : Bool :=
  let behind := joinRows ((rows (unifyBreaks s)).dropWhile isSilent)
  let levels := (tokensFrom 0 behind).bind fun tokens =>
    tokens.foldlM Level.step [{ bracket := .outermost }]
  !s.contains '\x00' && !behind.head?.any isGap && levels.any Level.isDone

end Literal
end Terminal
end YamlTidy
