import YamlTidy.Text.Digit
import YamlTidy.Text.Utf8
import YamlTidy.Yaml.Token.Plain
import YamlTidy.Yaml.Token.Flow

/-!
# Anchors, aliases, tags and directives
-/

namespace YamlTidy
namespace Yaml

/-- A character that an anchor's name may hold: any visible one but the flow indicators. -/
def inAnchorName (c : Char) : Bool :=
  let n := c.toNat
  !(c == ',' || c == '[' || c == ']' || c == '\x7b' || c == '\x7d') &&
    ((0x21 ≤ n && n ≤ 0x7E) || (0xA0 ≤ n && n ≤ 0xD7FF) ||
      (0xE000 ≤ n && n ≤ 0xFFFD && n != 0xFEFF) || 0x10000 ≤ n)

/-- What may stand behind an anchor's name. -/
def endsAnchor (c : Char) : Bool :=
  endsHeader c || c == '\t' || "?:,[]%@".toList.contains c || c == '\x7b' || c == '\x7d' ||
    c == '\x60'

/-- The anchor or alias under the cursor. -/
def Cursor.anchorToken (c : Cursor) : Except Fault (Token × Cursor) :=
  let isAlias := c.head == '*'
  let start := c.mark
  let c := c.next
  let name := c.run inAnchorName
  let last := c.advance name.length
  if name.isEmpty || !endsAnchor last.head then
    .error (.at (.anchorName (if isAlias then "alias" else "anchor") last.head) last.mark)
  else
    .ok ({ kind := if isAlias then .reference name else .anchor name,
           start, stop := last.mark }, last)

/-- A letter or digit of ASCII, a hyphen or an underscore. -/
def inHandle (c : Char) : Bool :=
  c.isAlphanum || c == '-' || c == '_'

/-- The tag handle under the cursor: an exclamation mark, or a word between two. -/
def Cursor.tagHandle (c : Cursor) (what : String) : Except Fault (List Char × Cursor) :=
  if c.head != '!' then .error (.at (.handleOpen what c.head) c.mark)
  else if c.ahead 1 == ' ' then .ok (['!'], c.next)
  else
    let word := c.next.run inHandle
    let last := c.next.advance word.length
    if last.head != '!' then .error (.at (.handleClose what last.head) last.mark)
    else .ok ('!' :: word ++ ['!'], last.next)

/-- A character of a tag's URI. -/
def inUri (version11 : Bool) (c : Char) : Bool :=
  c.isAlphanum || "-;/?:@&=+$,_.!~*'()[]%".toList.contains c || (!version11 && c == '#')

/-- Checks the bytes of some percent escapes in a row: they are UTF-8. -/
def checkBytes (what : String) (start : Mark) (bytes : List UInt8) : Except Fault Unit :=
  match Text.Utf8.decode bytes with
  | .ok _ => .ok ()
  | .error fault => .error (.at (.uriBytes what fault.message) start)

/-- Checks the percent escapes in a URI: two hexdecimal digits follow each percent sign.  `bytes`
are those of the escapes right in front, which begin at `start`, and `skip` characters belong to
the last of them. -/
def Cursor.checkEscapes (what : String) (start : Mark) (skip : Nat) (bytes : List UInt8) :
    List Char → Cursor → Except Fault Unit
  | [], _ => checkBytes what start bytes
  | ch :: rest, c =>
      match skip with
      | n + 1 => checkEscapes what start n bytes rest c.next
      | 0 =>
          if ch = '%' then
            match hexNumber 2 0 c.next.rest with
            | .ok n =>
                checkEscapes what (if bytes.isEmpty then c.mark else start) 2
                  (bytes ++ [UInt8.ofNat n]) rest c.next
            | .error found => .error (.at (.uriEscape what found) c.next.mark)
          else
            match checkBytes what start bytes with
            | .error fault => .error fault
            | .ok () => checkEscapes what start 0 [] rest c.next

/-- The URI under the cursor, with its escapes as they are. -/
def Cursor.tagUri (c : Cursor) (what : String) (version11 : Bool) :
    Except Fault (List Char × Cursor) := do
  let uri := c.run (inUri version11)
  c.checkEscapes what c.mark 0 [] uri
  let last := c.advance uri.length
  if uri.isEmpty then .error (.at (.uriMissing what last.head) last.mark) else .ok (uri, last)

/-- A URI with its percent escapes replaced by the characters they stand for. -/
def decodeUri : List Char → List Char
  | [] => []
  | '%' :: a :: b :: rest =>
      match hexNumber 2 0 [a, b] with
      | .ok n => Char.ofNat n :: decodeUri rest
      | .error _ => '%' :: a :: b :: decodeUri rest
  | c :: rest => c :: decodeUri rest

/-- Whether a second exclamation mark stands in the word under the cursor, behind the first. -/
def Cursor.hasHandle (c : Cursor) : Bool :=
  (c.next.run fun ch => ch != '!' && !endsHeader ch).length <
    (c.next.run fun ch => !endsHeader ch).length

/-- The tag under the cursor. -/
def Cursor.tagToken (c : Cursor) (version11 : Bool) : Except Fault (Token × Cursor) := do
  let start := c.mark
  let (handle, suffix, c) ←
    if c.ahead 1 == '<' then do
      let (uri, c) ← (c.advance 2).tagUri "tag" version11
      if c.head != '>' then throw (.at (.tagClose c.head) c.mark)
      pure (none, uri, c.next)
    else if endsWord (c.ahead 1) then pure (none, ['!'], c.next)
    else do
      let (handle, c) ← if c.hasHandle then c.tagHandle "tag" else pure (['!'], c.next)
      let (uri, c) ← c.tagUri "tag" version11
      pure (some handle, uri, c)
  if !endsHeader c.head then throw (.at (.tagSpace c.head) c.mark)
  pure ({ kind := .tag handle suffix, start, stop := c.mark }, c)

/-- A number in decimal digits. -/
def digitsValue (digits : List Char) : Nat :=
  digits.foldl (fun n c => n * 10 + (c.toNat - 48)) 0

/-- The number under the cursor in a version directive. -/
def Cursor.versionNumber (c : Cursor) : Except Fault (Nat × Cursor) :=
  let digits := c.run Char.isDigit
  if digits.isEmpty then .error (.at (.versionDigit c.head) c.mark)
  else if Text.longestDecimal < digits.length then
    .error (.rejected
      (.unconvertible (Text.tooManyDigits (some (decimal digits.length)))) none)
  else .ok (digitsValue digits, c.advance digits.length)

/-- The version under the cursor. -/
def Cursor.versionValue (c : Cursor) : Except Fault (Directive × Cursor) := do
  let (major, c) ← (c.skip (· == ' ')).versionNumber
  if c.head != '.' then throw (.at (.versionDigitOrDot c.head) c.mark)
  let (minor, c) ← c.next.versionNumber
  if !endsHeader c.head then throw (.at (.versionDigitOrSpace c.head) c.mark)
  pure (.version major minor, c)

/-- The handle and the URI under the cursor. -/
def Cursor.tagValue (c : Cursor) (version11 : Bool) : Except Fault (Directive × Cursor) := do
  let (handle, c) ← (c.skip (· == ' ')).tagHandle "directive"
  if c.head != ' ' then throw (.at (.directiveSpace c.head) c.mark)
  let (uri, c) ← (c.skip (· == ' ')).tagUri "directive" version11
  if !endsHeader c.head then throw (.at (.directiveSpace c.head) c.mark)
  pure (.tag handle uri, c)

/-- A character of a directive's name. -/
def inDirectiveName (c : Char) : Bool :=
  c.isAlphanum || c == '-' || c == '_' || c == ':' || c == '.'

/-- The directive line under the cursor. -/
def Cursor.directiveToken (c : Cursor) (version11 : Bool) : Except Fault (Token × Cursor) := do
  let start := c.mark
  let c := c.next
  let name := c.run inDirectiveName
  let c := c.advance name.length
  if name.isEmpty || !endsHeader c.head then throw (.at (.directiveName c.head) c.mark)
  let (d, stop, c) ←
    if name == "YAML".toList then do
      let (d, c) ← c.versionValue
      pure (d, c.mark, c)
    else if name == "TAG".toList then do
      let (d, c) ← c.tagValue version11
      pure (d, c.mark, c)
    else pure (Directive.other, c.mark, c.skip (fun ch => !endsLine ch))
  let c := c.skip (· == ' ')
  let c := if c.head == '#' then c.skip (fun ch => !endsLine ch) else c
  if !endsLine c.head then throw (.at (.directiveLineEnd c.head) c.mark)
  let last := match c.lineBreak with
    | some (_, c) => c
    | none => c
  pure ({ kind := .directive d, start, stop }, last)

end Yaml
end YamlTidy
