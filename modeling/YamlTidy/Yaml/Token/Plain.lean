import YamlTidy.Yaml.Token

/-!
# Plain scalars

A plain scalar runs over words and the blanks between them, and over line breaks as long as the
lines that follow are indented enough.  A line feed in it is folded to a space, and `n` blank lines
to `n` breaks.
-/

namespace YamlTidy
namespace Yaml

/-- What the rules of a plain scalar depend on. -/
structure PlainContext where
  /-- Whether the scalar stands in a flow collection. -/
  inFlow : Bool
  /-- Whether the text is YAML 1.1. -/
  version11 : Bool
  /-- The least column of a continuation line. -/
  indent : Int

/-- The characters that end a word of a plain scalar in a flow collection. -/
def endsFlowWord (c : Char) : Bool :=
  c == ',' || c == ':' || c == '?' || c == '[' || c == ']' || c == '\x7b' || c == '\x7d'

/-- The length of the word that `s` begins with.  A colon is part of it unless a blank or the end
of the line follows. -/
def PlainContext.wordLength (ctx : PlainContext) : List Char → Nat
  | [] => 0
  | c :: rest =>
      if c == ':' && !endsWord (rest.headD '\x00') then ctx.wordLength rest + 1
      else if c == '?' && !ctx.version11 then ctx.wordLength rest + 1
      else if endsWord c || c == ':' || (ctx.inFlow && endsFlowWord c) then 0
      else ctx.wordLength rest + 1

/-- Whether a document marker stands under the cursor. -/
def Cursor.atMarker (c : Cursor) : Bool :=
  match c.rest with
  | '-' :: '-' :: '-' :: rest => endsWord (rest.headD '\x00')
  | '.' :: '.' :: '.' :: rest => endsWord (rest.headD '\x00')
  | _ => false

/-- What stands between two words of a plain scalar: the text it folds to, and where it ends.  There
is no text when the scalar ends there.  `brokenLine` tells whether a line ended. -/
structure PlainGap where
  text : List Char
  cursor : Cursor
  brokenLine : Bool

/-- The breaks between two lines of a plain scalar, with the spaces around them skipped; none of
them when a document marker comes first. -/
def Cursor.plainBreaks : Nat → Cursor → Option (List Char) × Cursor
  | 0, c => (some [], c)
  | n + 1, c =>
      if c.head == ' ' then plainBreaks n c.next
      else
        match c.lineBreak with
        | none => (some [], c)
        | some (ch, c) =>
            if c.atMarker then (none, c)
            else
              let (more, c) := plainBreaks n c
              (more.map (ch :: ·), c)

/-- Reads what stands behind a word of a plain scalar. -/
def Cursor.plainGap (c : Cursor) : PlainGap :=
  let blanks := c.run (· == ' ')
  let c := c.advance blanks.length
  match c.lineBreak with
  | none => { text := blanks, cursor := c, brokenLine := false }
  | some (ch, c) =>
      if c.atMarker then { text := [], cursor := c, brokenLine := true }
      else
        let (breaks, c) := c.plainBreaks (c.rest.length + 1)
        let text := match breaks with
          | none => []
          | some breaks =>
              if ch != '\n' then ch :: breaks else if breaks.isEmpty then [' '] else breaks
        { text, cursor := c, brokenLine := true }

/-- A plain scalar as read so far. -/
structure PlainScalar where
  text : List Char := []
  /-- The end of its last word. -/
  stop : Mark
  /-- Where reading went on to. -/
  cursor : Cursor
  /-- What the gap behind the last word folds to. -/
  gap : List Char := []
  /-- Whether a line ended behind the last word. -/
  brokenLine : Bool := false

/-- Reads the words of a plain scalar. -/
def PlainContext.words (ctx : PlainContext) : Nat → PlainScalar → PlainScalar
  | 0, s => s
  | n + 1, s =>
      let length := if s.cursor.head == '#' then 0 else ctx.wordLength s.cursor.rest
      if length == 0 then s
      else
        let text := s.text ++ s.gap ++ s.cursor.rest.take length
        let stop := s.cursor.advance length
        let gap := stop.plainGap
        let s : PlainScalar :=
          { text, stop := stop.mark, cursor := gap.cursor, gap := gap.text,
            brokenLine := gap.brokenLine }
        if gap.text.isEmpty || gap.cursor.head == '#' ||
            (!ctx.inFlow && (gap.cursor.column : Int) < ctx.indent) then s
        else ctx.words n s

/-- Reads the plain scalar under the cursor. -/
def PlainContext.scan (ctx : PlainContext) (c : Cursor) : PlainScalar :=
  ctx.words (c.rest.length + 1) { stop := c.mark, cursor := c }

/-- Whether a plain scalar may begin under the cursor. -/
def PlainContext.begins (ctx : PlainContext) (c : Cursor) : Bool :=
  let ch := c.head
  let after := c.ahead 1
  let special := "\x00 \t\r\n-?:,[]#&*!|>'\"%@".toList ++
    ['\x85', '\u2028', '\u2029', '\x7b', '\x7d', '\x60']
  !special.contains ch || (ch == '-' && !endsWord after) ||
    (!ctx.version11 && ch == ':' && ctx.inFlow && after != ' ' && after != '\t') ||
    (!ctx.inFlow && (ch == '?' || ch == ':') && !endsWord after)

/-- The scalar token under the cursor, and where reading goes on.  Blank lines behind the scalar are
kept with it. -/
def PlainContext.token (ctx : PlainContext) (c : Cursor) : Token × PlainScalar :=
  let s := ctx.scan c
  let comments : Option Comments :=
    match s.gap with
    | '\n' :: _ => some { behind := some ⟨s.gap ++ ['\n'], c.mark⟩ }
    | _ => none
  ({ kind := .scalar s.text .plain [], start := c.mark, stop := s.stop, comments }, s)

end Yaml
end YamlTidy
