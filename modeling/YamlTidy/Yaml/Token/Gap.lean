import YamlTidy.Yaml.Token

/-!
# Between tokens

Spaces, line breaks and comments stand between tokens, in flow collections tabs as well.  A comment
takes the line break behind it along, and blank lines that follow a break make a comment of their
own.
-/

namespace YamlTidy
namespace Yaml

/-- What was found between two tokens: where it ends, whether a simple key may begin there, and the
comment in it. -/
structure Gap where
  cursor : Cursor
  keyAllowed : Bool
  comment : Option Comment := none

/-- The comment that begins under the cursor with the breaks that follow it.  At the end of the text
it gets a line feed of its own. -/
def Cursor.commentLine (c : Cursor) : List Char × Cursor :=
  let body := c.run (fun ch => !endsLine ch)
  let c := c.advance body.length
  match c.rest with
  | [] => (body ++ ['\n'], c)
  | ending :: _ =>
      let (breaks, c) := c.next.breaksWithin id c.rest.length
      (body ++ ending :: breaks, c)

/-- The blank lines under the cursor: breaks, and the blanks between and behind them. -/
def Cursor.blankLines : Nat → Cursor → List Char × Cursor
  | 0, c => ([], c)
  | n + 1, c =>
      match c.lineBreak with
      | some (ch, c) =>
          let (more, c) := blankLines n c
          (ch :: more, c)
      | none =>
          if c.head == ' ' || c.head == '\t' then
            let (more, last) := blankLines n c.next
            (c.head :: more, last)
          else ([], c)

/-- A text up to and with its last line feed. -/
def throughLastLineFeed (s : List Char) : List Char :=
  (s.reverse.dropWhile (· != '\n')).reverse

/-- Moves to the next token or to the end of the next comment. -/
def skipGap (inFlow : Bool) : Nat → Cursor → Bool → Gap
  | 0, c, keyAllowed => { cursor := c, keyAllowed }
  | n + 1, c, keyAllowed =>
      let c := c.skip fun ch => ch == ' ' || (inFlow && ch == '\t')
      if c.head == '#' then
        let (text, last) := c.commentLine
        { cursor := last, keyAllowed := keyAllowed || !inFlow, comment := some ⟨text, c.mark⟩ }
      else
        match c.lineBreak with
        | none => { cursor := c, keyAllowed }
        | some (_, c) =>
            let keyAllowed := keyAllowed || !inFlow
            if c.head == '\n' then
              let (blank, last) := c.blankLines (c.rest.length + 1)
              let text := if last.head == '#' then throughLastLineFeed blank else blank
              { cursor := last, keyAllowed, comment := some ⟨text, c.mark⟩ }
            else skipGap inFlow n c keyAllowed

/-- Moves from anywhere in a text to the next token or to the end of the next comment. -/
def Cursor.gap (c : Cursor) (inFlow keyAllowed : Bool) : Gap :=
  let c := if c.index == 0 && c.head == '\uFEFF' then c.next else c
  skipGap inFlow (c.rest.length + 1) c keyAllowed

end Yaml
end YamlTidy
