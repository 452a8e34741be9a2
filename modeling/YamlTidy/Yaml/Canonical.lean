import YamlTidy.Options
import YamlTidy.Text.Blank
import YamlTidy.Text.Lines
import YamlTidy.Yaml.Datum
import YamlTidy.Yaml.Layout.Arrange
import YamlTidy.Yaml.Layout.Writer

/-!
# Canonical text

`canonical` writes documents in the canonical layout: a step per level, items one step right of
their key, a sequence at the root flush left, and a marker between documents only.  `flushLeft` is
the part of it that moves a root sequence back; it works on the text alone.
-/

namespace YamlTidy
namespace Yaml

open Text

/-- Whether a line is neither blank nor a comment. -/
def isContent (line : List Char) : Bool :=
  match stripStart line with
  | [] => false
  | c :: _ => c != '#'

/-- A line without `indent` in front, if it begins with it. -/
def pullBack (indent line : List Char) : List Char :=
  if indent.isPrefixOf line then line.drop indent.length else line

/-- A text pulled back by one step if its first line with content is an item that was moved right by
it. -/
def flushLeft (step : Int) (text : List Char) : List Char :=
  let indent := spaces step
  let all := linesKeeping text
  let first := (all.find? isContent).getD []
  if (indent ++ ['-']).isPrefixOf first then (all.map (pullBack indent)).flatten else text

/-- What ends a document that is open at its end. -/
def documentEnd : List Char :=
  "\n...\n".toList

/-- What stands between documents. -/
def documentStart : List Char :=
  "---\n".toList

/-- A text without the marker it may end in. -/
def dropDocumentEnd (text : List Char) : List Char :=
  if documentEnd.isSuffixOf text then
    text.take (text.length - (documentEnd.length - 1))
  else text

/-- Whether the root of a document is a sequence. -/
def Document.isSequence (d : Document) : Bool :=
  match d.root with
  | .cell id =>
      match d.cells.lookup id with
      | some (.sequence ..) => true
      | some (.pairs _) => true
      | _ => false
  | _ => false

/-- The measures that the options ask for.  A width that is too small counts as 80. -/
def Measures.ofOptions (o : Options) : Measures :=
  let width := match o.lineWidth with
    | none => none
    | some 0 => none
    | some w => some (if 4 < w then w else 80)
  { step := o.indent, width }

/-- The canonical text of one document. -/
def Document.canonical (o : Options) (d : Document) : Except Abort (List Char) := do
  let layout ← DocumentLayout.ofDocument d
  let text ← layout.write (Measures.ofOptions o)
  let text := dropDocumentEnd text
  pure (if d.isSequence then flushLeft o.indent text else text)

/-- The canonical texts of documents. -/
def canonicalTexts (o : Options) : List Document → Except Abort (List (List Char))
  | [] => .ok []
  | d :: more => do
      let text ← d.canonical o
      let rest ← canonicalTexts o more
      pure (text :: rest)

/-- The canonical text of a list of documents. -/
def canonical (o : Options) (ds : List Document) : Except Abort (List Char) :=
  (canonicalTexts o ds).map fun texts => documentStart.intercalate texts

end Yaml
end YamlTidy
