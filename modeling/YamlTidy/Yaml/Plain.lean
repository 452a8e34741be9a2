import YamlTidy.Yaml.Value

/-!
# Plain data as documents

`Plain` is data with no form of its own: no styles, no comments and nothing shared.
`Document.ofPlain` gives it the form it has by default, each collection in a cell of its own.
-/

namespace YamlTidy
namespace Yaml

/-- Data without a form. -/
inductive Plain where
  | null
  | bool (b : Bool)
  | int (n : Int)
  | text (s : List Char)
  | sequence (items : List Plain)
  | mapping (entries : List (List Char × Plain))
  deriving Inhabited

namespace Plain

/-- A text without a style or an anchor. -/
def textValue (s : List Char) : Value :=
  .text s .plain [] none none

mutual

/-- The value of plain data, and the cells with those of its collections in front. -/
def toValue (cells : Cells) : Plain → Value × Cells
  | .null => (.null, cells)
  | .bool b => (.bool b none, cells)
  | .int n => (.int ⟨n, {}, true⟩ none, cells)
  | .text s => (textValue s, cells)
  | .sequence items =>
      let (values, cells) := itemValues cells items
      let id := cells.length
      (.cell id, (id, .sequence {} (values.map fun v => ⟨v, none⟩)) :: cells)
  | .mapping entries =>
      let (own, cells) := entryValues cells entries
      let id := cells.length
      (.cell id, (id, .mapping {} own none []) :: cells)

/-- The values of the items of a sequence. -/
def itemValues (cells : Cells) : List Plain → List Value × Cells
  | [] => ([], cells)
  | p :: more =>
      let (v, cells) := p.toValue cells
      let (vs, cells) := itemValues cells more
      (v :: vs, cells)

/-- The entries of a mapping. -/
def entryValues (cells : Cells) : List (List Char × Plain) → List Entry × Cells
  | [] => ([], cells)
  | (key, p) :: more =>
      let (v, cells) := p.toValue cells
      let (es, cells) := entryValues cells more
      (⟨textValue key, v, none⟩ :: es, cells)

end
end Plain

/-- The document of plain data. -/
def Document.ofPlain (p : Plain) : Document :=
  let (root, cells) := p.toValue []
  { root, cells }

end Yaml
end YamlTidy
