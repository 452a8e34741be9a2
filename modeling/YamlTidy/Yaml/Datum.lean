import YamlTidy.Yaml.Node.Parser
import YamlTidy.Yaml.Value.Builder

/-!
# The data of a text

A `Datum` is what a document says, without the form it has: no styles, no comments, and every alias
replaced by what it stands for.  `parse` gives the data of all documents of a text.
-/

namespace YamlTidy
namespace Yaml

/-- What a document says. -/
inductive Datum where
  | null
  | bool (b : Bool)
  | int (n : Int)
  | real (x : Binary64)
  | text (s : List Char)
  | binary (bytes : List Nat)
  | timestamp (t : Timestamp)
  /-- A scalar whose tag is none of the schema's. -/
  | tagged (tag s : List Char)
  | sequence (items : List Datum)
  | mapping (entries : List (Datum × Datum))
  | set (items : List Datum)
  /-- A collection inside itself. -/
  | cycle
  deriving Inhabited

namespace Value

/-- The data of a value.  `path` lists the cells around it; the bound limits the nesting. -/
def datum (cells : Cells) : Nat → List Nat → Value → Datum
  | 0, _, _ => .cycle
  | n + 1, path, v =>
      let inner (v : Value) : Datum := datum cells n path v
      match v with
      | .null => .null
      | .bool b _ => .bool b
      | .int w _ => .int w.value
      | .real w _ => .real w.value
      | .text s _ _ _ _ => .text s
      | .binary bytes => .binary bytes
      | .keySequence _ items => .sequence (items.map inner)
      | .tuple items => .sequence (items.map inner)
      | .keyMapping _ entries => .mapping (entries.map fun e => (inner e.1, inner e.2))
      | .cell id =>
          if path.contains id then .cycle
          else
            let inner (v : Value) : Datum := datum cells n (id :: path) v
            match cells.lookup id with
            | none => .null
            | some (.timestamp t) => .timestamp t
            | some (.tagged tag s _ _ _) => .tagged tag.name s
            | some (.sequence _ items) => .sequence (items.map fun i => inner i.value)
            | some (.mapping _ own _ taken) =>
                .mapping ((Cell.allEntries own taken).map fun e => (inner e.1, inner e.2))
            | some (.set _ items) => .set (items.map fun e => inner e.key)
            | some (.orderedMap _ own) =>
                .mapping (own.map fun e => (inner e.key, inner e.value))
            | some (.pairs items) =>
                .sequence (items.map fun e => .sequence [inner e.1, inner e.2])

end Value

/-- The data of a document.  On the way into it no cell is met twice, and there are at most two
steps from a cell to the next one. -/
def Document.datum (d : Document) : Datum :=
  d.root.datum d.cells (2 * d.cells.length + 3) []

/-- The documents of a text, or what is wrong with it. -/
def load (text : List Char) : Except Fault (List Document) :=
  documents (NodeStream.ofText text)

end Yaml
end YamlTidy
