import YamlTidy.Yaml.Node
import YamlTidy.Yaml.Scalar.Integer
import YamlTidy.Yaml.Scalar.Real
import YamlTidy.Yaml.Scalar.Timestamp

/-!
# Documents as values

A document is a value together with the cells that hold its collections.  A collection stands in a
value as a reference to its cell, so that it can stand in several places and in itself.  Values keep
everything about their form that the canonical layout keeps: styles, anchors, tags and comments.
-/

namespace YamlTidy
namespace Yaml

/-- An anchor and the number of the node that has it. -/
structure Anchor where
  name : List Char
  node : Nat
  deriving Repr, DecidableEq, Inhabited

/-- A value in a document. -/
inductive Value where
  | null
  | bool (b : Bool) (anchor : Option Anchor)
  | int (n : WrittenInteger) (anchor : Option Anchor)
  | real (x : WrittenReal) (anchor : Option Anchor)
  /-- A text with its style, the places where it was folded and the comment in its header. -/
  | text (s : List Char) (style : ScalarStyle) (folds : List Nat) (header : Option Leading)
      (anchor : Option Anchor)
  | binary (bytes : List Nat)
  /-- What the cell with the given number holds. -/
  | cell (id : Nat)
  /-- A sequence as a key: its items as they were when the key was read. -/
  | keySequence (inFlow : Bool) (items : List Value)
  /-- A mapping as a key. -/
  | keyMapping (inFlow : Bool) (entries : List (Value × Value))
  /-- A sequence as an item of a set, or a pair. -/
  | tuple (items : List Value)
  deriving Inhabited

/-- The comments of an item of a sequence, of a key or of a value. -/
structure Notes where
  behind : Option Comment := none
  before : List Leading := []
  deriving Repr, DecidableEq, Inhabited

/-- Whether there are none. -/
def Notes.isEmpty (n : Notes) : Bool :=
  n.behind.isNone && n.before.isEmpty

/-- The comments that a collection keeps for itself. -/
structure OwnNotes where
  behind : Option Comment := none
  before : List Leading := []
  atEnd : List Leading := []
  deriving Repr, DecidableEq, Inhabited

/-- What every collection has. -/
structure Collection where
  /-- The tag, when it is none of the schema's. -/
  tag : Option Tag := none
  /-- Whether it was written in flow style; none when that was left open. -/
  inFlow : Option Bool := none
  anchor : Option (List Char) := none
  notes : Option OwnNotes := none
  deriving Repr, DecidableEq, Inhabited

/-- An item of a sequence. -/
structure Item where
  value : Value
  notes : Option Notes := none
  deriving Inhabited

/-- An entry of a mapping. -/
structure Entry where
  key : Value
  value : Value
  /-- The comments of the key and of the value, if either has any. -/
  notes : Option (Notes × Notes) := none
  deriving Inhabited

/-- The mappings that a mapping takes entries from. -/
structure Merge where
  /-- The number of entries in front of it. -/
  place : Nat
  /-- A mapping, or a sequence of mappings. -/
  source : Value
  deriving Inhabited

/-- What a cell holds. -/
inductive Cell where
  | timestamp (t : Timestamp)
  /-- A scalar whose tag is none of the schema's. -/
  | tagged (tag : Tag) (s : List Char) (style : ScalarStyle) (header : Option Leading)
      (anchor : Option (List Char))
  | sequence (c : Collection) (items : List Item)
  /-- A mapping with its own entries and those it takes from others. -/
  | mapping (c : Collection) (entries : List Entry) (merge : Option Merge)
      (taken : List (Value × Value))
  | set (c : Collection) (items : List Entry)
  | orderedMap (c : Collection) (entries : List Entry)
  | pairs (items : List (Value × Value))
  deriving Inhabited

/-- The cells of a document, the newest state of each in front. -/
abbrev Cells := List (Nat × Cell)

/-- A document. -/
structure Document where
  root : Value
  cells : Cells
  deriving Inhabited

namespace Cell

/-- The entries of a mapping in order: its own, then those it takes from others. -/
def allEntries (own : List Entry) (taken : List (Value × Value)) : List (Value × Value) :=
  own.map (fun e => (e.key, e.value)) ++ taken

end Cell
end Yaml
end YamlTidy
