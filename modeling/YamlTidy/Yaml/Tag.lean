import YamlTidy.Yaml.Fault

/-!
# Tags

A tag has the form in which it was written, a handle and a suffix, and the full name it stands for.
The tags that the schema knows are `CoreTag`s.
-/

namespace YamlTidy
namespace Yaml

/-- The tags of the schema. -/
inductive CoreTag where
  | null
  | bool
  | int
  | float
  | binary
  | timestamp
  | omap
  | pairs
  | set
  | str
  | seq
  | map
  | merge
  | value
  deriving Repr, DecidableEq, Inhabited

/-- The last part of a core tag's name. -/
def CoreTag.word : CoreTag → String
  | .null => "null"
  | .bool => "bool"
  | .int => "int"
  | .float => "float"
  | .binary => "binary"
  | .timestamp => "timestamp"
  | .omap => "omap"
  | .pairs => "pairs"
  | .set => "set"
  | .str => "str"
  | .seq => "seq"
  | .map => "map"
  | .merge => "merge"
  | .value => "value"

/-- What the name of every core tag begins with. -/
def coreStem : List Char :=
  "tag:yaml.org,2002:".toList

/-- The full name of a core tag. -/
def CoreTag.name (t : CoreTag) : List Char :=
  coreStem ++ t.word.toList

/-- All core tags. -/
def CoreTag.all : List CoreTag :=
  [.null, .bool, .int, .float, .binary, .timestamp, .omap, .pairs, .set, .str, .seq,
    .map, .merge, .value]

/-- The core tag of a name. -/
def CoreTag.ofName? (name : List Char) : Option CoreTag :=
  CoreTag.all.find? fun t => t.name == name

/-- A tag as it was written and what it stands for. -/
structure Tag where
  handle : Option (List Char)
  suffix : List Char
  /-- The full name. -/
  name : List Char
  deriving Repr, DecidableEq, Inhabited

/-- A core tag that was not written. -/
def Tag.ofCore (t : CoreTag) : Tag :=
  ⟨none, t.name, t.name⟩

/-- The core tag that a tag stands for. -/
def Tag.core? (t : Tag) : Option CoreTag :=
  CoreTag.ofName? t.name

/-- Whether a tag's name is one of those kept for the schema. -/
def Tag.inSchema (t : Tag) : Bool :=
  coreStem.isPrefixOf t.name

end Yaml
end YamlTidy
