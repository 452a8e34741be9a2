import YamlTidy.Yaml.Schema
import YamlTidy.Yaml.Token

/-!
# Nodes

A document is a tree of nodes as they were written: scalars, sequences, mappings, and aliases that
refer to a node by its number.  Each node has its tag, resolved when none was written, its anchor
and the comments that belong to it.
-/

namespace YamlTidy
namespace Yaml

/-- What every node has. -/
structure NodeInfo where
  /-- The number of the node in its document. -/
  id : Nat
  tag : Tag
  anchor : Option (List Char) := none
  start : Mark
  comments : Option Comments := none
  deriving Repr, DecidableEq, Inhabited

/-- A part of a document. -/
inductive Node where
  | scalar (info : NodeInfo) (text : List Char) (style : ScalarStyle) (folds : List Nat)
  | sequence (info : NodeInfo) (inFlow : Bool) (items : List Node)
  | mapping (info : NodeInfo) (inFlow : Bool) (entries : List (Node × Node))
  /-- Another place of the node with the given number. -/
  | reference (target : Nat)
  deriving Inhabited

namespace Node

/-- The word for a kind of node. -/
def kind : Node → String
  | scalar .. => "scalar"
  | sequence .. => "sequence"
  | mapping .. => "mapping"
  | reference _ => "alias"

end Node

/-- A document with its nodes and the version it is written in. -/
structure NodeDocument where
  root : Node
  version : Nat × Nat

/-- The documents that can be had from a text, and what ends them when the text is at fault. -/
inductive NodeStream where
  | done
  | broken (fault : Fault)
  | more (document : NodeDocument) (rest : NodeStream)

end Yaml
end YamlTidy
