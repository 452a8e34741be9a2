import YamlTidy.Proofs.Yaml.Leaf

/-!
# Trees of scalars

A *tree* is what a document in block style says whose scalars stand on one row each: a leaf, a
list of trees, or a table, which has trees under keys.  No list and no table is empty.  How a tree
is written is said by the blocks of `Yaml.Block`.

Main definitions:

* `Tree`, with its `datum`;
* `Tree.Proper`, which says that no table has a key twice;
* `Tree.Solid`, which says that no leaf holds a space;
* `Tree.TablesApart`, which says that no table is an item of a list.
-/

namespace YamlTidy
namespace Yaml

mutual

/-- A leaf, a list of trees or a table of trees. -/
inductive Tree where
  | leaf (x : Leaf)
  | list (items : Tree.Items)
  | table (entries : Tree.Entries)

/-- The items of a list. -/
inductive Tree.Items where
  | last (t : Tree)
  | cons (t : Tree) (more : Tree.Items)

/-- The entries of a table. -/
inductive Tree.Entries where
  | last (key : Key) (t : Tree)
  | cons (key : Key) (t : Tree) (more : Tree.Entries)

end

namespace Tree

mutual

/-- What a tree says. -/
def datum : Tree → Datum
  | leaf x => x.datum
  | list items => .sequence items.data
  | table entries => .mapping entries.data

/-- What items say. -/
def Items.data : Items → List Datum
  | .last t => [t.datum]
  | .cons t more => t.datum :: more.data

/-- What entries say. -/
def Entries.data : Entries → List (Datum × Datum)
  | .last key t => [(key.datum, t.datum)]
  | .cons key t more => (key.datum, t.datum) :: more.data

end

/-- The keys of a table, those of inner tables aside. -/
def Entries.keys : Entries → List (List Char)
  | .last key _ => [key.chars]
  | .cons key _ more => key.chars :: more.keys

mutual

/-- No table has a key twice. -/
def Proper : Tree → Prop
  | leaf _ => True
  | list items => items.Proper
  | table entries => entries.Proper

/-- No table in items has a key twice. -/
def Items.Proper : Items → Prop
  | .last t => t.Proper
  | .cons t more => t.Proper ∧ more.Proper

/-- Neither entries nor a table in them has a key twice. -/
def Entries.Proper : Entries → Prop
  | .last _ t => t.Proper
  | .cons key t more => key.chars ∉ more.keys ∧ t.Proper ∧ more.Proper

end

mutual

/-- How deeply lists and tables are nested. -/
def height : Tree → Nat
  | leaf _ => 0
  | list items => items.height + 1
  | table entries => entries.height + 1

/-- How deeply lists and tables are nested in items. -/
def Items.height : Items → Nat
  | .last t => t.height
  | .cons t more => max t.height more.height

/-- How deeply lists and tables are nested in entries. -/
def Entries.height : Entries → Nat
  | .last _ t => t.height
  | .cons _ t more => max t.height more.height

end

mutual

/-- The number of leaves and collections in a tree. -/
def count : Tree → Nat
  | leaf _ => 1
  | list items => items.count + 1
  | table entries => entries.count + 1

/-- The number of leaves and collections in items. -/
def Items.count : Items → Nat
  | .last t => t.count
  | .cons t more => t.count + more.count

/-- The number of leaves and collections in entries, their keys included. -/
def Entries.count : Entries → Nat
  | .last _ t => t.count + 1
  | .cons _ t more => t.count + 1 + more.count

end

/-- Whether a tree is a leaf. -/
def isLeaf : Tree → Bool
  | leaf _ => true
  | _ => false

mutual

/-- No leaf holds a space. -/
def Solid : Tree → Prop
  | leaf x => x.Solid
  | list items => items.Solid
  | table entries => entries.Solid

/-- No leaf in items holds a space. -/
def Items.Solid : Items → Prop
  | .last t => t.Solid
  | .cons t more => t.Solid ∧ more.Solid

/-- No leaf in entries holds a space. -/
def Entries.Solid : Entries → Prop
  | .last _ t => t.Solid
  | .cons _ t more => t.Solid ∧ more.Solid

end

/-- Whether a tree is a table. -/
def isTable : Tree → Bool
  | table _ => true
  | _ => false

mutual

/-- No table is an item of a list. -/
def TablesApart : Tree → Prop
  | leaf _ => True
  | list items => items.TablesApart
  | table entries => entries.TablesApart

/-- None of the items is a table, nor are items of inner lists. -/
def Items.TablesApart : Items → Prop
  | .last t => t.isTable = false ∧ t.TablesApart
  | .cons t more => (t.isTable = false ∧ t.TablesApart) ∧ more.TablesApart

/-- No table in entries is an item of a list. -/
def Entries.TablesApart : Entries → Prop
  | .last _ t => t.TablesApart
  | .cons _ t more => t.TablesApart ∧ more.TablesApart

end

end Tree
end Yaml
end YamlTidy
