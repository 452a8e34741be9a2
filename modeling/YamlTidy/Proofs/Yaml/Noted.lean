import YamlTidy.Proofs.Yaml.Tree
import YamlTidy.Yaml.Token

/-!
# Noted trees

A *noted tree* is a tree together with the comments that go with its parts: each leaf may have one
behind it, and in front of each item and of what stands under each key there may be others.  All
that is made of a block in between its tokens and its canonical text is said of the noted tree of
the block.

Main definitions:

* `Noted` and `Noted.tree`, what a noted tree says without its comments;
* `Noted.Plain`, which says that there are no comments, and `Noted.Headless`, which says that none
  in front of an item stands in the header of a block scalar;
* `Headed`, a noted tree with the comments in front of it.
-/

namespace YamlTidy
namespace Yaml

/-- The comments in front of something and the one behind it, if there are any. -/
def Comments.around (before : List Leading) (behind : Option Comment) : Option Comments :=
  if before.isEmpty && behind.isNone then none else some { behind, before }

mutual

/-- A tree with the comments in it. -/
inductive Noted where
  | leaf (x : Leaf) (behind : Option Comment)
  /-- A list.  It is `flush` if its dashes stand in the column of the key above it. -/
  | list (flush : Bool) (items : Noted.Items)
  | table (entries : Noted.Entries)

/-- Items with the comments in front of them. -/
inductive Noted.Items where
  | last (before : List Leading) (t : Noted)
  | cons (before : List Leading) (t : Noted) (more : Noted.Items)

/-- Entries with the comments in front of what stands under their keys. -/
inductive Noted.Entries where
  | last (key : Key) (before : List Leading) (t : Noted)
  | cons (key : Key) (before : List Leading) (t : Noted) (more : Noted.Entries)

end

/-- A noted tree with the comments in front of it, as the root of a document. -/
structure Headed where
  before : List Leading
  root : Noted

namespace Noted

/-- The comment behind a noted tree. -/
def behind : Noted → Option Comment
  | leaf _ behind => behind
  | _ => none

/-- The comments of a noted tree with some in front of it. -/
def comments (before : List Leading) (t : Noted) : Option Comments :=
  Comments.around before t.behind

mutual

/-- The tree without comments. -/
def tree : Noted → Tree
  | leaf x _ => .leaf x
  | list _ items => .list items.trees
  | table entries => .table entries.trees

/-- The items without comments. -/
def Items.trees : Items → Tree.Items
  | .last _ t => .last t.tree
  | .cons _ t more => .cons t.tree more.trees

/-- The entries without comments. -/
def Entries.trees : Entries → Tree.Entries
  | .last key _ t => .last key t.tree
  | .cons key _ t more => .cons key t.tree more.trees

end

mutual

/-- There are no comments in a noted tree. -/
def Plain : Noted → Prop
  | leaf _ behind => behind = none
  | list _ items => items.Plain
  | table entries => entries.Plain

/-- There are no comments in items or in front of them. -/
def Items.Plain : Items → Prop
  | .last before t => before = [] ∧ t.Plain
  | .cons before t more => before = [] ∧ t.Plain ∧ more.Plain

/-- There are no comments in entries. -/
def Entries.Plain : Entries → Prop
  | .last _ before t => before = [] ∧ t.Plain
  | .cons _ before t more => before = [] ∧ t.Plain ∧ more.Plain

end

mutual

/-- No header of a block scalar stands in front of an item. -/
def Headless : Noted → Prop
  | leaf _ _ => True
  | list _ items => items.Headless
  | table entries => entries.Headless

/-- No header of a block scalar stands in front of one of some items or in one of them. -/
def Items.Headless : Items → Prop
  | .last before t => before.any Leading.isHeader = false ∧ t.Headless
  | .cons before t more => before.any Leading.isHeader = false ∧ t.Headless ∧ more.Headless

/-- No header of a block scalar stands in front of an item in some entries. -/
def Entries.Headless : Entries → Prop
  | .last _ _ t => t.Headless
  | .cons _ _ t more => t.Headless ∧ more.Headless

end

mutual

theorem Plain.headless : ∀ {t : Noted}, t.Plain → t.Headless
  | leaf _ _, _ => trivial
  | list _ _, h => Items.Plain.headless h
  | table _, h => Entries.Plain.headless h

theorem Items.Plain.headless : ∀ {items : Items}, items.Plain → items.Headless
  | .last _ _, h => ⟨by rw [h.1]; rfl, h.2.headless⟩
  | .cons _ _ _, h => ⟨by rw [h.1]; rfl, h.2.1.headless, h.2.2.headless⟩

theorem Entries.Plain.headless : ∀ {entries : Entries}, entries.Plain → entries.Headless
  | .last _ _ _, h => h.2.headless
  | .cons _ _ _ _, h => ⟨h.2.1.headless, h.2.2.headless⟩

end

end Noted
end Yaml
end YamlTidy
