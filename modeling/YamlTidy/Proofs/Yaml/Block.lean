import Mathlib.Data.Bool.AllAny
import YamlTidy.Proofs.Yaml.Tree
import YamlTidy.Yaml.Canonical

/-!
# Blocks

A *block* is a tree together with the places of its parts.  What an item holds stands beside its
dash or below it, in any column right of the dash; a leaf under a key stands beside the key or
below it, and lists and tables stand below their key, a list possibly in the column of the key.
At the end of each row there may be spaces and a carriage return.

Main definitions:

* `Block`, its text in a given column (`Block.text`) and the tree it says (`Block.tree`);
* `Tree.placed`, the block that the canonical layout makes of a tree;
* `Page`, a block in a column, and the text of pages with markers between them (`Page.texts`).
-/

namespace YamlTidy
namespace Yaml

/-! ## Blocks and their text -/

/-- Where something stands that belongs to a dash. -/
inductive Placing where
  /-- On the row of the dash, behind `gap + 1` spaces. -/
  | beside (gap : Nat)
  /-- On the next row, `shift + 1` columns right of the dash, behind which its row ends. -/
  | under (e : RowEnd) (shift : Nat)

mutual

/-- A tree with the places of its parts. -/
inductive Block where
  | leaf (x : Leaf) (e : RowEnd)
  | list (items : Block.Items)
  | table (entries : Block.Entries)

/-- Items with the places of what they hold. -/
inductive Block.Items where
  | last (place : Placing) (b : Block)
  | cons (place : Placing) (b : Block) (more : Block.Items)

/-- Entries with the places of what stands under their keys. -/
inductive Block.Entries where
  | last (key : Key) (v : Block.Member)
  | cons (key : Key) (v : Block.Member) (more : Block.Entries)

/-- What stands under a key. -/
inductive Block.Member where
  /-- A leaf on the row of the key, behind `gap + 1` spaces. -/
  | beside (gap : Nat) (x : Leaf) (e : RowEnd)
  /-- A block on the next row, `shift` columns right of the least column in which it can stand.
  Behind the colon of the key its row ends. -/
  | under (e : RowEnd) (shift : Nat) (b : Block)

end

namespace Placing

/-- The column of what belongs to a dash in column `c`. -/
def column (c : Nat) : Placing → Nat
  | .beside gap => c + gap + 2
  | .under _ shift => c + shift + 1

/-- What stands between a dash in column `c` and what belongs to it. -/
def lead (c : Nat) : Placing → List Char
  | .beside gap => List.replicate (gap + 1) ' '
  | .under e shift => e.chars ++ List.replicate (c + shift + 1) ' '

end Placing

namespace Block

/-- How far right of its key a block has to stand: only a list can stand in the same column. -/
def least : Block → Nat
  | list _ => 0
  | _ => 1

mutual

/-- The text of a block from where it begins, in column `c` of a row. -/
def text (c : Nat) : Block → List Char
  | leaf x e => x.chars ++ e.chars
  | list items => items.text c
  | table entries => entries.text c

/-- The text of items whose dashes stand in column `c`, from the first dash on. -/
def Items.text (c : Nat) : Items → List Char
  | .last place b => '-' :: (place.lead c ++ b.text (place.column c))
  | .cons place b more =>
      '-' :: (place.lead c ++ b.text (place.column c)) ++ (List.replicate c ' ' ++ more.text c)

/-- The text of entries whose keys stand in column `c`, from the first key on. -/
def Entries.text (c : Nat) : Entries → List Char
  | .last key v => key.chars ++ ':' :: v.text c
  | .cons key v more => key.chars ++ ':' :: v.text c ++ (List.replicate c ' ' ++ more.text c)

/-- The text behind the colon of a key in column `c`. -/
def Member.text (c : Nat) : Member → List Char
  | .beside gap x e => List.replicate (gap + 1) ' ' ++ (x.chars ++ e.chars)
  | .under e shift b =>
      e.chars ++ (List.replicate (c + b.least + shift) ' ' ++ b.text (c + b.least + shift))

end

mutual

/-- The tree that a block says. -/
def tree : Block → Tree
  | leaf x _ => .leaf x
  | list items => .list items.trees
  | table entries => .table entries.trees

/-- The trees that items say. -/
def Items.trees : Items → Tree.Items
  | .last _ b => .last b.tree
  | .cons _ b more => .cons b.tree more.trees

/-- The trees that entries say. -/
def Entries.trees : Entries → Tree.Entries
  | .last key v => .last key v.tree
  | .cons key v more => .cons key v.tree more.trees

/-- The tree under a key. -/
def Member.tree : Member → Tree
  | .beside _ x _ => .leaf x
  | .under _ _ b => b.tree

end

/-! ## The characters of a text -/

/-- A character that may stand in the text of a block. -/
def TextChar (c : Char) : Prop :=
  isInk c = true ∨ c = ' ' ∨ c = '\n' ∨ c = '\r'

instance : DecidablePred TextChar :=
  fun _ => inferInstanceAs (Decidable (_ ∨ _ ∨ _ ∨ _))

theorem textChar_of_inkOrSpace {s : List Char} (hs : ∀ c ∈ s, isInk c = true ∨ c = ' ') :
    ∀ x ∈ s, TextChar x :=
  fun x hx => (hs x hx).imp_right .inl

theorem textChar_leaf (x : Leaf) : ∀ c ∈ x.chars, TextChar c :=
  textChar_of_inkOrSpace x.inkOrSpace

theorem textChar_key (key : Key) : ∀ c ∈ key.chars, TextChar c :=
  textChar_of_inkOrSpace (mem_of_isPhrase key.fits)

theorem textChar_spaces (n : Nat) : ∀ x ∈ List.replicate n ' ', TextChar x :=
  fun _ hx => .inr (.inl (List.eq_of_mem_replicate hx))

theorem textChar_append {front back : List Char} (hfront : ∀ x ∈ front, TextChar x)
    (hback : ∀ x ∈ back, TextChar x) : ∀ x ∈ front ++ back, TextChar x := by
  intro x hx
  rcases List.mem_append.mp hx with hx | hx
  · exact hfront x hx
  · exact hback x hx

theorem textChar_cons {c : Char} {back : List Char} (hc : TextChar c)
    (hback : ∀ x ∈ back, TextChar x) : ∀ x ∈ c :: back, TextChar x := by
  intro x hx
  rcases List.mem_cons.mp hx with rfl | hx
  · exact hc
  · exact hback x hx

theorem textChar_lineFeed {s : List Char} (hs : ∀ x ∈ s, TextChar x) :
    ∀ x ∈ '\n' :: s, TextChar x :=
  textChar_cons (.inr (.inr (.inl rfl))) hs

theorem textChar_rowEnd (e : RowEnd) : ∀ x ∈ e.chars, TextChar x := by
  refine textChar_append (textChar_spaces _) ?_
  rw [RowEnd.lineBreak]
  split <;> exact List.all_iff_forall_prop.mp (by decide)

theorem textChar_lead (place : Placing) (c : Nat) : ∀ x ∈ place.lead c, TextChar x := by
  cases place with
  | beside gap => exact textChar_spaces _
  | under e shift => exact textChar_append (textChar_rowEnd e) (textChar_spaces _)

mutual

/-- There is nothing but visible characters, spaces and the breaks of rows in the text of a
block. -/
theorem textChar_text : ∀ (b : Block) (c : Nat), ∀ x ∈ b.text c, TextChar x
  | .leaf x e, _ => textChar_append (textChar_leaf x) (textChar_rowEnd e)
  | .list items, c => textChar_items items c
  | .table entries, c => textChar_entries entries c

theorem textChar_items : ∀ (items : Items) (c : Nat), ∀ x ∈ items.text c, TextChar x
  | .last place b, c =>
      textChar_cons (by decide) (textChar_append (textChar_lead place c) (textChar_text b _))
  | .cons place b more, c =>
      textChar_append
        (textChar_cons (by decide) (textChar_append (textChar_lead place c) (textChar_text b _)))
        (textChar_append (textChar_spaces c) (textChar_items more c))

theorem textChar_entries : ∀ (entries : Entries) (c : Nat), ∀ x ∈ entries.text c, TextChar x
  | .last key v, c =>
      textChar_append (textChar_key key)
        (textChar_cons (by decide) (textChar_member v c))
  | .cons key v more, c =>
      textChar_append
        (textChar_append (textChar_key key)
          (textChar_cons (by decide) (textChar_member v c)))
        (textChar_append (textChar_spaces c) (textChar_entries more c))

theorem textChar_member : ∀ (v : Member) (c : Nat), ∀ x ∈ v.text c, TextChar x
  | .beside _ x e, _ =>
      textChar_append (textChar_spaces _) (textChar_append (textChar_leaf x) (textChar_rowEnd e))
  | .under e _ b, _ =>
      textChar_append (textChar_rowEnd e)
        (textChar_append (textChar_spaces _) (textChar_text b _))

end

end Block

/-! ## The canonical places -/

/-- A leaf is not broken over rows: there is no width to be kept, or there are no spaces. -/
def Leaf.Unbroken (m : Measures) (x : Leaf) : Prop :=
  m.width = none ∨ x.Solid

namespace Tree

/-- No leaf of a tree is broken over rows. -/
def Unbroken (m : Measures) (t : Tree) : Prop :=
  m.width = none ∨ t.Solid

section Placed

variable (m : Measures)

/-- Where the canonical layout puts a tree that belongs to a dash in column `c`.  With one column
per level there is no room for a list beside its dash, and a phrase that is too long there is
moved. -/
def placing (c : Nat) : Tree → Placing
  | list _ => if m.step.toNat = 1 then .under {} 1 else .beside (2 * m.step.toNat - 2)
  | leaf x =>
      if x.isPlain && m.step.toNat = 1 &&
          m.exceeds ((c + 2 + x.chars.length : Nat) : Int) then .under { trailing := 1 } 0
      else .beside (m.step.toNat - 2)
  | table _ => .beside (m.step.toNat - 2)

/-- Whether a phrase under a key in column `c` is moved to a row of its own, which is too long
otherwise. -/
def isMoved (c : Nat) (key : Key) (x : Leaf) : Bool :=
  x.isPlain && m.exceeds ((c + key.chars.length + 2 + x.chars.length : Nat) : Int) &&
    decide (m.step.toNat < key.chars.length + 2)

mutual

/-- The block that the canonical layout makes of a tree in column `c`. -/
def placed (c : Nat) : Tree → Block
  | leaf x => .leaf x {}
  | list items => .list (items.placed c)
  | table entries => .table (entries.placed c)

/-- The items of the canonical layout, with their dashes in column `c`. -/
def Items.placed (c : Nat) : Items → Block.Items
  | .last t => .last (t.placing m c) (t.placed ((t.placing m c).column c))
  | .cons t more => .cons (t.placing m c) (t.placed ((t.placing m c).column c)) (more.placed c)

/-- The entries of the canonical layout, with their keys in column `c`. -/
def Entries.placed (c : Nat) : Entries → Block.Entries
  | .last key t => .last key (t.member c key)
  | .cons key t more => .cons key (t.member c key) (more.placed c)

/-- What the canonical layout puts under a key in column `c`. -/
def member (c : Nat) (key : Key) : Tree → Block.Member
  | leaf x =>
      if isMoved m c key x then .under { trailing := 1 } (m.step.toNat - 1) (.leaf x {})
      else .beside 0 x {}
  | list items => .under {} m.step.toNat (.list (items.placed (c + m.step.toNat)))
  | table entries => .under {} (m.step.toNat - 1) (.table (entries.placed (c + m.step.toNat)))

end

mutual

/-- The places do not matter for what is said. -/
theorem tree_placed : ∀ (t : Tree) (c : Nat), (t.placed m c).tree = t
  | leaf _, _ => rfl
  | list items, c => by rw [placed, Block.tree, trees_placed items c]
  | table entries, c => by rw [placed, Block.tree, trees_placedEntries entries c]

theorem trees_placed : ∀ (items : Items) (c : Nat), (items.placed m c).trees = items
  | .last t, c => by rw [Items.placed, Block.Items.trees, tree_placed t]
  | .cons t more, c => by
      rw [Items.placed, Block.Items.trees, tree_placed t, trees_placed more c]

theorem trees_placedEntries :
    ∀ (entries : Entries) (c : Nat), (entries.placed m c).trees = entries
  | .last key t, c => by rw [Entries.placed, Block.Entries.trees, tree_member t]
  | .cons key t more, c => by
      rw [Entries.placed, Block.Entries.trees, tree_member t, trees_placedEntries more c]

theorem tree_member : ∀ (t : Tree) (c : Nat) (key : Key), (t.member m c key).tree = t
  | leaf x, c, key => by
      rw [member]
      split <;> rfl
  | list items, c, key => by rw [member, Block.Member.tree, Block.tree, trees_placed items]
  | table entries, c, key => by
      rw [member, Block.Member.tree, Block.tree, trees_placedEntries entries]

end

end Placed

end Tree

/-! ## Pages -/

/-- A block in a column, as the only thing in a document. -/
structure Page where
  column : Nat
  block : Block

namespace Page

/-- The text of a page. -/
def text (p : Page) : List Char :=
  List.replicate p.column ' ' ++ p.block.text p.column

/-- The text of some pages: their texts with a marker between each two of them. -/
def texts (ps : List Page) : List Char :=
  documentStart.intercalate (ps.map Page.text)

/-- The trees of pages. -/
def trees (ps : List Page) : List Tree :=
  ps.map fun p => p.block.tree

theorem textChar_text (p : Page) : ∀ x ∈ p.text, Block.TextChar x :=
  Block.textChar_append (Block.textChar_spaces _) (p.block.textChar_text _)

theorem texts_single (p : Page) :
    texts [p] = List.replicate p.column ' ' ++ p.block.text p.column := by
  simp [texts, List.intercalate, text]

theorem texts_cons (p q : Page) (ps : List Page) :
    texts (p :: q :: ps) =
      List.replicate p.column ' ' ++
        (p.block.text p.column ++ '-' :: '-' :: '-' :: '\n' :: texts (q :: ps)) := by
  simp [texts, List.intercalate, text, documentStart]

theorem textChar_texts : ∀ ps : List Page, ∀ x ∈ texts ps, Block.TextChar x
  | [] => by simp [texts, List.intercalate]
  | [p] => by
      rw [texts_single]
      exact p.textChar_text
  | p :: q :: ps => by
      rw [texts_cons, ← List.append_assoc]
      exact Block.textChar_append p.textChar_text (Block.textChar_cons (by decide)
        (Block.textChar_cons (by decide) (Block.textChar_cons (by decide)
          (Block.textChar_lineFeed (textChar_texts (q :: ps))))))

end Page

namespace Tree

/-- The column in which the canonical layout writes a tree at the root.  Lists are moved to the left
margin afterwards. -/
def margin (m : Measures) : Tree → Nat
  | list _ => m.step.toNat
  | _ => 0

/-- The page that the canonical layout makes of a tree. -/
def page (m : Measures) (t : Tree) : Page where
  column := 0
  block := t.placed m (t.margin m)

theorem tree_page (m : Measures) (t : Tree) : (t.page m).block.tree = t :=
  t.tree_placed m _

end Tree
end Yaml
end YamlTidy
