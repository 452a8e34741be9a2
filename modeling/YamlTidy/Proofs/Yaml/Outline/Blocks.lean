import YamlTidy.Proofs.Yaml.Block.Canonical
import YamlTidy.Proofs.Yaml.Outline

/-!
# Outlines as blocks

An outline that has entries is a block: a table of leaves, lists of leaves and tables.  So its
text is that of a page, and the canonical layout gives that page its regular shape
(`Outline.exists_block`, by induction on the outline).
-/

namespace YamlTidy
namespace Yaml

/-- Two columns for each level, in lines of any length. -/
def plainMeasures : Measures :=
  { step := 2, width := none }

/-- A list of leaves, each right behind its dash. -/
def Block.Items.ofLeaves : LeafRow → List LeafRow → Block.Items
  | x, [] => .last (.beside 0) (.leaf x.leaf x.rowEnd)
  | x, y :: rest => .cons (.beside 0) (.leaf x.leaf x.rowEnd) (ofLeaves y rest)

namespace Outline

/-- The rows of a list of leaves. -/
def itemText (column : Nat) (xs : List LeafRow) : List Char :=
  xs.flatMap fun x => row column (dashed x.leaf) ++ x.rowEnd.chars

theorem text_leaf (column : Nat) (key : Key) (value : LeafRow) (more : Outline) :
    text column (leaf key value more) =
      List.replicate column ' ' ++ key.chars ++
        ':' :: ' ' :: (value.leaf.chars ++ value.rowEnd.chars) ++ more.text column := by
  simp [text, rowsText, rows, row, valued]

theorem text_list (column : Nat) (key : Key) (e : RowEnd) (offset : Nat) (first : LeafRow)
    (others : List LeafRow) (more : Outline) :
    text column (list key e offset first others more) =
      List.replicate column ' ' ++ key.chars ++
        ':' :: (e.chars ++ itemText (column + offset) (first :: others)) ++
          more.text column := by
  simp [text, rowsText, rows, row, itemText, List.flatMap_map]

theorem text_inner (column : Nat) (key : Key) (e : RowEnd) (step : Nat) (body more : Outline) :
    text column (inner key e step body more) =
      List.replicate column ' ' ++ key.chars ++
        ':' :: (e.chars ++ body.text (column + step + 1)) ++ more.text column := by
  simp [text, rowsText, rows, row]

theorem itemText_eq (column : Nat) (x : LeafRow) (xs : List LeafRow) :
    itemText column (x :: xs) =
      List.replicate column ' ' ++ (Block.Items.ofLeaves x xs).text column := by
  induction xs generalizing x with
  | nil =>
      simp [itemText, row, dashed, Block.Items.ofLeaves, Block.Items.text, Placing.lead,
        Block.text]
  | cons y xs ih =>
      rw [Block.Items.ofLeaves, Block.Items.text, ← ih y]
      simp [itemText, row, dashed, Placing.lead, Block.text]

theorem trees_ofLeaves (x : LeafRow) (xs : List LeafRow) :
    (Block.Items.ofLeaves x xs).trees.data = (x :: xs).map (·.leaf.datum) := by
  induction xs generalizing x with
  | nil => rfl
  | cons y xs ih =>
      rw [Block.Items.ofLeaves, Block.Items.trees, Tree.Items.data, ih]
      rfl

/-- The canonical place of a leaf in a list is right behind its dash. -/
theorem placing_leaf (x : Leaf) (column : Nat) :
    (Tree.leaf x).placing plainMeasures column = .beside 0 := by
  have hstep : plainMeasures.step.toNat = 2 := rfl
  simp [Tree.placing, hstep]

/-- The canonical place of a leaf in a mapping is right behind its key. -/
theorem member_leaf (key : Key) (x : Leaf) (column : Nat) :
    (Tree.leaf x).member plainMeasures column key = .beside 0 x {} := by
  have hmoved : Tree.isMoved plainMeasures column key x = false := by
    rw [Tree.isMoved, Measures.exceeds_none rfl, Bool.and_false, Bool.false_and]
  rw [Tree.member, hmoved, if_neg Bool.false_ne_true]

/-- A list of leaves is in its canonical place already, but for what stands behind its rows. -/
theorem placed_ofLeaves (x : LeafRow) (xs : List LeafRow) (column : Nat) :
    (Block.Items.ofLeaves x xs).trees.placed plainMeasures column =
      .ofLeaves (bare x) (xs.map bare) := by
  induction xs generalizing x with
  | nil =>
      rw [Block.Items.ofLeaves, Block.Items.trees, Block.tree, Tree.Items.placed, placing_leaf]
      rfl
  | cons y xs ih =>
      rw [Block.Items.ofLeaves, Block.Items.trees, Block.tree, Tree.Items.placed,
        placing_leaf, ih]
      rfl

theorem proper_ofLeaves (x : LeafRow) (xs : List LeafRow) :
    (Block.Items.ofLeaves x xs).trees.Proper ∧
      (Block.Items.ofLeaves x xs).trees.height = 0 := by
  induction xs generalizing x with
  | nil => exact ⟨trivial, rfl⟩
  | cons y xs ih =>
      rw [Block.Items.ofLeaves, Block.Items.trees, Tree.Items.Proper, Tree.Items.height,
        (ih y).2]
      exact ⟨⟨trivial, (ih y).1⟩, rfl⟩

/-- An outline written as a block. -/
structure WrittenAs (o : Outline) (b : Block.Entries) : Prop where
  text : ∀ column, o.text column = List.replicate column ' ' ++ b.text column
  regular : ∀ column, o.regular.text column =
    List.replicate column ' ' ++ (b.trees.placed plainMeasures column).text column
  data : b.trees.data = o.entries
  keys : b.trees.keys = o.keys
  proper : b.trees.Proper
  height : b.trees.height = o.height

/-- The first entry of an outline and the others. -/
structure Begins (o : Outline) (key : Key) (v : Block.Member) (more : Outline) : Prop where
  text : ∀ column, o.text column =
    List.replicate column ' ' ++ key.chars ++ ':' :: v.text column ++ more.text column
  regular : ∀ column, o.regular.text column =
    List.replicate column ' ' ++ key.chars ++
      ':' :: (v.tree.member plainMeasures column key).text column ++ more.regular.text column
  data : o.entries = (key.datum, v.tree.datum) :: more.entries
  keys : o.keys = key.chars :: more.keys
  proper : v.tree.Proper
  height : o.height = max v.tree.height more.height

theorem Begins.writtenAs {o more : Outline} {key : Key} {v : Block.Member}
    (h : o.Begins key v more) (hkey : key.chars ∉ more.keys)
    (hmore : more = nil ∨ ∃ b, more.WrittenAs b) : ∃ b, o.WrittenAs b := by
  rcases hmore with rfl | ⟨b, hb⟩
  · refine ⟨.last key v, fun c => ?_, fun c => ?_, ?_, ?_, h.proper, ?_⟩
    · have hnil : nil.text c = [] := rfl
      rw [h.text, hnil, List.append_nil, List.append_assoc]
      rfl
    · have hnil : nil.regular.text c = [] := rfl
      rw [h.regular, hnil, List.append_nil, List.append_assoc]
      rfl
    · rw [h.data]
      rfl
    · rw [h.keys]
      rfl
    · rw [h.height]
      exact (Nat.max_zero _).symm
  · refine ⟨.cons key v b, fun c => ?_, fun c => ?_, ?_, ?_, ⟨?_, h.proper, hb.proper⟩, ?_⟩
    · rw [h.text, hb.text]
      simp [Block.Entries.text]
    · rw [h.regular, hb.regular]
      simp [Block.Entries.text, Block.Entries.trees, Tree.Entries.placed]
    · rw [h.data, ← hb.data]
      rfl
    · rw [h.keys, ← hb.keys]
      rfl
    · rw [hb.keys]
      exact hkey
    · rw [h.height, ← hb.height]
      rfl

theorem begins_leaf (key : Key) (value : LeafRow) (more : Outline) :
    (leaf key value more).Begins key (.beside 0 value.leaf value.rowEnd) more where
  text c := text_leaf c key value more
  regular c := by
    rw [Block.Member.tree, member_leaf]
    exact text_leaf c key (bare value) more.regular
  data := rfl
  keys := rfl
  proper := trivial
  height := (Nat.zero_max _).symm

theorem begins_list (key : Key) (e : RowEnd) (offset : Nat) (first : LeafRow)
    (others : List LeafRow) (more : Outline) :
    (list key e offset first others more).Begins key
      (.under e offset (.list (.ofLeaves first others))) more where
  text c := by
    rw [text_list, itemText_eq]
    rfl
  regular c := by
    have hregular : (list key e offset first others more).regular =
        list key {} 2 (bare first) (others.map bare) more.regular := rfl
    rw [hregular, text_list, itemText_eq, Block.Member.tree, Block.tree, Tree.member,
      placed_ofLeaves]
    rfl
  data := by
    rw [Block.Member.tree, Block.tree, Tree.datum, trees_ofLeaves]
    rfl
  keys := rfl
  proper := (proper_ofLeaves first others).1
  height := by
    rw [Block.Member.tree, Block.tree, Tree.height, (proper_ofLeaves first others).2]
    rfl

theorem begins_inner (key : Key) (e : RowEnd) (step : Nat) {body : Outline} {b : Block.Entries}
    (h : body.WrittenAs b) (more : Outline) :
    (inner key e step body more).Begins key (.under e step (.table b)) more where
  text c := by
    rw [text_inner, h.text, Nat.add_right_comm]
    rfl
  regular c := by
    have hregular : (inner key e step body more).regular =
        inner key {} 1 body.regular more.regular := rfl
    rw [hregular, text_inner, h.regular]
    rfl
  data := by
    rw [Block.Member.tree, Block.tree, Tree.datum, h.data]
    rfl
  keys := rfl
  proper := h.proper
  height := by
    rw [Block.Member.tree, Block.tree, Tree.height, h.height]
    rfl

/-- An outline that has entries is a block. -/
theorem exists_block {o : Outline} (h : o.Proper) (hne : o ≠ nil) : ∃ b, o.WrittenAs b := by
  have hmore {more : Outline} (ih : more ≠ nil → ∃ b, more.WrittenAs b) :
      more = nil ∨ ∃ b, more.WrittenAs b := by
    by_cases hnil : more = nil
    · exact .inl hnil
    · exact .inr (ih hnil)
  induction o with
  | nil => exact absurd rfl hne
  | leaf key value more ih => exact (begins_leaf key value more).writtenAs h.1 (hmore (ih h.2))
  | list key e offset first others more ih =>
      exact (begins_list key e offset first others more).writtenAs h.1 (hmore (ih h.2))
  | inner key e step body more ihBody ih =>
      obtain ⟨hkey, hbody, hproper, hrest⟩ := h
      obtain ⟨b, hb⟩ := ihBody hproper hbody
      exact (begins_inner key e step hb more).writtenAs hkey (hmore (ih hrest))

/-! ## Pages -/

/-- The text of an outline is that of a page whose tree says what the outline says, and the
canonical page of that tree is the regular shape of the outline. -/
theorem exists_page {o : Outline} (h : o.Proper) (hne : o ≠ nil) (column : Nat) :
    ∃ p : Page, o.text column = Page.texts [p] ∧ p.block.tree.Proper ∧
      p.block.tree.height = o.height + 1 ∧ p.block.tree.datum = o.datum ∧
      Page.texts [p.block.tree.page plainMeasures] = o.regular.text 0 := by
  obtain ⟨b, hb⟩ := exists_block h hne
  refine ⟨⟨column, .table b⟩, ?_, hb.proper, congrArg (· + 1) hb.height,
    congrArg Datum.mapping hb.data, ?_⟩
  · rw [Page.texts_single, hb.text]
    rfl
  · rw [Page.texts_single, hb.regular]
    rfl

/-- What the documents of an outline say.  Without entries there is none. -/
def data : Outline → List Datum
  | nil => []
  | o => [o.datum]

theorem dataOf_text {o : Outline} (h : o.Proper) (hheight : o.height < depthLimit)
    (column : Nat) :
    dataOf (o.text column) = some o.data := by
  by_cases hne : o = nil
  · subst hne
    change dataOf [] = some []
    decide +kernel
  · obtain ⟨p, htext, hproper, hdepth, hdatum, -⟩ := exists_page h hne column
    have hdata : o.data = [o.datum] := by
      cases o with
      | nil => exact absurd rfl hne
      | leaf | list | inner => rfl
    have hdepth' : p.block.tree.height ≤ depthLimit := by
      rw [hdepth]
      exact hheight
    rw [htext, Page.dataOf_texts (by simpa using hproper) (by simpa using hdepth'), hdata,
      ← hdatum]
    rfl

end Outline
end Yaml
end YamlTidy
