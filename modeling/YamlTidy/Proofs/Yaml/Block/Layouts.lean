import YamlTidy.Proofs.Yaml.Block.Values
import YamlTidy.Proofs.Yaml.Noted.Layouts

/-!
# The layouts of trees

The layout of a tree is that of a noted tree without comments (`Noted.layout_plain`, by induction on
the tree), so that it is what a document that holds the tree is laid out as.
-/

namespace YamlTidy
namespace Yaml

namespace Tree

mutual

/-- The layout of a tree whose nodes are numbered from `id` on. -/
def layout (id : Nat) : Tree → Layout
  | leaf x => leafLayout x
  | list items => .sequence { id := some id, tag := .ofCore .seq } false (items.layouts (id + 1))
  | table entries =>
      .mapping { id := some id, tag := .ofCore .map } false (entries.layouts (id + 1))

/-- The layouts of items. -/
def Items.layouts (id : Nat) : Items → List Layout
  | .last t => [t.layout id]
  | .cons t more => t.layout id :: more.layouts (id + t.count)

/-- The layouts of entries. -/
def Entries.layouts (id : Nat) : Entries → List (Layout × Layout)
  | .last key t => [(keyLayout key, t.layout (id + 1))]
  | .cons key t more =>
      (keyLayout key, t.layout (id + 1)) :: more.layouts (id + 1 + t.count)

end

end Tree

namespace Noted

theorem behind_plain {t : Noted} (h : t.Plain) : t.behind = none := by
  cases t with
  | leaf x behind => exact h
  | list flush items => rfl
  | table entries => rfl

theorem notes_plain {t : Noted} (h : t.Plain) : t.notes [] = {} := by
  rw [notes, behind_plain h]

mutual

/-- Without comments a noted tree is laid out like the tree. -/
theorem layout_plain : ∀ {t : Noted} (id : Nat), t.Plain → t.layout id {} = t.tree.layout id
  | leaf _ _, _, _ => rfl
  | list _ _, id, h => by
      rw [layout, layouts_items_plain (id + 1) h]
      rfl
  | table _, id, h => by
      rw [layout, layouts_entries_plain (id + 1) h]
      rfl

theorem layouts_items_plain : ∀ {items : Items} (id : Nat), items.Plain →
    items.layouts id = items.trees.layouts id
  | .last _ _, id, ⟨hbefore, ht⟩ => by
      rw [Items.layouts, hbefore, notes_plain ht, layout_plain id ht]
      rfl
  | .cons _ t _, id, ⟨hbefore, ht, hmore⟩ => by
      rw [Items.layouts, hbefore, notes_plain ht, layout_plain id ht,
        layouts_items_plain (id + t.tree.count) hmore]
      rfl

theorem layouts_entries_plain : ∀ {entries : Entries} (id : Nat), entries.Plain →
    entries.layouts id = entries.trees.layouts id
  | .last _ _ _, id, ⟨hbefore, ht⟩ => by
      rw [Entries.layouts, hbefore, notes_plain ht, layout_plain (id + 1) ht]
      rfl
  | .cons _ _ t _, id, ⟨hbefore, ht, hmore⟩ => by
      rw [Entries.layouts, hbefore, notes_plain ht, layout_plain (id + 1) ht,
        layouts_entries_plain (id + 1 + t.tree.count) hmore]
      rfl

end

end Noted

/-- The layout of a document that holds a tree. -/
theorem Tree.StoredIn.layout_eq {t : Tree} {d : Document} (h : t.StoredIn d) :
    DocumentLayout.ofDocument d = .ok { root := t.layout 0, anchors := [] } := by
  obtain ⟨root, hplain, rfl, hstored⟩ := h
  have hcomments : root.comments [] = none := by
    rw [Noted.comments, Noted.behind_plain hplain]
    rfl
  rw [hstored.layout_eq hplain.headless, Headed.layout, Headed.comments, hcomments,
    Noted.ownNotes_none, Noted.layout_plain 0 hplain]

end Yaml
end YamlTidy
