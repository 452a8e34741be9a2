import YamlTidy.Proofs.Yaml.Noted.Values
import YamlTidy.Yaml.Layout.Arrange

/-!
# The layouts of noted trees

Nothing in a noted tree is met twice, so that its layout holds no references, and a leaf is laid out
as it is with its comments (`Arrange.value_noted`, by induction on the tree).
-/

namespace YamlTidy
namespace Yaml

/-- The layout of a leaf with comments. -/
def leafLayout (x : Leaf) (notes : LayoutNotes := {}) : Layout :=
  .scalar { tag := .ofCore x.core, notes } x.content (.ofScalar x.style)

/-- The layout of a key.  Nothing is laid out as an empty text. -/
def keyLayout (key : Key) : Layout :=
  .scalar { tag := .ofCore key.core } (if key.core = .null then [] else key.chars) .any

namespace Noted

/-- The comments of an item or of what stands under a key. -/
def notes (before : List Leading) (t : Noted) : LayoutNotes :=
  { behind := t.behind, before }

/-- The comments that a noted tree has by itself: a leaf has none. -/
def ownNotes (c : Option Comments) : Noted → LayoutNotes
  | leaf _ _ => {}
  | _ => Arrange.ownNotes (blockCollection c)

mutual

/-- The layout of a noted tree with comments whose nodes are numbered from `id` on. -/
def layout (id : Nat) (notes : LayoutNotes) : Noted → Layout
  | leaf x _ => leafLayout x notes
  | list _ items =>
      .sequence { id := some id, tag := .ofCore .seq, notes } false (items.layouts (id + 1))
  | table entries =>
      .mapping { id := some id, tag := .ofCore .map, notes } false (entries.layouts (id + 1))

/-- The layouts of items. -/
def Items.layouts (id : Nat) : Items → List Layout
  | .last before t => [t.layout id (t.notes before)]
  | .cons before t more => t.layout id (t.notes before) :: more.layouts (id + t.tree.count)

/-- The layouts of entries. -/
def Entries.layouts (id : Nat) : Entries → List (Layout × Layout)
  | .last key before t => [(keyLayout key, t.layout (id + 1) (t.notes before))]
  | .cons key before t more =>
      (keyLayout key, t.layout (id + 1) (t.notes before)) ::
        more.layouts (id + 1 + t.tree.count)

end

theorem ownNotes_none (t : Noted) : t.ownNotes none = {} := by
  cases t <;> rfl

/-- The comments of an item are those that are handed to it, or there are none. -/
theorem notes_of_comments (t : Noted) (before : List Leading) :
    (t.comments before = none ∧ t.notes before = {}) ∨
      t.comments before = some { behind := t.behind, before } := by
  rw [comments, Comments.around, notes]
  split
  · next h =>
      simp only [Bool.and_eq_true, List.isEmpty_iff, Option.isNone_iff_eq_none] at h
      rw [h.1, h.2]
      exact .inl ⟨rfl, rfl⟩
  · exact .inr rfl

end Noted

namespace Arrange

variable {cells : Cells} {s s' : ArrangeState}

/-- A phrase that is not the word for nothing is laid out as it is. -/
theorem value_standsFor (cells : Cells) (n : Nat) (root : Bool) {text : List Char}
    {core : CoreTag} {v : Value} (h : StandsFor text core v) (hnull : core ≠ .null) :
    value cells (n + 1) root v s = .ok (.scalar { tag := .ofCore core } text .any, s) := by
  cases h with
  | text _ =>
      rw [value]
      simp only [headerNotes, Option.toList_none, ite_self]
      rfl
  | null _ => exact absurd rfl hnull
  | truth b h =>
      rw [h]
      rfl
  | integer _ _ hwritten =>
      rw [value]
      simp only [hwritten]
      rfl
  | real _ _ hwritten =>
      rw [value]
      simp only [hwritten]
      rfl

theorem value_leaf (cells : Cells) (n : Nat) (root : Bool) :
    ∀ x : Leaf, value cells (n + 1) root x.value s = .ok (leafLayout x, s)
  | .plain p hnull => value_standsFor cells n root p.stands hnull
  | .quoted q => by
      obtain ⟨double, content, hfits⟩ := q
      rw [Leaf.value, value]
      simp only [headerNotes, Option.toList_none, ite_self]
      cases double <;> rfl

theorem value_key (cells : Cells) (n : Nat) (key : Key) :
    value cells (n + 1) false key.value s = .ok (keyLayout key, s) := by
  rw [keyLayout]
  split
  · next hnull =>
      have h := key.standsFor
      rw [hnull] at h ⊢
      generalize key.value = v at h
      cases h with
      | null _ => rfl
  · next hnull => exact value_standsFor cells n false key.stands hnull

/-- The layout of an item as a step of its own. -/
def item (cells : Cells) (n : Nat) (i : Item) : Arrange Layout := do
  withItemNotes cells i (← value cells n false i.value)

/-- The layout of a key as a step of its own. -/
def entryKey (cells : Cells) (n : Nat) (e : Entry) : Arrange Layout := do
  pure (withKeyNotes e.notes (← value cells n false e.key))

/-- The layout of a value in a mapping as a step of its own. -/
def entryValue (cells : Cells) (n : Nat) (e : Entry) : Arrange Layout := do
  pure (withValueNotes e.notes (← value cells n false e.value))

variable {t : Noted} {id n : Nat} {before : List Leading}

/-- A scalar takes comments. -/
theorem withItemNotes_standsFor {text : List Char} {core : CoreTag} {v : Value}
    (h : StandsFor text core v) (notes : Notes) (l : Layout) :
    withItemNotes cells { value := v, notes := some notes } l =
      pure (l.withNotes fun _ => { behind := notes.behind, before := notes.before }) := by
  cases h <;> rfl

theorem withItemNotes_leaf (notes : Notes) (l : Layout) :
    ∀ x : Leaf, withItemNotes cells { value := x.value, notes := some notes } l =
      pure (l.withNotes fun _ => { behind := notes.behind, before := notes.before })
  | .plain p _ => withItemNotes_standsFor p.stands notes l
  | .quoted _ => rfl

/-- An item that keeps no comments is laid out with its own. -/
theorem item_ok (hheld : t.HeldIn cells id none)
    (h : value cells n false (t.value id) s = .ok (t.layout id (t.ownNotes none), s')) :
    item cells n (t.item id before) s = .ok (t.layout id (t.notes before), s') := by
  rw [Noted.ownNotes_none] at h
  rw [item, Noted.item, bind_ok h]
  rcases t.notes_of_comments before with ⟨hnone, hnotes⟩ | hsome
  · rw [hnone, hnotes]
    rfl
  · rw [hsome]
    cases t with
    | leaf x behind =>
        rw [Option.map_some, Noted.value, withItemNotes_leaf]
        rfl
    | list flush items =>
        simp only [withItemNotes, Option.map_some, Noted.value, hheld.1]
        rfl
    | table entries =>
        simp only [withItemNotes, Option.map_some, Noted.value, hheld.1]
        rfl

theorem entryKey_ok (n : Nat) (key : Key) :
    entryKey cells (n + 1) (t.entry id key before) s = .ok (keyLayout key, s) := by
  rw [entryKey, Noted.entry, bind_ok (value_key cells n key)]
  cases t.comments before <;> rfl

/-- A value in a table is laid out with its comments. -/
theorem entryValue_ok {key : Key}
    (h : value cells n false (t.value (id + 1)) s =
      .ok (t.layout (id + 1) (t.ownNotes (t.comments before)), s')) :
    entryValue cells n (t.entry id key before) s =
      .ok (t.layout (id + 1) (t.notes before), s') := by
  rw [entryValue, Noted.entry, bind_ok h]
  rcases t.notes_of_comments before with ⟨hnone, hnotes⟩ | hsome
  · rw [hnone, hnotes, Noted.ownNotes_none]
    rfl
  · rw [hsome]
    cases t <;> rfl

theorem each_cons {α : Type} {f : α → Arrange Layout} {x : α} {more : List α} {l : Layout}
    {rest : List Layout} {s₁ : ArrangeState} (hx : f x s = .ok (l, s₁))
    (hrest : each f more s₁ = .ok (rest, s')) : each f (x :: more) s = .ok (l :: rest, s') := by
  rw [each, bind_ok hx, bind_ok hrest]
  rfl

theorem eachPair_cons {α : Type} {f g : α → Arrange Layout} {x : α} {more : List α}
    {k v : Layout} {rest : List (Layout × Layout)} {s₁ s₂ : ArrangeState}
    (hk : f x s = .ok (k, s₁)) (hv : g x s₁ = .ok (v, s₂))
    (hrest : eachPair f g more s₂ = .ok (rest, s')) :
    eachPair f g (x :: more) s = .ok ((k, v) :: rest, s') := by
  rw [eachPair, bind_ok hk, bind_ok hv, bind_ok hrest]
  rfl

/-- A part that was not met yet. -/
theorem part_new {id : Nat} {anchor : Option (List Char)} {make : Arrange Layout} {l : Layout}
    (hid : id ∉ s.met) (hmake : make { s with met := id :: s.met } = .ok (l, s')) :
    part id anchor make s = .ok (l, s') := by
  have hnew : s.met.contains id = false := by
    simpa using hid
  rw [part, bind_to s s rfl, hnew, if_neg Bool.false_ne_true,
    bind_to () { s with met := id :: s.met } rfl, hmake]

theorem isHeaded_item (t : Noted) (id : Nat) {before : List Leading}
    (h : before.any Leading.isHeader = false) : (t.item id before).isHeaded = false := by
  rcases t.notes_of_comments before with ⟨hnone, -⟩ | hsome
  · rw [Noted.item, hnone]
    rfl
  · rw [Noted.item, hsome]
    exact h

theorem isHeaded_entry (t : Noted) (id : Nat) (key : Key) (before : List Leading) :
    (t.entry id key before).isHeaded = false := by
  rw [Noted.entry]
  cases t.comments before <;> rfl

theorem isHeaded_items : ∀ {items : Noted.Items} (id : Nat), items.Headless →
    (items.values id).any Item.isHeaded = false
  | .last _ t, id, h => by
      rw [Noted.Items.values, List.any_cons, isHeaded_item t id h.1]
      rfl
  | .cons _ t more, id, h => by
      rw [Noted.Items.values, List.any_cons, isHeaded_item t id h.1,
        isHeaded_items (id + t.tree.count) h.2.2]
      rfl

theorem isHeaded_entries : ∀ (entries : Noted.Entries) (id : Nat),
    (entries.values id).any Entry.isHeaded = false
  | .last key before t, id => by
      rw [Noted.Entries.values, List.any_cons, isHeaded_entry]
      rfl
  | .cons key before t more, id => by
      rw [Noted.Entries.values, List.any_cons, isHeaded_entry, isHeaded_entries more]
      rfl

theorem value_list {root : Bool} {c : Option Comments} {items : List Item} {ls : List Layout}
    (hcell : cells.lookup id = some (.sequence (blockCollection c) items))
    (hheadless : items.any Item.isHeaded = false) (hid : id ∉ s.met)
    (hls : each (item cells n) items { s with met := id :: s.met } = .ok (ls, s')) :
    value cells (n + 1) root (.cell id) s =
      .ok (.sequence
        { id := some id, tag := .ofCore .seq, notes := ownNotes (blockCollection c) }
        false ls, s') := by
  rw [value, cell, hcell, Option.map_some, Cell.placed, hheadless]
  refine part_new hid ?_
  change ((each (item cells n) items) >>= _) _ = _
  rw [bind_ok hls]
  rfl

theorem value_mapping {root : Bool} {c : Option Comments} {entries : List Entry}
    {ls : List (Layout × Layout)}
    (hcell : cells.lookup id = some (.mapping (blockCollection c) entries none []))
    (hheadless : entries.any Entry.isHeaded = false) (hid : id ∉ s.met)
    (hls : eachPair (entryKey cells n) (entryValue cells n) entries
      { s with met := id :: s.met } = .ok (ls, s')) :
    value cells (n + 1) root (.cell id) s =
      .ok (.mapping { id := some id, tag := .ofCore .map, notes := ownNotes (blockCollection c) }
        false ls, s') := by
  rw [value, cell, hcell, Option.map_some, Cell.placed, hheadless]
  refine part_new hid ?_
  change ((eachPair (entryKey cells n) (entryValue cells n) entries) >>= _) _ = _
  rw [bind_ok hls]
  rfl

/-- From one state to the other no name was made up, and what was met has numbers up to `stop`. -/
structure Meets (stop : Nat) (s s' : ArrangeState) : Prop where
  anchors : s'.anchors = s.anchors
  met : ∀ i ∈ s'.met, i < stop

theorem Meets.trans {middle stop : Nat} {s'' : ArrangeState} (h : Meets middle s s')
    (h' : Meets stop s' s'') : Meets stop s s'' :=
  ⟨h'.anchors.trans h.anchors, h'.met⟩

theorem Meets.widen {stop stop' : Nat} (h : Meets stop s s') (hle : stop ≤ stop') :
    Meets stop' s s' :=
  ⟨h.anchors, fun i hi => (h.met i hi).trans_le hle⟩

/-- A collection is met whose number is greater than those before. -/
theorem meets_collection {id : Nat} (hmet : ∀ i ∈ s.met, i < id) :
    id ∉ s.met ∧ Meets (id + 1) s { s with met := id :: s.met } := by
  refine ⟨fun hid => Nat.lt_irrefl id (hmet id hid), rfl, fun i hi => ?_⟩
  rcases List.mem_cons.mp hi with rfl | hi
  · exact Nat.lt_succ_self i
  · exact Nat.lt_succ_of_lt (hmet i hi)

-- Nothing is met twice, since the numbers of what was met are smaller.
mutual

/-- A noted tree is laid out. -/
theorem value_noted : ∀ (root : Bool) {t : Noted} {id n : Nat} {c : Option Comments}
    {s : ArrangeState}, t.HeldIn cells id c → t.Headless → t.tree.height < n →
      (∀ i ∈ s.met, i < id) →
      ∃ s', value cells n root (t.value id) s = .ok (t.layout id (t.ownNotes c), s') ∧
        Meets (id + t.tree.count) s s'
  | root, .leaf x _, id, n + 1, _, s, _, _, _, hmet =>
      ⟨s, value_leaf cells n root x, rfl, fun i hi => Nat.lt_succ_of_lt (hmet i hi)⟩
  | _, .list _ items, id, n + 1, _, s, h, hheadless, hn, hmet => by
      obtain ⟨hid, hmeets⟩ := meets_collection hmet
      obtain ⟨s', hitems, hmeets'⟩ :=
        each_items h.2 hheadless (Nat.lt_of_succ_lt_succ hn) hmeets.met
      exact ⟨s', value_list h.1 (isHeaded_items _ hheadless) hid hitems,
        (hmeets.trans hmeets').widen (Nat.add_right_comm id 1 items.trees.count).le⟩
  | _, .table entries, id, n + 1, _, s, h, hheadless, hn, hmet => by
      obtain ⟨hid, hmeets⟩ := meets_collection hmet
      obtain ⟨s', hentries, hmeets'⟩ :=
        eachPair_entries h.2 hheadless (Nat.lt_of_succ_lt_succ hn) hmeets.met
      exact ⟨s', value_mapping h.1 (isHeaded_entries _ _) hid hentries,
        (hmeets.trans hmeets').widen (Nat.add_right_comm id 1 entries.trees.count).le⟩

theorem each_items : ∀ {items : Noted.Items} {id n : Nat} {s : ArrangeState},
    items.HeldIn cells id → items.Headless → items.trees.height < n →
      (∀ i ∈ s.met, i < id) →
      ∃ s', each (item cells n) (items.values id) s = .ok (items.layouts id, s') ∧
        Meets (id + items.trees.count) s s'
  | .last _ _, _, _, _, h, hheadless, hn, hmet => by
      obtain ⟨s', hvalue, hmeets⟩ := value_noted false h hheadless.2 hn hmet
      exact ⟨s', each_cons (item_ok h hvalue) rfl, hmeets⟩
  | .cons _ t more, id, _, _, h, hheadless, hn, hmet => by
      have hheights := Nat.max_lt.mp hn
      obtain ⟨s₁, hvalue, hmeets⟩ := value_noted false h.1 hheadless.2.1 hheights.1 hmet
      obtain ⟨s', hrest, hmeets'⟩ := each_items h.2 hheadless.2.2 hheights.2 hmeets.met
      exact ⟨s', each_cons (item_ok h.1 hvalue) hrest,
        (hmeets.trans hmeets').widen (Nat.add_assoc id t.tree.count more.trees.count).le⟩

theorem eachPair_entries : ∀ {entries : Noted.Entries} {id n : Nat} {s : ArrangeState},
    entries.HeldIn cells id → entries.Headless → entries.trees.height < n →
      (∀ i ∈ s.met, i < id) →
      ∃ s', eachPair (entryKey cells n) (entryValue cells n) (entries.values id) s =
          .ok (entries.layouts id, s') ∧ Meets (id + entries.trees.count) s s'
  | .last key before t, id, n + 1, _, h, hheadless, hn, hmet => by
      obtain ⟨s', hvalue, hmeets⟩ := value_noted false (t := t) h hheadless hn
        fun i hi => Nat.lt_succ_of_lt (hmet i hi)
      exact ⟨s', eachPair_cons (entryKey_ok n key) (entryValue_ok hvalue) rfl,
        hmeets.widen (Nat.add_right_comm id 1 t.tree.count).le⟩
  | .cons key before t more, id, n + 1, _, h, hheadless, hn, hmet => by
      have hheights := Nat.max_lt.mp hn
      obtain ⟨s₁, hvalue, hmeets⟩ := value_noted false h.1 hheadless.1 hheights.1
        fun i hi => Nat.lt_succ_of_lt (hmet i hi)
      obtain ⟨s', hrest, hmeets'⟩ := eachPair_entries h.2 hheadless.2 hheights.2 hmeets.met
      refine ⟨s', eachPair_cons (entryKey_ok n key) (entryValue_ok hvalue) hrest,
        (hmeets.trans hmeets').widen ?_⟩
      rw [Noted.Entries.trees, Tree.Entries.count]
      omega

end

end Arrange

/-- The layout of a noted tree with comments in front of it. -/
def Headed.layout (r : Headed) : Layout :=
  r.root.layout 0 (r.root.ownNotes r.comments)

/-- The layout of a document that holds a noted tree. -/
theorem Headed.StoredIn.layout_eq {r : Headed} {d : Document} (h : r.StoredIn d)
    (hheadless : r.root.Headless) :
    DocumentLayout.ofDocument d = .ok { root := r.layout, anchors := [] } := by
  have hheight := h.height_le
  obtain ⟨s', hvalue, hmeets⟩ := Arrange.value_noted true (n := 2 * d.cells.length + 3)
    (s := {}) h.held hheadless (by omega) (by simp)
  rw [DocumentLayout.ofDocument, h.root, hvalue, Except.map]
  simp only [hmeets.anchors]
  rfl

end Yaml
end YamlTidy
