import YamlTidy.Proofs.Yaml.Data
import YamlTidy.Proofs.Yaml.Noted.Nodes
import Mathlib.Data.List.Forall2

/-!
# The values of noted trees

The leaves of a noted tree become scalars and its collections cells, numbered like their nodes:
`Noted.HeldIn` says what is in these cells.  The comments of an item go to the list and those of a
value to the table, and a collection keeps its own unless it is an item.  Below a table everything
is filled at once (`Build.build_deep`, by induction on the tree).  The lists at the root are
filled in rounds, each of which leaves the collections in their items to the next one
(`Build.fill_opened`); the rounds come to an end because the trees that are left are less and less
nested (`Build.rounds_opened`).  What is built says what the tree says (`Noted.datum_value`).
-/

namespace YamlTidy
namespace Yaml

/-- A collection in block style that keeps comments. -/
def blockCollection (c : Option Comments) : Collection :=
  { inFlow := some false, notes := c.map Build.ownNotes }

namespace Noted

/-- The tag of a noted tree. -/
def core : Noted → CoreTag
  | leaf x _ => x.core
  | list _ _ => .seq
  | table _ => .map

/-- The value of a noted tree whose root has the given number. -/
def value (id : Nat) : Noted → Value
  | leaf x _ => x.value
  | _ => .cell id

/-- The item that a noted tree with comments in front of it is. -/
def item (id : Nat) (before : List Leading) (t : Noted) : Item :=
  { value := t.value id, notes := (t.comments before).map Build.notes }

/-- The entry that a noted tree with comments in front of it is under a key. -/
def entry (id : Nat) (key : Key) (before : List Leading) (t : Noted) : Entry :=
  { key := key.value, value := t.value (id + 1),
    notes := Build.entryNotes none (t.comments before) }

/-- The items of a list whose nodes are numbered from `id` on. -/
def Items.values (id : Nat) : Items → List Item
  | .last before t => [t.item id before]
  | .cons before t more => t.item id before :: more.values (id + t.tree.count)

/-- The entries of a table whose nodes are numbered from `id` on. -/
def Entries.values (id : Nat) : Entries → List Entry
  | .last key before t => [t.entry id key before]
  | .cons key before t more => t.entry id key before :: more.values (id + 1 + t.tree.count)

theorem Entries.values_cons (entries : Entries) (id : Nat) :
    ∃ e more, entries.values id = e :: more := by
  cases entries with
  | last key before t => exact ⟨_, _, rfl⟩
  | cons key before t more => exact ⟨_, _, rfl⟩

mutual

/-- The cells hold the collections of a noted tree whose nodes are numbered from `id` on.  The
outermost one keeps the given comments. -/
def HeldIn (cells : Cells) (id : Nat) (c : Option Comments) : Noted → Prop
  | leaf _ _ => True
  | list _ items =>
      cells.lookup id = some (.sequence (blockCollection c) (items.values (id + 1))) ∧
        items.HeldIn cells (id + 1)
  | table entries =>
      cells.lookup id = some (.mapping (blockCollection c) (entries.values (id + 1)) none []) ∧
        entries.HeldIn cells (id + 1)

/-- The cells hold the collections of items, which keep no comments. -/
def Items.HeldIn (cells : Cells) (id : Nat) : Items → Prop
  | .last _ t => t.HeldIn cells id none
  | .cons _ t more => t.HeldIn cells id none ∧ more.HeldIn cells (id + t.tree.count)

/-- The cells hold the collections of entries. -/
def Entries.HeldIn (cells : Cells) (id : Nat) : Entries → Prop
  | .last _ before t => t.HeldIn cells (id + 1) (t.comments before)
  | .cons _ before t more =>
      t.HeldIn cells (id + 1) (t.comments before) ∧ more.HeldIn cells (id + 1 + t.tree.count)

end

end Noted

/-- The numbers from `first` up to `stop`. -/
def Span (first stop j : Nat) : Prop :=
  first ≤ j ∧ j < stop

theorem Span.widen {first stop first' stop' j : Nat} (h : Span first stop j)
    (hfirst : first' ≤ first) (hstop : stop ≤ stop') : Span first' stop' j :=
  ⟨hfirst.trans h.1, h.2.trans_le hstop⟩

namespace Tree

theorem count_pos (t : Tree) : 0 < t.count := by
  cases t <;> rw [count] <;> omega

mutual

theorem height_lt_count : ∀ t : Tree, t.height < t.count
  | leaf _ => Nat.one_pos
  | list items => Nat.succ_lt_succ_iff.mpr (height_items_lt_count items)
  | table entries => Nat.succ_lt_succ_iff.mpr (height_entries_lt_count entries)

theorem height_items_lt_count : ∀ items : Items, items.height < items.count
  | .last t => height_lt_count t
  | .cons t more => by
      have ht := height_lt_count t
      have hmore := height_items_lt_count more
      rw [Items.height, Items.count]
      omega

theorem height_entries_lt_count : ∀ entries : Entries, entries.height < entries.count
  | .last _ t => Nat.lt_succ_of_lt (height_lt_count t)
  | .cons _ t more => by
      have ht := height_lt_count t
      have hmore := height_entries_lt_count more
      rw [Entries.height, Entries.count]
      omega

end

end Tree

namespace Noted

mutual

/-- Cells of other nodes do not matter. -/
theorem HeldIn.congr {cells cells' : Cells} : ∀ {t : Noted} {id : Nat} {c : Option Comments},
    t.HeldIn cells id c →
      (∀ j, Span id (id + t.tree.count) j → cells'.lookup j = cells.lookup j) →
        t.HeldIn cells' id c
  | leaf _ _, _, _, _, _ => trivial
  | list _ items, id, _, h, hsame =>
      ⟨(hsame id ⟨Nat.le_refl id, Nat.lt_add_of_pos_right (Tree.count_pos _)⟩).trans h.1,
        heldIn_items_congr h.2 fun j hj =>
          hsame j (hj.widen (by omega) (by rw [tree, Tree.count]; omega))⟩
  | table entries, id, _, h, hsame =>
      ⟨(hsame id ⟨Nat.le_refl id, Nat.lt_add_of_pos_right (Tree.count_pos _)⟩).trans h.1,
        heldIn_entries_congr h.2 fun j hj =>
          hsame j (hj.widen (by omega) (by rw [tree, Tree.count]; omega))⟩

theorem heldIn_items_congr {cells cells' : Cells} : ∀ {items : Items} {id : Nat},
    items.HeldIn cells id →
      (∀ j, Span id (id + items.trees.count) j → cells'.lookup j = cells.lookup j) →
        items.HeldIn cells' id
  | .last _ _, _, h, hsame => HeldIn.congr h hsame
  | .cons _ t more, id, h, hsame =>
      ⟨HeldIn.congr h.1 fun j hj =>
          hsame j (hj.widen (by omega) (by rw [Items.trees, Tree.Items.count]; omega)),
        heldIn_items_congr h.2 fun j hj =>
          hsame j (hj.widen (by omega) (by rw [Items.trees, Tree.Items.count]; omega))⟩

theorem heldIn_entries_congr {cells cells' : Cells} : ∀ {entries : Entries} {id : Nat},
    entries.HeldIn cells id →
      (∀ j, Span id (id + entries.trees.count) j → cells'.lookup j = cells.lookup j) →
        entries.HeldIn cells' id
  | .last _ before t, id, h, hsame =>
      HeldIn.congr (t := t) h fun j hj =>
        hsame j (hj.widen (by omega) (by rw [Entries.trees, Tree.Entries.count]; omega))
  | .cons _ _ t more, id, h, hsame =>
      ⟨HeldIn.congr h.1 fun j hj =>
          hsame j (hj.widen (by omega) (by rw [Entries.trees, Tree.Entries.count]; omega)),
        heldIn_entries_congr h.2 fun j hj =>
          hsame j (hj.widen (by omega) (by rw [Entries.trees, Tree.Entries.count]; omega))⟩

end

mutual

/-- There is a node for each leaf and each collection. -/
theorem IsNode.size_eq : ∀ {t : Noted} {id : Nat} {c : Option Comments} {n : Node},
    t.IsNode id c n → n.size = t.tree.count
  | leaf _ _, _, _, _, ⟨_, hn⟩ => by
      rw [hn]
      rfl
  | list _ items, id, _, _, ⟨_, nodes, hn, hnodes⟩ => by
      rw [hn, Node.size, size_items hnodes]
      rfl
  | table entries, id, _, _, ⟨_, pairs, hn, hpairs⟩ => by
      rw [hn, Node.size, size_entries hpairs]
      rfl

theorem size_items : ∀ {items : Items} {id : Nat} {nodes : List Node}, items.AreNodes id nodes →
    Node.sizeItems nodes = items.trees.count
  | .last _ t, _, _, ⟨n, hnodes, hn⟩ => by
      rw [hnodes, Node.sizeItems, hn.size_eq]
      rfl
  | .cons _ t more, _, _, ⟨n, rest, hnodes, hn, hrest⟩ => by
      rw [hnodes, Node.sizeItems, hn.size_eq, size_items hrest]
      rfl

theorem size_entries : ∀ {entries : Entries} {id : Nat} {pairs : List (Node × Node)},
    entries.AreNodes id pairs → Node.sizeEntries pairs = entries.trees.count
  | .last _ _ t, _, _, ⟨_, n, hpairs, hn⟩ => by
      rw [hpairs, Node.sizeEntries, hn.size_eq, Entries.trees, Tree.Entries.count]
      exact Nat.add_comm 1 t.tree.count
  | .cons _ _ t more, _, _, ⟨_, n, rest, hpairs, hn, hrest⟩ => by
      rw [hpairs, Node.sizeEntries, hn.size_eq, size_entries hrest, Entries.trees,
        Tree.Entries.count]
      exact congrArg (· + more.trees.count) (Nat.add_comm 1 t.tree.count)

end

end Noted

/-! ## What a step of building changes -/

/-- From one state to the other only cells with certain numbers change, and some collections are
left to the next round. -/
structure BuildState.Frame (touched : Nat → Prop) (left : List Node)
    (s s' : BuildState) : Prop where
  cells : ∀ j, ¬ touched j → s'.cells.lookup j = s.cells.lookup j
  pending : s'.pending = left.reverse ++ s.pending
  deep : s'.deep = s.deep

/-- The state with something in a cell. -/
def BuildState.filled (s : BuildState) (id : Nat) (cell : Cell) : BuildState :=
  { s with cells := (id, cell) :: s.cells }

namespace BuildState

theorem lookup_filled (s : BuildState) (id : Nat) (cell : Cell) :
    (s.filled id cell).cells.lookup id = some cell := by
  rw [filled, List.lookup_cons, beq_self_eq_true]

theorem lookup_filled_of_ne (s : BuildState) {id j : Nat} (hne : j ≠ id) (cell : Cell) :
    (s.filled id cell).cells.lookup j = s.cells.lookup j := by
  rw [filled, List.lookup_cons, beq_eq_false_iff_ne.mpr hne]

namespace Frame

variable {touched touched' : Nat → Prop} {left more : List Node} {s s' s'' : BuildState}

theorem refl (touched : Nat → Prop) (s : BuildState) : Frame touched [] s s :=
  ⟨fun _ _ => rfl, rfl, rfl⟩

theorem trans (h : Frame touched left s s') (h' : Frame touched more s' s'') :
    Frame touched (left ++ more) s s'' where
  cells j hj := (h'.cells j hj).trans (h.cells j hj)
  pending := by rw [h'.pending, h.pending, List.reverse_append, List.append_assoc]
  deep := h'.deep.trans h.deep

theorem widen (h : Frame touched left s s') (htouched : ∀ j, touched j → touched' j) :
    Frame touched' left s s' :=
  ⟨fun j hj => h.cells j fun ht => hj (htouched j ht), h.pending, h.deep⟩

theorem filled {id : Nat} (h : Frame touched left s s') (hid : touched id) (cell : Cell) :
    Frame touched left s (s'.filled id cell) where
  cells j hj := (lookup_filled_of_ne s' (fun he => hj (by rwa [he])) cell).trans (h.cells j hj)
  pending := h.pending
  deep := h.deep

/-- Whether collections are filled at once is as it was. -/
theorem restore {deep : Bool} (h : Frame touched left { s with deep } s') :
    Frame touched left s { s' with deep := s.deep } :=
  ⟨h.cells, h.pending, rfl⟩

end Frame
end BuildState

namespace Build

open BuildState (Frame filled lookup_filled lookup_filled_of_ne)

variable {s s' : BuildState} {ctx : BuildContext} {id : Nat} {mark : Mark}
  {c : Option Comments} {before : List Leading}

theorem coreOf_str : coreOf (.ofCore .str) = some .str := by
  decide

theorem coreOf_seq : coreOf (.ofCore .seq) = some .seq := by
  decide

theorem coreOf_map : coreOf (.ofCore .map) = some .map := by
  decide

/-! ## Single nodes -/

/-- A node without an anchor is built where it stands. -/
theorem build_of_new {node : Node} {core : CoreTag} {v : Value} {n : Nat} {deep : Bool}
    (hresolve : ctx.resolve node = node)
    (hinfo : node.info? = some (plainInfo id core mark c))
    (h : buildNew ctx (build ctx n) node (plainInfo id core mark c)
      { s with deep := s.deep || deep } = .ok (v, s')) :
    build ctx (n + 1) deep node s = .ok (v, { s' with deep := s.deep }) := by
  rw [build, buildOne, hresolve, hinfo]
  simp only
  rw [bind_to none s rfl]
  simp only
  rw [deeply, bind_to s s rfl, bind_to () { s with deep := s.deep || deep } rfl]
  have hnew : (do
      let v ← buildNew ctx (build ctx n) node (plainInfo id core mark c)
      remember (plainInfo id core mark c) v
      pure v : Build Value) { s with deep := s.deep || deep } = .ok (v, s') := by
    rw [bind_ok h]
    rfl
  rw [bind_ok hnew]
  rfl

/-- A scalar is built in one step. -/
theorem build_scalar {core : CoreTag} {text : List Char} {style : ScalarStyle} {v : Value}
    (n : Nat) (deep : Bool) (hcore : isForCollections (.ofCore core) = false)
    (h : ∀ s : BuildState,
      buildScalar ctx (plainInfo id core mark c) text style [] s = .ok (v, s)) :
    build ctx (n + 1) deep (.scalar (plainInfo id core mark c) text style []) s =
      .ok (v, s) := by
  have hnew : buildNew ctx (build ctx n) (.scalar (plainInfo id core mark c) text style [])
      (plainInfo id core mark c) { s with deep := s.deep || deep } =
        .ok (v, { s with deep := s.deep || deep }) := by
    have htag : isForCollections (plainInfo id core mark c).tag = false := hcore
    rw [buildNew, htag]
    exact h _
  have hbuild := build_of_new rfl rfl hnew
  exact hbuild

/-- No phrase asks for a collection. -/
theorem isForCollections_standsFor {text : List Char} {core : CoreTag} {v : Value}
    (h : StandsFor text core v) : isForCollections (.ofCore core) = false := by
  cases h <;> decide

/-- A phrase stands for its value. -/
theorem buildScalar_standsFor (hctx : ctx.version11 = false) {text : List Char} {core : CoreTag}
    {v : Value} (h : StandsFor text core v) (s : BuildState) :
    buildScalar ctx (plainInfo id core mark c) text .plain [] s = .ok (v, s) := by
  cases h with
  | text _ =>
      rw [buildScalar, plainInfo, coreOf_str]
      rfl
  | null _ => rfl
  | truth b h =>
      have hcore : coreOf (.ofCore .bool) = some .bool := by decide
      rw [buildScalar, plainInfo, hcore, h]
      cases b <;> rfl
  | @integer w _ hread _ =>
      have hcore : coreOf (.ofCore .int) = some .int := by decide
      rw [buildScalar, plainInfo, hcore, hctx, hread]
      simp only
      rw [bind_to w s rfl]
      simp only [Option.map_none, ite_self]
      rfl
  | @real x _ hread _ =>
      have hcore : coreOf (.ofCore .float) = some .float := by decide
      rw [buildScalar, plainInfo, hcore, hctx, hread]
      simp only
      rw [bind_to x s rfl]
      simp only [Option.map_none, ite_self]
      rfl

theorem build_phrase (hctx : ctx.version11 = false) (p : Phrase) (n : Nat) (deep : Bool) :
    build ctx (n + 1) deep (.scalar (plainInfo id p.core mark c) p.chars .plain []) s =
      .ok (p.value, s) :=
  build_scalar n deep (isForCollections_standsFor p.stands) (buildScalar_standsFor hctx p.stands)

theorem build_leaf (hctx : ctx.version11 = false) (n : Nat) (deep : Bool) :
    ∀ x : Leaf, build ctx (n + 1) deep (leafNode x id mark c) s = .ok (x.value, s)
  | .plain p _ => build_phrase hctx p n deep
  | .quoted q => by
      refine build_scalar n deep (show isForCollections (.ofCore .str) = false by decide)
        fun s => ?_
      obtain ⟨double, content, hfits⟩ := q
      rw [buildScalar, plainInfo, Leaf.core, coreOf_str]
      cases double <;> rfl

theorem info_node {t : Noted} {node : Node} (h : t.IsNode id c node) :
    ∃ mark, node.info? = some (plainInfo id t.core mark c) := by
  cases t with
  | leaf x behind =>
      obtain ⟨mark, rfl⟩ := h
      exact ⟨mark, rfl⟩
  | list flush items =>
      obtain ⟨mark, nodes, rfl, -⟩ := h
      exact ⟨mark, rfl⟩
  | table entries =>
      obtain ⟨mark, pairs, rfl, -⟩ := h
      exact ⟨mark, rfl⟩

theorem commentsOf_node {t : Noted} {node : Node} (h : t.IsNode id c node) (s : BuildState) :
    commentsOf node s = .ok (c, s) := by
  obtain ⟨mark, hinfo⟩ := info_node h
  rw [commentsOf, hinfo]
  rfl

/-- Comments are taken from a node without an anchor by building it without them. -/
theorem takeComments_node {t : Noted} {node : Node} (h : t.IsNode id c node) (s : BuildState) :
    takeComments node s = .ok ((), s) := by
  obtain ⟨mark, hinfo⟩ := info_node h
  rw [takeComments, hinfo]
  rfl

theorem resolve_node {t : Noted} {node : Node} (h : t.IsNode id c node) :
    ctx.resolve node = node := by
  obtain ⟨mark, hinfo⟩ := info_node h
  cases node <;> first | rfl | cases hinfo

theorem isNode_bare {t : Noted} {node : Node} (h : t.IsNode id c node) :
    t.IsNode id none node.bare := by
  cases t with
  | leaf x behind =>
      obtain ⟨mark, rfl⟩ := h
      exact ⟨mark, rfl⟩
  | list flush items =>
      obtain ⟨mark, nodes, rfl, hnodes⟩ := h
      exact ⟨mark, nodes, rfl, hnodes⟩
  | table entries =>
      obtain ⟨mark, pairs, rfl, hpairs⟩ := h
      exact ⟨mark, pairs, rfl, hpairs⟩

theorem buildNew_collection {t : Noted} {node : Node} (h : t.IsNode id c node)
    (hleaf : ¬ t.tree.isLeaf)
    {info : NodeInfo} (hinfo : info.tag = .ofCore t.core) (b : Bool → Node → Build Value) :
    buildNew ctx b node info = buildCollection ctx b node info := by
  cases t with
  | leaf x behind => exact absurd rfl hleaf
  | list flush items =>
      obtain ⟨mark, nodes, rfl, -⟩ := h
      rw [buildNew, hinfo, Noted.core, coreOf_seq]
      intro _ _ _ _ hscalar
      cases hscalar
  | table entries =>
      obtain ⟨mark, pairs, rfl, -⟩ := h
      rw [buildNew, hinfo, Noted.core, coreOf_map]
      intro _ _ _ _ hscalar
      cases hscalar

variable (ctx) in
/-- The cell of a collection is made with something in it, and the collection is filled at once or
left to the next round. -/
theorem build_collection {t : Noted} {node : Node} (h : t.IsNode id c node)
    (hleaf : ¬ t.tree.isLeaf) (n : Nat) (deep : Bool) (s : BuildState) :
    ∃ cell,
      (∀ s', (s.deep || deep) = true →
        fill ctx (build ctx n) node (filled { s with deep := s.deep || deep } id cell) =
          .ok ((), s') →
        build ctx (n + 1) deep node s = .ok (.cell id, { s' with deep := s.deep })) ∧
      ((s.deep || deep) = false →
        build ctx (n + 1) deep node s =
          .ok (.cell id, { filled s id cell with pending := node :: s.pending })) := by
  obtain ⟨mark, hinfo⟩ := info_node h
  let cell := emptyCell (coreOf (.ofCore t.core)) node
  let opened : BuildState := filled { s with deep := s.deep || deep } id cell
  have hnew : buildNew ctx (build ctx n) node (plainInfo id t.core mark c)
      { s with deep := s.deep || deep } =
        (do
          if opened.deep then fill ctx (build ctx n) node
          else modify fun s => { s with pending := node :: s.pending }
          pure (.cell id) : Build Value) opened := by
    rw [buildNew_collection h hleaf rfl, buildCollection, bind_to () opened rfl,
      bind_to () opened rfl, bind_to opened opened rfl]
    rfl
  refine ⟨cell, fun s' hdeep hfill => ?_, fun hdeep => ?_⟩
  · refine build_of_new (resolve_node h) hinfo ?_
    rw [hnew, if_pos (show opened.deep = true from hdeep), bind_ok hfill]
    rfl
  · rw [if_neg (by rw [show opened.deep = false from hdeep]; simp)] at hnew
    exact build_of_new (resolve_node h) hinfo hnew

/-! ## Items and entries -/

theorem items_cons {t : Noted} {child : Node} {rest : List Node} {n : Nat}
    {found : List Item} {s₁ : BuildState} (h : t.IsNode id (t.comments before) child)
    (hchild : build ctx n false child.bare s = .ok (t.value id, s₁))
    (hrest : items ctx (build ctx n) rest s₁ = .ok (found, s')) :
    items ctx (build ctx n) (child :: rest) s = .ok (t.item id before :: found, s') := by
  have hbuilt : (do
      let value ← build ctx n false child.bare
      let more ← items ctx (build ctx n) rest
      pure ({ value, notes := (t.comments before).map notes } :: more) : Build (List Item)) s =
        .ok (t.item id before :: found, s') := by
    rw [bind_ok hchild, bind_ok hrest]
    rfl
  rw [items, resolve_node h, bind_ok (commentsOf_node h s)]
  split
  · rw [bind_ok (takeComments_node h s)]
    exact hbuilt
  · exact hbuilt

theorem items_single {t : Noted} {child : Node} {n : Nat}
    (h : t.IsNode id (t.comments before) child)
    (hchild : build ctx n false child.bare s = .ok (t.value id, s')) :
    items ctx (build ctx n) [child] s = .ok ([t.item id before], s') :=
  items_cons h hchild rfl

/-- Keys are the same only if they are written alike. -/
theorem chars_of_sameKey {cells : Cells} {text text' : List Char} {core core' : CoreTag}
    {v v' : Value} (h : Key.StandsFor text core v) (h' : Key.StandsFor text' core' v')
    (hsame : v.sameKey cells v' = true) : text = text' := by
  cases h with
  | text =>
      cases h' with
      | text =>
          rw [Value.sameKey] at hsame
          exact beq_iff_eq.mp hsame
      | truth b _ => cases hsame
      | null _ => cases hsame
  | truth b h =>
      cases h' with
      | text => cases hsame
      | truth b' h' =>
          rw [h, h']
          cases b <;> cases b' <;> first | rfl | cases hsame
      | null _ => cases hsame
  | null h =>
      cases h' with
      | text => cases hsame
      | truth b _ => cases hsame
      | null h' => rw [h, h']

/-- There are no values twice under a key. -/
theorem find?_none {cells : Cells} {key : Key} {done : List Entry}
    (hdone : ∀ e ∈ done, ∃ k : Key, e.key = k.value ∧ k.chars ≠ key.chars) :
    find? cells key.value done = none := by
  rw [find?, List.find?_eq_none]
  intro e he hsame
  obtain ⟨k, hkey, hne⟩ := hdone e he
  rw [hkey] at hsame
  exact hne (chars_of_sameKey key.standsFor k.standsFor hsame).symm

theorem keyOf_standsFor {text : List Char} {core : CoreTag} {v : Value}
    (h : Key.StandsFor text core v) (cells : Cells) (inFlow : Bool) :
    keyOf cells inFlow v = some v := by
  cases h <;> rfl

theorem requireHashable_standsFor {text : List Char} {core : CoreTag} {v : Value}
    (h : Key.StandsFor text core v) (s : BuildState) : requireHashable v s = .ok ((), s) := by
  cases h <;> rfl

/-- An entry with a new key. -/
theorem entriesFrom_step (hctx : ctx.version11 = false) {key : Key} {t : Noted} {node : Node}
    {n i : Nat} {keyMark : Mark} {done : List Entry} {more : List (Node × Node)}
    (h : t.IsNode (id + 1) (t.comments before) node)
    (hdone : ∀ e ∈ done, ∃ k : Key, e.key = k.value ∧ k.chars ≠ key.chars)
    (hvalue : build ctx (n + 1) true node s = .ok (t.value (id + 1), s')) :
    entriesFrom ctx (build ctx (n + 1)) true done ((keyNode key i keyMark, node) :: more) s =
      entriesFrom ctx (build ctx (n + 1)) true (t.entry id key before :: done) more s' := by
  rw [entriesFrom, keyNode, bind_ok (build_phrase hctx key.toPhrase n true), bind_to s s rfl]
  simp only [keyOf_standsFor key.standsFor]
  rw [resolve_node h, bind_ok hvalue]
  rw [bind_ok (requireHashable_standsFor key.standsFor s'), bind_to s' s' rfl]
  have hnew : find? s'.cells key.value done = none := find?_none hdone
  rw [hnew]
  simp only
  rw [bind_to none s' rfl, bind_ok (commentsOf_node h s')]
  rfl

theorem newKeys (t : Noted) (id : Nat) (before : List Leading) {key : Key} {done : List Entry}
    {keys : List (List Char)} (hkey : key.chars ∉ keys)
    (hdone : ∀ e ∈ done, ∃ k : Key, e.key = k.value ∧ k.chars ∉ key.chars :: keys) :
    ∀ e ∈ t.entry id key before :: done, ∃ k : Key, e.key = k.value ∧ k.chars ∉ keys := by
  intro e he
  rcases List.mem_cons.mp he with rfl | he
  · exact ⟨key, rfl, hkey⟩
  · obtain ⟨k, hk, hne⟩ := hdone e he
    exact ⟨k, hk, fun h => hne (List.mem_cons_of_mem _ h)⟩

theorem oldKeys {key : List Char} {done : List Entry} {keys : List (List Char)}
    (hdone : ∀ e ∈ done, ∃ k : Key, e.key = k.value ∧ k.chars ∉ key :: keys) :
    ∀ e ∈ done, ∃ k : Key, e.key = k.value ∧ k.chars ≠ key := by
  intro e he
  obtain ⟨k, hk, hne⟩ := hdone e he
  exact ⟨k, hk, fun h => hne (h ▸ List.mem_cons_self)⟩

/-- A key takes nothing from another table. -/
theorem mergeOf_key {b : Bool → Node → Build Value} {key : Key} {i place : Nat} {v : Node}
    {more : List (Node × Node)}
    (hmore : mergeOf ctx b (place + 1) none more s = .ok ((none, more), s)) :
    mergeOf ctx b place none ((keyNode key i mark, v) :: more) s =
      .ok ((none, (keyNode key i mark, v) :: more), s) := by
  have htag : (Tag.ofCore key.core).core? = some key.core := by
    rcases key.name with h | h | h <;> rw [h] <;> decide
  rw [mergeOf]
  simp only [keyNode, plainInfo, BuildContext.resolve, Node.info?, htag]
  rcases key.name with h | h | h <;>
  · simp only [h]
    rw [bind_ok hmore]
    rfl

theorem mergeOf_entries (b : Bool → Node → Build Value) :
    ∀ {entries : Noted.Entries} {id : Nat} {pairs : List (Node × Node)} (place : Nat),
      entries.AreNodes id pairs → mergeOf ctx b place none pairs s = .ok ((none, pairs), s)
  | .last _ _ _, _, _, _, ⟨mark, n, hpairs, _⟩ => by
      rw [hpairs]
      exact mergeOf_key rfl
  | .cons _ _ _ _, _, _, place, ⟨mark, n, rest, hpairs, _, hrest⟩ => by
      rw [hpairs]
      exact mergeOf_key (mergeOf_entries b (place + 1) hrest)

/-! ## Collections that are filled -/

variable {touched : Nat → Prop} {left : List Node} {b : Bool → Node → Build Value}

/-- A list is filled with its items. -/
theorem fill_list {list : Noted.Items} {nodes : List Node} (mark : Mark)
    (hnodes : list.AreNodes (id + 1) nodes)
    (hitems : items ctx b nodes s = .ok (list.values (id + 1), s')) :
    fill ctx b (.sequence (plainInfo id .seq mark c) false nodes) s =
      .ok ((), filled s' id (.sequence (blockCollection c) (list.values (id + 1)))) := by
  have hsome : nodes.isEmpty = false := by
    cases list with
    | last before t =>
        obtain ⟨n, rfl, -⟩ := hnodes
        rfl
    | cons before t more =>
        obtain ⟨n, rest, rfl, -⟩ := hnodes
        rfl
  rw [fill]
  simp only [Node.info?, plainInfo, coreOf_seq]
  rw [fillSequence, bind_to c s rfl, bind_ok hitems, hsome]
  rfl

/-- A table is filled with its entries. -/
theorem fill_table {table : Noted.Entries} {pairs : List (Node × Node)} (mark : Mark)
    (hpairs : table.AreNodes (id + 1) pairs)
    (hentries : entriesFrom ctx b true [] pairs s = .ok (table.values (id + 1), s')) :
    fill ctx b (.mapping (plainInfo id .map mark c) false pairs) s =
      .ok ((), filled s' id
        (.mapping (blockCollection c) (table.values (id + 1)) none [])) := by
  obtain ⟨e, more, hcons⟩ := table.values_cons (id + 1)
  rw [hcons] at hentries ⊢
  rw [fill]
  simp only [Node.info?, plainInfo, coreOf_map]
  rw [fillMapping, bind_ok (mergeOf_entries b 0 hpairs)]
  simp only
  rw [bind_to c s rfl, Bool.not_false, bind_ok hentries]
  rfl

/-- What is left in the cells when a collection is filled behind its parts. -/
theorem frame_filled {n : Nat} {cell cell' : Cell} {deep : Bool}
    (h : Frame (Span (id + 1) (id + 1 + n)) left (filled { s with deep } id cell) s') :
    Frame (Span id (id + (n + 1))) left s { filled s' id cell' with deep := s.deep } := by
  have hid : Span id (id + (n + 1)) id := ⟨Nat.le_refl id, by omega⟩
  have hopened := (Frame.refl (Span id (id + (n + 1))) { s with deep }).filled hid cell
  have hparts : Frame (Span id (id + (n + 1))) left (filled { s with deep } id cell) s' :=
    h.widen fun j hj => hj.widen (by omega) (by omega)
  exact ((hopened.trans hparts).filled hid cell').restore

-- By induction on the tree.  What is in a collection fills cells of its own, so that what is held
-- stays held while the rest is built.
mutual

/-- A noted tree that is built at once. -/
theorem build_deep (hctx : ctx.version11 = false) :
    ∀ (deep : Bool) {t : Noted} {id n : Nat} {c : Option Comments} {node : Node}
    {s : BuildState}, t.IsNode id c node → t.tree.Proper → t.tree.height < n →
      (s.deep || deep) = true →
        ∃ s', build ctx n deep node s = .ok (t.value id, s') ∧
          Frame (Span id (id + t.tree.count)) [] s s' ∧ t.HeldIn s'.cells id c
  | deep, .leaf x behind, id, n + 1, c, _, s, ⟨mark, hnode⟩, _, _, _ => by
      rw [hnode]
      exact ⟨s, build_leaf hctx n deep x, .refl _ s, trivial⟩
  | deep, .list flush items, id, n + 1, c, node, s, h, hproper, hn, hdeep => by
      obtain ⟨cell, hbuild, -⟩ :=
        build_collection ctx h (by simp [Noted.tree, Tree.isLeaf]) n deep s
      obtain ⟨mark, nodes, rfl, hnodes⟩ := h
      obtain ⟨s₁, hitems, hframe, hheld⟩ :=
        items_deep hctx hnodes hproper (Nat.lt_of_succ_lt_succ hn)
        (s := filled { s with deep := s.deep || deep } id cell) hdeep
      refine ⟨_, hbuild _ hdeep (fill_list mark hnodes hitems), frame_filled hframe,
        lookup_filled _ _ _, ?_⟩
      exact Noted.heldIn_items_congr hheld fun j hj =>
        lookup_filled_of_ne s₁ (Nat.ne_of_gt hj.1) _
  | deep, .table entries, id, n + 1, c, node, s, h, hproper, hn, hdeep => by
      obtain ⟨cell, hbuild, -⟩ :=
        build_collection ctx h (by simp [Noted.tree, Tree.isLeaf]) n deep s
      obtain ⟨mark, pairs, rfl, hpairs⟩ := h
      obtain ⟨s₁, hentries, hframe, hheld⟩ :=
        entries_deep hctx [] hpairs hproper (Nat.lt_of_succ_lt_succ hn) (by simp)
          (s := filled { s with deep := s.deep || deep } id cell)
      refine ⟨_, hbuild _ hdeep (fill_table mark hpairs hentries), frame_filled hframe,
        lookup_filled _ _ _, ?_⟩
      exact Noted.heldIn_entries_congr hheld fun j hj =>
        lookup_filled_of_ne s₁ (Nat.ne_of_gt hj.1) _

/-- Items that are built at once. -/
theorem items_deep (hctx : ctx.version11 = false) :
    ∀ {list : Noted.Items} {id n : Nat} {nodes : List Node} {s : BuildState},
    list.AreNodes id nodes → list.trees.Proper → list.trees.height < n → s.deep = true →
      ∃ s', items ctx (build ctx n) nodes s = .ok (list.values id, s') ∧
        Frame (Span id (id + list.trees.count)) [] s s' ∧ list.HeldIn s'.cells id
  | .last before t, id, n, _, s, ⟨child, hnodes, hchild⟩, hproper, hn, hdeep => by
      obtain ⟨s', hbuild, hframe, hheld⟩ :=
        build_deep hctx false (isNode_bare hchild) hproper hn (s := s) (by simp [hdeep])
      rw [hnodes]
      exact ⟨s', items_single hchild hbuild, hframe, hheld⟩
  | .cons before t more, id, n, _, s, ⟨child, rest, hnodes, hchild, hrest⟩, hproper, hn,
      hdeep => by
      have hheights := Nat.max_lt.mp hn
      obtain ⟨s₁, hbuild, hframe₁, hheld₁⟩ :=
        build_deep hctx false (isNode_bare hchild) hproper.1 hheights.1 (s := s)
          (by simp [hdeep])
      obtain ⟨s', hitems, hframe, hheld⟩ :=
        items_deep hctx hrest hproper.2 hheights.2 (s := s₁) (by rw [hframe₁.deep, hdeep])
      rw [hnodes]
      refine ⟨s', items_cons hchild hbuild hitems, ?_, ?_, hheld⟩
      · rw [Noted.Items.trees, Tree.Items.count]
        exact (hframe₁.widen fun j hj => hj.widen (by omega) (by omega)).trans
          (hframe.widen fun j hj => hj.widen (by omega) (by omega))
      · exact hheld₁.congr fun j hj => hframe.cells j fun hj' => by
          have := hj.2
          have := hj'.1
          omega

/-- Entries of a table behind others. -/
theorem entries_deep (hctx : ctx.version11 = false) :
    ∀ (done : List Entry) {table : Noted.Entries} {id n : Nat}
    {pairs : List (Node × Node)} {s : BuildState}, table.AreNodes id pairs →
      table.trees.Proper →
      table.trees.height < n →
        (∀ e ∈ done, ∃ k : Key, e.key = k.value ∧ k.chars ∉ table.trees.keys) →
          ∃ s', entriesFrom ctx (build ctx n) true done pairs s =
              .ok (done.reverse ++ table.values id, s') ∧
            Frame (Span id (id + table.trees.count)) [] s s' ∧ table.HeldIn s'.cells id
  | done, .last key before t, id, n + 1, _, s, ⟨mark, child, hpairs, hchild⟩, hproper, hn,
      hdone => by
      obtain ⟨s', hbuild, hframe, hheld⟩ :=
        build_deep hctx true hchild hproper hn (s := s) (Bool.or_true _)
      refine ⟨s', ?_, ?_, hheld⟩
      · rw [hpairs, entriesFrom_step hctx hchild (oldKeys hdone) hbuild, entriesFrom,
          List.reverse_cons]
        rfl
      · exact hframe.widen fun j hj =>
          hj.widen (by omega) (by rw [Noted.Entries.trees, Tree.Entries.count]; omega)
  | done, .cons key before t more, id, n + 1, _, s, ⟨mark, child, rest, hpairs, hchild, hrest⟩,
      hproper, hn, hdone => by
      have hheights := Nat.max_lt.mp hn
      obtain ⟨s₁, hbuild, hframe₁, hheld₁⟩ :=
        build_deep hctx true hchild hproper.2.1 hheights.1 (s := s) (Bool.or_true _)
      obtain ⟨s', hentries, hframe, hheld⟩ :=
        entries_deep hctx _ hrest hproper.2.2 hheights.2 (s := s₁)
        (newKeys t id before hproper.1 hdone)
      refine ⟨s', ?_, ?_, ?_, hheld⟩
      · rw [hpairs, entriesFrom_step hctx hchild (oldKeys hdone) hbuild, hentries,
          List.reverse_cons, List.append_assoc]
        rfl
      · rw [Noted.Entries.trees, Tree.Entries.count]
        exact (hframe₁.widen fun j hj => hj.widen (by omega) (by omega)).trans
          (hframe.widen fun j hj => hj.widen (by omega) (by omega))
      · exact hheld₁.congr fun j hj => hframe.cells j fun hj' => by
          have := hj.2
          have := hj'.1
          omega

end

/-! ## Rounds -/

/-- A collection that was met and is filled in the next round. -/
structure Opened where
  id : Nat
  comments : Option Comments
  root : Noted
  node : Node
  isNode : root.IsNode id comments node
  collection : ¬ root.tree.isLeaf
  proper : root.tree.Proper

namespace Opened

/-- What a collection says. -/
abbrev tree (a : Opened) : Tree :=
  a.root.tree

/-- The numbers of the nodes of a collection. -/
def Owns (a : Opened) : Nat → Prop :=
  Span a.id (a.id + a.tree.count)

theorem owns_self (a : Opened) : a.Owns a.id :=
  ⟨Nat.le_refl _, Nat.lt_add_of_pos_right a.tree.count_pos⟩

/-- The cells hold the collection. -/
def HeldIn (cells : Cells) (a : Opened) : Prop :=
  a.root.HeldIn cells a.id a.comments

/-- Collections have their numbers one after the other, from `first` on up to `stop`. -/
def Ordered : Nat → List Opened → Nat → Prop
  | first, [], stop => first ≤ stop
  | first, a :: more, stop => first ≤ a.id ∧ Ordered (a.id + a.tree.count) more stop

variable {first middle stop : Nat} {a : Opened} {parts others : List Opened}

theorem Ordered.le :
    ∀ {first : Nat} {parts : List Opened}, Ordered first parts stop → first ≤ stop
  | _, [], h => h
  | _, a :: _, h => h.1.trans ((Nat.le_add_right a.id a.tree.count).trans h.2.le)

theorem Ordered.append : ∀ {first : Nat} {parts : List Opened}, Ordered first parts middle →
    Ordered middle others stop → Ordered first (parts ++ others) stop
  | first, [], h, h' => by
      cases others with
      | nil => exact le_trans h h'
      | cons b more => exact ⟨le_trans h h'.1, h'.2⟩
  | _, _ :: _, h, h' => ⟨h.1, h.2.append h'⟩

theorem Ordered.span : ∀ {first : Nat} {parts : List Opened}, Ordered first parts stop →
    ∀ p ∈ parts, ∀ j, p.Owns j → Span first stop j
  | _, a :: _, h, p, hp, j, hj => by
      rcases List.mem_cons.mp hp with rfl | hp
      · exact hj.widen h.1 h.2.le
      · exact (h.2.span p hp j hj).widen (h.1.trans (Nat.le_add_right _ _)) (Nat.le_refl _)

/-- One collection is in another. -/
structure IsIn (p a : Opened) : Prop where
  height : p.tree.height < a.tree.height
  owns : ∀ j, p.Owns j → a.Owns j

/-- When the collections in a list are held as well, a collection will be held, too, if its other
cells stay as they are. -/
def Awaits (cells : Cells) (parts : List Opened) (a : Opened) : Prop :=
  ∀ ⦃cells' : Cells⦄,
    (∀ j, a.Owns j → (∀ p ∈ parts, ¬ p.Owns j) → cells'.lookup j = cells.lookup j) →
      (∀ p ∈ parts, p.HeldIn cells') → a.HeldIn cells'

end Opened

open Opened (Ordered)

theorem height_pos (a : Opened) : 0 < a.tree.height := by
  obtain ⟨id, comments, root, node, isNode, collection, proper⟩ := a
  cases root with
  | leaf x behind => exact absurd rfl collection
  | list flush items => exact Nat.succ_pos _
  | table entries => exact Nat.succ_pos _

section Rounds

variable (hctx : ctx.version11 = false)
include hctx

/-- A tree that is built in parts. -/
theorem build_opened {t : Noted} {node : Node} (h : t.IsNode id c node) (hproper : t.tree.Proper)
    (n : Nat) (hdeep : s.deep = false) :
    ∃ parts s', build ctx (n + 1) false node s = .ok (t.value id, s') ∧
      Frame (Span id (id + t.tree.count)) (parts.map Opened.node) s s' ∧
      Ordered id parts (id + t.tree.count) ∧
        (∀ p ∈ parts, p.tree.height ≤ t.tree.height) ∧
      ∀ cells, (∀ p ∈ parts, p.HeldIn cells) → t.HeldIn cells id c := by
  by_cases hleaf : t.tree.isLeaf
  · obtain ⟨x, behind, rfl⟩ : ∃ x behind, t = .leaf x behind := by
      cases t <;> first | exact ⟨_, _, rfl⟩ | cases hleaf
    obtain ⟨mark, rfl⟩ := h
    exact ⟨[], s, build_leaf hctx n false x, .refl _ s, Nat.le_add_right _ _, by simp,
      fun _ _ => trivial⟩
  · obtain ⟨cell, -, hbuild⟩ := build_collection ctx h hleaf n false s
    let a : Opened :=
      { id, comments := c, root := t, node, isNode := h, collection := hleaf, proper := hproper }
    have hvalue : t.value id = .cell id := by
      cases t <;> first | rfl | exact absurd rfl hleaf
    have hid : Span id (id + t.tree.count) id :=
      ⟨Nat.le_refl id, Nat.lt_add_of_pos_right t.tree.count_pos⟩
    have hframe := (Frame.refl (Span id (id + t.tree.count)) s).filled hid cell
    have hleft : Frame (Span id (id + t.tree.count)) [node] s
        { filled s id cell with pending := node :: s.pending } := ⟨hframe.cells, rfl, rfl⟩
    rw [hvalue]
    exact ⟨[a], _, hbuild (by simp [hdeep]), hleft, ⟨Nat.le_refl _, Nat.le_refl _⟩,
      by simp [a, Opened.tree], fun cells hcells => hcells a (by simp)⟩

/-- Items that are built in parts. -/
theorem items_opened : ∀ {list : Noted.Items} {id n : Nat} {nodes : List Node} {s : BuildState},
    list.AreNodes id nodes → list.trees.Proper → s.deep = false →
      ∃ parts s', items ctx (build ctx (n + 1)) nodes s = .ok (list.values id, s') ∧
        Frame (Span id (id + list.trees.count)) (parts.map Opened.node) s s' ∧
        Ordered id parts (id + list.trees.count) ∧
        (∀ p ∈ parts, p.tree.height ≤ list.trees.height) ∧
        ∀ cells, (∀ p ∈ parts, p.HeldIn cells) → list.HeldIn cells id
  | .last before t, id, n, _, s, ⟨child, hnodes, hchild⟩, hproper, hdeep => by
      obtain ⟨parts, s', hbuild, hframe, hordered, hheight, hheld⟩ :=
        build_opened hctx (isNode_bare hchild) hproper n hdeep
      rw [hnodes]
      exact ⟨parts, s', items_single hchild hbuild, hframe, hordered, hheight, hheld⟩
  | .cons before t more, id, n, _, s, ⟨child, rest, hnodes, hchild, hrest⟩, hproper, hdeep => by
      obtain ⟨parts, s₁, hbuild, hframe₁, hordered₁, hheight₁, hheld₁⟩ :=
        build_opened hctx (isNode_bare hchild) hproper.1 n hdeep
      obtain ⟨others, s', hitems, hframe, hordered, hheight, hheld⟩ :=
        items_opened hrest hproper.2 (hframe₁.deep.trans hdeep)
      rw [hnodes, Noted.Items.trees, Tree.Items.count, ← Nat.add_assoc]
      refine ⟨parts ++ others, s', items_cons hchild hbuild hitems, ?_,
        hordered₁.append hordered, ?_, ?_⟩
      · rw [List.map_append]
        exact (hframe₁.widen fun j hj => hj.widen (by omega) (by omega)).trans
          (hframe.widen fun j hj => hj.widen (by omega) (by omega))
      · intro p hp
        rcases List.mem_append.mp hp with hp | hp
        · exact Nat.le_trans (hheight₁ p hp) (Nat.le_max_left _ _)
        · exact Nat.le_trans (hheight p hp) (Nat.le_max_right _ _)
      · intro cells hcells
        exact ⟨hheld₁ cells fun p hp => hcells p (List.mem_append_left _ hp),
          hheld cells fun p hp => hcells p (List.mem_append_right _ hp)⟩

/-- A collection is filled, and the collections in it that have to wait are left over. -/
theorem fill_opened (a : Opened) {n : Nat} (hn : a.tree.height < n) (hdeep : s.deep = false) :
    ∃ parts s', fill ctx (build ctx n) a.node s = .ok ((), s') ∧
      Frame a.Owns (parts.map Opened.node) s s' ∧ Ordered a.id parts (a.id + a.tree.count) ∧
      (∀ p ∈ parts, p.IsIn a) ∧ a.Awaits s'.cells parts := by
  obtain ⟨id, comments, root, node, isNode, collection, proper⟩ := a
  cases root with
  | leaf x behind => exact absurd rfl collection
  | list flush items =>
      obtain ⟨n, rfl⟩ : ∃ m, n = m + 1 := ⟨n - 1, by omega⟩
      obtain ⟨mark, nodes, rfl, hnodes⟩ := isNode
      obtain ⟨parts, s₁, hitems, hframe, hordered, hheight, hheld⟩ :=
        items_opened hctx (n := n) hnodes proper hdeep
      have hparts : ∀ p ∈ parts, ∀ j, p.Owns j → Span id (id + (items.trees.count + 1)) j :=
        fun p hp j hj => (hordered.span p hp j hj).widen (by omega) (by omega)
      refine ⟨parts, _, fill_list mark hnodes hitems, ?_, ?_, ?_, ?_⟩
      · refine (hframe.widen fun j hj => ?_).filled (Opened.owns_self _) _
        exact hj.widen (Nat.le_succ id) (Nat.add_right_comm id 1 items.trees.count).le
      · exact (show Ordered id [] (id + 1) from Nat.le_succ id).append
          (Nat.add_right_comm id 1 items.trees.count ▸ hordered)
      · exact fun p hp => ⟨Nat.lt_succ_of_le (hheight p hp), hparts p hp⟩
      · intro cells hsame hcells
        refine ⟨?_, hheld cells hcells⟩
        rw [hsame id (Opened.owns_self _) fun p hp hj => ?_]
        · exact lookup_filled _ _ _
        · exact Nat.not_succ_le_self id (hordered.span p hp id hj).1
  | table entries =>
      obtain ⟨mark, pairs, rfl, hpairs⟩ := isNode
      obtain ⟨s₁, hentries, hframe, hheld⟩ :=
        entries_deep hctx [] hpairs proper (Nat.lt_of_succ_lt hn) (by simp) (s := s)
      -- The values of a table are built at once, so that nothing in it is left over.
      refine ⟨[], _, fill_table mark hpairs hentries, ?_, Nat.le_add_right _ _, by simp, ?_⟩
      · refine (hframe.widen fun j hj => ?_).filled (Opened.owns_self _) _
        exact hj.widen (Nat.le_succ id) (Nat.add_right_comm id 1 entries.trees.count).le
      · intro cells hsame _
        refine Noted.HeldIn.congr (t := .table entries) ⟨lookup_filled _ _ _, ?_⟩ fun j hj =>
          hsame j hj (by simp)
        exact Noted.heldIn_entries_congr hheld fun j hj =>
          lookup_filled_of_ne s₁ (Nat.ne_of_gt hj.1) _

/-- Collections are filled one after the other. -/
theorem fillAll_opened {bound stop : Nat} :
    ∀ {opened : List Opened} {first : Nat} {s : BuildState},
    Ordered first opened stop → (∀ a ∈ opened, a.tree.height < bound) → s.deep = false →
      ∃ parts s', fillAll ctx bound (opened.map Opened.node) s = .ok ((), s') ∧
        Frame (fun j => ∃ a ∈ opened, a.Owns j) (parts.map Opened.node) s s' ∧
        Ordered first parts stop ∧ (∀ p ∈ parts, ∃ a ∈ opened, p.IsIn a) ∧
        ∀ a ∈ opened, a.Awaits s'.cells parts
  | [], _, s, h, _, _ => ⟨[], s, rfl, .refl _ s, h, by simp, by simp⟩
  | a :: more, first, s, h, hbound, hdeep => by
      obtain ⟨parts, s₁, hfill, hframe₁, hordered₁, hin₁, hawaits₁⟩ :=
        fill_opened hctx a (hbound a (by simp)) hdeep
      obtain ⟨others, s', hfillAll, hframe, hordered, hin, hawaits⟩ :=
        fillAll_opened h.2 (fun b hb => hbound b (by simp [hb])) (hframe₁.deep.trans hdeep)
      refine ⟨parts ++ others, s', ?_, ?_, ?_, ?_, ?_⟩
      · rw [List.map_cons, fillAll, bind_ok hfill, hfillAll]
      · rw [List.map_append]
        exact (hframe₁.widen fun j hj => ⟨a, by simp, hj⟩).trans
          (hframe.widen fun j ⟨b, hb, hj⟩ => ⟨b, by simp [hb], hj⟩)
      · exact ((show Ordered first [] a.id from h.1).append hordered₁).append hordered
      · intro p hp
        rcases List.mem_append.mp hp with hp | hp
        · exact ⟨a, by simp, hin₁ p hp⟩
        · obtain ⟨b, hb, hpb⟩ := hin p hp
          exact ⟨b, by simp [hb], hpb⟩
      · -- What is filled later has other numbers, and so have its parts.
        have hlater : ∀ j, a.Owns j → ∀ b ∈ more, ¬ b.Owns j := fun j hj b hb hbj =>
          absurd (h.2.span b hb j hbj).1 (Nat.not_le.mpr hj.2)
        have hearlier : ∀ j, (∃ b ∈ more, b.Owns j) → ∀ p ∈ parts, ¬ p.Owns j :=
          fun j ⟨b, hb, hbj⟩ p hp hpj => hlater j ((hin₁ p hp).owns j hpj) b hb hbj
        intro b hb
        rcases List.mem_cons.mp hb with rfl | hb
        · intro cells hsame hcells
          refine hawaits₁ (fun j hj hparts => ?_) fun p hp =>
            hcells p (List.mem_append_left _ hp)
          rw [hsame j hj fun p hp hpj => ?_,
            hframe.cells j fun ⟨c, hc, hcj⟩ => hlater j hj c hc hcj]
          rcases List.mem_append.mp hp with hp | hp
          · exact hparts p hp hpj
          · exact absurd (hordered.span p hp j hpj).1 (Nat.not_le.mpr hj.2)
        · intro cells hsame hcells
          refine hawaits b hb (fun j hj hothers => ?_) fun p hp =>
            hcells p (List.mem_append_right _ hp)
          refine hsame j hj fun p hp hpj => ?_
          rcases List.mem_append.mp hp with hp | hp
          · exact hearlier j ⟨b, hb, hj⟩ p hp hpj
          · exact hothers p hp hpj

-- By induction on the rounds.  What a round leaves over is nested less deeply than what it fills.
/-- The rounds fill all that was left over. -/
theorem rounds_opened (bound : Nat) {stop : Nat} : ∀ {n first : Nat} {opened : List Opened}
    {s : BuildState}, Ordered first opened stop → (∀ a ∈ opened, a.tree.height < bound) →
      (∀ a ∈ opened, a.tree.height ≤ n) → s.deep = false →
        s.pending = (opened.map Opened.node).reverse →
          ∃ s', rounds ctx bound n s = .ok ((), s') ∧
            (∀ j, (∀ a ∈ opened, ¬ a.Owns j) → s'.cells.lookup j = s.cells.lookup j) ∧
            ∀ a ∈ opened, a.HeldIn s'.cells
  | 0, _, opened, s, _, _, hn, _, _ => by
      refine ⟨s, rfl, fun _ _ => rfl, fun a ha => ?_⟩
      exact absurd (hn a ha) (Nat.not_le.mpr (height_pos a))
  | n + 1, _, [], s, _, _, _, _, hpending => by
      refine ⟨s, ?_, fun _ _ => rfl, by simp⟩
      rw [rounds, bind_to s s rfl, hpending]
      rfl
  | n + 1, first, a :: more, s, h, hbound, hn, hdeep, hpending => by
      obtain ⟨parts, s₁, hfillAll, hframe, hordered, hin, hawaits⟩ :=
        fillAll_opened hctx (s := { s with pending := [] }) h hbound hdeep
      have hparts : ∀ p ∈ parts, p.tree.height < bound ∧ p.tree.height ≤ n := fun p hp => by
        obtain ⟨b, hb, hpb⟩ := hin p hp
        have := hpb.height
        have := hbound b hb
        have := hn b hb
        omega
      obtain ⟨s', hrounds, hsame, hheld⟩ :=
        rounds_opened bound hordered (fun p hp => (hparts p hp).1)
          (fun p hp => (hparts p hp).2) (hframe.deep.trans hdeep)
          (by rw [hframe.pending, List.append_nil])
      have hsome : s.pending.isEmpty = false := by
        rw [hpending, List.isEmpty_reverse]
        rfl
      refine ⟨s', ?_, fun j hj => ?_, fun b hb => ?_⟩
      · rw [rounds, bind_to s s rfl]
        simp only [hsome, Bool.false_eq_true, if_false]
        rw [bind_to () { s with pending := [] } rfl, hpending, List.reverse_reverse,
          bind_ok hfillAll, hrounds]
      · rw [hsame j fun p hp hpj => ?_, hframe.cells j fun ⟨b, hb, hbj⟩ => hj b hb hbj]
        obtain ⟨b, hb, hpb⟩ := hin p hp
        exact hj b hb (hpb.owns j hpj)
      · exact hawaits b hb (fun j _ hnot => hsame j hnot) hheld

end Rounds

end Build

/-! ## The document -/

/-- A document that holds a noted tree with comments in front of it. -/
structure Headed.StoredIn (r : Headed) (d : Document) : Prop where
  root : d.root = r.root.value 0
  held : r.root.HeldIn d.cells 0 r.comments

/-- The document of a noted tree is built. -/
theorem Headed.ofNodes_node {r : Headed} (hproper : r.root.tree.Proper) {n : Node}
    (h : r.root.IsNode 0 r.comments n) :
    ∃ d, Document.ofNodes { root := n, version := (1, 2) } = .ok d ∧ r.StoredIn d := by
  let ctx : BuildContext := { version11 := false, anchored := n.anchored }
  have hheight : r.root.tree.height < n.size := by
    rw [h.size_eq]
    exact r.root.tree.height_lt_count
  have hctx : ctx.version11 = false := rfl
  obtain ⟨parts, s₁, hbuild, hframe, hordered, hparts, hheld⟩ :=
    Build.build_opened hctx (s := {}) h hproper n.size rfl
  obtain ⟨s', hrounds, -, hopened⟩ := Build.rounds_opened hctx (n.size + 1)
    (n := n.size + 1) hordered
    (fun p hp => Nat.lt_succ_of_le ((hparts p hp).trans hheight.le))
    (fun p hp => ((hparts p hp).trans hheight.le).trans (Nat.le_succ _)) hframe.deep
    (by rw [hframe.pending, List.append_nil])
  have hall : (do
      let v ← Build.build ctx (n.size + 1) false n
      Build.rounds ctx (n.size + 1) (n.size + 1)
      pure v : Build Value) {} = .ok (r.root.value 0, s') := by
    rw [bind_ok hbuild, bind_ok hrounds]
    rfl
  refine ⟨{ root := r.root.value 0, cells := s'.cells }, ?_, rfl, hheld _ hopened⟩
  exact congrArg (Except.map fun x => ({ root := x.1, cells := x.2.cells } : Document)) hall

/-- The documents of noted trees are built one after the other. -/
theorem documents_headed : ∀ {rs : List Headed} {stream : NodeStream},
    (∀ r ∈ rs, r.root.tree.Proper) → NodeStream.AreOf rs stream →
      ∃ ds, documents stream = .ok ds ∧ List.Forall₂ Headed.StoredIn rs ds
  | [], _, _, h => by
      rw [NodeStream.AreOf] at h
      rw [h]
      exact ⟨[], rfl, .nil⟩
  | r :: rs, _, hproper, ⟨n, rest, hstream, hn, hrest⟩ => by
      obtain ⟨d, hd, hstored⟩ := Headed.ofNodes_node (hproper r (by simp)) hn
      obtain ⟨ds, hds, hothers⟩ := documents_headed (fun q hq => hproper q (by simp [hq])) hrest
      refine ⟨d :: ds, ?_, .cons hstored hothers⟩
      rw [hstream, documents, hd, hds]
      rfl

namespace Noted

/-! ## What it says -/

theorem datum_standsFor {text : List Char} {core : CoreTag} {v : Value}
    (h : StandsFor text core v) (cells : Cells) (n : Nat) (path : List Nat) :
    v.datum cells (n + 1) path = v.scalarDatum := by
  cases h <;> rfl

theorem datum_leaf (cells : Cells) (n : Nat) (path : List Nat) :
    ∀ x : Leaf, x.value.datum cells (n + 1) path = x.datum
  | .plain p _ => datum_standsFor p.stands cells n path
  | .quoted _ => rfl

theorem not_contains_of_lt {path : List Nat} {id : Nat} (hpath : ∀ p ∈ path, p < id) :
    path.contains id = false := by
  simp only [List.contains_eq_mem, decide_eq_false_iff_not]
  exact fun hid => Nat.lt_irrefl id (hpath id hid)

theorem path_cons {path : List Nat} {id : Nat} (hpath : ∀ p ∈ path, p < id) :
    ∀ p ∈ id :: path, p < id + 1 := by
  intro p hp
  rcases List.mem_cons.mp hp with rfl | hp
  · exact Nat.lt_succ_self p
  · exact Nat.lt_succ_of_lt (hpath p hp)

-- The cells around a tree have smaller numbers, so that none of them is met again in it.
mutual

/-- The value of a noted tree says what the tree says. -/
theorem datum_value {cells : Cells} : ∀ {t : Noted} {id n : Nat} {c : Option Comments}
    {path : List Nat}, t.HeldIn cells id c → t.tree.height < n → (∀ p ∈ path, p < id) →
      (t.value id).datum cells n path = t.tree.datum
  | leaf x _, _, _ + 1, _, _, _, _, _ => datum_leaf cells _ _ x
  | list _ items, id, n + 1, _, path, h, hn, hpath => by
      have hitems := datum_items h.2 (Nat.lt_of_succ_lt_succ hn) (path_cons hpath)
      rw [value, Value.datum, not_contains_of_lt hpath, h.1]
      · exact congrArg Datum.sequence hitems
      · simp
  | table entries, id, n + 1, _, path, h, hn, hpath => by
      have hentries := datum_entries h.2 (Nat.lt_of_succ_lt_succ hn) (path_cons hpath)
      rw [value, Value.datum, not_contains_of_lt hpath, h.1]
      · simp only [Bool.false_eq_true, if_false, Cell.allEntries, List.append_nil, List.map_map]
        exact congrArg Datum.mapping hentries
      · simp

theorem datum_items {cells : Cells} : ∀ {items : Items} {id n : Nat} {path : List Nat},
    items.HeldIn cells id → items.trees.height < n → (∀ p ∈ path, p < id) →
      (items.values id).map (fun i => i.value.datum cells n path) = items.trees.data
  | .last _ t, id, n, path, h, hn, hpath => by
      rw [Items.values, List.map_singleton, item, datum_value h hn hpath]
      rfl
  | .cons _ t more, id, n, path, h, hn, hpath => by
      have hheights := Nat.max_lt.mp hn
      rw [Items.values, List.map_cons, item, datum_value h.1 hheights.1 hpath,
        datum_items h.2 hheights.2 fun p hp => Nat.lt_add_right _ (hpath p hp)]
      rfl

theorem datum_entries {cells : Cells} : ∀ {entries : Entries} {id n : Nat} {path : List Nat},
    entries.HeldIn cells id → entries.trees.height < n → (∀ p ∈ path, p < id) →
      (entries.values id).map (fun e => (e.key.datum cells n path, e.value.datum cells n path)) =
        entries.trees.data
  | .last key _ t, id, n + 1, path, h, hn, hpath => by
      rw [Entries.values, List.map_singleton, entry, datum_standsFor key.stands,
        datum_value h hn fun p hp => Nat.lt_succ_of_lt (hpath p hp)]
      rfl
  | .cons key _ t more, id, n + 1, path, h, hn, hpath => by
      have hheights := Nat.max_lt.mp hn
      rw [Entries.values, List.map_cons, entry, datum_standsFor key.stands,
        datum_value h.1 hheights.1 fun p hp => Nat.lt_succ_of_lt (hpath p hp),
        datum_entries h.2 hheights.2 fun p hp => by have := hpath p hp; omega]
      rfl

end

/-- The cells with numbers from `id` on. -/
def cellsFrom (cells : Cells) (id : Nat) : Nat :=
  cells.countP fun c => decide (id ≤ c.1)

theorem cellsFrom_le {cells : Cells} {id id' : Nat} (h : id ≤ id') :
    cellsFrom cells id' ≤ cellsFrom cells id :=
  List.countP_mono_left fun _ _ hc => by
    simp only [decide_eq_true_eq] at hc ⊢
    exact h.trans hc

theorem cellsFrom_lt {cells : Cells} {id : Nat} {cell : Cell}
    (h : cells.lookup id = some cell) : cellsFrom cells (id + 1) < cellsFrom cells id := by
  induction cells with
  | nil => cases h
  | cons c cells ih =>
      have hle : cellsFrom cells (id + 1) ≤ cellsFrom cells id := cellsFrom_le (Nat.le_succ id)
      rw [List.lookup_cons] at h
      unfold cellsFrom at hle ih ⊢
      rw [List.countP_cons, List.countP_cons]
      simp only [decide_eq_true_eq]
      split at h
      · next heq =>
          have := eq_of_beq heq
          split <;> split <;> omega
      · have := ih h
        split <;> split <;> omega

-- Every level of the nesting has a cell of its own.
mutual

theorem height_le_cellsFrom {cells : Cells} : ∀ {t : Noted} {id : Nat} {c : Option Comments},
    t.HeldIn cells id c → t.tree.height ≤ cellsFrom cells id
  | leaf _ _, _, _, _ => Nat.zero_le _
  | list _ _, _, _, h => Nat.succ_le_of_lt ((height_items_le h.2).trans_lt (cellsFrom_lt h.1))
  | table _, _, _, h => Nat.succ_le_of_lt ((height_entries_le h.2).trans_lt (cellsFrom_lt h.1))

theorem height_items_le {cells : Cells} : ∀ {items : Items} {id : Nat}, items.HeldIn cells id →
    items.trees.height ≤ cellsFrom cells id
  | .last _ _, _, h => height_le_cellsFrom h
  | .cons _ _ _, _, h => Nat.max_le.mpr
      ⟨height_le_cellsFrom h.1,
        (height_items_le h.2).trans (cellsFrom_le (Nat.le_add_right _ _))⟩

theorem height_entries_le {cells : Cells} : ∀ {entries : Entries} {id : Nat},
    entries.HeldIn cells id → entries.trees.height ≤ cellsFrom cells id
  | .last _ _ t, _, h =>
      (height_le_cellsFrom (t := t) h).trans (cellsFrom_le (Nat.le_succ _))
  | .cons _ _ _ _, id, h => Nat.max_le.mpr
      ⟨(height_le_cellsFrom h.1).trans (cellsFrom_le (Nat.le_succ id)),
        (height_entries_le h.2).trans (cellsFrom_le (by omega))⟩

end

end Noted

theorem Headed.StoredIn.height_le {r : Headed} {d : Document} (h : r.StoredIn d) :
    r.root.tree.height ≤ d.cells.length :=
  (Noted.height_le_cellsFrom h.held).trans List.countP_le_length

/-- A document that holds a noted tree says what the tree says. -/
theorem Headed.StoredIn.datum_eq {r : Headed} {d : Document} (h : r.StoredIn d) :
    d.datum = r.root.tree.datum := by
  have hheight := h.height_le
  rw [Document.datum, h.root]
  exact Noted.datum_value h.held (by omega) (by simp)

end Yaml
end YamlTidy
