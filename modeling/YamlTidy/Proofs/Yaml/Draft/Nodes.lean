import YamlTidy.Proofs.Yaml.Draft.Streams
import YamlTidy.Proofs.Yaml.Noted.Values

/-!
# The nodes of drafts

A draft is read like a noted tree that says the same and shows the kept remarks of the draft:
`Noted.Shows` says which remarks the comments in a noted tree are, in order and without those
between a key and a leaf, and there is such a tree for the tokens of every draft
(`Draft.exists_noted`, by induction on the draft).  So the text of sheets is read as one document
for each sheet (`Sheet.nodes_texts`) unless one is nested too deeply.
-/

namespace YamlTidy
namespace Yaml

open Text

/-! ## The remarks in a noted tree -/

namespace Noted

/-- The comments in front of what stands under a key are the given remarks.  None are shown in front
of a leaf. -/
def Heads (before : List Leading) (rs : List Remark) : Noted → Prop
  | leaf _ _ => rs = []
  | _ => Leading.AreOf before rs

mutual

/-- The comments that are shown in a noted tree are the given remarks. -/
def Shows : Noted → List Remark → Prop
  | leaf _ behind, rs => Comment.Follows behind rs
  | list _ items, rs => items.Show rs
  | table entries, rs => entries.Show rs

/-- The comments that are shown in items are the given remarks. -/
def Items.Show : Items → List Remark → Prop
  | .last before t, rs => ∃ above inner, rs = above ++ inner ∧ Leading.AreOf before above ∧
      t.Shows inner
  | .cons before t more, rs => ∃ above inner others, rs = above ++ inner ++ others ∧
      Leading.AreOf before above ∧ t.Shows inner ∧ more.Show others

/-- The comments that are shown in entries are the given remarks. -/
def Entries.Show : Entries → List Remark → Prop
  | .last _ before t, rs => ∃ above inner, rs = above ++ inner ∧ t.Heads before above ∧
      t.Shows inner
  | .cons _ before t more, rs => ∃ above inner others, rs = above ++ inner ++ others ∧
      t.Heads before above ∧ t.Shows inner ∧ more.Show others

end

end Noted

/-- The comments that are shown with a noted tree at the root are the given remarks.  A leaf has
none. -/
def Headed.Shows (r : Headed) (rs : List Remark) : Prop :=
  if r.root.tree.isLeaf then rs = []
  else ∃ above inner, rs = above ++ inner ∧ Leading.AreOf r.before above ∧ r.root.Shows inner

/-- A noted tree has what a sheet says and its kept remarks. -/
structure Headed.IsOf (r : Headed) (p : Sheet) : Prop where
  tree : r.root.tree = p.draft.tree
  shows : r.Shows p.kept

/-! ## From tokens to noted trees -/

theorem Leading.AreOf.eq_nil {ls : List Leading} (h : Leading.AreOf ls []) : ls = [] := by
  obtain ⟨cs, rfl, hcs⟩ := h
  rw [List.forall₂_nil_right_iff.mp hcs]
  rfl

theorem Leading.areOf_nil : Leading.AreOf [] [] :=
  ⟨[], rfl, .nil⟩

/-- No remark stands in the header of a block scalar. -/
theorem Leading.AreOf.headless {ls : List Leading} {rs : List Remark} (h : Leading.AreOf ls rs) :
    ls.any Leading.isHeader = false := by
  obtain ⟨cs, rfl, -⟩ := h
  simp [Leading.isHeader]

namespace Noted

mutual

theorem Shows.headless : ∀ {t : Noted} {rs : List Remark}, t.Shows rs → t.Headless
  | leaf _ _, _, _ => trivial
  | list _ _, _, h => Items.Show.headless h
  | table _, _, h => Entries.Show.headless h

theorem Items.Show.headless :
    ∀ {items : Items} {rs : List Remark}, items.Show rs → items.Headless
  | .last _ _, _, ⟨_, _, _, hbefore, ht⟩ => ⟨hbefore.headless, ht.headless⟩
  | .cons _ _ _, _, ⟨_, _, _, _, hbefore, ht, hmore⟩ =>
      ⟨hbefore.headless, ht.headless, hmore.headless⟩

theorem Entries.Show.headless : ∀ {entries : Entries} {rs : List Remark}, entries.Show rs →
    entries.Headless
  | .last _ _ _, _, ⟨_, _, _, _, ht⟩ => ht.headless
  | .cons _ _ _ _, _, ⟨_, _, _, _, _, ht, hmore⟩ => ⟨ht.headless, hmore.headless⟩

end

end Noted

theorem Headed.Shows.headless {r : Headed} {rs : List Remark} (h : r.Shows rs) :
    r.root.Headless := by
  rw [Headed.Shows] at h
  split at h
  · next hleaf =>
      obtain ⟨before, root⟩ := r
      cases root with
      | leaf x behind => trivial
      | list flush items => cases hleaf
      | table entries => cases hleaf
  · obtain ⟨_, _, -, -, hshows⟩ := h
    exact hshows.headless

theorem Comment.Follows.eq_none {c : Option Comment} (h : Comment.Follows c []) : c = none := by
  rcases h with ⟨-, h⟩ | ⟨d, k, hne, -⟩
  · exact h
  · exact absurd rfl hne

theorem exists_append {α β : Type} {R : α → β → Prop} {bs : List α} :
    ∀ {as : List α} {ys : List β},
    List.Forall₂ R (as ++ bs) ys →
      ∃ xs zs, ys = xs ++ zs ∧ List.Forall₂ R as xs ∧ List.Forall₂ R bs zs
  | [], ys, h => ⟨[], ys, rfl, .nil, h⟩
  | a :: as, _, h => by
      obtain ⟨y, ys, hy, hys, rfl⟩ := List.forall₂_cons_left_iff.mp h
      obtain ⟨xs, zs, rfl, hxs, hzs⟩ := exists_append hys
      exact ⟨y :: xs, zs, rfl, .cons hy hxs, hzs⟩

namespace Attended

variable {kind : TokenKind} {rs : List Remark} {ts : List Attended} {y : Laden} {ys : List Laden}

theorem Is.eq_of_bare (h : ({ kind } : Attended).Is y) : y = { kind } := by
  obtain ⟨before, k, behind⟩ := y
  obtain ⟨hkind, hbefore, hbehind⟩ := h
  cases hkind
  cases hbefore.eq_nil
  cases hbehind.eq_none
  rfl

/-- Of a kind of token without remarks behind it there is a token with comments in front of it. -/
theorem exists_before (h : List.Forall₂ Attended.Is (under rs ({ kind } :: ts)) ys) :
    ∃ before more, ys = { before, kind } :: more ∧ Leading.AreOf before rs ∧
      List.Forall₂ Attended.Is ts more := by
  obtain ⟨⟨before, k, behind⟩, more, ⟨hkind, hbefore, hbehind⟩, hmore, rfl⟩ :=
    List.forall₂_cons_left_iff.mp h
  rw [List.append_nil] at hbefore
  cases hkind
  cases hbehind.eq_none
  exact ⟨before, more, rfl, hbefore, hmore⟩

theorem exists_bare (h : List.Forall₂ Attended.Is ({ kind } :: ts) ys) :
    ∃ more, ys = { kind } :: more ∧ List.Forall₂ Attended.Is ts more := by
  obtain ⟨y, more, hy, hmore, rfl⟩ := List.forall₂_cons_left_iff.mp h
  exact ⟨more, by rw [hy.eq_of_bare], hmore⟩

theorem exists_enclosed {first last : TokenKind}
    (h : List.Forall₂ Attended.Is
      (under rs ({ kind := first } :: (ts ++ [{ kind := last }]))) ys) :
    ∃ before inner, ys = { before, kind := first } :: (inner ++ [{ kind := last }]) ∧
      Leading.AreOf before rs ∧ List.Forall₂ Attended.Is ts inner := by
  obtain ⟨before, more, rfl, hbefore, hmore⟩ := exists_before h
  obtain ⟨inner, rest, rfl, hinner, hrest⟩ := exists_append hmore
  obtain ⟨nothing, rfl, hnothing⟩ := exists_bare hrest
  cases hnothing
  exact ⟨before, inner, rfl, hbefore, hinner⟩

theorem under_nil (ts : List Attended) : under [] ts = ts := by
  cases ts <;> rfl

end Attended

namespace Draft

open Attended (under)

theorem exists_keyTokens {key : Key} {ts : List Attended} {ys : List Laden}
    (h : List.Forall₂ Attended.Is (keyTokens key ++ ts) ys) :
    ∃ more, ys = Noted.keyTokens key ++ more ∧ List.Forall₂ Attended.Is ts more := by
  obtain ⟨ys, rfl, hkey⟩ := Attended.exists_bare h
  obtain ⟨ys, rfl, hcolon⟩ := Attended.exists_bare hkey
  obtain ⟨more, rfl, hmore⟩ := Attended.exists_bare hcolon
  exact ⟨more, rfl, hmore⟩

/-- A leaf with remarks below it. -/
theorem exists_leaf {x : Leaf} {front below : List Remark} {ys : List Laden}
    (h : List.Forall₂ Attended.Is (under front [.leaf x below]) ys) :
    ∃ before behind, ys = [{ before, kind := .scalar x.content x.style [], behind }] ∧
      Leading.AreOf before front ∧ Comment.Follows behind below := by
  obtain ⟨⟨before, kind, behind⟩, more, ⟨hkind, hbefore, hbehind⟩, hmore, rfl⟩ :=
    List.forall₂_cons_left_iff.mp h
  rw [List.append_nil] at hbefore
  cases hkind
  cases hmore
  exact ⟨before, behind, rfl, hbefore, hbehind⟩

mutual

/-- The tokens of a draft with remarks in front of it are those of a noted tree. -/
theorem exists_noted : ∀ (d : Draft) (front : List Remark) {ys : List Laden},
    List.Forall₂ Attended.Is (under front d.tokens) ys →
      ∃ before t, ys = Noted.tokens false before t ∧ t.tree = d.tree ∧
        Leading.AreOf before front ∧ t.Shows d.kept
  | .leaf x e below, front, ys, h => by
      obtain ⟨before, behind, rfl, hbefore, hbehind⟩ := exists_leaf h
      exact ⟨before, .leaf x behind, rfl, rfl, hbefore, hbehind⟩
  | .list items, front, ys, h => by
      obtain ⟨before, inner, rfl, hbefore, hinner⟩ := Attended.exists_enclosed h
      rw [← Attended.under_nil items.tokens] at hinner
      obtain ⟨found, rfl, htrees, hshow⟩ := exists_items items [] hinner
      exact ⟨before, .list false found, rfl, congrArg Tree.list htrees, hbefore, hshow⟩
  | .table entries, front, ys, h => by
      obtain ⟨before, inner, rfl, hbefore, hinner⟩ := Attended.exists_enclosed h
      obtain ⟨found, rfl, htrees, hshow⟩ := exists_entries entries hinner
      exact ⟨before, .table found, rfl, congrArg Tree.table htrees, hbefore, hshow⟩

theorem exists_items : ∀ (items : Items) (front : List Remark) {ys : List Laden},
    List.Forall₂ Attended.Is (under front items.tokens) ys →
      ∃ found : Noted.Items, ys = found.tokens ∧ found.trees = items.trees ∧
        found.Show (front ++ items.kept)
  | .last gap d, front, ys, h => by
      obtain ⟨before, more, rfl, hbefore, hmore⟩ := Attended.exists_before h
      rw [← Attended.under_nil d.tokens] at hmore
      obtain ⟨nothing, t, rfl, htree, hnothing, hshows⟩ := exists_noted d [] hmore
      cases hnothing.eq_nil
      exact ⟨.last before t, rfl, congrArg Tree.Items.last htree, front, _, rfl,
        hbefore, hshows⟩
  | .cons gap d more, front, ys, h => by
      obtain ⟨before, rest, rfl, hbefore, hrest⟩ := Attended.exists_before h
      obtain ⟨xs, zs, rfl, hxs, hzs⟩ := exists_append hrest
      rw [← Attended.under_nil d.tokens] at hxs
      rw [← Attended.under_nil more.tokens] at hzs
      obtain ⟨nothing, t, rfl, htree, hnothing, hshows⟩ := exists_noted d [] hxs
      obtain ⟨found, rfl, htrees, hshow⟩ := exists_items more [] hzs
      cases hnothing.eq_nil
      exact ⟨.cons before t found, rfl, congrArg₂ Tree.Items.cons htree htrees, front, _, _,
        (List.append_assoc _ _ _).symm, hbefore, hshows, hshow⟩

theorem exists_entries : ∀ (entries : Entries) {ys : List Laden},
    List.Forall₂ Attended.Is entries.tokens ys →
      ∃ found : Noted.Entries, ys = found.tokens ∧ found.trees = entries.trees ∧
        found.Show entries.kept
  | .last key v, ys, h => by
      obtain ⟨more, rfl, hmore⟩ := exists_keyTokens h
      obtain ⟨before, t, above, inner, rfl, htree, hkept, hheads, hshows⟩ :=
        exists_member v hmore
      exact ⟨.last key before t, rfl, congrArg (Tree.Entries.last key) htree, above, inner,
        hkept, hheads, hshows⟩
  | .cons key v more, ys, h => by
      obtain ⟨rest, rfl, hrest⟩ := exists_keyTokens h
      obtain ⟨xs, zs, rfl, hxs, hzs⟩ := exists_append hrest
      obtain ⟨before, t, above, inner, rfl, htree, hkept, hheads, hshows⟩ :=
        exists_member v hxs
      obtain ⟨found, rfl, htrees, hshow⟩ := exists_entries more hzs
      exact ⟨.cons key before t found, rfl,
        congrArg₂ (Tree.Entries.cons key) htree htrees, above,
        inner, _, congrArg (· ++ more.kept) hkept, hheads, hshows, hshow⟩

theorem exists_member :
    ∀ (v : Member) {ys : List Laden}, List.Forall₂ Attended.Is v.tokens ys →
    ∃ before t above inner, ys = Noted.tokens true before t ∧ t.tree = v.tree ∧
      v.kept = above ++ inner ∧ t.Heads before above ∧ t.Shows inner
  | .beside gap x e below, ys, h => by
      rw [Member.tokens, ← Attended.under_nil [_]] at h
      obtain ⟨before, behind, rfl, -, hbehind⟩ := exists_leaf h
      exact ⟨before, .leaf x behind, [], below, rfl, rfl, rfl, rfl, hbehind⟩
  | .leaf _ _ above x _ below, ys, h => by
      obtain ⟨before, behind, rfl, -, hbehind⟩ := exists_leaf h
      exact ⟨before, .leaf x behind, [], below, rfl, rfl, rfl, rfl, hbehind⟩
  | .list trailing 0 above items, ys, h => by
      obtain ⟨found, rfl, htrees, hshow⟩ := exists_items items above h
      -- The comments above the first dash are in front of the first item.
      exact ⟨[], .list true found, [], above ++ items.kept, rfl, congrArg Tree.list htrees, rfl,
        Leading.areOf_nil, hshow⟩
  | .list trailing (shift + 1) above items, ys, h => by
      obtain ⟨before, inner, rfl, hbefore, hinner⟩ := Attended.exists_enclosed h
      rw [← Attended.under_nil items.tokens] at hinner
      obtain ⟨found, rfl, htrees, hshow⟩ := exists_items items [] hinner
      exact ⟨before, .list false found, above, items.kept, rfl, congrArg Tree.list htrees, rfl,
        hbefore, hshow⟩
  | .table trailing shift above entries, ys, h => by
      obtain ⟨before, inner, rfl, hbefore, hinner⟩ := Attended.exists_enclosed h
      obtain ⟨found, rfl, htrees, hshow⟩ := exists_entries entries hinner
      exact ⟨before, .table found, above, entries.kept, rfl, congrArg Tree.table htrees, rfl,
        hbefore, hshow⟩

end

end Draft

/-! ## Sheets -/

namespace Sheet

theorem exists_headed (p : Sheet) {ys : List Laden} (h : List.Forall₂ Attended.Is p.tokens ys) :
    ∃ r : Headed, ys = r.tokens ∧ r.IsOf p := by
  obtain ⟨before, t, rfl, htree, hbefore, hshows⟩ := p.draft.exists_noted p.front h
  refine ⟨{ before, root := t }, rfl, htree, ?_⟩
  rw [Headed.Shows, kept, htree]
  split
  · rfl
  · exact ⟨p.front, p.draft.kept, rfl, hbefore, hshows⟩

theorem exists_later : ∀ (ps : List Sheet) {ys : List Laden},
    List.Forall₂ Attended.Is (laterTokens ps) ys →
      ∃ rs, ys = Headed.laterTokens rs ∧ List.Forall₂ Headed.IsOf rs ps
  | [], ys, h => by
      cases h
      exact ⟨[], rfl, .nil⟩
  | p :: ps, ys, h => by
      rw [laterTokens, List.flatMap_cons, List.cons_append, ← laterTokens] at h
      obtain ⟨rest, rfl, hrest⟩ := Attended.exists_bare h
      obtain ⟨xs, zs, rfl, hxs, hzs⟩ := exists_append hrest
      obtain ⟨r, rfl, hr⟩ := p.exists_headed hxs
      obtain ⟨rs, rfl, hrs⟩ := exists_later ps hzs
      exact ⟨r :: rs, rfl, .cons hr hrs⟩

/-- The text of sheets is a stream of the tokens of noted trees with their remarks. -/
theorem exists_stream (p : Sheet) (ps : List Sheet) :
    ∃ r rs, (TokenStream.ofText (texts (p :: ps))).IsOf ({ kind := .streamStart } ::
        (Headed.tokens r ++ (Headed.laterTokens rs ++ [{ kind := .streamEnd }]))) ∧
      List.Forall₂ Headed.IsOf (r :: rs) (p :: ps) := by
  obtain ⟨ys, hstream, hys⟩ :=
    TokenStream.ofText_of_lexesTo (lex_sheets p ps) (p.orderly_allTokens ps false)
  obtain ⟨ys, rfl, hrest⟩ := Attended.exists_bare hys
  obtain ⟨xs, zs, rfl, hxs, hlater⟩ := exists_append hrest
  obtain ⟨others, ending, rfl, hothers, hending⟩ := exists_append hlater
  obtain ⟨nothing, rfl, hnothing⟩ := Attended.exists_bare hending
  cases hnothing
  obtain ⟨r, rfl, hr⟩ := p.exists_headed hxs
  obtain ⟨rs, rfl, hrs⟩ := exists_later ps hothers
  exact ⟨r, rs, hstream, .cons hr hrs⟩

end Sheet

/-! ## The characters of sheets -/

/-- Every character of a text may stand in a text. -/
def Clean (s : List Char) : Prop :=
  ∀ c ∈ s, acceptable c = true

theorem Clean.append {s t : List Char} (hs : Clean s) (ht : Clean t) : Clean (s ++ t) :=
  List.forall_mem_append.mpr ⟨hs, ht⟩

theorem Clean.cons {c : Char} {s : List Char} (hc : acceptable c = true) (hs : Clean s) :
    Clean (c :: s) :=
  List.forall_mem_cons.mpr ⟨hc, hs⟩

theorem Clean.unacceptable?_eq {s : List Char} (hs : Clean s) : unacceptable? s = none := by
  rw [unacceptable?, List.takeWhile_eq_self_iff.mpr hs]
  simp

theorem clean_replicate (n : Nat) {c : Char} (hc : acceptable c = true) :
    Clean (List.replicate n c) :=
  fun _ hx => List.eq_of_mem_replicate hx ▸ hc

theorem clean_spaces (n : Nat) : Clean (List.replicate n ' ') :=
  clean_replicate n rfl

theorem clean_inkOrSpace {s : List Char}
    (hs : ∀ c ∈ s, isInk c = true ∨ c = ' ') : Clean s := by
  intro c hc
  rcases hs c hc with hink | rfl
  · exact acceptable_of_isInk hink
  · rfl

theorem clean_rowEnd (e : RowEnd) : Clean e.chars := by
  have hbreak : Clean e.lineBreak := by
    intro c hc
    rw [RowEnd.lineBreak] at hc
    split at hc
    · simp only [List.mem_cons, List.not_mem_nil, or_false] at hc
      rcases hc with rfl | rfl <;> rfl
    · rw [List.mem_singleton.mp hc]
      rfl
  exact (clean_spaces e.trailing).append hbreak

theorem Remark.clean_texts (rs : List Remark) : Clean (texts rs) := by
  intro c hc
  obtain ⟨r, -, hr⟩ := List.mem_flatMap.mp hc
  have hchars : Clean r.chars := fun c hc => by
    have hchar := r.remarkChars c hc
    simp only [isRemarkChar, Bool.and_eq_true] at hchar
    exact hchar.1
  have hlines : Clean (List.replicate r.blanks '\n') := clean_replicate _ rfl
  exact (clean_spaces r.column).append (.cons rfl (hchars.append (.cons rfl hlines))) c hr

namespace Draft

theorem clean_leaf (x : Leaf) (e : RowEnd) (below : List Remark) :
    Clean (x.chars ++ (e.chars ++ Remark.texts below)) :=
  (clean_inkOrSpace x.inkOrSpace).append ((clean_rowEnd e).append (Remark.clean_texts below))

theorem clean_key (key : Key) {s : List Char} (hs : Clean s) : Clean (key.chars ++ ':' :: s) :=
  (clean_inkOrSpace (mem_of_isPhrase key.fits)).append (.cons rfl hs)

/-- What stands in the rows below a key. -/
theorem clean_under (colon : RowEnd) (above : List Remark) (n : Nat) {s : List Char}
    (hs : Clean s) :
    Clean (colon.chars ++ (Remark.texts above ++ (List.replicate n ' ' ++ s))) :=
  (clean_rowEnd colon).append ((Remark.clean_texts above).append ((clean_spaces n).append hs))

mutual

theorem clean_text : ∀ (d : Draft) (c : Nat), Clean (d.text c)
  | .leaf x e below, _ => clean_leaf x e below
  | .list items, c => clean_items items c
  | .table entries, c => clean_entries entries c

theorem clean_items : ∀ (items : Items) (c : Nat), Clean (items.text c)
  | .last _ d, _ => .cons rfl ((clean_spaces _).append (clean_text d _))
  | .cons _ d more, c =>
      (Clean.cons rfl ((clean_spaces _).append (clean_text d _))).append
        ((clean_spaces c).append (clean_items more c))

theorem clean_entries : ∀ (entries : Entries) (c : Nat), Clean (entries.text c)
  | .last key v, c => clean_key key (clean_member v c)
  | .cons key v more, c =>
      (clean_key key (clean_member v c)).append ((clean_spaces c).append (clean_entries more c))

theorem clean_member : ∀ (v : Member) (c : Nat), Clean (v.text c)
  | .beside _ x e below, _ => (clean_spaces _).append (clean_leaf x e below)
  | .leaf colon _ above x e below, _ => clean_under colon above _ (clean_leaf x e below)
  | .list colon _ above items, _ => clean_under colon above _ (clean_items items _)
  | .table colon _ above entries, _ => clean_under colon above _ (clean_entries entries _)

end

end Draft

namespace Sheet

theorem clean_texts : ∀ ps : List Sheet, Clean (texts ps)
  | [] => by
      rw [texts, List.map_nil]
      exact fun c hc => absurd hc (by simp [List.intercalate])
  | [p] => by
      rw [texts_single]
      exact (Remark.clean_texts _).append ((clean_spaces _).append (p.draft.clean_text _))
  | p :: q :: ps => by
      rw [texts_cons]
      exact ((Remark.clean_texts _).append
        ((clean_spaces _).append (p.draft.clean_text _))).append
        (.cons rfl (.cons rfl (.cons rfl (.cons rfl (clean_texts (q :: ps))))))

/-- What is so of all trees on sheets is so of the noted trees that say the same. -/
theorem forall_tree {P : Tree → Prop} {rs : List Headed} {ps : List Sheet}
    (h : List.Forall₂ Headed.IsOf rs ps) (hps : ∀ p ∈ ps, P p.draft.tree) :
    ∀ r ∈ rs, P r.root.tree := by
  induction h with
  | nil => simp
  | cons hr _ ih =>
      rw [List.forall_mem_cons] at hps ⊢
      exact ⟨hr.tree ▸ hps.1, ih hps.2⟩

/-- The text of sheets is read as the documents of noted trees with their remarks. -/
theorem nodes_texts {ps : List Sheet} (hdepth : ∀ p ∈ ps, p.draft.tree.height ≤ depthLimit) :
    ∃ rs, NodeStream.AreOf rs (.ofText (texts ps)) ∧ List.Forall₂ Headed.IsOf rs ps := by
  cases ps with
  | nil => exact ⟨[], rfl, .nil⟩
  | cons p ps =>
      obtain ⟨r, rs, hstream, hrs⟩ := exists_stream p ps
      have hdepths := forall_tree (P := fun t => t.height ≤ depthLimit) hrs hdepth
      exact ⟨r :: rs, NodeStream.areOf_ofText hdepths (clean_texts _).unacceptable?_eq hstream,
        hrs⟩

/-- What is loaded from the text of sheets: a document for each sheet. -/
theorem load_texts {ps : List Sheet} (hproper : ∀ p ∈ ps, p.draft.tree.Proper)
    (hdepth : ∀ p ∈ ps, p.draft.tree.height ≤ depthLimit) :
    ∃ rs ds, load (texts ps) = .ok ds ∧ List.Forall₂ Headed.IsOf rs ps ∧
      List.Forall₂ Headed.StoredIn rs ds := by
  obtain ⟨rs, hnodes, hrs⟩ := nodes_texts hdepth
  have hpropers := forall_tree (P := Tree.Proper) hrs hproper
  obtain ⟨ds, hload, hstored⟩ := documents_headed hpropers hnodes
  exact ⟨rs, ds, hload, hrs, hstored⟩

end Sheet

/-- Nothing is loaded from a text of remarks alone. -/
theorem load_remarks (rs : List Remark) : load (Remark.texts rs) = .ok [] := by
  obtain ⟨ys, hstream, hys⟩ :=
    TokenStream.ofText_of_lexesTo (lex_remarks rs) (Attended.orderly_remarks rs)
  obtain ⟨ys, rfl, hrest⟩ := Attended.exists_bare hys
  obtain ⟨before, nothing, rfl, -, hnothing⟩ := Attended.exists_before hrest
  cases hnothing
  have hclean : unacceptable? (Remark.texts rs) = none :=
    (Remark.clean_texts rs).unacceptable?_eq
  rw [load, NodeStream.ofText_eq_done hclean hstream]
  rfl

end Yaml
end YamlTidy
