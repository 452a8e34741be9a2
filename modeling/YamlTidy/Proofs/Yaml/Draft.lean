import YamlTidy.Proofs.Text.CommentRows
import YamlTidy.Proofs.Yaml.Block

/-!
# Drafts

A *draft* is a block with whole-line comments between its rows.  Below every row that ends in a leaf
or in the colon of a key there may be comments, in any columns and with blank lines behind them, and
so there may in front of the first row of a document.  An item stands beside its dash.

Main definitions:

* `Remark`, a whole-line comment, and `Draft`, whose text in a given column is `Draft.text`;
* `Draft.tree` and `Draft.remarks`, what a draft says and what is remarked in it;
* `Draft.kept`, the remarks but those between a key and a leaf in a row of its own;
* `Sheet`, a draft in a column with comments in front of it, and the text of sheets with markers
  between them (`Sheet.texts`).
-/

namespace YamlTidy
namespace Yaml

open Text

/-! ## Remarks -/

/-- A character that may stand in a comment. -/
def isRemarkChar (c : Char) : Bool :=
  acceptable c && !isBreak c

/-- A comment in a column of a row of its own, with blank lines behind it. -/
structure Remark where
  column : Nat
  /-- What stands behind the number sign. -/
  chars : List Char
  blanks : Nat
  remarkChars : ∀ c ∈ chars, isRemarkChar c = true

namespace Remark

/-- The text of a remark from its number sign on. -/
def body (r : Remark) : List Char :=
  '#' :: (r.chars ++ '\n' :: List.replicate r.blanks '\n')

/-- The text of a remark. -/
def text (r : Remark) : List Char :=
  List.replicate r.column ' ' ++ r.body

/-- The text of remarks below each other. -/
def texts (rs : List Remark) : List Char :=
  rs.flatMap text

/-- The comment row of a remark. -/
def row (r : Remark) : List Char :=
  trimSpaces ('#' :: r.chars)

theorem lineFeed_notMem (r : Remark) : '\n' ∉ r.chars := fun h =>
  absurd (r.remarkChars _ h) (by decide)

/-- At the beginning of a row remarks are told as their rows, and then another row begins. -/
theorem tells_texts : ∀ (remarks : List Remark) {s : List Char} {rs : List (List Char)},
    Tells s rs → AtRowStart s →
      Tells (s ++ texts remarks) (rs ++ remarks.map row) ∧ AtRowStart (s ++ texts remarks)
  | [], s, rs, h, hstart => by
      simpa [texts] using And.intro h hstart
  | r :: more, s, rs, h, hstart => by
      have hfirst := h.append_sign hstart r.column r.blanks r.lineFeed_notMem
      have hrow : AtRowStart (s ++ r.text) := by
        have hlines := AtRowStart.lines (s := s) (List.replicate r.column ' ' ++ '#' :: r.chars)
          r.blanks
        rwa [List.append_assoc, List.cons_append] at hlines
      have hmore := tells_texts more hfirst hrow
      rw [texts, List.flatMap_cons, ← List.append_assoc, List.map_cons, List.append_cons rs]
      exact hmore

end Remark

/-! ## Drafts and their text -/

mutual

/-- A block with comments between its rows. -/
inductive Draft where
  | leaf (x : Leaf) (e : RowEnd) (below : List Remark)
  | list (items : Draft.Items)
  | table (entries : Draft.Entries)

/-- Items, each behind its dash and `gap + 1` spaces. -/
inductive Draft.Items where
  | last (gap : Nat) (d : Draft)
  | cons (gap : Nat) (d : Draft) (more : Draft.Items)

/-- Entries with what stands under their keys. -/
inductive Draft.Entries where
  | last (key : Key) (v : Draft.Member)
  | cons (key : Key) (v : Draft.Member) (more : Draft.Entries)

/-- What stands under a key.  Behind the colon of a key its row ends unless a leaf stands there. -/
inductive Draft.Member where
  /-- A leaf on the row of the key, behind `gap + 1` spaces. -/
  | beside (gap : Nat) (x : Leaf) (e : RowEnd) (below : List Remark)
  /-- A leaf below the key, `shift + 1` columns right of it. -/
  | leaf (colon : RowEnd) (shift : Nat) (above : List Remark) (x : Leaf) (e : RowEnd)
      (below : List Remark)
  /-- A list below the key, `shift` columns right of it. -/
  | list (colon : RowEnd) (shift : Nat) (above : List Remark) (items : Draft.Items)
  /-- A table below the key, `shift + 1` columns right of it. -/
  | table (colon : RowEnd) (shift : Nat) (above : List Remark) (entries : Draft.Entries)

end

namespace Draft

mutual

/-- The text of a draft from where it begins, in column `c` of a row. -/
def text (c : Nat) : Draft → List Char
  | leaf x e below => x.chars ++ (e.chars ++ Remark.texts below)
  | list items => items.text c
  | table entries => entries.text c

/-- The text of items whose dashes stand in column `c`, from the first dash on. -/
def Items.text (c : Nat) : Items → List Char
  | .last gap d => '-' :: (List.replicate (gap + 1) ' ' ++ d.text (c + gap + 2))
  | .cons gap d more =>
      '-' :: (List.replicate (gap + 1) ' ' ++ d.text (c + gap + 2)) ++
        (List.replicate c ' ' ++ more.text c)

/-- The text of entries whose keys stand in column `c`, from the first key on. -/
def Entries.text (c : Nat) : Entries → List Char
  | .last key v => key.chars ++ ':' :: v.text c
  | .cons key v more => key.chars ++ ':' :: v.text c ++ (List.replicate c ' ' ++ more.text c)

/-- The text behind the colon of a key in column `c`. -/
def Member.text (c : Nat) : Member → List Char
  | .beside gap x e below =>
      List.replicate (gap + 1) ' ' ++ (x.chars ++ (e.chars ++ Remark.texts below))
  | .leaf colon shift above x e below =>
      colon.chars ++ (Remark.texts above ++
        (List.replicate (c + 1 + shift) ' ' ++ (x.chars ++ (e.chars ++ Remark.texts below))))
  | .list colon shift above items =>
      colon.chars ++ (Remark.texts above ++
        (List.replicate (c + shift) ' ' ++ items.text (c + shift)))
  | .table colon shift above entries =>
      colon.chars ++ (Remark.texts above ++
        (List.replicate (c + 1 + shift) ' ' ++ entries.text (c + 1 + shift)))

end

mutual

/-- The tree that a draft says. -/
def tree : Draft → Tree
  | leaf x _ _ => .leaf x
  | list items => .list items.trees
  | table entries => .table entries.trees

/-- The trees that items say. -/
def Items.trees : Items → Tree.Items
  | .last _ d => .last d.tree
  | .cons _ d more => .cons d.tree more.trees

/-- The trees that entries say. -/
def Entries.trees : Entries → Tree.Entries
  | .last key v => .last key v.tree
  | .cons key v more => .cons key v.tree more.trees

/-- The tree under a key. -/
def Member.tree : Member → Tree
  | .beside _ x _ _ => .leaf x
  | .leaf _ _ _ x _ _ => .leaf x
  | .list _ _ _ items => .list items.trees
  | .table _ _ _ entries => .table entries.trees

end

mutual

/-- The remarks in a draft. -/
def remarks : Draft → List Remark
  | leaf _ _ below => below
  | list items => items.remarks
  | table entries => entries.remarks

/-- The remarks in items. -/
def Items.remarks : Items → List Remark
  | .last _ d => d.remarks
  | .cons _ d more => d.remarks ++ more.remarks

/-- The remarks in entries. -/
def Entries.remarks : Entries → List Remark
  | .last _ v => v.remarks
  | .cons _ v more => v.remarks ++ more.remarks

/-- The remarks below a key. -/
def Member.remarks : Member → List Remark
  | .beside _ _ _ below => below
  | .leaf _ _ above _ _ below => above ++ below
  | .list _ _ above items => above ++ items.remarks
  | .table _ _ above entries => above ++ entries.remarks

end

mutual

/-- The remarks in a draft but those between a key and a leaf in a row of its own. -/
def kept : Draft → List Remark
  | leaf _ _ below => below
  | list items => items.kept
  | table entries => entries.kept

/-- The kept remarks in items. -/
def Items.kept : Items → List Remark
  | .last _ d => d.kept
  | .cons _ d more => d.kept ++ more.kept

/-- The kept remarks in entries. -/
def Entries.kept : Entries → List Remark
  | .last _ v => v.kept
  | .cons _ v more => v.kept ++ more.kept

/-- The kept remarks below a key. -/
def Member.kept : Member → List Remark
  | .beside _ _ _ below => below
  | .leaf _ _ _ _ _ below => below
  | .list _ _ above items => above ++ items.kept
  | .table _ _ above entries => above ++ entries.kept

end

mutual

theorem kept_sublist : ∀ d : Draft, d.kept.Sublist d.remarks
  | leaf _ _ below => .refl below
  | list items => kept_items_sublist items
  | table entries => kept_entries_sublist entries

theorem kept_items_sublist : ∀ items : Items, items.kept.Sublist items.remarks
  | .last _ d => kept_sublist d
  | .cons _ d more => (kept_sublist d).append (kept_items_sublist more)

theorem kept_entries_sublist : ∀ entries : Entries, entries.kept.Sublist entries.remarks
  | .last _ v => kept_member_sublist v
  | .cons _ v more => (kept_member_sublist v).append (kept_entries_sublist more)

theorem kept_member_sublist : ∀ v : Member, v.kept.Sublist v.remarks
  | .beside _ _ _ below => .refl below
  | .leaf _ _ above _ _ below => List.sublist_append_right above below
  | .list _ _ above items => (kept_items_sublist items).append_left above
  | .table _ _ above entries => (kept_entries_sublist entries).append_left above

end

/-! ## The comment rows of a text -/

theorem sign_notMem_rowEnd (e : RowEnd) : '#' ∉ e.chars := by
  obtain ⟨trailing, carriage⟩ := e
  cases carriage <;> simp [RowEnd.chars, RowEnd.lineBreak]

theorem exists_rowEnd_append (e : RowEnd) : ∃ front, e.chars = front ++ ['\n'] := by
  obtain ⟨trailing, carriage⟩ := e
  cases carriage with
  | false => exact ⟨_, rfl⟩
  | true =>
      exact ⟨List.replicate trailing ' ' ++ ['\r'], by simp [RowEnd.chars, RowEnd.lineBreak]⟩

/-- No comment begins with a phrase. -/
theorem commentRow?_phrase (p : Phrase) : commentRow? p.chars = none := by
  obtain ⟨c, rest, hcons, hc⟩ := p.exists_cons
  rw [hcons]
  exact commentRow?_cons (ne_of_class hc (by decide)) (ne_of_class hc (by decide))

/-- No comment begins with a leaf. -/
theorem commentRow?_leaf : ∀ x : Leaf, commentRow? x.chars = none
  | .plain p _ => commentRow?_phrase p
  | .quoted q => by
      refine commentRow?_cons ?_ ?_ <;> cases q.double <;> decide

theorem lineFeed_notMem_phrase (p : Phrase) : '\n' ∉ p.chars := fun h =>
  absurd (mem_of_isPhrase p.fits '\n' h) (by decide)

theorem lineFeed_notMem_leaf (x : Leaf) : '\n' ∉ x.chars := fun h =>
  absurd (x.inkOrSpace '\n' h) (by decide)

section Tells

variable {s : List Char} {rs : List (List Char)} (h : Tells s rs)
include h

/-- Below the end of a row remarks are told. -/
theorem tells_below (e : RowEnd) (remarks : List Remark) :
    Tells (s ++ (e.chars ++ Remark.texts remarks)) (rs ++ remarks.map Remark.row) := by
  obtain ⟨front, hfront⟩ := exists_rowEnd_append e
  have hrow := h.append (sign_notMem_rowEnd e)
  have hstart : AtRowStart (s ++ e.chars) :=
    .inr ⟨s ++ front, by rw [hfront, List.append_assoc]⟩
  rw [← List.append_assoc]
  exact (Remark.tells_texts remarks hrow hstart).1

theorem tells_leaf (x : Leaf) (e : RowEnd) (below : List Remark) :
    Tells (s ++ (x.chars ++ (e.chars ++ Remark.texts below))) (rs ++ below.map Remark.row) := by
  have hleaf := h.append_inline (lineFeed_notMem_leaf x) (commentRow?_leaf x)
  rw [← List.append_assoc]
  exact tells_below hleaf e below

theorem tells_spaces (n : Nat) : Tells (s ++ List.replicate n ' ') rs :=
  h.append (by simp)

theorem tells_key (key : Key) : Tells (s ++ (key.chars ++ [':'])) rs := by
  have hkey := h.append_inline (lineFeed_notMem_phrase key.toPhrase)
    (commentRow?_phrase key.toPhrase)
  rw [← List.append_assoc]
  exact hkey.append (by decide)

theorem tells_dash (gap : Nat) : Tells (s ++ ('-' :: List.replicate (gap + 1) ' ')) rs :=
  h.append (by simp)

end Tells

mutual

/-- The comment rows of a draft are its remarks. -/
theorem tells_text : ∀ (d : Draft) (c : Nat) {s : List Char} {rs : List (List Char)},
    Tells s rs → Tells (s ++ d.text c) (rs ++ d.remarks.map Remark.row)
  | .leaf x e below, _, _, _, h => tells_leaf h x e below
  | .list items, c, _, _, h => tells_items items c h
  | .table entries, c, _, _, h => tells_entries entries c h

theorem tells_items : ∀ (items : Items) (c : Nat) {s : List Char} {rs : List (List Char)},
    Tells s rs → Tells (s ++ items.text c) (rs ++ items.remarks.map Remark.row)
  | .last gap d, c, s, rs, h => by
      simpa [Items.text, Items.remarks] using tells_text d (c + gap + 2) (tells_dash h gap)
  | .cons gap d more, c, s, rs, h => by
      have hitem := tells_text d (c + gap + 2) (tells_dash h gap)
      simpa [Items.text, Items.remarks] using tells_items more c (tells_spaces hitem c)

theorem tells_entries : ∀ (entries : Entries) (c : Nat) {s : List Char} {rs : List (List Char)},
    Tells s rs → Tells (s ++ entries.text c) (rs ++ entries.remarks.map Remark.row)
  | .last key v, c, s, rs, h => by
      simpa [Entries.text, Entries.remarks] using tells_member v c (tells_key h key)
  | .cons key v more, c, s, rs, h => by
      have hentry := tells_member v c (tells_key h key)
      simpa [Entries.text, Entries.remarks] using tells_entries more c (tells_spaces hentry c)

theorem tells_member : ∀ (v : Member) (c : Nat) {s : List Char} {rs : List (List Char)},
    Tells s rs → Tells (s ++ v.text c) (rs ++ v.remarks.map Remark.row)
  | .beside gap x e below, _, s, rs, h => by
      simpa [Member.text, Member.remarks] using tells_leaf (tells_spaces h (gap + 1)) x e below
  | .leaf colon shift above x e below, c, s, rs, h => by
      have habove := tells_spaces (tells_below h colon above) (c + 1 + shift)
      simpa [Member.text, Member.remarks] using tells_leaf habove x e below
  | .list colon shift above items, c, s, rs, h => by
      have habove := tells_spaces (tells_below h colon above) (c + shift)
      simpa [Member.text, Member.remarks] using tells_items items (c + shift) habove
  | .table colon shift above entries, c, s, rs, h => by
      have habove := tells_spaces (tells_below h colon above) (c + 1 + shift)
      simpa [Member.text, Member.remarks] using tells_entries entries (c + 1 + shift) habove

end

end Draft

/-! ## Sheets -/

/-- A draft in a column with comments in front of it, as the only thing in a document. -/
structure Sheet where
  front : List Remark
  column : Nat
  draft : Draft

namespace Sheet

/-- The text of a sheet. -/
def text (p : Sheet) : List Char :=
  Remark.texts p.front ++ (List.replicate p.column ' ' ++ p.draft.text p.column)

/-- The text of some sheets: their texts with a marker between each two of them. -/
def texts (ps : List Sheet) : List Char :=
  documentStart.intercalate (ps.map text)

/-- The remarks on a sheet. -/
def remarks (p : Sheet) : List Remark :=
  p.front ++ p.draft.remarks

/-- The kept remarks on a sheet.  There are none if it holds a mere leaf. -/
def kept (p : Sheet) : List Remark :=
  if p.draft.tree.isLeaf then [] else p.front ++ p.draft.kept

theorem kept_sublist (p : Sheet) : p.kept.Sublist p.remarks := by
  rw [kept]
  split
  · exact List.nil_sublist _
  · exact p.draft.kept_sublist.append_left p.front

/-- At the beginning of a row a sheet tells its remarks. -/
theorem tells_text (p : Sheet) {s : List Char} {rs : List (List Char)} (h : Tells s rs)
    (hstart : AtRowStart s) : Tells (s ++ p.text) (rs ++ p.remarks.map Remark.row) := by
  have hfront := (Remark.tells_texts p.front h hstart).1
  have hspaces := hfront.append (t := List.replicate p.column ' ') (by simp)
  simpa [text, remarks] using p.draft.tells_text p.column hspaces

theorem texts_single (p : Sheet) : texts [p] = p.text := by
  simp [texts, List.intercalate]

theorem texts_cons (p q : Sheet) (ps : List Sheet) :
    texts (p :: q :: ps) = p.text ++ '-' :: '-' :: '-' :: '\n' :: texts (q :: ps) := by
  simp [texts, List.intercalate, documentStart]

/-- The comment rows of sheets are their remarks. -/
theorem tells_texts : ∀ (ps : List Sheet) {s : List Char} {rs : List (List Char)}, Tells s rs →
    AtRowStart s → Tells (s ++ texts ps) (rs ++ (ps.flatMap remarks).map Remark.row)
  | [], s, rs, h, _ => by simpa [texts, List.intercalate] using h
  | [p], s, rs, h, hstart => by simpa [texts_single] using p.tells_text h hstart
  | p :: q :: ps, s, rs, h, hstart => by
      have hmarker := (p.tells_text h hstart).append (t := ['-', '-', '-', '\n']) (by simp)
      have hmore :=
        tells_texts (q :: ps) hmarker (.inr ⟨s ++ p.text ++ ['-', '-', '-'], by simp⟩)
      simpa [texts_cons] using hmore

theorem commentRows_texts (ps : List Sheet) :
    commentRows (texts ps) = (ps.flatMap remarks).map Remark.row :=
  (tells_texts ps .nil (.inl rfl)).1

end Sheet
end Yaml
end YamlTidy
