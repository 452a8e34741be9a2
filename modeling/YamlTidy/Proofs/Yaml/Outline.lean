import YamlTidy.Proofs.Yaml.Leaf

/-!
# Outlines

An *outline* is a document in block style as people write it by hand: a mapping whose values are
leaves, lists of leaves and mappings of the same kind.  It comes with the columns in which it is
written: every inner mapping stands some columns right of its key, at least one, and every list
stands some columns right of its key, possibly none.  Behind each row there may be spaces and a
carriage return.

Main definitions:

* `Outline`, its text in a given column and its data;
* `Outline.Proper`, which says that no mapping has a key twice and no inner mapping is empty;
* `Outline.reshape`, the outline with other columns and nothing behind its rows; `realigned` and
  `regular` are the two shapes that a repair and the canonical layout give it.
-/

namespace YamlTidy
namespace Yaml

open Text

/-- A leaf and what stands behind it on its row. -/
structure LeafRow where
  leaf : Leaf
  rowEnd : RowEnd := {}

/-- The entries of a mapping with the columns in which they are written. -/
inductive Outline where
  | nil
  /-- A key with a leaf behind it. -/
  | leaf (key : Key) (value : LeafRow) (more : Outline)
  /-- A key with a list below it, `offset` columns to its right. -/
  | list (key : Key) (e : RowEnd) (offset : Nat) (first : LeafRow) (others : List LeafRow)
      (more : Outline)
  /-- A key with a mapping below it, `step + 1` columns to its right. -/
  | inner (key : Key) (e : RowEnd) (step : Nat) (body : Outline) (more : Outline)

namespace Outline

/-- A row with its content in the given column. -/
def row (column : Nat) (content : List Char) : List Char :=
  List.replicate column ' ' ++ content

/-- The content of the row of a key with a leaf behind it. -/
def valued (key : Key) (x : Leaf) : List Char :=
  key.chars ++ ':' :: ' ' :: x.chars

/-- The content of an item's row. -/
def dashed (x : Leaf) : List Char :=
  '-' :: ' ' :: x.chars

/-- The rows of an outline whose keys stand in the given column, each with what ends it. -/
def rows : Nat → Outline → List (List Char × RowEnd)
  | _, nil => []
  | column, leaf key value more =>
      (row column (valued key value.leaf), value.rowEnd) :: rows column more
  | column, list key e offset first others more =>
      (row column (key.chars ++ [':']), e) ::
        ((first :: others).map fun x => (row (column + offset) (dashed x.leaf), x.rowEnd)) ++
          rows column more
  | column, inner key e step body more =>
      (row column (key.chars ++ [':']), e) :: rows (column + step + 1) body ++ rows column more

/-- The text of rows. -/
def rowsText (rs : List (List Char × RowEnd)) : List Char :=
  rs.flatMap fun r => r.1 ++ r.2.chars

/-- The text of an outline. -/
def text (column : Nat) (o : Outline) : List Char :=
  rowsText (o.rows column)

/-- The entries of an outline as data. -/
def entries : Outline → List (Datum × Datum)
  | nil => []
  | leaf key value more => (key.datum, value.leaf.datum) :: more.entries
  | list key _ _ first others more =>
      (key.datum, .sequence ((first :: others).map (·.leaf.datum))) :: more.entries
  | inner key _ _ body more => (key.datum, .mapping body.entries) :: more.entries

/-- What an outline says. -/
def datum (o : Outline) : Datum :=
  .mapping o.entries

/-- The keys of an outline, those of inner mappings aside. -/
def keys : Outline → List (List Char)
  | nil => []
  | leaf key _ more => key.chars :: more.keys
  | list key _ _ _ _ more => key.chars :: more.keys
  | inner key _ _ _ more => key.chars :: more.keys

/-- All scalars of an outline as they stand on their rows. -/
def scalars : Outline → List (List Char)
  | nil => []
  | leaf key value more => key.chars :: value.leaf.chars :: more.scalars
  | list key _ _ first others more =>
      key.chars :: (first :: others).map (·.leaf.chars) ++ more.scalars
  | inner key _ _ body more => key.chars :: body.scalars ++ more.scalars

/-- How deeply collections are nested below the outline. -/
def height : Outline → Nat
  | nil => 0
  | leaf _ _ more => more.height
  | list _ _ _ _ _ more => max 1 more.height
  | inner _ _ _ body more => max (body.height + 1) more.height

/-- No mapping has a key twice, and no inner mapping is empty. -/
def Proper : Outline → Prop
  | nil => True
  | leaf key _ more => key.chars ∉ more.keys ∧ more.Proper
  | list key _ _ _ _ more => key.chars ∉ more.keys ∧ more.Proper
  | inner key _ _ body more =>
      key.chars ∉ more.keys ∧ body ≠ nil ∧ body.Proper ∧ more.Proper

/-! ## Other columns -/

/-- A leaf without anything behind it on its row. -/
def bare (x : LeafRow) : LeafRow :=
  { x with rowEnd := {} }

/-- The outline in other columns, without anything behind its rows. -/
def reshape (offset step : Nat → Nat) : Outline → Outline
  | nil => nil
  | leaf key value more => leaf key (bare value) (more.reshape offset step)
  | list key _ n first others more =>
      list key {} (offset n) (bare first) (others.map bare) (more.reshape offset step)
  | inner key _ n body more =>
      inner key {} (step n) (body.reshape offset step) (more.reshape offset step)

/-- The outline with every list two columns right of its key. -/
def realigned (o : Outline) : Outline :=
  o.reshape (fun _ => 2) id

/-- The outline with every list and every inner mapping two columns right of its key. -/
def regular (o : Outline) : Outline :=
  o.reshape (fun _ => 2) fun _ => 1

section Reshape

variable (offset step : Nat → Nat)

theorem entries_reshape (o : Outline) : (o.reshape offset step).entries = o.entries := by
  induction o with
  | nil => rfl
  | leaf key value more ih => simp [reshape, entries, bare, ih]
  | list key e n first others more ih => simp [reshape, entries, bare, ih]
  | inner key e n body more ihBody ih => simp [reshape, entries, ihBody, ih]

/-- In other columns an outline says the same. -/
theorem datum_reshape (o : Outline) : (o.reshape offset step).datum = o.datum := by
  simp [datum, entries_reshape]

theorem keys_reshape (o : Outline) : (o.reshape offset step).keys = o.keys := by
  induction o with
  | nil => rfl
  | leaf key value more ih => simp [reshape, keys, ih]
  | list key e n first others more ih => simp [reshape, keys, ih]
  | inner key e n body more _ ih => simp [reshape, keys, ih]

theorem height_reshape (o : Outline) : (o.reshape offset step).height = o.height := by
  induction o with
  | nil => rfl
  | leaf key value more ih => simp [reshape, height, ih]
  | list key e n first others more ih => simp [reshape, height, ih]
  | inner key e n body more ihBody ih => simp [reshape, height, ihBody, ih]

theorem reshape_eq_nil_iff {o : Outline} : o.reshape offset step = nil ↔ o = nil := by
  cases o <;> simp [reshape]

theorem proper_reshape {o : Outline} (h : o.Proper) : (o.reshape offset step).Proper := by
  induction o with
  | nil => trivial
  | leaf key value more ih => exact ⟨by simpa [keys_reshape] using h.1, ih h.2⟩
  | list key e n first others more ih => exact ⟨by simpa [keys_reshape] using h.1, ih h.2⟩
  | inner key e n body more ihBody ih =>
      obtain ⟨hkey, hne, hbody, hmore⟩ := h
      refine ⟨by simpa [keys_reshape] using hkey, ?_, ihBody hbody, ih hmore⟩
      exact fun e => hne ((reshape_eq_nil_iff offset step).mp e)

end Reshape

/-- Once the lists are in place, the canonical columns are the same. -/
theorem regular_realigned (o : Outline) : o.realigned.regular = o.regular := by
  unfold realigned regular
  induction o with
  | nil => rfl
  | leaf key value more ih => simp [reshape, bare, ih]
  | list key e n first others more ih => simp [reshape, bare, ih]
  | inner key e n body more ihBody ih => simp [reshape, ihBody, ih]

/-! ## The contents of its rows -/

/-- The content of a row of an outline whose scalars are the given ones. -/
inductive IsContent (scalars : List (List Char)) : List Char → Prop
  | valued (key : Key) (x : Leaf) (hkey : key.chars ∈ scalars) (hx : x.chars ∈ scalars) :
      IsContent scalars (valued key x)
  | key (key : Key) (hkey : key.chars ∈ scalars) : IsContent scalars (key.chars ++ [':'])
  | dashed (x : Leaf) (hx : x.chars ∈ scalars) : IsContent scalars (dashed x)

/-- A row of an outline whose scalars are the given ones. -/
def IsRow (scalars : List (List Char)) (r : List Char) : Prop :=
  ∃ column content, r = row column content ∧ IsContent scalars content

theorem IsRow.mono {scalars more : List (List Char)} {r : List Char} (h : IsRow scalars r)
    (hsub : scalars ⊆ more) : IsRow more r := by
  obtain ⟨column, content, hrow, hcontent⟩ := h
  refine ⟨column, content, hrow, ?_⟩
  cases hcontent with
  | valued key x hkey hx => exact .valued key x (hsub hkey) (hsub hx)
  | key key hkey => exact .key key (hsub hkey)
  | dashed x hx => exact .dashed x (hsub hx)

/-- The rows of an outline are such rows. -/
theorem isRow_of_mem_rows (o : Outline) {column : Nat} {r : List Char × RowEnd}
    (hr : r ∈ o.rows column) : IsRow o.scalars r.1 := by
  induction o generalizing column with
  | nil => cases hr
  | leaf key value more ih =>
      rcases List.mem_cons.mp hr with rfl | hmore
      · exact ⟨_, _, rfl, .valued key value.leaf (by simp [scalars]) (by simp [scalars])⟩
      · exact (ih hmore).mono fun x hx => by simp [scalars, hx]
  | list key e offset first others more ih =>
      simp only [rows, List.cons_append, List.mem_cons, List.mem_append, List.mem_map] at hr
      rcases hr with rfl | ⟨x, hx, rfl⟩ | hmore
      · exact ⟨_, _, rfl, .key key (by simp [scalars])⟩
      · refine ⟨_, _, rfl, .dashed x.leaf ?_⟩
        simp only [scalars, List.cons_append, List.mem_cons, List.mem_append, List.mem_map]
        exact .inr (.inl ⟨x, hx, rfl⟩)
      · exact (ih hmore).mono fun x hx => by simp [scalars, hx]
  | inner key e step body more ihBody ih =>
      simp only [rows, List.cons_append, List.mem_cons, List.mem_append] at hr
      rcases hr with rfl | hbody | hmore
      · exact ⟨_, _, rfl, .key key (by simp [scalars])⟩
      · exact (ihBody hbody).mono fun x hx => by simp [scalars, hx]
      · exact (ih hmore).mono fun x hx => by simp [scalars, hx]

theorem inkOrSpace_content {scalars : List (List Char)} {content : List Char}
    (h : IsContent scalars content) : ∀ c ∈ content, isInk c = true ∨ c = ' ' := by
  have hcolon : isInk ':' = true := by decide
  have hdash : isInk '-' = true := by decide
  intro c hc
  cases h with
  | valued key x _ _ =>
      simp only [valued, List.mem_append, List.mem_cons] at hc
      rcases hc with hkey | rfl | rfl | hx
      · exact mem_of_isPhrase key.fits c hkey
      · exact .inl hcolon
      · exact .inr rfl
      · exact x.inkOrSpace c hx
  | key key _ =>
      rcases List.mem_append.mp hc with hkey | hmark
      · exact mem_of_isPhrase key.fits c hkey
      · exact .inl (List.mem_singleton.mp hmark ▸ hcolon)
  | dashed x _ =>
      simp only [dashed, List.mem_cons] at hc
      rcases hc with rfl | rfl | hx
      · exact .inl hdash
      · exact .inr rfl
      · exact x.inkOrSpace c hx

/-- There is nothing but visible characters and spaces in the rows of an outline. -/
theorem inkOrSpace_of_mem_rows (o : Outline) {column : Nat} {r : List Char × RowEnd}
    (hr : r ∈ o.rows column) : ∀ c ∈ r.1, isInk c = true ∨ c = ' ' := by
  obtain ⟨n, content, hrow, hcontent⟩ := o.isRow_of_mem_rows hr
  intro c hc
  rw [hrow] at hc
  rcases List.mem_append.mp hc with hspace | hmem
  · exact .inr (List.eq_of_mem_replicate hspace)
  · exact inkOrSpace_content hcontent c hmem

end Outline
end Yaml
end YamlTidy
