import YamlTidy.Proofs.Repair.Agreement
import YamlTidy.Proofs.Yaml.Block.Canonical
import YamlTidy.Proofs.Yaml.Numeral

/-!
# What formatting keeps

The text of pages is formatted to the text of their canonical pages (`format_texts`).  These have
the same trees, so that they say the same, and every later formatting takes them for what they were
made of.  Neither holds of every text: what stands in the way is shown by the texts below.
-/

namespace YamlTidy
namespace Gate

open Yaml

/-! ## Hosts -/

/-- A text of some words that is read as a text. -/
def textPhrase (s : List Char) (begins : s.head?.any opensPhrase = true)
    (fits : isPhrase true s = true) (h : Schema.resolve false s = .str) : Phrase :=
  ⟨s, .str, .text s .plain [] none none, begins, fits, .text h⟩

/-- A key for hosts. -/
def hostsKey : Key :=
  ⟨textPhrase "hosts".toList (by decide) (by decide) (by decide +kernel), by decide, .inl rfl,
    by decide⟩

/-- A host. -/
def dbHost : Leaf :=
  .plain (textPhrase "db one".toList (by decide) (by decide) (by decide +kernel)) (by decide)

/-- A port. -/
def port : Leaf :=
  Numeral.toLeaf ⟨"8080".toList, by decide, by decide, by decide⟩

/-- A name between quotes. -/
def quotedName : Leaf :=
  .quoted ⟨true, "a: b".toList, by decide⟩

/-- Two pages: a table with a list in the column of its key that has a list in it, and a list right
of the left margin with a table in it. -/
def hostsPages : List Page :=
  [⟨0, .table (.last hostsKey (.under { trailing := 1, carriage := true } 0
      (.list (.cons (.beside 0) (.leaf dbHost {})
        (.last (.beside 0) (.list (.last (.beside 0) (.leaf port { trailing := 2 }))))))))⟩,
    ⟨2, .list (.last (.beside 0) (.table (.last hostsKey (.beside 0 quotedName {}))))⟩]

theorem texts_hostsPages :
    Page.texts hostsPages =
      "hosts: \r\n- db one\n- - 8080  \n---\n  - hosts: \"a: b\"\n".toList := by
  rfl

theorem proper_hostsPages : ∀ p ∈ hostsPages, p.block.tree.Proper := by
  intro p hp
  simp only [hostsPages, List.mem_cons, List.not_mem_nil, or_false] at hp
  rcases hp with rfl | rfl
  · exact ⟨trivial, trivial⟩
  · exact trivial

theorem depth_hostsPages : ∀ p ∈ hostsPages, p.block.tree.height ≤ depthLimit := by
  decide

/-! ## Pages -/

section Pages

variable {o : Options} {ps : List Page} (hproper : ∀ p ∈ ps, p.block.tree.Proper)
  (hdepth : ∀ p ∈ ps, p.block.tree.height ≤ depthLimit)

theorem steps_ofOptions (hindent : 1 ≤ o.indent) :
    (Measures.ofOptions o).Steps o.indent.toNat where
  step := by
    change o.indent = _
    omega
  pos := by omega

/-- The canonical pages of pages. -/
def canonicalPages (o : Options) (ps : List Page) : List Page :=
  (Page.trees ps).map (Tree.page (Measures.ofOptions o))

theorem trees_canonicalPages (o : Options) (ps : List Page) :
    Page.trees (canonicalPages o ps) = Page.trees ps := by
  rw [canonicalPages, Page.trees, List.map_map]
  exact (List.map_congr_left fun t _ => t.tree_page _).trans (List.map_id _)

/-- What is so of all trees of pages is so of those of their canonical pages. -/
theorem forall_canonicalPages {P : Tree → Prop} (o : Options) (h : ∀ p ∈ ps, P p.block.tree) :
    ∀ p ∈ canonicalPages o ps, P p.block.tree := by
  intro p hp
  obtain ⟨t, ht, rfl⟩ := List.mem_map.mp hp
  obtain ⟨q, hq, rfl⟩ := List.mem_map.mp ht
  rw [Tree.tree_page]
  exact h q hq

include hproper hdepth

/-- The text of pages is formatted to that of their canonical pages. -/
theorem format_texts (hindent : 1 ≤ o.indent)
    (hunbroken : ∀ p ∈ ps, p.block.tree.Unbroken (Measures.ofOptions o))
    (hroom : o.indent = 1 → ∀ p ∈ ps, p.block.tree.TablesApart) :
    format o (Page.texts ps) = .ok (.formatted (Page.texts (canonicalPages o ps))) := by
  obtain ⟨ds, hload, hstored⟩ := Page.load_texts hproper hdepth
  have hcanonical := canonical_pages (steps_ofOptions hindent) hstored
    (List.forall_mem_map.mpr hunbroken)
    fun hone => List.forall_mem_map.mpr (hroom (by omega))
  rw [format_of_load hload, hcanonical]
  rfl

/-- Pages are formatted to a text that says what they say, as long as there is room: where lines
have a width there may be no spaces in leaves, and with one column for each level no table may be
an item. -/
theorem format_keeps_data (hindent : 1 ≤ o.indent)
    (hunbroken : ∀ p ∈ ps, p.block.tree.Unbroken (Measures.ofOptions o))
    (hroom : o.indent = 1 → ∀ p ∈ ps, p.block.tree.TablesApart) :
    ∃ u, format o (Page.texts ps) = .ok (.formatted u) ∧
      dataOf u = some ((Page.trees ps).map Tree.datum) ∧
      dataOf (Page.texts ps) = some ((Page.trees ps).map Tree.datum) := by
  refine ⟨_, format_texts hproper hdepth hindent hunbroken hroom, ?_,
    Page.dataOf_texts hproper hdepth⟩
  rw [Page.dataOf_texts (forall_canonicalPages o hproper)
    (forall_canonicalPages (P := fun t => t.height ≤ depthLimit) o hdepth), trees_canonicalPages]

end Pages

theorem unbroken_of_width {o : Options} (h : o.lineWidth = none) (t : Tree) :
    t.Unbroken (Measures.ofOptions o) := by
  refine .inl ?_
  rw [Measures.ofOptions, h]

theorem format_keeps_data_hosts :
    ∃ u, format { indent := 4 }
        "hosts: \r\n- db one\n- - 8080  \n---\n  - hosts: \"a: b\"\n".toList =
          .ok (.formatted u) ∧
      dataOf u = some [
        .mapping [(.text "hosts".toList,
          .sequence [.text "db one".toList, .sequence [.int 8080]])],
        .sequence [.mapping [(.text "hosts".toList, .text "a: b".toList)]]] ∧
      dataOf "hosts: \r\n- db one\n- - 8080  \n---\n  - hosts: \"a: b\"\n".toList = some [
        .mapping [(.text "hosts".toList,
          .sequence [.text "db one".toList, .sequence [.int 8080]])],
        .sequence [.mapping [(.text "hosts".toList, .text "a: b".toList)]]] := by
  have hkept := format_keeps_data (o := { indent := 4 }) proper_hostsPages depth_hostsPages
    (by decide) (fun p _ => unbroken_of_width rfl p.block.tree)
      (fun hone => absurd hone (by decide))
  rw [texts_hostsPages] at hkept
  exact hkept

section Pages

variable {o : Options} {ps : List Page} (hproper : ∀ p ∈ ps, p.block.tree.Proper)
  (hdepth : ∀ p ∈ ps, p.block.tree.height ≤ depthLimit)
include hproper hdepth

/-- What pages are formatted to is formatted to itself, and any other formatting takes it for the
pages. -/
theorem format_settles (hindent : 1 ≤ o.indent)
    (hunbroken : ∀ p ∈ ps, p.block.tree.Unbroken (Measures.ofOptions o))
    (hroom : o.indent = 1 → ∀ p ∈ ps, p.block.tree.TablesApart) {u : List Char}
    (hu : format o (Page.texts ps) = .ok (.formatted u)) :
    format o u = .ok (.formatted u) ∧
      ∀ o' : Options, 1 ≤ o'.indent →
        (∀ p ∈ ps, p.block.tree.Unbroken (Measures.ofOptions o')) →
          (o'.indent = 1 → ∀ p ∈ ps, p.block.tree.TablesApart) →
            format o' u = format o' (Page.texts ps) := by
  have hagain : ∀ o' : Options, 1 ≤ o'.indent →
      (∀ p ∈ ps, p.block.tree.Unbroken (Measures.ofOptions o')) →
        (o'.indent = 1 → ∀ p ∈ ps, p.block.tree.TablesApart) →
          format o' u = format o' (Page.texts ps) := by
    intro o' hindent' hunbroken' hroom'
    rw [format_texts hproper hdepth hindent hunbroken hroom] at hu
    cases hu
    rw [format_texts (forall_canonicalPages o hproper)
      (forall_canonicalPages (P := fun t => t.height ≤ depthLimit) o hdepth) hindent'
      (forall_canonicalPages o hunbroken') fun hone => forall_canonicalPages o (hroom' hone),
      format_texts hproper hdepth hindent' hunbroken' hroom', canonicalPages,
      trees_canonicalPages]
    rfl
  exact ⟨(hagain o hindent hunbroken hroom).trans hu, hagain⟩

end Pages

theorem format_settles_hosts :
    format {} "hosts: \r\n- db one\n- - 8080  \n---\n  - hosts: \"a: b\"\n".toList =
        .ok (.formatted
          "hosts:\n  - db one\n  -   - 8080\n---\n- hosts: \"a: b\"\n".toList) ∧
      format {} "hosts:\n  - db one\n  -   - 8080\n---\n- hosts: \"a: b\"\n".toList =
        .ok (.formatted
          "hosts:\n  - db one\n  -   - 8080\n---\n- hosts: \"a: b\"\n".toList) ∧
      format { indent := 4 }
          "hosts:\n  - db one\n  -   - 8080\n---\n- hosts: \"a: b\"\n".toList =
        format { indent := 4 }
          "hosts: \r\n- db one\n- - 8080  \n---\n  - hosts: \"a: b\"\n".toList := by
  have hformat : format {} (Page.texts hostsPages) = .ok (.formatted
      "hosts:\n  - db one\n  -   - 8080\n---\n- hosts: \"a: b\"\n".toList) := by
    decide +kernel
  have hsettled := format_settles proper_hostsPages depth_hostsPages (by decide)
    (fun p _ => unbroken_of_width rfl p.block.tree) (fun hone => absurd hone (by decide)) hformat
  have hother := hsettled.2 { indent := 4 } (by decide)
    (fun p _ => unbroken_of_width rfl p.block.tree) fun hone => absurd hone (by decide)
  rw [texts_hostsPages] at hformat hother
  exact ⟨hformat, hsettled.1, hother⟩

/-- Two ways in which formatting does not keep the data.  With one column per level the entries
below an item's first one are written left of it, and the text is not read again.  And a root
block scalar that ends in a line of three dots loses that line, which is taken for the end of the
document. -/
theorem texts_formatted_to_others :
    format { indent := 1 } "- a: 1\n  b: 2\n".toList =
      .ok (.formatted "- a: 1\n b: 2\n".toList) ∧
      dataOf "- a: 1\n  b: 2\n".toList =
        some [.sequence [.mapping [(.text ['a'], .int 1), (.text ['b'], .int 2)]]] ∧
      dataOf "- a: 1\n b: 2\n".toList = none ∧
      format {} ">-\n...\n".toList = .ok (.formatted ">-\n".toList) ∧
      dataOf ">-\n...\n".toList = some [.text ['.', '.', '.']] ∧
      dataOf ">-\n".toList = some [.text []] := by
  decide +kernel

/-- Two texts that are formatted to texts that are formatted otherwise. -/
theorem texts_formatted_twice :
    format {} "|-\n...\n".toList = .ok (.formatted "|-\n".toList) ∧
      format {} "|-\n".toList = .ok (.formatted "|\n".toList) ∧
      format {} "\n\na: 1\n".toList = .ok (.formatted "\na: 1\n".toList) ∧
      format {} "\na: 1\n".toList = .ok (.formatted "a: 1\n".toList) := by
  decide +kernel

end Gate
end YamlTidy
