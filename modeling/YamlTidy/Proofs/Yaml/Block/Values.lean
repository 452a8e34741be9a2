import YamlTidy.Proofs.Yaml.Block.Nodes
import YamlTidy.Proofs.Yaml.Noted.Values

/-!
# The values of blocks

A document holds a tree (`Tree.StoredIn`) when it holds a noted tree that says the same and has no
comments.  What is loaded from the text of pages holds their trees (`Page.load_texts`) and says what
they say (`Page.dataOf_texts`).
-/

namespace YamlTidy
namespace Yaml

namespace Tree

/-- A document that holds a tree. -/
def StoredIn (t : Tree) (d : Document) : Prop :=
  ∃ root : Noted, root.Plain ∧ root.tree = t ∧ Headed.StoredIn { before := [], root } d

/-- A document that holds a tree says what the tree says. -/
theorem StoredIn.datum_eq {t : Tree} {d : Document} (h : t.StoredIn d) : d.datum = t.datum := by
  obtain ⟨root, -, rfl, hstored⟩ := h
  exact hstored.datum_eq

end Tree

namespace Page

theorem storedIn_block {p : Page} {d : Document} (h : p.headed.StoredIn d) :
    p.block.tree.StoredIn d :=
  ⟨p.block.noted, p.block.plain_noted, p.block.tree_noted, h⟩

theorem datum_documents {ts : List Tree} {ds : List Document}
    (h : List.Forall₂ Tree.StoredIn ts ds) : ds.map Document.datum = ts.map Tree.datum := by
  induction h with
  | nil => rfl
  | cons h _ ih => rw [List.map_cons, List.map_cons, h.datum_eq, ih]

/-- What is loaded from the text of pages: a document for each page. -/
theorem load_texts {ps : List Page} (hproper : ∀ p ∈ ps, p.block.tree.Proper)
    (hdepth : ∀ p ∈ ps, p.block.tree.height ≤ depthLimit) :
    ∃ ds, load (texts ps) = .ok ds ∧ List.Forall₂ Tree.StoredIn (trees ps) ds := by
  obtain ⟨ds, hload, hstored⟩ := documents_headed (fun r hr => by
    obtain ⟨p, hp, rfl⟩ := List.mem_map.mp hr
    rw [headed, p.block.tree_noted]
    exact hproper p hp) (nodes_texts hdepth)
  rw [List.forall₂_map_left_iff] at hstored
  refine ⟨ds, hload, ?_⟩
  rw [trees, List.forall₂_map_left_iff]
  exact hstored.imp fun _ _ => storedIn_block

/-- The text of pages says what their trees say. -/
theorem dataOf_texts {ps : List Page} (hproper : ∀ p ∈ ps, p.block.tree.Proper)
    (hdepth : ∀ p ∈ ps, p.block.tree.height ≤ depthLimit) :
    dataOf (texts ps) = some ((trees ps).map Tree.datum) := by
  obtain ⟨ds, hload, hstored⟩ := load_texts hproper hdepth
  rw [dataOf_of_load hload, datum_documents hstored]

end Page
end Yaml
end YamlTidy
