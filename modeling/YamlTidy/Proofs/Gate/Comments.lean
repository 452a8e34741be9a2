import YamlTidy.Proofs.Gate.Formatted
import YamlTidy.Proofs.Yaml.Draft.Canonical

/-!
# The comments that formatting keeps

From sheets nearly every comment reaches the formatted text.  A leaf at the root of a document
takes all comments of its document with it, comments between a key and a leaf in a row of its own
are lost, and a text of comments alone has no document that could hold them.  All other comments
of sheets are kept in their order (`format_keeps_comments`), however the layout moves the rows
around them.  Only where a scalar is broken at a space could its second row be taken for a
comment.
-/

namespace YamlTidy
namespace Yaml

open Text

namespace Sheet

theorem flatMap_kept_sublist : ∀ ps : List Sheet, (ps.flatMap kept).Sublist (ps.flatMap remarks)
  | [] => .slnil
  | p :: ps => p.kept_sublist.append (flatMap_kept_sublist ps)

/-- If as many remarks are kept as there are, each sheet keeps its own. -/
theorem forall_kept_eq : ∀ {ps : List Sheet},
    (ps.flatMap kept).length = (ps.flatMap remarks).length → ∀ p ∈ ps, p.kept = p.remarks
  | [], _ => by simp
  | p :: ps, h => by
      have hfirst := p.kept_sublist.length_le
      have hothers := (flatMap_kept_sublist ps).length_le
      rw [List.flatMap_cons, List.flatMap_cons, List.length_append, List.length_append] at h
      exact List.forall_mem_cons.mpr
        ⟨p.kept_sublist.eq_of_length (by omega), forall_kept_eq (by omega)⟩

theorem map_row_kept_eq_iff (ps : List Sheet) :
    (ps.flatMap kept).map Remark.row = (ps.flatMap remarks).map Remark.row ↔
      ∀ p ∈ ps, p.kept = p.remarks := by
  constructor
  · intro h
    have hlength := congrArg List.length h
    rw [List.length_map, List.length_map] at hlength
    exact forall_kept_eq hlength
  · intro h
    rw [List.flatMap_congr h]

end Sheet
end Yaml

namespace Gate

open Yaml Text

/-- What formatting does to comments.  A text of comments alone becomes empty.  The text of sheets
is formatted to a text whose comment rows are the kept remarks of the sheets: they are some of the
comment rows of the sheets, in the same order, and they are all of them exactly when each sheet
keeps its remarks. -/
theorem format_keeps_comments {o : Options} {ps : List Sheet}
    (hproper : ∀ p ∈ ps, p.draft.tree.Proper)
    (hdepth : ∀ p ∈ ps, p.draft.tree.height ≤ depthLimit)
    (hunbroken : ∀ p ∈ ps, p.draft.tree.Unbroken (Measures.ofOptions o)) :
    (∀ rs : List Remark, format o (Remark.texts rs) = .ok (.formatted [])) ∧
      ∃ u, format o (Sheet.texts ps) = .ok (.formatted u) ∧
        commentRows u = (ps.flatMap Sheet.kept).map Remark.row ∧
        (commentRows u).Sublist (commentRows (Sheet.texts ps)) ∧
        (commentRows u = commentRows (Sheet.texts ps) ↔ ∀ p ∈ ps, p.kept = p.remarks) := by
  refine ⟨fun rs => ?_, ?_⟩
  · rw [format_of_load (load_remarks rs)]
    rfl
  · obtain ⟨hs, ds, hload, hof, hstored⟩ := Sheet.load_texts hproper hdepth
    obtain ⟨u, hcanonical, hrows⟩ := Sheet.commentRows_canonical hof hstored hunbroken
    refine ⟨u, ?_, hrows, ?_, ?_⟩
    · rw [format_of_load hload, hcanonical]
      rfl
    · rw [hrows, Sheet.commentRows_texts]
      exact (Sheet.flatMap_kept_sublist ps).map _
    · rw [hrows, Sheet.commentRows_texts]
      exact Sheet.map_row_kept_eq_iff ps

/-- A remark with no blank lines behind it. -/
def remark (column : Nat) (chars : List Char) (h : chars.all isRemarkChar = true) : Remark :=
  ⟨column, chars, 0, List.all_eq_true.mp h⟩

/-- Two sheets: one with comments in front of it and between its rows, and one with a comment that
is lost. -/
def hostsSheets : List Sheet :=
  [⟨[remark 0 " all".toList (by decide)], 0, .table (.last hostsKey (.list { trailing := 1 } 0
      [remark 2 " one".toList (by decide)]
      (.cons 0 (.leaf dbHost {} [remark 0 " two".toList (by decide)])
        (.last 0 (.leaf port { carriage := true } [])))))⟩,
    ⟨[], 0, .table (.last hostsKey (.leaf {} 0 [remark 0 " lost".toList (by decide)]
      quotedName {} []))⟩]

theorem texts_hostsSheets :
    Sheet.texts hostsSheets = String.toList
      "# all\nhosts: \n  # one\n- db one\n# two\n- 8080\r\n---\nhosts:\n# lost\n \"a: b\"\n" := by
  rfl

theorem format_keeps_comments_hosts :
    ∃ u, format { indent := 4 } (String.toList
        "# all\nhosts: \n  # one\n- db one\n# two\n- 8080\r\n---\nhosts:\n# lost\n \"a: b\"\n") =
          .ok (.formatted u) ∧
      commentRows u = ["# all".toList, "# one".toList, "# two".toList] := by
  have hproper : ∀ p ∈ hostsSheets, p.draft.tree.Proper := by
    intro p hp
    simp only [hostsSheets, List.mem_cons, List.not_mem_nil, or_false] at hp
    rcases hp with rfl | rfl
    · exact ⟨trivial, trivial⟩
    · exact trivial
  have hkept : (hostsSheets.flatMap Sheet.kept).map Remark.row =
      ["# all".toList, "# one".toList, "# two".toList] := by
    rfl
  obtain ⟨-, u, hformat, hrows, -⟩ := format_keeps_comments (o := { indent := 4 }) hproper
    (by decide) fun p _ => unbroken_of_width rfl p.draft.tree
  rw [texts_hostsSheets] at hformat
  exact ⟨u, hformat, hrows.trans hkept⟩

/-- Texts that lose comments: one of a comment alone, two with a mere word or nothing in a document,
one with a comment between a key and a word, and one with a comment in front of the first marker. -/
theorem comments_that_are_dropped :
    format {} "# a\n".toList = .ok (.formatted []) ∧
      format {} "# a\nb\n# c\n".toList = .ok (.formatted "b\n".toList) ∧
      format {} "---\n# a\n".toList = .ok (.formatted "null\n".toList) ∧
      format {} "a:\n  # b\n  c\n".toList = .ok (.formatted "a: c\n".toList) ∧
      format {} "# a\n---\nb: c\n".toList = .ok (.formatted "b: c\n".toList) ∧
      commentRows "# a\n".toList = ["# a".toList] ∧
      commentRows "# a\nb\n# c\n".toList = ["# a".toList, "# c".toList] ∧
      commentRows "---\n# a\n".toList = ["# a".toList] ∧
      commentRows "a:\n  # b\n  c\n".toList = ["# b".toList] ∧
      commentRows "# a\n---\nb: c\n".toList = ["# a".toList] := by
  decide +kernel

end Gate
end YamlTidy
