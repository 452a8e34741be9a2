import YamlTidy.Proofs.Yaml.Draft.Written
import YamlTidy.Proofs.Yaml.Margin

/-!
# The comment rows of canonical texts

What is done to a text behind the writer leaves its comment rows as they are: the end marker of a
document is cut off, a list is pulled back to the left margin, and documents are put one behind the
other.  So the canonical text of what is read from sheets has the kept remarks of the sheets for its
comment rows (`Sheet.commentRows_canonical`).
-/

namespace YamlTidy
namespace Text

theorem commentRow?_spaces (n : Nat) (row : List Char) :
    commentRow? (List.replicate n ' ' ++ row) = commentRow? row := by
  rw [commentRow?, trimSpaces_append_spaces, List.dropWhile_append_of_pos
    fun c hc => by rw [List.eq_of_mem_replicate hc]; rfl]
  rfl

end Text

namespace Yaml

open Text

variable {s t : List Char} {rs : List (List Char)}

/-! ## The left margin -/

theorem commentRow?_pullBack (step : Int) (row : List Char) :
    commentRow? (pullBack (spaces step) row) = commentRow? row := by
  by_cases h : spaces step <+: row
  · obtain ⟨back, rfl⟩ := h
    rw [pullBack_append, spaces, commentRow?_spaces]
  · rw [pullBack_of_not_indented h]

theorem pullBack_suffix (indent line : List Char) : pullBack indent line <:+ line := by
  rw [pullBack]
  split
  · exact List.drop_suffix _ line
  · exact List.suffix_rfl

theorem commentRows_pulledRows (step : Int) (s : List Char) :
    commentRows (pulledRows step s) = commentRows s := by
  have hrows : ∀ row ∈ (rows s).map (pullBack (spaces step)), '\n' ∉ row := by
    intro row hrow hfeed
    obtain ⟨r, hr, rfl⟩ := List.mem_map.mp hrow
    exact lineFeed_not_mem_rows hr ((pullBack_suffix _ r).mem hfeed)
  have hne : (rows s).map (pullBack (spaces step)) ≠ [] := by
    simpa using rows_ne_nil s
  rw [commentRows, pulledRows, rows_joinRows hne hrows, List.filterMap_map]
  exact congrArg (List.filterMap · (rows s)) (funext (commentRow?_pullBack step))

theorem pulledRows_append (step : Int) (front tail : List Char) :
    pulledRows step (front ++ '\n' :: tail) =
      pulledRows step front ++ '\n' :: pulledRows step tail := by
  rw [pulledRows, rows_append, List.map_append]
  exact joinRows_append (by simpa using rows_ne_nil front) (by simpa using rows_ne_nil tail)

/-- Rows that are pulled back tell what they told. -/
theorem tells_pulledRows (step : Int) (h : Tells s rs) : Tells (pulledRows step s) rs := by
  obtain ⟨hrows, front, tail, hs, htail, hnone⟩ := h
  have hpulled : pulledRows step tail = pullBack (spaces step) tail := by
    rw [pulledRows, rows_of_lineFeed_not_mem htail]
    rfl
  refine ⟨(commentRows_pulledRows step s).trans hrows, pulledRows step front,
    pulledRows step tail, hs.imp (congrArg _) fun hs => ?_, ?_, ?_⟩
  · rw [hs, pulledRows_append]
  · rw [hpulled]
    exact fun hfeed => htail ((pullBack_suffix _ tail).mem hfeed)
  · rw [hpulled, commentRow?_pullBack, hnone]

theorem pullBack_no_indent : pullBack [] = id :=
  funext fun line => pullBack_append [] line

/-- Where line feeds end the lines, a text is moved to the left margin row by row or not at all. -/
theorem flushLeft_cases (step : Int) (h : Fed s) :
    flushLeft step s = s ∨ flushLeft step s = pulledRows step s := by
  by_cases hshift : IsShifted step s
  · by_cases hstep : 1 ≤ step
    · refine .inr ((flushLeft_eq_pulledRows_iff hstep hshift).mpr ?_)
      rintro front c back rfl hend
      exact h c (by simp) hend
    · have hnone : spaces step = [] := by
        rw [spaces, Int.toNat_of_nonpos (by omega)]
        rfl
      refine .inl ?_
      rw [flushLeft_of_isShifted hshift, hnone, pullBack_no_indent, List.flatMap_id,
        flatten_linesKeeping]
  · exact .inl (flushLeft_of_not_isShifted hshift)

theorem tells_flushLeft (step : Int) (h : Tells s rs) (hfed : Fed s) :
    Tells (flushLeft step s) rs := by
  rcases flushLeft_cases step hfed with heq | heq
  · rwa [heq]
  · rw [heq]
    exact tells_pulledRows step h

/-! ## The end of a document -/

theorem tells_dropDocumentEnd (h : Tells s rs) : Tells (dropDocumentEnd s) rs := by
  rcases dropDocumentEnd_cases s with heq | ⟨front, rfl, heq⟩
  · rwa [heq]
  · have hmarker : commentRows "...\n".toList = [] := commentRows_of_notMem (by decide)
    have hrows : commentRows (front ++ '\n' :: "...\n".toList) = rs := h.1
    rw [commentRows_append, hmarker, List.append_nil] at hrows
    rw [heq]
    exact tells_feed hrows

theorem fed_dropDocumentEnd (h : Fed s) : Fed (dropDocumentEnd s) := by
  rw [dropDocumentEnd]
  split
  · exact fun c hc => h c (List.mem_of_mem_take hc)
  · exact h

/-! ## Documents -/

/-- The canonical text of a document that holds a noted tree tells the comments that are shown with
it. -/
theorem Headed.StoredIn.exists_canonical {r : Headed} {d : Document} {shown : List Remark}
    (h : r.StoredIn d) (hshows : r.Shows shown) {o : Options}
    (hunbroken : r.root.tree.Unbroken (Measures.ofOptions o)) :
    ∃ s, d.canonical o = .ok s ∧ Tells s (shown.map Remark.row) := by
  obtain ⟨s, hwrite, htells, hfed⟩ := hshows.exists_write hunbroken
  rw [Document.canonical, h.layout_eq hshows.headless, ok_bind, hwrite, ok_bind]
  refine ⟨_, rfl, ?_⟩
  split
  · exact tells_flushLeft _ (tells_dropDocumentEnd htells) (fed_dropDocumentEnd hfed)
  · exact tells_dropDocumentEnd htells

namespace Sheet

/-- The canonical texts of what is read from sheets tell the kept remarks. -/
theorem exists_canonicalTexts {o : Options} {ps : List Sheet} {hs : List Headed}
    {ds : List Document} (hof : List.Forall₂ Headed.IsOf hs ps)
    (hstored : List.Forall₂ Headed.StoredIn hs ds)
    (hunbroken : ∀ p ∈ ps, p.draft.tree.Unbroken (Measures.ofOptions o)) :
    ∃ texts, canonicalTexts o ds = .ok texts ∧
      List.Forall₂ (fun s p => Tells s (p.kept.map Remark.row)) texts ps := by
  induction hof generalizing ds with
  | nil =>
      cases hstored
      exact ⟨[], rfl, .nil⟩
  | cons hp _ ih =>
      cases hstored with
      | cons hd hothers =>
          rw [List.forall_mem_cons] at hunbroken
          obtain ⟨s, hcanonical, htells⟩ :=
            hd.exists_canonical hp.shows (hp.tree ▸ hunbroken.1)
          obtain ⟨texts, hmore, hall⟩ := ih hothers hunbroken.2
          refine ⟨s :: texts, ?_, .cons htells hall⟩
          rw [canonicalTexts, hcanonical, ok_bind, hmore]
          rfl

/-- Texts with markers between them tell what each of them tells. -/
theorem tells_intercalate {ps : List Sheet} {texts : List (List Char)}
    (h : List.Forall₂ (fun s p => Tells s (p.kept.map Remark.row)) texts ps) :
    Tells (documentStart.intercalate texts) ((ps.flatMap kept).map Remark.row) := by
  induction h with
  | nil => exact .nil
  | @cons s p texts ps htells hall ih =>
      rw [List.flatMap_cons, List.map_append]
      cases hall with
      | nil => simpa [List.intercalate] using htells
      | @cons t q texts ps ht hall =>
          have hmarker := htells.append (t := ['-', '-', '-']) (by simp)
          simpa [List.intercalate, documentStart] using hmarker.append_row ih

/-- The canonical text of what is read from sheets has the kept remarks for its comment rows. -/
theorem commentRows_canonical {o : Options} {ps : List Sheet} {hs : List Headed}
    {ds : List Document} (hof : List.Forall₂ Headed.IsOf hs ps)
    (hstored : List.Forall₂ Headed.StoredIn hs ds)
    (hunbroken : ∀ p ∈ ps, p.draft.tree.Unbroken (Measures.ofOptions o)) :
    ∃ u, canonical o ds = .ok u ∧ commentRows u = (ps.flatMap kept).map Remark.row := by
  obtain ⟨texts, hcanonical, hall⟩ := exists_canonicalTexts hof hstored hunbroken
  exact ⟨_, by rw [canonical, hcanonical]; rfl, (tells_intercalate hall).1⟩

end Sheet
end Yaml
end YamlTidy
