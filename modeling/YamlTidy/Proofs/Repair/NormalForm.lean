import YamlTidy.Proofs.Repair.Commas

/-!
# The normal form of surface cleanup

A text is in normal form when it shows none of the things that surface cleanup repairs
(`NormalForm`).  Cleanup leaves such a text alone, and what it makes of any text is in normal
form: each stage keeps what the stages in front of it have reached.  The last one strips rows once
more, which makes no comma a leftover since the blanks behind a comma reach the same closer with
and without the blanks at the ends of rows (`closes_stripRows`).  A byte order mark does not come
to the front either: in front of each character that goes there is one that stays, or a closer
stays behind it.

Main statement: `normalize_lands_in_normal_form`.
-/

namespace YamlTidy
namespace Repair

open Text

/-- A text with nothing in it for surface cleanup to repair. -/
structure NormalForm (s : List Char) : Prop where
  noTab : '\t' ∉ s
  noReturn : '\r' ∉ s
  noMark : s.head? ≠ some '\uFEFF'
  noBlankEnd : ∀ row ∈ rows s, ∀ c, row.getLast? = some c → isBlank c = false
  noLeftover : ∀ front back, s = front ++ ',' :: back → ¬ Reaches isBlank back

variable {s : List Char}

/-! ## Ends of rows -/

theorem stripEnd_eq_self_iff {row : List Char} :
    stripEnd row = row ↔ ∀ c, row.getLast? = some c → isBlank c = false := by
  refine List.rdropWhile_eq_self_iff.trans ?_
  constructor
  · intro h c hc
    obtain ⟨hne, rfl⟩ := List.mem_getLast?_eq_getLast hc
    simpa using h hne
  · intro h hne
    simp [h _ (List.getLast?_eq_getLast_of_ne_nil hne)]

theorem NormalForm.surfaceClean (h : NormalForm s) : SurfaceClean s where
  noMark := h.noMark
  noReturn := h.noReturn
  noTab := h.noTab
  noBlankEnd row hrow := stripEnd_eq_self_iff.mpr (h.noBlankEnd row hrow)
  noLeftover front back e := by
    have hno := mt closes_eq_true_iff.mp (h.noLeftover front back e)
    simpa using hno

/-- The first character of a row goes exactly when it is blank and all behind it goes. -/
theorem stripEnd_cons (c : Char) (row : List Char) :
    stripEnd (c :: row) =
      if stripEnd row = [] ∧ isBlank c = true then [] else c :: stripEnd row := by
  unfold stripEnd
  rw [List.reverse_cons, List.dropWhile_append]
  by_cases hrow : row.reverse.dropWhile isBlank = []
  · by_cases hc : isBlank c = true <;> simp [hrow, hc]
  · simp [hrow]

/-- Stripping the rows of a text keeps its first character, or drops a blank within a row. -/
theorem stripRows_cons (c : Char) (rest : List Char) :
    stripRows (c :: rest) = c :: stripRows rest ∨
      isBlank c = true ∧ c ≠ '\n' ∧ stripRows (c :: rest) = stripRows rest := by
  by_cases hc : c = '\n'
  · subst hc
    have hempty : '\n' ∉ ([] : List Char) := List.not_mem_nil
    exact Or.inl (stripRows_append_lineFeed hempty rest)
  · obtain ⟨row, more, hrest, hrows⟩ := rows_cons hc rest
    have hcons : joinRows ((c :: stripEnd row) :: more.map stripEnd) =
        c :: joinRows (stripEnd row :: more.map stripEnd) := by
      cases more <;> rfl
    rw [stripRows, stripRows, hrows, hrest, List.map_cons, List.map_cons, stripEnd_cons]
    split
    · next hgone => exact Or.inr ⟨hgone.2, hc, by rw [hgone.1]⟩
    · exact Or.inl hcons

/-! ## Commas behind the last strip -/

/-- Blanks at the ends of rows make no difference to what the blanks behind a comma reach. -/
theorem closes_stripRows (s : List Char) : closes (stripRows s) = closes s := by
  induction s with
  | nil => rfl
  | cons c rest ih =>
      rcases stripRows_cons c rest with hkept | ⟨hblank, hfeed, hgone⟩
      · rw [hkept, closes, closes, ih]
      · have hsquare : c ≠ ']' := by
          rintro rfl
          exact absurd hblank (by decide)
        have hcurly : c ≠ '}' := by
          rintro rfl
          exact absurd hblank (by decide)
        rw [hgone, ih, closes]
        simp [hblank, hfeed, hsquare, hcurly]

/-- Stripping rows makes no comma a leftover. -/
theorem dropCommasOnce_stripRows (h : dropCommasOnce s = s) :
    dropCommasOnce (stripRows s) = stripRows s := by
  induction s with
  | nil => rfl
  | cons c rest ih =>
      obtain ⟨hcomma, hrest⟩ := dropCommasOnce_cons_eq_self_iff.mp h
      rcases stripRows_cons c rest with hkept | ⟨-, -, hgone⟩
      · rw [hkept, dropCommasOnce_cons_eq_self_iff, closes_stripRows]
        exact ⟨hcomma, ih hrest⟩
      · rw [hgone]
        exact ih hrest

/-! ## The front of the text -/

theorem head?_cleanArtifacts (s : List Char) : (cleanArtifacts s).head? ≠ some '\uFEFF' := by
  unfold cleanArtifacts
  have hhead := List.head?_dropWhile_not (· == '\uFEFF') s
  cases hdrop : s.dropWhile (· == '\uFEFF') with
  | nil => simp [unifyBreaks]
  | cons c rest =>
      rw [hdrop] at hhead
      have hc : c ≠ '\uFEFF' := by simpa using hhead
      unfold unifyBreaks
      split <;> simp_all

/-- A tab at the front becomes a space, if tabs have any width. -/
theorem head?_expandTabs {width : Int} (hwidth : 1 ≤ width) (h : s.head? ≠ some '\uFEFF') :
    (expandTabs width s).head? ≠ some '\uFEFF' := by
  cases s with
  | nil => simp [expandTabs]
  | cons c rest =>
      by_cases htab : c = '\t'
      · obtain ⟨n, hn⟩ : ∃ n, width.toNat = n + 1 := ⟨width.toNat - 1, by omega⟩
        simp [expandTabs, htab, spaces, hn, List.replicate_succ]
      · simpa [expandTabs, htab] using h

/-- The blanks at the front go only with all of their row, up to a line feed or the end. -/
theorem head?_stripRows (h : s.head? ≠ some '\uFEFF') :
    (stripRows s).head? ≠ some '\uFEFF' := by
  have hfirst : ∀ t, (stripEnd t).head? = some '\uFEFF' → t.head? = some '\uFEFF' := by
    intro t ht
    obtain ⟨back, hback⟩ : stripEnd t <+: t := List.rdropWhile_prefix isBlank t
    rw [← hback, List.head?_append, ht]
    rfl
  intro hmark
  apply h
  rw [stripRows] at hmark
  cases hrows : rows s with
  | nil => exact absurd hrows (rows_ne_nil s)
  | cons row more =>
      rw [← joinRows_rows s, hrows]
      rw [hrows] at hmark
      cases more with
      | nil => exact hfirst row hmark
      | cons next others =>
          simp only [List.map_cons, joinRows, List.head?_append] at hmark ⊢
          cases hstrip : (stripEnd row).head? with
          | none => simp [hstrip] at hmark
          | some c =>
              rw [hstrip] at hmark
              obtain rfl : c = '\uFEFF' := by simpa using hmark
              simp [hfirst row hstrip]

/-- Behind a comma that goes there is a blank or a closer, and it stays. -/
theorem head?_dropCommasOnce (h : s.head? ≠ some '\uFEFF') :
    (dropCommasOnce s).head? ≠ some '\uFEFF' := by
  cases s with
  | nil => simp [dropCommasOnce]
  | cons c rest =>
      unfold dropCommasOnce
      split
      · next hcomma =>
          obtain ⟨-, hcloses⟩ : c = ',' ∧ closes rest = true := by simpa using hcomma
          obtain ⟨gap, closer, more, hgap, hcloser, rfl⟩ :=
            reaches_blank_iff_exists.mp (closes_eq_true_iff.mp hcloses)
          rw [dropCommasOnce_gap hgap hcloser]
          cases gap with
          | nil =>
              rcases hcloser with rfl | rfl | rfl <;> simp
          | cons b gap =>
              have hb := hgap b List.mem_cons_self
              intro hmark
              obtain rfl : b = '\uFEFF' := by simpa using hmark
              exact absurd hb (by decide)
      · simpa using h

theorem head?_dropCommas (h : s.head? ≠ some '\uFEFF') :
    (dropCommas s).head? ≠ some '\uFEFF' := by
  unfold dropCommas
  generalize s.length = rounds
  induction rounds generalizing s with
  | zero => exact h
  | succ rounds ih =>
      unfold dropCommasWithin
      simp only
      split
      · exact h
      · exact ih (head?_dropCommasOnce h)

/-! ## The normal form -/

/-- A byte order mark is no break. -/
theorem count_unifyBreaks_dropWhile (s : List Char) :
    (unifyBreaks (s.dropWhile (· == '\uFEFF'))).count '\n' = (unifyBreaks s).count '\n' := by
  induction s with
  | nil => rfl
  | cons c rest ih =>
      by_cases hc : c = '\uFEFF'
      · subst hc
        have hmark : unifyBreaks ('\uFEFF' :: rest) = '\uFEFF' :: unifyBreaks rest := by
          rw [unifyBreaks] <;> simp
        simpa [hmark] using ih
      · simp [hc]

/-- Cleanup keeps the number of rows. -/
theorem count_normalize (width : Int) (s : List Char) :
    (normalize width s).count '\n' = (unifyBreaks s).count '\n' := by
  have hfilter : (normalize width s).filter (· == '\n') =
    (cleanArtifacts s).filter (· == '\n') :=
    filter_normalize (by decide) (fun c _ hc => by simpa using hc) (by decide) width s
  calc (normalize width s).count '\n'
      = ((normalize width s).filter (· == '\n')).length := List.countP_eq_length_filter
    _ = ((cleanArtifacts s).filter (· == '\n')).length := by rw [hfilter]
    _ = (cleanArtifacts s).count '\n' := List.countP_eq_length_filter.symm
    _ = (unifyBreaks s).count '\n' := count_unifyBreaks_dropWhile s

theorem normalForm_normalize {width : Int} (hwidth : 1 ≤ width) (s : List Char) :
    NormalForm (normalize width s) where
  noTab h := by
    rcases mem_normalize h with hc | hc | ⟨-, hc⟩
    · exact absurd hc (by decide)
    · exact absurd hc (by decide)
    · exact hc rfl
  noReturn h := by
    rcases mem_normalize h with hc | hc | ⟨hc, -⟩
    · exact absurd hc (by decide)
    · exact absurd hc (by decide)
    · exact return_not_mem_unifyBreaks _ hc
  noMark :=
    head?_stripRows (head?_dropCommas (head?_stripRows
      (head?_expandTabs hwidth (head?_cleanArtifacts s))))
  noBlankEnd row hrow := stripEnd_eq_self_iff.mp (stripEnd_of_mem_rows_stripRows hrow)
  noLeftover front back e := by
    have hleft := dropCommasOnce_stripRows (dropCommasOnce_dropCommas
      (stripRows (expandTabs width (cleanArtifacts s))))
    rw [← closes_eq_true_iff, dropCommasOnce_eq_self_iff.mp hleft front back e]
    simp

/-- **Surface cleanup lands in its normal form and is the identity there.**  With tabs of any width
but none, what comes out is in normal form and has a line feed for each break of the text.  A text
in normal form stays as it is, and so cleaning a second time changes nothing. -/
theorem normalize_lands_in_normal_form (width : Int) (hwidth : 1 ≤ width) (s : List Char) :
    NormalForm (normalize width s) ∧
      (normalize width s).count '\n' = (unifyBreaks s).count '\n' ∧
      (NormalForm s → normalize width s = s) ∧
      normalize width (normalize width s) = normalize width s := by
  have hnormal := normalForm_normalize hwidth s
  refine ⟨hnormal, count_normalize width s, fun h => normalize_eq_self h.surfaceClean width, ?_⟩
  exact normalize_eq_self hnormal.surfaceClean width

/-- A text with a byte order mark, tabs, other breaks and commas at the ends of its rows, and what
surface cleanup makes of it. -/
theorem normal_form_of_pasted_list :
    let pasted := "\uFEFFa: [1,\t2, ,]\r\n- b, c ,\u00A0\t,\r\n\t- d,".toList
    let cleaned := "a: [1,  2 ]\n- b, c\n  - d,".toList
    (1 : Int) ≤ 2 ∧ normalize 2 pasted = cleaned ∧ NormalForm cleaned ∧
      cleaned.count '\n' = (unifyBreaks pasted).count '\n' ∧ normalize 2 cleaned = cleaned := by
  intro pasted cleaned
  have hcleaned : normalize 2 pasted = cleaned := by decide +kernel
  obtain ⟨hnormal, hcount, -, -⟩ := normalize_lands_in_normal_form 2 (by decide) pasted
  rw [hcleaned] at hnormal hcount
  have hstays := (normalize_lands_in_normal_form 2 (by decide) cleaned).2.2.1 hnormal
  exact ⟨by decide, hcleaned, hnormal, hcount, hstays⟩

end Repair
end YamlTidy
