import YamlTidy.Text.Blank
import YamlTidy.Text.Lines
import Mathlib.Data.List.DropRight

/-!
# Rows and the blanks at their ends

Rows are what lies between line feeds.  `rows_joinRows` is the other half of `joinRows_rows`: rows
without line feeds are found again in the text they are joined to.  Filtering commutes with both
(`rows_filter`, `filter_joinRows`), so what a filter keeps of a text can be told row by row.
-/

namespace YamlTidy
namespace Text

/-! ## Rows -/

theorem rows_cons_lineFeed (rest : List Char) : rows ('\n' :: rest) = [] :: rows rest := by
  simp [rows]

/-- A character that is no line feed joins the first row. -/
theorem rows_cons {c : Char} (hc : c ≠ '\n') (rest : List Char) :
    ∃ row more, rows rest = row :: more ∧ rows (c :: rest) = (c :: row) :: more := by
  cases h : rows rest with
  | nil => exact absurd h (rows_ne_nil rest)
  | cons row more => exact ⟨row, more, rfl, by simp [rows, hc, h]⟩

theorem lineFeed_not_mem_rows {s row : List Char} (h : row ∈ rows s) : '\n' ∉ row := by
  induction s generalizing row with
  | nil =>
      obtain rfl : row = [] := by simpa [rows] using h
      simp
  | cons c rest ih =>
      by_cases hc : c = '\n'
      · subst hc
        rw [rows_cons_lineFeed, List.mem_cons] at h
        rcases h with rfl | h
        · simp
        · exact ih h
      · obtain ⟨first, more, hrest, hrows⟩ := rows_cons hc rest
        rw [hrows, List.mem_cons] at h
        rcases h with rfl | h
        · have hfirst : first ∈ rows rest := by simp [hrest]
          simp [ih hfirst, Ne.symm hc]
        · exact ih (by simp [hrest, h])

theorem rows_of_lineFeed_not_mem {s : List Char} (h : '\n' ∉ s) : rows s = [s] := by
  induction s with
  | nil => rfl
  | cons c rest ih =>
      have hc : c ≠ '\n' := fun e => h (e ▸ List.mem_cons_self)
      have hrest := ih fun m => h (List.mem_cons_of_mem _ m)
      simp [rows, hc, hrest]

theorem rows_append_lineFeed {row : List Char} (h : '\n' ∉ row) (rest : List Char) :
    rows (row ++ '\n' :: rest) = row :: rows rest := by
  induction row with
  | nil => exact rows_cons_lineFeed rest
  | cons c more ih =>
      have hc : c ≠ '\n' := fun e => h (e ▸ List.mem_cons_self)
      have hmore := ih fun m => h (List.mem_cons_of_mem _ m)
      simp [rows, hc, hmore]

/-- A text that ends in a line feed has an empty row behind it. -/
theorem rows_flatMap_lineFeed {rs : List (List Char)} (h : ∀ row ∈ rs, '\n' ∉ row) :
    rows (rs.flatMap (· ++ ['\n'])) = rs ++ [[]] := by
  induction rs with
  | nil => rfl
  | cons row rs ih =>
      rw [List.flatMap_cons, List.append_assoc, List.singleton_append,
        rows_append_lineFeed (h row List.mem_cons_self),
        ih fun r hr => h r (List.mem_cons_of_mem row hr)]
      rfl

/-- Rows with an empty one behind them are joined to a text that ends each of them. -/
theorem joinRows_append_nil (rs : List (List Char)) :
    joinRows (rs ++ [[]]) = rs.flatMap (· ++ ['\n']) := by
  induction rs with
  | nil => rfl
  | cons row rs ih =>
      rw [List.cons_append, joinRows, ih]
      · simp
      · simp

/-- Rows without line feeds are the rows of the text they are joined to. -/
theorem rows_joinRows {rs : List (List Char)} (hne : rs ≠ []) (h : ∀ row ∈ rs, '\n' ∉ row) :
    rows (joinRows rs) = rs := by
  induction rs with
  | nil => exact absurd rfl hne
  | cons row more ih =>
      have hrow := h row (by simp)
      cases more with
      | nil => simpa [joinRows] using rows_of_lineFeed_not_mem hrow
      | cons next others =>
          have hmore := ih (by simp) fun r hr => h r (by simp [hr])
          rw [joinRows, rows_append_lineFeed hrow, hmore]
          simp

theorem mem_joinRows {c : Char} {rs : List (List Char)} (h : c ∈ joinRows rs) :
    c = '\n' ∨ ∃ row ∈ rs, c ∈ row := by
  induction rs with
  | nil => simp [joinRows] at h
  | cons row more ih =>
      cases more with
      | nil => exact Or.inr ⟨row, by simp, by simpa [joinRows] using h⟩
      | cons next others =>
          rw [joinRows, List.mem_append, List.mem_cons] at h
          rcases h with h | rfl | h
          · exact Or.inr ⟨row, by simp, h⟩
          · exact Or.inl rfl
          · rcases ih h with hc | ⟨r, hr, hc⟩
            · exact Or.inl hc
            · exact Or.inr ⟨r, List.mem_cons_of_mem _ hr, hc⟩
          · simp

theorem mem_of_mem_rows {c : Char} {s row : List Char} (hrow : row ∈ rows s) (hc : c ∈ row) :
    c ∈ s := by
  induction s generalizing row with
  | nil =>
      obtain rfl : row = [] := by simpa [rows] using hrow
      simp at hc
  | cons d rest ih =>
      by_cases hd : d = '\n'
      · subst hd
        rw [rows_cons_lineFeed, List.mem_cons] at hrow
        rcases hrow with rfl | hrow
        · simp at hc
        · exact List.mem_cons_of_mem _ (ih hrow hc)
      · obtain ⟨first, more, hrest, hrows⟩ := rows_cons hd rest
        rw [hrows, List.mem_cons] at hrow
        rcases hrow with rfl | hrow
        · rcases List.mem_cons.mp hc with rfl | hc
          · simp
          · have hfirst : first ∈ rows rest := by simp [hrest]
            exact List.mem_cons_of_mem _ (ih hfirst hc)
        · exact List.mem_cons_of_mem _ (ih (by simp [hrest, hrow]) hc)

/-! ## Texts one behind the other -/

/-- The rows of two texts with a line feed between them. -/
theorem rows_append (p q : List Char) : rows (p ++ '\n' :: q) = rows p ++ rows q := by
  induction p with
  | nil => exact rows_cons_lineFeed q
  | cons c p ih =>
      by_cases hc : c = '\n'
      · subst hc
        rw [List.cons_append, rows_cons_lineFeed, rows_cons_lineFeed, ih]
        rfl
      · obtain ⟨row, more, hp, hrows⟩ := rows_cons hc p
        rw [hrows, List.cons_append, rows, if_neg hc, ih, hp]
        rfl

theorem joinRows_append {front back : List (List Char)} (hfront : front ≠ [])
    (hback : back ≠ []) :
    joinRows (front ++ back) = joinRows front ++ '\n' :: joinRows back := by
  induction front with
  | nil => exact absurd rfl hfront
  | cons row more ih =>
      cases more with
      | nil =>
          obtain ⟨next, others, rfl⟩ := List.exists_cons_of_ne_nil hback
          rfl
      | cons next others =>
          have hmore := ih (by simp)
          simp only [List.cons_append, joinRows] at hmore ⊢
          rw [hmore]
          simp

/-! ## Filters -/

section Filters

variable {p : Char → Bool} (hp : p '\n' = true)
include hp

theorem filter_joinRows (rs : List (List Char)) :
    (joinRows rs).filter p = joinRows (rs.map (List.filter p)) := by
  induction rs with
  | nil => rfl
  | cons row more ih =>
      cases more with
      | nil => rfl
      | cons next others =>
          simp only [List.map_cons] at ih ⊢
          rw [joinRows, List.filter_append, List.filter_cons_of_pos hp, ih]
          · rfl
          · simp

theorem rows_filter (s : List Char) : rows (s.filter p) = (rows s).map (List.filter p) := by
  have hrows : ∀ row ∈ (rows s).map (List.filter p), '\n' ∉ row := by
    intro row hrow hmem
    obtain ⟨r, hr, rfl⟩ := List.mem_map.mp hrow
    exact lineFeed_not_mem_rows hr (List.mem_of_mem_filter hmem)
  have hne : (rows s).map (List.filter p) ≠ [] := by
    simpa using rows_ne_nil s
  calc rows (s.filter p)
      = rows (joinRows ((rows s).map (List.filter p))) := by
        rw [← filter_joinRows hp, joinRows_rows]
    _ = (rows s).map (List.filter p) := rows_joinRows hne hrows

end Filters

/-! ## Blanks at the ends -/

/-- What is stripped from the end of a text is blank. -/
theorem stripEnd_append (s : List Char) :
    ∃ blanks : List Char, (∀ c ∈ blanks, isBlank c = true) ∧ stripEnd s ++ blanks = s := by
  refine ⟨s.rtakeWhile isBlank, fun c hc => ?_, ?_⟩
  · exact List.mem_rtakeWhile_imp hc
  · exact List.rdropWhile_append_rtakeWhile

end Text
end YamlTidy
