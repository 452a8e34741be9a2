import YamlTidy.Proofs.Repair.Columns
import YamlTidy.Proofs.Text.Rows

/-!
# Sections are realigned by themselves

A row at the margin that is no list item begins a section of its own: it closes every open key and
ends the run, so the state behind it does not depend on the lines in front of it
(`step_of_beginsSection`).  What follows is a pass over the section alone, except that its lines are
counted from further back; a pass does not look at these numbers, it only keeps the one on which its
run began (`step_shift`, `fold_shift`).

Main statement: `realign_sections`.
-/

namespace YamlTidy
namespace Repair

open Text

/-- A visible row at the margin that is no list item. -/
structure BeginsSection (row : List Char) : Prop where
  visible : roleOf (strip row) ≠ .blank
  noItem : roleOf (strip row) ≠ .listItem
  atMargin : row.head? ≠ some ' '

/-- The same line behind `n` more lines. -/
def Line.shift (n : Int) (line : Line) : Line :=
  { line with index := line.index + n }

/-- The same state when there are `n` more lines in front: the run that is under way, if there is
one, began `n` lines later. -/
def State.shift (n : Int) (s : State) : State :=
  { s with runStart := if s.inRun then s.runStart + n else -1 }

variable {r : Realignment} {s : State} {line : Line} {n : Int}

/-! ## Lines of two sections -/

/-- The lines of the section behind keep all but their numbers. -/
theorem classify_append (p q : List Char) :
    classify (p ++ '\n' :: q) = classify p ++ (classify q).map (Line.shift (rows p).length) := by
  have hshift (i : Nat) (row : List Char) :
      Line.classify ((i + (rows p).length : Nat) : Int) row =
        (Line.classify i row).shift (rows p).length := by
    simp [Line.classify, Line.shift]
  unfold classify
  rw [rows_append, List.mapIdx_append]
  congr 1
  refine List.ext_getElem? fun i => ?_
  simp only [List.getElem?_map, List.getElem?_mapIdx, Option.map_map]
  exact congrArg (Option.map · _) (funext (hshift i))

/-! ## A pass does not look at the numbers of lines -/

@[simp] theorem inRun_shift (n : Int) (s : State) : (s.shift n).inRun = s.inRun := rfl

/-- An item that is not right behind a key closes mappings and goes on with the run, or begins one
under the innermost key that is left. -/
theorem step_loose (hrole : line.role = .listItem)
    (h : ¬ (s.keyOpened = true ∧ s.openKeys ≠ [])) :
    r.step s line =
      let openKeys := closeMappings line.indent s.openKeys
      let column := s.runIndent.getD ((openKeys.head?.map (· + r.indent)).getD 0)
      ({ openKeys, runIndent := some column,
         runStart := if s.inRun then s.runStart else line.index },
        place column line.content) := by
  obtain ⟨openKeys, runIndent, runStart, keyOpened⟩ := s
  have hloose : keyOpened = false ∨ openKeys = [] := by
    by_cases hkey : keyOpened = true
    · exact Or.inr (by simpa [hkey] using h)
    · exact Or.inl (by simpa using hkey)
  cases hclosed : closeMappings line.indent openKeys <;> cases runIndent <;>
    rcases hloose with rfl | rfl <;> simp [Realignment.step, State.inRun, hrole, hclosed]

/-- One line does the same to a state whose lines are counted from further back. -/
theorem step_shift (r : Realignment) (n : Int) (s : State) (line : Line) :
    r.step (s.shift n) (line.shift n) = ((r.step s line).1.shift n, (r.step s line).2) := by
  cases hrole : line.role with
  | blank =>
      cases hreset : r.resetListOnBlank <;> cases hrun : s.runIndent <;>
        simp [Realignment.step, State.shift, State.inRun, Line.shift, hrole, hreset, hrun]
  | mappingKey => simp [Realignment.step, State.shift, State.inRun, Line.shift, hrole]
  | other => simp [Realignment.step, State.shift, State.inRun, Line.shift, hrole]
  | listItem =>
      have hrole' : (line.shift n).role = .listItem := hrole
      by_cases hattached : s.keyOpened = true ∧ s.openKeys ≠ []
      · obtain ⟨key, outer, hkeys⟩ := List.exists_cons_of_ne_nil hattached.2
        have hkey' : (s.shift n).keyOpened = true := hattached.1
        have hkeys' : (s.shift n).openKeys = key :: outer := hkeys
        rw [step_attached hrole hattached.1 hkeys, step_attached hrole' hkey' hkeys']
        rfl
      · have hattached' : ¬ ((s.shift n).keyOpened = true ∧ (s.shift n).openKeys ≠ []) :=
          hattached
        rw [step_loose hrole hattached, step_loose hrole' hattached']
        cases hrun : s.runIndent <;> simp [State.shift, State.inRun, Line.shift, hrun]

theorem fold_shift (r : Realignment) (n : Int) (s : State) (lines : List Line) :
    r.fold (s.shift n) (lines.map (Line.shift n)) =
      ((r.fold s lines).1.shift n, (r.fold s lines).2) := by
  induction lines generalizing s with
  | nil => rfl
  | cons line rest ih =>
      rw [List.map_cons, Realignment.fold, Realignment.fold, step_shift]
      simp only [ih]

/-! ## The first line of a section -/

theorem closeMappings_eq_nil {indent : Int} {keys : List Int}
    (h : ∀ key ∈ keys, indent ≤ key) :
    closeMappings indent keys = [] := by
  induction keys with
  | nil => rfl
  | cons key outer ih =>
      obtain ⟨hkey, houter⟩ := List.forall_mem_cons.mp h
      rw [closeMappings, if_pos hkey, ih houter]

/-- Open keys are indents of rows. -/
theorem openKeys_nonneg (r : Realignment) (p : List Char) :
    ∀ key ∈ (r.fold {} (classify p)).1.openKeys, 0 ≤ key := by
  have hs := (describes_fold_take r (classify p) _ (Nat.le_refl _)).1.openKeys
  rw [List.take_length] at hs
  intro key hkey
  rw [hs] at hkey
  obtain ⟨k, -, rfl⟩ := List.mem_map.mp hkey
  unfold indentAt
  cases hline : (classify p)[k]? with
  | none => simp
  | some line =>
      obtain ⟨raw, -, rfl⟩ := Option.map_eq_some_iff.mp (by simpa [classify] using hline)
      simp [Line.classify]

/-- The first line of a section leaves the state that it leaves behind no lines at all. -/
theorem step_of_beginsSection {row : List Char} (h : BeginsSection row) (i : Int)
    (hkeys : ∀ key ∈ s.openKeys, 0 ≤ key) :
    r.step s (Line.classify i row) = r.step {} (Line.classify i row) := by
  have hindent : (Line.classify i row).indent = 0 := by
    have hspace : row.takeWhile (· == ' ') = [] := by
      cases row with
      | nil => rfl
      | cons c rest =>
          have hc : c ≠ ' ' := by simpa using h.atMargin
          simp [hc]
    simp [Line.classify, leadingSpaces, hspace]
  have hclosed : closeMappings (Line.classify i row).indent s.openKeys = [] :=
    closeMappings_eq_nil (by simpa only [hindent] using hkeys)
  cases hrole : (Line.classify i row).role with
  | blank => exact absurd hrole h.visible
  | listItem => exact absurd hrole h.noItem
  | mappingKey => simp [Realignment.step, hrole, hclosed, closeMappings]
  | other => simp [Realignment.step, hrole, hclosed, closeMappings]

/-- A pass over a section behind other lines is the pass over the section alone, counted from
further back. -/
theorem fold_section {q row : List Char} (hrow : (rows q).head? = some row)
    (h : BeginsSection row) (n : Int) (hkeys : ∀ key ∈ s.openKeys, 0 ≤ key) :
    r.fold s ((classify q).map (Line.shift n)) =
      ((r.fold {} (classify q)).1.shift n, (r.fold {} (classify q)).2) := by
  obtain ⟨more, hrows⟩ : ∃ more, rows q = row :: more :=
    ⟨_, List.eq_cons_of_mem_head? hrow⟩
  have hfirst : r.step s ((Line.classify 0 row).shift n) =
    r.step {} ((Line.classify 0 row).shift n) :=
    step_of_beginsSection h (0 + n) hkeys
  rw [← fold_shift, classify, hrows, List.mapIdx_cons, List.map_cons, Realignment.fold,
    Realignment.fold]
  rw [show Line.classify ((0 : Nat) : Int) row = Line.classify 0 row from rfl, hfirst]
  rfl

/-- **Sections are realigned by themselves.**  When the first row of a text is visible, stands at
the margin and is no list item, realigning the text behind any other one gives what realigning
each of the two gives, one behind the other.  The state in the end is the one that the second text
leaves by itself; only the line on which its run began, if a run is under way, is counted from the
first line of the other text. -/
theorem realign_sections (r : Realignment) (p q row : List Char)
    (hrow : (rows q).head? = some row) (h : BeginsSection row) :
    r.realign (classify (p ++ '\n' :: q)) =
        r.realign (classify p) ++ '\n' :: r.realign (classify q) ∧
      (r.fold {} (classify (p ++ '\n' :: q))).1 =
        (r.fold {} (classify q)).1.shift (rows p).length := by
  have hsection := fold_section (r := r) hrow h (rows p).length (openKeys_nonneg r p)
  have hfold : r.fold {} (classify (p ++ '\n' :: q)) =
      ((r.fold {} (classify q)).1.shift (rows p).length,
        (r.fold {} (classify p)).2 ++ (r.fold {} (classify q)).2) := by
    rw [classify_append, fold_append, hsection]
  refine ⟨?_, by rw [hfold]⟩
  have hlines (t : List Char) : (r.fold {} (classify t)).2 ≠ [] := by
    rw [fold_snd_eq_mapIdx_row]
    simpa [classify] using rows_ne_nil t
  rw [Realignment.realign, hfold]
  exact joinRows_append (hlines p) (hlines q)

/-- Behind a list under a key another key with a list of its own is realigned as if it stood alone,
and its run begins two lines later. -/
theorem realign_sections_hosts :
    let p := "a:\n   - x".toList
    let q := "b:\n- y\n - z".toList
    let alone := ((Realignment.fold {} {} (classify q)).1)
    (rows q).head? = some "b:".toList ∧ BeginsSection "b:".toList ∧
      Realignment.realign {} (classify (p ++ '\n' :: q)) =
        "a:\n  - x".toList ++ '\n' :: "b:\n  - y\n  - z".toList ∧
      alone.runStart = 1 ∧
      (Realignment.fold {} {} (classify (p ++ '\n' :: q))).1 = { alone with runStart := 3 } := by
  intro p q alone
  have hrow : (rows q).head? = some "b:".toList := by decide
  have hbegins : BeginsSection "b:".toList := ⟨by decide, by decide, by decide⟩
  obtain ⟨htext, hstate⟩ := realign_sections {} p q _ hrow hbegins
  refine ⟨hrow, hbegins, htext.trans (by decide +kernel), by decide +kernel, ?_⟩
  exact hstate.trans (by decide +kernel)

end Repair
end YamlTidy
