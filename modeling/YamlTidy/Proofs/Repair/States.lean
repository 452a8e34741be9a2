import YamlTidy.Proofs.Repair.Columns

/-!
# The states of a realignment

`Describes` says what the open keys, the mark behind a key and the column of the current run are in
front of a place.  This module adds the line on which the run began: a `Run` is a stretch of list
items that go into one column, and `Started` says that a state knows the first of them.  Each line
keeps this (`started_step`), so it holds behind all of them (`started_fold_take`).

Main statement: `state_of_earlier_lines`, which tells the whole state from the lines alone.
-/

namespace YamlTidy
namespace Repair

/-- The index of the line at a place. -/
def indexAt (lines : List Line) (k : Nat) : Int :=
  ((lines[k]?).map Line.index).getD (-1)

theorem indexAt_of_lt {lines : List Line} {n : Nat} (hn : n < lines.length) :
    indexAt lines n = lines[n].index := by
  simp [indexAt, hn]

/-- The run that is under way in front of place `n`, in column `c`: it begins with the item at place
`first`, in front of which there is no run, and all that is visible since then are items in that
column. -/
structure Run (r : Realignment) (lines : List Line) (n first : Nat) (c : Int) : Prop where
  inFront : first < n
  begins : roleAt lines first = .listItem
  fresh : r.runColumn lines first = none
  members : ∀ j, first ≤ j → j < n → roleAt lines j ≠ .blank →
    roleAt lines j = .listItem ∧ r.column lines j = c

/-- A state that knows the line on which its run began, and none without a run. -/
structure Started (r : Realignment) (lines : List Line) (n : Nat) (s : State) : Prop where
  idle : s.runIndent = none → s.runStart = -1
  active : ∀ c, s.runIndent = some c →
    ∃ first, Run r lines n first c ∧ s.runStart = indexAt lines first

variable {r : Realignment} {lines : List Line} {n : Nat} {s : State}

/-! ## Runs from place to place -/

/-- An item in front of which there is no run begins one. -/
theorem run_of_fresh (hitem : roleAt lines n = .listItem) (hfresh : r.runColumn lines n = none) :
    Run r lines (n + 1) n (r.column lines n) where
  inFront := Nat.lt_succ_self n
  begins := hitem
  fresh := hfresh
  members j hnj hjn _ := by
    obtain rfl : j = n := by omega
    exact ⟨hitem, rfl⟩

/-- A line that is blank or an item in the column of a run goes on with the run. -/
theorem Run.extend {first : Nat} {c : Int} (h : Run r lines n first c)
    (hline : roleAt lines n ≠ .blank → roleAt lines n = .listItem ∧ r.column lines n = c) :
    Run r lines (n + 1) first c where
  inFront := Nat.lt_succ_of_lt h.inFront
  begins := h.begins
  fresh := h.fresh
  members j hfirst hj hvisible := by
    rcases Nat.lt_succ_iff_lt_or_eq.mp hj with hlt | rfl
    · exact h.members j hfirst hlt hvisible
    · exact hline hvisible

/-- Right behind a key no run is under way. -/
theorem runColumn_of_behindKey (h : behindKey lines n = true) : r.runColumn lines n = none := by
  obtain ⟨p, hp, hkey, -⟩ := openIndents_of_behindKey h
  simp [Realignment.runColumn, hp, hkey]

/-! ## Where the fold says that a run began -/

/-- A line that is neither blank nor an item ends a run. -/
theorem runStart_step_of_other {line : Line} (hblank : line.role ≠ .blank)
    (hitem : line.role ≠ .listItem) :
    (r.step s line).1.runIndent = none ∧ (r.step s line).1.runStart = -1 := by
  cases hrole : line.role with
  | blank => exact absurd hrole hblank
  | listItem => exact absurd hrole hitem
  | mappingKey => simp [Realignment.step, hrole]
  | other => simp [Realignment.step, hrole]

/-- An item begins a run exactly when none is under way or when it stands behind a key. -/
theorem runStart_step_of_item {line : Line} (hrole : line.role = .listItem)
    (hopen : s.keyOpened = true → s.openKeys ≠ []) :
    (r.step s line).1.runStart =
      if s.keyOpened = false ∧ s.runIndent.isSome then s.runStart else line.index := by
  cases hkey : s.keyOpened with
  | true =>
      obtain ⟨key, outer, hkeys⟩ := List.exists_cons_of_ne_nil (hopen hkey)
      simp [step_attached hrole hkey hkeys]
  | false =>
      cases hrun : s.runIndent with
      | some column => simp [Realignment.step, hrole, hkey, hrun]
      | none =>
          cases hclosed : closeMappings line.indent s.openKeys <;>
            simp [Realignment.step, hrole, hkey, hrun, hclosed]

/-- A state that describes the lines in front has an open key behind a key. -/
theorem Describes.openKeys_ne_nil (hs : Describes r lines n s) (hkey : s.keyOpened = true) :
    s.openKeys ≠ [] := by
  obtain ⟨p, -, -, hhead⟩ := openIndents_of_behindKey (hs.keyOpened.symm.trans hkey)
  intro hnil
  rw [← hs.openKeys, hnil] at hhead
  cases hhead

/-! ## The fold, step by step -/

theorem started_step_blank (h : Started r lines n s) (hn : n < lines.length)
    (hrole : lines[n].role = .blank) :
    Started r lines (n + 1) (r.step s lines[n]).1 := by
  have hblank : roleAt lines n = .blank := by rw [roleAt_of_lt hn, hrole]
  by_cases hreset : r.resetListOnBlank = true ∧ s.inRun = true
  · have hstep : (r.step s lines[n]).1 = { s with runIndent := none, runStart := -1 } := by
      simp [Realignment.step, hrole, hreset]
    rw [hstep]
    exact ⟨fun _ => rfl, fun c hc => by cases hc⟩
  · have hstep : (r.step s lines[n]).1 = s := by
      simp [Realignment.step, hrole, hreset]
    rw [hstep]
    refine ⟨h.idle, fun c hc => ?_⟩
    obtain ⟨first, hrun, hstart⟩ := h.active c hc
    exact ⟨first, hrun.extend fun hvisible => absurd hblank hvisible, hstart⟩

theorem started_step_item (hs : Describes r lines n s) (h : Started r lines n s)
    (hn : n < lines.length) (hrole : lines[n].role = .listItem) :
    Started r lines (n + 1) (r.step s lines[n]).1 := by
  have hitem : roleAt lines n = .listItem := by rw [roleAt_of_lt hn, hrole]
  have hrunIndent : (r.step s lines[n]).1.runIndent = some (r.column lines n) := by
    rw [(describes_step hs hn).1.runIndent, runColumn_succ_of_item hitem]
  have hstart := runStart_step_of_item (r := r) hrole hs.openKeys_ne_nil
  refine ⟨fun hnone => by simp [hrunIndent] at hnone, fun c hc => ?_⟩
  obtain rfl : r.column lines n = c := by simpa [hrunIndent] using hc
  by_cases hgoes : s.keyOpened = false ∧ s.runIndent.isSome
  · -- The item takes the column of the run, and the run still begins where it did.
    obtain ⟨c, hcolumn⟩ := Option.isSome_iff_exists.mp hgoes.2
    obtain ⟨first, hrun, hfirst⟩ := h.active c hcolumn
    have hsame : r.column lines n = c := column_of_runColumn (hs.runIndent.symm.trans hcolumn)
    rw [hstart, if_pos hgoes, hsame]
    exact ⟨first, hrun.extend fun _ => ⟨hitem, hsame⟩, hfirst⟩
  · have hfresh : r.runColumn lines n = none := by
      cases hkey : s.keyOpened with
      | true => exact runColumn_of_behindKey (hs.keyOpened.symm.trans hkey)
      | false =>
          rw [← hs.runIndent]
          simpa [hkey] using hgoes
    rw [hstart, if_neg hgoes]
    exact ⟨n, run_of_fresh hitem hfresh, (indexAt_of_lt hn).symm⟩

/-- One line keeps what a state knows about its run. -/
theorem started_step (hs : Describes r lines n s) (h : Started r lines n s)
    (hn : n < lines.length) : Started r lines (n + 1) (r.step s lines[n]).1 := by
  by_cases hblank : lines[n].role = .blank
  · exact started_step_blank h hn hblank
  · by_cases hitem : lines[n].role = .listItem
    · exact started_step_item hs h hn hitem
    · obtain ⟨hnone, hstart⟩ := runStart_step_of_other (r := r) (s := s) hblank hitem
      exact ⟨fun _ => hstart, fun c hc => by simp [hnone] at hc⟩

/-- The first lines of a pass leave a state that knows its run. -/
theorem started_fold_take (r : Realignment) (lines : List Line) :
    ∀ n ≤ lines.length, Started r lines n (r.fold {} (lines.take n)).1
  | 0, _ => ⟨fun _ => rfl, fun c hc => by cases hc⟩
  | n + 1, hn => by
      have hs := (describes_fold_take r lines n (by omega)).1
      have hnext := started_step hs (started_fold_take r lines n (by omega)) hn
      rw [List.take_succ_eq_append_getElem hn, fold_append]
      exact hnext

/-! ## The whole state -/

/-- The open keys from the outermost on are the indents of the keys that stay open, in the order of
the lines. -/
theorem reverse_openIndents (lines : List Line) (n : Nat) :
    (openIndents lines n).reverse =
      ((List.range n).filter fun k => StaysOpen lines n k).map (indentAt lines) := by
  rw [openIndents, openPlaces, List.filter_reverse, List.map_reverse, List.reverse_reverse]

/-- A run is under way exactly behind an item, where blank lines end a run behind an item and no
blank line. -/
theorem runColumn_isSome_iff :
    (r.runColumn lines n).isSome ↔ ∃ p, lastVisible lines n = some p ∧
      roleAt lines p = .listItem ∧
      (r.resetListOnBlank = true → ∀ j, p < j → j < n → roleAt lines j ≠ .blank) := by
  unfold Realignment.runColumn
  cases hp : lastVisible lines n with
  | none => simp
  | some p =>
      have hgap : (r.resetListOnBlank = true → ∀ j, p < j → j < n →
        roleAt lines j ≠ .blank) ↔
          (r.resetListOnBlank = true → p + 1 = n) :=
        imp_congr_right fun _ => no_blank_between_iff hp
      simp only [Option.some.injEq, exists_eq_left', hgap]
      split
      · rename_i hrun
        exact iff_of_true rfl hrun
      · rename_i hrun
        exact iff_of_false (by simp) hrun

/-- **The state behind some lines.**  The open keys, the outermost first, are strictly increasing:
they are the indents of the keys that every later line but an attached item is indented deeper
than, in the order of the lines.  The mark behind a key is set exactly when the last visible line
is a key, and then that key is the innermost open one and no run is under way.  A run is under way
exactly when the last visible line is an item, with no blank line behind it where blank lines end
a run, and otherwise no line is the start of one.  The start of a run is its first item, in front
of which no run was under way; every visible line since then is an item and was emitted in the
column of the run. -/
theorem state_of_earlier_lines (r : Realignment) (lines : List Line) :
    let s := (r.fold {} lines).1
    let n := lines.length
    (s.openKeys.reverse.Pairwise (· < ·) ∧
      s.openKeys.reverse =
        ((List.range n).filter fun k => StaysOpen lines n k).map (indentAt lines)) ∧
    ((s.keyOpened = true ↔
        ∃ p, lastVisible lines n = some p ∧ roleAt lines p = .mappingKey) ∧
      ∀ p, lastVisible lines n = some p → roleAt lines p = .mappingKey →
        s.openKeys.head? = some (indentAt lines p) ∧ s.runIndent = none) ∧
    ((s.runIndent.isSome ↔ ∃ p, lastVisible lines n = some p ∧ roleAt lines p = .listItem ∧
        (r.resetListOnBlank = true → ∀ j, p < j → j < n → roleAt lines j ≠ .blank)) ∧
      (s.runIndent = none → s.runStart = -1)) ∧
    ∀ c, s.runIndent = some c →
      ∃ first line, lines[first]? = some line ∧ line.role = .listItem ∧
        s.runStart = line.index ∧ (r.fold {} (lines.take first)).1.runIndent = none ∧
        ∀ j later, first ≤ j → lines[j]? = some later → later.role ≠ .blank →
          later.role = .listItem ∧ (r.fold {} lines).2[j]? = some (place c later.content) := by
  intro s n
  have hs : Describes r lines n s := by
    have h := (describes_fold_take r lines n (Nat.le_refl n)).1
    rwa [List.take_length] at h
  have hstarted : Started r lines n s := by
    have h := started_fold_take r lines n (Nat.le_refl n)
    rwa [List.take_length] at h
  have hbehind : ∀ p, lastVisible lines n = some p → roleAt lines p = .mappingKey →
      behindKey lines n = true := fun p hp hkey => by simp [behindKey, hp, hkey]
  refine ⟨⟨?_, ?_⟩, ⟨?_, fun p hp hkey => ⟨?_, ?_⟩⟩, ⟨?_, hstarted.idle⟩,
    fun c hc => ?_⟩
  · rw [hs.openKeys]
    exact List.pairwise_reverse.mpr (openIndents_pairwise lines n)
  · rw [hs.openKeys, reverse_openIndents]
  · rw [hs.keyOpened]
    constructor
    · intro h
      obtain ⟨p, hp, hkey, -⟩ := openIndents_of_behindKey h
      exact ⟨p, hp, hkey⟩
    · rintro ⟨p, hp, hkey⟩
      exact hbehind p hp hkey
  · obtain ⟨q, hq, -, hhead⟩ := openIndents_of_behindKey (hbehind p hp hkey)
    obtain rfl : q = p := by simpa [hp] using hq.symm
    rw [hs.openKeys, hhead]
  · rw [hs.runIndent, runColumn_of_behindKey (hbehind p hp hkey)]
  · rw [hs.runIndent, runColumn_isSome_iff]
  · obtain ⟨first, hrun, hstart⟩ := hstarted.active c hc
    have hfirst : first < lines.length := hrun.inFront
    have hfresh := (describes_fold_take r lines first (Nat.le_of_lt hfirst)).1.runIndent
    refine ⟨first, lines[first], List.getElem?_eq_getElem hfirst, ?_, ?_, ?_, ?_⟩
    · rw [← roleAt_of_lt hfirst, hrun.begins]
    · rw [hstart, indexAt_of_lt hfirst]
    · rw [hfresh, hrun.fresh]
    · intro j later hj hlater hvisible
      obtain ⟨hlt, rfl⟩ := List.getElem?_eq_some_iff.mp hlater
      obtain ⟨hitem, hcolumn⟩ := hrun.members j hj hlt (by rwa [roleAt_of_lt hlt])
      rw [roleAt_of_lt hlt] at hitem
      refine ⟨hitem, ?_⟩
      rw [fold_snd_eq_mapIdx_row, List.getElem?_mapIdx, hlater]
      simp [Realignment.row, hitem, hcolumn]

end Repair
end YamlTidy
