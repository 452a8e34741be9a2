import YamlTidy.Repair.Realign
import Mathlib.Data.List.Basic

/-!
# The columns of list items, without a stack

Realignment threads a stack of open keys and the column of the current run through the lines.  This
module says where every row ends up by looking back over the lines alone.

Definitions:

* `lastVisible`, the last line in front of a place that is not blank;
* `Attached`, an item whose last visible line is a key;
* `StaysOpen`, a key that every later line but an attached item is indented deeper than;
* `Realignment.column`, the column of an item, and `Realignment.row`, the row of any line.

The invariant `Describes` ties the state of the fold in front of a place to these notions.  It holds
in front of every place (`describes_fold_take`), and the rows emitted are those described
(`fold_snd_eq_mapIdx_row`).
-/

namespace YamlTidy
namespace Repair

open Text

/-! ## Looking back over lines -/

/-- The role of the line at a place.  Behind the last line there are only blanks. -/
def roleAt (lines : List Line) (k : Nat) : Role :=
  ((lines[k]?).map Line.role).getD .blank

/-- The indent of the line at a place. -/
def indentAt (lines : List Line) (k : Nat) : Int :=
  ((lines[k]?).map Line.indent).getD 0

/-- The place of the last line in front of place `n` that is not blank. -/
def lastVisible (lines : List Line) : Nat → Option Nat
  | 0 => none
  | n + 1 => if roleAt lines n = .blank then lastVisible lines n else some n

/-- Whether the last visible line in front of a place is a key. -/
def behindKey (lines : List Line) (n : Nat) : Bool :=
  (lastVisible lines n).any fun p => roleAt lines p = .mappingKey

/-- A list item right behind a key, blank lines aside. -/
def Attached (lines : List Line) (j : Nat) : Prop :=
  roleAt lines j = .listItem ∧ behindKey lines j = true

instance (lines : List Line) (j : Nat) : Decidable (Attached lines j) :=
  inferInstanceAs (Decidable (_ ∧ _))

/-- A key at place `k` in front of place `n` such that each visible line between them is indented
deeper than the key, unless it is an attached item. -/
def StaysOpen (lines : List Line) (n k : Nat) : Prop :=
  k < n ∧ roleAt lines k = .mappingKey ∧
    ∀ j < n, k < j → roleAt lines j ≠ .blank → ¬ Attached lines j →
      indentAt lines k < indentAt lines j

instance (lines : List Line) (n k : Nat) : Decidable (StaysOpen lines n k) :=
  inferInstanceAs (Decidable (_ ∧ _ ∧ _))

/-- The keys that stay open in front of a place, the last one first. -/
def openPlaces (lines : List Line) (n : Nat) : List Nat :=
  (List.range n).reverse.filter fun k => StaysOpen lines n k

theorem lastVisible_lt {lines : List Line} :
    ∀ {n p : Nat}, lastVisible lines n = some p → p < n
  | 0, _, h => by simp [lastVisible] at h
  | n + 1, p, h => by
      unfold lastVisible at h
      split at h
      · exact Nat.lt_succ_of_lt (lastVisible_lt h)
      · simp only [Option.some.injEq] at h
        omega

/-- Every line between a place and the last visible line in front of it is blank. -/
theorem roleAt_between {lines : List Line} :
    ∀ {n p j : Nat}, lastVisible lines n = some p → p < j → j < n → roleAt lines j = .blank
  | 0, _, _, h, _, _ => by simp [lastVisible] at h
  | n + 1, p, j, h, hp, hj => by
      unfold lastVisible at h
      split at h
      · rename_i hn
        rcases Nat.lt_succ_iff_lt_or_eq.mp hj with hlt | rfl
        · exact roleAt_between h hp hlt
        · exact hn
      · simp only [Option.some.injEq] at h
        omega

/-! ## Columns and rows -/

/-- One step deeper than the last key that stays open through place `i`, or zero if there is
none. -/
def Realignment.underOpenKey (r : Realignment) (lines : List Line) (i : Nat) : Int :=
  match (openPlaces lines (i + 1)).head? with
  | some k => indentAt lines k + r.indent
  | none => 0

/-- The column of a list item at place `i`.  Right behind a key it is one step deeper than the key.
Behind another item it is that item's column, unless blank lines end a run and one stands between.
Elsewhere it is one step deeper than the last key that stays open through the item, or zero. -/
def Realignment.column (r : Realignment) (lines : List Line) (i : Nat) : Int :=
  match _h : lastVisible lines i with
  | none => r.underOpenKey lines i
  | some p =>
      if roleAt lines p = .mappingKey then indentAt lines p + r.indent
      else if roleAt lines p = .listItem ∧ (r.resetListOnBlank = true → p + 1 = i) then
        r.column lines p
      else r.underOpenKey lines i
termination_by i
decreasing_by exact lastVisible_lt _h

/-- The row that the line at place `i` becomes. -/
def Realignment.row (r : Realignment) (lines : List Line) (i : Nat) (line : Line) : List Char :=
  match line.role with
  | .blank => line.raw
  | .listItem => place (r.column lines i) line.content
  | _ => place line.indent line.content

/-- The column of the run that is under way in front of a place. -/
def Realignment.runColumn (r : Realignment) (lines : List Line) (n : Nat) : Option Int :=
  match lastVisible lines n with
  | none => none
  | some p =>
      if roleAt lines p = .listItem ∧ (r.resetListOnBlank = true → p + 1 = n) then
        some (r.column lines p)
      else none

/-- The indents of the keys that stay open in front of a place, the innermost first. -/
def openIndents (lines : List Line) (n : Nat) : List Int :=
  (openPlaces lines n).map (indentAt lines)

/-- A state that says of the lines in front of a place what looking back over them says. -/
structure Describes (r : Realignment) (lines : List Line) (n : Nat) (s : State) : Prop where
  openKeys : s.openKeys = openIndents lines n
  keyOpened : s.keyOpened = behindKey lines n
  runIndent : s.runIndent = r.runColumn lines n

/-! ## Open keys from place to place -/

theorem roleAt_of_lt {lines : List Line} {n : Nat} (hn : n < lines.length) :
    roleAt lines n = lines[n].role := by
  simp [roleAt, hn]

theorem indentAt_of_lt {lines : List Line} {n : Nat} (hn : n < lines.length) :
    indentAt lines n = lines[n].indent := by
  simp [indentAt, hn]

theorem lastVisible_succ_of_blank {lines : List Line} {n : Nat}
    (h : roleAt lines n = .blank) :
    lastVisible lines (n + 1) = lastVisible lines n := by
  simp [lastVisible, h]

theorem lastVisible_succ {lines : List Line} {n : Nat}
    (h : roleAt lines n ≠ .blank) :
    lastVisible lines (n + 1) = some n := by
  simp [lastVisible, h]

theorem behindKey_succ {lines : List Line} {n : Nat}
    (h : roleAt lines n ≠ .blank) :
    behindKey lines (n + 1) = decide (roleAt lines n = .mappingKey) := by
  simp [behindKey, lastVisible_succ h]

/-- What one more line leaves open among the keys in front of it. -/
theorem staysOpen_succ_iff {lines : List Line} {n k : Nat} (hk : k < n) :
    StaysOpen lines (n + 1) k ↔
      StaysOpen lines n k ∧
        (roleAt lines n ≠ .blank → ¬ Attached lines n →
          indentAt lines k < indentAt lines n) := by
  constructor
  · rintro ⟨-, hrole, hlater⟩
    exact ⟨⟨hk, hrole, fun j hj => hlater j (by omega)⟩, hlater n (by omega) hk⟩
  · rintro ⟨⟨-, hrole, hlater⟩, hlast⟩
    refine ⟨by omega, hrole, fun j hj hkj => ?_⟩
    rcases Nat.lt_succ_iff_lt_or_eq.mp hj with hlt | rfl
    · exact hlater j hlt hkj
    · exact hlast

theorem staysOpen_self_iff {lines : List Line} {n : Nat} :
    StaysOpen lines (n + 1) n ↔ roleAt lines n = .mappingKey := by
  constructor
  · exact fun h => h.2.1
  · exact fun h => ⟨by omega, h, fun j hj hnj => by omega⟩

theorem openPlaces_succ (lines : List Line) (n : Nat) :
    openPlaces lines (n + 1) =
      (if roleAt lines n = .mappingKey then [n] else []) ++
        (openPlaces lines n).filter fun k =>
          roleAt lines n ≠ .blank → ¬ Attached lines n →
            indentAt lines k < indentAt lines n := by
  have hkeep : ((List.range n).reverse.filter fun k => StaysOpen lines (n + 1) k) =
      (openPlaces lines n).filter fun k =>
        roleAt lines n ≠ .blank → ¬ Attached lines n →
          indentAt lines k < indentAt lines n := by
    unfold openPlaces
    rw [List.filter_filter]
    refine List.filter_congr fun k hk => ?_
    have hlt : k < n := by simpa using hk
    rw [← Bool.decide_and, decide_eq_decide]
    exact (staysOpen_succ_iff hlt).trans and_comm
  calc openPlaces lines (n + 1)
      = ((n :: (List.range n).reverse).filter fun k => StaysOpen lines (n + 1) k) := by
        simp [openPlaces, List.range_succ]
    _ = _ := by
        rw [List.filter_cons, ← hkeep]
        by_cases h : roleAt lines n = .mappingKey <;> simp [staysOpen_self_iff, h]

theorem mem_openPlaces {lines : List Line} {n k : Nat} :
    k ∈ openPlaces lines n ↔ StaysOpen lines n k := by
  refine ⟨fun h => by simpa using (List.mem_filter.mp h).2, fun h => ?_⟩
  simpa [openPlaces, h] using h.1

theorem openPlaces_pairwise (lines : List Line) (n : Nat) :
    (openPlaces lines n).Pairwise (· > ·) :=
  List.Pairwise.filter _ (List.pairwise_reverse.mpr List.pairwise_lt_range)

/-- Open keys are indented deeper and deeper. -/
theorem openIndents_pairwise (lines : List Line) (n : Nat) :
    (openIndents lines n).Pairwise (· > ·) := by
  refine List.pairwise_map.mpr
    ((openPlaces_pairwise lines n).imp_of_mem fun {a b} ha hb hab => ?_)
  obtain ⟨han, hrole, -⟩ := mem_openPlaces.mp ha
  exact (mem_openPlaces.mp hb).2.2 a han hab (by simp [hrole]) (by simp [Attached, hrole])

/-- Of indents that rise towards the front, closing keeps those below the given one. -/
theorem closeMappings_eq_filter (indent : Int) :
    ∀ keys : List Int, keys.Pairwise (· > ·) →
      closeMappings indent keys = keys.filter fun key => key < indent
  | [], _ => rfl
  | key :: outer, h => by
      obtain ⟨hkey, houter⟩ := List.pairwise_cons.mp h
      unfold closeMappings
      split
      · rename_i hle
        rw [closeMappings_eq_filter indent outer houter,
          List.filter_cons_of_neg (by simpa using hle)]
      · rename_i hlt
        have hall : ∀ x ∈ key :: outer, (x < indent) := by
          intro x hx
          rcases List.mem_cons.mp hx with rfl | hx
          · omega
          · have := hkey x hx
            omega
        exact (List.filter_eq_self.mpr fun x hx => by simpa using hall x hx).symm

theorem openIndents_succ_of_blank {lines : List Line} {n : Nat}
    (h : roleAt lines n = .blank) :
    openIndents lines (n + 1) = openIndents lines n := by
  simp [openIndents, openPlaces_succ, h]

theorem openIndents_succ_of_attached {lines : List Line} {n : Nat}
    (h : Attached lines n) :
    openIndents lines (n + 1) = openIndents lines n := by
  simp [openIndents, openPlaces_succ, h.1, h]

/-- A visible line that is no attached item closes the keys it is not indented deeper than. -/
theorem openIndents_succ {lines : List Line} {n : Nat}
    (hrole : roleAt lines n ≠ .blank) (h : ¬ Attached lines n) :
    openIndents lines (n + 1) =
      (if roleAt lines n = .mappingKey then [indentAt lines n] else []) ++
        closeMappings (indentAt lines n) (openIndents lines n) := by
  rw [closeMappings_eq_filter _ _ (openIndents_pairwise lines n)]
  unfold openIndents
  rw [openPlaces_succ, List.map_append, List.filter_map]
  congr 1
  · split <;> rfl
  · simp [hrole, h, Function.comp_def]

/-- A key in front is still open. -/
theorem openIndents_of_behindKey {lines : List Line} :
    ∀ {n : Nat}, behindKey lines n = true →
      ∃ p, lastVisible lines n = some p ∧ roleAt lines p = .mappingKey ∧
        (openIndents lines n).head? = some (indentAt lines p)
  | 0, h => by simp [behindKey, lastVisible] at h
  | n + 1, h => by
      by_cases hblank : roleAt lines n = .blank
      · have hn : behindKey lines n = true := by
          simpa [behindKey, lastVisible_succ_of_blank hblank] using h
        rw [lastVisible_succ_of_blank hblank, openIndents_succ_of_blank hblank]
        exact openIndents_of_behindKey hn
      · have hkey : roleAt lines n = .mappingKey := by
          simpa [behindKey_succ hblank] using h
        refine ⟨n, lastVisible_succ hblank, hkey, ?_⟩
        rw [openIndents_succ hblank (by simp [Attached, hkey])]
        simp [hkey]

/-! ## The column of an item, case by case -/

variable {r : Realignment} {lines : List Line} {n : Nat}

/-- Behind a key an item goes one step deeper than it. -/
theorem column_of_behindKey {p : Nat} (hp : lastVisible lines n = some p)
    (hkey : roleAt lines p = .mappingKey) :
    r.column lines n = indentAt lines p + r.indent := by
  unfold Realignment.column
  split
  · simp_all
  · rename_i q hq
    obtain rfl : q = p := by simpa [hq] using hp
    simp [hkey]

/-- In a run an item takes the column of the run. -/
theorem column_of_runColumn {c : Int} (h : r.runColumn lines n = some c) :
    r.column lines n = c := by
  unfold Realignment.runColumn at h
  unfold Realignment.column
  split at h
  · simp at h
  · rename_i p hp
    split at h
    · rename_i hrun
      split
      · simp_all
      · rename_i q hq
        obtain rfl : q = p := by simpa [hq] using hp
        rw [if_neg (by simp [hrun.1]), if_pos hrun]
        simpa using h
    · simp at h

/-- Elsewhere an item goes one step deeper than the innermost open key, or into column zero. -/
theorem column_of_no_run (hkey : behindKey lines n = false) (hrun : r.runColumn lines n = none) :
    r.column lines n = ((openIndents lines (n + 1)).head?.map (· + r.indent)).getD 0 := by
  have hunder : r.underOpenKey lines n =
      ((openIndents lines (n + 1)).head?.map (· + r.indent)).getD 0 := by
    unfold Realignment.underOpenKey openIndents
    cases openPlaces lines (n + 1) <;> rfl
  rw [← hunder]
  unfold Realignment.column
  split
  · rfl
  · rename_i p hp
    have hnokey : roleAt lines p ≠ .mappingKey := by
      simpa [behindKey, hp] using hkey
    have hnorun : ¬ (roleAt lines p = .listItem ∧
      (r.resetListOnBlank = true → p + 1 = n)) := by
      intro h
      simp only [Realignment.runColumn, hp, if_pos h] at hrun
      cases hrun
    rw [if_neg hnokey, if_neg hnorun]

theorem runColumn_succ_of_item (h : roleAt lines n = .listItem) :
    r.runColumn lines (n + 1) = some (r.column lines n) := by
  have hvisible : roleAt lines n ≠ .blank := by simp [h]
  simp [Realignment.runColumn, lastVisible_succ hvisible, h]

theorem runColumn_succ_of_other (h : roleAt lines n ≠ .blank)
    (hitem : roleAt lines n ≠ .listItem) :
    r.runColumn lines (n + 1) = none := by
  simp [Realignment.runColumn, lastVisible_succ h, hitem]

/-- A blank line ends a run only where blank lines are asked to. -/
theorem runColumn_succ_of_blank (h : roleAt lines n = .blank) :
    r.runColumn lines (n + 1) =
      if r.resetListOnBlank = true then none else r.runColumn lines n := by
  unfold Realignment.runColumn
  rw [lastVisible_succ_of_blank h]
  cases hp : lastVisible lines n with
  | none => simp
  | some p =>
      have hlt := lastVisible_lt hp
      by_cases hreset : r.resetListOnBlank = true
      · have hgap : p ≠ n := by omega
        simp [hreset, hgap]
      · simp [hreset]

/-! ## The fold, step by step -/

/-- A state that describes the lines in front of a blank one. -/
theorem describes_step_blank {s : State} (hs : Describes r lines n s) (hn : n < lines.length)
    (hrole : lines[n].role = .blank) :
    Describes r lines (n + 1) (r.step s lines[n]).1 := by
  have hblank : roleAt lines n = .blank := by rw [roleAt_of_lt hn, hrole]
  have hopen := openIndents_succ_of_blank hblank
  have hkey : behindKey lines (n + 1) = behindKey lines n := by
    simp [behindKey, lastVisible_succ_of_blank hblank]
  have hrun := runColumn_succ_of_blank (r := r) hblank
  by_cases hreset : r.resetListOnBlank = true ∧ s.inRun = true
  · have hstep : (r.step s lines[n]).1 = { s with runIndent := none, runStart := -1 } := by
      simp [Realignment.step, hrole, hreset]
    rw [hstep]
    exact ⟨by rw [hopen, hs.openKeys], by rw [hkey, hs.keyOpened], by simp [hrun, hreset.1]⟩
  · have hstep : (r.step s lines[n]).1 = s := by
      simp [Realignment.step, hrole, hreset]
    rw [hstep]
    refine ⟨by rw [hopen, hs.openKeys], by rw [hkey, hs.keyOpened], ?_⟩
    rw [hrun, hs.runIndent]
    split
    · rename_i hr
      have hnone : s.runIndent = none := by simpa [State.inRun, hr] using hreset
      rw [← hs.runIndent, hnone]
    · rfl

/-- An item right behind a key goes under the key and starts a run there. -/
theorem step_attached {s : State} {line : Line} {key : Int} {outer : List Int}
    (hrole : line.role = .listItem) (hkey : s.keyOpened = true)
    (hopen : s.openKeys = key :: outer) :
    r.step s line =
      ({ openKeys := key :: outer, runIndent := some (key + r.indent), runStart := line.index },
        place (key + r.indent) line.content) := by
  simp [Realignment.step, hrole, hkey, hopen]

/-- Any other item closes mappings and goes on with the run, or starts one under the innermost key
that is left. -/
theorem step_item {s : State} {line : Line}
    (hrole : line.role = .listItem) (hkey : s.keyOpened = false) :
    ∃ start,
      r.step s line =
        let openKeys := closeMappings line.indent s.openKeys
        let column := s.runIndent.getD ((openKeys.head?.map (· + r.indent)).getD 0)
        ({ openKeys, runIndent := some column, runStart := start },
          place column line.content) := by
  cases hrun : s.runIndent with
  | some column => exact ⟨s.runStart, by simp [Realignment.step, hrole, hkey, hrun]⟩
  | none =>
      refine ⟨line.index, ?_⟩
      cases hopen : closeMappings line.indent s.openKeys <;>
        simp [Realignment.step, hrole, hkey, hrun, hopen]

/-- A state that describes the lines in front of an item, and the row of that item. -/
theorem describes_step_item {s : State} (hs : Describes r lines n s) (hn : n < lines.length)
    (hrole : lines[n].role = .listItem) :
    Describes r lines (n + 1) (r.step s lines[n]).1 ∧
      (r.step s lines[n]).2 = place (r.column lines n) lines[n].content := by
  have hitem : roleAt lines n = .listItem := by rw [roleAt_of_lt hn, hrole]
  have hkeyNext : behindKey lines (n + 1) = false := by
    rw [behindKey_succ (by simp [hitem])]
    simp [hitem]
  have hrunNext := runColumn_succ_of_item (r := r) hitem
  cases hkey : behindKey lines n with
  | true =>
      obtain ⟨p, hp, hpkey, hhead⟩ := openIndents_of_behindKey hkey
      obtain ⟨outer, houter⟩ : ∃ outer, openIndents lines n = indentAt lines p :: outer :=
        ⟨_, List.eq_cons_of_mem_head? hhead⟩
      have hcolumn := column_of_behindKey (r := r) hp hpkey
      rw [step_attached hrole (hs.keyOpened.trans hkey) (hs.openKeys.trans houter), hcolumn]
      refine ⟨⟨?_, hkeyNext.symm, ?_⟩, rfl⟩
      · rw [openIndents_succ_of_attached ⟨hitem, hkey⟩, houter]
      · rw [hrunNext, hcolumn]
  | false =>
      have hopenNext : openIndents lines (n + 1) =
          closeMappings lines[n].indent s.openKeys := by
        rw [openIndents_succ (by simp [hitem]) (by simp [Attached, hkey]), hs.openKeys]
        simp [hitem, indentAt_of_lt hn]
      have hcolumn : r.column lines n = s.runIndent.getD
          (((closeMappings lines[n].indent s.openKeys).head?.map (· + r.indent)).getD 0) := by
        rw [hs.runIndent, ← hopenNext]
        cases hrun : r.runColumn lines n with
        | some c => exact column_of_runColumn hrun
        | none => exact column_of_no_run hkey hrun
      obtain ⟨start, hstep⟩ := step_item (r := r) hrole (hs.keyOpened.trans hkey)
      rw [hstep, hcolumn]
      refine ⟨⟨hopenNext.symm, hkeyNext.symm, ?_⟩, rfl⟩
      rw [hrunNext, hcolumn]

/-- One line keeps the description and emits the row described. -/
theorem describes_step {s : State} (hs : Describes r lines n s) (hn : n < lines.length) :
    Describes r lines (n + 1) (r.step s lines[n]).1 ∧
      (r.step s lines[n]).2 = r.row lines n lines[n] := by
  have hroleAt := roleAt_of_lt hn
  have hindentAt := indentAt_of_lt hn
  -- A blank line changes nothing and an item is a matter of its own; the other two end a run.
  cases hrole : lines[n].role with
  | blank =>
      exact ⟨describes_step_blank hs hn hrole,
        by simp [Realignment.step, Realignment.row, hrole]⟩
  | mappingKey =>
      have hkey : roleAt lines n = .mappingKey := by rw [hroleAt, hrole]
      refine ⟨⟨?_, ?_, ?_⟩, by simp [Realignment.step, Realignment.row, hrole]⟩
      · rw [openIndents_succ (by simp [hkey]) (by simp [Attached, hkey])]
        simp [Realignment.step, hrole, hkey, hindentAt, hs.openKeys]
      · rw [behindKey_succ (by simp [hkey])]
        simp [Realignment.step, hrole, hkey]
      · rw [runColumn_succ_of_other (by simp [hkey]) (by simp [hkey])]
        simp [Realignment.step, hrole]
  | other =>
      have hother : roleAt lines n = .other := by rw [hroleAt, hrole]
      refine ⟨⟨?_, ?_, ?_⟩, by simp [Realignment.step, Realignment.row, hrole]⟩
      · rw [openIndents_succ (by simp [hother]) (by simp [Attached, hother])]
        simp [Realignment.step, hrole, hother, hindentAt, hs.openKeys]
      · rw [behindKey_succ (by simp [hother])]
        simp [Realignment.step, hrole, hother]
      · rw [runColumn_succ_of_other (by simp [hother]) (by simp [hother])]
        simp [Realignment.step, hrole]
  | listItem =>
      have hrow : r.row lines n lines[n] = place (r.column lines n) lines[n].content := by
        simp [Realignment.row, hrole]
      rw [hrow]
      exact describes_step_item hs hn hrole

/-! ## The whole pass -/

theorem fold_append (s : State) (front back : List Line) :
    r.fold s (front ++ back) =
      ((r.fold (r.fold s front).1 back).1,
        (r.fold s front).2 ++ (r.fold (r.fold s front).1 back).2) := by
  induction front generalizing s with
  | nil => simp [Realignment.fold]
  | cons line rest ih => simp [Realignment.fold, ih]

/-- The first lines of a pass leave a state that describes them, and emit the rows described. -/
theorem describes_fold_take (r : Realignment) (lines : List Line) :
    ∀ n ≤ lines.length,
      Describes r lines n (r.fold {} (lines.take n)).1 ∧
        (r.fold {} (lines.take n)).2 = (lines.mapIdx (r.row lines)).take n
  | 0, _ => by
      refine ⟨⟨?_, ?_, ?_⟩, ?_⟩ <;>
        simp [Realignment.fold, openIndents, openPlaces, behindKey, lastVisible,
          Realignment.runColumn]
  | n + 1, hn => by
      -- The last of `n + 1` lines sees a state that describes the `n` lines in front of it.
      obtain ⟨hs, hrows⟩ := describes_fold_take r lines n (by omega)
      obtain ⟨hnext, hrow⟩ := describes_step hs hn
      rw [List.take_succ_eq_append_getElem hn, fold_append]
      refine ⟨hnext, ?_⟩
      rw [hrows, List.take_succ_eq_append_getElem (by simpa using Nat.lt_of_succ_le hn)]
      simp [Realignment.fold, hrow]

/-- Realignment emits one row for every line, and each is the row that the lines in front of it
determine. -/
theorem fold_snd_eq_mapIdx_row (r : Realignment) (lines : List Line) :
    (r.fold {} lines).2 = lines.mapIdx (r.row lines) := by
  have h := (describes_fold_take r lines lines.length (Nat.le_refl _)).2
  rwa [List.take_length, List.take_of_length_le (by simp)] at h

/-! ## The description in full -/

/-- No line between a place and the last visible line in front of it is blank exactly when the two
are neighbours. -/
theorem no_blank_between_iff {p : Nat} (hp : lastVisible lines n = some p) :
    (∀ j, p < j → j < n → roleAt lines j ≠ .blank) ↔ p + 1 = n := by
  have hlt := lastVisible_lt hp
  constructor
  · intro h
    by_contra hne
    exact h (p + 1) (by omega) (by omega) (roleAt_between hp (by omega) (by omega))
  · intro h j hpj hjn
    omega

/-- The first of the open places is the last key that stays open. -/
theorem head?_openPlaces_eq_some {k : Nat} (hk : StaysOpen lines n k)
    (hlast : ∀ k', StaysOpen lines n k' → k' ≤ k) :
    (openPlaces lines n).head? = some k := by
  have hmem := mem_openPlaces.mpr hk
  have hsorted := openPlaces_pairwise lines n
  cases hplaces : openPlaces lines n with
  | nil => simp [hplaces] at hmem
  | cons first rest =>
      have hle : first ≤ k := hlast first (mem_openPlaces.mp (by simp [hplaces]))
      rw [hplaces] at hmem hsorted
      rcases List.mem_cons.mp hmem with rfl | hrest
      · rfl
      · have hgt := (List.pairwise_cons.mp hsorted).1 k hrest
        omega

theorem openPlaces_eq_nil (h : ∀ k, ¬ StaysOpen lines n k) : openPlaces lines n = [] := by
  simp [openPlaces, h]

/-- **Realignment without a stack.**  One row is emitted for each line: a blank line as it stands, a
list item in its column, any other line at its own indent.  The column of an item behind a key is
one step right of the key.  Behind an item, with no blank line between them where blank lines end a
run, it is that item's column.  Elsewhere it is one step right of the last key that stays open
through the item, and zero if there is none. -/
theorem realigned_rows_of_earlier_lines (r : Realignment) (lines : List Line) :
    (r.fold {} lines).2 =
        lines.mapIdx (fun i line =>
          match line.role with
          | .blank => line.raw
          | .listItem => spaces (r.column lines i) ++ line.content
          | .mappingKey => spaces line.indent ++ line.content
          | .other => spaces line.indent ++ line.content) ∧
      ∀ i,
        let InRun (p : Nat) : Prop := roleAt lines p = .listItem ∧
          (r.resetListOnBlank = true → ∀ j, p < j → j < i → roleAt lines j ≠ .blank)
        (∀ p, lastVisible lines i = some p → roleAt lines p = .mappingKey →
          r.column lines i = indentAt lines p + r.indent) ∧
        (∀ p, lastVisible lines i = some p → InRun p →
          r.column lines i = r.column lines p) ∧
        ((∀ p, lastVisible lines i = some p → roleAt lines p ≠ .mappingKey ∧ ¬ InRun p) →
          (∀ k, StaysOpen lines (i + 1) k →
            (∀ k', StaysOpen lines (i + 1) k' → k' ≤ k) →
            r.column lines i = indentAt lines k + r.indent) ∧
          ((∀ k, ¬ StaysOpen lines (i + 1) k) → r.column lines i = 0)) := by
  have hrun : ∀ {i p : Nat}, lastVisible lines i = some p →
      ((r.resetListOnBlank = true → ∀ j, p < j → j < i → roleAt lines j ≠ .blank) ↔
        (r.resetListOnBlank = true → p + 1 = i)) :=
    fun hp => imp_congr_right fun _ => no_blank_between_iff hp
  refine ⟨?_, fun i => ⟨fun p => column_of_behindKey, fun p hp ⟨hitem, hgap⟩ => ?_,
    fun h => ?_⟩⟩
  · rw [fold_snd_eq_mapIdx_row]
    congr
    funext i line
    cases hrole : line.role <;> simp [Realignment.row, hrole, place]
  · apply column_of_runColumn
    simp only [Realignment.runColumn, hp]
    exact if_pos ⟨hitem, (hrun hp).mp hgap⟩
  · have hcolumn : r.column lines i = r.underOpenKey lines i := by
      unfold Realignment.column
      split
      · rfl
      · rename_i p hp
        obtain ⟨hkey, hnorun⟩ := h p hp
        rw [if_neg hkey, if_neg fun ⟨hitem, hgap⟩ => hnorun ⟨hitem, (hrun hp).mpr hgap⟩]
    rw [hcolumn, Realignment.underOpenKey]
    refine ⟨fun k hk hlast => ?_, fun hnone => ?_⟩
    · rw [head?_openPlaces_eq_some hk hlast]
    · rw [openPlaces_eq_nil hnone]
      rfl

end Repair
end YamlTidy
