import YamlTidy.Proofs.Repair.Rebuilt

/-!
# A second pass

What a pass emits can be classified and realigned again.  The second pass sees keys and scalars
where they were, and each list item in its column (`InColumns`).  So a key that an item closed in
the first pass may stay open in the second one, and the two do not go through the same states.

* A key that stays open in the first pass does so in the second one, since an item is placed deeper
  than all keys that stay open through it (`indentAt_lt_column`, `InColumns.staysOpen`).
* A key that stays open in the second pass alone is closed by the first item that could go under it,
  as long as all keys stand at multiples of the step (`InColumns.head_openIndents`).

Main statement: `realign_realign`.
-/

namespace YamlTidy
namespace Repair

open Text

variable {r : Realignment} {lines again : List Line} {i j k k' n : Nat} {c : Int}

/-! ## The last key that stays open -/

/-- Among the keys that stay open, if there are any, one is the last. -/
theorem exists_last_open (h : StaysOpen lines n k) :
    ∃ last, StaysOpen lines n last ∧ (∀ k', StaysOpen lines n k' → k' ≤ last) ∧
      (openIndents lines n).head? = some (indentAt lines last) := by
  have hmem := mem_openPlaces.mpr h
  have hsorted := openPlaces_pairwise lines n
  cases hplaces : openPlaces lines n with
  | nil => simp [hplaces] at hmem
  | cons last rest =>
      rw [hplaces] at hsorted
      refine ⟨last, mem_openPlaces.mp (by simp [hplaces]), fun k' hk' => ?_,
        by simp [openIndents, hplaces]⟩
      have hmem' := mem_openPlaces.mpr hk'
      rw [hplaces] at hmem'
      rcases List.mem_cons.mp hmem' with rfl | hrest
      · exact Nat.le_refl _
      · exact Nat.le_of_lt ((List.pairwise_cons.mp hsorted).1 k' hrest)

/-- A key that stays open later on does so up to any line behind it. -/
theorem StaysOpen.mono (h : StaysOpen lines n k) (hk : k < i) (hi : i ≤ n) :
    StaysOpen lines i k :=
  ⟨hk, h.2.1, fun j hj => h.2.2 j (Nat.lt_of_lt_of_le hj hi)⟩

/-- Of two keys that stay open the later one is indented deeper. -/
theorem StaysOpen.indentAt_lt (h : StaysOpen lines n k) (hlt : k < k') (hk' : k' < n)
    (hkey : roleAt lines k' = .mappingKey) : indentAt lines k < indentAt lines k' :=
  h.2.2 k' hk' hlt (by simp [hkey]) (by simp [Attached, hkey])

/-- The last visible line in front of a place is not in front of a visible one. -/
theorem le_of_lastVisible {p : Nat} (hp : lastVisible lines n = some p) (hk : k < n)
    (hvisible : roleAt lines k ≠ .blank) : k ≤ p := by
  by_contra hlt
  exact hvisible (roleAt_between hp (by omega) hk)

/-! ## Columns -/

theorem runColumn_eq_some : r.runColumn lines n = some c ↔
    ∃ p, lastVisible lines n = some p ∧ roleAt lines p = .listItem ∧
      (r.resetListOnBlank = true → p + 1 = n) ∧ r.column lines p = c := by
  unfold Realignment.runColumn
  cases hp : lastVisible lines n with
  | none => simp
  | some p => simp [and_assoc]

/-- An item is placed deeper than each key that stays open through it. -/
theorem indentAt_lt_column (hstep : 1 ≤ r.indent) (h : StaysOpen lines (j + 1) k)
    (hitem : roleAt lines j = .listItem) : indentAt lines k < r.column lines j := by
  induction j using Nat.strongRecOn with
  | ind j ih =>
  have hlt : k < j := by
    refine Nat.lt_of_le_of_ne (Nat.lt_succ_iff.mp h.1) ?_
    rintro rfl
    rw [h.2.1] at hitem
    cases hitem
  have hkey : roleAt lines k ≠ .blank := by simp [h.2.1]
  cases hbehind : behindKey lines j with
  | true =>
      obtain ⟨p, hp, hpkey, -⟩ := openIndents_of_behindKey hbehind
      rw [column_of_behindKey hp hpkey]
      rcases Nat.eq_or_lt_of_le (le_of_lastVisible hp hlt hkey) with rfl | hkp
      · omega
      · have hdeeper := h.indentAt_lt hkp (Nat.lt_succ_of_lt (lastVisible_lt hp)) hpkey
        omega
  | false =>
      cases hrun : r.runColumn lines j with
      | some c =>
          -- The item that the run goes on from is behind the key, too.
          obtain ⟨p, hp, hpitem, -, hc⟩ := runColumn_eq_some.mp hrun
          have hpj := lastVisible_lt hp
          have hkp : k ≤ p := le_of_lastVisible hp hlt hkey
          rw [column_of_runColumn hrun, ← hc]
          exact ih p hpj (h.mono (by omega) (by omega)) hpitem
      | none =>
          obtain ⟨last, hopen, hlast, hhead⟩ := exists_last_open h
          rw [column_of_no_run hbehind hrun, hhead]
          have hle : indentAt lines k ≤ indentAt lines last := by
            rcases Nat.eq_or_lt_of_le (hlast k h) with rfl | hlt
            · exact Int.le_refl _
            · exact Int.le_of_lt (h.indentAt_lt hlt hopen.1 hopen.2.1)
          simp only [Option.map_some, Option.getD_some]
          omega

theorem column_nonneg (hstep : 0 ≤ r.indent) (hlines : ∀ k, 0 ≤ indentAt lines k) (i : Nat) :
    0 ≤ r.column lines i := by
  induction i using Nat.strongRecOn with
  | ind i ih =>
  cases hbehind : behindKey lines i with
  | true =>
      obtain ⟨p, hp, hpkey, -⟩ := openIndents_of_behindKey hbehind
      rw [column_of_behindKey hp hpkey]
      exact Int.add_nonneg (hlines p) hstep
  | false =>
      cases hrun : r.runColumn lines i with
      | some c =>
          obtain ⟨p, hp, -, -, hc⟩ := runColumn_eq_some.mp hrun
          rw [column_of_runColumn hrun, ← hc]
          exact ih p (lastVisible_lt hp)
      | none =>
          rw [column_of_no_run hbehind hrun]
          cases hhead : openIndents lines (i + 1) with
          | nil => simp
          | cons key outer =>
              have hkey : key ∈ openIndents lines (i + 1) := by simp [hhead]
              obtain ⟨k, -, rfl⟩ := List.mem_map.mp hkey
              exact Int.add_nonneg (hlines k) hstep

/-! ## Lines whose items stand in their columns -/

/-- Lines with the same roles, of which each item stands in its column and each other visible line
where it stood. -/
structure InColumns (r : Realignment) (lines again : List Line) : Prop where
  role : ∀ i, roleAt again i = roleAt lines i
  anchor : ∀ i, roleAt lines i ≠ .blank → roleAt lines i ≠ .listItem →
    indentAt again i = indentAt lines i
  item : ∀ i, roleAt lines i = .listItem → indentAt again i = r.column lines i

namespace InColumns

theorem key (h : InColumns r lines again) (hkey : roleAt lines k = .mappingKey) :
    indentAt again k = indentAt lines k :=
  h.anchor k (by simp [hkey]) (by simp [hkey])

theorem lastVisible_eq (h : InColumns r lines again) (n : Nat) :
    lastVisible again n = lastVisible lines n := by
  induction n with
  | zero => rfl
  | succ n ih => rw [lastVisible, lastVisible, h.role, ih]

theorem behindKey_eq (h : InColumns r lines again) (n : Nat) :
    behindKey again n = behindKey lines n := by
  simp only [behindKey, h.lastVisible_eq, h.role]

theorem attached_iff (h : InColumns r lines again) : Attached again j ↔ Attached lines j := by
  rw [Attached, Attached, h.role, h.behindKey_eq]

/-- A key that stays open in the first pass stays open in the second one. -/
theorem staysOpen (h : InColumns r lines again) (hstep : 1 ≤ r.indent)
    (hopen : StaysOpen lines n k) : StaysOpen again n k := by
  refine ⟨hopen.1, (h.role k).trans hopen.2.1, fun j hj hkj hvisible hloose => ?_⟩
  rw [h.role] at hvisible
  rw [h.attached_iff] at hloose
  rw [h.key hopen.2.1]
  by_cases hitem : roleAt lines j = .listItem
  · rw [h.item j hitem]
    exact indentAt_lt_column hstep (hopen.mono (Nat.lt_succ_of_lt hkj) hj) hitem
  · rw [h.anchor j hvisible hitem]
    exact hopen.2.2 j hj hkj hvisible hloose

/-- A key that stays open in the second pass through an item that is not attached stands in front of
the item's column. -/
theorem indentAt_lt (h : InColumns r lines again) (hopen : StaysOpen again (i + 1) k)
    (hitem : roleAt lines i = .listItem) (hloose : behindKey lines i = false) :
    roleAt lines k = .mappingKey ∧ indentAt lines k < r.column lines i := by
  have hkey : roleAt lines k = .mappingKey := by rw [← h.role, hopen.2.1]
  have hki : k < i := by
    refine Nat.lt_of_le_of_ne (Nat.lt_succ_iff.mp hopen.1) ?_
    rintro rfl
    rw [hkey] at hitem
    cases hitem
  have hlt := hopen.2.2 i (Nat.lt_succ_self i) hki (by simp [h.role, hitem])
    (by simp [Attached, h.behindKey_eq, hloose])
  rw [h.key hkey, h.item i hitem] at hlt
  exact ⟨hkey, hlt⟩

end InColumns

/-- Keys stand at multiples of the step. -/
def OnGrid (r : Realignment) (lines : List Line) : Prop :=
  ∀ k, roleAt lines k = .mappingKey → r.indent ∣ indentAt lines k

/-- Between a multiple of the step and the next one there is none. -/
theorem add_le_of_dvd {step a b : Int} (ha : step ∣ a) (hb : step ∣ b) (h : a < b) :
    a + step ≤ b := by
  have hdiff : step ∣ b - a := Int.dvd_sub hb ha
  have hle := Int.le_of_dvd (by omega) hdiff
  omega

namespace InColumns

/-- On the grid the innermost key over an item that begins a run is the same in both passes. -/
theorem head_openIndents (h : InColumns r lines again) (hstep : 1 ≤ r.indent)
    (hgrid : OnGrid r lines) (hlines : ∀ k, 0 ≤ indentAt lines k)
    (hitem : roleAt lines i = .listItem) (hloose : behindKey lines i = false)
    (hrun : r.runColumn lines i = none) :
    (openIndents again (i + 1)).head? = (openIndents lines (i + 1)).head? := by
  have hcolumn := column_of_no_run hloose hrun
  by_cases hsome : ∃ k, StaysOpen lines (i + 1) k
  · obtain ⟨k, hk⟩ := hsome
    obtain ⟨last, hopen, hlast, hhead⟩ := exists_last_open hk
    rw [hhead] at hcolumn ⊢
    obtain ⟨last', hopen', hlast', hhead'⟩ := exists_last_open (h.staysOpen hstep hopen)
    obtain ⟨hkey', hlt⟩ := h.indentAt_lt hopen' hitem hloose
    -- A later key would stand a step deeper, in the column of the item or behind it.
    have hle : last' ≤ last := by
      by_contra hgt
      have hdeeper := hopen.indentAt_lt (Nat.lt_of_not_le hgt) hopen'.1 hkey'
      have hgap := add_le_of_dvd (hgrid last hopen.2.1) (hgrid last' hkey') hdeeper
      simp only [Option.map_some, Option.getD_some] at hcolumn
      omega
    obtain rfl : last' = last := Nat.le_antisymm hle (hlast' last (h.staysOpen hstep hopen))
    rw [hhead', h.key hkey']
  · have hnone : ∀ k, ¬ StaysOpen again (i + 1) k := by
      intro k hk
      obtain ⟨-, hlt⟩ := h.indentAt_lt hk hitem hloose
      rw [hcolumn, openIndents, openPlaces_eq_nil (not_exists.mp hsome)] at hlt
      exact Int.not_lt.mpr (hlines k) hlt
    rw [openIndents, openIndents, openPlaces_eq_nil hnone,
      openPlaces_eq_nil (not_exists.mp hsome)]
    rfl

/-- On the grid an item has the same column in both passes. -/
theorem column_eq (h : InColumns r lines again) (hstep : 1 ≤ r.indent) (hgrid : OnGrid r lines)
    (hlines : ∀ k, 0 ≤ indentAt lines k) (hitem : roleAt lines i = .listItem) :
    r.column again i = r.column lines i := by
  induction i using Nat.strongRecOn with
  | ind i ih =>
  cases hbehind : behindKey lines i with
  | true =>
      obtain ⟨p, hp, hpkey, -⟩ := openIndents_of_behindKey hbehind
      rw [column_of_behindKey hp hpkey,
        column_of_behindKey ((h.lastVisible_eq i).trans hp) ((h.role p).trans hpkey),
          h.key hpkey]
  | false =>
      have hbehind' : behindKey again i = false := (h.behindKey_eq i).trans hbehind
      have hrunColumn : r.runColumn again i = r.runColumn lines i := by
        refine Option.ext fun c => ?_
        simp only [runColumn_eq_some, h.lastVisible_eq, h.role]
        refine exists_congr fun p => and_congr_right fun hp => and_congr_right fun hpitem => ?_
        rw [ih p (lastVisible_lt hp) hpitem]
      cases hrun : r.runColumn lines i with
      | some c => rw [column_of_runColumn hrun, column_of_runColumn (hrunColumn.trans hrun)]
      | none =>
          rw [column_of_no_run hbehind hrun, column_of_no_run hbehind' (hrunColumn.trans hrun),
            h.head_openIndents hstep hgrid hlines hitem hbehind hrun]

end InColumns

/-! ## What is emitted and classified again -/

section Emitted

variable {raw : List Char}

/-- Content behind spaces is the content of the row. -/
theorem strip_place (c : Int) (raw : List Char) : strip (place c (strip raw)) = strip raw := by
  have hspaces : (place c (strip raw)).takeWhile isBlank = spaces c :=
    takeWhile_spaces_append (by decide) (fun _ hc => hc) (takeWhile_strip raw) c
  have hsplit := List.takeWhile_append_dropWhile (p := isBlank) (l := place c (strip raw))
  rw [hspaces] at hsplit
  rw [strip, stripStart, List.append_cancel_left hsplit, stripEnd_strip]

theorem leadingSpaces_place (c : Int) (raw : List Char) :
    leadingSpaces (place c (strip raw)) = c.toNat := by
  have hspaces : (place c (strip raw)).takeWhile (· == ' ') = spaces c :=
    takeWhile_spaces_append (by decide) (fun d hd => by
      obtain rfl : d = ' ' := by simpa using hd
      decide) (takeWhile_strip raw) c
  rw [leadingSpaces, hspaces, spaces, List.length_replicate]

theorem strip_row (r : Realignment) (lines : List Line) (i : Nat) (raw : List Char) :
    strip (r.row lines i (Line.classify i raw)) = strip raw := by
  rcases row_classify r lines i raw with ⟨-, hrow⟩ | ⟨-, c, hrow⟩
  · rw [hrow]
  · rw [hrow, strip_place]

/-- An emitted row has the role of its line. -/
theorem role_row (r : Realignment) (lines : List Line) (i : Nat) (raw : List Char) :
    (Line.classify i (r.row lines i (Line.classify i raw))).role =
      (Line.classify i raw).role := by
  simp only [Line.classify]
  exact congrArg roleOf (strip_row r lines i raw)

theorem row_of_item (r : Realignment) (lines : List Line)
    (hitem : (Line.classify i raw).role = .listItem) :
    r.row lines i (Line.classify i raw) = place (r.column lines i) (strip raw) := by
  rw [Realignment.row, hitem]
  rfl

theorem row_of_anchor (r : Realignment) (lines : List Line)
    (hblank : (Line.classify i raw).role ≠ .blank)
    (hitem : (Line.classify i raw).role ≠ .listItem) :
    r.row lines i (Line.classify i raw) = place (leadingSpaces raw) (strip raw) := by
  unfold Realignment.row
  split
  · exact absurd ‹_› hblank
  · exact absurd ‹_› hitem
  · rfl

/-- A key or a scalar is found again where it stood. -/
theorem indent_row_of_anchor (r : Realignment) (lines : List Line)
    (hblank : (Line.classify i raw).role ≠ .blank)
    (hitem : (Line.classify i raw).role ≠ .listItem) :
    (Line.classify i (r.row lines i (Line.classify i raw))).indent =
      (Line.classify i raw).indent := by
  rw [row_of_anchor r lines hblank hitem]
  simp [Line.classify, leadingSpaces_place]

/-- An item is found again in its column. -/
theorem indent_row_of_item (r : Realignment) (lines : List Line)
    (hitem : (Line.classify i raw).role = .listItem) (hcolumn : 0 ≤ r.column lines i) :
    (Line.classify i (r.row lines i (Line.classify i raw))).indent = r.column lines i := by
  rw [row_of_item r lines hitem]
  simp only [Line.classify, leadingSpaces_place, Int.toNat_of_nonneg hcolumn]

/-- A row that was emitted is emitted again, if an item has the same column. -/
theorem row_row (hcolumn : (Line.classify i raw).role = .listItem →
    r.column again i = r.column lines i) :
    r.row again i (Line.classify i (r.row lines i (Line.classify i raw))) =
      r.row lines i (Line.classify i raw) := by
  have hrole := role_row r lines i raw
  by_cases hblank : (Line.classify i raw).role = .blank
  · rw [hblank] at hrole
    rw [Realignment.row, hrole]
    rfl
  · by_cases hitem : (Line.classify i raw).role = .listItem
    · rw [row_of_item r again (hrole.trans hitem), strip_row, row_of_item r lines hitem,
        hcolumn hitem]
    · rw [← hrole] at hblank hitem
      rw [row_of_anchor r again hblank hitem, strip_row]
      rw [hrole] at hblank hitem
      rw [row_of_anchor r lines hblank hitem, leadingSpaces_place, Int.toNat_natCast]

end Emitted

theorem indentAt_classify_nonneg (t : List Char) (k : Nat) : 0 ≤ indentAt (classify t) k := by
  rw [indentAt, getElem?_classify]
  cases (rows t)[k]? <;> simp [Line.classify]

theorem getElem?_classify_realign (r : Realignment) (t : List Char) (i : Nat) :
    (classify (r.realign (classify t)))[i]? = ((rows t)[i]?).map fun raw =>
      Line.classify i (r.row (classify t) i (Line.classify i raw)) := by
  rw [getElem?_classify, rows_realign, List.getElem?_mapIdx, Option.map_map]
  rfl

/-- The lines of an emitted text are those of the given one, with the items in their columns. -/
theorem inColumns_realign (hstep : 0 ≤ r.indent) (t : List Char) :
    InColumns r (classify t) (classify (r.realign (classify t))) := by
  have hcolumn := column_nonneg hstep (indentAt_classify_nonneg t)
  have hline (i : Nat) := getElem?_classify_realign r t i
  constructor
  · intro i
    rw [roleAt, roleAt, hline, getElem?_classify]
    cases (rows t)[i]? with
    | none => rfl
    | some raw => exact role_row r (classify t) i raw
  · intro i hblank hitem
    rw [roleAt, getElem?_classify] at hblank hitem
    rw [indentAt, indentAt, hline, getElem?_classify]
    cases hraw : (rows t)[i]? with
    | none => rfl
    | some raw =>
        rw [hraw] at hblank hitem
        exact indent_row_of_anchor r (classify t) hblank hitem
  · intro i hitem
    rw [roleAt, getElem?_classify] at hitem
    rw [indentAt, hline]
    cases hraw : (rows t)[i]? with
    | none =>
        rw [hraw] at hitem
        cases hitem
    | some raw =>
        rw [hraw] at hitem
        exact indent_row_of_item r (classify t) hitem (hcolumn i)

theorem onGrid_of_forall {t : List Char}
    (h : ∀ line ∈ classify t, line.role = .mappingKey → r.indent ∣ line.indent) :
    OnGrid r (classify t) := by
  intro k hkey
  rw [roleAt] at hkey
  rw [indentAt]
  cases hline : (classify t)[k]? with
  | none => simp
  | some line =>
      rw [hline] at hkey
      exact h line (List.mem_of_getElem? hline) hkey

/-- **A second pass moves nothing.**  When each key of a text stands at a multiple of the step,
realigning the text that realignment emits gives that text again. -/
theorem realign_realign (r : Realignment) (hstep : 1 ≤ r.indent) (t : List Char)
    (hgrid : ∀ line ∈ classify t, line.role = .mappingKey → r.indent ∣ line.indent) :
    r.realign (classify (r.realign (classify t))) = r.realign (classify t) := by
  have hagain := inColumns_realign (r := r) (by omega) t
  have hlines := indentAt_classify_nonneg t
  have hrows : rows (r.realign (classify (r.realign (classify t)))) =
      rows (r.realign (classify t)) := by
    refine List.ext_getElem? fun i => ?_
    rw [rows_realign r (r.realign (classify t)), List.getElem?_mapIdx, rows_realign r t,
      List.getElem?_mapIdx, Option.map_map]
    cases hraw : (rows t)[i]? with
    | none => rfl
    | some raw =>
        refine congrArg some ( row_row fun hitem => ?_)
        refine hagain.column_eq hstep (onGrid_of_forall hgrid) hlines ?_
        rw [roleAt, getElem?_classify, hraw]
        exact hitem
  rw [← joinRows_rows (r.realign (classify (r.realign (classify t)))), hrows, joinRows_rows]

/-- The first item outside its column closes the key in the first pass and not in the second one,
and what is emitted stays as it is. -/
theorem realign_realign_misplaced :
    let t := "b:\n  - x\n- y\n    z\n - w\n  c:\n- v".toList
    let emitted := "b:\n  - x\n  - y\n    z\n- w\n  c:\n    - v".toList
    let r : Realignment := {}
    (r.fold {} ((classify t).take 4)).1.openKeys = [] ∧
      (r.fold {} ((classify emitted).take 4)).1.openKeys = [0] ∧
      1 ≤ r.indent ∧
        (∀ line ∈ classify t, line.role = .mappingKey → r.indent ∣ line.indent) ∧
      r.realign (classify t) = emitted ∧ r.realign (classify emitted) = emitted := by
  intro t emitted r
  have hgrid : ∀ line ∈ classify t, line.role = .mappingKey → r.indent ∣ line.indent := by
    decide +kernel
  have hemitted : r.realign (classify t) = emitted := by decide +kernel
  have hagain := realign_realign r (by decide) t hgrid
  rw [hemitted] at hagain
  exact ⟨by decide +kernel, by decide +kernel, by decide, hgrid, hemitted, hagain⟩

/-- Keys off the grid can come back: the second pass puts the last item under a key that the first
one had closed. -/
example :
    let t := "a:\n b:\n  - x\n - y\n     z\n     - w".toList
    let r : Realignment := {}
    r.realign (classify t) = "a:\n b:\n   - x\n   - y\n     z\n  - w".toList ∧
      r.realign (classify (r.realign (classify t))) =
        "a:\n b:\n   - x\n   - y\n     z\n   - w".toList := by
  decide +kernel

end Repair
end YamlTidy
