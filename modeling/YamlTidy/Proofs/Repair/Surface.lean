import YamlTidy.Repair.Normalize
import YamlTidy.Proofs.Text.Rows

/-!
# What surface cleanup keeps

Surface cleanup deletes and adds blanks and deletes commas.  A filter that lets line feeds through
and no other blank sees nothing of its work on tabs and row ends (`filter_expandTabs`,
`filter_stripRows`), and one that lets no comma through sees nothing at all behind the first step
(`filter_normalize`).

A text that shows none of the things that cleanup looks for is left as it is:
`normalize_eq_self`.
-/

namespace YamlTidy
namespace Repair

open Text

/-! ## Byte order marks and line breaks -/

theorem return_not_mem_unifyBreaks (s : List Char) : '\r' ∉ unifyBreaks s := by
  fun_induction unifyBreaks s with
  | case1 => simp
  | case2 rest ih => simpa using ih
  | case3 rest _ ih => simpa using ih
  | case4 c rest _ hc ih =>
      have hne : c ≠ '\r' := fun h => hc h
      simp [ih, Ne.symm hne]

theorem unifyBreaks_eq_self {s : List Char} (h : '\r' ∉ s) : unifyBreaks s = s := by
  fun_induction unifyBreaks s with
  | case1 => rfl
  | case2 rest ih => simp at h
  | case3 rest _ ih => simp at h
  | case4 c rest _ hc ih => rw [ih fun m => h (List.mem_cons_of_mem _ m)]

/-- Unified breaks hide no other character. -/
theorem count_unifyBreaks {c : Char} (hreturn : c ≠ '\r') (hfeed : c ≠ '\n') (s : List Char) :
    (unifyBreaks s).count c = s.count c := by
  fun_induction unifyBreaks s with
  | case1 => rfl
  | case2 rest ih => simp [ih, Ne.symm hreturn, Ne.symm hfeed]
  | case3 rest _ ih => simp [ih, Ne.symm hreturn, Ne.symm hfeed]
  | case4 d rest _ _ ih => simp [List.count_cons, ih]

theorem dropWhile_mark_eq_self {s : List Char} (h : s.head? ≠ some '\uFEFF') :
    s.dropWhile (· == '\uFEFF') = s := by
  cases s with
  | nil => rfl
  | cons c rest =>
      have hc : c ≠ '\uFEFF' := by simpa using h
      simp [hc]

theorem cleanArtifacts_eq_self {s : List Char} (hmark : s.head? ≠ some '\uFEFF')
    (hreturn : '\r' ∉ s) : cleanArtifacts s = s := by
  rw [cleanArtifacts, dropWhile_mark_eq_self hmark, unifyBreaks_eq_self hreturn]

/-- Cleaning drops no byte order mark only if the text does not begin with one. -/
theorem head?_ne_of_count_cleanArtifacts {s : List Char}
    (h : (cleanArtifacts s).count '\uFEFF' = s.count '\uFEFF') : s.head? ≠ some '\uFEFF' := by
  intro hhead
  obtain ⟨rest, rfl⟩ : ∃ rest, s = '\uFEFF' :: rest :=
    ⟨_, List.eq_cons_of_mem_head? hhead⟩
  have hle : (rest.dropWhile (· == '\uFEFF')).count '\uFEFF' ≤ rest.count '\uFEFF' :=
    (List.dropWhile_sublist _).count_le _
  rw [cleanArtifacts, count_unifyBreaks (by decide) (by decide)] at h
  simp at h
  omega

/-! ## Tabs -/

theorem mem_expandTabs {c : Char} {width : Int} {s : List Char} (h : c ∈ expandTabs width s) :
    c = ' ' ∨ c ∈ s ∧ c ≠ '\t' := by
  obtain ⟨d, hd, hc⟩ := List.mem_flatMap.mp h
  split at hc
  · exact Or.inl (List.eq_of_mem_replicate hc)
  · rename_i htab
    obtain rfl : c = d := by simpa using hc
    exact Or.inr ⟨hd, htab⟩

theorem expandTabs_append (width : Int) (s t : List Char) :
    expandTabs width (s ++ t) = expandTabs width s ++ expandTabs width t :=
  List.flatMap_append

theorem expandTabs_eq_self {width : Int} {s : List Char} (h : '\t' ∉ s) :
    expandTabs width s = s := by
  induction s with
  | nil => rfl
  | cons c rest ih =>
      have hc : c ≠ '\t' := fun e => h (e ▸ List.mem_cons_self)
      have hrest := ih fun m => h (List.mem_cons_of_mem _ m)
      simp only [expandTabs, List.flatMap_cons, hc, if_false] at hrest ⊢
      rw [hrest]
      rfl

/-! ## Row ends -/

theorem stripRows_eq_self {s : List Char} (h : ∀ row ∈ rows s, stripEnd row = row) :
    stripRows s = s := by
  have hmap : (rows s).map stripEnd = rows s :=
    (List.map_congr_left h).trans (List.map_id _)
  rw [stripRows, hmap, joinRows_rows]

theorem mem_of_mem_stripEnd {c : Char} {s : List Char} (h : c ∈ stripEnd s) : c ∈ s :=
  (List.rdropWhile_prefix isBlank s).subset h

theorem mem_stripRows {c : Char} {s : List Char} (h : c ∈ stripRows s) :
    c = '\n' ∨ c ∈ s := by
  rcases mem_joinRows h with hc | ⟨stripped, hrow, hc⟩
  · exact Or.inl hc
  · obtain ⟨row, hmem, rfl⟩ := List.mem_map.mp hrow
    exact Or.inr (mem_of_mem_rows hmem (mem_of_mem_stripEnd hc))

theorem rows_stripRows (s : List Char) : rows (stripRows s) = (rows s).map stripEnd := by
  refine rows_joinRows (by simpa using rows_ne_nil s) fun stripped h hfeed => ?_
  obtain ⟨row, hrow, rfl⟩ := List.mem_map.mp h
  exact lineFeed_not_mem_rows hrow (mem_of_mem_stripEnd hfeed)

/-- Rows are stripped one by one. -/
theorem stripRows_append_lineFeed {row : List Char} (h : '\n' ∉ row) (rest : List Char) :
    stripRows (row ++ '\n' :: rest) = stripEnd row ++ '\n' :: stripRows rest := by
  rw [stripRows, rows_append_lineFeed h, List.map_cons, joinRows]
  · rfl
  · simpa using rows_ne_nil rest

/-- No row that was stripped ends in a blank. -/
theorem stripEnd_of_mem_rows_stripRows {s row : List Char} (h : row ∈ rows (stripRows s)) :
    stripEnd row = row := by
  rw [rows_stripRows] at h
  obtain ⟨raw, -, rfl⟩ := List.mem_map.mp h
  exact List.rdropWhile_idempotent isBlank raw

/-! ## Commas -/

theorem dropCommasOnce_sublist (s : List Char) : (dropCommasOnce s).Sublist s := by
  induction s with
  | nil => simp [dropCommasOnce]
  | cons c rest ih =>
      unfold dropCommasOnce
      split
      · exact ih.cons c
      · exact ih.cons_cons c

theorem dropCommasWithin_sublist (n : Nat) (s : List Char) :
    (dropCommasWithin n s).Sublist s := by
  induction n generalizing s with
  | zero => exact List.Sublist.refl s
  | succ n ih =>
      unfold dropCommasWithin
      simp only
      split
      · exact List.Sublist.refl s
      · exact (ih _).trans (dropCommasOnce_sublist s)

/-- A round that changes a text deletes a comma. -/
theorem count_dropCommasOnce (s : List Char) :
    dropCommasOnce s = s ∨ (dropCommasOnce s).count ',' < s.count ',' := by
  induction s with
  | nil => exact Or.inl rfl
  | cons c rest ih =>
      unfold dropCommasOnce
      split
      · rename_i hcomma
        obtain ⟨rfl, -⟩ : c = ',' ∧ closes rest = true := by simpa using hcomma
        have := (dropCommasOnce_sublist rest).count_le ','
        simp only [List.count_cons_self]
        omega
      · rcases ih with heq | hlt
        · exact Or.inl (by rw [heq])
        · simp only [List.count_cons]
          omega

theorem dropCommas_eq_self {s : List Char} (h : dropCommasOnce s = s) : dropCommas s = s := by
  unfold dropCommas
  cases s with
  | nil => rfl
  | cons c rest =>
      unfold dropCommasWithin
      simp [h]

/-- No comma goes only if none is a leftover. -/
theorem dropCommasOnce_of_count_dropCommas {s : List Char}
    (h : (dropCommas s).count ',' = s.count ',') : dropCommasOnce s = s := by
  rcases count_dropCommasOnce s with heq | hlt
  · exact heq
  · unfold dropCommas at h
    cases hlen : s.length with
    | zero =>
        obtain rfl := List.length_eq_zero_iff.mp hlen
        rfl
    | succ n =>
        rw [hlen] at h
        unfold dropCommasWithin at h
        simp only at h
        split at h
        · assumption
        · have := (dropCommasWithin_sublist n (dropCommasOnce s)).count_le ','
          omega

/-- There are rounds enough: when there are as many as commas, one more deletes none. -/
theorem dropCommasOnce_dropCommasWithin {n : Nat} {s : List Char} (h : s.count ',' ≤ n) :
    dropCommasOnce (dropCommasWithin n s) = dropCommasWithin n s := by
  induction n generalizing s with
  | zero =>
      rcases count_dropCommasOnce s with heq | hlt
      · exact heq
      · omega
  | succ n ih =>
      unfold dropCommasWithin
      simp only
      split
      · assumption
      · rename_i hne
        rcases count_dropCommasOnce s with heq | hlt
        · exact absurd heq hne
        · exact ih (by omega)

/-- Behind the rounds no comma is a leftover. -/
theorem dropCommasOnce_dropCommas (s : List Char) :
    dropCommasOnce (dropCommas s) = dropCommas s :=
  dropCommasOnce_dropCommasWithin List.count_le_length

/-- There is no leftover comma exactly when a round deletes none. -/
theorem dropCommasOnce_eq_self_iff {s : List Char} :
    dropCommasOnce s = s ↔ ∀ front back, s = front ++ ',' :: back → closes back = false := by
  constructor
  · intro h front
    induction front generalizing s with
    | nil =>
        rintro back rfl
        by_contra hcloses
        have hlen := (dropCommasOnce_sublist back).length_le
        have hdrop : dropCommasOnce (',' :: back) = dropCommasOnce back := by
          simp [dropCommasOnce, Bool.not_eq_false _ ▸ hcloses]
        have heq := congrArg List.length h
        rw [List.nil_append, hdrop, List.length_cons] at heq
        omega
    | cons c front ih =>
        rintro back rfl
        have hsub := dropCommasOnce_sublist (front ++ ',' :: back)
        refine ih (s := front ++ ',' :: back) ?_ back rfl
        rw [List.cons_append, dropCommasOnce] at h
        split at h
        · have := hsub.length_le
          have heq := congrArg List.length h
          simp at heq this
          omega
        · exact (List.cons.inj h).2
  · intro h
    induction s with
    | nil => rfl
    | cons c rest ih =>
        have hrest := ih fun front back e => h (c :: front) back (by rw [e]; rfl)
        have hkeep : (c == ',' && closes rest) = false := by
          by_cases hc : c = ','
          · simp [h [] rest (by rw [hc]; rfl)]
          · simp [hc]
        rw [dropCommasOnce, hkeep, hrest]
        simp

/-! ## Filters that see no blanks -/

section Filters

variable {p : Char → Bool} (hblank : ∀ c, isBlank c = true → c ≠ '\n' → p c = false)
include hblank

/-- Nothing is kept of blanks within a row. -/
theorem filter_of_blank {s : List Char} (hs : ∀ c ∈ s, isBlank c = true) (hrow : '\n' ∉ s) :
    s.filter p = [] := by
  refine List.filter_eq_nil_iff.mpr fun c hc => ?_
  simp [hblank c (hs c hc) fun e => hrow (e ▸ hc)]

theorem filter_spaces (n : Int) : (spaces n).filter p = [] := by
  have hspace : ∀ c ∈ spaces n, c = ' ' := fun c hc => List.eq_of_mem_replicate hc
  refine filter_of_blank hblank (fun c hc => ?_) fun hc => ?_
  · rw [hspace c hc]
    decide
  · exact absurd (hspace _ hc) (by decide)

theorem filter_expandTabs (width : Int) (s : List Char) :
    (expandTabs width s).filter p = s.filter p := by
  induction s with
  | nil => rfl
  | cons c rest ih =>
      have hcons : expandTabs width (c :: rest) =
          (if c = '\t' then spaces width else [c]) ++ expandTabs width rest := rfl
      rw [hcons, List.filter_append, ih]
      by_cases hc : c = '\t'
      · subst hc
        have htab : p '\t' = false := hblank '\t' (by decide) (by decide)
        simp [filter_spaces hblank, htab]
      · simp [hc, List.filter_cons]
        split <;> rfl

theorem filter_stripEnd {row : List Char} (hrow : '\n' ∉ row) :
    (stripEnd row).filter p = row.filter p := by
  obtain ⟨blanks, hblanks, heq⟩ := stripEnd_append row
  have hnone : blanks.filter p = [] := by
    refine filter_of_blank hblank hblanks fun h => hrow ?_
    rw [← heq]
    exact List.mem_append_right _ h
  calc (stripEnd row).filter p
      = (stripEnd row ++ blanks).filter p := by rw [List.filter_append, hnone, List.append_nil]
    _ = row.filter p := by rw [heq]

theorem filter_stripRows (hfeed : p '\n' = true) (s : List Char) :
    (stripRows s).filter p = s.filter p := by
  have hmap : ((rows s).map stripEnd).map (List.filter p) = (rows s).map (List.filter p) := by
    rw [List.map_map]
    exact List.map_congr_left fun row hrow =>
      filter_stripEnd hblank (lineFeed_not_mem_rows hrow)
  rw [stripRows, filter_joinRows hfeed, hmap, ← filter_joinRows hfeed, joinRows_rows]

end Filters

theorem filter_dropCommasOnce {p : Char → Bool} (hcomma : p ',' = false) (s : List Char) :
    (dropCommasOnce s).filter p = s.filter p := by
  induction s with
  | nil => rfl
  | cons c rest ih =>
      unfold dropCommasOnce
      split
      · rename_i h
        obtain ⟨rfl, -⟩ : c = ',' ∧ closes rest = true := by simpa using h
        simp [hcomma, ih]
      · simp [List.filter_cons, ih]

theorem filter_dropCommas {p : Char → Bool} (hcomma : p ',' = false) (s : List Char) :
    (dropCommas s).filter p = s.filter p := by
  unfold dropCommas
  generalize s.length = n
  induction n generalizing s with
  | zero => rfl
  | succ n ih =>
      unfold dropCommasWithin
      simp only
      split
      · rfl
      · rw [ih, filter_dropCommasOnce hcomma]

/-- Behind its first step, cleanup is invisible to a filter that lets neither blanks but line feeds
nor commas through. -/
theorem filter_normalize {p : Char → Bool} (hfeed : p '\n' = true)
    (hblank : ∀ c, isBlank c = true → c ≠ '\n' → p c = false) (hcomma : p ',' = false)
    (width : Int) (s : List Char) :
    (normalize width s).filter p = (cleanArtifacts s).filter p := by
  rw [normalize, filter_stripRows hblank hfeed, filter_dropCommas hcomma,
    filter_stripRows hblank hfeed, filter_expandTabs hblank]

/-! ## Texts that need no cleanup -/

/-- A text in which surface cleanup finds nothing to do. -/
structure SurfaceClean (s : List Char) : Prop where
  noMark : s.head? ≠ some '\uFEFF'
  noReturn : '\r' ∉ s
  noTab : '\t' ∉ s
  noBlankEnd : ∀ row ∈ rows s, stripEnd row = row
  noLeftover : ∀ front back, s = front ++ ',' :: back → closes back = false

theorem normalize_eq_self {s : List Char} (h : SurfaceClean s) (width : Int) :
    normalize width s = s := by
  rw [normalize, cleanArtifacts_eq_self h.noMark h.noReturn, expandTabs_eq_self h.noTab,
    stripRows_eq_self h.noBlankEnd,
    dropCommas_eq_self (dropCommasOnce_eq_self_iff.mpr h.noLeftover),
    stripRows_eq_self h.noBlankEnd]

/-- Cleanup leaves only characters of the text behind its first step, spaces and line feeds. -/
theorem mem_normalize {c : Char} {width : Int} {s : List Char} (h : c ∈ normalize width s) :
    c = '\n' ∨ c = ' ' ∨ c ∈ cleanArtifacts s ∧ c ≠ '\t' := by
  rcases mem_stripRows h with hc | hc
  · exact Or.inl hc
  · rcases mem_stripRows ((dropCommasWithin_sublist _ _).subset hc) with hc | hc
    · exact Or.inl hc
    · exact Or.inr (mem_expandTabs hc)

end Repair
end YamlTidy
