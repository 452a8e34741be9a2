import YamlTidy.Proofs.Gate.Formatted
import YamlTidy.Proofs.Repair.Noise
import YamlTidy.Proofs.Repair.Rebuilt
import YamlTidy.Proofs.Yaml.Outline.Blocks

/-!
# The repair of an outline

The rows of an outline are keys, members and items, and a repair sees them as such.  So it cuts off
what stands behind the rows (`normalize_text`), moves every list to its column and changes nothing
else (`rebuilt_outline`, by induction on the outline), and its outcome is the canonical text of the
outline it was given (`autoFix_outline`), which says what the given text says (`dataOf_regular`).
The scalars of the outline must keep their commas (`KeepsCommas`).
-/

namespace YamlTidy
namespace Repair

open Text Yaml
open Yaml.Outline (row valued dashed IsContent)

/-! ## The rows of an outline as lines -/

/-- Content that begins and ends with something visible. -/
structure Shown (content : List Char) : Prop where
  nonempty : content ≠ []
  head : content.takeWhile isBlank = []
  last : stripEnd content = content

theorem takeWhile_ink {c : Char} (hc : isInk c = true) (s : List Char) :
    (c :: s).takeWhile isBlank = [] := by
  simp [isBlank_of_isInk hc]

theorem stripEnd_ink {s : List Char} (hne : s ≠ []) (h : isInk (s.getLast hne) = true) :
    stripEnd s = s := by
  refine List.rdropWhile_eq_self_iff.mpr fun _ => ?_
  rw [isBlank_of_isInk h]
  exact Bool.false_ne_true

/-- The last character of a leaf can be seen and is no colon. -/
theorem getLast_leaf (x : Leaf) :
    isInk (x.chars.getLast x.nonempty) = true ∧ x.chars.getLast x.nonempty ≠ ':' := by
  cases x with
  | plain p hnull => exact getLast_of_isPhrase p.fits p.nonempty
  | quoted q =>
      have hlast : (Leaf.quoted q).chars.getLast (Leaf.quoted q).nonempty =
        quoteMark q.double := by
        simp [Leaf.chars, Quotation.chars]
      rw [hlast]
      cases q.double <;> decide

theorem stripEnd_leaf (s : List Char) (x : Leaf) : stripEnd (s ++ x.chars) = s ++ x.chars := by
  refine stripEnd_ink (List.append_ne_nil_of_right_ne_nil s x.nonempty) ?_
  rw [List.getLast_append_of_ne_nil _ x.nonempty]
  exact (getLast_leaf x).1

theorem takeWhile_key (key : Key) (s : List Char) : (key.chars ++ s).takeWhile isBlank = [] := by
  obtain ⟨c, rest, hcons, hc⟩ := key.exists_cons
  rw [hcons]
  exact takeWhile_ink (isInk_of_opensPhrase hc) _

theorem shown_valued (key : Key) (x : Leaf) : Shown (valued key x) where
  nonempty := by simp [valued]
  head := takeWhile_key key _
  last := by
    have h := stripEnd_leaf (key.chars ++ [':', ' ']) x
    simpa [valued] using h

theorem shown_key (key : Key) : Shown (key.chars ++ [':']) where
  nonempty := by simp
  head := takeWhile_key key _
  last := stripEnd_ink (by simp) (by
    rw [List.getLast_append_of_ne_nil _ (List.cons_ne_nil _ _)]
    decide)

theorem shown_dashed (x : Leaf) : Shown (dashed x) where
  nonempty := List.cons_ne_nil _ _
  head := rfl
  last := stripEnd_leaf ['-', ' '] x

theorem shown_of_isContent {scalars : List (List Char)} {content : List Char}
    (h : IsContent scalars content) : Shown content := by
  cases h with
  | valued key x _ _ => exact shown_valued key x
  | key key _ => exact shown_key key
  | dashed x _ => exact shown_dashed x

theorem row_eq_place (column : Nat) (content : List Char) :
    row column content = place column content := by
  rw [row, place, spaces, Int.toNat_natCast]

/-- A row is classified by its content, and its indent is its column. -/
theorem classify_row {content : List Char} (h : Shown content) (i : Int) (column : Nat) :
    Line.classify i (row column content) =
      { index := i, raw := row column content, indent := column, content,
        role := roleOf content } := by
  have hspaces : (row column content).takeWhile (· == ' ') = spaces column := by
    rw [row_eq_place]
    exact takeWhile_spaces_append (by decide) (fun c hc => by
      obtain rfl : c = ' ' := by simpa using hc
      decide) h.head column
  have hblanks : (row column content).takeWhile isBlank = spaces column := by
    rw [row_eq_place]
    exact takeWhile_spaces_append (by decide) (fun _ => id) h.head column
  have hstrip : strip (row column content) = content := by
    have hsplit := List.takeWhile_append_dropWhile (p := isBlank) (l := row column content)
    rw [hblanks, row_eq_place, place, List.append_cancel_left_eq] at hsplit
    rw [strip, stripStart, row_eq_place, place, hsplit]
    exact h.last
  have hindent : leadingSpaces (row column content) = column := by
    rw [leadingSpaces, hspaces, spaces]
    simp
  rw [Line.classify, hstrip, hindent]

theorem getLast?_leaf (s : List Char) (x : Leaf) : (s ++ x.chars).getLast? ≠ some ':' := by
  rw [List.getLast?_append_of_ne_nil _ x.nonempty, List.getLast?_eq_some_getLast x.nonempty]
  exact fun h => (getLast_leaf x).2 (Option.some.inj h)

theorem roleOf_valued (key : Key) (x : Leaf) : roleOf (valued key x) = .other := by
  have hlast := getLast?_leaf (key.chars ++ [':', ' ']) x
  rw [List.append_assoc] at hlast
  obtain ⟨c, rest, hcons, hc⟩ := key.exists_cons
  unfold roleOf valued
  rw [if_neg (by simp), if_neg (by simpa using hlast)]
  split
  · next hdash =>
      rw [hcons, List.cons_append, List.cons.injEq] at hdash
      exact absurd hdash.1 (ne_of_class hc (by decide))
  · rfl

theorem roleOf_key (key : Key) : roleOf (key.chars ++ [':']) = .mappingKey := by
  unfold roleOf
  rw [if_neg (by simp), if_pos (by simp)]

theorem roleOf_dashed (x : Leaf) : roleOf (dashed x) = .listItem := by
  have hlast := getLast?_leaf ['-', ' '] x
  unfold roleOf
  rw [if_neg (by simp [dashed]), if_neg (by simpa [dashed] using hlast)]
  rfl

/-! ## Realigning them -/

/-- The rows of an outline as classified lines, whatever their places. -/
def linesOf (place : Nat → Int) (rs : List (List Char)) : List Line :=
  rs.mapIdx fun i r => Line.classify (place i) r

variable {r : Realignment} {s : State} {column : Nat}

theorem step_valued (key : Key) (x : Leaf) (i : Int) :
    (r.step s (Line.classify i (row column (valued key x)))).2 = row column (valued key x) := by
  rw [classify_row (shown_valued key x), Realignment.step, roleOf_valued, row_eq_place]

theorem step_key (column : Nat) (key : Key) (i : Int) :
    ∃ outer, r.step s (Line.classify i (row column (key.chars ++ [':']))) =
      ({ openKeys := (column : Int) :: outer, keyOpened := true },
        row column (key.chars ++ [':'])) := by
  rw [classify_row (shown_key key), Realignment.step, roleOf_key, row_eq_place]
  exact ⟨_, rfl⟩

/-- An item goes to `target` behind the key it belongs to and behind other items of its run. -/
def Leads (r : Realignment) (s : State) (target : Nat) : Prop :=
  (s.keyOpened = true ∧ ∃ key outer, s.openKeys = key :: outer ∧ key + r.indent = target) ∨
    (s.keyOpened = false ∧ s.runIndent = some (target : Int))

theorem step_dashed (column : Nat) {target : Nat} (h : Leads r s target) (x : Leaf) (i : Int) :
    (r.step s (Line.classify i (row column (dashed x)))).2 = row target (dashed x) ∧
      Leads r (r.step s (Line.classify i (row column (dashed x)))).1 target := by
  rw [classify_row (shown_dashed x), Realignment.step, roleOf_dashed, row_eq_place target]
  rcases h with ⟨hopened, key, outer, hkeys, htarget⟩ | ⟨hclosed, hrun⟩
  · simp only [hopened, hkeys, htarget]
    exact ⟨trivial, .inr ⟨rfl, rfl⟩⟩
  · simp only [hclosed, hrun]
    exact ⟨trivial, .inr ⟨rfl, rfl⟩⟩

/-- Items behind each other go to one column, wherever they stand. -/
theorem fold_items {target : Nat} (items : List (Nat × Leaf)) (h : Leads r s target)
    (place : Nat → Int) :
    (r.fold s (linesOf place (items.map fun i => row i.1 (dashed i.2)))).2 =
      items.map fun i => row target (dashed i.2) := by
  induction items generalizing s place with
  | nil => rfl
  | cons i items ih =>
      obtain ⟨hrow, hnext⟩ := step_dashed i.1 h i.2 (place 0)
      have hrest := ih hnext fun j => place (j + 1)
      rw [linesOf, List.map_cons, List.mapIdx_cons, Realignment.fold]
      simp only [hrow, List.map_cons]
      rw [← hrest]
      rfl

theorem linesOf_append (place : Nat → Int) (front back : List (List Char)) :
    linesOf place (front ++ back) =
      linesOf place front ++ linesOf (fun i => place (i + front.length)) back := by
  rw [linesOf, List.mapIdx_append]
  rfl

theorem linesOf_cons (place : Nat → Int) (first : List Char) (more : List (List Char)) :
    linesOf place (first :: more) =
      Line.classify (place 0) first :: linesOf (fun i => place (i + 1)) more := by
  rw [linesOf, List.mapIdx_cons]
  rfl

/-- The rows of an outline without what ends them. -/
def contents (column : Nat) (o : Outline) : List (List Char) :=
  (o.rows column).map Prod.fst

/-- In an outline the rows are emitted as they stand but for the items, which all go the same way
right of their key. -/
theorem fold_rows {step : Nat} (hr : r.indent = step) (o : Outline) (place : Nat → Int) :
    (r.fold s (linesOf place (contents column o))).2 =
      contents column (o.reshape (fun _ => step) id) := by
  induction o generalizing s place column with
  | nil => rfl
  | leaf key value more ih =>
      have hmore : contents column (.leaf key value more) =
          row column (valued key value.leaf) :: contents column more := rfl
      rw [hmore, linesOf_cons, Realignment.fold]
      simp only [step_valued, ih]
      rfl
  | list key e offset first others more ih =>
      -- Whatever state the rows above leave, the key decides where its items go.
      obtain ⟨outer, hkey⟩ := step_key (r := r) (s := s) column key (place 0)
      have hleads : Leads r { openKeys := (column : Int) :: outer, keyOpened := true }
          (column + step) := .inl ⟨rfl, column, outer, rfl, by rw [hr]; rfl⟩
      have hitems := fold_items ((first :: others).map fun x => (column + offset, x.leaf)) hleads
        fun i => place (i + 1)
      rw [List.map_map, List.map_map] at hitems
      have hrows : contents column (.list key e offset first others more) =
          row column (key.chars ++ [':']) ::
            ((first :: others).map fun x => row (column + offset) (dashed x.leaf)) ++
              contents column more := by
        simp [contents, Outline.rows]
      have hmoved : contents column ((Outline.list key e offset first others more).reshape
          (fun _ => step) id) = row column (key.chars ++ [':']) ::
            ((first :: others).map fun x => row (column + step) (dashed x.leaf)) ++
              contents column (more.reshape (fun _ => step) id) := by
        simp [contents, Outline.rows, Outline.reshape, Outline.bare]
      rw [hrows, hmoved, List.cons_append, linesOf_cons, Realignment.fold, linesOf_append,
        fold_append]
      simp only [hkey, ih]
      exact congrArg (fun rs => row column (key.chars ++ [':']) :: (rs ++ _)) hitems
  | inner key e k body more ihBody ih =>
      obtain ⟨outer, hkey⟩ := step_key (r := r) (s := s) column key (place 0)
      have hrows (e : RowEnd) (body more : Outline) :
          contents column (.inner key e k body more) =
            row column (key.chars ++ [':']) :: contents (column + k + 1) body ++
              contents column more := by
        simp [contents, Outline.rows]
      rw [hrows, Outline.reshape, id, hrows, List.cons_append, linesOf_cons, Realignment.fold,
        linesOf_append, fold_append]
      simp only [hkey, ih, ihBody]
      rfl

/-! ## The rebuilt text -/

/-- No comma of a text is a leftover when the text ends a row. -/
def KeepsCommas (s : List Char) : Prop :=
  ∀ front back, s = front ++ ',' :: back → closes (back ++ ['\n']) = false

theorem keepsCommas_of_not_mem {s : List Char} (h : ',' ∉ s) : KeepsCommas s := by
  rintro front back rfl
  simp at h

/-- Something visible stands behind a comma that is no leftover, whatever follows. -/
theorem closes_append {s : List Char} (h : closes (s ++ ['\n']) = false) (rest : List Char) :
    closes (s ++ rest) = false := by
  induction s with
  | nil => cases h
  | cons c s ih =>
      simp only [List.cons_append, closes, Bool.or_eq_false_iff, Bool.and_eq_false_iff] at h ⊢
      exact ⟨h.1, h.2.imp_right ih⟩

theorem dropCommasOnce_keeps {s : List Char} (h : KeepsCommas s) (rest : List Char) :
    dropCommasOnce (s ++ rest) = s ++ dropCommasOnce rest := by
  induction s with
  | nil => rfl
  | cons c s ih =>
      have hs : KeepsCommas s := fun front back e => h (c :: front) back (by rw [e]; rfl)
      have hkept : (c == ',' && closes (s ++ rest)) = false := by
        by_cases hc : c = ','
        · rw [closes_append (h [] s (by rw [hc]; rfl)), Bool.and_false]
        · rw [beq_eq_false_iff_ne.mpr hc, Bool.false_and]
      rw [List.cons_append, dropCommasOnce, hkept, ih hs]
      rfl

theorem KeepsCommas.append {s t : List Char} (hs : KeepsCommas s) (ht : KeepsCommas t) :
    KeepsCommas (s ++ t) := by
  have hdrop : dropCommasOnce (s ++ t ++ ['\n']) = s ++ t ++ ['\n'] := by
    have hend := dropCommasOnce_keeps ht ['\n']
    rw [List.append_assoc, dropCommasOnce_keeps hs, hend]
    rfl
  rintro front back h
  refine dropCommasOnce_eq_self_iff.mp hdrop front (back ++ ['\n']) ?_
  rw [h, List.append_assoc, List.cons_append]

/-- All scalars of an outline keep their commas. -/
def KeepsAllCommas (o : Outline) : Prop :=
  ∀ s ∈ o.scalars, KeepsCommas s

theorem keepsCommas_content {scalars : List (List Char)} (h : ∀ s ∈ scalars, KeepsCommas s)
    {content : List Char} (hcontent : IsContent scalars content) : KeepsCommas content := by
  cases hcontent with
  | valued key x hkey hx =>
      exact (h _ hkey).append (KeepsCommas.append (keepsCommas_of_not_mem
        (by decide : ',' ∉ [':', ' '])) (h _ hx))
  | key key hkey => exact (h _ hkey).append (keepsCommas_of_not_mem (by decide))
  | dashed x hx =>
      exact KeepsCommas.append (keepsCommas_of_not_mem (by decide : ',' ∉ ['-', ' '])) (h _ hx)

/-- A row that needs no cleanup. -/
structure CleanRow (r : List Char) : Prop where
  inkOrSpace : ∀ c ∈ r, isInk c = true ∨ c = ' '
  last : stripEnd r = r
  commas : KeepsCommas r

theorem CleanRow.not_mem {r : List Char} (h : CleanRow r) {c : Char} (hink : isInk c = false)
    (hspace : c ≠ ' ') : c ∉ r := by
  intro hc
  rcases h.inkOrSpace c hc with hmem | hmem
  · rw [hink] at hmem
    cases hmem
  · exact hspace hmem

theorem cleanRow_of_mem_rows {o : Outline} (ho : KeepsAllCommas o) {column : Nat}
    {r : List Char × RowEnd} (hr : r ∈ o.rows column) : CleanRow r.1 := by
  obtain ⟨c, content, hrow, hcontent⟩ := o.isRow_of_mem_rows hr
  have hshown := shown_of_isContent hcontent
  refine ⟨o.inkOrSpace_of_mem_rows hr, ?_, ?_⟩
  · rw [hrow, row_eq_place]
    exact stripEnd_place hshown.nonempty hshown.last c
  · rw [hrow]
    exact (keepsCommas_of_not_mem (by simp)).append (keepsCommas_content ho hcontent)

/-- The breaks of rows are line feeds once breaks are unified. -/
theorem unifyBreaks_rowEnd (e : RowEnd) (rest : List Char) :
    unifyBreaks (e.chars ++ rest) = List.replicate e.trailing ' ' ++
      '\n' :: unifyBreaks rest := by
  have hspaces : '\r' ∉ List.replicate e.trailing ' ' := by simp
  rw [RowEnd.chars, List.append_assoc, unifyBreaks_append hspaces, RowEnd.lineBreak]
  split
  · exact congrArg _ (unifyBreaks_text .pair (absurd · (by decide)))
  · exact congrArg _ (unifyBreaks_text .feed (absurd · (by decide)))

section CleanRows

variable {rs : List (List Char × RowEnd)}

/-- Rows with spaces and a line feed behind each. -/
def spacedText (rs : List (List Char × RowEnd)) : List Char :=
  rs.flatMap fun r => r.1 ++ (List.replicate r.2.trailing ' ' ++ ['\n'])

/-- Rows with a line feed behind each. -/
def feedText (rs : List (List Char × RowEnd)) : List Char :=
  (rs.map Prod.fst).flatMap (· ++ ['\n'])

theorem unifyBreaks_rowsText (h : ∀ r ∈ rs, CleanRow r.1) :
    unifyBreaks (Outline.rowsText rs) = spacedText rs := by
  induction rs with
  | nil => rfl
  | cons r rs ih =>
      obtain ⟨hrow, hrows⟩ := List.forall_mem_cons.mp h
      have hrest := ih hrows
      rw [Outline.rowsText, spacedText] at hrest ⊢
      rw [List.flatMap_cons, List.append_assoc,
        unifyBreaks_append (hrow.not_mem (by decide) (by decide)), unifyBreaks_rowEnd, hrest]
      simp

theorem stripRows_spacedText (h : ∀ r ∈ rs, CleanRow r.1) :
    stripRows (spacedText rs) = feedText rs := by
  induction rs with
  | nil => rfl
  | cons r rs ih =>
      obtain ⟨hrow, hrows⟩ := List.forall_mem_cons.mp h
      have hrest := ih hrows
      have hfeed : '\n' ∉ r.1 ++ List.replicate r.2.trailing ' ' := by
        simpa using hrow.not_mem (c := '\n') (by decide) (by decide)
      have hspaces : ∀ c ∈ List.replicate r.2.trailing ' ', isBlank c = true := by
        intro c hc
        rw [List.eq_of_mem_replicate hc]
        decide
      rw [spacedText, feedText] at hrest ⊢
      rw [List.flatMap_cons, ← List.append_assoc, List.append_assoc, List.singleton_append,
        stripRows_append_lineFeed hfeed, stripEnd_append_of_blank hspaces, hrow.last, hrest]
      simp

theorem dropCommasOnce_feedText (h : ∀ r ∈ rs, CleanRow r.1) :
    dropCommasOnce (feedText rs) = feedText rs := by
  induction rs with
  | nil => rfl
  | cons r rs ih =>
      obtain ⟨hrow, hrows⟩ := List.forall_mem_cons.mp h
      have hrest := ih hrows
      rw [feedText] at hrest ⊢
      rw [List.map_cons, List.flatMap_cons, List.append_assoc, dropCommasOnce_keeps hrow.commas,
        List.singleton_append, dropCommasOnce_of_ne (by decide), hrest]

/-- Cleanup leaves only line feeds behind clean rows. -/
theorem normalize_rowsText (width : Int) (h : ∀ r ∈ rs, CleanRow r.1) :
    normalize width (Outline.rowsText rs) = feedText rs := by
  have hchars : ∀ c ∈ Outline.rowsText rs, Block.TextChar c := by
    intro c hc
    obtain ⟨r, hr, hc⟩ := List.mem_flatMap.mp hc
    exact Block.textChar_append (Block.textChar_of_inkOrSpace (h r hr).inkOrSpace)
      (Block.textChar_rowEnd r.2) c hc
  have hmark : (Outline.rowsText rs).head? ≠ some '\uFEFF' := fun hhead =>
    absurd (hchars _ (List.mem_of_head? hhead)) (by decide)
  have hclean : cleanArtifacts (Outline.rowsText rs) = spacedText rs := by
    rw [cleanArtifacts, dropWhile_mark_eq_self hmark, unifyBreaks_rowsText h]
  have htab : '\t' ∉ spacedText rs := by
    intro hmem
    obtain ⟨r, hr, hmem⟩ := List.mem_flatMap.mp hmem
    simp [(h r hr).not_mem (c := '\t') (by decide) (by decide)] at hmem
  have hstripped : stripRows (feedText rs) = feedText rs := by
    refine stripRows_eq_self fun row hrow => ?_
    have hfeed : ∀ row ∈ rs.map Prod.fst, '\n' ∉ row := List.forall_mem_map.mpr fun r hr =>
      (h r hr).not_mem (by decide) (by decide)
    rw [feedText, rows_flatMap_lineFeed hfeed, List.mem_append, List.mem_singleton] at hrow
    rcases hrow with hmem | rfl
    · obtain ⟨r, hr, rfl⟩ := List.mem_map.mp hmem
      exact (h r hr).last
    · rfl
  rw [normalize, hclean, expandTabs_eq_self htab, stripRows_spacedText h,
    dropCommas_eq_self (dropCommasOnce_feedText h), hstripped]

end CleanRows

/-- Realigning a text whose last row is empty is a pass over the rows in front of that one. -/
theorem realign_rows (r : Realignment) {rs : List (List Char)} (h : ∀ row ∈ rs, '\n' ∉ row) :
    r.realign (classify (rs.flatMap (· ++ ['\n']))) =
      (r.fold {} (linesOf (fun i => i) rs)).2.flatMap (· ++ ['\n']) := by
  have hlines : classify (rs.flatMap (· ++ ['\n'])) = linesOf (fun i => i) (rs ++ [[]]) := by
    rw [classify, rows_flatMap_lineFeed h]
    rfl
  have hblank (s : State) (i : Int) : (r.fold s [Line.classify i []]).2 = [[]] := rfl
  rw [hlines, Realignment.realign, linesOf_append, fold_append, ← joinRows_append_nil]
  exact congrArg (fun rs => joinRows (_ ++ rs)) (hblank _ _)

/-- The rows of an outline in other columns end in line feeds. -/
theorem rowEnd_reshape (offset step : Nat → Nat) (o : Outline) (column : Nat) :
    ∀ r ∈ (o.reshape offset step).rows column, r.2 = {} := by
  induction o generalizing column with
  | nil => exact fun _ hr => absurd hr List.not_mem_nil
  | leaf key value more ih => exact List.forall_mem_cons.mpr ⟨rfl, ih column⟩
  | list key e n first others more ih =>
      refine List.forall_mem_cons.mpr ⟨rfl, List.forall_mem_append.mpr ⟨?_, ih column⟩⟩
      refine List.forall_mem_map.mpr (List.forall_mem_cons.mpr ⟨rfl, ?_⟩)
      exact List.forall_mem_map.mpr fun x _ => rfl
  | inner key e n body more ihBody ih =>
      exact List.forall_mem_cons.mpr
        ⟨rfl, List.forall_mem_append.mpr ⟨ihBody (column + step n + 1), ih column⟩⟩

theorem text_reshape (offset step : Nat → Nat) (o : Outline) (column : Nat) :
    (o.reshape offset step).text column = feedText ((o.reshape offset step).rows column) := by
  have hbare := rowEnd_reshape offset step o column
  rw [Outline.text, Outline.rowsText, feedText, List.flatMap_map]
  refine List.flatMap_congr fun r hr => ?_
  rw [hbare r hr, RowEnd.chars_bare]

/-- A repair cuts off what stands behind the rows of an outline, moves its lists and changes nothing
else. -/
theorem rebuilt_outline {opts : Options} {step : Nat} (hstep : opts.indent = step) {o : Outline}
    (ho : KeepsAllCommas o) (column : Nat) :
    (Rebuilt.ofText opts (o.text column)).text =
      (o.reshape (fun _ => step) id).text column := by
  have hclean : ∀ r ∈ o.rows column, CleanRow r.1 := fun r hr => cleanRow_of_mem_rows ho hr
  have hfeed : ∀ row ∈ (o.rows column).map Prod.fst, '\n' ∉ row :=
    List.forall_mem_map.mpr fun r hr => (hclean r hr).not_mem (by decide) (by decide)
  rw [rebuilt_text, Outline.text, normalize_rowsText _ hclean, feedText, realign_rows _ hfeed,
    text_reshape, feedText]
  exact congrArg (List.flatMap (· ++ ['\n']))
    (fold_rows (r := Realignment.ofOptions opts) hstep o _)

/-! ## The outcome -/

theorem format_outline {p : Outline} (h : p.Proper) (hheight : p.height < depthLimit)
    (column : Nat) : Gate.format {} (p.text column) = .ok (.formatted (p.regular.text 0)) := by
  by_cases hne : p = .nil
  · subst hne
    exact Gate.format_nil {}
  · obtain ⟨page, htext, hproper, hdepth, -, hregular⟩ := Outline.exists_page h hne column
    have hdepth' : page.block.tree.height ≤ depthLimit := by
      rw [hdepth]
      exact hheight
    rw [htext, Gate.format_texts (by simpa using hproper) (by simpa using hdepth') (by decide)
      (fun p _ => Gate.unbroken_of_width rfl p.block.tree) (fun hone => absurd hone (by decide)),
      ← hregular]
    rfl

/-- The outcome of a repair of an outline is the canonical text of that outline. -/
theorem autoFix_outline {p : Outline} (h : p.Proper) (hcommas : KeepsAllCommas p)
    (hheight : p.height < depthLimit) (column : Nat) :
    autoFix {} (p.text column) = .formatted (p.regular.text 0) := by
  have hrebuilt : (Rebuilt.ofText {} (p.text column)).text = p.realigned.text column :=
    rebuilt_outline rfl hcommas column
  have hproper : p.realigned.Proper := Outline.proper_reshape _ _ h
  have hrealigned : p.realigned.height < depthLimit := by
    rw [Outline.realigned, Outline.height_reshape]
    exact hheight
  refine autoFix_of_ok ?_
  rw [hrebuilt, format_outline hproper hrealigned, Outline.regular_realigned]

/-- The canonical text of an outline says what its text says in any columns. -/
theorem dataOf_regular {p : Outline} (h : p.Proper) (hheight : p.height < depthLimit)
    (column : Nat) : dataOf (p.regular.text 0) = dataOf (p.text column) := by
  have hproper : p.regular.Proper := Outline.proper_reshape _ _ h
  have hregular : p.regular.height < depthLimit := by
    rw [Outline.regular, Outline.height_reshape]
    exact hheight
  have hdata : p.regular.data = p.data := by
    cases p with
    | nil => rfl
    | leaf | list | inner => exact congrArg (fun d => [d]) (Outline.datum_reshape _ _ _)
  rw [Outline.dataOf_text hproper hregular, Outline.dataOf_text h hheight, hdata]

end Repair
end YamlTidy
