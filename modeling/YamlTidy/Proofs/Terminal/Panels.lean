import YamlTidy.Proofs.Text.Rows
import YamlTidy.Presentation

/-!
# Rows that fit into a panel

A text is `Fitting` a width when each of its rows takes no more cells, and no blank at the end of
a row and no tab changes with the place that the row has.  Such a text is neither wrapped nor cut
(`wrap_of_fitting`), so that a panel that is wide enough holds its rows as they are, each between
two borders (`printed_textPanel`, `printed_fitPanel`).
-/

namespace YamlTidy
namespace Terminal

open Text

variable {last : Option Char} {c : Char} {s t row : List Char} {width inner : Nat}
  {rs : List (List Char)}

/-! ## Cells -/

theorem cellsBehind_joined (last : Option Char) (c : Char) (s : List Char) :
    cellsBehind last (joiner :: c :: s) = cellsBehind last s := by
  rw [cellsBehind.eq_def]
  simp

theorem cellsBehind_joiner (last : Option Char) : cellsBehind last [joiner] = 0 := by
  rw [cellsBehind.eq_def]
  simp

theorem cellsBehind_selector (last : Option Char) (s : List Char) :
    cellsBehind last (emojiSelector :: s) =
      (match last with
        | some b => if isEmojiBase b then 1 else 0
        | none => 0) + cellsBehind none s := by
  rw [cellsBehind.eq_def]
  rfl

theorem cellsBehind_empty (hjoiner : c ≠ joiner) (hselector : c ≠ emojiSelector)
    (hc : cellWidth c = 0) (last : Option Char) (s : List Char) :
    cellsBehind last (c :: s) = cellsBehind last s := by
  rw [cellsBehind.eq_def]
  simp [hjoiner, hselector, hc]

theorem cellsBehind_cons (hjoiner : c ≠ joiner) (hselector : c ≠ emojiSelector)
    (hc : cellWidth c ≠ 0) (last : Option Char) (s : List Char) :
    cellsBehind last (c :: s) = cellWidth c + cellsBehind (some c) s := by
  rw [cellsBehind.eq_def]
  simp [hjoiner, hselector, hc]

/-- What stands in front can only add a cell. -/
theorem cellsBehind_none_le (last : Option Char) (s : List Char) :
    cellsBehind none s ≤ cellsBehind last s := by
  induction last, s using cellsBehind.induct with
  | case1 last => exact Nat.le_refl _
  | case2 last => simp [cellsBehind_joiner]
  | case3 last c s ih => simpa [cellsBehind_joined] using ih
  | case4 last s _ ih => simp [cellsBehind_selector]
  | case5 last c s hjoiner hselector hc ih =>
      simpa [cellsBehind_empty hjoiner hselector hc] using ih
  | case6 last c s hjoiner hselector hc ih => simp [cellsBehind_cons hjoiner hselector hc]

theorem cellsBehind_le_append (last : Option Char) (s t : List Char) :
    cellsBehind last s ≤ cellsBehind last (s ++ t) := by
  induction last, s using cellsBehind.induct with
  | case1 last => exact Nat.zero_le _
  | case2 last => simp [cellsBehind_joiner]
  | case3 last c s ih => simpa [cellsBehind_joined] using ih
  | case4 last s _ ih => simpa [cellsBehind_selector] using ih
  | case5 last c s hjoiner hselector hc ih =>
      simpa [cellsBehind_empty hjoiner hselector hc] using ih
  | case6 last c s hjoiner hselector hc ih =>
      simpa [cellsBehind_cons hjoiner hselector hc] using ih

theorem getLast_ne_of_cons {d : Char} (h : (c :: s).getLast? ≠ some d) :
    s.getLast? ≠ some d := by
  cases s with
  | nil => simp
  | cons e s => simpa using h

/-- Behind a text that does not end in a joiner the counting goes on. -/
theorem exists_cellsBehind_append (last : Option Char) (hs : s.getLast? ≠ some joiner)
    (t : List Char) :
    ∃ now, cellsBehind last (s ++ t) = cellsBehind last s + cellsBehind now t := by
  induction last, s using cellsBehind.induct with
  | case1 last => exact ⟨last, by simp [cellsBehind]⟩
  | case2 last => exact absurd rfl hs
  | case3 last c s ih =>
      obtain ⟨now, hnow⟩ := ih (getLast_ne_of_cons (getLast_ne_of_cons hs))
      exact ⟨now, by simpa [cellsBehind_joined] using hnow⟩
  | case4 last s _ ih =>
      obtain ⟨now, hnow⟩ := ih (getLast_ne_of_cons hs)
      exact ⟨now, by simp [cellsBehind_selector, hnow, Nat.add_assoc]⟩
  | case5 last c s hjoiner hselector hc ih =>
      obtain ⟨now, hnow⟩ := ih (getLast_ne_of_cons hs)
      exact ⟨now, by simpa [cellsBehind_empty hjoiner hselector hc] using hnow⟩
  | case6 last c s hjoiner hselector hc ih =>
      obtain ⟨now, hnow⟩ := ih (getLast_ne_of_cons hs)
      exact ⟨now, by simp [cellsBehind_cons hjoiner hselector hc, hnow, Nat.add_assoc]⟩

/-- Two texts one behind the other take at least the cells of both. -/
theorem cells_add_le (hs : s.getLast? ≠ some joiner) (t : List Char) :
    cells s + cells t ≤ cells (s ++ t) := by
  obtain ⟨now, hnow⟩ := exists_cellsBehind_append none hs t
  have ht := cellsBehind_none_le now t
  unfold cells
  omega

theorem cells_stripEnd_le (s : List Char) : cells (stripEnd s) ≤ cells s := by
  obtain ⟨blanks, -, hs⟩ := stripEnd_append s
  have hle := cellsBehind_le_append none (stripEnd s) blanks
  rwa [hs] at hle

/-- A character of one cell that is no part of others. -/
structure Single (c : Char) : Prop where
  joiner : c ≠ joiner
  selector : c ≠ emojiSelector
  width : cellWidth c = 1
  base : isEmojiBase c = false

instance (c : Char) : Decidable (Single c) :=
  decidable_of_iff
    (c ≠ Terminal.joiner ∧ c ≠ emojiSelector ∧ cellWidth c = 1 ∧ isEmojiBase c = false)
    ⟨fun ⟨a, b, c, d⟩ => ⟨a, b, c, d⟩, fun ⟨a, b, c, d⟩ => ⟨a, b, c, d⟩⟩

/-- No selector widens a character that is no emoji. -/
theorem cellsBehind_some (hc : isEmojiBase c = false) (s : List Char) :
    cellsBehind (some c) s = cellsBehind none s := by
  generalize hlast : some c = last
  induction last, s using cellsBehind.induct with
  | case1 last => rfl
  | case2 last => simp [cellsBehind_joiner]
  | case3 last d s ih => simpa [cellsBehind_joined] using ih hlast
  | case4 last s _ ih => simp [cellsBehind_selector, ← hlast, hc]
  | case5 last d s hjoiner hselector hd ih =>
      simpa [cellsBehind_empty hjoiner hselector hd] using ih hlast
  | case6 last d s hjoiner hselector hd ih => simp [cellsBehind_cons hjoiner hselector hd]

theorem Single.cells_cons (h : Single c) (s : List Char) : cells (c :: s) = 1 + cells s := by
  have hc : cellWidth c ≠ 0 := by simp [h.width]
  rw [cells, cellsBehind_cons h.joiner h.selector hc, h.width, cellsBehind_some h.base]
  rfl

theorem cellsBehind_single (ht : ∀ c ∈ t, Single c) (last : Option Char) :
    cellsBehind last t = t.length := by
  induction t generalizing last with
  | nil => rfl
  | cons c t ih =>
      have hc := ht c List.mem_cons_self
      have hwidth : cellWidth c ≠ 0 := by simp [hc.width]
      rw [cellsBehind_cons hc.joiner hc.selector hwidth, hc.width,
        ih fun d hd => ht d (List.mem_cons_of_mem c hd), List.length_cons, Nat.add_comm]

/-- Characters of one cell add at most their number. -/
theorem cells_append_single_le (ht : ∀ c ∈ t, Single c) (last : Option Char) (s : List Char) :
    cellsBehind last (s ++ t) ≤ cellsBehind last s + t.length := by
  induction last, s using cellsBehind.induct with
  | case1 last => simp [cellsBehind_single ht, cellsBehind]
  | case2 last =>
      -- The joiner takes the first of them in.
      cases t with
      | nil => simp
      | cons c t =>
          have hrest : ∀ d ∈ t, Single d := fun d hd => ht d (List.mem_cons_of_mem c hd)
          simp [cellsBehind_joined, cellsBehind_joiner, cellsBehind_single hrest]
  | case3 last c s ih => simpa [cellsBehind_joined] using ih
  | case4 last s _ ih =>
      simp only [List.cons_append, cellsBehind_selector]
      omega
  | case5 last c s hjoiner hselector hc ih =>
      simpa [cellsBehind_empty hjoiner hselector hc] using ih
  | case6 last c s hjoiner hselector hc ih =>
      simp only [List.cons_append, cellsBehind_cons hjoiner hselector hc]
      omega

/-! ## Words -/

theorem together_nil : together [] = 0 :=
  rfl

theorem together_cons (n : Nat) (ns : List Nat) : together (n :: ns) = n + together ns :=
  rfl

/-- The words of a text make it up, and take no more cells than it does, as each word but the last
ends in a blank.  A text of blanks has no words. -/
theorem wordsBehind_spec (word : List Char) (phase : WordPhase) (s : List Char)
    (hword : phase = .behind → ∃ front blank, word = front ++ [blank] ∧
      isBlank blank = true) :
    phase = .ahead ∧ wordsBehind word phase s = [] ∨
      (wordsBehind word phase s).flatten = word ++ s ∧
        together ((wordsBehind word phase s).map cells) ≤ cells (word ++ s) := by
  induction s generalizing word phase with
  | nil =>
      rw [wordsBehind]
      split
      · next hphase => exact Or.inl ⟨hphase, rfl⟩
      · exact Or.inr (by simp [together_cons, together_nil])
  | cons c s ih =>
      rw [wordsBehind]
      split
      · next hblank =>
          have hnext := ih (word ++ [c]) (if phase = .ahead then .ahead else .behind)
            fun _ => ⟨word, c, rfl, hblank⟩
          simp only [List.append_assoc, List.singleton_append] at hnext
          refine hnext.imp_left fun ⟨hphase, hnil⟩ => ⟨?_, hnil⟩
          by_contra hne
          simp [hne] at hphase
      · split
        · next hphase =>
            obtain ⟨front, blank, rfl, hblank⟩ := hword hphase
            obtain ⟨hinside, -⟩ | ⟨hflatten, hsum⟩ := ih [c] .inside nofun
            · cases hinside
            · have hjoiner : (front ++ [blank]).getLast? ≠ some joiner := by
                rw [List.getLast?_concat]
                rintro ⟨⟩
                exact absurd hblank (by decide)
              have hcells := cells_add_le hjoiner (c :: s)
              refine Or.inr ⟨by simp [hflatten], ?_⟩
              simp only [List.map_cons, together_cons, List.singleton_append] at hsum ⊢
              omega
        · have hnext := ih (word ++ [c]) .inside nofun
          simp only [List.append_assoc, List.singleton_append] at hnext
          exact Or.inr (hnext.resolve_left nofun)

/-- Words that fit together go into one row. -/
theorem foldl_word (folds : Bool) (ws : List (List Char)) (f : Filling)
    (h : f.taken + together (ws.map cells) ≤ width) :
    ws.foldl (Filling.word width folds) f =
      { f with last := f.last ++ ws.flatten, taken := f.taken + together (ws.map cells) } := by
  induction ws generalizing f with
  | nil => simp [together_nil]
  | cons w ws ih =>
      rw [List.map_cons, together_cons] at h
      have hcore : f.taken + cells (stripEnd w) ≤ width := by
        have hstrip := cells_stripEnd_le w
        omega
      have hword : Filling.word width folds f w = f.add w := by
        simp [Filling.word, hcore]
      rw [List.foldl_cons, hword, ih]
      · simp [Filling.add, together_cons, Nat.add_assoc]
      · simp only [Filling.add]
        omega

/-- A row that fits is not broken. -/
theorem broken_of_le (folds : Bool) (h : cells row ≤ width) :
    broken width folds row = [row] := by
  have hspec := wordsBehind_spec [] .ahead row nofun
  rw [List.nil_append] at hspec
  unfold broken words
  split
  · rfl
  · next hne =>
      obtain ⟨-, hnil⟩ | ⟨hflatten, hsum⟩ := hspec
      · exact absurd hnil hne
      · rw [foldl_word folds _ {} (by simp only [Nat.zero_add]; omega), hflatten]
        rfl

/-! ## Rows -/

theorem tabsBehind_of_no_tab (size : Nat) (count : Char → Nat) (column : Nat) (h : '\t' ∉ row) :
    tabsBehind size count column row = row := by
  induction row generalizing column with
  | nil => rfl
  | cons c row ih =>
      have hc : c ≠ '\t' := fun heq => h (heq ▸ List.mem_cons_self)
      rw [tabsBehind, if_neg hc, ih _ fun hmem => h (List.mem_cons_of_mem c hmem)]

theorem withoutExcess_of_end (width : Nat) (h : row.getLast?.all (fun c => !isBlank c) = true) :
    withoutExcess width row = row := by
  have hblanks : row.reverse.takeWhile isBlank = [] := by
    cases hrow : row.reverse with
    | nil => rfl
    | cons c more =>
        rw [List.getLast?_eq_head?_reverse, hrow] at h
        rw [List.takeWhile_cons_of_neg (by simpa using h)]
  simp [withoutExcess, hblanks]

/-- A text whose rows fit into a width as they are. -/
structure Fitting (width : Nat) (s : List Char) : Prop where
  fits : ∀ row ∈ rows s, cells row ≤ width
  untabbed : '\t' ∉ s
  trimmed : ∀ row ∈ rows s, row.getLast?.all (fun c => !isBlank c) = true

theorem Fitting.mono (h : Fitting width s) (hle : width ≤ inner) : Fitting inner s :=
  ⟨fun row hrow => (h.fits row hrow).trans hle, h.untabbed, h.trimmed⟩

/-- A text that fits is wrapped into its rows. -/
theorem wrap_of_fitting (h : Fitting width s) : wrap {} width s = rows s := by
  have hrow (row : List Char) (hrow : row ∈ rows s) :
      ((broken width true (expandTabs row)).map fun r =>
        placed width {} (withoutExcess width r)) = [row] := by
    have htab : '\t' ∉ row := fun hmem => h.untabbed (mem_of_mem_rows hrow hmem)
    rw [expandTabs, tabsBehind_of_no_tab 8 cellWidth 0 htab, broken_of_le true (h.fits row hrow),
      List.map_singleton, withoutExcess_of_end width (h.trimmed row hrow)]
    simp [placed, truncated, h.fits row hrow]
  rw [wrap, List.flatMap_congr hrow, List.flatMap_singleton']

/-! ## Panels -/

/-- Rows as they stand in a panel of so many cells between its borders. -/
def framed (inner : Nat) (s : List Char) : List Char :=
  (rows s).flatMap fun row =>
    '│' :: ' ' :: row ++ List.replicate (inner - cells row) ' ' ++ [' ', '│', '\n']

theorem single_space : Single ' ' := by decide

theorem single_side : Single '│' := by decide +kernel

theorem single_of_mem_border {n : Nat} :
    ∀ c ∈ List.replicate n ' ' ++ [' ', '│'], Single c := by
  intro c hc
  rcases List.mem_append.mp hc with hc | hc
  · obtain rfl := List.eq_of_mem_replicate hc
    exact single_space
  · rcases List.mem_cons.mp hc with rfl | hc
    · exact single_space
    · obtain rfl := List.mem_singleton.mp hc
      exact single_side

/-- A row that fits stands between the borders as it is. -/
theorem cropped_row (hrow : cells row ≤ inner) (hwidth : inner + 4 ≤ width) :
    cropped width ('│' :: ' ' :: fitted inner row ++ [' ', '│']) =
      '│' :: ' ' :: row ++ List.replicate (inner - cells row) ' ' ++ [' ', '│'] := by
  have hfitted : fitted inner row = row ++ List.replicate (inner - cells row) ' ' := by
    simp [fitted, hrow]
  have hcells : cells ('│' :: ' ' :: fitted inner row ++ [' ', '│']) ≤ width := by
    have hsingle :=
      cells_append_single_le (single_of_mem_border (n := inner - cells row)) none row
    rw [List.cons_append, List.cons_append, single_side.cells_cons,
      single_space.cells_cons, hfitted,
      List.append_assoc]
    simp only [List.length_append, List.length_replicate, List.length_cons, List.length_nil]
      at hsingle
    unfold cells at hrow ⊢ hsingle
    omega
  rw [cropped, if_pos hcells, hfitted]
  simp

theorem printed_framed (hs : ∀ row ∈ rows s, cells row ≤ inner)
    (hwidth : inner + 4 ≤ width) :
    Presentation.printed width
      ((rows s).map fun row => '│' :: ' ' :: fitted inner row ++ [' ', '│']) =
      framed inner s := by
  rw [Presentation.printed, List.flatMap_map, framed]
  refine List.flatMap_congr fun row hrow => ?_
  rw [cropped_row (hs row hrow) hwidth]
  simp

/-- **A panel shows a text that fits as it is**, between its upper and its lower side. -/
theorem printed_textPanel (h : Fitting inner s) (hinner : 0 < inner) (hwidth : inner + 4 ≤ width)
    (title : Option (List Char)) :
    Presentation.printed width (textPanel (inner + 4) title s) =
      Presentation.printed width [upperSide (inner + 4) title] ++ framed inner s ++
        Presentation.printed width ['╰' :: bar '─' (inner + 2) ++ ['╯']] := by
  have hne : inner ≠ 0 := Nat.pos_iff_ne_zero.mp hinner
  have hpanel : textPanel (inner + 4) title s = [upperSide (inner + 4) title] ++
      ((rows s).map fun row => '│' :: ' ' :: fitted inner row ++ [' ', '│']) ++
        ['╰' :: bar '─' (inner + 2) ++ ['╯']] := by
    simp [textPanel, panel, hne, wrap_of_fitting h]
  rw [hpanel, ← printed_framed h.fits hwidth]
  simp only [Presentation.printed, List.flatMap_append]

/-! ## Panels as narrow as their text -/

/-- Where line feeds alone end lines, lines are rows, but for an empty row at the end. -/
theorem rows_eq_lines (h : ∀ c ∈ s, isLineEnd c = true → c = '\n') :
    rows s = lines s ∨ rows s = lines s ++ [[]] := by
  induction s with
  | nil => exact Or.inr rfl
  | cons c s ih =>
      have hs := ih fun d hd => h d (List.mem_cons_of_mem c hd)
      by_cases hc : c = '\n'
      · subst hc
        have hlines : lines ('\n' :: s) = [] :: lines s := by
          rw [lines, linesKeeping]
          · rfl
          · simp
        rw [rows_cons_lineFeed, hlines]
        simpa using hs
      · have hinner : isLineEnd c = false :=
          Bool.eq_false_iff.mpr fun hend => hc (h c List.mem_cons_self hend)
        obtain ⟨row, more, hrows, hcons⟩ := rows_cons hc s
        have hreturn : c ≠ '\r' := by
          rintro rfl
          exact absurd hinner (by decide)
        rw [hcons]
        rw [hrows] at hs
        cases hkept : linesKeeping s with
        | nil =>
            have hlines : lines (c :: s) = [[c]] := by
              rw [lines, linesKeeping]
              · simp [hkept, hinner]
              · simp [hreturn]
            have hnone : lines s = [] := by rw [lines, hkept]; rfl
            rw [hnone] at hs
            rw [hlines]
            refine Or.inl ?_
            rcases hs with hs | hs
            · cases hs
            · cases hs
              rfl
        | cons line others =>
            have hlines : lines (c :: s) = (c :: line.takeWhile fun d => !isLineEnd d) ::
                others.map fun l => l.takeWhile fun d => !isLineEnd d := by
              rw [lines, linesKeeping]
              · simp [hkept, hinner]
              · simp [hreturn]
            have hthose : lines s = (line.takeWhile fun d => !isLineEnd d) ::
                others.map fun l => l.takeWhile fun d => !isLineEnd d := by
              rw [lines, hkept]
              rfl
            rw [hthose] at hs
            rw [hlines]
            refine hs.imp (fun hs => ?_) fun hs => ?_ <;> cases hs <;> rfl

theorem foldl_max_ge (ls : List (List Char)) (a : Nat) :
    a ≤ ls.foldl (fun most line => max most (cells line)) a ∧
      ∀ line ∈ ls, cells line ≤ ls.foldl (fun most line => max most (cells line)) a := by
  induction ls generalizing a with
  | nil => simp
  | cons line ls ih =>
      obtain ⟨hfirst, hothers⟩ := ih (max a (cells line))
      rw [List.foldl_cons]
      refine ⟨(le_max_left _ _).trans hfirst, fun l hl => ?_⟩
      rcases List.mem_cons.mp hl with rfl | hl
      · exact (le_max_right _ _).trans hfirst
      · exact hothers l hl

theorem cells_le_widest (h : ∀ c ∈ s, isLineEnd c = true → c = '\n') (hrow : row ∈ rows s) :
    cells row ≤ widest s := by
  have hlines : row ∈ lines s ∨ row = [] := by
    rcases rows_eq_lines h with heq | heq
    · exact Or.inl (heq ▸ hrow)
    · rw [heq] at hrow
      simpa using hrow
  rcases hlines with hrow | rfl
  · exact (foldl_max_ge (lines s) 0).2 row hrow
  · exact Nat.zero_le _

/-- **A panel that is no wider than it needs to be shows a text that fits as it is.** -/
theorem printed_fitPanel (h : Fitting inner s)
    (hends : ∀ c ∈ s, isLineEnd c = true → c = '\n') (hs : 0 < widest s) (hinner : 0 < inner)
    (title : List Char) :
    ∃ room, Presentation.printed (inner + 4) (fitPanel (inner + 4) title s) =
      Presentation.printed (inner + 4) [upperSide (room + 4) (some title)] ++ framed room s ++
        Presentation.printed (inner + 4) ['╰' :: bar '─' (room + 2) ++ ['╯']] := by
  have hpadded : paddedWidth (inner + 2) s =
    min (min (widest s) (inner + 2) + 2) (inner + 2) := by
    rw [paddedWidth, if_neg (by omega)]
  let needed := max (paddedWidth (inner + 2) s) (cells (borderTitle title) + 2)
  obtain ⟨room, hroom⟩ : ∃ room, min (inner + 2) needed = room + 2 :=
    ⟨min (inner + 2) needed - 2, by omega⟩
  have hleast : min (widest s) inner ≤ room := by omega
  have hfitting : Fitting room s := by
    refine ⟨fun row hrow => ?_, h.untabbed, h.trimmed⟩
    have hwidest := cells_le_widest hends hrow
    have hfits := h.fits row hrow
    omega
  refine ⟨room, ?_⟩
  have hpanel : fitPanel (inner + 4) title s = textPanel (room + 4) (some title) s := by
    unfold fitPanel
    rw [show inner + 4 - 2 = inner + 2 from rfl]
    exact congrArg (fun n => textPanel (n + 2) (some title) s) hroom
  rw [hpanel]
  exact printed_textPanel hfitting (by omega) (by omega) (some title)

end Terminal
end YamlTidy
