import YamlTidy.Proofs.Text.Rows
import YamlTidy.Yaml.Canonical
import Mathlib.Data.List.Infix

/-!
# Moving a root sequence to the margin

`flushLeft` pulls each line of a text back by one step, and a line in the wider sense ends not
only at a line feed.  What it does can be told character by character: some characters end a line,
and behind each of them one step of spaces is left out (`unindented`).  For the lines that is so
with all line ends (`flatMap_pullBack_linesKeeping`), for the rows with line feeds only
(`pulledRows_eq`).  More line ends leave out more (`length_unindented_le`), so both come to the
same exactly when no other line end has a step of spaces behind it (`unindented_eq_iff`).

Main statement: `flushLeft_in_rows_iff`.
-/

namespace YamlTidy
namespace Yaml

open Text

variable {ends more : Char → Bool} {indent s t line : List Char} {c : Char} {step : Int}

/-! ## Pulling back -/

/-- An indent holds no character that ends a line. -/
def Inner (indent : List Char) : Prop :=
  ∀ c ∈ indent, isLineEnd c = false

theorem inner_spaces (n : Int) : Inner (spaces n) := by
  intro c hc
  rw [List.eq_of_mem_replicate hc]
  rfl

theorem spaces_ne_nil (h : 1 ≤ step) : spaces step ≠ [] := by
  intro hnil
  have hlength := congrArg List.length hnil
  rw [spaces, List.length_replicate, List.length_nil] at hlength
  omega

theorem pullBack_of_indented (h : indent <+: line) :
    pullBack indent line = line.drop indent.length := by
  rw [pullBack, if_pos (List.isPrefixOf_iff_prefix.mpr h)]

theorem pullBack_of_not_indented (h : ¬ indent <+: line) : pullBack indent line = line := by
  rw [pullBack, if_neg fun hp => h (List.isPrefixOf_iff_prefix.mp hp)]

@[simp] theorem pullBack_append (indent line : List Char) :
    pullBack indent (indent ++ line) = line := by
  rw [pullBack_of_indented (List.prefix_append indent line), List.drop_left]

theorem length_pullBack_le (indent line : List Char) :
    (pullBack indent line).length ≤ line.length := by
  by_cases h : indent <+: line
  · rw [pullBack_of_indented h, List.length_drop]
    omega
  · rw [pullBack_of_not_indented h]

/-- Indent is told from what stands in front of the first line end. -/
theorem prefix_append_lineEnd (hindent : Inner indent) (hc : isLineEnd c = true) :
    indent <+: line ++ c :: s ↔ indent <+: line := by
  refine ⟨fun h => ?_, fun h => h.trans (List.prefix_append line _)⟩
  rcases List.prefix_or_prefix_of_prefix h (List.prefix_append line (c :: s)) with hp | hp
  · exact hp
  · obtain ⟨back, rfl⟩ := hp
    rw [List.prefix_append_right_inj] at h
    cases back with
    | nil => rw [List.append_nil]
    | cons d back =>
        -- The line end would be part of the indent.
        obtain ⟨rfl, -⟩ := List.cons_prefix_cons.mp h
        have hinner := hindent d (by simp)
        rw [hc] at hinner
        cases hinner

theorem pullBack_append_lineEnd (hindent : Inner indent) (hc : isLineEnd c = true) :
    pullBack indent (line ++ c :: s) = pullBack indent line ++ c :: s := by
  by_cases h : indent <+: line
  · obtain ⟨back, rfl⟩ := h
    rw [List.append_assoc, pullBack_append, pullBack_append]
  · rw [pullBack_of_not_indented h,
      pullBack_of_not_indented fun hp => h ((prefix_append_lineEnd hindent hc).mp hp)]

theorem pullBack_nil (indent : List Char) : pullBack indent [] = [] :=
  List.eq_nil_of_length_eq_zero (Nat.le_zero.mp (length_pullBack_le indent []))

theorem pullBack_lineEnd (hindent : Inner indent) (hc : isLineEnd c = true) :
    pullBack indent (c :: s) = c :: s := by
  have h : pullBack indent ([] ++ c :: s) = pullBack indent [] ++ c :: s :=
    pullBack_append_lineEnd hindent hc
  rwa [List.nil_append, pullBack_nil, List.nil_append] at h

/-! ## Character by character -/

/-- A text from the middle of a line on, without the indent behind the characters that end a
line. -/
def unindented (ends : Char → Bool) (indent : List Char) : List Char → List Char
  | [] => []
  | c :: rest =>
      let more := unindented ends indent rest
      c :: if ends c then pullBack indent more else more

theorem unindented_cons_end (hc : ends c = true) (indent s : List Char) :
    unindented ends indent (c :: s) = c :: pullBack indent (unindented ends indent s) := by
  rw [unindented]
  simp only [hc, if_true]

theorem unindented_cons (hc : ends c = false) (indent s : List Char) :
    unindented ends indent (c :: s) = c :: unindented ends indent s := by
  rw [unindented]
  simp only [hc, Bool.false_eq_true, if_false]

/-- Where no character ends a line nothing is left out. -/
theorem unindented_of_no_end (indent s : List Char) :
    unindented (fun _ => false) indent s = s := by
  induction s with
  | nil => rfl
  | cons c rest ih => rw [unindented_cons rfl, ih]

/-- What stands in front of the first line end stays. -/
theorem prefix_unindented_iff (ht : ∀ c ∈ t, ends c = false) :
    t <+: unindented ends indent s ↔ t <+: s := by
  induction t generalizing s with
  | nil => simp
  | cons d t ih =>
      obtain ⟨hd, ht⟩ := List.forall_mem_cons.mp ht
      cases s with
      | nil => rw [unindented]
      | cons c rest =>
          by_cases hdc : d = c
          · subst hdc
            rw [unindented_cons hd, List.cons_prefix_cons, List.cons_prefix_cons, ih ht]
          · rw [unindented]
            simp [List.cons_prefix_cons, hdc]

/-! ## Line by line -/

/-- A line that is not the last one has a break at its end. -/
theorem exists_lineEnd_of_linesKeeping {next : List Char} {others : List (List Char)}
    (h : linesKeeping s = line :: next :: others) :
    ∃ front c, line = front ++ [c] ∧ isLineEnd c = true := by
  fun_induction linesKeeping s generalizing line next others with
  | case1 => cases h
  | case2 rest ih =>
      obtain ⟨rfl, -⟩ := List.cons.inj h
      exact ⟨['\r'], '\n', rfl, rfl⟩
  | case3 c rest hcr hc ih =>
      obtain ⟨rfl, -⟩ := List.cons.inj h
      exact ⟨[], c, rfl, hc⟩
  | case4 c rest hcr hc hrest ih => cases h
  | case5 c rest hcr hc first others' hrest ih =>
      cases h
      obtain ⟨front, d, rfl, hd⟩ := ih hrest
      exact ⟨c :: front, d, rfl, hd⟩

theorem eq_nil_of_linesKeeping (h : linesKeeping s = []) : s = [] := by
  rw [← flatten_linesKeeping s, h]
  rfl

/-- The lines are pulled back, the first of them as well, when all behind the first are. -/
theorem flatMap_pullBack_of_rest (hindent : Inner indent)
    (h : ∀ line others, linesKeeping s = line :: others →
      unindented isLineEnd indent s = line ++ others.flatMap (pullBack indent)) :
    (linesKeeping s).flatMap (pullBack indent) =
      pullBack indent (unindented isLineEnd indent s) := by
  cases hs : linesKeeping s with
  | nil =>
      rw [eq_nil_of_linesKeeping hs, unindented, pullBack_nil]
      rfl
  | cons line others =>
      rw [h line others hs, List.flatMap_cons]
      cases others with
      | nil => rw [List.flatMap_nil, List.append_nil, List.append_nil]
      | cons next others =>
          obtain ⟨front, c, rfl, hc⟩ := exists_lineEnd_of_linesKeeping hs
          rw [pullBack_append_lineEnd hindent hc, List.append_assoc, List.append_assoc]
          exact (pullBack_append_lineEnd hindent hc).symm

/-- From the middle of a line on, the rest of the line stays and the lines behind it are pulled
back. -/
theorem unindented_of_linesKeeping (hindent : Inner indent) {others : List (List Char)}
    (h : linesKeeping s = line :: others) :
    unindented isLineEnd indent s = line ++ others.flatMap (pullBack indent) := by
  fun_induction linesKeeping s generalizing line others with
  | case1 => cases h
  | case2 rest ih =>
      cases h
      rw [unindented_cons_end rfl, unindented_cons_end rfl, pullBack_lineEnd hindent rfl,
        flatMap_pullBack_of_rest hindent fun _ _ => ih]
      rfl
  | case3 c rest hcr hc ih =>
      cases h
      rw [unindented_cons_end hc, flatMap_pullBack_of_rest hindent fun _ _ => ih]
      rfl
  | case4 c rest hcr hc hrest ih =>
      cases h
      rw [eq_nil_of_linesKeeping hrest, unindented_cons (by simpa using hc)]
      rfl
  | case5 c rest hcr hc first others' hrest ih =>
      cases h
      rw [unindented_cons (by simpa using hc), ih hrest]
      rfl

theorem flatMap_pullBack_linesKeeping (hindent : Inner indent) (s : List Char) :
    (linesKeeping s).flatMap (pullBack indent) =
      pullBack indent (unindented isLineEnd indent s) :=
  flatMap_pullBack_of_rest hindent fun _ _ h => unindented_of_linesKeeping hindent h

/-! ## Row by row -/

/-- A text with each of its rows pulled back by one step. -/
def pulledRows (step : Int) (text : List Char) : List Char :=
  joinRows ((rows text).map (pullBack (spaces step)))

/-- Whether a character ends a row. -/
def isRowEnd (c : Char) : Bool :=
  c == '\n'

/-- The first row is pulled back as well when all behind it are. -/
theorem joinRows_pullBack (hindent : Inner indent) (row : List Char)
    (others : List (List Char)) :
    joinRows (pullBack indent row :: others) = pullBack indent (joinRows (row :: others)) := by
  cases others with
  | nil => rfl
  | cons next others => exact (pullBack_append_lineEnd hindent rfl).symm

/-- From the middle of a row on, the rest of the row stays and the rows behind it are pulled
back. -/
theorem unindented_of_rows (hindent : Inner indent) {others : List (List Char)}
    (h : rows s = line :: others) :
    unindented isRowEnd indent s = joinRows (line :: others.map (pullBack indent)) := by
  induction s generalizing line others with
  | nil =>
      cases h
      rfl
  | cons c rest ih =>
      by_cases hc : c = '\n'
      · obtain ⟨row, more, hrest⟩ := List.exists_cons_of_ne_nil (rows_ne_nil rest)
        rw [hc, rows_cons_lineFeed] at h
        cases h
        rw [hc, unindented_cons_end rfl, ih hrest, hrest, List.map_cons,
          ← joinRows_pullBack hindent]
        rfl
      · obtain ⟨row, more, hrest, hrows⟩ := rows_cons hc rest
        rw [hrows] at h
        cases h
        rw [unindented_cons (by simpa [isRowEnd] using hc), ih hrest]
        cases others <;> rfl

theorem pulledRows_eq (step : Int) (text : List Char) :
    pulledRows step text = pullBack (spaces step) (unindented isRowEnd (spaces step) text) := by
  have hindent := inner_spaces step
  obtain ⟨row, more, hrows⟩ := List.exists_cons_of_ne_nil (rows_ne_nil text)
  rw [pulledRows, hrows, List.map_cons, joinRows_pullBack hindent,
    unindented_of_rows hindent hrows]

/-! ## What else may end a line -/

/-- Wherever indent stands behind a character that `more` says to end a line, `ends` says so as
well. -/
def IndentBehind (ends more : Char → Bool) (indent s : List Char) : Prop :=
  ∀ front c back, s = front ++ c :: (indent ++ back) → more c = true → ends c = true

theorem indentBehind_nil : IndentBehind ends more indent [] := by
  intro front c back h
  cases front <;> cases h

theorem indentBehind_cons : IndentBehind ends more indent (c :: s) ↔
    (indent <+: s → more c = true → ends c = true) ∧ IndentBehind ends more indent s := by
  constructor
  · intro h
    refine ⟨?_, fun front d back hs => h (c :: front) d back (by rw [hs]; rfl)⟩
    rintro ⟨back, rfl⟩
    exact h [] c back rfl
  · rintro ⟨hhere, hrest⟩ front d back hs
    cases front with
    | nil =>
        obtain ⟨rfl, rfl⟩ := List.cons.inj hs
        exact hhere (List.prefix_append indent back)
    | cons e front =>
        obtain ⟨-, rfl⟩ := List.cons.inj hs
        exact hrest front d back rfl

/-- Texts that both begin with the indent, or neither of which does, are the same when they are
pulled back to the same text. -/
theorem pullBack_inj (h : indent <+: s ↔ indent <+: t) :
    pullBack indent s = pullBack indent t ↔ s = t := by
  refine ⟨fun heq => ?_, fun heq => heq ▸ rfl⟩
  by_cases hs : indent <+: s
  · obtain ⟨back, rfl⟩ := hs
    obtain ⟨back', rfl⟩ := h.mp (List.prefix_append indent back)
    rw [pullBack_append, pullBack_append] at heq
    rw [heq]
  · rwa [pullBack_of_not_indented hs, pullBack_of_not_indented fun ht => hs (h.mpr ht)] at heq

section MoreEnds

variable (hmore : ∀ c, ends c = true →
  more c = true) (hindent : ∀ c ∈ indent, more c = false)

include hmore hindent

theorem prefix_unindented_both (s : List Char) :
    indent <+: unindented more indent s ↔ indent <+: unindented ends indent s := by
  have hless : ∀ c ∈ indent, ends c = false := fun c hc =>
    Bool.eq_false_iff.mpr fun he => Bool.eq_false_iff.mp (hindent c hc) (hmore c he)
  rw [prefix_unindented_iff hindent, prefix_unindented_iff hless]

/-- The more characters end a line, the more is left out. -/
theorem length_unindented_le (s : List Char) :
    (unindented more indent s).length ≤ (unindented ends indent s).length := by
  induction s with
  | nil => exact Nat.le_refl _
  | cons c rest ih =>
      cases he : ends c with
      | true =>
          rw [unindented_cons_end (hmore c he), unindented_cons_end he, List.length_cons,
            List.length_cons, Nat.add_le_add_iff_right]
          have hboth := prefix_unindented_both hmore hindent rest
          by_cases hp : indent <+: unindented more indent rest
          · rw [pullBack_of_indented hp, pullBack_of_indented (hboth.mp hp), List.length_drop,
              List.length_drop]
            omega
          · rwa [pullBack_of_not_indented hp, pullBack_of_not_indented fun h => hp (hboth.mpr h)]
      | false =>
          rw [unindented_cons he, List.length_cons]
          cases hm : more c with
          | true =>
              have hpull := length_pullBack_le indent (unindented more indent rest)
              rw [unindented_cons_end hm, List.length_cons]
              omega
          | false =>
              rw [unindented_cons hm, List.length_cons]
              omega

/-- Further line ends make no difference exactly when there is no indent behind them. -/
theorem unindented_eq_iff (hne : indent ≠ []) (s : List Char) :
    unindented more indent s = unindented ends indent s ↔ IndentBehind ends more indent s := by
  induction s with
  | nil => exact iff_of_true rfl indentBehind_nil
  | cons c rest ih =>
      rw [indentBehind_cons, ← ih]
      cases he : ends c with
      | true =>
          rw [unindented_cons_end (hmore c he), unindented_cons_end he, List.cons_inj_right,
            pullBack_inj (prefix_unindented_both hmore hindent rest)]
          simp
      | false =>
          rw [unindented_cons he]
          cases hm : more c with
          | false => simp [unindented_cons hm]
          | true =>
              rw [unindented_cons_end hm, List.cons_inj_right]
              by_cases hp : indent <+: unindented more indent rest
              · -- An indent that only one of them leaves out cannot be made up for later.
                have hle := length_unindented_le hmore hindent rest
                have hpos := List.length_pos_iff.mpr hne
                have hshort := hp.length_le
                have hrest : indent <+: rest := (prefix_unindented_iff hindent).mp hp
                simp only [hrest, forall_const, Bool.false_eq_true, false_and, iff_false]
                intro heq
                rw [pullBack_of_indented hp] at heq
                have hlength := congrArg List.length heq
                rw [List.length_drop] at hlength
                omega
              · have hrest : ¬ indent <+: rest :=
                  fun h => hp ((prefix_unindented_iff hindent).mpr h)
                rw [pullBack_of_not_indented hp]
                simp [hrest]

end MoreEnds

theorem isLineEnd_of_isRowEnd (h : isRowEnd c = true) : isLineEnd c = true := by
  obtain rfl : c = '\n' := by simpa [isRowEnd] using h
  rfl

theorem filter_pullBack (step : Int) (line : List Char) :
    (pullBack (spaces step) line).filter (· ≠ ' ') = line.filter (· ≠ ' ') := by
  by_cases h : spaces step <+: line
  · obtain ⟨back, rfl⟩ := h
    have hspaces : (spaces step).filter (· ≠ ' ') = [] :=
      List.filter_eq_nil_iff.mpr fun c hc => by rw [List.eq_of_mem_replicate hc]; decide
    rw [pullBack_append, List.filter_append, hspaces, List.nil_append]
  · rw [pullBack_of_not_indented h]

/-- Nothing but spaces is left out. -/
theorem filter_unindented (ends : Char → Bool) (step : Int) (s : List Char) :
    (unindented ends (spaces step) s).filter (· ≠ ' ') = s.filter (· ≠ ' ') := by
  induction s with
  | nil => rfl
  | cons c rest ih =>
      cases hc : ends c with
      | true =>
          rw [unindented_cons_end hc, List.filter_cons, List.filter_cons, filter_pullBack, ih]
      | false => rw [unindented_cons hc, List.filter_cons, List.filter_cons, ih]

/-! ## The end of a document -/

/-- The marker behind a text is cut off, and the line feed in front of it stays. -/
theorem dropDocumentEnd_append (front : List Char) :
    dropDocumentEnd (front ++ documentEnd) = front ++ ['\n'] := by
  have hlength : (front ++ documentEnd).length - (documentEnd.length - 1) =
      (front ++ ['\n']).length := by
    simp [documentEnd]
  have hsplit : front ++ documentEnd = (front ++ ['\n']) ++ "...\n".toList := by
    simp [documentEnd]
  rw [dropDocumentEnd, if_pos (List.isSuffixOf_iff_suffix.mpr (List.suffix_append _ _)), hlength,
    hsplit, List.take_left]

theorem dropDocumentEnd_cases (text : List Char) :
    dropDocumentEnd text = text ∨
      ∃ front, text = front ++ documentEnd ∧ dropDocumentEnd text = front ++ ['\n'] := by
  by_cases h : documentEnd <:+ text
  · obtain ⟨front, rfl⟩ := h
    exact .inr ⟨front, rfl, dropDocumentEnd_append front⟩
  · exact .inl (if_neg fun hend => h (List.isSuffixOf_iff_suffix.mp hend))

/-! ## The root sequence -/

/-- Whether the first line with content is an item that stands one step to the right. -/
def IsShifted (step : Int) (text : List Char) : Prop :=
  (spaces step ++ ['-']) <+: ((linesKeeping text).find? isContent).getD []

/-- Whether every line end that has a step of spaces behind it is a line feed. -/
def StaysInRows (step : Int) (text : List Char) : Prop :=
  ∀ front c back, text = front ++ c :: (spaces step ++ back) → isLineEnd c = true → c = '\n'

theorem flushLeft_of_not_isShifted {text : List Char} (h : ¬ IsShifted step text) :
    flushLeft step text = text :=
  if_neg fun hp => h (List.isPrefixOf_iff_prefix.mp hp)

theorem flushLeft_of_isShifted {text : List Char} (h : IsShifted step text) :
    flushLeft step text = (linesKeeping text).flatMap (pullBack (spaces step)) :=
  if_pos (List.isPrefixOf_iff_prefix.mpr h)

theorem flushLeft_eq_unindented {text : List Char} (h : IsShifted step text) :
    flushLeft step text =
      pullBack (spaces step) (unindented isLineEnd (spaces step) text) := by
  rw [flushLeft_of_isShifted h, flatMap_pullBack_linesKeeping (inner_spaces step)]

/-- Each row of a shifted text is pulled back, and nothing else, exactly when its indent stands
behind line feeds only. -/
theorem flushLeft_eq_pulledRows_iff (h : 1 ≤ step) {text : List Char}
    (hshift : IsShifted step text) :
    flushLeft step text = pulledRows step text ↔ StaysInRows step text := by
  have hmore : ∀ c, isRowEnd c = true → isLineEnd c = true := fun _ => isLineEnd_of_isRowEnd
  rw [flushLeft_eq_unindented hshift, pulledRows_eq,
    pullBack_inj (prefix_unindented_both hmore (inner_spaces step) text),
    unindented_eq_iff hmore (inner_spaces step) (spaces_ne_nil h)]
  simp [IndentBehind, StaysInRows, isRowEnd]

/-- A text whose lines are rows stays in rows. -/
theorem staysInRows_of_lineFeeds {text : List Char}
    (h : (text.all fun c => !isLineEnd c || c == '\n') = true) : StaysInRows step text := by
  rintro front c back rfl hc
  have hfeed := List.all_eq_true.mp h c (by simp)
  rwa [hc, Bool.not_true, Bool.false_or, beq_iff_eq] at hfeed

/-- A shifted text that stays as it is has no indent behind a line end. -/
theorem staysInRows_of_flushLeft_eq (h : 1 ≤ step) {text : List Char}
    (hshift : IsShifted step text) (heq : flushLeft step text = text) :
    StaysInRows step text := by
  have hnone : ∀ c, (fun _ : Char => false) c = true → isLineEnd c = true := nofun
  have hle := length_unindented_le hnone (inner_spaces step) text
  have hpos := List.length_pos_iff.mpr (spaces_ne_nil h)
  rw [flushLeft_eq_unindented hshift] at heq
  rw [unindented_of_no_end] at hle
  have hsame : unindented isLineEnd (spaces step) text =
      unindented (fun _ => false) (spaces step) text := by
    rw [unindented_of_no_end]
    by_cases hp : spaces step <+: unindented isLineEnd (spaces step) text
    · have hlength := congrArg List.length heq
      have hshort := hp.length_le
      rw [pullBack_of_indented hp, List.length_drop] at hlength
      omega
    · rwa [pullBack_of_not_indented hp] at heq
  intro front c back htext hc
  cases (unindented_eq_iff hnone (inner_spaces step) (spaces_ne_nil h) text).mp hsame
    front c back htext hc

/-- **What moving to the margin comes to.**  A text whose first line with content is not an item
one step to the right stays as it is; any other has each of its lines in the wider sense pulled
back by one step.  So it either stays or has one step taken from the front of each row that begins
with one, and from nothing else, exactly when it stays in rows: a step of spaces stands behind no
line end other than a line feed.  A text loses spaces only, in any case. -/
theorem flushLeft_in_rows_iff (step : Int) (text : List Char) (h : 1 ≤ step) :
    (¬ IsShifted step text → flushLeft step text = text) ∧
      (IsShifted step text →
        flushLeft step text = (linesKeeping text).flatMap (pullBack (spaces step))) ∧
      (flushLeft step text = text ∨ flushLeft step text = pulledRows step text ↔
        (IsShifted step text → StaysInRows step text)) ∧
      (flushLeft step text).filter (· ≠ ' ') = text.filter (· ≠ ' ') := by
  refine ⟨flushLeft_of_not_isShifted, flushLeft_of_isShifted, ⟨?_, fun hstays => ?_⟩, ?_⟩
  · rintro (heq | heq) hshift
    · exact staysInRows_of_flushLeft_eq h hshift heq
    · exact (flushLeft_eq_pulledRows_iff h hshift).mp heq
  · by_cases hshift : IsShifted step text
    · exact Or.inr ((flushLeft_eq_pulledRows_iff h hshift).mpr (hstays hshift))
    · exact Or.inl (flushLeft_of_not_isShifted hshift)
  · by_cases hshift : IsShifted step text
    · rw [flushLeft_eq_unindented hshift, filter_pullBack, filter_unindented]
    · rw [flushLeft_of_not_isShifted hshift]

/-- A list in the layout of the writer, which the theorem moves to the margin row by row. -/
theorem flushLeft_in_rows_of_list :
    1 ≤ (2 : Int) ∧ IsShifted 2 "  - a\n  - b\n".toList ∧
      StaysInRows 2 "  - a\n  - b\n".toList ∧
      flushLeft 2 "  - a\n  - b\n".toList = pulledRows 2 "  - a\n  - b\n".toList ∧
      pulledRows 2 "  - a\n  - b\n".toList = "- a\n- b\n".toList := by
  have hshift : IsShifted 2 "  - a\n  - b\n".toList := ⟨" a\n".toList, by decide +kernel⟩
  have hstays : StaysInRows 2 "  - a\n  - b\n".toList :=
    staysInRows_of_lineFeeds (by decide +kernel)
  have hmoved : flushLeft 2 "  - a\n  - b\n".toList ≠ "  - a\n  - b\n".toList := by
    decide +kernel
  have hrows :=
    (flushLeft_in_rows_iff 2 "  - a\n  - b\n".toList (by decide)).2.2.1.mpr fun _ => hstays
  exact ⟨by decide, hshift, hstays, hrows.resolve_left hmoved, by decide +kernel⟩

/-- Lists that lose spaces from within a row: behind a line separator and behind a vertical tab. -/
theorem spaces_lost_within_rows :
    let separated := "  - a\u2028  b\n".toList
    let tabbed := "  - a\x0b  b\n".toList
    flushLeft 2 separated = "- a\u2028b\n".toList ∧
      pulledRows 2 separated = "- a\u2028  b\n".toList ∧
      flushLeft 2 tabbed = "- a\x0bb\n".toList ∧
      pulledRows 2 tabbed = "- a\x0b  b\n".toList := by
  decide +kernel

end Yaml
end YamlTidy
