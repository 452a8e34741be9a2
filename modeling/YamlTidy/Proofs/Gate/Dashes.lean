import YamlTidy.Proofs.Repair.Agreement
import YamlTidy.Proofs.Yaml.Margin
import YamlTidy.Proofs.Yaml.Pens.Layouts

/-!
# The dashes of a sequence at the root

The writer puts each dash of a sequence at the root one step right of the margin, at the beginning
of a line (`dash_of_write`).  The text is then pulled back to the margin if its first line with
content is such a dash, so that the dashes stay in one column
(`Document.dashesAligned_of_canonical`).  That line is the first dash unless the sequence has a
tag or an anchor, or a comment in front of it looks like content.

Main statement: `format_aligns_dashes`.
-/

namespace YamlTidy
namespace Yaml

open Text
open Analysis (isTextBreak)

variable {p q r : Pen} {s t lines after front text : List Char} {c : Char} {l : Layout}
  {m : Measures}
  {notes : List Leading} {step : Int} {items more : List Layout}

/-! ## Lines -/

theorem isLineEnd_of_isTextBreak (h : isTextBreak c = true) : isLineEnd c = true := by
  simp only [isTextBreak, Bool.or_eq_true, beq_iff_eq] at h
  rcases h with ((rfl | rfl) | rfl) | rfl <;> rfl

theorem isBlank_of_isLineEnd (h : isLineEnd c = true) : isBlank c = true := by
  simp only [isLineEnd, isBlank, Bool.or_eq_true, Bool.and_eq_true, beq_iff_eq,
    decide_eq_true_eq] at h ⊢
  omega

/-- The lines of a text behind one that ends in a line break. -/
theorem linesKeeping_append (h : LineStart s.reverse) (t : List Char) :
    linesKeeping (s ++ t) = linesKeeping s ++ linesKeeping t := by
  rw [LineStart, List.head?_reverse] at h
  have hmore {c : Char} {rest : List Char}
    (h : ∀ d ∈ (c :: rest).getLast?, isTextBreak d = true) :
      ∀ d ∈ rest.getLast?, isTextBreak d = true := fun d hd => h d (by
    rw [List.getLast?_cons, Option.mem_def.mp hd]
    rfl)
  fun_induction linesKeeping s with
  | case1 => rfl
  | case2 rest ih =>
      rw [List.cons_append, List.cons_append, linesKeeping, ih (hmore (hmore h)),
        List.cons_append]
  | case3 c rest hcr hc ih =>
      -- A carriage return does not end the text, so that what is behind it stays behind it.
      have hcr' : ∀ back, c = '\r' → rest ++ t = '\n' :: back → False := by
        rintro back rfl hback
        cases rest with
        | nil => cases h '\r' rfl
        | cons d rest =>
            obtain ⟨rfl, -⟩ := List.cons.inj hback
            exact hcr rest rfl rfl
      rw [List.cons_append, linesKeeping.eq_3 _ _ hcr', if_pos hc, ih (hmore h),
        List.cons_append]
  | case4 c rest hcr hc hrest ih =>
      rw [eq_nil_of_linesKeeping hrest] at h
      exact absurd (isLineEnd_of_isTextBreak (h c rfl)) hc
  | case5 c rest hcr hc first others hrest ih =>
      have hcr' : ∀ back, c = '\r' → rest ++ t = '\n' :: back → False := by
        rintro back rfl -
        exact hc rfl
      rw [List.cons_append, linesKeeping.eq_3 _ _ hcr', if_neg hc, ih (hmore h), hrest]
      rfl

/-- A text with lines that are blank or comments. -/
def Quiet (s : List Char) : Prop :=
  ∀ line ∈ linesKeeping s, isContent line = false

theorem Quiet.append (hs : Quiet s) (hstart : LineStart s.reverse) (ht : Quiet t) :
    Quiet (s ++ t) := by
  intro line hline
  rw [linesKeeping_append hstart] at hline
  rcases List.mem_append.mp hline with hline | hline
  · exact hs line hline
  · exact ht line hline

theorem linesKeeping_cons (hc : isLineEnd c = false) {first : List Char}
    {others : List (List Char)} (h : linesKeeping s = first :: others) :
    linesKeeping (c :: s) = (c :: first) :: others := by
  have hcr : ∀ back, c = '\r' → s = '\n' :: back → False := by
    rintro back rfl -
    cases hc
  rw [linesKeeping.eq_3 _ _ hcr, hc, h]
  rfl

/-- Spaces in front of a text belong to its first line. -/
theorem linesKeeping_spaces {first : List Char} {others : List (List Char)}
    (h : linesKeeping s = first :: others) (n : Nat) :
    linesKeeping (List.replicate n ' ' ++ s) = (List.replicate n ' ' ++ first) :: others := by
  induction n with
  | zero => exact h
  | succ n ih => exact linesKeeping_cons rfl ih

theorem isContent_spaces (n : Nat) (line : List Char) :
    isContent (List.replicate n ' ' ++ line) = isContent line := by
  induction n with
  | zero => rfl
  | succ n ih => exact ih

theorem exists_of_linesKeeping (h : s ≠ []) :
    ∃ first others, linesKeeping s = first :: others := by
  cases hs : linesKeeping s with
  | nil => exact absurd (eq_nil_of_linesKeeping hs) h
  | cons first others => exact ⟨first, others, rfl⟩

theorem linesKeeping_begins (hc : isLineEnd c = false) (s : List Char) :
    ∃ first others, linesKeeping (c :: s) = (c :: first) :: others := by
  by_cases hnone : s = []
  · rw [hnone, linesKeeping.eq_3 c [] (by rintro back - ⟨⟩), hc]
    exact ⟨[], [], rfl⟩
  · obtain ⟨first, others, hs⟩ := exists_of_linesKeeping hnone
    exact ⟨first, others, linesKeeping_cons hc hs⟩

theorem Quiet.spaces (h : Quiet s) (hne : s ≠ []) (n : Nat) :
    Quiet (List.replicate n ' ' ++ s) := by
  obtain ⟨first, others, hs⟩ := exists_of_linesKeeping hne
  intro line hline
  rw [linesKeeping_spaces hs] at hline
  rw [Quiet, hs] at h
  rcases List.mem_cons.mp hline with rfl | hline
  · rw [isContent_spaces]
    exact h first List.mem_cons_self
  · exact h line (List.mem_cons_of_mem first hline)

/-- Behind quiet lines the first line with content is an item one step to the right. -/
theorem isShifted_of_quiet (hquiet : Quiet lines) (hstart : LineStart lines.reverse) :
    IsShifted step (lines ++ (spaces step ++ '-' :: after)) := by
  obtain ⟨first, others, hfirst⟩ := linesKeeping_begins (c := '-') rfl after
  have hcontent : isContent (List.replicate step.toNat ' ' ++ '-' :: first) = true :=
    isContent_spaces _ _
  have hnone : (linesKeeping lines).find? isContent = none :=
    List.find?_eq_none.mpr fun line hline => by simp [hquiet line hline]
  rw [IsShifted, linesKeeping_append hstart, Text.spaces, linesKeeping_spaces hfirst,
    List.find?_append, hnone, Option.none_or, List.find?_cons_of_pos hcontent]
  exact ⟨first, by rw [Option.getD_some, List.append_assoc, List.singleton_append]⟩

/-- A text that begins with content has no item as its first line with content. -/
theorem not_isShifted_of_content (hstep : 1 ≤ step) (hblank : isBlank c = false)
    (hc : c ≠ '#') :
    ¬ IsShifted step (c :: s) := by
  have hend : isLineEnd c = false :=
    Bool.eq_false_iff.mpr fun hend => Bool.eq_false_iff.mp hblank (isBlank_of_isLineEnd hend)
  obtain ⟨first, others, hfirst⟩ := linesKeeping_begins hend s
  have hcontent : isContent (c :: first) = true := by
    rw [isContent, stripStart, List.dropWhile_cons_of_neg (by simp [hblank])]
    simpa using hc
  rw [IsShifted, hfirst, List.find?_cons_of_pos hcontent, Option.getD_some]
  intro hshift
  obtain ⟨d, indent, hd⟩ := List.exists_cons_of_ne_nil (spaces_ne_nil hstep)
  rw [hd, List.cons_append] at hshift
  obtain ⟨rfl, -⟩ := List.cons_prefix_cons.mp hshift
  have hspace : d = ' ' := List.eq_of_mem_replicate (hd ▸ List.mem_cons_self : d ∈ spaces step)
  rw [hspace] at hblank
  cases hblank

/-! ## The margin -/

theorem unindented_append (hindent : Inner s) (hc : isLineEnd c = true)
    (front back : List Char) :
    unindented isLineEnd s (front ++ c :: back) =
      unindented isLineEnd s front ++ c :: pullBack s (unindented isLineEnd s back) := by
  induction front with
  | nil => exact unindented_cons_end hc s back
  | cons d front ih =>
      cases hd : isLineEnd d with
      | true =>
          rw [List.cons_append, unindented_cons_end hd, unindented_cons_end hd, ih,
            pullBack_append_lineEnd hindent hc, List.cons_append]
      | false =>
          rw [List.cons_append, unindented_cons hd, unindented_cons hd, ih, List.cons_append]

theorem unindented_append_inner (ht : Inner t) (s back : List Char) :
    unindented isLineEnd s (t ++ back) = t ++ unindented isLineEnd s back := by
  induction t with
  | nil => rfl
  | cons d t ih =>
      obtain ⟨hd, ht⟩ := List.forall_mem_cons.mp ht
      rw [List.cons_append, unindented_cons hd, ih ht, List.cons_append]

/-- A dash one step to the right at the beginning of a line is pulled back to the margin. -/
theorem flushLeft_of_dash (hshift : IsShifted step (lines ++ (spaces step ++ '-' :: after)))
    (hstart : LineStart lines.reverse) :
    ∃ lines' after', flushLeft step (lines ++ (spaces step ++ '-' :: after)) =
      lines' ++ '-' :: after' ∧
      LineStart lines'.reverse ∧ lines'.filter (· ≠ ' ') = lines.filter (· ≠ ' ') := by
  have hindent := inner_spaces step
  have hdash : pullBack (spaces step)
    (unindented isLineEnd (spaces step) (spaces step ++ '-' :: after)) =
      '-' :: unindented isLineEnd (spaces step) after := by
    rw [unindented_append_inner hindent, pullBack_append, unindented_cons rfl]
  rw [flushLeft_eq_unindented hshift]
  rcases List.eq_nil_or_concat lines with rfl | ⟨body, c, rfl⟩
  · exact ⟨[], _, hdash, hstart, rfl⟩
  · have hc : isTextBreak c = true := hstart c (by simp)
    have hend := isLineEnd_of_isTextBreak hc
    refine ⟨pullBack (spaces step) (unindented isLineEnd (spaces step) body) ++ [c],
      unindented isLineEnd (spaces step) after, ?_, ?_, ?_⟩
    · rw [List.concat_eq_append, List.append_assoc, List.singleton_append,
        unindented_append hindent hend, hdash, pullBack_append_lineEnd hindent hend,
          List.append_assoc]
      rfl
    · rw [List.reverse_append]
      exact lineStart_cons hc _
    · rw [List.concat_eq_append, List.filter_append, List.filter_append, filter_pullBack,
        filter_unindented]

/-- The marker that ends a text holds no dash. -/
theorem dropDocumentEnd_of_dash (h : text = front ++ '-' :: after) :
    ∃ after', dropDocumentEnd text = front ++ '-' :: after' := by
  rcases dropDocumentEnd_cases text with hkept | ⟨body, rfl, hkept⟩
  · exact ⟨after, hkept.trans h⟩
  · rw [hkept]
    have hbody : body ++ ['\n'] <+: body ++ documentEnd :=
      ⟨"...\n".toList, by simp [documentEnd]⟩
    have hdash : front ++ ['-'] <+: body ++ documentEnd := ⟨after, by simp [h]⟩
    rcases List.prefix_or_prefix_of_prefix hdash hbody with ⟨more, hmore⟩ | ⟨more, hmore⟩
    · exact ⟨more, by simp [← hmore]⟩
    · have hmarks : more ++ after = "...\n".toList := by
        have htext : (body ++ ['\n']) ++ (more ++ after) =
          (body ++ ['\n']) ++ "...\n".toList := by
          rw [← List.append_assoc, hmore, List.append_assoc, List.singleton_append, ← h]
          simp [documentEnd]
        exact List.append_cancel_left htext
      rcases List.eq_nil_or_concat more with rfl | ⟨init, d, rfl⟩
      · rw [List.append_nil] at hmore
        cases (List.append_inj' hmore rfl).2
      · rw [List.concat_eq_append, ← List.append_assoc] at hmore
        cases (List.append_inj' hmore rfl).2
        have hmem : '-' ∈ "...\n".toList := by simp [← hmarks]
        exact absurd hmem (by decide)

/-! ## Comments without content -/

/-- Whether no line of a comment looks like content. -/
def Comment.isQuiet (c : Comment) : Bool :=
  (linesKeeping c.text).all fun line => !isContent line

/-- Whether no line of what is kept in front of something looks like content. -/
def Leading.isQuiet : Leading → Bool
  | .comment c => c.isQuiet
  | .header _ => true

namespace Pen

/-- A pen at the margin that has written no content. -/
structure AheadOfContent (p : Pen) : Prop where
  column_eq : p.column = 0
  atStart : LineStart p.done
  quiet : Quiet p.done.reverse

theorem aheadOfContent_fresh : AheadOfContent {} :=
  ⟨rfl, nofun, nofun⟩

theorem AheadOfContent.comment (h : p.AheadOfContent) {c : Comment} (hwhole : c.isWhole = true)
    (hquiet : c.isQuiet = true) : (p.comment true c).AheadOfContent := by
  obtain ⟨n, hn⟩ := comment_before c p
  rw [Comment.isWhole, beq_iff_eq] at hwhole
  have hne : c.text ≠ [] := by
    intro hnone
    rw [hnone] at hwhole
    cases hwhole
  have htext : Quiet c.text := fun line hline => by
    simpa using List.all_eq_true.mp hquiet line hline
  rw [hn]
  refine ⟨h.column_eq, ?_, ?_⟩
  · intro d hd
    simp [put, hwhole] at hd
    subst hd
    rfl
  · simp only [put, List.reverse_append, List.reverse_reverse]
    exact h.quiet.append (by simpa using h.atStart) (htext.spaces hne n)

theorem AheadOfContent.commentsBefore (h : p.AheadOfContent)
    (hwhole : notes.all Leading.isWhole = true) (hquiet : notes.all Leading.isQuiet = true)
    (hq : Pen.commentsBefore notes p = .ok q) :
    q.AheadOfContent := by
  induction notes generalizing p with
  | nil =>
      cases hq
      exact h
  | cons note more ih =>
      rw [List.all_cons, Bool.and_eq_true] at hwhole hquiet
      cases note with
      | header text => cases hq
      | comment c =>
          rw [Pen.commentsBefore, if_pos (beq_iff_eq.mpr h.column_eq)] at hq
          exact ih (h.comment hwhole.1 hquiet.1) hwhole.2 hquiet.2 hq

theorem AheadOfContent.indentTo (h : p.AheadOfContent) :
    (p.indentTo (some 0)).AheadOfContent := by
  obtain ⟨q, hq, hcases⟩ := indentTo_cases (some 0) p
  have hline : q.AheadOfContent := by
    rcases hcases with ⟨rfl, -⟩ | ⟨-, rfl⟩ | ⟨-, rfl⟩
    · exact h
    · exact ⟨h.column_eq, h.atStart, h.quiet⟩
    · refine ⟨rfl, lineStart_cons rfl p.done, ?_⟩
      have hbreak : Quiet ['\n'] := by
        intro line hline
        cases List.mem_singleton.mp hline
        rfl
      simp only [newline, breakWith, List.reverse_cons]
      exact h.quiet.append (by simpa using h.atStart) hbreak
  rw [hq, if_neg (by rw [hline.column_eq]; exact Int.lt_irrefl 0)]
  exact hline

/-- Going to the margin leads to the beginning of a line. -/
theorem atMargin_indentTo (hp : p.Sound) (hsettled : p.noNewline = false) :
    (p.indentTo (some 0)).column = 0 ∧ (p.indentTo (some 0)).whitespace = true ∧
      LineStart (p.indentTo (some 0)).done := by
  obtain ⟨q, hq, hcases⟩ := indentTo_cases (some 0) p
  have hline : q.column = 0 ∧ q.whitespace = true ∧ LineStart q.done := by
    rcases hcases with ⟨rfl, -, hle, hspace⟩ | ⟨hleft, -⟩ | ⟨-, rfl⟩
    · have hzero : q.column = 0 := Int.le_antisymm hle hp.column_nonneg
      exact ⟨hzero, hspace hzero, hp.atStart (hspace hzero) hzero⟩
    · rw [hsettled] at hleft
      cases hleft
    · exact ⟨rfl, rfl, lineStart_cons rfl p.done⟩
  rw [hq, if_neg (by rw [hline.1]; exact Int.lt_irrefl 0)]
  exact hline

end Pen

/-! ## Dashes -/

namespace Layout

open Pen

/-- The spot in a sequence at the root. -/
def rootSpot (m : Measures) : Spot :=
  ({ isRoot := true } : Spot).inside m false true false

theorem isPlaced_rootSpot (m : Measures) : (rootSpot m).item.IsPlaced :=
  ⟨0, rfl, Int.le_refl 0, nofun⟩

theorem writeItems_append (m : Measures) (anchors : List (Nat × List Char)) (s : Spot)
    (front back : List Layout) (p : Pen) :
    writeItems m anchors s (front ++ back) p =
      writeItems m anchors s front p >>= writeItems m anchors s back := by
  induction front generalizing p with
  | nil => rfl
  | cons l more ih => simp only [List.cons_append, writeItems, bind_assoc, ih]

theorem areOrderly_append (front back : List Layout) :
    areOrderly (front ++ back) = (areOrderly front && areOrderly back) := by
  induction front with
  | nil => rfl
  | cons l more ih => simp only [List.cons_append, areOrderly, ih, Bool.and_assoc]

/-- A sequence at the root in block style: what is in front of it, its items, and the comments at
its end. -/
theorem write_root (m : Measures) (anchors : List (Nat × List Char)) (info : LayoutInfo)
    (hitems : items ≠ []) (p : Pen) :
    write m anchors { isRoot := true } (.sequence info false items) p = (do
      let (q, _) ← openSequence { isRoot := true } info.notes false
        (writeTag info.tag .seq (writeAnchor '&' (anchor? anchors info) p))
      let q ← writeItems m anchors (rootSpot m) items q
      let q ← Pen.commentsBefore info.notes.atEnd q
      pure { q with noNewline := false }) := by
  have hsome : items.isEmpty = false := by simpa using hitems
  unfold write
  simp only [hsome]
  rfl

end Layout

namespace DocumentLayout

open Layout Pen

/-- The pen behind the anchor and the tag of a sequence at the root. -/
def markPen (d : DocumentLayout) (info : LayoutInfo) : Pen :=
  writeTag info.tag .seq (writeAnchor '&' (anchor? d.anchors info) {})

/-- The pen in front of the first item of a sequence at the root. -/
def openPen (d : DocumentLayout) (info : LayoutInfo) : Except Abort Pen := do
  let (p, _) ← openSequence { isRoot := true } info.notes false (d.markPen info)
  pure p

/-- The pen in front of the dash of an item at the root, when others have been written. -/
def dashPen (m : Measures) (d : DocumentLayout) (info : LayoutInfo) (front : List Layout)
    (l : Layout) :
    Except Abort Pen := do
  let p ← d.openPen info
  let p ← writeItems m d.anchors (rootSpot m) front p
  beginLine l (some 0) p

/-- What comes behind the root leaves it as it is. -/
theorem onward_closing (p : Pen) :
    let q := p.indentTo none
    Onward p (if q.openEnded then (q.mark "...".toList true false false).indentTo none else q) :=
  (onward_indentTo none p).trans
    (.ite ((onward_sign _ true false _).trans (onward_indentTo none _)) (.refl _))

variable {d : DocumentLayout} {info : LayoutInfo} {front more : List Layout}

/-- What is written in front of a dash: the sequence is opened, the items in front of it and the
comments of its own follow, and the pen goes to the margin. -/
theorem parts_of_dashPen (h : d.dashPen m info front l = .ok p) :
    ∃ q forced r last,
      openSequence { isRoot := true } info.notes false (d.markPen info) = .ok (q, forced) ∧
      writeItems m d.anchors (rootSpot m) front q = .ok r ∧
      Pen.commentsBefore l.notes.before r = .ok last ∧ p = last.indentTo (some 0) := by
  obtain ⟨opened, hopened, h⟩ := exists_of_bind h
  obtain ⟨⟨q, forced⟩, hq, heq⟩ := exists_of_bind hopened
  cases heq
  obtain ⟨r, hr, h⟩ := exists_of_bind h
  obtain ⟨last, hlast, heq⟩ := exists_of_bind h
  cases heq
  exact ⟨opened, forced, r, last, hq, hr, hlast, rfl⟩

/-- On the way to a dash no line break has been left out. -/
theorem exists_of_dashPen (hm : 2 ≤ m.step)
    (hnotes : info.notes.before.all Leading.isWhole = true) (hfront : areOrderly front = true)
    (hl : l.isOrderly true = true) (h : d.dashPen m info front l = .ok p) :
    ∃ q, Onward (d.markPen info) q ∧ p = q.indentTo (some 0) := by
  obtain ⟨q, forced, r, last, hq, hr, hlast, rfl⟩ := parts_of_dashPen h
  have hitems : Onward q r :=
    advances_writeItems m d.anchors hm (isPlaced_rootSpot m) rfl front hfront q r hr
  have hcomments : Onward r last := advances_commentsBefore (before_areWhole hl) r last hlast
  exact ⟨last, ((onward_openBlock hnotes hq).trans hitems).trans hcomments, rfl⟩

/-- A dash at the root stands at the margin in front of its indent, behind the anchor and the
tag. -/
theorem atMargin_dashPen (hm : 2 ≤ m.step)
    (hnotes : info.notes.before.all Leading.isWhole = true) (hfront : areOrderly front = true)
    (hl : l.isOrderly true = true) (h : d.dashPen m info front l = .ok p) :
    p.whitespace = true ∧ LineStart p.done ∧ (d.markPen info).done <:+ p.done := by
  obtain ⟨q, hq, rfl⟩ := exists_of_dashPen hm hnotes hfront hl h
  have hmarks : Onward {} (d.markPen info) := onward_opened _ _ _ _
  have hall := hmarks.trans hq
  obtain ⟨-, hwhitespace, hstart⟩ :=
    atMargin_indentTo (hall.sound sound_fresh) (hall.settled rfl)
  exact ⟨hwhitespace, hstart, hq.done.trans (onward_indentTo (some 0) q).done⟩

/-- What is written behind the pen in front of a dash at the root: the dash, its item, the items
that follow, and the comments at the end. -/
theorem exists_dashPen (hroot : d.root = .sequence info false (front ++ l :: more))
    (h : d.write m = .ok text) :
    ∃ p, d.dashPen m info front l = .ok p ∧
      let q := p.mark (List.replicate m.step.toNat ' ' ++ ['-']) true false true
      let q := if 2 * m.step < m.step + 2 then { q with noNewline := true } else q
      ∃ r, (do
          let r ← Layout.write m d.anchors { (rootSpot m).item with announced := true } l q
          let r ← writeItems m d.anchors (rootSpot m) more r
          Pen.commentsBefore info.notes.atEnd r) = .ok r ∧
        let last := Pen.indentTo none { r with noNewline := false }
        text = (if last.openEnded then (last.mark "...".toList true false false).indentTo none
          else last).done.reverse := by
  unfold write at h
  rw [hroot, write_root m _ _ (by simp)] at h
  obtain ⟨last, hlast, h⟩ := exists_of_bind h
  obtain ⟨⟨opened, forced⟩, hopened, hlast⟩ := exists_of_bind hlast
  obtain ⟨closed, hitems, hlast⟩ := exists_of_bind hlast
  obtain ⟨ended, hended, hlast⟩ := exists_of_bind hlast
  rw [writeItems_append] at hitems
  obtain ⟨q, hq, hitems⟩ := exists_of_bind hitems
  unfold writeItems at hitems
  obtain ⟨p, hp, hitems⟩ := exists_of_bind hitems
  obtain ⟨r, hr, hitems⟩ := exists_of_bind hitems
  cases hlast
  cases h
  have hopen : d.openPen info = .ok opened := by
    rw [openPen, markPen, hopened]
    rfl
  refine ⟨p, ?_, ended, ?_, rfl⟩
  · rw [dashPen, hopen]
    change writeItems m d.anchors (rootSpot m) front opened >>= beginLine l (some 0) = .ok p
    rw [hq]
    exact hp
  · dsimp only
    rw [hr]
    change writeItems m d.anchors (rootSpot m) more r >>= Pen.commentsBefore info.notes.atEnd = _
    rw [hitems]
    exact hended

/-- **A dash at the root begins a line**, one step right of the margin. -/
theorem dash_of_write (hm : 2 ≤ m.step)
    (hroot : d.root = .sequence info false (front ++ l :: more))
    (horderly : d.root.isOrderly false = true) (h : d.write m = .ok text) :
    ∃ p after, d.dashPen m info front l = .ok p ∧ LineStart p.done ∧
      (d.markPen info).done <:+ p.done ∧
        text = p.done.reverse ++ (spaces m.step ++ '-' :: after) := by
  simp only [hroot, isOrderly, LayoutNotes.areWhole, areOrderly_append, areOrderly,
    Bool.and_eq_true] at horderly
  obtain ⟨⟨⟨hnotes, hend⟩, -⟩, hfront, hl, hmore⟩ := horderly
  obtain ⟨p, hp, r, hr, htext⟩ := exists_dashPen hroot h
  obtain ⟨hwhitespace, hstart, hmarks⟩ := atMargin_dashPen hm hnotes hfront hl hp
  rw [if_neg (by omega)] at hr
  have hrest : Onward (p.mark (List.replicate m.step.toNat ' ' ++ ['-']) true false true) r := by
    have hitem := advances_write m d.anchors hm
      (s := { (rootSpot m).item with announced := true }) (isPlaced_rootSpot m) l hl
    have hitems := advances_writeItems m d.anchors hm (isPlaced_rootSpot m) rfl more hmore
    refine Advances.bind (hitem _) (fun q _ => ?_) r hr
    exact .bind (hitems q) fun q _ => advances_commentsBefore hend q
  have hlast := hrest.done.trans (onward_closing { r with noNewline := false }).done
  obtain ⟨after, hafter⟩ := hlast
  refine ⟨p, after.reverse, hp, hstart, hmarks, ?_⟩
  rw [htext, ← hafter]
  simp [mark, Pen.write, hwhitespace, spaces]

/-- Dropping the marker at the end leaves the dashes at the root where they are. -/
theorem dash_of_dropDocumentEnd (hm : 2 ≤ m.step)
    (hroot : d.root = .sequence info false (front ++ l :: more))
    (horderly : d.root.isOrderly false = true) (h : d.write m = .ok text) :
    ∃ p after, d.dashPen m info front l = .ok p ∧ LineStart p.done ∧
      (d.markPen info).done <:+ p.done ∧
        dropDocumentEnd text = p.done.reverse ++ (spaces m.step ++ '-' :: after) := by
  obtain ⟨p, after, hp, hstart, hmarks, hbody⟩ := dash_of_write hm hroot horderly h
  rw [← List.append_assoc] at hbody
  obtain ⟨after', hafter⟩ := dropDocumentEnd_of_dash hbody
  exact ⟨p, after', hp, hstart, hmarks, by rw [hafter, List.append_assoc]⟩

/-- The items of a sequence in block style at the root. -/
def rootItems? (d : DocumentLayout) : Option (LayoutInfo × List Layout) :=
  match d.root with
  | .sequence info false (l :: more) => some (info, l :: more)
  | _ => none

theorem root_of_rootItems (h : d.rootItems? = some (info, items)) :
    d.root = .sequence info false items ∧ items ≠ [] := by
  unfold rootItems? at h
  split at h
  · next hroot =>
      cases h
      exact ⟨hroot, List.cons_ne_nil _ _⟩
  · cases h

/-- Whether nothing with content is written in front of the first dash at the root. -/
def isBare (d : DocumentLayout) (info : LayoutInfo) (items : List Layout) : Bool :=
  info.tag.name == CoreTag.seq.name && (anchor? d.anchors info).isNone &&
    info.notes.behind.isNone &&
    info.notes.before.all Leading.isQuiet &&
    items.head?.all fun l => l.notes.before.all Leading.isQuiet

theorem aheadOfContent_dashPen (hnotes : info.notes.before.all Leading.isWhole = true)
    (hl : l.isOrderly true = true) (hbare : d.isBare info (l :: more) = true)
    (h : d.dashPen m info [] l = .ok p) : p.AheadOfContent := by
  simp only [isBare, Bool.and_eq_true, Option.isNone_iff_eq_none, List.head?_cons,
    Option.all_some] at hbare
  obtain ⟨⟨⟨⟨htag, hanchor⟩, hbehind⟩, hquiet⟩, hfirst⟩ := hbare
  obtain ⟨q, forced, r, last, hq, hr, hlast, rfl⟩ := parts_of_dashPen h
  cases hr
  have hfresh : d.markPen info = {} := by
    rw [markPen, hanchor]
    exact if_pos htag
  rw [hfresh] at hq
  unfold openSequence at hq
  simp only [Bool.false_eq_true, if_false, hbehind] at hq
  obtain ⟨commented, hcommented, heq⟩ := exists_of_bind hq
  cases heq
  have hopen := aheadOfContent_fresh.commentsBefore hnotes hquiet hcommented
  exact (hopen.commentsBefore (before_areWhole hl) hfirst hlast).indentTo

/-- Whether the anchor or the tag of a sequence at the root is content. -/
def isMarked (d : DocumentLayout) (info : LayoutInfo) : Bool :=
  (d.markPen info).done.getLast?.any fun c => !isBlank c && c != '#'

/-- Behind an anchor or a tag at the root nothing is moved to the margin. -/
theorem not_isShifted_of_isMarked (hstep : 1 ≤ step) (hmarked : d.isMarked info = true)
    (hmarks : (d.markPen info).done <:+ p.done) (htext : text = p.done.reverse ++ s) :
    ¬ IsShifted step text := by
  obtain ⟨written, hwritten⟩ := hmarks
  rw [isMarked, ← List.head?_reverse] at hmarked
  cases hfirst : (d.markPen info).done.reverse with
  | nil =>
      rw [hfirst] at hmarked
      cases hmarked
  | cons c rest =>
      simp only [hfirst, List.head?_cons, Option.any_some, Bool.and_eq_true, Bool.not_eq_true',
        bne_iff_ne, ne_eq] at hmarked
      rw [htext, ← hwritten, List.reverse_append, hfirst]
      exact not_isShifted_of_content hstep hmarked.1 hmarked.2

/-- The dash of an item at the root stands in a column of a text, behind what is in front of it.
Spaces do not count in the comparison since lines may have been moved. -/
def HasDash (m : Measures) (d : DocumentLayout) (info : LayoutInfo) (front : List Layout)
    (l : Layout) (column : Nat) (text : List Char) : Prop :=
  ∃ p lines after, d.dashPen m info front l = .ok p ∧
    text = lines ++ (List.replicate column ' ' ++ '-' :: after) ∧ LineStart lines.reverse ∧
      lines.filter (· ≠ ' ') = p.done.reverse.filter (· ≠ ' ')

theorem hasDash_of_step (hp : d.dashPen m info front l = .ok p) (hstart : LineStart p.done)
    (htext : text = p.done.reverse ++ (spaces m.step ++ '-' :: after)) :
    d.HasDash m info front l m.step.toNat text :=
  ⟨p, p.done.reverse, after, hp, htext, by simpa using hstart, rfl⟩

theorem hasDash_of_flushLeft (hp : d.dashPen m info front l = .ok p) (hstart : LineStart p.done)
    (hshift : IsShifted m.step text)
    (htext : text = p.done.reverse ++ (spaces m.step ++ '-' :: after)) :
    d.HasDash m info front l 0 (flushLeft m.step text) := by
  rw [htext] at hshift ⊢
  obtain ⟨lines, after', hpulled, hlines, hsame⟩ :=
    flushLeft_of_dash hshift (by simpa using hstart)
  exact ⟨p, lines, after', hp, hpulled, hlines, hsame⟩

end DocumentLayout

/-! ## Documents -/

/-- The dashes of a sequence at the root of a document stand in one column of its text: at the
margin or one step right of it.  If the root is a sequence by its kind and nothing with content
stands in front of the first dash, it is the margin; if the root is of another kind, or has an
anchor or a tag, it is not. -/
def Document.DashesAligned (o : Options) (d : Document) (text : List Char) : Prop :=
  ∀ layout info items, DocumentLayout.ofDocument d = .ok layout →
    layout.rootItems? = some (info, items) → layout.root.isOrderly false = true →
      ∃ column : Nat, (column = 0 ∨ column = o.indent) ∧
        (d.isSequence = true → layout.isBare info items = true → column = 0) ∧
        (d.isSequence = false ∨ layout.isMarked info = true → column = o.indent) ∧
        ∀ front l more, items = front ++ l :: more →
          layout.HasDash (Measures.ofOptions o) info front l column text

theorem Document.dashesAligned_of_canonical {o : Options} (ho : 2 ≤ o.indent) {d : Document}
    (h : d.canonical o = .ok text) : d.DashesAligned o text := by
  intro layout info items hlayout hroot horderly
  obtain ⟨hroot, hitems⟩ := DocumentLayout.root_of_rootItems hroot
  obtain ⟨layout', hlayout', h⟩ := exists_of_bind h
  obtain rfl : layout = layout' := Except.ok.inj (hlayout.symm.trans hlayout')
  obtain ⟨written, hwritten, heq⟩ := exists_of_bind h
  have htext : text = if d.isSequence then flushLeft o.indent (dropDocumentEnd written)
      else dropDocumentEnd written := (Except.ok.inj heq).symm
  have hdash {front : List Layout} {l : Layout} {more : List Layout}
      (hsplit : items = front ++ l :: more) :=
    DocumentLayout.dash_of_dropDocumentEnd (m := Measures.ofOptions o) ho (hsplit ▸ hroot)
      horderly hwritten
  obtain ⟨first, others, rfl⟩ := List.exists_cons_of_ne_nil hitems
  obtain ⟨p, after, hp, hstart, hmarks, hbody⟩ := hdash (List.nil_append (first :: others)).symm
  by_cases hmoved : d.isSequence = true ∧ IsShifted o.indent (dropDocumentEnd written)
  · obtain ⟨hsequence, hshift⟩ := hmoved
    refine ⟨0, Or.inl rfl, fun _ _ => rfl, fun hnot => ?_, fun front l more hsplit => ?_⟩
    · have hmarked : layout.isMarked info = true := hnot.resolve_left (by simp [hsequence])
      exact absurd hshift
        (DocumentLayout.not_isShifted_of_isMarked (by omega) hmarked hmarks hbody)
    · obtain ⟨p, after, hp, hstart, -, hbody⟩ := hdash hsplit
      rw [htext, if_pos hsequence]
      exact DocumentLayout.hasDash_of_flushLeft hp hstart hshift hbody
  · have hstays : text = dropDocumentEnd written := by
      rw [htext]
      split
      · next hsequence =>
          exact flushLeft_of_not_isShifted fun hshift => hmoved ⟨hsequence, hshift⟩
      · rfl
    refine ⟨o.indent.toNat, Or.inr (by omega), fun hsequence hbare => ?_, fun _ => by omega,
      fun front l more hsplit => ?_⟩
    · simp only [hroot, Layout.isOrderly, Layout.areOrderly, LayoutNotes.areWhole,
        Bool.and_eq_true] at horderly
      have hahead := DocumentLayout.aheadOfContent_dashPen horderly.1.1.1 horderly.2.1 hbare hp
      refine absurd ⟨hsequence, ?_⟩ hmoved
      rw [hbody]
      exact isShifted_of_quiet hahead.quiet (by simpa using hstart)
    · obtain ⟨p, after, hp, hstart, -, hbody⟩ := hdash hsplit
      exact DocumentLayout.hasDash_of_step hp hstart (hstays.trans hbody)

/-- Each document has its own text, with its dashes in one column. -/
theorem dashesAligned_of_canonicalTexts {o : Options} (ho : 2 ≤ o.indent) {ds : List Document}
    {texts : List (List Char)} (h : canonicalTexts o ds = .ok texts) :
    List.Forall₂ (Document.DashesAligned o) ds texts := by
  induction ds generalizing texts with
  | nil =>
      cases h
      exact .nil
  | cons d more ih =>
      obtain ⟨text, htext, h⟩ := exists_of_bind h
      obtain ⟨rest, hrest, heq⟩ := exists_of_bind h
      cases heq
      exact .cons (Document.dashesAligned_of_canonical ho htext) (ih hrest)

end Yaml

namespace Gate

open Yaml

/-- **Where formatting puts the dashes of sequences at the root.**  In the text of each document
the dashes of such a sequence in block style stand in one column, at the margin or one step right
of it, and each is the first thing in its line.  The column is the margin if nothing with content
stands in front of the first dash.  This takes a layout in which comments are made of whole lines
and no sequence in flow style with comments in front leaves out the line break behind it. -/
theorem format_aligns_dashes {o : Options} {t u : List Char} (ho : 2 ≤ o.indent)
    (h : format o t = .ok (.formatted u)) :
    ∃ ds texts, load t = .ok ds ∧ u = documentStart.intercalate texts ∧
      List.Forall₂ (Document.DashesAligned o) ds texts := by
  rcases format_eq_ok h with ⟨ds, v, hload, hcanonical, hv⟩ | ⟨d, hv⟩
  · cases hv
    obtain ⟨texts, htexts, heq⟩ := exists_of_bind hcanonical
    cases heq
    exact ⟨ds, texts, hload, rfl, dashesAligned_of_canonicalTexts ho htexts⟩
  · cases hv

/-- Dashes behind comments of their own, which stand at the margin by the theorem. -/
theorem format_aligns_dashes_commented :
    let t := "# c\n- a\n# d\n- b\n".toList
    2 ≤ ({} : Options).indent ∧ format {} t = .ok (.formatted t) ∧
      ∃ d layout info items, load t = .ok [d] ∧ DocumentLayout.ofDocument d = .ok layout ∧
        layout.rootItems? = some (info, items) ∧ items.length = 2 ∧
        ∀ front l more, items = front ++ l :: more →
          layout.HasDash (Measures.ofOptions {}) info front l 0 t := by
  intro t
  have hformat : format {} t = .ok (.formatted t) := by decide +kernel
  obtain ⟨ds, texts, hload, ht, hall⟩ := format_aligns_dashes (by decide) hformat
  have hread : ((load t).toOption.bind fun ds => ds.head?.bind fun d =>
      (DocumentLayout.ofDocument d).toOption.bind fun layout =>
        layout.rootItems?.map fun (info, items) =>
        (ds.length, d.isSequence, items.length, layout.root.isOrderly false,
          layout.isBare info items)) =
          some (1, true, 2, true, true) := by
    decide +kernel
  clear_value t
  rw [hload] at hread
  cases hall with
  | nil => cases hread
  | @cons d text ds texts hd hmore =>
      cases hlayout : DocumentLayout.ofDocument d with
      | error abort => simp [Except.toOption, hlayout] at hread
      | ok layout =>
          cases hroot : layout.rootItems? with
          | none => simp [Except.toOption, hlayout, hroot] at hread
          | some root =>
              obtain ⟨info, items⟩ := root
              simp only [Except.toOption, hlayout, hroot, Option.bind_some, List.head?_cons,
                Option.map_some, Option.some.injEq, Prod.mk.injEq, List.length_cons,
                Nat.add_eq_right, List.length_eq_zero_iff] at hread
              obtain ⟨rfl, hsequence, hlength, horderly, hbare⟩ := hread
              cases hmore
              obtain ⟨column, -, hmargin, -, hdashes⟩ :=
                hd layout info items hlayout hroot horderly
              rw [hmargin hsequence hbare] at hdashes
              refine ⟨by decide, hformat, d, layout, info, items, hload, hlayout, hroot,
                hlength, ?_⟩
              rw [ht]
              simpa using hdashes

/-- Sequences at the root with dashes elsewhere: behind a tag, behind an anchor, in an ordered
map, and behind a sequence in flow style with a comment in front. -/
theorem dashes_off_the_margin :
    format {} "!t\n- a\n- b\n".toList = .ok (.formatted "!t\n  - a\n  - b\n".toList) ∧
      format {} "&a\n- *a\n".toList = .ok (.formatted "&a\n  - *a\n".toList) ∧
      format {} "!!omap\n- a: 1\n".toList = .ok (.formatted "!!omap\n  - a: 1\n".toList) ∧
      format {} "- k:\n    # c\n    []\n- b\n- c\n".toList =
        .ok (.formatted "- k:\n  # c\n      []\n- b   -\n  c\n".toList) := by
  decide +kernel

end Gate
end YamlTidy
