import YamlTidy.Proofs.Yaml.Pens

/-!
# Pens that write layouts

Writing a part of a document goes on from where the pen stands (`advances_write`), provided that
comments with lines of their own end these lines, and that a sequence in flow style with comments
in front is closed by its bracket alone (`Layout.isOrderly`).  The latter is how far the writer
looks: such comments leave out the next line break, and only the bracket behind some items takes
that back.
-/

namespace YamlTidy
namespace Yaml

open Analysis (isTextBreak)

variable {p q r : Pen} {s : Spot} {c : Comment} {m : Measures} {notes : List Leading}
  {x : Except Abort Pen} {f : Pen → Except Abort Pen} {anchors : List (Nat × List Char)}

/-! ## Orderly layouts -/

/-- Whether a comment ends the last of its lines. -/
def Comment.isWhole (c : Comment) : Bool :=
  c.text.getLast? == some '\n'

/-- Whether what is kept in front of something ends its last line, if it has any. -/
def Leading.isWhole : Leading → Bool
  | .comment c => c.isWhole
  | .header _ => true

/-- Whether the comments with lines of their own end these. -/
def LayoutNotes.areWhole (n : LayoutNotes) : Bool :=
  n.before.all Leading.isWhole && n.atEnd.all Leading.isWhole

namespace Layout

/-- Whether the bracket behind some items ends a sequence in flow style, or no comments are in front
of it. -/
def endsByBracket (notes : LayoutNotes) (items : List Layout) : Bool :=
  notes.before.isEmpty || (!items.isEmpty && notes.behind.isNone)

mutual

/-- Whether comments in a layout are made of whole lines and no sequence in flow style leaves out a
line break behind itself.  The items of a sequence never do. -/
def isOrderly (inSequence : Bool) : Layout → Bool
  | reference .. => true
  | scalar info _ _ => info.notes.areWhole
  | sequence info inFlow items =>
      info.notes.areWhole && (!inFlow || inSequence || endsByBracket info.notes items) &&
        areOrderly items
  | mapping info _ entries => info.notes.areWhole && areOrderlyEntries entries

/-- Whether all items of a sequence are orderly. -/
def areOrderly : List Layout → Bool
  | [] => true
  | l :: more => l.isOrderly true && areOrderly more

/-- Whether all entries of a mapping are orderly. -/
def areOrderlyEntries : List (Layout × Layout) → Bool
  | [] => true
  | (k, v) :: more => k.isOrderly false && v.isOrderly false && areOrderlyEntries more

end

end Layout

/-! ## Going on -/

/-- Writing that gets to an end goes on from a pen. -/
def Advances (p : Pen) (x : Except Abort Pen) : Prop :=
  ∀ q, x = .ok q → Pen.Onward p q

theorem Advances.pure (h : Pen.Onward p q) : Advances p (pure q) := by
  rintro r ⟨⟩
  exact h

theorem Advances.after (h : Pen.Onward p q) (hx : Advances q x) : Advances p x :=
  fun r hr => h.trans (hx r hr)

theorem exists_of_bind {α β : Type} {y : Except Abort α} {f : α → Except Abort β} {b : β}
    (h : y >>= f = .ok b) : ∃ a, y = .ok a ∧ f a = .ok b := by
  cases y with
  | error abort => cases h
  | ok a => exact ⟨a, rfl, h⟩

theorem Advances.opening {α : Type} {y : Except Abort α} {f : α → Except Abort Pen}
    (hf : ∀ a, y = .ok a → Advances p (f a)) : Advances p (y >>= f) := by
  intro r hr
  obtain ⟨a, ha, hr⟩ := exists_of_bind hr
  exact hf a ha r hr

theorem Advances.bind (hx : Advances p x) (hf : ∀ q, x = .ok q → Advances q (f q)) :
    Advances p (x >>= f) :=
  .opening fun q hq => .after (hx q hq) (hf q hq)

/-! ## Comments -/

namespace Pen

theorem onward_comment_behind (c : Comment) (p : Pen) : Onward p (p.comment false c) := by
  refine ⟨⟨?_, fun _ => sound_newline _⟩, id⟩
  exact (List.suffix_append _ _).trans (List.suffix_cons _ _)

theorem onward_commentBehind (c : Option Comment) (p : Pen) : Onward p (p.commentBehind c) := by
  cases c with
  | none => exact .refl p
  | some c => exact onward_comment_behind c p

theorem comment_before (c : Comment) (p : Pen) :
    ∃ n, p.comment true c = p.put (List.replicate n ' ' ++ c.text) :=
  ⟨_, rfl⟩

theorem onward_comment_before (hc : c.isWhole = true) (p : Pen) :
    Onward p (p.comment true c) := by
  obtain ⟨n, hn⟩ := comment_before c p
  rw [hn]
  refine ⟨⟨List.suffix_append _ _, fun hp => ⟨hp.column_nonneg, fun _ _ d hd => ?_⟩⟩,
    id⟩
  rw [Comment.isWhole, beq_iff_eq] at hc
  simp [put, hc] at hd
  subst hd
  rfl

theorem advances_commentsBefore (h : notes.all Leading.isWhole = true) (p : Pen) :
    Advances p (commentsBefore notes p) := by
  induction notes generalizing p with
  | nil => exact .pure (.refl p)
  | cons note more ih =>
      rw [List.all_cons, Bool.and_eq_true] at h
      cases note with
      | header text => nofun
      | comment c =>
          exact .after
            ((Onward.ite (.refl p) (onward_newline p)).trans (onward_comment_before h.1 _))
            (ih h.2 _)

/-- Behind comments with lines of their own a pen stands in front of all columns. -/
theorem column_commentsBefore (h : commentsBefore notes p = .ok q) : q = p ∨ q.column = 0 := by
  induction notes generalizing p with
  | nil =>
      cases h
      exact Or.inl rfl
  | cons note more ih =>
      cases note with
      | header text => cases h
      | comment c =>
          refine Or.inr ?_
          have hline : (if (p.column == 0) = true then p else p.newline).column = 0 := by
            split
            · next hzero => exact beq_iff_eq.mp hzero
            · rfl
          rcases ih h with heq | hcolumn
          · rw [heq]
            exact hline
          · exact hcolumn

end Pen

namespace Layout

open Pen

/-! ## Parts of a layout -/

theorem onward_writeAnchor (sign : Char) (a : Option (List Char)) (p : Pen) :
    Onward p (writeAnchor sign a p) := by
  cases a with
  | none => exact .refl p
  | some a =>
      exact (onward_sign (sign :: a) true false p).trans (.relabel rfl rfl id fun _ => rfl)

theorem onward_writeTag (tag : Tag) (core : CoreTag) (p : Pen) :
    Onward p (writeTag tag core p) :=
  .ite (.refl p) (onward_sign _ true false p)

/-- A tag of an item leaves the next line break out, and the indent behind it takes that back. -/
theorem onward_itemTag (tag : List Char) (indent : Option Int) (p : Pen) :
    Onward p (indentTo indent { p.mark tag true false false with noNewline := true }) := by
  have hmark := onward_sign tag true false p
  generalize hheld : { p.mark tag true false false with noNewline := true } = held
  have hpasses : Passes p held := by
    rw [← hheld]
    exact hmark.toPasses.trans (.relabel rfl rfl id)
  refine ⟨hpasses.trans (onward_indentTo indent held).toPasses, fun _ => ?_⟩
  obtain ⟨q, hq, ⟨-, hindention, -⟩ | ⟨-, rfl⟩ | ⟨hleft, -⟩⟩ :=
    indentTo_cases indent held
  · simp [← hheld, mark] at hindention
  · rw [hq]
    split <;> rfl
  · simp [← hheld] at hleft

/-- The tag of a scalar, unless it can be read off the text, and the way to its text. -/
theorem onward_scalarTag (implied asItem : Bool) (tag : List Char) (indent : Option Int)
    (p : Pen) :
    let marked := if implied then p else
      let q := p.mark tag true false false
      if asItem then { q with noNewline := true } else q
    Onward p (if asItem then marked.indentTo indent else marked) := by
  intro marked
  cases implied with
  | true => exact .ite (onward_indentTo indent p) (.refl p)
  | false =>
      cases asItem with
      | true => exact onward_itemTag tag indent p
      | false => exact onward_sign tag true false p

theorem onward_styled (m : Measures) (indent : Option Int) (root split : Bool)
    (header text : List Char) (style : WrittenStyle) (p : Pen) :
    Onward p (match style with
      | .plain => p.plain m indent root split text
      | .singleQuoted => p.singleQuoted m indent split text
      | .doubleQuoted => p.doubleQuoted m indent split text
      | .literal => p.literal indent root header text
      | .folded => p.folded m indent root header text) := by
  cases style with
  | plain => exact onward_plain m indent root split text p
  | singleQuoted => exact onward_singleQuoted m indent split text p
  | doubleQuoted => exact onward_doubleQuoted m indent split text p
  | literal => exact onward_literal indent root header text p
  | folded => exact onward_folded m indent root header text p

theorem onward_writeScalar (m : Measures) (anchors : List (Nat × List Char)) (s : Spot)
    (info : LayoutInfo) (text : List Char) (asked : AskedStyle) (p : Pen) :
    Onward p (writeScalar m anchors s info text asked p) := by
  unfold writeScalar
  exact (((onward_writeAnchor '&' _ p).trans (onward_scalarTag _ _ _ _ _)).trans
    (onward_styled _ _ _ _ _ _ _ _)).trans (onward_commentBehind _ _)

theorem onward_openBracket (m : Measures) (s : Spot) (bracket : List Char) (commented : Bool)
    (p : Pen) : Onward p (openBracket m s bracket commented p) :=
  onward_mark (Or.inl rfl) _ false p

theorem onward_closeEmpty (s : Spot) (bracket : List Char) (behind : Option Comment) (p : Pen) :
    Onward p (closeEmpty s bracket behind p) := by
  refine (onward_sign bracket false false p).trans ?_
  cases behind with
  | none => exact .ite (.refl _) (onward_newline _)
  | some c => exact onward_comment_behind c _

theorem onward_closeFlow (bracket : List Char) (behind : Option Comment) (p : Pen) :
    Onward p (closeFlow bracket behind p) := by
  have hmark : Onward p (if bracket.isEmpty then p else p.mark bracket false false false) :=
    .ite (.refl p) (onward_sign bracket false false p)
  refine hmark.trans ?_
  cases behind with
  | none => exact .relabel rfl rfl id fun _ => rfl
  | some c => exact onward_comment_behind c _

theorem onward_breakLong (m : Measures) (indent : Option Int) (p : Pen) :
    Onward p (breakLong m indent p) :=
  .ite (onward_indentTo indent p) (.refl p)

theorem advances_beginLine {l : Layout} (h : l.notes.before.all Leading.isWhole = true)
    (indent : Option Int) (p : Pen) : Advances p (beginLine l indent p) := by
  unfold beginLine
  refine Advances.bind (advances_commentsBefore h p) fun q _ => .pure ?_
  exact onward_indentTo indent q

/-! ## Collections -/

/-- In front of a collection there are its anchor and its tag. -/
theorem onward_opened (a : Option (List Char)) (tag : Tag) (core : CoreTag) (p : Pen) :
    Onward p (writeTag tag core (writeAnchor '&' a p)) :=
  (onward_writeAnchor '&' a p).trans (onward_writeTag tag core _)

theorem onward_openBlock {notes : LayoutNotes} {forced : Bool}
    (hnotes : notes.before.all Leading.isWhole = true)
    (h : openSequence s notes false p = .ok (q, forced)) : Onward p q := by
  have hbehind := onward_commentBehind notes.behind p
  unfold openSequence at h
  simp only [Bool.false_eq_true, if_false] at h
  split at h
  · cases h
    exact hbehind
  · obtain ⟨r, hr, heq⟩ := exists_of_bind h
    cases heq
    exact hbehind.trans (advances_commentsBefore hnotes _ _ hr)

/-- A pen that went on behind comments as if they had not been there knows where it stands. -/
theorem passes_comments (hnotes : notes.all Leading.isWhole = true)
    (hr : commentsBefore notes p = .ok r) (hdone : q.done = r.done)
    (hcolumn : q.column = p.column) (hwhitespace : q.whitespace = r.whitespace) :
    Passes p q := by
  obtain ⟨⟨hsuffix, hsound⟩, -⟩ := advances_commentsBefore hnotes p r hr
  refine ⟨hdone ▸ hsuffix, fun hp => ⟨hcolumn ▸ hp.column_nonneg, fun hw hc => ?_⟩⟩
  rw [hdone]
  refine (hsound hp).atStart (hwhitespace ▸ hw) ?_
  rcases column_commentsBefore hr with rfl | hzero
  · rw [← hcolumn, hc]
  · exact hzero

/-- In flow style the next line break is left out behind comments in front of a sequence. -/
theorem passes_openFlow {notes : LayoutNotes} {forced : Bool}
    (hnotes : notes.before.all Leading.isWhole = true)
    (h : openSequence s notes true p = .ok (q, forced)) :
    Passes p q ∧ (notes.before = [] → Onward p q) := by
  unfold openSequence at h
  simp only [if_true] at h
  split at h
  · cases h
    refine ⟨?_, fun hnone => ?_⟩
    · split <;> exact .relabel rfl rfl id
    · rw [hnone]
      exact .refl p
  · obtain ⟨r, hr, heq⟩ := exists_of_bind h
    cases heq
    refine ⟨?_, fun hnone => ?_⟩
    · split <;> exact passes_comments hnotes hr rfl rfl rfl
    · rw [hnone] at hr ⊢
      cases hr
      exact .refl p

theorem passes_openSequence {notes : LayoutNotes} {inFlow forced : Bool}
    (hnotes : notes.before.all Leading.isWhole = true)
    (h : openSequence s notes inFlow p = .ok (q, forced)) :
    Passes p q ∧ (inFlow = false ∨ notes.before = [] → Onward p q) := by
  cases inFlow with
  | false =>
      have hlines := onward_openBlock hnotes h
      exact ⟨hlines.toPasses, fun _ => hlines⟩
  | true =>
      obtain ⟨hpasses, hlines⟩ := passes_openFlow hnotes h
      exact ⟨hpasses, fun hnone => hlines (hnone.resolve_left nofun)⟩

theorem onward_openMapping {notes : LayoutNotes} {inFlow forced : Bool}
    (hnotes : notes.before.all Leading.isWhole = true)
    (h : openMapping s notes inFlow p = .ok (q, forced)) : Onward p q := by
  have hbehind : Onward p (if inFlow then p else p.commentBehind notes.behind) :=
    .ite (.refl p) (onward_commentBehind _ _)
  unfold openMapping at h
  dsimp only at h
  split at h
  · cases h
    exact hbehind
  · obtain ⟨r, hr, heq⟩ := exists_of_bind h
    cases heq
    exact hbehind.trans (advances_commentsBefore hnotes _ _ hr)

/-! ## Columns -/

end Layout

namespace Pen

/-- Going to a column leads to it or beyond. -/
theorem le_column_indentTo (i : Int) (p : Pen) : i ≤ (p.indentTo (some i)).column := by
  obtain ⟨q, hq, -⟩ := indentTo_cases (some i) p
  rw [hq]
  split
  · next hlt =>
      simp only [Option.getD_some] at hlt
      simp only [write, List.length_replicate, Option.getD_some]
      omega
  · next hle => simpa using hle

end Pen

namespace Spot

/-- A spot right of the left margin. -/
def IsInner (s : Spot) : Prop :=
  ∃ i, s.indent = some i ∧ 0 < i

/-- A spot in a collection.  Keys and values stand right of the left margin. -/
def IsPlaced (s : Spot) : Prop :=
  ∃ i, s.indent = some i ∧ 0 ≤ i ∧ (s.isMember = true → 0 < i)

variable {flow isSequence indentless : Bool}

/-- What is in a part stands right of the left margin; a sequence may stay where a key or value
is. -/
theorem IsPlaced.inside (h : s.IsPlaced) (hm : 1 ≤ m.step)
    (hindentless : indentless = true → s.isMember = true) :
    (s.inside m flow isSequence indentless).IsInner := by
  obtain ⟨i, hi, hnonneg, hmember⟩ := h
  cases hless : indentless with
  | true => exact ⟨i, by simp [Spot.inside, hi], hmember (hindentless hless)⟩
  | false =>
      refine ⟨i + if s.inSequence then 2 * m.step else m.step, by simp [Spot.inside, hi], ?_⟩
      split <;> omega

theorem IsInner.item (h : s.IsInner) : s.item.IsPlaced :=
  let ⟨i, hi, hpos⟩ := h
  ⟨i, hi, Int.le_of_lt hpos, nofun⟩

theorem IsInner.member (h : s.IsInner) (simpleKey : Bool) : (s.member simpleKey).IsPlaced :=
  let ⟨i, hi, hpos⟩ := h
  ⟨i, hi, Int.le_of_lt hpos, fun _ => hpos⟩

/-- In a part in flow style the two innermost collections are sequences if the part is an item. -/
theorem inNestedSequence_inside (m : Measures) (s : Spot) (flow indentless : Bool) :
    (s.inside m flow true indentless).inNestedSequence = s.inSequence := by
  simp only [Spot.inside, inNestedSequence, inSequence]
  cases s.levels <;> rfl

end Spot

/-! ## Layouts -/

namespace Layout

open Pen

theorem before_areWhole {l : Layout} {inSequence : Bool} (h : l.isOrderly inSequence = true) :
    l.notes.before.all Leading.isWhole = true := by
  cases l <;> simp_all [isOrderly, notes, info?, LayoutNotes.areWhole]

/-- In a sequence in a sequence the next line break is not left out. -/
theorem onward_inSequence (b : Bool) (p : Pen) :
    Onward p (if b then { p with indention := true, noNewline := false } else p) :=
  .ite (.relabel rfl rfl id fun _ => rfl) (.refl p)

theorem advances_closing (hf : ∀ r, Advances r (f r)) (s : Spot) (bracket closing : List Char)
    (isEmpty : Bool) (behind : Option Comment) (p : Pen) :
    Advances p (if isEmpty then pure (closeEmpty s bracket behind p)
      else do let p ← f p; pure (closeFlow closing behind p)) := by
  split
  · exact .pure (onward_closeEmpty s bracket behind p)
  · exact .bind (hf p) fun q _ => .pure (onward_closeFlow closing behind q)

/-- Between brackets a sequence goes on from where the pen stood, if the next line break was not
left out in front of them, or is not within a sequence, or the closing bracket takes it back. -/
theorem advances_inBrackets (m : Measures) (s outer : Spot) (forced : Bool) {settled : Prop}
    {isEmpty : Bool} {behind : Option Comment} (hpasses : Passes p q)
    (hsettled : settled → Onward p q) (hf : ∀ r, Advances r (f r))
    (h : s.inSequence = true ∨ settled ∨ isEmpty = false ∧ behind = none) :
    let opened := openBracket m outer ['['] forced q
    let r := if s.inSequence then { opened with indention := true, noNewline := false }
      else opened
    Advances p (if isEmpty then pure (closeEmpty s [']'] behind r)
      else do let p ← f r; pure (closeFlow [']'] behind p)) := by
  intro opened r
  have hopen : Onward q r :=
    (onward_openBracket m outer _ forced q).trans (onward_inSequence _ _)
  have hclose := advances_closing hf s [']'] [']'] isEmpty behind r
  intro closed hclosed
  have hrest := hopen.trans (hclose closed hclosed)
  refine ⟨hpasses.trans hrest.toPasses, fun hp => ?_⟩
  rcases h with hsequence | hopened | ⟨hsome, rfl⟩
  · exact (hclose closed hclosed).settled (by simp [r, hsequence])
  · exact hrest.settled ((hsettled hopened).settled hp)
  · rw [hsome] at hclosed
    obtain ⟨last, -, heq⟩ := exists_of_bind hclosed
    cases heq
    rfl

/-- Writing a dash. -/
theorem onward_dash (m : Measures) (hm : 2 ≤ m.step) (p : Pen) :
    let q := p.mark (List.replicate m.step.toNat ' ' ++ ['-']) true false true
    Onward p (if 2 * m.step < m.step + 2 then { q with noNewline := true } else q) := by
  intro q
  rw [if_neg (by omega)]
  exact onward_sign _ true true p

theorem le_column_mark (sign : List Char) (apart whitespace indention : Bool) (p : Pen) :
    p.column ≤ (p.mark sign apart whitespace indention).column :=
  Int.le_add_of_nonneg_right (Int.natCast_nonneg _)

theorem pos_column_beginLine {l : Layout} (hs : s.IsInner) (h : beginLine l s.indent p = .ok q) :
    0 < q.column := by
  obtain ⟨i, hi, hpos⟩ := hs
  obtain ⟨r, -, heq⟩ := exists_of_bind h
  cases heq
  rw [hi]
  exact Int.lt_of_lt_of_le hpos (le_column_indentTo i r)

/-- A reference as a key stands right of the left margin, and so does the space behind it. -/
theorem onward_spaceBehind (m : Measures) (k : Layout) (hq : 0 < q.column) :
    write m anchors s k (if k.isSetItem then q.mark ['?'] true false true else q) = .ok r →
      Onward r (match k with
        | .reference _ false => r.put [' ']
        | _ => r) := by
  intro hr
  cases k with
  | reference number isSetItem =>
      cases isSetItem with
      | true => exact .refl r
      | false =>
          have hcolumn : 0 < r.column := by
            simp only [Layout.write, Layout.isSetItem, Bool.false_eq_true, if_false,
              Except.ok.injEq] at hr
            subst hr
            cases anchors.lookup number with
            | none => exact hq
            | some a =>
                exact Int.lt_of_lt_of_le hq (le_column_mark ('*' :: a) true false false q)
          refine
            ⟨⟨List.suffix_append _ _, fun hr => ⟨hr.column_nonneg, fun _ hzero => ?_⟩⟩, id⟩
          simp only [put] at hzero
          omega
  | scalar => exact .refl r
  | sequence => exact .refl r
  | mapping => exact .refl r

section

variable (m : Measures) (anchors : List (Nat × List Char))

mutual

/-- Writing a part goes on from the pen. -/
theorem advances_write (hm : 2 ≤ m.step) {s : Spot} (hs : s.IsPlaced) :
    (l : Layout) → l.isOrderly s.inSequence = true → (p : Pen) →
      Advances p (write m anchors s l p)
  | .reference id _, _, p => by
      simp only [write]
      exact .pure (onward_writeAnchor '*' _ p)
  | .scalar info text asked, _, p => by
      simp only [write]
      exact .pure (onward_writeScalar m anchors s info text asked p)
  | .sequence info inFlow items, hl, p => by
      simp only [isOrderly, LayoutNotes.areWhole, endsByBracket, Bool.and_eq_true,
        Bool.or_eq_true, Bool.not_eq_true', List.isEmpty_iff, Option.isNone_iff_eq_none] at hl
      obtain ⟨⟨⟨hbefore, hend⟩, hbracket⟩, hitems⟩ := hl
      unfold write
      refine .after (onward_opened (anchor? anchors info) info.tag .seq p) ?_
      generalize writeTag info.tag .seq (writeAnchor '&' (anchor? anchors info) p) = p
      refine .opening fun (q, forced) hq => ?_
      obtain ⟨hopen, honward⟩ := passes_openSequence hbefore hq
      dsimp only
      split
      · have hinner : (if forced then if forced then s.inside m true true false else s
            else s.inside m true true false) = s.inside m true true false := by
          cases forced <;> rfl
        have hplaced : (s.inside m true true false).IsInner := hs.inside (by omega) nofun
        rw [hinner, Spot.inNestedSequence_inside]
        refine advances_inBrackets m s _ forced hopen honward (fun r => ?_) ?_
        · exact advances_writeFlowItems hm
            (s := { s.inside m true true false with flow := true :: s.flow })
            hplaced rfl true items hitems r
        · rcases hbracket with (hstyle | hsequence) | hnone | ⟨hsome, hbehind⟩
          · exact Or.inr (Or.inl (Or.inl hstyle))
          · exact Or.inl hsequence
          · exact Or.inr (Or.inl (Or.inr hnone))
          · exact Or.inr (Or.inr ⟨hsome, by rw [hbehind, ite_self]⟩)
      · next hblock =>
          simp only [Bool.or_eq_true, not_or, Bool.not_eq_true] at hblock
          rw [Spot.inNestedSequence_inside]
          have hinner : (s.inside m false true (s.isMember && !p.indention)).IsInner :=
            hs.inside (by omega) (by simp +contextual)
          refine .after (honward (Or.inl hblock.1.2))
            (.after (onward_inSequence s.inSequence q) ?_)
          refine .bind (advances_writeItems hm hinner.item rfl items hitems _) fun r _ => ?_
          refine .bind (advances_commentsBefore hend r) fun r _ => .pure ?_
          exact .relabel rfl rfl id fun _ => rfl
  | .mapping info inFlow entries, hl, p => by
      simp only [isOrderly, LayoutNotes.areWhole, Bool.and_eq_true] at hl
      obtain ⟨⟨hbefore, hend⟩, hentries⟩ := hl
      unfold write
      refine .after (onward_opened (anchor? anchors info) info.tag .map p) ?_
      refine .opening fun (q, forced) hq => .after (onward_openMapping hbefore hq) ?_
      dsimp only
      split
      · have hinner : (if forced then if forced then s.inside m true false false else s
            else s.inside m true false false) = s.inside m true false false := by
          cases forced <;> rfl
        have hplaced : (s.inside m true false false).IsInner := hs.inside (by omega) nofun
        rw [hinner]
        refine .after ?_ (advances_closing (fun r => ?_) s _ _ _ _ _)
        · exact onward_openBracket m _ _ forced q
        · exact advances_writeFlowEntries hm
            (s := { s.inside m true false false with flow := false :: s.flow })
            hplaced rfl true entries hentries r
      · have hinner : (s.inside m false false false).IsInner := hs.inside (by omega) (by simp)
        refine .bind ?_ fun r _ => advances_commentsBefore hend r
        exact advances_writeEntries hm hinner rfl entries hentries q

theorem advances_writeFlowItems (hm : 2 ≤ m.step) {s : Spot} (hs : s.IsInner)
    (hsequence : s.inSequence = true) (first : Bool) : (items : List Layout) →
      areOrderly items = true → (p : Pen) →
      Advances p (writeFlowItems m anchors s first items p)
  | [], _, p => by
      simp only [writeFlowItems]
      exact .pure (.refl p)
  | l :: more, h, p => by
      simp only [areOrderly, Bool.and_eq_true] at h
      have hcomma : Onward p (if first then p else p.mark [','] false false false) :=
        .ite (.refl p) (onward_sign [','] false false p)
      unfold writeFlowItems
      refine .after (hcomma.trans (onward_breakLong m s.indent _)) (.bind ?_ fun q _ => ?_)
      · exact advances_write hm hs.item l (hsequence ▸ h.1) _
      · exact advances_writeFlowItems hm hs hsequence false more h.2 q

theorem advances_writeFlowEntries (hm : 2 ≤ m.step) {s : Spot} (hs : s.IsInner)
    (hmapping : s.inSequence = false) (first : Bool) : (entries : List (Layout × Layout)) →
      areOrderlyEntries entries = true →
      (p : Pen) → Advances p (writeFlowEntries m anchors s first entries p)
  | [], _, p => by
      simp only [writeFlowEntries]
      exact .pure (.refl p)
  | (k, v) :: more, h, p => by
      simp only [areOrderlyEntries, Bool.and_eq_true] at h
      have hcomma : Onward p (if first then p else p.mark [','] false false false) :=
        .ite (.refl p) (onward_sign [','] false false p)
      have hk (b : Bool) := advances_write hm (hs.member b) k (hmapping ▸ h.1.1)
      have hv := advances_write hm (hs.member false) v (hmapping ▸ h.1.2)
      have hmore := advances_writeFlowEntries hm hs hmapping false more h.2
      unfold writeFlowEntries
      dsimp only
      refine .after (hcomma.trans (onward_breakLong m s.indent _)) ?_
      generalize breakLong m s.indent (if first then p else p.mark [','] false false false) = p
      split
      · refine .bind (hk true _) fun q _ => .after (onward_sign [':'] false false q) ?_
        exact .bind (hv _) fun r _ => hmore r
      · refine .after (onward_sign ['?'] true false _) (.bind (hk false _) fun q _ => ?_)
        refine .after ((onward_breakLong m s.indent q).trans (onward_sign [':'] true false _)) ?_
        exact .bind (hv _) fun r _ => hmore r

/-- Writing the items of a block sequence, a dash in front of each of them. -/
theorem advances_writeItems (hm : 2 ≤ m.step) {s : Spot} (hs : s.item.IsPlaced)
    (hsequence : s.inSequence = true) : (items : List Layout) → areOrderly items = true →
      (p : Pen) → Advances p (writeItems m anchors s items p)
  | [], _, p => by
      simp only [writeItems]
      exact .pure (.refl p)
  | l :: more, h, p => by
      simp only [areOrderly, Bool.and_eq_true] at h
      unfold writeItems
      refine .bind (advances_beginLine (before_areWhole h.1) s.indent p) fun q _ => ?_
      refine .after (onward_dash m hm q) (.bind ?_ fun r _ => ?_)
      · exact advances_write hm (s := { s.item with announced := true }) hs l (hsequence ▸ h.1) _
      · exact advances_writeItems hm hs hsequence more h.2 r

theorem advances_writeEntries (hm : 2 ≤ m.step) {s : Spot} (hs : s.IsInner)
    (hmapping : s.inSequence = false) : (entries : List (Layout × Layout)) →
      areOrderlyEntries entries = true → (p : Pen) →
        Advances p (writeEntries m anchors s entries p)
  | [], _, p => by
      simp only [writeEntries]
      exact .pure (.refl p)
  | (k, v) :: more, h, p => by
      simp only [areOrderlyEntries, Bool.and_eq_true] at h
      have hk (b : Bool) := advances_write hm (s := { s.member b with announced := true })
        (hs.member b) k (hmapping ▸ h.1.1)
      have hv := advances_write hm (hs.member false) v (hmapping ▸ h.1.2)
      have hmore := advances_writeEntries hm hs hmapping more h.2
      unfold writeEntries
      refine .bind (advances_beginLine (before_areWhole h.1.1) s.indent p) fun q hq => ?_
      dsimp only
      split
      · have hsign : Onward q (if k.isSetItem then q.mark ['?'] true false true else q) :=
          .ite (onward_sign ['?'] true true q) (.refl q)
        have hcolon (p : Pen) :
          Onward p (if v.isSetItem then p else p.mark [':'] false false false) :=
          .ite (.refl p) (onward_sign [':'] false false p)
        refine .after hsign (.bind (hk true _) fun r hr => ?_)
        refine .after (onward_spaceBehind m k (pos_column_beginLine hs hq) hr) ?_
        exact .after (hcolon _) (.bind (hv _) fun r _ => hmore r)
      · refine .after (onward_sign ['?'] true true q) (.bind (hk false _) fun r _ => ?_)
        refine .after ((onward_indentTo s.indent r).trans (onward_sign [':'] true true _)) ?_
        exact .bind (hv _) fun r _ => hmore r

end

end

end Layout

end Yaml
end YamlTidy
