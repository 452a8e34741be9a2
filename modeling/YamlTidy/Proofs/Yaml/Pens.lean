import YamlTidy.Yaml.Canonical

/-!
# Where a pen stands

A pen only adds to what it has written.  It knows when it stands at the beginning of a line: its
column is then zero and a mark may follow without a space (`Pen.Sound`).  Nothing that writes a
scalar, a mark or a comment of whole lines makes it lose that, or leaves out a line break that was
not left out before (`Pen.Onward`), with the exception of a sequence in flow style that has
comments in front.
-/

namespace YamlTidy
namespace Yaml

open Analysis (isTextBreak)

variable {p q r : Pen} {s t : List Char} {c : Char} {m : Measures} {indent : Option Int}

/-- A text, its last character first, that is empty or ends in a line break. -/
def LineStart (done : List Char) : Prop :=
  ∀ c ∈ done.head?, isTextBreak c = true

theorem lineStart_cons (hc : isTextBreak c = true) (done : List Char) :
    LineStart (c :: done) := by
  rintro d ⟨⟩
  exact hc

namespace Pen

/-! ## Steps of a pen -/

/-- A pen that knows when it stands at the beginning of a line. -/
structure Sound (p : Pen) : Prop where
  column_nonneg : 0 ≤ p.column
  atStart : p.whitespace = true → p.column = 0 → LineStart p.done

theorem sound_fresh : Sound {} :=
  ⟨Int.le_refl 0, fun _ _ => nofun⟩

/-- What has been written stays, and a pen that knows where it stands still does. -/
structure Passes (p q : Pen) : Prop where
  done : p.done <:+ q.done
  sound : p.Sound → q.Sound

/-- The next line break is not left out either, unless it was before. -/
structure Onward (p q : Pen) : Prop extends Passes p q where
  settled : p.noNewline = false → q.noNewline = false

theorem Passes.trans (h : Passes p q) (h' : Passes q r) : Passes p r :=
  ⟨h.done.trans h'.done, fun hp => h'.sound (h.sound hp)⟩

theorem Onward.trans (h : Onward p q) (h' : Onward q r) : Onward p r :=
  ⟨h.toPasses.trans h'.toPasses, fun hp => h'.settled (h.settled hp)⟩

/-- Nothing is written, and no mark may follow that could not before. -/
theorem Passes.relabel (hdone : q.done = p.done) (hcolumn : q.column = p.column)
    (hwhitespace : q.whitespace = true → p.whitespace = true) : Passes p q where
  done := hdone ▸ List.suffix_refl p.done
  sound hp := ⟨hcolumn ▸ hp.column_nonneg,
    fun hw hc => hdone ▸ hp.atStart (hwhitespace hw) (hcolumn ▸ hc)⟩

theorem Onward.relabel (hdone : q.done = p.done) (hcolumn : q.column = p.column)
    (hwhitespace : q.whitespace = true → p.whitespace = true)
    (hsettled : p.noNewline = false → q.noNewline = false) : Onward p q :=
  ⟨.relabel hdone hcolumn hwhitespace, hsettled⟩

theorem Onward.refl (p : Pen) : Onward p p :=
  .relabel rfl rfl id id

theorem Onward.ite {b : Prop} [Decidable b] (hq : Onward p q) (hr : Onward p r) :
    Onward p (if b then q else r) := by
  split
  · exact hq
  · exact hr

theorem onward_write (s : List Char) (p : Pen) : Onward p (p.write s) where
  done := List.suffix_append _ _
  sound hp := by
    have hcolumn := hp.column_nonneg
    refine ⟨by simp only [write]; omega, fun hw hc => ?_⟩
    simp only [write] at hw hc ⊢
    obtain rfl : s = [] := List.eq_nil_of_length_eq_zero (by omega)
    exact hp.atStart hw (by simpa using hc)
  settled := id

/-- A mark leaves a pen that knows where it stands, unless an empty one stands for a space. -/
theorem onward_mark {apart whitespace : Bool} (h : apart = true ∨ whitespace = false)
    (s : List Char) (indention : Bool) (p : Pen) :
    Onward p (p.mark s apart whitespace indention) where
  done := List.suffix_append _ _
  sound hp := by
    have hcolumn := hp.column_nonneg
    unfold mark
    generalize hs : (if (p.whitespace || !apart) = true then s else ' ' :: s) = written
    refine ⟨by simp only [write]; omega, fun hw hc => ?_⟩
    simp only [write] at hw hc ⊢
    obtain rfl : written = [] := List.eq_nil_of_length_eq_zero (by omega)
    split at hs
    · next hfree =>
        rcases h with happart | hwhite
        · rw [happart] at hfree
          exact hp.atStart (by simpa using hfree) (by simpa using hc)
        · rw [hwhite] at hw
          cases hw
    · cases hs
  settled := id

/-- A mark behind which a space is needed. -/
theorem onward_sign (s : List Char) (apart indention : Bool) (p : Pen) :
    Onward p (p.mark s apart false indention) :=
  onward_mark (Or.inr rfl) s indention p

theorem onward_breakWith (hc : isTextBreak c = true) (p : Pen) : Onward p (p.breakWith c) where
  done := List.suffix_cons c p.done
  sound _ := ⟨Int.le_refl 0, fun _ _ => lineStart_cons hc p.done⟩
  settled := id

theorem onward_newline (p : Pen) : Onward p p.newline :=
  onward_breakWith rfl p

/-- Going to a column begins a new line, or leaves one break out, or goes on behind indentation
that is short enough; then spaces fill up to the column. -/
theorem indentTo_cases (indent : Option Int) (p : Pen) :
    ∃ q, p.indentTo indent = (if q.column < indent.getD 0 then
          { q.write (List.replicate (indent.getD 0 - q.column).toNat ' ') with whitespace :=
            true }
        else q) ∧
      (q = p ∧ p.indention = true ∧ p.column ≤ indent.getD 0 ∧
          (p.column = indent.getD 0 → p.whitespace = true) ∨
        p.noNewline = true ∧ q = { p with noNewline := false } ∨
        p.noNewline = false ∧ q = p.newline) := by
  refine ⟨_, rfl, ?_⟩
  split
  · split
    · next hleft => exact Or.inr (Or.inl ⟨hleft, rfl⟩)
    · next hbreak => exact Or.inr (Or.inr ⟨by simpa using hbreak, rfl⟩)
  · next hstays =>
      simp only [Bool.or_eq_true, Bool.not_eq_true', decide_eq_true_eq, Bool.and_eq_true,
        beq_iff_eq, not_or, not_and, Bool.not_eq_false, Int.not_lt] at hstays
      exact Or.inl ⟨rfl, hstays.1.1, hstays.1.2, hstays.2⟩

theorem onward_indentTo (indent : Option Int) (p : Pen) : Onward p (p.indentTo indent) := by
  obtain ⟨q, hq, hcases⟩ := indentTo_cases indent p
  have hline : Onward p q := by
    rcases hcases with ⟨rfl, -⟩ | ⟨-, rfl⟩ | ⟨-, rfl⟩
    · exact .refl q
    · exact .relabel rfl rfl id fun _ => rfl
    · exact onward_newline p
  rw [hq]
  refine hline.trans ?_
  split
  · refine ⟨⟨List.suffix_append _ _, fun hsound => ?_⟩, id⟩
    have hcolumn := hsound.column_nonneg
    refine ⟨?_, fun _ hc => ?_⟩
    · simp only [write, List.length_replicate]
      omega
    · simp only [write, List.length_replicate] at hc
      omega
  · exact .refl q

/-- A line that is broken within a scalar goes on as text. -/
theorem onward_wrap (indent : Option Int) (p : Pen) :
    Onward p { p.indentTo indent with whitespace := false, indention := false } :=
  (onward_indentTo indent p).trans (.relabel rfl rfl nofun id)

theorem onward_breaks (hs : ∀ c ∈ s, isTextBreak c = true) (p : Pen) :
    Onward p (p.breaks s) := by
  induction s generalizing p with
  | nil => exact .refl p
  | cons c rest ih =>
      obtain ⟨hc, hrest⟩ := List.forall_mem_cons.mp hs
      exact (onward_breakWith hc p).trans (ih hrest _)

end Pen

/-! ## Scalars -/

/-- A stretch of line breaks holds nothing else, and no stretch is empty. -/
theorem stretches_pure {kind : Stretch} (h : (kind, s) ∈ stretches t) :
    s ≠ [] ∧ ∀ c ∈ s, Stretch.of c = kind := by
  induction t generalizing kind s with
  | nil => cases h
  | cons c rest ih =>
      unfold stretches at h
      dsimp only at h
      split at h
      · next k first more hrest =>
          have hmem : (k, first) ∈ stretches rest := by
            rw [hrest]
            exact List.mem_cons_self
          have hfirst := ih hmem
          split at h
          · next hk =>
              rcases List.mem_cons.mp h with heq | hmore
              · cases heq
                exact ⟨List.cons_ne_nil _ _,
                  List.forall_mem_cons.mpr ⟨rfl, hk ▸ hfirst.2⟩⟩
              · exact ih (by rw [hrest]; exact List.mem_cons_of_mem _ hmore)
          · rcases List.mem_cons.mp h with heq | hmore
            · cases heq
              exact ⟨List.cons_ne_nil _ _, by simp⟩
            · exact ih (by rw [hrest]; exact hmore)
      · cases List.mem_singleton.mp h
        exact ⟨List.cons_ne_nil _ _, by simp⟩

theorem isTextBreak_of_stretch (h : Stretch.of c = .lineBreak) : isTextBreak c = true := by
  unfold Stretch.of at h
  split at h
  · cases h
  · split at h
    · assumption
    · cases h

theorem breaks_of_stretches (h : (.lineBreak, s) ∈ stretches t) :
    ∀ c ∈ s, isTextBreak c = true :=
  fun c hc => isTextBreak_of_stretch ((stretches_pure h).2 c hc)

namespace Pen

theorem onward_plainStretches (m : Measures) (indent : Option Int) (split : Bool)
    (all : List (Stretch × List Char)) (p : Pen) :
    Onward p (plainStretches m indent split all p) := by
  induction all generalizing p with
  | nil => exact .refl p
  | cons stretch more ih =>
      obtain ⟨kind, s⟩ := stretch
      unfold plainStretches
      refine Onward.trans ?_ (ih _)
      split
      · split
        · exact onward_wrap indent p
        · exact onward_write s p
      · exact (Onward.ite (onward_indentTo indent p) (.refl p)).trans (onward_write s _)

theorem onward_plain (m : Measures) (indent : Option Int) (root split : Bool) (text : List Char)
    (p : Pen) : Onward p (p.plain m indent root split text) := by
  have hopen : Onward p (if root then { p with openEnded := true } else p) :=
    .ite (.relabel rfl rfl id id) (.refl p)
  unfold plain
  refine hopen.trans ?_
  generalize (if root then { p with openEnded := true } else p) = p
  dsimp only
  split
  · exact .refl p
  · refine Onward.trans ?_ (onward_plainStretches m indent split _ _)
    split
    · exact .relabel rfl rfl nofun id
    · exact (onward_write _ p).trans (.relabel rfl rfl nofun id)

theorem onward_singleStretches (m : Measures) (indent : Option Int) (split first : Bool)
    {all : List (Stretch × List Char)}
    (hbreaks : ∀ s, (.lineBreak, s) ∈ all → ∀ c ∈ s, isTextBreak c = true) (p : Pen) :
    Onward p (singleStretches m indent split first all p) := by
  induction all generalizing p first with
  | nil => exact .refl p
  | cons stretch more ih =>
      obtain ⟨kind, s⟩ := stretch
      unfold singleStretches
      refine Onward.trans ?_ (ih false (fun s hs => hbreaks s (List.mem_cons_of_mem _ hs)) _)
      cases kind with
      | space =>
          exact .ite (onward_indentTo indent p) (onward_write s p)
      | lineBreak =>
          have hs := hbreaks s List.mem_cons_self
          exact ((Onward.ite (onward_newline p) (.refl p)).trans (onward_breaks hs _)).trans
            (onward_indentTo indent _)
      | word => exact onward_write (doubled s) p

theorem onward_singleQuoted (m : Measures) (indent : Option Int) (split : Bool)
    (text : List Char) (p : Pen) : Onward p (p.singleQuoted m indent split text) := by
  have hopen := onward_sign ['\''] true false p
  have hstretches (p : Pen) :
    Onward p (singleStretches m indent split true (stretches text) p) :=
    onward_singleStretches m indent split true (fun _ => breaks_of_stretches) p
  exact (hopen.trans (hstretches _)).trans (onward_sign _ false false _)

theorem onward_doubleFrom (m : Measures) (indent : Option Int) (split : Bool)
    (text : Array Char) (n start place : Nat) (p : Pen) :
    Onward p (doubleFrom m indent split text n start place p) := by
  induction n generalizing start place p with
  | zero => exact .refl p
  | succ n ih =>
      unfold doubleFrom
      dsimp only
      split
      · exact onward_write _ p
      · next c hc =>
          -- What is held back is written in front of an escape, and in front of a break.
          generalize hfirst : (if isEscaped c = true then _ else (start, p)) = first
          have hescaped : Onward p first.2 := by
            rw [← hfirst]
            split
            · exact (onward_write _ p).trans (onward_write _ _)
            · exact .refl p
          refine hescaped.trans (Onward.trans ?_ (ih _ _ _))
          split
          · split
            · exact ((onward_write _ _).trans (onward_wrap indent _)).trans (onward_write _ _)
            · exact (onward_write _ _).trans (onward_wrap indent _)
          · exact .refl _

theorem onward_doubleQuoted (m : Measures) (indent : Option Int) (split : Bool)
    (text : List Char) (p : Pen) : Onward p (p.doubleQuoted m indent split text) := by
  exact ((onward_sign _ true false p).trans (onward_doubleFrom m indent split _ _ 0 0 _)).trans
    (onward_sign _ false false _)

theorem onward_blockHeader (style : Char) (hints : BlockHints) (comment : List Char) (p : Pen) :
    Onward p (p.blockHeader style hints comment) := by
  have hsign := onward_sign (style :: hints.indicator ++ comment) true false p
  refine hsign.trans (Onward.trans ?_ (onward_newline _))
  exact .ite (.relabel rfl rfl id id) (.refl _)

/-- Lines and breaks that end at the beginning of a line: if breaks come last there are some. -/
structure Lined (all : List (Bool × List Char)) : Prop where
  breaks : ∀ s, (true, s) ∈ all → ∀ c ∈ s, isTextBreak c = true
  last : ∀ s, all.getLast? = some (true, s) → s ≠ []

theorem sound_breaks (hne : s ≠ []) (hs : ∀ c ∈ s, isTextBreak c = true) (p : Pen) :
    (p.breaks s).Sound := by
  induction s generalizing p with
  | nil => exact absurd rfl hne
  | cons c rest ih =>
      obtain ⟨hc, hrest⟩ := List.forall_mem_cons.mp hs
      cases rest with
      | nil => exact ⟨Int.le_refl 0, fun _ _ => lineStart_cons hc p.done⟩
      | cons d rest => exact ih (List.cons_ne_nil d rest) hrest _

theorem sound_newline (p : Pen) : p.newline.Sound :=
  ⟨Int.le_refl 0, fun _ _ => lineStart_cons rfl p.done⟩

/-- A pen in the middle of a line that takes no columns. -/
structure Drifts (p q : Pen) : Prop where
  done : p.done <:+ q.done
  column_nonneg : 0 ≤ p.column → 0 ≤ q.column
  settled : p.noNewline = false → q.noNewline = false

theorem Drifts.trans (h : Drifts p q) (h' : Drifts q r) : Drifts p r :=
  ⟨h.done.trans h'.done, fun hp => h'.column_nonneg (h.column_nonneg hp),
    fun hp => h'.settled (h.settled hp)⟩

theorem drifts_put (s : List Char) (p : Pen) : Drifts p (p.put s) :=
  ⟨List.suffix_append _ _, id, id⟩

theorem drifts_breaks (s : List Char) (p : Pen) : Drifts p (p.breaks s) := by
  induction s generalizing p with
  | nil => exact ⟨List.suffix_refl _, id, id⟩
  | cons c rest ih =>
      have hc : Drifts p (p.breakWith c) :=
        ⟨List.suffix_cons c p.done, fun _ => Int.le_refl 0, id⟩
      exact hc.trans (ih _)

theorem drifts_indentTo (indent : Option Int) (p : Pen) : Drifts p (p.indentTo indent) where
  done := (onward_indentTo indent p).done
  settled := (onward_indentTo indent p).settled
  column_nonneg hp := by
    obtain ⟨q, hq, hcases⟩ := indentTo_cases indent p
    have hcolumn : 0 ≤ q.column := by
      rcases hcases with ⟨rfl, -⟩ | ⟨-, rfl⟩ | ⟨-, rfl⟩
      · exact hp
      · exact hp
      · exact Int.le_refl 0
    rw [hq]
    split
    · simp only [write]
      omega
    · exact hcolumn

/-- The text of a literal scalar takes no columns, but its last line is ended. -/
theorem drifts_literalStretches (indent : Option Int) (margin : Option Nat)
    {all : List (Bool × List Char)} (hne : all ≠ []) (h : Lined all) (p : Pen) :
    Drifts p (literalStretches indent margin all p) ∧
      (literalStretches indent margin all p).Sound := by
  induction all generalizing p with
  | nil => exact absurd rfl hne
  | cons stretch more ih =>
      obtain ⟨isBreak, s⟩ := stretch
      unfold literalStretches
      by_cases hmore : more = []
      · subst hmore
        cases isBreak with
        | true =>
            have hs := h.breaks s List.mem_cons_self
            exact ⟨drifts_breaks s p, sound_breaks (h.last s rfl) hs p⟩
        | false =>
            exact ⟨(drifts_put s p).trans ⟨List.suffix_cons _ _, fun _ => Int.le_refl 0, id⟩,
              sound_newline _⟩
      · have hempty : more.isEmpty = false := by simpa using hmore
        have hrest : Lined more := by
          refine ⟨fun s hs => h.breaks s (List.mem_cons_of_mem _ hs), fun s hs => h.last s ?_⟩
          rwa [List.getLast?_cons_of_ne_nil hmore]
        simp only [hempty, Bool.false_eq_true, if_false]
        refine ⟨Drifts.trans ?_ (ih hmore hrest _).1, (ih hmore hrest _).2⟩
        split
        · refine (drifts_breaks s p).trans ?_
          split
          · exact drifts_put _ _
          · exact drifts_indentTo indent _
        · exact drifts_put s p

theorem onward_literalStretches (indent : Option Int) (margin : Option Nat)
    {all : List (Bool × List Char)} (h : Lined all) (p : Pen) :
    Onward p (literalStretches indent margin all p) := by
  by_cases hne : all = []
  · rw [hne]
    exact .refl p
  · obtain ⟨hdrifts, hsound⟩ := drifts_literalStretches indent margin hne h p
    exact ⟨⟨hdrifts.done, fun _ => hsound⟩, hdrifts.settled⟩

/-- The breaks among the lines of a text are those among its stretches. -/
theorem mem_joinedStretches {all : List (Stretch × List Char)}
    (h : (true, s) ∈ all.foldr (fun (kind, s) more =>
      if kind = .lineBreak then (true, s) :: more
      else
        match more with
        | (false, t) :: more => (false, s ++ t) :: more
        | more => (false, s) :: more) []) : (.lineBreak, s) ∈ all := by
  induction all with
  | nil => cases h
  | cons stretch rest ih =>
      obtain ⟨kind, t⟩ := stretch
      rw [List.foldr_cons] at h
      dsimp only at h
      split at h
      · next hkind =>
          rcases List.mem_cons.mp h with heq | h
          · cases heq
            exact hkind ▸ List.mem_cons_self
          · exact List.mem_cons_of_mem _ (ih h)
      · split at h
        · next front more heq =>
            rcases List.mem_cons.mp h with hfalse | h
            · cases hfalse
            · exact List.mem_cons_of_mem _ (ih (by rw [heq]; exact List.mem_cons_of_mem _ h))
        · rcases List.mem_cons.mp h with hfalse | h
          · cases hfalse
          · exact List.mem_cons_of_mem _ (ih h)

theorem lined_lineStretches (text : List Char) : Lined (lineStretches text) := by
  unfold lineStretches
  dsimp only
  generalize hjoined : (stretches text).foldr _ [] = joined
  have hmem (s : List Char) (hs : (true, s) ∈ joined) : (.lineBreak, s) ∈ stretches text := by
    rw [← hjoined] at hs
    exact mem_joinedStretches hs
  have hlined : Lined joined :=
    ⟨fun s hs => breaks_of_stretches (hmem s hs),
      fun s hs => (stretches_pure (hmem s (List.mem_of_getLast? hs))).1⟩
  split
  · next s more =>
      refine ⟨fun t ht => ?_, fun t ht => hlined.last t (by simpa using ht)⟩
      rcases List.mem_cons.mp ht with heq | ht
      · cases heq
        nofun
      · exact hlined.breaks t ht
  · exact hlined

theorem onward_literal (indent : Option Int) (root : Bool) (comment text : List Char) (p : Pen) :
    Onward p (p.literal indent root comment text) :=
  (onward_blockHeader _ _ _ p).trans (onward_literalStretches _ _ (lined_lineStretches text) _)

theorem onward_foldedWord (indent : Option Int) (s : List Char) (p : Pen) :
    Onward p (foldedWord indent s p) := by
  have hgo (held : List Char) (p : Pen) : Onward p (foldedWord.go indent s held p) := by
    induction s generalizing held p with
    | nil => exact onward_write _ p
    | cons c rest ih =>
        unfold foldedWord.go
        split
        · exact (((onward_write _ p).trans (onward_newline _)).trans
            (onward_indentTo indent _)).trans
            (ih [] _)
        · exact ih _ p
  exact hgo [] p

theorem onward_foldedStretches (m : Measures) (indent : Option Int) (leading : Bool)
    {all : List (Stretch × List Char)}
    (hbreaks : ∀ s, (.lineBreak, s) ∈ all → ∀ c ∈ s, isTextBreak c = true) (p : Pen) :
    Onward p (foldedStretches m indent leading all p) := by
  induction all generalizing p leading with
  | nil => exact .refl p
  | cons stretch more ih =>
      obtain ⟨kind, s⟩ := stretch
      have hmore (leading : Bool) (p : Pen) :=
        ih leading (fun s hs => hbreaks s (List.mem_cons_of_mem _ hs)) p
      unfold foldedStretches
      cases kind with
      | space =>
          exact (Onward.ite (onward_indentTo indent p) (onward_write s p)).trans (hmore _ _)
      | lineBreak =>
          have hs := hbreaks s List.mem_cons_self
          refine Onward.trans ?_ (hmore _ _)
          refine Onward.trans ?_ (.ite (.refl _) (onward_indentTo indent _))
          exact (Onward.ite (onward_newline p) (.refl p)).trans (onward_breaks hs _)
      | word =>
          exact (onward_foldedWord indent s p).trans
            ((Onward.ite (onward_newline _) (.refl _)).trans (hmore _ _))

theorem onward_folded (m : Measures) (indent : Option Int) (root : Bool)
    (comment text : List Char) (p : Pen) : Onward p (p.folded m indent root comment text) := by
  refine (onward_blockHeader _ _ _ p).trans
    (onward_foldedStretches m indent true (fun s hs => ?_) _)
  have hbreaks (hs : (.lineBreak, s) ∈ stretches (joinFolds text)) := breaks_of_stretches hs
  split at hs
  · exact hbreaks hs
  · cases hs
  · rcases List.mem_cons.mp hs with heq | hs
    · cases heq
      nofun
    · exact hbreaks hs

end Pen
end Yaml
end YamlTidy
