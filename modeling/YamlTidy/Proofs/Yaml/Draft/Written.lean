import YamlTidy.Proofs.Yaml.Block.Written
import YamlTidy.Proofs.Yaml.Draft.Nodes
import YamlTidy.Proofs.Yaml.Noted.Layouts
import YamlTidy.Proofs.Yaml.Pens

/-!
# What a pen tells

A pen *tells* some comment rows if they are those of what it has written and the row in which it
stands is none of them (`Pen.Tells`).  Marks, leaves and new lines leave that as it is, as long as
no leaf is broken.  Comments go to rows of their own and are told there, so that in the end the
shown comments of a noted tree have been told in order (`Layout.exists_write_noted`, by induction
on the tree).
-/

namespace YamlTidy
namespace Yaml

open Text

/-- A text that begins no comment and ends no line. -/
structure Silent (s : List Char) : Prop where
  row : commentRow? s = none
  lineEnd : ∀ c ∈ s, isLineEnd c = false

theorem Silent.lineFeed_notMem {s : List Char} (hs : Silent s) : '\n' ∉ s := fun h =>
  absurd (hs.lineEnd '\n' h) (by decide)

theorem Silent.append {s t : List Char} (hs : Silent s) (ht : Silent t) : Silent (s ++ t) where
  row := commentRow?_append hs.row ht.row
  lineEnd := List.forall_mem_append.mpr ⟨hs.lineEnd, ht.lineEnd⟩

theorem silent_replicate (n : Nat) {c : Char} (hc : c ≠ '#') (hend : isLineEnd c = false) :
    Silent (List.replicate n c) where
  row := commentRow?_of_notMem (by simp [Ne.symm hc])
  lineEnd _ hd := List.eq_of_mem_replicate hd ▸ hend

theorem silent_spaces (n : Nat) : Silent (List.replicate n ' ') :=
  silent_replicate n (by decide) (by decide)

theorem silent_singleton {c : Char} (hc : c ≠ '#') (hend : isLineEnd c = false) : Silent [c] :=
  silent_replicate 1 hc hend

theorem isLineEnd_of_isRemarkChar {c : Char} (hc : isRemarkChar c = true) :
    isLineEnd c = false := by
  simp only [isRemarkChar, Bool.and_eq_true, Bool.not_eq_true', isBreak, Bool.or_eq_false_iff,
    beq_eq_false_iff_ne] at hc
  obtain ⟨hacceptable, ⟨⟨⟨hfeed, hreturn⟩, hnext⟩, hline⟩, hparagraph⟩ := hc
  have hne : ∀ d : Char, c ≠ d → c.toNat ≠ d.toNat :=
    fun d h he => h (Char.ext (UInt32.toNat_inj.mp he))
  have h10 := hne '\n' hfeed
  have h13 := hne '\r' hreturn
  have h85 := hne '\x85' hnext
  have h2028 := hne '\u2028' hline
  have h2029 := hne '\u2029' hparagraph
  simp only [acceptable, Bool.or_eq_true, Bool.and_eq_true, beq_iff_eq,
    decide_eq_true_eq] at hacceptable
  change c.toNat ≠ 10 at h10
  change c.toNat ≠ 13 at h13
  change c.toNat ≠ 0x85 at h85
  change c.toNat ≠ 0x2028 at h2028
  change c.toNat ≠ 0x2029 at h2029
  simp only [isLineEnd, Bool.or_eq_false_iff, Bool.and_eq_false_iff, decide_eq_false_iff_not,
    beq_eq_false_iff_ne]
  omega

theorem isLineEnd_of_inkOrSpace {c : Char} (hc : isInk c = true ∨ c = ' ') :
    isLineEnd c = false := by
  rcases hc with hink | rfl
  · refine isLineEnd_of_isRemarkChar ?_
    simp (disch := decide) [isRemarkChar, acceptable_of_isInk hink, isBreak, ne_of_class hink]
  · decide

theorem silent_phrase (p : Phrase) : Silent p.chars where
  row := Draft.commentRow?_phrase p
  lineEnd c hc := isLineEnd_of_inkOrSpace (mem_of_isPhrase p.fits c hc)

theorem silent_leaf (x : Leaf) : Silent x.chars where
  row := Draft.commentRow?_leaf x
  lineEnd c hc := isLineEnd_of_inkOrSpace (x.inkOrSpace c hc)

/-- Every line end in a text is a line feed. -/
def Fed (s : List Char) : Prop :=
  ∀ c ∈ s, isLineEnd c = true → c = '\n'

theorem Silent.fed {s : List Char} (hs : Silent s) : Fed s := fun c hc hend => by
  rw [hs.lineEnd c hc] at hend
  cases hend

theorem Fed.append {s t : List Char} (hs : Fed s) (ht : Fed t) : Fed (s ++ t) :=
  List.forall_mem_append.mpr ⟨hs, ht⟩

theorem fed_feeds (n : Nat) : Fed (List.replicate n '\n') :=
  fun _ hc _ => List.eq_of_mem_replicate hc

theorem Remark.fed_text (r : Remark) : Fed r.text := by
  have hsign : Fed ['#'] := fun c hc hend => by
    rw [List.mem_singleton.mp hc] at hend
    cases hend
  have hchars : Fed r.chars := fun c hc hend => by
    rw [isLineEnd_of_isRemarkChar (r.remarkChars c hc)] at hend
    cases hend
  have hall := (silent_spaces r.column).fed.append
    (hsign.append (hchars.append (fed_feeds (r.blanks + 1))))
  simpa [text, body, List.replicate_succ] using hall

theorem Remark.fed_texts (rs : List Remark) : Fed (texts rs) := by
  intro c hc
  obtain ⟨r, -, hr⟩ := List.mem_flatMap.mp hc
  exact r.fed_text c hr

/-! ## Pens -/

/-- The comment rows of what a pen has written are the given ones, and the row in which it stands is
none of them. -/
structure Pen.Tells (p : Pen) (rs : List (List Char)) : Prop where
  text : Text.Tells p.done.reverse rs
  start : p.column = 0 → AtRowStart p.done.reverse
  column_nonneg : 0 ≤ p.column
  fed : Fed p.done.reverse

namespace Pen

variable {p q : Pen} {rs : List (List Char)} {s : List Char}

theorem tells_fresh : ({} : Pen).Tells [] :=
  ⟨.nil, fun _ => .inl rfl, Int.le_refl 0, fun _ hc => absurd hc List.not_mem_nil⟩

namespace Tells

/-- Only what is written and the column matter. -/
theorem relabel (h : p.Tells rs) (hdone : q.done = p.done) (hcolumn : q.column = p.column) :
    q.Tells rs where
  text := hdone ▸ h.text
  start hc := hdone ▸ h.start (hcolumn ▸ hc)
  column_nonneg := hcolumn ▸ h.column_nonneg
  fed := hdone ▸ h.fed

theorem write (h : p.Tells rs) (hs : Silent s) : (p.write s).Tells rs := by
  have hdone : (p.write s).done.reverse = p.done.reverse ++ s := by simp [Pen.write]
  have hcolumn : (p.write s).column = p.column + s.length := rfl
  have hnonneg := h.column_nonneg
  refine ⟨?_, fun hc => ?_, by omega, ?_⟩
  · rw [hdone]
    exact h.text.append_inline hs.lineFeed_notMem hs.row
  · obtain rfl : s = [] := List.eq_nil_of_length_eq_zero (by omega)
    exact h.start (by simpa [Pen.write] using hc)
  · rw [hdone]
    exact h.fed.append hs.fed

theorem newline (h : p.Tells rs) : p.newline.Tells rs := by
  have hdone : p.newline.done.reverse = p.done.reverse ++ ['\n'] := by
    simp [Pen.newline, Pen.breakWith]
  refine ⟨?_, fun _ => .inr ⟨_, hdone⟩, Int.le_refl 0, ?_⟩
  · rw [hdone]
    exact h.text.append (by decide)
  · rw [hdone]
    exact h.fed.append (fed_feeds 1)

theorem indentTo (h : p.Tells rs) (indent : Option Int) : (p.indentTo indent).Tells rs := by
  obtain ⟨q, hq, hcases⟩ := indentTo_cases indent p
  have hline : q.Tells rs := by
    rcases hcases with ⟨rfl, -⟩ | ⟨-, rfl⟩ | ⟨-, rfl⟩
    · exact h
    · exact h.relabel rfl rfl
    · exact h.newline
  rw [hq]
  split
  · exact (hline.write (silent_spaces _)).relabel rfl rfl
  · exact hline

theorem mark (h : p.Tells rs) (hs : Silent s) (apart whitespace indention : Bool) :
    (p.mark s apart whitespace indention).Tells rs := by
  unfold Pen.mark
  refine (h.write ?_).relabel rfl rfl
  split
  · exact hs
  · exact (silent_spaces 1).append hs

/-- A space in front of a scalar. -/
theorem apart (h : p.Tells rs) : (if p.whitespace then p else p.write [' ']).Tells rs := by
  split
  · exact h
  · exact h.write (silent_spaces 1)

theorem plain (h : p.Tells rs) (m : Measures) (indent : Option Int) (root split : Bool)
    (ph : Phrase) (hunbroken : m.width = none ∨ ' ' ∉ ph.chars) :
    (p.plain m indent root split ph.chars).Tells rs := by
  obtain ⟨q, hq, hplain⟩ : ∃ q : Pen, q.Tells rs ∧
      p.plain m indent root split ph.chars = q.plain m indent false split ph.chars := by
    cases root with
    | false => exact ⟨p, h, rfl⟩
    | true => exact ⟨{ p with openEnded := true }, h.relabel rfl rfl, rfl⟩
  obtain ⟨q', hq', hphrase⟩ : ∃ q' : Pen, q'.Tells rs ∧
      { (if q.whitespace then q else q.write [' ']) with
        whitespace := false, indention := false } = q' := by
    refine ⟨_, ?_, rfl⟩
    exact hq.apart.relabel rfl rfl
  rw [hplain, plain_phrase ph hunbroken indent split hphrase]
  refine Tells.write ?_ (silent_phrase ph)
  split
  · exact hq'.indentTo indent
  · exact hq'

theorem leaf (h : p.Tells rs) {m : Measures} {x : Leaf} (hunbroken : x.Unbroken m)
    (indent : Option Int) (root split : Bool) : (p.leaf m indent root split x).Tells rs := by
  cases x with
  | plain ph hnull => exact h.plain m indent root split ph hunbroken
  | quoted q =>
      rw [leaf_quoted q hunbroken]
      exact (h.apart.write (silent_leaf (.quoted q))).relabel rfl rfl

/-- A remark is written at the beginning of a row, and then another row begins. -/
theorem remark (h : p.Tells rs) (hcolumn : p.column = 0) (r : Remark) :
    (p.put r.text).Tells (rs ++ [r.row]) := by
  have hdone : (p.put r.text).done.reverse = p.done.reverse ++ r.text := by simp [Pen.put]
  refine ⟨?_, fun _ => ?_, Int.le_of_eq hcolumn.symm, ?_⟩
  · rw [hdone]
    exact h.text.append_sign (h.start hcolumn) r.column r.blanks r.lineFeed_notMem
  · rw [hdone]
    have hlines := AtRowStart.lines (s := p.done.reverse)
      (List.replicate r.column ' ' ++ '#' :: r.chars) r.blanks
    rwa [List.append_assoc, List.cons_append] at hlines
  · rw [hdone]
    exact h.fed.append r.fed_text

end Tells

/-! ## Comments -/

/-- A comment with rows of its own is written as its remark. -/
theorem comment_isOf {c : Comment} {r : Remark} (hc : c.IsOf r) (hcolumn : p.column = 0) :
    comment true c p = p.put r.text := by
  simp [comment, hc.text, hc.column, Remark.body, Remark.text, hcolumn]

/-- Comments in front of something are told. -/
theorem exists_commentsBefore {before : List Leading} {above : List Remark}
    (hbefore : Leading.AreOf before above) (h : p.Tells rs) :
    ∃ q, commentsBefore before p = .ok q ∧ q.Tells (rs ++ above.map Remark.row) := by
  obtain ⟨cs, rfl, hcs⟩ := hbefore
  induction hcs generalizing p rs with
  | nil => exact ⟨p, rfl, by simpa using h⟩
  | @cons c r cs above hc _ ih =>
      have hstart : ∃ q : Pen, (if p.column == 0 then p else p.newline) = q ∧ q.column = 0 ∧
          q.Tells rs := by
        refine ⟨_, rfl, ?_⟩
        split
        · next hzero => exact ⟨by simpa using hzero, h⟩
        · exact ⟨rfl, h.newline⟩
      obtain ⟨q, hq, hcolumn, htells⟩ := hstart
      obtain ⟨q', hmore, htells'⟩ := ih (htells.remark hcolumn r)
      refine ⟨q', ?_, by simpa using htells'⟩
      rw [List.map_cons, commentsBefore, hq, comment_isOf hc hcolumn]
      exact hmore

theorem exists_texts_eq {below : List Remark} (h : below ≠ []) :
    ∃ t, Remark.texts below = t ++ ['\n'] := by
  obtain ⟨front, r, rfl⟩ := List.eq_nil_or_concat below |>.resolve_left h
  refine ⟨Remark.texts front ++ (List.replicate r.column ' ' ++ '#' :: (r.chars ++
    List.replicate r.blanks '\n')), ?_⟩
  simp [Remark.texts, Remark.text, Remark.body, ← List.replicate_succ']
  rfl

/-- A comment behind a leaf is written as line feeds and the remarks below the leaf. -/
theorem commentBehind_eq {c : Comment} {below : List Remark} {k : Nat} (hbelow : below ≠ [])
    (hc : c.text = List.replicate (k + 1) '\n' ++ Remark.texts below) :
    (p.commentBehind (some c)).done.reverse = p.done.reverse ++ c.text ∧
      (p.commentBehind (some c)).column = 0 := by
  obtain ⟨t, ht⟩ := exists_texts_eq hbelow
  obtain ⟨body, hfirst, htext⟩ : ∃ body, body.head? = some '\n' ∧ c.text = body ++ ['\n'] :=
    ⟨List.replicate (k + 1) '\n' ++ t, rfl, by rw [hc, ht, List.append_assoc]⟩
  refine ⟨?_, rfl⟩
  simp [commentBehind, comment, htext, hfirst, Pen.put, Pen.newline, Pen.breakWith]

namespace Tells

/-- The comment behind a leaf is told. -/
theorem commentBehind (h : p.Tells rs) {c : Option Comment} {below : List Remark}
    (hc : Comment.Follows c below) :
    (p.commentBehind c).Tells (rs ++ below.map Remark.row) := by
  rcases hc with ⟨rfl, rfl⟩ | ⟨c, k, hbelow, rfl, hc⟩
  · simpa [Pen.commentBehind] using h
  · obtain ⟨hdone, hcolumn⟩ := commentBehind_eq (p := p) hbelow hc
    have hfeeds : Text.Tells (p.done.reverse ++ List.replicate (k + 1) '\n') rs :=
      h.text.append (by simp)
    have hrow : AtRowStart (p.done.reverse ++ List.replicate (k + 1) '\n') :=
      .inr ⟨p.done.reverse ++ List.replicate k '\n', by rw [List.replicate_succ']; simp⟩
    obtain ⟨htells, hstart⟩ := Remark.tells_texts below hfeeds hrow
    rw [List.append_assoc, ← hc, ← hdone] at htells hstart
    refine ⟨htells, fun _ => hstart, Int.le_of_eq hcolumn.symm, ?_⟩
    rw [hdone, hc]
    exact h.fed.append ((fed_feeds _).append (Remark.fed_texts below))

end Tells
end Pen

/-! ## Layouts -/

/-- Of the comments in front of a noted tree the given remarks are told when it is written at a
spot. -/
def Noted.Announces (s : Spot) (before : List Leading) (above : List Remark)
    (t : Noted) : Prop :=
  if s.announced then above = [] else t.Heads before above

namespace Layout

open Pen

variable {m : Measures} {s : Spot} {p : Pen} {rs rs' : List (List Char)} {id : Nat}
variable {before : List Leading} {above below : List Remark}

/-- A leaf and the comment behind it. -/
theorem exists_write_leaf {x : Leaf} (hunbroken : x.Unbroken m) {notes : LayoutNotes}
    (hflow : s.flow = []) (hkey : s.isSimpleKey = false)
    (hbelow : Comment.Follows notes.behind below) (h : p.Tells rs) :
    ∃ q, write m [] s (leafLayout x notes) p = .ok q ∧
      q.Tells (rs ++ below.map Remark.row) := by
  refine ⟨_, congrArg Except.ok (writeScalar_leaf x notes hflow hkey p),
    Tells.commentBehind ?_ hbelow⟩
  refine Tells.leaf ?_ hunbroken _ _ _
  split
  · exact h.indentTo _
  · exact h

theorem exists_write_key (key : Key) (hflow : s.flow = []) (hkey : s.isSimpleKey = true)
    (h : p.Tells rs) : ∃ q, write m [] s (keyLayout key) p = .ok q ∧ q.Tells rs := by
  refine ⟨_, (write_keyLayout key hflow hkey p).trans
    (congrArg Except.ok (writeScalar_plain key.toPhrase {} hflow p)), ?_⟩
  refine Tells.plain ?_ _ _ _ _ key.toPhrase (.inr key.oneWord)
  split
  · exact h.indentTo _
  · exact h

/-- In front of a collection its comments are told unless they were before. -/
theorem exists_opened (habove : if s.announced then above = [] else Leading.AreOf before above)
    (h : p.Tells rs) :
    ∃ q, openSequence s { before } false p = .ok (q, false) ∧
      openMapping s { before } false p = .ok (q, false) ∧
        q.Tells (rs ++ above.map Remark.row) := by
  rw [openSequence, openMapping]
  cases hannounced : s.announced with
  | true =>
      rw [hannounced, if_pos rfl] at habove
      rw [habove]
      exact ⟨p, rfl, by cases before <;> rfl, by simpa using h⟩
  | false =>
      rw [hannounced, if_neg Bool.false_ne_true] at habove
      obtain ⟨q, hbefore, hq⟩ := exists_commentsBefore habove h
      refine ⟨q, ?_, ?_, hq⟩
      · change (commentsBefore before p >>= _) = _
        rw [hbefore]
        rfl
      · change (commentsBefore before p >>= _) = _
        rw [hbefore]
        cases before <;> rfl

/-- A list, given how its items are written. -/
theorem exists_write_list {ls : List Layout} (hflow : s.flow = []) (hsome : ls.isEmpty = false)
    (habove : if s.announced then above = [] else Leading.AreOf before above) (h : p.Tells rs)
    (hitems : ∀ {s : Spot} {q : Pen}, s.flow = [] → q.Tells (rs ++ above.map Remark.row) →
      ∃ q', writeItems m [] s ls q = .ok q' ∧ q'.Tells rs') :
    ∃ q, write m [] s
      (.sequence { id := some id, tag := .ofCore .seq, notes := { before } } false ls)
        p = .ok q ∧ q.Tells rs' := by
  have hinFlow : s.inFlow = false := inFlow_eq_false hflow
  obtain ⟨q, hopen, -, hq⟩ := exists_opened habove h
  rw [write]
  simp only [anchor?, Option.bind_some, List.lookup_nil, writeAnchor, writeTag_core]
  rw [hopen, ok_bind]
  simp only [hinFlow, hsome, Bool.or_self, Bool.false_eq_true, if_false]
  have hinner : (s.inside m false true (s.isMember && !p.indention)).flow = [] := hflow
  generalize s.inside m false true (s.isMember && !p.indention) = inner at hinner
  obtain ⟨q', hwrite, hq'⟩ := hitems hinner (q := if inner.inNestedSequence then
    { q with indention := true, noNewline := false } else q) (by
      split
      · exact hq.relabel rfl rfl
      · exact hq)
  rw [hwrite]
  exact ⟨_, rfl, hq'.relabel rfl rfl⟩

/-- A table, given how its entries are written. -/
theorem exists_write_table {ls : List (Layout × Layout)} (hflow : s.flow = [])
    (hsome : ls.isEmpty = false)
    (habove : if s.announced then above = [] else Leading.AreOf before above) (h : p.Tells rs)
    (hentries : ∀ {s : Spot} {q : Pen}, s.flow = [] → q.Tells (rs ++ above.map Remark.row) →
      ∃ q', writeEntries m [] s ls q = .ok q' ∧ q'.Tells rs') :
    ∃ q, write m [] s
      (.mapping { id := some id, tag := .ofCore .map, notes := { before } } false ls)
        p = .ok q ∧ q.Tells rs' := by
  have hinFlow : s.inFlow = false := inFlow_eq_false hflow
  obtain ⟨q, -, hopen, hq⟩ := exists_opened habove h
  rw [write]
  simp only [anchor?, Option.bind_some, List.lookup_nil, writeAnchor, writeTag_core]
  rw [hopen, ok_bind]
  simp only [hinFlow, hsome, Bool.or_self, Bool.false_eq_true, if_false]
  obtain ⟨q', hwrite, hq'⟩ := hentries (s := s.inside m false false false) hflow hq
  rw [hwrite]
  exact ⟨q', rfl, hq'⟩

theorem notes_noted (t : Noted) (id : Nat) (notes : LayoutNotes) :
    (t.layout id notes).notes = notes := by
  cases t <;> rfl

theorem isSetItem_noted (t : Noted) (id : Nat) (notes : LayoutNotes) :
    (t.layout id notes).isSetItem = false := by
  cases t with
  | leaf x behind => exact isSetItem_leaf x
  | list flush items => rfl
  | table entries => rfl

variable {t : Noted} {rs'' : List (List Char)}

/-- An item and the items below it, given how they are written. -/
theorem exists_writeItems_cons {more : List Layout} (hbefore : Leading.AreOf before above)
    (h : p.Tells rs)
    (hitem : ∀ {q : Pen}, q.Tells (rs ++ above.map Remark.row) →
      ∃ q', write m [] (itemSpot s) (t.layout id (t.notes before)) q = .ok q' ∧ q'.Tells rs')
    (hmore : ∀ {q : Pen}, q.Tells rs' → ∃ q', writeItems m [] s more q = .ok q' ∧
      q'.Tells rs'') :
    ∃ q, writeItems m [] s (t.layout id (t.notes before) :: more) p = .ok q ∧ q.Tells rs'' := by
  obtain ⟨p₁, hcomments, h₁⟩ := exists_commentsBefore hbefore h
  have hdash : Silent (List.replicate m.step.toNat ' ' ++ ['-']) :=
    (silent_spaces _).append (silent_singleton (by decide) (by decide))
  have h₂ := (h₁.indentTo s.indent).mark hdash true false true
  obtain ⟨p₃, hthird, h₃⟩ : ∃ p₃ : Pen, (if 2 * m.step < m.step + 2 then
      { (p₁.indentTo s.indent).mark (List.replicate m.step.toNat ' ' ++ ['-']) true false
        true with noNewline := true }
      else (p₁.indentTo s.indent).mark (List.replicate m.step.toNat ' ' ++ ['-']) true
        false true) =
        p₃ ∧ p₃.Tells (rs ++ above.map Remark.row) := by
    refine ⟨_, rfl, ?_⟩
    split
    · exact h₂.relabel rfl rfl
    · exact h₂
  obtain ⟨p₄, hwrite, h₄⟩ := hitem h₃
  obtain ⟨q, hrest, hq⟩ := hmore h₄
  refine ⟨q, ?_, hq⟩
  rw [writeItems, beginLine, notes_noted, Noted.notes, hcomments, Except.map, ok_bind]
  simp only [hthird]
  change (write m [] (itemSpot s) (t.layout id (t.notes before)) p₃ >>= _) = _
  rw [hwrite, ok_bind, hrest]

/-- An entry and the entries below it, given how they are written. -/
theorem exists_writeEntries_cons {key : Key} {more : List (Layout × Layout)}
    (hflow : s.flow = []) (h : p.Tells rs)
    (hmember : ∀ {q : Pen}, q.Tells rs →
      ∃ q', write m [] (s.member false) (t.layout id (t.notes before)) q = .ok q' ∧
      q'.Tells rs')
    (hmore : ∀ {q : Pen}, q.Tells rs' → ∃ q', writeEntries m [] s more q = .ok q' ∧
      q'.Tells rs'') :
    ∃ q, writeEntries m [] s ((keyLayout key, t.layout id (t.notes before)) :: more) p =
      .ok q ∧ q.Tells rs'' := by
  have hkeyFlow : (keySpot s).flow = [] := hflow
  obtain ⟨p₁, hkey, h₁⟩ := exists_write_key (m := m) key hkeyFlow rfl (h.indentTo s.indent)
  obtain ⟨p₂, hwrite, h₂⟩ := hmember
    (h₁.mark (silent_singleton (c := ':') (by decide) (by decide)) false false false)
  obtain ⟨q, hrest, hq⟩ := hmore h₂
  have hbegin : beginLine (keyLayout key) s.indent p = .ok (p.indentTo s.indent) := rfl
  have hset : (keyLayout key).isSetItem = false := rfl
  refine ⟨q, ?_, hq⟩
  rw [writeEntries, hbegin, ok_bind, isSimpleKey_key, if_pos rfl]
  simp only [hset, isSetItem_noted, Bool.false_eq_true, if_false]
  change ((write m [] (keySpot s) (keyLayout key) _ >>= _) >>= _) = _
  rw [hkey, ok_bind]
  change ((write m [] (s.member false) _ (p₁.mark [':'] false false false)) >>= _) = _
  rw [hwrite, ok_bind, hrest]

theorem noted_layouts_some (items : Noted.Items) (id : Nat) :
    (items.layouts id).isEmpty = false := by
  cases items <;> rfl

theorem noted_entryLayouts_some (entries : Noted.Entries) (id : Nat) :
    (entries.layouts id).isEmpty = false := by
  cases entries <;> rfl

-- By induction on the noted tree.  Wherever a row begins, the same is told, so that of the
-- measures only the width matters, at which leaves could be broken.
mutual

/-- A noted tree is written, and the comments that are shown in it are told. -/
theorem exists_write_noted :
    ∀ {t : Noted} (id : Nat) {s : Spot} {p : Pen} {rs : List (List Char)}
    {before : List Leading} {above inner : List Remark}, s.flow = [] → s.isSimpleKey = false →
      t.tree.Unbroken m → t.Announces s before above → t.Shows inner → p.Tells rs →
        ∃ q, write m [] s (t.layout id (t.notes before)) p = .ok q ∧
          q.Tells (rs ++ (above ++ inner).map Remark.row)
  | .leaf x behind, _, s, _, _, _, above, inner, hflow, hkey, hunbroken, habove, hshows, h => by
      obtain rfl : above = [] := by
        rw [Noted.Announces] at habove
        split at habove <;> exact habove
      exact exists_write_leaf hunbroken hflow hkey hshows h
  | .list _ items, id, _, _, _, _, above, inner, hflow, _, hunbroken, habove, hshows, h => by
      refine exists_write_list hflow (noted_layouts_some items _) habove h fun hinner hq => ?_
      obtain ⟨q', hwrite, hq'⟩ := exists_writeItems (id + 1) hinner hunbroken hshows hq
      exact ⟨q', hwrite, by simpa using hq'⟩
  | .table entries, id, _, _, _, _, above, inner, hflow, _, hunbroken, habove, hshows, h => by
      refine exists_write_table hflow (noted_entryLayouts_some entries _) habove h
        fun hinner hq => ?_
      obtain ⟨q', hwrite, hq'⟩ := exists_writeEntries (id + 1) hinner hunbroken hshows hq
      exact ⟨q', hwrite, by simpa using hq'⟩

theorem exists_writeItems : ∀ {items : Noted.Items} (id : Nat) {s : Spot} {p : Pen}
    {rs : List (List Char)} {shown : List Remark}, s.flow = [] →
      (m.width = none ∨ items.trees.Solid) → items.Show shown → p.Tells rs →
        ∃ q, writeItems m [] s (items.layouts id) p = .ok q ∧
          q.Tells (rs ++ shown.map Remark.row)
  | .last before t, id, s, p, rs, _, hflow, hunbroken, ⟨above, inner, rfl, hbefore, hshows⟩,
      h => by
      have hitemFlow : (itemSpot s).flow = [] := hflow
      have hannounced : t.Announces (itemSpot s) before [] := rfl
      refine exists_writeItems_cons hbefore h
        (fun hq => exists_write_noted id hitemFlow rfl hunbroken hannounced hshows hq)
        fun {q} hq => ⟨q, rfl, ?_⟩
      simpa using hq
  | .cons before t more, id, s, p, rs, _, hflow, hunbroken,
      ⟨above, inner, others, rfl, hbefore, hshows, hshow⟩, h => by
      have hitemFlow : (itemSpot s).flow = [] := hflow
      have hannounced : t.Announces (itemSpot s) before [] := rfl
      refine exists_writeItems_cons hbefore h
        (fun hq => exists_write_noted id hitemFlow rfl (hunbroken.imp_right And.left) hannounced
          hshows hq)
        fun hq => ?_
      obtain ⟨q', hmore, hq'⟩ := exists_writeItems (id + t.tree.count) hflow
        (hunbroken.imp_right And.right) hshow hq
      exact ⟨q', hmore, by simpa using hq'⟩

theorem exists_writeEntries : ∀ {entries : Noted.Entries} (id : Nat) {s : Spot} {p : Pen}
    {rs : List (List Char)} {shown : List Remark}, s.flow = [] →
      (m.width = none ∨ entries.trees.Solid) → entries.Show shown → p.Tells rs →
        ∃ q, writeEntries m [] s (entries.layouts id) p = .ok q ∧
          q.Tells (rs ++ shown.map Remark.row)
  | .last key before t, id, s, p, rs, _, hflow, hunbroken, ⟨above, inner, rfl, hheads, hshows⟩,
      h => by
      have hmemberFlow : (s.member false).flow = [] := hflow
      exact exists_writeEntries_cons hflow h
        (fun hq => exists_write_noted (t := t) (id + 1) hmemberFlow rfl hunbroken hheads
          hshows hq)
        fun {q} hq => ⟨q, rfl, hq⟩
  | .cons key before t more, id, s, p, rs, _, hflow, hunbroken,
      ⟨above, inner, others, rfl, hheads, hshows, hshow⟩, h => by
      have hmemberFlow : (s.member false).flow = [] := hflow
      refine exists_writeEntries_cons hflow h
        (fun hq => exists_write_noted (t := t) (id + 1) hmemberFlow rfl
          (hunbroken.imp_right And.left) hheads hshows hq)
        fun hq => ?_
      obtain ⟨q', hmore, hq'⟩ := exists_writeEntries (id + 1 + t.tree.count) hflow
        (hunbroken.imp_right And.right) hshow hq
      exact ⟨q', hmore, by simpa using hq'⟩

end

end Layout

/-! ## Documents -/

theorem Noted.heads_iff_of_not_isLeaf {t : Noted} {before : List Leading} {above : List Remark}
    (h : ¬ t.tree.isLeaf) : t.Heads before above ↔ Leading.AreOf before above := by
  cases t with
  | leaf x behind => exact absurd rfl h
  | list flush items => rfl
  | table entries => rfl

/-- The comments of a list or a table at the root are those in front of it. -/
theorem Headed.layout_of_not_isLeaf {r : Headed} (h : ¬ r.root.tree.isLeaf) :
    r.layout = r.root.layout 0 (r.root.notes r.before) := by
  obtain ⟨before, root⟩ := r
  cases root with
  | leaf x behind => exact absurd rfl h
  | list flush items => cases before <;> rfl
  | table entries => cases before <;> rfl

/-- The text of a document that holds a noted tree tells the comments that are shown with it. -/
theorem Headed.Shows.exists_write {r : Headed} {rs : List Remark} (h : r.Shows rs) {m : Measures}
    (hunbroken : r.root.tree.Unbroken m) :
    ∃ s, DocumentLayout.write m { root := r.layout, anchors := [] } = .ok s ∧
      Text.Tells s (rs.map Remark.row) ∧ Fed s := by
  obtain ⟨p, hwrite, hp⟩ : ∃ p, Layout.write m [] { isRoot := true } r.layout {} = .ok p ∧
      p.Tells (rs.map Remark.row) := by
    rw [Headed.Shows] at h
    split at h
    · next hleaf =>
        obtain ⟨before, root⟩ := r
        cases root with
        | leaf x behind =>
            have hnothing : Comment.Follows ({} : LayoutNotes).behind [] := .inl ⟨rfl, rfl⟩
            rw [h]
            exact Layout.exists_write_leaf hunbroken rfl rfl hnothing Pen.tells_fresh
        | list flush items => cases hleaf
        | table entries => cases hleaf
    · next hleaf =>
        obtain ⟨above, inner, rfl, hbefore, hshows⟩ := h
        have hannounces : r.root.Announces { isRoot := true } r.before above :=
          (Noted.heads_iff_of_not_isLeaf hleaf).mpr hbefore
        rw [layout_of_not_isLeaf hleaf]
        exact Layout.exists_write_noted 0 rfl rfl hunbroken hannounces hshows Pen.tells_fresh
  have hend : Silent "...".toList := silent_replicate 3 (c := '.') (by decide) (by decide)
  rw [DocumentLayout.write, hwrite, ok_bind]
  refine ⟨_, rfl, ?_⟩
  have hfinish := hp.indentTo none
  split
  · have hmarked := (hfinish.mark hend true false false).indentTo none
    exact ⟨hmarked.text, hmarked.fed⟩
  · exact ⟨hfinish.text, hfinish.fed⟩

end Yaml
end YamlTidy
