import YamlTidy.Proofs.Yaml.Block.Layouts
import YamlTidy.Proofs.Yaml.Block.Styles
import YamlTidy.Yaml.Canonical

/-!
# The canonical text of trees

The rows of a tree are written one after another, and no leaf is broken over rows.  A pen stands
in front of what its row is about (`Pen.inFront`), behind something (`Pen.behind`) or behind a
dash (`Pen.behindDash`), and `Pen.Ready` says that the next row may begin.  Each part of a tree is
written from such a pen up to the place where the next row may begin, and the text that comes out
is that of the canonical places (`Layout.write_items`, by induction on the tree).  A list at the
root is pulled back to the left margin afterwards.
-/

namespace YamlTidy
namespace Yaml

open Text

theorem ok_bind {ε α β : Type} (a : α) (f : α → Except ε β) : (Except.ok a >>= f) = f a :=
  rfl

/-! ## The pen -/

namespace Pen

/-- The pen in a column behind spaces or a dash and spaces. -/
def inFront (text : List Char) (column : Nat) : Pen :=
  { done := text.reverse, column }

/-- The pen in a column behind a leaf, a key or a colon. -/
def behind (text : List Char) (column : Nat) : Pen :=
  { done := text.reverse, column, whitespace := false, indention := false }

/-- The pen behind a dash in the given column.  It may be that no new line has to be begun for what
belongs to the dash. -/
def behindDash (text : List Char) (column : Nat) (noNewline : Bool) : Pen :=
  { behind (text ++ ['-']) (column + 1) with indention := true, noNewline }

/-- The pen where the next row may begin, in no column right of the given one. -/
structure Ready (p : Pen) (text : List Char) (column : Nat) : Prop where
  noNewline : p.noNewline = false
  openEnded : p.openEnded = false
  indentTo : ∀ i : Nat, i ≤ column →
    p.indentTo (some i) = inFront (text ++ List.replicate i ' ') i

variable {p : Pen} {text : List Char} {column : Nat}

theorem Ready.weaken {column' : Nat} (h : p.Ready text column) (hle : column' ≤ column) :
    p.Ready text column' :=
  ⟨h.noNewline, h.openEnded, fun i hi => h.indentTo i (hi.trans hle)⟩

theorem Ready.keep (h : p.Ready text column) : { p with noNewline := false } = p := by
  have hnewline := h.noNewline
  cases p
  cases hnewline
  rfl

/-- The pen moved right to a column by spaces. -/
def reach (column : Int) (p : Pen) : Pen :=
  if p.column < column then
    { p.write (List.replicate (column - p.column).toNat ' ') with whitespace := true }
  else p

theorem reach_inFront (text : List Char) {column i : Nat} (h : column ≤ i) :
    (inFront text column).reach i = inFront (text ++ List.replicate (i - column) ' ') i := by
  rw [reach]
  split
  · have hgap : ((i : Int) - (inFront text column).column).toNat = i - column := by
      simp only [inFront]
      omega
    rw [hgap]
    simp [inFront, Pen.write]
    omega
  · next hnot =>
      obtain rfl : column = i := by
        simp only [inFront] at hnot
        omega
      simp [inFront]

/-- A new row is begun. -/
theorem indentTo_newline {indent : Option Int}
    (hleave : p.indention = false ∨ indent.getD 0 < p.column ∨
      (p.column = indent.getD 0 ∧ p.whitespace = false)) (hnewline : p.noNewline = false) :
    p.indentTo indent = p.newline.reach (indent.getD 0) := by
  have hcond : (!p.indention || decide (indent.getD 0 < p.column) ||
      (p.column == indent.getD 0 && !p.whitespace)) = true := by
    rcases hleave with h | h | ⟨h, hspace⟩
    · simp [h]
    · simp [h]
    · simp [h, hspace]
  rw [indentTo]
  simp only [hcond, if_true, hnewline, Bool.false_eq_true, if_false]
  rfl

/-- The row is gone on with. -/
theorem indentTo_stay {indent : Option Int} (hindention : p.indention = true)
    (hcolumn : p.column ≤ indent.getD 0)
    (hspace : p.whitespace = true ∨ p.column ≠ indent.getD 0) :
    p.indentTo indent = p.reach (indent.getD 0) := by
  have hleft : ¬indent.getD 0 < p.column := by omega
  have hhere : (p.column == indent.getD 0 && !p.whitespace) = false := by
    rcases hspace with h | h
    · rw [h, Bool.not_true, Bool.and_false]
    · rw [beq_eq_false_iff_ne.mpr h, Bool.false_and]
  rw [indentTo]
  simp only [hindention, hleft, hhere, Bool.not_true, decide_false, Bool.or_self,
    Bool.false_eq_true, if_false]
  rfl

theorem newline_eq (text : List Char) (hdone : p.done = text.reverse)
    (hnewline : p.noNewline = false) (hopen : p.openEnded = false) :
    p.newline = inFront (text ++ ['\n']) 0 := by
  obtain ⟨done, column, whitespace, indention, noNewline, openEnded⟩ := p
  obtain ⟨rfl, rfl, rfl⟩ := hdone, hnewline, hopen
  simp [Pen.newline, Pen.breakWith, inFront]

theorem ready_behind (text : List Char) (column stop : Nat) :
    (behind text column).Ready (text ++ ['\n']) stop where
  noNewline := rfl
  openEnded := rfl
  indentTo i _ := by
    rw [indentTo_newline (.inl rfl) rfl, newline_eq text rfl rfl rfl]
    exact reach_inFront _ (Nat.zero_le i)

theorem ready_inFront (text : List Char) {column stop : Nat} (h : stop < column) :
    (inFront text column).Ready (text ++ ['\n']) stop where
  noNewline := rfl
  openEnded := rfl
  indentTo i hi := by
    have hleft : (some (i : Int)).getD 0 < (inFront text column).column := by
      simp only [inFront, Option.getD_some]
      omega
    rw [indentTo_newline (.inr (.inl hleft)) rfl, newline_eq text rfl rfl rfl]
    exact reach_inFront _ (Nat.zero_le i)

/-- What is right of a dash with some room stands on the row of the dash. -/
theorem indentTo_behindDash (text : List Char) {column i : Nat} (h : column + 1 < i) :
    (behindDash text column false).indentTo (some (i : Int)) =
      inFront (text ++ '-' :: List.replicate (i - (column + 1)) ' ') i := by
  have hless : (behindDash text column false).column < (i : Int) := by
    simp only [behindDash, behind]
    omega
  have hgap : ((i : Int) - (behindDash text column false).column).toNat = i - (column + 1) := by
    simp only [behindDash, behind]
    omega
  rw [indentTo_stay rfl (Int.le_of_lt hless) (.inr (Int.ne_of_lt hless)),
    Option.getD_some, reach, if_pos hless, hgap]
  simp [behindDash, behind, inFront, Pen.write]
  omega

/-- There is no room right behind a dash, and a new row is begun. -/
theorem indentTo_behindDash_newline (text : List Char) (column : Nat) :
    (behindDash text column false).indentTo (some ((column + 1 : Nat) : Int)) =
      inFront (text ++ '-' :: '\n' :: List.replicate (column + 1) ' ') (column + 1) := by
  rw [indentTo_newline (.inr (.inr ⟨rfl, rfl⟩)) rfl,
    newline_eq (text ++ ['-']) rfl rfl rfl]
  simpa using reach_inFront (text ++ ['-'] ++ ['\n']) (Nat.zero_le (column + 1))

/-- There is no room right behind a dash, but the row is gone on with. -/
theorem indentTo_behindDash_stay (text : List Char) (column : Nat) :
    (behindDash text column true).indentTo (some ((column + 1 : Nat) : Int)) =
      behindDash text column false := by
  have hhere : (some ((column + 1 : Nat) : Int)).getD 0 =
    (behindDash text column true).column := rfl
  rw [indentTo, hhere]
  simp [behindDash, behind]

/-! ## Leaves -/

/-- Whether a text of the given length is moved to a new row from where the pen is. -/
def wraps (m : Measures) (indent : Option Int) (length : Nat) (p : Pen) : Bool :=
  match indent with
  | none => false
  | some i => m.exceeds (p.column + length) && decide (i < p.column)

/-- Writes a leaf in its style. -/
def leaf (m : Measures) (indent : Option Int) (root split : Bool) (p : Pen) : Leaf → Pen
  | .plain ph _ => p.plain m indent root split ph.chars
  | .quoted q =>
      if q.double then p.doubleQuoted m indent split q.content
      else p.singleQuoted m indent split q.content

/-- A phrase that is not broken, as a whole. -/
theorem plain_phrase {m : Measures} (ph : Phrase) (hunbroken : m.width = none ∨ ' ' ∉ ph.chars)
    (indent : Option Int) (split : Bool) {q : Pen}
    (hq : { (if p.whitespace then p else p.write [' ']) with
      whitespace := false, indention := false } = q) :
    p.plain m indent false split ph.chars =
      (if q.wraps m indent ph.chars.length then q.indentTo indent else q).write ph.chars := by
  have hne : ph.chars.isEmpty = false := by
    simpa using ph.nonempty
  subst hq
  simp only [plain, Bool.false_eq_true, if_false, hne]
  rcases hunbroken with hwidth | hsolid
  · have hstay : ∀ q : Pen, q.wraps m indent ph.chars.length = false := by
      intro q
      cases indent with
      | none => rfl
      | some i => rw [wraps, Measures.exceeds_none hwidth, Bool.false_and]
    rw [plainStretches_eq hwidth, stretches_join, hstay, if_neg Bool.false_ne_true]
  · rw [stretches_word (ph.isInk_of_oneWord hsolid) ph.nonempty]
    cases indent <;> rfl

/-- A quotation that is not broken, quotes included. -/
theorem leaf_quoted {m : Measures} (q : Quotation)
    (hunbroken : m.width = none ∨ ' ' ∉ q.content) (indent : Option Int) (root split : Bool)
    (p : Pen) :
    p.leaf m indent root split (.quoted q) =
      { (if p.whitespace then p else p.write [' ']).write q.chars with
        whitespace := false, indention := false, openEnded := false } := by
  have hmark : ((p.mark [quoteMark q.double] true false false).write q.content).mark
      [quoteMark q.double] false false false =
        { (if p.whitespace then p else p.write [' ']).write q.chars with
          whitespace := false, indention := false, openEnded := false } := by
    cases hspace : p.whitespace <;>
      simp [mark, write, hspace, Quotation.chars, Int.add_assoc, Int.add_comm, Int.add_left_comm]
  rw [← hmark, leaf]
  cases hdouble : q.double with
  | true =>
      have hescape : ∀ c ∈ q.content.toArray, isEscaped c = false := by
        simpa using q.not_escaped hdouble
      have hspace : m.width = none ∨ ' ' ∉ q.content.toArray := by simpa using hunbroken
      have hwritten :=
        doubleFrom_eq (m := m) indent split hescape hspace (q.content.length + 1) 0
        (p.mark ['"'] true false false) (Nat.zero_le _) (by simp)
      rw [if_pos rfl, doubleQuoted, hwritten]
      rfl
  | false =>
      have hwritten := singleStretches_eq (m := m) indent split (stretches q.content) true
        (p.mark ['\''] true false false) (q.mem_stretches hdouble)
        (hunbroken.imp_right q.space_not_mem_stretches)
      rw [if_neg Bool.false_ne_true, singleQuoted, hwritten, stretches_join]
      rfl

/-- A phrase at the place where the pen is. -/
theorem plain_inFront {m : Measures} (ph : Phrase) (hunbroken : m.width = none ∨ ' ' ∉ ph.chars)
    (split : Bool) (text : List Char) {column i : Nat} (h : column ≤ i) :
    (inFront text column).plain m (some (i : Int)) false split ph.chars =
      behind (text ++ ph.chars) (column + ph.chars.length) := by
  have hstay : (behind text column).wraps m (some (i : Int)) ph.chars.length = false := by
    have hnot : ¬ (i : Int) < (behind text column).column := by
      simp only [behind]
      omega
    rw [wraps, decide_eq_false hnot, Bool.and_false]
  rw [plain_phrase ph hunbroken _ split (q := behind text column) rfl, hstay]
  simp [Pen.write, behind]

/-- A leaf at the place where the pen is. -/
theorem leaf_inFront {m : Measures} {x : Leaf} (hunbroken : x.Unbroken m) (split : Bool)
    (text : List Char) {column i : Nat} (h : column ≤ i) :
    (inFront text column).leaf m (some (i : Int)) false split x =
      behind (text ++ x.chars) (column + x.chars.length) := by
  cases x with
  | plain ph hnull => exact plain_inFront ph hunbroken split text h
  | quoted q =>
      rw [leaf_quoted q hunbroken]
      simp [Pen.write, behind, inFront, Leaf.chars]

/-- A leaf behind something, or on a new row if it is plain, too long there and the new row has more
room. -/
theorem leaf_behind {m : Measures} {x : Leaf} (hunbroken : x.Unbroken m) (i : Nat)
    (split indention : Bool) (text : List Char) (column : Nat) :
    ({ behind text column with indention }).leaf m (some i) false split x =
      if x.isPlain && m.exceeds ((column + 1 + x.chars.length : Nat) : Int) &&
          decide (i < column + 1) then
        inFront (text ++ ' ' :: '\n' :: List.replicate i ' ' ++ x.chars) (i + x.chars.length)
      else behind (text ++ ' ' :: x.chars) (column + 1 + x.chars.length) := by
  cases x with
  | plain ph hnull =>
      let q := behind (text ++ [' ']) (column + 1)
      have hq : { (if ({ behind text column with indention } : Pen).whitespace then
          ({ behind text column with indention } : Pen) else
            ({ behind text column with indention } : Pen).write [' ']) with
          whitespace := false, indention := false } = q := by
        simp [Pen.write, behind, q]
      have hwraps : q.wraps m (some (i : Int)) ph.chars.length =
          (m.exceeds ((column + 1 + ph.chars.length : Nat) : Int) &&
            decide (i < column + 1)) := by
        have hcolumn :
            q.column + (ph.chars.length : Int) = ((column + 1 + ph.chars.length : Nat) : Int) :=
              rfl
        have hless : ((i : Int) < q.column) = (i < column + 1) := by
          simp only [q, behind, Int.ofNat_lt]
        rw [wraps, hcolumn]
        simp only [hless]
      have hchars : (Leaf.plain ph hnull).chars = ph.chars := rfl
      rw [leaf, plain_phrase ph hunbroken _ split hq, hwraps, Leaf.isPlain,
        Bool.true_and, hchars]
      split
      · rw [(ready_behind (text ++ [' ']) (column + 1) i).indentTo i (Nat.le_refl i)]
        simp [Pen.write, inFront]
      · simp [Pen.write, behind, q]
  | quoted q =>
      rw [leaf_quoted q hunbroken, Leaf.isPlain, Bool.false_and, Bool.false_and,
        if_neg Bool.false_ne_true]
      simp [Pen.write, behind, Leaf.chars]

end Pen

/-- Measures with the given number of columns per level. -/
structure Measures.Steps (m : Measures) (n : Nat) : Prop where
  step : m.step = n
  pos : 0 < n

theorem Measures.Steps.toNat {m : Measures} {n : Nat} (hm : m.Steps n) : m.step.toNat = n := by
  rw [hm.step, Int.toNat_natCast]

namespace Layout

variable {m : Measures} {s : Spot} {p : Pen} {text : List Char} {column : Nat}

theorem inFlow_eq_false (hflow : s.flow = []) : s.inFlow = false := by
  rw [Spot.inFlow, hflow]
  rfl

theorem writeScalar_plain (ph : Phrase) (notes : LayoutNotes) (hflow : s.flow = []) (p : Pen) :
    writeScalar m [] s { tag := .ofCore ph.core, notes } ph.chars .any p =
      ((if s.isItem then p.indentTo (s.inside m true false false).indent else p).plain m
        (s.inside m true false false).indent s.isRoot (!s.isSimpleKey) ph.chars).commentBehind
          notes.behind := by
  have hne : ph.chars.isEmpty = false := by
    simpa using ph.nonempty
  simp only [writeScalar, anchor?, writeAnchor, ph.impliedTags, inFlow_eq_false hflow,
    ph.chooseStyle, hne, Option.bind_none, Bool.false_and, Bool.false_eq_true, if_false, if_true,
    Option.isNone_none, Bool.and_true, Bool.not_false, reduceCtorEq, decide_false, Bool.or_self,
    Option.map_id']

theorem writeScalar_quoted (q : Quotation) (notes : LayoutNotes) (hflow : s.flow = [])
    (hkey : s.isSimpleKey = false) (p : Pen) :
    writeScalar m [] s { tag := .ofCore .str, notes } q.content (.ofScalar q.style) p =
      ((if s.isItem then p.indentTo (s.inside m true false false).indent else p).leaf m
        (s.inside m true false false).indent s.isRoot true (.quoted q)).commentBehind
          notes.behind := by
  have htag : (impliedTags (.ofCore .str) q.content).2 = true := rfl
  have hname : ((Tag.ofCore .str).name == CoreTag.null.name) = false := by decide
  simp only [writeScalar, anchor?, writeAnchor, inFlow_eq_false hflow, hkey, q.chooseStyle, htag,
    hname, Option.bind_none, Bool.and_false, Bool.false_eq_true, if_false,
    Option.isNone_none, Bool.and_true, Bool.not_false]
  cases hdouble : q.double <;>
    simp [hdouble, Pen.leaf]

/-- A leaf is written in its style with the comment behind it. -/
theorem writeScalar_leaf (x : Leaf) (notes : LayoutNotes) (hflow : s.flow = [])
    (hkey : s.isSimpleKey = false) (p : Pen) :
    writeScalar m [] s { tag := .ofCore x.core, notes } x.content (.ofScalar x.style) p =
      ((if s.isItem then p.indentTo (s.inside m true false false).indent else p).leaf m
        (s.inside m true false false).indent s.isRoot true x).commentBehind notes.behind := by
  cases x with
  | plain ph hnull =>
      have hplain := writeScalar_plain (m := m) ph notes hflow p
      rw [hkey] at hplain
      exact hplain
  | quoted q => exact writeScalar_quoted q notes hflow hkey p

/-- The spot of a key on a line with its value. -/
def keySpot (s : Spot) : Spot :=
  { s.member true with announced := true }

/-- The spot of an item. -/
def itemSpot (s : Spot) : Spot :=
  { s.item with announced := true }

/-- Where the items of a list are written, indented to the given column. -/
structure ItemsSpot (s : Spot) (column : Nat) : Prop where
  flow : s.flow = []
  indent : s.indent = some (column : Int)
  inSequence : s.inSequence = true

/-- Where the entries of a table are written, in the given column. -/
structure EntriesSpot (s : Spot) (column : Nat) : Prop where
  flow : s.flow = []
  indent : s.indent = some (column : Int)
  inSequence : s.inSequence = false

section Spots

variable {n : Nat} (hm : m.Steps n)
include hm

theorem ItemsSpot.indent_inside (h : ItemsSpot s column) (flow isSequence : Bool) :
    ((itemSpot s).inside m flow isSequence false).indent =
      some ((column + 2 * n : Nat) : Int) := by
  have hindent : (itemSpot s).indent = some (column : Int) := h.indent
  have hsequence : (itemSpot s).inSequence = true := h.inSequence
  simp [Spot.inside, hindent, hsequence, hm.step]

theorem ItemsSpot.list (h : ItemsSpot s column) :
    ItemsSpot ((itemSpot s).inside m false true false) (column + 2 * n) :=
  ⟨h.flow, h.indent_inside hm false true, rfl⟩

theorem ItemsSpot.table (h : ItemsSpot s column) :
    EntriesSpot ((itemSpot s).inside m false false false) (column + 2 * n) :=
  ⟨h.flow, h.indent_inside hm false false, rfl⟩

theorem EntriesSpot.indent_inside (h : EntriesSpot s column) (simpleKey flow isSequence : Bool) :
    ((s.member simpleKey).inside m flow isSequence false).indent =
      some ((column + n : Nat) : Int) := by
  have hindent : (s.member simpleKey).indent = some (column : Int) := h.indent
  have hsequence : (s.member simpleKey).inSequence = false := h.inSequence
  simp [Spot.inside, hindent, hsequence, hm.step]

theorem EntriesSpot.table (h : EntriesSpot s column) :
    EntriesSpot ((s.member false).inside m false false false) (column + n) :=
  ⟨h.flow, h.indent_inside hm false false false, rfl⟩

end Spots

theorem EntriesSpot.list (h : EntriesSpot s column) :
    ItemsSpot ((s.member false).inside m false true true) column := by
  refine ⟨h.flow, ?_, rfl⟩
  have hindent : (s.member false).indent = some (column : Int) := h.indent
  simp [Spot.inside, hindent]

/-- The two innermost collections are a new one and the one that was innermost. -/
theorem inNestedSequence_of_levels {t : Spot} {l : Level} (h : t.levels = l :: s.levels) :
    t.inNestedSequence = (l.isSequence && s.inSequence) := by
  unfold Spot.inNestedSequence Spot.inSequence
  rw [h]
  cases s.levels with
  | nil => simp
  | cons outer levels => rfl

theorem nested_item (hs : ItemsSpot s column) :
    ((itemSpot s).inside m false true false).inNestedSequence = true := by
  rw [inNestedSequence_of_levels (s := s) rfl, hs.inSequence]
  rfl

theorem nested_member (hs : EntriesSpot s column) :
    ((s.member false).inside m false true true).inNestedSequence = false := by
  rw [inNestedSequence_of_levels (s := s) rfl, hs.inSequence]
  rfl

/-! ## Keys and leaves -/

theorem mark_colon (text : List Char) (column : Nat) :
    (Pen.behind text column).mark [':'] false false false =
      .behind (text ++ [':']) (column + 1) := by
  simp [Pen.mark, Pen.write, Pen.behind]

/-- The word for nothing is written where an empty text stands for it. -/
theorem writeScalar_null (hflow : s.flow = []) (hkey : s.isSimpleKey = true) (p : Pen) :
    writeScalar m [] s { tag := .ofCore .null } [] .any p =
      writeScalar m [] s { tag := .ofCore .null } "null".toList .any p := by
  have hinFlow : s.inFlow = false := inFlow_eq_false hflow
  simp only [writeScalar, hinFlow, hkey]
  rfl

/-- A key is written as the phrase it is. -/
theorem write_keyLayout (key : Key) (hflow : s.flow = []) (hkey : s.isSimpleKey = true)
    (p : Pen) :
    write m [] s (keyLayout key) p =
      .ok (writeScalar m [] s { tag := .ofCore key.core } key.chars .any p) := by
  rw [keyLayout, write]
  split
  · next hnull =>
      have hchars : key.chars = "null".toList := by
        have h := key.standsFor
        rw [hnull] at h
        generalize key.value = v at h
        cases h with
        | null h => exact h
      rw [hnull, hchars]
      exact congrArg Except.ok (writeScalar_null hflow hkey p)
  · rfl

section Parts

variable {n : Nat} (hm : m.Steps n)
include hm

/-- A key and its colon. -/
theorem write_key (key : Key) (hs : EntriesSpot s column) (text : List Char) :
    write m [] (keySpot s) (keyLayout key) (.inFront text column) =
      .ok (.behind (text ++ key.chars) (column + key.chars.length)) := by
  have hflow : (keySpot s).flow = [] := hs.flow
  have hindent : ((keySpot s).inside m true false false).indent =
      some ((column + n : Nat) : Int) := hs.indent_inside hm true true false
  have hplain := writeScalar_plain (m := m) key.toPhrase {} hflow (.inFront text column)
  rw [hindent] at hplain
  rw [write_keyLayout key hflow rfl]
  exact congrArg Except.ok (hplain.trans
    (Pen.plain_inFront key.toPhrase (.inr key.oneWord) _ text (Nat.le_add_right column n)))

/-- A leaf behind the colon of its key. -/
theorem write_memberLeaf (key : Key) {x : Leaf} (hx : x.Unbroken m) (hs : EntriesSpot s column)
    (text : List Char) :
    ∃ q, write m [] (s.member false) (leafLayout x)
        (.behind text (column + key.chars.length + 1)) = .ok q ∧
      q.Ready (text ++ ((Tree.leaf x).member m column key).text column) column := by
  have hflow : (s.member false).flow = [] := hs.flow
  have hleaf := writeScalar_leaf (m := m) x {} hflow rfl
    (.behind text (column + key.chars.length + 1))
  rw [hs.indent_inside hm] at hleaf
  have hwritten := hleaf.trans
    (Pen.leaf_behind hx (column + n) true false text (column + key.chars.length + 1))
  have hmoved : (x.isPlain &&
      m.exceeds ((column + key.chars.length + 1 + 1 + x.chars.length : Nat) : Int) &&
      decide (column + n < column + key.chars.length + 1 + 1)) =
        Tree.isMoved m column key x := by
    rw [Tree.isMoved, hm.toNat]
    congr 1
    simp only [decide_eq_decide]
    omega
  rw [hmoved] at hwritten
  refine ⟨_, congrArg Except.ok hwritten, ?_⟩
  rw [Tree.member, hm.toNat]
  have hpos := hm.pos
  have hplace : column + 1 + (n - 1) = column + n := by omega
  have hmore : column < column + n + x.chars.length := by omega
  split
  · simpa [Block.Member.text, Block.least, Block.text, hplace]
      using Pen.ready_inFront
        (text ++ ' ' :: '\n' :: List.replicate (column + n) ' ' ++ x.chars) hmore
  · simpa [Block.Member.text] using
      Pen.ready_behind (text ++ ' ' :: x.chars) _ column

/-- A leaf behind its dash. -/
theorem write_itemLeaf {x : Leaf} (hx : x.Unbroken m) (hs : ItemsSpot s column)
    (text : List Char) :
    ∃ q, write m [] (itemSpot s) (leafLayout x) (.behindDash text (column + n) (n == 1)) =
      .ok q ∧
      q.Ready (text ++ '-' :: (((Tree.leaf x).placing m (column + n)).lead (column + n) ++
        (x.chars ++ ['\n']))) column := by
  have hflow : (itemSpot s).flow = [] := hs.flow
  have hleaf := writeScalar_leaf (m := m) x {} hflow rfl (.behindDash text (column + n) (n == 1))
  rw [hs.indent_inside hm true false] at hleaf
  rw [Tree.placing, hm.toNat]
  have hpos := hm.pos
  -- With one column for each level the pen stays right behind the dash, as it does behind a
  -- colon.
  by_cases hone : n = 1
  · subst hone
    have hwritten := Pen.leaf_behind hx (column + 2) true true (text ++ ['-']) (column + 2)
    rw [show column + 2 + 1 + x.chars.length = column + 1 + 2 + x.chars.length by omega,
      decide_eq_true (Nat.lt_succ_self (column + 2)), Bool.and_true] at hwritten
    refine ⟨_, congrArg Except.ok ((hleaf.trans ?_).trans hwritten), ?_⟩
    · have hstay := Pen.indentTo_behindDash_stay text (column + 1)
      change Pen.leaf m _ false true (Pen.indentTo _ (Pen.behindDash _ _ true)) x = _
      rw [show column + 2 * 1 = column + 1 + 1 from rfl, hstay]
      rfl
    · rw [decide_eq_true rfl, Bool.and_true]
      have hmore : column < column + 2 + x.chars.length := by omega
      split
      · simpa [Placing.lead] using Pen.ready_inFront
          (text ++ '-' :: ' ' :: '\n' :: List.replicate (column + 2) ' ' ++ x.chars) hmore
      · simpa [Placing.lead] using
          Pen.ready_behind (text ++ '-' :: ' ' :: x.chars)
            (column + 1 + 2 + x.chars.length) column
  · have hwritten := Pen.leaf_inFront hx true
      (text ++ '-' :: List.replicate (n - 1) ' ') (Nat.le_refl (column + 2 * n))
    have hgap : column + 2 * n - (column + n + 1) = n - 1 := by omega
    have hright : column + n + 1 < column + 2 * n := by omega
    have hdash := Pen.indentTo_behindDash text hright
    rw [hgap] at hdash
    rw [← hdash] at hwritten
    rw [beq_eq_false_iff_ne.mpr hone] at hleaf ⊢
    refine ⟨_, congrArg Except.ok (hleaf.trans hwritten), ?_⟩
    have hgap' : n - 2 + 1 = n - 1 := by omega
    simpa [hone, Placing.lead, hgap'] using
      Pen.ready_behind (text ++ '-' :: List.replicate (n - 1) ' ' ++ x.chars) _ column

end Parts

/-! ## Rows -/

theorem notes_layout (t : Tree) (id : Nat) : (t.layout id).notes.before = [] := by
  cases t <;> rfl

theorem isSetItem_leaf : ∀ x : Leaf, (leafLayout x).isSetItem = false
  | .plain _ _ => rfl
  | .quoted ⟨false, _, _⟩ => rfl
  | .quoted ⟨true, _, _⟩ => rfl

theorem isSetItem_layout (t : Tree) (id : Nat) : (t.layout id).isSetItem = false := by
  cases t with
  | leaf x => exact isSetItem_leaf x
  | list items => rfl
  | table entries => rfl

/-- Where there are no comments, a row begins in its column. -/
theorem beginLine_layout (t : Tree) (id : Nat)
    (hp : p.indentTo (some (column : Int)) = .inFront text column) :
    beginLine (t.layout id) (some (column : Int)) p = .ok (.inFront text column) := by
  rw [beginLine, notes_layout, ← hp]
  rfl

theorem mark_dash (text : List Char) (column n : Nat) :
    (Pen.inFront text column).mark (List.replicate n ' ' ++ ['-']) true false true =
      .behindDash (text ++ List.replicate n ' ') (column + n) false := by
  simp [Pen.mark, Pen.inFront, Pen.write, Pen.behindDash, Pen.behind]
  omega

/-- An item is written behind its dash. -/
theorem writeItems_cons {n : Nat} (hm : m.Steps n) (hs : ItemsSpot s column) {t : Tree}
    {id : Nat} {more : List Layout} {q q' : Pen}
    (hp : p.indentTo (some (column : Int)) = .inFront text column)
    (hitem : write m [] (itemSpot s) (t.layout id)
      (.behindDash (text ++ List.replicate n ' ') (column + n) (n == 1)) = .ok q)
    (hmore : writeItems m [] s more q = .ok q') :
    writeItems m [] s (t.layout id :: more) p = .ok q' := by
  have hdash : (if 2 * m.step < m.step + 2 then
      { Pen.behindDash (text ++ List.replicate n ' ') (column + n) false with noNewline := true }
    else Pen.behindDash (text ++ List.replicate n ' ') (column + n) false) =
      .behindDash (text ++ List.replicate n ' ') (column + n) (n == 1) := by
    have hstep := hm.step
    have hpos := hm.pos
    by_cases hone : n = 1
    · have hless : 2 * m.step < m.step + 2 := by omega
      rw [if_pos hless, hone]
      rfl
    · have hnot : ¬ 2 * m.step < m.step + 2 := by omega
      rw [if_neg hnot, beq_eq_false_iff_ne.mpr hone]
  rw [writeItems, hs.indent, beginLine_layout t id hp, ok_bind, hm.toNat]
  simp only [mark_dash, hdash]
  change (write m [] (itemSpot s) _ _ >>= _) = _
  rw [hitem, ok_bind]
  exact hmore

theorem isSimpleKey_key (key : Key) : isSimpleKey [] (keyLayout key) = true := by
  have hmultiline : (Analysis.ofText key.chars).multiline = false := key.toPhrase.analysis.2.1
  have h := key.standsFor
  have hshort := key.short
  rw [keyLayout]
  generalize key.core = core, key.value = v at h
  cases h with
  | text =>
      have htag : (Tag.ofCore .str).written.length = 5 := by decide
      simp only [reduceCtorEq, if_false, isSimpleKey, anchor?, Option.bind_none,
        anchorLength, htag, hmultiline, simpleKeyLimit, Bool.not_false, Bool.and_true,
        decide_eq_true_eq]
      omega
  | truth b htext =>
      rw [htext]
      cases b <;> decide
  | null htext => rfl

/-- An entry is written behind the colon of its key. -/
theorem writeEntries_cons {n : Nat} (hm : m.Steps n) (hs : EntriesSpot s column) {key : Key}
    {t : Tree} {id : Nat} {more : List (Layout × Layout)} {q q' : Pen}
    (hp : p.indentTo (some (column : Int)) = .inFront text column)
    (hmember : write m [] (s.member false) (t.layout id)
      (.behind (text ++ key.chars ++ [':']) (column + key.chars.length + 1)) = .ok q)
    (hmore : writeEntries m [] s more q = .ok q') :
    writeEntries m [] s ((keyLayout key, t.layout id) :: more) p = .ok q' := by
  have hbegin : beginLine (keyLayout key) (some (column : Int)) p =
    .ok (.inFront text column) := by
    rw [beginLine, ← hp]
    rfl
  rw [writeEntries, hs.indent, hbegin, ok_bind, isSimpleKey_key, if_pos rfl]
  have hset : (keyLayout key).isSetItem = false := rfl
  simp only [hset, isSetItem_layout, Bool.false_eq_true, if_false]
  change ((write m [] (keySpot s) (keyLayout key) _ >>= _) >>= _) = _
  rw [write_key hm key hs, ok_bind]
  change ((write m [] (s.member false) _ ((Pen.behind _ _).mark [':'] false false false)) >>=
    _) = _
  rw [mark_colon, hmember, ok_bind]
  exact hmore

/-! ## Collections -/

theorem writeTag_core (core : CoreTag) (p : Pen) : writeTag (.ofCore core) core p = p := by
  have hname : ((Tag.ofCore core).name == core.name) = true := beq_self_eq_true core.name
  rw [writeTag, if_pos hname]

theorem openSequence_bare (s : Spot) (p : Pen) : openSequence s {} false p = .ok (p, false) := by
  rw [openSequence]
  cases s.announced <;> rfl

theorem openMapping_bare (s : Spot) (p : Pen) : openMapping s {} false p = .ok (p, false) := by
  rw [openMapping]
  cases s.announced <;> rfl

theorem write_list {ls : List Layout} {id : Nat} {inner : Spot} {p' q : Pen}
    (hflow : s.flow = []) (hsome : ls.isEmpty = false)
    (hinner : s.inside m false true (s.isMember && !p.indention) = inner)
    (hstart : (if inner.inNestedSequence then { p with indention := true, noNewline := false }
      else p) = p')
    (hwrite : writeItems m [] inner ls p' = .ok q) (hq : q.Ready text column) :
    write m [] s (.sequence { id := some id, tag := .ofCore .seq } false ls) p = .ok q := by
  have hinFlow : s.inFlow = false := by
    rw [Spot.inFlow, hflow]
    rfl
  rw [write]
  simp only [anchor?, Option.bind_some, List.lookup_nil, writeAnchor, writeTag_core]
  rw [openSequence_bare, ok_bind]
  simp only [hinFlow, hsome, Bool.or_self, Bool.false_eq_true, if_false, hinner, hstart]
  rw [hwrite, ok_bind]
  exact congrArg Except.ok hq.keep

theorem write_table {entries : List (Layout × Layout)} {id : Nat} {q : Pen} (hflow : s.flow = [])
    (hsome : entries.isEmpty = false)
    (hwrite : writeEntries m [] (s.inside m false false false) entries p = .ok q) :
    write m [] s (.mapping { id := some id, tag := .ofCore .map } false entries) p = .ok q := by
  have hinFlow : s.inFlow = false := by
    rw [Spot.inFlow, hflow]
    rfl
  rw [write]
  simp only [anchor?, Option.bind_some, List.lookup_nil, writeAnchor, writeTag_core]
  rw [openMapping_bare, ok_bind]
  simp only [hinFlow, hsome, Bool.or_self, Bool.false_eq_true, if_false]
  rw [hwrite, ok_bind]
  rfl

theorem layouts_some (items : Tree.Items) (id : Nat) : (items.layouts id).isEmpty = false := by
  cases items <;> rfl

theorem entryLayouts_some (entries : Tree.Entries) (id : Nat) :
    (entries.layouts id).isEmpty = false := by
  cases entries <;> rfl

/-! ## Trees -/

section Trees

variable {n : Nat} (hm : m.Steps n)
include hm

/-- Where the first dash of a list goes that belongs to a dash itself. -/
theorem indentTo_list (items : Tree.Items) (text : List Char) (column : Nat) :
    ∃ text', (Pen.behindDash text (column + n) false).indentTo
        (some ((column + 2 * n : Nat) : Int)) = .inFront text' (column + 2 * n) ∧
      text' ++ List.replicate n ' ' =
        text ++ '-' :: ((Tree.list items).placing m (column + n)).lead (column + n) ∧
      ((Tree.list items).placing m (column + n)).column (column + n) = column + 2 * n + n := by
  rw [Tree.placing, hm.toNat]
  have hpos := hm.pos
  by_cases hone : n = 1
  · subst hone
    refine ⟨_, Pen.indentTo_behindDash_newline text (column + 1), ?_, rfl⟩
    simp [Placing.lead, ← List.replicate_succ']
  · refine ⟨_, Pen.indentTo_behindDash text (by omega), ?_, ?_⟩
    · have hgap : column + 2 * n - (column + n + 1) + n = 2 * n - 2 + 1 := by omega
      simp [hone, Placing.lead, hgap]
    · rw [if_neg hone, Placing.column]
      omega

/-- Where the first key of a table goes that belongs to a dash. -/
theorem indentTo_table (hone : n ≠ 1) (entries : Tree.Entries) (text : List Char)
    (column : Nat) :
    ∃ text', (Pen.behindDash text (column + n) (n == 1)).indentTo
        (some ((column + 2 * n : Nat) : Int)) = .inFront text' (column + 2 * n) ∧
      text' = text ++ '-' :: ((Tree.table entries).placing m (column + n)).lead (column + n) ∧
      ((Tree.table entries).placing m (column + n)).column (column + n) = column + 2 * n := by
  rw [Tree.placing, hm.toNat, beq_eq_false_iff_ne.mpr hone]
  have hpos := hm.pos
  have hgap : column + 2 * n - (column + n + 1) = n - 2 + 1 := by omega
  refine ⟨_, Pen.indentTo_behindDash text (by omega), by rw [hgap, Placing.lead], ?_⟩
  rw [Placing.column]
  omega

-- By induction on the tree.  With one column for each level a table has no room behind a dash.
mutual

/-- What belongs to a dash is written in its canonical place. -/
theorem write_item : ∀ {t : Tree} (id : Nat) {column : Nat} {s : Spot} (text : List Char),
    ItemsSpot s column → t.Unbroken m → (n = 1 → t.isTable = false ∧ t.TablesApart) →
      ∃ q,
        write m [] (itemSpot s) (t.layout id) (.behindDash text (column + n) (n == 1)) = .ok q ∧
        q.Ready (text ++ '-' :: ((t.placing m (column + n)).lead (column + n) ++
          (t.placed m ((t.placing m (column + n)).column (column + n))).text
            ((t.placing m (column + n)).column (column + n)))) column
  | .leaf x, id, column, s, text, hs, hunbroken, _ => write_itemLeaf hm hunbroken hs text
  | .list items, id, column, s, text, hs, hunbroken, hroom => by
      obtain ⟨text', hp, hlead, hcolumn⟩ := indentTo_list hm items text column
      obtain ⟨q, hitems, hready⟩ := write_items items (id + 1) text' (hs.list hm) hunbroken
        (fun hone => (hroom hone).2) hp
      have hflow : (itemSpot s).flow = [] := hs.flow
      refine ⟨q, write_list hflow (layouts_some items _) rfl
        ((if_pos (nested_item hs)).trans rfl) hitems hready, ?_⟩
      rw [hcolumn, Tree.placed, Block.text]
      rw [hlead] at hready
      simpa using hready.weaken (Nat.le_add_right column (2 * n))
  | .table entries, id, column, s, text, hs, hunbroken, hroom => by
      have hone : n ≠ 1 := fun hone => Bool.noConfusion (hroom hone).1
      obtain ⟨text', hp, hlead, hcolumn⟩ := indentTo_table hm hone entries text column
      obtain ⟨q, hentries, hready⟩ := write_entries entries (id + 1) text'
        (hs.table hm) hunbroken (fun h => absurd h hone) hp
      have hflow : (itemSpot s).flow = [] := hs.flow
      refine ⟨q, write_table hflow (entryLayouts_some entries _) hentries, ?_⟩
      rw [hcolumn, Tree.placed, Block.text]
      rw [hlead] at hready
      simpa using hready.weaken (Nat.le_add_right column (2 * n))

theorem write_items : ∀ (items : Tree.Items) (id : Nat) {column : Nat} {s : Spot} {p : Pen}
    (text : List Char), ItemsSpot s column → (m.width = none ∨ items.Solid) →
      (n = 1 → items.TablesApart) → p.indentTo (some (column : Int)) = .inFront text column →
        ∃ q, writeItems m [] s (items.layouts id) p = .ok q ∧
          q.Ready
            (text ++ List.replicate n ' ' ++ (items.placed m (column + n)).text (column + n))
            column
  | .last t, id, column, s, p, text, hs, hunbroken, hroom, hp => by
      obtain ⟨q, hitem, hready⟩ :=
        write_item id (text ++ List.replicate n ' ') hs hunbroken hroom
      exact ⟨q, writeItems_cons hm hs hp hitem rfl, hready⟩
  | .cons t more, id, column, s, p, text, hs, hunbroken, hroom, hp => by
      obtain ⟨q, hitem, hready⟩ := write_item id (text ++ List.replicate n ' ') hs
        (hunbroken.imp_right And.left) fun hone => (hroom hone).1
      obtain ⟨q', hmore, hready'⟩ := write_items more (id + t.count) _ hs
        (hunbroken.imp_right And.right) (fun hone => (hroom hone).2)
        (hready.indentTo column (Nat.le_refl column))
      refine ⟨q', writeItems_cons hm hs hp hitem hmore, ?_⟩
      rw [Tree.Items.placed, Block.Items.text, List.replicate_add]
      simpa only [List.append_assoc, List.cons_append] using hready'

theorem write_entries : ∀ (entries : Tree.Entries) (id : Nat) {column : Nat} {s : Spot} {p : Pen}
    (text : List Char), EntriesSpot s column → (m.width = none ∨ entries.Solid) →
      (n = 1 → entries.TablesApart) →
        p.indentTo (some (column : Int)) = .inFront text column →
        ∃ q, writeEntries m [] s (entries.layouts id) p = .ok q ∧
          q.Ready (text ++ (entries.placed m column).text column) column
  | .last key t, id, column, s, p, text, hs, hunbroken, hroom, hp => by
      obtain ⟨q, hmember, hready⟩ :=
        write_member (t := t) (id + 1) key (text ++ key.chars ++ [':'])
        hs hunbroken hroom
      refine ⟨q, writeEntries_cons hm hs hp hmember rfl, ?_⟩
      simpa [Tree.Entries.placed, Block.Entries.text] using hready
  | .cons key t more, id, column, s, p, text, hs, hunbroken, hroom, hp => by
      obtain ⟨q, hmember, hready⟩ :=
        write_member (t := t) (id + 1) key (text ++ key.chars ++ [':'])
        hs (hunbroken.imp_right And.left) fun hone => (hroom hone).1
      obtain ⟨q', hmore, hready'⟩ := write_entries more (id + 1 + t.count) _ hs
        (hunbroken.imp_right And.right) (fun hone => (hroom hone).2)
          (hready.indentTo column (Nat.le_refl column))
      refine ⟨q', writeEntries_cons hm hs hp hmember hmore, ?_⟩
      simpa [Tree.Entries.placed, Block.Entries.text] using hready'

/-- What stands under a key is written in its canonical place. -/
theorem write_member : ∀ {t : Tree} (id : Nat) {column : Nat} {s : Spot} (key : Key)
    (text : List Char), EntriesSpot s column → t.Unbroken m → (n = 1 → t.TablesApart) →
      ∃ q, write m [] (s.member false) (t.layout id)
          (.behind text (column + key.chars.length + 1)) = .ok q ∧
        q.Ready (text ++ (t.member m column key).text column) column
  | .leaf x, id, column, s, key, text, hs, hunbroken, _ =>
      write_memberLeaf hm key hunbroken hs text
  | .list items, id, column, s, key, text, hs, hunbroken, hroom => by
      obtain ⟨q, hitems, hready⟩ := write_items items (id + 1) _ hs.list hunbroken hroom
        ((Pen.ready_behind text (column + key.chars.length + 1) column).indentTo column
          (Nat.le_refl column))
      have hflow : (s.member false).flow = [] := hs.flow
      refine ⟨q, write_list hflow (layouts_some items _) rfl
        (if_neg fun h => Bool.false_ne_true ((nested_member hs).symm.trans h)) hitems hready, ?_⟩
      rw [Tree.member, hm.toNat, Block.Member.text, Block.least, Nat.add_zero,
        List.replicate_add, Block.text]
      simpa using hready
  | .table entries, id, column, s, key, text, hs, hunbroken, hroom => by
      obtain ⟨q, hentries, hready⟩ := write_entries entries (id + 1) _ (hs.table hm)
        hunbroken hroom
          ((Pen.ready_behind text (column + key.chars.length + 1) (column + n)).indentTo
          (column + n) (Nat.le_refl (column + n)))
      have hflow : (s.member false).flow = [] := hs.flow
      refine ⟨q, write_table hflow (entryLayouts_some entries _) hentries, ?_⟩
      have hpos := hm.pos
      have hplace : column + 1 + (n - 1) = column + n := by omega
      rw [Tree.member, hm.toNat]
      simpa [Block.Member.text, Block.least, Block.text, hplace] using
        hready.weaken (Nat.le_add_right column n)

end

end Trees

/-! ## Documents -/

section Documents

variable {n : Nat} (hm : m.Steps n)
include hm

/-- A list or a table that is the root of a document. -/
theorem write_rootCollection {t : Tree} (hleaf : t.isLeaf = false) (hunbroken : t.Unbroken m)
    (hroom : n = 1 → t.TablesApart) :
    ∃ q, write m [] { isRoot := true } (t.layout 0) {} = .ok q ∧
      q.Ready (List.replicate (t.margin m) ' ' ++ (t.placed m (t.margin m)).text (t.margin m))
        0 := by
  cases t with
  | leaf x => cases hleaf
  | list items =>
      obtain ⟨q, hitems, hready⟩ := write_items hm items 1 []
        (s := ({ isRoot := true } : Spot).inside m false true false) ⟨rfl, rfl, rfl⟩ hunbroken
        hroom (p := {}) rfl
      refine ⟨q, write_list rfl (layouts_some items _) rfl (if_neg Bool.false_ne_true) hitems
        hready, ?_⟩
      rw [Tree.margin, hm.toNat, Tree.placed, Block.text]
      simpa using hready
  | table entries =>
      obtain ⟨q, hentries, hready⟩ := write_entries hm entries 1 []
        (s := ({ isRoot := true } : Spot).inside m false false false) ⟨rfl, rfl, rfl⟩ hunbroken
        hroom (p := {}) rfl
      exact ⟨q, write_table rfl (entryLayouts_some entries _) hentries, hready⟩

theorem write_collection {t : Tree} (hleaf : t.isLeaf = false) (hunbroken : t.Unbroken m)
    (hroom : n = 1 → t.TablesApart) :
    DocumentLayout.write m { root := t.layout 0, anchors := [] } =
      .ok (List.replicate (t.margin m) ' ' ++ (t.placed m (t.margin m)).text (t.margin m)) := by
  obtain ⟨q, hwrite, hready⟩ := write_rootCollection hm hleaf hunbroken hroom
  have hfinish := hready.indentTo 0 (Nat.le_refl 0)
  rw [DocumentLayout.write, hwrite, ok_bind]
  change Except.ok (if (q.indentTo (some ((0 : Nat) : Int))).openEnded then
    ((q.indentTo (some ((0 : Nat) : Int))).mark _ true false false).indentTo none
    else q.indentTo (some ((0 : Nat) : Int))).done.reverse = _
  rw [hfinish]
  simp [Pen.inFront]

omit hm in
/-- A plain leaf that is the root of a document leaves it open at its end. -/
theorem write_rootLeaf (m : Measures) {x : Leaf} (hunbroken : x.Unbroken m) :
    DocumentLayout.write m { root := leafLayout x, anchors := [] } =
      .ok (x.chars ++ if x.isPlain then documentEnd else ['\n']) := by
  let p : Pen := { Pen.behind x.chars x.chars.length with openEnded := x.isPlain }
  have hscalar := writeScalar_leaf (m := m) x {} (s := { isRoot := true }) rfl rfl {}
  have hleaf : write m [] { isRoot := true } (leafLayout x) {} = .ok p := by
    refine congrArg Except.ok (hscalar.trans ?_)
    cases x with
    | plain ph hnull =>
        have hplain :=
          Pen.plain_phrase (m := m) ph hunbroken none true (p := { openEnded := true })
          (q := { whitespace := false, indention := false, openEnded := true }) rfl
        refine hplain.trans ?_
        simp [Pen.wraps, Pen.write, p, Pen.behind, Leaf.chars, Leaf.isPlain]
    | quoted q =>
        refine (Pen.leaf_quoted q hunbroken none true true {}).trans ?_
        simp [Pen.write, p, Pen.behind, Leaf.chars, Leaf.isPlain]
  rw [DocumentLayout.write, hleaf, ok_bind]
  cases hplain : x.isPlain <;>
    simp [p, hplain, Pen.behind, Pen.indentTo, Pen.newline, Pen.breakWith, Pen.mark, Pen.write,
      documentEnd]
  all_goals rfl

end Documents

end Layout
end Yaml
end YamlTidy
