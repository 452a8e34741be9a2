import YamlTidy.Proofs.Repair.Outlines
import Mathlib.Data.Bool.AllAny

/-!
# The repair of misindented lists of words

Someone types a list of words, each item behind any spaces and tabs and in front of any spaces, tabs
and commas, with a key above the list or none.  Surface cleanup leaves rows that begin with spaces
and end with a word (`normalize_of_trailed`): whatever it does to the blanks and commas behind a
word, what stands there stays blanks and commas (`Trailed`), and in the end nothing of it can stay.
Realignment then moves all items to one column, and the strict gate formats the list that comes out.

Main statement: `autoFix_typed_list`.
-/

namespace YamlTidy
namespace Repair

open Text Yaml
open Yaml.Outline (row dashed)

/-! ## Rows with spaces and commas behind them -/

/-- A text that has a row for each of the given ones: that row with spaces and commas behind it. -/
def Trailed : List (List Char) → List Char → Prop
  | [], s => s = []
  | body :: bodies, s => ∃ tail rest, (∀ c ∈ tail, c = ' ' ∨ c = ',') ∧
      s = body ++ (tail ++ '\n' :: rest) ∧ Trailed bodies rest

/-- A row in which surface cleanup finds nothing to do. -/
structure Solid (body : List Char) : Prop where
  noComma : ',' ∉ body
  noFeed : '\n' ∉ body
  last : stripEnd body = body

section Trailed

variable {bodies : List (List Char)} {s : List Char}

theorem dropCommasOnce_append {body : List Char} (h : ',' ∉ body) (rest : List Char) :
    dropCommasOnce (body ++ rest) = body ++ dropCommasOnce rest := by
  induction body with
  | nil => rfl
  | cons c body ih =>
      have hc : c ≠ ',' := fun e => h (e ▸ List.mem_cons_self)
      rw [List.cons_append, dropCommasOnce, ih fun m => h (List.mem_cons_of_mem c m)]
      simp [hc]

/-- Deleting commas behind a row leaves spaces and commas there. -/
theorem dropCommasOnce_tail {tail : List Char} (h : ∀ c ∈ tail, c = ' ' ∨ c = ',')
    (rest : List Char) :
    ∃ left, (∀ c ∈ left, c = ' ' ∨ c = ',') ∧
      dropCommasOnce (tail ++ '\n' :: rest) = left ++ '\n' :: dropCommasOnce rest := by
  induction tail with
  | nil => exact ⟨[], by simp, by simp [dropCommasOnce]⟩
  | cons c tail ih =>
      obtain ⟨left, hleft, hdrop⟩ := ih fun d hd => h d (List.mem_cons_of_mem c hd)
      rw [List.cons_append, dropCommasOnce, hdrop]
      split
      · exact ⟨left, hleft, rfl⟩
      · exact ⟨c :: left, List.forall_mem_cons.mpr ⟨h c List.mem_cons_self, hleft⟩, rfl⟩

theorem trailed_dropCommasOnce (hbodies : ∀ b ∈ bodies, Solid b) (h : Trailed bodies s) :
    Trailed bodies (dropCommasOnce s) := by
  induction bodies generalizing s with
  | nil =>
      rw [show s = [] from h]
      rfl
  | cons body bodies ih =>
      obtain ⟨tail, rest, htail, rfl, hrest⟩ := h
      obtain ⟨left, hleft, hdrop⟩ := dropCommasOnce_tail htail rest
      rw [dropCommasOnce_append (hbodies body List.mem_cons_self).noComma, hdrop]
      exact ⟨left, _, hleft, rfl, ih (fun b hb => hbodies b (List.mem_cons_of_mem _ hb)) hrest⟩

theorem trailed_dropCommasWithin (hbodies : ∀ b ∈ bodies, Solid b) (n : Nat)
    (h : Trailed bodies s) : Trailed bodies (dropCommasWithin n s) := by
  induction n generalizing s with
  | zero => exact h
  | succ n ih =>
      unfold dropCommasWithin
      simp only
      split
      · exact h
      · exact ih (trailed_dropCommasOnce hbodies h)

/-- What stands behind a solid row is stripped without it. -/
theorem stripEnd_append_tail {body : List Char} (h : stripEnd body = body) (tail : List Char) :
    stripEnd (body ++ tail) = body ++ stripEnd tail := by
  induction tail using List.reverseRecOn with
  | nil => simpa [stripEnd] using h
  | append_singleton tail c ih =>
      have hconcat (s : List Char) : stripEnd (s ++ [c]) =
          if isBlank c = true then stripEnd s else s ++ [c] := List.rdropWhile_concat isBlank s c
      rw [← List.append_assoc, hconcat, hconcat, ih]
      split
      · rfl
      · exact List.append_assoc _ _ _

theorem lineFeed_not_mem_tail {tail : List Char} (h : ∀ c ∈ tail, c = ' ' ∨ c = ',') :
    '\n' ∉ tail := by
  intro hmem
  rcases h _ hmem with e | e <;> exact absurd e (by decide)

/-- A solid row with spaces and commas behind it is stripped of some of them. -/
theorem stripRows_solid {body tail : List Char} (hbody : Solid body)
    (htail : ∀ c ∈ tail, c = ' ' ∨ c = ',') (rest : List Char) :
    stripRows (body ++ (tail ++ '\n' :: rest)) =
      body ++ (stripEnd tail ++ '\n' :: stripRows rest) := by
  have hfeed : '\n' ∉ body ++ tail := by
    simpa using ⟨hbody.noFeed, lineFeed_not_mem_tail htail⟩
  rw [← List.append_assoc, stripRows_append_lineFeed hfeed, stripEnd_append_tail hbody.last,
    List.append_assoc]

theorem trailed_stripRows (hbodies : ∀ b ∈ bodies, Solid b) (h : Trailed bodies s) :
    Trailed bodies (stripRows s) := by
  induction bodies generalizing s with
  | nil =>
      rw [show s = [] from h]
      rfl
  | cons body bodies ih =>
      obtain ⟨tail, rest, htail, rfl, hrest⟩ := h
      rw [stripRows_solid (hbodies body List.mem_cons_self) htail]
      exact ⟨stripEnd tail, _, fun c hc => htail c (mem_of_mem_stripEnd hc), rfl,
        ih (fun b hb => hbodies b (List.mem_cons_of_mem _ hb)) hrest⟩

/-- Spaces in front of a line feed close what stands before them. -/
theorem closes_spaces {tail : List Char} (h : ∀ c ∈ tail, c = ' ') (rest : List Char) :
    closes (tail ++ '\n' :: rest) = true := by
  induction tail with
  | nil => rfl
  | cons c tail ih =>
      have hspace : isBlank ' ' = true := by decide
      simp [closes, h c List.mem_cons_self, hspace,
        ih fun d hd => h d (List.mem_cons_of_mem c hd)]

/-- The last comma in front of a line feed with nothing but spaces between is a leftover. -/
theorem exists_leftover {tail : List Char} (h : ∀ c ∈ tail, c = ' ' ∨ c = ',')
    (hcomma : ',' ∈ tail) (rest : List Char) :
    ∃ front back, tail ++ '\n' :: rest = front ++ ',' :: back ∧ closes back = true := by
  induction tail with
  | nil => simp at hcomma
  | cons c tail ih =>
      have htail := fun d hd => h d (List.mem_cons_of_mem c hd)
      by_cases hmore : ',' ∈ tail
      · obtain ⟨front, back, hsplit, hcloses⟩ := ih htail hmore
        exact ⟨c :: front, back, by rw [List.cons_append, hsplit, List.cons_append], hcloses⟩
      · have hc : c = ',' := by simpa [hmore, eq_comm] using hcomma
        have hspaces : ∀ d ∈ tail, d = ' ' :=
          fun d hd => (htail d hd).resolve_right fun e => hmore (e ▸ hd)
        exact ⟨[], tail ++ '\n' :: rest, by rw [hc]; rfl, closes_spaces hspaces rest⟩

/-- Without leftovers there are only spaces behind the rows, and these are stripped. -/
theorem stripRows_of_no_leftover (hbodies : ∀ b ∈ bodies, Solid b) (h : Trailed bodies s)
    (hleft : ∀ front back, s = front ++ ',' :: back → closes back = false) :
    stripRows s = bodies.flatMap (· ++ ['\n']) := by
  induction bodies generalizing s with
  | nil =>
      rw [show s = [] from h]
      rfl
  | cons body bodies ih =>
      obtain ⟨tail, rest, htail, rfl, hrest⟩ := h
      have hspaces : ∀ c ∈ tail, isBlank c = true := by
        intro c hc
        rcases htail c hc with rfl | rfl
        · decide
        · obtain ⟨front, back, hsplit, hcloses⟩ := exists_leftover htail hc rest
          have := hleft (body ++ front) back (by rw [hsplit, List.append_assoc])
          rw [hcloses] at this
          cases this
      have hstrip : stripEnd tail = [] := List.rdropWhile_eq_nil_iff.mpr hspaces
      have hmore := ih (fun b hb => hbodies b (List.mem_cons_of_mem _ hb)) hrest
        fun front back e => hleft (body ++ (tail ++ '\n' :: front)) back (by simp [e])
      rw [stripRows_solid (hbodies body List.mem_cons_self) htail, hstrip, hmore]
      simp

/-- Cleanup leaves solid rows alone and deletes all that stands behind them. -/
theorem stripRows_dropCommas_stripRows (hbodies : ∀ b ∈ bodies, Solid b)
    (h : Trailed bodies s) :
    stripRows (dropCommas (stripRows s)) = bodies.flatMap (· ++ ['\n']) :=
  stripRows_of_no_leftover hbodies
    (trailed_dropCommasWithin hbodies _ (trailed_stripRows hbodies h))
    (dropCommasOnce_eq_self_iff.mp (dropCommasOnce_dropCommas _))

end Trailed

/-! ## Words of small letters -/

/-- A letter from a to z. -/
def IsSmall (c : Char) : Prop :=
  'a' ≤ c ∧ c ≤ 'z'

/-- A word of small letters. -/
structure Letters where
  chars : List Char
  nonempty : chars ≠ []
  small : ∀ c ∈ chars, IsSmall c

/-- A word of small letters that stands for no truth value and not for nothing. -/
structure SmallWord extends Letters where
  notNull : chars ≠ "null".toList
  notTrue : chars ≠ "true".toList
  notFalse : chars ≠ "false".toList

instance (c : Char) : Decidable (IsSmall c) :=
  inferInstanceAs (Decidable (_ ∧ _))

/-- What holds of the 26 letters holds of every small one. -/
theorem forall_small {P : Char → Prop} (h : ∀ k : Fin 26, P (Char.ofNat (97 + k))) {c : Char}
    (hc : IsSmall c) : P c :=
  forall_code h hc.1 (Nat.lt_succ_of_le hc.2)

theorem opensPhrase_of_small {c : Char} (hc : IsSmall c) : opensPhrase c = true :=
  forall_small (P := fun c => opensPhrase c = true) (by decide +kernel) hc

namespace Letters

variable (w : Letters)

theorem begins : w.chars.head?.any opensPhrase = true := by
  obtain ⟨c, rest, hcons⟩ := List.exists_cons_of_ne_nil w.nonempty
  rw [hcons]
  exact opensPhrase_of_small (w.small c (hcons ▸ List.mem_cons_self))

theorem fits : isPhrase true w.chars = true :=
  isPhrase_of_word (fun c hc => isWordChar_of_opensPhrase (opensPhrase_of_small (w.small c hc)))
    (.inl w.nonempty)

end Letters

namespace SmallWord

variable (w : SmallWord)

theorem ne_of_not_small {s : List Char} {c : Char} (hmem : c ∈ s) (hc : ¬ IsSmall c) :
    w.chars ≠ s :=
  fun e => hc (w.small c (e ▸ hmem))

theorem isBool_eq_false : Schema.isBool false w.chars = false := by
  refine List.any_eq_false.mpr fun word hmem => ?_
  simp only [Bool.false_eq_true, if_false, List.mem_cons, List.not_mem_nil, or_false] at hmem
  rw [beq_iff_eq, eq_comm]
  rcases hmem with rfl | rfl | rfl | rfl | rfl | rfl
  · exact w.notTrue
  · exact w.ne_of_not_small (c := 'T') (by decide) (by decide)
  · exact w.ne_of_not_small (c := 'T') (by decide) (by decide)
  · exact w.notFalse
  · exact w.ne_of_not_small (c := 'F') (by decide) (by decide)
  · exact w.ne_of_not_small (c := 'F') (by decide) (by decide)

theorem isNull_eq_false : Schema.isNull w.chars = false := by
  simp only [Schema.isNull, Bool.or_eq_false_iff, beq_eq_false_iff_ne]
  refine ⟨⟨⟨⟨?_, ?_⟩, w.notNull⟩, ?_⟩, ?_⟩
  · simpa using w.nonempty
  · exact w.ne_of_not_small (c := '~') (by decide) (by decide)
  · exact w.ne_of_not_small (c := 'N') (by decide) (by decide)
  · exact w.ne_of_not_small (c := 'N') (by decide) (by decide)

/-- A word of small letters is taken for a text. -/
theorem resolve_eq_str : Schema.resolve false w.chars = .str := by
  have hbool := w.isBool_eq_false
  have hnull := w.isNull_eq_false
  obtain ⟨c, rest, hcons⟩ := List.exists_cons_of_ne_nil w.nonempty
  have hc : IsSmall c := w.small c (hcons ▸ List.mem_cons_self)
  have hfirst : c.isDigit = false ∧ c ∉ ['-', '+', '.', '<', '='] :=
    forall_small (P := fun c => c.isDigit = false ∧ c ∉ ['-', '+', '.', '<', '='])
      (by decide +kernel) hc
  simp only [List.mem_cons, List.not_mem_nil, or_false, not_or] at hfirst
  rw [hcons] at hbool hnull ⊢
  simp [Schema.resolve, hbool, hnull, hfirst]

/-- A word of small letters as a phrase. -/
def toPhrase : Phrase :=
  ⟨w.chars, .str, .text w.chars .plain [] none none, w.begins, w.fits, .text w.resolve_eq_str⟩

/-- A word of small letters as a leaf. -/
def toLeaf : Leaf :=
  .plain w.toPhrase nofun

theorem comma_not_mem_dashed : ',' ∉ dashed w.toLeaf := by
  have hcomma : ',' ∉ w.chars := fun h => absurd (w.small _ h) (by decide)
  simpa [dashed, toLeaf, Leaf.chars, toPhrase] using hcomma

end SmallWord

theorem inkOrSpace_dashed (x : Leaf) : ∀ c ∈ dashed x, isInk c = true ∨ c = ' ' :=
  Outline.inkOrSpace_content (.dashed x (List.mem_singleton_self _))

/-! ## Typed lists -/

/-- An item of a list of words as someone typed it. -/
structure TypedItem where
  lead : List Char
  word : SmallWord
  trail : List Char
  leadBlank : ∀ c ∈ lead, c = ' ' ∨ c = '\t'
  trailFiller : ∀ c ∈ trail, c = ' ' ∨ c = '\t' ∨ c = ','

namespace TypedItem

/-- The line of an item as it was typed. -/
def text (i : TypedItem) : List Char :=
  i.lead ++ "- ".toList ++ i.word.chars ++ i.trail ++ ['\n']

/-- The column in which the dash of an item stands when tabs are two columns wide. -/
def column (i : TypedItem) : Nat :=
  (expandTabs 2 i.lead).length

/-- The row of an item without anything behind its word. -/
def body (i : TypedItem) : List Char :=
  row i.column (dashed i.word.toLeaf)

variable (i : TypedItem)

theorem solid_body : Solid i.body where
  noComma := by
    simpa [body, row] using i.word.comma_not_mem_dashed
  noFeed := by
    have hfeed : '\n' ∉ dashed i.word.toLeaf := fun h =>
      absurd (inkOrSpace_dashed _ _ h) (by decide)
    simpa [body, row] using hfeed
  last := by
    rw [body, row_eq_place]
    exact stripEnd_place (shown_dashed _).nonempty (shown_dashed _).last _

/-- Tabs in front of a dash and behind a word become spaces. -/
theorem expandTabs_text : ∃ tail, (∀ c ∈ tail, c = ' ' ∨ c = ',') ∧
    expandTabs 2 i.text = i.body ++ (tail ++ ['\n']) := by
  have hlead : expandTabs 2 i.lead = List.replicate i.column ' ' := by
    refine List.eq_replicate_iff.mpr ⟨rfl, fun c hc => ?_⟩
    rcases mem_expandTabs hc with hspace | ⟨hmem, htab⟩
    · exact hspace
    · exact (i.leadBlank c hmem).resolve_right htab
  have hword : expandTabs 2 (dashed i.word.toLeaf) = dashed i.word.toLeaf :=
    expandTabs_eq_self fun hmem => absurd (inkOrSpace_dashed _ _ hmem) (by decide)
  refine ⟨expandTabs 2 i.trail, fun c hc => ?_, ?_⟩
  · rcases mem_expandTabs hc with hspace | ⟨hmem, htab⟩
    · exact .inl hspace
    · rcases i.trailFiller c hmem with hspace | hc | hcomma
      · exact .inl hspace
      · exact absurd hc htab
      · exact .inr hcomma
  · have htext : i.text = i.lead ++ (dashed i.word.toLeaf ++ (i.trail ++ ['\n'])) := by
      simp [text, dashed, SmallWord.toLeaf, Leaf.chars, SmallWord.toPhrase]
    rw [htext, expandTabs_append, expandTabs_append, expandTabs_append, hlead, hword,
      expandTabs_eq_self (s := ['\n']) (by decide), body, row, List.append_assoc]

end TypedItem

/-- A character of a typed list. -/
def TypedChar (c : Char) : Prop :=
  IsSmall c ∨ c ∈ ['-', ':', ' ', '\t', ',', '\n']

instance (c : Char) : Decidable (TypedChar c) :=
  inferInstanceAs (Decidable (_ ∨ _))

theorem TypedItem.typedChar_text (i : TypedItem) : ∀ c ∈ i.text, TypedChar c := by
  intro c hc
  simp only [TypedItem.text, List.mem_append] at hc
  rcases hc with (((hlead | hdash) | hword) | htrail) | hfeed
  · rcases i.leadBlank c hlead with rfl | rfl <;> decide
  · exact (List.all_iff_forall_prop.mp (by decide) : ∀ d ∈ "- ".toList, TypedChar d) c hdash
  · exact .inl (i.word.small c hword)
  · rcases i.trailFiller c htrail with rfl | rfl | rfl <;> decide
  · obtain rfl := List.mem_singleton.mp hfeed
    decide

/-- The lines of typed items. -/
def typedText (items : List TypedItem) : List Char :=
  items.flatMap TypedItem.text

theorem trailed_typedText (items : List TypedItem) :
    Trailed (items.map TypedItem.body) (expandTabs 2 (typedText items)) := by
  induction items with
  | nil => rfl
  | cons i items ih =>
      obtain ⟨tail, htail, htext⟩ := i.expandTabs_text
      refine ⟨tail, _, htail, ?_, ih⟩
      rw [typedText, List.flatMap_cons, expandTabs_append, htext]
      simp [typedText]

/-- The line of a key. -/
def Letters.line (w : Letters) : List Char :=
  w.chars ++ ":\n".toList

theorem Letters.typedChar_line (w : Letters) : ∀ c ∈ w.line, TypedChar c := by
  intro c hc
  rcases List.mem_append.mp hc with hword | hend
  · exact .inl (w.small c hword)
  · exact (List.all_iff_forall_prop.mp (by decide) : ∀ d ∈ ":\n".toList, TypedChar d) c hend

theorem Letters.solid_key (w : Letters) {key : Key} (hkey : key.chars = w.chars) :
    Solid (key.chars ++ [':']) where
  noComma := by
    rw [hkey]
    have hcomma : ',' ∉ w.chars := fun h => absurd (w.small _ h) (by decide)
    simpa using hcomma
  noFeed := by
    rw [hkey]
    have hfeed : '\n' ∉ w.chars := fun h => absurd (w.small _ h) (by decide)
    simpa using hfeed
  last := (shown_key key).last

/-- Cleanup of typed text. -/
theorem normalize_of_trailed {bodies : List (List Char)} {s : List Char}
    (hchars : ∀ c ∈ s, TypedChar c) (hbodies : ∀ b ∈ bodies, Solid b)
    (h : Trailed bodies (expandTabs 2 s)) :
    normalize 2 s = bodies.flatMap (· ++ ['\n']) := by
  have hmark : s.head? ≠ some '\uFEFF' :=
    fun hhead => absurd (hchars _ (List.mem_of_head? hhead)) (by decide)
  have hreturn : '\r' ∉ s := fun hmem => absurd (hchars _ hmem) (by decide)
  rw [normalize, cleanArtifacts_eq_self hmark hreturn, stripRows_dropCommas_stripRows hbodies h]

/-! ## Realigning them -/

/-- Items that no key stands above go to the left margin. -/
theorem fold_items_at_margin (r : Realignment) (items : List (Nat × Leaf)) (place : Nat → Int) :
    (r.fold {} (linesOf place (items.map fun i => row i.1 (dashed i.2)))).2 =
      items.map fun i => row 0 (dashed i.2) := by
  cases items with
  | nil => rfl
  | cons i items =>
      have hstep : r.step {} (Line.classify (place 0) (row i.1 (dashed i.2))) =
          ({ runIndent := some 0, runStart := place 0 }, row 0 (dashed i.2)) := by
        rw [classify_row (shown_dashed i.2), Realignment.step, roleOf_dashed]
        rfl
      have hleads : Leads r { runIndent := some 0, runStart := place 0 } 0 := .inr ⟨rfl, rfl⟩
      have hrest := fold_items items hleads fun j => place (j + 1)
      rw [List.map_cons, linesOf_cons, Realignment.fold]
      simp only [hstep, hrest, List.map_cons]

/-- Items below a key go two columns right of it. -/
theorem fold_keyed_items (r : Realignment) (hr : r.indent = 2) (key : Key)
    (items : List (Nat × Leaf)) (place : Nat → Int) :
    (r.fold {} (linesOf place
      ((key.chars ++ [':']) :: items.map fun i => row i.1 (dashed i.2)))).2 =
        (key.chars ++ [':']) :: items.map fun i => row 2 (dashed i.2) := by
  obtain ⟨outer, hkey⟩ : ∃ outer, r.step {} (Line.classify (place 0) (key.chars ++ [':'])) =
      ({ openKeys := (0 : Nat) :: outer, keyOpened := true }, key.chars ++ [':']) :=
    step_key 0 key (place 0)
  have hleads : Leads r { openKeys := (0 : Nat) :: outer, keyOpened := true } 2 :=
    .inl ⟨rfl, (0 : Nat), outer, rfl, by rw [hr]; rfl⟩
  have hrest := fold_items items hleads fun j => place (j + 1)
  rw [linesOf_cons, Realignment.fold]
  simp only [hkey, hrest]

/-- The words of typed items with the columns of their dashes. -/
def placedWords (items : List TypedItem) : List (Nat × Leaf) :=
  items.map fun i => (i.column, i.word.toLeaf)

/-- The word of a typed item on a row of its own. -/
def TypedItem.leafRow (i : TypedItem) : LeafRow :=
  { leaf := i.word.toLeaf }

theorem map_body (items : List TypedItem) :
    items.map TypedItem.body = (placedWords items).map fun i => row i.1 (dashed i.2) := by
  rw [placedWords, List.map_map]
  rfl

theorem solid_bodies (items : List TypedItem) : ∀ b ∈ items.map TypedItem.body, Solid b := by
  intro b hb
  obtain ⟨i, -, rfl⟩ := List.mem_map.mp hb
  exact i.solid_body

/-- A repair moves typed items to the left margin. -/
theorem rebuilt_typedText (items : List TypedItem) :
    (Rebuilt.ofText {} (typedText items)).text =
      Outline.itemText 0 (items.map TypedItem.leafRow) := by
  have hnormal : normalize 2 (typedText items) =
    (items.map TypedItem.body).flatMap (· ++ ['\n']) :=
    normalize_of_trailed (fun c hc => by
      obtain ⟨i, -, hi⟩ := List.mem_flatMap.mp hc
      exact i.typedChar_text c hi) (solid_bodies items) (trailed_typedText items)
  rw [rebuilt_text, hnormal, realign_rows _ fun b hb => (solid_bodies items b hb).noFeed,
    map_body, fold_items_at_margin, Outline.itemText, placedWords]
  simp [List.flatMap_map, TypedItem.leafRow]

/-- A repair moves typed items two columns right of the key above them. -/
theorem rebuilt_keyed_typedText (w : Letters) {key : Key} (hkey : key.chars = w.chars)
    (items : List TypedItem) :
    (Rebuilt.ofText {} (w.line ++ typedText items)).text =
      key.chars ++ ":\n".toList ++ Outline.itemText 2 (items.map TypedItem.leafRow) := by
  have hbodies : ∀ b ∈ (key.chars ++ [':']) :: items.map TypedItem.body, Solid b :=
    List.forall_mem_cons.mpr ⟨w.solid_key hkey, solid_bodies items⟩
  have hnormal : normalize 2 (w.line ++ typedText items) =
      ((key.chars ++ [':']) :: items.map TypedItem.body).flatMap (· ++ ['\n']) := by
    refine normalize_of_trailed (fun c hc => ?_) hbodies
      ⟨[], _, by simp, ?_, trailed_typedText items⟩
    · rcases List.mem_append.mp hc with hline | hitem
      · exact w.typedChar_line c hline
      · obtain ⟨i, -, hi⟩ := List.mem_flatMap.mp hitem
        exact i.typedChar_text c hi
    · have htab : '\t' ∉ w.line := by
        intro hmem
        rcases List.mem_append.mp hmem with hword | hend
        · exact absurd (w.small _ hword) (by decide)
        · exact absurd hend (by decide)
      rw [expandTabs_append, expandTabs_eq_self htab, Letters.line, hkey]
      simp
  rw [rebuilt_text, hnormal, realign_rows _ fun b hb => (hbodies b hb).noFeed, map_body,
    fold_keyed_items _ rfl, Outline.itemText, placedWords]
  simp [List.flatMap_map, TypedItem.leafRow]

/-! ## The outcome -/

/-- The gate formats a list of leaves that stands at the left margin as it is, if nothing stands
behind its rows. -/
theorem format_items {first : LeafRow} {others : List LeafRow}
    (hfirst : Outline.bare first = first) (hothers : others.map Outline.bare = others) :
    Gate.format {} (Outline.itemText 0 (first :: others)) =
      .ok (.formatted (Outline.itemText 0 (first :: others))) := by
  let p : Page := ⟨0, .list (.ofLeaves first others)⟩
  have htext : Outline.itemText 0 (first :: others) = Page.texts [p] := by
    rw [Page.texts_single, Outline.itemText_eq]
    rfl
  obtain ⟨hitems, hheight⟩ := Outline.proper_ofLeaves first others
  have hproper : ∀ q ∈ [p], q.block.tree.Proper := List.forall_mem_singleton.mpr hitems
  have hdepth : p.block.tree.height ≤ depthLimit := by
    change (Block.Items.ofLeaves first others).trees.height + 1 ≤ depthLimit
    rw [hheight]
    decide
  have hcanonical : Gate.canonicalPages {} [p] = [p] := by
    change [Page.mk 0
      (.list ((Block.Items.ofLeaves first others).trees.placed plainMeasures 2))] =
      [p]
    rw [Outline.placed_ofLeaves, hfirst, hothers]
  have hformat := Gate.format_texts (o := {}) hproper (List.forall_mem_singleton.mpr hdepth)
    (by decide) (fun q _ => Gate.unbroken_of_width rfl q.block.tree)
    (fun hone => absurd hone (by decide))
  rwa [hcanonical, ← htext] at hformat

/-- A word of small letters that is not too long is a key, be it a text, a truth value or the word
for nothing. -/
theorem Letters.exists_key (w : Letters) (h : w.chars.length ≤ 100) :
    ∃ key : Key, key.chars = w.chars := by
  have hword : ' ' ∉ w.chars := fun hmem => absurd (w.small _ hmem) (by decide)
  have hshort : w.chars.length ≤ 122 := h.trans (by decide)
  by_cases hnull : w.chars = "null".toList
  · exact ⟨⟨⟨w.chars, .null, .null, w.begins, w.fits, .null hnull⟩, hword,
      .inr (.inr rfl), hshort⟩, rfl⟩
  by_cases htrue : w.chars = "true".toList
  · exact ⟨⟨⟨w.chars, .bool, .bool true none, w.begins, w.fits, .truth true htrue⟩, hword,
      .inr (.inl rfl), hshort⟩, rfl⟩
  by_cases hfalse : w.chars = "false".toList
  · exact ⟨⟨⟨w.chars, .bool, .bool false none, w.begins, w.fits, .truth false hfalse⟩,
      hword, .inr (.inl rfl), hshort⟩, rfl⟩
  · let word : SmallWord := ⟨w, hnull, htrue, hfalse⟩
    exact ⟨⟨word.toPhrase, hword, .inl rfl, hshort⟩, rfl⟩

/-- The outline of a key with leaves two columns right of it is formatted as it is, if nothing
stands behind its rows. -/
theorem format_keyed_items (key : Key) {first : LeafRow} {others : List LeafRow}
    (hfirst : Outline.bare first = first) (hothers : others.map Outline.bare = others) :
    Gate.format {} (key.chars ++ ":\n".toList ++ Outline.itemText 2 (first :: others)) =
      .ok (.formatted (key.chars ++ ":\n".toList ++ Outline.itemText 2 (first :: others))) := by
  let p : Outline := .list key {} 2 first others .nil
  have htext : p.text 0 = key.chars ++ ":\n".toList ++ Outline.itemText 2 (first :: others) := by
    rw [Outline.text_list]
    simp [Outline.text, Outline.rowsText, Outline.rows]
  have hproper : p.Proper := ⟨List.not_mem_nil, trivial⟩
  have hregular : p.regular = p := by
    rw [Outline.regular, Outline.reshape, hfirst, hothers]
    rfl
  have hheight : p.height < depthLimit := by
    change max 1 0 < depthLimit
    decide
  have hformat := format_outline hproper hheight 0
  rwa [hregular, htext] at hformat

theorem bare_leafRow (i : TypedItem) : Outline.bare i.leafRow = i.leafRow :=
  rfl

/-- **A misindented list of words is repaired.**  Below a key all items go two columns right of it,
and without a key they go to the left margin, whatever spaces and tabs stood in front of them and
whatever spaces, tabs and commas behind them; and that is the formatted text. -/
theorem autoFix_typed_list (key : Letters) (hkey : key.chars.length ≤ 100)
    (items : List TypedItem) (hitems : items ≠ []) :
    autoFix {} (key.chars ++ ":\n".toList ++
        items.flatMap fun i => i.lead ++ "- ".toList ++ i.word.chars ++ i.trail ++ ['\n']) =
      .formatted (key.chars ++ ":\n".toList ++
        items.flatMap fun i => "  - ".toList ++ i.word.chars ++ ['\n']) ∧
    autoFix {} (items.flatMap fun i =>
        i.lead ++ "- ".toList ++ i.word.chars ++ i.trail ++ ['\n']) =
      .formatted (items.flatMap fun i => "- ".toList ++ i.word.chars ++ ['\n']) := by
  obtain ⟨first, others, rfl⟩ := List.exists_cons_of_ne_nil hitems
  have hwords (column : Nat) :
      Outline.itemText column (first.leafRow :: others.map TypedItem.leafRow) =
        (first :: others).flatMap fun i =>
          List.replicate column ' ' ++ "- ".toList ++ i.word.chars ++ ['\n'] := by
    rw [← List.map_cons, Outline.itemText, List.flatMap_map]
    refine congrArg (List.flatMap · _) (funext fun i => ?_)
    simp [row, dashed, TypedItem.leafRow, SmallWord.toLeaf, Leaf.chars, SmallWord.toPhrase]
  have hbare : (others.map TypedItem.leafRow).map Outline.bare =
    others.map TypedItem.leafRow := by
    rw [List.map_map]
    exact List.map_congr_left fun i _ => bare_leafRow i
  constructor
  · obtain ⟨k, hk⟩ := key.exists_key hkey
    have hrebuilt := rebuilt_keyed_typedText key hk (first :: others)
    change autoFix {} (key.line ++ typedText (first :: others)) = _
    refine autoFix_of_ok ?_
    rw [hrebuilt, List.map_cons, format_keyed_items k (bare_leafRow first) hbare, hwords, hk]
    rfl
  · have hrebuilt := rebuilt_typedText (first :: others)
    change autoFix {} (typedText (first :: others)) = _
    refine autoFix_of_ok ?_
    rw [hrebuilt, List.map_cons, format_items (bare_leafRow first) hbare, hwords]
    rfl

/-- A key with two items, one behind a tab and one flush left, with commas behind them.  The key is
read as a truth value. -/
theorem autoFix_typed_hosts :
    "true".toList.length ≤ 100 ∧
      autoFix {} "true:\n\t- alpha ,\t,\n- beta,\n".toList =
        .formatted "true:\n  - alpha\n  - beta\n".toList ∧
      autoFix {} "\t- alpha ,\t,\n- beta,\n".toList =
        .formatted "- alpha\n- beta\n".toList := by
  let key : Letters := ⟨"true".toList, by decide, List.all_iff_forall_prop.mp (by decide)⟩
  let alpha : SmallWord :=
    ⟨⟨"alpha".toList, by decide, List.all_iff_forall_prop.mp (by decide)⟩, by decide,
      by decide, by decide⟩
  let beta : SmallWord :=
    ⟨⟨"beta".toList, by decide, List.all_iff_forall_prop.mp (by decide)⟩, by decide,
      by decide, by decide⟩
  let items : List TypedItem :=
    [⟨"\t".toList, alpha, " ,\t,".toList, List.all_iff_forall_prop.mp (by decide),
        List.all_iff_forall_prop.mp (by decide)⟩,
      ⟨[], beta, ",".toList, List.forall_mem_nil _, List.all_iff_forall_prop.mp (by decide)⟩]
  exact ⟨by decide, autoFix_typed_list key (by decide) items (List.cons_ne_nil _ _)⟩

end Repair
end YamlTidy
