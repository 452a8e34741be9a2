import YamlTidy.Proofs.Yaml.Block.Written
import YamlTidy.Proofs.Yaml.Margin

/-!
# The canonical pages of trees

What is written for a tree needs two more steps to become its canonical page: a phrase at the root
loses the marker behind it (`dropDocumentEnd_append`), which stands nowhere else, and a list at
the root is pulled back to the left margin.  The second step works on the text alone; it comes out
right because a block further right has the same rows with more spaces in front
(`Block.indented_text`, by induction on the block).
-/

namespace YamlTidy
namespace Yaml

open Text

/-! ## Rows with spaces in front -/

/-- A text with more spaces in front of each of its rows but the first. -/
def indented (n : Nat) (s : List Char) : List Char :=
  s.flatMap fun c => if c = '\n' then '\n' :: List.replicate n ' ' else [c]

section Indented

variable (n : Nat)

@[simp] theorem indented_append (s t : List Char) :
    indented n (s ++ t) = indented n s ++ indented n t :=
  List.flatMap_append

@[simp] theorem indented_lineFeed (s : List Char) :
    indented n ('\n' :: s) = '\n' :: (List.replicate n ' ' ++ indented n s) :=
  rfl

theorem indented_lineBreak : indented n ['\n'] = ['\n'] ++ List.replicate n ' ' := by
  simp [indented]

theorem indented_of_not_mem {s : List Char} (hs : '\n' ∉ s) : indented n s = s := by
  induction s with
  | nil => rfl
  | cons c s ih =>
      have hc : c ≠ '\n' := fun h => hs (h ▸ List.mem_cons_self)
      have hrest := ih fun h => hs (List.mem_cons_of_mem c h)
      rw [indented] at hrest ⊢
      rw [List.flatMap_cons, if_neg hc, hrest]
      rfl

@[simp] theorem indented_spaces (k : Nat) :
    indented n (List.replicate k ' ') = List.replicate k ' ' :=
  indented_of_not_mem n (by simp)

theorem indented_inkOrSpace {s : List Char} (hs : ∀ c ∈ s, isInk c = true ∨ c = ' ') :
    indented n s = s :=
  indented_of_not_mem n fun h => absurd (hs _ h) (by decide)

@[simp] theorem indented_leaf (x : Leaf) : indented n x.chars = x.chars :=
  indented_inkOrSpace n x.inkOrSpace

@[simp] theorem indented_key (key : Key) : indented n key.chars = key.chars :=
  indented_inkOrSpace n (mem_of_isPhrase key.fits)

@[simp] theorem indented_rowEnd (e : RowEnd) :
    indented n e.chars = e.chars ++ List.replicate n ' ' := by
  obtain ⟨trailing, carriage⟩ := e
  cases carriage
  · rw [RowEnd.chars, indented_append, indented_spaces, List.append_assoc]
    exact congrArg _ (indented_lineBreak n)
  · rw [RowEnd.chars, indented_append, indented_spaces, List.append_assoc]
    exact congrArg _ (congrArg ('\r' :: ·) (indented_lineBreak n))

theorem indented_cons {c : Char} (hc : c ≠ '\n') (s : List Char) :
    indented n (c :: s) = c :: indented n s := by
  rw [indented, List.flatMap_cons, if_neg hc]
  rfl

@[simp] theorem indented_lead (place : Placing) (c : Nat) :
    indented n (place.lead c) = place.lead (c + n) := by
  cases place with
  | beside gap => simp [Placing.lead]
  | under e shift =>
      have hplace : c + n + shift + 1 = n + (c + shift + 1) := by omega
      rw [Placing.lead, Placing.lead, indented_append, indented_rowEnd, indented_spaces,
        List.append_assoc, List.replicate_append_replicate, hplace]

theorem replicate_add_append (c : Nat) (s : List Char) :
    List.replicate (c + n) ' ' ++ s = List.replicate n ' ' ++ (List.replicate c ' ' ++ s) := by
  rw [Nat.add_comm, List.replicate_add, List.append_assoc]

theorem column_add (place : Placing) (c : Nat) : place.column (c + n) = place.column c + n := by
  cases place <;> simp only [Placing.column] <;> omega

end Indented

namespace Block

-- The spaces behind the last row are those in front of what follows it.
mutual

/-- A block further right has more spaces in front of its rows. -/
theorem indented_text : ∀ (b : Block) (c n : Nat),
    b.text (c + n) ++ List.replicate n ' ' = indented n (b.text c)
  | .leaf x e, c, n => by
      rw [text, text, indented_append, indented_leaf, indented_rowEnd, List.append_assoc]
  | .list items, c, n => indented_items items c n
  | .table entries, c, n => indented_entries entries c n

theorem indented_items : ∀ (items : Items) (c n : Nat),
    items.text (c + n) ++ List.replicate n ' ' = indented n (items.text c)
  | .last place b, c, n => by
      rw [Items.text, Items.text, indented_cons n (by decide), indented_append, indented_lead,
        column_add, ← indented_text b]
      simp
  | .cons place b more, c, n => by
      rw [Items.text, Items.text, indented_append, indented_cons n (by decide), indented_append,
        indented_lead, column_add, ← indented_text b, indented_append, indented_spaces,
        ← indented_items more]
      simp only [List.append_assoc, List.cons_append, replicate_add_append]

theorem indented_entries : ∀ (entries : Entries) (c n : Nat),
    entries.text (c + n) ++ List.replicate n ' ' = indented n (entries.text c)
  | .last key v, c, n => by
      rw [Entries.text, Entries.text, indented_append, indented_cons n (by decide),
        ← indented_member v]
      simp
  | .cons key v more, c, n => by
      rw [Entries.text, Entries.text, indented_append, indented_append,
        indented_cons n (by decide), ← indented_member v, indented_append, indented_spaces,
        ← indented_entries more]
      simp only [List.append_assoc, List.cons_append, replicate_add_append, indented_key]

theorem indented_member : ∀ (v : Member) (c n : Nat),
    v.text (c + n) ++ List.replicate n ' ' = indented n (v.text c)
  | .beside gap x e, c, n => by
      rw [Member.text, Member.text, indented_append, indented_append, indented_spaces,
        indented_leaf, indented_rowEnd, List.append_assoc, List.append_assoc]
  | .under e shift b, c, n => by
      have hplace : c + n + b.least + shift = c + b.least + shift + n := by omega
      rw [Member.text, Member.text, indented_append, indented_rowEnd, indented_append,
        indented_spaces, ← indented_text b, hplace]
      simp only [List.append_assoc, replicate_add_append]

end

/-- The last row of a text holds something that is no part of a marker. -/
def EndsInRow (s : List Char) : Prop :=
  ∃ front c back, s = front ++ c :: (back ++ ['\n']) ∧ '\n' ∉ c :: back ∧ c ≠ '.'

theorem EndsInRow.append {s : List Char} (h : EndsInRow s) (front : List Char) :
    EndsInRow (front ++ s) := by
  obtain ⟨before, c, back, rfl, hback, hc⟩ := h
  exact ⟨front ++ before, c, back, (List.append_assoc ..).symm, hback, hc⟩

theorem EndsInRow.cons {s : List Char} (h : EndsInRow s) (c : Char) : EndsInRow (c :: s) :=
  h.append [c]

theorem endsInRow_leaf (x : Leaf) (e : RowEnd) : EndsInRow (x.chars ++ e.chars) := by
  obtain ⟨c, rest, hcons, hc⟩ : ∃ c rest, x.chars = c :: rest ∧ c ≠ '.' := by
    cases x with
    | plain p hnull =>
        obtain ⟨c, rest, hcons, hopens⟩ := p.exists_cons
        exact ⟨c, rest, hcons, ne_of_class hopens (by decide)⟩
    | quoted q =>
        refine ⟨quoteMark q.double, _, rfl, ?_⟩
        cases q.double <;> decide
  have hfeed : '\n' ∉ c :: rest := by
    rw [← hcons]
    exact fun h => absurd (x.inkOrSpace _ h) (by decide)
  rw [hcons]
  obtain ⟨trailing, carriage⟩ := e
  refine ⟨[], c, rest ++ List.replicate trailing ' ' ++ if carriage then ['\r'] else [],
    ?_, ?_, hc⟩
  · cases carriage <;> simp [RowEnd.chars, RowEnd.lineBreak]
  · rw [List.mem_cons, not_or] at hfeed
    cases carriage <;> simp [hfeed]

mutual

/-- The text of a block ends behind a row. -/
theorem text_rowEnd : ∀ (b : Block) (c : Nat), EndsInRow (b.text c)
  | .leaf x e, _ => endsInRow_leaf x e
  | .list items, c => items_rowEnd items c
  | .table entries, c => entries_rowEnd entries c

theorem items_rowEnd : ∀ (items : Items) (c : Nat), EndsInRow (items.text c)
  | .last place b, c => ((text_rowEnd b (place.column c)).append _).cons '-'
  | .cons _ _ more, c => ((items_rowEnd more c).append _).append _

theorem entries_rowEnd : ∀ (entries : Entries) (c : Nat), EndsInRow (entries.text c)
  | .last _ v, c => ((member_rowEnd v c).cons ':').append _
  | .cons _ _ more, c => ((entries_rowEnd more c).append _).append _

theorem member_rowEnd : ∀ (v : Member) (c : Nat), EndsInRow (v.text c)
  | .beside _ x e, _ => (endsInRow_leaf x e).append _
  | .under _ shift b, c => ((text_rowEnd b (c + b.least + shift)).append _).append _

end

end Block

/-! ## Lists at the root -/

/-- Rows, each with the line feed that ends it. -/
def rowsText (rs : List (List Char)) : List Char :=
  rs.flatMap (· ++ ['\n'])

theorem exists_rowsText (s : List Char) :
    ∃ rs, s ++ ['\n'] = rowsText rs ∧ ∀ r ∈ rs, '\n' ∉ r ∧ ∀ x ∈ r, x ∈ s := by
  refine ⟨rows s, ?_,
    fun r hr => ⟨lineFeed_not_mem_rows hr, fun x hx => mem_of_mem_rows hr hx⟩⟩
  have hjoin : ∀ rs : List (List Char), rs ≠ [] → joinRows rs ++ ['\n'] = rowsText rs := by
    intro rs hne
    induction rs with
    | nil => exact absurd rfl hne
    | cons r rs ih =>
        cases rs with
        | nil => simp [joinRows, rowsText]
        | cons r' rs =>
            have hrest := ih (by simp)
            rw [rowsText] at hrest ⊢
            rw [List.flatMap_cons, ← hrest]
            simp [joinRows]
  rw [← hjoin _ (rows_ne_nil s), joinRows_rows]

theorem indented_rowsText (n : Nat) {rs : List (List Char)} (hrs : ∀ r ∈ rs, '\n' ∉ r) :
    List.replicate n ' ' ++ indented n (rowsText rs) =
      rowsText (rs.map (List.replicate n ' ' ++ ·)) ++ List.replicate n ' ' := by
  induction rs with
  | nil => simp [rowsText, indented]
  | cons r rs ih =>
      have hrest := ih fun x hx => hrs x (List.mem_cons_of_mem r hx)
      rw [rowsText] at hrest ⊢
      rw [List.flatMap_cons, indented_append, indented_append, indented_lineBreak,
        indented_of_not_mem n (hrs r List.mem_cons_self)]
      simp only [List.append_assoc]
      rw [hrest, rowsText, rowsText, List.map_cons, List.flatMap_cons]
      simp only [List.append_assoc]

/-- A character that ends no line but a row. -/
theorem isLineEnd_of_textChar {c : Char} (h : Block.TextChar c) (hfeed : c ≠ '\n')
    (hreturn : c ≠ '\r') : isLineEnd c = false := by
  rcases h with hink | rfl | rfl | rfl
  · have hblank := isBlank_of_isInk hink
    cases hend : isLineEnd c with
    | false => rfl
    | true =>
        simp only [isLineEnd, isBlank, Bool.or_eq_true, Bool.or_eq_false_iff, Bool.and_eq_true,
          Bool.and_eq_false_iff, beq_iff_eq, beq_eq_false_iff_ne, decide_eq_true_eq,
          decide_eq_false_iff_not] at hend hblank
        omega
  · rfl
  · exact absurd rfl hfeed
  · exact absurd rfl hreturn

theorem linesKeeping_row {r : List Char} (hr : ∀ x ∈ r, isLineEnd x = false)
    (rest : List Char) :
    linesKeeping (r ++ '\n' :: rest) = (r ++ ['\n']) :: linesKeeping rest := by
  induction r with
  | nil => rfl
  | cons c r ih =>
      have hc := hr c List.mem_cons_self
      have hreturn : c ≠ '\r' := by
        rintro rfl
        cases hc
      rw [List.cons_append,
        linesKeeping.eq_3 _ _ (by rintro _ rfl; exact absurd rfl hreturn), hc,
        ih fun x hx => hr x (List.mem_cons_of_mem c hx)]
      simp

theorem linesKeeping_rowsText {rs : List (List Char)}
    (hrs : ∀ r ∈ rs, ∀ x ∈ r, isLineEnd x = false) :
    linesKeeping (rowsText rs) = rs.map (· ++ ['\n']) := by
  induction rs with
  | nil => rfl
  | cons r rs ih =>
      have hrest := ih fun x hx => hrs x (List.mem_cons_of_mem r hx)
      rw [rowsText] at hrest ⊢
      rw [List.flatMap_cons, List.append_assoc, List.singleton_append,
        linesKeeping_row (hrs r List.mem_cons_self), hrest, List.map_cons]

theorem isContent_dash (n : Nat) (rest : List Char) :
    isContent (List.replicate n ' ' ++ '-' :: rest) = true := by
  have hstrip : stripStart (List.replicate n ' ' ++ '-' :: rest) = '-' :: rest := by
    rw [stripStart, List.dropWhile_append_of_pos fun x hx => by
      rw [List.eq_of_mem_replicate hx]
      rfl]
    rfl
  rw [isContent, hstrip]
  rfl

/-- Rows that begin with a dash behind spaces are pulled back. -/
theorem flushLeft_rowsText (n : Nat) {first : List Char} {others : List (List Char)}
    (hrs : ∀ r ∈ ('-' :: first) :: others, ∀ x ∈ r, isLineEnd x = false) :
    flushLeft n (rowsText ((('-' :: first) :: others).map (List.replicate n ' ' ++ ·))) =
      rowsText (('-' :: first) :: others) := by
  have hspaces : spaces (n : Int) = List.replicate n ' ' := by
    rw [spaces, Int.toNat_natCast]
  have hends : ∀ r ∈ (('-' :: first) :: others).map (List.replicate n ' ' ++ ·), ∀ x ∈ r,
      isLineEnd x = false := by
    intro r hr x hx
    obtain ⟨r', hr', rfl⟩ := List.mem_map.mp hr
    rcases List.mem_append.mp hx with hx | hx
    · rw [List.eq_of_mem_replicate hx]
      rfl
    · exact hrs r' hr' x hx
  have hcontent : isContent (List.replicate n ' ' ++ '-' :: first ++ ['\n']) = true := by
    rw [List.append_assoc]
    exact isContent_dash n _
  have hprefix : (List.replicate n ' ' ++ ['-']).isPrefixOf
      (List.replicate n ' ' ++ '-' :: first ++ ['\n']) = true :=
    List.isPrefixOf_iff_prefix.mpr ⟨first ++ ['\n'], by simp⟩
  have hpulled (rs : List (List Char)) : ((rs.map (List.replicate n ' ' ++ ·)).map
      (· ++ ['\n'])).map (pullBack (List.replicate n ' ')) = rs.map (· ++ ['\n']) := by
    rw [List.map_map, List.map_map]
    refine List.map_congr_left fun r _ => ?_
    simp only [Function.comp_apply, List.append_assoc]
    exact pullBack_append _ _
  rw [flushLeft, linesKeeping_rowsText hends, hspaces]
  have hfirst : ((((('-' :: first) :: others).map (List.replicate n ' ' ++ ·)).map
      (· ++ ['\n'])).find? isContent).getD [] =
        List.replicate n ' ' ++ '-' :: first ++ ['\n'] := by
    rw [List.map_cons, List.map_cons, List.find?_cons_of_pos hcontent, Option.getD_some]
  simp only [hfirst, hprefix, if_true, hpulled]
  rw [rowsText, List.flatMap_def]

namespace Block

theorem items_begin (items : Items) (c : Nat) : ∃ rest, items.text c = '-' :: rest := by
  cases items with
  | last place b => exact ⟨_, rfl⟩
  | cons place b more => exact ⟨_, rfl⟩

/-- A list that is moved right is pulled back to where it was. -/
theorem flushLeft_items {items : Items} (hreturn : '\r' ∉ items.text 0) (n : Nat) :
    flushLeft n (List.replicate n ' ' ++ items.text n) = items.text 0 := by
  obtain ⟨s, hs⟩ : ∃ s, items.text 0 = s ++ ['\n'] := by
    obtain ⟨front, c, back, hs, -⟩ := items_rowEnd items 0
    exact ⟨front ++ c :: back, by rw [hs]; simp⟩
  obtain ⟨rs, hrows, hrs⟩ := exists_rowsText s
  rw [hrows] at hs
  -- The text in column `n` has the rows of the text in column 0 with `n` spaces in front of each.
  have hsame := indented_rowsText n fun r hr => (hrs r hr).1
  have hmoved := indented_items items 0 n
  rw [hs, Nat.zero_add] at hmoved
  rw [← hmoved, ← List.append_assoc, List.append_cancel_right_eq] at hsame
  have hends : ∀ r ∈ rs, ∀ x ∈ r, isLineEnd x = false := by
    intro r hr x hx
    have hmem : x ∈ items.text 0 := by
      rw [hs, ← hrows]
      exact List.mem_append_left _ ((hrs r hr).2 x hx)
    exact isLineEnd_of_textChar (textChar_items items 0 x hmem) (fun h => (hrs r hr).1 (h ▸ hx))
      fun h => hreturn (h ▸ hmem)
  obtain ⟨rest, hdash⟩ := items_begin items 0
  rw [hs] at hdash
  obtain ⟨first, others, rfl⟩ : ∃ first others, rs = ('-' :: first) :: others := by
    match rs, hdash with
    | (c :: first) :: others, hdash =>
        cases hdash
        exact ⟨first, others, rfl⟩
  rw [hsame, flushLeft_rowsText n hends, hs]

end Block

/-! ## Documents -/

/-- The end of a block cannot be taken for the end of a document. -/
theorem dropDocumentEnd_eq_self {s : List Char} (hs : Block.EndsInRow s) :
    dropDocumentEnd s = s := by
  obtain ⟨front, c, back, rfl, hfeed, hc⟩ := hs
  rw [dropDocumentEnd, if_neg]
  intro hsuffix
  obtain ⟨before, hbefore⟩ := List.isSuffixOf_iff_suffix.mp hsuffix
  have hend : before ++ ['\n', '.', '.', '.'] = front ++ c :: back := by
    have hsame : (before ++ ['\n', '.', '.', '.']) ++ ['\n'] =
      (front ++ c :: back) ++ ['\n'] := by
      simpa [documentEnd] using hbefore
    exact List.append_cancel_right hsame
  -- The last row would be that of the marker.
  have hrow : c ∈ (before ++ ['\n', '.', '.', '.']).reverse.takeWhile (· ≠ '\n') := by
    have hinner : ∀ x ∈ back.reverse ++ [c], decide (x ≠ '\n') = true := by
      intro x hx
      have hmem : x ∈ c :: back := by
        simpa [or_comm] using hx
      exact decide_eq_true fun h => hfeed (h ▸ hmem)
    have hreverse : (front ++ c :: back).reverse = back.reverse ++ [c] ++ front.reverse := by
      simp
    rw [hend, hreverse, List.takeWhile_append_of_pos hinner]
    simp
  rw [List.reverse_append] at hrow
  exact hc (by simpa using hrow)

namespace Tree

section Placed

variable (m : Measures)

theorem return_not_mem_leaf (x : Leaf) : '\r' ∉ x.chars :=
  fun h => absurd (x.inkOrSpace _ h) (by decide)

theorem return_not_mem_key (key : Key) : '\r' ∉ key.chars :=
  fun h => absurd (mem_of_isPhrase key.fits _ h) (by decide)

theorem return_not_mem_lead (t : Tree) (c c' : Nat) : '\r' ∉ (t.placing m c).lead c' := by
  cases t <;> simp only [placing] <;> (try split) <;> simp [Placing.lead]

mutual

/-- There are no carriage returns in the canonical layout. -/
theorem return_not_mem_placed : ∀ (t : Tree) (c c' : Nat), '\r' ∉ (t.placed m c).text c'
  | leaf x, _, _ => by simp [placed, Block.text, return_not_mem_leaf]
  | list items, c, c' => return_not_mem_items items c c'
  | table entries, c, c' => return_not_mem_entries entries c c'

theorem return_not_mem_items : ∀ (items : Items) (c c' : Nat), '\r' ∉ (items.placed m c).text c'
  | .last t, c, c' => by
      simp [Items.placed, Block.Items.text, return_not_mem_lead, return_not_mem_placed t]
  | .cons t more, c, c' => by
      simp [Items.placed, Block.Items.text, return_not_mem_lead, return_not_mem_placed t,
        return_not_mem_items more]

theorem return_not_mem_entries :
    ∀ (entries : Entries) (c c' : Nat), '\r' ∉ (entries.placed m c).text c'
  | .last key t, c, c' => by
      simp [Entries.placed, Block.Entries.text, return_not_mem_key, return_not_mem_member key t]
  | .cons key t more, c, c' => by
      simp [Entries.placed, Block.Entries.text, return_not_mem_key, return_not_mem_member key t,
        return_not_mem_entries more]

theorem return_not_mem_member (key : Key) :
    ∀ (t : Tree) (c c' : Nat), '\r' ∉ (t.member m c key).text c'
  | leaf x, c, c' => by
      rw [member]
      split <;> simp [Block.Member.text, Block.text, return_not_mem_leaf]
  | list items, c, c' => by
      simp [member, Block.Member.text, Block.text, return_not_mem_items items]
  | table entries, c, c' => by
      simp [member, Block.Member.text, Block.text, return_not_mem_entries entries]

end

end Placed

variable {o : Options} {n : Nat} {t : Tree} {d : Document}

theorem StoredIn.isSequence_eq (h : t.StoredIn d) :
    d.isSequence = match t with
      | list _ => true
      | _ => false := by
  obtain ⟨root, -, rfl, hroot, hheld⟩ := h
  rw [Document.isSequence, hroot]
  cases root with
  | leaf x behind =>
      cases x with
      | plain p hnull =>
          have h := p.stands
          simp only [Noted.value, Leaf.value, Noted.tree]
          generalize p.core = core, p.value = v at h
          cases h <;> rfl
      | quoted q => rfl
  | list flush items => simp only [Noted.value, hheld.1, Noted.tree]
  | table entries => simp only [Noted.value, hheld.1, Noted.tree]

/-- The canonical text of a document that holds a tree. -/
theorem StoredIn.canonical_eq (h : t.StoredIn d) (hm : (Measures.ofOptions o).Steps n)
    (hunbroken : t.Unbroken (Measures.ofOptions o)) (hroom : n = 1 → t.TablesApart) :
    d.canonical o = .ok (t.page (Measures.ofOptions o)).text := by
  have hsequence := h.isSequence_eq
  have hindent : o.indent = n := hm.step
  rw [Document.canonical, h.layout_eq, ok_bind]
  cases t with
  | leaf x =>
      simp only at hsequence
      rw [layout, Layout.write_rootLeaf _ hunbroken, ok_bind, hsequence]
      have hdropped : dropDocumentEnd (x.chars ++ if x.isPlain then documentEnd else ['\n']) =
          x.chars ++ ['\n'] := by
        split
        · exact dropDocumentEnd_append x.chars
        · exact dropDocumentEnd_eq_self (Block.endsInRow_leaf x {})
      simp only [hdropped, Bool.false_eq_true, if_false]
      rfl
  | list items =>
      simp only at hsequence
      have htext := (Block.items_rowEnd (items.placed (Measures.ofOptions o) n) n).append
        (List.replicate n ' ')
      have hreturn := return_not_mem_items (Measures.ofOptions o) items n 0
      rw [Layout.write_collection hm rfl hunbroken hroom, ok_bind, hsequence, hindent]
      simp only [margin, hm.toNat, placed, Block.text, dropDocumentEnd_eq_self htext, if_true,
        Block.flushLeft_items hreturn]
      simp only [page, Page.text, margin, hm.toNat, placed, Block.text]
      rfl
  | table entries =>
      simp only at hsequence
      have htext := Block.entries_rowEnd (entries.placed (Measures.ofOptions o) 0) 0
      rw [Layout.write_collection hm rfl hunbroken hroom, ok_bind, hsequence]
      exact congrArg Except.ok (dropDocumentEnd_eq_self htext)

end Tree

/-- The canonical text of documents that hold trees: their canonical pages. -/
theorem canonical_pages {o : Options} {n : Nat} (hm : (Measures.ofOptions o).Steps n)
    {ts : List Tree} {ds : List Document} (h : List.Forall₂ Tree.StoredIn ts ds)
    (hunbroken : ∀ t ∈ ts, t.Unbroken (Measures.ofOptions o))
    (hroom : n = 1 → ∀ t ∈ ts, t.TablesApart) :
    canonical o ds = .ok (Page.texts (ts.map (Tree.page (Measures.ofOptions o)))) := by
  have htexts : canonicalTexts o ds =
      .ok ((ts.map (Tree.page (Measures.ofOptions o))).map Page.text) := by
    induction h with
    | nil => rfl
    | cons hstored hrest ih =>
        have hfirst := hstored.canonical_eq hm (hunbroken _ List.mem_cons_self)
          fun hone => hroom hone _ List.mem_cons_self
        rw [canonicalTexts, hfirst, ok_bind,
          ih (fun t ht => hunbroken t (List.mem_cons_of_mem _ ht))
            fun hone t ht => hroom hone t (List.mem_cons_of_mem _ ht), ok_bind]
        rfl
  rw [canonical, htexts]
  rfl

end Yaml
end YamlTidy
