import YamlTidy.Proofs.Yaml.Leaf
import YamlTidy.Yaml.Token.Gap
import YamlTidy.Yaml.Token.Plain

/-!
# Rows under a cursor

What the cursor functions do on the spaces in front of a row and at its end.  `StartsRow` says what
the content of a row may begin with, and `Follows n` that a text goes on with a row in column `n` or
left of it, with another document or not at all.
-/

namespace YamlTidy
namespace Yaml

open Text

/-! ## Characters -/

theorem endsWord_of_isInk {c : Char} (hc : isInk c = true) : endsWord c = false := by
  simp (disch := decide) [endsWord, endsLine, isBreak, ne_of_class hc]

/-- The end of a row ends a word. -/
theorem endsWord_rowEnd (e : RowEnd) (s : List Char) :
    endsWord ((e.chars ++ s).headD '\x00') = true := by
  obtain ⟨trailing, carriage⟩ := e
  cases trailing <;> cases carriage <;> rfl

/-- A character in front of which nothing is skipped. -/
def beginsContent (c : Char) : Bool :=
  isInk c && c != '#'

theorem isInk_of_beginsContent {c : Char} (hc : beginsContent c = true) : isInk c = true :=
  (Bool.and_eq_true_iff.mp hc).1

theorem beginsContent_of_isWordChar {c : Char} (hc : isWordChar c = true) :
    beginsContent c = true := by
  have hsign : c ≠ '#' := ne_of_class hc (by decide)
  simp [beginsContent, isInk_of_isWordChar hc, hsign]

/-- A quote of either kind. -/
def isQuote (c : Char) : Bool :=
  c == '"' || c == '\''

theorem beginsContent_of_isQuote {c : Char} (hc : isQuote c = true) :
    beginsContent c = true := by
  rcases Bool.or_eq_true_iff.mp hc with h | h <;> rw [beq_iff_eq.mp h] <;> decide

theorem isQuote_quoteMark (double : Bool) : isQuote (quoteMark double) = true := by
  cases double <;> rfl

/-! ## Moving a cursor -/

namespace Cursor

/-- A character that moves a cursor by one column. -/
def isInline (c : Char) : Bool :=
  c != '\n' && c != '\r' && c != '\uFEFF'

theorem isInline_of_isInk {c : Char} (hc : isInk c = true) : isInline c = true := by
  simp (disch := decide) [isInline, ne_of_class hc]

theorem isInline_of_inkOrSpace {c : Char} (hc : isInk c = true ∨ c = ' ') :
    isInline c = true := by
  rcases hc with hc | rfl
  · exact isInline_of_isInk hc
  · rfl

/-- The cursor moved over a text within a line. -/
def past (c : Cursor) (s rest : List Char) : Cursor :=
  { c with rest, index := c.index + s.length, column := c.column + s.length }

theorem past_past (c : Cursor) (s t rest middle : List Char) :
    (c.past s middle).past t rest = c.past (s ++ t) rest := by
  simp [past, Nat.add_assoc]

/-- The cursor moved over the break at the end of a row. -/
abbrev nextRow (c : Cursor) (e : RowEnd) (rest : List Char) : Cursor :=
  { rest, index := c.index + e.lineBreak.length, line := c.line + 1, column := 0 }

theorem next_inline {c : Cursor} {ch : Char} {rest : List Char} (hrest : c.rest = ch :: rest)
    (hch : isInline ch = true) : c.next = c.past [ch] rest := by
  simp only [isInline, Bool.and_eq_true, bne_iff_ne, ne_eq] at hch
  obtain ⟨⟨hfeed, hreturn⟩, hmark⟩ := hch
  simp [next, hrest, past, hfeed, hreturn, hmark]

/-- Reading never goes back to an earlier line. -/
theorem line_le_next (c : Cursor) : c.line ≤ c.next.line := by
  unfold next
  split
  · exact Nat.le_refl _
  · split
    · exact Nat.le_succ _
    · split <;> exact Nat.le_refl _

theorem advance_inline {s rest : List Char} (hs : ∀ ch ∈ s, isInline ch = true) :
    ∀ {c : Cursor}, c.rest = s ++ rest → c.advance s.length = c.past s rest := by
  induction s with
  | nil =>
      intro c hrest
      obtain rfl : c.rest = rest := hrest
      rfl
  | cons ch more ih =>
      intro c hrest
      have hnext : c.next = c.past [ch] (more ++ rest) := next_inline hrest (hs ch (by simp))
      have hmore : c.next.advance more.length = c.next.past more rest :=
        ih (fun x hx => hs x (by simp [hx])) (by rw [hnext]; rfl)
      rw [List.length_cons, advance, hmore, hnext, past_past]
      rfl

theorem run_append {p : Char → Bool} {c : Cursor} {s rest : List Char}
    (hrest : c.rest = s ++ rest) (hs : ∀ ch ∈ s, p ch = true)
    (hstop : ∀ ch, rest.head? = some ch → p ch = false) :
    c.run p = s := by
  have hnil : rest.takeWhile p = [] := by
    cases rest with
    | nil => rfl
    | cons ch more => simp [hstop ch rfl]
  rw [run, hrest, List.takeWhile_append_of_pos hs, hnil, List.append_nil]

/-! ## Rows -/

/-- A text that is over or goes on with something in front of which nothing is skipped. -/
def Opens (s : List Char) : Prop :=
  ∀ c rest, s = c :: rest → beginsContent c = true

/-- What the content of a row may begin with. -/
inductive StartsRow : List Char → Prop
  | dash {rest : List Char} (hgap : endsWord (rest.headD '\x00') = true) :
      StartsRow ('-' :: rest)
  | word {c : Char} (rest : List Char) (hc : opensPhrase c = true) : StartsRow (c :: rest)
  | quote {c : Char} (rest : List Char) (hc : isQuote c = true) : StartsRow (c :: rest)

theorem Opens.nothing : Opens [] := by
  intro c rest h
  cases h

theorem Opens.cons {c : Char} (rest : List Char) (hc : beginsContent c = true) :
    Opens (c :: rest) := by
  intro d more h
  cases h
  exact hc

theorem StartsRow.opens {s : List Char} (h : StartsRow s) : Opens s := by
  cases h with
  | dash _ => exact .cons _ (by decide)
  | word rest hc =>
      exact .cons rest (beginsContent_of_isWordChar (isWordChar_of_opensPhrase hc))
  | quote rest hc => exact .cons rest (beginsContent_of_isQuote hc)

/-- A marker begins with a dash or a dot. -/
theorem not_atMarker_of_ne {c : Cursor} {d : Char} {rest : List Char}
    (hrest : c.rest = d :: rest) (hdash : d ≠ '-') (hdot : d ≠ '.') : c.atMarker = false := by
  unfold atMarker
  rw [hrest]
  split
  · simp_all
  · simp_all
  · rfl

theorem not_atMarker_of_startsRow {c : Cursor} {n : Nat} {s : List Char}
    (hrest : c.rest = List.replicate n ' ' ++ s) (hs : StartsRow s) : c.atMarker = false := by
  cases n with
  | succ n => exact not_atMarker_of_ne hrest (by decide) (by decide)
  | zero =>
      cases hs with
      | @dash rest hgap =>
          unfold atMarker
          rw [hrest]
          cases rest with
          | nil => rfl
          | cons d more =>
              have hdash : d ≠ '-' := by
                rintro rfl
                exact absurd hgap (by decide : endsWord '-' ≠ true)
              simp [hdash]
      | word rest hc =>
          exact not_atMarker_of_ne hrest (ne_of_class hc (by decide))
            (ne_of_class hc (by decide))
      | quote rest hc =>
          exact not_atMarker_of_ne hrest (ne_of_class hc (by decide))
            (ne_of_class hc (by decide))

theorem lineBreak_of_isInk {c : Cursor} {ch : Char} {rest : List Char}
    (hrest : c.rest = ch :: rest) (hch : isInk ch = true) : c.lineBreak = none := by
  unfold lineBreak
  split
  · rename_i hreturn
    rw [hrest] at hreturn
    cases hreturn
    cases hch
  · rename_i hcons
    rw [hrest] at hcons
    cases hcons
    simp (disch := decide) [ne_of_class hch]
  · rfl

theorem lineBreak_of_opens {c : Cursor} (hs : Opens c.rest) : c.lineBreak = none := by
  cases hrest : c.rest with
  | nil => simp [lineBreak, hrest]
  | cons ch rest => exact lineBreak_of_isInk hrest (isInk_of_beginsContent (hs ch rest hrest))

theorem lineBreak_rowEnd {c : Cursor} {e : RowEnd} {rest : List Char}
    (hrest : c.rest = e.lineBreak ++ rest) :
    c.lineBreak = some ('\n', c.nextRow e rest) := by
  obtain ⟨trailing, carriage⟩ := e
  cases carriage with
  | false =>
      have hfeed : c.rest = '\n' :: rest := hrest
      simp [lineBreak, next, hfeed, RowEnd.lineBreak]
  | true =>
      have hreturn : c.rest = '\r' :: '\n' :: rest := hrest
      simp [lineBreak, advance, next, hreturn, RowEnd.lineBreak]

theorem head_ne_of_opens {c : Cursor} {d : Char} (hs : Opens c.rest)
    (hd : beginsContent d = false) (hnul : d ≠ '\x00') : c.head ≠ d := by
  unfold head
  cases hrest : c.rest with
  | nil => exact fun e => hnul e.symm
  | cons ch rest => exact ne_of_class (hs _ _ hrest) hd

theorem head?_ne_of_opens {s : List Char} (hs : Opens s) (ch : Char)
    (h : s.head? = some ch) : (ch == ' ') = false := by
  cases hrest : s with
  | nil =>
      rw [hrest] at h
      cases h
  | cons d rest =>
      rw [hrest] at h
      cases h
      simpa using ne_of_class (hs _ _ hrest) (by decide : beginsContent ' ' = false)

theorem dropWhile_spaces {s : List Char} (hs : Opens s) (n : Nat) :
    (List.replicate n ' ' ++ s).dropWhile (· == ' ') = s := by
  rw [List.dropWhile_append_of_pos fun ch hch => by simp [List.eq_of_mem_replicate hch]]
  cases hcase : s with
  | nil => rfl
  | cons ch rest => simp [head?_ne_of_opens hs ch (by simp [hcase])]

theorem leadingSpaces_spaces {s : List Char} (hs : Opens s) (n : Nat) :
    leadingSpaces (List.replicate n ' ' ++ s) = n := by
  have hrun := run_append (p := (· == ' ')) (c := { rest := List.replicate n ' ' ++ s }) rfl
    (fun ch hch => by simp [List.eq_of_mem_replicate hch]) (head?_ne_of_opens hs)
  rw [leadingSpaces]
  simp only [run] at hrun
  rw [hrun, List.length_replicate]

/-- A text that goes on with a row in column `n` or left of it, or with the marker of another
document, or is over. -/
inductive Follows (n : Int) : List Char → Prop
  | row {k : Nat} {s : List Char} (hs : StartsRow s) (hk : (k : Int) ≤ n) :
      Follows n (List.replicate k ' ' ++ s)
  | marker (rest : List Char) : Follows n ('-' :: '-' :: '-' :: '\n' :: rest)
  | nothing : Follows n []

theorem Follows.weaken {n m : Int} {s : List Char} (h : Follows n s) (hle : n ≤ m) :
    Follows m s := by
  cases h with
  | row hs hk => exact .row hs (Int.le_trans hk hle)
  | marker rest => exact .marker rest
  | nothing => exact .nothing

/-- Whatever follows begins with spaces and goes on with something that is not skipped. -/
theorem Follows.split {n : Int} {text : List Char} (h : Follows n text) :
    ∃ k s, text = List.replicate k ' ' ++ s ∧ Opens s := by
  cases h with
  | row hs hk => exact ⟨_, _, rfl, hs.opens⟩
  | marker rest => exact ⟨0, _, rfl, .cons _ (by decide)⟩
  | nothing => exact ⟨0, [], rfl, .nothing⟩

/-- The cursor moved over spaces to the content of a row. -/
def toContent (c : Cursor) (n : Nat) (s : List Char) : Cursor :=
  c.past (List.replicate n ' ') s

theorem advance_spaces {c : Cursor} {n : Nat} {s : List Char}
    (hrest : c.rest = List.replicate n ' ' ++ s) : c.advance n = c.toContent n s := by
  have hinline : ∀ ch ∈ List.replicate n ' ', isInline ch = true := by
    intro ch hch
    rw [List.eq_of_mem_replicate hch]
    decide
  have hadvance := advance_inline hinline hrest
  rwa [List.length_replicate] at hadvance

theorem run_spaces {p : Char → Bool} {c : Cursor} {n : Nat} {s : List Char}
    (hp : ∀ ch, p ch = (ch == ' ')) (hrest : c.rest = List.replicate n ' ' ++ s)
    (hs : Opens s) : c.run p = List.replicate n ' ' := by
  refine run_append hrest (fun ch hch => ?_) fun ch hch => ?_
  · rw [hp, List.eq_of_mem_replicate hch]
    rfl
  · rw [hp]
    exact head?_ne_of_opens hs ch hch

theorem plainBreaks_spaces {s : List Char} (hs : Opens s) :
    ∀ {n fuel : Nat} {c : Cursor}, c.rest = List.replicate n ' ' ++ s → n < fuel →
      c.plainBreaks fuel = (some [], c.toContent n s)
  | 0, fuel + 1, c, hrest, _ => by
      obtain hrest : c.rest = s := hrest
      have hstart : Opens c.rest := hrest ▸ hs
      have hhead := head_ne_of_opens hstart (by decide : beginsContent ' ' = false) (by decide)
      simp [plainBreaks, hhead, lineBreak_of_opens hstart, toContent, past, ← hrest]
  | n + 1, fuel + 1, c, hrest, hlt => by
      have hcons : c.rest = ' ' :: (List.replicate n ' ' ++ s) := hrest
      have hnext := next_inline hcons (by decide)
      have hhead : c.head = ' ' := by simp [head, hcons]
      have hmore : c.next.plainBreaks fuel = (some [], c.next.toContent n s) :=
        plainBreaks_spaces hs (by rw [hnext]; rfl) (by omega)
      rw [plainBreaks, hhead, beq_self_eq_true, if_pos rfl, hmore, hnext, toContent, past_past]
      rfl

/-! ## Between tokens -/

theorem skipGap_spaces {c : Cursor} {n : Nat} {s : List Char} (keyAllowed : Bool) (fuel : Nat)
    (hrest : c.rest = List.replicate n ' ' ++ s) (hs : Opens s) :
    skipGap false (fuel + 1) c keyAllowed = { cursor := c.toContent n s, keyAllowed } := by
  have hrun : c.run (fun ch => ch == ' ' || (false && ch == '\t')) = List.replicate n ' ' :=
    run_spaces (fun ch => by simp) hrest hs
  have hskip : c.skip (fun ch => ch == ' ' || (false && ch == '\t')) = c.toContent n s := by
    rw [skip, hrun, List.length_replicate, advance_spaces hrest]
  have hcontent : Opens (c.toContent n s).rest := hs
  have hhead := head_ne_of_opens hcontent (by decide : beginsContent '#' = false) (by decide)
  simp only [skipGap, hskip, lineBreak_of_opens hcontent]
  simp [hhead]

/-- From the beginning of a row one comes to its content. -/
theorem gap_spaces {c : Cursor} {n : Nat} {s : List Char} (keyAllowed : Bool)
    (hrest : c.rest = List.replicate n ' ' ++ s) (hs : Opens s) :
    c.gap false keyAllowed = { cursor := c.toContent n s, keyAllowed } := by
  have hmark : c.head ≠ '\uFEFF' := by
    cases n with
    | zero =>
        have hstart : Opens c.rest := hrest ▸ hs
        exact head_ne_of_opens hstart (by decide) (by decide)
    | succ n => simp [head, hrest, List.replicate_succ]
  simp [gap, hmark, skipGap_spaces keyAllowed _ hrest hs]

/-- At the content of a row there is no gap. -/
theorem gap_here {c : Cursor} (keyAllowed : Bool) (hs : Opens c.rest) :
    c.gap false keyAllowed = { cursor := c, keyAllowed } :=
  gap_spaces (n := 0) keyAllowed rfl hs

theorem gap_colon {c : Cursor} {rest : List Char} (keyAllowed : Bool)
    (hrest : c.rest = ':' :: rest) :
    c.gap false keyAllowed = { cursor := c, keyAllowed } := by
  have hhead : c.head = ':' := by simp [head, hrest]
  have hrun : c.run (· == ' ') = [] := by simp [run, hrest]
  have hbreak : c.lineBreak = none := by simp [lineBreak, hrest]
  simp [gap, skipGap, skip, hhead, hrun, advance, hbreak]

/-- From the end of a row one comes to the next one. -/
theorem gap_overRowEnd {c : Cursor} {e : RowEnd} {text : List Char} (keyAllowed : Bool)
    (hrest : c.rest = e.chars ++ text) (htext : text.headD '\x00' ≠ '\n') :
    ∃ (d : Cursor) (fuel : Nat), c.gap false keyAllowed = skipGap false (fuel + 1) d true ∧
      d.rest = text ∧ d.column = 0 ∧ d.line = c.line + 1 := by
  let atBreak : Cursor := c.toContent e.trailing (e.lineBreak ++ text)
  have hbreak : ∃ d more, e.lineBreak ++ text = d :: more ∧ (d = '\n' ∨ d = '\r') := by
    rw [RowEnd.lineBreak]
    split
    · exact ⟨_, _, rfl, .inr rfl⟩
    · exact ⟨_, _, rfl, .inl rfl⟩
  obtain ⟨d, more, hcons, hd⟩ := hbreak
  rw [RowEnd.chars, List.append_assoc] at hrest
  have hmark : c.head ≠ '\uFEFF' := by
    cases htrailing : e.trailing with
    | zero =>
        rw [htrailing, List.replicate_zero, List.nil_append, hcons] at hrest
        rcases hd with rfl | rfl <;> simp [head, hrest]
    | succ t => simp [head, hrest, htrailing, List.replicate_succ]
  have hrun : c.run (fun ch => ch == ' ' || (false && ch == '\t')) =
      List.replicate e.trailing ' ' := by
    refine run_append hrest (fun ch hch => ?_) fun ch hch => ?_
    · simp [List.eq_of_mem_replicate hch]
    · rw [hcons] at hch
      cases hch
      rcases hd with rfl | rfl <;> decide
  have hskip : c.skip (fun ch => ch == ' ' || (false && ch == '\t')) = atBreak := by
    rw [skip, hrun, List.length_replicate]
    exact advance_spaces hrest
  have hhead : atBreak.head ≠ '#' := by
    rcases hd with rfl | rfl <;> simp [head, atBreak, toContent, past, hcons]
  obtain ⟨fuel, hfuel⟩ : ∃ fuel, c.rest.length + 1 = fuel + 1 + 1 :=
    ⟨c.rest.length - 1, by rw [hrest, hcons]; simp; omega⟩
  refine ⟨atBreak.nextRow e text, fuel, ?_, rfl, rfl, rfl⟩
  unfold gap
  rw [if_neg (by simp [hmark])]
  change skipGap false (c.rest.length + 1) c keyAllowed = _
  rw [hfuel, skipGap, hskip]
  simp only [lineBreak_rowEnd (c := atBreak) (e := e) rfl]
  rw [if_neg (by simpa using hhead), if_neg (by simpa [head] using htext)]
  simp

/-- From the end of a row one comes to the content of the next one. -/
theorem gap_rowEnd {c : Cursor} {e : RowEnd} {n : Nat} {s : List Char} (keyAllowed : Bool)
    (hrest : c.rest = e.chars ++ (List.replicate n ' ' ++ s)) (hs : Opens s) :
    ∃ d : Cursor, c.gap false keyAllowed = { cursor := d, keyAllowed := true } ∧ d.rest = s ∧
      d.column = n ∧ d.line = c.line + 1 := by
  have htext : (List.replicate n ' ' ++ s).headD '\x00' ≠ '\n' := by
    cases n with
    | succ n => simp [List.replicate_succ]
    | zero =>
        cases hcase : s with
        | nil => simp
        | cons ch rest =>
            simpa using ne_of_class (hs _ _ hcase) (by decide : beginsContent '\n' = false)
  obtain ⟨d, fuel, hgap, hd, hcolumn, hline⟩ := gap_overRowEnd keyAllowed hrest htext
  refine ⟨d.toContent n s, by rw [hgap, skipGap_spaces true fuel hd hs], rfl, ?_, hline⟩
  simp [toContent, past, hcolumn]

end Cursor

end Yaml
end YamlTidy
