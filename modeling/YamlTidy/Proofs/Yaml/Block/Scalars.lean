import YamlTidy.Proofs.Yaml.Block.Cursor
import YamlTidy.Yaml.Token.Flow

/-!
# Scalars under a cursor

A phrase is read word by word (`PlainContext.words_phrase`), up to a colon with a gap behind it
(`PlainContext.token_key`) or up to the end of its row when nothing that is indented deeper follows
(`PlainContext.token_value`).  A quotation is read up to its closing quote, the words and the spaces
between them as they stand (`Cursor.quotedToken_quotation`).
-/

namespace YamlTidy
namespace Yaml

open Text

/-! ## Phrases as plain scalars -/

/-- A phrase that does not begin with a space begins with something that is not skipped. -/
theorem opens_of_isPhrase {s : List Char} (h : isPhrase true s = true)
    (hspace : s.head? ≠ some ' ') (rest : List Char) : Cursor.Opens (s ++ rest) := by
  cases s with
  | nil => cases h
  | cons c more =>
      have hc : (c == ' ') = false := by simpa using hspace
      simp only [isPhrase, hc, Bool.false_eq_true, if_false, Bool.true_and, Bool.and_eq_true,
        Bool.not_eq_true'] at h
      exact .cons _ (by simp [beginsContent, bne, h.1.1])

/-- Behind a space a phrase goes on with some more spaces and its next word. -/
theorem exists_spaces_of_isPhrase {s : List Char} (h : isPhrase true s = true) :
    ∃ k t, s = List.replicate k ' ' ++ t ∧ isPhrase true t = true ∧ t.head? ≠ some ' ' := by
  induction s with
  | nil => cases h
  | cons c rest ih =>
      by_cases hc : c = ' '
      · subst hc
        obtain ⟨k, t, rfl, ht, hhead⟩ := ih h
        exact ⟨k + 1, t, rfl, ht, hhead⟩
      · exact ⟨0, c :: rest, rfl, h, by simpa using hc⟩

/-- Behind the first word of a phrase there is nothing, or spaces and the next word. -/
theorem dropWhile_isPhrase {gap : Bool} {s : List Char} (h : isPhrase gap s = true) :
    s.dropWhile (· != ' ') = [] ∨
      ∃ k t, s.dropWhile (· != ' ') = List.replicate (k + 1) ' ' ++ t ∧
      isPhrase true t = true ∧ t.head? ≠ some ' ' := by
  induction s generalizing gap with
  | nil => exact .inl rfl
  | cons c rest ih =>
      rw [isPhrase] at h
      split at h
      · next hc =>
          obtain ⟨k, t, rfl, ht, hhead⟩ := exists_spaces_of_isPhrase h
          exact .inr ⟨k, t, by simp [beq_iff_eq.mp hc, List.replicate_succ], ht, hhead⟩
      · next hc =>
          simp only [Bool.and_eq_true] at h
          rw [List.dropWhile_cons_of_pos (by simpa [bne] using hc)]
          exact ih h.2

namespace PlainContext

variable {ctx : PlainContext} {c : Cursor} {rest : List Char}

/-- The first word of a phrase is read up to a space or to what ends the phrase. -/
theorem wordLength_phrase (hflow : ctx.inFlow = false) (hstop : ctx.wordLength rest = 0) :
    ∀ {s : List Char} {gap : Bool}, isPhrase gap s = true →
      ctx.wordLength (s ++ rest) = (s.takeWhile (· != ' ')).length
  | [], _, _ => hstop
  | ch :: more, gap, h => by
      rw [isPhrase] at h
      split at h
      · next hspace =>
          rw [beq_iff_eq.mp hspace]
          simp [wordLength, endsWord]
      · next hspace =>
          simp only [Bool.and_eq_true, Bool.not_eq_true', Bool.and_eq_false_iff,
            beq_eq_false_iff_ne] at h
          obtain ⟨⟨⟨hink, -⟩, hcolon⟩, hmore⟩ := h
          have hlength := wordLength_phrase hflow hstop hmore
          have hword : (ch :: more).takeWhile (· != ' ') = ch :: more.takeWhile (· != ' ') :=
            List.takeWhile_cons_of_pos (by simpa [bne] using hspace)
          have hend := endsWord_of_isInk hink
          rw [hword, List.length_cons, ← hlength, List.cons_append, wordLength]
          -- A colon is part of the word, since something that can be seen follows.
          by_cases hc : ch = ':'
          · subst hc
            have hnext : endsWord ((more ++ rest).headD '\x00') = false := by
              cases more with
              | nil => simp at hcolon
              | cons d others =>
                  have hd : (d == ' ') = false := by simpa using hcolon
                  simp only [isPhrase, hd, Bool.false_eq_true, if_false,
                    Bool.and_eq_true] at hmore
                  exact endsWord_of_isInk hmore.1.1.1
            rw [if_pos (by simp only [hnext]; rfl)]
          · simp [hc, hend, hflow]

theorem wordLength_rowEnd (e : RowEnd) (rest : List Char) :
    ctx.wordLength (e.chars ++ rest) = 0 := by
  obtain ⟨trailing, carriage⟩ := e
  cases trailing <;> cases carriage <;>
    simp [RowEnd.chars, RowEnd.lineBreak, wordLength, endsWord, endsLine, isBreak,
      List.replicate_succ]

theorem wordLength_colon (h : endsWord (rest.headD '\x00') = true) :
    ctx.wordLength (':' :: rest) = 0 := by
  rw [wordLength, h]
  simp

/-- Between two words of a phrase there are only spaces. -/
theorem plainGap_spaces {k : Nat} {s : List Char} (hrest : c.rest = List.replicate k ' ' ++ s)
    (hs : Cursor.Opens s) :
    c.plainGap =
      { text := List.replicate k ' ', cursor := c.toContent k s, brokenLine := false } := by
  have hrun : c.run (· == ' ') = List.replicate k ' ' :=
    Cursor.run_spaces (fun _ => rfl) hrest hs
  have hcontent : Cursor.Opens (c.toContent k s).rest := hs
  simp [Cursor.plainGap, hrun, Cursor.advance_spaces hrest,
    Cursor.lineBreak_of_opens hcontent]

/-- In front of a colon nothing stands behind a phrase. -/
theorem plainGap_colon (hrest : c.rest = ':' :: rest) :
    c.plainGap = { text := [], cursor := c, brokenLine := false } := by
  have hrun : c.run (· == ' ') = [] := by simp [Cursor.run, hrest]
  have hbreak : c.lineBreak = none := by simp [Cursor.lineBreak, hrest]
  simp [Cursor.plainGap, hrun, Cursor.advance, hbreak]

/-- A phrase begins with a word, behind which there is nothing or spaces and the next word. -/
theorem exists_word (hflow : ctx.inFlow = false) (hstop : ctx.wordLength rest = 0)
    {s : List Char} (h : isPhrase true s = true) (hspace : s.head? ≠ some ' ') :
    ∃ word more, s = word ++ more ∧ word ≠ [] ∧ ctx.wordLength (s ++ rest) = word.length ∧
      (more = [] ∨ ∃ k t, more = List.replicate (k + 1) ' ' ++ t ∧ isPhrase true t = true ∧
        t.head? ≠ some ' ') := by
  have hsplit := List.takeWhile_append_dropWhile (p := (· != ' ')) (l := s)
  refine ⟨_, _, hsplit.symm, fun hnil => ?_, wordLength_phrase hflow hstop h,
    dropWhile_isPhrase h⟩
  cases s with
  | nil => cases h
  | cons c more =>
      have hc : c ≠ ' ' := by simpa using hspace
      simp [hc] at hnil

/-- A plain scalar whose last word ends under a cursor. -/
def endingAt (text : List Char) (c : Cursor) : PlainScalar where
  text := text
  stop := c.mark
  cursor := c.plainGap.cursor
  gap := c.plainGap.text
  brokenLine := c.plainGap.brokenLine

/-- No word of a plain scalar stands behind the gap under a cursor. -/
def Ends (ctx : PlainContext) (c : Cursor) : Prop :=
  c.plainGap.text = [] ∨ (c.plainGap.cursor.column : Int) < ctx.indent ∨
    c.plainGap.cursor.rest = [] ∨ c.plainGap.cursor.head = '#'

/-- With one word more, a plain scalar ends there or goes on. -/
theorem words_succ {p : PlainScalar} {word more : List Char} (fuel : Nat)
    (hrest : p.cursor.rest = word ++ more) (hne : word ≠ [])
    (hinline : ∀ ch ∈ word, Cursor.isInline ch = true) (hsign : p.cursor.head ≠ '#')
    (hlength : ctx.wordLength p.cursor.rest = word.length) :
    ctx.words (fuel + 1) p =
      if (p.cursor.past word more).plainGap.text.isEmpty ||
          (p.cursor.past word more).plainGap.cursor.head == '#' ||
          (!ctx.inFlow &&
            ((p.cursor.past word more).plainGap.cursor.column : Int) < ctx.indent) then
        endingAt (p.text ++ p.gap ++ word) (p.cursor.past word more)
      else ctx.words fuel (endingAt (p.text ++ p.gap ++ word) (p.cursor.past word more)) := by
  have hpos : word.length ≠ 0 := fun hzero => hne (List.length_eq_zero_iff.mp hzero)
  have hadvance : p.cursor.advance word.length = p.cursor.past word more :=
    Cursor.advance_inline hinline hrest
  have htake : p.cursor.rest.take word.length = word := by simp [hrest]
  rw [words]
  simp only [beq_iff_eq, hsign, if_false, hlength, hpos, htake, hadvance]
  rfl

/-- Where a plain scalar ends reading ends, too.  Only at the end of the text another round is
begun, which finds nothing. -/
theorem words_last (hflow : ctx.inFlow = false) {word more : List Char} {p : PlainScalar}
    (fuel : Nat) (hrest : p.cursor.rest = word ++ more) (hne : word ≠ [])
    (hinline : ∀ ch ∈ word, Cursor.isInline ch = true) (hsign : p.cursor.head ≠ '#')
    (hlength : ctx.wordLength p.cursor.rest = word.length)
    (hends : ctx.Ends (p.cursor.past word more)) :
    ctx.words (fuel + 1) p =
      endingAt (p.text ++ p.gap ++ word) (p.cursor.past word more) := by
  rw [words_succ fuel hrest hne hinline hsign hlength, ite_eq_left_iff]
  intro hgoesOn
  rcases hends with hend | hend | hend | hend
  · simp [hend] at hgoesOn
  · simp [hend, hflow] at hgoesOn
  · cases fuel with
    | zero => rfl
    | succ fuel => simp [words, endingAt, hend, wordLength]
  · simp [hend] at hgoesOn

/-- A phrase is read word by word, and reading ends behind it when nothing goes on there.  Its words
have to stand right enough, if there are several. -/
theorem words_phrase (hflow : ctx.inFlow = false) (hstop : ctx.wordLength rest = 0) :
    ∀ {fuel : Nat} {s : List Char} {p : PlainScalar}, s.length ≤ fuel →
      isPhrase true s = true → s.head? ≠ some ' ' → p.cursor.rest = s ++ rest →
        ' ' ∉ s ∨ ctx.indent ≤ p.cursor.column → ctx.Ends (p.cursor.past s rest) →
          ctx.words fuel p = endingAt (p.text ++ p.gap ++ s) (p.cursor.past s rest) := by
  intro fuel
  induction fuel with
  | zero =>
      intro s _ hlength h
      rw [List.length_eq_zero_iff.mp (Nat.le_zero.mp hlength)] at h
      cases h
  | succ fuel ih =>
      intro s p hlength h hspace hrest hroom hends
      have hsign : p.cursor.head ≠ '#' := by
        have hopens := opens_of_isPhrase h hspace rest
        rw [← hrest] at hopens
        exact Cursor.head_ne_of_opens hopens (by decide) (by decide)
      obtain ⟨word, more, rfl, hne, hread, hmore⟩ := exists_word hflow hstop h hspace
      rw [← hrest] at hread
      rw [List.append_assoc] at hrest
      have hinline : ∀ ch ∈ word, Cursor.isInline ch = true := fun ch hch =>
        Cursor.isInline_of_inkOrSpace (mem_of_isPhrase h ch (List.mem_append_left _ hch))
      rcases hmore with rfl | ⟨k, t, rfl, ht, hthead⟩
      · simp only [List.append_nil, List.nil_append] at hrest hends ⊢
        exact words_last hflow fuel hrest hne hinline hsign hread hends
      · rw [List.append_assoc] at hrest
        let next : Cursor :=
          (p.cursor.past word (List.replicate (k + 1) ' ' ++ (t ++ rest))).toContent (k + 1)
            (t ++ rest)
        have hopensNext : Cursor.Opens next.rest := opens_of_isPhrase ht hthead rest
        have hsignNext : next.head ≠ '#' :=
          Cursor.head_ne_of_opens hopensNext (by decide) (by decide)
        have hright : ctx.indent ≤ p.cursor.column := hroom.resolve_left fun h => h (by simp)
        have hcolumn : ctx.indent ≤ next.column := by
          simp only [next, Cursor.toContent, Cursor.past]
          omega
        have hgap : (p.cursor.past word (List.replicate (k + 1) ' ' ++ (t ++ rest))).plainGap =
            { text := List.replicate (k + 1) ' ', cursor := next, brokenLine := false } :=
          plainGap_spaces rfl hopensNext
        have hpast : next.past t rest =
            p.cursor.past (word ++ (List.replicate (k + 1) ' ' ++ t)) rest := by
          simp only [next, Cursor.toContent, Cursor.past_past, List.append_assoc]
        have hshort : t.length ≤ fuel := by
          simp only [List.length_append, List.length_replicate] at hlength
          omega
        rw [words_succ fuel hrest hne hinline hsign hread, endingAt, hgap,
          if_neg (by simpa [hsignNext, hflow] using hcolumn),
          ih hshort ht hthead rfl (.inr hcolumn) (by rw [hpast]; exact hends), hpast]
        simp

section RowEnd

variable {e : RowEnd} {text : List Char}

/-- The cursor moved over the end of a row. -/
def below (c : Cursor) (e : RowEnd) (text : List Char) : Cursor :=
  (c.toContent e.trailing (e.lineBreak ++ text)).nextRow e text

theorem break_rowEnd (hrest : c.rest = e.chars ++ text) :
    c.run (· == ' ') = List.replicate e.trailing ' ' ∧
      (c.advance e.trailing).lineBreak = some ('\n', below c e text) := by
  rw [RowEnd.chars, List.append_assoc] at hrest
  refine ⟨Cursor.run_append hrest (fun ch hch => by simp [List.eq_of_mem_replicate hch]) ?_, ?_⟩
  · rw [RowEnd.lineBreak]
    split <;> simp
  · rw [Cursor.advance_spaces hrest]
    exact Cursor.lineBreak_rowEnd rfl

/-- Behind the end of a row comes a gap that folds to a space, up to what follows in the rows
below. -/
theorem plainGap_below {d : Cursor} (hrest : c.rest = e.chars ++ text)
    (hmarker : (below c e text).atMarker = false)
    (hbreaks : (below c e text).plainBreaks (text.length + 1) = (some [], d)) :
    c.plainGap = { text := [' '], cursor := d, brokenLine := true } := by
  obtain ⟨hrun, hbreak⟩ := break_rowEnd hrest
  have hlength : (below c e text).rest.length = text.length := rfl
  unfold Cursor.plainGap
  rw [hrun]
  simp only [List.length_replicate, hbreak, hmarker, hlength, hbreaks]
  rfl

theorem plainGap_marker (hrest : c.rest = e.chars ++ text)
    (hmarker : (below c e text).atMarker = true) :
    c.plainGap = { text := [], cursor := below c e text, brokenLine := true } := by
  obtain ⟨hrun, hbreak⟩ := break_rowEnd hrest
  unfold Cursor.plainGap
  rw [hrun]
  simp only [List.length_replicate, hbreak, hmarker, if_true]

/-- At the end of its row a phrase is followed by a break, and reading goes on in the next row.  The
break folds to a space in front of a row, which stands in column `n` or left of it, and at the end
of the text. -/
theorem plainGap_rowEnd {n : Int} (hrest : c.rest = e.chars ++ text)
    (htext : Cursor.Follows n text) :
    c.plainGap.cursor.rest = text.dropWhile (· == ' ') ∧
      c.plainGap.cursor.column = leadingSpaces text ∧ c.plainGap.cursor.line = c.line + 1 ∧
      c.plainGap.brokenLine = true ∧ (c.plainGap.text = [] ∨ c.plainGap.text = [' '] ∧
        ((c.plainGap.cursor.column : Int) ≤ n ∨ c.plainGap.cursor.rest = [])) := by
  cases htext with
  | @row k s hs hk =>
      have hlength : k < (List.replicate k ' ' ++ s).length + 1 := by
        rw [List.length_append, List.length_replicate]
        omega
      rw [plainGap_below hrest (Cursor.not_atMarker_of_startsRow rfl hs)
        (Cursor.plainBreaks_spaces hs.opens rfl hlength)]
      rw [Cursor.dropWhile_spaces hs.opens, Cursor.leadingSpaces_spaces hs.opens]
      simp [below, Cursor.toContent, Cursor.past, hk]
  | marker rest =>
      rw [plainGap_marker hrest
        (by simp [below, Cursor.atMarker, endsWord, endsLine, isBreak])]
      simp [below, leadingSpaces, Cursor.toContent, Cursor.past]
  | nothing =>
      rw [plainGap_below hrest (by simp [below, Cursor.atMarker])
        (Cursor.plainBreaks_spaces (n := 0) .nothing rfl Nat.one_pos)]
      simp [below, Cursor.toContent, Cursor.past, leadingSpaces]

end RowEnd

/-- A plain scalar may begin with what opens a phrase. -/
theorem begins_phrase (ctx : PlainContext) (hhead : opensPhrase c.head = true) :
    ctx.begins c = true := by
  have hspecial : ("\x00 \t\r\n-?:,[]#&*!|>'\"%@".toList ++
      ['\x85', '\u2028', '\u2029', '\x7b', '\x7d', '\x60']).all (!opensPhrase ·) = true := by
    decide +kernel
  have hfree : ("\x00 \t\r\n-?:,[]#&*!|>'\"%@".toList ++
      ['\x85', '\u2028', '\u2029', '\x7b', '\x7d', '\x60']).contains c.head = false := by
    refine Bool.eq_false_iff.mpr fun hmem => ?_
    have h := List.all_eq_true.mp hspecial c.head (List.contains_iff_mem.mp hmem)
    simp [hhead] at h
  unfold begins
  simp only [hfree, Bool.not_false, Bool.true_or]

section Phrase

variable {p : Phrase}

theorem head_phrase (hrest : c.rest = p.chars ++ rest) : opensPhrase c.head = true := by
  obtain ⟨d, more, hcons, hd⟩ := p.exists_cons
  rw [Cursor.head, hrest, hcons]
  exact hd

/-- A phrase is read in one scan when nothing goes on behind it. -/
theorem scan_phrase (hflow : ctx.inFlow = false) (hrest : c.rest = p.chars ++ rest)
    (hstop : ctx.wordLength rest = 0) (hroom : ' ' ∉ p.chars ∨ ctx.indent ≤ c.column)
    (hends : ctx.Ends (c.past p.chars rest)) :
    ctx.scan c = endingAt p.chars (c.past p.chars rest) := by
  obtain ⟨d, more, hcons, hd⟩ := p.exists_cons
  have hspace : p.chars.head? ≠ some ' ' := by
    rw [hcons]
    simpa using ne_of_class hd (by decide : opensPhrase ' ' = false)
  have hlength : p.chars.length ≤ c.rest.length + 1 := by
    rw [hrest, List.length_append]
    omega
  exact words_phrase (p := { stop := c.mark, cursor := c }) hflow hstop hlength p.fits hspace
    hrest hroom hends

/-- A key in front of a colon is a scalar. -/
theorem token_key (ctx : PlainContext) {key : Key} (hflow : ctx.inFlow = false)
    (hrest : c.rest = key.chars ++ ':' :: rest) (hcolon : endsWord (rest.headD '\x00') = true) :
    (ctx.token c).1.kind = .scalar key.chars .plain [] ∧ (ctx.token c).1.comments = none ∧
      (ctx.token c).2.cursor = c.past key.chars (':' :: rest) ∧
      (ctx.token c).2.brokenLine = false ∧ (ctx.token c).1.stop.line = c.line := by
  have hgap : (c.past key.chars (':' :: rest)).plainGap =
      { text := [], cursor := c.past key.chars (':' :: rest), brokenLine := false } :=
    plainGap_colon rfl
  have hscan := scan_phrase (p := key.toPhrase) hflow hrest (wordLength_colon hcolon)
    (.inl key.oneWord) (.inl (by rw [hgap]))
  have hstop : (ctx.token c).1.stop = (c.past key.chars (':' :: rest)).mark := by
    simp [token, hscan, endingAt]
  exact ⟨by simp [token, hscan, endingAt], by simp [token, hscan, endingAt, hgap],
    by simp [token, hscan, endingAt, hgap], by simp [token, hscan, endingAt, hgap],
    congrArg Mark.line hstop⟩

/-- The phrase under the cursor is read as a scalar, and reading goes on in the next row. -/
structure EndsRow (ctx : PlainContext) (p : Phrase) (c : Cursor) : Prop where
  kind : (ctx.token c).1.kind = .scalar p.chars .plain []
  comments : (ctx.token c).1.comments = none
  line : (ctx.token c).2.cursor.line = c.line + 1
  broken : (ctx.token c).2.brokenLine = true
  stop : (ctx.token c).1.stop.line = c.line

/-- A phrase ends its row when nothing goes on in the next one. -/
theorem token_rowEnd (ctx : PlainContext) {e : RowEnd} {text : List Char}
    (hflow : ctx.inFlow = false) (hrest : c.rest = p.chars ++ (e.chars ++ text))
    (hroom : ctx.indent ≤ c.column)
    (hends : ctx.Ends (c.past p.chars (e.chars ++ text)))
    (hgap : (c.past p.chars (e.chars ++ text)).plainGap.text = [] ∨
      (c.past p.chars (e.chars ++ text)).plainGap.text = [' '])
    (hline : (c.past p.chars (e.chars ++ text)).plainGap.cursor.line = c.line + 1)
    (hbroken : (c.past p.chars (e.chars ++ text)).plainGap.brokenLine = true) :
    ctx.EndsRow p c ∧
      (ctx.token c).2.cursor = (c.past p.chars (e.chars ++ text)).plainGap.cursor := by
  have hscan := scan_phrase hflow hrest (wordLength_rowEnd e text) (.inr hroom) hends
  have hstop : (ctx.token c).1.stop = (c.past p.chars (e.chars ++ text)).mark := by
    simp [token, hscan, endingAt]
  refine ⟨⟨by simp [token, hscan, endingAt], ?_, ?_, ?_, congrArg Mark.line hstop⟩,
    by simp [token, hscan, endingAt]⟩
  · rcases hgap with hgap | hgap <;> simp [token, hscan, endingAt, hgap]
  · simp only [token, hscan, endingAt]
    exact hline
  · simpa [token, hscan, endingAt] using hbroken

/-- A phrase at the end of its row is a scalar, if the next row is not indented deeper. -/
theorem token_value (ctx : PlainContext) {e : RowEnd} {n : Int} {text : List Char}
    (hflow : ctx.inFlow = false) (hrest : c.rest = p.chars ++ (e.chars ++ text))
    (hroom : ctx.indent ≤ c.column) (htext : Cursor.Follows n text) (hn : n < ctx.indent) :
    ctx.EndsRow p c ∧ (ctx.token c).2.cursor.rest = text.dropWhile (· == ' ') ∧
      (ctx.token c).2.cursor.column = leadingSpaces text := by
  obtain ⟨hgrest, hgcolumn, hgline, hgbroken, hgtext⟩ :=
    plainGap_rowEnd (c := c.past p.chars (e.chars ++ text)) rfl htext
  obtain ⟨hends, hcursor⟩ := token_rowEnd ctx hflow hrest hroom
    (hgtext.imp_right fun h => h.2.imp (fun hle => Int.lt_of_le_of_lt hle hn) .inl)
    (hgtext.imp_right And.left) hgline hgbroken
  rw [hcursor]
  exact ⟨hends, hgrest, hgcolumn⟩

end Phrase

end PlainContext

/-! ## Quotations -/

namespace Cursor

variable {double : Bool} {c : Cursor} {s rest : List Char}

theorem specialInQuotes_quoteMark (double : Bool) :
    specialInQuotes (quoteMark double) = true := by
  cases double <;> decide

theorem isInline_of_isQuotable {ch : Char} (h : isQuotable double ch = true) :
    isInline ch = true := by
  simp only [isQuotable, Bool.and_eq_true, Bool.or_eq_true, beq_iff_eq] at h
  exact isInline_of_inkOrSpace h.1.symm

/-- Inside quotes a space ends a word, and so does a quote or a backslash that the kind of the
quotes does not give a meaning. -/
theorem of_specialInQuotes {ch : Char} (h : isQuotable double ch = true)
    (hspecial : specialInQuotes ch = true) :
    ch = ' ' ∨ (double = true ∧ ch = '\'') ∨
      (double = false ∧ (ch = '"' ∨ ch = '\\')) := by
  simp only [isQuotable, Bool.and_eq_true, Bool.or_eq_true, beq_iff_eq] at h
  obtain ⟨hink, hquote⟩ := h
  rcases hink with rfl | hink
  · exact .inl rfl
  · have hspace := ne_of_class hink (by decide : isInk ' ' = false)
    have htab := ne_of_class hink (by decide : isInk '\t' = false)
    have hbreak : isBreak ch = false := by
      simp (disch := decide) [isBreak, ne_of_class hink]
    simp only [specialInQuotes, Bool.or_eq_true, beq_iff_eq, hspace, htab, hbreak, false_or,
      or_false, Bool.false_eq_true] at hspecial
    cases double <;> simp_all

/-- A text splits in front of its first character that is special inside quotes. -/
theorem exists_plain_append (s : List Char) : ∃ plain tail, s = plain ++ tail ∧
    (∀ ch ∈ plain, specialInQuotes ch = false) ∧
    (tail = [] ∨ ∃ ch more, tail = ch :: more ∧ specialInQuotes ch = true) := by
  refine ⟨s.takeWhile (!specialInQuotes ·), s.dropWhile (!specialInQuotes ·),
    List.takeWhile_append_dropWhile.symm, fun ch hch => ?_, ?_⟩
  · simpa using List.all_eq_true.mp List.all_takeWhile ch hch
  · have hhead := List.head?_dropWhile_not (!specialInQuotes ·) s
    cases htail : s.dropWhile (!specialInQuotes ·) with
    | nil => exact .inl rfl
    | cons ch more =>
        rw [htail] at hhead
        exact .inr ⟨ch, more, rfl, by simpa using hhead⟩

/-- A word ends at a space and at a closing quote that no second one follows. -/
theorem quotedWord_stops {d : Cursor} (fuel : Nat)
    (hplain : c.advance (c.run (!specialInQuotes ·)).length = d)
    (hd : d.head = ' ' ∨ d.head = quoteMark double ∧ d.ahead 1 ≠ '\'') :
    c.quotedWord double (fuel + 1) = .ok (c.run (!specialInQuotes ·), d) := by
  unfold quotedWord
  simp only [hplain]
  rcases hd with hspace | ⟨hquote, hahead⟩
  · cases double <;> simp [hspace]
  · cases double <;> simp [hquote, hahead, quoteMark]

/-- A word goes on behind a quote or a backslash that its quotes do not give a meaning. -/
theorem quotedWord_goesOn {d : Cursor} {fuel : Nat}
    (hplain : c.advance (c.run (!specialInQuotes ·)).length = d)
    (hd : double = true ∧ d.head = '\'' ∨ double = false ∧ (d.head = '"' ∨ d.head = '\\'))
    {more : List Char} {last : Cursor}
    (hmore : d.next.quotedWord double fuel = .ok (more, last)) :
    c.quotedWord double (fuel + 1) =
      .ok (c.run (!specialInQuotes ·) ++ d.head :: more, last) := by
  unfold quotedWord
  simp only [hplain]
  rcases hd with ⟨rfl, hquote⟩ | ⟨rfl, hquote | hquote⟩ <;>
    simp [hquote, hmore, bind, Except.bind]

/-- A word inside quotes is read up to the next space or the closing quote, which no second one
follows. -/
theorem quotedWord_quotable (hrest : rest.head? ≠ some '\'') :
    ∀ {fuel : Nat} {s : List Char} {c : Cursor}, s.length < fuel →
      (∀ ch ∈ s, isQuotable double ch = true) → c.rest = s ++ quoteMark double :: rest →
        c.quotedWord double fuel = .ok (s.takeWhile (· != ' '),
          c.past (s.takeWhile (· != ' '))
            (s.dropWhile (· != ' ') ++ quoteMark double :: rest)) := by
  intro fuel
  induction fuel with
  | zero => exact fun h => absurd h (Nat.not_lt_zero _)
  | succ fuel ih =>
      intro s c hlength hs hc
      obtain ⟨plain, tail, rfl, hplain, htail⟩ := exists_plain_append s
      have hword : ∀ ch ∈ plain, (ch != ' ') = true := fun ch hch =>
        bne_iff_ne.mpr (ne_of_class (p := (!specialInQuotes ·)) (by simp [hplain ch hch]) rfl)
      rw [List.append_assoc] at hc
      have hrun : c.run (!specialInQuotes ·) = plain := by
        refine run_append hc (fun ch hch => by simp [hplain ch hch]) fun ch hch => ?_
        rcases htail with rfl | ⟨d, more, rfl, hd⟩
        · cases hch
          simp [specialInQuotes_quoteMark]
        · cases hch
          simp [hd]
      have hadvance : c.advance (c.run (!specialInQuotes ·)).length =
          c.past plain (tail ++ quoteMark double :: rest) := by
        rw [hrun]
        exact advance_inline (fun ch hch => isInline_of_isQuotable (hs ch (by simp [hch]))) hc
      rw [List.takeWhile_append_of_pos hword, List.dropWhile_append_of_pos hword]
      rcases htail with rfl | ⟨d, more, rfl, hd⟩
      · have hahead : (c.past plain (quoteMark double :: rest)).ahead 1 ≠ '\'' := by
          cases rest with
          | nil => simp [ahead, past]
          | cons ch others => simpa [ahead, past] using hrest
        rw [quotedWord_stops fuel hadvance (.inr ⟨rfl, hahead⟩), hrun]
        simp
      · have hquotable := hs d (by simp)
        rcases of_specialInQuotes hquotable hd with rfl | hmark
        · rw [quotedWord_stops fuel hadvance (.inl rfl), hrun]
          simp
        · have hspace : (d != ' ') = true := by
            rcases hmark with ⟨-, rfl⟩ | ⟨-, rfl | rfl⟩ <;> rfl
          have hnext : (c.past plain (d :: more ++ quoteMark double :: rest)).next =
              c.past (plain ++ [d]) (more ++ quoteMark double :: rest) := by
            rw [next_inline rfl (isInline_of_isQuotable hquotable), past_past]
            rfl
          have hmore := ih (s := more)
            (c := (c.past plain (d :: more ++ quoteMark double :: rest)).next)
            (by simp only [List.length_append, List.length_cons] at hlength; omega)
            (fun ch hch => hs ch (by simp [hch])) (by rw [hnext]; rfl)
          rw [quotedWord_goesOn hadvance hmark hmore, hrun, hnext, past_past,
            List.takeWhile_cons_of_pos (p := (· != ' ')) hspace,
            List.dropWhile_cons_of_pos (p := (· != ' ')) hspace]
          simp [head, past]

/-- Spaces inside quotes count as they stand. -/
theorem quotedSpaces_spaces {k : Nat} {ch : Char}
    (hc : c.rest = List.replicate k ' ' ++ ch :: rest) (hch : isInk ch = true) :
    c.quotedSpaces = .ok (List.replicate k ' ', c.toContent k (ch :: rest)) := by
  have hrun : c.run (fun x => x == ' ' || x == '\t') = List.replicate k ' ' := by
    refine run_append hc (fun x hx => by simp [List.eq_of_mem_replicate hx]) fun x hx => ?_
    cases hx
    simp (disch := decide) [ne_of_class hch]
  have hbreak : (c.toContent k (ch :: rest)).lineBreak = none := lineBreak_of_isInk rfl hch
  unfold quotedSpaces
  simp only [hrun, List.length_replicate, advance_spaces hc, hbreak]
  rfl

/-- A text begins with some spaces and goes on with none. -/
theorem exists_spaces_append (s : List Char) :
    ∃ k t, s = List.replicate k ' ' ++ t ∧ t.head? ≠ some ' ' := by
  induction s with
  | nil => exact ⟨0, [], rfl, by simp⟩
  | cons c rest ih =>
      by_cases hc : c = ' '
      · obtain ⟨k, t, rfl, ht⟩ := ih
        exact ⟨k + 1, t, by rw [hc]; rfl, ht⟩
      · exact ⟨0, c :: rest, rfl, by simpa using hc⟩

/-- A quotation is read up to its closing quote as it stands. -/
theorem quotedRest_quotable (hrest : rest.head? ≠ some '\'') :
    ∀ {fuel : Nat} {s : List Char} {c : Cursor}, s.length < fuel →
      (∀ ch ∈ s, isQuotable double ch = true) → c.rest = s ++ quoteMark double :: rest →
        c.quotedRest double fuel = .ok (s, c.past (s ++ [quoteMark double]) rest) := by
  intro fuel
  induction fuel with
  | zero => exact fun h => absurd h (Nat.not_lt_zero _)
  | succ fuel ih =>
      intro s c hlength hs hc
      have hlong : s.length < c.rest.length + 1 := by
        rw [hc, List.length_append]
        omega
      have hread := quotedWord_quotable hrest hlong hs hc
      have hsplit := List.takeWhile_append_dropWhile (p := (· != ' ')) (l := s)
      have hhead := List.head?_dropWhile_not (· != ' ') s
      have hink := isInk_quoteMark double
      obtain ⟨k, t, hmore, ht⟩ := exists_spaces_append (s.dropWhile (· != ' '))
      generalize s.takeWhile (· != ' ') = word, s.dropWhile (· != ' ') = more at *
      subst hsplit hmore
      unfold quotedRest
      rw [hread]
      change (if (head (past ..) == quoteMark double) = true then _ else _) = _
      cases k with
      -- There are no spaces behind the last word.
      | zero =>
          obtain rfl : t = [] := by
            cases t with
            | nil => rfl
            | cons ch others => exact absurd (by simpa using hhead) (by simpa using ht)
          have hnext : (c.past word (quoteMark double :: rest)).next =
              c.past (word ++ [quoteMark double]) rest := by
            rw [next_inline rfl (isInline_of_isInk hink), past_past]
          rw [List.replicate_zero, List.nil_append, List.nil_append,
            if_pos (by simp [head, past]),
            hnext, List.append_nil]
      | succ k =>
          obtain ⟨ch, others, hcons, hch⟩ :
              ∃ ch others, t ++ quoteMark double :: rest = ch :: others ∧ isInk ch = true := by
            cases t with
            | nil => exact ⟨_, _, rfl, hink⟩
            | cons ch others =>
                have hquotable := hs ch (by simp)
                simp only [isQuotable, Bool.and_eq_true, Bool.or_eq_true, beq_iff_eq]
                  at hquotable
                exact ⟨ch, _, rfl, hquotable.1.resolve_left (by simpa using ht)⟩
          have hgap := quotedSpaces_spaces (k := k + 1)
            (c := c.past word (List.replicate (k + 1) ' ' ++ (ch :: others))) rfl hch
          have hrec := ih (s := t)
            (c := (c.past word (List.replicate (k + 1) ' ' ++ (ch :: others))).toContent (k + 1)
              (ch :: others))
            (by
              simp only [List.length_append, List.length_replicate] at hlength
              omega)
            (fun x hx => hs x (by simp [hx])) hcons.symm
          rw [List.append_assoc, hcons, if_neg (by
              cases double <;> simp [head, past, quoteMark, List.replicate_succ]), hgap]
          change (quotedRest .. >>= _) = _
          rw [hrec]
          simp [bind, Except.bind, toContent, past_past]

/-- A quotation that no apostrophe follows is a scalar. -/
theorem quotedToken_quotation {q : Quotation} (hc : c.rest = q.chars ++ rest)
    (hrest : rest.head? ≠ some '\'') :
    c.quotedToken q.double = .ok
      ({ kind := .scalar q.content q.style [], start := c.mark
         stop := (c.past q.chars rest).mark }, c.past q.chars rest) := by
  have hnext : c.next = c.past [quoteMark q.double] (q.content ++ quoteMark q.double :: rest) :=
    next_inline (by rw [hc, Quotation.chars]; simp) (isInline_of_isInk (isInk_quoteMark _))
  have hlength : q.content.length < c.rest.length + 1 := by
    rw [hc, Quotation.chars, List.cons_append, List.length_cons, List.length_append,
      List.length_append]
    omega
  have hread :=
    quotedRest_quotable (c := c.next) hrest hlength q.mem_content (by rw [hnext]; rfl)
  unfold quotedToken
  rw [hread, hnext, past_past]
  rfl

end Cursor

end Yaml
end YamlTidy
