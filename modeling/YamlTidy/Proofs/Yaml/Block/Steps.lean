import YamlTidy.Proofs.Yaml.Block.Scalars
import YamlTidy.Yaml.Token.Lexer

/-!
# Steps of the lexer on rows

`Leads l m n kinds` says that `n` steps lead from one state of the lexer to another and read tokens
of the given kinds.  There is one lemma for each part of a row: a key and its colon (`leads_key`), a
leaf behind a colon or on a row (`leads_leaf`), a dash (`leads_dash`), what stands between these
(`leads_spaces`, `leads_rowEnd`), the end of a block collection in front of something that stands
left of it (`leads_close`), and the marker of a document (`leads_marker`).  `AtRow` describes the
states in which a row begins.
-/

namespace YamlTidy
namespace Yaml

open Text

namespace Lexer

/-- Nothing but block collections is open. -/
structure Calm (l : Lexer) : Prop where
  flow : l.flow = []
  candidates : l.candidates = []
  finished : l.finished = false
  count : l.count = l.read.length

/-- Nothing but block collections is open, and what could have been a key stands above the given
line. -/
structure Idle (l : Lexer) (line : Nat) : Prop where
  flow : l.flow = []
  candidates : ∀ k ∈ l.candidates, k.required = false ∧ k.mark.line < line
  finished : l.finished = false
  count : l.count = l.read.length

theorem Calm.idle {l : Lexer} (h : l.Calm) (line : Nat) : l.Idle line :=
  ⟨h.flow, by simp [h.candidates], h.finished, h.count⟩

theorem Idle.later {l : Lexer} {line line' : Nat} (h : l.Idle line) (hle : line ≤ line') :
    l.Idle line' where
  flow := h.flow
  candidates k hk := ⟨(h.candidates k hk).1, Nat.lt_of_lt_of_le (h.candidates k hk).2 hle⟩
  finished := h.finished
  count := h.count

/-- Lexemes, last first, that are tokens of the given kinds without comments. -/
def HasKinds (read : List Lexeme) (kinds : List TokenKind) : Prop :=
  ∃ ts : List Token, read = (ts.map Lexeme.token).reverse ∧ ts.map Token.kind = kinds ∧
    ∀ t ∈ ts, t.comments = none

/-- In `n` steps one state leads to another.  Only readings without a fault are compared, since what
a row closes is closed before the fault. -/
def Skips (l m : Lexer) (n : Nat) : Prop :=
  ∀ fuel, (readAll (fuel + 1) m).fault = none →
    readAll (fuel + 1 + n) l = readAll (fuel + 1) m

theorem Skips.trans {l m k : Lexer} {a b : Nat} (h : l.Skips m a) (h' : m.Skips k b) :
    l.Skips k (a + b) := by
  intro fuel hfault
  have hback : readAll (fuel + b + 1) m = readAll (fuel + 1) k := by
    rw [← h' fuel hfault]
    congr 1
    omega
  calc readAll (fuel + 1 + (a + b)) l
      = readAll (fuel + b + 1 + a) l := by congr 1; omega
    _ = readAll (fuel + b + 1) m := h _ (by rw [hback]; exact hfault)
    _ = readAll (fuel + 1) k := hback

/-- In `n` steps one state leads to another, and the given lexemes are read. -/
structure Takes (l m : Lexer) (n : Nat) (xs : List Lexeme) : Prop where
  steps : l.Skips m n
  read : m.read = xs.reverse ++ l.read
  line : l.cursor.line ≤ m.cursor.line

theorem Takes.trans {l m k : Lexer} {a b : Nat} {front back : List Lexeme}
    (h : l.Takes m a front) (h' : m.Takes k b back) : l.Takes k (a + b) (front ++ back) where
  steps := h.steps.trans h'.steps
  read := by rw [h'.read, h.read, List.reverse_append, List.append_assoc]
  line := Nat.le_trans h.line h'.line

/-- Tokens of the given kinds without comments, each of which ends on the given line or above. -/
structure AreKinds (line : Nat) (kinds : List TokenKind) (ts : List Token) : Prop where
  kinds : ts.map Token.kind = kinds
  comments : ∀ t ∈ ts, t.comments = none
  lines : ∀ t ∈ ts, t.stop.line ≤ line

theorem AreKinds.nil (line : Nat) : AreKinds line [] [] :=
  ⟨rfl, by simp, by simp⟩

theorem AreKinds.single {line : Nat} {t : Token} (hcomments : t.comments = none)
    (hline : t.stop.line ≤ line) : AreKinds line [t.kind] [t] :=
  ⟨rfl, by simpa using hcomments, by simpa using hline⟩

theorem AreKinds.append {line line' : Nat} {front back : List TokenKind} {ts us : List Token}
    (h : AreKinds line front ts) (h' : AreKinds line' back us) (hle : line ≤ line') :
    AreKinds line' (front ++ back) (ts ++ us) where
  kinds := by rw [List.map_append, h.kinds, h'.kinds]
  comments t ht := (List.mem_append.mp ht).elim (h.comments t) (h'.comments t)
  lines t ht :=
    (List.mem_append.mp ht).elim (fun ht => Nat.le_trans (h.lines t ht) hle) (h'.lines t)

/-- In `n` steps one state leads to another, and tokens of the given kinds are read. -/
def TakesKinds (l m : Lexer) (n : Nat) (kinds : List TokenKind) : Prop :=
  ∃ ts, l.Takes m n (ts.map .token) ∧ AreKinds m.cursor.line kinds ts

/-- In `n` steps one state leads to another, and behind tokens alone there are tokens of the given
kinds in the end. -/
structure Leads (l m : Lexer) (n : Nat) (kinds : List TokenKind) : Prop where
  steps : ∀ fuel, (readAll (fuel + 1) m).fault = none →
    readAll (fuel + 1 + n) l = readAll (fuel + 1) m
  reads : ∀ {before}, HasKinds l.read before → HasKinds m.read (before ++ kinds)

theorem Leads.trans {l m k : Lexer} {a b : Nat} {front back : List TokenKind}
    (h : l.Leads m a front) (h' : m.Leads k b back) : l.Leads k (a + b) (front ++ back) := by
  refine ⟨Skips.trans (m := m) h.steps h'.steps, fun hread => ?_⟩
  have hback := h'.reads (h.reads hread)
  rwa [List.append_assoc] at hback

theorem TakesKinds.leads {l m : Lexer} {n : Nat} {kinds : List TokenKind}
    (h : l.TakesKinds m n kinds) : l.Leads m n kinds := by
  obtain ⟨ts, htakes, hts⟩ := h
  refine ⟨htakes.steps, fun {before} hread => ?_⟩
  obtain ⟨us, hus, hkinds, hcomments⟩ := hread
  refine ⟨us ++ ts, by rw [htakes.read, hus]; simp, by rw [List.map_append, hkinds, hts.kinds],
    fun t ht => ?_⟩
  exact (List.mem_append.mp ht).elim (hcomments t) (hts.comments t)

/-- A state in which the next row begins: the cursor is at its content. -/
structure AtRow (l : Lexer) (text : List Char) : Prop extends Calm l where
  keyAllowed : l.keyAllowed = true
  rest : l.cursor.rest = text.dropWhile (· == ' ')
  column : l.cursor.column = leadingSpaces text

/-- The column of the innermost block collection, and those around it. -/
def stack (l : Lexer) : Int × List Int :=
  (l.indent, l.indents)

/-- The stack with a block collection open in the given column. -/
def openStack (column : Nat) (s : Int × List Int) : Int × List Int :=
  if s.1 < (column : Int) then (column, s.1 :: s.2) else s

/-- The token that opens a block collection in the given column, unless one is open there. -/
def opening (kind : TokenKind) (column : Nat) (s : Int × List Int) : List TokenKind :=
  if s.1 < (column : Int) then [kind] else []

theorem HasKinds.push {read : List Lexeme} {t : Token} {kinds : List TokenKind}
    (h : HasKinds read kinds) (ht : t.comments = none) :
    HasKinds (.token t :: read) (kinds ++ [t.kind]) := by
  obtain ⟨ts, hts, hkinds, hcomments⟩ := h
  refine ⟨ts ++ [t], by simp [hts], by simp [hkinds], ?_⟩
  intro x hx
  rcases List.mem_append.mp hx with hx | hx
  · exact hcomments x hx
  · rw [List.mem_singleton.mp hx]
    exact ht

theorem dropStale_of_nil {l : Lexer} (h : l.candidates = []) : l.dropStale = .ok l := by
  obtain ⟨cursor, read, count, flow, indent, indents, keyAllowed, candidates⟩ := l
  obtain rfl : candidates = [] := h
  rfl

theorem dropCandidate_of_nil {l : Lexer} (h : l.candidates = []) : l.dropCandidate = .ok l := by
  obtain ⟨cursor, read, count, flow, indent, indents, keyAllowed, candidates⟩ := l
  obtain rfl : candidates = [] := h
  rfl

/-- Nothing is closed by a row in the column of the innermost collection or right of it. -/
theorem unwindTo_of_le {l : Lexer} {column : Int} (h : l.indent ≤ column) :
    l.unwindTo column = l := by
  unfold unwindTo
  cases l.indents with
  | nil => rfl
  | cons outer more =>
      unfold unwind
      rw [if_neg]
      simp [Int.not_lt.mpr h]

/-- Reading on from behind a gap without a comment, in a row that closes nothing. -/
theorem fetch_of_calm {l : Lexer} {c : Cursor} {keyAllowed : Bool} (hl : l.Calm)
    (hgap : l.cursor.gap false l.keyAllowed = { cursor := c, keyAllowed })
    (hcolumn : l.indent ≤ c.column) :
    l.fetch = fetchToken { l with cursor := c, keyAllowed } := by
  have hflow : l.inFlow = false := by simp [inFlow, hl.flow]
  have hstale : dropStale { l with cursor := c, keyAllowed } =
      .ok { l with cursor := c, keyAllowed } := dropStale_of_nil hl.candidates
  have hunwind : unwindTo { l with cursor := c, keyAllowed } c.column =
      { l with cursor := c, keyAllowed } := unwindTo_of_le hcolumn
  unfold fetch
  rw [hflow, hgap]
  simp only [hstale, bind, Except.bind, hunwind]

theorem fetch_here {l : Lexer} (hl : l.Calm) (hs : Cursor.Opens l.cursor.rest)
    (hcolumn : l.indent ≤ l.cursor.column) : l.fetch = l.fetchToken :=
  fetch_of_calm hl (Cursor.gap_here _ hs) hcolumn

/-- At the first character of a phrase a plain scalar is read. -/
theorem fetchToken_phrase {l : Lexer} {p : Phrase} {rest : List Char}
    (hrest : l.cursor.rest = p.chars ++ rest) : l.fetchToken = l.fetchPlain := by
  have hhead := PlainContext.head_phrase hrest
  have hempty : l.cursor.rest.isEmpty = false := by
    rw [hrest]
    cases hp : p.chars with
    | nil => exact absurd hp p.nonempty
    | cons ch more => rfl
  have hne : ∀ d, opensPhrase d = false → l.cursor.head ≠ d := fun d => ne_of_class hhead
  have hbegins := l.plainContext.begins_phrase hhead
  unfold fetchToken
  simp only [hempty, hne '%' (by decide), hne '.' (by decide), hne '-' (by decide), beq_iff_eq,
    Bool.false_eq_true, if_false, Bool.and_eq_true, and_false, false_and]
  split <;> rename_i hcase
  all_goals first
    | exact absurd hcase (hne _ (by decide))
    | simp [hne '?' (by decide), hne ':' (by decide), hne '|' (by decide),
        hne '>' (by decide), hne '-' (by decide), hbegins]

/-- At a quote a quotation is read. -/
theorem fetchToken_quotation {l : Lexer} {q : Quotation} {rest : List Char}
    (hrest : l.cursor.rest = q.chars ++ rest) :
    l.fetchToken = l.fetchWith (·.quotedToken q.double) := by
  have hhead : l.cursor.head = quoteMark q.double := by
    rw [Cursor.head, hrest, Quotation.chars]
    rfl
  have hempty : l.cursor.rest.isEmpty = false := by rw [hrest, Quotation.chars]; rfl
  unfold fetchToken
  simp only [hempty, hhead]
  cases q.double <;> simp [quoteMark]

/-- At a dash with a gap behind it an item begins. -/
theorem fetchToken_dash {l : Lexer} {rest : List Char} (hrest : l.cursor.rest = '-' :: rest)
    (hgap : endsWord (rest.headD '\x00') = true) : l.fetchToken = l.fetchDash := by
  have hhead : l.cursor.head = '-' := by simp [Cursor.head, hrest]
  have hahead : endsWord (l.cursor.ahead 1) = true := by
    rw [Cursor.ahead, hrest]
    cases rest <;> simpa using hgap
  have hmarker : l.cursor.atMarker = false :=
    Cursor.not_atMarker_of_startsRow (n := 0) hrest (.dash hgap)
  simp [fetchToken, hhead, hahead, hmarker, hrest]

/-- At a colon with a gap behind it a value begins. -/
theorem fetchToken_colon {l : Lexer} {rest : List Char} (hflow : l.flow = [])
    (hrest : l.cursor.rest = ':' :: rest) (hgap : endsWord (rest.headD '\x00') = true) :
    l.fetchToken = l.fetchColon := by
  have hhead : l.cursor.head = ':' := by simp [Cursor.head, hrest]
  have hahead : endsWord (l.cursor.ahead 1) = true := by
    rw [Cursor.ahead, hrest]
    cases rest <;> simpa using hgap
  simp [fetchToken, hhead, hahead, hrest, colonIndicates, hflow]

theorem fetchToken_end {l : Lexer} (hrest : l.cursor.rest = []) : l.fetchToken = l.fetchEnd := by
  simp [fetchToken, hrest]

theorem takes_of_fetch {l m : Lexer} {xs : List Lexeme} (hfinished : l.finished = false)
    (hfetch : (l.fetch).bind dropStale = .ok m) (hread : m.read = xs.reverse ++ l.read)
    (hline : l.cursor.line ≤ m.cursor.line) : l.Takes m 1 xs := by
  refine ⟨fun fuel _ => ?_, hread, hline⟩
  have hbind : (l.fetch >>= dropStale) = .ok m := hfetch
  rw [show fuel + 1 + 1 = (fuel + 1) + 1 from rfl, readAll, hfinished, hbind]
  rfl

theorem startsRow_phrase (p : Phrase) (rest : List Char) :
    Cursor.StartsRow (p.chars ++ rest) := by
  obtain ⟨c, more, hcons, hc⟩ := p.exists_cons
  rw [hcons]
  exact .word _ hc

theorem startsRow_leaf (x : Leaf) (rest : List Char) : Cursor.StartsRow (x.chars ++ rest) := by
  cases x with
  | plain p _ => exact startsRow_phrase p rest
  | quoted q => exact .quote _ (isQuote_quoteMark q.double)

/-- Candidates on an earlier line are dropped when they need not be keys. -/
theorem dropStale_of_passed {l : Lexer}
    (h : ∀ k ∈ l.candidates, k.required = false ∧ k.mark.line ≠ l.cursor.line) :
    l.dropStale = .ok { l with candidates := [] } := by
  unfold dropStale
  have hnone : l.candidates.filter (fun k =>
      !(k.mark.line != l.cursor.line || decide (l.cursor.index - k.index > 1024))) = [] := by
    refine List.filter_eq_nil_iff.mpr fun k hk => ?_
    simp [(h k hk).2]
  simp only [hnone]
  rw [if_neg]
  simp only [List.any_eq_true, not_exists, not_and]
  intro k hk
  simp [(h k hk).1]

/-- No more is kept than there is, where nothing need be a key. -/
theorem dropStale_of_optional {l : Lexer} (h : ∀ k ∈ l.candidates, k.required = false) :
    ∃ ks, l.dropStale = .ok { l with candidates := ks } ∧ ∀ k ∈ ks, k ∈ l.candidates := by
  refine ⟨l.candidates.filter fun k =>
    !(k.mark.line != l.cursor.line || decide (l.cursor.index - k.index > 1024)), ?_,
    fun k hk => (List.mem_filter.mp hk).1⟩
  unfold dropStale
  simp only
  rw [if_neg]
  simp only [List.any_eq_true, not_exists, not_and]
  intro k hk
  simp [h k hk]

/-- What is remembered of a token that does not stand in the column of the block around it. -/
theorem saveCandidate_of_ne {l : Lexer} (hl : l.candidates = [])
    (hcolumn : l.indent ≠ l.cursor.column) :
    ∃ ks, l.saveCandidate = .ok { l with candidates := ks } ∧
      ∀ k ∈ ks, k.required = false ∧ k.mark.line = l.cursor.line := by
  cases hallowed : l.keyAllowed with
  | false =>
      refine ⟨[], ?_, by simp⟩
      rw [saveCandidate, hallowed, ← hl]
      simp [← hallowed]
  | true =>
      refine ⟨[⟨l.level, l.count, false, l.cursor.index, l.cursor.mark⟩], ?_,
        by simp [Cursor.mark]⟩
      simp [saveCandidate, hallowed, dropCandidate_of_nil hl, hcolumn, hl, bind,
        Except.bind, pure, Except.pure]

theorem fetchPlain_of_save {l : Lexer} {ks : List Candidate}
    (hsave : l.saveCandidate = .ok { l with candidates := ks }) :
    l.fetchPlain = .ok { l.pushToken (l.plainContext.token l.cursor).1 with
      candidates := ks
      cursor := (l.plainContext.token l.cursor).2.cursor
      keyAllowed := (l.plainContext.token l.cursor).2.brokenLine } := by
  unfold fetchPlain
  rw [hsave]
  rfl

/-- A phrase, behind a colon or where a row begins, that is read to the end of its row. -/
theorem takes_plain {l : Lexer} {p : Phrase} {k : Nat} {rest : List Char} (hl : l.Calm)
    (hrest : l.cursor.rest = List.replicate k ' ' ++ (p.chars ++ rest))
    (hcolumn : l.indent < l.cursor.column + k)
    (hends : l.plainContext.EndsRow p (l.cursor.toContent k (p.chars ++ rest))) :
    ∃ m t, l.Takes m 1 [.token t] ∧ t.kind = .scalar p.chars .plain [] ∧ t.comments = none ∧
      t.stop.line < m.cursor.line ∧ m.Calm ∧ m.keyAllowed = true ∧
      m.cursor = (l.plainContext.token (l.cursor.toContent k (p.chars ++ rest))).2.cursor ∧
      m.stack = l.stack := by
  let c : Cursor := l.cursor.toContent k (p.chars ++ rest)
  let l' : Lexer := { l with cursor := c }
  have hcolumn' : l.indent < c.column := by
    simpa [c, Cursor.toContent, Cursor.past] using hcolumn
  have hfetch : l.fetch = l'.fetchPlain := by
    rw [fetch_of_calm hl (Cursor.gap_spaces _ hrest (startsRow_phrase p _).opens)
      (Int.le_of_lt hcolumn')]
    have hphrase : l'.cursor.rest = p.chars ++ rest := rfl
    exact fetchToken_phrase hphrase
  obtain ⟨ks, hsave, hks⟩ := saveCandidate_of_ne (l := l') hl.candidates (Int.ne_of_lt hcolumn')
  let m : Lexer := { l.pushToken (l.plainContext.token c).1 with
    cursor := (l.plainContext.token c).2.cursor, keyAllowed := true, candidates := [] }
  have hplain : l'.fetchPlain = .ok { m with candidates := ks } := by
    have hbroken : (l'.plainContext.token l'.cursor).2.brokenLine = true := hends.broken
    rw [fetchPlain_of_save hsave, hbroken]
    rfl
  have hline : m.cursor.line = l.cursor.line + 1 := hends.line
  have hstale : dropStale { m with candidates := ks } = .ok m := by
    rw [dropStale_of_passed]
    intro k hk
    refine ⟨(hks k hk).1, ?_⟩
    change k.mark.line ≠ m.cursor.line
    rw [(hks k hk).2, hline]
    exact Nat.ne_of_lt (Nat.lt_succ_self _)
  refine ⟨m, (l.plainContext.token c).1, takes_of_fetch hl.finished
    (by rw [hfetch, hplain]; exact hstale) rfl (by omega), hends.kind, hends.comments, ?_,
    ⟨hl.flow, rfl, hl.finished, ?_⟩, rfl, rfl, rfl⟩
  · rw [hends.stop, hline]
    exact Nat.lt_succ_self _
  · change l.count + 1 = l.read.length + 1
    rw [hl.count]

/-- Right of the innermost block collection a plain scalar may go on behind a space. -/
theorem room_toContent (l : Lexer) {k : Nat} (hcolumn : l.indent < l.cursor.column + k)
    (rest : List Char) : l.plainContext.indent ≤ ((l.cursor.toContent k rest).column : Int) := by
  simp only [plainContext, Cursor.toContent, Cursor.past, List.length_replicate]
  omega

/-- A phrase at the end of a row in front of something that is not indented deeper. -/
theorem takes_phrase {l : Lexer} {p : Phrase} {e : RowEnd} {k : Nat} {text : List Char}
    (hl : l.Calm)
    (hrest : l.cursor.rest = List.replicate k ' ' ++ (p.chars ++ (e.chars ++ text)))
    (htext : Cursor.Follows l.indent text) (hcolumn : l.indent < l.cursor.column + k) :
    ∃ m, l.TakesKinds m 1 [.scalar p.chars .plain []] ∧ m.AtRow text ∧ m.stack = l.stack := by
  obtain ⟨hends, hsrest, hscolumn⟩ := l.plainContext.token_value
    (c := l.cursor.toContent k (p.chars ++ (e.chars ++ text)))
    (by simp [plainContext, inFlow, hl.flow]) rfl (l.room_toContent hcolumn _) htext
    (Int.lt_succ l.indent)
  obtain ⟨m, t, htakes, hkind, hcomments, hline, hcalm, hallowed, hcursor, hstack⟩ :=
    takes_plain hl hrest hcolumn hends
  refine ⟨m, ⟨[t], htakes, ?_⟩, ⟨hcalm, hallowed, ?_, ?_⟩, hstack⟩
  · rw [← hkind]
    exact .single hcomments (Nat.le_of_lt hline)
  · rw [hcursor, hsrest]
  · rw [hcursor, hscolumn]

theorem fetchWith_of_save {l : Lexer} {scan : Cursor → Except Fault (Token × Cursor)}
    {t : Token} {c : Cursor} {ks : List Candidate}
    (hsave : l.saveCandidate = .ok { l with candidates := ks })
    (hscan : scan l.cursor = .ok (t, c)) :
    l.fetchWith scan =
      .ok { l.pushToken t with candidates := ks, cursor := c, keyAllowed := false } := by
  unfold fetchWith
  rw [hsave]
  change (scan l.cursor >>= _) = _
  rw [hscan]
  rfl

/-- Moving over a gap to the content of a row changes nothing in what is read next. -/
theorem takes_gap {l : Lexer} {c : Cursor} (hl : l.Idle c.line)
    (hgap : l.cursor.gap false l.keyAllowed = { cursor := c, keyAllowed := true })
    (hc : Cursor.Opens c.rest) (hline : l.cursor.line ≤ c.line) :
    l.TakesKinds { l with cursor := c, keyAllowed := true, candidates := [] } 0 [] := by
  let m : Lexer := { l with cursor := c, keyAllowed := true, candidates := [] }
  have hflow : l.inFlow = false := by simp [inFlow, hl.flow]
  have hflow' : m.inFlow = false := hflow
  have hstale : dropStale { l with cursor := c, keyAllowed := true } = .ok m :=
    dropStale_of_passed fun k hk =>
      ⟨(hl.candidates k hk).1, Nat.ne_of_lt (hl.candidates k hk).2⟩
  have hfetch : l.fetch = m.fetch := by
    unfold fetch
    rw [hflow, hgap, hflow', Cursor.gap_here (c := m.cursor) true hc]
    have hstale' : m.dropStale = .ok m := dropStale_of_nil rfl
    change (dropStale { l with cursor := c, keyAllowed := true } >>= fun l =>
      (l.unwindTo l.cursor.column).fetchToken) =
      m.dropStale >>= fun l => (l.unwindTo l.cursor.column).fetchToken
    rw [hstale, hstale']
  refine ⟨[], ⟨fun fuel hfault => ?_, rfl, hline⟩, .nil _⟩
  have hfinished : m.finished = false := hl.finished
  change (readAll (fuel + 1) m).fault = none at hfault
  change readAll (fuel + 1) l = readAll (fuel + 1) m
  rw [readAll, hfinished] at hfault
  rw [readAll, readAll, hfetch, hl.finished]
  cases hnext : m.fetch >>= dropStale with
  | error fault =>
      rw [hnext] at hfault
      cases hfault
  | ok next => rfl

theorem idle_atRow {l : Lexer} {c : Cursor} {line n : Nat} {s : List Char} (hl : l.Idle line)
    (hs : Cursor.Opens s) (hrest : c.rest = s) (hcolumn : c.column = n) :
    AtRow { l with cursor := c, keyAllowed := true, candidates := [] }
      (List.replicate n ' ' ++ s) := by
  refine ⟨⟨hl.flow, rfl, hl.finished, hl.count⟩, rfl, ?_, ?_⟩
  · rw [Cursor.dropWhile_spaces hs]
    exact hrest
  · rw [Cursor.leadingSpaces_spaces hs]
    exact hcolumn

/-- From the end of a row the next one is reached. -/
theorem takes_rowEnd {l : Lexer} {e : RowEnd} {n : Nat} {s : List Char}
    (hl : l.Idle (l.cursor.line + 1))
    (hrest : l.cursor.rest = e.chars ++ (List.replicate n ' ' ++ s)) (hs : Cursor.Opens s) :
    ∃ m, l.TakesKinds m 0 [] ∧ m.AtRow (List.replicate n ' ' ++ s) ∧ m.stack = l.stack := by
  obtain ⟨c, hgap, hcrest, hccolumn, hcline⟩ := Cursor.gap_rowEnd l.keyAllowed hrest hs
  exact ⟨_, takes_gap (hcline ▸ hl) hgap (by rw [hcrest]; exact hs) (by omega),
    idle_atRow hl hs hcrest hccolumn, rfl⟩

/-- A quotation, behind a colon or where a row begins.  It could be a key as far as what follows is
not known. -/
theorem takes_quoted {l : Lexer} {q : Quotation} {k : Nat} {rest : List Char} (hl : l.Calm)
    (hrest : l.cursor.rest = List.replicate k ' ' ++ (q.chars ++ rest))
    (happ : rest.head? ≠ some '\'') (hcolumn : l.indent < l.cursor.column + k) :
    ∃ m, l.TakesKinds m 1 [.scalar q.content q.style []] ∧ m.Idle (m.cursor.line + 1) ∧
      m.cursor.rest = rest ∧ m.stack = l.stack := by
  let c : Cursor := l.cursor.toContent k (q.chars ++ rest)
  let l' : Lexer := { l with cursor := c }
  let t : Token :=
    { kind := .scalar q.content q.style [], start := c.mark, stop := (c.past q.chars rest).mark }
  have hcolumn' : l.indent < c.column := by
    simpa [c, Cursor.toContent, Cursor.past] using hcolumn
  obtain ⟨ks, hsave, hks⟩ := saveCandidate_of_ne (l := l') hl.candidates (Int.ne_of_lt hcolumn')
  let l'' : Lexer :=
    { l'.pushToken t with
      candidates := ks, cursor := c.past q.chars rest, keyAllowed := false }
  have hfetch : l.fetch = .ok l'' := by
    rw [fetch_of_calm hl (Cursor.gap_spaces _ hrest (startsRow_leaf (.quoted q) _).opens)
      (Int.le_of_lt hcolumn'), fetchToken_quotation (l := l') rfl]
    exact fetchWith_of_save hsave (Cursor.quotedToken_quotation rfl happ)
  -- What could be a key is forgotten where it would be too long.
  obtain ⟨ks', hstale, hks'⟩ := dropStale_of_optional (l := l'') fun k hk => (hks k hk).1
  refine ⟨{ l'' with candidates := ks' },
    ⟨[t], takes_of_fetch hl.finished (by rw [hfetch]; exact hstale) rfl (Nat.le_refl _),
      .single (t := t) rfl (Nat.le_refl _)⟩,
    ⟨hl.flow, fun k hk => ?_, hl.finished, ?_⟩, rfl, rfl⟩
  · have hline := hks k (hks' k hk)
    exact ⟨hline.1, by rw [hline.2]; exact Nat.lt_succ_self _⟩
  · change l.count + 1 = l.read.length + 1
    rw [hl.count]

/-- Tokens that are read in a row. -/
theorem TakesKinds.trans {l m k : Lexer} {a b : Nat} {front back : List TokenKind}
    (h : l.TakesKinds m a front) (h' : m.TakesKinds k b back) :
    l.TakesKinds k (a + b) (front ++ back) := by
  obtain ⟨ts, htakes, hts⟩ := h
  obtain ⟨us, htakes', hus⟩ := h'
  refine ⟨ts ++ us, ?_, hts.append hus htakes'.line⟩
  rw [List.map_append]
  exact htakes.trans htakes'

/-- A leaf at the end of a row in front of something that is not indented deeper. -/
theorem takes_leaf {l : Lexer} {x : Leaf} {e : RowEnd} {k : Nat} {text : List Char}
    (hl : l.Calm)
    (hrest : l.cursor.rest = List.replicate k ' ' ++ (x.chars ++ (e.chars ++ text)))
    (htext : Cursor.Follows l.indent text) (hcolumn : l.indent < l.cursor.column + k) :
    ∃ m, l.TakesKinds m 1 [.scalar x.content x.style []] ∧ m.AtRow text ∧
      m.stack = l.stack := by
  cases x with
  | plain p hnull => exact takes_phrase hl hrest htext hcolumn
  | quoted q =>
      obtain ⟨n, s, rfl, hs⟩ := htext.split
      obtain ⟨l₁, hquoted, hidle, hrest₁, hstack₁⟩ :=
        takes_quoted hl hrest (e.head?_chars _) hcolumn
      obtain ⟨m, hend, hm, hstack⟩ := takes_rowEnd hidle hrest₁ hs
      exact ⟨m, hquoted.trans hend, hm, hstack.trans hstack₁⟩

theorem leads_leaf {l : Lexer} {x : Leaf} {e : RowEnd} {k : Nat} {text : List Char}
    (hl : l.Calm)
    (hrest : l.cursor.rest = List.replicate k ' ' ++ (x.chars ++ (e.chars ++ text)))
    (htext : Cursor.Follows l.indent text) (hcolumn : l.indent < l.cursor.column + k) :
    ∃ m, l.Leads m 1 [.scalar x.content x.style []] ∧ m.AtRow text ∧ m.stack = l.stack := by
  obtain ⟨m, htakes, hm⟩ := takes_leaf hl hrest htext hcolumn
  exact ⟨m, htakes.leads, hm⟩

/-- The key in front of a colon, a candidate until the colon is read. -/
theorem fetch_key {l : Lexer} {key : Key} {rest : List Char} (hl : l.Calm)
    (hallowed : l.keyAllowed = true) (hrest : l.cursor.rest = key.chars ++ ':' :: rest)
    (hgap : endsWord (rest.headD '\x00') = true) (hindent : l.indent ≤ l.cursor.column) :
    ∃ t required, t.kind = .scalar key.chars .plain [] ∧ t.comments = none ∧
      t.stop.line = l.cursor.line ∧ l.fetch = .ok { l.pushToken t with
        candidates := [⟨0, l.count, required, l.cursor.index, l.cursor.mark⟩]
        cursor := l.cursor.past key.chars (':' :: rest)
        keyAllowed := false } := by
  have hstarts : Cursor.Opens l.cursor.rest := by
    rw [hrest]
    exact (startsRow_phrase key.toPhrase _).opens
  have hfetch : l.fetch = l.fetchPlain := by
    rw [fetch_here hl hstarts hindent]
    exact fetchToken_phrase (p := key.toPhrase) hrest
  obtain ⟨hkind, hcomments, hcursor, hbroken, hstop⟩ :=
    l.plainContext.token_key (by simp [plainContext, inFlow, hl.flow]) hrest
      hgap
  have hsave : l.saveCandidate = .ok { l with
      candidates :=
        [⟨0, l.count, !l.inFlow && l.indent == (l.cursor.column : Int), l.cursor.index,
        l.cursor.mark⟩] } := by
    simp [saveCandidate, hallowed, dropCandidate_of_nil hl.candidates, hl.candidates, bind,
      Except.bind, pure, Except.pure, level, hl.flow]
  refine ⟨_, !l.inFlow && l.indent == (l.cursor.column : Int), hkind, hcomments,
    hstop, ?_⟩
  rw [hfetch, fetchPlain_of_save hsave, hcursor, hbroken]

/-- The colon behind a key: the key and, where one has to be, a block mapping are opened in front of
what was read since. -/
theorem fetchColon_key {l : Lexer} {t : Token} {before : List Lexeme} {k : Candidate}
    (hflow : l.flow = []) (hfinished : l.finished = false) (hread : l.read = .token t :: before)
    (hcount : l.count = l.read.length) (ht : t.comments = none)
    (hstop : t.stop.line ≤ l.cursor.line) (hcandidates : l.candidates = [k])
    (hlevel : k.level = 0) (hplace : k.place = before.length)
    (hmark : k.mark.line ≤ l.cursor.line) :
    ∃ m, l.fetchColon = .ok m ∧ m.Calm ∧ m.cursor = l.cursor.advance 1 ∧
      m.stack = openStack k.mark.column l.stack ∧
      ∃ ts : List Token, m.read = (ts.map Lexeme.token).reverse ++ before ∧
        AreKinds m.cursor.line
          (opening .blockMappingStart k.mark.column l.stack ++ [.key, t.kind, .value]) ts := by
  have hfound : l.candidates.find? (fun k => k.level == l.level) = some k := by
    simp [hcandidates, hlevel, level, hflow]
  have hrest : l.candidates.filter (fun k => k.level != l.level) = [] := by
    simp [hcandidates, hlevel, level, hflow]
  have hbehind : l.count - k.place = 1 := by
    rw [hcount, hread, hplace, List.length_cons]
    omega
  have hbehind' : l.count + 1 - k.place = 2 := by omega
  let mark (kind : TokenKind) : Token := { kind, start := k.mark, stop := k.mark }
  let colon : Token := ⟨.value, l.cursor.mark, (l.cursor.advance 1).mark, none⟩
  have hline : l.cursor.line ≤ (l.cursor.advance 1).line := l.cursor.line_le_next
  have hkey : AreKinds (l.cursor.advance 1).line [.key, t.kind, .value]
      [mark .key, t, colon] :=
    ⟨rfl, by simp [mark, colon, ht], by simp [mark, colon, Cursor.mark]; omega⟩
  -- A key right of the innermost collection opens a mapping: two tokens are put in front of it.
  by_cases hopen : l.indent < (k.mark.column : Int)
  · let m : Lexer := { l with
      read := .token t :: .token (mark .key) :: .token (mark .blockMappingStart) :: before
      count := l.count + 1 + 1
      indent := k.mark.column
      indents := l.indent :: l.indents
      keyAllowed := false
      candidates := [] }
    have hcolon : l.fetchColon = .ok (m.pushWide .value 1) := by
      unfold fetchColon
      simp only [hfound, hrest]
      simp [m, mark, insertAt, hbehind, hbehind', hread, inFlow, hflow, openAt, hopen, pure,
        Except.pure]
    refine ⟨_, hcolon, ⟨hflow, rfl, hfinished, ?_⟩, rfl, ?_,
      [mark .blockMappingStart, mark .key, t, colon], ?_, ?_⟩
    · simp [m, pushWide, pushToken, push, hcount, hread]
    · simp [m, stack, openStack, hopen, pushWide, pushToken, push]
    · simp [m, mark, colon, pushWide, pushToken, push]
    · have hstart : AreKinds (l.cursor.advance 1).line [.blockMappingStart]
          [mark .blockMappingStart] :=
        .single (t := mark .blockMappingStart) rfl (Nat.le_trans hmark hline)
      simp only [opening, stack, hopen, if_true]
      exact hstart.append hkey (Nat.le_refl _)
  · let m : Lexer := { l with
      read := .token t :: .token (mark .key) :: before
      count := l.count + 1
      keyAllowed := false
      candidates := [] }
    have hcolon : l.fetchColon = .ok (m.pushWide .value 1) := by
      unfold fetchColon
      simp only [hfound, hrest]
      simp [m, mark, insertAt, hbehind, hread, inFlow, hflow, openAt, hopen, pure,
        Except.pure]
    refine ⟨_, hcolon, ⟨hflow, rfl, hfinished, ?_⟩, rfl, ?_, [mark .key, t, colon], ?_, ?_⟩
    · simp [m, pushWide, pushToken, push, hcount, hread]
    · simp [m, stack, openStack, hopen, pushWide, pushToken, push]
    · simp [m, mark, colon, pushWide, pushToken, push]
    · simp only [opening, stack, hopen, if_false]
      exact hkey

/-- Candidates on the line of the cursor are kept when they are short. -/
theorem dropStale_of_fresh {l : Lexer}
    (h : ∀ k ∈ l.candidates, k.mark.line = l.cursor.line ∧
      l.cursor.index - k.index ≤ 1024) :
    l.dropStale = .ok l := by
  have hall : l.candidates.filter (fun k =>
      !(k.mark.line != l.cursor.line || decide (l.cursor.index - k.index > 1024))) =
      l.candidates := by
    refine List.filter_eq_self.mpr fun k hk => ?_
    simp [(h k hk).1, (h k hk).2]
  unfold dropStale
  simp only [hall]
  rw [if_neg]
  simp only [List.any_eq_true, not_exists, not_and]
  intro k hk
  simp [(h k hk).1, Nat.not_lt.mpr (h k hk).2]

/-- A key and its colon. -/
theorem takes_key {l : Lexer} {key : Key} {rest : List Char} (hl : l.Calm)
    (hallowed : l.keyAllowed = true) (hrest : l.cursor.rest = key.chars ++ ':' :: rest)
    (hgap : endsWord (rest.headD '\x00') = true) (hindent : l.indent ≤ l.cursor.column) :
    ∃ m, l.TakesKinds m 2 (opening .blockMappingStart l.cursor.column l.stack ++
        [.key, .scalar key.chars .plain [], .value]) ∧
      m.Calm ∧ m.cursor.rest = rest ∧ l.cursor.column < m.cursor.column ∧
      m.stack = openStack l.cursor.column l.stack := by
  obtain ⟨t, required, hkind, hcomments, hstop, hfetch⟩ :=
    fetch_key hl hallowed hrest hgap hindent
  let k : Candidate := ⟨0, l.count, required, l.cursor.index, l.cursor.mark⟩
  let c : Cursor := l.cursor.past key.chars (':' :: rest)
  let l' : Lexer := { l.pushToken t with candidates := [k], cursor := c, keyAllowed := false }
  have hfresh : l'.dropStale = .ok l' := by
    refine dropStale_of_fresh fun x hx => ?_
    obtain rfl : x = k := List.mem_singleton.mp hx
    refine ⟨rfl, ?_⟩
    have hshort := key.short
    change l.cursor.index + key.chars.length - l.cursor.index ≤ 1024
    omega
  have hread : l'.read = .token t :: l.read := rfl
  obtain ⟨m, hcolon, hcalm, hcursor, hstack, ts, htread, hts⟩ :=
    fetchColon_key (l := l') hl.flow hl.finished hread
      (by simp [l', pushToken, push, hl.count]) hcomments (Nat.le_of_eq hstop) rfl rfl
      (by simp [k, hl.count]) (Nat.le_refl _)
  have hcolumn : l'.indent ≤ (c.column : Int) := by
    change l.indent ≤ ((l.cursor.column + key.chars.length : Nat) : Int)
    omega
  have hfetch' : l'.fetch = .ok m := by
    have hflow : l'.inFlow = false := by simp [inFlow, l', pushToken, push, hl.flow]
    unfold fetch
    rw [hflow, Cursor.gap_colon (c := l'.cursor) _ rfl]
    change (l'.dropStale >>= fun l => (l.unwindTo l.cursor.column).fetchToken) = .ok m
    rw [hfresh]
    change (l'.unwindTo c.column).fetchToken = .ok m
    rw [unwindTo_of_le hcolumn, fetchToken_colon (l := l') hl.flow rfl hgap, hcolon]
  have hadvance : m.cursor = c.past [':'] rest := by
    rw [hcursor]
    have hrest : c.rest = ':' :: rest := rfl
    exact Cursor.next_inline hrest (by decide)
  refine ⟨m, ⟨ts, ⟨fun fuel _ => ?_, htread, ?_⟩, ?_⟩, hcalm, by rw [hadvance]; rfl,
    ?_, hstack⟩
  · have hfirst : l.fetch >>= dropStale = .ok l' := by
      rw [hfetch]
      exact hfresh
    have hsecond : l'.fetch >>= dropStale = .ok m := by
      rw [hfetch']
      exact dropStale_of_nil hcalm.candidates
    rw [show fuel + 1 + 2 = (fuel + 1) + 1 + 1 from rfl, readAll, hl.finished, hfirst]
    change readAll (fuel + 1 + 1) l' = _
    rw [readAll, show l'.finished = false from hl.finished, hsecond]
    rfl
  · rw [hadvance]
    exact Nat.le_refl _
  · rw [← hkind]
    exact hts
  · rw [hadvance]
    change l.cursor.column < l.cursor.column + key.chars.length + 1
    omega

theorem leads_key {l : Lexer} {key : Key} {rest : List Char} (hl : l.Calm)
    (hallowed : l.keyAllowed = true) (hrest : l.cursor.rest = key.chars ++ ':' :: rest)
    (hgap : endsWord (rest.headD '\x00') = true) (hindent : l.indent ≤ l.cursor.column) :
    ∃ m, l.Leads m 2 (opening .blockMappingStart l.cursor.column l.stack ++
        [.key, .scalar key.chars .plain [], .value]) ∧
      m.Calm ∧ m.cursor.rest = rest ∧ l.cursor.column < m.cursor.column ∧
      m.stack = openStack l.cursor.column l.stack := by
  obtain ⟨m, htakes, hm⟩ := takes_key hl hallowed hrest hgap hindent
  exact ⟨m, htakes.leads, hm⟩

theorem leads_rowEnd {l : Lexer} {e : RowEnd} {n : Nat} {s : List Char} (hl : l.Calm)
    (hrest : l.cursor.rest = e.chars ++ (List.replicate n ' ' ++ s)) (hs : Cursor.Opens s) :
    ∃ m, l.Leads m 0 [] ∧ m.AtRow (List.replicate n ' ' ++ s) ∧ m.stack = l.stack := by
  obtain ⟨m, htakes, hm⟩ := takes_rowEnd (hl.idle _) hrest hs
  exact ⟨m, htakes.leads, hm⟩

/-- Behind spaces on a row its content is reached, as if it stood on a row of its own. -/
theorem takes_spaces {l : Lexer} {k : Nat} {s : List Char} (hl : l.Calm)
    (hallowed : l.keyAllowed = true) (hrest : l.cursor.rest = List.replicate k ' ' ++ s)
    (hs : Cursor.Opens s) :
    ∃ m, l.TakesKinds m 0 [] ∧ m.AtRow (List.replicate (l.cursor.column + k) ' ' ++ s) ∧
      m.stack = l.stack := by
  have hgap := Cursor.gap_spaces l.keyAllowed hrest hs
  rw [hallowed] at hgap
  exact ⟨_, takes_gap (c := l.cursor.toContent k s) (hl.idle _) (by rw [hallowed]; exact hgap) hs
    (Nat.le_refl _), idle_atRow (hl.idle 0) hs rfl (by simp [Cursor.toContent, Cursor.past]),
      rfl⟩

theorem leads_spaces {l : Lexer} {k : Nat} {s : List Char} (hl : l.Calm)
    (hallowed : l.keyAllowed = true) (hrest : l.cursor.rest = List.replicate k ' ' ++ s)
    (hs : Cursor.Opens s) :
    ∃ m, l.Leads m 0 [] ∧ m.AtRow (List.replicate (l.cursor.column + k) ' ' ++ s) ∧
      m.stack = l.stack := by
  obtain ⟨m, htakes, hm⟩ := takes_spaces hl hallowed hrest hs
  exact ⟨m, htakes.leads, hm⟩

/-- A block sequence is opened where none is open yet. -/
theorem open_sequence {l : Lexer} (hl : l.Calm) :
    ∃ m, (l.openAt l.cursor.column = none ∧ m = l ∨
        ∃ k, l.openAt l.cursor.column = some k ∧ m = k.pushMark .blockSequenceStart) ∧
      m.Calm ∧ m.cursor = l.cursor ∧ m.stack = openStack l.cursor.column l.stack ∧
      ∃ ts : List Token, m.read = (ts.map Lexeme.token).reverse ++ l.read ∧
        AreKinds l.cursor.line (opening .blockSequenceStart l.cursor.column l.stack) ts := by
  by_cases hopen : l.indent < (l.cursor.column : Int)
  · let k : Lexer := { l with indent := l.cursor.column, indents := l.indent :: l.indents }
    let t : Token := ⟨.blockSequenceStart, l.cursor.mark, l.cursor.mark, none⟩
    refine ⟨k.pushMark .blockSequenceStart, Or.inr ⟨k, if_pos hopen, rfl⟩,
      ⟨hl.flow, hl.candidates, hl.finished, ?_⟩, rfl, ?_, [t], rfl, ?_⟩
    · change l.count + 1 = l.read.length + 1
      rw [hl.count]
    · simp [k, stack, openStack, hopen, pushMark, pushToken, push]
    · simp only [opening, stack, hopen, if_true]
      exact .single (t := t) rfl (Nat.le_refl _)
  · refine ⟨l, Or.inl ⟨if_neg hopen, rfl⟩, hl, rfl, ?_, [], rfl, ?_⟩
    · simp [stack, openStack, hopen]
    · simpa [opening, stack, hopen] using AreKinds.nil l.cursor.line

/-- A dash in front of an item. -/
theorem takes_dash {l : Lexer} {rest : List Char} (hl : l.Calm) (hallowed : l.keyAllowed = true)
    (hrest : l.cursor.rest = '-' :: rest) (hgap : endsWord (rest.headD '\x00') = true)
    (hindent : l.indent ≤ l.cursor.column) :
    ∃ m, l.TakesKinds m 1
        (opening .blockSequenceStart l.cursor.column l.stack ++ [.blockEntry]) ∧
      m.Calm ∧ m.keyAllowed = true ∧ m.cursor.rest = rest ∧
      m.cursor.column = l.cursor.column + 1 ∧ m.stack = openStack l.cursor.column l.stack := by
  have hfetch : l.fetch = l.fetchDash := by
    have hopens : Cursor.Opens l.cursor.rest := by
      rw [hrest]
      exact Cursor.StartsRow.opens (.dash hgap)
    rw [fetch_here hl hopens hindent]
    exact fetchToken_dash hrest hgap
  have hinFlow : l.inFlow = false := by simp [inFlow, hl.flow]
  obtain ⟨l', hopen, hcalm, hcursor, hstack, ts, hread, hts⟩ := open_sequence hl
  let m : Lexer := pushWide { l' with keyAllowed := true } .blockEntry 1
  have hdash : l.fetchDash = .ok m := by
    have hdrop : dropCandidate { l' with keyAllowed := true } =
        .ok { l' with keyAllowed := true } := dropCandidate_of_nil hcalm.candidates
    unfold fetchDash
    rw [hinFlow, hallowed]
    -- Whether or not the sequence had to be opened, the dash itself is read from `l'`.
    rcases hopen with ⟨hnone, rfl⟩ | ⟨k, hsome, rfl⟩
    · rw [hnone]
      change (dropCandidate { l' with keyAllowed := true } >>= fun l =>
        Except.ok (l.pushWide .blockEntry 1)) = _
      rw [hdrop]
      rfl
    · rw [hsome]
      change (dropCandidate { k.pushMark .blockSequenceStart with keyAllowed := true } >>=
        fun l => Except.ok (l.pushWide .blockEntry 1)) = _
      rw [hdrop]
      rfl
  have hadvance : m.cursor = l.cursor.past ['-'] rest := by
    change l'.cursor.advance 1 = _
    rw [hcursor]
    exact Cursor.next_inline hrest (by decide)
  have hline : l.cursor.line ≤ m.cursor.line := by
    rw [hadvance]
    exact Nat.le_refl _
  let dash : Token := ⟨.blockEntry, l'.cursor.mark, m.cursor.mark, none⟩
  refine ⟨m, ⟨ts ++ [dash], takes_of_fetch hl.finished ?_ ?_ hline,
    hts.append (.single (t := dash) rfl (Nat.le_refl _)) hline⟩,
    ⟨hcalm.flow, hcalm.candidates, hcalm.finished, ?_⟩, rfl, by rw [hadvance]; rfl,
    by rw [hadvance]; rfl, hstack⟩
  · rw [hfetch, hdash]
    exact dropStale_of_nil hcalm.candidates
  · change .token dash :: l'.read = _
    rw [hread]
    simp
  · change l'.count + 1 = l'.read.length + 1
    rw [hcalm.count]

theorem leads_dash {l : Lexer} {rest : List Char} (hl : l.Calm) (hallowed : l.keyAllowed = true)
    (hrest : l.cursor.rest = '-' :: rest) (hgap : endsWord (rest.headD '\x00') = true)
    (hindent : l.indent ≤ l.cursor.column) :
    ∃ m, l.Leads m 1 (opening .blockSequenceStart l.cursor.column l.stack ++ [.blockEntry]) ∧
      m.Calm ∧ m.keyAllowed = true ∧ m.cursor.rest = rest ∧
      m.cursor.column = l.cursor.column + 1 ∧ m.stack = openStack l.cursor.column l.stack := by
  obtain ⟨m, htakes, hm⟩ := takes_dash hl hallowed hrest hgap hindent
  exact ⟨m, htakes.leads, hm⟩

/-! ## What closes block collections -/

/-- The lexer with the innermost block collection closed, which stands in the given one. -/
def closed (l : Lexer) (outer : Int) (more : List Int) : Lexer :=
  { l.pushMark .blockEnd with indent := outer, indents := more }

theorem unwindTo_of_lt {l : Lexer} {column outer : Int} {more : List Int} (hflow : l.flow = [])
    (hindents : l.indents = outer :: more) (hlt : column < l.indent) :
    l.unwindTo column = (l.closed outer more).unwindTo column := by
  have hopen : (!l.inFlow && decide (column < l.indent)) = true := by simp [inFlow, hflow, hlt]
  unfold unwindTo
  rw [hindents, unwind, if_pos hopen]
  rfl

theorem fetchMarker_congr {l m : Lexer} (h : l.unwindTo (-1) = m.unwindTo (-1))
    (kind : TokenKind) : l.fetchMarker kind = m.fetchMarker kind := by
  rw [fetchMarker, h, fetchMarker]

theorem fetchEnd_congr {l m : Lexer} (h : l.unwindTo (-1) = m.unwindTo (-1)) :
    l.fetchEnd = m.fetchEnd := by
  rw [fetchEnd, h, fetchEnd]

/-- At the marker of a document the last one is over. -/
theorem fetchToken_marker {l : Lexer} {rest : List Char} (hcolumn : l.cursor.column = 0)
    (hrest : l.cursor.rest = '-' :: '-' :: '-' :: '\n' :: rest) :
    l.fetchToken = (l.fetchMarker .documentStart).map fun l =>
      { l with version11 := l.nextVersion11, nextVersion11 := false } := by
  have hhead : l.cursor.head = '-' := by simp [Cursor.head, hrest]
  have hmarker : l.cursor.atMarker = true := by
    simp [Cursor.atMarker, hrest, endsWord, endsLine, isBreak]
  simp [fetchToken, hhead, hmarker, hrest, hcolumn]

/-- What follows a block collection and stands left of it closes it before anything is read. -/
theorem fetch_closed {l : Lexer} {n outer : Int} {more : List Int} {text : List Char}
    (hl : l.AtRow text) (htext : Cursor.Follows n text) (hn : -1 ≤ outer ∧ n ≤ outer)
    (houter : outer < l.indent) (hindents : l.indents = outer :: more) :
    l.fetch = (l.closed outer more).fetch := by
  have hflow : l.inFlow = false := by simp [inFlow, hl.flow]
  have hopens : Cursor.Opens l.cursor.rest := by
    obtain ⟨k, s, rfl, hs⟩ := htext.split
    rw [hl.rest, Cursor.dropWhile_spaces hs]
    exact hs
  have hstale : l.dropStale = .ok l := dropStale_of_nil hl.candidates
  have hstale' : (l.closed outer more).dropStale = .ok (l.closed outer more) :=
    dropStale_of_nil hl.candidates
  have hflow' : (l.closed outer more).inFlow = false := hflow
  unfold fetch
  rw [hflow, hflow', Cursor.gap_here _ hopens,
    Cursor.gap_here (c := (l.closed outer more).cursor) _ hopens]
  change (l.dropStale >>= fun l => (l.unwindTo l.cursor.column).fetchToken) =
    ((l.closed outer more).dropStale >>= fun l => (l.unwindTo l.cursor.column).fetchToken)
  rw [hstale, hstale']
  change (l.unwindTo l.cursor.column).fetchToken =
    ((l.closed outer more).unwindTo l.cursor.column).fetchToken
  by_cases hlt : (l.cursor.column : Int) < l.indent
  · rw [unwindTo_of_lt hl.flow hindents hlt]
  -- In the column of the collection only a marker or the end of the text can stand, and there
  -- everything is closed that is open.
  · have hunwind : l.unwindTo (-1) = (l.closed outer more).unwindTo (-1) :=
      unwindTo_of_lt hl.flow hindents (by omega)
    have hstay : (l.closed outer more).unwindTo l.cursor.column = l.closed outer more := by
      refine unwindTo_of_le ?_
      change outer ≤ _
      omega
    rw [unwindTo_of_le (by omega), hstay]
    have hcolumn := hl.column
    have hrest := hl.rest
    cases htext with
    | @row k s hs hk =>
        rw [Cursor.leadingSpaces_spaces hs.opens] at hcolumn
        omega
    | marker rest =>
        rw [fetchToken_marker hcolumn hrest,
          fetchToken_marker (l := l.closed outer more) hcolumn hrest, fetchMarker_congr hunwind]
    | nothing =>
        rw [fetchToken_end hrest, fetchToken_end (l := l.closed outer more) hrest,
          fetchEnd_congr hunwind]

/-- A block collection is closed by what follows it and stands left of it. -/
theorem takes_close {l : Lexer} {n outer : Int} {more : List Int} {text : List Char}
    (hl : l.AtRow text) (htext : Cursor.Follows n text) (hn : -1 ≤ outer ∧ n ≤ outer)
    (houter : outer < l.indent) (hindents : l.indents = outer :: more) :
    ∃ m, l.TakesKinds m 0 [.blockEnd] ∧ m.AtRow text ∧ m.stack = (outer, more) := by
  have hfetch := fetch_closed hl htext hn houter hindents
  have hfinished : (l.closed outer more).finished = false := hl.finished
  let t : Token := ⟨.blockEnd, l.cursor.mark, l.cursor.mark, none⟩
  refine ⟨l.closed outer more, ⟨[t], ⟨fun fuel hfault => ?_, rfl, Nat.le_refl _⟩,
    .single (t := t) rfl (Nat.le_refl _)⟩,
    ⟨⟨hl.flow, hl.candidates, hl.finished, ?_⟩, hl.keyAllowed, hl.rest, hl.column⟩, rfl⟩
  · rw [readAll, hfinished] at hfault
    rw [Nat.add_zero, readAll, readAll, hfetch, hl.finished, hfinished]
    cases hnext : (l.closed outer more).fetch >>= dropStale with
    | error fault =>
        rw [hnext] at hfault
        cases hfault
    | ok next => rfl
  · change l.count + 1 = l.read.length + 1
    rw [hl.count]

theorem leads_close {l : Lexer} {n outer : Int} {more : List Int} {text : List Char}
    (hl : l.AtRow text) (htext : Cursor.Follows n text) (hn : -1 ≤ outer ∧ n ≤ outer)
    (houter : outer < l.indent) (hindents : l.indents = outer :: more) :
    ∃ m, l.Leads m 0 [.blockEnd] ∧ m.AtRow text ∧ m.stack = (outer, more) := by
  obtain ⟨m, htakes, hm⟩ := takes_close hl htext hn houter hindents
  exact ⟨m, htakes.leads, hm⟩

/-- The marker of a document, where no block collection is open. -/
theorem takes_marker {l : Lexer} {rest : List Char}
    (hl : l.AtRow ('-' :: '-' :: '-' :: '\n' :: rest)) (hindent : l.indent = -1) :
    ∃ m, l.TakesKinds m 1 [.documentStart] ∧ m.Calm ∧ m.cursor.rest = '\n' :: rest ∧
      m.stack = l.stack := by
  have hrest : l.cursor.rest = '-' :: '-' :: '-' :: '\n' :: rest := hl.rest
  have hcolumn : l.cursor.column = 0 := hl.column
  have hopens : Cursor.Opens l.cursor.rest := by
    rw [hrest]
    exact .cons _ (by decide)
  let m : Lexer :=
    { pushWide { l with keyAllowed := false } .documentStart 3 with
      version11 := l.nextVersion11, nextVersion11 := false }
  have hfetch : l.fetch = .ok m := by
    rw [fetch_here hl.toCalm hopens (by omega), fetchToken_marker hcolumn hrest, fetchMarker,
      unwindTo_of_le (by omega), dropCandidate_of_nil hl.candidates]
    rfl
  have hadvance : m.cursor = l.cursor.past ['-', '-', '-'] ('\n' :: rest) :=
    Cursor.advance_inline (s := ['-', '-', '-']) (by simp [Cursor.isInline]) hrest
  have hline : l.cursor.line ≤ m.cursor.line := by
    rw [hadvance]
    exact Nat.le_refl _
  let t : Token := ⟨.documentStart, l.cursor.mark, m.cursor.mark, none⟩
  refine ⟨m, ⟨[t], takes_of_fetch hl.finished ?_ rfl hline,
    .single (t := t) rfl (Nat.le_refl _)⟩,
    ⟨hl.flow, hl.candidates, hl.finished, ?_⟩, by rw [hadvance]; rfl, rfl⟩
  · rw [hfetch]
    exact dropStale_of_nil hl.candidates
  · change l.count + 1 = l.read.length + 1
    rw [hl.count]

theorem leads_marker {l : Lexer} {rest : List Char}
    (hl : l.AtRow ('-' :: '-' :: '-' :: '\n' :: rest)) (hindent : l.indent = -1) :
    ∃ m, l.Leads m 1 [.documentStart] ∧ m.Calm ∧ m.cursor.rest = '\n' :: rest ∧
      m.stack = l.stack := by
  obtain ⟨m, htakes, hm⟩ := takes_marker hl hindent
  exact ⟨m, htakes.leads, hm⟩

end Lexer
end Yaml
end YamlTidy
