import YamlTidy.Proofs.Yaml.Block.Steps
import YamlTidy.Proofs.Yaml.Draft
import YamlTidy.Yaml.Token.Stream
import Mathlib.Data.List.Forall2

/-!
# Steps of the lexer on comments

A remark is read as one comment, from the end of a row (`Lexer.passes_rowEnd`), below a leaf
(`Lexer.passes_leaf`) and below other remarks (`Lexer.takes_remarks`).  `Lexer.Passes l m n ps`
says that `n` steps lead from one state to another and read tokens and remarks as `ps` tells, where
no comment begins on the line on which a token ends that could keep it.
-/

namespace YamlTidy
namespace Yaml

open Text

/-! ## Remarks under a cursor -/

namespace Cursor

/-- A text that does not begin with a line break. -/
def Unbroken (s : List Char) : Prop :=
  ∀ c rest, s = c :: rest → isBreak c = false

theorem Unbroken.spaces {s : List Char} (hs : Unbroken s) (n : Nat) :
    Unbroken (List.replicate n ' ' ++ s) := by
  cases n with
  | zero => exact hs
  | succ n =>
      intro c rest h
      cases h
      rfl

theorem Unbroken.sign (s : List Char) : Unbroken ('#' :: s) := by
  intro c rest h
  cases h
  rfl

theorem Opens.unbroken {s : List Char} (hs : Opens s) : Unbroken s := by
  intro c rest h
  simp (disch := decide) [isBreak, ne_of_class (isInk_of_beginsContent (hs c rest h))]

/-- In front of something that does not begin with a line break remarks do not either. -/
theorem unbroken_texts {s : List Char} (hs : Unbroken s) (remarks : List Remark) :
    Unbroken (Remark.texts remarks ++ s) := by
  cases remarks with
  | nil => exact hs
  | cons r more =>
      have hbegin : Remark.texts (r :: more) ++ s = List.replicate r.column ' ' ++
          '#' :: (r.chars ++ '\n' :: List.replicate r.blanks '\n' ++
            Remark.texts more ++ s) := by
        simp [Remark.texts, Remark.text, Remark.body]
      rw [hbegin]
      exact (Unbroken.sign _).spaces _

theorem lineBreak_of_unbroken {c : Cursor} (h : Unbroken c.rest) : c.lineBreak = none := by
  unfold lineBreak
  split
  · next hrest => exact absurd (h _ _ hrest) (by decide)
  · next ch rest _ hrest =>
      have hch := h _ _ hrest
      simp only [isBreak, Bool.or_eq_false_iff] at hch
      simp [hch]
  · rfl

/-- Reading over a text without line breaks stays on the line. -/
theorem advance_within {s rest : List Char} (hs : ∀ ch ∈ s, isBreak ch = false) :
    ∀ {c : Cursor}, c.rest = s ++ rest →
      (c.advance s.length).rest = rest ∧ (c.advance s.length).line = c.line := by
  induction s with
  | nil => exact fun hrest => ⟨hrest, rfl⟩
  | cons ch more ih =>
      intro c hrest
      have hbreak := hs ch (by simp)
      simp only [isBreak, Bool.or_eq_false_iff, beq_eq_false_iff_ne] at hbreak
      have hnext : c.next.rest = more ++ rest ∧ c.next.line = c.line := by
        have hcons : c.rest = ch :: (more ++ rest) := hrest
        simp only [next, hcons, hbreak.1.1.1.1, hbreak.1.1.1.2, decide_false, Bool.false_and,
          Bool.or_false, Bool.false_eq_true, if_false]
        split <;> exact ⟨rfl, rfl⟩
      obtain ⟨hmore, hline⟩ := ih (fun x hx => hs x (by simp [hx])) hnext.1
      exact ⟨hmore, hline.trans hnext.2⟩

/-- Blank lines are read as line feeds. -/
theorem breaksWithin_blanks {s : List Char} (hrest : Unbroken s) :
    ∀ {k n : Nat} {c : Cursor}, c.rest = List.replicate k '\n' ++ s → c.column = 0 →
      k < n → ∃ d, c.breaksWithin id n = (List.replicate k '\n', d) ∧ d.rest = s ∧
        d.column = 0 ∧ c.line ≤ d.line
  | 0, n + 1, c, hc, hcolumn, _ => by
      obtain hc : c.rest = s := hc
      refine ⟨c, ?_, hc, hcolumn, Nat.le_refl _⟩
      rw [breaksWithin, lineBreak_of_unbroken (hc ▸ hrest)]
      rfl
  | k + 1, n + 1, c, hc, _, hlt => by
      obtain ⟨d, hmore, hd, hcolumn, hline⟩ := breaksWithin_blanks hrest (k := k) (n := n)
        (c := c.nextRow {} (List.replicate k '\n' ++ s)) rfl rfl (by omega)
      refine ⟨d, ?_, hd, hcolumn, Nat.le_of_succ_le hline⟩
      have hfeed : c.lineBreak = some ('\n', c.nextRow {} (List.replicate k '\n' ++ s)) :=
        lineBreak_rowEnd hc
      rw [breaksWithin, hfeed]
      simp only [id, hmore]
      rfl

variable {r : Remark} {s : List Char}

/-- A remark is read as its text from the number sign on, down to what follows it. -/
theorem commentLine_remark {c : Cursor} (hc : c.rest = r.body ++ s) (hrest : Unbroken s) :
    ∃ d, c.commentLine = (r.body, d) ∧ d.rest = s ∧ d.column = 0 ∧ c.line < d.line := by
  have hchars : ∀ ch ∈ '#' :: r.chars, isBreak ch = false ∧ (!endsLine ch) = true := by
    intro ch hch
    rcases List.mem_cons.mp hch with rfl | hch
    · exact ⟨rfl, rfl⟩
    · have hremark := r.remarkChars ch hch
      simp only [isRemarkChar, Bool.and_eq_true, Bool.not_eq_true'] at hremark
      have hnul : ch ≠ '\x00' := by
        rintro rfl
        exact absurd hremark.1 (by decide)
      simp [endsLine, hremark.2, hnul]
  have hc' : c.rest =
      ('#' :: r.chars) ++ '\n' :: (List.replicate r.blanks '\n' ++ s) := by
    rw [hc, Remark.body]
    simp
  have hrun : c.run (fun ch => !endsLine ch) = '#' :: r.chars := by
    refine run_append hc' (fun ch hch => (hchars ch hch).2) fun ch hch => ?_
    cases hch
    rfl
  obtain ⟨hfeed, hline⟩ := advance_within (fun ch hch => (hchars ch hch).1) hc'
  generalize he : c.advance ('#' :: r.chars).length = e at hfeed hline
  have hnext : e.next = e.nextRow {} (List.replicate r.blanks '\n' ++ s) := by
    simp [next, hfeed, RowEnd.lineBreak]
  obtain ⟨d, hbreaks, hd, hcolumn, hle⟩ := breaksWithin_blanks hrest (k := r.blanks)
    (n := e.rest.length) (c := e.next) (by rw [hnext]) (by rw [hnext])
    (by rw [hfeed, List.length_cons, List.length_append, List.length_replicate]; omega)
  refine ⟨d, ?_, hd, hcolumn, ?_⟩
  · rw [commentLine, hrun]
    simp only [he]
    rw [hfeed] at hbreaks ⊢
    simp only [hbreaks]
    rfl
  · rw [hnext] at hle
    exact Nat.lt_of_lt_of_le (by rw [← hline]; exact Nat.lt_succ_self _) hle

theorem skip_spaces {c : Cursor} {k : Nat} {s : List Char} (hs : s.head? ≠ some ' ')
    (hc : c.rest = List.replicate k ' ' ++ s) :
    c.skip (fun ch => ch == ' ' || (false && ch == '\t')) = c.toContent k s := by
  have hrun : c.run (fun ch => ch == ' ' || (false && ch == '\t')) = List.replicate k ' ' := by
    refine run_append hc (fun ch hch => by simp [List.eq_of_mem_replicate hch]) fun ch hch => ?_
    have hne : ch ≠ ' ' := fun he => hs (he ▸ hch)
    simp [hne]
  rw [skip, hrun, List.length_replicate, advance_spaces hc]

/-- The gap in front of a remark, which stands behind spaces. -/
theorem skipGap_remark {c : Cursor} {k : Nat} (keyAllowed : Bool) (fuel : Nat)
    (hc : c.rest = List.replicate k ' ' ++ (r.body ++ s)) (hrest : Unbroken s) :
    ∃ d, skipGap false (fuel + 1) c keyAllowed =
        { cursor := d, keyAllowed := true,
          comment := some ⟨r.body, ⟨c.line, c.column + k⟩⟩ } ∧
      d.rest = s ∧ d.column = 0 ∧ c.line < d.line := by
  have hskip := skip_spaces (by simp [Remark.body]) hc
  obtain ⟨d, hline, hd, hcolumn, hlt⟩ := commentLine_remark (r := r) (s := s)
    (c := c.toContent k (r.body ++ s)) rfl hrest
  refine ⟨d, ?_, hd, hcolumn, hlt⟩
  have hhead : (c.toContent k (r.body ++ s)).head = '#' := rfl
  rw [skipGap, hskip]
  simp only [hhead, beq_self_eq_true, if_true, hline]
  simp [mark, toContent, past]

theorem gap_remark {c : Cursor} {k : Nat} (keyAllowed : Bool)
    (hc : c.rest = List.replicate k ' ' ++ (r.body ++ s)) (hrest : Unbroken s) :
    ∃ d, c.gap false keyAllowed =
        { cursor := d, keyAllowed := true,
          comment := some ⟨r.body, ⟨c.line, c.column + k⟩⟩ } ∧
      d.rest = s ∧ d.column = 0 ∧ c.line < d.line := by
  have hmark : c.head ≠ '\uFEFF' := by
    cases k <;> simp [head, hc, Remark.body, List.replicate_succ]
  obtain ⟨d, hgap, hd⟩ := skipGap_remark keyAllowed c.rest.length hc hrest
  exact ⟨d, by simpa [gap, hmark] using hgap, hd⟩

/-- From the end of a row one comes to the remark in the next one. -/
theorem gap_overRemark {c : Cursor} {e : RowEnd} {k : Nat} (keyAllowed : Bool)
    (hc : c.rest = e.chars ++ (List.replicate k ' ' ++ (r.body ++ s))) (hrest : Unbroken s) :
    ∃ d, c.gap false keyAllowed =
        { cursor := d, keyAllowed := true, comment := some ⟨r.body, ⟨c.line + 1, k⟩⟩ } ∧
      d.rest = s ∧ d.column = 0 ∧ c.line + 1 < d.line := by
  have htext : (List.replicate k ' ' ++ (r.body ++ s)).headD '\x00' ≠ '\n' := by
    cases k <;> simp [Remark.body, List.replicate_succ]
  obtain ⟨f, fuel, hgap, hf, hcolumn, hline⟩ := gap_overRowEnd keyAllowed hc htext
  obtain ⟨d, hremark, hd⟩ := skipGap_remark true fuel hf hrest
  rw [hcolumn, hline, Nat.zero_add] at hremark
  exact ⟨d, hgap.trans hremark, hline ▸ hd⟩

/-- The breaks of a plain scalar end in front of a comment. -/
theorem plainBreaks_sign {s : List Char} : ∀ {k fuel : Nat} {c : Cursor},
    c.rest = List.replicate k ' ' ++ '#' :: s → k < fuel →
      c.plainBreaks fuel = (some [], c.toContent k ('#' :: s))
  | 0, fuel + 1, c, hc, _ => by
      obtain hc : c.rest = '#' :: s := hc
      have hhead : c.head ≠ ' ' := by simp [head, hc]
      have hbreak := lineBreak_of_unbroken (c := c) (by rw [hc]; exact .sign s)
      simp [plainBreaks, hhead, hbreak, toContent, past, ← hc]
  | k + 1, fuel + 1, c, hc, hlt => by
      have hcons : c.rest = ' ' :: (List.replicate k ' ' ++ '#' :: s) := hc
      have hnext := next_inline hcons (by decide)
      have hhead : c.head = ' ' := by simp [head, hcons]
      have hmore : c.next.plainBreaks fuel = (some [], c.next.toContent k ('#' :: s)) :=
        plainBreaks_sign (by rw [hnext]; rfl) (by omega)
      rw [plainBreaks, hhead, beq_self_eq_true, if_pos rfl, hmore, hnext, toContent, past_past]
      rfl

end Cursor

/-- A phrase above a remark is a scalar, and reading goes on at the remark. -/
theorem PlainContext.token_sign (ctx : PlainContext) {p : Phrase} {e : RowEnd} {c : Cursor}
    {k : Nat} {s : List Char} (hflow : ctx.inFlow = false) (hroom : ctx.indent ≤ c.column)
    (hrest : c.rest = p.chars ++ (e.chars ++ (List.replicate k ' ' ++ '#' :: s))) :
    ctx.EndsRow p c ∧ (ctx.token c).2.cursor.rest = '#' :: s ∧
      (ctx.token c).2.cursor.column = k := by
  let text := List.replicate k ' ' ++ '#' :: s
  let f : Cursor := c.past p.chars (e.chars ++ text)
  let d : Cursor := (below f e text).toContent k ('#' :: s)
  have hmarker : (below f e text).atMarker = false := by
    cases k <;> rfl
  have hlength : k < text.length + 1 := by
    rw [List.length_append, List.length_replicate]
    omega
  have hgap : f.plainGap = { text := [' '], cursor := d, brokenLine := true } :=
    plainGap_below rfl hmarker (Cursor.plainBreaks_sign rfl hlength)
  have hhead : d.head = '#' := rfl
  obtain ⟨hends, hcursor⟩ := token_rowEnd ctx hflow hrest hroom
    (.inr (.inr (.inr (by rw [hgap, hhead])))) (.inr (by rw [hgap])) (by rw [hgap]; rfl)
    (by rw [hgap])
  rw [hcursor, hgap]
  refine ⟨hends, rfl, ?_⟩
  simp [d, below, Cursor.toContent, Cursor.past]

/-! ## Tokens and remarks -/

/-- A token of some kind, or a remark. -/
inductive Piece where
  | token (kind : TokenKind)
  | remark (r : Remark)

/-- A comment is that of a remark. -/
structure Comment.IsOf (c : Comment) (r : Remark) : Prop where
  text : c.text = r.body
  column : c.mark.column = r.column

/-- A lexeme is as a piece tells: a token of the kind without comments, or the comment. -/
def Lexeme.Is : Lexeme → Piece → Prop
  | .token t, .token kind => t.kind = kind ∧ t.comments = none
  | .comment c, .remark r => c.IsOf r
  | _, _ => False

namespace Lexer

/-- No comment begins on a line on which a token before it ends that could keep it. -/
def Apart (xs : List Lexeme) : Prop :=
  xs.Pairwise fun x y => ∀ t c, x = .token t → y = .comment c →
    TokenStream.holdsComment t.kind = true → t.stop.line < c.mark.line

/-- Lexemes are as pieces tell.  Their comments begin behind the line `first`, and their tokens that
could keep a comment end on the line `last` or above. -/
structure AreRead (first last : Nat) (ps : List Piece) (xs : List Lexeme) : Prop where
  pieces : List.Forall₂ Lexeme.Is xs ps
  comments : ∀ c, .comment c ∈ xs → first < c.mark.line
  tokens : ∀ t, .token t ∈ xs → TokenStream.holdsComment t.kind = true →
    t.stop.line ≤ last
  apart : Apart xs

/-- Lexemes that keep no comment may stand in front. -/
theorem Apart.behind {xs ys : List Lexeme}
    (hxs : ∀ t, .token t ∈ xs → TokenStream.holdsComment t.kind = false) (h : Apart ys) :
    Apart (xs ++ ys) := by
  have hfree : ∀ t, Lexeme.token t ∈ xs → ¬TokenStream.holdsComment t.kind = true :=
    fun t ht => by rw [hxs t ht]; exact Bool.false_ne_true
  exact List.pairwise_append.mpr
    ⟨List.pairwise_of_forall_mem_list fun _ hx _ _ t _ hxt _ hkind =>
      absurd hkind (hfree t (hxt ▸ hx)), h,
      fun _ hx _ _ t _ hxt _ hkind => absurd hkind (hfree t (hxt ▸ hx))⟩

/-- A token behind the others is no comment. -/
theorem Apart.concat_token {xs : List Lexeme} (h : Apart xs) (t : Token) :
    Apart (xs ++ [.token t]) :=
  List.pairwise_append.mpr ⟨h, List.pairwise_singleton _ _, fun _ _ y hy _ _ _ hyc _ => by
    rw [List.mem_singleton.mp hy] at hyc
    cases hyc⟩

/-- In `n` steps one state leads to another, and tokens and remarks are read. -/
def Passes (l m : Lexer) (n : Nat) (ps : List Piece) : Prop :=
  ∃ xs, l.Takes m n xs ∧ AreRead l.cursor.line m.cursor.line ps xs

theorem AreRead.append {first middle last : Nat} {front back : List Piece} {xs ys : List Lexeme}
    (h : AreRead first middle front xs) (h' : AreRead middle last back ys) (hle : first ≤ middle)
    (hle' : middle ≤ last) : AreRead first last (front ++ back) (xs ++ ys) where
  pieces := List.rel_append h.pieces h'.pieces
  comments c hc := (List.mem_append.mp hc).elim (h.comments c) fun hc =>
    Nat.lt_of_le_of_lt hle (h'.comments c hc)
  tokens t ht := (List.mem_append.mp ht).elim
    (fun ht hkind => Nat.le_trans (h.tokens t ht hkind) hle') (h'.tokens t)
  apart := List.pairwise_append.mpr ⟨h.apart, h'.apart, fun _ hx _ hy t c hxt hyc hkind =>
    Nat.lt_of_le_of_lt (h.tokens t (hxt ▸ hx) hkind) (h'.comments c (hyc ▸ hy))⟩

theorem Passes.refl (l : Lexer) : l.Passes l 0 [] :=
  ⟨[], ⟨fun _ _ => rfl, rfl, Nat.le_refl _⟩, .nil, by simp, by simp, .nil⟩

theorem Passes.trans {l m k : Lexer} {a b : Nat} {front back : List Piece}
    (h : l.Passes m a front) (h' : m.Passes k b back) : l.Passes k (a + b) (front ++ back) := by
  obtain ⟨xs, hxs, hread⟩ := h
  obtain ⟨ys, hys, hread'⟩ := h'
  exact ⟨xs ++ ys, hxs.trans hys, hread.append hread' hxs.line hys.line⟩

/-- Tokens alone are apart. -/
theorem TakesKinds.passes {l m : Lexer} {n : Nat} {kinds : List TokenKind}
    (h : l.TakesKinds m n kinds) : l.Passes m n (kinds.map .token) := by
  obtain ⟨ts, htakes, hts⟩ := h
  refine ⟨_, htakes, ?_, by simp, by simpa using fun t ht _ => hts.lines t ht, ?_⟩
  · rw [← hts.kinds, List.forall₂_map_right_iff, List.forall₂_map_right_iff,
      List.forall₂_map_left_iff, List.forall₂_same]
    exact fun t ht => ⟨rfl, hts.comments t ht⟩
  · refine List.pairwise_map.mpr (List.pairwise_of_forall fun t u _ c _ hc => ?_)
    cases hc

/-- Comments are those of remarks, on the given line or below. -/
structure AreRemarks (line : Nat) (rs : List Remark) (cs : List Comment) : Prop where
  remarks : List.Forall₂ Comment.IsOf cs rs
  lines : ∀ c ∈ cs, line ≤ c.mark.line

theorem AreRemarks.cons {n n' : Nat} {r : Remark} {rs : List Remark} {c : Comment}
    {cs : List Comment} (hc : c.IsOf r) (hline : n ≤ c.mark.line) (h : AreRemarks n' rs cs)
    (hle : n ≤ n') : AreRemarks n (r :: rs) (c :: cs) where
  remarks := .cons hc h.remarks
  lines d hd := (List.mem_cons.mp hd).elim (fun he => he ▸ hline) fun hd =>
    Nat.le_trans hle (h.lines d hd)

theorem AreRemarks.pieces {line : Nat} {rs : List Remark} {cs : List Comment}
    (h : AreRemarks line rs cs) : List.Forall₂ Lexeme.Is (cs.map .comment) (rs.map .remark) := by
  rw [List.forall₂_map_right_iff, List.forall₂_map_left_iff]
  exact h.remarks

/-- Comments alone are apart. -/
theorem AreRemarks.areRead {first last line : Nat} {rs : List Remark} {cs : List Comment}
    (h : AreRemarks line rs cs) (hline : first < line) :
    AreRead first last (rs.map .remark) (cs.map .comment) where
  pieces := h.pieces
  comments c hc := by
    obtain ⟨d, hd, he⟩ := List.mem_map.mp hc
    cases he
    exact Nat.lt_of_lt_of_le hline (h.lines _ hd)
  tokens := by simp
  apart := by
    refine List.pairwise_map.mpr (List.pairwise_of_forall fun c d t _ ht => ?_)
    cases ht

/-- A remark is read in one step. -/
theorem takes_comment {l : Lexer} {r : Remark} {d : Cursor} {mark : Mark} (hl : l.Idle d.line)
    (hgap : l.cursor.gap false l.keyAllowed =
      { cursor := d, keyAllowed := true, comment := some ⟨r.body, mark⟩ })
    (hline : l.cursor.line ≤ d.line) :
    ∃ m, l.Takes m 1 [.comment ⟨r.body, mark⟩] ∧ m.Calm ∧ m.keyAllowed = true ∧
      m.cursor = d ∧ m.stack = l.stack := by
  let m : Lexer :=
    { l with
      cursor := d, keyAllowed := true
      read := .comment ⟨r.body, mark⟩ :: l.read
      count := l.count + 1 }
  have hbody : (r.body.reverse.dropWhile (· == ' ')).reverse = r.body := by
    have hend : ∃ s, r.body = s ++ ['\n'] :=
      ⟨'#' :: (r.chars ++ List.replicate r.blanks '\n'), by
        rw [Remark.body, ← List.replicate_succ, List.replicate_succ']
        simp⟩
    obtain ⟨s, hs⟩ := hend
    simp [hs]
  have hfetch : l.fetch = .ok m := by
    have hflow : l.inFlow = false := by simp [inFlow, hl.flow]
    unfold fetch
    rw [hflow, hgap]
    simp only [hbody]
    rfl
  -- What could have been a key stands above the remark.
  have hstale : m.dropStale = .ok { m with candidates := [] } :=
    dropStale_of_passed fun k hk =>
      ⟨(hl.candidates k hk).1, Nat.ne_of_lt (hl.candidates k hk).2⟩
  refine ⟨{ m with candidates := [] }, takes_of_fetch hl.finished ?_ rfl hline,
    ⟨hl.flow, rfl, hl.finished, ?_⟩, rfl, rfl, rfl⟩
  · rw [hfetch]
    exact hstale
  · change l.count + 1 = l.read.length + 1
    rw [hl.count]

-- By induction on the remarks; behind the last of them the next row is reached.
/-- From the beginning of a row remarks are read, down to the next row with content. -/
theorem takes_remarks {n : Nat} {s : List Char} (hs : Cursor.Opens s) :
    ∀ (rs : List Remark) {l : Lexer}, l.Calm → l.keyAllowed = true → l.cursor.column = 0 →
      l.cursor.rest = Remark.texts rs ++ (List.replicate n ' ' ++ s) →
        ∃ m cs, l.Takes m rs.length (cs.map .comment) ∧ AreRemarks l.cursor.line rs cs ∧
          m.AtRow (List.replicate n ' ' ++ s) ∧ m.stack = l.stack
  | [], l, hl, hallowed, hcolumn, hrest => by
      obtain ⟨m, ⟨ts, htakes, hts⟩, hm, hstack⟩ := takes_spaces hl hallowed hrest hs
      rw [hcolumn, Nat.zero_add] at hm
      obtain rfl : ts = [] := List.map_eq_nil_iff.mp hts.kinds
      exact ⟨m, [], htakes, ⟨.nil, by simp⟩, hm, hstack⟩
  | r :: rs, l, hl, hallowed, hcolumn, hrest => by
      have hrest' : l.cursor.rest = List.replicate r.column ' ' ++
          (r.body ++ (Remark.texts rs ++ (List.replicate n ' ' ++ s))) := by
        rw [hrest]
        simp [Remark.texts, Remark.text]
      obtain ⟨d, hgap, hd, hdcolumn, hdline⟩ := Cursor.gap_remark l.keyAllowed hrest'
        (Cursor.unbroken_texts (hs.unbroken.spaces n) rs)
      obtain ⟨m₁, hfirst, hcalm, hallowed₁, hcursor, hstack₁⟩ :=
        takes_comment (hl.idle _) hgap (Nat.le_of_lt hdline)
      subst hcursor
      obtain ⟨m, cs, hmore, hcs, hm, hstack⟩ :=
        takes_remarks hs rs hcalm hallowed₁ hdcolumn hd
      rw [hcolumn, Nat.zero_add] at hfirst
      refine ⟨m, _ :: cs, ?_, hcs.cons (c := ⟨r.body, ⟨l.cursor.line, r.column⟩⟩)
        ⟨rfl, rfl⟩ (Nat.le_refl _) (Nat.le_of_lt hdline), hm, hstack.trans hstack₁⟩
      rw [List.length_cons, Nat.add_comm]
      exact hfirst.trans hmore

/-- From the end of a row the next one with content is reached, over the remarks between them. -/
theorem passes_rowEnd {l : Lexer} {e : RowEnd} {n : Nat} {s : List Char} (rs : List Remark)
    (hl : l.Idle (l.cursor.line + 1))
    (hrest : l.cursor.rest = e.chars ++ (Remark.texts rs ++ (List.replicate n ' ' ++ s)))
    (hs : Cursor.Opens s) :
    ∃ m, l.Passes m rs.length (rs.map .remark) ∧ m.AtRow (List.replicate n ' ' ++ s) ∧
      m.stack = l.stack := by
  cases rs with
  | nil =>
      obtain ⟨m, htakes, hm⟩ := takes_rowEnd hl hrest hs
      exact ⟨m, htakes.passes, hm⟩
  | cons r rs =>
      have hrest' : l.cursor.rest = e.chars ++ (List.replicate r.column ' ' ++
          (r.body ++ (Remark.texts rs ++ (List.replicate n ' ' ++ s)))) := by
        rw [hrest]
        simp [Remark.texts, Remark.text]
      obtain ⟨d, hgap, hd, hdcolumn, hdline⟩ := Cursor.gap_overRemark l.keyAllowed hrest'
        (Cursor.unbroken_texts (hs.unbroken.spaces n) rs)
      obtain ⟨m₁, hfirst, hcalm, hallowed₁, hcursor, hstack₁⟩ :=
        takes_comment (hl.later (Nat.le_of_lt hdline)) hgap (by omega)
      subst hcursor
      obtain ⟨m, cs, hmore, hcs, hm, hstack⟩ :=
        takes_remarks hs rs hcalm hallowed₁ hdcolumn hd
      have hall := hcs.cons (r := r) (n := l.cursor.line + 1)
        (c := ⟨r.body, ⟨l.cursor.line + 1, r.column⟩⟩) ⟨rfl, rfl⟩ (Nat.le_refl _)
        (Nat.le_of_lt hdline)
      refine ⟨m, ⟨_, ?_, hall.areRead (Nat.lt_succ_self _)⟩, hm, hstack.trans hstack₁⟩
      rw [List.length_cons, Nat.add_comm]
      exact hfirst.trans hmore

/-- A phrase at the end of its row and the remarks below it, down to something that is not indented
deeper. -/
theorem passes_phrase {l : Lexer} {p : Phrase} {e : RowEnd} {k : Nat} {text : List Char}
    (rs : List Remark) (hl : l.Calm)
    (hrest : l.cursor.rest =
      List.replicate k ' ' ++ (p.chars ++ (e.chars ++ (Remark.texts rs ++ text))))
    (htext : Cursor.Follows l.indent text) (hcolumn : l.indent < l.cursor.column + k) :
    ∃ m, l.Passes m (1 + rs.length) (.token (.scalar p.chars .plain []) :: rs.map .remark) ∧
      m.AtRow text ∧ m.stack = l.stack := by
  cases rs with
  | nil =>
      obtain ⟨m, htakes, hm⟩ := takes_phrase hl hrest htext hcolumn
      exact ⟨m, htakes.passes, hm⟩
  | cons r rs =>
      obtain ⟨n, s, rfl, hs⟩ := htext.split
      let more := Remark.texts rs ++ (List.replicate n ' ' ++ s)
      have hrest' : l.cursor.rest = List.replicate k ' ' ++ (p.chars ++ (e.chars ++
          (List.replicate r.column ' ' ++
            '#' :: (r.chars ++ '\n' :: List.replicate r.blanks '\n' ++ more)))) := by
        rw [hrest]
        simp [more, Remark.texts, Remark.text, Remark.body]
      obtain ⟨hends, hsrest, hscolumn⟩ := l.plainContext.token_sign
        (c := l.cursor.toContent k _) (by simp [plainContext, inFlow, hl.flow])
        (l.room_toContent hcolumn _) rfl
      obtain ⟨m₁, t, hphrase, hkind, hcomments, hline, hcalm₁, hallowed₁, hcursor₁,
        hstack₁⟩ :=
        takes_plain hl hrest' hcolumn hends
      have hrest₁ : m₁.cursor.rest = List.replicate 0 ' ' ++ (r.body ++ more) := by
        rw [hcursor₁, hsrest]
        simp [Remark.body]
      obtain ⟨d, hgap, hd, hdcolumn, hdline⟩ := Cursor.gap_remark m₁.keyAllowed hrest₁
        (Cursor.unbroken_texts (hs.unbroken.spaces n) rs)
      rw [Nat.add_zero, hcursor₁, hscolumn, ← hcursor₁] at hgap
      obtain ⟨m₂, hfirst, hcalm₂, hallowed₂, hcursor₂, hstack₂⟩ :=
        takes_comment (hcalm₁.idle _) hgap (Nat.le_of_lt hdline)
      subst hcursor₂
      obtain ⟨m, cs, hmore, hcs, hm, hstack⟩ :=
        takes_remarks hs rs hcalm₂ hallowed₂ hdcolumn hd
      have hall := hcs.cons (r := r) (n := m₁.cursor.line)
        (c := ⟨r.body, ⟨m₁.cursor.line, r.column⟩⟩) ⟨rfl, rfl⟩ (Nat.le_refl _)
        (Nat.le_of_lt hdline)
      have hline₁ : m₁.cursor.line = l.cursor.line + 1 := by rw [hcursor₁, hends.line]; rfl
      have htoken : AreRead l.cursor.line l.cursor.line [.token (.scalar p.chars .plain [])]
          [.token t] :=
        ⟨.cons ⟨hkind, hcomments⟩ .nil, by simp,
          fun u hu _ => by simp at hu; rw [hu]; omega, List.pairwise_singleton _ _⟩
      have htakes := hphrase.trans (hfirst.trans hmore)
      rw [Nat.add_comm 1 rs.length] at htakes
      exact ⟨m, ⟨_, htakes,
        htoken.append (hall.areRead (by omega)) (Nat.le_refl _) htakes.line⟩,
        hm, hstack.trans (hstack₂.trans hstack₁)⟩

/-- A leaf at the end of its row and the remarks below it, down to something that is not indented
deeper. -/
theorem passes_leaf {l : Lexer} {x : Leaf} {e : RowEnd} {k : Nat} {text : List Char}
    (rs : List Remark) (hl : l.Calm)
    (hrest : l.cursor.rest =
      List.replicate k ' ' ++ (x.chars ++ (e.chars ++ (Remark.texts rs ++ text))))
    (htext : Cursor.Follows l.indent text) (hcolumn : l.indent < l.cursor.column + k) :
    ∃ m, l.Passes m (1 + rs.length) (.token (.scalar x.content x.style []) :: rs.map .remark) ∧
      m.AtRow text ∧ m.stack = l.stack := by
  cases x with
  | plain p hnull => exact passes_phrase rs hl hrest htext hcolumn
  | quoted q =>
      obtain ⟨n, s, rfl, hs⟩ := htext.split
      obtain ⟨l₁, hquoted, hidle, hrest₁, hstack₁⟩ :=
        takes_quoted hl hrest (e.head?_chars _) hcolumn
      obtain ⟨m, hremarks, hm, hstack⟩ := passes_rowEnd rs hidle hrest₁ hs
      exact ⟨m, hquoted.passes.trans hremarks, hm, hstack.trans hstack₁⟩

end Lexer
end Yaml
end YamlTidy
