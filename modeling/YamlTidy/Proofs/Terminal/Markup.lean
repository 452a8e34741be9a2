import Mathlib.Data.List.Infix
import Mathlib.Data.List.TakeWhile
import YamlTidy.Proofs.Terminal.Styles
import YamlTidy.Terminal.Markup

/-!
# Texts that markup leaves alone

Markup can change a text in four ways: it takes tags out, it drops backslashes, it puts emoji in
place of their names, and it keeps back what does not reach the terminal.  An `Inert` text gives
it no reason to do so, and is shown character for character (`Inert.plain_eq`,
`Inert.plain_tagged_eq`).

What can be at fault is a closing tag or a color of three parts.  A text without an opening
bracket in front of a slash and without what begins such a color is `Faultless`, and is always
shown somehow (`exists_plain`, `exists_plain_tagged`).
-/

namespace YamlTidy
namespace Terminal

open Text

variable {s t text name words front : List Char} {c : Char} {position slashes skip : Nat}
  {body : List Char} {ps qs : List Piece} {open_ : List OpenTag} {t₀ : OpenTag}

/-! ## Tags -/

/-- A text that begins with a tag behind some backslashes. -/
structure TagAt (slashes : Nat) (body t : List Char) : Prop where
  starts : ∃ c more, body = c :: more ∧ startsTag c = true
  unnested : ∀ d ∈ body, d ≠ '[' ∧ d ≠ ']'
  begins : ∃ rest, t = List.replicate slashes '\\' ++ '[' :: (body ++ ']' :: rest)

theorem startsTag_ne_bracket (h : startsTag c = true) : c ≠ '[' ∧ c ≠ ']' := by
  constructor <;> rintro rfl <;> revert h <;> decide

theorem append_drop_takeWhile (p : Char → Bool) (s : List Char) :
    s.takeWhile p ++ s.drop (s.takeWhile p).length = s := by
  induction s with
  | nil => rfl
  | cons c s ih =>
      by_cases hc : p c = true
      · simp [List.takeWhile_cons_of_pos hc, ih]
      · simp [List.takeWhile_cons_of_neg hc]

theorem tagAt_eq_some : tagAt? t = some (slashes, body) ↔ TagAt slashes body t := by
  constructor
  · intro h
    have hslashes := append_drop_takeWhile (· == '\\') t
    have hreplicate : t.takeWhile (· == '\\') =
        List.replicate (t.takeWhile (· == '\\')).length '\\' := by
      refine List.eq_replicate_of_mem fun b hb => ?_
      simpa using List.mem_takeWhile_imp hb
    unfold tagAt? at h
    dsimp only at h
    split at h
    · next c rest hdrop =>
        split at h
        · next hstarts =>
            split at h
            · next hend =>
                cases h
                have hmore := append_drop_takeWhile (fun d => d != '[' && d != ']') rest
                obtain ⟨after, hafter⟩ := List.head?_eq_some_iff.mp (beq_iff_eq.mp hend)
                refine ⟨⟨c, _, rfl, hstarts⟩, ?_, after, ?_⟩
                · intro d hd
                  rcases List.mem_cons.mp hd with rfl | hd
                  · exact startsTag_ne_bracket hstarts
                  · simpa using List.mem_takeWhile_imp hd
                · rw [← hreplicate, List.cons_append, ← hafter, hmore, ← hdrop, hslashes]
            · cases h
        · cases h
    · cases h
  · rintro ⟨⟨c, more, rfl, hstarts⟩, hunnested, rest, rfl⟩
    have hslashes : (List.replicate slashes '\\' ++ '[' :: (c :: more ++ ']' :: rest)).takeWhile
        (· == '\\') = List.replicate slashes '\\' := by
      rw [List.takeWhile_append_of_pos (by simp)]
      simp
    have hmore : (more ++ ']' :: rest).takeWhile (fun d => d != '[' && d != ']') = more := by
      rw [List.takeWhile_append_of_pos fun d hd => by
        simpa using hunnested d (List.mem_cons_of_mem _ hd)]
      simp
    have hdrop :
        (List.replicate slashes '\\' ++ '[' :: (c :: more ++ ']' :: rest)).drop slashes =
          '[' :: c :: (more ++ ']' :: rest) :=
      List.drop_left' List.length_replicate
    simp only [tagAt?, hslashes, List.length_replicate, hdrop, hstarts, hmore, if_true,
      List.drop_left, List.head?_cons, BEq.rfl]

theorem TagAt.within (h : TagAt slashes body t) : '[' :: body <:+: t := by
  obtain ⟨rest, hrest⟩ := h.begins
  exact ⟨List.replicate slashes '\\', ']' :: rest, by simp [hrest]⟩

/-- A tag that begins in a text in front of a closing tag ends there, too, or the text consists of
the backslashes in front of the closing tag. -/
theorem TagAt.of_append (h : TagAt slashes body (t ++ '[' :: (words ++ [']'])))
    (hwords : ']' ∉ words) :
    TagAt slashes body t ∨ t = List.replicate slashes '\\' ∧ body = words := by
  obtain ⟨rest, hrest⟩ := h.begins
  have hsplit : t ++ '[' :: (words ++ [']']) =
      (List.replicate slashes '\\' ++ '[' :: (body ++ [']'])) ++ rest := by
    simpa using hrest
  have hbody : '[' ∉ body := fun hmem => (h.unnested _ hmem).1 rfl
  rcases List.append_eq_append_iff.mp hsplit with ⟨more, htag, hend⟩ | ⟨more, ht, -⟩
  · cases more with
    | nil =>
        refine Or.inl ⟨h.starts, h.unnested, [], ?_⟩
        simpa using htag.symm
    | cons d more =>
        -- The closing tag begins with the only opening bracket of the tag.
        obtain ⟨rfl, hmore⟩ := List.cons_eq_cons.mp hend
        obtain ⟨ht, -, rfl⟩ :=
          (List.append_cons_inj_of_notMem (by simp) (by simp [hbody])).mp htag
        have hafter : words ++ ']' :: [] = body ++ ']' :: rest := by simpa using hmore
        obtain ⟨hsame, -, -⟩ := (List.append_cons_inj_of_notMem hwords (by simp)).mp hafter
        exact Or.inr ⟨ht.symm, hsame.symm⟩
  · refine Or.inl ⟨h.starts, h.unnested, more, ?_⟩
    simpa using ht

/-! ## Pieces -/

/-- What is skipped does not show. -/
theorem piecesFrom_skip (position : Nat) (text t s : List Char) :
    piecesFrom position t.length text (t ++ s) = piecesFrom (position + t.length) 0 text s := by
  induction t generalizing position with
  | nil => rfl
  | cons c t ih =>
      rw [List.cons_append, List.length_cons, piecesFrom, ih]
      congr 1
      omega

/-- Where a tag begins, what stands in front of it and its own pieces are told. -/
theorem piecesFrom_of_tag (h : TagAt slashes body (c :: t)) (position : Nat) (text : List Char) :
    piecesFrom position 0 text (c :: t) = textPiece text ++ tagPieces position slashes body ++
      piecesFrom (position + 1) (slashes + body.length + 1) [] t := by
  rw [piecesFrom, tagAt_eq_some.mpr h]

theorem piecesFrom_of_no_tag (h : ∀ slashes body, ¬ TagAt slashes body (c :: t)) (position : Nat)
    (text : List Char) :
    piecesFrom position 0 text (c :: t) = piecesFrom (position + 1) 0 (text ++ [c]) t := by
  have hnone : tagAt? (c :: t) = none := by
    cases htag : tagAt? (c :: t) with
    | none => rfl
    | some found => exact absurd (tagAt_eq_some.mp htag) (h _ _)
  rw [piecesFrom, hnone]

/-- A text in which no tag begins goes into one piece. -/
theorem piecesFrom_untagged (front back : List Char)
    (h : ∀ t slashes body, t <:+ front → t ≠ [] → ¬ TagAt slashes body (t ++ back))
    (position : Nat) (text : List Char) :
    piecesFrom position 0 text (front ++ back) =
      piecesFrom (position + front.length) 0 (text ++ front) back := by
  induction front generalizing position text with
  | nil => simp
  | cons c front ih =>
      have hfront (t : List Char) (slashes : Nat) (body : List Char) (ht : t <:+ front) :
          t ≠ [] → ¬ TagAt slashes body (t ++ back) :=
        h t slashes body (ht.trans (List.suffix_cons c front))
      have hnone (slashes : Nat) (body : List Char) :
          ¬ TagAt slashes body (c :: (front ++ back)) :=
        h (c :: front) slashes body List.suffix_rfl (by simp)
      rw [List.cons_append, piecesFrom_of_no_tag hnone, ih hfront, List.length_cons]
      congr 1
      · omega
      · simp

/-- A tag without backslashes is a piece of its own. -/
theorem piecesFrom_tag (hstarts : ∃ c more, body = c :: more ∧ startsTag c = true)
    (hunnested : ∀ d ∈ body, d ≠ '[' ∧ d ≠ ']') (position : Nat) (text rest : List Char) :
    piecesFrom position 0 text ('[' :: (body ++ ']' :: rest)) =
      textPiece text ++ .tag position body :: piecesFrom (position + body.length + 2) 0 []
        rest := by
  have htag : TagAt 0 body ('[' :: (body ++ ']' :: rest)) := ⟨hstarts, hunnested, rest, rfl⟩
  have hskip : piecesFrom (position + 1) (0 + body.length + 1) [] (body ++ ']' :: rest) =
      piecesFrom (position + body.length + 2) 0 [] rest := by
    have hend := piecesFrom_skip (position + 1) [] (body ++ [']']) rest
    rw [List.length_append, List.append_assoc] at hend
    rw [Nat.zero_add]
    refine hend.trans ?_
    congr 1
    simp only [List.length_singleton]
    omega
  rw [piecesFrom_of_tag htag, hskip]
  simp [tagPieces]

/-! ## Tags without fault -/

/-- The body of a tag that closes nothing and names no color of three parts. -/
structure Opening (body : List Char) : Prop where
  head_ne : body.head? ≠ some '/'
  uncolored : Uncolored body

/-- A piece that cannot be at fault. -/
def Piece.Harmless : Piece → Prop
  | .plain _ => True
  | .tag _ body => Opening body

theorem harmless_textPiece (text : List Char) : ∀ piece ∈ textPiece text, piece.Harmless := by
  intro piece hpiece
  unfold textPiece at hpiece
  split at hpiece
  · cases hpiece
  · obtain rfl := List.mem_singleton.mp hpiece
    trivial

theorem harmless_tagPieces (h : Opening body) (position slashes : Nat) :
    ∀ piece ∈ tagPieces position slashes body, piece.Harmless := by
  intro piece hpiece
  unfold tagPieces at hpiece
  rcases List.mem_append.mp hpiece with hpiece | hpiece
  · split at hpiece
    · cases hpiece
    · obtain rfl := List.mem_singleton.mp hpiece
      trivial
  · obtain rfl := List.mem_singleton.mp hpiece
    split
    · exact h
    · trivial

/-- Whether nothing in a text looks like the start of a closing tag. -/
def Unclosing (s : List Char) : Prop :=
  ¬ ['[', '/'] <:+: s

instance (s : List Char) : Decidable (Unclosing s) :=
  inferInstanceAs (Decidable (¬ _))

/-- A text in which nothing looks like the start of a closing tag or of a color of three parts. -/
structure Faultless (s : List Char) : Prop where
  unclosing : Unclosing s
  uncolored : Uncolored s

instance (s : List Char) : Decidable (Faultless s) :=
  decidable_of_iff (Unclosing s ∧
    Uncolored s) ⟨fun h => ⟨h.1, h.2⟩, fun h => ⟨h.1, h.2⟩⟩

theorem Faultless.of_cons (h : Faultless (c :: s)) : Faultless s :=
  ⟨fun hs => h.unclosing (hs.trans (List.suffix_cons c s).isInfix),
    h.uncolored.of_infix (List.suffix_cons c s).isInfix⟩

theorem Faultless.opening (h : Faultless t) (htag : TagAt slashes body t) : Opening body := by
  constructor
  · intro hhead
    obtain ⟨more, rfl⟩ := List.head?_eq_some_iff.mp hhead
    exact h.unclosing (List.IsInfix.trans ⟨[], more, rfl⟩ htag.within)
  · exact h.uncolored.of_infix ((List.suffix_cons '[' body).isInfix.trans htag.within)

theorem Faultless.piecesFrom (h : Faultless s) (position skip : Nat) (text : List Char) :
    ∀ piece ∈ piecesFrom position skip text s, piece.Harmless := by
  induction s generalizing position skip text with
  | nil => exact harmless_textPiece text
  | cons c s ih =>
      cases skip with
      | succ skip => exact ih h.of_cons _ _ _
      | zero =>
          cases htag : tagAt? (c :: s) with
          | none =>
              rw [Terminal.piecesFrom, htag]
              exact ih h.of_cons _ _ _
          | some found =>
              have hfound := tagAt_eq_some.mp htag
              rw [piecesFrom_of_tag hfound]
              intro piece hpiece
              rcases List.mem_append.mp hpiece with hpiece | hpiece
              · rcases List.mem_append.mp hpiece with hpiece | hpiece
                · exact harmless_textPiece text piece hpiece
                · exact harmless_tagPieces (h.opening hfound) _ _ piece hpiece
              · exact ih h.of_cons _ _ _ piece hpiece

/-- What stands in front of the only closing tag is harmless. -/
theorem Faultless.piecesFrom_closed (h : Faultless s) (hskip : skip ≤ s.length)
    (hopen : '[' ∉ words) (hclose : ']' ∉ words) (position : Nat) (text : List Char) :
    ∃ ps place slashes, (∀ piece ∈ ps, piece.Harmless) ∧
      Terminal.piecesFrom position skip text (s ++ '[' :: ('/' :: words ++ [']'])) =
        ps ++ tagPieces place slashes ('/' :: words) := by
  have hunnested : ∀ d ∈ '/' :: words, d ≠ '[' ∧ d ≠ ']' := by
    intro d hd
    rcases List.mem_cons.mp hd with rfl | hd
    · decide
    · exact ⟨fun heq => hopen (heq ▸ hd), fun heq => hclose (heq ▸ hd)⟩
  induction s generalizing position skip text with
  | nil =>
      obtain rfl : skip = 0 := Nat.le_zero.mp hskip
      have htag := piecesFrom_tag ⟨'/', words, rfl, rfl⟩ hunnested position text []
      refine ⟨textPiece text, position, 0, harmless_textPiece text, ?_⟩
      rw [List.nil_append, htag]
      simp [Terminal.piecesFrom, tagPieces, textPiece]
  | cons c s ih =>
      cases skip with
      | succ skip => exact ih h.of_cons (by simpa using hskip) _ _
      | zero =>
          cases htag : tagAt? (c :: (s ++ '[' :: ('/' :: words ++ [']']))) with
          | none =>
              rw [List.cons_append, Terminal.piecesFrom, htag]
              exact ih h.of_cons (Nat.zero_le _) _ _
          | some found =>
              have hfound := tagAt_eq_some.mp htag
              rw [List.cons_append, piecesFrom_of_tag hfound]
              rcases TagAt.of_append (t := c :: s) hfound (by simpa using hclose) with
                hinside | ⟨hslashes, hbody⟩
              · -- The tag ends in front of the closing one.
                have hlength : found.1 + found.2.length + 1 ≤ s.length := by
                  obtain ⟨rest, hrest⟩ := hinside.begins
                  have hlength := congrArg List.length hrest
                  simp at hlength
                  omega
                obtain ⟨ps, place, slashes, hps, hpieces⟩ :=
                  ih h.of_cons hlength (position + 1) []
                refine ⟨textPiece text ++ tagPieces position found.1 found.2 ++ ps,
                  place, slashes, ?_, by rw [hpieces, List.append_assoc _ ps]⟩
                intro piece hpiece
                rcases List.mem_append.mp hpiece with hpiece | hpiece
                · rcases List.mem_append.mp hpiece with hpiece | hpiece
                  · exact harmless_textPiece text piece hpiece
                  · exact harmless_tagPieces (h.opening hinside) _ _ piece hpiece
                · exact hps piece hpiece
              · -- The text is the backslashes in front of the closing tag.
                have hlength : found.1 + found.2.length + 1 =
                    (s ++ '[' :: ('/' :: words ++ [']'])).length := by
                  have hlength := congrArg List.length hslashes
                  simp [hbody] at hlength ⊢
                  omega
                have hend :=
                  piecesFrom_skip (position + 1) [] (s ++ '[' :: ('/' :: words ++ [']'])) []
                rw [List.append_nil, ← hlength] at hend
                refine ⟨textPiece text, position, found.1, harmless_textPiece text, ?_⟩
                rw [hend, hbody]
                simp [Terminal.piecesFrom, textPiece]

/-! ## What is always shown -/

/-- A tag that is no closing tag opens its style. -/
theorem Opening.exists_openBehind (h : Opening body) (position : Nat) :
    ∃ t, ∀ open_, openBehind open_ position body = .ok (t :: open_) := by
  have hname : Uncolored (tagName body) := h.uncolored.of_infix (List.takeWhile_prefix _).isInfix
  obtain ⟨name, hname, -⟩ := hname.exists_normal
  refine ⟨⟨name, tagParameters? body⟩, fun open_ => ?_⟩
  unfold openBehind
  split
  · next rest hrest =>
      obtain ⟨more, rfl⟩ : '/' :: rest <+: body := hrest ▸ List.takeWhile_prefix _
      exact absurd rfl h.head_ne
  · rw [normalName, hname]
    rfl

/-- Harmless pieces are shown whenever the pieces behind them are, as they close nothing. -/
theorem exists_shownFrom_append (hps : ∀ piece ∈ ps, piece.Harmless) (qs : List Piece)
    (open_ : List OpenTag) (hqs : ∀ more, ∃ shown, shownFrom (more ++ open_) qs = .ok shown) :
    ∃ shown, shownFrom open_ (ps ++ qs) = .ok shown := by
  induction ps generalizing open_ with
  | nil => exact hqs []
  | cons piece ps ih =>
      have hrest : ∀ p ∈ ps, p.Harmless := fun p hp => hps p (List.mem_cons_of_mem piece hp)
      cases piece with
      | plain text =>
          obtain ⟨shown, hshown⟩ := ih hrest open_ hqs
          exact ⟨_, by rw [List.cons_append, shownFrom, hshown]; rfl⟩
      | tag position body =>
          have hbody : Opening body := hps _ List.mem_cons_self
          obtain ⟨t, ht⟩ := hbody.exists_openBehind position
          obtain ⟨shown, hshown⟩ := ih hrest (t :: open_) fun more => by
            simpa using hqs (more ++ [t])
          exact ⟨shown, by rw [List.cons_append, shownFrom, ht]; exact hshown⟩

/-- What stands behind the equals sign of an uncolored tag is uncolored. -/
theorem uncolored_words (h : Uncolored body) (hname : Uncolored name) :
    Uncolored (OpenTag.words ⟨name, tagParameters? body⟩) := by
  unfold OpenTag.words tagParameters?
  dsimp only
  split
  · next given hgiven =>
      split at hgiven
      · next sign more hbehind =>
          cases hgiven
          have hwithin : given <:+ body :=
            (List.suffix_cons sign given).trans (hbehind ▸ List.dropWhile_suffix _)
          exact hname.append_space (h.of_infix hwithin.isInfix)
      · cases hgiven
  · exact hname

/-- The style of a tag that cannot be at fault is found. -/
theorem drawn_cons_opening (h : Opening body) (position : Nat) (ps : List Piece) :
    drawn (.tag position body :: ps) = drawn ps := by
  have hname : Uncolored (tagName body) := h.uncolored.of_infix (List.takeWhile_prefix _).isInfix
  obtain ⟨name, hname, huncolored⟩ := hname.exists_normal
  obtain ⟨found, hfound, -⟩ := (uncolored_words h.uncolored huncolored).ends_ofText
  have hhead : (body.head? != some '/') = true := by simpa using h.head_ne
  rw [drawn, if_pos hhead, normalName, hname]
  simp only [Except.mapError, bind, Except.bind]
  rw [hfound]

/-- The styles of harmless pieces are found. -/
theorem drawn_append (hps : ∀ piece ∈ ps, piece.Harmless) (qs : List Piece) :
    drawn (ps ++ qs) = drawn qs := by
  induction ps with
  | nil => rfl
  | cons piece ps ih =>
      have hrest : drawn (ps ++ qs) = drawn qs :=
        ih fun p hp => hps p (List.mem_cons_of_mem piece hp)
      cases piece with
      | plain text => exact hrest
      | tag position body =>
          rw [List.cons_append, drawn_cons_opening (hps _ List.mem_cons_self), hrest]

/-- Closing tags are not drawn. -/
theorem drawn_tagPieces_closing (position slashes : Nat) :
    drawn (tagPieces position slashes ('/' :: words)) = .ok () := by
  unfold tagPieces
  by_cases hfew : slashes < 2 <;> by_cases heven : slashes % 2 = 0 <;> simp [hfew, heven, drawn]

/-- A text is shown when its pieces are and their styles are found. -/
theorem plain_of_pieces {shown : List Char}
    (hshown : shownFrom [] (piecesFrom 0 0 [] s) = .ok shown)
    (hdrawn : drawn (piecesFrom 0 0 [] s) = .ok ()) : plain s = .ok shown := by
  rw [plain, hshown, hdrawn]
  rfl

/-- **A text without closing tags and colors of three parts is always shown.** -/
theorem exists_plain (h : Faultless s) : ∃ shown, plain s = .ok shown := by
  have hps := h.piecesFrom 0 0 []
  obtain ⟨shown, hshown⟩ := exists_shownFrom_append hps [] [] fun more => ⟨[], rfl⟩
  have hdrawn := drawn_append hps []
  rw [List.append_nil] at hshown hdrawn
  exact ⟨shown, plain_of_pieces hshown hdrawn⟩

/-- The words of a style as they stand in a tag. -/
structure StyleWords (words : List Char) : Prop where
  starts : ∃ c more, words = c :: more ∧ startsTag c = true ∧ c ≠ '/' ∧ c ≠ '@'
  flat : words.all (fun d => d != '[' && d != ']' && d != '=') = true
  stripped : strip words = words
  uncolored : Uncolored words
  settled : Style.normal words = .ok words

namespace StyleWords

theorem bold : StyleWords "bold".toList :=
  ⟨⟨_, _, rfl, by decide⟩, by decide, by decide, by decide, by rfl⟩

theorem failure : StyleWords "bold red".toList :=
  ⟨⟨_, _, rfl, by decide⟩, by decide, by decide, by decide,
    colorWord_red.normal_bold (by decide) (by decide)⟩

theorem success : StyleWords "bold green".toList :=
  ⟨⟨_, _, rfl, by decide⟩, by decide, by decide, by decide,
    colorWord_green.normal_bold (by decide) (by decide)⟩

theorem unnested (h : StyleWords words) :
    ∀ d ∈ words, d ≠ '[' ∧ d ≠ ']' ∧ d ≠ '=' := by
  intro d hd
  simpa [and_assoc] using List.all_eq_true.mp h.flat d hd

theorem tagName_eq (h : StyleWords words) : tagName words = words :=
  List.takeWhile_eq_self_iff.mpr fun d hd => by simpa using (h.unnested d hd).2.2

theorem tagName_closing (h : StyleWords words) : tagName ('/' :: words) = '/' :: words := by
  rw [tagName, List.takeWhile_cons_of_pos (by decide)]
  exact congrArg _ h.tagName_eq

theorem opening (h : StyleWords words) : Opening words := by
  obtain ⟨c, more, rfl, -, hc, -⟩ := h.starts
  exact ⟨by simpa using hc, h.uncolored⟩

theorem normalName_eq (h : StyleWords words) : normalName words = .ok words := by
  rw [normalName, h.settled]
  rfl

theorem openBehind_opening (h : StyleWords words) (open_ : List OpenTag) (position : Nat) :
    openBehind open_ position words = .ok (⟨words, tagParameters? words⟩ :: open_) := by
  unfold openBehind
  rw [h.tagName_eq]
  split
  · exact absurd rfl h.opening.head_ne
  · rw [h.normalName_eq]
    rfl

/-- A tag of a style is no handler, so that it is closed without being asked for parameters. -/
theorem closed_eq (h : StyleWords words) (hname : t₀.name = words) (more : List OpenTag) :
    closed t₀ more = .ok more := by
  obtain ⟨c, rest, rfl, -, -, hc⟩ := h.starts
  have hreadable : t₀.isUnreadable = false := by simp [OpenTag.isUnreadable, hname, hc]
  rw [closed, hreadable]
  rfl

theorem openBehind_closing (h : StyleWords words) {more : List OpenTag}
    (hopen : withoutTag? words open_ = some (t₀, more)) (hname : t₀.name = words)
    (position : Nat) :
    openBehind open_ position ('/' :: words) = .ok more := by
  obtain ⟨c, rest, hwords, -⟩ := h.starts
  have hne : words.isEmpty = false := by simp [hwords]
  unfold openBehind
  simp only [h.tagName_closing, h.stripped, hne, h.normalName_eq, bind, Except.bind,
    Bool.false_eq_true, if_false, hopen]
  exact h.closed_eq hname more

end StyleWords

theorem exists_withoutTag (more back : List OpenTag) (hname : t₀.name = name) :
    ∃ t rest, t.name = name ∧ withoutTag? name (more ++ t₀ :: back) = some (t, rest) := by
  induction more with
  | nil => exact ⟨t₀, back, hname, by rw [List.nil_append, withoutTag?, if_pos hname]⟩
  | cons open_ more ih =>
      obtain ⟨t, rest, ht, hrest⟩ := ih
      by_cases hopen : open_.name = name
      · exact ⟨open_, more ++ t₀ :: back, hopen,
          by rw [List.cons_append, withoutTag?, if_pos hopen]⟩
      · refine ⟨t, open_ :: rest, ht, ?_⟩
        rw [List.cons_append, withoutTag?, if_neg hopen, hrest]
        rfl

/-- A text between tags of one style. -/
def tagged (words text : List Char) : List Char :=
  '[' :: words ++ ']' :: text ++ '[' :: '/' :: words ++ [']']

/-- A text without brackets and backslashes, and a text between tags of one style behind it. -/
theorem piecesFrom_tagged (hfront : ∀ c ∈ front, c ≠ '[' ∧ c ≠ '\\')
    (hwords : StyleWords words) (text : List Char) :
    piecesFrom 0 0 [] (front ++ tagged words text) =
      textPiece front ++ .tag front.length words ::
        piecesFrom (front.length + words.length + 2) 0 []
          (text ++ '[' :: ('/' :: words ++ [']'])) := by
  have hrest : front ++ tagged words text =
      front ++ '[' :: (words ++ ']' :: (text ++ '[' :: ('/' :: words ++ [']']))) := by
    simp [tagged]
  have hstarts : ∃ c more, words = c :: more ∧ startsTag c = true := by
    obtain ⟨c, more, hc, hstarts, -⟩ := hwords.starts
    exact ⟨c, more, hc, hstarts⟩
  have huntagged (t : List Char) (slashes : Nat) (body : List Char) (ht : t <:+ front)
      (hne : t ≠ []) (back : List Char) : ¬ TagAt slashes body (t ++ back) := by
    rintro ⟨-, -, rest, hbegins⟩
    obtain ⟨c, more, rfl⟩ := List.exists_cons_of_ne_nil hne
    obtain ⟨hbracket, hslash⟩ := hfront c (ht.mem List.mem_cons_self)
    cases slashes with
    | zero => exact hbracket (List.cons_eq_cons.mp hbegins).1
    | succ n => exact hslash (List.cons_eq_cons.mp hbegins).1
  rw [hrest,
    piecesFrom_untagged front _ fun t slashes body ht hne => huntagged t slashes body ht hne _,
    piecesFrom_tag hstarts fun d hd =>
      ⟨(hwords.unnested d hd).1, (hwords.unnested d hd).2.1⟩]
  simp

/-- While a style is open, its closing tag is shown, with backslashes in front of it or without. -/
theorem exists_shownFrom_closing (hwords : StyleWords words) (hname : t₀.name = words)
    (more back : List OpenTag) (position slashes : Nat) :
    ∃ shown, shownFrom (more ++ t₀ :: back) (tagPieces position slashes ('/' :: words)) =
      .ok shown := by
  obtain ⟨t, rest, ht, hrest⟩ := exists_withoutTag more back hname
  have hclosing := hwords.openBehind_closing hrest ht (position + slashes)
  unfold tagPieces
  by_cases hfew : slashes < 2 <;> by_cases heven : slashes % 2 = 0 <;>
    simp [hfew, heven, shownFrom, hclosing, Except.map]

/-- **Between tags of one style a text without closing tags and colors of three parts is always
shown.** -/
theorem exists_plain_tagged (hfront : ∀ c ∈ front, c ≠ '[' ∧ c ≠ '\\')
    (hwords : StyleWords words) (h : Faultless s) :
    ∃ shown, plain (front ++ tagged words s) = .ok shown := by
  have hopen : '[' ∉ words := fun hmem => (hwords.unnested _ hmem).1 rfl
  have hclose : ']' ∉ words := fun hmem => (hwords.unnested _ hmem).2.1 rfl
  obtain ⟨ps, place, slashes, hps, hpieces⟩ := h.piecesFrom_closed (Nat.zero_le _) hopen hclose
    (front.length + words.length + 2) []
  obtain ⟨t, ht, hopening⟩ : ∃ t : OpenTag, t.name = words ∧
      ∀ open_, openBehind open_ front.length words = .ok (t :: open_) :=
    ⟨_, rfl, fun open_ => hwords.openBehind_opening open_ front.length⟩
  have hfrontPieces := harmless_textPiece front
  have hshown : ∃ shown, shownFrom [] (piecesFrom 0 0 [] (front ++ tagged words s)) =
      .ok shown := by
    rw [piecesFrom_tagged hfront hwords, hpieces]
    refine exists_shownFrom_append hfrontPieces _ [] fun more => ?_
    rw [shownFrom, hopening]
    exact exists_shownFrom_append hps _ _ fun others =>
      exists_shownFrom_closing hwords ht others _ _ _
  have hdrawn : drawn (piecesFrom 0 0 [] (front ++ tagged words s)) = .ok () := by
    rw [piecesFrom_tagged hfront hwords, hpieces, drawn_append hfrontPieces, drawn_cons_opening
      hwords.opening, drawn_append hps, drawn_tagPieces_closing]
  obtain ⟨shown, hshown⟩ := hshown
  exact ⟨shown, plain_of_pieces hshown hdrawn⟩

/-- While no tag is open, a closing tag with a name closes nothing. -/
theorem openBehind_unmatched (hflat : '=' ∉ words) (hname : (strip words).isEmpty = false)
    (h : Uncolored words) (position : Nat) :
    openBehind [] position ('/' :: words) =
      .error (.unmatched ('[' :: '/' :: words ++ [']']) position) := by
  have htag : tagName ('/' :: words) = '/' :: words :=
    List.takeWhile_eq_self_iff.mpr fun d hd => by
      rcases List.mem_cons.mp hd with rfl | hd
      · decide
      · have hne : d ≠ '=' := fun heq => hflat (heq ▸ hd)
        simpa using hne
  obtain ⟨name, hnormal, -⟩ := h.strip.exists_normal
  unfold openBehind
  simp only [htag, hname, normalName, hnormal, Except.mapError, bind, Except.bind, withoutTag?,
    Bool.false_eq_true, if_false]

/-! ## What is shown as it is -/

/-- A text that markup shows character for character. -/
structure Inert (s : List Char) : Prop where
  /-- No tag begins in it. -/
  untagged : ∀ t, t <:+ s → tagAt? t = none
  /-- No backslash stands in front of a bracket. -/
  unslashed : ¬ ['\\', '['] <:+: s
  /-- What stands between two colons is the name of no emoji. -/
  unnamed : ∀ name, ':' :: (name ++ [':']) <:+: s →
    (∀ c ∈ name, c ≠ ':' ∧ isBlank c = false) →
    emoji? (toSmall (emojiForm name).1) = none
  /-- All of it reaches the terminal. -/
  heard : ∀ c ∈ s, isSilent c = false

theorem unescaped_of_unslashed (h : ¬ ['\\', '['] <:+: s) : unescaped s = s := by
  induction s with
  | nil => rfl
  | cons c s ih =>
      have hs : unescaped s = s :=
        ih fun hwithin => h (hwithin.trans (List.suffix_cons c s).isInfix)
      unfold unescaped
      split
      · cases ‹c :: s = []›
      · next rest heq => exact absurd (heq ▸ ⟨[], rest, rfl⟩) h
      · next heq =>
          cases heq
          rw [hs]

theorem emojiOrName_of_unnamed (h : emoji? (toSmall (emojiForm name).1) = none) :
    emojiOrName name = ':' :: name ++ [':'] := by
  unfold emojiOrName
  split
  next stem form hform =>
    have hnone : emoji? (toSmall stem) = none := by
      rw [hform] at h
      exact h
    rw [hnone]

/-- Behind an open name as well, a text without names of emoji stays as it is. -/
theorem emojifyBehind_of_unnamed
    (h : ∀ name, ':' :: (name ++ [':']) <:+: s →
      (∀ c ∈ name, c ≠ ':' ∧ isBlank c = false) → emoji? (toSmall (emojiForm name).1) = none) :
    (t <:+ s → emojifyBehind none t = t) ∧
      ∀ name, ':' :: (name ++ t) <:+ s → (∀ c ∈ name, c ≠ ':' ∧ isBlank c = false) →
        emojifyBehind (some name) t = ':' :: (name ++ t) := by
  induction t with
  | nil => exact ⟨fun _ => rfl, fun name _ _ => by simp [emojifyBehind]⟩
  | cons c t ih =>
      obtain ⟨ihNone, ihSome⟩ := ih
      constructor
      · intro ht
        have htail : t <:+ s := (List.suffix_cons c t).trans ht
        rw [emojifyBehind]
        split
        · next hc =>
            subst hc
            exact ihSome [] ht (by simp)
        · rw [ihNone htail]
      · intro name hname hplain
        have htail : t <:+ s := by
          refine List.IsSuffix.trans ⟨':' :: (name ++ [c]), ?_⟩ hname
          simp
        rw [emojifyBehind]
        split
        · next hc =>
            -- The name ends here, and it is none of an emoji.
            have hwithin : ':' :: (name ++ [':']) <:+: s := by
              refine List.IsInfix.trans ⟨[], t, ?_⟩ hname.isInfix
              simp [hc]
            rw [emojiOrName_of_unnamed (h name hwithin hplain), ihNone htail]
            simp [hc]
        · next hc =>
            split
            · rw [ihNone htail]
              simp
            · next hblank =>
                rw [ihSome (name ++ [c]) (by simpa using hname)]
                · simp
                · intro d hd
                  rcases List.mem_append.mp hd with hd | hd
                  · exact hplain d hd
                  · obtain rfl := List.mem_singleton.mp hd
                    exact ⟨hc, by simpa using hblank⟩

namespace Inert

/-- What is written of an inert piece is the piece. -/
theorem audible_eq (h : Inert s) : audible (emojify (unescaped s)) = s := by
  rw [unescaped_of_unslashed h.unslashed, emojify,
    (emojifyBehind_of_unnamed h.unnamed).1 List.suffix_rfl]
  exact List.filter_eq_self.mpr fun c hc => by simp [h.heard c hc]

theorem shownFrom_textPiece (h : Inert s) (open_ : List OpenTag) (ps : List Piece) :
    shownFrom open_ (textPiece s ++ ps) = (shownFrom open_ ps).map (s ++ ·) := by
  unfold textPiece
  split
  · next hempty =>
      obtain rfl := List.isEmpty_iff.mp hempty
      rw [List.nil_append]
      cases shownFrom open_ ps <;> rfl
  · rw [List.singleton_append, shownFrom, h.audible_eq]

theorem not_tagAt (h : Inert s) (ht : t <:+ s) : ¬ TagAt slashes body t := by
  intro htag
  have hnone := h.untagged t ht
  rw [tagAt_eq_some.mpr htag] at hnone
  cases hnone

/-- **An inert text is shown as it is.** -/
theorem plain_eq (h : Inert s) : plain s = .ok s := by
  have hpieces := piecesFrom_untagged s []
    (fun t _ _ ht _ => by rw [List.append_nil]; exact h.not_tagAt ht) 0 []
  rw [List.append_nil, List.nil_append, piecesFrom] at hpieces
  have hshown := h.shownFrom_textPiece [] []
  have hdrawn := drawn_append (harmless_textPiece s) []
  rw [List.append_nil] at hshown hdrawn
  refine plain_of_pieces ?_ (by rw [hpieces, hdrawn]; rfl)
  rw [hpieces, hshown]
  simp [shownFrom, Except.map]

/-- **An inert text is shown as it is between tags of one style**, unless a backslash at its end
stands in front of the closing tag. -/
theorem plain_tagged_eq (h : Inert s) (hlast : s.getLast? ≠ some '\\')
    (hfront : ∀ c ∈ front, c ≠ '[' ∧ c ≠ '\\') (hinert : Inert front)
    (hwords : StyleWords words) :
    plain (front ++ tagged words s) = .ok (front ++ s) := by
  have hopen : '[' ∉ words := fun hmem => (hwords.unnested _ hmem).1 rfl
  have hclose : ']' ∉ words := fun hmem => (hwords.unnested _ hmem).2.1 rfl
  have huntagged (t : List Char) (slashes : Nat) (body : List Char) (ht : t <:+ s)
    (hne : t ≠ []) :
      ¬ TagAt slashes body (t ++ '[' :: ('/' :: words ++ [']'])) := by
    intro htag
    rcases htag.of_append (by simpa using hclose) with htag | ⟨hslashes, -⟩
    · exact h.not_tagAt ht htag
    · refine hlast ?_
      obtain ⟨before, rfl⟩ := ht
      rw [List.getLast?_append_of_ne_nil _ hne, hslashes]
      cases slashes with
      | zero => exact absurd hslashes hne
      | succ n => rw [List.replicate_succ', List.getLast?_concat]
  have hunnested : ∀ d ∈ '/' :: words, d ≠ '[' ∧ d ≠ ']' := by
    intro d hd
    rcases List.mem_cons.mp hd with rfl | hd
    · decide
    · exact ⟨(hwords.unnested d hd).1, (hwords.unnested d hd).2.1⟩
  have hclosing (position : Nat) :
      openBehind [⟨words, tagParameters? words⟩] position ('/' :: words) = .ok [] :=
    hwords.openBehind_closing (by rw [withoutTag?, if_pos rfl]) rfl position
  have hpieces : piecesFrom 0 0 [] (front ++ tagged words s) =
      textPiece front ++ .tag front.length words :: (textPiece s ++
        [.tag (front.length + words.length + 2 + s.length) ('/' :: words)]) := by
    rw [piecesFrom_tagged hfront hwords, piecesFrom_untagged s _ huntagged, List.nil_append,
      piecesFrom_tag ⟨'/', words, rfl, rfl⟩ hunnested, piecesFrom]
    rfl
  refine plain_of_pieces ?_ ?_
  · rw [hpieces, hinert.shownFrom_textPiece, shownFrom, hwords.openBehind_opening]
    dsimp only
    rw [h.shownFrom_textPiece, shownFrom, hclosing]
    simp [shownFrom, Except.map]
  · rw [hpieces, drawn_append (harmless_textPiece front), drawn_cons_opening hwords.opening,
      drawn_append (harmless_textPiece s)]
    rfl

end Inert

end Terminal
end YamlTidy
