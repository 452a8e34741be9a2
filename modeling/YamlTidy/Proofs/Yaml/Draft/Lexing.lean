import YamlTidy.Proofs.Yaml.Block.Lexing
import YamlTidy.Proofs.Yaml.Draft.Steps

/-!
# The tokens of drafts

`Draft.tokens` are the tokens of a draft with the remarks that stand in front of them and behind
them: those below a leaf behind it, those below a key in front of the first token of its value.  A
draft is read as these where it stands right of the block collection around it and what follows does
not (`Lexer.reaches_draft`, by induction on the draft), and so are sheets with markers between them
(`lex_sheets`).
-/

namespace YamlTidy
namespace Yaml

open Text

/-- A kind of token with the remarks in front of it and those behind it. -/
structure Attended where
  before : List Remark := []
  kind : TokenKind
  behind : List Remark := []

namespace Attended

/-- What is read of a token with its remarks. -/
def pieces (a : Attended) : List Piece :=
  a.before.map .remark ++ .token a.kind :: a.behind.map .remark

/-- Tokens with remarks in front of the first of them. -/
def under (rs : List Remark) : List Attended → List Attended
  | [] => []
  | a :: more => { a with before := rs ++ a.before } :: more

/-- A leaf with the remarks behind it. -/
abbrev leaf (x : Leaf) (below : List Remark) : Attended :=
  { kind := .scalar x.content x.style [], behind := below }

end Attended

/-- What is read of tokens with their remarks. -/
def Attended.allPieces (ts : List Attended) : List Piece :=
  ts.flatMap Attended.pieces

namespace Attended

@[simp] theorem allPieces_nil : allPieces [] = [] :=
  rfl

@[simp] theorem allPieces_cons (a : Attended) (ts : List Attended) :
    allPieces (a :: ts) = a.pieces ++ allPieces ts :=
  rfl

@[simp] theorem allPieces_append (ts us : List Attended) :
    allPieces (ts ++ us) = allPieces ts ++ allPieces us :=
  List.flatMap_append

@[simp] theorem pieces_bare (kind : TokenKind) : pieces { kind } = [.token kind] :=
  rfl

theorem allPieces_under (rs : List Remark) {ts : List Attended} (h : ts ≠ []) :
    allPieces (under rs ts) = rs.map .remark ++ allPieces ts := by
  cases ts with
  | nil => exact absurd rfl h
  | cons a more => simp [under, pieces]

end Attended

namespace Draft

/-- The tokens of a key and its colon. -/
def keyTokens (key : Key) : List Attended :=
  [{ kind := .key }, { kind := .scalar key.chars .plain [] }, { kind := .value }]

mutual

/-- The tokens of a draft. -/
def tokens : Draft → List Attended
  | leaf x _ below => [.leaf x below]
  | list items => { kind := .blockSequenceStart } :: (items.tokens ++ [{ kind := .blockEnd }])
  | table entries =>
      { kind := .blockMappingStart } :: (entries.tokens ++ [{ kind := .blockEnd }])

/-- The tokens of items. -/
def Items.tokens : Items → List Attended
  | .last _ d => { kind := .blockEntry } :: d.tokens
  | .cons _ d more => { kind := .blockEntry } :: (d.tokens ++ more.tokens)

/-- The tokens of entries. -/
def Entries.tokens : Entries → List Attended
  | .last key v => keyTokens key ++ v.tokens
  | .cons key v more => keyTokens key ++ (v.tokens ++ more.tokens)

/-- The tokens of what stands under a key.  A list in the column of its key has none for its
beginning and its end. -/
def Member.tokens : Member → List Attended
  | .beside _ x _ below => [.leaf x below]
  | .leaf _ _ above x _ below => Attended.under above [.leaf x below]
  | .list _ 0 above items => Attended.under above items.tokens
  | .list _ (_ + 1) above items =>
      Attended.under above
        ({ kind := .blockSequenceStart } :: (items.tokens ++ [{ kind := .blockEnd }]))
  | .table _ _ above entries =>
      Attended.under above
        ({ kind := .blockMappingStart } :: (entries.tokens ++ [{ kind := .blockEnd }]))

end

theorem items_tokens_ne_nil (items : Items) : items.tokens ≠ [] := by
  cases items <;> simp [Items.tokens]

theorem tokens_ne_nil (d : Draft) : d.tokens ≠ [] := by
  cases d <;> simp [tokens]

/-! ## How texts begin -/

theorem startsRow_items (items : Items) (c : Nat) (s : List Char) :
    Cursor.StartsRow (items.text c ++ s) := by
  cases items with
  | last gap d =>
      rw [Items.text, List.cons_append, List.append_assoc]
      exact .dash rfl
  | cons gap d more =>
      rw [Items.text, List.cons_append, List.cons_append, List.append_assoc, List.append_assoc]
      exact .dash rfl

theorem startsRow_entries (entries : Entries) (c : Nat) (s : List Char) :
    Cursor.StartsRow (entries.text c ++ s) := by
  cases entries with
  | last key v =>
      rw [Entries.text, List.append_assoc]
      exact Lexer.startsRow_phrase key.toPhrase _
  | cons key v more =>
      rw [Entries.text, List.append_assoc, List.append_assoc]
      exact Lexer.startsRow_phrase key.toPhrase _

theorem startsRow_text (d : Draft) (c : Nat) (s : List Char) :
    Cursor.StartsRow (d.text c ++ s) := by
  cases d with
  | leaf x e below =>
      rw [text, List.append_assoc]
      exact Lexer.startsRow_leaf x _
  | list items => exact startsRow_items items c s
  | table entries => exact startsRow_entries entries c s

theorem endsWord_member (v : Member) (c : Nat) (s : List Char) :
    endsWord ((v.text c ++ s).headD '\x00') = true := by
  cases v with
  | beside gap x e below => rfl
  | leaf colon _ _ _ _ _ | list colon _ _ _ | table colon _ _ _ =>
      rw [Member.text, List.append_assoc]
      exact endsWord_rowEnd colon _

end Draft

theorem Remark.length_le_texts (rs : List Remark) : rs.length ≤ (texts rs).length := by
  induction rs with
  | nil => exact Nat.le_refl 0
  | cons r rs ih =>
      rw [texts] at ih ⊢
      rw [List.flatMap_cons, List.length_append, List.length_cons, text, body,
        List.length_append, List.length_cons]
      omega

namespace Lexer

/-! ## Reading to the next row -/

/-- What the pieces tell is read down to the row with which `s` begins, in at most `size` steps, and
then the given block collections are open. -/
def Reaches (l : Lexer) (ps : List Piece) (stack : Int × List Int) (s : List Char)
    (size : Nat) : Prop :=
  ∃ m n, l.Passes m n ps ∧ m.AtRow s ∧ m.stack = stack ∧ n ≤ size

theorem Passes.andReaches {l m : Lexer} {n size total : Nat} {front back : List Piece}
    {stack : Int × List Int} {s : List Char} (h : l.Passes m n front)
    (h' : m.Reaches back stack s size) (htotal : n + size ≤ total) :
    l.Reaches (front ++ back) stack s total := by
  obtain ⟨k, n', hback, hk, hstack, hn'⟩ := h'
  exact ⟨k, n + n', h.trans hback, hk, hstack, by omega⟩

/-- A draft is read as its tokens right of the block collection around it. -/
def ReachesDraft (d : Draft) : Prop :=
  ∀ {c : Nat} {l : Lexer} {s : List Char},
    l.AtRow (List.replicate c ' ' ++ (d.text c ++ s)) → l.indent < c → -1 ≤ l.indent →
      Cursor.Follows l.indent s →
        l.Reaches (Attended.allPieces d.tokens) l.stack s (d.text c).length

/-- Items are read as their tokens.  They open a collection unless one is open in their column. -/
def ReachesItems (items : Draft.Items) : Prop :=
  ∀ {c : Nat} {l : Lexer} {s : List Char},
    l.AtRow (List.replicate c ' ' ++ (items.text c ++ s)) → l.indent ≤ c →
      Cursor.Follows c s →
      l.Reaches ((opening .blockSequenceStart c l.stack).map .token ++
        Attended.allPieces items.tokens) (openStack c l.stack) s (items.text c).length

/-- Entries are read as their tokens.  They open a collection unless one is open in their column. -/
def ReachesEntries (entries : Draft.Entries) : Prop :=
  ∀ {c : Nat} {l : Lexer} {s : List Char},
    l.AtRow (List.replicate c ' ' ++ (entries.text c ++ s)) → l.indent ≤ c →
      Cursor.Follows c s →
      l.Reaches ((opening .blockMappingStart c l.stack).map .token ++
        Attended.allPieces entries.tokens) (openStack c l.stack) s (entries.text c).length

/-- What stands under a key is read as its tokens from behind the colon on. -/
def ReachesMember (v : Draft.Member) : Prop :=
  ∀ {c : Nat} {l : Lexer} {s : List Char}, l.Calm → l.cursor.rest = v.text c ++ s →
    l.indent = c → c < l.cursor.column → Cursor.Follows c s →
      l.Reaches (Attended.allPieces v.tokens) l.stack s (v.text c).length

/-- A leaf with the remarks below it. -/
theorem reaches_leaf {l : Lexer} {x : Leaf} {e : RowEnd} {k size : Nat} {s : List Char}
    (below : List Remark) (hl : l.Calm)
    (hrest : l.cursor.rest =
      List.replicate k ' ' ++ (x.chars ++ (e.chars ++ (Remark.texts below ++ s))))
    (hs : Cursor.Follows l.indent s) (hcolumn : l.indent < l.cursor.column + k)
    (hsize : (x.chars ++ (e.chars ++ Remark.texts below)).length ≤ size) :
    l.Reaches (Attended.allPieces [.leaf x below]) l.stack s size := by
  obtain ⟨m, hpasses, hm, hstack⟩ := passes_leaf below hl hrest hs hcolumn
  have hend := e.length_chars
  have hlength := Remark.length_le_texts below
  rw [List.length_append, List.length_append] at hsize
  exact ⟨m, _, by simpa [Attended.pieces] using hpasses, hm, hstack, by omega⟩

theorem reachesDraft_leaf (x : Leaf) (e : RowEnd) (below : List Remark) :
    ReachesDraft (.leaf x e below) := by
  intro c l s hl hindent _ hs
  rw [Draft.text, List.append_assoc, List.append_assoc] at hl
  obtain ⟨hrest, hcolumn⟩ := hl.content (startsRow_leaf x _).opens
  exact reaches_leaf (k := 0) below hl.toCalm hrest hs (by omega) (Nat.le_refl _)

/-- An item, down to a row that is not indented deeper. -/
theorem reaches_item {d : Draft} (hd : ReachesDraft d) {gap c : Nat} {l : Lexer} {s : List Char}
    (hl : l.AtRow (List.replicate c ' ' ++
      ('-' :: (List.replicate (gap + 1) ' ' ++ d.text (c + gap + 2)) ++ s)))
    (hindent : l.indent ≤ c) (hs : Cursor.Follows c s) :
    l.Reaches ((opening .blockSequenceStart c l.stack).map .token ++
        Attended.allPieces ({ kind := .blockEntry } :: d.tokens))
      (openStack c l.stack) s
      ('-' :: (List.replicate (gap + 1) ' ' ++ d.text (c + gap + 2))).length := by
  obtain ⟨hrest, hcolumn⟩ := hl.content (.cons _ (by decide))
  rw [List.cons_append, List.append_assoc] at hrest
  obtain ⟨l₁, hdash, hcalm₁, hallowed₁, hrest₁, hcolumn₁, hstack₁⟩ :=
    takes_dash hl.toCalm
    hl.keyAllowed hrest rfl (by omega)
  rw [hcolumn] at hdash hcolumn₁ hstack₁
  obtain ⟨l₂, hspaces, hl₂, hstack₂⟩ := takes_spaces hcalm₁ hallowed₁ hrest₁
    (d.startsRow_text _ s).opens
  rw [hcolumn₁, show c + 1 + (gap + 1) = c + gap + 2 by omega] at hl₂
  have hindent₂ : l₂.indent = c := by
    have hfst := openStack_fst (s := l.stack) hindent
    rwa [← hstack₁, ← hstack₂] at hfst
  have hdraft := hd hl₂ (by omega) (by omega) (by rw [hindent₂]; exact hs)
  rw [hstack₂, hstack₁] at hdraft
  have hlength : 1 + 0 + (d.text (c + gap + 2)).length ≤
      ('-' :: (List.replicate (gap + 1) ' ' ++ d.text (c + gap + 2))).length := by
    rw [List.length_cons, List.length_append]
    omega
  have hall := (hdash.passes.trans hspaces.passes).andReaches hdraft hlength
  simpa using hall

/-- An entry, down to a row that is not indented deeper. -/
theorem reaches_entry {key : Key} {v : Draft.Member} (hv : ReachesMember v) {c : Nat} {l : Lexer}
    {s : List Char}
    (hl : l.AtRow (List.replicate c ' ' ++ (key.chars ++ ':' :: v.text c ++ s)))
    (hindent : l.indent ≤ c) (hs : Cursor.Follows c s) :
    l.Reaches ((opening .blockMappingStart c l.stack).map .token ++
        Attended.allPieces (Draft.keyTokens key ++ v.tokens))
      (openStack c l.stack) s (key.chars ++ ':' :: v.text c).length := by
  rw [List.append_assoc] at hl
  obtain ⟨hrest, hcolumn⟩ := hl.content (startsRow_phrase key.toPhrase _).opens
  obtain ⟨l₁, hkey, hcalm₁, hrest₁, hcolumn₁, hstack₁⟩ :=
    takes_key hl.toCalm hl.keyAllowed hrest
    (Draft.endsWord_member v c s) (by omega)
  rw [hcolumn] at hkey hcolumn₁ hstack₁
  have hindent₁ : l₁.indent = c := by
    have hfst := openStack_fst (s := l.stack) hindent
    rwa [← hstack₁] at hfst
  have hmember := hv hcalm₁ hrest₁ hindent₁ hcolumn₁ hs
  rw [hstack₁] at hmember
  have hkeyLength : 0 < key.chars.length := List.length_pos_iff.mpr key.nonempty
  have hlength : 2 + (v.text c).length ≤ (key.chars ++ ':' :: v.text c).length := by
    rw [List.length_append, List.length_cons]
    omega
  have hall := hkey.passes.andReaches hmember hlength
  simpa [Draft.keyTokens, Attended.pieces] using hall

/-- Where a block collection is open already, none is opened. -/
theorem Reaches.within {l l₁ : Lexer} {kind : TokenKind} {c n : Nat} {front back : List Piece}
    {s : List Char} {size total : Nat} (hindent : l.indent ≤ c) (h : l.Passes l₁ n front)
    (hstack : l₁.stack = openStack c l.stack)
    (hmore : l₁.Reaches ((opening kind c l₁.stack).map .token ++ back)
      (openStack c l₁.stack) s size)
    (htotal : n + size ≤ total) : l.Reaches (front ++ back) (openStack c l.stack) s total := by
  rw [hstack, opening_openStack hindent, openStack_openStack hindent] at hmore
  exact h.andReaches hmore htotal

/-- A block collection right of the innermost one is closed by what follows. -/
theorem Reaches.closed {l : Lexer} {kind : TokenKind} {c size : Nat} {ts : List Attended}
    {s : List Char}
    (h : l.Reaches ((opening kind c l.stack).map .token ++ Attended.allPieces ts)
      (openStack c l.stack) s size)
    (hindent : l.indent < c) (hleft : -1 ≤ l.indent) (hs : Cursor.Follows l.indent s) :
    l.Reaches (Attended.allPieces ({ kind } :: (ts ++ [{ kind := .blockEnd }]))) l.stack s
      size := by
  have hopen : l.stack.1 < (c : Int) := hindent
  rw [opening, if_pos hopen, openStack, if_pos hopen] at h
  obtain ⟨m, n, hpasses, hm, hstack, hn⟩ := h
  have hindentm : m.indent = c := congrArg Prod.fst hstack
  obtain ⟨k, hclose, hk, hstackk⟩ := takes_close hm hs ⟨hleft, Int.le_refl _⟩ (by omega)
    (congrArg Prod.snd hstack)
  refine ⟨k, n + 0, ?_, hk, hstackk, hn⟩
  simpa using hpasses.trans hclose.passes

theorem reachesDraft_list {items : Draft.Items} (h : ReachesItems items) :
    ReachesDraft (.list items) := fun hl hindent hleft hs =>
  (h hl (Int.le_of_lt hindent) (hs.weaken (Int.le_of_lt hindent))).closed hindent hleft hs

theorem reachesDraft_table {entries : Draft.Entries} (h : ReachesEntries entries) :
    ReachesDraft (.table entries) := fun hl hindent hleft hs =>
  (h hl (Int.le_of_lt hindent) (hs.weaken (Int.le_of_lt hindent))).closed hindent hleft hs

/-- What stands in the rows below a key, from behind the colon on: the remarks below the key, then
what is read from the next row on. -/
theorem reaches_under {l : Lexer} {colon : RowEnd} {c n total : Nat} {above : List Remark}
    {ts : List Attended} {text s : List Char} (hl : l.Calm)
    (hrest : l.cursor.rest =
      colon.chars ++ (Remark.texts above ++ (List.replicate c ' ' ++ (text ++ s))))
    (hopens : Cursor.Opens (text ++ s)) (hts : ts ≠ [])
    (h : ∀ m : Lexer, m.AtRow (List.replicate c ' ' ++ (text ++ s)) → m.stack = l.stack →
      m.indent = l.indent → m.Reaches (Attended.allPieces ts) l.stack s n)
    (htotal : (colon.chars ++ Remark.texts above).length + n ≤ total) :
    l.Reaches (Attended.allPieces (Attended.under above ts)) l.stack s total := by
  obtain ⟨m, hend, hm, hstack⟩ := passes_rowEnd above (hl.idle _) hrest hopens
  have hlength := Remark.length_le_texts above
  rw [List.length_append] at htotal
  rw [Attended.allPieces_under above hts]
  exact hend.andReaches (h m hm hstack (congrArg Prod.fst hstack)) (by omega)

/-- A draft below a key and right of it. -/
theorem reaches_below {d : Draft} (hd : ReachesDraft d) {l : Lexer} {colon : RowEnd}
    {c b total : Nat} {above : List Remark} {s : List Char} (hl : l.Calm)
    (hrest : l.cursor.rest =
      colon.chars ++ (Remark.texts above ++ (List.replicate b ' ' ++ (d.text b ++ s))))
    (hindent : l.indent = c) (hright : c < b) (hs : Cursor.Follows c s)
    (htotal : (colon.chars ++ Remark.texts above).length + (d.text b).length ≤ total) :
    l.Reaches (Attended.allPieces (Attended.under above d.tokens)) l.stack s total := by
  refine reaches_under hl hrest (d.startsRow_text b s).opens d.tokens_ne_nil
    (fun m hm hstack hindentm => ?_) htotal
  have hdraft := hd hm (by omega) (by omega) (by rw [hindentm, hindent]; exact hs)
  rwa [hstack] at hdraft

/-! ## Drafts -/

-- By induction on the draft.  Items and entries open their collection unless it is open, and a
-- draft closes what its items or entries opened.
mutual

/-- A draft is read as its tokens. -/
theorem reaches_draft : ∀ d : Draft, ReachesDraft d
  | .leaf x e below => reachesDraft_leaf x e below
  | .list items => reachesDraft_list (reaches_items items)
  | .table entries => reachesDraft_table (reaches_entries entries)

theorem reaches_items : ∀ items : Draft.Items, ReachesItems items
  | .last gap d, c, l, s, hl, hindent, hs => reaches_item (reaches_draft d) hl hindent hs
  | .cons gap d more, c, l, s, hl, hindent, hs => by
      rw [Draft.Items.text, List.append_assoc, List.append_assoc] at hl
      have hfollows : Cursor.Follows c (List.replicate c ' ' ++ (more.text c ++ s)) :=
        .row (Draft.startsRow_items more c s) (Int.le_refl _)
      obtain ⟨l₁, n, hitem, hl₁, hstack, hn⟩ :=
        reaches_item (reaches_draft d) hl hindent hfollows
      have hindent₁ : l₁.indent = c := by
        have hfst := openStack_fst (s := l.stack) hindent
        rwa [← hstack] at hfst
      have hmore := reaches_items more hl₁ (Int.le_of_eq hindent₁) hs
      have hlength : n + (more.text c).length ≤
          (Draft.Items.text c (.cons gap d more)).length := by
        rw [Draft.Items.text, List.length_append, List.length_append]
        omega
      have hall := Reaches.within hindent hitem hstack hmore hlength
      simpa [Draft.Items.tokens] using hall

theorem reaches_entries : ∀ entries : Draft.Entries, ReachesEntries entries
  | .last key v, c, l, s, hl, hindent, hs => reaches_entry (reaches_member v) hl hindent hs
  | .cons key v more, c, l, s, hl, hindent, hs => by
      rw [Draft.Entries.text, List.append_assoc (key.chars ++ _), List.append_assoc _ _ s] at hl
      have hfollows : Cursor.Follows c (List.replicate c ' ' ++ (more.text c ++ s)) :=
        .row (Draft.startsRow_entries more c s) (Int.le_refl _)
      obtain ⟨l₁, n, hentry, hl₁, hstack, hn⟩ :=
        reaches_entry (reaches_member v) hl hindent hfollows
      have hindent₁ : l₁.indent = c := by
        have hfst := openStack_fst (s := l.stack) hindent
        rwa [← hstack] at hfst
      have hmore := reaches_entries more hl₁ (Int.le_of_eq hindent₁) hs
      have hlength : n + (more.text c).length ≤
          (Draft.Entries.text c (.cons key v more)).length := by
        simp only [Draft.Entries.text, List.length_append] at hn ⊢
        omega
      have hall := Reaches.within hindent hentry hstack hmore hlength
      simpa [Draft.Entries.tokens] using hall

/-- What stands under a key is read as its tokens. -/
theorem reaches_member : ∀ v : Draft.Member, ReachesMember v
  | .beside gap x e below, c, l, s, hl, hrest, hindent, hcolumn, hs => by
      simp only [Draft.Member.text, List.append_assoc] at hrest
      refine reaches_leaf below hl hrest (by rw [hindent]; exact hs) (by omega) ?_
      exact (List.suffix_append _ _).length_le
  | .leaf colon shift above x e below, c, l, s, hl, hrest, hindent, _, hs => by
      have hbelow : l.cursor.rest = colon.chars ++ (Remark.texts above ++
          (List.replicate (c + 1 + shift) ' ' ++
            ((Draft.leaf x e below).text (c + 1 + shift) ++ s))) := by
        simpa [Draft.Member.text, Draft.text] using hrest
      refine reaches_below (reachesDraft_leaf x e below) hl hbelow hindent (by omega) hs ?_
      simp only [Draft.Member.text, Draft.text, List.length_append]
      omega
  | .list colon 0 above items, c, l, s, hl, hrest, hindent, _, hs => by
      simp only [Draft.Member.text, List.append_assoc] at hrest
      refine reaches_under hl hrest (Draft.startsRow_items items _ s).opens
        (Draft.items_tokens_ne_nil items) (fun m hm hstack hindentm => ?_)
        (n := (items.text c).length) ?_
      · have hitems := reaches_items items (c := c) hm (by omega) hs
        -- A dash in the column of the key opens nothing.
        have hclosed : ¬m.stack.1 < (c : Int) := by
          change ¬m.indent < (c : Int)
          omega
        rwa [opening, if_neg hclosed, openStack, if_neg hclosed, hstack] at hitems
      · simp only [Draft.Member.text, List.length_append, Nat.add_zero]
        omega
  | .list colon (shift + 1) above items, c, l, s, hl, hrest, hindent, _, hs => by
      simp only [Draft.Member.text, List.append_assoc] at hrest
      refine reaches_below (reachesDraft_list (reaches_items items)) hl hrest hindent (by omega)
        hs ?_
      simp only [Draft.Member.text, Draft.text, List.length_append]
      omega
  | .table colon shift above entries, c, l, s, hl, hrest, hindent, _, hs => by
      simp only [Draft.Member.text, List.append_assoc] at hrest
      refine reaches_below (reachesDraft_table (reaches_entries entries)) hl hrest hindent
        (by omega)
        hs ?_
      simp only [Draft.Member.text, Draft.text, List.length_append]
      omega

end

end Lexer

/-! ## Sheets -/

namespace Sheet

/-- The tokens of a sheet. -/
def tokens (p : Sheet) : List Attended :=
  Attended.under p.front p.draft.tokens

/-- The tokens of sheets behind another one. -/
def laterTokens (ps : List Sheet) : List Attended :=
  ps.flatMap fun p => { kind := .documentStart } :: p.tokens

/-- What follows a sheet: a marker and other sheets, if there are any. -/
def behind : List Sheet → List Char
  | [] => []
  | q :: ps => '-' :: '-' :: '-' :: '\n' :: texts (q :: ps)

/-- The text of a sheet and of those behind it, from its first row with content on. -/
def content (p : Sheet) (ps : List Sheet) : List Char :=
  List.replicate p.column ' ' ++ (p.draft.text p.column ++ behind ps)

theorem texts_eq (p : Sheet) (ps : List Sheet) :
    texts (p :: ps) = Remark.texts p.front ++ p.content ps := by
  cases ps with
  | nil => simp [texts_single, text, content, behind]
  | cons q ps => simp [texts_cons, text, content, behind]

end Sheet

namespace Lexer

/-- A sheet and those behind it are read as their tokens, from where no block collection is open. -/
theorem reaches_sheets : ∀ (ps : List Sheet) (p : Sheet) {l : Lexer}, l.AtRow (p.content ps) →
    l.stack = (-1, []) →
      l.Reaches (Attended.allPieces (p.draft.tokens ++ Sheet.laterTokens ps)) (-1, []) []
        (p.content ps).length
  | [], p, l, hl, hstack => by
      have hindent : l.indent = -1 := congrArg Prod.fst hstack
      obtain ⟨m, n, hdraft, hm, hstackm, hn⟩ :=
        reaches_draft p.draft hl (by omega) (by omega) .nothing
      refine ⟨m, n, by simpa [Sheet.laterTokens] using hdraft, hm, hstackm.trans hstack, ?_⟩
      simp only [Sheet.content, List.length_append]
      omega
  | q :: ps, p, l, hl, hstack => by
      have hindent : l.indent = -1 := congrArg Prod.fst hstack
      obtain ⟨l₁, n, hdraft, hl₁, hstack₁, hn⟩ :=
        reaches_draft p.draft hl (by omega) (by omega) (.marker _)
      have hindent₁ : l₁.indent = -1 := congrArg Prod.fst (hstack₁.trans hstack)
      obtain ⟨l₂, hmarker, hcalm₂, hrest₂, hstack₂⟩ := takes_marker hl₁ hindent₁
      rw [Sheet.texts_eq] at hrest₂
      obtain ⟨l₃, hend, hl₃, hstack₃⟩ :=
        passes_rowEnd (e := {}) q.front (hcalm₂.idle _) hrest₂
        (q.draft.startsRow_text _ _).opens
      have hmore := reaches_sheets ps q hl₃ (by rw [hstack₃, hstack₂, hstack₁, hstack])
      have hfront := Remark.length_le_texts q.front
      have hlength : n + 1 + q.front.length + (q.content ps).length ≤
          (p.content (q :: ps)).length := by
        have hcontent : p.content (q :: ps) = List.replicate p.column ' ' ++
            (p.draft.text p.column ++ '-' :: '-' :: '-' :: '\n' ::
              (Remark.texts q.front ++ q.content ps)) := by
          rw [← Sheet.texts_eq]
          rfl
        rw [hcontent]
        simp only [List.length_append, List.length_cons]
        omega
      have hall := ((hdraft.trans hmarker.passes).trans hend).andReaches hmore hlength
      simpa [Sheet.laterTokens, Sheet.tokens,
        Attended.allPieces_under _ q.draft.tokens_ne_nil] using hall

end Lexer

/-- The tokens of a text that sheets make up. -/
def Sheet.allTokens (p : Sheet) (ps : List Sheet) : List Attended :=
  { kind := .streamStart } :: (p.tokens ++ (laterTokens ps ++ [{ kind := .streamEnd }]))

-- What follows the remarks may be nothing at all.
/-- Remarks and what follows them are read, without a fault, if what follows is read to its end. -/
theorem lex_of_reaches {n : Nat} {s : List Char} (rs : List Remark) (ps : List Piece)
    (hs : Cursor.Opens s) (h : ∀ {l : Lexer}, l.AtRow (List.replicate n ' ' ++ s) →
      l.stack = (-1, []) → l.Reaches ps (-1, []) [] (List.replicate n ' ' ++ s).length)
    {text : List Char} (htext : text = Remark.texts rs ++ (List.replicate n ' ' ++ s)) :
    List.Forall₂ Lexeme.Is (lex text).lexemes
        (.token .streamStart :: (rs.map .remark ++ (ps ++ [.token .streamEnd]))) ∧
      Lexer.Apart (lex text).lexemes ∧ (lex text).fault = none := by
  let start : Token := ⟨.streamStart, ⟨0, 0⟩, ⟨0, 0⟩, none⟩
  let l₀ : Lexer := Lexer.pushMark { cursor := { rest := text } } .streamStart
  have hcalm : l₀.Calm := ⟨rfl, rfl, rfl, rfl⟩
  obtain ⟨l₁, cs, hfront, hcs, hl₁, hstack₁⟩ :=
    Lexer.takes_remarks hs rs (l := l₀) hcalm rfl rfl htext
  obtain ⟨m, k, ⟨xs, htakes, hxs⟩, hm, hstack, hk⟩ := h hl₁ hstack₁
  have hall := hfront.trans htakes
  have hlength := Remark.length_le_texts rs
  obtain ⟨fuel, hfuel⟩ : ∃ fuel, text.length + 2 = fuel + 1 + (rs.length + k) :=
    ⟨text.length + 1 - (rs.length + k), by
      rw [htext, List.length_append]
      omega⟩
  have hend := Lexer.readAll_atEnd hm (congrArg Prod.fst hstack) fuel
  have hlex : lex text = Lexer.readAll (fuel + 1) m := by
    rw [← hall.steps fuel (by rw [hend]), ← hfuel]
    rfl
  let last : Token := ⟨.streamEnd, m.cursor.mark, m.cursor.mark, none⟩
  have hlexemes : (lex text).lexemes =
      .token start :: (cs.map .comment ++ (xs ++ [.token last])) := by
    rw [hlex, hend]
    change (Lexeme.token last :: m.read).reverse = _
    rw [hall.read]
    simp [l₀, start, Lexer.pushMark, Lexer.pushToken, Lexer.push, Cursor.mark]
  rw [hlexemes]
  refine ⟨?_, ?_, by rw [hlex, hend]⟩
  · have hstart : Lexeme.Is (.token start) (.token .streamStart) := ⟨rfl, rfl⟩
    have hlast : Lexeme.Is (.token last) (.token .streamEnd) := ⟨rfl, rfl⟩
    exact .cons hstart
      (List.rel_append hcs.pieces (List.rel_append hxs.pieces (.cons hlast .nil)))
  · -- Neither the start of the stream nor a comment keeps one.
    have hfree : ∀ t, Lexeme.token t ∈ .token start :: cs.map .comment →
        TokenStream.holdsComment t.kind = false := by
      intro t ht
      simp only [List.mem_cons, List.mem_map, reduceCtorEq, and_false, exists_false, or_false,
        Lexeme.token.injEq] at ht
      rw [ht]
      rfl
    exact Lexer.Apart.behind hfree (hxs.apart.concat_token last)

/-- A text is read as tokens with their remarks, without a fault. -/
structure LexesTo (text : List Char) (ts : List Attended) : Prop where
  pieces : List.Forall₂ Lexeme.Is (lex text).lexemes (Attended.allPieces ts)
  apart : Lexer.Apart (lex text).lexemes
  fault : (lex text).fault = none

/-- Sheets are read as their tokens with their remarks. -/
theorem lex_sheets (p : Sheet) (ps : List Sheet) :
    LexesTo (Sheet.texts (p :: ps)) (p.allTokens ps) := by
  obtain ⟨hpieces, hapart, hfault⟩ := lex_of_reaches p.front _
    (p.draft.startsRow_text _ (Sheet.behind ps)).opens (fun hl => Lexer.reaches_sheets ps p hl)
    (Sheet.texts_eq p ps)
  refine ⟨?_, hapart, hfault⟩
  simpa [Sheet.allTokens, Sheet.tokens, Attended.allPieces_under _ p.draft.tokens_ne_nil]
    using hpieces

/-- In a text of remarks alone they stand in front of the end of the stream. -/
theorem lex_remarks (rs : List Remark) :
    LexesTo (Remark.texts rs)
      ({ kind := .streamStart } :: Attended.under rs [{ kind := .streamEnd }]) := by
  obtain ⟨hpieces, hapart, hfault⟩ := lex_of_reaches (n := 0) (s := []) rs [] .nothing
    (fun {l} hl hstack => ⟨l, 0, .refl l, hl, hstack, Nat.le_refl 0⟩)
    (List.append_nil _).symm
  refine ⟨?_, hapart, hfault⟩
  simpa [Attended.under, Attended.pieces] using hpieces

end Yaml
end YamlTidy
