import YamlTidy.Proofs.Yaml.Block
import YamlTidy.Proofs.Yaml.Block.Steps

/-!
# The tokens of blocks

`Block.kinds` are the kinds of the tokens of a block.  They do not depend on where its parts stand
but for lists in the column of their key.  A block is read as these where it stands right of the
block collection around it and what follows does not (`Lexer.reads_block`, by induction on the
block), and so are pages with markers between them (`lex_texts`).
-/

namespace YamlTidy
namespace Yaml

open Text

namespace Block

/-- The tokens of a key and its colon. -/
def keyKinds (key : Key) : List TokenKind :=
  [.key, .scalar key.chars .plain [], .value]

mutual

/-- The tokens of a block. -/
def kinds : Block → List TokenKind
  | leaf x _ => [.scalar x.content x.style []]
  | list items => .blockSequenceStart :: (items.kinds ++ [.blockEnd])
  | table entries => .blockMappingStart :: (entries.kinds ++ [.blockEnd])

/-- The tokens of items. -/
def Items.kinds : Items → List TokenKind
  | .last _ b => .blockEntry :: b.kinds
  | .cons _ b more => .blockEntry :: (b.kinds ++ more.kinds)

/-- The tokens of entries. -/
def Entries.kinds : Entries → List TokenKind
  | .last key v => keyKinds key ++ v.kinds
  | .cons key v more => keyKinds key ++ (v.kinds ++ more.kinds)

/-- The tokens of what stands under a key.  A list in the column of its key has none for its
beginning and its end. -/
def Member.kinds : Member → List TokenKind
  | .beside _ x _ => [.scalar x.content x.style []]
  | .under _ 0 (.list items) => items.kinds
  | .under _ _ b => b.kinds

end

/-- Right of its key a block has all its tokens. -/
theorem kinds_under {b : Block} {shift : Nat} (h : 0 < b.least + shift) (e : RowEnd) :
    (Member.under e shift b).kinds = b.kinds := by
  cases b with
  | leaf x e => cases shift <;> rfl
  | table entries => cases shift <;> rfl
  | list items =>
      cases shift with
      | zero => exact absurd h (Nat.lt_irrefl 0)
      | succ shift => rfl

/-! ## How texts begin -/

theorem endsWord_lead (place : Placing) (c : Nat) (s : List Char) :
    endsWord ((place.lead c ++ s).headD '\x00') = true := by
  cases place with
  | beside gap => rfl
  | under e shift =>
      rw [Placing.lead, List.append_assoc]
      exact endsWord_rowEnd e _

theorem startsRow_items (items : Items) (c : Nat) (s : List Char) :
    Cursor.StartsRow (items.text c ++ s) := by
  cases items with
  | last place b =>
      rw [Items.text, List.cons_append, List.append_assoc]
      exact .dash (endsWord_lead place c _)
  | cons place b more =>
      rw [Items.text, List.cons_append, List.cons_append, List.append_assoc, List.append_assoc]
      exact .dash (endsWord_lead place c _)

theorem startsRow_entries (entries : Entries) (c : Nat) (s : List Char) :
    Cursor.StartsRow (entries.text c ++ s) := by
  cases entries with
  | last key v =>
      rw [Entries.text, List.append_assoc]
      exact Lexer.startsRow_phrase key.toPhrase _
  | cons key v more =>
      rw [Entries.text, List.append_assoc, List.append_assoc]
      exact Lexer.startsRow_phrase key.toPhrase _

theorem startsRow_text (b : Block) (c : Nat) (s : List Char) :
    Cursor.StartsRow (b.text c ++ s) := by
  cases b with
  | leaf x e =>
      rw [text, List.append_assoc]
      exact Lexer.startsRow_leaf x _
  | list items => exact startsRow_items items c s
  | table entries => exact startsRow_entries entries c s

theorem endsWord_member (v : Member) (c : Nat) (s : List Char) :
    endsWord ((v.text c ++ s).headD '\x00') = true := by
  cases v with
  | beside gap x e => rfl
  | under e shift b =>
      rw [Member.text, List.append_assoc]
      exact endsWord_rowEnd e _

end Block

namespace Lexer

theorem AtRow.content {l : Lexer} {n : Nat} {s : List Char}
    (hl : l.AtRow (List.replicate n ' ' ++ s)) (hs : Cursor.Opens s) :
    l.cursor.rest = s ∧ l.cursor.column = n := by
  refine ⟨?_, ?_⟩
  · rw [hl.rest, Cursor.dropWhile_spaces hs]
  · rw [hl.column, Cursor.leadingSpaces_spaces hs]

section Stack

variable {column : Nat} {s : Int × List Int} (h : s.1 ≤ column)
include h

/-- Once a block collection is open in a column, none is opened there. -/
theorem openStack_fst : (openStack column s).1 = column := by
  unfold openStack
  split
  · rfl
  · omega

theorem openStack_openStack : openStack column (openStack column s) = openStack column s := by
  rw [openStack, if_neg]
  rw [openStack_fst h]
  omega

theorem opening_openStack (kind : TokenKind) :
    opening kind column (openStack column s) = [] := by
  rw [opening, if_neg]
  rw [openStack_fst h]
  omega

end Stack

/-! ## Reading to the next row -/

/-- Tokens of the given kinds are read down to the row with which `s` begins, in at most `size`
steps, and then the given block collections are open. -/
def Reads (l : Lexer) (kinds : List TokenKind) (stack : Int × List Int) (s : List Char)
    (size : Nat) : Prop :=
  ∃ m n, l.Leads m n kinds ∧ m.AtRow s ∧ m.stack = stack ∧ n ≤ size

theorem Leads.andReads {l m : Lexer} {n size total : Nat} {front back : List TokenKind}
    {stack : Int × List Int} {s : List Char} (h : l.Leads m n front)
    (h' : m.Reads back stack s size) (htotal : n + size ≤ total) :
    l.Reads (front ++ back) stack s total := by
  obtain ⟨k, n', hback, hk, hstack, hn'⟩ := h'
  exact ⟨k, n + n', h.trans hback, hk, hstack, by omega⟩

/-- A block is read as its tokens right of the block collection around it. -/
def ReadsBlock (b : Block) : Prop :=
  ∀ {c : Nat} {l : Lexer} {s : List Char},
    l.AtRow (List.replicate c ' ' ++ (b.text c ++ s)) → l.indent < c → -1 ≤ l.indent →
      Cursor.Follows l.indent s → l.Reads b.kinds l.stack s (b.text c).length

/-- What stands under a key is read as its tokens from behind the colon on. -/
def ReadsMember (v : Block.Member) : Prop :=
  ∀ {c : Nat} {l : Lexer} {s : List Char}, l.Calm → l.cursor.rest = v.text c ++ s →
    l.indent = c → c < l.cursor.column → Cursor.Follows c s →
      l.Reads v.kinds l.stack s (v.text c).length

/-- What belongs to a dash is reached like a row of its own. -/
theorem leads_lead {l : Lexer} {place : Placing} {c : Nat} {s : List Char} (hl : l.Calm)
    (hallowed : l.keyAllowed = true) (hrest : l.cursor.rest = place.lead c ++ s)
    (hcolumn : l.cursor.column = c + 1) (hs : Cursor.Opens s) :
    ∃ m, l.Leads m 0 [] ∧ m.AtRow (List.replicate (place.column c) ' ' ++ s) ∧
      m.stack = l.stack := by
  cases place with
  | beside gap =>
      have hspaces := leads_spaces hl hallowed hrest hs
      rwa [hcolumn, show c + 1 + (gap + 1) = c + gap + 2 by omega] at hspaces
  | under e shift =>
      refine leads_rowEnd (e := e) hl ?_ hs
      rw [hrest, Placing.lead, List.append_assoc]
      rfl

/-- An item, down to a row that is not indented deeper. -/
theorem reads_item {b : Block} (hb : ReadsBlock b) {place : Placing} {c : Nat} {l : Lexer}
    {s : List Char}
    (hl : l.AtRow
      (List.replicate c ' ' ++ ('-' :: (place.lead c ++ b.text (place.column c)) ++ s)))
    (hindent : l.indent ≤ c) (hs : Cursor.Follows c s) :
    l.Reads (opening .blockSequenceStart c l.stack ++ (.blockEntry :: b.kinds))
      (openStack c l.stack) s ('-' :: (place.lead c ++ b.text (place.column c))).length := by
  obtain ⟨hrest, hcolumn⟩ := hl.content (.cons _ (by decide))
  rw [List.cons_append, List.append_assoc] at hrest
  obtain ⟨l₁, hdash, hcalm₁, hallowed₁, hrest₁, hcolumn₁, hstack₁⟩ :=
    leads_dash hl.toCalm
    hl.keyAllowed hrest (Block.endsWord_lead place c _) (by omega)
  rw [hcolumn] at hdash hcolumn₁ hstack₁
  obtain ⟨l₂, hlead, hl₂, hstack₂⟩ := leads_lead hcalm₁ hallowed₁ hrest₁ hcolumn₁
    (b.startsRow_text _ s).opens
  have hindent₂ : l₂.indent = c := by
    have hfst := openStack_fst (s := l.stack) hindent
    rwa [← hstack₁, ← hstack₂] at hfst
  have hdeeper : c < place.column c := by
    cases place <;> simp only [Placing.column] <;> omega
  have hblock := hb hl₂ (by omega) (by omega) (by rw [hindent₂]; exact hs)
  rw [hstack₂, hstack₁] at hblock
  have hall := (hdash.trans hlead).andReads hblock (Nat.le_refl _)
  simp only [List.append_nil, List.append_assoc, List.singleton_append] at hall
  obtain ⟨m, n, hleads, hm, hstack, hn⟩ := hall
  refine ⟨m, n, hleads, hm, hstack, ?_⟩
  rw [List.length_cons, List.length_append]
  omega

/-- An entry, down to a row that is not indented deeper. -/
theorem reads_entry {key : Key} {v : Block.Member} (hv : ReadsMember v) {c : Nat} {l : Lexer}
    {s : List Char}
    (hl : l.AtRow (List.replicate c ' ' ++ (key.chars ++ ':' :: v.text c ++ s)))
    (hindent : l.indent ≤ c) (hs : Cursor.Follows c s) :
    l.Reads (opening .blockMappingStart c l.stack ++ (Block.keyKinds key ++ v.kinds))
      (openStack c l.stack) s (key.chars ++ ':' :: v.text c).length := by
  rw [List.append_assoc] at hl
  obtain ⟨hrest, hcolumn⟩ := hl.content (startsRow_phrase key.toPhrase _).opens
  obtain ⟨l₁, hkey, hcalm₁, hrest₁, hcolumn₁, hstack₁⟩ :=
    leads_key hl.toCalm hl.keyAllowed hrest
    (Block.endsWord_member v c s) (by omega)
  rw [hcolumn] at hkey hcolumn₁ hstack₁
  have hindent₁ : l₁.indent = c := by
    have hfst := openStack_fst (s := l.stack) hindent
    rwa [← hstack₁] at hfst
  have hmember := hv hcalm₁ hrest₁ hindent₁ hcolumn₁ hs
  rw [hstack₁] at hmember
  have hkeyLength : 0 < key.chars.length := List.length_pos_iff.mpr key.nonempty
  have hlength : 2 + (v.text c).length ≤ (key.chars ++ ':' :: v.text c).length := by
    rw [List.length_append, List.length_cons]
    omega
  have hall := hkey.andReads hmember hlength
  rwa [List.append_assoc] at hall

/-- Where a block collection is open already, none is opened. -/
theorem Reads.within {l l₁ : Lexer} {kind : TokenKind} {c n : Nat} {front back : List TokenKind}
    {s : List Char} {size total : Nat} (hindent : l.indent ≤ c) (h : l.Leads l₁ n front)
    (hstack : l₁.stack = openStack c l.stack)
    (hmore : l₁.Reads (opening kind c l₁.stack ++ back) (openStack c l₁.stack) s size)
    (htotal : n + size ≤ total) : l.Reads (front ++ back) (openStack c l.stack) s total := by
  rw [hstack, opening_openStack hindent, openStack_openStack hindent] at hmore
  exact h.andReads hmore htotal

/-- A block collection right of the innermost one is closed by what follows. -/
theorem Reads.closed {l : Lexer} {kind : TokenKind} {c size : Nat} {kinds : List TokenKind}
    {s : List Char} (h : l.Reads (opening kind c l.stack ++ kinds) (openStack c l.stack) s size)
    (hindent : l.indent < c) (hleft : -1 ≤ l.indent) (hs : Cursor.Follows l.indent s) :
    l.Reads (kind :: (kinds ++ [.blockEnd])) l.stack s size := by
  have hopen : l.stack.1 < (c : Int) := hindent
  rw [opening, if_pos hopen, openStack, if_pos hopen] at h
  obtain ⟨m, n, hleads, hm, hstack, hn⟩ := h
  have hindentm : m.indent = c := congrArg Prod.fst hstack
  obtain ⟨k, hclose, hk, hstackk⟩ := leads_close hm hs ⟨hleft, Int.le_refl _⟩ (by omega)
    (congrArg Prod.snd hstack)
  refine ⟨k, n + 0, ?_, hk, hstackk, hn⟩
  have hall := hleads.trans hclose
  rwa [List.singleton_append, List.cons_append] at hall

/-- A block on the row below its key, right of the key. -/
theorem reads_under {b : Block} (hb : ReadsBlock b) {e : RowEnd} {shift c : Nat} {l : Lexer}
    {s : List Char} (hl : l.Calm)
    (hrest : l.cursor.rest = (Block.Member.under e shift b).text c ++ s)
    (hindent : l.indent = c) (hdeeper : 0 < b.least + shift) (hs : Cursor.Follows c s) :
    l.Reads (Block.Member.under e shift b).kinds l.stack s
      ((Block.Member.under e shift b).text c).length := by
  rw [Block.kinds_under hdeeper]
  rw [Block.Member.text, List.append_assoc, List.append_assoc] at hrest
  obtain ⟨l₁, hend, hl₁, hstack₁⟩ := leads_rowEnd hl hrest (b.startsRow_text _ s).opens
  have hindent₁ : l₁.indent = c := by
    rw [← hindent]
    exact congrArg Prod.fst hstack₁
  have hblock := hb hl₁ (by omega) (by omega) (by rw [hindent₁]; exact hs)
  rw [hstack₁] at hblock
  refine hend.andReads hblock ?_
  simp only [Block.Member.text, List.length_append]
  omega

/-! ## Blocks -/

-- By induction on the block.  Items and entries open their collection unless it is open, and a
-- block closes what its items or entries opened.
mutual

/-- A block is read as its tokens. -/
theorem reads_block : ∀ b : Block, ReadsBlock b
  | .leaf x e, c, l, s, hl, hindent, hleft, hs => by
      rw [Block.text, List.append_assoc] at hl
      obtain ⟨hrest, hcolumn⟩ := hl.content (startsRow_leaf x _).opens
      obtain ⟨m, hleaf, hm, hstack⟩ := leads_leaf (k := 0) hl.toCalm hrest hs (by omega)
      refine ⟨m, 1, hleaf, hm, hstack, ?_⟩
      have hlength := e.length_chars
      rw [Block.text, List.length_append]
      omega
  | .list items, c, l, s, hl, hindent, hleft, hs =>
      (reads_items items hl (Int.le_of_lt hindent) (hs.weaken (Int.le_of_lt hindent))).closed
        hindent hleft hs
  | .table entries, c, l, s, hl, hindent, hleft, hs =>
      (reads_entries entries hl (Int.le_of_lt hindent) (hs.weaken (Int.le_of_lt hindent))).closed
        hindent hleft hs

/-- Items are read as their tokens. -/
theorem reads_items : ∀ (items : Block.Items) {c : Nat} {l : Lexer} {s : List Char},
    l.AtRow (List.replicate c ' ' ++ (items.text c ++ s)) → l.indent ≤ c →
      Cursor.Follows c s →
      l.Reads (opening .blockSequenceStart c l.stack ++ items.kinds) (openStack c l.stack) s
        (items.text c).length
  | .last place b, c, l, s, hl, hindent, hs => reads_item (reads_block b) hl hindent hs
  | .cons place b more, c, l, s, hl, hindent, hs => by
      rw [Block.Items.text, List.append_assoc, List.append_assoc] at hl
      have hfollows : Cursor.Follows c (List.replicate c ' ' ++ (more.text c ++ s)) :=
        .row (Block.startsRow_items more c s) (Int.le_refl _)
      obtain ⟨l₁, n, hitem, hl₁, hstack, hn⟩ :=
        reads_item (reads_block b) hl hindent hfollows
      have hindent₁ : l₁.indent = c := by
        have hfst := openStack_fst (s := l.stack) hindent
        rwa [← hstack] at hfst
      have hmore := reads_items more hl₁ (Int.le_of_eq hindent₁) hs
      have hlength : n + (more.text c).length ≤
          (Block.Items.text c (.cons place b more)).length := by
        rw [Block.Items.text, List.length_append, List.length_append]
        omega
      have hall := Reads.within hindent hitem hstack hmore hlength
      rwa [List.append_assoc, List.cons_append] at hall

/-- Entries are read as their tokens. -/
theorem reads_entries : ∀ (entries : Block.Entries) {c : Nat} {l : Lexer} {s : List Char},
    l.AtRow (List.replicate c ' ' ++ (entries.text c ++ s)) → l.indent ≤ c →
      Cursor.Follows c s →
      l.Reads (opening .blockMappingStart c l.stack ++ entries.kinds) (openStack c l.stack) s
        (entries.text c).length
  | .last key v, c, l, s, hl, hindent, hs => reads_entry (reads_member v) hl hindent hs
  | .cons key v more, c, l, s, hl, hindent, hs => by
      rw [Block.Entries.text, List.append_assoc (key.chars ++ _), List.append_assoc _ _ s] at hl
      have hfollows : Cursor.Follows c (List.replicate c ' ' ++ (more.text c ++ s)) :=
        .row (Block.startsRow_entries more c s) (Int.le_refl _)
      obtain ⟨l₁, n, hentry, hl₁, hstack, hn⟩ :=
        reads_entry (reads_member v) hl hindent hfollows
      have hindent₁ : l₁.indent = c := by
        have hfst := openStack_fst (s := l.stack) hindent
        rwa [← hstack] at hfst
      have hmore := reads_entries more hl₁ (Int.le_of_eq hindent₁) hs
      have hlength : n + (more.text c).length ≤
          (Block.Entries.text c (.cons key v more)).length := by
        simp only [Block.Entries.text, List.length_append] at hn ⊢
        omega
      have hall := Reads.within hindent hentry hstack hmore hlength
      rwa [List.append_assoc, List.append_assoc] at hall

/-- What stands under a key is read as its tokens. -/
theorem reads_member : ∀ v : Block.Member, ReadsMember v
  | .beside gap x e, c, l, s, hl, hrest, hindent, hcolumn, hs => by
      rw [Block.Member.text, List.append_assoc, List.append_assoc] at hrest
      obtain ⟨m, hleaf, hm, hstack⟩ :=
        leads_leaf hl hrest (by rw [hindent]; exact hs) (by omega)
      refine ⟨m, 1, hleaf, hm, hstack, ?_⟩
      rw [Block.Member.text, List.length_append, List.length_replicate]
      omega
  | .under e 0 (.list items), c, l, s, hl, hrest, hindent, hcolumn, hs => by
      rw [Block.Member.text, List.append_assoc, List.append_assoc] at hrest
      obtain ⟨l₁, hend, hl₁, hstack₁⟩ := leads_rowEnd hl hrest
        (Block.startsRow_items items _ s).opens
      have hindent₁ : l₁.indent = c := by
        rw [← hindent]
        exact congrArg Prod.fst hstack₁
      have hitems := reads_items items (c := c) hl₁ (Int.le_of_eq hindent₁) hs
      have hclosed : ¬l₁.stack.1 < (c : Int) := by
        change ¬l₁.indent < (c : Int)
        omega
      rw [opening, if_neg hclosed, openStack, if_neg hclosed, hstack₁] at hitems
      refine hend.andReads hitems ?_
      simp only [Block.Member.text, Block.least, Nat.add_zero, List.length_append, Block.text]
      omega
  | .under _ (shift + 1) (.list items), c, l, s, hl, hrest, hindent, hcolumn, hs =>
      reads_under (reads_block (.list items)) hl hrest hindent
        (Nat.add_pos_right _ shift.succ_pos)
        hs
  | .under _ shift (.leaf x e), c, l, s, hl, hrest, hindent, hcolumn, hs =>
      reads_under (reads_block (.leaf x e)) hl hrest hindent (Nat.add_pos_left Nat.one_pos _) hs
  | .under _ shift (.table entries), c, l, s, hl, hrest, hindent, hcolumn, hs =>
      reads_under (reads_block (.table entries)) hl hrest hindent
        (Nat.add_pos_left Nat.one_pos _)
        hs

end

end Lexer

/-! ## Pages -/

namespace Page

/-- The tokens of pages behind another one. -/
def laterKinds (ps : List Page) : List TokenKind :=
  ps.flatMap fun p => .documentStart :: p.block.kinds

/-- Pages begin with the row with which the first one begins. -/
theorem texts_begin (p : Page) (ps : List Page) :
    ∃ s, texts (p :: ps) = List.replicate p.column ' ' ++ (p.block.text p.column ++ s) := by
  cases ps with
  | nil => exact ⟨[], by rw [texts_single, List.append_nil]⟩
  | cons q ps => exact ⟨_, texts_cons p q ps⟩

end Page

namespace Lexer

/-- Pages are read as their tokens, each from where no block collection is open. -/
theorem reads_pages :
    ∀ (ps : List Page) (p : Page) {l : Lexer}, l.AtRow (Page.texts (p :: ps)) →
    l.stack = (-1, []) →
      l.Reads (p.block.kinds ++ Page.laterKinds ps) (-1, []) [] (Page.texts (p :: ps)).length
  | [], p, l, hl, hstack => by
      have hindent : l.indent = -1 := congrArg Prod.fst hstack
      rw [Page.texts_single] at hl ⊢
      rw [← List.append_nil (p.block.text p.column)] at hl
      obtain ⟨m, n, hblock, hm, hstackm, hn⟩ :=
        reads_block p.block hl (by omega) (by omega) .nothing
      refine ⟨m, n, by rwa [Page.laterKinds, List.flatMap_nil, List.append_nil], hm,
        hstackm.trans hstack, ?_⟩
      rw [List.length_append]
      omega
  | q :: ps, p, l, hl, hstack => by
      have hindent : l.indent = -1 := congrArg Prod.fst hstack
      rw [Page.texts_cons] at hl ⊢
      obtain ⟨l₁, n, hblock, hl₁, hstack₁, hn⟩ :=
        reads_block p.block hl (by omega) (by omega) (.marker _)
      have hindent₁ : l₁.indent = -1 := congrArg Prod.fst (hstack₁.trans hstack)
      obtain ⟨l₂, hmarker, hcalm₂, hrest₂, hstack₂⟩ := leads_marker hl₁ hindent₁
      obtain ⟨s, hs⟩ := Page.texts_begin q ps
      rw [hs] at hrest₂
      obtain ⟨l₃, hfeed, hl₃, hstack₃⟩ := leads_rowEnd (e := {}) hcalm₂ hrest₂
        (q.block.startsRow_text _ s).opens
      rw [← hs] at hl₃
      have hmore := reads_pages ps q hl₃ (by rw [hstack₃, hstack₂, hstack₁, hstack])
      have hlength : n + 1 + 0 + (Page.texts (q :: ps)).length ≤
          (List.replicate p.column ' ' ++ (p.block.text p.column ++
            '-' :: '-' :: '-' :: '\n' :: Page.texts (q :: ps))).length := by
        simp only [List.length_append, List.length_cons]
        omega
      have hall := ((hblock.trans hmarker).trans hfeed).andReads hmore hlength
      simpa [Page.laterKinds] using hall

/-! ## The end of the text -/

/-- The lexer with the last token read. -/
def ended (l : Lexer) : Lexer :=
  { l.pushMark .streamEnd with keyAllowed := false, candidates := [], finished := true }

theorem fetch_atEnd {l : Lexer} (hl : l.AtRow []) (hindent : l.indent = -1) :
    l.fetch = .ok l.ended := by
  have hrest : l.cursor.rest = [] := hl.rest
  have hopens : Cursor.Opens l.cursor.rest := by
    rw [hrest]
    exact .nothing
  rw [fetch_here hl.toCalm hopens (by omega), fetchToken_end hrest, fetchEnd,
    unwindTo_of_le (by omega), dropCandidate_of_nil hl.candidates]
  rfl

theorem readAll_atEnd {l : Lexer} (hl : l.AtRow []) (hindent : l.indent = -1) (fuel : Nat) :
    readAll (fuel + 1) l =
      { lexemes := l.ended.read.reverse, settled := l.ended.count, fault := none } := by
  have hnext : l.fetch >>= dropStale = .ok l.ended := by
    rw [fetch_atEnd hl hindent]
    rfl
  rw [readAll, hl.finished, hnext]
  cases fuel <;> rfl

/-- At the end of the text reading stops without a fault. -/
theorem readAll_end {l : Lexer} {ks : List TokenKind} (hl : l.AtRow []) (hindent : l.indent = -1)
    (hread : HasKinds l.read ks) (fuel : Nat) :
    (readAll (fuel + 1) l).fault = none ∧
      HasKinds (readAll (fuel + 1) l).lexemes.reverse (ks ++ [.streamEnd]) := by
  rw [readAll_atEnd hl hindent]
  refine ⟨rfl, ?_⟩
  rw [List.reverse_reverse]
  exact hread.push (t := ⟨.streamEnd, l.cursor.mark, l.cursor.mark, none⟩) rfl

end Lexer

/-- Pages are read as their tokens, without comments and without a fault. -/
theorem lex_texts (p : Page) (ps : List Page) :
    ∃ ts : List Token, (lex (Page.texts (p :: ps))).lexemes = ts.map .token ∧
      ts.map Token.kind =
        .streamStart :: (p.block.kinds ++ (Page.laterKinds ps ++ [.streamEnd])) ∧
      (∀ t ∈ ts, t.comments = none) ∧ (lex (Page.texts (p :: ps))).fault = none := by
  let l₀ : Lexer := Lexer.pushMark { cursor := { rest := Page.texts (p :: ps) } } .streamStart
  have hcalm : l₀.Calm := ⟨rfl, rfl, rfl, rfl⟩
  have hread : Lexer.HasKinds l₀.read [.streamStart] :=
    ⟨[⟨.streamStart, ⟨0, 0⟩, ⟨0, 0⟩, none⟩], rfl, rfl, by simp⟩
  obtain ⟨s, hs⟩ := Page.texts_begin p ps
  obtain ⟨l₁, hfirst, hl₁, hstack₁⟩ := Lexer.leads_spaces (l := l₀) hcalm rfl hs
    (p.block.startsRow_text _ s).opens
  have hcolumn : l₀.cursor.column = 0 := rfl
  rw [hcolumn, Nat.zero_add, ← hs] at hl₁
  obtain ⟨m, n, hpages, hm, hstack, hn⟩ := Lexer.reads_pages ps p hl₁ hstack₁
  have hleads := hfirst.trans hpages
  obtain ⟨fuel, hfuel⟩ : ∃ fuel, (Page.texts (p :: ps)).length + 2 = fuel + 1 + (0 + n) :=
    ⟨(Page.texts (p :: ps)).length + 1 - n, by omega⟩
  obtain ⟨hfault, hkinds⟩ :=
    Lexer.readAll_end hm (congrArg Prod.fst hstack) (hleads.reads hread) fuel
  have hlex : lex (Page.texts (p :: ps)) = Lexer.readAll (fuel + 1) m := by
    rw [← hleads.steps fuel hfault, ← hfuel]
    rfl
  rw [hlex]
  obtain ⟨ts, hts, hkinds, hcomments⟩ := hkinds
  refine ⟨ts, ?_, by simpa using hkinds, hcomments, hfault⟩
  simpa using congrArg List.reverse hts

end Yaml
end YamlTidy
