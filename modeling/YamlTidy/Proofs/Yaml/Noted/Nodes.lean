import YamlTidy.Proofs.Yaml.Noted
import YamlTidy.Yaml.Node.Parser
import Mathlib.Data.List.TakeWhile

/-!
# The nodes of noted trees

`Noted.tokens` are the tokens of a noted tree with the comments in front of them and behind them,
and `Noted.IsNode` says what its node is: there is one for each leaf and each collection, numbered
in the order of the text, with no tag and its comments.  The tokens of a noted tree are read as
its node (`Parse.reads_noted`, by induction on the tree), and those of some with markers between
them as one document for each (`NodeStream.areOf_ofText`), unless one is nested too deeply.
-/

namespace YamlTidy
namespace Yaml

/-! ## Steps that succeed -/

section Steps

variable {σ ε α β : Type} {x : StateT σ (Except ε) α} {f : α → StateT σ (Except ε) β}
  {s s' : σ} {a : α}

theorem bind_ok (h : x s = .ok (a, s')) : (x >>= f) s = f a s' := by
  change (x s >>= fun p => f p.1 p.2) = _
  rw [h]
  rfl

theorem bind_to (a : α) (s' : σ) (h : x s = .ok (a, s')) : (x >>= f) s = f a s' :=
  bind_ok h

end Steps

/-! ## Tokens with comments -/

/-- A kind of token with the comments in front of it and the one that stays behind it. -/
structure Laden where
  before : List Leading := []
  kind : TokenKind
  behind : Option Comment := none

/-- A stream is one of the given tokens. -/
def TokenStream.IsOf : TokenStream → List Laden → Prop
  | s, [] => s = .done
  | s, x :: xs => ∃ t rest, s = .more t x.behind rest ∧ t.kind = x.kind ∧
      t.comments = Comments.around x.before none ∧ rest.IsOf xs

namespace Noted

/-- The tokens of a key and its colon. -/
def keyTokens (key : Key) : List Laden :=
  [{ kind := .key }, { kind := .scalar key.chars .plain [] }, { kind := .value }]

mutual

/-- The tokens of a noted tree with comments in front of it.  A list in the column of the key
above it has none for its beginning and its end. -/
def tokens (underKey : Bool) (before : List Leading) : Noted → List Laden
  | leaf x behind => [{ before, kind := .scalar x.content x.style [], behind }]
  | list flush items =>
      if underKey && flush && before.isEmpty then items.tokens
      else { before, kind := .blockSequenceStart } :: (items.tokens ++ [{ kind := .blockEnd }])
  | table entries =>
      { before, kind := .blockMappingStart } :: (entries.tokens ++ [{ kind := .blockEnd }])

/-- The tokens of items. -/
def Items.tokens : Items → List Laden
  | .last before t => { before, kind := .blockEntry } :: t.tokens false []
  | .cons before t more => { before, kind := .blockEntry } :: (t.tokens false [] ++ more.tokens)

/-- The tokens of entries. -/
def Entries.tokens : Entries → List Laden
  | .last key before t => keyTokens key ++ t.tokens true before
  | .cons key before t more => keyTokens key ++ (t.tokens true before ++ more.tokens)

end

end Noted

namespace Headed

/-- The comments of the root of a document. -/
def comments (h : Headed) : Option Comments :=
  h.root.comments h.before

/-- The tokens of the root of a document. -/
def tokens (h : Headed) : List Laden :=
  h.root.tokens false h.before

/-- The tokens of roots with markers in front of them. -/
def laterTokens (hs : List Headed) : List Laden :=
  hs.flatMap fun h => { kind := .documentStart } :: h.tokens

end Headed

/-! ## Nodes -/

/-- What the node of a scalar or a collection has that was written without a tag. -/
def plainInfo (id : Nat) (core : CoreTag) (start : Mark) (comments : Option Comments := none) :
    NodeInfo :=
  { id, tag := .ofCore core, start, comments }

/-- The node of a leaf. -/
def leafNode (x : Leaf) (id : Nat) (start : Mark) (comments : Option Comments := none) : Node :=
  .scalar (plainInfo id x.core start comments) x.content x.style []

/-- The node of a key. -/
def keyNode (key : Key) (id : Nat) (start : Mark) : Node :=
  .scalar (plainInfo id key.core start) key.chars .plain []

namespace Noted

mutual

/-- A node is that of a noted tree and has the given number and comments.  Every collection is
numbered before what is in it. -/
def IsNode (id : Nat) (c : Option Comments) : Noted → Node → Prop
  | leaf x _, n => ∃ mark, n = leafNode x id mark c
  | list _ items, n => ∃ mark nodes,
      n = .sequence (plainInfo id .seq mark c) false nodes ∧ items.AreNodes (id + 1) nodes
  | table entries, n => ∃ mark pairs,
      n = .mapping (plainInfo id .map mark c) false pairs ∧ entries.AreNodes (id + 1) pairs

/-- Nodes are those of items, numbered from `id` on. -/
def Items.AreNodes (id : Nat) : Items → List Node → Prop
  | .last before t, nodes => ∃ n, nodes = [n] ∧ t.IsNode id (t.comments before) n
  | .cons before t more, nodes => ∃ n rest,
      nodes = n :: rest ∧ t.IsNode id (t.comments before) n ∧
        more.AreNodes (id + t.tree.count) rest

/-- Nodes are those of entries, numbered from `id` on. -/
def Entries.AreNodes (id : Nat) : Entries → List (Node × Node) → Prop
  | .last key before t, pairs => ∃ mark n,
      pairs = [(keyNode key id mark, n)] ∧ t.IsNode (id + 1) (t.comments before) n
  | .cons key before t more, pairs => ∃ mark n rest,
      pairs = (keyNode key id mark, n) :: rest ∧
        t.IsNode (id + 1) (t.comments before) n ∧
        more.AreNodes (id + 1 + t.tree.count) rest

end

end Noted

namespace Parse

/-! ## Single steps -/

/-- The given tokens are ahead of a state, and no version was asked for. -/
structure Ahead (s : ParseState) (xs : List Laden) : Prop where
  version : s.version = none
  tokens : s.tokens.IsOf xs

variable {s s' : ParseState} {x : Laden} {xs : List Laden} {t : Token} {before : List Leading}

theorem peek_ahead (h : Ahead s (x :: xs)) :
    ∃ t, peek s = .ok (t, s) ∧ t.kind = x.kind ∧
      t.comments = Comments.around x.before none := by
  obtain ⟨t, rest, htokens, hkind, hcomments, -⟩ := h.tokens
  refine ⟨t, ?_, hkind, hcomments⟩
  rw [peek, htokens]
  rfl

theorem peekKind_ahead (h : Ahead s (x :: xs)) : peekKind s = .ok (x.kind, s) := by
  obtain ⟨t, rest, htokens, hkind, -, -⟩ := h.tokens
  rw [peekKind, htokens, ← hkind]
  rfl

theorem next_ahead (h : Ahead s (x :: xs)) :
    ∃ t s', next s = .ok (t, s') ∧ t.kind = x.kind ∧
      t.comments = Comments.around x.before x.behind ∧
      Ahead s' xs ∧ s'.count = s.count := by
  obtain ⟨t, rest, htokens, hkind, hcomments, hrest⟩ := h.tokens
  have hs' : Ahead { s with tokens := rest } xs := ⟨h.version, hrest⟩
  cases hbehind : x.behind with
  | none =>
      refine ⟨t, _, ?_, hkind, hcomments, hs', rfl⟩
      rw [next, htokens, hbehind]
      rfl
  | some c =>
      refine ⟨{ t with comments := some { t.comments.getD {} with behind := some c } }, _, ?_,
        hkind, ?_, hs', rfl⟩
      · rw [next, htokens, hbehind]
        rfl
      · rw [hcomments]
        cases x.before <;> rfl

/-- A token without comments has none to hand over. -/
theorem moveComments_ahead (ht : t.comments = none) (h : Ahead s (x :: xs)) (afterColon : Bool) :
    moveComments t afterColon s = .ok (false, s) := by
  obtain ⟨target, hpeek, -, -⟩ := peek_ahead h
  unfold moveComments
  rw [bind_ok hpeek, ht]
  rfl

/-- The kinds of tokens with which nodes begin. -/
def beginsNode : TokenKind → Bool
  | .scalar .. => true
  | .blockSequenceStart => true
  | .blockMappingStart => true
  | .blockEntry => true
  | _ => false

/-- The comments in front of a token go to the one behind it. -/
theorem moveComments_onto (ht : t.comments = Comments.around before none)
    (hkind : beginsNode x.kind = true) (hx : x.before = []) (h : Ahead s (x :: xs)) :
    ∃ moved s', moveComments t false s = .ok (moved, s') ∧
      Ahead s' ({ x with before } :: xs) ∧
      s'.count = s.count := by
  cases before with
  | nil =>
      refine ⟨_, s, moveComments_ahead ht h false, ?_, rfl⟩
      rwa [← hx]
  | cons l ls =>
      obtain ⟨target, hpeek, htarget, htargetComments⟩ := peek_ahead h
      obtain ⟨u, rest, htokens, hu, -, hrest⟩ := h.tokens
      rw [hx] at htargetComments
      refine ⟨true, { s with tokens := s.tokens.setComments (Comments.around (l :: ls) none) },
        ?_, ⟨h.version, { u with comments := Comments.around (l :: ls) none }, rest, ?_, hu,
        rfl, hrest⟩, rfl⟩
      · unfold moveComments
        rw [bind_ok hpeek, ht, htargetComments, htarget]
        cases hcase : x.kind <;> rw [hcase] at hkind <;> first | rfl | cases hkind
      · rw [htokens]
        rfl

theorem properties_ahead (h : Ahead s (x :: xs)) (hkind : beginsNode x.kind = true) :
    properties s = .ok ({}, s) := by
  obtain ⟨t, hpeek, ht, -⟩ := peek_ahead h
  rw [← ht] at hkind
  unfold properties
  rw [bind_ok hpeek]
  cases hcase : t.kind <;> rw [hcase] at hkind <;> first | rfl | cases hkind

theorem checkVersion_ahead (h : Ahead s xs) : checkVersion s = .ok ((), s) := by
  rw [checkVersion, h.version]

theorem version_ahead (h : Ahead s xs) : version s = .ok ((1, 2), s) := by
  rw [version, h.version]
  rfl

theorem Ahead.fresh (h : Ahead s xs) : Ahead { s with count := s.count + 1 } xs :=
  ⟨h.version, h.tokens⟩

theorem scalarTag_phrase (p : Phrase) : scalarTag (1, 2) {} .plain p.chars = .ofCore p.core :=
  congrArg Tag.ofCore p.stands.resolve

theorem scalarTag_leaf : ∀ x : Leaf, scalarTag (1, 2) {} x.style x.content = .ofCore x.core
  | .plain p _ => scalarTag_phrase p
  | .quoted q => by
      obtain ⟨double, content, -⟩ := q
      cases double <;> rfl

/-- A scalar is read as its node. -/
theorem node_scalar {text : List Char} {style : ScalarStyle} {core : CoreTag} (depth : Nat)
    (place : Place) {behind : Option Comment}
    (htag : scalarTag (1, 2) {} style text = .ofCore core)
    (h : Ahead s ({ before, kind := .scalar text style [], behind } :: xs)) :
    ∃ mark s', node depth place s =
        .ok (.scalar (plainInfo s.count core mark (Comments.around before behind)) text style [],
          s') ∧
      Ahead s' xs ∧ s'.count = s.count + 1 := by
  obtain ⟨t, hpeek, hkind, -⟩ := peek_ahead h
  obtain ⟨t', s', hnext, -, hcomments, hs', hcount⟩ := next_ahead h
  refine ⟨t.start, { s' with count := s'.count + 1 }, ?_, hs'.fresh, by simp [hcount]⟩
  rw [node, bind_ok (peekKind_ahead h)]
  simp only
  rw [bind_ok (properties_ahead h rfl)]
  rw [bind_to () s rfl, bind_ok hpeek]
  simp only [hkind]
  rw [bind_ok hnext]
  -- Only plain scalars depend on whether the version is known.
  split
  · rw [bind_ok (checkVersion_ahead hs'), bind_ok (version_ahead hs'), hcomments, htag, ← hcount]
    rfl
  · rw [bind_ok (version_ahead hs'), hcomments, htag, ← hcount]
    rfl

/-! ## Items and entries -/

theorem map_ok {α β : Type} {x : Parse α} {f : α → β} {a : α} (h : x s = .ok (a, s')) :
    (f <$> x) s = .ok (f a, s') := by
  change (x s >>= fun p => pure (f p.1, p.2)) = _
  rw [h]
  rfl

theorem many_some {α : Type} {item : Parse (Option α)} {x : α} {xs : List α} {n : Nat}
    {s₁ : ParseState} (hitem : item s = .ok (some x, s₁))
    (hrest : many item n s₁ = .ok (xs, s')) : many item (n + 1) s = .ok (x :: xs, s') := by
  rw [many, bind_ok hitem]
  simp only
  rw [bind_ok hrest]
  rfl

theorem many_none {α : Type} {item : Parse (Option α)} (n : Nat)
    (hitem : item s = .ok (none, s)) :
    many item n s = .ok ([], s) := by
  cases n with
  | zero => rfl
  | succ n =>
      rw [many, bind_ok hitem]
      rfl

theorem bound_stream : ∀ {xs : List Laden} {stream : TokenStream}, stream.IsOf xs →
    bound stream = 2 * xs.length + 2
  | [], _, h => by
      rw [TokenStream.IsOf] at h
      rw [h]
      rfl
  | x :: xs, _, ⟨t, rest, hstream, _, _, hrest⟩ => by
      rw [hstream, bound, bound_stream hrest, List.length_cons]
      omega

theorem entryBound_ahead (h : Ahead s xs) : ∃ n, entryBound s = .ok (n, s) ∧ xs.length < n := by
  refine ⟨bound s.tokens, rfl, ?_⟩
  rw [bound_stream h.tokens]
  omega

/-- From the tokens `ts` something is read as often as there is something, down to the token `stop`,
and what is read has `count` nodes and is as `P` says. -/
def ReadsMany {α : Type} (item : Parse (Option α)) (ts : List Laden) (stop : Laden)
    (count : Nat) (P : Nat → List α → Prop) : Prop :=
  ∀ ⦃n : Nat⦄ ⦃s : ParseState⦄ ⦃xs : List Laden⦄, Ahead s (ts ++ stop :: xs) →
    ts.length < n → ∃ found s', many item n s = .ok (found, s') ∧ Ahead s' (stop :: xs) ∧
      s'.count = s.count + count ∧ P s.count found

/-- A reader of items: it passes a dash and reads a node, which takes the comments in front of the
dash, and stops in front of the given token. -/
structure ReadsItems (depth : Nat) (item : Parse (Option Node)) (stop : Laden) : Prop where
  reads : ∀ {s : ParseState} {x : Laden} {xs : List Laden} {before : List Leading},
    beginsNode x.kind = true → isEntry x.kind = false → x.before = [] →
      Ahead s ({ before, kind := .blockEntry } :: x :: xs) →
        ∃ s₁, Ahead s₁ ({ x with before } :: xs) ∧ s₁.count = s.count ∧
          ∀ n s', node depth { block := true } s₁ = .ok (n, s') → item s = .ok (some n, s')
  stops : ∀ {s : ParseState} {xs : List Laden}, Ahead s (stop :: xs) → item s = .ok (none, s)

theorem beginsNode_not {kind : TokenKind} (h : beginsNode kind = true) :
    isKey kind = false ∧ isValue kind = false ∧ isBlockEnd kind = false := by
  cases kind <;> first | exact ⟨rfl, rfl, rfl⟩ | cases h

theorem readsItems_block (depth : Nat) :
    ReadsItems depth (blockItem (node depth)) { kind := .blockEnd } where
  reads {s x xs before} hkind hentry hx h := by
    obtain ⟨t, s₁, hnext, -, hcomments, hs₁, hcount₁⟩ := next_ahead h
    obtain ⟨moved, s₂, hmove, hs₂, hcount₂⟩ := moveComments_onto hcomments hkind hx hs₁
    obtain ⟨-, -, hend⟩ := beginsNode_not hkind
    refine ⟨s₂, hs₂, hcount₂.trans hcount₁, fun n s' hnode => ?_⟩
    rw [blockItem, bind_ok (peekKind_ahead h), if_pos (by rfl), bind_ok hnext, bind_ok hmove,
      bind_ok (peekKind_ahead hs₂), if_neg (by simp [hentry, hend])]
    exact map_ok hnode
  stops {s xs} h := by
    rw [blockItem, bind_ok (peekKind_ahead h), if_neg (by simp [isEntry]), if_pos (by rfl)]
    rfl

theorem readsItems_indentless (depth : Nat) {stop : Laden} (hstop : isEntry stop.kind = false) :
    ReadsItems depth (indentlessItem (node depth)) stop where
  reads {s x xs before} hkind hentry hx h := by
    obtain ⟨t, s₁, hnext, -, hcomments, hs₁, hcount₁⟩ := next_ahead h
    obtain ⟨moved, s₂, hmove, hs₂, hcount₂⟩ := moveComments_onto hcomments hkind hx hs₁
    obtain ⟨hkey, hvalue, hend⟩ := beginsNode_not hkind
    refine ⟨s₂, hs₂, hcount₂.trans hcount₁, fun n s' hnode => ?_⟩
    rw [indentlessItem, bind_ok (peekKind_ahead h), if_pos (by rfl), bind_ok hnext,
      bind_ok hmove, bind_ok (peekKind_ahead hs₂), if_neg (by simp [hentry, hkey, hvalue, hend])]
    exact map_ok hnode
  stops {s xs} h := by
    rw [indentlessItem, bind_ok (peekKind_ahead h), hstop]
    rfl

/-- The place of a node, under a key or elsewhere. -/
abbrev placeOf (underKey : Bool) : Place :=
  { block := true, indentless := underKey }

/-- A list with tokens of its own for its beginning and its end. -/
theorem node_list {depth count : Nat} {ts : List Laden} {P : Nat → List Node → Prop}
    (underKey : Bool)
    (hitems : ReadsMany (blockItem (node depth)) ts { kind := .blockEnd } count P)
    (h : Ahead s
      ({ before, kind := .blockSequenceStart } :: (ts ++ { kind := .blockEnd } :: xs))) :
    ∃ mark nodes s', node (depth + 1) (placeOf underKey) s =
        .ok (.sequence (plainInfo s.count .seq mark (Comments.around before none)) false nodes,
          s') ∧
      Ahead s' xs ∧ s'.count = s.count + 1 + count ∧ P (s.count + 1) nodes := by
  obtain ⟨t, hpeek, hkind, hcomments⟩ := peek_ahead h
  have hown : sequenceComments t s = .ok (Comments.around before none, s) := by
    rw [sequenceComments, hcomments]
    cases before <;> rfl
  obtain ⟨t₁, s₁, hnext, -, -, hs₁, hcount₁⟩ := next_ahead h.fresh
  obtain ⟨n, hn, hlength⟩ := entryBound_ahead hs₁
  rw [List.length_append] at hlength
  obtain ⟨nodes, s₂, hmany, hs₂, hcount₂, hnodes⟩ := hitems (n := n) hs₁ (by omega)
  obtain ⟨t₃, s₃, hlast, -, hlastComments, hs₃, hcount₃⟩ := next_ahead hs₂
  rw [hcount₁] at hcount₂ hnodes
  refine ⟨t.start, nodes, s₃, ?_, hs₃, by rw [hcount₃, hcount₂], hnodes⟩
  rw [node, bind_ok (peekKind_ahead h)]
  simp only
  rw [bind_ok (properties_ahead h rfl), bind_to () s rfl, bind_ok hpeek]
  simp only [hkind, if_true]
  rw [bind_ok hown]
  rw [bind_to (plainInfo s.count .seq t.start (Comments.around before none))
    { s with count := s.count + 1 } rfl]
  rw [bind_ok hnext, bind_ok hn, bind_ok hmany, bind_ok hlast, hlastComments]
  rfl

/-- A list in the column of its key. -/
theorem node_indentless {depth count : Nat} {ts : List Laden} {stop : Laden}
    {P : Nat → List Node → Prop} (hstop : stop.before = [])
    (hitems : ReadsMany (indentlessItem (node depth)) ({ before, kind := .blockEntry } :: ts)
      stop count P)
    (h : Ahead s ({ before, kind := .blockEntry } :: (ts ++ stop :: xs))) :
    ∃ mark nodes s', node (depth + 1) (placeOf true) s =
        .ok (.sequence (plainInfo s.count .seq mark) false nodes, s') ∧
      Ahead s' (stop :: xs) ∧ s'.count = s.count + 1 + count ∧ P (s.count + 1) nodes := by
  obtain ⟨t, hpeek, hkind, hcomments⟩ := peek_ahead h
  obtain ⟨n, hn, hlength⟩ := entryBound_ahead h.fresh
  rw [← List.cons_append, List.length_append] at hlength
  obtain ⟨nodes, s', hmany, hs', hcount, hnodes⟩ := hitems (n := n) h.fresh (by omega)
  obtain ⟨last, hlast, -, hlastComments⟩ := peek_ahead hs'
  rw [hstop] at hlastComments
  refine ⟨t.start, nodes, s', ?_, hs', hcount, hnodes⟩
  rw [node, bind_ok (peekKind_ahead h)]
  simp only
  rw [bind_ok (properties_ahead h rfl), bind_to () s rfl, bind_ok hpeek]
  -- No comment is behind the dash, and those in front of it are left to the first item.
  have hfront : t.comments = none ∨ ∃ ls, t.comments = some { before := ls } := by
    rw [hcomments]
    cases before with
    | nil => exact .inl rfl
    | cons l ls => exact .inr ⟨_, rfl⟩
  rcases hfront with hfront | ⟨ls, hfront⟩ <;>
  · simp only [hkind, if_true, hfront]
    rw [bind_to none s rfl,
      bind_to (plainInfo s.count .seq t.start) { s with count := s.count + 1 } rfl,
      bind_ok hn, bind_ok hmany, bind_ok hlast, hlastComments]
    rfl

theorem node_mapping {depth count : Nat} {ts : List Laden}
    {P : Nat → List (Node × Node) → Prop} (underKey : Bool)
    (hentries : ReadsMany (blockEntry (node depth)) ts { kind := .blockEnd } count P)
    (h : Ahead s
      ({ before, kind := .blockMappingStart } :: (ts ++ { kind := .blockEnd } :: x :: xs))) :
    ∃ mark pairs s', node (depth + 1) (placeOf underKey) s =
        .ok (.mapping (plainInfo s.count .map mark (Comments.around before none)) false pairs,
          s') ∧
      Ahead s' (x :: xs) ∧ s'.count = s.count + 1 + count ∧ P (s.count + 1) pairs := by
  obtain ⟨t, hpeek, hkind, hcomments⟩ := peek_ahead h
  obtain ⟨t₁, s₁, hnext, -, -, hs₁, hcount₁⟩ := next_ahead h.fresh
  obtain ⟨n, hn, hlength⟩ := entryBound_ahead hs₁
  rw [List.length_append] at hlength
  obtain ⟨pairs, s₂, hmany, hs₂, hcount₂, hpairs⟩ := hentries (n := n) hs₁ (by omega)
  obtain ⟨last, s', hlast, -, hlastComments, hs', hcount⟩ := next_ahead hs₂
  rw [hcount₁] at hcount₂ hpairs
  refine ⟨t.start, pairs, s', ?_, hs', by rw [hcount, hcount₂], hpairs⟩
  rw [node, bind_ok (peekKind_ahead h)]
  simp only
  rw [bind_ok (properties_ahead h rfl), bind_to () s rfl, bind_ok hpeek]
  simp only [hkind, if_true, hcomments]
  rw [bind_to (plainInfo s.count .map t.start (Comments.around before none))
    { s with count := s.count + 1 } rfl,
    bind_ok hnext, bind_ok hn, bind_ok hmany, bind_ok hlast,
    bind_ok (moveComments_ahead hlastComments hs' false), hlastComments]
  rfl

theorem blockValue_ahead (hkind : beginsNode x.kind = true)
    (h : Ahead s ({ kind := .value } :: x :: xs)) :
    ∃ s', Ahead s' (x :: xs) ∧ s'.count = s.count ∧
      ∀ read : Place → Parse Node, blockValue read s = read (placeOf true) s' := by
  obtain ⟨t, s', hnext, -, hcomments, hs', hcount⟩ := next_ahead h
  obtain ⟨hkey, hvalue, hend⟩ := beginsNode_not hkind
  refine ⟨s', hs', hcount, fun read => ?_⟩
  rw [blockValue, bind_ok (peekKind_ahead h), if_pos (by rfl), bind_ok hnext,
    bind_ok (peekKind_ahead hs')]
  simp only [hkey, hvalue, Bool.false_eq_true, if_false]
  rw [bind_ok (moveComments_ahead hcomments hs' true), bind_ok (peekKind_ahead hs')]
  simp only [hkey, hvalue, hend, Bool.or_self, Bool.false_eq_true, if_false]

theorem blockEntry_ahead {key : Key} (depth : Nat) (hkind : beginsNode x.kind = true)
    (h : Ahead s (Noted.keyTokens key ++ x :: xs)) :
    ∃ mark s', Ahead s' (x :: xs) ∧ s'.count = s.count + 1 ∧
      ∀ value s'', node depth (placeOf true) s' = .ok (value, s'') →
        blockEntry (node depth) s = .ok (some (keyNode key s.count mark, value), s'') := by
  obtain ⟨t, s₁, hnext, -, hcomments, hs₁, hcount₁⟩ := next_ahead h
  obtain ⟨mark, s₂, hnode, hs₂, hcount₂⟩ :=
    node_scalar depth (placeOf true) (scalarTag_phrase key.toPhrase) hs₁
  obtain ⟨s', hs', hcount, hvalue⟩ := blockValue_ahead hkind hs₂
  rw [hcount₁] at hnode hcount₂
  refine ⟨mark, s', hs', by omega, fun value s'' hread => ?_⟩
  rw [blockEntry, bind_ok (peekKind_ahead h), if_pos (by rfl), bind_ok hnext,
    bind_ok (moveComments_ahead hcomments hs₁ false), bind_ok (peekKind_ahead hs₁)]
  simp only [isKey, isValue, isBlockEnd, Bool.or_self, Bool.false_eq_true, if_false]
  rw [bind_ok hnode, bind_ok ((hvalue _).trans hread)]
  rfl

theorem blockEntry_stops (depth : Nat) (h : Ahead s ({ kind := .blockEnd } :: xs)) :
    blockEntry (node depth) s = .ok (none, s) := by
  rw [blockEntry, bind_ok (peekKind_ahead h)]
  simp only [isKey, isValue, isBlockEnd, Bool.false_eq_true, Bool.false_and, if_false, if_true]
  rfl

/-! ## Noted trees -/

/-- Comments in front of a noted tree are in front of its first token, unless it is a list in the
column of its key. -/
theorem tokens_begin (t : Noted) :
    ∃ (x : Laden) (more : List Laden), x.before = [] ∧ beginsNode x.kind = true ∧
    isEntry x.kind = false ∧ ∀ before, t.tokens false before = { x with before } :: more := by
  cases t with
  | leaf x behind =>
      exact ⟨{ kind := .scalar x.content x.style [], behind }, [], rfl, rfl, rfl, fun _ => rfl⟩
  | list flush items =>
      exact ⟨{ kind := .blockSequenceStart }, _, rfl, rfl, rfl, fun _ => rfl⟩
  | table entries => exact ⟨{ kind := .blockMappingStart }, _, rfl, rfl, rfl, fun _ => rfl⟩

theorem tokens_items_begin (items : Noted.Items) :
    ∃ before more, items.tokens = { before, kind := .blockEntry } :: more := by
  cases items <;> exact ⟨_, _, rfl⟩

theorem tokens_begin_underKey (t : Noted) (before : List Leading) :
    ∃ x more, t.tokens true before = x :: more ∧ beginsNode x.kind = true := by
  cases t with
  | leaf x behind => exact ⟨_, _, rfl, rfl⟩
  | list flush items =>
      obtain ⟨front, more, hitems⟩ := tokens_items_begin items
      rw [Noted.tokens]
      split
      · exact ⟨_, _, hitems, rfl⟩
      · exact ⟨_, _, rfl, rfl⟩
  | table entries => exact ⟨_, _, rfl, rfl⟩

/-- What may follow a noted tree under a key: a list in the column of the key goes on with every
dash, and takes comments that follow it for its own. -/
def MayFollow (underKey : Bool) (stop : Laden) : Prop :=
  underKey = true → isEntry stop.kind = false ∧ stop.before = []

/-- The tokens of a noted tree are read as its node. -/
def ReadsNode (t : Noted) : Prop :=
  ∀ ⦃underKey : Bool⦄ ⦃before : List Leading⦄ ⦃depth : Nat⦄ ⦃s : ParseState⦄
    ⦃stop : Laden⦄ ⦃xs : List Laden⦄, MayFollow underKey stop → t.tree.height ≤ depth →
      Ahead s (t.tokens underKey before ++ stop :: xs) →
        ∃ n s', node depth (placeOf underKey) s = .ok (n, s') ∧ Ahead s' (stop :: xs) ∧
          s'.count = s.count + t.tree.count ∧ t.IsNode s.count (t.comments before) n

theorem reads_item {t : Noted} (ht : ReadsNode t) {depth : Nat} {item : Parse (Option Node)}
    {stop : Laden} (hitem : ReadsItems depth item stop) (hdepth : t.tree.height ≤ depth)
    (h : Ahead s ({ before, kind := .blockEntry } :: (t.tokens false [] ++ x :: xs))) :
    ∃ n s', item s = .ok (some n, s') ∧ Ahead s' (x :: xs) ∧
      s'.count = s.count + t.tree.count ∧ t.IsNode s.count (t.comments before) n := by
  obtain ⟨first, more, hbefore, hfirst, hentry, htokens⟩ := tokens_begin t
  have hfirstBare : { first with before := [] } = first := by rw [← hbefore]
  rw [htokens, hfirstBare, List.cons_append] at h
  obtain ⟨s₁, hs₁, hcount₁, hread⟩ := hitem.reads hfirst hentry hbefore h
  rw [← List.cons_append, ← htokens] at hs₁
  have hfollow : MayFollow false x := fun h => absurd h Bool.false_ne_true
  obtain ⟨n, s', hnode, hs', hcount, hn⟩ := ht hfollow hdepth hs₁
  rw [hcount₁] at hcount hn
  exact ⟨n, s', hread n s' hnode, hs', hcount, hn⟩

theorem reads_entry {key : Key} {t : Noted} (ht : ReadsNode t) {depth : Nat}
    (hdepth : t.tree.height ≤ depth) {stop : Laden} (hstop : MayFollow true stop)
    (h : Ahead s (Noted.keyTokens key ++ (t.tokens true before ++ stop :: xs))) :
    ∃ mark n s', blockEntry (node depth) s =
        .ok (some (keyNode key s.count mark, n), s') ∧ Ahead s' (stop :: xs) ∧
      s'.count = s.count + 1 + t.tree.count ∧ t.IsNode (s.count + 1) (t.comments before) n := by
  obtain ⟨first, more, htokens, hfirst⟩ := tokens_begin_underKey t before
  rw [htokens, List.cons_append] at h
  obtain ⟨mark, s₁, hs₁, hcount₁, hread⟩ := blockEntry_ahead depth hfirst h
  rw [← List.cons_append, ← htokens] at hs₁
  obtain ⟨n, s', hnode, hs', hcount, hn⟩ := ht hstop hdepth hs₁
  rw [hcount₁] at hcount hn
  exact ⟨mark, n, s', hread n s' hnode, hs', hcount, hn⟩

theorem tokens_entries_begin (entries : Noted.Entries) :
    ∃ more, entries.tokens = { kind := .key } :: more := by
  cases entries <;> exact ⟨_, rfl⟩

theorem exists_succ {m n : Nat} (h : m < n) : ∃ k, n = k + 1 ∧ m ≤ k :=
  ⟨n - 1, by omega⟩

-- By induction on the tree, with the nesting that is left for it.
mutual

theorem reads_noted : ∀ t : Noted, ReadsNode t
  | .leaf x behind => by
      intro underKey before depth s stop xs _ _ h
      obtain ⟨mark, s', hnode, hs', hcount⟩ :=
        node_scalar depth (placeOf underKey) (scalarTag_leaf x) h
      exact ⟨_, s', hnode, hs', hcount, mark, rfl⟩
  | .list flush items => by
      intro underKey before depth s stop xs hstop hdepth h
      obtain ⟨depth, rfl, hitemsDepth⟩ := exists_succ hdepth
      rw [Noted.tree, Tree.count, Nat.add_comm items.trees.count 1]
      rw [Noted.tokens] at h
      split at h
      · next hflush =>
          simp only [Bool.and_eq_true, List.isEmpty_iff] at hflush
          obtain ⟨⟨rfl, -⟩, rfl⟩ := hflush
          obtain ⟨front, more, hmore⟩ := tokens_items_begin items
          have hitems :=
            reads_items items (readsItems_indentless depth (hstop rfl).1) hitemsDepth
          rw [hmore] at h hitems
          obtain ⟨mark, nodes, s', hnode, hs', hcount, hnodes⟩ :=
            node_indentless (hstop rfl).2 hitems h
          exact ⟨_, s', hnode, hs', hcount.trans (Nat.add_assoc _ _ _), mark, nodes,
            rfl, hnodes⟩
      · rw [List.cons_append, List.append_assoc] at h
        obtain ⟨mark, nodes, s', hnode, hs', hcount, hnodes⟩ :=
          node_list underKey (reads_items items (readsItems_block depth) hitemsDepth) h
        exact ⟨_, s', hnode, hs', hcount.trans (Nat.add_assoc _ _ _), mark, nodes, rfl, hnodes⟩
  | .table entries => by
      intro underKey before depth s stop xs _ hdepth h
      obtain ⟨depth, rfl, hentriesDepth⟩ := exists_succ hdepth
      rw [Noted.tree, Tree.count, Nat.add_comm entries.trees.count 1]
      rw [Noted.tokens, List.cons_append, List.append_assoc] at h
      obtain ⟨mark, pairs, s', hnode, hs', hcount, hpairs⟩ :=
        node_mapping underKey (reads_entries entries hentriesDepth) h
      exact ⟨_, s', hnode, hs', hcount.trans (Nat.add_assoc _ _ _), mark, pairs, rfl, hpairs⟩

theorem reads_items : ∀ (items : Noted.Items) {depth : Nat} {item : Parse (Option Node)}
    {stop : Laden}, ReadsItems depth item stop → items.trees.height ≤ depth →
      ReadsMany item items.tokens stop items.trees.count items.AreNodes
  | .last before t, depth, item, stop, hitem, hdepth => by
      intro n s xs h hn
      obtain ⟨n, rfl, -⟩ := exists_succ hn
      rw [Noted.Items.tokens, List.cons_append] at h
      obtain ⟨x, s', hread, hs', hcount, hx⟩ := reads_item (reads_noted t) hitem hdepth h
      exact ⟨[x], s', many_some hread (many_none n (hitem.stops hs')), hs', hcount, x, rfl, hx⟩
  | .cons before t more, depth, item, stop, hitem, hdepth => by
      intro n s xs h hn
      obtain ⟨front, rest, hrest⟩ := tokens_items_begin more
      have hheights := Nat.max_le.mp hdepth
      rw [Noted.Items.tokens, List.cons_append, List.append_assoc, hrest, List.cons_append] at h
      obtain ⟨x, s₁, hread, hs₁, hcount₁, hx⟩ :=
        reads_item (reads_noted t) hitem hheights.1 h
      rw [← List.cons_append, ← hrest] at hs₁
      rw [Noted.Items.tokens, List.length_cons, List.length_append] at hn
      obtain ⟨n, rfl, hlength⟩ := exists_succ hn
      obtain ⟨found, s', hmore, hs', hcount, hfound⟩ :=
        reads_items more hitem hheights.2 (n := n) hs₁ (by omega)
      rw [hcount₁] at hcount hfound
      refine ⟨x :: found, s', many_some hread hmore, hs', ?_, x, found, rfl, hx, hfound⟩
      exact hcount.trans (Nat.add_assoc _ _ _)

theorem reads_entries : ∀ (entries : Noted.Entries) {depth : Nat},
    entries.trees.height ≤ depth →
      ReadsMany (blockEntry (node depth)) entries.tokens { kind := .blockEnd }
        entries.trees.count
        entries.AreNodes
  | .last key before t, depth, hdepth => by
      intro n s xs h hn
      obtain ⟨n, rfl, -⟩ := exists_succ hn
      rw [Noted.Entries.tokens, List.append_assoc] at h
      obtain ⟨mark, x, s', hread, hs', hcount, hx⟩ :=
        reads_entry (reads_noted t) hdepth (fun _ => ⟨rfl, rfl⟩) h
      refine ⟨[(_, x)], s', many_some hread (many_none n (blockEntry_stops depth hs')), hs', ?_,
        mark, x, rfl, hx⟩
      exact hcount.trans (Nat.add_right_comm _ _ _)
  | .cons key before t more, depth, hdepth => by
      intro n s xs h hn
      obtain ⟨rest, hrest⟩ := tokens_entries_begin more
      have hheights := Nat.max_le.mp hdepth
      rw [Noted.Entries.tokens, List.append_assoc, List.append_assoc, hrest,
        List.cons_append] at h
      obtain ⟨mark, x, s₁, hread, hs₁, hcount₁, hx⟩ :=
        reads_entry (reads_noted t) hheights.1 (fun _ => ⟨rfl, rfl⟩) h
      rw [← List.cons_append, ← hrest] at hs₁
      rw [Noted.Entries.tokens, List.length_append, List.length_append, Noted.keyTokens] at hn
      obtain ⟨n, rfl, hlength⟩ := exists_succ hn
      obtain ⟨found, s', hmore, hs', hcount, hfound⟩ :=
        reads_entries more hheights.2 (n := n) hs₁
          (by simp only [List.length_cons] at hlength; omega)
      rw [hcount₁] at hcount hfound
      refine ⟨_, s', many_some hread hmore, hs', ?_, mark, x, found, rfl, hx, hfound⟩
      rw [hcount, Noted.Entries.trees, Tree.Entries.count]
      omega

end

/-! ## Documents -/

theorem endsDocument_of_beginsNode {kind : TokenKind} (h : beginsNode kind = true) :
    endsDocument kind = false := by
  cases kind <;> first | rfl | cases h

variable {r : Headed}

theorem tokens_headed_begin (r : Headed) :
    ∃ (y : Laden) (more : List Laden), r.tokens = y :: more ∧ beginsNode y.kind = true := by
  obtain ⟨y, more, -, hfirst, -, htokens⟩ := tokens_begin r.root
  exact ⟨_, more, htokens r.before, hfirst⟩

/-- A noted tree is the root of a document, whether there is a marker in front of it or not. -/
theorem documentBody_headed (explicit : Bool) (hdepth : r.root.tree.height ≤ depthLimit)
    (hkind : x.kind ≠ .documentEnd) (h : Ahead s (r.tokens ++ x :: xs)) :
    ∃ n s', documentBody explicit s = .ok ((n, false), s') ∧ Ahead s' (x :: xs) ∧
      r.root.IsNode s.count r.comments n := by
  have hfollow : MayFollow false x := fun h => absurd h Bool.false_ne_true
  obtain ⟨n, s', hnode, hs', -, hn⟩ := reads_noted r.root hfollow hdepth h
  obtain ⟨first, more, htokens, hfirst⟩ := tokens_headed_begin r
  rw [htokens, List.cons_append] at h
  obtain ⟨t, hpeek, ht, -⟩ := peek_ahead h
  obtain ⟨last, hlast, hlastKind, -⟩ := peek_ahead hs'
  have hbegins : endsDocument t.kind = false := by
    rw [ht]
    exact endsDocument_of_beginsNode hfirst
  refine ⟨n, s', ?_, hs', hn⟩
  rw [documentBody, bind_ok hpeek]
  simp only [hbegins, Bool.and_false, Bool.false_eq_true, if_false]
  rw [bind_ok hnode, bind_ok hlast]
  rw [← hlastKind] at hkind
  cases hcase : last.kind <;> first | rfl | exact absurd hcase hkind

/-- What is read when a document was: it has the root that is given, and one with a marker may
follow. -/
abbrev readDocument (n : Node) : Option (NodeDocument × Expected) :=
  some ({ root := n, version := (1, 2) }, .explicitDocument)

/-- The first document of a text. -/
theorem document_first (hdepth : r.root.tree.height ≤ depthLimit)
    (hkind : x.kind ≠ .documentEnd) (h : Ahead s (r.tokens ++ x :: xs)) :
    ∃ n s', document .implicitDocument s = .ok (readDocument n, s') ∧ Ahead s' (x :: xs) ∧
      r.root.IsNode 0 r.comments n := by
  have hstart : Ahead { s with handles := defaultHandles, anchors := [], count := 0 }
      (r.tokens ++ x :: xs) := ⟨h.version, h.tokens⟩
  obtain ⟨n, s', hbody, hs', hn⟩ := documentBody_headed false hdepth hkind hstart
  obtain ⟨⟨before, kind, behind⟩, more, htokens, hfirst⟩ := tokens_headed_begin r
  rw [htokens, List.cons_append] at h
  refine ⟨n, s', ?_, hs', hn⟩
  rw [document, bind_ok (peekKind_ahead h)]
  cases kind <;> first
    | exact absurd hfirst Bool.false_ne_true
    | (simp only [Bool.not_true, Bool.false_eq_true, if_false, if_true]
       rw [bind_ok (peekKind_ahead h), bind_to () { s with handles := defaultHandles } rfl,
         bind_to () { s with handles := defaultHandles, anchors := [], count := 0 } rfl,
         bind_ok hbody, bind_ok (version_ahead hs')]
       rfl)

theorem skipEnds_ahead (n : Nat) (hkind : x.kind ≠ .documentEnd) (h : Ahead s (x :: xs)) :
    skipEnds n s = .ok ((), s) := by
  cases n with
  | zero => rfl
  | succ n =>
      rw [skipEnds, bind_ok (peekKind_ahead h)]
      cases hcase : x.kind <;> first | rfl | exact absurd hcase hkind

/-- A document behind a marker. -/
theorem document_next (hdepth : r.root.tree.height ≤ depthLimit) (hkind : x.kind ≠ .documentEnd)
    (h : Ahead s ({ kind := .documentStart } :: (r.tokens ++ x :: xs))) :
    ∃ n s', document .explicitDocument s = .ok (readDocument n, s') ∧ Ahead s' (x :: xs) ∧
      r.root.IsNode 0 r.comments n := by
  obtain ⟨t, hpeek, hpeekKind, -⟩ := peek_ahead h
  let s₀ : ParseState := { s with version := none, handles := [] ++ defaultHandles }
  have hdirectives (n : Nat) : directives (n + 1) none [] s = .ok ((), s₀) := by
    rw [directives, bind_ok hpeek]
    simp only [hpeekKind]
    rfl
  have hs₀ : Ahead s₀ ({ kind := .documentStart } :: (r.tokens ++ x :: xs)) :=
    ⟨rfl, h.tokens⟩
  obtain ⟨t₀, hpeek₀, hkind₀, -⟩ := peek_ahead hs₀
  obtain ⟨t₁, s₁, hnext, -, -, hs₁, -⟩ := next_ahead hs₀
  have hstart : Ahead { s₁ with anchors := [], count := 0 } (r.tokens ++ x :: xs) :=
    ⟨hs₁.version, hs₁.tokens⟩
  obtain ⟨n, s', hbody, hs', hn⟩ := documentBody_headed true hdepth hkind hstart
  obtain ⟨m, hm, hlength⟩ := entryBound_ahead h
  obtain ⟨k, rfl, -⟩ := exists_succ hlength
  refine ⟨n, s', ?_, hs', hn⟩
  rw [document, bind_ok (peekKind_ahead h)]
  simp only [Bool.not_false, if_true]
  rw [bind_ok hm, bind_ok (skipEnds_ahead _ (by simp) h), bind_ok (peekKind_ahead h)]
  simp only [Bool.false_eq_true, if_false]
  rw [bind_ok hm, bind_ok (hdirectives k), bind_ok hpeek₀]
  simp only [hkind₀]
  rw [bind_ok hnext, bind_to () { s₁ with anchors := [], count := 0 } rfl, bind_ok hbody,
    bind_ok (version_ahead hs')]
  rfl

/-- At the end of the stream there is no document, whatever comments are in front of it. -/
theorem document_end (expected : Expected) (h : Ahead s [{ before, kind := .streamEnd }]) :
    document expected s = .ok (none, s) := by
  rw [document, bind_ok (peekKind_ahead h)]
  cases expected <;>
    (simp only [Bool.not_false, if_true]
     rw [bind_to (bound s.tokens) s rfl, bind_ok (skipEnds_ahead _ (by simp) h),
       bind_ok (peekKind_ahead h)]
     rfl)

end Parse

/-! ## Texts -/

namespace NodeStream

/-- The documents with the given roots. -/
def AreOf : List Headed → NodeStream → Prop
  | [], stream => stream = .done
  | r :: rs, stream => ∃ n rest, stream = .more { root := n, version := (1, 2) } rest ∧
      r.root.IsNode 0 r.comments n ∧ AreOf rs rest

theorem laterTokens_begin (rs : List Headed) :
    ∃ (x : Laden) (xs : List Laden),
      Headed.laterTokens rs ++ [{ kind := .streamEnd }] = x :: xs ∧
      x.kind ≠ .documentEnd := by
  cases rs with
  | nil => exact ⟨_, _, rfl, by simp⟩
  | cons q rs => exact ⟨_, _, rfl, by simp⟩

theorem length_le_laterTokens (rs : List Headed) :
    rs.length ≤ (Headed.laterTokens rs).length := by
  induction rs with
  | nil => exact Nat.le_refl 0
  | cons r rs ih =>
      rw [Headed.laterTokens] at ih ⊢
      rw [List.flatMap_cons, List.length_append, List.length_cons, List.length_cons]
      omega

/-- Documents behind another one are read. -/
theorem areOf_read : ∀ {rs : List Headed} {n : Nat} {s : ParseState},
    (∀ r ∈ rs, r.root.tree.height ≤ depthLimit) → rs.length < n →
      Parse.Ahead s (Headed.laterTokens rs ++ [{ kind := .streamEnd }]) →
        AreOf rs (.read n .explicitDocument s)
  | [], n + 1, s, _, _, h => by
      rw [NodeStream.read, Parse.document_end _ h]
      rfl
  | r :: rs, n + 1, s, hdepth, hn, h => by
      obtain ⟨x, xs, hlater, hkind⟩ := laterTokens_begin rs
      rw [Headed.laterTokens, List.flatMap_cons, List.cons_append, List.cons_append,
        List.append_assoc, ← Headed.laterTokens, hlater] at h
      obtain ⟨node, s', hread, hs', hnode⟩ := Parse.document_next (hdepth r (by simp)) hkind h
      rw [← hlater] at hs'
      rw [NodeStream.read, hread]
      exact ⟨node, _, rfl, hnode, areOf_read (fun q hq => hdepth q (by simp [hq]))
        (Nat.lt_of_succ_lt_succ hn) hs'⟩

/-- A text with the tokens of some roots is read as the documents with these roots. -/
theorem areOf_ofText {text : List Char} {r : Headed} {rs : List Headed}
    (hdepth : ∀ q ∈ r :: rs, q.root.tree.height ≤ depthLimit)
    (hclean : unacceptable? text = none)
    (htokens : (TokenStream.ofText text).IsOf
      ({ kind := .streamStart } ::
      (r.tokens ++ (Headed.laterTokens rs ++ [{ kind := .streamEnd }])))) :
    AreOf (r :: rs) (.ofText text) := by
  have hbound := Parse.bound_stream htokens
  obtain ⟨x, xs, hlater, hkind⟩ := laterTokens_begin rs
  have hahead : Parse.Ahead { tokens := TokenStream.ofText text }
      ({ kind := .streamStart } :: (r.tokens ++ x :: xs)) := ⟨rfl, hlater ▸ htokens⟩
  obtain ⟨t, s, hnext, -, -, hs, -⟩ := Parse.next_ahead hahead
  obtain ⟨node, s', hdocument, hs', hnode⟩ :=
    Parse.document_first (hdepth r (by simp)) hkind hs
  rw [← hlater] at hs'
  obtain ⟨n, hn, hle⟩ : ∃ n, Parse.bound (TokenStream.ofText text) = n + 1 ∧
    rs.length < n := by
    have hlength := length_le_laterTokens rs
    rw [List.length_cons, List.length_append, List.length_append] at hbound
    exact ⟨_, hbound, by omega⟩
  rw [NodeStream.ofText, hclean]
  simp only [hnext]
  rw [hn, NodeStream.read, hdocument]
  exact ⟨node, _, rfl, hnode, areOf_read (fun q hq => hdepth q (by simp [hq])) hle hs'⟩

/-- A text without tokens has no documents. -/
theorem ofText_eq_done {text : List Char} {before : List Leading}
    (hclean : unacceptable? text = none)
    (htokens : (TokenStream.ofText text).IsOf
      [{ kind := .streamStart }, { before, kind := .streamEnd }]) :
    ofText text = .done := by
  have hbound := Parse.bound_stream htokens
  have hahead : Parse.Ahead { tokens := TokenStream.ofText text }
      [{ kind := .streamStart }, { before, kind := .streamEnd }] := ⟨rfl, htokens⟩
  obtain ⟨t, s, hnext, -, -, hs, -⟩ := Parse.next_ahead hahead
  rw [ofText, hclean]
  simp only [hnext]
  rw [hbound, List.length_cons, read, Parse.document_end _ hs]

end NodeStream
end Yaml
end YamlTidy
