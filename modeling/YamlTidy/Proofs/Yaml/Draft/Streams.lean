import YamlTidy.Proofs.Yaml.Draft.Lexing
import YamlTidy.Proofs.Yaml.Noted.Nodes

/-!
# The comments of the tokens of drafts

The remarks below a leaf stay behind it as one comment, and all others go to the token that follows
them (`TokenStream.assemble_pieces`, by induction on the tokens).  So a text that is read as orderly
tokens with their remarks is a stream of them (`TokenStream.ofText_of_lexesTo`), and the tokens of
sheets are orderly.
-/

namespace YamlTidy
namespace Yaml

open Text

/-! ## Comments and remarks -/

/-- Leading comments are those of remarks. -/
def Leading.AreOf (ls : List Leading) (rs : List Remark) : Prop :=
  ∃ cs : List Comment, ls = cs.map .comment ∧ List.Forall₂ Comment.IsOf cs rs

/-- A comment behind a leaf is that of the remarks below it, if there are any. -/
def Comment.Follows (c : Option Comment) (rs : List Remark) : Prop :=
  (rs = [] ∧ c = none) ∨
    ∃ d k, rs ≠ [] ∧ c = some d ∧ d.text = List.replicate (k + 1) '\n' ++ Remark.texts rs

/-- A token has the remarks of an attended token as its comments. -/
structure Attended.Is (a : Attended) (x : Laden) : Prop where
  kind : x.kind = a.kind
  before : Leading.AreOf x.before a.before
  behind : Comment.Follows x.behind a.behind

namespace Attended

/-- Remarks stand behind scalars only, and those below a scalar are not in front of the next token.
`afterScalar` says whether the token in front is a scalar. -/
def Orderly : Bool → List Attended → Prop
  | _, [] => True
  | afterScalar, a :: more =>
      (afterScalar = true → a.before = []) ∧
        (TokenStream.isScalar a.kind = false → a.behind = []) ∧
          Orderly (TokenStream.isScalar a.kind) more

theorem Orderly.append : ∀ {ts us : List Attended} {b : Bool}, Orderly b ts →
    (∀ b, Orderly b us) → Orderly b (ts ++ us)
  | [], _, b, _, h' => h' b
  | _ :: _, _, _, h, h' => ⟨h.1, h.2.1, h.2.2.append h'⟩

theorem Orderly.under {ts : List Attended} (h : ∀ b, Orderly b ts) (rs : List Remark) :
    Orderly false (under rs ts) := by
  cases ts with
  | nil => trivial
  | cons a more => exact ⟨by simp, (h false).2.1, (h false).2.2⟩

theorem orderly_bare (kind : TokenKind) (b : Bool) : Orderly b [{ kind }] :=
  ⟨fun _ => rfl, fun _ => rfl, trivial⟩

theorem orderly_leaf (x : Leaf) (below : List Remark) (b : Bool) : Orderly b [.leaf x below] :=
  ⟨fun _ => rfl, fun h => absurd h (by simp [TokenStream.isScalar]), trivial⟩

theorem orderly_enclosed {ts : List Attended} (h : ∀ b, Orderly b ts) (first last : TokenKind)
    (b : Bool) : Orderly b ({ kind := first } :: (ts ++ [{ kind := last }])) :=
  ⟨fun _ => rfl, fun _ => rfl, (h _).append (orderly_bare last)⟩

end Attended

namespace Draft

open Attended (Orderly)

theorem orderly_keyTokens (key : Key) {ts : List Attended} (h : Orderly false ts) (b : Bool) :
    Orderly b (keyTokens key ++ ts) :=
  ⟨fun _ => rfl, fun _ => rfl, fun _ => rfl, fun _ => rfl, fun _ => rfl, fun _ => rfl, h⟩

mutual

theorem orderly_tokens : ∀ (d : Draft) (b : Bool), Orderly b d.tokens
  | .leaf x _ below, b => Attended.orderly_leaf x below b
  | .list items, b => Attended.orderly_enclosed (orderly_items items) _ _ b
  | .table entries, b => Attended.orderly_enclosed (orderly_entries entries) _ _ b

theorem orderly_items : ∀ (items : Items) (b : Bool), Orderly b items.tokens
  | .last _ d, _ => ⟨fun _ => rfl, fun _ => rfl, orderly_tokens d _⟩
  | .cons _ d more, _ =>
      ⟨fun _ => rfl, fun _ => rfl, (orderly_tokens d _).append (orderly_items more)⟩

theorem orderly_entries : ∀ (entries : Entries) (b : Bool), Orderly b entries.tokens
  | .last key v, _ => orderly_keyTokens key (orderly_member v) _
  | .cons key v more, _ =>
      orderly_keyTokens key ((orderly_member v).append (orderly_entries more)) _

theorem orderly_member : ∀ v : Member, Orderly false v.tokens
  | .beside _ x _ below => Attended.orderly_leaf x below false
  | .leaf _ _ above x _ below => Orderly.under (Attended.orderly_leaf x below) above
  | .list _ 0 above items => Orderly.under (orderly_items items) above
  | .list _ (_ + 1) above items =>
      Orderly.under (Attended.orderly_enclosed (orderly_items items) _ _) above
  | .table _ _ above entries =>
      Orderly.under (Attended.orderly_enclosed (orderly_entries entries) _ _) above

end

end Draft

namespace Sheet

open Attended (Orderly)

theorem orderly_laterTokens : ∀ (ps : List Sheet) (b : Bool),
    Orderly b (laterTokens ps ++ [{ kind := .streamEnd }])
  | [], b => Attended.orderly_bare _ b
  | p :: ps, b => by
      rw [laterTokens, List.flatMap_cons, List.append_assoc]
      exact ⟨fun _ => rfl, fun _ => rfl,
        (Orderly.under p.draft.orderly_tokens p.front).append (orderly_laterTokens ps)⟩

theorem orderly_allTokens (p : Sheet) (ps : List Sheet) (b : Bool) :
    Orderly b (p.allTokens ps) :=
  ⟨fun _ => rfl, fun _ => rfl,
    (Orderly.under p.draft.orderly_tokens p.front).append (orderly_laterTokens ps)⟩

end Sheet

theorem Attended.orderly_remarks (rs : List Remark) :
    Orderly false ({ kind := .streamStart } :: under rs [{ kind := .streamEnd }]) :=
  ⟨fun _ => rfl, fun _ => rfl, Orderly.under (orderly_bare _) rs⟩

/-! ## Handing over the comments -/

/-- The lexemes of remarks and of what follows them. -/
theorem exists_comments {rs : List Remark} {ps : List Piece} :
    ∀ {xs : List Lexeme}, List.Forall₂ Lexeme.Is xs (rs.map .remark ++ ps) →
      ∃ cs xs', xs = cs.map .comment ++ xs' ∧ List.Forall₂ Comment.IsOf cs rs ∧
        List.Forall₂ Lexeme.Is xs' ps := by
  induction rs with
  | nil => exact fun {xs} h => ⟨[], xs, rfl, .nil, h⟩
  | cons r rs ih =>
      intro xs h
      obtain ⟨x, xs, hx, hxs, rfl⟩ := List.forall₂_cons_right_iff.mp h
      obtain ⟨cs, xs', rfl, hcs, hxs'⟩ := ih hxs
      cases x with
      | token t => exact hx.elim
      | comment c => exact ⟨c :: cs, xs', rfl, .cons hx hcs, hxs'⟩

/-- The lexemes of tokens with their remarks: there are none, or comments in front of a token. -/
theorem exists_first {a : Attended} {ts : List Attended} {xs : List Lexeme}
    (h : List.Forall₂ Lexeme.Is xs (Attended.allPieces (a :: ts))) :
    ∃ cs t xs', xs = cs.map .comment ++ .token t :: xs' ∧
      List.Forall₂ Comment.IsOf cs a.before ∧
      Lexeme.Is (.token t) (.token a.kind) ∧
      List.Forall₂ Lexeme.Is xs' (a.behind.map .remark ++ Attended.allPieces ts) := by
  rw [Attended.allPieces_cons, Attended.pieces, List.append_assoc] at h
  obtain ⟨cs, ys, rfl, hcs, hys⟩ := exists_comments h
  obtain ⟨y, xs', hy, hxs', rfl⟩ := List.forall₂_cons_right_iff.mp hys
  cases y with
  | token t => exact ⟨cs, t, xs', rfl, hcs, hy, hxs'⟩
  | comment c => exact hy.elim

namespace TokenStream

/-- The comments of a token in front of which the given ones stand. -/
abbrev frontOf (cs : List Comment) : Option Comments :=
  Comments.around (cs.map .comment) none

theorem splitComments_append (cs : List Comment) (xs : List Lexeme)
    (hxs : ∀ c rest, xs ≠ .comment c :: rest) :
    splitComments (cs.map .comment ++ xs) = (cs, xs) := by
  induction cs with
  | nil =>
      cases xs with
      | nil => rfl
      | cons x rest =>
          cases x with
          | token t => rfl
          | comment c => exact absurd rfl (hxs c rest)
  | cons c cs ih =>
      rw [List.map_cons, List.cons_append, splitComments, ih]

theorem withBefore_bare {t : Token} (ht : t.comments = none) (cs : List Comment) :
    withBefore t cs = .ok { t with comments := frontOf cs } := by
  rw [withBefore, ht]
  cases cs with
  | nil =>
      rw [frontOf, List.map_nil, Comments.around, ← ht]
      rfl
  | cons c cs => rfl

/-- Comments below a scalar stay behind it as one. -/
theorem behind?_scalar {t : Token} (hkind : isScalar t.kind = true) {cs : List Comment}
    {rs : List Remark} (hcs : List.Forall₂ Comment.IsOf cs rs)
    (hline : ∀ c ∈ cs, t.stop.line < c.mark.line) : Comment.Follows (behind? t cs) rs := by
  cases hcs with
  | nil => exact .inl ⟨rfl, rfl⟩
  | @cons c r cs rs hc hcs =>
      have hlt := hline c (by simp)
      have hne : c.mark.line ≠ t.stop.line := Nat.ne_of_gt hlt
      obtain ⟨k, hk⟩ : ∃ k, c.mark.line - t.stop.line = k + 1 :=
        ⟨c.mark.line - t.stop.line - 1, by omega⟩
      have hothers : (cs.flatMap fun c => List.replicate c.mark.column ' ' ++ c.text) =
          Remark.texts rs := by
        clear hline
        induction hcs with
        | nil => rfl
        | cons hd _ ih =>
            rw [List.flatMap_cons, ih, hd.text, hd.column]
            rfl
      refine .inr ⟨{ c with
        text := joinComments (List.replicate (c.mark.line - t.stop.line) '\n' ++
          List.replicate c.mark.column ' ' ++ c.text) cs }, k, List.cons_ne_nil _ _, ?_, ?_⟩
      · simp [behind?, hne, hkind]
      · simp [hk, joinComments, hothers, hc.text, hc.column, Remark.texts, Remark.text]

/-- Behind a token that is no scalar no comment stays that begins below it. -/
theorem behind?_other {t : Token} (hkind : isScalar t.kind = false) {cs : List Comment}
    (hline : ∀ c ∈ cs, holdsComment t.kind = true → t.stop.line < c.mark.line) :
    behind? t cs = none := by
  cases cs with
  | nil => rfl
  | cons c cs =>
      have hbelow : ¬(c.mark.line = t.stop.line ∧ holdsComment t.kind = true) :=
        fun ⟨hsame, hholds⟩ => Nat.ne_of_gt (hline c (by simp) hholds) hsame
      simp [behind?, hkind, hbelow]

theorem assemble_cons {fuel : Nat} {cs ds : List Comment} {t : Token} {xs : List Lexeme}
    (ht : t.comments = none) (hxs : ∀ c rest, xs ≠ .comment c :: rest) :
    assemble true none (fuel + 1) cs (.token t :: (ds.map .comment ++ xs)) =
      match behind? { t with comments := frontOf cs } ds with
      | some c =>
          more { t with comments := frontOf cs } (some c) (assemble true none fuel [] xs)
      | none =>
          more { t with comments := frontOf cs } none (assemble true none fuel ds xs) := by
  have hsplit : splitComments (.token t :: (ds.map .comment ++ xs)) =
      ([], .token t :: (ds.map .comment ++ xs)) := rfl
  rw [assemble, hsplit]
  cases hbehind : behind? { t with comments := frontOf cs } ds <;>
    simp only [List.append_nil, withBefore_bare ht, splitComments_append ds xs hxs, hbehind]

/-- A token takes the comments in front of it, and those below it if it is a scalar. -/
theorem assemble_token {a : Attended} {fuel : Nat} {cs ds es : List Comment} {t : Token}
    {xs : List Lexeme} (ht : Lexeme.Is (.token t) (.token a.kind))
    (hds : List.Forall₂ Comment.IsOf ds a.behind) (hes : isScalar a.kind = true → es = [])
    (hbehind : isScalar a.kind = false → a.behind = [])
    (hline : ∀ c ∈ ds ++ es, holdsComment t.kind = true → t.stop.line < c.mark.line)
    (hxs : ∀ c rest, xs ≠ .comment c :: rest) :
    ∃ c, assemble true none (fuel + 1) cs (.token t :: ((ds ++ es).map .comment ++ xs)) =
        more { t with comments := frontOf cs } c (assemble true none fuel es xs) ∧
      Comment.Follows c a.behind := by
  obtain ⟨hkind, hcomments⟩ := ht
  rw [assemble_cons hcomments hxs]
  cases hscalar : isScalar a.kind with
  | true =>
      obtain rfl := hes hscalar
      rw [List.append_nil] at hline ⊢
      have hholds : holdsComment t.kind = true := by
        rw [hkind]
        cases hcase : a.kind <;> rw [hcase] at hscalar <;> first | rfl | cases hscalar
      have hfollows := behind?_scalar (t := { t with comments := frontOf cs })
        (by rw [← hscalar, ← hkind]) hds fun c hc => hline c hc hholds
      refine ⟨_, ?_, hfollows⟩
      rcases hfollows with ⟨hnil, hnone⟩ | ⟨d, k, -, hsome, -⟩
      · rw [hnil] at hds
        obtain rfl := List.forall₂_nil_right_iff.mp hds
        rw [hnone]
      · rw [hsome]
  | false =>
      rw [hbehind hscalar] at hds ⊢
      obtain rfl := List.forall₂_nil_right_iff.mp hds
      have hnone := behind?_other (t := { t with comments := frontOf cs })
        (by rw [← hscalar, ← hkind]) hline
      rw [List.nil_append] at hnone ⊢
      rw [hnone]
      exact ⟨none, rfl, .inl ⟨rfl, rfl⟩⟩

-- By induction on the tokens, with the comments in front of the first one split off already.
/-- The comments between tokens are handed over to them. -/
theorem assemble_pieces : ∀ (ts : List Attended) (a : Attended) {b : Bool} {cs : List Comment}
    {t : Token} {xs : List Lexeme} {fuel : Nat}, List.Forall₂ Comment.IsOf cs a.before →
      Lexeme.Is (.token t) (.token a.kind) →
        List.Forall₂ Lexeme.Is xs (a.behind.map .remark ++ Attended.allPieces ts) →
          Lexer.Apart (.token t :: xs) → Attended.Orderly b (a :: ts) → ts.length + 1 < fuel →
            ∃ ys, (assemble true none fuel cs (.token t :: xs)).IsOf ys ∧
              List.Forall₂ Attended.Is (a :: ts) ys
  | [], a, b, cs, t, xs, fuel + 2, hcs, ht, hxs, hapart, horderly, _ => by
      obtain ⟨ds, xs, rfl, hds, hxs⟩ := exists_comments hxs
      obtain rfl := List.forall₂_nil_right_iff.mp hxs
      have hline : ∀ c ∈ ds ++ [], holdsComment t.kind = true → t.stop.line < c.mark.line :=
        fun c hc hholds => (List.pairwise_cons.mp hapart).1 (.comment c) (by simpa using hc) t c
          rfl rfl hholds
      obtain ⟨c, hassemble, hc⟩ : ∃ c, assemble true none (fuel + 2) cs
          (.token t :: ((ds ++ []).map .comment ++ [])) =
            more { t with comments := frontOf cs } c (assemble true none (fuel + 1) [] []) ∧
              Comment.Follows c a.behind :=
        assemble_token ht hds (fun _ => rfl) horderly.2.1 hline (by simp)
      simp only [List.append_nil] at hassemble ⊢
      exact ⟨[{ before := cs.map .comment, kind := t.kind, behind := c }],
        ⟨_, _, hassemble, rfl, rfl, rfl⟩, .cons ⟨ht.1, ⟨cs, rfl, hcs⟩, hc⟩ .nil⟩
  | next :: ts, a, b, cs, t, xs, fuel + 1, hcs, ht, hxs, hapart, horderly, hfuel => by
      obtain ⟨ds, xs, rfl, hds, hxs⟩ := exists_comments hxs
      obtain ⟨es, t', xs, rfl, hes, ht', hxs⟩ := exists_first hxs
      rw [← List.append_assoc, ← List.map_append] at hapart ⊢
      obtain ⟨hbelow, hrest⟩ := List.pairwise_cons.mp hapart
      have hline : ∀ c ∈ ds ++ es, holdsComment t.kind = true → t.stop.line < c.mark.line :=
        fun c hc hholds => hbelow (.comment c) (by
          rw [List.mem_append]
          exact .inl (List.mem_map_of_mem hc)) t c rfl rfl hholds
      have hfront : isScalar a.kind = true → es = [] := fun hscalar => by
        rw [horderly.2.2.1 hscalar] at hes
        exact List.forall₂_nil_right_iff.mp hes
      obtain ⟨c, hassemble, hc⟩ : ∃ c, assemble true none (fuel + 1) cs
          (.token t :: ((ds ++ es).map .comment ++ .token t' :: xs)) =
            more { t with comments := frontOf cs } c
              (assemble true none fuel es (.token t' :: xs)) ∧ Comment.Follows c a.behind :=
        assemble_token ht hds hfront horderly.2.1 hline (by simp)
      obtain ⟨ys, hmore, hys⟩ := assemble_pieces ts next hes ht' hxs
        (List.pairwise_append.mp hrest).2.1 horderly.2.2 (Nat.lt_of_succ_lt_succ hfuel)
      exact ⟨{ before := cs.map .comment, kind := t.kind, behind := c } :: ys,
        ⟨_, _, hassemble, rfl, rfl, hmore⟩, .cons ⟨ht.1, ⟨cs, rfl, hcs⟩, hc⟩ hys⟩

theorem length_le_allPieces (ts : List Attended) :
    ts.length ≤ (Attended.allPieces ts).length := by
  induction ts with
  | nil => exact Nat.le_refl 0
  | cons a ts ih =>
      rw [Attended.allPieces_cons, Attended.pieces]
      simp only [List.length_append, List.length_cons]
      omega

/-- A text that is read as orderly tokens is a stream of them. -/
theorem ofText_of_lexesTo {text : List Char} {ts : List Attended}
    (h : LexesTo text ({ kind := .streamStart } :: ts))
    (horderly : Attended.Orderly false ({ kind := .streamStart } :: ts)) :
    ∃ ys, (ofText text).IsOf ys ∧
      List.Forall₂ Attended.Is ({ kind := .streamStart } :: ts) ys := by
  have hlength := length_le_allPieces ({ kind := .streamStart } :: ts)
  have hapart := h.apart
  rw [← h.pieces.length_eq] at hlength
  obtain ⟨cs, t, xs, hxs, hcs, ht, hrest⟩ := exists_first h.pieces
  obtain rfl := List.forall₂_nil_right_iff.mp hcs
  rw [List.map_nil, List.nil_append] at hxs
  rw [ofText, ofLexed, h.fault]
  simp only
  rw [hxs] at hapart hlength ⊢
  exact assemble_pieces _ { kind := .streamStart } hcs ht hrest hapart horderly
    (Nat.lt_succ_of_le hlength)

end TokenStream
end Yaml
end YamlTidy
