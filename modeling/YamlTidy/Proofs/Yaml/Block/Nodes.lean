import YamlTidy.Proofs.Yaml.Block.Lexing
import YamlTidy.Proofs.Yaml.Noted.Nodes

/-!
# The nodes of blocks

A block is read like the noted tree that has no comments (`Block.noted`): its tokens are those of
that tree (`Block.tokens_noted`, by induction on the block).  So the text of pages is read as one
document for each page (`Page.nodes_texts`) unless one is nested too deeply.
-/

namespace YamlTidy
namespace Yaml

/-- Tokens of the given kinds without comments. -/
def bareTokens (kinds : List TokenKind) : List Laden :=
  kinds.map fun kind => { kind }

theorem bareTokens_cons (kind : TokenKind) (kinds : List TokenKind) :
    bareTokens (kind :: kinds) = { kind } :: bareTokens kinds :=
  rfl

theorem bareTokens_append (kinds more : List TokenKind) :
    bareTokens (kinds ++ more) = bareTokens kinds ++ bareTokens more :=
  List.map_append

namespace Block

mutual

/-- A block as a noted tree without comments. -/
def noted : Block → Noted
  | leaf x _ => .leaf x none
  | list items => .list false items.noted
  | table entries => .table entries.noted

/-- Items without comments. -/
def Items.noted : Items → Noted.Items
  | .last _ b => .last [] b.noted
  | .cons _ b more => .cons [] b.noted more.noted

/-- Entries without comments. -/
def Entries.noted : Entries → Noted.Entries
  | .last key v => .last key [] v.noted
  | .cons key v more => .cons key [] v.noted more.noted

/-- What stands under a key, without comments. -/
def Member.noted : Member → Noted
  | .beside _ x _ => .leaf x none
  | .under _ 0 (.list items) => .list true items.noted
  | .under _ _ b => b.noted

end

/-- Right of its key a block is the same as elsewhere. -/
theorem noted_under {b : Block} {shift : Nat} (h : 0 < b.least + shift) (e : RowEnd) :
    (Member.under e shift b).noted = b.noted := by
  cases b with
  | leaf x e => cases shift <;> rfl
  | table entries => cases shift <;> rfl
  | list items =>
      cases shift with
      | zero => exact absurd h (Nat.lt_irrefl 0)
      | succ shift => rfl

theorem noted_under_leaf (e e' : RowEnd) (shift : Nat) (x : Leaf) :
    (Member.under e shift (leaf x e')).noted = .leaf x none :=
  noted_under (Nat.add_pos_left Nat.one_pos shift) e

theorem noted_under_table (e : RowEnd) (shift : Nat) (entries : Entries) :
    (Member.under e shift (table entries)).noted = .table entries.noted :=
  noted_under (Nat.add_pos_left Nat.one_pos shift) e

mutual

theorem tree_noted : ∀ b : Block, b.noted.tree = b.tree
  | leaf _ _ => rfl
  | list items => congrArg Tree.list (trees_items_noted items)
  | table entries => congrArg Tree.table (trees_entries_noted entries)

theorem trees_items_noted : ∀ items : Items, items.noted.trees = items.trees
  | .last _ b => congrArg Tree.Items.last (tree_noted b)
  | .cons _ b more => congrArg₂ Tree.Items.cons (tree_noted b) (trees_items_noted more)

theorem trees_entries_noted : ∀ entries : Entries, entries.noted.trees = entries.trees
  | .last key v => congrArg (Tree.Entries.last key) (tree_member_noted v)
  | .cons key v more =>
      congrArg₂ (Tree.Entries.cons key) (tree_member_noted v) (trees_entries_noted more)

theorem tree_member_noted : ∀ v : Member, v.noted.tree = v.tree
  | .beside _ _ _ => rfl
  | .under _ 0 (.list items) => congrArg Tree.list (trees_items_noted items)
  | .under _ (_ + 1) (.list items) => congrArg Tree.list (trees_items_noted items)
  | .under e shift (.leaf x e') => by
      rw [noted_under_leaf]
      rfl
  | .under e shift (.table entries) => by
      rw [noted_under_table, Noted.tree, trees_entries_noted entries]
      rfl

end

mutual

theorem plain_noted : ∀ b : Block, b.noted.Plain
  | leaf _ _ => rfl
  | list items => plain_items_noted items
  | table entries => plain_entries_noted entries

theorem plain_items_noted : ∀ items : Items, items.noted.Plain
  | .last _ b => ⟨rfl, plain_noted b⟩
  | .cons _ b more => ⟨rfl, plain_noted b, plain_items_noted more⟩

theorem plain_entries_noted : ∀ entries : Entries, entries.noted.Plain
  | .last _ v => ⟨rfl, plain_member_noted v⟩
  | .cons _ v more => ⟨rfl, plain_member_noted v, plain_entries_noted more⟩

theorem plain_member_noted : ∀ v : Member, v.noted.Plain
  | .beside _ _ _ => rfl
  | .under _ 0 (.list items) => plain_items_noted items
  | .under _ (_ + 1) (.list items) => plain_items_noted items
  | .under e shift (.leaf x e') => by
      rw [noted_under_leaf]
      rfl
  | .under e shift (.table entries) => by
      rw [noted_under_table]
      exact plain_entries_noted entries

end

/-- A block has the same tokens under a key and elsewhere. -/
theorem tokens_noted_underKey (b : Block) :
    b.noted.tokens true [] = b.noted.tokens false [] := by
  cases b <;> rfl

mutual

/-- The tokens of a block are those of its noted tree. -/
theorem tokens_noted : ∀ b : Block, b.noted.tokens false [] = bareTokens b.kinds
  | leaf _ _ => rfl
  | list items => by
      rw [kinds, bareTokens_cons, bareTokens_append, ← tokens_items_noted items]
      rfl
  | table entries => by
      rw [kinds, bareTokens_cons, bareTokens_append, ← tokens_entries_noted entries]
      rfl

theorem tokens_items_noted : ∀ items : Items, items.noted.tokens = bareTokens items.kinds
  | .last _ b => by
      rw [Items.kinds, bareTokens_cons, ← tokens_noted b]
      rfl
  | .cons _ b more => by
      rw [Items.kinds, bareTokens_cons, bareTokens_append, ← tokens_noted b,
        ← tokens_items_noted more]
      rfl

theorem tokens_entries_noted :
    ∀ entries : Entries, entries.noted.tokens = bareTokens entries.kinds
  | .last key v => by
      rw [Entries.kinds, bareTokens_append, ← tokens_member_noted v]
      rfl
  | .cons key v more => by
      rw [Entries.kinds, bareTokens_append, bareTokens_append, ← tokens_member_noted v,
        ← tokens_entries_noted more]
      rfl

theorem tokens_member_noted : ∀ v : Member, v.noted.tokens true [] = bareTokens v.kinds
  | .beside _ _ _ => rfl
  | .under _ 0 (.list items) => tokens_items_noted items
  | .under _ (_ + 1) (.list items) =>
      (tokens_noted_underKey (list items)).trans (tokens_noted (list items))
  | .under e shift (.leaf x e') => by
      rw [noted_under_leaf, kinds_under (Nat.add_pos_left Nat.one_pos shift)]
      rfl
  | .under e shift (.table entries) => by
      rw [noted_under_table, kinds_under (Nat.add_pos_left Nat.one_pos shift)]
      exact (tokens_noted_underKey (table entries)).trans (tokens_noted (table entries))

end

end Block

namespace TokenStream

theorem splitComments_tokens (ts : List Token) :
    splitComments (ts.map Lexeme.token) = ([], ts.map Lexeme.token) := by
  cases ts <;> rfl

theorem assemble_tokens : ∀ {ts : List Token} {fuel : Nat}, (∀ t ∈ ts, t.comments = none) →
    ts.length < fuel →
      (assemble true none fuel [] (ts.map Lexeme.token)).IsOf (bareTokens (ts.map Token.kind))
  | [], fuel + 1, _, _ => rfl
  | t :: rest, fuel + 1, hcomments, hfuel => by
      have hrest := assemble_tokens (fun u hu => hcomments u (by simp [hu]))
        (Nat.lt_of_succ_lt_succ hfuel)
      refine ⟨t, assemble true none fuel [] (rest.map Lexeme.token), ?_, rfl,
        hcomments t (by simp), hrest⟩
      rw [assemble]
      rw [splitComments_tokens]
      simp only [List.map_cons, List.append_nil, withBefore, List.isEmpty_nil, if_true,
        splitComments_tokens, behind?]

end TokenStream

namespace Page

/-- A page as a noted tree without comments. -/
def headed (p : Page) : Headed :=
  { before := [], root := p.block.noted }

theorem tokens_headed (p : Page) : p.headed.tokens = bareTokens p.block.kinds :=
  p.block.tokens_noted

theorem laterTokens_headed (ps : List Page) :
    Headed.laterTokens (ps.map headed) = bareTokens (laterKinds ps) := by
  induction ps with
  | nil => rfl
  | cons p ps ih =>
      rw [Headed.laterTokens] at ih ⊢
      rw [laterKinds, List.flatMap_cons, bareTokens_append, bareTokens_cons, ← tokens_headed,
        ← laterKinds, ← ih]
      rfl

theorem unacceptable?_texts (ps : List Page) : unacceptable? (texts ps) = none := by
  have hall : ∀ x ∈ texts ps, acceptable x = true := by
    intro x hx
    rcases textChar_texts ps x hx with hink | rfl | rfl | rfl
    · exact acceptable_of_isInk hink
    all_goals rfl
  rw [unacceptable?, List.takeWhile_eq_self_iff.mpr hall]
  simp

/-- The text of pages is a stream of their tokens. -/
theorem ofText_texts (p : Page) (ps : List Page) :
    (TokenStream.ofText (texts (p :: ps))).IsOf ({ kind := .streamStart } ::
      (p.headed.tokens ++
        (Headed.laterTokens (ps.map headed) ++ [{ kind := .streamEnd }]))) := by
  obtain ⟨ts, hlexemes, hkinds, hcomments, hfault⟩ := lex_texts p ps
  have hstream := TokenStream.assemble_tokens hcomments
    (show ts.length < (ts.map Lexeme.token).length + 1 by simp)
  rw [hkinds] at hstream
  rw [TokenStream.ofText, TokenStream.ofLexed, hfault, hlexemes, tokens_headed,
    laterTokens_headed]
  simpa [bareTokens] using hstream

/-- The text of pages is read as their documents. -/
theorem nodes_texts {ps : List Page} (hdepth : ∀ p ∈ ps, p.block.tree.height ≤ depthLimit) :
    NodeStream.AreOf (ps.map headed) (.ofText (texts ps)) := by
  cases ps with
  | nil => rfl
  | cons p ps =>
      refine NodeStream.areOf_ofText (fun r hr => ?_) (unacceptable?_texts _) (ofText_texts p ps)
      rw [← List.map_cons] at hr
      obtain ⟨q, hq, rfl⟩ := List.mem_map.mp hr
      rw [headed, q.block.tree_noted]
      exact hdepth q hq

end Page
end Yaml
end YamlTidy
