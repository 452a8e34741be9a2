import YamlTidy.Proofs.Yaml.Ends.Tokens
import YamlTidy.Yaml.Node.Parser

/-!
# What reading nodes can end in

Reading nodes keeps its token stream among those whose fault is one of reading.  The functions that
take the reader of the nodes inside as an argument are gone through once for any reader that does.
-/

namespace YamlTidy
namespace Yaml

open Fault (OfReading)

namespace Parse

/-- Whether the token stream of a state ends in a fault of reading, if in any. -/
def Sound (s : ParseState) : Prop :=
  s.tokens.Ends

variable {α : Type}

/-- A reader that fails with faults of reading only. -/
abbrev Reads (act : Parse α) : Prop :=
  Keeps Sound OfReading act

/-! ## Single steps -/

@[grind ←]
theorem reads_fail {fault : Fault} (h : fault.OfReading) : Reads (fail fault : Parse α) :=
  fun _ _ => ⟨EndsIn.error_iff.mpr h, fun _ _ hok => nomatch hok⟩

/-- A step that yields something and leaves the tokens alone. -/
theorem reads_of_tokens {act : Parse α}
    (h : ∀ s, ∃ a t, act s = .ok (a, t) ∧ t.tokens = s.tokens) : Reads act := by
  intro s hs
  obtain ⟨a, t, hact, htokens⟩ := h s
  rw [hact]
  refine ⟨EndsIn.ok _, fun b u hok => ?_⟩
  obtain ⟨-, rfl⟩ := by simpa using hok
  rwa [Sound, htokens]

@[grind .]
theorem reads_peek : Reads peek := by
  intro s hs
  refine ⟨.map _ (TokenStream.ends_peek hs), fun a t hok => ?_⟩
  cases hpeek : s.tokens.peek with
  | error fault => simp [peek, hpeek, Except.map] at hok
  | ok u =>
      obtain ⟨-, rfl⟩ := by simpa [peek, hpeek, Except.map] using hok
      exact hs

@[grind .]
theorem reads_peekKind : Reads peekKind := by
  intro s hs
  refine ⟨.map _ (TokenStream.ends_peek hs), fun a t hok => ?_⟩
  cases hpeek : s.tokens.peek with
  | error fault => simp [peekKind, hpeek, Except.map] at hok
  | ok u =>
      obtain ⟨-, rfl⟩ := by simpa [peekKind, hpeek, Except.map] using hok
      exact hs

@[grind .]
theorem reads_next : Reads next := by
  intro s hs
  refine ⟨.map _ (TokenStream.ends_next hs), fun a t hok => ?_⟩
  cases hnext : s.tokens.next with
  | error fault => simp [next, hnext, Except.map] at hok
  | ok r =>
      obtain ⟨-, rfl⟩ := by simpa [next, hnext, Except.map] using hok
      exact TokenStream.ends_of_next hs hnext

@[grind .]
theorem reads_setComments (comments : Option Comments) : Reads (setComments comments) := by
  intro s hs
  refine ⟨EndsIn.ok _, fun a t hok => ?_⟩
  obtain rfl : { s with tokens := s.tokens.setComments comments } = t := by
    simpa [setComments] using hok
  exact TokenStream.ends_setComments hs comments

@[grind .]
theorem reads_fresh : Reads fresh :=
  reads_of_tokens fun _ => ⟨_, _, rfl, rfl⟩

@[grind .]
theorem reads_version : Reads version :=
  reads_of_tokens fun _ => ⟨_, _, rfl, rfl⟩

@[grind .]
theorem reads_entryBound : Reads entryBound :=
  reads_of_tokens fun _ => ⟨_, _, rfl, rfl⟩

@[grind .]
theorem reads_anchorNode (anchor : Option (List Char)) (id : Nat) :
    Reads (anchorNode anchor id) :=
  reads_of_tokens fun _ => by cases anchor <;> exact ⟨_, _, rfl, rfl⟩

@[grind .]
theorem reads_tagOf (p : Properties) (handle : Option (List Char)) (suffix : List Char) :
    Reads (tagOf p handle suffix) := by
  refine reads_of_tokens fun s => ?_
  unfold tagOf
  split <;> exact ⟨_, _, rfl, rfl⟩

/-- A step that leaves the state alone and may fail. -/
theorem reads_of_ends {act : Parse α} (hends : ∀ s, EndsIn OfReading (act s))
    (hstate : ∀ s a t, act s = .ok (a, t) → t = s) : Reads act :=
  fun s hs => ⟨hends s, fun a t hok => hstate s a t hok ▸ hs⟩

@[grind .]
theorem reads_checkVersion : Reads checkVersion := by
  refine reads_of_ends (fun s => ?_) fun s a t hok => ?_
  · unfold checkVersion
    split <;> simp [OfReading.rejected]
  · unfold checkVersion at hok
    split at hok <;> simp_all

@[grind .]
theorem reads_checkHandle (p : Properties) : Reads (checkHandle p) := by
  refine reads_of_ends (fun s => ?_) fun s a t hok => ?_
  · unfold checkHandle
    split
    · split <;> simp [OfReading.rejected]
    · simp
  · unfold checkHandle at hok
    split at hok
    · split at hok <;> simp_all
    · simp_all

/-! ## Comments -/

/-- Two comments that would have to stand in one place cannot be joined. -/
@[grind .]
theorem ends_joinComments (c : Comments) (afterColon : Bool) (d : Option Comments) :
    EndsIn OfReading (joinComments c afterColon d) := by
  cases d <;> grind [joinComments]

@[grind .]
theorem reads_moveComments (t : Token) (afterColon : Bool) :
    Reads (moveComments t afterColon) := by
  unfold moveComments
  refine .bind reads_peek fun target => ?_
  split
  · exact .pure _
  · exact .pure _
  · exact .pure _
  · split
    · rename_i fault hfault
      exact reads_fail (ends_joinComments _ _ _ fault hfault)
    · exact .bind (reads_setComments _) fun _ => .pure _

@[grind .]
theorem reads_sequenceComments (t : Token) : Reads (sequenceComments t) := by
  grind [sequenceComments]

@[grind .]
theorem reads_emptyScalar (mark : Mark) (comments : Option Comments) :
    Reads (emptyScalar mark comments) := by
  grind [emptyScalar]

@[grind .]
theorem reads_properties : Reads properties := by
  unfold properties
  refine .bind reads_peek fun t => ?_
  split
  · grind
  · refine .bind reads_next fun t => .bind reads_peek fun target => ?_
    -- Comments on a tag that cannot be joined to those behind it are dropped.
    extract_lets goOn
    have hgoOn : ∀ u, Reads (goOn u) := fun _ =>
      .bind (reads_tagOf _ _ _) fun p => .bind reads_peek fun t => by split <;> grind
    split
    · exact hgoOn ()
    · split <;> grind
  · exact .pure _

/-! ## Collections -/

@[grind ←]
theorem reads_many {item : Parse (Option α)} (hitem : Reads item) (n : Nat) :
    Reads (many item n) := by
  induction n with
  | zero => exact .pure _
  | succ n ih => grind [many]

section Collections

variable {node : Place → Parse Node} (hnode : ∀ place, Reads (node place))
include hnode

@[grind ←]
theorem reads_blockItem : Reads (blockItem node) := by
  grind [blockItem]

@[grind ←]
theorem reads_indentlessItem : Reads (indentlessItem node) := by
  grind [indentlessItem]

@[grind ←]
theorem reads_blockValue : Reads (blockValue node) := by
  unfold blockValue
  refine .bind reads_peekKind fun kind => ?_
  split
  · refine .bind reads_next fun t => .bind reads_peekKind fun kind => ?_
    extract_lets goOn
    have hgoOn : ∀ moved, Reads (goOn moved) := by
      refine fun moved => .bind reads_peekKind fun kind => ?_
      split
      · split
        · exact reads_emptyScalar _ _
        · refine .bind reads_peek fun target => ?_
          split <;> grind
      · exact hnode _
    split <;> grind
  · grind

@[grind ←]
theorem reads_blockEntry : Reads (blockEntry node) := by
  unfold blockEntry
  refine .bind reads_peekKind fun kind => ?_
  split <;> grind

@[grind ←]
theorem reads_pairValue : Reads (pairValue node) := by
  grind [pairValue]

@[grind ←]
theorem reads_flowItem : Reads (flowItem node) := by
  unfold flowItem
  refine .bind reads_peekKind fun kind => ?_
  split
  · refine .bind reads_peek fun t => .bind reads_fresh fun id => .bind reads_next fun t' => ?_
    grind
  · exact hnode _

@[grind ←]
theorem reads_flowItems (first : Bool) (n : Nat) : Reads (flowItems node first n) := by
  induction n generalizing first with
  | zero => exact .pure _
  | succ n ih =>
      unfold flowItems
      refine .bind reads_peekKind fun kind => ?_
      split <;> grind

@[grind ←]
theorem reads_flowValue : Reads (flowValue node) := by
  grind [flowValue]

@[grind ←]
theorem reads_flowEntry : Reads (flowEntry node) := by
  unfold flowEntry
  refine .bind reads_peekKind fun kind => ?_
  split <;> grind

@[grind ←]
theorem reads_flowEntries (first : Bool) (n : Nat) : Reads (flowEntries node first n) := by
  induction n generalizing first with
  | zero => exact .pure _
  | succ n ih =>
      unfold flowEntries
      refine .bind reads_peekKind fun kind => ?_
      split <;> grind

end Collections

/-! ## Nodes -/

@[grind .]
theorem reads_missing (place : Place) (p : Properties) (start : Mark) (t : Token) :
    Reads (node.missing place p start t) := by
  grind [node.missing]

/-- Reading a node keeps the state sound, however deeply the node is nested. -/
theorem reads_node (depth : Nat) (place : Place) : Reads (node depth place) := by
  induction depth using Nat.strongRecOn generalizing place with
  | ind depth ih =>
      unfold node
      refine .bind reads_peekKind fun kind => ?_
      split
      · rename_i name
        refine .bind reads_next fun t => .bind (reads_moveComments _ _) fun _ => ?_
        refine reads_of_ends (fun s => ?_) fun s a u hok => ?_
        · split <;> simp
        · split at hok <;> simp_all
      · refine .bind reads_properties fun p => .bind (reads_checkHandle p) fun _ => ?_
        refine .bind reads_peek fun t => ?_
        extract_lets start info collection
        have hinfo : ∀ tag comments, Reads (info tag comments) := fun tag comments =>
          .bind reads_fresh fun id => .bind (reads_anchorNode _ _) fun _ => .pure _
        have hcollection : ∀ read : (Place → Parse Node) → Parse Node,
            (∀ inner, (∀ place, Reads (inner place)) → Reads (read inner)) →
              Reads (collection read) := by
          intro read hread
          cases depth with
          | zero => exact reads_fail (.rejected _ _)
          | succ depth => exact hread _ fun place => ih depth (Nat.lt_succ_self _) place
        clear_value start info collection
        split
        · split
          · refine hcollection _ fun inner hinner => ?_
            extract_lets goOn
            have hgoOn : ∀ comments, Reads (goOn comments) := by
              refine fun comments => .bind (hinfo _ _) fun info =>
                .bind reads_entryBound fun n => ?_
              refine .bind (reads_many (reads_indentlessItem hinner) _) fun items => ?_
              refine .bind reads_peek fun last => ?_
              split <;> grind
            split <;> grind
          · exact reads_missing _ _ _ _
        · grind
        · refine hcollection _ fun inner hinner => .bind (hinfo _ _) fun info => ?_
          refine .bind reads_next fun _ => .bind reads_entryBound fun n => ?_
          refine .bind (reads_flowItems hinner true n) fun items => ?_
          exact .bind reads_next fun last => .pure _
        · refine hcollection _ fun inner hinner => .bind (hinfo _ _) fun info => ?_
          refine .bind reads_next fun _ => .bind reads_entryBound fun n => ?_
          refine .bind (reads_flowEntries hinner true n) fun entries => ?_
          exact .bind reads_next fun last => .pure _
        · split
          · refine hcollection _ fun inner hinner => ?_
            refine .bind (reads_sequenceComments t) fun comments =>
              .bind (hinfo _ _) fun info => ?_
            refine .bind reads_next fun _ => .bind reads_entryBound fun n => ?_
            refine .bind (reads_many (reads_blockItem hinner) n) fun items => ?_
            exact .bind reads_next fun last => .pure _
          · exact reads_missing _ _ _ _
        · split
          · refine hcollection _ fun inner hinner => .bind (hinfo _ _) fun info => ?_
            refine .bind reads_next fun _ => .bind reads_entryBound fun n => ?_
            refine .bind (reads_many (reads_blockEntry hinner) n) fun entries => ?_
            refine .bind reads_next fun last => ?_
            exact .bind (reads_moveComments last false) fun moved => .pure _
          · exact reads_missing _ _ _ _
        · exact reads_missing _ _ _ _

/-! ## Documents -/

@[grind .]
theorem reads_directives (n : Nat) (version : Option (Nat × Nat))
    (handles : List (List Char × List Char)) : Reads (directives n version handles) := by
  induction n generalizing version handles with
  | zero => exact .pure _
  | succ n ih =>
      unfold directives
      refine .bind reads_peek fun t => ?_
      split
      · refine .bind reads_next fun t => ?_
        split <;> grind
      · exact reads_of_tokens fun _ => ⟨_, _, rfl, rfl⟩

@[grind .]
theorem reads_skipEnds (n : Nat) : Reads (skipEnds n) := by
  induction n with
  | zero => exact .pure _
  | succ n ih =>
      unfold skipEnds
      refine .bind reads_peekKind fun kind => ?_
      split <;> grind

@[grind .]
theorem reads_documentBody (explicit : Bool) : Reads (documentBody explicit) := by
  unfold documentBody
  refine .bind reads_peek fun t => ?_
  extract_lets goOn
  have hgoOn : ∀ root, Reads (goOn root) := by
    refine fun root => .bind reads_peek fun t => ?_
    split
    · refine .bind reads_next fun marker => .bind reads_peek fun t => ?_
      split <;> grind
    · exact .pure _
  split
  · exact .bind (reads_emptyScalar _ _) hgoOn
  · exact .bind (reads_node _ _) hgoOn

theorem reads_document (expected : Expected) : Reads (document expected) := by
  unfold document
  refine .bind reads_peekKind fun kind => ?_
  extract_lets implicit body begin
  clear_value implicit
  have hbody : ∀ u, Reads (body u) := fun _ =>
    .bind (reads_of_tokens fun _ => ⟨_, _, rfl, rfl⟩) fun _ =>
      .bind (reads_documentBody _) fun _ => .bind reads_version fun _ => .pure _
  have hbegin : ∀ u, Reads (begin u) := by
    refine fun _ => .bind reads_peekKind fun kind => ?_
    split
    · exact .pure _
    · split
      · exact .bind (reads_of_tokens fun _ => ⟨_, _, rfl, rfl⟩) hbody
      · refine .bind reads_entryBound fun n => .bind (reads_directives n _ _) fun _ => ?_
        refine .bind reads_peek fun t => ?_
        split
        · exact .bind reads_next fun _ => hbody ()
        · exact .bind (reads_fail (.at _ _)) hbody
  split
  · exact .bind reads_entryBound fun n => .bind (reads_skipEnds n) hbegin
  · exact hbegin ()

end Parse

/-! ## Document streams -/

/-- Whether the fault that a stream of documents ends in, if it ends in one, is one of reading. -/
@[simp]
def NodeStream.Ends : NodeStream → Prop
  | done => True
  | broken fault => fault.OfReading
  | more _ rest => rest.Ends

theorem NodeStream.ends_read (n : Nat) (expected : Parse.Expected) {s : ParseState}
    (hs : Parse.Sound s) : (NodeStream.read n expected s).Ends := by
  induction n generalizing expected s with
  | zero => trivial
  | succ n ih =>
      obtain ⟨herror, hok⟩ := Parse.reads_document expected s hs
      unfold NodeStream.read
      split
      · rename_i fault hfault
        exact herror fault hfault
      · trivial
      · rename_i d expected s' hmore
        exact ih expected (hok _ _ hmore)

/-- The documents of a text end in a fault of reading, if in any. -/
theorem NodeStream.ends_ofText (text : List Char) : (NodeStream.ofText text).Ends := by
  unfold NodeStream.ofText
  split
  · rename_i fault hfault
    obtain ⟨c, -, rfl⟩ := Option.map_eq_some_iff.mp hfault
    exact .rejected _ _
  · extract_lets tokens
    have hstart : Parse.Sound { tokens } := TokenStream.ends_ofText text
    obtain ⟨herror, hok⟩ := Parse.reads_next { tokens } hstart
    split
    · rename_i fault hfault
      exact herror fault hfault
    · rename_i s hnext
      exact NodeStream.ends_read _ _ (hok _ _ hnext)

end Yaml
end YamlTidy
