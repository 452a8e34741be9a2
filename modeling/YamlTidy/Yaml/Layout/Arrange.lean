import YamlTidy.Text.Base64
import YamlTidy.Yaml.Layout
import YamlTidy.Yaml.Value

/-!
# From values to layouts

`DocumentLayout.ofDocument` walks through a document once and turns every value into the text and
the style it is written with.  A collection met a second time becomes a reference; when it has no
anchor it gets a name of its own, in the order in which such references are met.
-/

namespace YamlTidy
namespace Yaml

/-- Whether the header of a block scalar stands among some comments. -/
def Notes.holdsHeader (n : Notes) : Bool :=
  n.before.any Leading.isHeader

/-- A collection without the comments at its end. -/
def Collection.withoutEnd (c : Collection) : Collection :=
  { c with notes := c.notes.map fun n => { n with atEnd := [] } }

/-- Whether a header stands in front of an item. -/
def Item.isHeaded (i : Item) : Bool :=
  i.notes.any Notes.holdsHeader

/-- Whether a header stands in front of a key. -/
def Entry.isHeaded (e : Entry) : Bool :=
  e.notes.any fun n => n.1.holdsHeader

/-- A cell with the comments that are written.  Once a header stands in front of an item or a key,
the collection loses the comments of all its items and those at its end. -/
def Cell.placed : Cell → Cell
  | sequence c items =>
      if items.any Item.isHeaded then
        sequence c.withoutEnd (items.map fun i => { i with notes := none })
      else sequence c items
  | mapping c entries merge taken =>
      if entries.any Entry.isHeaded then
        mapping c.withoutEnd (entries.map fun e => { e with notes := none }) merge taken
      else mapping c entries merge taken
  | set c items =>
      if items.any Entry.isHeaded then
        set c.withoutEnd (items.map fun e => { e with notes := none })
      else set c items
  | orderedMap c entries =>
      if entries.any Entry.isHeaded then
        orderedMap c.withoutEnd (entries.map fun e => { e with notes := none })
      else orderedMap c entries
  | cell => cell

/-- What is known on the way through a document. -/
structure ArrangeState where
  /-- The numbers of the parts met so far. -/
  met : List Nat := []
  /-- The names of parts with anchors. -/
  anchors : List (Nat × List Char) := []
  /-- The number of names made up so far. -/
  made : Nat := 0

/-- The way through a document. -/
abbrev Arrange := StateT ArrangeState (Except Abort)

namespace Arrange

/-- Breaks off. -/
def fail {α : Type} (abort : Abort) : Arrange α :=
  fun _ => .error abort

/-- A name for the `n`th part without an anchor of its own. -/
def madeName (n : Nat) : List Char :=
  let ds := (toString n).toList
  'i' :: 'd' :: (List.replicate (3 - ds.length) '0' ++ ds)

/-- The part with a number: a reference if it was met before.  Then it needs a name, which is
`anchor` or a new one. -/
def part (id : Nat) (anchor : Option (List Char)) (make : Arrange Layout) : Arrange Layout := do
  let s ← get
  if s.met.contains id then
    if (s.anchors.lookup id).isNone then
      match anchor with
      | some a => set { s with anchors := (id, a) :: s.anchors }
      | none =>
          let n := s.made + 1
          set { s with anchors := (id, madeName n) :: s.anchors, made := n }
    pure (.reference id false)
  else do
    set { s with met := id :: s.met }
    make

/-- A scalar whose anchor, if it has one, is always written. -/
def scalar (anchor : Option Anchor) (core : CoreTag) (text : List Char) (style : AskedStyle)
    (notes : LayoutNotes) : Arrange Layout :=
  let tag := Tag.ofCore core
  match anchor with
  | none => pure (.scalar { tag, notes } text style)
  | some a =>
      part a.node (some a.name) do
        modify fun s => { s with anchors := (a.node, a.name) :: s.anchors }
        pure (.scalar { id := some a.node, tag, notes } text style)

/-- The comments that a block scalar has by itself: the one in its header. -/
def headerNotes (header : Option Leading) : LayoutNotes :=
  { before := header.toList }

/-- A folded text with a bell in front of each space at which it was folded, as long as no blank
stands on either side of that space. -/
def markFolds (text : List Char) (folds : List Nat) : List Char :=
  folds.reverse.foldl (fun s place =>
    let before := s.take place
    let after := s.drop place
    match before.getLast?, after with
    | some x, ' ' :: y :: rest =>
        if Text.isBlank x || Text.isBlank y then s else before ++ '\x07' :: ' ' :: y :: rest
    | _, _ => s) text

/-- Whether any fold is marked. -/
def hasMarks (text : List Char) : Bool :=
  text.contains '\x07'

/-- The tag with which a scalar of an unknown tag is written.  Behind a double exclamation mark no
name is kept for the schema. -/
def writtenTag (tag : Tag) : Tag :=
  if tag.handle = some ['!', '!'] then
    let full := '!' :: '!' :: tag.suffix
    ⟨none, full, full⟩
  else tag

/-- The comments of a collection. -/
def ownNotes (c : Collection) : LayoutNotes :=
  match c.notes with
  | none => {}
  | some n => { behind := n.behind, before := n.before, atEnd := n.atEnd }

/-- The tag of a collection. -/
def tagOf (c : Collection) (core : CoreTag) : Tag :=
  c.tag.getD (.ofCore core)

/-- An item with its comments.  A collection that has comments already takes no others. -/
def withItemNotes (cells : Cells) (item : Item) (l : Layout) : Arrange Layout :=
  match item.notes with
  | none => pure l
  | some n =>
      let taken := match item.value with
        | .cell id =>
            match cells.lookup id with
            | some (.sequence c _) => c.notes.isSome
            | some (.mapping c _ _ _) => c.notes.isSome
            | some (.set c _) => c.notes.isSome
            | some (.orderedMap c _) => c.notes.isSome
            | _ => false
        | _ => false
      if taken then fail .commentsCollide
      else pure (l.withNotes fun _ => { behind := n.behind, before := n.before })

/-- A key with its comments. -/
def withKeyNotes (notes : Option (Notes × Notes)) (l : Layout) : Layout :=
  match notes with
  | none => l
  | some (k, _) => l.withNotes fun _ => { behind := k.behind, before := k.before }

/-- A value with its comments.  What stands at the end of a collection stays there. -/
def withValueNotes (notes : Option (Notes × Notes)) (l : Layout) : Layout :=
  match notes with
  | none => l
  | some (_, v) => l.withNotes fun old => { old with behind := v.behind, before := v.before }

/-- A part as an item of a set. -/
def asSetItem (l : Layout) : Arrange Layout :=
  match l with
  | .reference id _ => pure (.reference id true)
  | .scalar info text _ => pure (.scalar info text .setItem)
  | _ => fail .setOfCollections

/-- A sequence of layouts in order. -/
def each {α : Type} (f : α → Arrange Layout) : List α → Arrange (List Layout)
  | [] => pure []
  | x :: more => do
      let l ← f x
      let rest ← each f more
      pure (l :: rest)

/-- The layouts of pairs in order. -/
def eachPair {α : Type} (f g : α → Arrange Layout) :
    List α → Arrange (List (Layout × Layout))
  | [] => pure []
  | x :: more => do
      let k ← f x
      let v ← g x
      let rest ← eachPair f g more
      pure ((k, v) :: rest)

/-- The entries with what is merged into them, at its place. -/
def insertAt (place : Nat) (entry : Layout × Layout) (entries : List (Layout × Layout)) :
    List (Layout × Layout) :=
  entries.take place ++ entry :: entries.drop place

/-- The key of what is merged into a mapping. -/
def mergeKey : Layout :=
  .scalar { tag := .ofCore .merge } "<<".toList .any

/-- The layout of what is in a cell. -/
def cell (cells : Cells) (arrange : Value → Arrange Layout) (id : Nat) : Arrange Layout :=
  match (cells.lookup id).map Cell.placed with
  | none => pure (.scalar { tag := .ofCore .null } [] .any)
  | some (.timestamp t) =>
      part id none do
        pure (.scalar { id := some id, tag := .ofCore .timestamp } t.text .any)
  | some (.tagged tag text style header anchor) =>
      part id anchor do
        if let some a := anchor then
          modify fun s => { s with anchors := (id, a) :: s.anchors }
        pure (.scalar { id := some id, tag := writtenTag tag, notes := headerNotes header } text
          (.ofScalar style))
  | some (.sequence c items) =>
      part id c.anchor do
        let ls ← each (fun i => do withItemNotes cells i (← arrange i.value)) items
        pure (.sequence { id := some id, tag := tagOf c .seq, notes := ownNotes c }
          (c.inFlow.getD items.isEmpty) ls)
  | some (.mapping c entries merge _) =>
      part id c.anchor do
        let ls ← eachPair
          (fun e => do pure (withKeyNotes e.notes (← arrange e.key)))
          (fun e => do pure (withValueNotes e.notes (← arrange e.value))) entries
        let info : LayoutInfo := { id := some id, tag := tagOf c .map, notes := ownNotes c }
        match merge with
        | none => pure (.mapping info (c.inFlow.getD entries.isEmpty) ls)
        | some m => do
            let source ← arrange m.source
            pure (.mapping info (c.inFlow.getD false) (insertAt m.place (mergeKey, source) ls))
  | some (.set c items) =>
      part id c.anchor do
        let ls ← eachPair
          (fun e => do
            let l ← arrange e.key
            asSetItem (withKeyNotes e.notes l))
          (fun _ => pure (.scalar { tag := .ofCore .null } [] .setItem)) items
        pure (.mapping { id := some id, tag := .ofCore .set, notes := ownNotes c } false ls)
  | some (.orderedMap c entries) =>
      part id c.anchor do
        let ls ← each (fun (e : Entry) => do
          let k ← arrange e.key
          let v ← arrange e.value
          let before := (e.notes.map fun n => n.1.before).getD []
          let key := match e.notes with
            | none => k
            | some (n, _) => k.withNotes fun _ => { behind := n.behind }
          pure (.mapping { tag := .ofCore .map, notes := { before } } false
            [(key, withValueNotes e.notes v)])) entries
        pure (.sequence { id := some id, tag := .ofCore .omap, notes := ownNotes c }
          (c.inFlow.getD false) ls)
  | some (.pairs items) =>
      part id none do
        let ls ← each (fun e => do
          let k ← arrange e.1
          let v ← arrange e.2
          pure (.sequence { tag := .ofCore .seq } false [k, v])) items
        pure (.sequence { id := some id, tag := .ofCore .seq } items.isEmpty ls)

/-- The layout of a value.  `root` tells whether nothing has been laid out before; the bound limits
the nesting. -/
def value (cells : Cells) : Nat → Bool → Value → Arrange Layout
  | 0, _, _ => fail .layoutTooDeep
  | n + 1, root, v =>
      let inner (v : Value) : Arrange Layout := value cells n false v
      match v with
      | .null => scalar none .null (if root then "null".toList else []) .any {}
      | .bool b anchor => scalar anchor .bool (if b then "true" else "false").toList .any {}
      | .int w anchor => do
          match w.text with
          | .ok s => scalar anchor .int s .any {}
          | .error abort => fail abort
      | .real w anchor => do
          match w.text with
          | .ok s => scalar anchor .float s .any {}
          | .error abort => fail abort
      | .text s style folds header anchor =>
          let marked := if style = .folded then markFolds s folds else s
          let notes := if hasMarks marked then {} else headerNotes header
          scalar anchor .str marked (.ofScalar style) notes
      | .binary bytes => scalar none .binary (Text.Base64.encode bytes) .literal {}
      | .cell id => cell cells inner id
      | .keySequence inFlow items => do
          let ls ← each inner items
          pure (.sequence { tag := .ofCore .seq } inFlow ls)
      | .keyMapping inFlow entries => do
          let ls ← eachPair (fun e => inner e.1) (fun e => inner e.2) entries
          pure (.mapping { tag := .ofCore .map } inFlow ls)
      | .tuple items => do
          let ls ← each inner items
          pure (.sequence { tag := .ofCore .seq } items.isEmpty ls)

end Arrange

/-- The layout of a document.  On the way into it no cell is met twice, and there are at most two
steps from a cell to the next one. -/
def DocumentLayout.ofDocument (d : Document) : Except Abort DocumentLayout :=
  (Arrange.value d.cells (2 * d.cells.length + 3) true d.root {}).map fun (root, s) =>
    { root, anchors := s.anchors }

end Yaml
end YamlTidy
