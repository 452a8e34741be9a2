import YamlTidy.Text.Base64
import YamlTidy.Text.Case
import YamlTidy.Yaml.Value.Key

/-!
# From nodes to values

`Document.ofNodes` gives every node its value.  Collections are filled in rounds: the root first,
then what was met on the way.  Everything below a key and below a mapping is filled at once.  The
order matters only for texts with several faults, of which the first one met counts.

The functions that fill a collection take the function that builds a child, so that the recursion
stands in one place, `build`, with a bound on the nesting.
-/

namespace YamlTidy
namespace Yaml

open Text

namespace Node

/-- What every node but an alias has. -/
def info? : Node → Option NodeInfo
  | scalar info _ _ _ => some info
  | sequence info _ _ => some info
  | mapping info _ _ => some info
  | reference _ => none

/-- The node with other information. -/
def withInfo (f : NodeInfo → NodeInfo) : Node → Node
  | scalar info text style folds => scalar (f info) text style folds
  | sequence info inFlow items => sequence (f info) inFlow items
  | mapping info inFlow entries => mapping (f info) inFlow entries
  | reference target => reference target

/-- The node without comments. -/
def bare (n : Node) : Node :=
  n.withInfo fun info => { info with comments := none }

/-- Whether a node is a collection in flow style. -/
def isInFlow : Node → Bool
  | sequence _ inFlow _ => inFlow
  | mapping _ inFlow _ => inFlow
  | _ => false

mutual

/-- The number of nodes in a node. -/
def size : Node → Nat
  | sequence _ _ items => sizeItems items + 1
  | mapping _ _ entries => sizeEntries entries + 1
  | _ => 1

/-- The number of nodes in items. -/
def sizeItems : List Node → Nat
  | [] => 0
  | n :: more => size n + sizeItems more

/-- The number of nodes in entries. -/
def sizeEntries : List (Node × Node) → Nat
  | [] => 0
  | (k, v) :: more => size k + size v + sizeEntries more

end

mutual

/-- The nodes with anchors in a node. -/
def anchored : Node → List (Nat × Node)
  | n@(sequence info _ items) =>
      (if info.anchor.isSome then [(info.id, n)] else []) ++ anchoredItems items
  | n@(mapping info _ entries) =>
      (if info.anchor.isSome then [(info.id, n)] else []) ++ anchoredEntries entries
  | n@(scalar info _ _ _) => if info.anchor.isSome then [(info.id, n)] else []
  | reference _ => []

/-- The nodes with anchors in items. -/
def anchoredItems : List Node → List (Nat × Node)
  | [] => []
  | n :: more => anchored n ++ anchoredItems more

/-- The nodes with anchors in entries. -/
def anchoredEntries : List (Node × Node) → List (Nat × Node)
  | [] => []
  | (k, v) :: more => anchored k ++ anchored v ++ anchoredEntries more

end

end Node

/-- What is given while values are built. -/
structure BuildContext where
  version11 : Bool
  /-- The nodes that aliases can stand for. -/
  anchored : List (Nat × Node)

/-- The node that a node stands for. -/
def BuildContext.resolve (ctx : BuildContext) : Node → Node
  | .reference target => (ctx.anchored.lookup target).getD (.reference target)
  | n => n

/-- What is known while values are built. -/
structure BuildState where
  cells : Cells := []
  /-- The values of nodes that aliases can stand for. -/
  made : List (Nat × Value) := []
  /-- The collections to fill in the next round, the last one first. -/
  pending : List Node := []
  /-- Whether collections are filled at once. -/
  deep : Bool := false
  /-- The nodes whose comments went to a sequence around them. -/
  moved : List Nat := []

/-- Building values. -/
abbrev Build := StateT BuildState (Except Fault)

namespace Build

/-- Fails. -/
def fail {α : Type} (fault : Fault) : Build α :=
  fun _ => .error fault

/-- A result that may be a fault. -/
def lift {α : Type} (x : Except Fault α) : Build α := fun s =>
  x.map fun v => (v, s)

/-- Replaces any fault. -/
def orElse {α : Type} (fault : Fault) (act : Build α) : Build α := fun s =>
  match act s with
  | .ok r => .ok r
  | .error _ => .error fault

/-- Puts something into a cell. -/
def setCell (id : Nat) (cell : Cell) : Build Unit := fun s =>
  .ok ((), { s with cells := (id, cell) :: s.cells })

/-- Remembers the value of a node with an anchor. -/
def remember (info : NodeInfo) (v : Value) : Build Unit := fun s =>
  .ok ((), if info.anchor.isSome then { s with made := (info.id, v) :: s.made } else s)

/-- The value of a node that has one already. -/
def made? (info : NodeInfo) : Build (Option Value) := fun s =>
  .ok (if info.anchor.isSome then s.made.lookup info.id else none, s)

/-- The comments of a node, unless they went elsewhere. -/
def commentsOf (n : Node) : Build (Option Comments) := fun s =>
  match n.info? with
  | none => .ok (none, s)
  | some info =>
      .ok (if info.anchor.isSome && s.moved.contains info.id then none else info.comments, s)

/-- Takes the comments of a node away. -/
def takeComments (n : Node) : Build Unit := fun s =>
  match n.info? with
  | some { id, anchor := some _, .. } => .ok ((), { s with moved := id :: s.moved })
  | _ => .ok ((), s)

/-- Lets collections be filled at once while `act` runs. -/
def deeply {α : Type} (deep : Bool) (act : Build α) : Build α := do
  let before := (← get).deep
  modify fun s => { s with deep := s.deep || deep }
  let x ← act
  modify fun s => { s with deep := before }
  pure x

/-- Whether a name looks like those made for nodes that need an anchor: `id` and three or more
digits, but not `id000` alone. -/
def isGenerated (name : List Char) : Bool :=
  match name with
  | 'i' :: 'd' :: rest => 3 ≤ (rest.takeWhile Char.isDigit).length && rest != ['0', '0', '0']
  | _ => false

/-- The anchor that is kept of a collection or of a scalar with an unknown tag. -/
def keptAnchor (anchor : Option (List Char)) : Option (List Char) :=
  anchor.filter fun a => !isGenerated a

/-- The comments that a collection keeps. -/
def ownNotes (c : Comments) : OwnNotes :=
  { behind := c.behind, before := c.before,
    atEnd := if c.afterColon.isSome then [] else c.atEnd.getD [] }

/-- The comments of an item. -/
def notes (c : Comments) : Notes :=
  { behind := c.behind, before := c.before }

/-- The comments of an entry. -/
def entryNotes (key value : Option Comments) : Option (Notes × Notes) :=
  match key, value with
  | none, none => none
  | _, _ => some ((key.map notes).getD {}, (value.map notes).getD {})

/-- The words for truth values. -/
def truth? (s : List Char) : Option Bool :=
  if ["yes", "y", "true", "on"].any fun w => w.toList == s then some true
  else if ["no", "n", "false", "off"].any fun w => w.toList == s then some false
  else none

/-- The text of a scalar with its style. -/
def textOf (info : NodeInfo) (text : List Char) (style : ScalarStyle)
    (folds : List Nat) : Value :=
  let header := if style = .literal || style = .folded then
      info.comments.bind fun c => c.before.head?
    else none
  .text text style folds header (info.anchor.map fun a => ⟨a, info.id⟩)

/-- The characters of a text that are not ASCII, as the first and the last of the first stretch of
them. -/
def nonAscii? (s : List Char) : Option (Nat × Nat) :=
  let front := s.takeWhile fun c => c.toNat < 128
  let wrong := (s.drop front.length).takeWhile fun c => 128 ≤ c.toNat
  if wrong.isEmpty then none else some (front.length, front.length + wrong.length - 1)

/-- What is wrong with a text that has to be ASCII. -/
def nonAsciiReason (s : List Char) (first last : Nat) : List Char :=
  let what :=
    if first == last then
      "character ".toList ++
        '\'' :: quoteChar' (s.getD first 'x') ++ "' in position ".toList ++ decimal first
    else "characters in position ".toList ++ decimal first ++ '-' :: decimal last
  "'ascii' codec can't encode ".toList ++ what ++ ": ordinal not in range(128)".toList
where
  /-- A character as an escape. -/
  quoteChar' (c : Char) : List Char :=
    if let some code := surrogate? c then '\\' :: 'u' :: hexDigits 4 code
    else if c.toNat < 0x100 then '\\' :: 'x' :: hexDigits 2 c.toNat
    else if c.toNat < 0x10000 then '\\' :: 'u' :: hexDigits 4 c.toNat
    else '\\' :: 'U' :: hexDigits 8 c.toNat

/-- The bytes of a scalar. -/
def binaryOf (info : NodeInfo) (text : List Char) : Except Fault Value :=
  match nonAscii? text with
  | some (first, last) => .error (.at (.nonAscii (nonAsciiReason text first last)) info.start)
  | none =>
      match Base64.decode text with
      | .ok bytes => .ok (.binary bytes)
      | .error f => .error (.at (.base64 f.message) info.start)

/-- A scalar whose tag is none of the schema's. -/
def buildTagged (info : NodeInfo) (text : List Char) (style : ScalarStyle) : Build Value := do
  let header := match textOf info text style [] with
    | .text _ _ _ header _ => header
    | _ => none
  setCell info.id (.tagged info.tag text style header (keptAnchor info.anchor))
  pure (.cell info.id)

/-- What a tag asks for. -/
def coreOf (tag : Tag) : Option CoreTag :=
  match tag.core? with
  | some .merge => none
  | some .value => none
  | some .str => if tag.handle.isSome then none else some .str
  | t => t

/-- The value of a scalar. -/
def buildScalar (ctx : BuildContext) (info : NodeInfo) (text : List Char) (style : ScalarStyle)
    (folds : List Nat) : Build Value :=
  let anchor : Option Anchor := info.anchor.map fun a => ⟨a, info.id⟩
  match coreOf info.tag with
  | none => buildTagged info text style
  | some .null => pure .null
  | some .bool =>
      let word := toSmall text
      match truth? word with
      | some b => pure (.bool b anchor)
      | none => fail (.rejected (.unconvertible (quote word)) none)
  | some .int => do
      let n ← lift (WrittenInteger.ofText ctx.version11 text)
      pure (.int n (if n.keepsAnchor then anchor else none))
  | some .float => do
      let x ← lift (WrittenReal.ofText ctx.version11 text)
      pure (.real x (if x.form.isSome then anchor else none))
  | some .binary => lift (binaryOf info text)
  | some .timestamp =>
      match Timestamp.ofText? text with
      | none => fail (.at (.timestamp text) info.start)
      | some t => do
          let t ← lift t
          setCell info.id (.timestamp t)
          pure (.cell info.id)
  | some .str => pure (textOf info text style folds)
  -- The remaining tags are for collections; the fault is met when they are filled.
  | some .seq => pure (.cell info.id)
  | some .map => pure (.cell info.id)
  | some .set => pure (.cell info.id)
  | some .omap => fail (.aborted .orderedMapScalar)
  | some .pairs => pure (.cell info.id)
  | some .merge => buildTagged info text style
  | some .value => buildTagged info text style

/-- The empty collection that a tag asks for. -/
def emptyCell : Option CoreTag → Node → Cell
  | some .seq, _ => .sequence {} []
  | some .map, _ => .mapping {} [] none []
  | some .set, _ => .set {} []
  | some .omap, _ => .orderedMap {} []
  | some .pairs, _ => .pairs []
  | _, .mapping .. => .mapping {} [] none []
  | _, _ => .sequence {} []

/-- A key as it is looked up: a collection is replaced by what it holds now.  There is none for a
set. -/
def keyOf (cells : Cells) (inFlow : Bool) (v : Value) : Option Value :=
  match v with
  | .cell id =>
      match cells.lookup id with
      | some (.sequence _ items) => some (.keySequence inFlow (items.map (·.value)))
      | some (.mapping _ own _ taken) => some (.keyMapping inFlow (Cell.allEntries own taken))
      | some (.orderedMap _ own) => some (.keyMapping inFlow (Cell.allEntries own []))
      | some (.pairs items) =>
          some (.keySequence inFlow (items.map fun e => .tuple [e.1, e.2]))
      | some (.set ..) => none
      | _ => some v
  | v => some v

/-- An item of a set as it is looked up.  There is none for a mapping or a set. -/
def setItemOf (cells : Cells) (v : Value) : Option Value :=
  match v with
  | .cell id =>
      match cells.lookup id with
      | some (.sequence _ items) => some (.tuple (items.map (·.value)))
      | some (.pairs items) => some (.tuple (items.map fun e => .tuple [e.1, e.2]))
      | some (.timestamp _) => some v
      | some (.tagged ..) => some v
      | _ => none
  | v => some v

/-- Rejects a key that holds a collection. -/
def requireHashable (v : Value) : Build Unit := do
  match v.unhashable? (← get).cells with
  | none => pure ()
  | some word =>
      fail (.rejected
        (.unconvertible ("unhashable type: ".toList ++ quote word.toList)) none)

/-- The start of a node. -/
def startOf (n : Node) : Mark :=
  match n.info? with
  | some info => info.start
  | none => default

/-- The entry that has the same key as `key`. -/
def find? (cells : Cells) (key : Value) (entries : List Entry) : Option Entry :=
  entries.find? fun e => key.sameKey cells e.key

/-- The fault of a value that no message can show. -/
def unshowable : Fault :=
  .rejected (.unconvertible (tooManyDigits none)) none

/-- The fault of a key that stands in a mapping already. -/
def duplicateFault (cells : Cells) (key value old : Value) (mark : Mark) : Fault :=
  match cells.shown key, cells.shown value, cells.shown old with
  | some k, some new, some old => .at (.duplicateKey k new old) mark
  | _, _, _ => unshowable

/-- The fault of an item that stands in a set already. -/
def duplicateItemFault (cells : Cells) (key : Value) (mark : Mark) : Fault :=
  match cells.shown key with
  | some k => .at (.duplicateItem k) mark
  | none => unshowable

section

variable (ctx : BuildContext) (build : Bool → Node → Build Value)

/-- The items of a sequence.  Their comments go to the sequence. -/
def items : List Node → Build (List Item)
  | [] => pure []
  | child :: more => do
      let target := ctx.resolve child
      let comments ← commentsOf target
      if comments.isSome then takeComments target
      let value ← build false child.bare
      let rest ← items more
      pure ({ value, notes := comments.map notes } :: rest)

/-- The items of a sequence whose comments stay where they are. -/
def plainItems : List Node → Build (List Item)
  | [] => pure []
  | child :: more => do
      let value ← build false child
      let rest ← plainItems more
      pure ({ value } :: rest)

/-- What a mapping takes from others, and its own entries.  `place` counts its own entries. -/
def mergeOf : Nat → Option Merge → List (Node × Node) →
    Build (Option Merge × List (Node × Node))
  | _, merge, [] => pure (merge, [])
  | place, merge, (keyNode, valueNode) :: more => do
      let key := ctx.resolve keyNode
      let tag := match key.info? with
        | some info => info.tag.core?
        | none => none
      match tag with
      | some .merge => do
          if merge.isSome then fail (.at .duplicateMerge (startOf key))
          let value := ctx.resolve valueNode
          match value with
          | .mapping .. => pure ()
          | .sequence _ _ items =>
              match (items.map ctx.resolve).find? fun n => n.kind != "mapping" with
              | some n => fail (.at (.mergeItem n.kind) (startOf n))
              | none => pure ()
          | _ => fail (.at (.mergeValue value.kind) (startOf value))
          let source ← build true valueNode
          mergeOf place (some { place, source }) more
      | some .value => do
          let keyNode := keyNode.withInfo fun info => { info with tag := .ofCore .str }
          let (merge, own) ← mergeOf (place + 1) merge more
          pure (merge, (keyNode, valueNode) :: own)
      | _ => do
          let (merge, own) ← mergeOf (place + 1) merge more
          pure (merge, (keyNode, valueNode) :: own)

/-- The entries of a mapping behind those in `done`, which come last first. -/
def entriesFrom (deep : Bool) : List Entry → List (Node × Node) → Build (List Entry)
  | done, [] => pure done.reverse
  | done, (keyNode, valueNode) :: more => do
      let keyTarget := ctx.resolve keyNode
      let valueTarget := ctx.resolve valueNode
      let key ← build true keyNode
      match keyOf (← get).cells keyTarget.isInFlow key with
      | none => fail (.at .unhashableKey (startOf keyTarget))
      | some key => do
          let value ← build deep valueNode
          requireHashable key
          let cells := (← get).cells
          match find? cells key done with
          | some old => fail (duplicateFault cells key value old.value (startOf keyTarget))
          | none => do
              let notes := entryNotes (← commentsOf keyTarget) (← commentsOf valueTarget)
              entriesFrom deep ({ key, value, notes } :: done) more

/-- The entries that a mapping takes from one other mapping, behind those it has. -/
def takeFrom (cells : Cells) (have_ : List (Value × Value)) :
    List (Value × Value) → List (Value × Value)
  | [] => []
  | (k, v) :: more =>
      if have_.any fun e => k.sameKey cells e.1 then takeFrom cells have_ more
      else (k, v) :: takeFrom cells (have_ ++ [(k, v)]) more

/-- The entries of the mapping that a value is. -/
def entriesOf (cells : Cells) : Value → List (Value × Value)
  | .cell id =>
      match cells.lookup id with
      | some (.mapping _ own _ taken) => Cell.allEntries own taken
      | some (.orderedMap _ own) => Cell.allEntries own []
      | _ => []
  | _ => []

/-- The mappings that a merge takes entries from. -/
def sourcesOf (cells : Cells) (merge : Option Merge) : List Value :=
  match merge with
  | none => []
  | some { source := .cell id, .. } =>
      match cells.lookup id with
      | some (.sequence _ items) => items.map (·.value)
      | _ => [.cell id]
  | some { source, .. } => [source]

/-- The entries that a mapping takes from others, behind its own. -/
def taken (cells : Cells) (own : List (Value × Value)) : List Value → List (Value × Value)
  | [] => []
  | v :: more =>
      let new := takeFrom cells own (entriesOf cells v)
      new ++ taken cells (own ++ new) more

/-- Fills a mapping, with or without its tag.  An empty one without leaves its style open. -/
def fillMapping (tagged : Bool) (n : Node) (info : NodeInfo) : Build Unit :=
  match n with
  | .mapping _ inFlow pairs => do
      let (merge, own) ← mergeOf ctx build 0 none pairs
      let notes := (← commentsOf n).map ownNotes
      let entries ← entriesFrom ctx build (!tagged) [] own
      let cells := (← get).cells
      let others := taken cells (entries.map fun e => (e.key, e.value)) (sourcesOf cells merge)
      let c : Collection := {
        tag := if tagged then some info.tag else none
        inFlow := if !tagged && entries.isEmpty && others.isEmpty then none else some inFlow
        anchor := keptAnchor info.anchor
        notes }
      setCell info.id (.mapping c entries merge others)
  | _ => fail (.at (.notMapping n.kind) info.start)

/-- Fills a sequence. -/
def fillSequence (n : Node) (info : NodeInfo) : Build Unit :=
  match n with
  | .sequence _ inFlow nodes => do
      let notes := (← commentsOf n).map ownNotes
      let found ← items ctx build nodes
      setCell info.id
        (.sequence {
          inFlow := if nodes.isEmpty then none else some inFlow
          anchor := keptAnchor info.anchor, notes } found)
  | _ => fail (.at (.notSequence n.kind) info.start)

/-- The items of a set behind those in `done`, which come last first. -/
def setItems : List Entry → List (Node × Node) → Build (List Entry)
  | done, [] => pure done.reverse
  | done, (keyNode, valueNode) :: more => do
      let keyTarget := ctx.resolve keyNode
      let valueTarget := ctx.resolve valueNode
      let key ← build true keyNode
      match setItemOf (← get).cells key with
      | none => fail (.at .unhashableKey (startOf keyTarget))
      | some key => do
          let _ ← build false valueNode
          requireHashable key
          let cells := (← get).cells
          match find? cells key done with
          | some _ => fail (duplicateItemFault cells key (startOf keyTarget))
          | none => do
              let notes := entryNotes (← commentsOf keyTarget) (← commentsOf valueTarget)
              setItems ({ key, value := .null, notes } :: done) more

/-- Fills a set. -/
def fillSet (n : Node) (info : NodeInfo) : Build Unit :=
  match n with
  | .mapping _ _ pairs => do
      let notes := (← commentsOf n).map ownNotes
      let found ← setItems ctx build [] pairs
      setCell info.id (.set { anchor := keptAnchor info.anchor, notes } found)
  | _ => fail (.at (.notMapping n.kind) info.start)

/-- The entries of an ordered map behind those in `done`, which come last first. -/
def orderedEntries : List Entry → List Node → Build (List Entry)
  | done, [] => pure done.reverse
  | done, child :: more => do
      let target := ctx.resolve child
      match target with
      | .mapping _ _ [(keyNode, valueNode)] => do
          let key ← build false keyNode
          requireHashable key
          let cells := (← get).cells
          if (find? cells key done).isSome then fail (.aborted .orderedMapKey)
          let value ← build false valueNode
          let keyComments ← commentsOf (ctx.resolve keyNode)
          let itemComments ← commentsOf target
          let joined : Option Comments := match keyComments, itemComments with
            | some k, some i =>
                some { i with before := if k.before.isEmpty then i.before else k.before }
            | k, i => k <|> i
          let notes := entryNotes joined (← commentsOf (ctx.resolve valueNode))
          orderedEntries ({ key, value, notes } :: done) more
      | .mapping _ _ pairs => fail (.at (.orderedMapLength pairs.length) (startOf target))
      | _ => fail (.at (.orderedMapItem target.kind) (startOf target))

/-- Fills an ordered map. -/
def fillOrderedMap (n : Node) (info : NodeInfo) : Build Unit :=
  match n with
  | .sequence _ inFlow nodes => do
      let notes := (← commentsOf n).map ownNotes
      let found ← orderedEntries ctx build [] nodes
      setCell info.id (.orderedMap { inFlow := some inFlow, notes } found)
  | _ => fail (.at (.orderedMapSequence n.kind) info.start)

/-- The pairs of a list of pairs. -/
def pairItems : List Node → Build (List (Value × Value))
  | [] => pure []
  | child :: more => do
      let target := ctx.resolve child
      match target with
      | .mapping _ _ [(keyNode, valueNode)] => do
          let key ← build false keyNode
          let value ← build false valueNode
          let rest ← pairItems more
          pure ((key, value) :: rest)
      | .mapping _ _ pairs => fail (.at (.pairsLength pairs.length) (startOf target))
      | _ => fail (.at (.pairsItem target.kind) (startOf target))

/-- Fills a list of pairs. -/
def fillPairs (n : Node) (info : NodeInfo) : Build Unit :=
  match n with
  | .sequence _ _ nodes => do
      let found ← pairItems ctx build nodes
      setCell info.id (.pairs found)
  | _ => fail (.at (.pairsSequence n.kind) info.start)

/-- Fills a collection whose tag is none of the schema's.  No fault in it is told apart. -/
def fillUnknown (n : Node) (info : NodeInfo) : Build Unit :=
  orElse (.at (.unknownTag info.tag.name) info.start)
    (match n with
    | .mapping .. => fillMapping ctx build true n info
    | .sequence _ inFlow nodes => do
        let found ← plainItems build nodes
        setCell info.id
          (.sequence {
            tag := some info.tag, inFlow := some inFlow,
            anchor := keptAnchor info.anchor } found)
    | _ => pure ())

/-- Fills the collection of a node. -/
def fill (n : Node) : Build Unit :=
  match n.info? with
  | none => pure ()
  | some info =>
      match coreOf info.tag with
      | some .seq => fillSequence ctx build n info
      | some .map => fillMapping ctx build false n info
      | some .set => fillSet ctx build n info
      | some .omap => fillOrderedMap ctx build n info
      | some .pairs => fillPairs ctx build n info
      | _ => fillUnknown ctx build n info

/-- Makes the collection of a node, which is filled now or in the next round. -/
def buildCollection (n : Node) (info : NodeInfo) : Build Value := do
  setCell info.id (emptyCell (coreOf info.tag) n)
  remember info (.cell info.id)
  if (← get).deep then fill ctx build n
  else modify fun s => { s with pending := n :: s.pending }
  pure (.cell info.id)

/-- Whether a tag is for collections. -/
def isForCollections (tag : Tag) : Bool :=
  match coreOf tag with
  | some .seq => true
  | some .map => true
  | some .set => true
  | some .omap => true
  | some .pairs => true
  | _ => false

/-- The value of a node that has none yet. -/
def buildNew (n : Node) (info : NodeInfo) : Build Value :=
  match n with
  | .scalar _ text style folds =>
      if isForCollections info.tag && coreOf info.tag != some .omap then
        buildCollection ctx build n info
      else buildScalar ctx info text style folds
  | _ =>
      match coreOf info.tag with
      | some .null => fail (.at (.notScalar n.kind) info.start)
      | some .bool => fail (.at (.notScalar n.kind) info.start)
      | some .int => fail (.at (.notScalar n.kind) info.start)
      | some .float => fail (.at (.notScalar n.kind) info.start)
      | some .binary => fail (.at (.notScalar n.kind) info.start)
      | some .str => fail (.at (.notScalar n.kind) info.start)
      | some .timestamp => fail (.at (.timestamp []) info.start)
      | _ => buildCollection ctx build n info

/-- The value of a node.  `deep` says that collections in it are filled at once. -/
def buildOne (deep : Bool) (n : Node) : Build Value := do
  let n := ctx.resolve n
  match n.info? with
  | none => pure .null
  | some info =>
      match ← made? info with
      | some v => pure v
      | none =>
          deeply deep do
            let v ← buildNew ctx build n info
            remember info v
            pure v

end

/-- The value of a node whose children are nested at most `bound` deep. -/
def build (ctx : BuildContext) : Nat → Bool → Node → Build Value
  | 0, _, _ => fail (.aborted .layoutTooDeep)
  | bound + 1, deep, n => buildOne ctx (build ctx bound) deep n

/-- Fills collections in order. -/
def fillAll (ctx : BuildContext) (bound : Nat) : List Node → Build Unit
  | [] => pure ()
  | n :: more => do
      fill ctx (build ctx bound) n
      fillAll ctx bound more

/-- Fills collections until none is left to fill. -/
def rounds (ctx : BuildContext) (bound : Nat) : Nat → Build Unit
  | 0 => pure ()
  | n + 1 => do
      let pending := (← get).pending
      if pending.isEmpty then pure ()
      else do
        modify fun s => { s with pending := [] }
        fillAll ctx bound pending.reverse
        rounds ctx bound n

end Build

/-- The document of a node. -/
def Document.ofNodes (d : NodeDocument) : Except Fault Document :=
  let ctx : BuildContext := { version11 := d.version == (1, 1), anchored := d.root.anchored }
  let bound := d.root.size + 1
  let act : Build Value := do
    let root ← Build.build ctx bound false d.root
    Build.rounds ctx bound bound
    pure root
  (act {}).map fun (root, s) => { root, cells := s.cells }

/-- The documents of a text, or what is wrong with it.  Each document is built before the next one
is read. -/
def documents : NodeStream → Except Fault (List Document)
  | .done => .ok []
  | .broken fault => .error fault
  | .more d rest => do
      let document ← Document.ofNodes d
      let others ← documents rest
      pure (document :: others)

end Yaml
end YamlTidy
