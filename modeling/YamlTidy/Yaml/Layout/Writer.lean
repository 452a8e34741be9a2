import YamlTidy.Yaml.Layout.Pen

/-!
# Writing a layout

`DocumentLayout.write` writes a document.  In block style the items of a sequence stand `step`
columns right of their key and what is in them two steps, the entries of a mapping stand one step
right of theirs.  A key stands on one line with its value unless it is long or has several lines.
-/

namespace YamlTidy
namespace Yaml

/-- A collection around a part: where it is indented to, and whether it is a sequence.  Neither is
known of a scalar. -/
structure Level where
  indent : Option Int
  isSequence : Bool
  deriving Repr, DecidableEq

/-- Where a part stands. -/
structure Spot where
  /-- The collections around it, the innermost first, each with the indent around it. -/
  levels : List Level := []
  /-- The indent here; none at the root. -/
  indent : Option Int := none
  /-- The flow collections around it, innermost first: whether each is a sequence. -/
  flow : List Bool := []
  isRoot : Bool := false
  isItem : Bool := false
  /-- Whether it is a key or a value. -/
  isMember : Bool := false
  isSimpleKey : Bool := false
  /-- Whether the comments in front of it have been written. -/
  announced : Bool := false

namespace Spot

/-- Whether the spot is in a flow collection. -/
def inFlow (s : Spot) : Bool :=
  !s.flow.isEmpty

/-- Whether the innermost collection around the spot is a sequence. -/
def inSequence (s : Spot) : Bool :=
  match s.levels with
  | l :: _ => l.isSequence
  | [] => false

/-- Whether the two innermost collections around the spot are sequences. -/
def inNestedSequence (s : Spot) : Bool :=
  match s.levels with
  | a :: b :: _ => a.isSequence && b.isSequence
  | _ => false

/-- The spot inside a collection or a scalar at this spot.  A collection without an indent of its
own stays where it is. -/
def inside (m : Measures) (s : Spot) (flow isSequence indentless : Bool) : Spot :=
  let indent : Option Int := match s.indent with
    | none => if flow then none else some 0
    | some i =>
        if indentless then some i
        else some (i + (if s.inSequence then 2 * m.step else m.step))
  { s with levels := ⟨s.indent, isSequence⟩ :: s.levels, indent }

/-- The spot of an item of a collection. -/
def item (s : Spot) : Spot :=
  { s with isRoot := false, isItem := true, isMember := false, isSimpleKey := false,
           announced := false }

/-- The spot of a key or a value of a collection. -/
def member (s : Spot) (simpleKey : Bool) : Spot :=
  { s with isRoot := false, isItem := false, isMember := true, isSimpleKey := simpleKey,
           announced := false }

/-- The spaces in front of an opening bracket: behind dashes the bracket goes to the column of what
is in the item. -/
def bracketGap (m : Measures) (s : Spot) (column : Int) (commented : Bool) : Int :=
  let base : Int := match s.levels with
    | l :: _ => l.indent.getD 0
    | [] => 0
  let aligned := 2 ≤ s.levels.length && s.inSequence
  if commented && !s.levels.isEmpty then base + 2 * m.step
  else if aligned then base + 2 * m.step - column - 1
  else 0

end Spot

/-- A tag as it is written. -/
def Tag.written (t : Tag) : List Char :=
  match t.handle with
  | some h => h ++ t.suffix
  | none =>
      if t.name == ['!'] || t.name == ['!', '!'] then t.name
      else if t.name.head? == some '!' then t.suffix
      else if coreStem.isPrefixOf t.name && coreStem.length < t.name.length then
        '!' :: '!' :: t.suffix.drop coreStem.length
      else '!' :: '<' :: t.suffix ++ ['>']

namespace Layout

/-- The longest key that stands on a line with its value. -/
def simpleKeyLimit : Nat := 128

/-- The anchor that a part is written with. -/
def anchor? (anchors : List (Nat × List Char)) (info : LayoutInfo) : Option (List Char) :=
  info.id.bind fun id => anchors.lookup id

/-- The length of an anchor. -/
def anchorLength (a : Option (List Char)) : Nat :=
  match a with
  | none => 0
  | some a => a.length

/-- Whether a part can be a key on a line with its value. -/
def isSimpleKey (anchors : List (Nat × List Char)) : Layout → Bool
  | reference id _ => anchorLength (anchors.lookup id) < simpleKeyLimit
  | scalar info text _ =>
      anchorLength (anchor? anchors info) + info.tag.written.length + text.length <
          simpleKeyLimit &&
        !(Analysis.ofText text).multiline
  | sequence info inFlow items =>
      anchorLength (anchor? anchors info) + info.tag.written.length < simpleKeyLimit &&
        (inFlow || items.isEmpty)
  | mapping info inFlow entries =>
      anchorLength (anchor? anchors info) + info.tag.written.length < simpleKeyLimit &&
        (inFlow || entries.isEmpty)

/-- Writes the anchor of a part. -/
def writeAnchor (sign : Char) (a : Option (List Char)) (p : Pen) : Pen :=
  match a with
  | none => p
  | some a => { p.mark (sign :: a) true false false with noNewline := false }

/-- The comment in the header of a block scalar. -/
def headerOf (n : LayoutNotes) : List Char :=
  match n.before with
  | .header text :: _ => text
  | _ => []

/-- Writes a scalar. -/
def writeScalar (m : Measures) (anchors : List (Nat × List Char)) (s : Spot) (info : LayoutInfo)
    (text : List Char) (asked : AskedStyle) (p : Pen) : Pen :=
  let a := anchor? anchors info
  let p := writeAnchor '&' a p
  let asItem := s.isItem && a.isNone && !s.inFlow
  let (plainTag, quotedTag) := impliedTags info.tag text
  let place : ScalarPlace := ⟨s.inFlow, s.isSimpleKey⟩
  let style := chooseStyle place info.tag plainTag text asked
  -- Nothing that would have to be quoted is written as a word.
  let (text, style) : List Char × WrittenStyle :=
    if text.isEmpty && style = .singleQuoted && info.tag.name == CoreTag.null.name then
      ("null".toList, chooseStyle place info.tag plainTag "null".toList asked)
    else (text, style)
  let p :=
    if (if style = .plain then plainTag else quotedTag) then p
    else
      let p := p.mark info.tag.written true false false
      if asItem then { p with noNewline := true } else p
  let inner := s.inside m true false false
  let p := if asItem then p.indentTo inner.indent else p
  let split := !s.isSimpleKey
  let header := headerOf info.notes
  let p := match style with
    | .plain => p.plain m inner.indent s.isRoot split text
    | .singleQuoted => p.singleQuoted m inner.indent split text
    | .doubleQuoted => p.doubleQuoted m inner.indent split text
    | .literal => p.literal inner.indent s.isRoot header text
    | .folded => p.folded m inner.indent s.isRoot header text
  let block := style = .literal || style = .folded
  -- A comment behind a block scalar must not look like a line of it.
  let behind := info.notes.behind.map fun c =>
    let indent := inner.indent.getD 0
    if block && indent ≤ c.mark.column then
      { c with mark := { c.mark with column := (indent - 1).toNat } }
    else c
  p.commentBehind behind

/-- Writes the tag of a collection unless it is the one of its kind. -/
def writeTag (tag : Tag) (core : CoreTag) (p : Pen) : Pen :=
  if tag.name == core.name then p else p.mark tag.written true false false

/-- Writes an opening bracket. -/
def openBracket (m : Measures) (s : Spot) (bracket : List Char) (commented : Bool)
    (p : Pen) : Pen :=
  let gap := s.bracketGap m p.column commented
  p.mark (List.replicate gap.toNat ' ' ++ bracket) true true false

/-- Writes the end of an empty flow collection. -/
def closeEmpty (s : Spot) (bracket : List Char) (behind : Option Comment) (p : Pen) : Pen :=
  let p := p.mark bracket false false false
  match behind with
  | some c => p.commentBehind (some c)
  | none => if s.inFlow then p else p.newline

/-- Writes the end of a flow collection. -/
def closeFlow (bracket : List Char) (behind : Option Comment) (p : Pen) : Pen :=
  let p := if bracket.isEmpty then p else p.mark bracket false false false
  match behind with
  | some c => p.commentBehind (some c)
  | none => { p with noNewline := false }

/-- Goes to a new line in a flow collection when the line is too long. -/
def breakLong (m : Measures) (indent : Option Int) (p : Pen) : Pen :=
  if m.exceeds p.column then p.indentTo indent else p

/-- What comes in front of a sequence: its comments, and whether they ask for an indent.  In flow
style the bracket goes on as if they had not been there. -/
def openSequence (s : Spot) (notes : LayoutNotes) (inFlow : Bool) (p : Pen) :
    Except Abort (Pen × Bool) := do
  let q := if inFlow then p else p.commentBehind notes.behind
  let q ← if s.announced then pure q else Pen.commentsBefore notes.before q
  let commented := !notes.before.isEmpty
  if inFlow then
    let q := { q with column := p.column }
    pure
      (if commented then { q with indention := p.indention, noNewline := !p.indention } else q,
        commented && !s.levels.isEmpty && !s.inSequence)
  else pure (q, false)

/-- What comes in front of a mapping: its comments, and whether they ask for an indent. -/
def openMapping (s : Spot) (notes : LayoutNotes) (inFlow : Bool) (p : Pen) :
    Except Abort (Pen × Bool) := do
  let p := if inFlow then p else p.commentBehind notes.behind
  let p ← if s.announced then pure p else Pen.commentsBefore notes.before p
  pure (p, !notes.before.isEmpty && inFlow && !s.levels.isEmpty && !s.inSequence)

/-- Goes to the next item or key of a block collection and writes the comments in front of it. -/
def beginLine (l : Layout) (indent : Option Int) (p : Pen) : Except Abort Pen :=
  (Pen.commentsBefore l.notes.before p).map fun p => p.indentTo indent

section

variable (m : Measures) (anchors : List (Nat × List Char))

mutual

/-- Writes a part of a layout. -/
def write (s : Spot) : Layout → Pen → Except Abort Pen
  | reference id _, p => .ok (writeAnchor '*' (anchors.lookup id) p)
  | scalar info text asked, p => .ok (writeScalar m anchors s info text asked p)
  | sequence info inFlow items, p => do
      let p := writeTag info.tag .seq (writeAnchor '&' (anchor? anchors info) p)
      let indentless := s.isMember && !p.indention
      let (p, forced) ← openSequence s info.notes inFlow p
      let behind := if inFlow then info.notes.behind else none
      if s.inFlow || inFlow || items.isEmpty then
        let outer := if forced then s.inside m true true false else s
        let p := openBracket m outer ['['] forced p
        let inner := if forced then outer else s.inside m true true false
        let p :=
          if inner.inNestedSequence then { p with indention := true, noNewline := false } else p
        if items.isEmpty then pure (closeEmpty s [']'] behind p)
        else do
          let p ← writeFlowItems { inner with flow := true :: s.flow } true items p
          pure (closeFlow [']'] behind p)
      else do
        let inner := s.inside m false true indentless
        let p :=
          if inner.inNestedSequence then { p with indention := true, noNewline := false } else p
        let p ← writeItems inner items p
        let p ← Pen.commentsBefore info.notes.atEnd p
        pure { p with noNewline := false }
  | mapping info inFlow entries, p => do
      let p := writeTag info.tag .map (writeAnchor '&' (anchor? anchors info) p)
      let (p, forced) ← openMapping s info.notes inFlow p
      let behind := if inFlow then info.notes.behind else none
      if s.inFlow || inFlow || entries.isEmpty then
        let outer := if forced then s.inside m true false false else s
        let bare := entries.length == 1 && s.flow.head? == some true
        let p := openBracket m outer (if bare then [] else ['\x7b']) forced p
        let inner := if forced then outer else s.inside m true false false
        if entries.isEmpty then pure (closeEmpty s ['\x7d'] behind p)
        else do
          let p ← writeFlowEntries { inner with flow := false :: s.flow } true entries p
          pure (closeFlow (if bare then [] else ['\x7d']) behind p)
      else do
        let p ← writeEntries (s.inside m false false false) entries p
        Pen.commentsBefore info.notes.atEnd p

/-- Writes the items of a flow sequence. -/
def writeFlowItems (s : Spot) (first : Bool) : List Layout → Pen → Except Abort Pen
  | [], p => .ok p
  | l :: more, p => do
      let p := if first then p else p.mark [','] false false false
      let p ← write s.item l (breakLong m s.indent p)
      writeFlowItems s false more p

/-- Writes the entries of a flow mapping. -/
def writeFlowEntries (s : Spot) (first : Bool) :
    List (Layout × Layout) → Pen → Except Abort Pen
  | [], p => .ok p
  | (k, v) :: more, p => do
      let p := if first then p else p.mark [','] false false false
      let p := breakLong m s.indent p
      let p ←
        if isSimpleKey anchors k then do
          let p ← write (s.member true) k p
          write (s.member false) v (p.mark [':'] false false false)
        else do
          let p ← write (s.member false) k (p.mark ['?'] true false false)
          write (s.member false) v ((breakLong m s.indent p).mark [':'] true false false)
      writeFlowEntries s false more p

/-- Writes the items of a block sequence. -/
def writeItems (s : Spot) : List Layout → Pen → Except Abort Pen
  | [], p => .ok p
  | l :: more, p => do
      let p ← beginLine l s.indent p
      let p := p.mark (List.replicate m.step.toNat ' ' ++ ['-']) true false true
      let p := if 2 * m.step < m.step + 2 then { p with noNewline := true } else p
      let p ← write { s.item with announced := true } l p
      writeItems s more p

/-- Writes the entries of a block mapping. -/
def writeEntries (s : Spot) : List (Layout × Layout) → Pen → Except Abort Pen
  | [], p => .ok p
  | (k, v) :: more, p => do
      let p ← beginLine k s.indent p
      let p ←
        if isSimpleKey anchors k then do
          let p := if k.isSetItem then p.mark ['?'] true false true else p
          let p ← write { s.member true with announced := true } k p
          -- A reference would otherwise take the colon for a part of its name.
          let p := match k with
            | reference _ false => p.put [' ']
            | _ => p
          let p := if v.isSetItem then p else p.mark [':'] false false false
          write (s.member false) v p
        else do
          let p := p.mark ['?'] true false true
          let p ← write { s.member false with announced := true } k p
          let p := (p.indentTo s.indent).mark [':'] true false true
          write (s.member false) v p
      writeEntries s more p

end

end

end Layout

/-- The text of a document.  A document that is a bare scalar, and one whose last line breaks all
count, end in a marker. -/
def DocumentLayout.write (m : Measures) (d : DocumentLayout) : Except Abort (List Char) := do
  let p ← Layout.write m d.anchors { isRoot := true } d.root {}
  let p := p.indentTo none
  let p := if p.openEnded then (p.mark "...".toList true false false).indentTo none else p
  pure p.done.reverse

end Yaml
end YamlTidy
