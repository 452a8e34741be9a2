import YamlTidy.Yaml.Tag
import YamlTidy.Yaml.Token

/-!
# What is laid out

A `Layout` is a document made ready for writing: every scalar is a text with the style it asks for,
every collection knows whether it stands in flow or in block style, and whatever has been met before
is a reference.  Comments stand where they are to be written.
-/

namespace YamlTidy
namespace Yaml

/-- The style that a scalar asks for. -/
inductive AskedStyle where
  /-- Any style that fits. -/
  | any
  /-- The style of an item of a set, which is written like a key without a value. -/
  | setItem
  | singleQuoted
  | doubleQuoted
  | literal
  | folded
  deriving Repr, DecidableEq, Inhabited

/-- The style of a scalar as it was written. -/
def AskedStyle.ofScalar : ScalarStyle → AskedStyle
  | .plain => .any
  | .singleQuoted => .singleQuoted
  | .doubleQuoted => .doubleQuoted
  | .literal => .literal
  | .folded => .folded

/-- The comments of a part of a layout. -/
structure LayoutNotes where
  behind : Option Comment := none
  before : List Leading := []
  atEnd : List Leading := []
  deriving Repr, DecidableEq, Inhabited

/-- What every part of a layout but a reference has. -/
structure LayoutInfo where
  /-- The number by which references name it, if there may be any. -/
  id : Option Nat := none
  tag : Tag
  notes : LayoutNotes := {}
  deriving Repr, DecidableEq, Inhabited

/-- A part of a document made ready for writing. -/
inductive Layout where
  | reference (id : Nat) (asSetItem : Bool)
  /-- A text in which a bell marks each space where it was folded. -/
  | scalar (info : LayoutInfo) (text : List Char) (style : AskedStyle)
  | sequence (info : LayoutInfo) (inFlow : Bool) (items : List Layout)
  | mapping (info : LayoutInfo) (inFlow : Bool) (entries : List (Layout × Layout))
  deriving Inhabited

namespace Layout

/-- What a part of a layout has unless it is a reference. -/
def info? : Layout → Option LayoutInfo
  | reference .. => none
  | scalar info _ _ => some info
  | sequence info _ _ => some info
  | mapping info _ _ => some info

/-- The part with other information. -/
def withInfo (f : LayoutInfo → LayoutInfo) : Layout → Layout
  | reference id s => reference id s
  | scalar info text style => scalar (f info) text style
  | sequence info inFlow items => sequence (f info) inFlow items
  | mapping info inFlow entries => mapping (f info) inFlow entries

/-- The part with other comments. -/
def withNotes (f : LayoutNotes → LayoutNotes) (l : Layout) : Layout :=
  l.withInfo fun info => { info with notes := f info.notes }

/-- The comments of a part. -/
def notes (l : Layout) : LayoutNotes :=
  (l.info?.map (·.notes)).getD {}

/-- Whether it is an item of a set. -/
def isSetItem : Layout → Bool
  | reference _ s => s
  | scalar _ _ style => style = .setItem
  | _ => false

end Layout

/-- A document made ready for writing, and the names of the parts that have anchors. -/
structure DocumentLayout where
  root : Layout
  anchors : List (Nat × List Char)
  deriving Inhabited

end Yaml
end YamlTidy
