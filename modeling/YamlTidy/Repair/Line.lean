import YamlTidy.Text.Blank
import YamlTidy.Text.Lines

/-!
# Classified lines

Each row of a text is a `Line` with an indent and a role.  The role is read off the row alone:
a row that is part of a scalar or of a flow collection over several rows is classified as if it
stood by itself.
-/

namespace YamlTidy
namespace Repair

open Text

/-- What a row is to the structure of a document. -/
inductive Role where
  | blank
  | mappingKey
  | listItem
  | other
  deriving Repr, DecidableEq

/-- The word for a role. -/
def Role.name : Role → String
  | .blank => "blank"
  | .mappingKey => "mapping-key"
  | .listItem => "list-item"
  | .other => "other"

/-- The role a word stands for. -/
def Role.ofName? : String → Option Role
  | "blank" => some .blank
  | "mapping-key" => some .mappingKey
  | "list-item" => some .listItem
  | "other" => some .other
  | _ => none

/-- A row of a text with its place, its indent and its role. -/
structure Line where
  /-- The place among the rows, from 0. -/
  index : Int
  /-- The row itself. -/
  raw : List Char
  /-- The column of its first character that is no space. -/
  indent : Int
  /-- The row without blanks at its ends. -/
  content : List Char
  role : Role
  deriving Repr, DecidableEq

/-- The role of a stripped row.  A row that ends in a colon opens a mapping even behind a dash, and
a dash alone is no list item. -/
def roleOf (content : List Char) : Role :=
  if content.isEmpty then .blank
  else if content.getLast? == some ':' then .mappingKey
  else
    match content with
    | '-' :: c :: _ => if isBlank c then .listItem else .other
    | _ => .other

/-- The row `raw`, classified. -/
def Line.classify (index : Int) (raw : List Char) : Line :=
  let content := strip raw
  { index, raw, indent := leadingSpaces raw, content, role := roleOf content }

/-- The rows of a text, classified. -/
def classify (text : List Char) : List Line :=
  (rows text).mapIdx fun i row => Line.classify i row

end Repair
end YamlTidy
