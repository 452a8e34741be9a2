import YamlTidy.Number.Binary64
import YamlTidy.Terminal.Panel

/-!
# Tables

A table has a title, a row of headers and rows of cells, with lines between all of them.  Each
column is as wide as its widest cell; when that is too much, the widest columns become narrower
first.
-/

namespace YamlTidy
namespace Terminal

open Text

/-- A column of a table. -/
structure Column where
  header : List Char
  alignment : Alignment := .left
  deriving Repr, DecidableEq

/-- A table of texts. -/
structure Table where
  title : List Char
  columns : List Column
  rows : List (List (List Char))
  deriving Repr, DecidableEq

/-- The cells that some widths take together. -/
def together (widths : List Nat) : Nat :=
  widths.foldr (· + ·) 0

/-- A number taken off some widths as evenly as can be, from each at most its limit.  `parts` is the
number of widths whose limit is not zero. -/
def reduced : Nat → Nat → List (Nat × Nat) → List Nat
  | _, _, [] => []
  | total, parts, (width, limit) :: rest =>
      if 0 < limit && 0 < parts then
        let off := min limit (Binary64.roundedQuotient total parts)
        (width - off) :: reduced (total - off) (parts - 1) rest
      else width :: reduced total parts rest

/-- Widths with the widest columns made narrower until they fit, in at most `tries` steps. -/
def collapsed (most : Nat) : Nat → List Nat → List Nat
  | 0, widths => widths
  | tries + 1, widths =>
      let excess := together widths - most
      let widest := widths.foldl max 0
      let second := (widths.filter (· != widest)).foldl max 0
      if excess = 0 || widest = second then widths
      else
        let limit := min excess (widest - second)
        collapsed most tries
          (reduced excess (widths.count widest)
            (widths.map fun w => (w, if w = widest then limit else 0)))

namespace Table

/-- The texts of each column, the header first. -/
def columnTexts (t : Table) : List (List (List Char)) :=
  t.columns.mapIdx fun i c => c.header :: t.rows.map fun row => (row[i]?).getD []

/-- The cells that the lines of a table take in a row. -/
def lineWidth (t : Table) : Nat :=
  t.columns.length + 1

/-- The width of a column for some texts, with a space on either side of each. -/
def columnWidth (most : Nat) (texts : List (List Char)) : Nat :=
  min most ((texts.map (paddedWidth most)).foldl max 0)

/-- The widths of the columns in at most `width` cells. -/
def widths (t : Table) (width : Nat) : List Nat :=
  let most := width - t.lineWidth
  let wanted := t.columnTexts.map fun texts => max 1 (columnWidth most texts)
  if together wanted ≤ most then wanted
  else
    let narrow := collapsed most (together wanted + 1) wanted
    let excess := together narrow - most
    let narrow :=
      if excess = 0 then narrow
      else reduced excess (narrow.countP (0 < ·)) (narrow.map fun w => (w, w))
    (narrow.zip t.columnTexts).map fun (w, texts) => columnWidth w texts

/-- A line of a table: its ends, what it is made of, and where it meets a column's end. -/
def line (left fill cross right : Char) (widths : List Nat) : List Char :=
  left :: [cross].intercalate (widths.map (bar fill)) ++ [right]

/-- The rows of a cell, with a space on either side. -/
def cellRows (width : Nat) (alignment : Alignment) (text : List Char) : List (List Char) :=
  if width < 3 then []
  else
    (wrap { alignment, folds := false } (width - 2) text).map fun row =>
      ' ' :: fitted (width - 2) row ++ [' ']

/-- Rows filled up with blank ones to a height, in front or behind. -/
def atHeight (height width : Nat) (atBottom : Bool) (rows : List (List Char)) :
    List (List Char) :=
  let blank := List.replicate (height - rows.length) (bar ' ' width)
  if atBottom then blank ++ rows else rows ++ blank

/-- The rows of one row of cells between vertical lines. -/
def bandRows (t : Table) (vertical : Char) (atBottom : Bool) (widths : List Nat)
    (texts : List (List Char)) : List (List Char) :=
  let drawn := (widths.zip (t.columns.zip texts)).map fun (w, c, text) =>
    (w, cellRows w c.alignment text)
  let height := (drawn.map fun (_, rows) => rows.length).foldl max 1
  let filled := drawn.map fun (w, rows) => atHeight height w atBottom rows
  (List.range height).map fun i =>
    vertical :: [vertical].intercalate (filled.map fun rows => (rows[i]?).getD []) ++ [vertical]

/-- The rows of a table in at most `width` cells. -/
def draw (t : Table) (width : Nat) : List (List Char) :=
  let ws := t.widths width
  let across := together ws + t.lineWidth
  let bands := t.rows.map (t.bandRows '│' false ws)
  wrap { alignment := .center } across t.title ++
    [line '┏' '━' '┳' '┓' ws] ++
    t.bandRows '┃' true ws (t.columns.map Column.header) ++
    [line '┡' '━' '╇' '┩' ws] ++
    [line '├' '─' '┼' '┤' ws].intercalate bands ++
    [line '└' '─' '┴' '┘' ws]

end Table
end Terminal
end YamlTidy
