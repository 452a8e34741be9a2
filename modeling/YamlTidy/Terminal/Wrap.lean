import YamlTidy.Terminal.Cells
import YamlTidy.Text.Blank
import YamlTidy.Text.Lines

/-!
# Wrapping

A text is wrapped into rows of at most so many cells: a row ends in front of the first word that
does not fit.  A word that is longer than a row is either folded over several rows or cut.

Main definition: `wrap`, under a `Flow`.
-/

namespace YamlTidy
namespace Terminal

open Text

/-- Where a text stands in its row. -/
inductive Alignment where
  /-- At the left, with nothing behind it. -/
  | natural
  /-- At the left, with spaces behind it. -/
  | left
  | center
  deriving Repr, DecidableEq

/-- How a text is laid out in rows. -/
structure Flow where
  alignment : Alignment := .natural
  /-- Whether a long word goes on in the next row.  Otherwise it is cut, and a dot of three shows
  it. -/
  folds : Bool := true
  deriving Repr, DecidableEq

/-- Where a reader of words stands. -/
inductive WordPhase where
  | ahead
  | inside
  | behind
  deriving Repr, DecidableEq

/-- The words of a text behind the start of a word. -/
def wordsBehind (word : List Char) : WordPhase → List Char → List (List Char)
  | phase, [] => if phase = .ahead then [] else [word]
  | phase, c :: rest =>
      if isBlank c then
        wordsBehind (word ++ [c]) (if phase = .ahead then .ahead else .behind) rest
      else if phase = .behind then word :: wordsBehind [c] .inside rest
      else wordsBehind (word ++ [c]) .inside rest

/-- The words of a text, each with the blanks behind it; the first also has the blanks in front of
it. -/
def words (s : List Char) : List (List Char) :=
  wordsBehind [] .ahead s

/-- Rows that are being filled: the rows that are full, the last one, and the cells it takes. -/
structure Filling where
  full : List (List Char) := []
  last : List Char := []
  taken : Nat := 0
  deriving Repr, DecidableEq

namespace Filling

/-- More text in the last row. -/
def add (f : Filling) (s : List Char) : Filling :=
  { f with last := f.last ++ s, taken := f.taken + cells s }

/-- A text in a row of its own.  Nothing but the first text goes into a row that is empty. -/
def begin (f : Filling) (s : List Char) : Filling :=
  if f.full.isEmpty && f.last.isEmpty then { f with last := s, taken := cells s }
  else { full := f.full ++ [f.last], last := s, taken := cells s }

/-- One more word. -/
def word (width : Nat) (folds : Bool) (f : Filling) (w : List Char) : Filling :=
  let core := cells (stripEnd w)
  if f.taken + core ≤ width then f.add w
  else if width < core && folds then (chop width w).foldl begin f
  else f.begin w

/-- All rows. -/
def rows (f : Filling) : List (List Char) :=
  f.full ++ [f.last]

end Filling

/-- A row broken in front of the words that do not fit. -/
def broken (width : Nat) (folds : Bool) (row : List Char) : List (List Char) :=
  match words row with
  | [] => [row]
  | ws => (ws.foldl (Filling.word width folds) {}).rows

/-- A row without the blanks at its end that make it too long. -/
def withoutExcess (width : Nat) (row : List Char) : List Char :=
  let blanks := (row.reverse.takeWhile isBlank).length
  row.take (row.length - min blanks (row.length - width))

/-- A row behind `column` others, with spaces up to the next stop in place of each tab.  `count`
says how far a character moves. -/
def tabsBehind (size : Nat) (count : Char → Nat) (column : Nat) : List Char → List Char
  | [] => []
  | c :: rest =>
      if c = '\t' then
        let next := (column / size + 1) * size
        List.replicate (next - column) ' ' ++ tabsBehind size count next rest
      else c :: tabsBehind size count (column + count c) rest

/-- A row with spaces in place of its tabs, whose stops are eight cells apart. -/
def expandTabs (row : List Char) : List Char :=
  tabsBehind 8 cellWidth 0 row

/-- A row that is cut when it is too long. -/
def truncated (width : Nat) (folds : Bool) (row : List Char) : List Char :=
  if cells row ≤ width then row
  else if folds then fitted width row
  else fitted (width - 1) row ++ ['…']

/-- A row where a flow wants it. -/
def placed (width : Nat) (flow : Flow) (row : List Char) : List Char :=
  match flow.alignment with
  | .natural => truncated width flow.folds row
  | .left => fitted width (truncated width flow.folds row)
  | .center =>
      let inner := truncated width flow.folds (stripEnd row)
      fitted width (List.replicate ((width - cells inner) / 2) ' ' ++ inner)

/-- A text in rows of at most `width` cells. -/
def wrap (flow : Flow) (width : Nat) (s : List Char) : List (List Char) :=
  (rows s).flatMap fun row =>
    (broken width flow.folds (expandTabs row)).map fun r =>
      placed width flow (withoutExcess width r)

/-- The cells of the longest line of a text. -/
def widest (s : List Char) : Nat :=
  (lines s).foldl (fun most line => max most (cells line)) 0

/-- The cells that a text would take in a column with a space on either side, in at most `most`
cells. -/
def paddedWidth (most : Nat) (s : List Char) : Nat :=
  if most < 3 then most else min (min (widest s) most + 2) most

end Terminal
end YamlTidy
