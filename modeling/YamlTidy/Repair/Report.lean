import YamlTidy.Text.Blank
import YamlTidy.Text.Lines

/-!
# What a repair changed

A report lists the lines in which two texts differ, line against line.  Lines beyond the end of the
shorter text are not compared.
-/

namespace YamlTidy
namespace Repair

open Text

/-- A line before and after a repair. -/
structure Change where
  /-- The line's number, from 1. -/
  line : Nat
  before : List Char
  after : List Char
  indentBefore : Nat
  indentAfter : Nat
  deriving Repr, DecidableEq

/-- The changes a repair made. -/
structure Report where
  status : List Char
  totalLines : Nat
  changes : List Change
  deriving Repr, DecidableEq

/-- The number of lines that changed. -/
def Report.linesChanged (r : Report) : Nat :=
  r.changes.length

/-- The changes between two lists of lines of which the first has number `n`. -/
def changesFrom : Nat → List (List Char) → List (List Char) → List Change
  | n, before :: moreBefore, after :: moreAfter =>
      let rest := changesFrom (n + 1) moreBefore moreAfter
      if before = after then rest
      else
        { line := n, before, after,
          indentBefore := leadingBlanks before, indentAfter := leadingBlanks after } :: rest
  | _, _, _ => []

/-- The report on a repair that turned `given` into `final`. -/
def report (given final status : List Char) : Report :=
  let before := lines given
  { status, totalLines := before.length, changes := changesFrom 1 before (lines final) }

end Repair
end YamlTidy
