import YamlTidy.Repair.Line

/-!
# Realignment of list items

Rows that are keys or scalars keep their indent.  A list item moves: right behind a key it goes one
step deeper than the key, behind another item it takes that item's column, and elsewhere it goes
one step deeper than the innermost key that is still open.

The pass is a fold of `step` over classified lines; `realign` is the text it emits.
-/

namespace YamlTidy
namespace Repair

open Text

/-- What is known after some lines. -/
structure State where
  /-- Indents of the keys whose mappings are open, innermost first. -/
  openKeys : List Int := []
  /-- The column of the current run of list items, while there is one. -/
  runIndent : Option Int := none
  /-- The line on which the current run began. -/
  runStart : Int := -1
  /-- Whether the last line that is not blank was a key. -/
  keyOpened : Bool := false
  deriving Repr, DecidableEq

/-- Whether a run of list items is under way. -/
def State.inRun (s : State) : Bool :=
  s.runIndent.isSome

/-- How list items are placed. -/
structure Realignment where
  /-- Columns between a key and the items under it. -/
  indent : Int := 2
  /-- Whether a blank line ends a run. -/
  resetListOnBlank : Bool := false
  deriving Repr, DecidableEq

/-- The keys that stay open at a line with the given indent. -/
def closeMappings (indent : Int) : List Int → List Int
  | [] => []
  | key :: outer => if indent ≤ key then closeMappings indent outer else key :: outer

/-- A row with `content` in column `indent`. -/
def place (indent : Int) (content : List Char) : List Char :=
  spaces indent ++ content

/-- One line: the state behind it and the row to emit for it. -/
def Realignment.step (r : Realignment) (s : State) (line : Line) : State × List Char :=
  match line.role with
  | .blank =>
      (if r.resetListOnBlank && s.inRun then { s with runIndent := none, runStart := -1 } else s,
        line.raw)
  | .mappingKey =>
      let outer := closeMappings line.indent s.openKeys
      ({ openKeys := line.indent :: outer, keyOpened := true }, place line.indent line.content)
  | .other =>
      ({ openKeys := closeMappings line.indent s.openKeys }, place line.indent line.content)
  | .listItem =>
      let item (openKeys : List Int) (column start : Int) : State × List Char :=
        ({ openKeys, runIndent := some column, runStart := start }, place column line.content)
      match s.keyOpened, s.openKeys with
      | true, key :: outer => item (key :: outer) (key + r.indent) line.index
      | _, _ =>
          let openKeys := closeMappings line.indent s.openKeys
          match s.runIndent, openKeys with
          | some column, _ => item openKeys column s.runStart
          | none, key :: _ => item openKeys (key + r.indent) line.index
          | none, [] => item openKeys 0 line.index

/-- The states behind each line and the rows emitted, from a given state on. -/
def Realignment.steps (r : Realignment) : State → List Line → List (State × List Char)
  | _, [] => []
  | s, line :: rest =>
      let next := r.step s line
      next :: r.steps next.1 rest

/-- The final state and the emitted rows. -/
def Realignment.fold (r : Realignment) (s : State) : List Line → State × List (List Char)
  | [] => (s, [])
  | line :: rest =>
      let next := r.step s line
      let after := r.fold next.1 rest
      (after.1, next.2 :: after.2)

/-- The text with its list items realigned. -/
def Realignment.realign (r : Realignment) (lines : List Line) : List Char :=
  joinRows (r.fold {} lines).2

end Repair
end YamlTidy
