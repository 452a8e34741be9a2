import YamlTidy.Text.Blank
import YamlTidy.Text.Lines

/-!
# Surface cleanup

The first step of a repair works on characters only: byte order marks in front are dropped, line
breaks become line feeds, tabs become spaces, blanks at the end of a row go, and so do commas that
are left over before a line break or a closing bracket.

Main definitions:

* `cleanArtifacts`, `expandTabs`, `stripRows`, the separate rules;
* `dropCommasOnce`, which deletes the commas that are leftovers as they stand, and `dropCommas`,
  which repeats it until nothing changes;
* `normalize`, all of them in order.
-/

namespace YamlTidy
namespace Repair

open Text

/-- The text without byte order marks in front and with line feeds for all its breaks. -/
def cleanArtifacts (s : List Char) : List Char :=
  unifyBreaks (s.dropWhile (· == '\uFEFF'))

/-- Every tab as `width` spaces. -/
def expandTabs (width : Int) (s : List Char) : List Char :=
  s.flatMap fun c => if c = '\t' then spaces width else [c]

/-- Every row without the blanks it ends with. -/
def stripRows (s : List Char) : List Char :=
  joinRows ((rows s).map stripEnd)

/-- Whether what stands behind a comma makes it a leftover: the blanks right behind it hold a line
feed or are followed by a closing bracket. -/
def closes : List Char → Bool
  | [] => false
  | c :: rest => c == '\n' || c == ']' || c == '}' || (isBlank c && closes rest)

/-- The text without the commas that are leftovers. -/
def dropCommasOnce : List Char → List Char
  | [] => []
  | c :: rest =>
      if c == ',' && closes rest then dropCommasOnce rest else c :: dropCommasOnce rest

/-- Deletes leftover commas until there are none, at most `rounds` times. -/
def dropCommasWithin : Nat → List Char → List Char
  | 0, s => s
  | rounds + 1, s =>
      let t := dropCommasOnce s
      if t = s then s else dropCommasWithin rounds t

/-- The text with no leftover comma.  A round that changes the text shortens it, so there are never
more rounds than characters. -/
def dropCommas (s : List Char) : List Char :=
  dropCommasWithin s.length s

/-- Surface cleanup with tabs `tabWidth` wide.  Rows are stripped once more at the end since a
deleted comma can expose the blanks in front of it. -/
def normalize (tabWidth : Int) (s : List Char) : List Char :=
  stripRows (dropCommas (stripRows (expandTabs tabWidth (cleanArtifacts s))))

end Repair
end YamlTidy
