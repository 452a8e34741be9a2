import YamlTidy.Terminal.Wrap

/-!
# Panels

A panel is a border around rows, with a title in its upper side.  A `Listing` is a text with its
lines numbered.
-/

namespace YamlTidy
namespace Terminal

open Text

/-- A character that is repeated. -/
def bar (c : Char) (n : Nat) : List Char :=
  List.replicate n c

/-- A title as it stands in a border: in one row, with a space on either side. -/
def borderTitle (title : List Char) : List Char :=
  ' ' :: expandTabs (title.map fun c => if c = '\n' then ' ' else c) ++ [' ']

/-- The upper side of a panel. -/
def upperSide (width : Nat) (title : Option (List Char)) : List Char :=
  match title with
  | some t =>
      if width ≤ 4 then '╭' :: bar '─' (width - 2) ++ ['╮']
      else
        let inner := truncated (width - 4) true (borderTitle t)
        let free := width - 4 - cells inner
        '╭' :: bar '─' (free / 2 + 1) ++ inner ++ bar '─' (free - free / 2 + 1) ++ ['╮']
  | none => '╭' :: bar '─' (width - 2) ++ ['╮']

/-- A panel of `width` cells.  `content` fills the width that is left for it. -/
def panel (width : Nat) (title : Option (List Char)) (content : Nat → List (List Char)) :
    List (List Char) :=
  let inner := width - 4
  let body := if inner = 0 then [] else content inner
  upperSide width title ::
    body.map (fun row => '│' :: ' ' :: fitted inner row ++ [' ', '│']) ++
    ['╰' :: bar '─' (width - 2) ++ ['╯']]

/-- A panel with a text in it. -/
def textPanel (width : Nat) (title : Option (List Char)) (text : List Char) : List (List Char) :=
  panel width title fun inner => wrap {} inner text

/-- A panel that is no wider than its text and its title need. -/
def fitPanel (width : Nat) (title text : List Char) : List (List Char) :=
  let needed := max (paddedWidth (width - 2) text) (cells (borderTitle title) + 2)
  textPanel (min (width - 2) needed + 2) (some title) text

/-- The lines of a text for a listing: tabs have stops four characters apart, and neither a byte
order mark in front nor what does not reach the terminal is shown. -/
def listingLines (text : List Char) : List (List Char) :=
  let expanded :=
    (rows (unifyBreaks (text ++ ['\n']))).dropLast.map (tabsBehind 4 (fun _ => 1) 0)
  let marked := match expanded with
    | (c :: row) :: rest => (if c = Char.ofNat 0xFEFF then row else c :: row) :: rest
    | other => other
  marked.map audible

/-- A text with its lines numbered, in rows of `width` cells. -/
def listing (text : List Char) (width : Nat) : List (List Char) :=
  let digits := (toString (text.count '\n' + 1)).length
  (listingLines text).mapIdx fun i line =>
    let number := (toString (i + 1)).toList
    bar ' ' 2 ++ bar ' ' (digits - number.length) ++ number ++
      ' ' :: fitted (width - (digits + 3)) line

end Terminal
end YamlTidy
