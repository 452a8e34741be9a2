/-!
# Paths

A `Path` is the list of names on the way from the root to a place.  A `WrittenPath` is a path as
someone wrote it: it may be relative and may go up, while empty names and single dots are gone.
-/

namespace YamlTidy
namespace Files

/-- The name of a file or a directory in its directory. -/
abbrev Name := List Char

/-- The names on the way from the root to a place. -/
abbrev Path := List Name

/-- The step up. -/
def up : Name :=
  ['.', '.']

/-- The step that goes nowhere. -/
def stay : Name :=
  ['.']

/-- The pieces of a text between slashes. -/
def pieces : List Char → List Name
  | [] => [[]]
  | c :: rest =>
      if c = '/' then [] :: pieces rest
      else
        match pieces rest with
        | [] => [[c]]
        | piece :: more => (c :: piece) :: more

/-- The names in a text. -/
def namesOf (s : List Char) : List Name :=
  (pieces s).filter fun n => n != [] && n != stay

/-- The steps of a link to a text.  A text that ends in a slash or a dot leads to a directory only,
so its last step goes nowhere. -/
def linkSteps (s : List Char) : List Name :=
  match (pieces s).getLast? with
  | none => []
  | some last => if last = [] ∨ last = stay then namesOf s ++ [stay] else namesOf s

/-- Names with a slash between each two. -/
def joined (names : List Name) : List Char :=
  ['/'].intercalate names

namespace Path

/-- A path as it is shown. -/
def text (p : Path) : List Char :=
  '/' :: joined p

/-- The last name; none at the root. -/
def name (p : Path) : Name :=
  p.getLast?.getD []

/-- The directory of a place. -/
def parent (p : Path) : Path :=
  p.dropLast

/-- The path with another last name. -/
def withName (p : Path) (n : Name) : Path :=
  p.parent ++ [n]

/-- What is left of a path below a directory. -/
def below? (directory p : Path) : Option (List Name) :=
  if directory.isPrefixOf p then some (p.drop directory.length) else none

/-- Without the steps up: each takes the name in front of it with it. -/
def straight (p : Path) : Path :=
  (p.foldl (fun done n => if n = up then done.drop 1 else n :: done) []).reverse

end Path

/-- A path as someone wrote it. -/
structure WrittenPath where
  absolute : Bool
  steps : List Name
  deriving Repr, DecidableEq

namespace WrittenPath

/-- The path that a text stands for. -/
def ofText (s : List Char) : WrittenPath :=
  { absolute := s.head? == some '/', steps := namesOf s }

/-- A path as it is shown. -/
def text (p : WrittenPath) : List Char :=
  if p.absolute then Path.text p.steps
  else if p.steps.isEmpty then ['.']
  else joined p.steps

/-- The path seen from a directory, with its steps up. -/
def fromDirectory (directory : Path) (p : WrittenPath) : Path :=
  if p.absolute then p.steps else directory ++ p.steps

end WrittenPath
end Files
end YamlTidy
