import YamlTidy.Files.FileSystem
import YamlTidy.Files.Pattern

/-!
# Searching directories

`search` finds the paths below a directory, at any depth, that end in names a pattern stands for.
It never goes into a directory through a link.  `ascending` puts paths in order.
-/

namespace YamlTidy
namespace Files

/-- A part of a path pattern. -/
inductive Segment where
  /-- The directory itself and all directories below it. -/
  | anyDepth
  | matching (p : NamePattern)
  | exactly (n : Name)
  deriving Repr, DecidableEq

/-- Whether a text has two stars in a row. -/
def hasDoubleStar : List Char → Bool
  | '*' :: '*' :: _ => true
  | _ :: rest => hasDoubleStar rest
  | [] => false

/-- The part that a name in a path pattern stands for; none when two stars stand beside anything
else. -/
def Segment.ofName? (n : Name) : Option Segment :=
  if n = ['*', '*'] then some .anyDepth
  else if hasDoubleStar n then none
  else if n.contains '*' || n.contains '?' || n.contains '[' then some (.matching (.ofText n))
  else some (.exactly n)

/-- The parts of a path pattern. -/
def segments? : List Name → Option (List Segment)
  | [] => some []
  | n :: rest => do
      let s ← Segment.ofName? n
      let more ← segments? rest
      pure (s :: more)

namespace FileSystem

/-- The names in the directory that a path leads to. -/
def listing (fs : FileSystem) (p : Path) : List Name :=
  match fs.locate p with
  | .ok place => fs.names place
  | .error _ => []

/-- Whether a path leads to a directory; nothing is a fault. -/
def leadsToDirectory (fs : FileSystem) (p : Path) : Bool :=
  match fs.stat p with
  | .ok e => e.isDirectory
  | .error _ => false

/-- Whether a link stands at a path. -/
def isLink (fs : FileSystem) (p : Path) : Bool :=
  match fs.locate p.dropLast with
  | .ok place => ((fs.entry? (place ++ p.drop (p.length - 1))).map Entry.isLink).getD false
  | .error _ => false

/-- A directory and all directories below it, to a depth. -/
def directoriesBelow (fs : FileSystem) : Nat → Path → List Path
  | 0, p => [p]
  | depth + 1, p =>
      let inner := (fs.listing p).map fun n => p ++ [n]
      p :: (inner.filter fun q => fs.leadsToDirectory q && !fs.isLink q).flatMap
        (directoriesBelow fs depth)

/-- The paths that the parts of a pattern lead to from a directory. -/
def select (fs : FileSystem) : List Segment → Path → List Path
  | [], here => [here]
  | .anyDepth :: rest, here =>
      -- Each directory on a way down is an entry of its own.
      (fs.directoriesBelow fs.entries.length here).flatMap (select fs rest)
  | .matching p :: rest, here =>
      let found := ((fs.listing here).filter p.accepts).map fun n => here ++ [n]
      (found.filter fun q => rest.isEmpty || fs.leadsToDirectory q).flatMap (select fs rest)
  | .exactly n :: rest, here =>
      let next := here ++ [n]
      let fits := match fs.stat next with
        | .ok e => rest.isEmpty || e.isDirectory
        | .error _ => false
      if fits then select fs rest next else []

/-- The paths below a directory that a pattern leads to, in no order; none when the pattern itself
is at fault. -/
def search (fs : FileSystem) (directory : Path) (pattern : List Char) : Option (List Path) := do
  let parts ← segments? (namesOf pattern)
  if !fs.leadsToDirectory directory then pure []
  else
    let found := fs.select (.anyDepth :: parts) directory
    pure (if pattern.getLast? == some '/' then found.filter fs.leadsToDirectory else found)

end FileSystem

/-- Whether a text comes before another one. -/
def before : List Char → List Char → Bool
  | _, [] => false
  | [], _ :: _ => true
  | a :: s, b :: t => a < b || (a == b && before s t)

/-- Whether a path comes before another one, name by name. -/
def pathBefore : Path → Path → Bool
  | _, [] => false
  | [], _ :: _ => true
  | a :: s, b :: t => before a b || (a == b && pathBefore s t)

/-- Puts a path in its place among paths in order, unless it is there. -/
def place (p : Path) : List Path → List Path
  | [] => [p]
  | q :: rest =>
      if p = q then q :: rest
      else if pathBefore p q then p :: q :: rest
      else q :: place p rest

/-- Paths in order, each once. -/
def ascending (ps : List Path) : List Path :=
  ps.foldr place []

end Files
end YamlTidy
