import YamlTidy.Diagnostic

/-!
# Differences of two lists

Two lists have stretches in common: the longest one first, the earliest of several, and then those
on either side of it.  Items that a long new list has very often do not start a stretch.  What
lies between the stretches was changed; `unified` shows the changes in hunks, each with a few
common items around it.
-/

namespace YamlTidy
namespace Text

/-- A stretch that two lists have in common. -/
structure Stretch where
  old : Nat
  new : Nat
  size : Nat
  deriving Repr, DecidableEq

namespace Stretch

/-- The stretch seen from further in front. -/
def moved (s : Stretch) (old new : Nat) : Stretch :=
  { s with old := s.old + old, new := s.new + new }

end Stretch

section Stretches

variable {α : Type} [DecidableEq α]

/-- The new items, each with whether a long list has it very often. -/
def marked (new : List α) : List (α × Bool) :=
  let n := new.length
  new.map fun x => (x, 200 ≤ n && n / 100 + 1 < new.count x)

/-- The lengths of the runs that end at an old item, from those that end at the one before. -/
def runsAt (x : α) : List Nat → List (α × Bool) → List Nat
  | k :: before, (y, often) :: new =>
      (if x = y && !often then k + 1 else 0) :: runsAt x before new
  | _, _ => []

/-- The best of some runs that end at old item `i` and at new items from `j` on. -/
def bestOf (i j : Nat) (best : Stretch) : List Nat → Stretch
  | [] => best
  | k :: rest =>
      bestOf i (j + 1) (if best.size < k then ⟨i + 1 - k, j + 1 - k, k⟩ else best) rest

/-- The best run that ends at old item `i` or behind it. -/
def bestFrom (new : List (α × Bool)) (i : Nat) (runs : List Nat) (best : Stretch) :
    List α → Stretch
  | [] => best
  | x :: rest =>
      let now := runsAt x (0 :: runs) new
      bestFrom new (i + 1) now (bestOf i 0 best now) rest

/-- The number of items that two lists have in common at their starts. -/
def sharedStart : List α → List α → Nat
  | x :: xs, y :: ys => if x = y then sharedStart xs ys + 1 else 0
  | _, _ => 0

/-- The longest stretch of two lists, as far as it goes on either side. -/
def longest (old : List α) (new : List (α × Bool)) : Stretch :=
  let run := bestFrom new 0 (new.map fun _ => 0) ⟨0, 0, 0⟩ old
  let items := new.map Prod.fst
  let front := sharedStart (old.take run.old).reverse (items.take run.new).reverse
  let back := sharedStart (old.drop (run.old + run.size)) (items.drop (run.new + run.size))
  ⟨run.old - front, run.new - front, front + run.size + back⟩

/-- The stretches of two lists in order, at most `depth` within each other. -/
def stretchesWithin : Nat → List α → List (α × Bool) → List Stretch
  | 0, _, _ => []
  | depth + 1, old, new =>
      let s := longest old new
      if s.size = 0 then []
      else
        let oldEnd := s.old + s.size
        let newEnd := s.new + s.size
        stretchesWithin depth (old.take s.old) (new.take s.new) ++ s ::
          (stretchesWithin depth (old.drop oldEnd) (new.drop newEnd)).map fun t =>
            t.moved oldEnd newEnd

/-- Stretches that touch are one. -/
def joinedStretches : List Stretch → List Stretch
  | s :: t :: rest =>
      if s.old + s.size = t.old && s.new + s.size = t.new then
        joinedStretches (⟨s.old, s.new, s.size + t.size⟩ :: rest)
      else s :: joinedStretches (t :: rest)
  | short => short
  termination_by l => l.length

/-- The stretches of two lists in order. -/
def stretches (old new : List α) : List Stretch :=
  joinedStretches (stretchesWithin (old.length + 1) old (marked new))

end Stretches

/-- A part of two lists, either common or changed. -/
structure Passage where
  common : Bool
  oldStart : Nat
  oldEnd : Nat
  newStart : Nat
  newEnd : Nat
  deriving Repr, DecidableEq

namespace Passage

/-- At most the first `n` items of a common passage. -/
def first (n : Nat) (p : Passage) : Passage :=
  { p with oldEnd := min p.oldEnd (p.oldStart + n), newEnd := min p.newEnd (p.newStart + n) }

/-- At most the last `n` items of a common passage. -/
def last (n : Nat) (p : Passage) : Passage :=
  { p with oldStart := max p.oldStart (p.oldEnd - n), newStart := max p.newStart (p.newEnd - n) }

end Passage

/-- The passages of two lists from a place in each on, up to their ends. -/
def passagesFrom (oldLength newLength i j : Nat) : List Stretch → List Passage
  | [] => if i < oldLength || j < newLength then [⟨false, i, oldLength, j, newLength⟩] else []
  | s :: rest =>
      let oldEnd := s.old + s.size
      let newEnd := s.new + s.size
      (if i < s.old || j < s.new then [⟨false, i, s.old, j, s.new⟩] else []) ++
        ⟨true, s.old, oldEnd, s.new, newEnd⟩ ::
          passagesFrom oldLength newLength oldEnd newEnd rest

/-- The number of common items around a change. -/
def context : Nat := 3

/-- Hunks of passages behind the passages of an open hunk. -/
def hunksBehind (open_ : List Passage) : List Passage → List (List Passage)
  | [] => if open_.all Passage.common then [] else [open_]
  | p :: rest =>
      if p.common && 2 * context < p.oldEnd - p.oldStart then
        (open_ ++ [p.first context]) :: hunksBehind [p.last context] rest
      else hunksBehind (open_ ++ [p]) rest

/-- Passages in hunks, with little that is common at either end. -/
def hunks (ps : List Passage) : List (List Passage) :=
  let cutFront := match ps with
    | p :: rest => (if p.common then p.last context else p) :: rest
    | [] => []
  let cutBack := match cutFront.reverse with
    | p :: rest => ((if p.common then p.first context else p) :: rest).reverse
    | [] => []
  hunksBehind [] cutBack

/-- A range of lines: its first line and how many there are, unless it is one. -/
def range (start stop : Nat) : List Char :=
  if stop - start = 1 then decimal (start + 1 : Nat)
  else
    decimal (if stop = start then start else start + 1 : Nat) ++
      ',' :: decimal (stop - start : Nat)

/-- The rows of a hunk. -/
def hunkRows (old new : List (List Char)) (ps : List Passage) : List (List Char) :=
  let oldStart := (ps.head?.map Passage.oldStart).getD 0
  let oldEnd := (ps.getLast?.map Passage.oldEnd).getD 0
  let newStart := (ps.head?.map Passage.newStart).getD 0
  let newEnd := (ps.getLast?.map Passage.newEnd).getD 0
  let part (mark : Char) (ls : List (List Char)) (start stop : Nat) : List (List Char) :=
    ((ls.take stop).drop start).map (mark :: ·)
  ("@@ -".toList ++ range oldStart oldEnd ++ " +".toList ++ range newStart newEnd ++
    " @@".toList) ::
    ps.flatMap fun p =>
      if p.common then part ' ' old p.oldStart p.oldEnd
      else part '-' old p.oldStart p.oldEnd ++ part '+' new p.newStart p.newEnd

/-- The changes between two lists of lines under the names of both; no row when there are none. -/
def unified (oldName newName : List Char) (old new : List (List Char)) : List (List Char) :=
  match hunks (passagesFrom old.length new.length 0 0 (stretches old new)) with
  | [] => []
  | hs => ("--- ".toList ++ oldName) :: ("+++ ".toList ++ newName) :: hs.flatMap (hunkRows old new)

end Text
end YamlTidy
