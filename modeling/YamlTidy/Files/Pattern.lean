import YamlTidy.Files.Path

/-!
# Patterns for names

In a pattern a star stands for any characters, a question mark for one, and brackets for one of a
set; everything else stands for itself.  `NamePattern.ofText` reads a pattern and
`NamePattern.accepts` compares it with a name.
-/

namespace YamlTidy
namespace Files

/-- A set of characters: characters between two bounds, or all others. -/
structure CharacterSet where
  negated : Bool
  ranges : List (Char × Char)
  deriving Repr, DecidableEq

/-- Whether a character is in a set. -/
def CharacterSet.contains (s : CharacterSet) (c : Char) : Bool :=
  s.ranges.any (fun r => r.1 ≤ c && c ≤ r.2) != s.negated

/-- A part of a pattern. -/
inductive NamePiece where
  | anything
  | anyOne
  | exactly (c : Char)
  | oneOf (s : CharacterSet)
  deriving Repr, DecidableEq

/-- Whether a part that stands for one character stands for this one. -/
def NamePiece.acceptsOne (p : NamePiece) (c : Char) : Bool :=
  match p with
  | .anything => false
  | .anyOne => true
  | .exactly d => c == d
  | .oneOf s => s.contains c

/-- A pattern for names. -/
abbrev NamePattern := List NamePiece

/-- The ends of a text, the whole text first. -/
def tailsOf : List Char → List (List Char)
  | [] => [[]]
  | c :: rest => (c :: rest) :: tailsOf rest

namespace NamePattern

/-- Whether a pattern stands for a name. -/
def accepts : NamePattern → Name → Bool
  | [], s => s.isEmpty
  | .anything :: rest, s => (tailsOf s).any fun t => accepts rest t
  | _ :: _, [] => false
  | p :: rest, c :: s => p.acceptsOne c && accepts rest s

/-- The chunks of a set between the dashes that make ranges.  There is no such dash among the first
`skip` characters, nor among the two behind one. -/
def chunks : Nat → List Char → List Char → List (List Char)
  | _, chunk, [] => [chunk.reverse]
  | 0, chunk, '-' :: rest => chunk.reverse :: chunks 2 [] rest
  | skip, chunk, c :: rest => chunks (skip - 1) (c :: chunk) rest

/-- A dash at the end makes no range. -/
def closeChunks : List (List Char) → List (List Char)
  | [] => []
  | [chunk] => [chunk]
  | [chunk, []] => [chunk ++ ['-']]
  | chunk :: rest => chunk :: closeChunks rest

/-- Drops the ranges whose bounds are in the wrong order, from the last one on. -/
def dropEmptyRanges : List (List Char) → List (List Char)
  | [] => []
  | chunk :: rest =>
      match dropEmptyRanges rest with
      | [] => [chunk]
      | next :: more =>
          match chunk.getLast?, next.head? with
          | some a, some b =>
              if b < a then (chunk.dropLast ++ next.drop 1) :: more else chunk :: next :: more
          | _, _ => chunk :: next :: more

/-- The ranges of chunks: each character, and what lies between two chunks. -/
def rangesOf : List (List Char) → List (Char × Char)
  | [] => []
  | chunk :: rest =>
      let between := match chunk.getLast?, (rest.head?).bind List.head? with
        | some a, some b => [(a, b)]
        | _, _ => []
      chunk.map (fun c => (c, c)) ++ between ++ rangesOf rest

/-- The set that stands in brackets. -/
def setOf (inside : List Char) : CharacterSet :=
  let all := dropEmptyRanges (closeChunks
    (chunks (if inside.head? == some '!' then 2 else 1) [] inside))
  match all with
  | ('!' :: chunk) :: rest => { negated := true, ranges := rangesOf (chunk :: rest) }
  | _ => { negated := false, ranges := rangesOf all }

/-- What stands in the brackets that open here, and what follows them.  A bracket right at the
beginning does not close them. -/
def bracketed? (s : List Char) : Option (List Char × List Char) :=
  let sign := if s.head? == some '!' then ['!'] else []
  let s := s.drop sign.length
  let first := if s.head? == some ']' then [']'] else []
  let s := s.drop first.length
  match s.dropWhile (· != ']') with
  | _ :: rest => some (sign ++ first ++ s.takeWhile (· != ']'), rest)
  | [] => none

/-- Reads a pattern.  `skip` characters have been read already. -/
def readFrom : Nat → List Char → NamePattern
  | _, [] => []
  | skip + 1, _ :: rest => readFrom skip rest
  | 0, '*' :: rest => .anything :: readFrom 0 rest
  | 0, '?' :: rest => .anyOne :: readFrom 0 rest
  | 0, '[' :: rest =>
      match bracketed? rest with
      | some (inside, after) =>
          .oneOf (setOf inside) :: readFrom (rest.length - after.length) rest
      | none => .exactly '[' :: readFrom 0 rest
  | 0, c :: rest => .exactly c :: readFrom 0 rest

/-- The pattern that a text stands for. -/
def ofText (s : List Char) : NamePattern :=
  readFrom 0 s

end NamePattern
end Files
end YamlTidy
