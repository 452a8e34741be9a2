import YamlTidy.Yaml.Value

/-!
# Keys

A mapping has every key once.  Keys are the same when they are equal as data: truth values count as
the numbers 0 and 1, and an integer is the same as a floating-point number of its value.  A key that
holds a collection cannot be looked up, and `Value.unhashable?` names it.  `Value.shown` is the form
in which keys and values appear in messages.
-/

namespace YamlTidy
namespace Yaml

open Text

/-- A number for comparison. -/
inductive Quantity where
  | integer (n : Int)
  | real (x : Binary64)
  deriving DecidableEq

namespace Quantity

/-- A floating-point number; one that is whole counts as an integer. -/
def ofReal (x : Binary64) : Quantity :=
  match x.toInt? with
  | some n => integer n
  | none => real x

/-- The number that a value is. -/
def ofValue? : Value → Option Quantity
  | .bool b _ => some (integer (if b then 1 else 0))
  | .int n _ => some (integer n.value)
  | .real x _ =>
      -- Something that is no number equals nothing but the word for it.
      if x.value = .notANumber && x.form.isSome then none else some (ofReal x.value)
  | _ => none

end Quantity

/-- Whether two cells hold the same key. -/
def Cells.sameKey (cells : Cells) (a b : Nat) : Bool :=
  a == b ||
    match cells.lookup a, cells.lookup b with
    | some (.timestamp (.date d)), some (.timestamp (.date e)) => d == e
    | some (.timestamp (.moment d)), some (.timestamp (.moment e)) => d.moment == e.moment
    | _, _ => false

namespace Value

mutual

/-- Whether two values are the same key. -/
def sameKey (cells : Cells) : Value → Value → Bool
  | .null, .null => true
  | .text s _ _ _ _, .text t _ _ _ _ => s == t
  | .binary s, .binary t => s == t
  | .cell a, .cell b => cells.sameKey a b
  | .keySequence _ items, .keySequence _ others => sameKeys cells items others
  | .keyMapping _ entries, .keyMapping _ others => samePairs cells entries others
  | .tuple items, .tuple others => sameKeys cells items others
  | a, b =>
      match Quantity.ofValue? a, Quantity.ofValue? b with
      | some m, some n => m == n
      | _, _ => false

/-- Whether two lists hold the same keys. -/
def sameKeys (cells : Cells) : List Value → List Value → Bool
  | [], [] => true
  | a :: more, b :: others => sameKey cells a b && sameKeys cells more others
  | _, _ => false

/-- Whether two lists hold the same pairs. -/
def samePairs (cells : Cells) : List (Value × Value) → List (Value × Value) → Bool
  | [], [] => true
  | (a, x) :: more, (b, y) :: others =>
      sameKey cells a b && sameKey cells x y && samePairs cells more others
  | _, _ => false

end

/-- The word for the collection in a cell. -/
def cellWord (cells : Cells) (id : Nat) : Option String :=
  match cells.lookup id with
  | some (.sequence ..) => some "CommentedSeq"
  | some (.mapping ..) => some "CommentedMap"
  | some (.set ..) => some "CommentedSet"
  | some (.orderedMap ..) => some "CommentedOrderedMap"
  | some (.pairs _) => some "list"
  | _ => none

mutual

/-- The word for the collection that keeps a value from being looked up. -/
def unhashable? (cells : Cells) : Value → Option String
  | .cell id => cellWord cells id
  | .keySequence _ items => unhashableItem? cells items
  | .keyMapping _ entries => unhashablePair? cells entries
  | .tuple items => unhashableItem? cells items
  | _ => none

/-- The first such collection in a list. -/
def unhashableItem? (cells : Cells) : List Value → Option String
  | [] => none
  | v :: more => unhashable? cells v <|> unhashableItem? cells more

/-- The first such collection in a list of pairs. -/
def unhashablePair? (cells : Cells) : List (Value × Value) → Option String
  | [] => none
  | (k, v) :: more => unhashable? cells k <|> unhashable? cells v <|> unhashablePair? cells more

end

/-- Bytes as messages show them. -/
def shownBytes (bytes : List Nat) : List Char :=
  let q := quoteFor (bytes.map Char.ofNat)
  let one (n : Nat) : List Char :=
    if n < 0x80 then quoteChar q (Char.ofNat n) else '\\' :: 'x' :: hexDigits 2 n
  'b' :: q :: bytes.flatMap one ++ [q]

/-- The numbers of a moment as messages list them: a second and a microsecond of zero are left
out. -/
def shownMoment (m : Moment) : List Char :=
  let tail := if m.microsecond != 0 then [m.second, m.microsecond]
    else if m.second != 0 then [m.second] else []
  let all := [m.date.year, m.date.month, m.date.day, m.hour, m.minute] ++ tail
  ", ".toList.intercalate (all.map fun (n : Nat) => decimal n)

/-- Values between brackets. -/
def listed (left : List Char) (items : List (List Char)) (right : List Char) : List Char :=
  left ++ ", ".toList.intercalate items ++ right

/-- Values between parentheses; a single one is followed by a comma. -/
def listedTuple (items : List (List Char)) : List Char :=
  listed ['('] items (if items.length == 1 then [',', ')'] else [')'])

/-- Pairs of values as messages show them. -/
def shownPairs (inner : Value → Option (List Char)) (entries : List (Value × Value)) :
    Option (List (List Char)) :=
  entries.mapM fun e => do
    let k ← inner e.1
    let v ← inner e.2
    pure (k ++ ": ".toList ++ v)

/-- A value as messages show it, unless it holds an integer of too many digits.  `quoted` tells
whether texts are shown between quotes, and `path` lists the cells around the value, which are not
shown again.  The bound limits the nesting. -/
def shown (cells : Cells) : Nat → Bool → List Nat → Value → Option (List Char)
  | 0, _, _, _ => some "...".toList
  | n + 1, quoted, path, v =>
      let inner (path : List Nat) (v : Value) : Option (List Char) := shown cells n true path v
      match v with
      | .null => some "None".toList
      | .bool b none => some (if b then "True" else "False").toList
      | .bool b (some _) => some (if b then "1" else "0").toList
      | .int w _ => if w.isTooLong then none else some (decimal w.value)
      | .real w _ => some w.value.shown
      | .text s _ _ _ _ => some (if quoted then quote s else s)
      | .binary bytes => some (shownBytes bytes)
      | .keySequence _ items => (items.mapM (inner path)).map listedTuple
      | .tuple items => (items.mapM (inner path)).map listedTuple
      | .keyMapping _ entries =>
          (shownPairs (inner path) entries).map fun s => listed ['\x7b'] s ['\x7d']
      | .cell id =>
          match cells.lookup id with
          | none => some []
          | some (.timestamp (.date d)) =>
              some (if quoted then
                "datetime.date(".toList ++
                  ", ".toList.intercalate
                    ([d.year, d.month, d.day].map fun (n : Nat) => decimal n) ++ [')']
              else d.iso)
          | some (.timestamp (.moment m)) =>
              some (if quoted then
                (if m.letter || !m.zone.isEmpty then "TimeStamp("
                  else "datetime.datetime(").toList ++ shownMoment m.moment ++ [')']
              else m.moment.iso ' ')
          | some (.tagged _ s _ _ _) => some s
          | some (.sequence _ items) =>
              if path.contains id then some "[...]".toList
              else
                (items.mapM fun i => inner (id :: path) i.value).map fun s =>
                  listed ['['] s [']']
          | some (.mapping _ own _ taken) =>
              if path.contains id then some "...".toList
              else
                (shownPairs (inner (id :: path)) (Cell.allEntries own taken)).map fun s =>
                  listed ['\x7b'] s ['\x7d']
          | some (.set _ items) =>
              if path.contains id then some "...".toList
              else
                (items.mapM fun e => inner (id :: path) e.key).map fun s =>
                  listed ['\x7b'] s ['\x7d']
          | some (.orderedMap _ own) =>
              if path.contains id then some "...".toList
              else
                (shownPairs (inner (id :: path)) (Cell.allEntries own [])).map fun s =>
                  listed ['\x7b'] s ['\x7d']
          | some (.pairs items) =>
              if path.contains id then some "[...]".toList
              else
                (items.mapM fun (e : Value × Value) => do
                  let k ← inner (id :: path) e.1
                  let v ← inner (id :: path) e.2
                  pure (listedTuple [k, v])).map fun s => listed ['['] s [']']

end Value

/-- A value as it is shown in the messages about a document, unless it holds an integer of too many
digits. -/
def Cells.shown (cells : Cells) (v : Value) : Option (List Char) :=
  v.shown cells (2 * cells.length + 3) false []

end Yaml
end YamlTidy
