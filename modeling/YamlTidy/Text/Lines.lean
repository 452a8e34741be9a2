/-!
# Two notions of line

A *row* is what lies between two line feeds: `rows` and `joinRows` take a text apart and put it
together again without loss.  A *line* in the wider sense also ends at a carriage return, a
vertical tab, a form feed, an information separator or a Unicode line break; `linesKeeping` cuts a
text behind each of these and `lines` drops the breaks.  `unifyBreaks` turns the breaks of other
systems into line feeds.
-/

namespace YamlTidy
namespace Text

/-- The pieces of a text between its line feeds.  There is always at least one. -/
def rows : List Char → List (List Char)
  | [] => [[]]
  | c :: rest =>
      if c = '\n' then [] :: rows rest
      else
        match rows rest with
        | [] => [[c]]
        | row :: more => (c :: row) :: more

/-- Rows put together again, a line feed between each two. -/
def joinRows : List (List Char) → List Char
  | [] => []
  | [row] => row
  | row :: more => row ++ '\n' :: joinRows more

/-- Every line break as a line feed. -/
def unifyBreaks : List Char → List Char
  | [] => []
  | '\r' :: '\n' :: rest => '\n' :: unifyBreaks rest
  | '\r' :: rest => '\n' :: unifyBreaks rest
  | c :: rest => c :: unifyBreaks rest

/-- A character that ends a line in the wider sense. -/
def isLineEnd (c : Char) : Bool :=
  let n := c.toNat
  (10 ≤ n && n ≤ 13) || (28 ≤ n && n ≤ 30) || n == 0x85 || n == 0x2028 || n == 0x2029

/-- The lines of a text, each with the break that ends it.  A carriage return and the line feed
behind it are one break, and the last line may have none. -/
def linesKeeping : List Char → List (List Char)
  | [] => []
  | '\r' :: '\n' :: rest => ['\r', '\n'] :: linesKeeping rest
  | c :: rest =>
      if isLineEnd c then [c] :: linesKeeping rest
      else
        match linesKeeping rest with
        | [] => [[c]]
        | line :: more => (c :: line) :: more

/-- The lines of a text without the breaks that end them. -/
def lines (s : List Char) : List (List Char) :=
  (linesKeeping s).map fun line => line.takeWhile (fun c => !isLineEnd c)

/-- There is always a row. -/
theorem rows_ne_nil (s : List Char) : rows s ≠ [] := by
  induction s with
  | nil => simp [rows]
  | cons c rest ih =>
      unfold rows
      split
      · simp
      · split <;> simp

/-- Rows lose nothing. -/
theorem joinRows_rows (s : List Char) : joinRows (rows s) = s := by
  induction s with
  | nil => rfl
  | cons c rest ih =>
      have hne := rows_ne_nil rest
      unfold rows
      split
      · rename_i h
        cases hr : rows rest with
        | nil => exact absurd hr hne
        | cons row more => rw [hr] at ih; simp [joinRows, ih, h]
      · cases hr : rows rest with
        | nil => exact absurd hr hne
        | cons row more =>
            rw [hr] at ih
            cases more with
            | nil => simpa [joinRows] using ih
            | cons row' more => simpa [joinRows] using ih

/-- Lines with their breaks lose nothing. -/
theorem flatten_linesKeeping (s : List Char) : (linesKeeping s).flatten = s := by
  fun_induction linesKeeping s <;> simp_all

end Text
end YamlTidy
