import YamlTidy.Text.CellWidth

/-!
# Cells of a text

How many cells a text takes, and how it is cut to a number of cells.  Characters that show as one
make up a `Glyph`: U+200D joins the character behind it to the one in front, U+FE0F asks for an
emoji, and what takes no cell belongs to what stands in front of it.  A cut never leaves half a
glyph; a space stands for the half that would fit.
-/

namespace YamlTidy
namespace Terminal

open Text

/-- Bell, backspace and the vertical moves do not reach the terminal. -/
def isSilent (c : Char) : Bool :=
  let n := c.toNat
  n == 7 || n == 8 || n == 11 || n == 12 || n == 13

/-- A text without what does not reach the terminal. -/
def audible (s : List Char) : List Char :=
  s.filter fun c => !isSilent c

/-- Joins the character behind it to the one in front. -/
def joiner : Char := Char.ofNat 0x200D

/-- Asks for the emoji form of the character in front. -/
def emojiSelector : Char := Char.ofNat 0xFE0F

/-- The cells of a text behind a character that has cells and no selector yet. -/
def cellsBehind (last : Option Char) : List Char → Nat
  | [] => 0
  | c :: rest =>
      if c = joiner then
        match rest with
        | [] => 0
        | _ :: more => cellsBehind last more
      else if c = emojiSelector then
        (match last with
          | some b => if isEmojiBase b then 1 else 0
          | none => 0) + cellsBehind none rest
      else if cellWidth c = 0 then cellsBehind last rest
      else cellWidth c + cellsBehind (some c) rest

/-- The number of cells of a text. -/
def cells (s : List Char) : Nat :=
  cellsBehind none s

/-- Characters that show as one. -/
structure Glyph where
  text : List Char
  width : Nat
  deriving Repr, DecidableEq

/-- More characters for a glyph. -/
def Glyph.extend (g : Glyph) (more : List Char) (width : Nat) : Glyph :=
  { text := g.text ++ more, width := g.width + width }

/-- The glyphs of a text behind a glyph.  `base` is the character that a selector would widen. -/
def glyphsBehind (open_ : Glyph) (base : Option Char) : List Char → List Glyph
  | [] => [open_]
  | c :: rest =>
      if c = joiner then
        match rest with
        | [] => [open_.extend [c] 0]
        | d :: more => glyphsBehind (open_.extend [c, d] 0) base more
      else if c = emojiSelector then
        match base with
        | some b =>
            if isEmojiBase b then glyphsBehind (open_.extend [c] 1) none rest
            else glyphsBehind (open_.extend [c] 0) base rest
        | none => glyphsBehind (open_.extend [c] 0) base rest
      else if cellWidth c = 0 then glyphsBehind (open_.extend [c] 0) base rest
      else open_ :: glyphsBehind ⟨[c], cellWidth c⟩ (some c) rest

/-- The glyphs of a text. -/
def glyphs : List Char → List Glyph
  | [] => []
  | c :: rest => glyphsBehind ⟨[c], cellWidth c⟩ (if cellWidth c = 0 then none else some c) rest

/-- The glyphs that fit into a number of cells. -/
def fitting : Nat → List Glyph → List Char
  | 0, _ => []
  | _, [] => []
  | n, g :: rest => if g.width ≤ n then g.text ++ fitting (n - g.width) rest else [' ']

/-- A text in exactly `n` cells: cut, or with spaces behind it. -/
def fitted (n : Nat) (s : List Char) : List Char :=
  let taken := cells s
  if taken ≤ n then s ++ List.replicate (n - taken) ' ' else fitting n (glyphs s)

/-- A text cut to at most `n` cells. -/
def cropped (n : Nat) (s : List Char) : List Char :=
  if cells s ≤ n then s else fitted n s

/-- The glyphs of a text in pieces of at most `n` cells, behind a piece that takes `taken`. -/
def chopBehind (n : Nat) (piece : List Char) (taken : Nat) : List Glyph → List (List Char)
  | [] => if taken = 0 then [] else [piece]
  | g :: rest =>
      if n < taken + g.width then piece :: chopBehind n g.text g.width rest
      else chopBehind n (piece ++ g.text) (taken + g.width) rest

/-- A text in pieces of at most `n` cells. -/
def chop (n : Nat) (s : List Char) : List (List Char) :=
  chopBehind n [] 0 (glyphs s)

end Terminal
end YamlTidy
