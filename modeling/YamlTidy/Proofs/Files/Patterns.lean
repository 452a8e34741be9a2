import YamlTidy.Proofs.Text.Letters
import YamlTidy.Proofs.Files.Searches

/-!
# Patterns for endings

A pattern that is a star in front of a text without signs stands for the names that end in the text
(`accepts_ending`), and as a path pattern it has one part (`segments_ending`).
-/

namespace YamlTidy
namespace Files

open Text

variable {ending : List Char} {n s t : Name}

theorem mem_tailsOf : t ∈ tailsOf s ↔ t <:+ s := by
  induction s with
  | nil => simp [tailsOf]
  | cons c rest ih => rw [tailsOf, List.mem_cons, ih, List.suffix_cons_iff]

namespace NamePattern

theorem readFrom_literal (h : Literal ending) : readFrom 0 ending = ending.map .exactly := by
  induction ending with
  | nil => rfl
  | cons c rest ih =>
      obtain ⟨hc, hrest⟩ := List.forall_mem_cons.mp h
      simp only [isSign, Bool.or_eq_false_iff, beq_eq_false_iff_ne] at hc
      obtain ⟨⟨⟨hstar, hmark⟩, hbracket⟩, -⟩ := hc
      rw [readFrom, ih hrest, List.map_cons]
      · exact hstar
      · exact hmark
      · exact hbracket

theorem accepts_exactly : accepts (ending.map .exactly) n = true ↔ n = ending := by
  induction ending generalizing n with
  | nil => simp [accepts]
  | cons c rest ih =>
      cases n with
      | nil => simp [accepts]
      | cons d n => simp [accepts, NamePiece.acceptsOne, ih]

/-- A star in front of a text stands for the names that end in the text. -/
theorem accepts_ending (h : Literal ending) :
    accepts (ofText ('*' :: ending)) n = true ↔ ending <:+ n := by
  have hread : ofText ('*' :: ending) = .anything :: ending.map .exactly := by
    rw [ofText, readFrom, readFrom_literal h]
  rw [hread, accepts, List.any_eq_true]
  simp only [accepts_exactly, mem_tailsOf]
  exact ⟨fun ⟨t, ht, heq⟩ => heq ▸ ht, fun hs => ⟨ending, hs, rfl⟩⟩

end NamePattern

theorem hasDoubleStar_literal (h : Literal ending) : hasDoubleStar ending = false := by
  induction ending with
  | nil => rfl
  | cons c rest ih =>
      obtain ⟨hc, hrest⟩ := List.forall_mem_cons.mp h
      unfold hasDoubleStar
      split
      · next heq =>
          cases heq
          cases hc
      · next heq =>
          cases heq
          exact ih hrest
      · rfl

/-- The pattern for an ending has one part. -/
theorem segments_ending (h : Literal ending) :
    segments? (namesOf ('*' :: ending)) = some [.matching (.ofText ('*' :: ending))] := by
  have hslash : '/' ∉ '*' :: ending := by
    intro hmem
    rcases List.mem_cons.mp hmem with heq | hmem
    · cases heq
    · cases h '/' hmem
  have hnames : namesOf ('*' :: ending) = ['*' :: ending] := by
    rw [namesOf, pieces_of_noSlash hslash]
    simp [stay]
  have hstars : ('*' :: ending : Name) ≠ ['*', '*'] := by
    rintro heq
    obtain rfl := (List.cons.inj heq).2
    cases h '*' (List.mem_singleton.mpr rfl)
  have hdouble : hasDoubleStar ('*' :: ending) = false := by
    unfold hasDoubleStar
    split
    · next heq =>
        cases heq
        cases h '*' List.mem_cons_self
    · next heq =>
        cases heq
        exact hasDoubleStar_literal h
    · rfl
  rw [hnames]
  simp [segments?, Segment.ofName?, hstars, hdouble]

end Files
end YamlTidy
