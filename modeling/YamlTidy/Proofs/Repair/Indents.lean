import YamlTidy.Proofs.Repair.Rebuilt

/-!
# What realignment keeps of a row

A row is put together again from the spaces that it begins with and from its content, which has no
blanks at either end.  Between the two there can be other blanks, the `gap` of the row, and these
are not put back.  So a row that is no list item is emitted as it stands exactly when it has no
gap, and a list item changes in the number of its leading spaces alone exactly when it has none
(`emitted_rows_of_normalized`).
-/

namespace YamlTidy
namespace Repair

open Text

variable {i : Nat} {raw : List Char}

/-- The blanks between the spaces that a row begins with and its content. -/
def gap (raw : List Char) : List Char :=
  (raw.dropWhile (· == ' ')).takeWhile isBlank

theorem dropWhile_space (raw : List Char) :
    (raw.dropWhile (· == ' ')).dropWhile isBlank = raw.dropWhile isBlank := by
  induction raw with
  | nil => rfl
  | cons c rest ih =>
      by_cases hc : c = ' '
      · subst hc
        have hspace : isBlank ' ' = true := by decide
        simpa [hspace] using ih
      · simp [hc]

/-- Behind the spaces of a row with no blank at its end there are its gap and its content. -/
theorem gap_append_strip (hend : stripEnd raw = raw) :
    gap raw ++ strip raw = raw.dropWhile (· == ' ') := by
  rw [strip_of_stripEnd hend, ← dropWhile_space, gap, List.takeWhile_append_dropWhile]

/-- A row with no blank at its end is its spaces, its gap and its content. -/
theorem spaces_gap_strip (hend : stripEnd raw = raw) :
    spaces (leadingSpaces raw) ++ gap raw ++ strip raw = raw := by
  rw [List.append_assoc, gap_append_strip hend, ← takeWhile_space_eq_spaces,
    List.takeWhile_append_dropWhile]

/-- Behind the spaces of an emitted row there is the content of its line. -/
theorem dropWhile_place (n : Int) (raw : List Char) :
    (place n (strip raw)).dropWhile (· == ' ') = strip raw := by
  have hspaces : (place n (strip raw)).takeWhile (· == ' ') = spaces n :=
    takeWhile_spaces_append (by decide) (fun c hc => by
      obtain rfl : c = ' ' := by simpa using hc
      decide) (takeWhile_strip raw) n
  have hsplit := List.takeWhile_append_dropWhile (p := (· == ' ')) (l := place n (strip raw))
  rw [hspaces] at hsplit
  exact List.append_cancel_left hsplit

/-- A row in some column differs from the raw one in the number of its spaces alone exactly when
there is no gap. -/
theorem dropWhile_place_eq_iff (hend : stripEnd raw = raw) (n : Int) :
    (place n (strip raw)).dropWhile (· == ' ') = raw.dropWhile (· == ' ') ↔ gap raw = [] := by
  rw [dropWhile_place, ← gap_append_strip hend]
  exact List.self_eq_append_left

/-- A row at its own indent is the raw one exactly when there is no gap. -/
theorem place_strip_eq_iff (hend : stripEnd raw = raw) :
    place (leadingSpaces raw) (strip raw) = raw ↔ gap raw = [] := by
  constructor
  · intro h
    rw [← dropWhile_place_eq_iff hend (leadingSpaces raw), h]
  · intro h
    have hsplit := spaces_gap_strip hend
    rwa [h, List.append_nil] at hsplit

/-- A row with no blank at its end is emitted as its content, in the column of its line. -/
theorem row_of_stripEnd (r : Realignment) (lines : List Line) (hend : stripEnd raw = raw) :
    ((Line.classify i raw).role ≠ .listItem →
        r.row lines i (Line.classify i raw) = place (leadingSpaces raw) (strip raw)) ∧
      ((Line.classify i raw).role = .listItem →
        r.row lines i (Line.classify i raw) = place (r.column lines i) (strip raw)) := by
  unfold Realignment.row
  cases hrole : (Line.classify i raw).role with
  | blank =>
      have hstrip : strip raw = [] := (roleOf_eq_blank_iff _).mp hrole
      have hnil : raw = [] := by
        rw [← hend]
        refine List.rdropWhile_eq_nil_iff.mpr fun c hc => ?_
        rw [← spaces_gap_strip hend, hstrip, List.append_nil, List.mem_append] at hc
        rcases hc with hc | hc
        · rw [List.eq_of_mem_replicate hc]
          decide
        · exact List.mem_takeWhile_imp hc
      subst hnil
      exact ⟨fun _ => rfl, fun h => by cases h⟩
  | mappingKey => exact ⟨fun _ => rfl, fun h => by cases h⟩
  | listItem => exact ⟨fun h => absurd rfl h, fun _ => rfl⟩
  | other => exact ⟨fun _ => rfl, fun h => by cases h⟩

/-- **What realignment keeps of the rows of a normalized text.**  There is a row for each row.
One that is no list item is emitted at its own indent, and it is the row that was given exactly
when nothing stands between its spaces and its content.  A list item is emitted in its column, and
it is the row that was given up to the number of its leading spaces exactly when nothing stands
between its spaces and its content. -/
theorem emitted_rows_of_normalized (r : Realignment) (width : Int) (t : List Char) :
    let lines := classify (normalize width t)
    let emitted := (r.fold {} lines).2
    emitted.length = lines.length ∧
      ∀ i line, lines[i]? = some line →
        line.raw = spaces line.indent ++ gap line.raw ++ line.content ∧
        (line.role ≠ .listItem →
          emitted[i]? = some (spaces line.indent ++ line.content) ∧
            (emitted[i]? = some line.raw ↔ gap line.raw = [])) ∧
        (line.role = .listItem →
          emitted[i]? = some (spaces (r.column lines i) ++ line.content) ∧
            ((∃ row, emitted[i]? = some row ∧
              row.dropWhile (· == ' ') = line.raw.dropWhile (· == ' ')) ↔
                gap line.raw = [])) := by
  intro lines emitted
  have hemitted : emitted = lines.mapIdx (r.row lines) := fold_snd_eq_mapIdx_row r lines
  refine ⟨by rw [hemitted, List.length_mapIdx], fun i line hline => ?_⟩
  obtain ⟨raw, hraw, rfl⟩ : ∃ raw, (rows (normalize width t))[i]? = some raw ∧
      Line.classify i raw = line := by
    rw [getElem?_classify] at hline
    exact Option.map_eq_some_iff.mp hline
  have hend : stripEnd raw = raw := stripEnd_of_mem_rows_stripRows (List.mem_of_getElem? hraw)
  have hrow : emitted[i]? = some (r.row lines i (Line.classify i raw)) := by
    rw [hemitted, List.getElem?_mapIdx, hline]
    rfl
  refine ⟨(spaces_gap_strip hend).symm, fun hrole => ?_, fun hrole => ?_⟩
  · have hplace := (row_of_stripEnd r lines hend).1 hrole
    rw [hrow, hplace]
    exact ⟨rfl, (Option.some_inj).trans (place_strip_eq_iff hend)⟩
  · have hplace := (row_of_stripEnd r lines hend).2 hrole
    rw [hrow, hplace]
    refine ⟨rfl, Iff.trans ?_ (dropWhile_place_eq_iff hend (r.column lines i))⟩
    simp only [Option.some.injEq, exists_eq_left']
    rfl

/-- A line of a literal, a key and a list item lose the blank that is no space in front of their
content. -/
theorem rows_that_lose_a_blank :
    normalize 2 "a: |\n  \u00A0x\n\u2003b:\n\u00A0- y".toList =
        "a: |\n  \u00A0x\n\u2003b:\n\u00A0- y".toList ∧
      (({} : Realignment).fold {} (classify "a: |\n  \u00A0x\n\u2003b:\n\u00A0- y".toList)).2 =
        ["a: |".toList, "  x".toList, "b:".toList, "  - y".toList] := by
  decide +kernel

end Repair
end YamlTidy
