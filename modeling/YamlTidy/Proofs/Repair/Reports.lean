import YamlTidy.Repair.Pipeline

/-!
# What a report tells

A report compares two texts line against line, as far as both have lines.  Its changes name
exactly the lines in which the texts differ there (`mem_changesFrom`), in order
(`changesFrom_ascending`).  So the changes turn the lines of the one text into those of the other,
except that lines beyond the end of the shorter text are neither added nor dropped
(`patched_changesFrom`).

Main statement: `report_tells_common_lines`.
-/

namespace YamlTidy
namespace Repair

open Text

/-- Lines, with each line that a change names replaced by what came of it. -/
def patched (changes : List Change) (ls : List (List Char)) : List (List Char) :=
  changes.foldl (fun ls c => ls.set (c.line - 1) c.after) ls

/-- The change of the line with number `n`. -/
def changeAt (n : Nat) (before after : List Char) : Change :=
  { line := n, before, after,
    indentBefore := leadingBlanks before, indentAfter := leadingBlanks after }

variable {n : Nat} {before after : List (List Char)} {c : Change}

theorem changesFrom_cons (n : Nat) (b a : List Char) (before after : List (List Char)) :
    changesFrom n (b :: before) (a :: after) =
      (if b = a then [] else [changeAt n b a]) ++ changesFrom (n + 1) before after := by
  rw [changesFrom]
  by_cases h : b = a
  · rw [if_pos h, if_pos h, List.nil_append]
  · rw [if_neg h, if_neg h]
    rfl

/-- A change names a line that both texts have and in which they differ. -/
theorem mem_changesFrom : c ∈ changesFrom n before after ↔
    ∃ i b a, before[i]? = some b ∧ after[i]? = some a ∧ b ≠ a ∧
      c = changeAt (n + i) b a := by
  induction before generalizing n after with
  | nil => simp [changesFrom]
  | cons b before ih =>
      cases after with
      | nil => simp [changesFrom]
      | cons a after =>
          rw [changesFrom_cons, List.mem_append, ih]
          constructor
          · rintro (hhere | ⟨i, b', a', hb, ha, hne, rfl⟩)
            · obtain ⟨hne, rfl⟩ : b ≠ a ∧ c = changeAt n b a := by
                split at hhere
                · cases hhere
                · next hne => exact ⟨hne, List.mem_singleton.mp hhere⟩
              exact ⟨0, b, a, rfl, rfl, hne, rfl⟩
            · exact ⟨i + 1, b', a', hb, ha, hne, by rw [Nat.add_assoc, Nat.add_comm 1 i]⟩
          · rintro ⟨i, b', a', hb, ha, hne, rfl⟩
            cases i with
            | zero =>
                cases hb
                cases ha
                exact Or.inl (by rw [if_neg hne]; exact List.mem_singleton.mpr rfl)
            | succ i =>
                exact Or.inr ⟨i, b', a', hb, ha, hne, by rw [Nat.add_assoc, Nat.add_comm 1 i]⟩

theorem le_line_of_mem_changesFrom (h : c ∈ changesFrom n before after) : n ≤ c.line := by
  obtain ⟨i, b, a, -, -, -, rfl⟩ := mem_changesFrom.mp h
  exact Nat.le_add_right n i

/-- Changes come in the order of the lines, so that no line is named twice. -/
theorem changesFrom_ascending (n : Nat) (before after : List (List Char)) :
    (changesFrom n before after).Pairwise fun c d => c.line < d.line := by
  induction before generalizing n after with
  | nil => exact List.Pairwise.nil
  | cons b before ih =>
      cases after with
      | nil => exact List.Pairwise.nil
      | cons a after =>
          rw [changesFrom_cons]
          refine List.pairwise_append.mpr ⟨by split <;> simp, ih (n + 1) after, ?_⟩
          intro c hc d hd
          have hline : c.line = n := by
            split at hc
            · cases hc
            · rw [List.mem_singleton.mp hc]
              rfl
          have hlater := le_line_of_mem_changesFrom hd
          omega

/-- The changes turn lines into the other ones, as far as there are such.  `front` are the lines in
front of those that are compared. -/
theorem patched_changesFrom (front : List (List Char)) (hn : n = front.length + 1) :
    patched (changesFrom n before after) (front ++ before) =
      front ++ (after.take before.length ++ before.drop after.length) := by
  induction before generalizing n after front with
  | nil => simp [changesFrom, patched]
  | cons b before ih =>
      cases after with
      | nil => simp [changesFrom, patched]
      | cons a after =>
          have hstep : patched (if b = a then [] else [changeAt n b a]) (front ++ b :: before) =
              front ++ a :: before := by
            split
            · next heq =>
                rw [heq]
                rfl
            · simp [patched, changeAt, hn]
          have hrest : patched (changesFrom (n + 1) before after) (front ++ [a] ++ before) =
              front ++ [a] ++ (after.take before.length ++ before.drop after.length) :=
            ih (front ++ [a]) (by simp [hn])
          rw [changesFrom_cons, patched, List.foldl_append, ← patched, ← patched, hstep]
          simpa using hrest

/-- There are no changes when both texts are the same as far as both have lines. -/
theorem changesFrom_eq_nil : changesFrom n before after = [] ↔
    before.take after.length = after.take before.length := by
  induction before generalizing n after with
  | nil => simp [changesFrom]
  | cons b before ih =>
      cases after with
      | nil => simp [changesFrom]
      | cons a after =>
          rw [changesFrom_cons, List.append_eq_nil_iff, ih]
          by_cases h : b = a <;> simp [h]

/-- **What a report tells.**  A report lists, in the order of the lines, exactly the lines that
both texts have and in which they differ.  Its changes make the lines of the first text those of
the second as far as both have lines, and keep what the first has beyond that; nothing tells of
lines that only one of them has.  So the changes give the lines of the second text exactly when
both have as many lines, no line is reported exactly when the texts agree as far as both have
lines, and both together say that they have the same lines. -/
theorem report_tells_common_lines (given final status : List Char) :
    let r := report given final status
    patched r.changes (lines given) =
        (lines final).take (lines given).length ++ (lines given).drop (lines final).length ∧
      (patched r.changes (lines given) = lines final ↔
        (lines given).length = (lines final).length) ∧
      (r.linesChanged = 0 ↔
        (lines given).take (lines final).length = (lines final).take (lines given).length) ∧
      (lines given = lines final ↔
        r.linesChanged = 0 ∧ (lines given).length = (lines final).length) ∧
      (r.changes.Pairwise fun c d => c.line < d.line) ∧
      ∀ c, c ∈ r.changes ↔ ∃ i b a, (lines given)[i]? = some b ∧
        (lines final)[i]? = some a ∧
        b ≠ a ∧ c = changeAt (i + 1) b a := by
  intro r
  have hpatched : patched r.changes (lines given) =
      (lines final).take (lines given).length ++ (lines given).drop (lines final).length :=
    patched_changesFrom [] rfl
  have hnone : r.linesChanged = 0 ↔
      (lines given).take (lines final).length = (lines final).take (lines given).length :=
    List.length_eq_zero_iff.trans changesFrom_eq_nil
  refine ⟨hpatched, ?_, hnone, ?_, changesFrom_ascending 1 _ _, fun c => ?_⟩
  · rw [hpatched]
    constructor
    · intro h
      have hlength := congrArg List.length h
      simp only [List.length_append, List.length_take, List.length_drop] at hlength
      omega
    · intro h
      rw [h, List.take_length, List.drop_of_length_le (Nat.le_of_eq h), List.append_nil]
  · rw [hnone]
    constructor
    · intro h
      rw [h]
      exact ⟨rfl, rfl⟩
    · rintro ⟨hcommon, hlength⟩
      rwa [hlength, List.take_length, ← hlength, List.take_length] at hcommon
  · simp only [r, report, mem_changesFrom, Nat.add_comm 1]

/-- A repair adds a line and its report tells nothing of it, nor would one tell of a line that is
dropped. -/
theorem lines_that_no_report_tells_of :
    let given := "a: 1\n---\n".toList
    let final := "a: 1\n---\nnull\n".toList
    let r := Report.ofOutcome given (autoFix {} given)
    let dropped := report final given r.status
    autoFix {} given = .formatted final ∧
      r.linesChanged = 0 ∧ patched r.changes (lines given) ≠ lines final ∧
      dropped.linesChanged = 0 ∧ patched dropped.changes (lines final) ≠ lines given := by
  decide +kernel

end Repair
end YamlTidy
