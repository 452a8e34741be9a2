import YamlTidy.Proofs.Gate.Verdicts

/-!
# How often a rejection tells its place

The gate describes what is wrong with a text once: its message has the place of the fault behind
it.  `autoFix` hands that message on.  `heal` raises it together with the place, so that the
description of what is raised has the place once more.

Main statement: `described_on_every_surface`.
-/

namespace YamlTidy

open Yaml

/-- The place as it stands behind a message. -/
def placed : Option Position → List Char
  | none => []
  | some p => " (line ".toList ++ decimal p.line ++ ", col ".toList ++ decimal p.column ++ [')']

theorem describe_eq (d : Diagnostic) : d.describe = d.message ++ placed d.position := by
  obtain ⟨message, position⟩ := d
  cases position with
  | none => exact (List.append_nil message).symm
  | some p =>
      have hassoc (a b c e f : List Char) :
          message ++ a ++ b ++ c ++ e ++ f = message ++ (a ++ b ++ c ++ e ++ f) := by
        simp only [List.append_assoc]
      exact hassoc _ _ _ _ _

theorem placed_eq_nil {position : Option Position} : placed position = [] ↔ position = none := by
  cases position with
  | none => exact iff_of_true rfl rfl
  | some p =>
      have hplaced : placed (some p) ≠ [] :=
        List.append_ne_nil_of_right_ne_nil _ (List.cons_ne_nil _ _)
      exact iff_of_false hplaced nofun

/-- Describing what is described already repeats the place, where there is one. -/
theorem describe_describe (d : Diagnostic) :
    (Diagnostic.mk d.describe d.position).describe = d.message ++ placed d.position ++
      placed d.position ∧
      ((Diagnostic.mk d.describe d.position).describe = d.describe ↔ d.position = none) := by
  have htwice : (Diagnostic.mk d.describe d.position).describe =
    d.describe ++ placed d.position :=
    describe_eq _
  refine ⟨by rw [htwice, describe_eq d], ?_⟩
  rw [htwice, List.append_right_eq_self, placed_eq_nil]

namespace Gate

/-- What `check` rejects is a text that the strict reader rejects. -/
theorem rejected_of_check {text u message : List Char} {position : Option Position}
    (h : check text = .ok (.invalid u message position)) :
    ∃ cause mark, load text = .error (.rejected cause mark) ∧ u = text ∧
      message = (Fault.diagnostic cause mark).describe ∧
      position = (Fault.diagnostic cause mark).position := by
  cases hload : load text with
  | ok ds =>
      rw [check_of_load hload] at h
      cases h
  | error fault =>
      cases fault with
      | rejected cause mark =>
          rw [check_of_rejected hload] at h
          cases h
          exact ⟨cause, mark, rfl, rfl, rfl, rfl⟩
      | aborted abort =>
          rw [check_of_aborted hload] at h
          cases h

end Gate

namespace Repair

/-- **Where the gate rejects the rebuilt text, only `heal` repeats the place.**  `check` and
`autoFix` give the same message, in which the place stands once behind the cause, and `heal`
raises that message at that place.  Described, what is raised has the place twice, so that it is
the message of the others if and only if the cause has no place. -/
theorem described_on_every_surface (o : Options) (text u message : List Char)
    (position : Option Position)
    (h : Gate.check (Rebuilt.ofText o text).text = .ok (.invalid u message position)) :
    ∃ (cause : Cause) (mark : Option Mark) (raised : Unrecoverable),
      load (Rebuilt.ofText o text).text = .error (.rejected cause mark) ∧
      u = (Rebuilt.ofText o text).text ∧ position = mark.map Mark.position ∧
      message = cause.message ++ placed position ∧
      autoFix o text = .invalid u message position ∧
      heal o text = .ok (.error raised) ∧
      raised.text = u ∧ raised.diagnostic.position = position ∧
      raised.diagnostic.describe = cause.message ++ placed position ++ placed position ∧
      (raised.diagnostic.describe = message ↔ position = none) := by
  obtain ⟨cause, mark, hload, rfl, rfl, rfl⟩ := Gate.rejected_of_check h
  have hformat := Gate.format_of_rejected (o := o) hload
  obtain ⟨htwice, honce⟩ := describe_describe (Fault.diagnostic cause mark)
  let d := Fault.diagnostic cause mark
  refine ⟨cause, mark, ⟨_, ⟨d.describe, d.position⟩⟩, hload, rfl, rfl, describe_eq _,
    autoFix_of_ok hformat, ?_, rfl, rfl, htwice, honce⟩
  rw [heal, run_eq_map, hformat]
  rfl

/-- A list that is not closed. -/
def openList : List Char :=
  "[".toList

/-- What the gate says of it. -/
def openListMessage : List Char :=
  ("while parsing a flow node, expected the node content, but found '<stream end>'" ++
    " (line 1, col 2)").toList

theorem check_openList :
    Gate.check (Rebuilt.ofText {} openList).text =
      .ok (.invalid openList openListMessage (some ⟨1, 2⟩)) := by
  decide +kernel

/-- For a list that is not closed the description of what is raised is not the message of the
gate. -/
theorem described_of_openList :
    Gate.check (Rebuilt.ofText {} openList).text =
        .ok (.invalid openList openListMessage (some ⟨1, 2⟩)) ∧
      ∃ raised, heal {} openList = .ok (.error raised) ∧
        raised.diagnostic.describe ≠ openListMessage := by
  obtain ⟨-, -, raised, -, -, -, -, -, hraised, -, -, -, htwice⟩ :=
    described_on_every_surface {} openList openList openListMessage (some ⟨1, 2⟩) check_openList
  exact ⟨check_openList, raised, hraised, fun hsame => nomatch htwice.mp hsame⟩

/-- What `heal` raises for a list that is not closed is described with its place twice. -/
theorem place_told_twice :
    autoFix {} openList = .invalid openList openListMessage (some ⟨1, 2⟩) ∧
      heal {} openList = .ok (.error ⟨openList, ⟨openListMessage, some ⟨1, 2⟩⟩⟩) ∧
      Diagnostic.describe ⟨openListMessage, some ⟨1, 2⟩⟩ =
        openListMessage ++ " (line 1, col 2)".toList := by
  obtain ⟨cause, mark, hload, htext, hmessage, hposition⟩ :=
    Gate.rejected_of_check check_openList
  have hformat : Gate.format {} (Rebuilt.ofText {} openList).text =
      .ok (.invalid openList openListMessage (some ⟨1, 2⟩)) := by
    rw [Gate.format_of_rejected hload, Gate.reject, ← hmessage, ← hposition, ← htext]
  refine ⟨autoFix_of_ok hformat, ?_, by decide +kernel⟩
  simp only [heal, run_eq_map, hformat, Except.map]

end Repair
end YamlTidy
