import YamlTidy.Repair.Pipeline

/-!
# The ways to repair a text agree

`autoFix`, `run` and `heal` send one and the same rebuilt text through the strict gate and differ
only in what they do when it does not pass.  This module says what the gate may answer
(`format_eq_ok`), that it passes the empty text (`format_nil`), and hence that the best text of a
repair that broke off is always the rebuilt one (`broken_rebuilt`).

Main statement: `autoFix_run_heal_agree`.
-/

namespace YamlTidy
namespace Gate

open Yaml

variable {o : Options} {text : List Char}

/-- What the gate makes of a text that is read. -/
theorem format_of_load {ds : List Document} (h : load text = .ok ds) :
    format o text = (canonical o ds).map .formatted := by
  simp [format, read, h, bind, Except.bind]

/-- What the gate makes of a text that is rejected. -/
theorem format_of_rejected {cause : Cause} {mark : Option Mark}
    (h : load text = .error (.rejected cause mark)) :
    format o text = .ok (reject text (Fault.diagnostic cause mark)) := by
  simp [format, read, h, bind, Except.bind, pure, Except.pure]

/-- What the gate makes of a text whose reading breaks off. -/
theorem format_of_aborted {abort : Abort} (h : load text = .error (.aborted abort)) :
    format o text = .error abort := by
  simp [format, read, h, bind, Except.bind]

/-- An answer of the gate is the canonical text of the documents that are read, or a rejection of
the very text that was given. -/
theorem format_eq_ok {g : Outcome} (h : format o text = .ok g) :
    (∃ ds u, load text = .ok ds ∧ canonical o ds = .ok u ∧ g = .formatted u) ∨
      ∃ d : Diagnostic, g = .invalid text d.describe d.position := by
  cases hload : load text with
  | ok ds =>
      rw [format_of_load hload] at h
      cases hcanon : canonical o ds with
      | ok u =>
          rw [hcanon] at h
          cases h
          exact Or.inl ⟨ds, u, rfl, hcanon, rfl⟩
      | error abort =>
          rw [hcanon] at h
          cases h
  | error fault =>
      cases fault with
      | rejected cause mark =>
          rw [format_of_rejected hload] at h
          cases h
          exact Or.inr ⟨_, rfl⟩
      | aborted abort =>
          rw [format_of_aborted hload] at h
          cases h

/-- The empty text has no documents and is its own canonical text. -/
theorem format_nil (o : Options) : format o [] = .ok (.formatted []) := by
  have hload : load [] = .ok [] := rfl
  rw [format_of_load hload]
  rfl

end Gate

namespace Repair

open Yaml

variable {o : Options} {text : List Char}

/-- The gate never breaks off on an empty text. -/
theorem rebuilt_ne_nil {abort : Abort}
    (h : Gate.format o (Rebuilt.ofText o text).text = .error abort) :
    (Rebuilt.ofText o text).text ≠ [] := by
  intro hnil
  rw [hnil, Gate.format_nil] at h
  cases h

/-- The best text at hand is the rebuilt one unless that is empty. -/
theorem firstNonempty_of_ne_nil {a : List Char} (h : a ≠ []) (b c : List Char) :
    firstNonempty a b c = a := by
  simp [firstNonempty, h]

/-- A repair that breaks off at the gate keeps the rebuilt text. -/
theorem broken_rebuilt {abort : Abort}
    (h : Gate.format o (Rebuilt.ofText o text).text = .error abort) :
    broken text (Rebuilt.ofText o text) abort =
      .invalid (Rebuilt.ofText o text).text
        (if abort.message = [] then fallbackMessage else abort.message) none := by
  unfold broken
  rw [firstNonempty_of_ne_nil (rebuilt_ne_nil h)]
  cases abort.message <;> rfl

theorem autoFix_of_ok {g : Outcome} (h : Gate.format o (Rebuilt.ofText o text).text = .ok g) :
    autoFix o text = g := by
  simp [autoFix, h]

theorem autoFix_of_error {abort : Abort}
    (h : Gate.format o (Rebuilt.ofText o text).text = .error abort) :
    autoFix o text = .invalid (Rebuilt.ofText o text).text
      (if abort.message = [] then fallbackMessage else abort.message) none := by
  rw [← broken_rebuilt h]
  simp [autoFix, h]

theorem run_eq_map (o : Options) (text : List Char) :
    run o text =
      (Gate.format o (Rebuilt.ofText o text).text).map fun g => (Rebuilt.ofText o text, g) :=
  rfl

/-- A failure of `autoFix` carries the rebuilt text. -/
theorem text_of_autoFix_invalid {u m : List Char} {p : Option Position}
    (h : autoFix o text = .invalid u m p) :
    u = (Rebuilt.ofText o text).text := by
  cases hgate : Gate.format o (Rebuilt.ofText o text).text with
  | ok g =>
      rw [autoFix_of_ok hgate] at h
      subst h
      rcases Gate.format_eq_ok hgate with ⟨ds, v, -, -, hg⟩ | ⟨d, hg⟩
      · cases hg
      · cases hg
        rfl
  | error abort =>
      rw [autoFix_of_error hgate] at h
      cases h
      rfl

/-- **The three repairs agree.**  What the gate answers to the rebuilt text is the outcome of `run`
and of `autoFix`, and `heal` yields its text or raises its diagnostic.  Where the gate breaks off,
`run` and `heal` break off alike, and `autoFix` fails with the rebuilt text and the message there
is.  In every failure `autoFix` carries the rebuilt text. -/
theorem autoFix_run_heal_agree (o : Options) (text : List Char) :
    (Rebuilt.ofText o text).text =
        (Realignment.ofOptions o).realign (classify (normalize o.indent text)) ∧
      (match Gate.format o (Rebuilt.ofText o text).text with
      | .ok g =>
          run o text = .ok (Rebuilt.ofText o text, g) ∧ autoFix o text = g ∧
            ((∃ u, g = .formatted u ∧ heal o text = .ok (.ok u)) ∨
              ∃ u m p, g = .invalid u m p ∧ heal o text = .ok (.error ⟨u, ⟨m, p⟩⟩))
      | .error abort =>
          run o text = .error abort ∧ heal o text = .error abort ∧
            autoFix o text = .invalid (Rebuilt.ofText o text).text
              (if abort.message = [] then fallbackMessage else abort.message) none) ∧
      ∀ u m p, autoFix o text = .invalid u m p → u = (Rebuilt.ofText o text).text := by
  refine ⟨rfl, ?_, fun u m p => text_of_autoFix_invalid⟩
  -- All three ask the gate about one text, so that its answer decides.
  cases hgate : Gate.format o (Rebuilt.ofText o text).text with
  | ok g =>
      have hrun : run o text = .ok (Rebuilt.ofText o text, g) := by
        rw [run_eq_map, hgate]
        rfl
      refine ⟨hrun, autoFix_of_ok hgate, ?_⟩
      rcases Gate.format_eq_ok hgate with ⟨ds, u, -, -, rfl⟩ | ⟨d, rfl⟩
      · exact Or.inl ⟨u, rfl, by rw [heal, hrun]; rfl⟩
      · exact Or.inr ⟨_, _, _, rfl, by rw [heal, hrun]; rfl⟩
  | error abort =>
      have hrun : run o text = .error abort := by
        rw [run_eq_map, hgate]
        rfl
      exact ⟨hrun, by rw [heal, hrun]; rfl, autoFix_of_error hgate⟩

end Repair
end YamlTidy
