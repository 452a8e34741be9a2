import YamlTidy.Proofs.Repair.Agreement
import YamlTidy.Proofs.Workspace.Courses

/-!
# Dry runs

A request that does not write is a dry run: it reports what would be written and leaves all files
as they are.  Where a request does write, the file then holds the very text that the dry run
reports, as the text passes through the file system unchanged (`Saved.read_of_written`).

Main statement: `writes_what_dry_run_reports`.
-/

namespace YamlTidy
namespace Workspace

open Files FileSystem

variable {ws : Workspace} {fs after : FileSystem} {place directory q : Path} {path : List Char}
  {bytes : List UInt8} {time : Int} {text : List Char} {r : Request} {outcome : Outcome}
  {p : Processed}

/-- The request without writing. -/
def dry (r : Request) : Request :=
  { r with write := false }

/-! ## What is not due -/

/-- A text that is rejected in its own words is no other text. -/
theorem output_of_format_invalid (h : Mode.apply ws.options text .format = .ok outcome)
    (hok : outcome.ok = false) : (outcome.text?).getD text = text := by
  rcases Gate.format_eq_ok h with ⟨ds, u, -, -, rfl⟩ | ⟨d, rfl⟩
  · cases hok
  · rfl

theorem isModified_eq_true :
    p.isModified = true ↔ p.mode ≠ .check ∧ p.output ≠ p.given := by
  simp [Processed.isModified]

theorem isDue_eq_true : p.isDue r = true ↔
    r.write = true ∧ (p.mode ≠ .check ∧ p.output ≠ p.given) ∧
      (p.outcome.ok = true ∨ r.force = true) := by
  simp [Processed.isDue, isModified_eq_true, and_assoc]

/-- A dry run of work that would write reports the same outcome and leaves the files alone. -/
theorem process_dry (hlocate : ws.locate fs path = .ok place)
    (hload : load fs place = .ok (.ok text))
    (happly : r.mode.apply ws.options text = .ok outcome) :
    ws.process fs path (dry r) =
      (.ok (.processed { path, mode := r.mode, outcome, given := text }), fs) := by
  unfold process
  simp [hlocate, hload, happly, dry, Processed.isDue]

/-- The conditions under which a request has nothing to write. -/
def Idle (ws : Workspace) (fs : FileSystem) (path : List Char) (r : Request) : Prop :=
  r.write = false ∨ r.mode = .check ∨
    ∃ p, ws.process fs path (dry r) = (.ok (.processed p), fs) ∧
      (p.outcome.ok = false ∧ (r.force = false ∨ r.mode = .format) ∨ p.output = p.given)

theorem isDue_of_idle (h : Idle ws fs path r) (hlocate : ws.locate fs path = .ok place)
    (hload : load fs place = .ok (.ok text))
    (happly : r.mode.apply ws.options text = .ok outcome) :
    Processed.isDue { path, mode := r.mode, outcome, given := text } r ≠ true := by
  intro hdue
  obtain ⟨hwrite, ⟨hmode, houtput⟩, hok⟩ := isDue_eq_true.mp hdue
  rcases h with hdry | hcheck | ⟨p, hp, hkept⟩
  · rw [hdry] at hwrite
    cases hwrite
  · exact hmode hcheck
  · rw [process_dry hlocate hload happly] at hp
    cases hp
    rcases hkept with ⟨hinvalid, hforce | hformat⟩ | hsame
    · simp [hinvalid, hforce] at hok
    · rw [hformat] at happly
      exact houtput (output_of_format_invalid happly hinvalid)
    · exact houtput hsame

/-- Work that has nothing to write leaves all files as they are, however it ends. -/
theorem files_of_idle (h : Idle ws fs path r) : (ws.process fs path r).2 = fs := by
  rcases hrun : ws.process fs path r with ⟨result, after⟩
  cases course_of_process hrun with
  | astray stop locate => rfl
  | unseen place fault locate isFile => rfl
  | unread place failure locate load => rfl
  | aborted place text abort locate load apply => rfl
  | kept place text outcome locate load apply undue => rfl
  | saved place directory q bytes time text outcome result after locate load apply due
      file save =>
      exact absurd due (isDue_of_idle h locate load apply)

/-! ## What is written -/

theorem written_finished {done : Except FileFault Unit} (hp : p.written = false)
    (hw : (finished p done).written = true) : done = .ok () := by
  cases done with
  | ok u => rfl
  | error fault =>
      rw [finished, hp] at hw
      cases hw

/-- Without links a file that was saved holds the text that came out. -/
theorem Saved.read_of_written {result : Except Stop FileReport} {report : FileReport}
    (h : Saved ws fs place p result after) (hfile : FileAt fs place directory q bytes time)
    (hlinks : Linkless fs) (hp : p.written = false) (hresult : result = .ok report)
    (hw : report.written = true) : after.read place = .ok (Text.Utf8.encode p.output) := by
  cases h with
  | unnamed k fault present => cases hresult
  | outside k copied first copy below => cases hresult
  | warned k fault done after first copy move =>
      cases hresult
      have hdone := written_finished (by exact hp) hw
      exact (replaced_of_move hfile (hdone ▸ move)).read_of_ok hfile hlinks
  | copied k copied steps done after first copy below move =>
      cases hresult
      have hdone := written_finished (by exact hp) hw
      have hcopied := first.fileAt_of_copy hfile copy
      exact (replaced_of_move hcopied (hdone ▸ move)).read_of_ok hcopied (hlinks.of_copy copy)

/-- **What is written is what a dry run reports.**  Work without writing, in check mode, on a text
that comes out invalid and is not forced, or on one that comes out as it was, leaves all files as
they are.  Where there are no links, a file that is reported as written holds the text that a dry
run on the same files reports as healed. -/
theorem writes_what_dry_run_reports (ws : Workspace) (fs : FileSystem) (hlinks : Linkless fs)
    (path : List Char) (r : Request) :
    (Idle ws fs path r → (ws.process fs path r).2 = fs) ∧
      ∀ report after, ws.process fs path r = (.ok report, after) → report.written = true →
        ∃ place p text, ws.locate fs path = .ok place ∧
          ws.process fs path (dry r) = (.ok (.processed p), fs) ∧ p.healed? = some text ∧
          after.read place = .ok (Text.Utf8.encode text) := by
  refine ⟨files_of_idle, fun report after hrun hw => ?_⟩
  generalize hresult : (Except.ok report : Except Stop FileReport) = result at hrun
  cases course_of_process hrun with
  | astray stop locate => cases hresult
  | unseen place fault locate isFile => cases hresult
  | unread place failure locate load =>
      cases hresult
      cases hw
  | aborted place text abort locate load apply => cases hresult
  | kept place text outcome locate load apply undue =>
      cases hresult
      cases hw
  | saved place directory q bytes time text outcome result after locate load apply due
      file save =>
      have hmodified := isModified_eq_true.mpr (isDue_eq_true.mp due).2.1
      have hread := save.read_of_written file hlinks rfl hresult.symm hw
      exact ⟨place, _, _, locate, process_dry locate load apply, if_pos hmodified, hread⟩

/-- A file that ends in a blank is repaired to the text that its dry run reports, and checking it
changes nothing. -/
theorem dry_run_of_spaced :
    let ws : Workspace := { root := ["w".toList] }
    Linkless (spacedFile []) ∧
      (ws.process (spacedFile []) "a".toList { mode := .check, write := true }).2 =
        spacedFile [] ∧
      repairSpaced [] = (.ok (.processed spacedReport), (repairSpaced []).2) ∧
      ∃ place p text, ws.locate (spacedFile []) "a".toList = .ok place ∧
        ws.process (spacedFile []) "a".toList {} = (.ok (.processed p), spacedFile []) ∧
        p.healed? = some text ∧
          (repairSpaced []).2.read place = .ok (Text.Utf8.encode text) := by
  intro ws
  have hlinks : Linkless (spacedFile []) := linkless_of_entries (by decide)
  have hrun : repairSpaced [] = (.ok (.processed spacedReport), (repairSpaced []).2) := by
    decide +kernel
  have hcheck := (writes_what_dry_run_reports ws (spacedFile []) hlinks "a".toList
    { mode := .check, write := true }).1 (Or.inr (Or.inl rfl))
  have hwrite := (writes_what_dry_run_reports ws (spacedFile []) hlinks "a".toList
    { write := true }).2 _ _ hrun rfl
  exact ⟨hlinks, hcheck, hrun, hwrite⟩

end Workspace
end YamlTidy
