import YamlTidy.Proofs.Files.Searches
import YamlTidy.Proofs.Workspace.DryRuns

/-!
# What follows from the place of a file

The report on a file has the path that was given in it, and the backup as it is seen from the
workspace.  Whether all went well and which files are left depends on neither: as long as nothing
stops the work, it follows from the place that the path leads to (`sequel_of_process`).

Main statement: `goesWell_iff_sequel`, on what it means that all went well.
-/

namespace YamlTidy
namespace Workspace

open Files FileSystem

variable {ws : Workspace} {fs after : FileSystem} {place f : Path} {path : List Char}
  {r : Request}
  {o : Options} {p : Processed} {report : FileReport}

/-! ## Places -/

theorem settled_eq_ok (h : settled fs f = .ok place) : place = fs.resolve f := by
  simp only [settled] at h
  split at h
  · cases h
  · split at h <;> cases h
    rfl

theorem root_of_at (h : at_ fs o f = .ok ws) : ws = ⟨fs.resolve f, o⟩ := by
  unfold at_ at h
  cases hsettled : settled fs f with
  | error stop =>
      rw [hsettled] at h
      cases h
  | ok root =>
      rw [hsettled] at h
      cases h
      rw [settled_eq_ok hsettled]

/-! ## Work that is not stopped -/

/-- The files once a place has its backup, or as they are when none can be made. -/
def backedUp (fs : FileSystem) (place : Path) : FileSystem :=
  match freeBackup fs place (fs.entries.length + 1) 0 with
  | .error _ => fs
  | .ok backup =>
      match fs.copy place backup with
      | .error _ => fs
      | .ok copied => copied

/-- What work on the file at a place comes to when nothing stops it: whether all goes well, and the
files that are left. -/
def sequel (o : Options) (fs : FileSystem) (place : Path) (r : Request) : Bool × FileSystem :=
  match load fs place with
  | .ok (.ok text) =>
      match r.mode.apply o text with
      | .ok outcome =>
          let p : Processed := { path := [], mode := r.mode, outcome, given := text }
          if p.isDue r then
            let (done, after) := replaceText (backedUp fs place) place p.output
            (outcome.ok && done.isOk, after)
          else (outcome.ok, fs)
      | .error _ => (false, fs)
  | _ => (false, fs)

theorem success_finished (hp : p.writeError = none) (done : Except FileFault Unit) :
    (finished p done).success = (p.outcome.ok && done.isOk) := by
  cases done <;> simp [finished, Processed.success, hp, Except.isOk, Except.toBool]

/-- Saving a text that is not stopped moves it over the file once the backup is made. -/
theorem save_eq_ok (h : ws.save fs place p = (.ok report, after)) :
    ∃ p' done, p'.outcome = p.outcome ∧ p'.writeError = p.writeError ∧
      replaceText (backedUp fs place) place p.output = (done, after) ∧
      report = .processed (finished p' done) := by
  unfold save at h
  cases hfree : freeBackup fs place (fs.entries.length + 1) 0 with
  | error fault => simp [hfree] at h
  | ok backup =>
      cases hcopy : fs.copy place backup with
      | error fault =>
          have hbacked : backedUp fs place = fs := by simp only [backedUp, hfree, hcopy]
          let p' := { p with backupWarning := some ("Backup failed: ".toList ++ fault.message) }
          rcases hmove : replaceText fs place p'.output with ⟨done, left⟩
          simp only [hfree, hcopy] at h
          rw [hmove] at h
          rw [hbacked]
          cases done <;> cases h <;> exact ⟨p', _, rfl, rfl, hmove, rfl⟩
      | ok copied =>
          have hbacked : backedUp fs place = copied := by simp only [backedUp, hfree, hcopy]
          cases hbelow : Path.below? ws.root backup with
          | none => simp [hfree, hcopy, hbelow] at h
          | some steps =>
              let p' := { p with backup := some (joined steps) }
              rcases hmove : replaceText copied place p'.output with ⟨done, left⟩
              simp only [hfree, hcopy, hbelow] at h
              rw [hmove] at h
              rw [hbacked]
              cases done <;> cases h <;> exact ⟨p', _, rfl, rfl, hmove, rfl⟩

/-- Work that is not stopped comes to what follows from the place of the file. -/
theorem sequel_of_process (h : ws.process fs path r = (.ok report, after)) :
    ∃ place, ws.locate fs path = .ok place ∧
      sequel ws.options fs place r = (report.success, after) := by
  unfold process at h
  cases hlocate : ws.locate fs path with
  | error stop => simp [hlocate] at h
  | ok place =>
      refine ⟨place, rfl, ?_⟩
      rcases hload : load fs place with stop | failure | text
      · simp [hlocate, hload] at h
      · simp only [hlocate, hload] at h
        cases h
        simp [sequel, hload, FileReport.success]
      · cases happly : r.mode.apply ws.options text with
        | error abort => simp [hlocate, hload, happly] at h
        | ok outcome =>
            simp only [hlocate, hload, happly] at h
            simp only [sequel, hload, happly]
            split at h
            · next hdue =>
                obtain ⟨p', done, houtcome, herror, hmove, rfl⟩ := save_eq_ok h
                rw [if_pos (by exact hdue)]
                rw [FileReport.success, success_finished herror, houtcome]
                exact congrArg (fun moved => (outcome.ok && moved.1.isOk, moved.2)) hmove
            · next hundue =>
                cases h
                rw [if_neg (by exact hundue)]
                simp [FileReport.success, Processed.success]

/-! ## Work that goes well -/

/-- Work on the file at a place goes well: the file can be read, what comes out is valid, and when
it is due to be written that does not fail. -/
inductive GoesWell (o : Options) (fs : FileSystem) (place : Path) (r : Request) : Prop where
  | intro (text : List Char) (outcome : Outcome) (read : load fs place = .ok (.ok text))
      (applied : r.mode.apply o text = .ok outcome) (valid : outcome.ok = true)
      (moved : r.write = true → r.mode ≠ .check → (outcome.text?).getD text ≠ text →
        (replaceText (backedUp fs place) place ((outcome.text?).getD text)).1 = .ok ())

theorem goesWell_iff_sequel : GoesWell o fs place r ↔ (sequel o fs place r).1 = true := by
  constructor
  · rintro ⟨text, outcome, hread, happlied, hvalid, hmoved⟩
    simp only [sequel, hread, happlied]
    split
    · next hdue =>
        obtain ⟨hwrite, ⟨hmode, houtput⟩, -⟩ := isDue_eq_true.mp hdue
        have hdone := hmoved hwrite hmode houtput
        simp only [Processed.output, hvalid, hdone]
        rfl
    · exact hvalid
  · intro h
    unfold sequel at h
    split at h
    · next text hread =>
        split at h
        · next outcome happlied =>
            dsimp only at h
            split at h
            · obtain ⟨hvalid, hdone⟩ := Bool.and_eq_true_iff.mp h
              refine ⟨text, outcome, hread, happlied, hvalid, fun _ _ _ => ?_⟩
              unfold Processed.output at hdone
              dsimp only at hdone
              cases hmove :
                (replaceText (backedUp fs place) place ((outcome.text?).getD text)).1 with
              | ok u => rfl
              | error fault =>
                  rw [hmove] at hdone
                  cases hdone
            · next hundue =>
                refine ⟨text, outcome, hread, happlied, h, fun hwrite hmode houtput => ?_⟩
                exact absurd
                  (isDue_eq_true.mpr ⟨hwrite, ⟨hmode, by exact houtput⟩, Or.inl h⟩) hundue
        · cases h
    · cases h

end Workspace
end YamlTidy
