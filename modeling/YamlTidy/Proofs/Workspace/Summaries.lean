import YamlTidy.Proofs.Workspace.Sequels

/-!
# What a summary counts

A summary counts the reports that went well, those on invalid texts and those on files that could
not be read.  No report is in two of these counts (`indicators_add_up`), but some are in none:
where a valid text is due to be written and cannot be put in place of the file, the report did not
go well, and its status says that the file changed.

Main statement: `total_of_returned`, for the reports of any calls.
-/

namespace YamlTidy

open Files

/-! ## The counts of a summary -/

/-- Whether a text is valid and could not be put in place of the file. -/
def FileReport.unplaced : FileReport → Bool
  | .failed _ _ => false
  | .processed p => p.outcome.ok && p.writeError.isSome

namespace Summary

/-- Every report is in one count, or its text is valid and could not be put in place. -/
theorem indicators_add_up (report : FileReport) :
    report.tally.success.toNat + (report.tally.status == "INVALID").toNat +
        (report.tally.status == "ENGINE_ERROR" || report.tally.status ==
          "FILE_NOT_FOUND").toNat +
      report.unplaced.toNat = 1 := by
  cases report with
  | failed path failure => cases failure <;> rfl
  | processed p =>
      simp only [FileReport.tally, FileReport.success, FileReport.status, FileReport.unplaced,
        Processed.success, Processed.status]
      cases p.outcome.ok with
      | false => rfl
      | true =>
          have hstatus : ∀ status ∈ ["VALID", "CHANGED", "UNCHANGED"],
              (status == "INVALID") = false ∧
                (status == "ENGINE_ERROR" || status == "FILE_NOT_FOUND") = false := by decide
          have hmember : (if p.mode == .check then "VALID"
              else if p.isModified then "CHANGED" else "UNCHANGED") ∈
                ["VALID", "CHANGED", "UNCHANGED"] := by
            split
            · simp
            · split <;> simp
          obtain ⟨hvalid, hread⟩ := hstatus _ hmember
          simp only [Bool.not_true, Bool.false_eq_true, if_false, hvalid, hread]
          cases p.writeError <;> rfl

theorem countP_cons_toNat {α : Type} (q : α → Bool) (a : α) (as : List α) :
    (a :: as).countP q = (q a).toNat + as.countP q := by
  rw [List.countP_cons]
  cases q a <;> simp [Nat.add_comm]

theorem total_of_reports (reports : List FileReport) :
    (ofReports reports).total = (ofReports reports).successful + (ofReports reports).invalid +
      (ofReports reports).systemErrors + reports.countP FileReport.unplaced := by
  simp only [ofReports, ofTallies, List.length_map]
  induction reports with
  | nil => rfl
  | cons report reports ih =>
      have hreport := indicators_add_up report
      simp only [List.map_cons, List.length_cons, countP_cons_toNat]
      omega

end Summary

namespace Workspace

variable {ws : Workspace} {fs after : FileSystem} {path : List Char} {r : Request}
  {report : FileReport}

/-! ## Calls -/

/-- A call for work on a file, with a mode or with a word that stands for none. -/
inductive FileCall where
  | process (ws : Workspace) (fs : FileSystem) (path : List Char) (r : Request)
  | refuse (ws : Workspace) (fs : FileSystem) (path word : List Char)

namespace FileCall

/-- What a call returns, if nothing stops it. -/
def result : FileCall → Except Stop FileReport
  | process ws fs path r => (ws.process fs path r).1
  | refuse ws fs path word => ws.refuse fs path word

/-- Whether what comes out for the file is valid, due to be written, and cannot be put in place. -/
def writeFails : FileCall → Bool
  | process ws fs path r =>
      match ws.locate fs path with
      | .error _ => false
      | .ok place =>
          match load fs place with
          | .ok (.ok text) =>
              match r.mode.apply ws.options text with
              | .ok outcome =>
                  let p : Processed := { path, mode := r.mode, outcome, given := text }
                  outcome.ok && p.isDue r &&
                    !(replaceText (backedUp fs place) place p.output).1.isOk
              | .error _ => false
          | _ => false
  | refuse _ _ _ _ => false

/-- The report on a text that could not be put in place comes from a call whose writing fails, and
from no other. -/
theorem unplaced_of_process (h : ws.process fs path r = (.ok report, after)) :
    report.unplaced = writeFails (process ws fs path r) := by
  unfold Workspace.process at h
  unfold writeFails
  cases hlocate : ws.locate fs path with
  | error stop => simp [hlocate] at h
  | ok place =>
      rcases hload : load fs place with stop | failure | text
      · simp [hlocate, hload] at h
      · simp only [hlocate, hload] at h ⊢
        cases h
        rfl
      · cases happly : r.mode.apply ws.options text with
        | error abort => simp [hlocate, hload, happly] at h
        | ok outcome =>
            simp only [hlocate, hload, happly] at h ⊢
            split at h
            · next hdue =>
                obtain ⟨p', done, houtcome, herror, hmove, rfl⟩ := save_eq_ok h
                rw [hdue, hmove, Bool.and_true]
                cases done <;> simp [FileReport.unplaced, finished, houtcome, herror,
                  Except.isOk, Except.toBool]
            · next hundue =>
                cases h
                simp [FileReport.unplaced, hundue]

theorem unplaced_of_result {c : FileCall} (h : c.result = .ok report) :
    report.unplaced = c.writeFails := by
  cases c with
  | process ws fs path r =>
      have hrun : ws.process fs path r = (.ok report, (ws.process fs path r).2) := Prod.ext h rfl
      exact unplaced_of_process hrun
  | refuse ws fs path word =>
      unfold result Workspace.refuse at h
      dsimp only at h
      split at h
      · cases h
      · split at h <;> cases h
        rfl

end FileCall

theorem countP_of_returned {calls : List FileCall} {reports : List FileReport}
    (h : List.Forall₂ (fun c report => c.result = .ok report) calls reports) :
    reports.countP FileReport.unplaced = calls.countP FileCall.writeFails := by
  induction h with
  | nil => rfl
  | cons hreport _ ih =>
      rw [List.countP_cons, List.countP_cons, ih, FileCall.unplaced_of_result hreport]

/-- **A summary leaves out the texts that could not be written.**  Of the reports that any calls
return, each is counted once, as one that went well, as one on an invalid text or as one on a file
that could not be read, but for those on valid texts that could not be put in place.  So the
counts add up to the number of reports if and only if there are none of these. -/
theorem total_of_returned (calls : List FileCall) (reports : List FileReport)
    (h : List.Forall₂ (fun c report => c.result = .ok report) calls reports) :
    let s := Summary.ofReports reports
    s.total = s.successful + s.invalid + s.systemErrors + calls.countP FileCall.writeFails ∧
      (s.total = s.successful + s.invalid + s.systemErrors ↔
        ∀ c ∈ calls, c.writeFails = false) := by
  intro s
  have htotal : s.total = s.successful + s.invalid + s.systemErrors +
      calls.countP FileCall.writeFails := by
    rw [← countP_of_returned h]
    exact Summary.total_of_reports reports
  refine ⟨htotal, ?_⟩
  have hnone : calls.countP FileCall.writeFails = 0 ↔ ∀ c ∈ calls, c.writeFails = false := by
    simp [List.countP_eq_zero]
  rw [← hnone]
  omega

/-- A repair in a directory where the temporary file of `a` cannot be made, as a directory stands
there. -/
def barred : FileCall :=
  .process { root := ["w".toList] }
    (spacedFile [(temporaryPath ["w".toList, "a".toList], .directory)])
    "a".toList { write := true }

/-- The report on that repair. -/
def barredReport : FileReport :=
  .processed { spacedReport with
    written := false
    writeError := some "[Errno 21] Is a directory: '/w/a.yamlmend.tmp'".toList }

/-- A file that is repaired, one that is missing and one that cannot be written. -/
theorem total_of_three_calls :
    let calls := [.process { root := ["w".toList] } (spacedFile []) "a".toList { write := true },
      .refuse { root := ["w".toList] } (spacedFile []) "b".toList "lint".toList, barred]
    let reports := [.processed spacedReport,
      .failed "b".toList (.missing ["w".toList, "b".toList]), barredReport]
    List.Forall₂ (fun (c : FileCall) report => c.result = .ok report) calls reports ∧
      (Summary.ofReports reports).total = (Summary.ofReports reports).successful +
        (Summary.ofReports reports).invalid + (Summary.ofReports reports).systemErrors +
        calls.countP FileCall.writeFails := by
  intro calls reports
  have hresults : List.Forall₂ (fun (c : FileCall) report => c.result = .ok report) calls
      reports := by
    refine .cons ?_ (.cons ?_ (.cons ?_ .nil)) <;> decide +kernel
  exact ⟨hresults, (total_of_returned calls reports hresults).1⟩

/-- The text of the third file is valid and cannot be written, and no count has it. -/
theorem barred_not_counted :
    barred.result = .ok barredReport ∧ Summary.ofReports [barredReport] =
      { total := 1, successful := 0, invalid := 0, written := 0, backups := 1,
        systemErrors := 0 } := by
  decide +kernel

end Workspace
end YamlTidy
