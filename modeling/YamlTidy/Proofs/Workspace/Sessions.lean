import YamlTidy.Proofs.Workspace.Effects
import Mathlib.Data.Nat.Find

/-!
# Backups in the long run

A session is a list of calls, and each call works on files one after another (`Call.steps`).  The
search for a free backup name ends, since each name that is taken has an entry of its own
(`search_ends`).  As long as no file to work on is itself named as a backup, nothing that is so
named changes (`keeps_of_process`).  So each backup goes where nothing stood at the start of the
session (`Runs.vacant`), and from then on something stands there.

Main statement: `backups_of_session`.
-/

namespace YamlTidy

open Files FileSystem

namespace Files

variable {fs : FileSystem} {p : Path} {n : Name} {steps more : List Name}

/-- Different names are shown by different texts. -/
theorem eq_of_joined_eq (hsteps : Spelled steps) (hmore : Spelled more)
    (h : joined steps = joined more) : steps = more := by
  have hread {names : List Name} (hnames : Spelled names) : namesOf (joined names) = names := by
    by_cases hne : names = []
    · rw [hne]
      rfl
    · exact namesOf_joined hne hnames
  rw [← hread hsteps, h, hread hmore]

theorem FileSystem.exists_enters_of_isPresent (h : fs.isPresent (p ++ [n]) = .ok true) :
    ∃ directory, Enters fs p directory := by
  obtain ⟨q, e, hq, -⟩ := isPresent_eq_true.mp h
  have hwalk := (locate_eq_ok.mp hq).2
  rw [walk_append] at hwalk
  split at hwalk
  · next directory hdirectory => exact ⟨directory, hdirectory, (walk_cons_eq_ok.mp hwalk).1⟩
  · cases hwalk

end Files

namespace Workspace

variable {ws : Workspace} {fs mid after : FileSystem} {place : Path} {path : List Char}
  {r : Request}

/-! ## The search for a free name -/

/-- The search for a free backup name of a place ends at the name with number `k`: it is free, or
nothing can be said of it, and none of those behind it is looked at. -/
structure SearchEnds (fs : FileSystem) (place : Path) (k : Nat) : Prop where
  taken : ∀ j < k, fs.isPresent (backupPath place j) = .ok true
  free : fs.isPresent (backupPath place k) ≠ .ok true
  found : ∀ tries, k < tries → freeBackup fs place tries 0 =
    (fs.isPresent (backupPath place k)).map fun _ => backupPath place k

theorem freeBackup_succ (fs : FileSystem) (place : Path) (tries n : Nat) :
    freeBackup fs place (tries + 1) n =
      match fs.isPresent (backupPath place n) with
      | .error fault => .error fault
      | .ok false => .ok (backupPath place n)
      | .ok true => freeBackup fs place tries (n + 1) := rfl

theorem freeBackup_of_taken {k n tries : Nat}
    (htaken : ∀ j < k, fs.isPresent (backupPath place j) = .ok true)
    (hfree : fs.isPresent (backupPath place k) ≠ .ok true) (hn : n ≤ k)
    (htries : k < n + tries) :
    freeBackup fs place tries n =
      (fs.isPresent (backupPath place k)).map fun _ => backupPath place k := by
  induction tries generalizing n with
  | zero => omega
  | succ tries ih =>
      rw [freeBackup_succ]
      rcases Nat.eq_or_lt_of_le hn with rfl | hlt
      · rcases hpresent : fs.isPresent (backupPath place n) with fault | _ | _
        · rfl
        · rfl
        · exact absurd hpresent hfree
      · rw [htaken n hlt]
        exact ih hlt (by omega)

/-- The search for a free backup name ends, at the latest behind as many names as there are
entries. -/
theorem search_ends (fs : FileSystem) (place : Path) :
    ∃ k ≤ fs.entries.length, SearchEnds fs place k := by
  have hexists : ∃ k ≤ fs.entries.length, fs.isPresent (backupPath place k) ≠ .ok true := by
    by_cases hplace : ∃ directory, Enters fs place.parent directory
    · obtain ⟨directory, henters⟩ := hplace
      exact exists_not_present henters
    · exact ⟨0, Nat.zero_le _, fun hpresent => hplace (exists_enters_of_isPresent hpresent)⟩
  obtain ⟨bound, hbound, hnot⟩ := hexists
  classical
  have hfirst : ∃ k, fs.isPresent (backupPath place k) ≠ .ok true := ⟨bound, hnot⟩
  have htaken : ∀ j < Nat.find hfirst, fs.isPresent (backupPath place j) = .ok true :=
    fun j hj =>
    not_not.mp (Nat.find_min hfirst hj)
  have hfree := Nat.find_spec hfirst
  refine ⟨Nat.find hfirst, Nat.le_trans (Nat.find_min' hfirst hnot) hbound, htaken, hfree, ?_⟩
  exact fun tries htries => freeBackup_of_taken htaken hfree (Nat.zero_le _) (by omega)

/-! ## Sessions -/

/-- A call in a session. -/
inductive Call where
  | process (path : List Char) (r : Request)
  /-- Works on the files that are given, or on those that are discovered if none are. -/
  | scan (given : Option (List Path)) (extension : List Char) (maxDepth : Int) (r : Request)
  deriving Repr, DecidableEq

/-- The files that a scan works on. -/
def filesToScan (ws : Workspace) (fs : FileSystem) (extension : List Char) (maxDepth : Int) :
    Option (List Path) → Except Stop (List Path)
  | some ps => .ok ps
  | none => ws.discover fs extension maxDepth

/-- What a call reports, and the files behind it. -/
def Call.run (ws : Workspace) (fs : FileSystem) : Call → List FileReport × FileSystem
  | process path r =>
      match ws.process fs path r with
      | (.ok report, after) => ([report], after)
      | (.error _, after) => ([], after)
  | scan given extension maxDepth r =>
      match filesToScan ws fs extension maxDepth given with
      | .error _ => ([], fs)
      | .ok ps =>
          let s := ws.scan fs r ps
          (s.reports, s.state)

/-- What the calls of a session report, and the files behind them. -/
def runCalls (ws : Workspace) : FileSystem → List Call → List FileReport × FileSystem
  | fs, [] => ([], fs)
  | fs, c :: cs =>
      let (reports, mid) := c.run ws fs
      let (more, after) := runCalls ws mid cs
      (reports ++ more, after)

/-! ## The steps of a session -/

/-- What work on one file comes to, and the files behind it. -/
abbrev Step := Except Stop FileReport × FileSystem

/-- Work on files one after another, up to the first that stops it. -/
def worked (ws : Workspace) (r : Request) : FileSystem → List (List Char) → List Step
  | _, [] => []
  | fs, path :: rest =>
      match ws.process fs path r with
      | (.error stop, after) => [(.error stop, after)]
      | (.ok report, after) => (.ok report, after) :: worked ws r after rest

/-- Paths as a workspace shows them, up to the first that it cannot show. -/
def shownPaths (ws : Workspace) : List Path → List (List Char)
  | [] => []
  | p :: rest =>
      match ws.shown p with
      | .error _ => []
      | .ok path => path :: shownPaths ws rest

/-- The paths that a call works on. -/
def Call.paths (ws : Workspace) (fs : FileSystem) : Call → List (List Char)
  | process path _ => [path]
  | scan given extension maxDepth _ =>
      match filesToScan ws fs extension maxDepth given with
      | .error _ => []
      | .ok ps => shownPaths ws ps

/-- What a call asks for. -/
def Call.request : Call → Request
  | process _ r => r
  | scan _ _ _ r => r

/-- The steps of a call. -/
def Call.steps (ws : Workspace) (fs : FileSystem) (c : Call) : List Step :=
  worked ws c.request fs (c.paths ws fs)

/-- The files behind some steps. -/
def behind (fs : FileSystem) (steps : List Step) : FileSystem :=
  steps.foldl (fun _ step => step.2) fs

/-- The reports of some steps. -/
def reportsOf (steps : List Step) : List FileReport :=
  steps.filterMap fun step => step.1.toOption

/-- The steps of a session. -/
def stepsOf (ws : Workspace) : FileSystem → List Call → List Step
  | _, [] => []
  | fs, c :: cs => c.steps ws fs ++ stepsOf ws (behind fs (c.steps ws fs)) cs

theorem reports_scan (ws : Workspace) (fs : FileSystem) (r : Request) (ps : List Path) :
    (ws.scan fs r ps).reports = reportsOf (worked ws r fs (shownPaths ws ps)) ∧
      (ws.scan fs r ps).state = behind fs (worked ws r fs (shownPaths ws ps)) := by
  induction ps generalizing fs with
  | nil => exact ⟨rfl, rfl⟩
  | cons p rest ih =>
      rw [scan, forEach, shownPaths]
      cases ws.shown p with
      | error stop => exact ⟨rfl, rfl⟩
      | ok path =>
          rcases hrun : ws.process fs path r with ⟨stop | report, after⟩
          · simp only [hrun, worked]
            exact ⟨rfl, rfl⟩
          · simp only [hrun, worked]
            obtain ⟨hreports, hstate⟩ := ih after
            exact ⟨congrArg (report :: ·) hreports, hstate⟩

/-- What a call reports and leaves is what its steps do. -/
theorem run_eq_steps (ws : Workspace) (fs : FileSystem) (c : Call) :
    c.run ws fs = (reportsOf (c.steps ws fs), behind fs (c.steps ws fs)) := by
  cases c with
  | process path r =>
      rcases hrun : ws.process fs path r with ⟨stop | report, after⟩ <;>
        simp [Call.run, Call.steps, Call.paths, Call.request, worked, hrun, reportsOf, behind,
          Except.toOption]
  | scan given extension maxDepth r =>
      cases hfiles : filesToScan ws fs extension maxDepth given with
      | error stop => simp [Call.run, Call.steps, Call.paths, worked, hfiles, reportsOf, behind]
      | ok ps =>
          obtain ⟨hreports, hstate⟩ := reports_scan ws fs r ps
          simp only [Call.run, Call.steps, Call.paths, hfiles, hreports, hstate]
          rfl

theorem runCalls_eq_steps (ws : Workspace) (fs : FileSystem) (cs : List Call) :
    runCalls ws fs cs = (reportsOf (stepsOf ws fs cs), behind fs (stepsOf ws fs cs)) := by
  induction cs generalizing fs with
  | nil => rfl
  | cons c cs ih =>
      rw [runCalls, run_eq_steps, stepsOf]
      simp only [ih]
      simp [reportsOf, behind]

/-! ## What one step keeps -/

/-- The file that a path leads to, if it leads to one, is not itself named as a backup. -/
def Ordinary (ws : Workspace) (fs : FileSystem) (path : List Char) : Prop :=
  ∀ place ∈ (ws.locate fs path).toOption, ¬ backupSuffix <:+ place.name

instance (ws : Workspace) (fs : FileSystem) (path : List Char) :
    Decidable (Ordinary ws fs path) :=
  inferInstanceAs
    (Decidable (∀ place ∈ (ws.locate fs path).toOption, ¬ backupSuffix <:+ place.name))

/-- What is named as a backup in the one file system is the same in the other one. -/
def Keeps (fs after : FileSystem) : Prop :=
  ∀ x e, backupSuffix <:+ x.name → fs.entry? x = some e → after.entry? x = some e

theorem Keeps.refl (fs : FileSystem) : Keeps fs fs :=
  fun _ _ _ hx => hx

theorem Keeps.trans (h : Keeps fs mid) (h' : Keeps mid after) : Keeps fs after :=
  fun x e hname hx => h' x e hname (h x e hname hx)

/-- A backup goes where nothing is so named yet, and the temporary file has another name. -/
theorem Touched.keeps {k : Nat} {written : Bool}
    (h : Touched fs after place (backupPath place k) written)
    (hname : ¬ backupSuffix <:+ place.name) : Keeps fs after := by
  intro x e hx he
  have hplace : x ≠ place := fun heq => hname (heq ▸ hx)
  have hbackup : x ≠ backupPath place k := fun heq => by simp [heq, h.fresh] at he
  have htemporary : x ≠ temporaryPath place := fun heq => by
    obtain ⟨s, hs⟩ := hx
    rw [heq, temporaryPath, name_withName] at hs
    exact temporaryName_ne_backupName place.name s 0 hs.symm
  rw [h.others x hplace hbackup htemporary, he]

/-- Saving a text makes no links. -/
theorem Touched.linkless {backup : Path} {written : Bool}
    (h : Touched fs after place backup written) (hlinks : Linkless fs) : Linkless after := by
  have hplace (target : List Char) : after.entry? place ≠ some (.link target) := by
    have htarget := h.target
    cases written with
    | false => exact htarget ▸ hlinks place target
    | true =>
        obtain ⟨bytes, hbytes⟩ := htarget
        rw [hbytes]
        nofun
  have htemporary (target : List Char) : after.entry? (temporaryPath place) ≠
    some (.link target) := by
    have hentry := h.temporary
    cases written with
    | false => exact hentry ▸ hlinks _ target
    | true =>
        rw [hentry.2]
        nofun
  intro x target
  by_cases hx : x = place
  · exact hx ▸ hplace target
  · by_cases hb : x = backup
    · rw [hb, h.copied]
      exact hlinks place target
    · by_cases ht : x = temporaryPath place
      · exact ht ▸ htemporary target
      · rw [h.others x hx hb ht]
        exact hlinks x target

/-- Work on a file that is not itself named as a backup keeps what is. -/
theorem keeps_of_process (hlinks : Linkless fs) (hroot : Spelled ws.root)
    (hordinary : Ordinary ws fs path) : Keeps fs (ws.process fs path r).2 := by
  rcases hrun : ws.process fs path r with ⟨result, after⟩
  have hname (place : Path) (hplace : ws.locate fs path = .ok place) :
      ¬ backupSuffix <:+ place.name :=
    hordinary place (by rw [hplace]; rfl)
  cases effect_of_process hlinks hroot hrun with
  | idle result quiet => exact Keeps.refl fs
  | outside place k stop after locate touched => exact touched.keeps (hname place locate)
  | saved place k steps report after locate below named touched =>
      exact touched.keeps (hname place locate)

theorem linkless_of_process (hlinks : Linkless fs) (hroot : Spelled ws.root) (path : List Char)
    (r : Request) : Linkless (ws.process fs path r).2 := by
  rcases hrun : ws.process fs path r with ⟨result, after⟩
  cases effect_of_process hlinks hroot hrun with
  | idle result quiet => exact hlinks
  | outside place k stop after locate touched => exact touched.linkless hlinks
  | saved place k steps report after locate below named touched => exact touched.linkless hlinks

/-! ## Backups that are reported -/

theorem slash_notMem_decimal (n : Nat) : '/' ∉ decimal n := by
  have hdigits : decimal n = Nat.toDigits 10 n := Nat.toList_repr
  intro hmem
  rw [hdigits] at hmem
  exact absurd (Nat.isDigit_of_mem_toDigits (by decide) (by decide) hmem) (by decide)

theorem Plain.slash_notMem_name (h : Plain place) : '/' ∉ place.name := by
  rw [Path.name]
  cases hlast : place.getLast? with
  | none => exact List.not_mem_nil
  | some n => exact (h.spelled n (List.mem_of_getLast? hlast)).noSlash

/-- A text can give the path of a backup. -/
theorem Plain.spelled_backupPath (h : Plain place) (k : Nat) : Spelled (backupPath place k) := by
  refine (show Spelled place.parent from fun n hn => h.spelled n
    (List.dropLast_subset _ hn)).append
    (spelled_singleton ⟨?_, (onto_backupName place.name k).2, ?_⟩)
  · obtain ⟨s, hs⟩ := exists_backupName_eq place.name k
    rw [hs]
    exact List.append_ne_nil_of_right_ne_nil s (by decide)
  · have hsuffix : '/' ∉ backupSuffix := by decide
    cases k with
    | zero => simp [backupName, h.slash_notMem_name, hsuffix]
    | succ k =>
        have hnumber : '/' ∉ decimal ((k : Int) + 1) := slash_notMem_decimal (k + 1)
        simp [backupName, h.slash_notMem_name, hsuffix, hnumber]

/-- The backup that a step reports. -/
def Step.backup (step : Step) : Option (List Char) :=
  step.1.toOption.bind FileReport.backup

/-- A text shows the path of a backup that is not there. -/
def Vacant (ws : Workspace) (fs : FileSystem) (shown : List Char) : Prop :=
  ∃ steps, Spelled steps ∧ backupSuffix <:+ (ws.root ++ steps).name ∧ shown = joined steps ∧
    fs.entry? (ws.root ++ steps) = none

/-- A backup that is reported was not there, and now it is. -/
theorem backup_of_process {shown : List Char} (hlinks : Linkless fs) (hroot : Spelled ws.root)
    (hbackup : Step.backup (ws.process fs path r) = some shown) :
    Vacant ws fs shown ∧ ¬ Vacant ws (ws.process fs path r).2 shown := by
  rcases hrun : ws.process fs path r with ⟨result, after⟩
  rw [hrun] at hbackup
  cases effect_of_process hlinks hroot hrun with
  | idle result quiet =>
      cases result with
      | error stop => cases hbackup
      | ok report =>
          rw [Step.backup, Except.toOption, Option.bind_some, (quiet report rfl).2.1] at hbackup
          cases hbackup
  | outside place k stop after locate touched => cases hbackup
  | saved place k steps report after locate below named touched =>
      rw [Step.backup, Except.toOption, Option.bind_some, named] at hbackup
      cases hbackup
      have hspelled : Spelled steps := fun n hn => by
        refine (plain_of_locate hlinks hroot locate).spelled_backupPath k n ?_
        rw [below]
        exact List.mem_append_right _ hn
      have hname := backupSuffix_name_backupPath place k
      rw [below] at hname touched
      refine ⟨⟨steps, hspelled, hname, rfl, touched.fresh⟩, ?_⟩
      rintro ⟨more, hmore, -, hjoined, hnone⟩
      obtain ⟨bytes, time, hfile⟩ := touched.file
      rw [← eq_of_joined_eq hspelled hmore hjoined, touched.copied, hfile] at hnone
      cases hnone

theorem Vacant.of_keeps {shown : List Char} (h : Vacant ws after shown)
    (hkeeps : Keeps fs after) :
    Vacant ws fs shown := by
  obtain ⟨steps, hspelled, hname, hshown, hnone⟩ := h
  refine ⟨steps, hspelled, hname, hshown, ?_⟩
  by_contra hsome
  obtain ⟨e, he⟩ := Option.ne_none_iff_exists'.mp hsome
  rw [hkeeps _ e hname he] at hnone
  cases hnone

/-! ## What the steps of a session keep -/

/-- Steps that follow on each other, each of them work on a file that is not itself named as a
backup. -/
inductive Runs (ws : Workspace) : FileSystem → List Step → Prop where
  | nil (fs : FileSystem) : Runs ws fs []
  | cons (fs : FileSystem) (path : List Char) (r : Request) (steps : List Step)
      (ordinary : Ordinary ws fs path) (rest : Runs ws (ws.process fs path r).2 steps) :
      Runs ws fs (ws.process fs path r :: steps)

namespace Runs

variable {steps more : List Step}

theorem linkless (h : Runs ws fs steps) (hlinks : Linkless fs) (hroot : Spelled ws.root) :
    Linkless (behind fs steps) := by
  induction h with
  | nil fs => exact hlinks
  | cons fs path r steps ordinary rest ih => exact ih (linkless_of_process hlinks hroot path r)

theorem append (h : Runs ws fs steps) (hmore : Runs ws (behind fs steps) more) :
    Runs ws fs (steps ++ more) := by
  induction h with
  | nil fs => exact hmore
  | cons fs path r steps ordinary rest ih => exact .cons fs path r _ ordinary (ih hmore)

/-- What is named as a backup at any time of a run is the same at each later time. -/
theorem pairwise_keeps (h : Runs ws fs steps) (hlinks : Linkless fs) (hroot : Spelled ws.root) :
    (fs :: steps.map Prod.snd).Pairwise Keeps := by
  induction h with
  | nil fs => exact List.pairwise_singleton Keeps fs
  | cons fs path r steps ordinary rest ih =>
      have hrest := ih (linkless_of_process hlinks hroot path r)
      have hfirst := keeps_of_process (r := r) hlinks hroot ordinary
      refine List.pairwise_cons.mpr ⟨fun later hlater => ?_, hrest⟩
      rcases List.mem_cons.mp hlater with rfl | hlater
      · exact hfirst
      · exact hfirst.trans ((List.pairwise_cons.mp hrest).1 later hlater)

/-- Nothing stands at the start of a run where one of its backups goes. -/
theorem vacant (h : Runs ws fs steps) (hlinks : Linkless fs) (hroot : Spelled ws.root)
    {shown : List Char} (hshown : shown ∈ steps.filterMap Step.backup) : Vacant ws fs shown := by
  induction h with
  | nil fs => cases hshown
  | cons fs path r steps ordinary rest ih =>
      obtain ⟨step, hstep, hbackup⟩ := List.mem_filterMap.mp hshown
      rcases List.mem_cons.mp hstep with rfl | hstep
      · exact (backup_of_process hlinks hroot hbackup).1
      · have hlater := ih (linkless_of_process hlinks hroot path r)
          (List.mem_filterMap.mpr ⟨step, hstep, hbackup⟩)
        exact hlater.of_keeps (keeps_of_process hlinks hroot ordinary)

/-- No backup goes where another one went. -/
theorem nodup_backups (h : Runs ws fs steps) (hlinks : Linkless fs) (hroot : Spelled ws.root) :
    (steps.filterMap Step.backup).Nodup := by
  induction h with
  | nil fs => exact List.nodup_nil
  | cons fs path r steps ordinary rest ih =>
      have hmid := linkless_of_process hlinks hroot path r
      rw [List.filterMap_cons]
      split
      · exact ih hmid
      · next shown hbackup =>
          refine List.nodup_cons.mpr ⟨fun hagain => ?_, ih hmid⟩
          exact (backup_of_process hlinks hroot hbackup).2 (rest.vacant hmid hroot hagain)

end Runs

/-! ## What a session keeps -/

/-- No call of a session is to work on a file that is itself named as a backup. -/
def OrdinaryCalls (ws : Workspace) : FileSystem → List Call → Prop
  | _, [] => True
  | fs, c :: cs =>
      (∀ path ∈ c.paths ws fs, Ordinary ws fs path) ∧ OrdinaryCalls ws (c.run ws fs).2 cs

instance decidableOrdinaryCalls (ws : Workspace) :
    (fs : FileSystem) → (cs : List Call) → Decidable (OrdinaryCalls ws fs cs)
  | _, [] => isTrue trivial
  | fs, c :: cs =>
      have : Decidable (OrdinaryCalls ws (c.run ws fs).2 cs) :=
        decidableOrdinaryCalls ws (c.run ws fs).2 cs
      inferInstanceAs (Decidable
        ((∀ path ∈ c.paths ws fs, Ordinary ws fs path) ∧ OrdinaryCalls ws (c.run ws fs).2 cs))

/-- Where a path leads does not change as long as there are no links. -/
theorem Ordinary.of_linkless (h : Ordinary ws fs path) (hlinks : Linkless fs)
    (hafter : Linkless after) (hroot : Spelled ws.root) : Ordinary ws after path := by
  rw [Ordinary, locate_of_linkless hafter hroot, ← locate_of_linkless hlinks hroot]
  exact h

theorem runs_worked {paths : List (List Char)} (hlinks : Linkless fs) (hroot : Spelled ws.root)
    (hpaths : ∀ path ∈ paths, Ordinary ws fs path) : Runs ws fs (worked ws r fs paths) := by
  induction paths generalizing fs with
  | nil => exact .nil fs
  | cons path rest ih =>
      obtain ⟨hpath, hrest⟩ := List.forall_mem_cons.mp hpaths
      have hmid := linkless_of_process hlinks hroot path r
      have hnext :=
        ih hmid fun other hother => (hrest other hother).of_linkless hlinks hmid hroot
      have hstep (steps : List Step) := Runs.cons fs path r steps hpath
      rw [worked]
      rcases hrun : ws.process fs path r with ⟨stop | report, after⟩ <;> rw [hrun]
        at hstep hnext
      · exact hstep [] (.nil after)
      · exact hstep _ hnext

theorem runs_stepsOf {cs : List Call} (hlinks : Linkless fs) (hroot : Spelled ws.root)
    (hcalls : OrdinaryCalls ws fs cs) : Runs ws fs (stepsOf ws fs cs) := by
  induction cs generalizing fs with
  | nil => exact .nil fs
  | cons c cs ih =>
      obtain ⟨hpaths, hrest⟩ := hcalls
      have hfirst : Runs ws fs (c.steps ws fs) := runs_worked hlinks hroot hpaths
      rw [run_eq_steps] at hrest
      exact hfirst.append (ih (hfirst.linkless hlinks hroot) hrest)

/-- **Backups of a session.**  The search for a free backup name ends, whatever there is.  In a
session without links that is not to work on files that are themselves named as backups, no two
backups that are reported are the same, and what is named as a backup behind any step of a call is
the same behind each later step. -/
theorem backups_of_session {cs : List Call} (hlinks : Linkless fs) (hroot : Spelled ws.root)
    (hcalls : OrdinaryCalls ws fs cs) :
    (∀ s place, ∃ k ≤ s.entries.length, SearchEnds s place k) ∧
      runCalls ws fs cs = (reportsOf (stepsOf ws fs cs), behind fs (stepsOf ws fs cs)) ∧
      ((runCalls ws fs cs).1.filterMap FileReport.backup).Nodup ∧
      (fs :: (stepsOf ws fs cs).map Prod.snd).Pairwise Keeps := by
  have hruns := runs_stepsOf hlinks hroot hcalls
  refine ⟨search_ends, runCalls_eq_steps ws fs cs, ?_, hruns.pairwise_keeps hlinks hroot⟩
  have hnodup := hruns.nodup_backups hlinks hroot
  rw [runCalls_eq_steps, reportsOf, List.filterMap_filterMap]
  exact hnodup

/-- A file, something at the name of its backup, and another file whose plain backup has the name
of the next backup of the first one. -/
def crowded : FileSystem :=
  spacedFile [(["w".toList, "a.yamlmend.backup".toList],
    .file (Text.Utf8.encode "old\n".toList) 0),
    (["w".toList, "a-1".toList], .file (Text.Utf8.encode "c \n".toList) 0)]

/-- The first file is repaired, then those whose names end in a one, and then the other file is
checked. -/
def crowdedCalls : List Call :=
  [.process "a".toList { write := true }, .scan none "1".toList 10 { write := true },
    .process "a-1".toList { mode := .check }]

/-- The two backups of that session have different names. -/
theorem backups_of_crowded :
    let ws : Workspace := { root := ["w".toList] }
    Linkless crowded ∧ Spelled ws.root ∧ OrdinaryCalls ws crowded crowdedCalls ∧
      (runCalls ws crowded crowdedCalls).1.filterMap FileReport.backup =
        ["a-1.yamlmend.backup".toList, "a-1-1.yamlmend.backup".toList] ∧
      (∀ s place, ∃ k ≤ s.entries.length, SearchEnds s place k) ∧
      ((runCalls ws crowded crowdedCalls).1.filterMap FileReport.backup).Nodup ∧
      (crowded :: (stepsOf ws crowded crowdedCalls).map Prod.snd).Pairwise Keeps := by
  intro ws
  have hlinks : Linkless crowded := linkless_of_entries (by decide)
  have hroot : Spelled ws.root := by decide
  have hcalls : OrdinaryCalls ws crowded crowdedCalls := by decide +kernel
  obtain ⟨hends, -, hnodup, hkeeps⟩ := backups_of_session hlinks hroot hcalls
  exact ⟨hlinks, hroot, hcalls, by decide +kernel, hends, hnodup, hkeeps⟩

end Workspace
end YamlTidy
