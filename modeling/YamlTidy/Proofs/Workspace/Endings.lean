import YamlTidy.Proofs.Gate.Verdicts
import YamlTidy.Proofs.Workspace.Courses

/-!
# How work on a file ends

Work on a file ends with a report, or it breaks off.  `Untouched` is what it leaves when it
reports that nothing was written: all files and directories are as they were, and what is new is
the backup that the report names.  `BreaksOff` lists the ways to break off.  All but one leave the
files as they are; a file outside the workspace is copied to its backup before it is found that
the backup has no name in the workspace.

Main statement: `process_reports_or_breaks_off`.
-/

namespace YamlTidy
namespace Workspace

open Files FileSystem

variable {ws : Workspace} {fs after : FileSystem} {place directory q : Path} {path : List Char}
  {bytes : List UInt8} {time : Int} {text : List Char} {r : Request}

/-! ## What is left when nothing was written -/

/-- How the files behind work that wrote nothing differ from those before it. -/
structure Untouched (fs after : FileSystem) (place : Path) (backup : Option Path) : Prop where
  /-- All files and directories stay, and all links but for one at the path of the temporary
  file. -/
  kept : ∀ x e, fs.entry? x = some e → after.entry? x = some e ∨
    fs.own (temporaryPath place) = .ok x ∧ (∃ target, e = .link target) ∧
      after.entry? x = none
  /-- What is new is the backup, with the bytes and the time of the file. -/
  fresh : ∀ x e, fs.entry? x = none → after.entry? x = some e →
    ∃ b, backup = some b ∧ fs.locate b = .ok x ∧ fs.stat place = .ok e

namespace Untouched

theorem refl (fs : FileSystem) (place : Path) (backup : Option Path) :
    Untouched fs fs place backup where
  kept x e h := Or.inl h
  fresh x e hnone h := by
    rw [hnone] at h
    cases h

/-- A move that fails leaves what stood before it. -/
theorem of_move {fault : FileFault} (hfile : FileAt fs place directory q bytes time)
    (h : Replaced fs place directory text (.error fault) after) (backup : Option Path) :
    Untouched fs after place backup where
  kept x e hx := by
    rcases h.entry_of_error x with hsame | ⟨rfl, ⟨target, hlink⟩, hnone⟩
    · exact Or.inl (hsame.trans hx)
    · rw [hx] at hlink
      cases hlink
      exact Or.inr ⟨own_concat hfile.enters, ⟨target, rfl⟩, hnone⟩
  fresh x e hnone hx := by
    rcases h.entry_of_error x with hsame | ⟨-, ⟨target, hlink⟩, -⟩
    · rw [hsame, hnone] at hx
      cases hx
    · rw [hnone] at hlink
      cases hlink

/-- A backup in front of a move that fails is all that the move leaves. -/
theorem of_copied_move {fault : FileFault} {copied : FileSystem} {k : Nat}
    (hfile : FileAt fs place directory q bytes time) (hfirst : FirstFree fs place k)
    (hcopy : fs.copy place (backupPath place k) = .ok copied)
    (h : Replaced copied place directory text (.error fault) after) :
    Untouched fs after place (some (backupPath place k)) := by
  obtain ⟨b, hb, hnone, rfl⟩ := hfirst.copied_eq hfile hcopy
  have hbroot : b ≠ [] := ne_nil_of_none hnone
  have hstat : fs.stat place = .ok (.file bytes time) := by simp [stat, hfile.locate, hfile.file]
  constructor
  · intro x e hx
    have hxb : x ≠ b := fun heq => by simp [heq, hnone] at hx
    have hcopied : entry? (fs.put b (.file bytes time)) x = some e := by
      rw [entry_put_of_ne hxb, hx]
    rcases h.entry_of_error x with hsame | ⟨rfl, ⟨target, hlink⟩, hgone⟩
    · exact Or.inl (hsame.trans hcopied)
    · rw [hcopied] at hlink
      cases hlink
      exact Or.inr ⟨own_concat hfile.enters, ⟨target, rfl⟩, hgone⟩
  · intro x e hx hafter
    rcases h.entry_of_error x with hsame | ⟨-, -, hgone⟩
    · rw [hsame, entry_put hbroot] at hafter
      split at hafter
      · next hxb =>
          cases hafter
          exact ⟨_, rfl, hxb ▸ hb, hstat⟩
      · rw [hx] at hafter
        cases hafter
    · rw [hgone] at hafter
      cases hafter

end Untouched

/-! ## Breaking off -/

/-- The path that a text stands for in a workspace, with its steps up and its links. -/
def wanted (ws : Workspace) (path : List Char) : Path :=
  (WrittenPath.ofText path).fromDirectory ws.root

/-- Whether a request has a text to write over the file at a place. -/
def Due (ws : Workspace) (fs : FileSystem) (path : List Char) (r : Request)
    (place : Path) : Prop :=
  ∃ text outcome, load fs place = .ok (.ok text) ∧
    r.mode.apply ws.options text = .ok outcome ∧
    Processed.isDue { path, mode := r.mode, outcome, given := text } r = true

/-- The ways in which work on a file breaks off, with the files they leave. -/
inductive BreaksOff (ws : Workspace) (fs : FileSystem) (path : List Char) (r : Request) :
    Stop → FileSystem → Prop where
  /-- A name has a null character. -/
  | unnameable (name : Name) (given : name ∈ wanted ws path) (null : '\x00' ∈ name) :
      BreaksOff ws fs path r .unnameable fs
  /-- The path leads to a link that leads back to itself. -/
  | linkLoop (loop : fs.isLoop (fs.resolve (wanted ws path)) = true) :
      BreaksOff ws fs path r (.linkLoop (fs.resolve (wanted ws path))) fs
  /-- A name on the way to the file is too long, or a directory on the way is closed. -/
  | unseen (place : Path) (fault : FileFault) (locate : ws.locate fs path = .ok place)
      (isFile : fs.isFile place = .error fault)
      (cause : fault.cause = .nameTooLong ∨ fault.cause = .denied) :
      BreaksOff ws fs path r (.file fault) fs
  /-- Checking or formatting the text breaks off, for a reason of reading or of writing. -/
  | operation (place : Path) (text : List Char) (abort : Yaml.Abort)
      (locate : ws.locate fs path = .ok place) (load : load fs place = .ok (.ok text))
      (apply : r.mode.apply ws.options text = .error abort)
      (reason : r.mode ≠ .fix ∧ (Yaml.Fault.aborted abort).OfReading ∨
        r.mode = .format ∧ abort.OfWriting) :
      BreaksOff ws fs path r (.aborted abort) fs
  /-- A text is due, and a name for the backup is too long or a link there leads through a closed
  directory. -/
  | unnamed (place : Path) (k : Nat) (fault : FileFault)
      (locate : ws.locate fs path = .ok place) (due : Due ws fs path r place)
      (present : fs.isPresent (backupPath place k) = .error fault)
      (cause : fault.cause = .nameTooLong ∨ fault.cause = .denied) :
      BreaksOff ws fs path r (.file fault) fs
  /-- A text is due, and the backup is made outside the workspace. -/
  | outside (place : Path) (k : Nat) (copied : FileSystem)
      (locate : ws.locate fs path = .ok place)
      (due : Due ws fs path r place) (first : FirstFree fs place k)
      (copy : fs.copy place (backupPath place k) = .ok copied)
      (notBelow : ¬ ws.root <+: backupPath place k) :
      BreaksOff ws fs path r (.outside (backupPath place k) ws.root) copied

theorem breaksOff_of_locate {stop : Stop} (h : ws.locate fs path = .error stop) :
    BreaksOff ws fs path r stop fs := by
  unfold locate settled at h
  dsimp only at h
  split at h
  · next hnames =>
      cases h
      obtain ⟨name, hname, hnull⟩ : ∃ name ∈ wanted ws path, nameable name = false := by
        simpa [wanted] using hnames
      exact .unnameable name hname (by simpa [nameable] using hnull)
  · split at h
    · next hloop =>
        cases h
        exact .linkLoop hloop
    · cases h

theorem not_prefix_of_below {p : Path} (h : Path.below? directory p = none) :
    ¬ directory <+: p := by
  unfold Path.below? at h
  split at h
  · cases h
  · next hprefix => exact fun hp => hprefix (List.isPrefixOf_iff_prefix.mpr hp)

/-- A repair never breaks off, and the other operations do so for the reasons known. -/
theorem reason_of_apply {mode : Mode} {o : Options} {abort : Yaml.Abort}
    (h : mode.apply o text = .error abort) :
    mode ≠ .fix ∧ (Yaml.Fault.aborted abort).OfReading ∨ mode = .format ∧
      abort.OfWriting := by
  rcases hload : Yaml.load text with (⟨cause, mark⟩ | other) | ds
  · cases mode with
    | check =>
        rw [Mode.apply, Gate.check_of_rejected hload] at h
        cases h
    | format =>
        rw [Mode.apply, Gate.format_of_rejected hload] at h
        cases h
    | fix => cases h
  · have hreading := Yaml.ends_load text _ hload
    cases mode with
    | check =>
        rw [Mode.apply, Gate.check_of_aborted hload] at h
        cases h
        exact Or.inl ⟨nofun, hreading⟩
    | format =>
        rw [Mode.apply, Gate.format_of_aborted hload] at h
        cases h
        exact Or.inl ⟨nofun, hreading⟩
    | fix => cases h
  · cases mode with
    | check =>
        rw [Mode.apply, Gate.check_of_load hload] at h
        cases h
    | format =>
        rw [Mode.apply, Gate.format_of_load hload] at h
        cases hcanonical : Yaml.canonical o ds with
        | ok u =>
            rw [hcanonical] at h
            cases h
        | error other =>
            rw [hcanonical] at h
            cases h
            exact Or.inr ⟨rfl, Yaml.ends_canonical o ds abort hcanonical⟩
    | fix => cases h

/-- What comes of the text that is due when the report says that nothing was written. -/
theorem untouched_of_saved {p : Processed} {report : FileReport}
    (hfile : FileAt fs place directory q bytes time)
    (hsaved : Saved ws fs place p (.ok report) after) (hbackup : p.backup = none)
    (hwritten : report.written = false) :
    ∃ steps : Option (List Name), report.backup = steps.map joined ∧
      Untouched fs after place (steps.map fun below => ws.root ++ below) := by
  cases hsaved with
  | warned k fault done after first copy move =>
      cases done with
      | ok u => cases hwritten
      | error other =>
          exact ⟨none, hbackup, Untouched.of_move hfile (replaced_of_move hfile move) none⟩
  | copied k mid steps done after first copy below move =>
      cases done with
      | ok u => cases hwritten
      | error other =>
          have hmove := replaced_of_move (first.fileAt_of_copy hfile copy) move
          have huntouched := Untouched.of_copied_move hfile first copy hmove
          rw [below] at huntouched
          exact ⟨some steps, rfl, huntouched⟩

/-- The ways in which saving a text breaks off. -/
theorem breaksOff_of_saved {p : Processed} {stop : Stop}
    (hlocate : ws.locate fs path = .ok place) (hdue : Due ws fs path r place)
    (hsaved : Saved ws fs place p (.error stop) after) :
    BreaksOff ws fs path r stop after := by
  cases hsaved with
  | unnamed k fault present =>
      exact .unnamed place k fault hlocate hdue present
        (FileCause.isFault_iff.mp (cause_of_isPresent present))
  | outside k copied first copy below =>
      exact .outside place k after hlocate hdue first copy (not_prefix_of_below below)

/-- **Work on a file reports or breaks off.**  A report that nothing was written leaves all files
and directories as they were, and names the backup that is new, if there is one.  Work breaks off
only in the ways listed, of which one leaves a new backup behind and the others leave no trace. -/
theorem process_reports_or_breaks_off (ws : Workspace) (fs : FileSystem) (path : List Char)
    (r : Request) :
    (∃ report after, ws.process fs path r = (.ok report, after) ∧
      (report.written = false → ∃ place, ∃ steps : Option (List Name),
        ws.locate fs path = .ok place ∧ report.backup = steps.map joined ∧
        Untouched fs after place (steps.map fun below => ws.root ++ below))) ∨
      ∃ stop after, ws.process fs path r = (.error stop, after) ∧
        BreaksOff ws fs path r stop after := by
  rcases hrun : ws.process fs path r with ⟨result, after⟩
  cases course_of_process hrun with
  | astray stop locate => exact Or.inr ⟨stop, fs, rfl, breaksOff_of_locate locate⟩
  | unseen place fault locate isFile =>
      exact Or.inr ⟨_, fs, rfl, .unseen place fault locate isFile
        (FileCause.isFault_iff.mp (cause_of_isFile isFile))⟩
  | unread place failure locate load =>
      exact Or.inl
        ⟨_, fs, rfl, fun _ => ⟨place, none, locate, rfl, Untouched.refl fs place none⟩⟩
  | aborted place text abort locate load apply =>
      exact Or.inr ⟨_, fs, rfl, .operation place text abort locate load apply
        (reason_of_apply apply)⟩
  | kept place text outcome locate load apply undue =>
      exact Or.inl
        ⟨_, fs, rfl, fun _ => ⟨place, none, locate, rfl, Untouched.refl fs place none⟩⟩
  | saved place directory q bytes time text outcome result after locate load apply due
      file save =>
      cases result with
      | ok report =>
          refine Or.inl ⟨report, after, rfl, fun hwritten => ?_⟩
          obtain ⟨steps, hbackup, huntouched⟩ := untouched_of_saved file save rfl hwritten
          exact ⟨place, steps, locate, hbackup, huntouched⟩
      | error stop =>
          exact Or.inr ⟨stop, after, rfl,
            breaksOff_of_saved locate ⟨text, outcome, load, apply, due⟩ save⟩

/-- Files to work on beside the one that ends in a blank: another one outside the workspace, one
whose only scalar is tagged as a number and empty, a link to itself, and a closed directory. -/
def troubled : FileSystem :=
  spacedFile [(["o".toList], .file (Text.Utf8.encode "b \n".toList) 0),
    (["w".toList, "n".toList], .file (Text.Utf8.encode "!!int\n".toList) 0),
    (["w".toList, "l".toList], .link "l".toList), (["w".toList, "c".toList], .closed)]

/-- Work on a file outside the workspace breaks off behind its backup, and work on a number
without digits, on a link to itself, on a name with a null character, on one that is too long and
on a file in a closed directory breaks off as well. -/
theorem calls_that_break_off :
    let ws : Workspace := { root := ["w".toList] }
    let outside := ws.process troubled "../o".toList { write := true }
    let long := List.replicate 256 'a'
    outside.1 = .error (.outside ["o.yamlmend.backup".toList] ["w".toList]) ∧
      outside.2.read ["o.yamlmend.backup".toList] = .ok (Text.Utf8.encode "b \n".toList) ∧
      ws.process troubled "n".toList { mode := .check } =
        (.error (.aborted .emptyNumber), troubled) ∧
      ws.process troubled "l".toList {} =
        (.error (.linkLoop ["w".toList, "l".toList]), troubled) ∧
      ws.process troubled ['\x00'] {} = (.error .unnameable, troubled) ∧
      ws.process troubled long {} =
        (.error (.file ⟨.nameTooLong, ["w".toList, long]⟩), troubled) ∧
      ws.process troubled "c/a".toList {} =
        (.error (.file ⟨.denied, ["w".toList, "c".toList, "a".toList]⟩), troubled) := by
  decide +kernel

end Workspace
end YamlTidy
