import YamlTidy.Files.Search
import YamlTidy.Number.Digits
import YamlTidy.Repair.Pipeline
import YamlTidy.Text.Case

/-!
# Workspaces

A `Workspace` is a directory whose files are checked, formatted and repaired.  A file is written
only when its text changed and is valid, or when the request forces it; its old bytes are kept in
a backup beside it, and the new ones replace it in one step.

Main definitions:

* `Workspace.process`, which does what a request asks for to one file and reports on it;
* `Workspace.discover` and `Workspace.scan`, for many files;
* `Workspace.cleanup`, which removes old backups;
* `Summary.ofReports`, the figures of a list of reports.

Whatever changes files returns the file system behind it.
-/

namespace YamlTidy

open Files

/-- What ends work on files without a report. -/
inductive Stop where
  | aborted (abort : Yaml.Abort)
  | file (fault : FileFault)
  /-- A link that leads back to itself. -/
  | linkLoop (path : Path)
  /-- A path with a name that no file can have. -/
  | unnameable
  /-- A path that is not below a directory. -/
  | outside (path directory : Path)
  /-- A pattern with stars that stand for nothing. -/
  | pattern
  /-- A word that stands for no mode. -/
  | unknownMode (word : List Char)
  deriving Repr, DecidableEq

/-- The wording of a stop. -/
def Stop.message : Stop → List Char
  | .aborted abort => abort.message
  | .file fault => fault.message
  | .linkLoop path => "Symlink loop from ".toList ++ Text.quote path.text
  | .unnameable => "embedded null byte".toList
  | .outside path directory =>
      Text.quote path.text ++ " is not in the subpath of ".toList ++ Text.quote directory.text ++
        " OR one path is relative and the other is absolute.".toList
  | .pattern => "Invalid pattern: '**' can only be an entire path component".toList
  | .unknownMode word => Mode.unknown word

/-- What to do with a file. -/
structure Request where
  mode : Mode := .fix
  /-- Whether to write the text that comes out. -/
  write : Bool := false
  /-- Whether to write it even when it is not valid. -/
  force : Bool := false
  deriving Repr, DecidableEq

/-- Why a file could not be read. -/
inductive ReadFailure where
  | missing (path : Path)
  | undecodable (fault : Text.Utf8.Fault)
  | unreadable (fault : FileFault)
  deriving Repr, DecidableEq

namespace ReadFailure

/-- The wording of a failure. -/
def message : ReadFailure → List Char
  | missing path => "Path missing: ".toList ++ path.text
  | undecodable fault => fault.message
  | unreadable fault => fault.message

/-- The status of a file that could not be read. -/
def status : ReadFailure → String
  | missing _ => "FILE_NOT_FOUND"
  | _ => "ENGINE_ERROR"

end ReadFailure

/-- What became of a file that was read. -/
structure Processed where
  /-- The path as it was given. -/
  path : List Char
  mode : Mode
  outcome : Outcome
  /-- The text of the file. -/
  given : List Char
  written : Bool := false
  /-- The backup, seen from the workspace. -/
  backup : Option (List Char) := none
  /-- Why there is no backup although one was due. -/
  backupWarning : Option (List Char) := none
  /-- Why nothing was written although it was due. -/
  writeError : Option (List Char) := none
  deriving Repr, DecidableEq

namespace Processed

/-- The text that came out. -/
def output (p : Processed) : List Char :=
  (p.outcome.text?).getD p.given

/-- Whether another text came out. -/
def isModified (p : Processed) : Bool :=
  p.mode != .check && p.output != p.given

/-- The text that came out, if it is another one. -/
def healed? (p : Processed) : Option (List Char) :=
  if p.isModified then some p.output else none

/-- The status of a file. -/
def status (p : Processed) : String :=
  if !p.outcome.ok then "INVALID"
  else if p.mode == .check then "VALID"
  else if p.isModified then "CHANGED"
  else "UNCHANGED"

/-- Whether all went well. -/
def success (p : Processed) : Bool :=
  p.outcome.ok && p.writeError.isNone

/-- The report on what changed. -/
def report (p : Processed) : Repair.Report :=
  Repair.report p.given p.output (if p.outcome.ok then "OK" else "INVALID").toList

/-- Whether a request wants the text written. -/
def isDue (p : Processed) (r : Request) : Bool :=
  r.write && p.isModified && (p.outcome.ok || r.force)

end Processed

/-- A report on one file. -/
inductive FileReport where
  | failed (path : List Char) (failure : ReadFailure)
  | processed (p : Processed)
  deriving Repr, DecidableEq

namespace FileReport

/-- The path as it was given. -/
def path : FileReport → List Char
  | failed path _ => path
  | processed p => p.path

/-- The status of the file. -/
def status : FileReport → String
  | failed _ failure => failure.status
  | processed p => p.status

/-- Whether all went well. -/
def success : FileReport → Bool
  | failed _ _ => false
  | processed p => p.success

/-- Whether the file was written. -/
def written : FileReport → Bool
  | failed _ _ => false
  | processed p => p.written

/-- The backup of the file. -/
def backup : FileReport → Option (List Char)
  | failed _ _ => none
  | processed p => p.backup

end FileReport

/-- What a summary counts of a report. -/
structure Tally where
  success : Bool := false
  status : String := ""
  written : Bool := false
  backedUp : Bool := false
  deriving Repr, DecidableEq

/-- What a summary counts of a file's report. -/
def FileReport.tally (r : FileReport) : Tally :=
  { success := r.success, status := r.status, written := r.written
    backedUp := ((r.backup).map fun b => !b.isEmpty).getD false }

/-- The figures of some reports. -/
structure Summary where
  total : Nat
  successful : Nat
  invalid : Nat
  written : Nat
  backups : Nat
  systemErrors : Nat
  deriving Repr, DecidableEq

namespace Summary

/-- The figures of what was counted. -/
def ofTallies (ts : List Tally) : Summary :=
  { total := ts.length
    successful := ts.countP fun t => t.success
    invalid := ts.countP fun t => t.status == "INVALID"
    written := ts.countP fun t => t.written
    backups := ts.countP fun t => t.backedUp
    systemErrors :=
      ts.countP fun t => t.status == "ENGINE_ERROR" || t.status == "FILE_NOT_FOUND" }

/-- The figures of some reports. -/
def ofReports (rs : List FileReport) : Summary :=
  ofTallies (rs.map FileReport.tally)

/-- The share of files that went well, with six places; a bare zero when there are none. -/
def rate (s : Summary) : List Char :=
  if s.total == 0 then ['0']
  else
    match Binary64.ofQuotient false s.successful s.total 0 with
    | .finite _ m e => Binary64.fixed m e 6
    | _ => []

end Summary

/-- A directory to work in. -/
structure Workspace where
  root : Path
  options : Options := {}
  deriving Repr, DecidableEq

namespace Workspace

/-- What the names of backups end in. -/
def backupSuffix : List Char :=
  ".yamlmend.backup".toList

/-- What the name of the file ends in that takes a text before it replaces another file. -/
def temporarySuffix : List Char :=
  ".yamlmend.tmp".toList

/-- Whether a name could be that of a file: it has no null character. -/
def nameable (n : Name) : Bool :=
  !n.contains '\x00'

/-- The place that a path leads to. -/
def settled (fs : FileSystem) (p : Path) : Except Stop Path :=
  let place := fs.resolve p
  if !p.all nameable then .error .unnameable
  else if fs.isLoop place then .error (.linkLoop place)
  else .ok place

/-- The workspace at a path. -/
def at_ (fs : FileSystem) (options : Options) (p : Path) : Except Stop Workspace :=
  (settled fs p).map fun root => { root, options }

/-- The place of a file in the workspace. -/
def locate (ws : Workspace) (fs : FileSystem) (path : List Char) : Except Stop Path :=
  settled fs ((WrittenPath.ofText path).fromDirectory ws.root)

/-- The text of the file at a place. -/
def load (fs : FileSystem) (place : Path) : Except Stop (Except ReadFailure (List Char)) :=
  match fs.isFile place with
  | .error fault => .error (.file fault)
  | .ok false => .ok (.error (.missing place))
  | .ok true =>
      match fs.read place with
      | .error fault => .ok (.error (.unreadable fault))
      | .ok bytes => .ok ((Text.Utf8.readable bytes).mapError .undecodable)

/-- The name of a file's backup; `n` counts the names that are taken. -/
def backupName (name : Name) : Nat → Name
  | 0 => name ++ backupSuffix
  | n + 1 => name ++ '-' :: decimal (n + 1) ++ backupSuffix

/-- The first backup of a place that is free, from the name with number `n` on. -/
def freeBackup (fs : FileSystem) (place : Path) : Nat → Nat → Except FileFault Path
  | 0, n => .ok (place.withName (backupName place.name n))
  | tries + 1, n =>
      let candidate := place.withName (backupName place.name n)
      match fs.isPresent candidate with
      | .error fault => .error fault
      | .ok false => .ok candidate
      | .ok true => freeBackup fs place tries (n + 1)

/-- Writes a text to a file beside a place and moves it there.  When that fails, what stands
beside the place is removed.  The directory of the place may be written to, as every directory
that is not closed may be; so the look for leave to write, which comes first, always succeeds and
is left out. -/
def replaceText (fs : FileSystem) (place : Path) (text : List Char) :
    Except FileFault Unit × FileSystem :=
  let temporary := place.withName (place.name ++ temporarySuffix)
  let attempt := do
    let fs ← fs.write temporary (Text.Utf8.encode text)
    fs.replace temporary place
  match attempt with
  | .ok fs => (.ok (), fs)
  | .error fault =>
      match fs.isPresent temporary with
      | .error other => (.error other, fs)
      | .ok false => (.error fault, fs)
      | .ok true =>
          match fs.unlink temporary with
          | .ok fs => (.error fault, fs)
          | .error other => (.error other, fs)

/-- Keeps the bytes of a place in a backup, writes the text that came out, and completes the
report. -/
def save (ws : Workspace) (fs : FileSystem) (place : Path) (p : Processed) :
    Except Stop FileReport × FileSystem :=
  match freeBackup fs place (fs.entries.length + 1) 0 with
  | .error fault => (.error (.file fault), fs)
  | .ok backup =>
      let write (fs : FileSystem) (p : Processed) : Except Stop FileReport × FileSystem :=
        match replaceText fs place p.output with
        | (.ok (), fs) => (.ok (.processed { p with written := true }), fs)
        | (.error fault, fs) =>
            (.ok (.processed { p with writeError := some fault.message }), fs)
      match fs.copy place backup with
      | .error fault =>
          write fs { p with backupWarning := some ("Backup failed: ".toList ++ fault.message) }
      | .ok fs =>
          match Path.below? ws.root backup with
          | none => (.error (.outside backup ws.root), fs)
          | some steps => write fs { p with backup := some (joined steps) }

/-- Does what a request asks for to the file at a path. -/
def process (ws : Workspace) (fs : FileSystem) (path : List Char) (r : Request) :
    Except Stop FileReport × FileSystem :=
  match ws.locate fs path with
  | .error stop => (.error stop, fs)
  | .ok place =>
      match load fs place with
      | .error stop => (.error stop, fs)
      | .ok (.error failure) => (.ok (.failed path failure), fs)
      | .ok (.ok text) =>
          match r.mode.apply ws.options text with
          | .error abort => (.error (.aborted abort), fs)
          | .ok outcome =>
              let p : Processed := { path, mode := r.mode, outcome, given := text }
              if p.isDue r then ws.save fs place p else (.ok (.processed p), fs)

/-- What a word that stands for no mode comes to: the file is read before the word is looked at. -/
def refuse (ws : Workspace) (fs : FileSystem) (path word : List Char) : Except Stop FileReport :=
  match ws.locate fs path with
  | .error stop => .error stop
  | .ok place =>
      match load fs place with
      | .error stop => .error stop
      | .ok (.error failure) => .ok (.failed path failure)
      | .ok (.ok _) => .error (.unknownMode word)

/-- How many names deep files are looked for unless something else is asked for. -/
def defaultDepth : Int := 10

/-- The age in hours from which on backups are old unless something else is asked for. -/
def defaultAge : Binary64 := .ofInt 168

/-- The paths of a list that lead to files and are no links themselves.  A path that cannot be
looked at stops the search. -/
def ownFiles (fs : FileSystem) : List Path → Except FileFault (List Path)
  | [] => .ok []
  | p :: rest =>
      match fs.isFile p with
      | .error fault => .error fault
      | .ok isFile =>
          (ownFiles fs rest).map fun others =>
            if isFile && !fs.isLink p then p :: others else others

/-- The files of the workspace whose names end in an extension, in small or in capital letters, at
most `maxDepth` names deep. -/
def discover (ws : Workspace) (fs : FileSystem) (extension : List Char) (maxDepth : Int) :
    Except Stop (List Path) :=
  let find (ending : List Char) := fs.search ws.root ('*' :: ending)
  match find (Text.toSmall extension), find (Text.toCapital extension) with
  | some small, some capital =>
      match ownFiles fs (small ++ capital) with
      | .error fault => .error (.file fault)
      | .ok found => .ok ((ascending found).filter fun p =>
          ((p.length : Int) - ws.root.length ≤ maxDepth))
  | _, _ => .error .pattern

/-- A path as the workspace shows it. -/
def shown (ws : Workspace) (p : Path) : Except Stop (List Char) :=
  match Path.below? ws.root p with
  | some steps => .ok (WrittenPath.text ⟨false, steps⟩)
  | none => .error (.outside p ws.root)

/-- What became of a list of files, up to the first that stopped the work. -/
structure Scan (σ : Type) where
  reports : List FileReport
  stop : Option Stop
  /-- What the work left behind. -/
  state : σ

/-- Works on the files of a list one after another, each by the path that the workspace shows. -/
def forEach {σ : Type} (ws : Workspace) (work : σ → List Char → Except Stop FileReport × σ)
    (state : σ) : List Path → Scan σ
  | [] => ⟨[], none, state⟩
  | p :: rest =>
      match ws.shown p with
      | .error stop => ⟨[], some stop, state⟩
      | .ok path =>
          match work state path with
          | (.error stop, state) => ⟨[], some stop, state⟩
          | (.ok report, state) =>
              let s := forEach ws work state rest
              { s with reports := report :: s.reports }

/-- Does what a request asks for to each file of a list. -/
def scan (ws : Workspace) (fs : FileSystem) (r : Request) (ps : List Path) : Scan FileSystem :=
  ws.forEach (fun fs path => ws.process fs path r) fs ps

/-- Work on files that makes a call behind each of them: how many are done, and out of how many. -/
def telling {σ : Type} (total : Nat) (work : σ → List Char → Except Stop FileReport × σ) :
    σ × List (Nat × Nat) → List Char → Except Stop FileReport × (σ × List (Nat × Nat))
  | (state, calls), path =>
      match work state path with
      | (.error stop, state) => (.error stop, (state, calls))
      | (.ok report, state) => (.ok report, (state, calls ++ [(calls.length + 1, total)]))

/-- Does what a request asks for to each file of a list, and lists the calls that tell of it. -/
def scanTelling (ws : Workspace) (fs : FileSystem) (r : Request) (ps : List Path) :
    Scan (FileSystem × List (Nat × Nat)) :=
  ws.forEach (telling ps.length fun fs path => ws.process fs path r) (fs, []) ps

/-- Whether an age in millionths of a second is more than some hours. -/
def exceeds (age : Int) : Binary64 → Bool
  | .finite negative m e =>
      let hours : Int := if negative then -m else m
      hours * Binary64.twoTo e * 3600000000 < age * Binary64.twoTo (-e)
  | .infinite negative => negative
  | .notANumber => false

/-- Removes a backup that is old enough, and counts it. -/
def removeOld (hours : Binary64) (state : Nat × FileSystem) (p : Path) : Nat × FileSystem :=
  let (n, fs) := state
  match fs.modified? p with
  | some time =>
      if !fs.isLink p && exceeds (fs.now - time) hours then
        match fs.unlink p with
        | .ok fs => (n + 1, fs)
        | .error _ => (n, fs)
      else (n, fs)
  | none => (n, fs)

/-- Removes the backups in the workspace that are older than some hours, and counts them. -/
def cleanup (ws : Workspace) (fs : FileSystem) (hours : Binary64) : Nat × FileSystem :=
  ((fs.search ws.root ('*' :: backupSuffix)).getD []).foldl (removeOld hours) (0, fs)

end Workspace
end YamlTidy
