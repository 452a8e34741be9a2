import YamlTidy.CommandLine.Session

/-!
# The program

The program as it runs on a machine.  It observes the files that its arguments lead to, asks the
session what the run comes to, and then shows that and leaves the files as the session left them.
Everything that is decided is decided in `Session.ofArguments`.
-/

namespace YamlTidy
namespace CommandLine

open Files

/-! ## What stands where -/

/-- A name in a directory of the machine. -/
def entryOf (directory : Path) (n : Name) : IO.FS.DirEntry :=
  ⟨String.ofList directory.text, String.ofList n⟩

/-- A moment in millionths of a second. -/
def moment (t : IO.FS.SystemTime) : Int :=
  t.sec * 1000000 + t.nsec.toNat / 1000

/-- The time: that of a file made just now. -/
def currentMoment : IO Int :=
  IO.FS.withTempFile fun _ path => do return moment (← path.metadata).modified

/-- A text for a link: the place where it leads; a name that nothing has if it leads nowhere; its
own name if it leads back to itself. -/
def destination (e : IO.FS.DirEntry) : IO (List Char) := do
  match ← e.path.metadata.toBaseIO with
  | .ok _ => return (← IO.FS.realPath e.path).toString.toList
  | .error (.noFileOrDirectory ..) => return ['\x00']
  | .error _ => return e.fileName.toList

/-- What stands where a directory is: it is closed when it may not be listed. -/
def directoryAt (e : IO.FS.DirEntry) : IO Entry := do
  match ← e.path.readDir.toBaseIO with
  | .error (.permissionDenied ..) => return .closed
  | _ => return .directory

/-- Observes a name in a directory, without the bytes of a file. -/
def observe (fs : FileSystem) (directory : Path) (n : Name) : IO FileSystem := do
  let e := entryOf directory n
  match ← e.path.symlinkMetadata.toBaseIO with
  | .error _ => return fs
  | .ok m =>
    let p := directory ++ [n]
    match m.type with
    | .dir => return fs.put p (← directoryAt e)
    | .symlink => return fs.put p (.link (← destination e))
    | .file => return fs.put p (.file [] (moment m.modified))
    | .other => return fs

/-- Observes a place and the directories on the way to it. -/
def observePlace (fs : FileSystem) (p : Path) : IO FileSystem :=
  p.zipIdx.foldlM (fun fs (n, k) => observe fs (p.take k) n) fs

/-- Observes a link's destination. -/
def observeLink (fs : FileSystem) (p : Path) : IO FileSystem :=
  match fs.entry? p with
  | some (.link target) =>
      let q := WrittenPath.ofText target
      if q.absolute then observePlace fs q.steps else return fs
  | _ => return fs

/-- Observes the way along some names, and the place where it ends. -/
def observeWay (fs : FileSystem) (here : Path) : List Name → IO (FileSystem × Path)
  | [] => return (fs, here)
  | n :: rest => do
    if n = up then observeWay fs here.dropLast rest
    else
      let p := here ++ [n]
      let fs ← observe fs here n
      match fs.entry? p with
      | some (.link target) =>
        let q := WrittenPath.ofText target
        observeWay (← observeLink fs p) (if q.absolute then q.steps else here ++ q.steps) rest
      | _ => observeWay fs p rest

/-- Observes the names in a directory, and with `deep` also those in the directories below. -/
partial def observeDirectory (deep : Bool) (fs : FileSystem) (directory : Path) :
    IO FileSystem := do
  let mut fs := fs
  for e in ← (entryOf directory.parent directory.name).path.readDir do
    let n := e.fileName.toList
    let p := directory ++ [n]
    fs ← observeLink (← observe fs directory n) p
    if deep && fs.entry? p == some .directory then
      fs ← observeDirectory deep fs p
  return fs

/-- The files whose bytes a command needs. -/
def Command.sources (c : Command) (fs : FileSystem) (place : Path) : List Path :=
  match c, fs.entry? place with
  | .work w, some .directory =>
      match Workspace.discover ⟨place, w.options⟩ fs w.extension Workspace.defaultDepth with
      | .ok files => files
      | .error _ => []
  | .work _, _ => [place]
  | .clean _ _, _ => []

/-- Observes the bytes of a file. -/
def observeBytes (fs : FileSystem) (p : Path) : IO FileSystem :=
  match fs.entry? p with
  | some (.file _ time) => do
    let bytes ← IO.FS.readBinFile (String.ofList p.text)
    return fs.put p (.file bytes.toList time)
  | _ => return fs

/-- What a run under some arguments needs to know of the machine. -/
def observed (arguments : List (List Char)) : IO Surroundings := do
  let here := (WrittenPath.ofText (← IO.currentDir).toString.toList).steps
  let nothing : FileSystem := ⟨[], ← currentMoment⟩
  match Invocation.ofArguments arguments with
  | .command _ c =>
    if c.reads then return ⟨nothing, here⟩
    let way := (WrittenPath.ofText c.path).fromDirectory here
    let (fs, place) ← observeWay nothing [] way
    let deep := match c with
      | .work _ => (fs.entry? place).any Entry.isDirectory
      | .clean _ _ => true
    let fs ← match fs.entry? place with
      | some .directory => observeDirectory deep fs place
      | some _ => observeDirectory deep fs place.parent
      | none => pure fs
    return ⟨← (c.sources fs place).foldlM observeBytes fs, here⟩
  | _ => return ⟨nothing, here⟩

/-! ## What a run leaves -/

/-- Writes a file: a new one as it is, an old one by way of a file beside it. -/
def writeBytes (isNew : Bool) (p : Path) (bytes : ByteArray) : IO Unit := do
  let target := String.ofList p.text
  if isNew then IO.FS.writeBinFile target bytes
  else
    let temporary := String.ofList (p.withName (p.name ++ Workspace.temporarySuffix)).text
    IO.FS.writeBinFile temporary bytes
    IO.FS.rename temporary target

/-- Changes the files of the machine as a run changed those it knew, the oldest change first. -/
def leave (before after : FileSystem) : IO Unit := do
  for (p, e) in after.entries.reverse do
    match e with
    | .file bytes _ =>
      let old := before.entry? p
      if old != some e then writeBytes old.isNone p ⟨bytes.toArray⟩
    | _ => pure ()
  for (p, _) in before.entries do
    if (after.entry? p).isNone then IO.FS.removeFile (String.ofList p.text)

/-- Shows what a run came to and leaves the files as it left them.  The result is the exit code. -/
def Ending.perform (e : Ending) (before : FileSystem) : IO UInt32 := do
  leave before e.files
  (← IO.getStderr).putStr (String.ofList e.err)
  let out ← IO.getStdout
  out.putStr (String.ofList e.out)
  out.flush
  match e.finish with
  | .code n => return n.toUInt32
  | .failed f =>
    (← IO.getStderr).putStrLn (String.ofList f.message)
    return 1

/-- Asks the user what the run needs. -/
def Session.perform (s : Session) (before : FileSystem) : IO UInt32 := do
  let input ← IO.getStdin
  match s with
  | .ended e => e.perform before
  | .reading read => (read (.given (← input.readToEnd).toList)).perform before
  | .question prompt answered =>
    let out ← IO.getStdout
    out.putStr (String.ofList prompt)
    out.flush
    (answered (.given (firstLine (← input.getLine).toList))).perform before

end CommandLine
end YamlTidy

/-- Runs the program under its arguments. -/
def main (arguments : List String) : IO UInt32 := do
  let given := arguments.map String.toList
  let surroundings ← YamlTidy.CommandLine.observed given
  (YamlTidy.CommandLine.Session.ofArguments surroundings given).perform surroundings.files
