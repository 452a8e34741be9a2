import YamlTidy.Files.Path
import YamlTidy.Text.Quoted
import YamlTidy.Text.Utf8

/-!
# File systems

A `FileSystem` is what stands at each path at one moment: a file with its bytes and the time of its
last change, a directory, or a symbolic link.  Operations that follow links walk a path name by
name, as `locate` does; `resolve` finds the place a path leads to even when nothing stands there.

A directory may be closed, so that it is neither listed nor passed.  Apart from that there are no
permissions: every file may be read and written, and what stands in a directory may be changed.

Main definitions:

* `FileSystem.entry?`, `FileSystem.put` and `FileSystem.erase`, the view and the two changes of it;
* `FileSystem.locate`, `FileSystem.resolve`, which follow links, and `FileSystem.own`, which follows
  all but the last;
* `FileSystem.read`, `write`, `copy`, `replace`, `unlink`, which end in a `FileFault` when they
  fail.
-/

namespace YamlTidy
namespace Files

open Text

/-- What stands at a path. -/
inductive Entry where
  | file (bytes : List UInt8) (modified : Int)
  | directory
  /-- A directory that may be neither listed nor passed.  What is in it cannot be told, and nothing
  stands below it here. -/
  | closed
  /-- A link to the path that the text stands for. -/
  | link (target : List Char)
  deriving Repr, DecidableEq

namespace Entry

/-- Whether it is a directory. -/
def isDirectory : Entry → Bool
  | directory => true
  | closed => true
  | _ => false

/-- Whether it is a file. -/
def isFile : Entry → Bool
  | file _ _ => true
  | _ => false

/-- Whether it is a link. -/
def isLink : Entry → Bool
  | link _ => true
  | _ => false

end Entry

/-- Why an operation on files fails. -/
inductive FileCause where
  | missing
  | denied
  | notDirectory
  | isDirectory
  | nameTooLong
  | tooManyLinks
  deriving Repr, DecidableEq

/-- The wording of a cause, with its number. -/
def FileCause.message : FileCause → String
  | .missing => "[Errno 2] No such file or directory"
  | .denied => "[Errno 13] Permission denied"
  | .notDirectory => "[Errno 20] Not a directory"
  | .isDirectory => "[Errno 21] Is a directory"
  | .nameTooLong => "[Errno 36] File name too long"
  | .tooManyLinks => "[Errno 40] Too many levels of symbolic links"

/-- Whether a look at a path ends in a fault of the cause.  Otherwise there is nothing to be
seen. -/
def FileCause.isFault : FileCause → Bool
  | .denied => true
  | .nameTooLong => true
  | _ => false

/-- Why an operation on files fails, and on which path. -/
structure FileFault where
  cause : FileCause
  path : Path
  deriving Repr, DecidableEq

/-- The wording of a fault. -/
def FileFault.message (f : FileFault) : List Char :=
  f.cause.message.toList ++ ": ".toList ++ quote f.path.text

/-- What stands at each path, and the time. -/
structure FileSystem where
  /-- The newest entry of a path comes first.  The root is not listed. -/
  entries : List (Path × Entry)
  /-- The time, in millionths of a second. -/
  now : Int
  deriving Repr, DecidableEq

namespace FileSystem

/-- What stands at a path itself. -/
def entry? (fs : FileSystem) (p : Path) : Option Entry :=
  if p.isEmpty then some .directory else fs.entries.lookup p

/-- Nothing stands at the path any more. -/
def erase (fs : FileSystem) (p : Path) : FileSystem :=
  { fs with entries := fs.entries.filter fun e => e.1 != p }

/-- The entry stands at the path. -/
def put (fs : FileSystem) (p : Path) (e : Entry) : FileSystem :=
  { fs with entries := (p, e) :: (fs.erase p).entries }

/-- The names in a directory. -/
def names (fs : FileSystem) (directory : Path) : List Name :=
  fs.entries.filterMap fun e =>
    match Path.below? directory e.1 with
    | some [n] => some n
    | _ => none

/-- The most bytes of a name. -/
def longestName : Nat := 255

/-- The most bytes of a path. -/
def longestPath : Nat := 4095

/-- The number of bytes of a text. -/
def byteLength (s : List Char) : Nat :=
  (Utf8.encode s).length

/-- Goes on from a place, name by name.  `follow` goes on from a place through a link. -/
def walk (fs : FileSystem) (follow : Path → List Char → Except FileCause Path) :
    Path → List Name → Except FileCause Path
  | here, [] => .ok here
  | here, n :: rest =>
      match fs.entry? here with
      | none => .error .missing
      | some .directory =>
          if n = up then walk fs follow here.dropLast rest
          else if n = stay then walk fs follow here rest
          else if longestName < byteLength n then .error .nameTooLong
          else
            match fs.entry? (here ++ [n]) with
            | some (.link target) =>
                match follow here target with
                | .ok place => walk fs follow place rest
                | .error cause => .error cause
            | _ => walk fs follow (here ++ [n]) rest
      | some .closed => .error .denied
      | some _ => .error .notDirectory

/-- The place that a link's text leads to from its directory, through at most `depth` more links. -/
def follow (fs : FileSystem) : Nat → Path → List Char → Except FileCause Path
  | 0, _, _ => .error .tooManyLinks
  | depth + 1, here, target =>
      let p := WrittenPath.ofText target
      walk fs (follow fs depth) (if p.absolute then [] else here) (linkSteps target)

/-- The most links within links on the way to a place. -/
def deepestLink : Nat := 40

/-- The place that a path leads to through links.  Nothing may stand there, but its directory
stands. -/
def locate (fs : FileSystem) (p : Path) : Except FileFault Path :=
  if longestPath < byteLength p.text then .error ⟨.nameTooLong, p⟩
  else (walk fs (follow fs deepestLink) [] p).mapError fun cause => ⟨cause, p⟩

/-- What stands where a path leads to. -/
def stat (fs : FileSystem) (p : Path) : Except FileFault Entry :=
  match fs.locate p with
  | .error f => .error f
  | .ok place =>
      match fs.entry? place with
      | some e => .ok e
      | none => .error ⟨.missing, p⟩

/-- What stands where a path leads to, if anything does.  Only a name that is too long and a
directory that may not be passed are faults. -/
def stat? (fs : FileSystem) (p : Path) : Except FileFault (Option Entry) :=
  match fs.stat p with
  | .ok e => .ok (some e)
  | .error f => if f.cause.isFault then .error f else .ok none

/-- Whether a path leads to something. -/
def isPresent (fs : FileSystem) (p : Path) : Except FileFault Bool :=
  (fs.stat? p).map fun e => e.isSome

/-- Whether a path leads to a file. -/
def isFile (fs : FileSystem) (p : Path) : Except FileFault Bool :=
  (fs.stat? p).map fun e => (e.map Entry.isFile).getD false

/-- Whether a path leads to a directory. -/
def isDirectory (fs : FileSystem) (p : Path) : Except FileFault Bool :=
  (fs.stat? p).map fun e => (e.map Entry.isDirectory).getD false

/-- Goes on from a place as far as links lead, whether or not anything stands there.  The second
part tells whether no link leads back to itself.  `open_` lists the links on the way. -/
def resolveFrom (fs : FileSystem) (follow : List Path → Path → List Char → Path × Bool)
    (open_ : List Path) : Path → List Name → Path × Bool
  | here, [] => (here, true)
  | here, n :: rest =>
      if n = up then resolveFrom fs follow open_ here.dropLast rest
      else
        let next := here ++ [n]
        match fs.entry? next with
        | some (.link target) =>
            if open_.contains next then (next ++ rest, false)
            else
              match follow (next :: open_) here target with
              | (place, true) => resolveFrom fs follow open_ place rest
              | (place, false) => (place ++ rest, false)
        | _ => resolveFrom fs follow open_ next rest

/-- Resolves the text of a link.  The links on the way differ, so there are at most as many as there
are entries. -/
def resolveLink (fs : FileSystem) : Nat → List Path → Path → List Char → Path × Bool
  | 0, _, here, _ => (here, false)
  | depth + 1, open_, here, target =>
      let p := WrittenPath.ofText target
      resolveFrom fs (resolveLink fs depth) open_ (if p.absolute then [] else here) p.steps

/-- The place that a path leads to, whether or not anything stands there. -/
def resolve (fs : FileSystem) (p : Path) : Path :=
  (resolveFrom fs (resolveLink fs (fs.entries.length + 1)) [] [] p).1.straight

/-- Whether a path leads to a link that leads back to itself. -/
def isLoop (fs : FileSystem) (p : Path) : Bool :=
  match fs.stat p with
  | .error ⟨.tooManyLinks, _⟩ => true
  | _ => false

/-- The bytes of the file that a path leads to. -/
def read (fs : FileSystem) (p : Path) : Except FileFault (List UInt8) :=
  match fs.stat p with
  | .error f => .error f
  | .ok (.file bytes _) => .ok bytes
  | .ok _ => .error ⟨.isDirectory, p⟩

/-- The time of the last change of the file that a path leads to. -/
def modified? (fs : FileSystem) (p : Path) : Option Int :=
  match fs.stat p with
  | .ok (.file _ time) => some time
  | _ => none

/-- Writes a file where a path leads to, with a time of change. -/
def writeAt (fs : FileSystem) (p : Path) (bytes : List UInt8) (time : Int) :
    Except FileFault FileSystem :=
  match fs.locate p with
  | .error f => .error f
  | .ok place =>
      match fs.entry? place with
      | some .directory => .error ⟨.isDirectory, p⟩
      | some .closed => .error ⟨.isDirectory, p⟩
      | _ => .ok (fs.put place (.file bytes time))

/-- Writes a file where a path leads to. -/
def write (fs : FileSystem) (p : Path) (bytes : List UInt8) : Except FileFault FileSystem :=
  fs.writeAt p bytes fs.now

/-- Copies a file with its time of change to where a path leads to. -/
def copy (fs : FileSystem) (source target : Path) : Except FileFault FileSystem :=
  match fs.read source with
  | .error f => .error f
  | .ok bytes => fs.writeAt target bytes ((fs.modified? source).getD fs.now)

/-- The place of a path itself: links on the way are followed, and one that stands there is not. -/
def own (fs : FileSystem) (p : Path) : Except FileFault Path :=
  match walk fs (follow fs deepestLink) [] p.parent with
  | .error cause => .error ⟨cause, p⟩
  | .ok directory => .ok (directory ++ p.drop p.parent.length)

/-- Removes what stands at a path itself, unless it is a directory. -/
def unlink (fs : FileSystem) (p : Path) : Except FileFault FileSystem :=
  match fs.own p with
  | .error f => .error f
  | .ok place =>
      match fs.entry? place with
      | none => .error ⟨.missing, p⟩
      | some .directory => .error ⟨.isDirectory, p⟩
      | some .closed => .error ⟨.isDirectory, p⟩
      | some _ => .ok (fs.erase place)

/-- Moves what stands at a path itself to another path, in place of what stands there. -/
def replace (fs : FileSystem) (source target : Path) : Except FileFault FileSystem :=
  match fs.own source, fs.own target with
  | .error f, _ => .error f
  | _, .error f => .error f
  | .ok old, .ok new =>
      match fs.entry? old with
      | none => .error ⟨.missing, source⟩
      | some e => .ok ((fs.erase old).put new e)

/-- The directory at a path, with all directories on the way to it. -/
def makeDirectory (fs : FileSystem) (p : Path) : FileSystem :=
  (List.range p.length).foldl
    (fun fs k =>
      let q := p.take (k + 1)
      if (fs.entry? q).isSome then fs else fs.put q .directory)
    fs

/-- A later moment. -/
def later (fs : FileSystem) (by_ : Int) : FileSystem :=
  { fs with now := fs.now + by_ }

end FileSystem
end Files
end YamlTidy
