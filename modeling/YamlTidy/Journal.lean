import YamlTidy.Workspace

/-!
# The journal

While the program works it notes what happens: what is wrong with a text, how far a repair came, and
which file could not be read.  Most of it is for those who ask for it.
-/

namespace YamlTidy
namespace Journal

open Files

/-- How important a note is. -/
inductive Level where
  | debug
  | warning
  | error
  deriving Repr, DecidableEq

/-- The word for a level. -/
def Level.name : Level → String
  | .debug => "DEBUG"
  | .warning => "WARNING"
  | .error => "ERROR"

/-- One note: how important it is, which part of the work it is about, and what it says. -/
structure Note where
  level : Level
  source : String
  message : List Char
  deriving Repr, DecidableEq

/-- A note as it is written. -/
def Note.text (n : Note) : List Char :=
  (n.level.name ++ ":yamlmend." ++ n.source ++ ":").toList ++ n.message ++ ['\n']

/-- The notes that are written. -/
def written (verbose : Bool) (notes : List Note) : List Char :=
  (notes.filter fun n => verbose || n.level != .debug).flatMap Note.text

/-- The notes on a text that the gate checks or formats. -/
def ofGate (level : Level) (about : String) (text : List Char) : List Note :=
  match Gate.read text with
  | .ok (.error d) => [⟨level, "gate", about.toList ++ ": ".toList ++ d.describe⟩]
  | _ => []

/-- The notes on the repair of a text. -/
def ofRepair (o : Options) (text : List Char) : List Note :=
  let r := Repair.Rebuilt.ofText o text
  let count := decimal r.lines.length
  let last := match Gate.format o r.text with
    | .ok outcome =>
        [⟨.debug, "pipeline", "Healed ".toList ++ count ++
          (if outcome.ok then " lines: formatted" else " lines: invalid").toList⟩]
    | .error abort => [⟨.error, "pipeline", "Auto-fix aborted: ".toList ++ abort.message⟩]
  ⟨.debug, "reconstructor", "Reconstructed ".toList ++ count ++ " lines".toList⟩ ::
    ofGate .warning "Strict parse failed" r.text ++ last

/-- The notes on an operation on a text. -/
def ofOperation (o : Options) (text : List Char) : Mode → List Note
  | .check => ofGate .debug "Validation failed" text
  | .format => ofGate .warning "Strict parse failed" text
  | .fix => ofRepair o text

/-- The notes on an operation on the file at a path. -/
def ofFile (ws : Workspace) (fs : FileSystem) (path : List Char) (mode : Mode) : List Note :=
  match ws.locate fs path with
  | .error _ => []
  | .ok place =>
      match Workspace.load fs place with
      | .error _ => []
      | .ok (.error (.missing _)) => []
      | .ok (.error failure) =>
          [⟨.error, "engine", "Error reading ".toList ++ path ++ ": ".toList ++
            failure.message⟩]
      | .ok (.ok text) => ofOperation ws.options text mode

end Journal
end YamlTidy
