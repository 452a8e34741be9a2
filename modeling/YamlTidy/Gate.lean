import YamlTidy.Diagnostic
import YamlTidy.Options
import YamlTidy.Yaml.Canonical

/-!
# The strict gate

Whatever a repair does, its result must pass here: `check` accepts a text that the strict reader
reads, and `format` also writes it in the canonical layout.  Neither repairs anything.
-/

namespace YamlTidy
namespace Gate

open Yaml

/-- What the strict reader makes of a text: its documents, or what is wrong with it. -/
def read (text : List Char) : Except Abort (Except Diagnostic (List Document)) :=
  match load text with
  | .ok ds => .ok (.ok ds)
  | .error (.rejected cause mark) => .ok (.error (Fault.diagnostic cause mark))
  | .error (.aborted abort) => .error abort

/-- The outcome for a text that the strict reader rejects. -/
def reject (text : List Char) (d : Diagnostic) : Outcome :=
  .invalid text d.describe d.position

/-- Whether a text is valid.  The text itself is never changed. -/
def check (text : List Char) : Except Abort Outcome := do
  match ← read text with
  | .ok _ => pure .valid
  | .error d => pure (reject text d)

/-- A valid text in the canonical layout. -/
def format (o : Options) (text : List Char) : Except Abort Outcome := do
  match ← read text with
  | .ok ds => (canonical o ds).map .formatted
  | .error d => pure (reject text d)

end Gate
end YamlTidy
