import YamlTidy.Gate
import YamlTidy.Repair.Normalize
import YamlTidy.Repair.Realign
import YamlTidy.Repair.Report

/-!
# Repair of a text

A repair cleans the surface of a text, classifies its lines and realigns its list items.  What comes
out of this, the *rebuilt* text, has to pass the strict gate.

Main definitions:

* `Rebuilt.ofText`, the stages in front of the gate;
* `autoFix`, which always ends in an outcome;
* `run` and `heal`, which give up when the gate cannot tell what is wrong.
-/

namespace YamlTidy
namespace Repair

open Yaml

/-- A text on its way through the stages of a repair. -/
structure Rebuilt where
  normalized : List Char
  lines : List Line
  text : List Char
  deriving Repr, DecidableEq

/-- How list items are placed under the given options. -/
def Realignment.ofOptions (o : Options) : Realignment :=
  { indent := o.indent, resetListOnBlank := o.resetListOnBlank }

/-- The stages in front of the gate. -/
def Rebuilt.ofText (o : Options) (text : List Char) : Rebuilt :=
  let normalized := normalize o.indent text
  let lines := classify normalized
  { normalized, lines, text := (Realignment.ofOptions o).realign lines }

/-- The message of a repair that broke off without one. -/
def fallbackMessage : List Char :=
  "YAML has syntax errors that cannot be automatically corrected".toList

/-- The first text that is not empty, or the last one. -/
def firstNonempty (a b c : List Char) : List Char :=
  if !a.isEmpty then a else if !b.isEmpty then b else c

/-- What is wrong when the gate breaks off: the best text at hand, and the message there is. -/
def broken (input : List Char) (r : Rebuilt) (abort : Abort) : Outcome :=
  let message := abort.message
  .invalid (firstNonempty r.text r.normalized input)
    (if message.isEmpty then fallbackMessage else message) none

/-- Repairs a text. -/
def autoFix (o : Options) (text : List Char) : Outcome :=
  let r := Rebuilt.ofText o text
  match Gate.format o r.text with
  | .ok outcome => outcome
  | .error abort => broken text r abort

/-- Repairs a text and tells what became of it at each stage. -/
def run (o : Options) (text : List Char) : Except Abort (Rebuilt × Outcome) :=
  let r := Rebuilt.ofText o text
  (Gate.format o r.text).map fun outcome => (r, outcome)

/-- A text that could not be repaired: the best text at hand, and what is wrong with it. -/
structure Unrecoverable where
  text : List Char
  diagnostic : Diagnostic
  deriving Repr, DecidableEq

/-- The text of a repair that succeeded. -/
def heal (o : Options) (text : List Char) : Except Abort (Except Unrecoverable (List Char)) :=
  (run o text).map fun (_, outcome) =>
    match outcome with
    | .formatted t => .ok t
    | .valid => .ok []
    | .invalid t message position => .error ⟨t, ⟨message, position⟩⟩

/-- The report on a repair that ended in an outcome. -/
def Report.ofOutcome (given : List Char) (outcome : Outcome) : Report :=
  report given ((outcome.text?).getD [])
    (if outcome.ok then "FORMATTED" else "INVALID").toList

end Repair

/-- What to do with a text. -/
inductive Mode where
  | check
  | format
  | fix
  deriving Repr, DecidableEq, Inhabited

namespace Mode

/-- The word for a mode. -/
def name : Mode → String
  | .check => "check"
  | .format => "format"
  | .fix => "fix"

/-- The mode a word stands for. -/
def ofName? : String → Option Mode
  | "check" => some .check
  | "format" => some .format
  | "fix" => some .fix
  | _ => none

/-- The message for a word that stands for no mode. -/
def unknown (word : List Char) : List Char :=
  "Unknown mode '".toList ++ word ++ "'. Expected one of: check, format, fix".toList

/-- Does what a mode asks for. -/
def apply (o : Options) (text : List Char) : Mode → Except Yaml.Abort Outcome
  | .check => Gate.check text
  | .format => Gate.format o text
  | .fix => .ok (Repair.autoFix o text)

end Mode
end YamlTidy
