import YamlTidy.CommandLine.Command
import YamlTidy.Journal
import YamlTidy.Presentation

/-!
# Sessions

A `Session` is a run of the program up to the point where it needs its user, which happens at most
once: before it writes without consent, or when the text itself comes from the standard input.  An
`Ending` is what it comes to in the end, with the file system it leaves.

Main definitions: `Session.ofArguments`, and `Session.run`, the ending under some input.
-/

namespace YamlTidy
namespace CommandLine

open Files
open Presentation

/-- What ends a run before its time. -/
inductive Failure where
  | stop (s : Stop)
  | markup (f : Terminal.MarkupFault)
  /-- No line to read where one is asked for. -/
  | endOfInput
  deriving Repr, DecidableEq

/-- The wording of a failure. -/
def Failure.message : Failure → List Char
  | stop s => s.message
  | markup f => f.message
  | endOfInput => "EOF when reading a line".toList

/-- How a run ends: with an exit code or with a failure. -/
inductive Finish where
  | code (n : Nat)
  | failed (f : Failure)
  deriving Repr, DecidableEq

/-- What a run comes to. -/
structure Ending where
  out : List Char := []
  err : List Char := []
  finish : Finish
  files : FileSystem
  deriving Repr, DecidableEq

/-- What a user gives, unless the run is interrupted. -/
inductive Input (α : Type) where
  | interrupted
  | given (a : α)
  deriving Repr, DecidableEq

/-- A run as far as it goes without its user. -/
inductive Session where
  | ended (e : Ending)
  /-- Shows a question, and goes on with the line that answers it, if there is one. -/
  | question (prompt : List Char) (answered : Input (Option (List Char)) → Ending)
  /-- Goes on with all of the standard input. -/
  | reading (read : Input (List Char) → Ending)

/-- Where a run takes place. -/
structure Surroundings where
  files : FileSystem
  /-- The current directory. -/
  here : Path
  deriving Repr, DecidableEq

/-- The cells of a row of the terminal. -/
def terminalWidth : Nat := 80

namespace Ending

/-- The end of a run that shows some parts in turn, up to the first that cannot be shown. -/
def showing (fs : FileSystem) (err : List Char) (finish : Finish) : List Shown → Ending
  | [] => { err, finish, files := fs }
  | .error fault :: _ => { err, finish := .failed (.markup fault), files := fs }
  | .ok text :: rest =>
      let e := showing fs err finish rest
      { e with out := text ++ e.out }

/-- The end of a run that a stop breaks off. -/
def stopped (fs : FileSystem) (out err : List Char) (s : Stop) : Ending :=
  { out, err, finish := .failed (.stop s), files := fs }

/-- The end of a run that its user interrupts. -/
def interrupted (fs : FileSystem) : Ending :=
  .showing fs [] (.code 1)
    [say terminalWidth "\n[bold red]Terminated by user.[/bold red]".toList]

/-- The end of a run whose user does not agree. -/
def cancelled (fs : FileSystem) : Ending :=
  .showing fs [] (.code 1)
    [say terminalWidth "[bold red]Operation cancelled by user.[/bold red]".toList]

end Ending

/-! ## One text -/

/-- What a notice says on success, and its title on failure. -/
def noticeWords : Mode → String × String × String
  | .check => ("Valid YAML", "No syntax errors found", "Invalid YAML")
  | .format => ("Success", "YAML formatted successfully", "Error")
  | .fix => ("Auto-fixed", "Fixed tabs, indentation, and syntax errors", "Cannot auto-fix")

namespace Work

/-- The options of an operation. -/
def options (w : Work) : Options :=
  { resetListOnBlank := w.resetOnBlank }

/-- What is asked of each file. -/
def request (w : Work) : Request :=
  { mode := w.mode, write := w.write, force := w.force }

/-- What is shown of one text. -/
def parts (w : Work) (name given : List Char) (outcome : Outcome) : List Shown :=
  let result := (outcome.text?).getD given
  let isCheck := w.mode == .check
  if w.raw then [.ok (if isCheck then [] else result)]
  else
    let (success, description, failure) := noticeWords w.mode
    (if w.showChanges && !isCheck then [changes terminalWidth name given result] else []) ++
      (if isCheck then []
        else [output terminalWidth
          (if outcome.ok then "Output" else "Best-effort output").toList result]) ++
      [diagnostic terminalWidth outcome,
        if outcome.ok then notice terminalWidth true success.toList description.toList
        else notice terminalWidth false failure.toList outcome.message]

/-- What a raw run says of a text that is at fault, beside what it shows. -/
def rawMessage (w : Work) (outcome : Outcome) : List Char :=
  if w.raw && !outcome.ok then outcome.message ++ ['\n'] else []

/-- The end of work on the text of the standard input. -/
def onText (w : Work) (verbose : Bool) (fs : FileSystem) (given : List Char) : Ending :=
  let text := Text.unifyBreaks given
  let notes := Journal.written verbose (Journal.ofOperation w.options text w.mode)
  match w.mode.apply w.options text with
  | .error abort => .stopped fs [] notes (.aborted abort)
  | .ok outcome =>
      .showing fs (notes ++ w.rawMessage outcome) (.code (if outcome.ok then 0 else 1))
        (w.parts "<stdin>".toList text outcome)

/-! ## Consent -/

/-- Whether the user has to agree first. -/
def needsConsent (w : Work) : Bool :=
  w.write && !w.yes

/-- What the user is asked. -/
def prompt (count : Nat) : List Char :=
  if count = 1 then "\nApply changes to this file? (y/N): ".toList
  else "Type 'CONFIRM' to modify ".toList ++ decimal count ++ " files: ".toList

/-- Whether a line agrees. -/
def agrees (count : Nat) (line : List Char) : Bool :=
  if count = 1 then Text.toSmall line == ['y'] else line == "CONFIRM".toList

/-- A run that needs consent for so many files before it goes on. -/
def withConsent (w : Work) (fs : FileSystem) (count : Nat) (goOn : Unit → Ending) : Session :=
  if w.needsConsent then
    .question (prompt count) fun
      | .interrupted => .interrupted fs
      | .given none => { finish := .failed .endOfInput, files := fs }
      | .given (some line) => if agrees count line then goOn () else .cancelled fs
  else .ended (goOn ())

/-! ## Files -/

/-- What is shown of a file after its text. -/
def writtenParts (place : Path) (p : Processed) : List Shown :=
  if p.written then
    [say terminalWidth ("[green]Wrote ".toList ++ place.text ++ "[/green] (backup: ".toList ++
      p.backup.getD "None".toList ++ [')'])]
  else
    match p.writeError with
    | some e => [say terminalWidth ("[bold red]Write failed:[/bold red] ".toList ++ e)]
    | none => []

/-- The end of work on one file. -/
def onFile (w : Work) (verbose : Bool) (fs : FileSystem) (ws : Workspace) (place : Path) :
    Ending :=
  let notes := Journal.written verbose (Journal.ofFile ws fs place.name w.mode)
  match ws.process fs place.name w.request with
  | (.error stop, fs) => .stopped fs [] notes stop
  | (.ok (.failed _ failure), fs) =>
      .showing fs notes (.code 1) [notice terminalWidth false "Error".toList failure.message]
  | (.ok (.processed p), fs) =>
      .showing fs (notes ++ w.rawMessage p.outcome)
        (.code (if p.outcome.ok && p.writeError.isNone then 0 else 1))
        (w.parts place.name p.given p.outcome ++ writtenParts place p)

/-- The changes of a file, if another text came out. -/
def changeParts (w : Work) : FileReport → List Shown
  | .processed p =>
      match p.healed? with
      | some text => if w.showChanges then [changes terminalWidth p.path p.given text] else []
      | none => []
  | .failed _ _ => []

/-- The end of work on the files of a directory. -/
def onFiles (w : Work) (verbose : Bool) (fs : FileSystem) (ws : Workspace)
    (targets : List Path) : Ending :=
  let scanned := ws.forEach
    (fun (fs, notes) path =>
      let now := notes ++ Journal.ofFile ws fs path w.mode
      let (result, fs) := ws.process fs path w.request
      (result, (fs, now)))
    (fs, []) targets
  let (fs, notes) := scanned.state
  let reports := scanned.reports
  let err := Journal.written verbose notes
  let progress :=
    Terminal.gauge "Processing files...".toList reports.length targets.length ++ ['\n']
  match scanned.stop with
  | some stop => .stopped fs progress err stop
  | none =>
      .showing fs err (.code (if reports.all FileReport.success then 0 else 1))
        (.ok progress :: reports.flatMap w.changeParts ++
          [conclusion terminalWidth (reports.map Entry.ofReport) (.ofReports reports)])

/-- Work on the files of a directory. -/
def inDirectory (w : Work) (verbose : Bool) (fs : FileSystem) (place : Path) : Session :=
  match Workspace.at_ fs w.options place with
  | .error stop => .ended (.stopped fs [] [] stop)
  | .ok ws =>
      match ws.discover fs w.extension Workspace.defaultDepth with
      | .error stop => .ended (.stopped fs [] [] stop)
      | .ok [] =>
          .ended (.showing fs [] (.code 0)
            [say terminalWidth
              "\n[bold yellow]⚠\uFE0F  No matching YAML files found.[/bold yellow]".toList])
      | .ok targets => w.withConsent fs targets.length fun _ => w.onFiles verbose fs ws targets

/-- Work on one file. -/
def inFile (w : Work) (verbose : Bool) (fs : FileSystem) (place : Path) : Session :=
  match Workspace.at_ fs w.options place.parent with
  | .error stop => .ended (.stopped fs [] [] stop)
  | .ok ws => w.withConsent fs 1 fun _ => w.onFile verbose fs ws place

end Work

/-! ## Runs -/

/-- Removes old backups in a directory. -/
def cleaned (fs : FileSystem) (directory : Path) (hours : Binary64) : Ending :=
  match Workspace.at_ fs {} directory with
  | .error stop => .stopped fs [] [] stop
  | .ok ws =>
      let (n, fs) := ws.cleanup fs hours
      .showing fs [] (.code 0)
        [say terminalWidth ("[green]Removed ".toList ++ decimal n ++
          " backup(s)[/green] older than ".toList ++ hours.brief ++ "h in ".toList ++
          directory.text)]

/-- What a command does at a path that leads somewhere. -/
def Command.at_ (c : Command) (verbose : Bool) (fs : FileSystem) (place : Path) : Session :=
  match fs.isDirectory place with
  | .error fault => .ended (.stopped fs [] [] (.file fault))
  | .ok isDirectory =>
      match c with
      | .clean _ hours => .ended (cleaned fs (if isDirectory then place else place.parent) hours)
      | .work w =>
          if isDirectory then w.inDirectory verbose fs place else w.inFile verbose fs place

/-- The path that a command was given. -/
def Command.path : Command → List Char
  | .work w => w.path
  | .clean path _ => path

/-- Whether the text of a command comes from the standard input. -/
def Command.reads : Command → Bool
  | .work w => w.path == ['-']
  | .clean _ _ => false

/-- The run of a command at the path it was given. -/
def Command.onPath (c : Command) (verbose : Bool) (s : Surroundings) : Session :=
  let fs := s.files
  match Workspace.settled fs ((WrittenPath.ofText c.path).fromDirectory s.here) with
  | .error stop => .ended (.stopped fs [] [] stop)
  | .ok place =>
      match fs.isPresent place with
      | .error fault => .ended (.stopped fs [] [] (.file fault))
      | .ok false =>
          .ended (.showing fs [] (.code 2)
            [say terminalWidth ("[bold red]Error:[/bold red] Path '".toList ++ c.path ++
              "' not found.".toList)])
      | .ok true => c.at_ verbose fs place

/-- The run of a command. -/
def Command.session (c : Command) (verbose : Bool) (s : Surroundings) : Session :=
  match c with
  | .work w =>
      if c.reads then
        .reading fun
          | .interrupted => .interrupted s.files
          | .given text => w.onText verbose s.files text
      else c.onPath verbose s
  | .clean _ _ => c.onPath verbose s

namespace Session

/-- The run of the program under some arguments. -/
def ofArguments (s : Surroundings) (arguments : List (List Char)) : Session :=
  match Invocation.ofArguments arguments with
  | .command verbose c => c.session verbose s
  | .idle => .ended { out := programHelp, finish := .code 2, files := s.files }
  | .shown text => .ended { out := text, finish := .code 0, files := s.files }
  | .refused text => .ended { err := text, finish := .code 2, files := s.files }

/-- The first line of a text; none when there is no text. -/
def firstLine (text : List Char) : Option (List Char) :=
  if text.isEmpty then none else some ((Text.unifyBreaks text).takeWhile (· != '\n'))

/-- What a run comes to under some input. -/
def run (input : Input (List Char)) : Session → Ending
  | .ended e => e
  | .reading read => read input
  | .question prompt answered =>
      let e := answered (match input with
        | .interrupted => .interrupted
        | .given text => .given (firstLine text))
      { e with out := prompt ++ e.out }

end Session
end CommandLine
end YamlTidy
