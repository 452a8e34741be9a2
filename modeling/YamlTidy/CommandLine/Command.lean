import YamlTidy.CommandLine.Grammar
import YamlTidy.Text.Case
import YamlTidy.Workspace
import YamlTidy.Yaml.Scalar.Real

/-!
# Commands

`Invocation.ofArguments` reads the arguments of the program: a command with its settings, a text to
show, or what is wrong.  The arguments behind the name of a command are its own.
-/

namespace YamlTidy
namespace CommandLine

open Text

/-- Work on one text, one file, or the files of a directory. -/
structure Work where
  mode : Mode
  /-- A file, a directory, or a hyphen for the standard input. -/
  path : List Char
  extension : List Char := ".yaml".toList
  /-- Whether to show the text that comes out and nothing else. -/
  raw : Bool := false
  write : Bool := false
  showChanges : Bool := false
  /-- Whether the user agrees to writing beforehand. -/
  yes : Bool := false
  force : Bool := false
  resetOnBlank : Bool := false
  deriving Repr, DecidableEq

/-- What the program is asked to do. -/
inductive Command where
  | work (w : Work)
  /-- Removes the backups of a directory that are older than some hours. -/
  | clean (path : List Char) (hours : Binary64)
  deriving Repr, DecidableEq

/-- What some arguments come to. -/
inductive Invocation where
  /-- A command, and whether all that happens is logged. -/
  | command (verbose : Bool) (c : Command)
  /-- The program without a command. -/
  | idle
  /-- A text to show instead. -/
  | shown (text : List Char)
  /-- A text that says what is wrong. -/
  | refused (text : List Char)
  deriving Repr, DecidableEq

/-- The words for the commands. -/
inductive CommandWord where
  | mode (m : Mode)
  | clean
  deriving Repr, DecidableEq

namespace CommandWord

/-- The word itself. -/
def name : CommandWord → String
  | mode m => m.name
  | clean => "clean"

/-- The command a word stands for. -/
def ofName? (s : List Char) : Option CommandWord :=
  match Mode.ofName? (String.ofList s) with
  | some m => some (.mode m)
  | none => if s = "clean".toList then some .clean else none

/-- All commands. -/
def all : List CommandWord :=
  [.mode .check, .mode .format, .mode .fix, .clean]

end CommandWord

/-! ## Flags -/

def helpFlag : Flag :=
  { setting := .help, names := ["-h", "--help"] }

/-- The arguments of the program. -/
def programGrammar : Grammar :=
  { flags := [helpFlag, { setting := .version, names := ["-v", "--version"] },
      { setting := .verbose, names := ["--verbose"] }]
    operandTakesRest := true }

/-- The flags of all commands that work on texts. -/
def commonFlags : List Flag :=
  [helpFlag, { setting := .extension, names := ["--ext"], takesValue := true },
    { setting := .raw, names := ["--raw"] }]

/-- The flags of the commands that can write. -/
def writeFlags : List Flag :=
  [{ setting := .write, names := ["-w", "--write"] },
    { setting := .showChanges, names := ["--diff"] },
    { setting := .yes, names := ["-y", "--yes"] }]

/-- The arguments of a command. -/
def CommandWord.grammar : CommandWord → Grammar
  | mode .check => { flags := commonFlags }
  | mode .format => { flags := commonFlags ++ writeFlags }
  | mode .fix =>
      { flags := commonFlags ++ writeFlags ++
          [{ setting := .force, names := ["--force"] },
            { setting := .resetOnBlank, names := ["--reset-on-blank"] }] }
  | clean =>
      { flags := [helpFlag, { setting := .maxAge, names := ["--max-age"], takesValue := true }] }

/-! ## Texts -/

/-- Rows as a text with a line feed behind each. -/
def lineText (rows : List String) : List Char :=
  (rows.flatMap fun row => row.toList ++ ['\n'])

def programUsage : List String :=
  ["usage: yamlmend [-h] [-v] [--verbose] Command ..."]

def programHelp : List Char :=
  lineText (programUsage ++
    ["", "YamlMend - YAML validator, formatter & auto-fixer", "", "positional arguments:",
      "  Command", "    check        🔍 Validate YAML (read-only)",
      "    format       ✨ Canonically format valid YAML",
      "    fix          ❤\uFE0F Auto-fix malformed YAML",
      "    clean        🧹 Remove old .yamlmend.backup files", "", "options:",
      "  -h, --help     show this help message and exit",
      "  -v, --version  show program's version number and exit",
      "  --verbose      Enable debug logging"])

def versionText : List Char :=
  "yamlmend v1.0.0\n".toList

/-- How a command is used. -/
def CommandWord.usage : CommandWord → List String
  | mode .check => ["usage: yamlmend check [-h] [--ext EXT] [--raw] path"]
  | mode .format =>
      ["usage: yamlmend format [-h] [--ext EXT] [--raw] [-w] [--diff] [-y] path"]
  | mode .fix =>
      ["usage: yamlmend fix [-h] [--ext EXT] [--raw] [-w] [--diff] [-y] [--force]",
        "                    [--reset-on-blank]", "                    path"]
  | clean => ["usage: yamlmend clean [-h] [--max-age HOURS] path"]

/-- What the arguments of a command mean, each with its words. -/
def CommandWord.meanings : CommandWord → (String × List (String × String))
  | mode m =>
      ("Path to a YAML file or directory, or '-' for stdin",
        [("-h, --help", "show this help message and exit"),
          ("--ext EXT", "File extension filter (default: .yaml)"),
          ("--raw", "Print output text only (for piping)")] ++
        (if m = .check then [] else
          [("-w, --write", "Write results back to disk"),
            ("--diff", "Show a diff of proposed changes"),
            ("-y, --yes", "Skip the confirmation prompt")]) ++
        (if m = .fix then
          [("--force", "Write best-effort text even when the fix is still invalid"),
            ("--reset-on-blank", "End a list run at a blank line")] else []))
  | clean =>
      ("Directory to clean recursively",
        [("-h, --help", "show this help message and exit"),
          ("--max-age HOURS", "Only remove backups older than HOURS (default: 168)")])

/-- The help of a command. -/
def CommandWord.help (c : CommandWord) : List Char :=
  let (path, flags) := c.meanings
  let column := flags.foldl (fun most (words, _) => max most words.length) 0 + 2
  let row (words meaning : String) : String :=
    "  " ++ words ++ "".pushn ' ' (column - words.length) ++ meaning
  lineText (c.usage ++ ["", "positional arguments:", row "path" path, "", "options:"] ++
    flags.map fun (words, meaning) => row words meaning)

/-- What is wrong, behind how the program is used. -/
def programFault (message : List Char) : Invocation :=
  .refused (lineText programUsage ++ "yamlmend: error: ".toList ++ message ++ ['\n'])

/-- What is wrong, behind how a command is used. -/
def CommandWord.fault (c : CommandWord) (message : List Char) : Invocation :=
  .refused (lineText c.usage ++ ("yamlmend " ++ c.name ++ ": error: ").toList ++
    message ++ ['\n'])

/-! ## Reading -/

/-- Without the underscores that stand between two digits. -/
def withoutSeparators : Option Char → List Char → List Char
  | _, [] => []
  | before, '_' :: d :: rest =>
      if (before.map Char.isDigit).getD false && d.isDigit then
        d :: withoutSeparators (some d) rest
      else '_' :: d :: withoutSeparators (some d) rest
  | _, c :: rest => c :: withoutSeparators (some c) rest

/-- The hours that a text stands for. -/
def hours? (s : List Char) : Option Binary64 :=
  Yaml.WrittenReal.number? (toSmall (withoutSeparators none (s.map numberChar)))

/-- What the arguments of a command have set so far. -/
structure Settings where
  given : List Setting := []
  path : Option (List Char) := none
  extension : List Char := ".yaml".toList
  hours : Binary64 := Workspace.defaultAge
  /-- The arguments that have no place, the last one first. -/
  leftOver : List (List Char) := []
  deriving Repr, DecidableEq

namespace Settings

/-- Whether something is set. -/
def has (s : Settings) (x : Setting) : Bool :=
  s.given.contains x

end Settings

/-- The text of an operand: two hyphens in front of it or behind it are no part of it. -/
def operandText (arguments : List (List Char)) : List Char :=
  ((arguments.erase ['-', '-']).head?).getD []

/-- What the steps for a command's arguments set, or a text that ends the reading. -/
def CommandWord.settings (c : CommandWord) (s : Settings) :
    List Step → Except Invocation Settings
  | [] => .ok s
  | .fault f :: _ => .error (c.fault f.message)
  | .leftOver a :: rest => c.settings { s with leftOver := a :: s.leftOver } rest
  | .operand as :: rest => c.settings { s with path := some (operandText as) } rest
  | .set f value :: rest =>
      match f.setting with
      | .help => .error (.shown c.help)
      | .extension => c.settings { s with extension := value } rest
      | .maxAge =>
          match hours? value with
          | some h => c.settings { s with hours := h } rest
          | none =>
              .error (c.fault
                ("argument --max-age: invalid float value: ".toList ++ quote value))
      | x => c.settings { s with given := x :: s.given } rest

/-- The command that some settings make. -/
def CommandWord.command (c : CommandWord) (s : Settings) (path : List Char) : Command :=
  match c with
  | clean => .clean path s.hours
  | mode m =>
      .work
        { mode := m, path, extension := s.extension, raw := s.has .raw, write := s.has .write
          showChanges := s.has .showChanges, yes := s.has .yes, force := s.has .force
          resetOnBlank := s.has .resetOnBlank }

/-- What the arguments of a command come to, behind arguments of the program that have no place. -/
def CommandWord.invocation (c : CommandWord) (verbose : Bool) (strays : List (List Char))
    (arguments : List (List Char)) : Invocation :=
  match c.settings {} (c.grammar.steps arguments) with
  | .error i => i
  | .ok s =>
      match s.path with
      | none => c.fault "the following arguments are required: path".toList
      | some path =>
          match strays ++ s.leftOver.reverse with
          | [] => .command verbose (c.command s path)
          | all => programFault ("unrecognized arguments: ".toList ++ [' '].intercalate all)

namespace Invocation

/-- What is wrong with a word that stands for no command. -/
def unknownCommand (word : List Char) : Invocation :=
  programFault ("argument Command: invalid choice: ".toList ++ quote word ++
    " (choose from ".toList ++
    ", ".toList.intercalate (CommandWord.all.map fun c => quote c.name.toList) ++ [')'])

/-- What the steps for the program's arguments come to.  `strays` have no place, the last one
first. -/
def ofSteps (verbose : Bool) (strays : List (List Char)) : List Step → Invocation
  | [] =>
      match strays.reverse with
      | [] => .idle
      | all => programFault ("unrecognized arguments: ".toList ++ [' '].intercalate all)
  | .fault f :: _ => programFault f.message
  | .leftOver a :: rest => ofSteps verbose (a :: strays) rest
  | .set f _ :: rest =>
      match f.setting with
      | .help => .shown programHelp
      | .version => .shown versionText
      | _ => ofSteps true strays rest
  | .operand [] :: rest => ofSteps verbose strays rest
  | .operand (word :: arguments) :: _ =>
      match CommandWord.ofName? word with
      | some c => c.invocation verbose strays.reverse arguments
      | none => unknownCommand word

/-- What the arguments of the program come to. -/
def ofArguments (arguments : List (List Char)) : Invocation :=
  ofSteps false [] (programGrammar.steps arguments)

end Invocation
end CommandLine
end YamlTidy
