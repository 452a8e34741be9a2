import YamlTidy.Terminal.Gauge
import YamlTidy.Terminal.Markup
import YamlTidy.Terminal.Table
import YamlTidy.Text.Difference
import YamlTidy.Workspace

/-!
# Presentation

What a reader sees of the work: the text that came out, the changes, what is wrong, how it ended,
and the table at the end of work on many files.  Titles, messages, names and states may hold
markup, and a fault in it ends a presentation with nothing shown.

Each function gives the text for a terminal of so many cells, with a line feed behind each row.
-/

namespace YamlTidy
namespace Presentation

open Terminal

/-- What is shown, or why nothing can be. -/
abbrev Shown := Except MarkupFault (List Char)

/-- Rows as a text, none of them longer than the terminal is wide. -/
def printed (width : Nat) (rows : List (List Char)) : List Char :=
  rows.flatMap fun row => cropped width row ++ ['\n']

/-- A text with markup on its own. -/
def say (width : Nat) (markup : List Char) : Shown :=
  (plain markup).map fun text => printed width (wrap {} width text)

/-- The title of a panel; an empty text is none. -/
def titleOf (markup : List Char) : Except MarkupFault (Option (List Char)) :=
  if markup.isEmpty then .ok none else (plain markup).map some

/-- A listing under a title. -/
def listed (width : Nat) (title text : List Char) : Shown :=
  (titleOf title).map fun t => printed width (panel width t (listing text))

/-- The text that came out of an operation. -/
def output (width : Nat) (title text : List Char) : Shown :=
  if (Text.strip text).isEmpty then
    say width ("[dim]".toList ++ title ++ ": (empty document)[/dim]".toList)
  else listed width title (text.reverse.dropWhile (· == '\n')).reverse

/-- The changes from one text to another. -/
def changes (width : Nat) (name given final : List Char) : Shown :=
  match Text.unified ("original/".toList ++ name) ("mended/".toList ++ name)
      (Text.lines given) (Text.lines final) with
  | [] => say width ("[dim]No changes needed for ".toList ++ name ++ ".[/dim]".toList)
  | rows => listed width ("Proposed Changes: ".toList ++ name) (Text.joinRows rows)

/-- How an operation ended. -/
def notice (width : Nat) (success : Bool) (title description : List Char) : Shown := do
  let style := (if success then "green" else "red").toList
  let tagged (words text : List Char) : List Char :=
    '[' :: words ++ ']' :: text ++ '[' :: '/' :: words ++ [']']
  let t ← plain (tagged ("bold ".toList ++ style) title)
  let text ← plain ((if success then '✅' else '❌') :: ' ' :: tagged "bold".toList description)
  pure (printed width (fitPanel width t text))

/-- What is wrong with a text; nothing when nothing is. -/
def diagnostic (width : Nat) : Outcome → Shown
  | .invalid _ message _ => do
      let t ← plain "[bold red]Error[/bold red]".toList
      let text ← plain message
      pure (printed width (textPanel width (some t) text))
  | _ => .ok []

/-- What the table at the end tells of a file. -/
structure Entry where
  path : List Char
  status : List Char
  detail : List Char
  success : Bool
  deriving Repr, DecidableEq

/-- What the table at the end tells of a file's report. -/
def Entry.ofReport (r : FileReport) : Entry :=
  let detail := match r with
    | .failed _ failure => failure.message
    | .processed p =>
        if p.outcome.message.isEmpty then p.writeError.getD [] else p.outcome.message
  { path := r.path, status := r.status.toList, detail, success := r.success }

/-- A file's row in the table at the end. -/
def Entry.cells (e : Entry) : List (List Char) :=
  let color := (if e.success then "green" else "red").toList
  [e.path, '[' :: color ++ ']' :: e.status ++ '[' :: '/' :: color ++ [']'], e.detail,
    [if e.success then '✅' else '❌']]

/-- The table of all files; the markup of a column is read before that of the next. -/
def table (entries : List Entry) : Except MarkupFault Table := do
  let column (i : Nat) : Except MarkupFault (List (List Char)) :=
    entries.mapM fun e => plain ((e.cells[i]?).getD [])
  let paths ← column 0
  let states ← column 1
  let details ← column 2
  let marks ← column 3
  pure
    { title := "YamlMend Execution Report".toList
      columns := [⟨"File Path".toList, .left⟩, ⟨"Status".toList, .left⟩,
        ⟨"Detail".toList, .left⟩, ⟨"Result".toList, .center⟩]
      rows := (paths.zip (states.zip (details.zip marks))).map fun (p, s, d, m) => [p, s, d, m] }

/-- The figures of all files. -/
def summaryText (s : Summary) : List Char :=
  let row (label : String) (n : Nat) : List Char :=
    '\n' :: label.toList ++ List.replicate (17 - label.length) ' ' ++ decimal n
  "Summary Report\n".toList ++ bar '═' 40 ++ row "Total Files:" s.total ++
    row "Success:" s.successful ++ row "Invalid:" s.invalid ++
    row "System Errors:" s.systemErrors ++ row "Written:" s.written ++
    row "Backups Created:" s.backups

/-- The end of work on many files. -/
def conclusion (width : Nat) (entries : List Entry) (s : Summary) : Shown :=
  (table entries).map fun t =>
    printed width (t.draw width ++ textPanel width none (summaryText s))

end Presentation
end YamlTidy
