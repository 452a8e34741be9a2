import YamlTidy.Main
import YamlTidy.Yaml.Plain
import YamlTidy.Proofs.Repair.Agreement
import YamlTidy.Proofs.Repair.Columns
import YamlTidy.Proofs.Repair.Surface
import YamlTidy.Proofs.Repair.Rebuilt
import YamlTidy.Proofs.Repair.Outlines
import YamlTidy.Proofs.Repair.ValidTexts
import YamlTidy.Proofs.Repair.States
import YamlTidy.Proofs.Repair.Indents
import YamlTidy.Proofs.Repair.WordLists
import YamlTidy.Proofs.Repair.Commas
import YamlTidy.Proofs.Repair.NormalForm
import YamlTidy.Proofs.Repair.Sections
import YamlTidy.Proofs.Repair.SecondPass
import YamlTidy.Proofs.Repair.Noise
import YamlTidy.Proofs.Repair.Reports
import YamlTidy.Proofs.Repair.Descriptions
import YamlTidy.Proofs.Yaml.Tree
import YamlTidy.Proofs.Yaml.Block
import YamlTidy.Proofs.Yaml.Block.Cursor
import YamlTidy.Proofs.Yaml.Block.Steps
import YamlTidy.Proofs.Yaml.Block.Lexing
import YamlTidy.Proofs.Yaml.Block.Nodes
import YamlTidy.Proofs.Yaml.Block.Values
import YamlTidy.Proofs.Yaml.Block.Layouts
import YamlTidy.Proofs.Yaml.Block.Styles
import YamlTidy.Proofs.Yaml.Block.Written
import YamlTidy.Proofs.Yaml.Block.Canonical
import YamlTidy.Proofs.Yaml.Outline
import YamlTidy.Proofs.Yaml.Outline.Blocks
import YamlTidy.Proofs.Yaml.Ends
import YamlTidy.Proofs.Yaml.Ends.Tokens
import YamlTidy.Proofs.Yaml.Ends.Nodes
import YamlTidy.Proofs.Yaml.Ends.Values
import YamlTidy.Proofs.Yaml.Ends.Layouts
import YamlTidy.Proofs.Yaml.Margin
import YamlTidy.Proofs.Yaml.Pens
import YamlTidy.Proofs.Yaml.Pens.Layouts
import YamlTidy.Proofs.Gate.Verdicts
import YamlTidy.Proofs.Gate.Formatted
import YamlTidy.Proofs.Gate.Dashes
import YamlTidy.Proofs.Files.Walks
import YamlTidy.Proofs.Files.Resolving
import YamlTidy.Proofs.Files.Searches
import YamlTidy.Proofs.Files.Descents
import YamlTidy.Proofs.Workspace.Backups
import YamlTidy.Proofs.Files.Changes
import YamlTidy.Proofs.Workspace.Courses
import YamlTidy.Proofs.Workspace.DryRuns
import YamlTidy.Proofs.Workspace.Sequels
import YamlTidy.Proofs.Workspace.Discovery
import YamlTidy.Proofs.Workspace.Cleanups
import YamlTidy.Proofs.Workspace.Endings
import YamlTidy.Proofs.Workspace.Histories
import YamlTidy.Proofs.Workspace.Effects
import YamlTidy.Proofs.Workspace.Summaries
import YamlTidy.Proofs.Workspace.Sessions
import YamlTidy.Proofs.CommandLine.Consent
import YamlTidy.Proofs.CommandLine.Routes
import YamlTidy.Proofs.Terminal.Markup
import YamlTidy.Proofs.Terminal.Panels
import YamlTidy.Proofs.Terminal.Diagnostics
import YamlTidy.Proofs.Text.CommentRows
import YamlTidy.Proofs.Yaml.Draft
import YamlTidy.Proofs.Yaml.Draft.Lexing
import YamlTidy.Proofs.Yaml.Draft.Nodes
import YamlTidy.Proofs.Gate.Comments
