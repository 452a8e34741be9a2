import YamlTidy.Yaml.Cursor

/-!
# Tokens

The tokens of a YAML text and the comments between them.  A `Lexeme` is either; the lexer yields
lexemes, and `TokenStream` hands the comments over to the tokens they belong to.
-/

namespace YamlTidy
namespace Yaml

/-- How a scalar is written. -/
inductive ScalarStyle where
  | plain
  | singleQuoted
  | doubleQuoted
  | literal
  | folded
  deriving Repr, DecidableEq, Inhabited

/-- A directive line. -/
inductive Directive where
  | version (major minor : Nat)
  | tag (handle uri : List Char)
  | other
  deriving Repr, DecidableEq

/-- What a token is. -/
inductive TokenKind where
  | streamStart
  | streamEnd
  | directive (d : Directive)
  | documentStart
  | documentEnd
  | blockSequenceStart
  | blockMappingStart
  | blockEnd
  | flowSequenceStart
  | flowMappingStart
  | flowSequenceEnd
  | flowMappingEnd
  | key
  | value
  | blockEntry
  | flowEntry
  | reference (name : List Char)
  | anchor (name : List Char)
  /-- A tag as written: its handle, if it has one, and the rest. -/
  | tag (handle : Option (List Char)) (suffix : List Char)
  /-- A scalar with its text, its style and the places at which a folded text was broken. -/
  | scalar (text : List Char) (style : ScalarStyle) (folds : List Nat)
  deriving Repr, DecidableEq, Inhabited

/-- The name of a kind of token in messages. -/
def TokenKind.name : TokenKind → String
  | .streamStart => "<stream start>"
  | .streamEnd => "<stream end>"
  | .directive _ => "<directive>"
  | .documentStart => "<document start>"
  | .documentEnd => "<document end>"
  | .blockSequenceStart => "<block sequence start>"
  | .blockMappingStart => "<block mapping start>"
  | .blockEnd => "<block end>"
  | .flowSequenceStart => "["
  | .flowMappingStart => "\x7b"
  | .flowSequenceEnd => "]"
  | .flowMappingEnd => "\x7d"
  | .key => "?"
  | .value => ":"
  | .blockEntry => "-"
  | .flowEntry => ","
  | .reference _ => "<alias>"
  | .anchor _ => "<anchor>"
  | .tag _ _ => "<tag>"
  | .scalar _ _ _ => "<scalar>"

/-- A comment, or a stretch of blank lines that is kept like one, and where it began. -/
structure Comment where
  text : List Char
  mark : Mark
  deriving Repr, DecidableEq, Inhabited

/-- What is kept in front of something: a comment with a place of its own, or the comment in the
header of a block scalar, which has none. -/
inductive Leading where
  | comment (c : Comment)
  | header (text : List Char)
  deriving Repr, DecidableEq

/-- Whether it is the comment in a header. -/
def Leading.isHeader : Leading → Bool
  | comment _ => false
  | header _ => true

/-- The comments that belong to a token or to what is made of it. -/
structure Comments where
  /-- The comment behind it. -/
  behind : Option Comment := none
  /-- The comments in front of it. -/
  before : List Leading := []
  /-- Set when the comments came from the colon in front: the comment that stays behind it. -/
  afterColon : Option (Option Comment) := none
  /-- The comments at the end of a collection, in front of what closes it. -/
  atEnd : Option (List Leading) := none
  deriving Repr, DecidableEq, Inhabited

/-- How a comment is shown in a message. -/
def Comment.shown (c : Comment) : List Char :=
  "CommentToken(".toList ++ Text.quote c.text ++ ", line: ".toList ++ decimal c.mark.line ++
    ", col: ".toList ++ decimal c.mark.column ++ [')']

/-- How a comment in front is shown in a message. -/
def Leading.shown : Leading → List Char
  | .comment c => c.shown
  | .header text => Text.quote text

/-- How the comments of a token are shown in a message. -/
def Comments.shown (c : Comments) : List Char :=
  let one (x : Option Comment) : List Char := (x.map Comment.shown).getD "None".toList
  let front :=
    if c.before.isEmpty then "None".toList
    else '[' :: ", ".toList.intercalate (c.before.map Leading.shown) ++ [']']
  let tail := match c.afterColon with
    | none => []
    | some x => ", None, None, ".toList ++ one x
  '[' :: one c.behind ++ ", ".toList ++ front ++ tail ++ [']']

/-- A token with the stretch of text it was read from and the comments it carries. -/
structure Token where
  kind : TokenKind
  start : Mark
  stop : Mark
  comments : Option Comments := none
  deriving Repr, DecidableEq, Inhabited

/-- A token or a comment between tokens. -/
inductive Lexeme where
  | token (t : Token)
  | comment (c : Comment)
  deriving Repr, DecidableEq

end Yaml
end YamlTidy
