import YamlTidy.Yaml.Token.Gap
import YamlTidy.Yaml.Token.Plain
import YamlTidy.Yaml.Token.Flow
import YamlTidy.Yaml.Token.Block
import YamlTidy.Yaml.Token.Property

/-!
# From a text to its lexemes

A `Lexer` reads one token after another.  Indentation opens and closes block collections, and a key
in front of a colon is found out only at the colon: every token that may begin such a *simple key*
is remembered as a candidate, and the key indicator is put in front of it afterwards.

Main definitions:

* `Lexer.fetch`, which reads the next token or comment;
* `lex`, which reads a whole text, to its end or to its first fault.

Tokens behind a candidate that is still open cannot be known for certain, so `Lexed.settled` counts
those before the first such candidate.
-/

namespace YamlTidy
namespace Yaml

/-- A token that may turn out to begin a simple key. -/
structure Candidate where
  /-- The number of flow collections around it. -/
  level : Nat
  /-- Its place among the lexemes. -/
  place : Nat
  /-- Whether it must be a key, since it stands in the column of the block mapping around it. -/
  required : Bool
  index : Nat
  mark : Mark
  deriving Repr, DecidableEq

/-- A text read up to some place. -/
structure Lexer where
  cursor : Cursor
  /-- The lexemes read, last first. -/
  read : List Lexeme := []
  count : Nat := 0
  /-- The opening brackets of the flow collections around the cursor, innermost first. -/
  flow : List Char := []
  /-- The column of the innermost block collection, and those around it. -/
  indent : Int := -1
  indents : List Int := []
  keyAllowed : Bool := true
  candidates : List Candidate := []
  version11 : Bool := false
  /-- Whether the version directive of the document to come asks for YAML 1.1. -/
  nextVersion11 : Bool := false
  finished : Bool := false

namespace Lexer

/-- The number of flow collections around the cursor. -/
def level (l : Lexer) : Nat :=
  l.flow.length

/-- Whether the cursor is inside a flow collection. -/
def inFlow (l : Lexer) : Bool :=
  !l.flow.isEmpty

/-- Adds a lexeme at the end. -/
def push (l : Lexer) (x : Lexeme) : Lexer :=
  { l with read := x :: l.read, count := l.count + 1 }

/-- Adds a token at the end. -/
def pushToken (l : Lexer) (t : Token) : Lexer :=
  l.push (.token t)

/-- Adds a token that takes no room at the cursor. -/
def pushMark (l : Lexer) (kind : TokenKind) : Lexer :=
  l.pushToken { kind, start := l.cursor.mark, stop := l.cursor.mark }

/-- Adds a token of `width` characters and moves behind it. -/
def pushWide (l : Lexer) (kind : TokenKind) (width : Nat) : Lexer :=
  let c := l.cursor.advance width
  { l.pushToken { kind, start := l.cursor.mark, stop := c.mark } with cursor := c }

/-- Adds a token in front of the lexeme at `place`. -/
def insertAt (l : Lexer) (place : Nat) (t : Token) : Lexer :=
  let behind := l.count - place
  { l with
    read := l.read.take behind ++ .token t :: l.read.drop behind
    count := l.count + 1 }

/-- Drops the candidates that can no longer be keys, since their line is over or they are too long.
It is a fault if one of them had to be a key. -/
def dropStale (l : Lexer) : Except Fault Lexer :=
  let stale (k : Candidate) : Bool :=
    k.mark.line != l.cursor.line || decide (l.cursor.index - k.index > 1024)
  if l.candidates.any fun k => stale k && k.required then
    .error (.at .keyWithoutColon l.cursor.mark)
  else .ok { l with candidates := l.candidates.filter fun k => !stale k }

/-- Drops the candidate of the innermost collection.  It is a fault if it had to be a key. -/
def dropCandidate (l : Lexer) : Except Fault Lexer :=
  let level := l.level
  if l.candidates.any fun k => k.level == level && k.required then
    .error (.at .keyWithoutColon l.cursor.mark)
  else .ok { l with candidates := l.candidates.filter fun k => k.level != level }

/-- Remembers the token that begins at the cursor as a candidate, where one is allowed. -/
def saveCandidate (l : Lexer) : Except Fault Lexer :=
  if !l.keyAllowed then .ok l
  else do
    let required := !l.inFlow && l.indent == (l.cursor.column : Int)
    let l ← l.dropCandidate
    pure { l with
      candidates :=
        { level := l.level, place := l.count, required, index := l.cursor.index,
          mark := l.cursor.mark } :: l.candidates }

/-- Closes the block collections that are indented deeper than `column`. -/
def unwind (column : Int) : List Int → Lexer → Lexer
  | outer :: more, l =>
      if !l.inFlow && column < l.indent then
        unwind column more { l.pushMark .blockEnd with indent := outer, indents := more }
      else l
  | [], l => l

/-- Closes the block collections that are indented deeper than `column`. -/
def unwindTo (l : Lexer) (column : Int) : Lexer :=
  unwind column l.indents l

/-- Opens a block collection at `column` unless one is open there, and says whether it did. -/
def openAt (l : Lexer) (column : Nat) : Option Lexer :=
  if l.indent < (column : Int) then
    some { l with indent := column, indents := l.indent :: l.indents }
  else none

/-- A document marker. -/
def fetchMarker (l : Lexer) (kind : TokenKind) : Except Fault Lexer := do
  let l ← (l.unwindTo (-1)).dropCandidate
  pure ({ l with keyAllowed := false }.pushWide kind 3)

/-- The end of the text. -/
def fetchEnd (l : Lexer) : Except Fault Lexer := do
  let l ← (l.unwindTo (-1)).dropCandidate
  pure { l.pushMark .streamEnd with keyAllowed := false, candidates := [], finished := true }

/-- A directive. -/
def fetchDirective (l : Lexer) : Except Fault Lexer := do
  let l ← (l.unwindTo (-1)).dropCandidate
  let (t, c) ← l.cursor.directiveToken l.version11
  let next := match t.kind with
    | .directive (.version 1 1) => true
    | .directive (.version _ _) => false
    | _ => l.nextVersion11
  pure { l.pushToken t with cursor := c, keyAllowed := false, nextVersion11 := next }

/-- An opening bracket. -/
def fetchOpen (l : Lexer) (kind : TokenKind) : Except Fault Lexer := do
  let bracket := l.cursor.head
  let l ← l.saveCandidate
  pure { l.pushWide kind 1 with flow := bracket :: l.flow, keyAllowed := true }

/-- A closing bracket. -/
def fetchClose (l : Lexer) (kind : TokenKind) : Except Fault Lexer := do
  let l ← l.dropCandidate
  pure { l.pushWide kind 1 with flow := l.flow.tail, keyAllowed := false }

/-- A comma. -/
def fetchComma (l : Lexer) : Except Fault Lexer := do
  let l ← { l with keyAllowed := true }.dropCandidate
  pure (l.pushWide .flowEntry 1)

/-- A dash in front of an item. -/
def fetchDash (l : Lexer) : Except Fault Lexer := do
  let l ←
    if l.inFlow then pure l
    else if !l.keyAllowed then throw (.at .sequenceNotHere l.cursor.mark)
    else
      match l.openAt l.cursor.column with
      | some l => pure (l.pushMark .blockSequenceStart)
      | none => pure l
  let l ← { l with keyAllowed := true }.dropCandidate
  pure (l.pushWide .blockEntry 1)

/-- A question mark in front of a key. -/
def fetchQuestion (l : Lexer) : Except Fault Lexer := do
  let l ←
    if l.inFlow then pure l
    else if !l.keyAllowed then throw (.at .keyNotHere l.cursor.mark)
    else
      match l.openAt l.cursor.column with
      | some l => pure (l.pushMark .blockMappingStart)
      | none => pure l
  let l ← { l with keyAllowed := !l.inFlow }.dropCandidate
  pure (l.pushWide .key 1)

/-- A colon.  It makes a key of the innermost candidate, if there is one. -/
def fetchColon (l : Lexer) : Except Fault Lexer :=
  let level := l.level
  match l.candidates.find? fun k => k.level == level with
  | some k => do
      let l := { l with candidates := l.candidates.filter fun k => k.level != level }
      let l := l.insertAt k.place { kind := .key, start := k.mark, stop := k.mark }
      let l :=
        if l.inFlow then l
        else
          match l.openAt k.mark.column with
          | some l =>
              l.insertAt k.place { kind := .blockMappingStart, start := k.mark, stop := k.mark }
          | none => l
      pure ({ l with keyAllowed := false }.pushWide .value 1)
  | none => do
      if !l.inFlow && !l.keyAllowed then throw (.at .valueNotHere l.cursor.mark)
      let l :=
        if l.inFlow then l
        else
          match l.openAt l.cursor.column with
          | some l => l.pushMark .blockMappingStart
          | none => l
      let l ← { l with keyAllowed := !l.inFlow }.dropCandidate
      pure (l.pushWide .value 1)

/-- An anchor, an alias, a tag or a quoted scalar. -/
def fetchWith (l : Lexer) (scan : Cursor → Except Fault (Token × Cursor)) :
    Except Fault Lexer := do
  let l ← l.saveCandidate
  let (t, c) ← scan l.cursor
  pure { l.pushToken t with cursor := c, keyAllowed := false }

/-- A block scalar. -/
def fetchBlock (l : Lexer) (folded : Bool) : Except Fault Lexer := do
  let l ← l.dropCandidate
  let b ← l.cursor.blockScalar folded l.indent
  pure { l.pushToken b.token with cursor := b.cursor, keyAllowed := b.keyAllowed }

/-- What the rules of a plain scalar at the cursor depend on. -/
def plainContext (l : Lexer) : PlainContext :=
  { inFlow := l.inFlow, version11 := l.version11, indent := l.indent + 1 }

/-- A plain scalar. -/
def fetchPlain (l : Lexer) : Except Fault Lexer := do
  let l ← l.saveCandidate
  let (t, s) := l.plainContext.token l.cursor
  pure { l.pushToken t with cursor := s.cursor, keyAllowed := s.brokenLine }

/-- Whether the last token read is a colon. -/
def lastIsColon (l : Lexer) : Bool :=
  match l.read with
  | .token { kind := .value, .. } :: _ => true
  | _ => false

/-- Whether the colon under the cursor is an indicator.  In a flow sequence and in a block one it
needs a blank behind it, in a flow mapping only right behind another colon. -/
def colonIndicates (l : Lexer) : Bool :=
  let spaced := endsWord (l.cursor.ahead 1)
  match l.flow with
  | [] => spaced
  | bracket :: _ =>
      l.version11 || (if bracket == '[' then spaced else !l.lastIsColon || spaced)

/-- The token at the cursor. -/
def fetchToken (l : Lexer) : Except Fault Lexer :=
  let c := l.cursor
  let spaced := endsWord (c.ahead 1)
  if c.rest.isEmpty then l.fetchEnd
  else if c.column == 0 && c.head == '%' then l.fetchDirective
  else if c.column == 0 && c.head == '-' && c.atMarker then
    (l.fetchMarker .documentStart).map fun l =>
      { l with version11 := l.nextVersion11, nextVersion11 := false }
  else if c.column == 0 && c.head == '.' && c.atMarker then l.fetchMarker .documentEnd
  else
    match c.head with
    | '[' => l.fetchOpen .flowSequenceStart
    | '\x7b' => l.fetchOpen .flowMappingStart
    | ']' => l.fetchClose .flowSequenceEnd
    | '\x7d' => l.fetchClose .flowMappingEnd
    | ',' => l.fetchComma
    | '*' => l.fetchWith Cursor.anchorToken
    | '&' => l.fetchWith Cursor.anchorToken
    | '!' => l.fetchWith (·.tagToken l.version11)
    | '\'' => l.fetchWith (·.quotedToken false)
    | '"' => l.fetchWith (·.quotedToken true)
    | ch =>
        if ch == '-' && spaced then l.fetchDash
        else if ch == '?' && (l.inFlow || spaced) then l.fetchQuestion
        else if ch == ':' && l.colonIndicates then l.fetchColon
        else if ch == '|' && !l.inFlow then l.fetchBlock false
        else if ch == '>' && !l.inFlow then l.fetchBlock true
        else if l.plainContext.begins c then l.fetchPlain
        else .error (.at (.noToken ch) c.mark)

/-- Reads the next comment or the next token with those that go before it. -/
def fetch (l : Lexer) : Except Fault Lexer :=
  let gap := l.cursor.gap l.inFlow l.keyAllowed
  let l := { l with cursor := gap.cursor, keyAllowed := gap.keyAllowed }
  match gap.comment with
  | some c =>
      let text := (c.text.reverse.dropWhile (· == ' ')).reverse
      .ok (l.push (.comment { c with text }))
  | none => do
      let l ← l.dropStale
      (l.unwindTo l.cursor.column).fetchToken

end Lexer

/-- The lexemes of a text. -/
structure Lexed where
  lexemes : List Lexeme
  /-- How many lexemes are certain. -/
  settled : Nat
  /-- Why there are no more, when the end of the text was not reached. -/
  fault : Option Fault

/-- The lexemes before a fault. -/
def Lexer.stopped (l : Lexer) (fault : Fault) : Lexed :=
  { lexemes := l.read.reverse
    settled := l.candidates.foldl (fun n k => min n k.place) l.count
    fault := some fault }

/-- Reads tokens up to the end of the text or to a fault. -/
def Lexer.readAll : Nat → Lexer → Lexed
  | 0, l => { lexemes := l.read.reverse, settled := l.count, fault := none }
  | n + 1, l =>
      if l.finished then { lexemes := l.read.reverse, settled := l.count, fault := none }
      else
        match l.fetch >>= Lexer.dropStale with
        | .error fault => l.stopped fault
        | .ok next => readAll n next

/-- The lexemes of a text.  Every step but the last reads a character, and the first one yields the
start of the stream. -/
def lex (text : List Char) : Lexed :=
  let l : Lexer := { cursor := { rest := text } }
  (l.pushMark .streamStart).readAll (text.length + 2)

end Yaml
end YamlTidy
