import YamlTidy.Yaml.Node
import YamlTidy.Yaml.Token.Stream

/-!
# From tokens to nodes

Each function below reads one construct from a token stream: a node, the entries of a collection, a
document.  Comments on tokens that make no node of their own, such as dashes and colons, are moved
to the token behind, so that they reach a node in the end.

The functions on nodes recurse on a bound for the nesting, and a document nested beyond `depthLimit`
is rejected as one that is nested too deeply.
-/

namespace YamlTidy
namespace Yaml

/-- How deeply collections may be nested.

The number stands for the limit that a run puts on calls within calls, 1000 by default.  That
limit is counted in calls and not in levels: it holds for the calls that are open around the
reading, too, and a level takes two of them where a list is read and about four where a table is
built.  So there is no number of levels that is right for all documents: up to 100 are always
read, from 700 on the document is always rejected, and in between it depends on the collections
and on the caller.  The number lies between the two. -/
def depthLimit : Nat := 300

/-- What is known while a stream is read. -/
structure ParseState where
  tokens : TokenStream
  /-- The tag handles of the document and what they stand for. -/
  handles : List (List Char × List Char) := []
  /-- The version that the last version directive asked for. -/
  version : Option (Nat × Nat) := none
  /-- The anchors of the document and the nodes they stand for. -/
  anchors : List (List Char × Nat) := []
  /-- The number of nodes in the document so far. -/
  count : Nat := 0

/-- Reading from a token stream. -/
abbrev Parse := StateT ParseState (Except Fault)

namespace Parse

/-- Fails. -/
def fail {α : Type} (fault : Fault) : Parse α :=
  fun _ => .error fault

/-- The next token. -/
def peek : Parse Token := fun s =>
  s.tokens.peek.map fun t => (t, s)

/-- The kind of the next token. -/
def peekKind : Parse TokenKind := fun s =>
  s.tokens.peek.map fun t => (t.kind, s)

/-- Passes the next token. -/
def next : Parse Token := fun s =>
  s.tokens.next.map fun (t, tokens) => (t, { s with tokens })

/-- Puts other comments on the next token. -/
def setComments (comments : Option Comments) : Parse Unit := fun s =>
  .ok ((), { s with tokens := s.tokens.setComments comments })

/-- The number of a new node. -/
def fresh : Parse Nat := fun s =>
  .ok (s.count, { s with count := s.count + 1 })

/-- The version of the document. -/
def version : Parse (Nat × Nat) := fun s =>
  .ok (s.version.getD (1, 2), s)

/-- Lets an anchor stand for a node. -/
def anchorNode (anchor : Option (List Char)) (id : Nat) : Parse Unit := fun s =>
  match anchor with
  | none => .ok ((), s)
  | some a => .ok ((), { s with anchors := (a, id) :: s.anchors })

/-- The comments of a token joined to those of the one behind it.  `afterColon` says that the token
is a colon with a value behind it. -/
def joinComments (c : Comments) (afterColon : Bool) : Option Comments → Except Fault Comments
  | none => .ok (if afterColon then { c with afterColon := some c.behind } else c)
  | some d =>
      if (c.behind.isSome && d.behind.isSome) || (!c.before.isEmpty && !d.before.isEmpty) then
        .error (.aborted (.commentsMeet (c.shown ++ ' ' :: d.shown)))
      else
        .ok { d with
          behind := c.behind <|> d.behind
          before := if c.before.isEmpty then d.before else c.before }

/-- Moves the comments of a token to the one behind it, and says whether they moved.  The end of the
text and the start of a document take none. -/
def moveComments (t : Token) (afterColon : Bool) : Parse Bool := do
  let target ← peek
  match t.comments, target.kind with
  | none, _ => pure false
  | _, .streamEnd => pure false
  | _, .documentStart => pure false
  | some c, _ =>
      match joinComments c afterColon target.comments with
      | .error fault => fail fault
      | .ok joined => do
          setComments (some joined)
          pure true

/-- The comments of a token as comments in front of the end of a collection. -/
def endComments (finish : Option Comments) (info : NodeInfo) : NodeInfo :=
  match finish with
  | some { before := x :: more, .. } =>
      let c := info.comments.getD {}
      if c.afterColon.isSome then info
      else { info with comments := some { c with atEnd := some (x :: more) } }
  | _ => info

/-- The comments of a flow collection: those behind its bracket, if there are any, else its own. -/
def flowComments (finish : Option Comments) (info : NodeInfo) : NodeInfo :=
  match finish with
  | none => info
  | some c => endComments finish { info with comments := some { c with before := [] } }

/-- Rejects a version whose schema is not known, when a plain scalar is met. -/
def checkVersion : Parse Unit := fun s =>
  match s.version with
  | some (1, 1) => .ok ((), s)
  | some (1, 2) => .ok ((), s)
  | none => .ok ((), s)
  | some (major, minor) =>
      let shown := '(' :: decimal major ++ ", ".toList ++ decimal minor ++ [')']
      .error (.rejected (.unconvertible shown) none)

/-- A scalar that is not written. -/
def emptyScalar (mark : Mark) (comments : Option Comments) : Parse Node := do
  let id ← fresh
  checkVersion
  pure (.scalar { id, tag := .ofCore .null, start := mark, comments } [] .plain [])

/-- The full name of a written tag. -/
def tagName (handles : List (List Char × List Char)) (handle : Option (List Char))
    (suffix : List Char) : Option (List Char) :=
  match handle with
  | none => some (decodeUri suffix)
  | some h => (handles.lookup h).map (· ++ decodeUri suffix)

/-- What is written in front of a node. -/
structure Properties where
  anchor : Option (List Char) := none
  tag : Option Tag := none
  /-- Where the node begins, and where its tag does. -/
  start : Option Mark := none
  tagStart : Option Mark := none

/-- The tag that a token stands for. -/
def tagOf (p : Properties) (handle : Option (List Char)) (suffix : List Char) :
    Parse Properties := fun s =>
  match tagName s.handles handle suffix with
  | some name => .ok ({ p with tag := some { handle, suffix, name } }, s)
  | none => .ok ({ p with tag := some { handle, suffix, name := [] } }, s)

/-- The anchor and the tag in front of a node, in either order. -/
def properties : Parse Properties := do
  match (← peek).kind with
  | .anchor name => do
      let t ← next
      let _ ← moveComments t false
      let p : Properties := { anchor := some name, start := some t.start }
      match (← peek).kind with
      | .tag handle suffix => do
          let t ← next
          tagOf { p with tagStart := some t.start } handle suffix
      | _ => pure p
  | .tag handle suffix => do
      let t ← next
      let target ← peek
      match t.comments with
      | none => pure ()
      | some c =>
          match target.kind, joinComments c false target.comments with
          | .streamEnd, _ => pure ()
          | .documentStart, _ => pure ()
          | _, .error _ => pure ()
          | _, .ok joined => setComments (some joined)
      let p ← tagOf { start := some t.start, tagStart := some t.start } handle suffix
      match (← peek).kind with
      | .anchor name => do
          let t ← next
          let _ ← moveComments t false
          pure { p with anchor := some name, start := some t.start, tagStart := some t.start }
      | _ => pure p
  | _ => pure {}

/-- Rejects a tag whose handle was not declared. -/
def checkHandle (p : Properties) : Parse Unit := fun s =>
  match p.tag with
  | some { handle := some h, .. } =>
      if (s.handles.lookup h).isSome then .ok ((), s)
      else .error (.rejected (.undefinedHandle h) (p.tagStart <|> p.start))
  | _ => .ok ((), s)

/-- The tag of a collection: the written one, or the one of its kind. -/
def collectionTag (p : Properties) (core : CoreTag) : Tag :=
  match p.tag with
  | none => .ofCore core
  | some t => if t.name == ['!'] then .ofCore core else t

/-- The tag of a scalar: the written one, or what its text means when it is plain. -/
def scalarTag (version : Nat × Nat) (p : Properties) (style : ScalarStyle) (text : List Char) :
    Tag :=
  let resolved := Tag.ofCore (Schema.resolve (version == (1, 1)) text)
  match p.tag with
  | none => if style = .plain then resolved else .ofCore .str
  | some t => if t.name == ['!'] then resolved else t

/-- Reads `item` as long as it yields something. -/
def many {α : Type} (item : Parse (Option α)) : Nat → Parse (List α)
  | 0 => pure []
  | n + 1 => do
      match ← item with
      | none => pure []
      | some x => do
          let rest ← many item n
          pure (x :: rest)

/-- One of the kinds of token. -/
def isKey : TokenKind → Bool
  | .key => true
  | _ => false

/-- The colon. -/
def isValue : TokenKind → Bool
  | .value => true
  | _ => false

/-- The dash. -/
def isEntry : TokenKind → Bool
  | .blockEntry => true
  | _ => false

/-- The end of a block collection. -/
def isBlockEnd : TokenKind → Bool
  | .blockEnd => true
  | _ => false

/-- The comma. -/
def isComma : TokenKind → Bool
  | .flowEntry => true
  | _ => false

/-- The end of a flow sequence. -/
def isSequenceEnd : TokenKind → Bool
  | .flowSequenceEnd => true
  | _ => false

/-- The end of a flow mapping. -/
def isMappingEnd : TokenKind → Bool
  | .flowMappingEnd => true
  | _ => false

/-- The number of tokens left, as a bound for the entries of a collection. -/
def bound : TokenStream → Nat
  | .more _ _ rest => bound rest + 2
  | _ => 2

/-- The bound for the entries of the collection that begins here. -/
def entryBound : Parse Nat := fun s =>
  .ok (bound s.tokens, s)

/-- What kind of node may stand at a place. -/
structure Place where
  /-- Whether block collections may stand there. -/
  block : Bool
  /-- Whether dashes there begin a sequence without an indent of its own. -/
  indentless : Bool := false

/-- An item of a block sequence. -/
def blockItem (node : Place → Parse Node) : Parse (Option Node) := do
  let kind ← peekKind
  if isEntry kind then do
    let t ← next
    let _ ← moveComments t false
    let kind ← peekKind
    if isEntry kind || isBlockEnd kind then some <$> emptyScalar t.stop none
    else some <$> node { block := true }
  else if isBlockEnd kind then pure none
  else do
    let t ← peek
    fail (.at (.blockCollectionEnd t.kind.name) t.start)

/-- An item of a sequence without an indent of its own. -/
def indentlessItem (node : Place → Parse Node) : Parse (Option Node) := do
  let kind ← peekKind
  if isEntry kind then do
    let t ← next
    let _ ← moveComments t false
    let kind ← peekKind
    if isEntry kind || isKey kind || isValue kind || isBlockEnd kind then
      some <$> emptyScalar t.stop none
    else some <$> node { block := true }
  else pure none

/-- The value behind a key of a block mapping. -/
def blockValue (node : Place → Parse Node) : Parse Node := do
  if isValue (← peekKind) then do
    let t ← next
    let kind ← peekKind
    let moved ←
      if isValue kind then moveComments t false
      else if isKey kind then pure false
      else moveComments t true
    let kind ← peekKind
    if isKey kind || isValue kind || isBlockEnd kind then do
      match (if moved then none else t.comments) with
      | some c => emptyScalar t.stop (some c)
      | none => do
          let target ← peek
          match target.comments with
          | none => emptyScalar target.stop none
          | some c => do
              setComments (some { c with behind := none, afterColon := none })
              emptyScalar target.stop (some { behind := c.behind })
    else node { block := true, indentless := true }
  else do
    let t ← peek
    emptyScalar t.start none

/-- An entry of a block mapping. -/
def blockEntry (node : Place → Parse Node) : Parse (Option (Node × Node)) := do
  let kind ← peekKind
  if isKey kind then do
    let t ← next
    let _ ← moveComments t false
    let kind ← peekKind
    let key ←
      if isKey kind || isValue kind || isBlockEnd kind then emptyScalar t.stop none
      else node { block := true, indentless := true }
    let value ← blockValue node
    pure (some (key, value))
  else if isValue kind && (← version) != (1, 1) then do
    let t ← peek
    let key ← emptyScalar t.start none
    let value ← blockValue node
    pure (some (key, value))
  else if isBlockEnd kind then pure none
  else do
    let t ← peek
    fail (.at (.blockMappingEnd t.kind.name) t.start)

/-- The value of a pair in a flow sequence. -/
def pairValue (node : Place → Parse Node) : Parse Node := do
  if isValue (← peekKind) then do
    let t ← next
    let kind ← peekKind
    if isComma kind || isSequenceEnd kind then emptyScalar t.stop none
    else node { block := false }
  else do
    let t ← peek
    emptyScalar t.start none

/-- An item of a flow sequence. -/
def flowItem (node : Place → Parse Node) : Parse Node := do
  if isKey (← peekKind) then do
    let t ← peek
    let id ← fresh
    let t' ← next
    let kind ← peekKind
    let key ←
      if isValue kind || isComma kind || isSequenceEnd kind then emptyScalar t'.stop none
      else node { block := false }
    let value ← pairValue node
    let _ ← peek
    pure (.mapping { id, tag := .ofCore .map, start := t.start } true [(key, value)])
  else node { block := false }

/-- The items of a flow sequence behind the first place. -/
def flowItems (node : Place → Parse Node) : Bool → Nat → Parse (List Node)
  | _, 0 => pure []
  | first, n + 1 => do
      if isSequenceEnd (← peekKind) then pure []
      else do
        if !first then
          if isComma (← peekKind) then
            let _ ← next
          else
            let t ← peek
            fail (.at (.flowSequenceNext t.kind.name) t.start)
        let kind ← peekKind
        if !isKey kind && isSequenceEnd kind then pure []
        else do
          let item ← flowItem node
          let rest ← flowItems node false n
          pure (item :: rest)

/-- The value behind a key of a flow mapping. -/
def flowValue (node : Place → Parse Node) : Parse Node := do
  if isValue (← peekKind) then do
    let t ← next
    let kind ← peekKind
    if isComma kind || isMappingEnd kind then emptyScalar t.stop none
    else node { block := false }
  else do
    let t ← peek
    emptyScalar t.start none

/-- An entry of a flow mapping. -/
def flowEntry (node : Place → Parse Node) : Parse (Node × Node) := do
  let kind ← peekKind
  if isKey kind then do
    let t ← next
    let kind ← peekKind
    let key ←
      if isValue kind || isComma kind || isMappingEnd kind then emptyScalar t.stop none
      else node { block := false }
    let value ← flowValue node
    pure (key, value)
  else if isValue kind && (← version) != (1, 1) then do
    let t ← peek
    let key ← emptyScalar t.stop none
    let value ← flowValue node
    pure (key, value)
  else do
    let key ← node { block := false }
    let t ← peek
    let value ← emptyScalar t.start none
    pure (key, value)

/-- The entries of a flow mapping behind the first place. -/
def flowEntries (node : Place → Parse Node) : Bool → Nat → Parse (List (Node × Node))
  | _, 0 => pure []
  | first, n + 1 => do
      if isMappingEnd (← peekKind) then pure []
      else do
        if !first then
          if isComma (← peekKind) then
            let _ ← next
          else
            let t ← peek
            fail (.at (.flowMappingNext t.kind.name) t.start)
        let kind ← peekKind
        if !isKey kind && isMappingEnd kind then pure []
        else do
          let entry ← flowEntry node
          let rest ← flowEntries node false n
          pure (entry :: rest)

/-- The comments in front of a block sequence that it keeps.  Without any in front, the one behind
goes with the sequence. -/
def sequenceComments (t : Token) : Parse (Option Comments) :=
  match t.comments with
  | none => pure none
  | some c =>
      if !c.before.isEmpty then pure (some c)
      else do
        setComments none
        pure (c.behind.map fun b => { behind := some b })

/-- The node at a place.  `depth` bounds how deeply collections in it may be nested. -/
def node : Nat → Place → Parse Node
  | depth, place => do
      match (← peekKind) with
      | .reference name => do
          let t ← next
          let _ ← moveComments t false
          fun s =>
            match s.anchors.lookup name with
            | some id => .ok (.reference id, s)
            | none => .error (.at (.undefinedAlias name) t.start)
      | _ => do
          let p ← properties
          checkHandle p
          let t ← peek
          let start := p.start.getD t.start
          let info (tag : Tag) (comments : Option Comments) : Parse NodeInfo := do
            let id ← fresh
            anchorNode p.anchor id
            pure { id, tag, anchor := p.anchor, start, comments }
          let collection (read : (Place → Parse Node) → Parse Node) : Parse Node :=
            match depth with
            | 0 => fail (.rejected .nestedTooDeeply none)
            | depth + 1 => read (node depth)
          match t.kind with
          | .blockEntry =>
              if place.indentless then
                collection fun node => do
                  let comments ←
                    match t.comments with
                    | some { behind := some b, before, afterColon, atEnd } => do
                        setComments (some { behind := none, before, afterColon, atEnd })
                        pure (some ({ behind := some b } : Comments))
                    | _ => pure none
                  let info ← info (collectionTag p .seq) comments
                  let items ← many (indentlessItem node) (← entryBound)
                  let last ← peek
                  match last.comments with
                  | some c => setComments (some { c with before := [] })
                  | none => pure ()
                  pure (.sequence (endComments last.comments info) false items)
              else missing place p start t
          | .scalar text style folds => do
              let t ← next
              if style = .plain && p.tag.isNone then checkVersion
              let info ← info (scalarTag (← version) p style text) t.comments
              pure (.scalar info text style folds)
          | .flowSequenceStart =>
              collection fun node => do
                let info ← info (collectionTag p .seq) t.comments
                let _ ← next
                let items ← flowItems node true (← entryBound)
                let last ← next
                pure (.sequence (flowComments last.comments info) true items)
          | .flowMappingStart =>
              collection fun node => do
                let info ← info (collectionTag p .map) t.comments
                let _ ← next
                let entries ← flowEntries node true (← entryBound)
                let last ← next
                pure (.mapping (flowComments last.comments info) true entries)
          | .blockSequenceStart =>
              if place.block then
                collection fun node => do
                  let comments ← sequenceComments t
                  let info ← info (collectionTag p .seq) comments
                  let _ ← next
                  let items ← many (blockItem node) (← entryBound)
                  let last ← next
                  pure (.sequence (endComments last.comments info) false items)
              else missing place p start t
          | .blockMappingStart =>
              if place.block then
                collection fun node => do
                  let info ← info (collectionTag p .map) t.comments
                  let _ ← next
                  let entries ← many (blockEntry node) (← entryBound)
                  let last ← next
                  let moved ← moveComments last false
                  pure (.mapping (endComments (if moved then none else last.comments) info) false
                    entries)
              else missing place p start t
          | _ => missing place p start t
where
  /-- A place without content: an empty scalar if there are properties, else a fault. -/
  missing (place : Place) (p : Properties) (start : Mark) (t : Token) : Parse Node := do
    if p.anchor.isSome || p.tag.isSome then do
      let id ← fresh
      anchorNode p.anchor id
      let tag := match p.tag with
        | none => Tag.ofCore .null
        | some tag => if tag.name == ['!'] then .ofCore .null else tag
      pure (.scalar { id, tag, anchor := p.anchor, start } [] .plain [])
    else fail (.at (.nodeContent place.block t.kind.name) t.start)

/-- The tag handles that need no directive. -/
def defaultHandles : List (List Char × List Char) :=
  [(['!'], ['!']), (['!', '!'], coreStem)]

/-- The directives in front of a document. -/
def directives : Nat → Option (Nat × Nat) → List (List Char × List Char) → Parse Unit
  | 0, _, _ => pure ()
  | n + 1, version, handles => do
      match (← peek).kind with
      | .directive d => do
          let t ← next
          match d with
          | .version major minor =>
              if version.isSome then fail (.at .duplicateVersion t.start)
              else if major != 1 then fail (.at .incompatibleVersion t.start)
              else directives n (some (major, minor)) handles
          | .tag handle uri =>
              if (handles.lookup handle).isSome then fail (.at (.duplicateHandle handle) t.start)
              else directives n version (handles ++ [(handle, uri)])
          | .other => directives n version handles
      | _ => fun s => .ok ((), { s with version, handles := handles ++ defaultHandles })

/-- Passes document end markers. -/
def skipEnds : Nat → Parse Unit
  | 0 => pure ()
  | n + 1 => do
      match ← peekKind with
      | .documentEnd => do
          let _ ← next
          skipEnds n
      | _ => pure ()

/-- What ends the node of a document that has none. -/
def endsDocument : TokenKind → Bool
  | .directive _ => true
  | .documentStart => true
  | .documentEnd => true
  | .streamEnd => true
  | _ => false

/-- The root of a document, and the marker behind it.  Says whether there was a marker. -/
def documentBody (explicit : Bool) : Parse (Node × Bool) := do
  let t ← peek
  let root ←
    if explicit && endsDocument t.kind then emptyScalar t.start none
    else node depthLimit { block := true }
  match (← peek).kind with
  | .documentEnd => do
      let marker ← next
      let t ← peek
      match t.kind with
      | .streamEnd => pure (root, true)
      | _ =>
          if marker.stop.line == t.start.line then
            fail (.at (.afterDocumentEnd t.kind.name) t.start)
          else pure (root, true)
  | _ => pure (root, false)

/-- Whether a document without markers may begin. -/
inductive Expected where
  | implicitDocument
  | explicitDocument

/-- The next document, if there is one, and what may follow it. -/
def document (expected : Expected) : Parse (Option (NodeDocument × Expected)) := do
  let kind ← peekKind
  let implicit : Bool := match expected, kind with
    | .implicitDocument, .directive _ => false
    | .implicitDocument, .documentStart => false
    | .implicitDocument, .streamEnd => false
    | .implicitDocument, _ => true
    | .explicitDocument, _ => false
  if !implicit then skipEnds (← entryBound)
  match (← peekKind), implicit with
  | .streamEnd, false => pure none
  | _, _ => do
      if implicit then
        fun s => .ok ((), { s with handles := defaultHandles })
      else
        directives (← entryBound) none []
        let t ← peek
        match t.kind with
        | .documentStart =>
            let _ ← next
        | _ => fail (.at (.documentStart t.kind.name) t.start)
      fun s => .ok ((), { s with anchors := [], count := 0 })
      let (root, marked) ← documentBody (!implicit)
      let version ← version
      pure (some ({ root, version },
        if marked && version != (1, 1) then .implicitDocument else .explicitDocument))

end Parse

/-- Reads documents one after another. -/
def NodeStream.read : Nat → Parse.Expected → ParseState → NodeStream
  | 0, _, _ => .done
  | n + 1, expected, s =>
      match Parse.document expected s with
      | .error fault => .broken fault
      | .ok (none, _) => .done
      | .ok (some (d, expected), s) => .more d (read n expected s)

/-- The documents of a text. -/
def NodeStream.ofText (text : List Char) : NodeStream :=
  match unacceptable? text with
  | some fault => .broken fault
  | none =>
      let tokens := TokenStream.ofText text
      match (Parse.next { tokens } : Except Fault (Token × ParseState)) with
      | .error fault => .broken fault
      | .ok (_, s) => read (Parse.bound tokens) .implicitDocument s

end Yaml
end YamlTidy
