import YamlTidy.Yaml.Token.Lexer

/-!
# Tokens with their comments

In a `TokenStream` there are tokens only.  Comments behind a scalar, a colon or a closing bracket
stay with it when they begin on its line, and behind a scalar also when they begin later; all others
belong to the token that follows.

A stream ends with the end of the text or with a fault.  A token is handed out only when the one
behind it has been read, so the last token before a fault is never seen, or is seen and cannot be
passed.
-/

namespace YamlTidy
namespace Yaml

/-- The tokens of a text as far as they can be had. -/
inductive TokenStream where
  /-- The text is over. -/
  | done
  /-- Reading on fails. -/
  | broken (fault : Fault)
  /-- A token that can be seen but not passed. -/
  | glimpse (t : Token) (fault : Fault)
  /-- A token, the comment that stays behind it, and the rest. -/
  | more (t : Token) (behind : Option Comment) (rest : TokenStream)
  deriving Inhabited

namespace TokenStream

/-- Whether comments on the line on which it ends stay behind a token. -/
def holdsComment : TokenKind → Bool
  | .scalar .. => true
  | .value => true
  | .flowSequenceEnd => true
  | .flowMappingEnd => true
  | _ => false

/-- Whether a token is a scalar. -/
def isScalar : TokenKind → Bool
  | .scalar .. => true
  | _ => false

/-- The comments that lexemes begin with, and the other lexemes. -/
def splitComments : List Lexeme → List Comment × List Lexeme
  | .comment c :: rest =>
      let (comments, rest) := splitComments rest
      (c :: comments, rest)
  | rest => ([], rest)

/-- Comments as one, each but the first with the spaces in front of it. -/
def joinComments (first : List Char) (others : List Comment) : List Char :=
  first ++ others.flatMap fun c => List.replicate c.mark.column ' ' ++ c.text

/-- The comment that stays behind a token, if the first of the comments that follow does. -/
def behind? (t : Token) : List Comment → Option Comment
  | [] => none
  | c :: others =>
      if c.mark.line == t.stop.line && holdsComment t.kind then
        some { c with text := joinComments c.text others }
      else if c.mark.line != t.stop.line && isScalar t.kind then
        let first :=
          List.replicate (c.mark.line - t.stop.line) '\n' ++
            List.replicate c.mark.column ' ' ++ c.text
        some { c with text := joinComments first others }
      else none

/-- A token with comments in front of it.  None can be added where there is one already. -/
def withBefore (t : Token) (before : List Comment) : Except Fault Token :=
  if before.isEmpty then .ok t
  else
    let comments := t.comments.getD {}
    if comments.before.isEmpty then
      .ok { t with comments := some { comments with before := before.map .comment } }
    else .error (.aborted .commentLost)

/-- Hands comments over to tokens.  `ending` is the fault that ends the lexemes, and `known` says
whether a token at the very end of them can be seen. -/
def assemble (known : Bool) (ending : Option Fault) :
    Nat → List Comment → List Lexeme → TokenStream
  | 0, _, _ => done
  | n + 1, before, lexemes =>
      let (comments, lexemes) := splitComments lexemes
      match lexemes with
      | .token t :: rest =>
          match withBefore t (before ++ comments) with
          | .error fault => broken fault
          | .ok t =>
              let (comments, after) := splitComments rest
              match ending, after with
              | some fault, [] =>
                  if known then more t none (broken fault)
                  else if comments.isEmpty then broken fault
                  else if (behind? t comments).isSome then glimpse t fault
                  else more t none (broken fault)
              | _, _ =>
                  match behind? t comments with
                  | some c => more t (some c) (assemble known ending n [] after)
                  | none => more t none (assemble known ending n comments after)
      | _ =>
          match ending with
          | some fault => broken fault
          | none => done

/-- The tokens of a text with their comments. -/
def ofLexed (x : Lexed) : TokenStream :=
  match x.fault with
  | none => assemble true none (x.lexemes.length + 1) [] x.lexemes
  | some fault =>
      let certain := x.lexemes.take x.settled
      assemble (x.settled < x.lexemes.length) (some fault) (certain.length + 1) [] certain

/-- The tokens of a text. -/
def ofText (text : List Char) : TokenStream :=
  ofLexed (lex text)

/-- The next token, without passing it. -/
def peek : TokenStream → Except Fault Token
  | done => .ok { kind := .streamEnd, start := default, stop := default }
  | broken fault => .error fault
  | glimpse t _ => .ok t
  | more t _ _ => .ok t

/-- The next token and the stream behind it.  The comment that stays behind a token joins the others
now. -/
def next : TokenStream → Except Fault (Token × TokenStream)
  | done => .ok ({ kind := .streamEnd, start := default, stop := default }, done)
  | broken fault => .error fault
  | glimpse _ fault => .error fault
  | more t none rest => .ok (t, rest)
  | more t (some c) rest =>
      .ok ({ t with comments := some { t.comments.getD {} with behind := some c } }, rest)

/-- The stream with other comments on its next token. -/
def setComments (comments : Option Comments) : TokenStream → TokenStream
  | more t behind rest => more { t with comments } behind rest
  | glimpse t fault => glimpse { t with comments } fault
  | s => s

end TokenStream
end Yaml
end YamlTidy
