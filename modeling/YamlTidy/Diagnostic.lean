/-!
# Diagnostics

A `Position` is a place in a text as a reader counts it, from line 1 and column 1.  A `Diagnostic`
is a message with the place it speaks of, if there is one, and `Diagnostic.describe` is the form in
which it is shown.  The operations on a text end in an `Outcome`.
-/

namespace YamlTidy

/-- A place in a text, counted from line 1 and column 1. -/
structure Position where
  line : Int
  column : Int
  deriving Repr, DecidableEq

/-- What is wrong, and where. -/
structure Diagnostic where
  message : List Char
  position : Option Position := none
  deriving Repr, DecidableEq

/-- An integer in decimal. -/
def decimal (n : Int) : List Char :=
  (toString n).toList

/-- The message with the place behind it, when the place is known. -/
def Diagnostic.describe (d : Diagnostic) : List Char :=
  match d.position with
  | none => d.message
  | some p =>
      d.message ++ " (line ".toList ++ decimal p.line ++ ", col ".toList ++
        decimal p.column ++ [')']

/-- How an operation on a text ends. -/
inductive Outcome where
  /-- The text parses; nothing was produced. -/
  | valid
  /-- The text in canonical form. -/
  | formatted (text : List Char)
  /-- The text does not parse.  `text` is the best text at hand. -/
  | invalid (text : List Char) (message : List Char) (position : Option Position)
  deriving Repr, DecidableEq

namespace Outcome

/-- Whether the operation succeeded. -/
def ok : Outcome → Bool
  | .invalid .. => false
  | _ => true

/-- The text an outcome carries, if it carries one. -/
def text? : Outcome → Option (List Char)
  | .valid => none
  | .formatted t => some t
  | .invalid t _ _ => some t

/-- The message of a failure; nothing on success. -/
def message : Outcome → List Char
  | .invalid _ m _ => m
  | _ => []

/-- The position of a failure, if it has one. -/
def position : Outcome → Option Position
  | .invalid _ _ p => p
  | _ => none

end Outcome
end YamlTidy
