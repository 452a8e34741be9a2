import YamlTidy.Text.Digit
import YamlTidy.Text.Quoted

/-!
# Arguments of a command line

A `Grammar` says which flags there are and whether one operand stands for everything behind it.
`Grammar.steps` reads arguments in order.  A long flag may be shortened as long as it is no other
one, its value may follow an equals sign, and flags of one letter may share a hyphen.  Two hyphens
make everything behind them operands.

What is wrong with the arguments is a step like any other, since the steps in front of it are taken
first.
-/

namespace YamlTidy
namespace CommandLine

open Text

/-- What a flag sets. -/
inductive Setting where
  | help
  | version
  | verbose
  | extension
  | raw
  | write
  | showChanges
  | yes
  | force
  | resetOnBlank
  | maxAge
  deriving Repr, DecidableEq

/-- A flag. -/
structure Flag where
  setting : Setting
  names : List String
  takesValue : Bool := false
  deriving Repr, DecidableEq

/-- The name of a flag in messages. -/
def Flag.title (f : Flag) : List Char :=
  ("/".intercalate f.names).toList

/-- What may stand in some arguments. -/
structure Grammar where
  flags : List Flag
  /-- Whether the operand takes all arguments behind it. -/
  operandTakesRest : Bool := false
  deriving Repr, DecidableEq

/-- What is wrong with some arguments. -/
inductive ArgumentFault where
  /-- A shortened flag that may be several. -/
  | ambiguous (given : List Char) (names : List String)
  /-- A value for a flag that takes none. -/
  | ignoredValue (flag : Flag) (value : List Char)
  | missingValue (flag : Flag)
  deriving Repr, DecidableEq

/-- The wording of a fault. -/
def ArgumentFault.message : ArgumentFault → List Char
  | ambiguous given names =>
      "ambiguous option: ".toList ++ given ++ " could match ".toList ++
        (", ".intercalate names).toList
  | ignoredValue flag value =>
      "argument ".toList ++ flag.title ++ ": ignored explicit argument ".toList ++ quote value
  | missingValue flag => "argument ".toList ++ flag.title ++ ": expected one argument".toList

/-- What stands behind the name of a flag in the same argument: whether it follows an equals sign,
and its text. -/
structure Attached where
  bySign : Bool
  text : List Char
  deriving Repr, DecidableEq

/-- What one argument is. -/
inductive Word where
  | operand
  /-- Two hyphens. -/
  | separator
  | flag (flag : Flag) (name : List Char) (attached : Option Attached)
  | unknownFlag
  deriving Repr, DecidableEq

/-- Digits up to the end of a text or to a line feed at its end. -/
def areDigits (s : List Char) : Bool :=
  let ds := s.takeWhile isDecimalDigit
  !ds.isEmpty && (ds.length == s.length || s.drop ds.length == ['\n'])

/-- Whether a text is a negative number, which is no flag. -/
def isNegativeNumber : List Char → Bool
  | '-' :: rest =>
      areDigits rest ||
        match rest.dropWhile isDecimalDigit with
        | '.' :: fraction => areDigits fraction
        | _ => false
  | _ => false

namespace Grammar

/-- The names of all flags with their flags. -/
def names (g : Grammar) : List (String × Flag) :=
  g.flags.flatMap fun f => f.names.map fun n => (n, f)

/-- The flag with a name. -/
def flag? (g : Grammar) (name : List Char) : Option Flag :=
  (g.names.find? fun (n, _) => n.toList == name).map Prod.snd

/-- A text in front of its first equals sign, and what stands behind the sign. -/
def atSign (s : List Char) : List Char × Option Attached :=
  let front := s.takeWhile (· != '=')
  (front, if front.length < s.length then some ⟨true, s.drop (front.length + 1)⟩ else none)

/-- The flags that an argument may be short for. -/
def candidates (g : Grammar) (s : List Char) : List (String × Flag × Option Attached) :=
  match s with
  | '-' :: '-' :: _ =>
      let (front, attached) := atSign s
      (g.names.filter fun (n, _) => front.isPrefixOf n.toList).map fun (n, f) => (n, f, attached)
  | _ =>
      (g.names.filter fun (n, _) => n.toList == s.take 2).map fun (n, f) =>
        (n, f, some ⟨false, s.drop 2⟩)

/-- What one argument is, unless it may be several flags. -/
def word (g : Grammar) (s : List Char) : Except ArgumentFault Word :=
  match s with
  | '-' :: _ :: _ =>
      match g.flag? s with
      | some f => .ok (.flag f s none)
      | none =>
          let (front, attached) := atSign s
          match g.flag? front, attached with
          | some f, some a => .ok (.flag f front (some a))
          | _, _ =>
              match g.candidates s with
              | [(n, f, a)] => .ok (.flag f n.toList a)
              | [] =>
                  .ok (if isNegativeNumber s || s.contains ' ' then .operand else .unknownFlag)
              | several => .error (.ambiguous s (several.map Prod.fst))
  | _ => .ok .operand

/-- What each argument is.  Behind two hyphens there are only operands. -/
def words (g : Grammar) : List (List Char) → Except ArgumentFault (List (List Char × Word))
  | [] => .ok []
  | s :: rest =>
      if s = ['-', '-'] then .ok ((s, .separator) :: rest.map fun t => (t, .operand))
      else
        match g.word s with
        | .error fault => .error fault
        | .ok w => (words g rest).map ((s, w) :: ·)

end Grammar

/-- A step in reading arguments. -/
inductive Step where
  | set (flag : Flag) (value : List Char)
  /-- The operand, with what it takes of the arguments behind it. -/
  | operand (arguments : List (List Char))
  /-- An argument that has no place. -/
  | leftOver (argument : List Char)
  | fault (fault : ArgumentFault)
  deriving Repr, DecidableEq

/-- The flags of one argument, and what becomes of the argument behind them. -/
structure Cluster where
  steps : List Step
  /-- The flag that waits for a value. -/
  waiting : Option Flag := none
  deriving Repr, DecidableEq

namespace Grammar

/-- A cluster with one more step in front.  A cluster that ends in a fault is nothing else. -/
def behind (first : Step) (c : Cluster) : Cluster :=
  match c.steps with
  | [.fault _] => c
  | steps => { c with steps := first :: steps }

/-- A flag alone. -/
def alone (f : Flag) : Cluster :=
  if f.takesValue then ⟨[], some f⟩ else ⟨[.set f []], none⟩

/-- A flag with what is attached to it.  `isShort` tells whether more flags of one letter may
follow. -/
def cluster (g : Grammar) (f : Flag) (isShort bySign : Bool) : List Char → Cluster
  | [] =>
      if f.takesValue then ⟨[.set f []], none⟩ else ⟨[.fault (.ignoredValue f [])], none⟩
  | c :: rest =>
      if f.takesValue then ⟨[.set f (c :: rest)], none⟩
      else if !isShort || bySign || c = '-' then ⟨[.fault (.ignoredValue f (c :: rest))], none⟩
      else
        match g.flag? ['-', c] with
        | none => ⟨[.leftOver ('-' :: c :: rest), .set f []], none⟩
        | some next =>
            match rest with
            | [] => behind (.set f []) (alone next)
            | '=' :: value => behind (.set f []) (cluster g next true true value)
            | d :: more => behind (.set f []) (cluster g next true false (d :: more))

/-- The flags of one argument. -/
def clusterOf (g : Grammar) (f : Flag) (name : List Char) : Option Attached → Cluster
  | none => alone f
  | some a => cluster g f (name[1]? != some '-') a.bySign a.text

/-- The arguments that the operand takes along: two hyphens behind it, or all of them. -/
def taken (g : Grammar) (rest : List (List Char × Word)) : Nat :=
  if g.operandTakesRest then rest.length
  else
    match rest with
    | (_, .separator) :: _ => 1
    | _ => 0

/-- The steps for arguments whose kinds are known.  `open_` tells whether the operand is still to
come, and `skip` arguments were taken along. -/
def stepsFrom (g : Grammar) (open_ : Bool) (skip : Nat) : List (List Char × Word) → List Step
  | [] => []
  | (s, w) :: rest =>
      match skip with
      | n + 1 => stepsFrom g open_ n rest
      | 0 =>
          match w with
          | .unknownFlag => .leftOver s :: stepsFrom g open_ 0 rest
          | .flag f name attached =>
              let c := g.clusterOf f name attached
              match c.waiting, rest with
              | none, _ => c.steps ++ stepsFrom g open_ 0 rest
              | some flag, (value, .operand) :: _ =>
                  c.steps ++ .set flag value :: stepsFrom g open_ 1 rest
              | some flag, _ => [.fault (.missingValue flag)]
          | .separator =>
              match rest with
              | (_, .operand) :: more =>
                  if open_ then
                    let n := 1 + g.taken more
                    .operand (s :: (rest.take n).map Prod.fst) :: stepsFrom g false n rest
                  else .leftOver s :: stepsFrom g open_ 0 rest
              | _ => .leftOver s :: stepsFrom g open_ 0 rest
          | .operand =>
              if open_ then
                let n := g.taken rest
                .operand (s :: (rest.take n).map Prod.fst) :: stepsFrom g false n rest
              else .leftOver s :: stepsFrom g open_ 0 rest

/-- The steps for some arguments. -/
def steps (g : Grammar) (arguments : List (List Char)) : List Step :=
  match g.words arguments with
  | .error fault => [.fault fault]
  | .ok ws => g.stepsFrom true 0 ws

end Grammar
end CommandLine
end YamlTidy
