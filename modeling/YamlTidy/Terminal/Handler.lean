import YamlTidy.Terminal.Literal
import YamlTidy.Text.Blank
import YamlTidy.Text.Letter

/-!
# Parameters of handlers

A tag that starts with an at sign names a handler for what stands up to its closing tag.  Behind
an equals sign there may be a name with literals between parentheses, or a literal alone, which
are read when the tag is closed.
-/

namespace YamlTidy
namespace Terminal
namespace Handler

open Text

/-- The literals among parameters: what stands between the parentheses behind a name, with them. -/
def literals (parameters : List Char) : List Char :=
  let s := strip parameters
  match s.dropWhile fun c => isNameChar c || c == '.' with
  | [] => ['(', ')']
  | '(' :: rest =>
      if rest.getLast? == some ')' && !rest.contains '\n' then '(' :: rest else s
  | _ => s

/-- Whether parameters can be read.  Nothing is read where there are none. -/
def canBeRead (parameters : List Char) : Bool :=
  parameters.isEmpty || Literal.isOneOf (literals parameters)

end Handler
end Terminal
end YamlTidy
