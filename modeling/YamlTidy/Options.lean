/-!
# Options of one repair
-/

namespace YamlTidy

/-- What a caller may choose for one repair or one formatting. -/
structure Options where
  /-- Columns per level: where a list item stands under its key, and in the canonical layout. -/
  indent : Int := 2
  /-- Whether a blank line ends the run of list items before it. -/
  resetListOnBlank : Bool := false
  /-- The width at which the canonical layout wraps; none and zero leave lines unwrapped. -/
  lineWidth : Option Int := none
  /-- Whether quoted scalars keep their quotes.  Every scalar style is kept either way. -/
  preserveQuotes : Bool := true
  deriving Repr, DecidableEq

end YamlTidy
