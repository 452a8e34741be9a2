import YamlTidy.Number.Digits
import YamlTidy.Terminal.Panel

/-!
# Gauges

A gauge shows how much of some work is done: a mark that turns until all is done, what the work
is, a bar, the share in percent, and the time it took.
-/

namespace YamlTidy
namespace Terminal

/-- The cells of a full bar. -/
def gaugeWidth : Nat := 40

/-- The bar for a part of some work, in half cells. -/
def gaugeBar (done total : Nat) : List Char :=
  let halves := if total = 0 then 2 * gaugeWidth else 2 * gaugeWidth * done / total
  fitted gaugeWidth (bar '━' (halves / 2) ++ bar '╸' (halves % 2))

/-- A part of some work in percent, without a fraction and with a half to the even neighbour. -/
def percent (done total : Nat) : List Char :=
  match (Binary64.ofQuotient false done total 0).mul (.ofInt 100) with
  | .finite _ m e => Binary64.fixed m e 0
  | _ => []

/-- The row of a gauge; the time it shows is always zero seconds. -/
def gauge (label : List Char) (done total : Nat) : List Char :=
  let share := percent done total
  (if total ≤ done then ' ' else '⠋') :: ' ' :: label ++ ' ' :: gaugeBar done total ++
    ' ' :: bar ' ' (3 - share.length) ++ share ++ "% 0:00:00".toList

end Terminal
end YamlTidy
