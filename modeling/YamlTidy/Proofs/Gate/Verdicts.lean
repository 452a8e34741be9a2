import Mathlib.Data.List.Basic
import YamlTidy.Proofs.Repair.Agreement
import YamlTidy.Proofs.Yaml.Ends.Layouts
import YamlTidy.Proofs.Yaml.Ends.Values

/-!
# The two verdicts of the gate

`check` and `format` read a text alike, so they reject the same texts in the same words.  A text
that is read is valid; `format` then writes it, which can break off in ways of its own.  Neither
is total: reading a text can break off without a diagnostic, too.
-/

namespace YamlTidy
namespace Gate

open Yaml

variable {text : List Char}

/-- A text that is read is valid. -/
theorem check_of_load {ds : List Document} (h : load text = .ok ds) :
    check text = .ok .valid := by
  simp [check, read, h, bind, Except.bind, pure, Except.pure]

/-- A text that is not read is rejected by `check` as it is by `format`. -/
theorem check_of_rejected {cause : Cause} {mark : Option Mark}
    (h : load text = .error (.rejected cause mark)) :
    check text = .ok (reject text (Fault.diagnostic cause mark)) := by
  simp [check, read, h, bind, Except.bind, pure, Except.pure]

theorem check_of_aborted {abort : Abort} (h : load text = .error (.aborted abort)) :
    check text = .error abort := by
  simp [check, read, h, bind, Except.bind]

/-- **The verdicts on a text.**  It is valid and formatted, or both operations reject it with the
same message at the same position, or both break off for one reason of reading, or it is valid and
only writing it breaks off, for a reason of writing.  The options have no part in it. -/
theorem check_and_format (text : List Char) :
    (check text = .ok .valid ∧ ∀ o, ∃ u, format o text = .ok (.formatted u)) ∨
      (∃ message position, check text = .ok (.invalid text message position) ∧
        ∀ o, format o text = .ok (.invalid text message position)) ∨
      (∃ abort, (Fault.aborted abort).OfReading ∧ check text = .error abort ∧
        ∀ o, format o text = .error abort) ∨
      (check text = .ok .valid ∧ ∃ abort : Abort, abort.OfWriting ∧
        ∀ o, format o text = .error abort) := by
  cases hload : load text with
  | ok ds =>
      have hcheck := check_of_load hload
      have hformat := fun o => format_of_load (o := o) hload
      cases hcanonical : canonical {} ds with
      | ok u =>
          -- No options make writing break off, or the default ones would, too.
          refine Or.inl ⟨hcheck, fun o => ?_⟩
          cases ho : canonical o ds with
          | ok v => exact ⟨v, by rw [hformat, ho]; rfl⟩
          | error abort =>
              rw [(endsAlike_canonical {} o ds abort).mpr ho] at hcanonical
              cases hcanonical
      | error abort =>
          have hwriting : abort.OfWriting := ends_canonical {} ds abort hcanonical
          refine Or.inr (Or.inr (Or.inr ⟨hcheck, abort, hwriting, fun o => ?_⟩))
          rw [hformat, (endsAlike_canonical {} o ds abort).mp hcanonical]
          rfl
  | error fault =>
      cases fault with
      | rejected cause mark =>
          refine Or.inr (Or.inl ⟨_, _, check_of_rejected hload, fun o => ?_⟩)
          exact format_of_rejected hload
      | aborted abort =>
          have hreading : (Fault.aborted abort).OfReading := ends_load text _ hload
          refine Or.inr (Or.inr (Or.inl ⟨abort, hreading, check_of_aborted hload, fun o => ?_⟩))
          exact format_of_aborted hload

/-- Whether a text is valid and cannot be written. -/
def Unwritable (text : List Char) (abort : Abort) : Prop :=
  check text = .ok .valid ∧ format {} text = .error abort

instance (text : List Char) (abort : Abort) : Decidable (Unwritable text abort) :=
  inferInstanceAs (Decidable (_ ∧ _))

/-- A text of an older version of the language, in which some digits, pieces of two characters and
an end make a number to base 60. -/
def sixtieths (first : List Char) (pieces : Nat) (last : List Char) : List Char :=
  "%YAML 1.1\n---\n".toList ++ first ++ (List.replicate pieces [':', '0']).flatten ++ last

/-- Reading breaks off at a number without digits, at one to base 60 with too many pieces, at a
character code that fits no machine word, at a moment before the first year, at an ordered map that
is a scalar or has a key twice, and where two comments meet or one has no place.  Writing breaks off
at a number whose digits do not reach to its point, at one that is cut off in front of it, at the
comment in the header of a key, at comments for a sequence that has some, and at a sequence in a
set.  It does so at an integer of more than 4300 digits, too (`WrittenInteger.text_eq_error_iff`),
which only long texts make. -/
theorem texts_that_break_off :
    check "!!int\n".toList = .error .emptyNumber ∧
      check (sixtieths ['1'] 174 ".5\n".toList) = .error .placeTooHigh ∧
      check "\"\\UFFFFFFFF\"\n".toList = .error .codeTooLarge ∧
      check "0001-01-01T00:00:00+01:00\n".toList = .error .dateOutOfRange ∧
      check "!!omap\n".toList = .error .orderedMapScalar ∧
      check "!!omap [\x7ba\x7d, \x7ba\x7d]\n".toList = .error .orderedMapKey ∧
      check "# c\n| # d\n".toList = .error .commentLost ∧
      check "? \n\n- \n\n".toList = .error (.commentsMeet
        ("[None, [CommentToken('\\n', line: 1, col: 0)]] " ++
          "[None, [CommentToken('\\n', line: 3, col: 0)]]").toList) ∧
      Unwritable "+0.e-1\n".toList .emptyNumber ∧
      Unwritable "-0.e1\n".toList .pointCut ∧
      Unwritable "? | # h\n  a\n: b\n".toList .headerInFront ∧
      Unwritable "&a # c\n- *a\n".toList .commentsCollide ∧
      Unwritable "!!set\n? - x\n".toList .setOfCollections := by
  decide +kernel

end Gate
end YamlTidy
