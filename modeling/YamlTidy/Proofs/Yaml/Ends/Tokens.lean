import YamlTidy.Proofs.Yaml.Ends
import YamlTidy.Yaml.Token.Stream

/-!
# What reading tokens can end in
-/

namespace YamlTidy
namespace Yaml

open Fault (OfReading)

/-! ## Scanners -/

section Scanners

variable (c : Cursor)

@[grind .]
theorem Cursor.ends_blockIncrement : EndsIn OfReading c.blockIncrement := by
  grind [Cursor.blockIncrement]

@[grind .]
theorem Cursor.ends_blockIndicators : EndsIn OfReading c.blockIndicators := by
  grind [Cursor.blockIndicators]

@[grind .]
theorem Cursor.ends_blockHeaderEnd : EndsIn OfReading c.blockHeaderEnd := by
  grind [Cursor.blockHeaderEnd]

@[grind .]
theorem Cursor.ends_blockScalar (folded : Bool) (outer : Int) :
    EndsIn OfReading (c.blockScalar folded outer) := by
  unfold Cursor.blockScalar
  refine .bind (ends_blockIndicators _) fun _ => .bind (ends_blockHeaderEnd _) fun _ => ?_
  grind

@[grind .]
theorem Cursor.ends_quotedBreaks (n : Nat) : EndsIn OfReading (c.quotedBreaks n) := by
  induction n generalizing c with
  | zero => exact .ok _
  | succ n ih => grind [Cursor.quotedBreaks]

@[grind .]
theorem Cursor.ends_quotedSpaces : EndsIn OfReading c.quotedSpaces := by
  grind [Cursor.quotedSpaces]

/-- An escape can ask for a character code too large to be looked up. -/
@[grind .]
theorem Cursor.ends_escape : EndsIn OfReading c.escape := by
  unfold Cursor.escape
  extract_lets ch
  -- What the letters mean does not matter here.
  generalize escaped? ch = letter
  generalize escapeWidth? ch = width
  cases letter with
  | some e => exact .ok _
  | none =>
      cases width with
      | none => grind
      | some width =>
          dsimp only
          split
          · exact EndsIn.error_iff.mpr (.at _ _)
          · split
            · exact EndsIn.error_iff.mpr .codeTooLarge
            · split
              · exact EndsIn.error_iff.mpr (.rejected _ _)
              · exact .ok _

@[grind .]
theorem Cursor.ends_quotedWord (double : Bool) (n : Nat) :
    EndsIn OfReading (c.quotedWord double n) := by
  induction n generalizing c with
  | zero => exact .ok _
  | succ n ih => grind [Cursor.quotedWord]

@[grind .]
theorem Cursor.ends_quotedRest (double : Bool) (n : Nat) :
    EndsIn OfReading (c.quotedRest double n) := by
  induction n generalizing c with
  | zero => exact .ok _
  | succ n ih => grind [Cursor.quotedRest]

@[grind .]
theorem Cursor.ends_quotedToken (double : Bool) : EndsIn OfReading (c.quotedToken double) := by
  grind [Cursor.quotedToken]

@[grind .]
theorem Cursor.ends_anchorToken : EndsIn OfReading c.anchorToken := by
  grind [Cursor.anchorToken]

@[grind .]
theorem Cursor.ends_tagHandle (what : String) : EndsIn OfReading (c.tagHandle what) := by
  grind [Cursor.tagHandle]

@[grind .]
theorem ends_checkBytes (what : String) (start : Mark) (bytes : List UInt8) :
    EndsIn OfReading (checkBytes what start bytes) := by
  grind [checkBytes]

@[grind .]
theorem Cursor.ends_checkEscapes (what : String) (start : Mark) (skip : Nat) (bytes : List UInt8)
    (s : List Char) : EndsIn OfReading (Cursor.checkEscapes what start skip bytes s c) := by
  fun_induction Cursor.checkEscapes what start skip bytes s c <;> grind

@[grind .]
theorem Cursor.ends_tagUri (what : String) (version11 : Bool) :
    EndsIn OfReading (c.tagUri what version11) := by
  grind [Cursor.tagUri]

@[grind .]
theorem Cursor.ends_tagToken (version11 : Bool) : EndsIn OfReading (c.tagToken version11) := by
  grind [Cursor.tagToken]

@[grind .]
theorem Cursor.ends_versionNumber : EndsIn OfReading c.versionNumber := by
  grind [Cursor.versionNumber]

@[grind .]
theorem Cursor.ends_versionValue : EndsIn OfReading c.versionValue := by
  grind [Cursor.versionValue]

@[grind .]
theorem Cursor.ends_tagValue (version11 : Bool) : EndsIn OfReading (c.tagValue version11) := by
  grind [Cursor.tagValue]

@[grind .]
theorem Cursor.ends_directiveToken (version11 : Bool) :
    EndsIn OfReading (c.directiveToken version11) := by
  grind [Cursor.directiveToken]

end Scanners

/-! ## The lexer -/

namespace Lexer

variable (l : Lexer)

@[grind .]
theorem ends_dropStale : EndsIn OfReading l.dropStale := by
  grind [dropStale]

@[grind .]
theorem ends_dropCandidate : EndsIn OfReading l.dropCandidate := by
  grind [dropCandidate]

@[grind .]
theorem ends_saveCandidate : EndsIn OfReading l.saveCandidate := by
  grind [saveCandidate]

@[grind .]
theorem ends_fetchMarker (kind : TokenKind) : EndsIn OfReading (l.fetchMarker kind) := by
  grind [fetchMarker]

@[grind .]
theorem ends_fetchEnd : EndsIn OfReading l.fetchEnd := by
  grind [fetchEnd]

@[grind .]
theorem ends_fetchDirective : EndsIn OfReading l.fetchDirective := by
  grind [fetchDirective]

@[grind .]
theorem ends_fetchOpen (kind : TokenKind) : EndsIn OfReading (l.fetchOpen kind) := by
  grind [fetchOpen]

@[grind .]
theorem ends_fetchClose (kind : TokenKind) : EndsIn OfReading (l.fetchClose kind) := by
  grind [fetchClose]

@[grind .]
theorem ends_fetchComma : EndsIn OfReading l.fetchComma := by
  grind [fetchComma]

@[grind .]
theorem ends_fetchDash : EndsIn OfReading l.fetchDash := by
  grind [fetchDash]

@[grind .]
theorem ends_fetchQuestion : EndsIn OfReading l.fetchQuestion := by
  grind [fetchQuestion]

@[grind .]
theorem ends_fetchColon : EndsIn OfReading l.fetchColon := by
  grind [fetchColon]

@[grind ←]
theorem ends_fetchWith {scan : Cursor → Except Fault (Token × Cursor)}
    (hscan : ∀ c, EndsIn OfReading (scan c)) : EndsIn OfReading (l.fetchWith scan) := by
  grind [fetchWith]

@[grind .]
theorem ends_fetchBlock (folded : Bool) : EndsIn OfReading (l.fetchBlock folded) := by
  grind [fetchBlock]

@[grind .]
theorem ends_fetchPlain : EndsIn OfReading l.fetchPlain := by
  grind [fetchPlain]

@[grind .]
theorem ends_fetchToken : EndsIn OfReading l.fetchToken := by
  unfold fetchToken
  extract_lets c spaced
  -- The end of the text, directives and markers come first, then the character decides.
  split
  · exact l.ends_fetchEnd
  split
  · exact l.ends_fetchDirective
  split
  · exact .map _ (l.ends_fetchMarker _)
  split
  · exact l.ends_fetchMarker _
  split <;> grind

@[grind .]
theorem ends_fetch : EndsIn OfReading l.fetch := by
  grind [fetch]

/-- The fault that ends the lexemes of a text. -/
theorem fault_readAll (n : Nat) {fault : Fault} (h : (l.readAll n).fault = some fault) :
    fault.OfReading := by
  induction n generalizing l with
  | zero => simp [readAll] at h
  | succ n ih =>
      have hfetch : EndsIn OfReading (l.fetch >>= dropStale) :=
        .bind l.ends_fetch fun next => next.ends_dropStale
      rw [readAll] at h
      split at h
      · simp at h
      · split at h
        · rename_i found hfound
          obtain rfl : found = fault := by simpa [stopped] using h
          exact hfetch found hfound
        · exact ih _ h

end Lexer

/-! ## Token streams -/

/-- Whether the fault that a token stream ends in, if it ends in one, is one of reading. -/
@[simp]
def TokenStream.Ends : TokenStream → Prop
  | done => True
  | broken fault => fault.OfReading
  | glimpse _ fault => fault.OfReading
  | more _ _ rest => rest.Ends

namespace TokenStream

/-- A comment in front of a token can be lost, since there is one place for comments only. -/
@[grind .]
theorem ends_withBefore (t : Token) (before : List Comment) :
    EndsIn OfReading (withBefore t before) := by
  grind [withBefore]

theorem ends_assemble (known : Bool) {ending : Option Fault}
    (hending : ∀ fault, ending = some fault → fault.OfReading) (n : Nat) (before : List Comment)
    (lexemes : List Lexeme) : (assemble known ending n before lexemes).Ends := by
  induction n generalizing before lexemes with
  | zero => trivial
  | succ n ih =>
      unfold assemble
      split
      split
      · split
        · rename_i hfault
          exact ends_withBefore _ _ _ hfault
        · split
          grind [TokenStream.Ends]
      · split <;> simp_all

theorem ends_ofText (text : List Char) : (ofText text).Ends := by
  have hlex : ∀ fault, (lex text).fault = some fault → fault.OfReading :=
    fun _ h => Lexer.fault_readAll _ _ h
  unfold ofText ofLexed
  split
  · exact ends_assemble true (by simp) _ _ _
  · rename_i fault hfault
    refine ends_assemble _ (fun other hother => ?_) _ _ _
    obtain rfl : fault = other := by simpa using hother
    exact hlex fault hfault

variable {s : TokenStream} (h : s.Ends)
include h

theorem ends_peek : EndsIn OfReading s.peek := by
  cases s <;> simp_all [peek]

theorem ends_next : EndsIn OfReading s.next := by
  cases s with
  | more t behind rest => cases behind <;> simp [next]
  | _ => simp_all [next]

theorem ends_of_next {t : Token} {rest : TokenStream} (hnext : s.next = .ok (t, rest)) :
    rest.Ends := by
  cases s with
  | more u behind more =>
      cases behind <;> · obtain ⟨-, rfl⟩ := by simpa [next] using hnext
                         exact h
  | done =>
      obtain ⟨-, rfl⟩ := by simpa [next] using hnext
      trivial
  | broken fault => simp [next] at hnext
  | glimpse u fault => simp [next] at hnext

theorem ends_setComments (comments : Option Comments) : (s.setComments comments).Ends := by
  cases s <;> exact h

end TokenStream
end Yaml
end YamlTidy
