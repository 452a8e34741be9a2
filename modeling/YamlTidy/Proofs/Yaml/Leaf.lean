import YamlTidy.Yaml.Datum

/-!
# Scalars on a row

A *phrase* is a plain scalar on one row that is written the way it is read: a text of one or
several words, a number, a truth value or the word for nothing.  A *quotation* is a text between
quotes that needs no escapes.  A *leaf* is either of them where a value may stand, and a *key* is
a phrase of one word that is short enough to be written on one line with its colon.

Main definitions:

* `isInk` and `isPhrase`, which say what stands in a plain scalar on one row;
* `StandsFor`, which says what such a scalar is read as;
* `Phrase`, `Quotation`, `Leaf` and `Key`;
* `RowEnd`, what stands behind the content of a row.
-/

namespace YamlTidy
namespace Yaml

open Text

/-! ## Characters -/

/-- A character that has no meaning of its own anywhere. -/
def isWordChar (c : Char) : Bool :=
  acceptable c && !isBlank c &&
    !("?:,.[]#&*!|>'\"%@".toList ++ ['\x7b', '\x7d', '\x60', '\uFEFF']).contains c

/-- A character that can be seen. -/
def isInk (c : Char) : Bool :=
  acceptable c && !isBlank c && c != '\uFEFF'

/-- A character with which a plain scalar may begin, whatever follows. -/
def opensPhrase (c : Char) : Bool :=
  isWordChar c && c != '-'

/-- Two characters of which only one is in a class are not the same. -/
theorem ne_of_class {p : Char → Bool} {c d : Char} (hc : p c = true) (hd : p d = false) :
    c ≠ d := by
  rintro rfl
  rw [hc] at hd
  cases hd

section Characters

variable {c : Char}

/-- What holds of some codes in a row holds of every character with one of them. -/
theorem forall_code {first count : Nat} {P : Char → Prop}
    (h : ∀ k : Fin count, P (Char.ofNat (first + k))) (hlow : first ≤ c.toNat)
    (hhigh : c.toNat < first + count) : P c := by
  have hk := h ⟨c.toNat - first, by omega⟩
  rwa [Nat.add_sub_cancel' hlow, Char.ofNat_toNat] at hk

theorem isInk_of_isWordChar (hc : isWordChar c = true) : isInk c = true := by
  have hmark : c ≠ '\uFEFF' := ne_of_class hc (by decide)
  simp only [isWordChar, Bool.and_eq_true] at hc
  simp [isInk, hc.1.1, hc.1.2, hmark]

theorem isWordChar_of_opensPhrase (hc : opensPhrase c = true) : isWordChar c = true :=
  (Bool.and_eq_true_iff.mp hc).1

theorem isInk_of_opensPhrase (hc : opensPhrase c = true) : isInk c = true :=
  isInk_of_isWordChar (isWordChar_of_opensPhrase hc)

theorem acceptable_of_isInk (hc : isInk c = true) : acceptable c = true := by
  simp only [isInk, Bool.and_eq_true] at hc
  exact hc.1.1

theorem isBlank_of_isInk (hc : isInk c = true) : isBlank c = false := by
  simp only [isInk, Bool.and_eq_true, Bool.not_eq_true'] at hc
  exact hc.1.2

end Characters

/-! ## Phrases -/

/-- Whether a text is the rest of a plain scalar on one row: visible characters with spaces between
them and none at the end.  Behind a space no comment begins, and in front of one no key ends.  `gap`
tells whether a space stands in front. -/
def isPhrase (gap : Bool) : List Char → Bool
  | [] => !gap
  | c :: rest =>
      if c == ' ' then isPhrase true rest
      else isInk c && !(gap && c == '#') && !(c == ':' && rest.headD ' ' == ' ') &&
        isPhrase false rest

/-- What a plain scalar stands for that is written the way it is read: its tag and its value. -/
inductive StandsFor (s : List Char) : CoreTag → Value → Prop
  | text (h : Schema.resolve false s = .str) : StandsFor s .str (.text s .plain [] none none)
  | null (h : s = "null".toList) : StandsFor s .null .null
  | truth (b : Bool) (h : s = (if b then "true" else "false").toList) :
      StandsFor s .bool (.bool b none)
  | integer {w : WrittenInteger} (h : Schema.resolve false s = .int)
      (hread : WrittenInteger.ofText false s = .ok w) (hwritten : w.text = .ok s) :
      StandsFor s .int (.int w none)
  | real {x : WrittenReal} (h : Schema.resolve false s = .float)
      (hread : WrittenReal.ofText false s = .ok x) (hwritten : x.text = .ok s) :
      StandsFor s .float (.real x none)

/-- What a scalar stands for goes with the tag that is read from it. -/
theorem StandsFor.resolve {s : List Char} {core : CoreTag} {v : Value} (h : StandsFor s core v) :
    Schema.resolve false s = core := by
  cases h with
  | text h => exact h
  | null h => rw [h]; decide
  | truth b h => cases b <;> rw [h] <;> decide
  | integer h _ _ => exact h
  | real h _ _ => exact h

/-- A plain scalar on one row that is written the way it is read. -/
structure Phrase where
  chars : List Char
  core : CoreTag
  value : Value
  begins : chars.head?.any opensPhrase = true
  fits : isPhrase true chars = true
  stands : StandsFor chars core value

/-- The datum of a value that is no collection. -/
def Value.scalarDatum : Value → Datum
  | .bool b _ => .bool b
  | .int w _ => .int w.value
  | .real x _ => .real x.value
  | .text s _ _ _ _ => .text s
  | _ => .null

namespace Phrase

/-- What a phrase says. -/
def datum (p : Phrase) : Datum :=
  p.value.scalarDatum

theorem exists_cons (p : Phrase) : ∃ c rest, p.chars = c :: rest ∧ opensPhrase c = true := by
  have hbegins := p.begins
  cases hchars : p.chars with
  | nil =>
      rw [hchars] at hbegins
      cases hbegins
  | cons c rest =>
      rw [hchars] at hbegins
      exact ⟨c, rest, rfl, hbegins⟩

theorem nonempty (p : Phrase) : p.chars ≠ [] := by
  obtain ⟨c, rest, hcons, -⟩ := p.exists_cons
  rw [hcons]
  exact List.cons_ne_nil c rest

end Phrase

theorem mem_of_isPhrase {gap : Bool} {s : List Char} (h : isPhrase gap s = true) :
    ∀ c ∈ s, isInk c = true ∨ c = ' ' := by
  induction s generalizing gap with
  | nil => simp
  | cons c rest ih =>
      rw [isPhrase] at h
      split at h
      · next hspace => exact List.forall_mem_cons.mpr ⟨.inr (beq_iff_eq.mp hspace), ih h⟩
      · simp only [Bool.and_eq_true] at h
        exact List.forall_mem_cons.mpr ⟨.inl h.1.1.1, ih h.2⟩

/-- A phrase ends in something that can be seen and is no colon. -/
theorem getLast_of_isPhrase {gap : Bool} {s : List Char} (h : isPhrase gap s = true)
    (hne : s ≠ []) : isInk (s.getLast hne) = true ∧ s.getLast hne ≠ ':' := by
  induction s generalizing gap with
  | nil => exact absurd rfl hne
  | cons c rest ih =>
      rw [isPhrase] at h
      split at h
      · cases rest with
        | nil => cases h
        | cons d more => exact ih h (List.cons_ne_nil d more)
      · simp only [Bool.and_eq_true] at h
        cases rest with
        | nil => exact ⟨h.1.1.1, by simpa using h.1.2⟩
        | cons d more => exact ih h.2 (List.cons_ne_nil d more)

/-- A word is a phrase. -/
theorem isPhrase_of_word {s : List Char} (hs : ∀ c ∈ s, isWordChar c = true) {gap : Bool}
    (h : s ≠ [] ∨ gap = false) : isPhrase gap s = true := by
  induction s generalizing gap with
  | nil =>
      rw [h.resolve_left (· rfl)]
      rfl
  | cons c rest ih =>
      obtain ⟨hc, hrest⟩ := List.forall_mem_cons.mp hs
      have hspace : (c == ' ') = false := beq_eq_false_iff_ne.mpr (ne_of_class hc (by decide))
      have hsign : (c == '#') = false := beq_eq_false_iff_ne.mpr (ne_of_class hc (by decide))
      have hcolon : (c == ':') = false := beq_eq_false_iff_ne.mpr (ne_of_class hc (by decide))
      rw [isPhrase, hspace, hsign, hcolon, isInk_of_isWordChar hc, ih hrest (.inr rfl)]
      simp

/-! ## Leaves -/

/-- A character that stands for itself between quotes. -/
def isQuotable (double : Bool) (c : Char) : Bool :=
  (c == ' ' || isInk c) &&
    (if double then c != '"' && c != '\\' && (surrogate? c).isNone else c != '\'')

/-- The quote in front of a quotation and behind it. -/
abbrev quoteMark (double : Bool) : Char :=
  if double then '"' else '\''

/-- A text between quotes on one row that needs no escapes. -/
structure Quotation where
  double : Bool
  content : List Char
  fits : content.all (isQuotable double) = true

namespace Quotation

/-- A quotation as it stands on its row. -/
def chars (q : Quotation) : List Char :=
  quoteMark q.double :: (q.content ++ [quoteMark q.double])

/-- The style of a quotation. -/
def style (q : Quotation) : ScalarStyle :=
  if q.double then .doubleQuoted else .singleQuoted

theorem mem_content (q : Quotation) : ∀ c ∈ q.content, isQuotable q.double c = true :=
  List.all_eq_true.mp q.fits

theorem inkOrSpace (q : Quotation) : ∀ c ∈ q.content, isInk c = true ∨ c = ' ' := by
  intro c hc
  have hquotable := q.mem_content c hc
  simp only [isQuotable, Bool.and_eq_true, Bool.or_eq_true, beq_iff_eq] at hquotable
  exact hquotable.1.symm

end Quotation

theorem isInk_quoteMark (double : Bool) : isInk (quoteMark double) = true := by
  cases double <;> decide

/-- A scalar on one row that is written the way it is read wherever a value may stand. -/
inductive Leaf where
  | plain (p : Phrase) (hnull : p.core ≠ .null)
  | quoted (q : Quotation)

namespace Leaf

/-- A leaf as it stands on its row. -/
def chars : Leaf → List Char
  | plain p _ => p.chars
  | quoted q => q.chars

/-- The text of a leaf without its quotes. -/
def content : Leaf → List Char
  | plain p _ => p.chars
  | quoted q => q.content

/-- The style of a leaf. -/
def style : Leaf → ScalarStyle
  | plain _ _ => .plain
  | quoted q => q.style

/-- The tag of a leaf. -/
def core : Leaf → CoreTag
  | plain p _ => p.core
  | quoted _ => .str

/-- The value of a leaf. -/
def value : Leaf → Value
  | plain p _ => p.value
  | quoted q => .text q.content q.style [] none none

/-- What a leaf says. -/
def datum (l : Leaf) : Datum :=
  l.value.scalarDatum

/-- Whether a leaf has no quotes. -/
def isPlain : Leaf → Bool
  | plain _ _ => true
  | quoted _ => false

/-- There are no spaces at which a leaf could be broken. -/
def Solid (l : Leaf) : Prop :=
  ' ' ∉ l.content

theorem nonempty : ∀ l : Leaf, l.chars ≠ []
  | plain p _ => p.nonempty
  | quoted _ => List.cons_ne_nil _ _

end Leaf

/-- There is nothing but visible characters and spaces in a leaf. -/
theorem Leaf.inkOrSpace : ∀ l : Leaf, ∀ c ∈ l.chars, isInk c = true ∨ c = ' '
  | plain p _ => mem_of_isPhrase p.fits
  | quoted q => by
      intro c hc
      simp only [chars, Quotation.chars, List.mem_cons, List.mem_append, List.not_mem_nil,
        or_false] at hc
      rcases hc with rfl | hc | rfl
      · exact .inl (isInk_quoteMark _)
      · exact q.inkOrSpace c hc
      · exact .inl (isInk_quoteMark _)

/-! ## Keys -/

/-- A phrase of one word that is no number and short enough to be written on one line with its
colon. -/
structure Key extends Phrase where
  oneWord : ' ' ∉ chars
  name : core = .str ∨ core = .bool ∨ core = .null
  short : chars.length ≤ 122

/-- What a key stands for: a text, a truth value or nothing. -/
inductive Key.StandsFor (s : List Char) : CoreTag → Value → Prop
  | text : Key.StandsFor s .str (.text s .plain [] none none)
  | truth (b : Bool) (h : s = (if b then "true" else "false").toList) :
      Key.StandsFor s .bool (.bool b none)
  | null (h : s = "null".toList) : Key.StandsFor s .null .null

theorem Key.standsFor (key : Key) : Key.StandsFor key.chars key.core key.value := by
  obtain ⟨⟨chars, core, value, -, -, hstands⟩, -, hname, -⟩ := key
  cases hstands with
  | text _ => exact .text
  | truth b h => exact .truth b h
  | null h => exact .null h
  | integer _ _ _ => simp at hname
  | real _ _ _ => simp at hname

/-! ## The end of a row -/

/-- What stands behind the content of a row: some spaces, and possibly a carriage return in front of
the line feed. -/
structure RowEnd where
  trailing : Nat := 0
  carriage : Bool := false
  deriving Repr, DecidableEq

namespace RowEnd

/-- The break that ends a row. -/
def lineBreak (e : RowEnd) : List Char :=
  if e.carriage then ['\r', '\n'] else ['\n']

/-- The end of a row as it stands in a text. -/
def chars (e : RowEnd) : List Char :=
  List.replicate e.trailing ' ' ++ e.lineBreak

@[simp] theorem chars_bare : ({} : RowEnd).chars = ['\n'] :=
  rfl

@[simp] theorem chars_trailing : ({ trailing := 1 } : RowEnd).chars = [' ', '\n'] :=
  rfl

theorem length_chars (e : RowEnd) : 0 < e.chars.length := by
  obtain ⟨trailing, carriage⟩ := e
  cases carriage <;> simp [chars, lineBreak]

/-- No quote stands at the end of a row. -/
theorem head?_chars (e : RowEnd) (rest : List Char) : (e.chars ++ rest).head? ≠ some '\'' := by
  obtain ⟨trailing, carriage⟩ := e
  cases trailing <;> cases carriage <;> simp [chars, lineBreak, List.replicate_succ]

end RowEnd

end Yaml
end YamlTidy
