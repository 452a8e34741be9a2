import Mathlib.Algebra.Group.Nat.Defs
import Mathlib.Data.List.Basic
import Mathlib.Data.List.Induction
import Mathlib.Data.List.TakeWhile
import YamlTidy.Proofs.Yaml.Leaf

/-!
# Numerals

A *numeral* is a row of decimal digits that does not begin with a zero, no longer than may be read
and written.  It is read as the number that its digits count up to (`natural?_eq`), and that number
is written in the same digits again (`digits_countedFrom`, by induction from the last digit).  So
each numeral is a phrase (`Numeral.standsFor`) and may stand where a value may (`Numeral.toLeaf`).
-/

namespace YamlTidy
namespace Yaml

open Text WrittenInteger

/-! ## Digits -/

/-- The number that digits behind a number count up to. -/
def countedFrom (n : Nat) (ds : List Char) : Nat :=
  ds.foldl (fun n c => n * 10 + (c.toNat - 48)) n

theorem le_countedFrom (n : Nat) (ds : List Char) : n ≤ countedFrom n ds := by
  induction ds generalizing n with
  | nil => exact Nat.le_refl n
  | cons c rest ih =>
      calc n ≤ n * 10 + (c.toNat - 48) := by omega
        _ ≤ countedFrom n (c :: rest) := ih _

section Digits

variable {c : Char} {ds : List Char}

theorem dropWhile_eq_self {p : Char → Bool} (h : ∀ c ∈ ds, p c = false) :
    ds.dropWhile p = ds :=
  List.dropWhile_eq_self_iff.mpr fun hlength => by simp [h _ (List.getElem_mem hlength)]

theorem toNat_of_isDigit (hc : c.isDigit = true) : 48 ≤ c.toNat ∧ c.toNat < 48 + 10 := by
  simp only [Char.isDigit, Bool.and_eq_true, decide_eq_true_eq] at hc
  exact ⟨hc.1, Nat.lt_succ_of_le hc.2⟩

/-- What holds of the ten digits holds of every character that is one. -/
theorem forall_digit {P : Char → Prop} (h : ∀ k : Fin 10, P (Char.ofNat (48 + k)))
    (hc : c.isDigit = true) : P c :=
  forall_code h (toNat_of_isDigit hc).1 (toNat_of_isDigit hc).2

theorem opensPhrase_of_isDigit (hc : c.isDigit = true) : opensPhrase c = true :=
  forall_digit (P := fun c => opensPhrase c = true) (by decide) hc

theorem natural?_eq (hdigits : ∀ c ∈ ds, c.isDigit = true) (n : Nat) :
    natural? 10 n ds = some (countedFrom n ds) := by
  induction ds generalizing n with
  | nil => rfl
  | cons c rest ih =>
      obtain ⟨hc, hrest⟩ := List.forall_mem_cons.mp hdigits
      have hcode := toNat_of_isDigit hc
      have hdigit : digit? c = some (c.toNat - 48) := by rw [digit?, if_pos hc]
      have hlt : c.toNat - 48 < 10 := by omega
      simp only [natural?, hdigit, hlt, if_true]
      exact ih hrest _

/-- The digits of a number are those of its tenth and its last one. -/
theorem digits_succ {fuel m e : Nat} (he : e < 10) :
    digits .decimal (fuel + 1) (m * 10 + e) =
      (if m = 0 then [] else digits .decimal fuel m) ++ [Char.ofNat (48 + e)] := by
  have hmod : (m * 10 + e) % 10 = e := by omega
  have hdiv : (m * 10 + e) / 10 = m := by omega
  simp only [digits, Base.radix, hmod, hdiv, he, if_true]
  by_cases hm : m = 0
  · rw [if_pos (by omega), if_pos hm]
    rfl
  · rw [if_neg (by omega), if_neg hm]

theorem countedFrom_pos (hdigits : ∀ c ∈ ds, c.isDigit = true)
    (hzero : ∀ c ∈ ds.head?, c ≠ '0') (hne : ds ≠ []) : 0 < countedFrom 0 ds := by
  obtain ⟨c, rest, rfl⟩ := List.exists_cons_of_ne_nil hne
  have hcode := toNat_of_isDigit (hdigits c List.mem_cons_self)
  have hfirst : c.toNat ≠ 48 := fun h => hzero c rfl (Char.toNat_inj.mp h)
  calc 0 < 0 * 10 + (c.toNat - 48) := by omega
    _ ≤ countedFrom 0 (c :: rest) := le_countedFrom _ rest

/-- A number is written in the digits that count up to it, if the first of them is no zero. -/
theorem digits_countedFrom {fuel : Nat} (hdigits : ∀ c ∈ ds, c.isDigit = true)
    (hzero : ∀ c ∈ ds.head?, c ≠ '0') (hne : ds ≠ [])
    (hfuel : countedFrom 0 ds < 2 ^ fuel) :
    digits .decimal fuel (countedFrom 0 ds) = ds := by
  induction ds using List.reverseRecOn generalizing fuel with
  | nil => exact absurd rfl hne
  | append_singleton front c ih =>
      have hpos := countedFrom_pos hdigits hzero hne
      obtain ⟨hfront, hc⟩ := List.forall_mem_append.mp hdigits
      have hc : c.isDigit = true := hc c (List.mem_singleton_self c)
      have hcode := toNat_of_isDigit hc
      have hlast : Char.ofNat (48 + (c.toNat - 48)) = c := by
        rw [Nat.add_sub_cancel' hcode.1, Char.ofNat_toNat]
      have hcount : countedFrom 0 (front ++ [c]) = countedFrom 0 front * 10 + (c.toNat - 48) :=
        List.foldl_append ..
      cases fuel with
      | zero => omega
      | succ fuel =>
          rw [hcount] at hfuel ⊢
          rw [digits_succ (by omega), hlast]
          by_cases hempty : front = []
          · subst hempty
            rfl
          · have hhead : ∀ d ∈ front.head?, d ≠ '0' := fun d hd =>
              hzero d (List.mem_head?_append_of_mem_head? hd)
            have htenth := countedFrom_pos hfront hhead hempty
            rw [Nat.pow_succ] at hfuel
            rw [if_neg (Nat.ne_of_gt htenth), ih hfront hhead hempty (by omega)]

end Digits

/-! ## Numerals -/

/-- A row of decimal digits that does not begin with a zero. -/
structure Numeral where
  chars : List Char
  digits : chars.all Char.isDigit = true
  begins : chars.head?.any (· != '0') = true
  short : chars.length ≤ longestDecimal

namespace Numeral

variable (x : Numeral)

/-- The number that a numeral stands for. -/
def number : Nat :=
  countedFrom 0 x.chars

theorem isDigit : ∀ c ∈ x.chars, c.isDigit = true :=
  List.all_eq_true.mp x.digits

/-- The first character of a numeral is neither a zero nor a sign. -/
theorem exists_cons :
    ∃ c rest, x.chars = c :: rest ∧ c ≠ '0' ∧ c ≠ '-' ∧ c ≠ '+' := by
  have hbegins := x.begins
  have hdigit := x.isDigit
  cases hchars : x.chars with
  | nil =>
      rw [hchars] at hbegins
      cases hbegins
  | cons c rest =>
      rw [hchars] at hbegins hdigit
      have hzero : c ≠ '0' := by simpa using hbegins
      exact ⟨c, rest, rfl, hzero, forall_digit (P := fun c => c ≠ '-' ∧ c ≠ '+') (by decide)
        (hdigit c List.mem_cons_self)⟩

theorem begins_phrase : x.chars.head?.any opensPhrase = true := by
  obtain ⟨c, rest, hcons, -⟩ := x.exists_cons
  have hc := opensPhrase_of_isDigit (x.isDigit c (hcons ▸ List.mem_cons_self))
  rw [hcons]
  exact hc

theorem fits_phrase : isPhrase true x.chars = true := by
  obtain ⟨c, rest, hcons, -⟩ := x.exists_cons
  refine isPhrase_of_word (fun c hc => ?_) (.inl (hcons ▸ List.cons_ne_nil c rest))
  exact isWordChar_of_opensPhrase (opensPhrase_of_isDigit (x.isDigit c hc))

theorem unsigned_eq : Schema.unsigned x.chars = x.chars := by
  obtain ⟨c, rest, hcons, -, hminus, hplus⟩ := x.exists_cons
  simp [hcons, Schema.unsigned, hminus, hplus]

/-- A numeral is no word. -/
theorem ne_of_word {w : List Char} (hw : w.head?.any Char.isDigit = false) : w ≠ x.chars := by
  obtain ⟨c, rest, hcons, -⟩ := x.exists_cons
  have hc := x.isDigit c (hcons ▸ List.mem_cons_self)
  rintro rfl
  simp [hcons, hc] at hw

theorem isBool_eq_false : Schema.isBool false x.chars = false := by
  have hwords : ∀ w ∈ ["true", "True", "TRUE", "false", "False", "FALSE"],
      w.toList.head?.any Char.isDigit = false := by
    decide
  exact List.any_eq_false.mpr fun w hw => by simpa using x.ne_of_word (hwords w hw)

theorem isFloat_eq_false : Schema.isFloat false x.chars = false := by
  have hwhole : x.chars.takeWhile Schema.digit_ = x.chars :=
    List.takeWhile_eq_self_iff.mpr fun c hc => by simp [Schema.digit_, x.isDigit c hc]
  have hword {w : List Char} (hw : w.head?.any Char.isDigit = false) : (x.chars == w) = false :=
    beq_eq_false_iff_ne.mpr (x.ne_of_word hw).symm
  have hinfinity : Schema.isInfinity x.chars = false := by
    rw [Schema.isInfinity, hword (by decide), hword (by decide), hword (by decide)]
    rfl
  have hnone : Schema.isNotANumber x.chars = false := by
    rw [Schema.isNotANumber, hword (by decide), hword (by decide), hword (by decide)]
    rfl
  simp [Schema.isFloat, unsigned_eq, hwhole, hinfinity, hnone, Schema.isExponent]

theorem isInt_eq_true : Schema.isInt x.chars = true := by
  have hall : x.chars.all Schema.digit_ = true :=
    List.all_eq_true.mpr fun c hc => by simp [Schema.digit_, x.isDigit c hc]
  obtain ⟨c, rest, hcons, hzero, -⟩ := x.exists_cons
  rw [Schema.isInt, unsigned_eq]
  rw [hcons] at hall ⊢
  simpa [hzero, Schema.some1] using hall

/-- A numeral is taken for an integer. -/
theorem resolve_eq_int : Schema.resolve false x.chars = .int := by
  have hbool := x.isBool_eq_false
  have hfloat := x.isFloat_eq_false
  have hint := x.isInt_eq_true
  obtain ⟨c, rest, hcons, -⟩ := x.exists_cons
  have hc := x.isDigit c (hcons ▸ List.mem_cons_self)
  rw [hcons] at hbool hfloat hint ⊢
  simp [Schema.resolve, hbool, hfloat, hint, hc]

/-- Nothing of a numeral is taken for a blank around it. -/
theorem numberText_eq : numberText x.chars = x.chars := by
  have hchar : ∀ c ∈ x.chars, numberChar c = c ∧ isNumberBlank c = false := fun c hc =>
    forall_digit (P := fun c => numberChar c = c ∧ isNumberBlank c = false) (by decide)
      (x.isDigit c hc)
  have hmap : x.chars.map numberChar = x.chars := by
    conv_rhs => rw [← List.map_id x.chars]
    exact List.map_congr_left fun c hc => (hchar c hc).1
  rw [numberText, hmap, dropWhile_eq_self fun c hc => (hchar c hc).2,
    dropWhile_eq_self fun c hc => (hchar c (List.mem_reverse.mp hc)).2, List.reverse_reverse]

theorem convert_eq : convert 10 x.chars = .ok (x.number : Int) := by
  have hnatural := natural?_eq x.isDigit 0
  have hshort := x.short
  have htext := x.numberText_eq
  rw [number]
  obtain ⟨c, rest, hcons, hzero, hminus, hplus⟩ := x.exists_cons
  rw [hcons] at hnatural hshort htext ⊢
  have hunmarked : unmarked 10 (c :: rest) = c :: rest := by simp [unmarked, hzero]
  simpa [convert, htext, hminus, hplus, hunmarked, hnatural] using hshort

/-- A numeral is read as its number. -/
theorem ofText_eq : WrittenInteger.ofText false x.chars = .ok { value := x.number } := by
  have hconvert := x.convert_eq
  have hline : ∀ c ∈ x.chars, c ≠ '_' := fun c hc =>
    forall_digit (P := fun c => c ≠ '_') (by decide) (x.isDigit c hc)
  have hbare : x.chars.filter (· != '_') = x.chars :=
    List.filter_eq_self.mpr fun c hc => by simpa using hline c hc
  have hunderscores : underscores? x.chars = none := by
    have hinner : x.chars.reverse.dropWhile (· == '_') = x.chars.reverse :=
      dropWhile_eq_self fun c hc => by simpa using hline c (List.mem_reverse.mp hc)
    have hafter : x.chars.reverse.takeWhile (· != '_') = x.chars.reverse :=
      List.takeWhile_eq_self_iff.mpr fun c hc => by simpa using hline c (List.mem_reverse.mp hc)
    simp [underscores?, hinner, hafter]
  obtain ⟨c, rest, hcons, hzero, hminus, hplus⟩ := x.exists_cons
  rw [hcons] at hconvert hbare hunderscores ⊢
  simp [WrittenInteger.ofText, hbare, hminus, hplus, hzero, hunderscores, hconvert]

/-- The number of a numeral is written as the numeral. -/
theorem text_eq : WrittenInteger.text { value := x.number } = .ok x.chars := by
  obtain ⟨c, rest, hcons, hzero, -⟩ := x.exists_cons
  have hdigits : WrittenInteger.digits .decimal (x.number.log2 + 1) x.number = x.chars := by
    refine digits_countedFrom x.isDigit ?_ (hcons ▸ List.cons_ne_nil c rest) Nat.lt_log2_self
    simpa [hcons] using hzero
  have hlong : isTooLong { value := x.number } = false := by
    simp [isTooLong, hdigits, x.short]
  simp [WrittenInteger.text, hlong, shownText, signedDigits, hdigits, Base.mark]

theorem standsFor : StandsFor x.chars .int (.int { value := x.number } none) :=
  .integer x.resolve_eq_int x.ofText_eq x.text_eq

/-- A numeral as a leaf. -/
def toLeaf : Leaf :=
  .plain ⟨x.chars, .int, .int { value := x.number } none, x.begins_phrase, x.fits_phrase,
    x.standsFor⟩ nofun

end Numeral

end Yaml
end YamlTidy
