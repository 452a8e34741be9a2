import YamlTidy.Proofs.Yaml.Leaf
import YamlTidy.Yaml.Layout.Pen

/-!
# The style of a leaf

There is nothing in a phrase for which it would have to be quoted outside flow collections
(`Phrase.analysis`), and a quotation keeps its quotes (`Quotation.chooseStyle`).  Where no row is
broken the words of a leaf and the spaces between them are written one after the other
(`Pen.plainStretches_eq`, `Pen.singleStretches_eq`, `Pen.doubleFrom_eq`).
-/

namespace YamlTidy
namespace Yaml

open Text

section Analysis

variable {c : Char}

theorem isTextBreak_of_isInk (hc : isInk c = true) : Analysis.isTextBreak c = false := by
  simp (disch := decide) [Analysis.isTextBreak, ne_of_class hc]

theorem isTextBreak_of_inkOrSpace (hc : isInk c = true ∨ c = ' ') :
    Analysis.isTextBreak c = false := by
  rcases hc with hc | rfl
  · exact isTextBreak_of_isInk hc
  · rfl

theorem isGap_of_isInk (hc : isInk c = true) : Analysis.isGap c = false := by
  simp (disch := decide) [Analysis.isGap, isTextBreak_of_isInk hc, ne_of_class hc]

theorem isSpecial_of_isInk (hc : isInk c = true) : Analysis.isSpecial c = false := by
  have hmark : c ≠ '\uFEFF' := ne_of_class hc (by decide)
  have hne : c.toNat ≠ 0xFEFF := fun h => hmark (Char.ext (UInt32.toNat_inj.mp h))
  have hacceptable := acceptable_of_isInk hc
  have hblank := isBlank_of_isInk hc
  simp only [acceptable, isBlank, Bool.or_eq_true, Bool.or_eq_false_iff, Bool.and_eq_true,
    Bool.and_eq_false_iff, beq_iff_eq, beq_eq_false_iff_ne, decide_eq_true_eq,
    decide_eq_false_iff_not] at hacceptable hblank
  simp only [Analysis.isSpecial, Bool.not_eq_false', Bool.or_eq_true, Bool.and_eq_true,
    beq_iff_eq, bne_iff_ne, decide_eq_true_eq]
  omega

theorem isSpecial_of_inkOrSpace (hc : isInk c = true ∨ c = ' ') :
    Analysis.isSpecial c = false := by
  rcases hc with hc | rfl
  · exact isSpecial_of_isInk hc
  · rfl

theorem isLeadingIndicator_of_isWordChar (hc : isWordChar c = true) :
    Analysis.isLeadingIndicator c = false := by
  have hcontains : "#,[]&*!|>'\"%@".toList.contains c = false := by
    simp only [List.contains_eq_mem, decide_eq_false_iff_not]
    exact fun hmem => absurd (List.all_eq_true.mp (by decide :
      ("#,[]&*!|>'\"%@".toList.all fun d => !isWordChar d) = true) c hmem) (by simp [hc])
  rw [Analysis.isLeadingIndicator, hcontains]
  simp (disch := decide) [ne_of_class hc]

/-- A text that begins like a phrase is no marker and has no indicator in front. -/
theorem first_of_opensPhrase (hc : opensPhrase c = true) (alone gap : Bool) :
    Analysis.first c alone gap = {} := by
  have hleading := isLeadingIndicator_of_isWordChar (isWordChar_of_opensPhrase hc)
  simp (disch := decide) [Analysis.first, hleading, ne_of_class hc]

end Analysis

/-- In a phrase no colon has a gap behind it and no number sign one in front. -/
theorem others_of_isPhrase {gap : Bool} {s : List Char} (h : isPhrase gap s = true) :
    (Analysis.others gap s).block = false := by
  induction s generalizing gap with
  | nil => rfl
  | cons c rest ih =>
      rw [isPhrase] at h
      split at h
      · next hspace =>
          obtain rfl := beq_iff_eq.mp hspace
          simpa [Analysis.others, Analysis.isFlowIndicator, Analysis.Indicators.or,
            Analysis.isGap] using ih h
      · simp only [Bool.and_eq_true, Bool.not_eq_true', Bool.and_eq_false_iff,
          beq_eq_false_iff_ne] at h
        obtain ⟨⟨⟨hink, hsign⟩, hcolon⟩, hrest⟩ := h
        have hmore := ih hrest
        unfold Analysis.others
        simp only [isGap_of_isInk hink, Analysis.Indicators.or, hmore, Bool.or_false]
        by_cases hc : c = ':'
        -- A colon has something visible behind it.
        · subst hc
          cases rest with
          | nil => simp at hcolon
          | cons d others =>
              have hd : (d == ' ') = false := by simpa using hcolon
              simp only [isPhrase, hd, Bool.false_eq_true, if_false, Bool.and_eq_true] at hrest
              simp [isGap_of_isInk hrest.1.1.1, Analysis.isFlowIndicator]
        · rcases hsign with hsign | hsign <;> simp [hc, hsign, apply_ite]

theorem adjacent_eq_false {p q : Char → Bool} :
    ∀ {s : List Char}, ((∀ c ∈ s, p c = false) ∨ ∀ c ∈ s, q c = false) →
      Analysis.adjacent p q s = false
  | [], _ => rfl
  | [_], _ => rfl
  | c :: d :: rest, h => by
      have hrest : Analysis.adjacent p q (d :: rest) = false :=
        adjacent_eq_false (h.imp (fun h x hx => h x (List.mem_cons_of_mem c hx))
          fun h x hx => h x (List.mem_cons_of_mem c hx))
      rw [Analysis.adjacent, hrest, Bool.or_false, Bool.and_eq_false_iff]
      exact h.imp (fun h => h c List.mem_cons_self)
        fun h => h d (List.mem_cons_of_mem c List.mem_cons_self)

/-- What is found in a text of visible characters and spaces: there are no breaks in it and nothing
that needs an escape. -/
theorem ofText_inkOrSpace {c : Char} {rest : List Char}
    (hs : ∀ x ∈ c :: rest, isInk x = true ∨ x = ' ') :
    Analysis.ofText (c :: rest) =
      let edges := c == ' ' || ((c :: rest).getLast?.getD ' ') == ' '
      let found := Analysis.indicators (c :: rest)
      { flowPlain := !edges && !found.flow, blockPlain := !edges && !found.block
        singleQuoted := true } := by
  have hbreak : ∀ x ∈ c :: rest, Analysis.isTextBreak x = false :=
    fun x hx => isTextBreak_of_inkOrSpace (hs x hx)
  have hbreaks : (c :: rest).any Analysis.isTextBreak = false := by
    rw [List.any_eq_false]
    exact fun x hx => by simp [hbreak x hx]
  have hspecial : (c :: rest).any Analysis.isSpecial = false := by
    rw [List.any_eq_false]
    exact fun x hx => by simp [isSpecial_of_inkOrSpace (hs x hx)]
  have hlast : (c :: rest).getLast?.getD ' ' ∈ c :: rest := by
    rw [List.getLast?_eq_some_getLast (List.cons_ne_nil c rest)]
    exact List.getLast_mem (List.cons_ne_nil c rest)
  have hmixed : Analysis.adjacent Analysis.isTextBreak (fun c => c == ' ') (c :: rest) = false :=
    adjacent_eq_false (.inl hbreak)
  have hmixed' :
      Analysis.adjacent (fun c => c == ' ') Analysis.isTextBreak (c :: rest) = false :=
    adjacent_eq_false (.inr hbreak)
  rw [Analysis.ofText]
  simp only [hbreak c List.mem_cons_self, hbreak _ hlast, hbreaks, hspecial, hmixed, hmixed',
    Bool.or_false, Bool.not_false, Bool.and_true]

namespace Phrase

variable (p : Phrase)

/-- Nothing keeps a phrase from being written plain outside flow collections. -/
theorem analysis : (Analysis.ofText p.chars).blockPlain = true ∧
    (Analysis.ofText p.chars).multiline = false ∧ (Analysis.ofText p.chars).empty = false := by
  obtain ⟨c, rest, hcons, hc⟩ := p.exists_cons
  have hfits := p.fits
  have hink := mem_of_isPhrase p.fits
  rw [hcons] at hfits hink ⊢
  have hspace : (c == ' ') = false :=
    beq_eq_false_iff_ne.mpr (ne_of_class hc (by decide))
  have hlast : ((c :: rest).getLast?.getD ' ' == ' ') = false := by
    rw [List.getLast?_eq_some_getLast (List.cons_ne_nil c rest), Option.getD_some]
    exact beq_eq_false_iff_ne.mpr
      (ne_of_class (getLast_of_isPhrase hfits (List.cons_ne_nil c rest)).1 (by decide))
  rw [isPhrase, hspace, if_neg Bool.false_ne_true, Bool.and_eq_true] at hfits
  have hblock : (Analysis.indicators (c :: rest)).block = false := by
    have hothers := others_of_isPhrase hfits.2
    simp only [Analysis.indicators, first_of_opensPhrase hc, Analysis.Indicators.or,
      isGap_of_isInk (isInk_of_opensPhrase hc), hothers, Bool.or_false]
    split
    · exact absurd hc (by decide)
    · exact absurd hc (by decide)
    · rfl
  rw [ofText_inkOrSpace hink]
  simp [hspace, hlast, hblock]

theorem isInk_of_oneWord (h : ' ' ∉ p.chars) : ∀ c ∈ p.chars, isInk c = true :=
  fun c hc => (mem_of_isPhrase p.fits c hc).resolve_right fun hspace => h (hspace ▸ hc)

theorem chooseStyle (simpleKey : Bool) :
    Yaml.chooseStyle ⟨false, simpleKey⟩ (.ofCore p.core) true p.chars .any = .plain := by
  simp [Yaml.chooseStyle, p.analysis]

theorem impliedTags : (Yaml.impliedTags (.ofCore p.core) p.chars).1 = true := by
  rw [Yaml.impliedTags, p.stands.resolve]
  exact beq_self_eq_true p.core.name

end Phrase

namespace Quotation

variable (q : Quotation)

theorem chooseStyle (tag : Tag) (implied : Bool) :
    Yaml.chooseStyle ⟨false, false⟩ tag implied q.content (.ofScalar q.style) =
      if q.double then .doubleQuoted else .singleQuoted := by
  obtain ⟨double, content, hfits⟩ := q
  cases double with
  | true => rfl
  | false =>
      have hquoted : (Analysis.ofText content).singleQuoted = true := by
        cases content with
        | nil => rfl
        | cons c rest =>
            rw [ofText_inkOrSpace (Quotation.inkOrSpace ⟨false, c :: rest, hfits⟩)]
      simp [Yaml.chooseStyle, style, AskedStyle.ofScalar, hquoted]

end Quotation

/-! ## Stretches -/

theorem stretches_join (s : List Char) : (stretches s).flatMap Prod.snd = s := by
  induction s with
  | nil => rfl
  | cons c rest ih =>
      rw [stretches]
      split
      · next k t more hrest =>
          rw [hrest] at ih
          split <;> simp_all
      · next hrest =>
          rw [hrest] at ih
          simp_all

/-- A stretch is not empty and holds characters of its kind. -/
theorem of_mem_stretches {s : List Char} :
    ∀ x ∈ stretches s, x.2 ≠ [] ∧ ∀ c ∈ x.2, c ∈ s ∧ Stretch.of c = x.1 := by
  induction s with
  | nil => simp [stretches]
  | cons c rest ih =>
      intro x hx
      rw [stretches] at hx
      split at hx
      · next k t more hrest =>
          rw [hrest] at ih
          split at hx
          · next hkind =>
              rcases List.mem_cons.mp hx with rfl | hx
              · refine ⟨List.cons_ne_nil c t,
                  List.forall_mem_cons.mpr ⟨⟨by simp, rfl⟩, ?_⟩⟩
                intro d hd
                obtain ⟨hmem, hof⟩ := (ih (k, t) (by simp)).2 d hd
                exact ⟨List.mem_cons_of_mem c hmem, hof.trans hkind⟩
              · obtain ⟨hne, hall⟩ := ih x (by simp [hx])
                exact ⟨hne, fun d hd =>
                  ⟨List.mem_cons_of_mem c (hall d hd).1, (hall d hd).2⟩⟩
          · rcases List.mem_cons.mp hx with rfl | hx
            · simp
            · obtain ⟨hne, hall⟩ := ih x hx
              exact ⟨hne, fun d hd => ⟨List.mem_cons_of_mem c (hall d hd).1, (hall d hd).2⟩⟩
      · simp_all

/-- A text without spaces and breaks is one stretch. -/
theorem stretches_word {s : List Char} (hs : ∀ c ∈ s, isInk c = true) (hne : s ≠ []) :
    stretches s = [(.word, s)] := by
  induction s with
  | nil => exact absurd rfl hne
  | cons c rest ih =>
      have hink := hs c List.mem_cons_self
      have hspace : c ≠ ' ' := ne_of_class hink (by decide)
      have hc : Stretch.of c = .word := by simp [Stretch.of, hspace, isTextBreak_of_isInk hink]
      cases rest with
      | nil => simp [stretches, hc]
      | cons d more =>
          have hrest :=
            ih (fun x hx => hs x (List.mem_cons_of_mem c hx)) (List.cons_ne_nil d more)
          rw [stretches, hrest, hc]
          simp

/-! ## Writing without breaks -/

theorem Measures.exceeds_none {m : Measures} (h : m.width = none) (column : Int) :
    m.exceeds column = false := by
  rw [exceeds, h]

namespace Pen

variable {m : Measures} {p : Pen}

theorem write_write (s t : List Char) (p : Pen) : (p.write s).write t = p.write (s ++ t) := by
  simp [write, Int.add_assoc]

theorem write_nil (p : Pen) : p.write [] = p := by
  simp [write]

theorem plainStretches_eq (hwidth : m.width = none) (indent : Option Int) (split : Bool) :
    ∀ (l : List (Stretch × List Char)) (p : Pen),
      plainStretches m indent split l p = p.write (l.flatMap Prod.snd)
  | [], p => (write_nil p).symm
  | (kind, s) :: more, p => by
      have hexceeds := Measures.exceeds_none hwidth
      unfold plainStretches
      simp only [hexceeds, Bool.and_false, Bool.false_and, Bool.false_eq_true, if_false]
      rw [plainStretches_eq hwidth indent split more, List.flatMap_cons, ← write_write]
      cases indent <;> simp

theorem doubled_eq {s : List Char} (hs : '\'' ∉ s) : doubled s = s := by
  induction s with
  | nil => rfl
  | cons c rest ih =>
      rw [List.mem_cons, not_or] at hs
      have hrest := ih hs.2
      rw [doubled] at hrest ⊢
      rw [List.flatMap_cons, hrest, if_neg (by simpa using Ne.symm hs.1)]
      rfl

/-- Between apostrophes a text without apostrophes is written as it stands, unless it is broken at a
space. -/
theorem singleStretches_eq (indent : Option Int) (split : Bool) :
    ∀ (l : List (Stretch × List Char)) (first : Bool) (p : Pen),
      (∀ x ∈ l, x.1 ≠ .lineBreak ∧ '\'' ∉ x.2) → m.width = none ∨
        (∀ x ∈ l, x.1 ≠ .space) →
        singleStretches m indent split first l p = p.write (l.flatMap Prod.snd)
  | [], _, p, _, _ => (write_nil p).symm
  | (kind, s) :: more, first, p, hl, hunbroken => by
      obtain ⟨hkind, hs⟩ := hl (kind, s) (by simp)
      have hmore := singleStretches_eq indent split more false (p.write s)
        (fun x hx => hl x (by simp [hx])) (hunbroken.imp_right fun h x hx => h x (by simp [hx]))
      rw [List.flatMap_cons, ← write_write, ← hmore]
      conv => lhs; unfold singleStretches
      cases kind with
      | lineBreak => exact absurd rfl hkind
      | word => rw [doubled_eq hs]
      | space =>
          have hwidth := hunbroken.resolve_right fun h => h (.space, s) (by simp) rfl
          simp [Measures.exceeds_none hwidth]

/-- Between double quotes a text that needs no escapes is written as it stands, unless it is broken
at a space. -/
theorem doubleFrom_eq (indent : Option Int) (split : Bool) {text : Array Char}
    (hescape : ∀ c ∈ text, isEscaped c = false) (hunbroken : m.width = none ∨ ' ' ∉ text) :
    ∀ (n place : Nat) (p : Pen), place ≤ text.size → text.size < n + place →
      doubleFrom m indent split text n 0 place p = p.write text.toList
  | 0, _, _, hplace, hsize => by omega
  | n + 1, place, p, hplace, hsize => by
      rcases Nat.eq_or_lt_of_le hplace with rfl | hlt
      · have hall : text.toList.take text.size = text.toList := List.take_length
        unfold doubleFrom
        simp [hall]
      · have hc : text[place] ∈ text := Array.getElem_mem hlt
        -- Nothing has been left out so far, so that only a space could be a place to break at.
        have hbreak : (0 < place && place + 1 < text.size && (text[place] == ' ' || place ≤ 0) &&
            m.exceeds (p.column + ((place : Int) - (0 : Nat))) && split) = false := by
          rcases hunbroken with hwidth | hspace
          · simp [Measures.exceeds_none hwidth]
          · have hne : text[place] ≠ ' ' := fun h => hspace (h ▸ hc)
            cases place <;> simp [hne]
        conv => lhs; unfold doubleFrom
        simp only [Array.getElem?_eq_getElem hlt, hescape _ hc, Bool.false_eq_true,
          if_false, hbreak]
        exact doubleFrom_eq indent split hescape hunbroken n (place + 1) p hlt (by omega)

end Pen

namespace Quotation

variable (q : Quotation) {m : Measures}

/-- Nothing between double quotes takes an escape. -/
theorem not_escaped (h : q.double = true) : ∀ c ∈ q.content, Pen.isEscaped c = false := by
  intro c hc
  have hquotable := q.mem_content c hc
  have hplain := q.inkOrSpace c hc
  simp only [h, isQuotable, if_true, Bool.and_eq_true, bne_iff_ne, Option.isNone_iff_eq_none]
    at hquotable
  obtain ⟨-, ⟨hquote, hslash⟩, hsurrogate⟩ := hquotable
  have hother : ∀ d : Char, isInk d = false → d ≠ ' ' → c ≠ d := fun d hd hspace =>
    hplain.elim (fun h => ne_of_class h hd) fun h => h ▸ Ne.symm hspace
  simp (disch := decide) [Pen.isEscaped, hquote, hslash, hsurrogate,
    isSpecial_of_inkOrSpace hplain, hother]

/-- There are words and spaces between quotes, and no apostrophes between apostrophes. -/
theorem mem_stretches (h : q.double = false) :
    ∀ x ∈ stretches q.content, x.1 ≠ .lineBreak ∧ '\'' ∉ x.2 := by
  intro x hx
  obtain ⟨hne, hall⟩ := of_mem_stretches x hx
  refine ⟨?_, fun hmem => ?_⟩
  · obtain ⟨c, hc⟩ := List.exists_mem_of_ne_nil _ hne
    obtain ⟨hmem, hof⟩ := hall c hc
    rw [← hof, Stretch.of, isTextBreak_of_inkOrSpace (q.inkOrSpace c hmem)]
    split <;> decide
  · have hquotable := q.mem_content _ (hall _ hmem).1
    rw [h] at hquotable
    exact absurd hquotable (by decide)

theorem space_not_mem_stretches (h : ' ' ∉ q.content) :
    ∀ x ∈ stretches q.content, x.1 ≠ .space := by
  intro x hx hspace
  obtain ⟨hne, hall⟩ := of_mem_stretches x hx
  obtain ⟨c, hc⟩ := List.exists_mem_of_ne_nil _ hne
  obtain ⟨hmem, hof⟩ := hall c hc
  have hc' : c ≠ ' ' := fun heq => h (heq ▸ hmem)
  rw [hspace, Stretch.of, isTextBreak_of_inkOrSpace (q.inkOrSpace c hmem)] at hof
  simp [hc'] at hof

end Quotation
end Yaml
end YamlTidy
