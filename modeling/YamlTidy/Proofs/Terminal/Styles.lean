import Mathlib.Data.Bool.AllAny
import Mathlib.Data.List.Infix
import Mathlib.Data.List.SplitBy
import YamlTidy.Proofs.Text.Letters
import YamlTidy.Proofs.Text.Rows
import YamlTidy.Terminal.Style

/-!
# Styles without colors of three parts

The reading of a style ends with what is wrong with a number only where a word begins, in small
letters, with what begins a color of three parts.  A text in which that stands nowhere is
`Uncolored`, and so is everything that is made of it: its pieces, its small letters and its normal
form.  The styles of such texts are always read (`Uncolored.ends_ofText`).
-/

namespace YamlTidy
namespace Terminal

open Text

variable {c d x : Char} {s t p word color before rest : List Char} {ws : List (List Char)}

/-- What begins a color of three parts, in small letters. -/
def threeParts : List Char :=
  "rgb(".toList

/-- Whether a color of three parts begins nowhere in a text. -/
def Uncolored (s : List Char) : Prop :=
  ¬ threeParts <:+: s.map Char.toLower

instance (s : List Char) : Decidable (Uncolored s) :=
  inferInstanceAs (Decidable (¬ _))

theorem Uncolored.of_infix (h : Uncolored s) (ht : t <:+: s) : Uncolored t :=
  fun hp => h (hp.trans (ht.map Char.toLower))

/-! ## Small letters -/

theorem mem_of_toLower (h : d.toLower ∈ threeParts) : d ∈ "RrGgBb(".toList := by
  have hlower : d.toLower = 'r' ∨ d.toLower = 'g' ∨ d.toLower = 'b' ∨ d.toLower = '(' := by
    simpa [threeParts] using h
  unfold Char.toLower at hlower
  split at hlower
  · next hcapital =>
      have hfirst : 65 ≤ d.toNat := UInt32.le_iff_toNat_le.mp hcapital.1
      have hlast : d.toNat ≤ 90 := UInt32.le_iff_toNat_le.mp hcapital.2
      have hcode (e : Char) (he : d.val + ('a'.val - 'A'.val) = e.val) :
          d.toNat + 32 = e.toNat := by
        have hsum : d.toNat + 32 = (d.val + ('a'.val - 'A'.val)).toNat :=
          (Nat.mod_eq_of_lt (by omega)).symm
        rw [hsum, he]
        rfl
      have hchar (e f : Char) (hf : f.toNat + 32 = e.toNat)
          (he : d.val + ('a'.val - 'A'.val) = e.val) : d = f :=
        Char.toNat_inj.mp (by have := hcode e he; omega)
      rcases hlower with hd | hd | hd | hd
      · rw [hchar 'r' 'R' rfl (congrArg Char.val hd)]
        decide
      · rw [hchar 'g' 'G' rfl (congrArg Char.val hd)]
        decide
      · rw [hchar 'b' 'B' rfl (congrArg Char.val hd)]
        decide
      · have hbracket : d.toNat + 32 = 40 := hcode '(' (congrArg Char.val hd)
        omega
  · rcases hlower with rfl | rfl | rfl | rfl <;> decide

/-- Only capital letters of ASCII are moved to the letters of a color. -/
theorem shift_of_color_letters : ∀ d ∈ "RrGgBb(".toList, ∀ r ∈ capitalRuns,
    (r.first : Int) + r.shift ≤ d.toNat → (d.toNat : Int) ≤ r.last + r.shift →
      r.shift = 32 ∧ d.toUpper.toNat + 32 = d.toNat :=
  List.all_iff_forall_prop.mp (by decide +kernel)

theorem nonzero_of_color_letters : ∀ d ∈ "RrGgBb(".toList, d.toNat ≠ 0 :=
  List.all_iff_forall_prop.mp (by decide)

theorem toLower_toUpper_of_color_letters :
    ∀ d ∈ "RrGgBb(".toList, d.toUpper.toLower = d.toLower :=
  List.all_iff_forall_prop.mp (by decide)

theorem toLower_shifted (h : (shifted capitalRuns c).toLower ∈ threeParts) :
    c.toLower = (shifted capitalRuns c).toLower := by
  generalize hd : shifted capitalRuns c = d at h ⊢
  have hmem := mem_of_toLower h
  have hcode : d.toNat ≠ 0 := nonzero_of_color_letters d hmem
  rcases shifted_cases hd hcode with rfl | ⟨r, hr, hfirst, hlast, hshift⟩
  · rfl
  · obtain ⟨hmoved, hupper⟩ := shift_of_color_letters d hmem r hr (by omega) (by omega)
    have hc : c = d.toUpper := Char.toNat_inj.mp (by omega)
    rw [hc]
    exact toLower_toUpper_of_color_letters d hmem

/-- A letter has one small letter, or none of a color. -/
theorem smallLetter_cases (before : List Char) (c : Char) (rest : List Char) :
    smallLetter before c rest = ['i', Char.ofNat 0x307] ∨
      ∃ d, smallLetter before c rest = [d] ∧
        (d.toLower ∈ threeParts → c.toLower = d.toLower) := by
  unfold smallLetter
  split
  · exact Or.inl rfl
  · split
    · refine Or.inr ⟨_, rfl, fun h => absurd h ?_⟩
      split <;> decide
    · exact Or.inr ⟨_, rfl, toLower_shifted⟩

theorem prefix_of_smallFrom (hp : ∀ d ∈ p, d ∈ threeParts)
    (h : p <+: (smallFrom before s).map Char.toLower) : p <+: s.map Char.toLower := by
  induction s generalizing p before with
  | nil => exact h
  | cons c s ih =>
      cases p with
      | nil => exact List.nil_prefix
      | cons e p =>
          obtain ⟨he, hrest⟩ := List.forall_mem_cons.mp hp
          rw [smallFrom] at h
          rcases smallLetter_cases before c s with hi | ⟨d, hd, hlower⟩
          · rw [hi] at h
            obtain ⟨rfl, -⟩ := List.cons_prefix_cons.mp h
            exact absurd he (by decide)
          · rw [hd] at h
            obtain ⟨rfl, hbehind⟩ := List.cons_prefix_cons.mp h
            rw [List.map_cons, hlower he]
            exact List.cons_prefix_cons.mpr ⟨rfl, ih hrest hbehind⟩

/-- No color begins in small letters that does not begin in the letters they are made of. -/
theorem Uncolored.smallFrom (h : Uncolored s) (before : List Char) :
    Uncolored (Text.smallFrom before s) := by
  induction s generalizing before with
  | nil => exact h
  | cons c s ih =>
      have hrest : Uncolored (Text.smallFrom (c :: before) s) :=
        ih (h.of_infix (List.suffix_cons c s).isInfix) (c :: before)
      have hwhole : ¬ threeParts <+: (Text.smallFrom before (c :: s)).map Char.toLower :=
        fun hp => h (prefix_of_smallFrom (fun _ hd => hd) hp).isInfix
      intro hwithin
      rw [Text.smallFrom] at hwithin hwhole
      rcases smallLetter_cases before c s with hi | ⟨d, hd, -⟩
      · rw [hi] at hwithin
        rcases List.infix_cons_iff.mp hwithin with hp | hp
        · exact absurd (List.cons_prefix_cons.mp hp).1 (by decide)
        · rcases List.infix_cons_iff.mp hp with hp | hp
          · exact absurd (List.cons_prefix_cons.mp hp).1 (by decide)
          · exact hrest hp
      · rw [hd] at hwithin hwhole
        exact (List.infix_cons_iff.mp hwithin).elim hwhole hrest

theorem Uncolored.toSmall (h : Uncolored s) : Uncolored (Text.toSmall s) :=
  h.smallFrom []

/-! ## Words -/

/-- What holds no separator stands on one side of it. -/
theorem infix_append_cons (hx : x ∉ p) (h : p <:+: s ++ x :: t) : p <:+: s ∨ p <:+: t := by
  rcases List.infix_append_iff.mp h with hs | ht | ⟨p₁, p₂, rfl, hs, ht⟩
  · exact Or.inl hs
  · rcases List.infix_cons_iff.mp ht with hp | ht
    · cases p with
      | nil => exact Or.inr List.nil_infix
      | cons c p =>
          obtain ⟨rfl, -⟩ := List.cons_prefix_cons.mp hp
          exact absurd List.mem_cons_self hx
    · exact Or.inr ht
  · cases p₂ with
    | nil => exact Or.inl (by simpa using hs.isInfix)
    | cons c p₂ =>
        obtain ⟨rfl, -⟩ := List.cons_prefix_cons.mp ht
        exact absurd (List.mem_append_right p₁ List.mem_cons_self) hx

/-- Two words with a space between them are uncolored when both are. -/
theorem Uncolored.append_space (hs : Uncolored s) (ht : Uncolored t) :
    Uncolored (s ++ ' ' :: t) := by
  intro h
  rw [List.map_append, List.map_cons] at h
  exact (infix_append_cons (by decide) h).elim hs ht

theorem uncolored_intercalate (h : ∀ w ∈ ws, Uncolored w) :
    Uncolored ([' '].intercalate ws) := by
  induction ws with
  | nil => decide
  | cons w ws ih =>
      obtain ⟨hw, hws⟩ := List.forall_mem_cons.mp h
      cases ws with
      | nil => simpa using hw
      | cons v ws =>
          rw [List.intercalate_cons_cons]
          simpa using hw.append_space (ih hws)

theorem Uncolored.blankPieces (h : Uncolored s) : ∀ piece ∈ blankPieces s, Uncolored piece := by
  intro piece hpiece
  have hmem := List.mem_of_mem_filter hpiece
  have hwithin := List.infix_of_mem_flatten hmem
  rw [List.flatten_splitBy] at hwithin
  exact h.of_infix hwithin

theorem Uncolored.strip (h : Uncolored s) : Uncolored (Text.strip s) := by
  obtain ⟨blanks, -, hend⟩ := stripEnd_append (stripStart s)
  have hfront : Text.strip s <:+: stripStart s := (List.prefix_append _ blanks).isInfix.trans (by
    rw [Text.strip, hend])
  exact h.of_infix (hfront.trans (List.dropWhile_suffix isBlank).isInfix)

/-! ## Styles -/

theorem within_of_uncolored (h : Uncolored word) : within? "rgb" word = none := by
  unfold within?
  dsimp only
  split
  · next hword =>
      have hfront : threeParts <+: word := by
        simpa [threeParts] using (Bool.and_eq_true_iff.mp hword).1
      exact absurd (hfront.map Char.toLower).isInfix h
  · rfl

/-- Whether a word is a color is known unless it begins as one of three parts. -/
theorem exists_isColor (h : Uncolored word) : ∃ found, isColor word = .ok found := by
  unfold isColor
  rw [within_of_uncolored h]
  split
  · exact ⟨true, rfl⟩
  · exact ⟨false, rfl⟩

theorem uncolored_attributes : ∀ a ∈ attributes, Uncolored a.1.toList := by
  decide +kernel

namespace Style

/-- A style whose own words are uncolored. -/
structure Plain (s : Style) : Prop where
  color : ∀ w ∈ s.color, Uncolored w
  ground : ∀ w ∈ s.ground, Uncolored w
  link : ∀ w ∈ s.link, Uncolored w

theorem Plain.want {style : Style} (h : style.Plain) (name : String) (yes : Bool) :
    (style.want name yes).Plain :=
  ⟨h.color, h.ground, h.link⟩

theorem Plain.words {style : Style} (h : style.Plain) : ∀ w ∈ style.words, Uncolored w := by
  intro w hw
  unfold Style.words at hw
  rcases List.mem_append.mp hw with hw | hw
  · rcases List.mem_append.mp hw with hw | hw
    · rcases List.mem_append.mp hw with hw | hw
      · obtain ⟨a, ha, hw⟩ := List.mem_flatMap.mp hw
        have hname := uncolored_attributes a ha
        dsimp only at hw
        split at hw
        · obtain rfl := List.mem_singleton.mp hw
          exact hname
        · rcases List.mem_pair.mp hw with rfl | rfl
          · decide
          · exact hname
        · cases hw
      · exact h.color w (by simpa using hw)
    · split at hw
      · next color hcolor =>
          rcases List.mem_pair.mp hw with rfl | rfl
          · decide
          · exact h.ground _ hcolor
      · cases hw
  · split at hw
    · next target htarget =>
        rcases List.mem_pair.mp hw with rfl | rfl
        · decide
        · exact h.link _ htarget
    · cases hw

/-- A reading that ends, in a style of uncolored words or in none. -/
def Ends (r : Except (List Char) (Option Style)) : Prop :=
  ∃ found, r = .ok found ∧ ∀ style ∈ found, style.Plain

theorem ends_none : Ends (.ok none) :=
  ⟨none, rfl, nofun⟩

/-- A word that may be a color leads to an end when what follows it does. -/
theorem ends_isColor {r : Except (List Char) (Option Style)} (hword : Uncolored word)
    (h : Ends r) : Ends (do if ← isColor word then r else pure none) := by
  obtain ⟨found, hfound⟩ := exists_isColor hword
  rw [hfound]
  cases found with
  | false => exact ends_none
  | true => exact h

/-- Uncolored words are always read, and what they stand for is made of them. -/
theorem ends_ofWords {style : Style} (hstyle : style.Plain) (h : ∀ w ∈ ws, Uncolored w) :
    Ends (ofWords style ws) := by
  fun_induction ofWords style ws with
  | case1 style => exact ⟨some style, rfl, fun found hfound => by cases hfound; exact hstyle⟩
  | case2 style given word hon color more ih =>
      have hcolor := (h color (by simp)).toSmall
      refine ends_isColor hcolor
        (ih ⟨hstyle.color, ?_, hstyle.link⟩ fun w hw => h w (by simp [hw]))
      intro w hw
      cases hw
      exact hcolor
  | case3 => exact ends_none
  | case4 style given word hon hnot name more a ha ih =>
      exact ih (hstyle.want a false) fun w hw => h w (by simp [hw])
  | case5 => exact ends_none
  | case6 => exact ends_none
  | case7 style given word hon hnot hlink target more ih =>
      refine ih ⟨hstyle.color, hstyle.ground, ?_⟩ fun w hw => h w (by simp [hw])
      intro w hw
      cases hw
      exact h target (by simp)
  | case8 => exact ends_none
  | case9 style given more word hon hnot hlink a ha ih =>
      exact ih (hstyle.want a true) fun w hw => h w (by simp [hw])
  | case10 style given more word hon hnot hlink hnone ih =>
      have hcolor : Uncolored word := (h given (by simp)).toSmall
      refine ends_isColor hcolor
        (ih ⟨?_, hstyle.ground, hstyle.link⟩ fun w hw => h w (by simp [hw]))
      intro w hw
      cases hw
      exact hcolor

end Style

theorem Uncolored.ends_ofText (h : Uncolored s) : Style.Ends (Style.ofText s) := by
  have hnothing : Style.Plain {} := ⟨nofun, nofun, nofun⟩
  unfold Style.ofText
  split
  · exact ⟨_, rfl, fun style hstyle => by cases hstyle; exact hnothing⟩
  · exact Style.ends_ofWords hnothing h.blankPieces

/-- The normal form of an uncolored text is known, and is uncolored. -/
theorem Uncolored.exists_normal (h : Uncolored s) :
    ∃ name, Style.normal s = .ok name ∧ Uncolored name := by
  obtain ⟨found, hfound, hplain⟩ := h.ends_ofText
  cases found with
  | none => exact ⟨_, by rw [Style.normal, hfound]; rfl, h.strip.toSmall⟩
  | some style =>
      refine ⟨_, by rw [Style.normal, hfound]; rfl, ?_⟩
      dsimp only
      split
      · decide
      · exact uncolored_intercalate (hplain style rfl).words

/-! ## Words of two styles -/

/-- A name among the names of colors is a color. -/
theorem isColor_of_mem {names : String} (h : names ∈ colorNames)
    (hword : (blankPieces names.toList).contains word = true) : isColor word = .ok true := by
  have hany : colorNames.any (fun names => (blankPieces names.toList).contains word) = true :=
    List.any_eq_true.mpr ⟨names, h, hword⟩
  have hsimple : isSimpleColor word = true := by
    unfold isSimpleColor
    dsimp only
    rw [hany, Bool.or_true, Bool.true_or, Bool.true_or]
  rw [isColor, if_pos hsimple]

/-- A color that is read as it stands, as no other word of a style. -/
structure ColorWord (color : List Char) : Prop where
  found : isColor color = .ok true
  small : Text.toSmall color = color
  unlike : attribute? color = none ∧ ∀ w ∈ ["on", "not", "link"], (color == w.toList) = false

theorem ColorWord.ofWords_eq (h : ColorWord color) (style : Style) :
    style.ofWords [color] = .ok (some { style with color := some color }) := by
  obtain ⟨hattribute, hunlike⟩ := h.unlike
  simp only [List.forall_mem_cons] at hunlike
  rw [Style.ofWords]
  simp only [h.small, hunlike, hattribute, h.found, bind, Except.bind, Bool.false_eq_true,
    if_false, if_true]
  rfl

/-- Words for a bold text in a color are their own normal form. -/
theorem ColorWord.normal_bold (h : ColorWord color)
    (hpieces : blankPieces ("bold ".toList ++ color) = ["bold".toList, color])
    (hstrip : strip ("bold ".toList ++ color) ≠ "none".toList) :
    Style.normal ("bold ".toList ++ color) = .ok ("bold ".toList ++ color) := by
  have hbold : Style.ofWords {} ["bold".toList, color] =
      Style.ofWords { wanted := [("bold", true)] } [color] := rfl
  have hread : Style.ofText ("bold ".toList ++ color) =
      .ok (some { wanted := [("bold", true)], color := some color }) := by
    rw [Style.ofText, if_neg (by simpa using hstrip), hpieces, hbold, h.ofWords_eq]
  rw [Style.normal, hread]
  simp [Except.map, Style.words, attributes, List.lookup_cons, List.intercalate]

theorem colorWord_red : ColorWord "red".toList :=
  ⟨isColor_of_mem (List.getElem_mem (l := colorNames) (n := 23) (by decide)) (by decide +kernel),
    by decide, by decide⟩

theorem colorWord_green : ColorWord "green".toList :=
  ⟨isColor_of_mem (List.getElem_mem (l := colorNames) (n := 10) (by decide)) (by decide +kernel),
    by decide, by decide⟩

end Terminal
end YamlTidy
