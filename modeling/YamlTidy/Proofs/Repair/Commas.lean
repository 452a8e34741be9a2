import YamlTidy.Proofs.Repair.Surface

/-!
# Trailing commas in one pass

Leftover commas are deleted round by round, as one that goes can make another one a leftover.
This module says at once which commas are gone in the end: a comma trails when the run of blanks
*and commas* right behind it holds a line feed or is followed by a closing bracket (`Reaches
isSlack`), and `dropTrailing` deletes these commas in a single pass.

* A round of `dropCommasOnce` is a substitution of matches from left to right (`round_iff`).
* It changes nothing for `dropTrailing` (`dropTrailing_dropCommasOnce`), and where a round deletes
  nothing `dropTrailing` does not either (`dropTrailing_eq_self`).

Main statement: `rounds_end_in_dropTrailing`.
-/

namespace YamlTidy
namespace Repair

open Text

/-! ## What stands behind a comma -/

/-- A character that a run behind a comma has to reach: a line feed or a closing bracket. -/
def IsCloser (c : Char) : Prop :=
  c = '\n' ∨ c = ']' ∨ c = '}'

instance (c : Char) : Decidable (IsCloser c) :=
  inferInstanceAs (Decidable (_ ∨ _ ∨ _))

/-- The longest run of characters of a kind that a text begins with holds a line feed, or a closing
bracket follows it. -/
def Reaches (kind : Char → Bool) (s : List Char) : Prop :=
  '\n' ∈ s.takeWhile kind ∨
    (s.dropWhile kind).head? = some ']' ∨ (s.dropWhile kind).head? = some '}'

instance (kind : Char → Bool) (s : List Char) : Decidable (Reaches kind s) :=
  inferInstanceAs (Decidable (_ ∨ _ ∨ _))

/-- A blank or a comma. -/
def isSlack (c : Char) : Bool :=
  isBlank c || c == ','

section Reaches

variable {kind : Char → Bool}

theorem not_reaches_nil : ¬ Reaches kind [] := by
  simp [Reaches]

/-- A run of blanks, line feeds among them, reaches what its first character is or its rest
reaches. -/
theorem reaches_cons (hfeed : kind '\n' = true) (hsquare : kind ']' = false)
    (hcurly : kind '}' = false) {c : Char} {rest : List Char} :
    Reaches kind (c :: rest) ↔ IsCloser c ∨ kind c = true ∧ Reaches kind rest := by
  unfold Reaches IsCloser
  by_cases hc : kind c = true
  · have hnsquare : c ≠ ']' := fun e => by simp [e, hsquare] at hc
    have hncurly : c ≠ '}' := fun e => by simp [e, hcurly] at hc
    simp [hc, hnsquare, hncurly, eq_comm, or_assoc]
  · have hnfeed : c ≠ '\n' := fun e => hc (e ▸ hfeed)
    simp [hc, hnfeed]

theorem reaches_blank_cons {c : Char} {rest : List Char} :
    Reaches isBlank (c :: rest) ↔ IsCloser c ∨ isBlank c = true ∧ Reaches isBlank rest :=
  reaches_cons (by decide) (by decide) (by decide)

theorem reaches_slack_cons {c : Char} {rest : List Char} :
    Reaches isSlack (c :: rest) ↔ IsCloser c ∨ isSlack c = true ∧ Reaches isSlack rest :=
  reaches_cons (by decide) (by decide) (by decide)

end Reaches

/-- A comma is a leftover when the blanks behind it reach a line feed or a closing bracket. -/
theorem closes_eq_true_iff {s : List Char} : closes s = true ↔ Reaches isBlank s := by
  induction s with
  | nil => simp [closes, not_reaches_nil]
  | cons c rest ih =>
      rw [reaches_blank_cons, ← ih]
      simp [closes, IsCloser, or_assoc]

/-- Blanks up to a closer are what makes a comma a leftover. -/
theorem reaches_blank_iff_exists {s : List Char} : Reaches isBlank s ↔
    ∃ gap closer rest, (∀ c ∈ gap, isBlank c = true) ∧ IsCloser closer ∧
      s = gap ++ closer :: rest := by
  constructor
  · intro h
    induction s with
    | nil => exact absurd h not_reaches_nil
    | cons c rest ih =>
        rcases reaches_blank_cons.mp h with hcloser | ⟨hblank, hrest⟩
        · exact ⟨[], c, rest, by simp, hcloser, rfl⟩
        · obtain ⟨gap, closer, more, hgap, hcloser, rfl⟩ := ih hrest
          exact ⟨c :: gap, closer, more, List.forall_mem_cons.mpr ⟨hblank, hgap⟩,
            hcloser, rfl⟩
  · rintro ⟨gap, closer, rest, hgap, hcloser, rfl⟩
    induction gap with
    | nil => exact reaches_blank_cons.mpr (Or.inl hcloser)
    | cons c gap ih =>
        obtain ⟨hc, hgap⟩ := List.forall_mem_cons.mp hgap
        exact reaches_blank_cons.mpr (Or.inr ⟨hc, ih hgap⟩)

/-! ## Rounds -/

/-- One round from left to right.  Where a comma with blanks and a closer behind it is found, the
comma goes, the blanks and the closer stay, and the search goes on behind the closer; which closer
that is, if there are several, is left open. -/
inductive Round : List Char → List Char → Prop where
  | done : Round [] []
  | delete {gap rest left : List Char} {closer : Char} (blank : ∀ c ∈ gap, isBlank c = true)
      (closes : IsCloser closer) (goOn : Round rest left) :
      Round (',' :: (gap ++ closer :: rest)) (gap ++ closer :: left)
  | keep {c : Char} {rest left : List Char} (noMatch : c = ',' → ¬ Reaches isBlank rest)
      (goOn : Round rest left) : Round (c :: rest) (c :: left)

/-- Rounds until one changes nothing, and the text that comes out. -/
inductive Rounds : List Char → List Char → Prop where
  | last {s : List Char} (round : Round s s) : Rounds s s
  | again {s t u : List Char} (round : Round s t) (changed : t ≠ s) (more : Rounds t u) :
      Rounds s u

theorem ne_comma_of_isBlank {c : Char} (h : isBlank c = true) : c ≠ ',' := by
  rintro rfl
  exact absurd h (by decide)

theorem IsCloser.ne_comma {c : Char} (h : IsCloser c) : c ≠ ',' := by
  rintro rfl
  exact absurd h (by decide)

theorem dropCommasOnce_of_ne {c : Char} (hc : c ≠ ',') (rest : List Char) :
    dropCommasOnce (c :: rest) = c :: dropCommasOnce rest := by
  simp [dropCommasOnce, hc]

theorem dropCommasOnce_of_reaches {rest : List Char} (h : Reaches isBlank rest) :
    dropCommasOnce (',' :: rest) = dropCommasOnce rest := by
  simp [dropCommasOnce, closes_eq_true_iff.mpr h]

theorem dropCommasOnce_of_not_reaches {rest : List Char} (h : ¬ Reaches isBlank rest) :
    dropCommasOnce (',' :: rest) = ',' :: dropCommasOnce rest := by
  simp [dropCommasOnce, mt closes_eq_true_iff.mp h]

/-- No comma is among the blanks and the closer of a match, so they stay as they are. -/
theorem dropCommasOnce_gap {gap rest : List Char} {closer : Char}
    (hgap : ∀ c ∈ gap, isBlank c = true) (hcloser : IsCloser closer) :
    dropCommasOnce (gap ++ closer :: rest) = gap ++ closer :: dropCommasOnce rest := by
  induction gap with
  | nil => exact dropCommasOnce_of_ne hcloser.ne_comma rest
  | cons c gap ih =>
      obtain ⟨hc, hgap⟩ := List.forall_mem_cons.mp hgap
      rw [List.cons_append, dropCommasOnce_of_ne (ne_comma_of_isBlank hc), ih hgap]
      rfl

/-- A round comes out the same whichever matches are taken. -/
theorem eq_of_round {s t : List Char} (h : Round s t) : t = dropCommasOnce s := by
  induction h with
  | done => rfl
  | delete blank closes goOn ih =>
      rw [dropCommasOnce_of_reaches
        (reaches_blank_iff_exists.mpr ⟨_, _, _, blank, closes, rfl⟩),
        dropCommasOnce_gap blank closes, ← ih]
  | @keep c rest left noMatch goOn ih =>
      by_cases hc : c = ','
      · subst hc
        rw [dropCommasOnce_of_not_reaches (noMatch rfl), ← ih]
      · rw [dropCommasOnce_of_ne hc, ← ih]

/-- There is a round over every text. -/
theorem exists_round (s : List Char) : ∃ t, Round s t := by
  -- A match takes several characters at once, so the induction is on the length.
  induction hlength : s.length using Nat.strong_induction_on generalizing s with
  | _ length ih =>
      cases s with
      | nil => exact ⟨[], .done⟩
      | cons c rest =>
          by_cases hmatch : c = ',' ∧ Reaches isBlank rest
          · obtain ⟨rfl, hreaches⟩ := hmatch
            obtain ⟨gap, closer, more, hgap, hcloser, rfl⟩ :=
              reaches_blank_iff_exists.mp hreaches
            obtain ⟨left, hleft⟩ := ih more.length (by simp at hlength; omega) more rfl
            exact ⟨_, .delete hgap hcloser hleft⟩
          · obtain ⟨left, hleft⟩ := ih rest.length (by simp at hlength; omega) rest rfl
            exact ⟨_, .keep (fun hc hreaches => hmatch ⟨hc, hreaches⟩) hleft⟩

/-- The text behind a round. -/
theorem round_iff {s t : List Char} : Round s t ↔ t = dropCommasOnce s := by
  constructor
  · exact eq_of_round
  · rintro rfl
    obtain ⟨t, ht⟩ := exists_round s
    rwa [← eq_of_round ht]

/-- With rounds enough for its commas a text is behind its last round. -/
theorem rounds_dropCommasWithin {n : Nat} {s : List Char} (h : s.count ',' ≤ n) :
    Rounds s (dropCommasWithin n s) := by
  induction n generalizing s with
  | zero =>
      rcases count_dropCommasOnce s with hfixed | hless
      · exact .last (round_iff.mpr hfixed.symm)
      · omega
  | succ n ih =>
      unfold dropCommasWithin
      simp only
      split
      · next hfixed => exact .last (round_iff.mpr hfixed.symm)
      · next hchanged =>
          rcases count_dropCommasOnce s with hfixed | hless
          · exact absurd hfixed hchanged
          · exact .again (round_iff.mpr rfl) hchanged (ih (by omega))

/-! ## One pass -/

/-- The text without its trailing commas: those behind which blanks and commas reach a line feed
or a closing bracket. -/
def dropTrailing : List Char → List Char
  | [] => []
  | c :: rest =>
      if c = ',' ∧ Reaches isSlack rest then dropTrailing rest else c :: dropTrailing rest

theorem dropCommasOnce_cons_eq_self_iff {c : Char} {rest : List Char} :
    dropCommasOnce (c :: rest) = c :: rest ↔
      (c = ',' → closes rest = false) ∧ dropCommasOnce rest = rest := by
  simp only [dropCommasOnce_eq_self_iff]
  constructor
  · intro h
    refine ⟨?_, fun front back e => h (c :: front) back (by rw [e]; rfl)⟩
    rintro rfl
    exact h [] rest rfl
  · rintro ⟨hfirst, hrest⟩ front back e
    cases front with
    | nil =>
        obtain ⟨rfl, rfl⟩ := List.cons.inj e
        exact hfirst rfl
    | cons d front => exact hrest front back (List.cons.inj e).2

theorem reaches_slack_of_blank {s : List Char} (h : Reaches isBlank s) : Reaches isSlack s := by
  induction s with
  | nil => exact absurd h not_reaches_nil
  | cons c rest ih =>
      rw [reaches_blank_cons] at h
      rw [reaches_slack_cons]
      exact h.imp_right fun ⟨hblank, hrest⟩ => ⟨by simp [isSlack, hblank], ih hrest⟩

/-- A round keeps what a run of blanks and commas reaches. -/
theorem reaches_dropCommasOnce {s : List Char} :
    Reaches isSlack (dropCommasOnce s) ↔ Reaches isSlack s := by
  induction s with
  | nil => rfl
  | cons c rest ih =>
      unfold dropCommasOnce
      split
      · next hcomma =>
          obtain ⟨rfl, -⟩ : c = ',' ∧ closes rest = true := by simpa using hcomma
          have hcloser : ¬ IsCloser ',' := by decide
          have hslack : isSlack ',' = true := by decide
          rw [ih, reaches_slack_cons]
          simp [hcloser, hslack]
      · rw [reaches_slack_cons, reaches_slack_cons, ih]

/-- A round deletes trailing commas only, and none of the others becomes one. -/
theorem dropTrailing_dropCommasOnce (s : List Char) :
    dropTrailing (dropCommasOnce s) = dropTrailing s := by
  induction s with
  | nil => rfl
  | cons c rest ih =>
      unfold dropCommasOnce
      split
      · next hcomma =>
          obtain ⟨rfl, hcloses⟩ : c = ',' ∧ closes rest = true := by simpa using hcomma
          have htrails := reaches_slack_of_blank (closes_eq_true_iff.mp hcloses)
          rw [ih, dropTrailing, if_pos ⟨rfl, htrails⟩]
      · simp only [dropTrailing, reaches_dropCommasOnce, ih]

/-- Where no comma is a leftover, blanks and commas reach no further than blanks alone: the last
comma in front of the closer would be a leftover. -/
theorem reaches_slack_iff_blank {s : List Char} (h : dropCommasOnce s = s) :
    Reaches isSlack s ↔ Reaches isBlank s := by
  refine ⟨fun hslack => ?_, reaches_slack_of_blank⟩
  induction s with
  | nil => exact absurd hslack not_reaches_nil
  | cons c rest ih =>
      obtain ⟨hfirst, hrest⟩ := dropCommasOnce_cons_eq_self_iff.mp h
      rw [reaches_slack_cons] at hslack
      rw [reaches_blank_cons]
      refine hslack.imp_right fun ⟨hc, hreaches⟩ => ⟨?_, ih hrest hreaches⟩
      by_contra hblank
      have hcloses := hfirst (by simpa [isSlack, hblank] using hc)
      rw [closes_eq_true_iff.mpr (ih hrest hreaches)] at hcloses
      cases hcloses

theorem dropTrailing_eq_self {s : List Char} (h : dropCommasOnce s = s) :
    dropTrailing s = s := by
  induction s with
  | nil => rfl
  | cons c rest ih =>
      obtain ⟨hfirst, hrest⟩ := dropCommasOnce_cons_eq_self_iff.mp h
      have hkeep : ¬ (c = ',' ∧ Reaches isSlack rest) := by
        rintro ⟨hcomma, hreaches⟩
        have hcloses := hfirst hcomma
        rw [closes_eq_true_iff.mpr ((reaches_slack_iff_blank hrest).mp hreaches)] at hcloses
        cases hcloses
      rw [dropTrailing, if_neg hkeep, ih hrest]

theorem dropTrailing_of_rounds {s u : List Char} (h : Rounds s u) : u = dropTrailing s := by
  induction h with
  | last round => exact (dropTrailing_eq_self (round_iff.mp round).symm).symm
  | again round changed more ih =>
      rw [ih, round_iff.mp round, dropTrailing_dropCommasOnce]

/-- **Rounds of deletion come to one pass.**  The rounds over a text end, whichever matches each of
them takes, and what comes out is the text without its trailing commas, with all else in its order;
so does `dropCommas`. -/
theorem rounds_end_in_dropTrailing (s : List Char) :
    (∃ u, Rounds s u) ∧ (∀ u, Rounds s u ↔ u = dropTrailing s) ∧
      dropCommas s = dropTrailing s := by
  have hrounds : Rounds s (dropCommas s) := rounds_dropCommasWithin List.count_le_length
  refine ⟨⟨_, hrounds⟩, fun u => ⟨dropTrailing_of_rounds, ?_⟩,
    dropTrailing_of_rounds hrounds⟩
  rintro rfl
  rwa [← dropTrailing_of_rounds hrounds]

/-- Commas in front of a bracket and of a line feed go, also behind other ones; a comma between
words and one at the end of the text stay. -/
example : dropTrailing "a: [1, 2, ,\n ,]\nb, c,\t, \nd,".toList =
    "a: [1, 2 \n ]\nb, c\t \nd,".toList := by decide +kernel

end Repair
end YamlTidy
