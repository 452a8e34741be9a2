import YamlTidy.Text.Case

/-!
# What letters become

A letter is moved by the run that it is in, so which letters become a given one is read off the
tables (`shifted_cases`).  The signs `*`, `?`, `[` and `/` are out of reach of both tables, so
that a text without them has none in small or in capital letters either.
-/

namespace YamlTidy
namespace Text

variable {c d : Char} {s before rest : List Char}

theorem toNat_of_ofNat {n : Nat} (h : Char.ofNat n = c) (hc : c.toNat ≠ 0) : n = c.toNat := by
  subst h
  by_cases hvalid : n.isValidChar
  · rw [Char.ofNat, dif_pos hvalid]
    rfl
  · rw [Char.ofNat, dif_neg hvalid] at hc
    exact absurd rfl hc

/-- A letter stays, or it has been moved by a run. -/
theorem shifted_cases {runs : List Run} (h : shifted runs c = d) (hd : d.toNat ≠ 0) :
    c = d ∨ ∃ r ∈ runs, r.first ≤ c.toNat ∧ c.toNat ≤ r.last ∧
      (c.toNat : Int) + r.shift = d.toNat := by
  unfold shifted at h
  split at h
  · next r hr =>
      have hcontains := List.find?_some hr
      simp only [Run.contains, Bool.and_eq_true, decide_eq_true_eq] at hcontains
      have hcode := toNat_of_ofNat h hd
      exact Or.inr ⟨r, List.mem_of_find?_eq_some hr, hcontains.1.1, hcontains.1.2, by omega⟩
  · exact Or.inl h

/-! ## Small letters -/

theorem smallLetter_ne_nil (before : List Char) (c : Char) (rest : List Char) :
    smallLetter before c rest ≠ [] := by
  unfold smallLetter
  split
  · nofun
  · split <;> nofun

/-- Only one code is moved to that of a small y. -/
theorem shift_of_small_y :
    ∀ r ∈ capitalRuns, (r.first : Int) + r.shift ≤ 121 →
      121 ≤ (r.last : Int) + r.shift →
      r.shift = 32 := by
  decide +kernel

theorem shifted_eq_y (h : shifted capitalRuns c = 'y') : c = 'y' ∨ c = 'Y' := by
  have hy : ('y').toNat = 121 := rfl
  rcases shifted_cases h (by decide) with hstays | ⟨r, hmem, hfirst, hlast, hcode⟩
  · exact Or.inl hstays
  · have hshift := shift_of_small_y r hmem (by omega) (by omega)
    refine Or.inr (Char.toNat_inj.mp ?_)
    have hY : ('Y').toNat = 89 := rfl
    omega

theorem smallLetter_eq_y (h : smallLetter before c rest = ['y']) : c = 'y' ∨ c = 'Y' := by
  unfold smallLetter at h
  split at h
  · cases h
  · split at h
    · split at h <;> cases h
    · exact shifted_eq_y (List.cons.inj h).1

/-- A text that is a small y in small letters is a small or a capital one. -/
theorem toSmall_eq_y : toSmall s = ['y'] ↔ s = ['y'] ∨ s = ['Y'] := by
  constructor
  · intro h
    cases s with
    | nil => cases h
    | cons c rest =>
        rw [toSmall, smallFrom] at h
        rcases List.append_eq_cons_iff.mp h with ⟨hnil, -⟩ | ⟨others, hc, hrest⟩
        · exact absurd hnil (smallLetter_ne_nil [] c rest)
        · obtain ⟨rfl, hnone⟩ := List.append_eq_nil_iff.mp hrest.symm
          have hnil : rest = [] := by
            cases rest with
            | nil => rfl
            | cons d more =>
                exact absurd (List.append_eq_nil_iff.mp hnone).1 (smallLetter_ne_nil [c] d more)
          rw [hnil]
          exact (smallLetter_eq_y hc).imp (fun hy => by rw [hy]) (fun hy => by rw [hy])
  · rintro (rfl | rfl) <;> decide

/-! ## Signs of patterns -/

/-- A character that stands for something else in a pattern, or parts names. -/
def isSign (c : Char) : Bool :=
  c == '*' || c == '?' || c == '[' || c == '/'

/-- A text that stands for itself in a pattern and is within one name. -/
def Literal (s : List Char) : Prop :=
  ∀ c ∈ s, isSign c = false

instance (s : List Char) : Decidable (Literal s) :=
  List.decidableBAll (fun c => isSign c = false) s

theorem isSign_iff : isSign c = true ↔ c = '*' ∨ c = '?' ∨ c = '[' ∨ c = '/' := by
  simp [isSign, or_assoc]

/-- No run leads to a sign. -/
theorem no_run_to_sign : ∀ d ∈ ['*', '?', '[', '/'], ∀ r ∈ capitalRuns ++ smallRuns,
    (r.last : Int) + r.shift < d.toNat ∨ (d.toNat : Int) < r.first + r.shift := by
  simp only [List.forall_mem_cons, List.not_mem_nil, false_implies, implies_true, and_true]
  decide +kernel

theorem no_sign_among_several :
    ∀ e ∈ smallToSeveral, ∀ n ∈ e.2, isSign (Char.ofNat n) = false := by
  decide

theorem isSign_shifted {runs : List Run} (hruns : runs ⊆ capitalRuns ++ smallRuns)
    (hc : isSign c = false) : isSign (shifted runs c) = false := by
  refine Bool.eq_false_iff.mpr fun hsign => ?_
  generalize hd : shifted runs c = d at hsign
  have hmem : d ∈ ['*', '?', '[', '/'] := by
    rcases isSign_iff.mp hsign with rfl | rfl | rfl | rfl <;> decide
  have hcode : d.toNat ≠ 0 := by
    rcases isSign_iff.mp hsign with rfl | rfl | rfl | rfl <;> decide
  rcases shifted_cases hd hcode with rfl | ⟨r, hr, hfirst, hlast, hshift⟩
  · rw [hc] at hsign
    cases hsign
  · rcases no_run_to_sign d hmem r (hruns hr) <;> omega

theorem literal_smallLetter (hc : isSign c = false) : Literal (smallLetter before c rest) := by
  intro d hd
  unfold smallLetter at hd
  split at hd
  · simp only [List.mem_cons, List.not_mem_nil, or_false] at hd
    rcases hd with rfl | rfl <;> decide
  · split at hd
    · rw [List.mem_singleton.mp hd]
      split <;> decide
    · rw [List.mem_singleton.mp hd]
      exact isSign_shifted (List.subset_append_left _ _) hc

theorem literal_toSmall (h : Literal s) : Literal (toSmall s) := by
  have hfrom (before : List Char) : Literal (smallFrom before s) := by
    induction s generalizing before with
    | nil => nofun
    | cons c rest ih =>
        obtain ⟨hc, hrest⟩ := List.forall_mem_cons.mp h
        exact List.forall_mem_append.mpr ⟨literal_smallLetter hc, ih hrest (c :: before)⟩
  exact hfrom []

theorem literal_toCapital (h : Literal s) : Literal (toCapital s) := by
  intro d hd
  obtain ⟨c, hc, hd⟩ := List.mem_flatMap.mp hd
  split at hd
  · next codes hcodes =>
      obtain ⟨n, hn, rfl⟩ := List.mem_map.mp hd
      obtain ⟨l₁, l₂, hsplit, -⟩ := List.lookup_eq_some_iff.mp hcodes
      exact no_sign_among_several (c.toNat, codes) (by simp [hsplit]) n hn
  · rw [List.mem_singleton.mp hd]
    exact isSign_shifted (List.subset_append_right _ _) (h c hc)

end Text
end YamlTidy
