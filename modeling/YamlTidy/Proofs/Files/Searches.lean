import YamlTidy.Proofs.Files.Resolving
import YamlTidy.Proofs.Workspace.Backups

/-!
# What searches find

A search goes down from a directory, by names of entries and by those that its pattern spells out.
So what it finds is the path of the directory with some names behind it (`down_of_search`), and a
workspace that shows such a path gives a text from which the same names are read (`ofText_text`).

Main statement: `file_of_discover`, for the files that a workspace discovers.
-/

namespace YamlTidy

open Files

namespace Files

variable {n : Name} {p q here : Path} {steps : List Name} {s : List Char}

/-! ## Names that are shown and read again -/

theorem pieces_of_noSlash (h : '/' ∉ n) : pieces n = [n] := by
  induction n with
  | nil => rfl
  | cons c rest ih =>
      obtain ⟨hc, hrest⟩ := List.ne_and_not_mem_of_not_mem_cons h
      rw [pieces, if_neg (Ne.symm hc), ih hrest]

theorem pieces_append_slash (h : '/' ∉ n) : pieces (n ++ '/' :: s) = n :: pieces s := by
  induction n with
  | nil => simp [pieces]
  | cons c rest ih =>
      obtain ⟨hc, hrest⟩ := List.ne_and_not_mem_of_not_mem_cons h
      rw [List.cons_append, pieces, if_neg (Ne.symm hc), ih hrest]

theorem pieces_joined (hne : steps ≠ []) (h : ∀ n ∈ steps, '/' ∉ n) :
    pieces (joined steps) = steps := by
  induction steps with
  | nil => exact absurd rfl hne
  | cons n rest ih =>
      obtain ⟨hn, hrest⟩ := List.forall_mem_cons.mp h
      cases rest with
      | nil => simpa [joined] using pieces_of_noSlash hn
      | cons m more =>
          have hjoined : joined (n :: m :: more) = n ++ '/' :: joined (m :: more) := by
            simp [joined]
          rw [hjoined, pieces_append_slash hn, ih (List.cons_ne_nil m more) hrest]

theorem namesOf_joined (hne : steps ≠ []) (h : Spelled steps) :
    namesOf (joined steps) = steps := by
  rw [namesOf, pieces_joined hne fun n hn => (h n hn).noSlash, List.filter_eq_self]
  intro n hn
  simp [(h n hn).ne_nil, (h n hn).ne_stay]

theorem head_joined (h : Spelled steps) : (joined steps).head? ≠ some '/' := by
  intro hhead
  obtain ⟨more, hjoined⟩ : ∃ more, joined steps = '/' :: more :=
    ⟨_, List.eq_cons_of_mem_head? hhead⟩
  by_cases hne : steps = []
  · subst hne
    cases hjoined
  · -- The first piece would be an empty name.
    have hpieces := pieces_joined hne fun n hn => (h n hn).noSlash
    rw [hjoined, pieces, if_pos rfl] at hpieces
    exact (h [] (by rw [← hpieces]; exact List.mem_cons_self)).ne_nil rfl

/-- From a relative path that is shown its names are read again. -/
theorem ofText_text (h : Spelled steps) :
    WrittenPath.ofText (WrittenPath.text ⟨false, steps⟩) = ⟨false, steps⟩ := by
  by_cases hne : steps = []
  · subst hne
    decide
  · have hempty : steps.isEmpty = false := by simpa using hne
    simp only [WrittenPath.text, hempty, Bool.false_eq_true, if_false]
    simp [WrittenPath.ofText, namesOf_joined hne h, head_joined h]

/-! ## Going down -/

/-- A path goes down from another one by names that texts can give. -/
def Down (here p : Path) : Prop :=
  ∃ steps, p = here ++ steps ∧ Spelled steps

theorem Down.refl (p : Path) : Down p p :=
  ⟨[], (List.append_nil p).symm, nofun⟩

theorem Down.trans (h : Down here p) (hq : Down p q) : Down here q := by
  obtain ⟨front, rfl, hfront⟩ := h
  obtain ⟨back, rfl, hback⟩ := hq
  exact ⟨front ++ back, List.append_assoc here front back, hfront.append hback⟩

theorem down_concat (h : IsStep n) : Down here (here ++ [n]) :=
  ⟨[n], rfl, spelled_singleton h⟩

theorem Down.spelled (h : Down here p) (hhere : Spelled here) : Spelled p := by
  obtain ⟨steps, rfl, hsteps⟩ := h
  exact hhere.append hsteps

namespace FileSystem

variable {fs : FileSystem} {parts : List Segment} {depth : Nat}

/-- Everything stands at a path whose names texts can give, without steps up. -/
def Named (fs : FileSystem) : Prop :=
  ∀ e ∈ fs.entries, Spelled e.1 ∧ up ∉ e.1

instance (fs : FileSystem) : Decidable (Named fs) :=
  inferInstanceAs (Decidable (∀ e ∈ fs.entries, Spelled e.1 ∧ up ∉ e.1))

/-- The path of anything that stands somewhere is such a path. -/
theorem Named.path {e : Entry} (h : Named fs) (hp : fs.entry? p = some e) :
    Spelled p ∧ up ∉ p := by
  by_cases hroot : p = []
  · subst hroot
    exact ⟨nofun, List.not_mem_nil⟩
  · obtain ⟨listed, hlisted, rfl⟩ := List.mem_map.mp (mem_entries hroot hp)
    exact h listed hlisted

theorem Named.step_of_listing (h : Named fs) (hn : n ∈ fs.listing p) : IsStep n := by
  unfold listing at hn
  split at hn
  · next place hplace =>
      obtain ⟨e, he, hname⟩ := List.mem_filterMap.mp hn
      split at hname
      · next m hbelow =>
          cases hname
          have hpath := Workspace.eq_append_of_below hbelow
          exact (h e he).1 n (by simp [hpath])
      · cases hname
  · cases hn

theorem down_of_listing (h : Named fs) (hp : p ∈ (fs.listing here).map fun n => here ++ [n]) :
    Down here p := by
  obtain ⟨n, hn, rfl⟩ := List.mem_map.mp hp
  exact down_concat (h.step_of_listing hn)

theorem down_of_directoriesBelow (h : Named fs) (hp : p ∈ fs.directoriesBelow depth here) :
    Down here p := by
  induction depth generalizing here with
  | zero =>
      rw [List.mem_singleton.mp hp]
      exact Down.refl here
  | succ depth ih =>
      rcases List.mem_cons.mp hp with rfl | hinner
      · exact Down.refl p
      · obtain ⟨q, hq, hpq⟩ := List.mem_flatMap.mp hinner
        exact (down_of_listing h (List.mem_filter.mp hq).1).trans (ih hpq)

theorem down_of_select (h : Named fs) (hparts : ∀ n, .exactly n ∈ parts → IsStep n)
    (hp : p ∈ fs.select parts here) : Down here p := by
  induction parts generalizing here with
  | nil =>
      rw [List.mem_singleton.mp hp]
      exact Down.refl here
  | cons part rest ih =>
      have hrest : ∀ n, .exactly n ∈ rest → IsStep n := fun n hn =>
        hparts n (List.mem_cons_of_mem part hn)
      cases part with
      | anyDepth =>
          obtain ⟨q, hq, hpq⟩ := List.mem_flatMap.mp hp
          exact (down_of_directoriesBelow h hq).trans (ih hrest hpq)
      | matching pattern =>
          obtain ⟨q, hq, hpq⟩ := List.mem_flatMap.mp hp
          obtain ⟨n, hn, rfl⟩ := List.mem_map.mp (List.mem_filter.mp hq).1
          have hstep := h.step_of_listing (List.mem_filter.mp hn).1
          exact (down_concat hstep).trans (ih hrest hpq)
      | exactly n =>
          have hnext := (List.mem_ite_nil_right.mp hp).2
          exact (down_concat (hparts n List.mem_cons_self)).trans (ih hrest hnext)

/-- The names that a pattern spells out are those of its text. -/
theorem mem_of_segments {names : List Name} (h : segments? names = some parts)
    (hn : .exactly n ∈ parts) : n ∈ names := by
  induction names generalizing parts with
  | nil =>
      cases h
      cases hn
  | cons m rest ih =>
      simp only [segments?, Option.bind_eq_bind, Option.bind_eq_some_iff, Option.pure_def,
        Option.some.injEq] at h
      obtain ⟨part, hpart, more, hmore, rfl⟩ := h
      rcases List.mem_cons.mp hn with rfl | hn
      · unfold Segment.ofName? at hpart
        split at hpart
        · cases hpart
        · split at hpart
          · cases hpart
          · split at hpart <;> cases hpart
            exact List.mem_cons_self
      · exact List.mem_cons_of_mem m (ih hmore hn)

/-- What a search finds is below the directory that is searched. -/
theorem down_of_search {directory : Path} {pattern : List Char} {found : List Path}
    (h : Named fs) (hfound : fs.search directory pattern = some found) (hp : p ∈ found) :
    Down directory p := by
  simp only [search, Option.bind_eq_bind, Option.bind_eq_some_iff, Option.pure_def] at hfound
  obtain ⟨parts, hparts, hfound⟩ := hfound
  have hselected : ∀ q ∈ fs.select (.anyDepth :: parts) directory, Down directory q := by
    intro q hq
    refine down_of_select h (fun n hn => ?_) hq
    rcases List.mem_cons.mp hn with hanyDepth | hn
    · cases hanyDepth
    · exact spelled_namesOf pattern n (mem_of_segments hparts hn)
  split at hfound
  · cases hfound
    cases hp
  · cases hfound
    split at hp
    · exact hselected p (List.mem_filter.mp hp).1
    · exact hselected p hp

theorem stat_eq_ok {e : Entry} : fs.stat p = .ok e ↔
    ∃ place, fs.locate p = .ok place ∧ fs.entry? place = some e := by
  unfold stat
  cases hlocate : fs.locate p with
  | error f => simp
  | ok place => cases hentry : fs.entry? place <;> simp [hentry]

theorem isFile_eq_true :
    fs.isFile p = .ok true ↔ ∃ bytes time, fs.stat p = .ok (.file bytes time) := by
  unfold isFile stat?
  cases hstat : fs.stat p with
  | error f =>
      dsimp only
      split <;> simp [Except.map]
  | ok e => cases e <;> simp [Except.map, Entry.isFile]

end FileSystem

/-! ## Order -/

theorem mem_of_mem_place {ps : List Path} (h : q ∈ place p ps) : q = p ∨ q ∈ ps := by
  induction ps with
  | nil => exact Or.inl (List.mem_singleton.mp h)
  | cons first rest ih =>
      unfold place at h
      split at h
      · exact Or.inr h
      · split at h
        · exact List.mem_cons.mp h
        · rcases List.mem_cons.mp h with rfl | hrest
          · exact Or.inr List.mem_cons_self
          · exact (ih hrest).imp_right (List.mem_cons_of_mem first)

theorem mem_of_mem_ascending {ps : List Path} (h : q ∈ ascending ps) : q ∈ ps := by
  induction ps with
  | nil => exact h
  | cons p rest ih =>
      rcases mem_of_mem_place h with rfl | hrest
      · exact List.mem_cons_self
      · exact List.mem_cons_of_mem p (ih hrest)

end Files

namespace Workspace

open FileSystem

variable {ws : Workspace} {fs : FileSystem} {f : Path} {found : List Path}
  {extension : List Char}
  {maxDepth : Int}

/-- The own files among some paths, when all of these can be looked at. -/
theorem mem_ownFiles {ps own : List Path} (h : ownFiles fs ps = .ok own) :
    f ∈ own ↔ f ∈ ps ∧ fs.isFile f = .ok true ∧ fs.isLink f = false := by
  induction ps generalizing own with
  | nil =>
      cases h
      simp
  | cons p rest ih =>
      rw [ownFiles] at h
      split at h
      · cases h
      · next isFile hfile =>
          cases hrest : ownFiles fs rest with
          | error fault =>
              rw [hrest] at h
              cases h
          | ok others =>
              rw [hrest] at h
              cases h
              have hthis : f = p → fs.isFile f = .ok isFile := fun heq => heq ▸ hfile
              cases isFile <;> cases hlink : fs.isLink p <;>
                grind

/-- **Discovered files.**  A file that a workspace discovers is below its root, and its path leads
to a file. -/
theorem file_of_discover (h : Named fs) (hfound : ws.discover fs extension maxDepth = .ok found)
    (hf : f ∈ found) :
    Down ws.root f ∧ ∃ place bytes time, fs.locate f = .ok place ∧
      fs.entry? place = some (.file bytes time) := by
  unfold discover at hfound
  dsimp only at hfound
  split at hfound
  · next small capital hsmall hcapital =>
      split at hfound
      · cases hfound
      · next own hown =>
          cases hfound
          obtain ⟨hmem, hfile, -⟩ :=
            (mem_ownFiles hown).mp (mem_of_mem_ascending (List.mem_filter.mp hf).1)
          have hbelow : Down ws.root f := by
            rcases List.mem_append.mp hmem with hmem | hmem
            · exact down_of_search h hsmall hmem
            · exact down_of_search h hcapital hmem
          obtain ⟨bytes, time, hstat⟩ := isFile_eq_true.mp hfile
          obtain ⟨place, hplace, hentry⟩ := stat_eq_ok.mp hstat
          exact ⟨hbelow, place, bytes, time, hplace, hentry⟩
  · cases hfound

/-- A path that a workspace shows leads where it led. -/
theorem locate_of_shown {path : List Char} (h : Down ws.root f)
    (hshown : ws.shown f = .ok path) :
    ws.locate fs path = settled fs f := by
  obtain ⟨steps, rfl, hsteps⟩ := h
  unfold shown at hshown
  split at hshown
  · next below hbelow =>
      obtain rfl := List.append_cancel_left (eq_append_of_below hbelow)
      cases hshown
      rw [locate, ofText_text hsteps]
      rfl
  · cases hshown

end Workspace
end YamlTidy
