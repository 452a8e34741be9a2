import YamlTidy.Proofs.Files.Changes
import YamlTidy.Proofs.Files.Patterns
import Mathlib.Data.List.Induction

/-!
# What searches reach

In a tree everything stands in a directory and can be reached by its path, so that a path is where
it leads unless a link stands there (`Tree.locate`).  A search that goes down from a directory
comes to all directories below it that no link is on the way to (`mem_directoriesBelow`): each of
them is an entry of its own, and so none is deeper than there are entries (`Tree.length_le`).

Main statement: `mem_search_ending`, for searches for the names with an ending.
-/

namespace YamlTidy
namespace Files
namespace FileSystem

open Text

variable {fs : FileSystem} {p q : Path} {n : Name} {steps : List Name} {e : Entry}
  {ending : List Char} {found : List Path} {depth : Nat}

theorem exists_entry {listed : Path × Entry} (h : listed ∈ fs.entries) :
    ∃ e, fs.entry? listed.1 = some e := by
  by_cases hroot : listed.1 = []
  · exact ⟨.directory, by rw [hroot, entry_nil]⟩
  · rw [entry_of_ne_nil hroot]
    cases hlookup : fs.entries.lookup listed.1 with
    | some e => exact ⟨e, rfl⟩
    | none =>
        have hother := List.lookup_eq_none_iff.mp hlookup listed h
        rw [bne_self_eq_false] at hother
        cases hother

theorem below_append (directory : Path) (steps : List Name) :
    Path.below? directory (directory ++ steps) = some steps := by
  simp [Path.below?]

/-! ## Trees -/

/-- Everything stands in a directory and can be reached by its path, and no directory is closed. -/
structure Tree (fs : FileSystem) : Prop where
  named : Named fs
  opened : ∀ listed ∈ fs.entries, listed.2 ≠ .closed
  inDirectory : ∀ listed ∈ fs.entries, fs.entry? listed.1.parent = some .directory
  fits : ∀ listed ∈ fs.entries, Fits listed.1
  nameable : ∀ listed ∈ fs.entries, ∀ n ∈ listed.1, '\x00' ∉ n

namespace Tree

theorem listed (hp : fs.entry? p = some e) :
    p = [] ∨ ∃ listed ∈ fs.entries, listed.1 = p := by
  by_cases hroot : p = []
  · exact Or.inl hroot
  · exact Or.inr (List.mem_map.mp (mem_entries hroot hp))

theorem allOpen (h : Tree fs) : AllOpen fs := by
  intro p hp
  have hroot : p ≠ [] := by
    rintro rfl
    cases hp
  rw [entry_of_ne_nil hroot, List.lookup_eq_some_iff] at hp
  obtain ⟨before, behind, hentries, -⟩ := hp
  exact h.opened (p, .closed) (by simp [hentries]) rfl

theorem directory_parent (h : Tree fs) (hp : fs.entry? p = some e) :
    fs.entry? p.parent = some .directory := by
  rcases listed hp with rfl | ⟨listed, hlisted, rfl⟩
  · rfl
  · exact h.inDirectory listed hlisted

theorem fits_path (h : Tree fs) (hp : fs.entry? p = some e) : Fits p := by
  rcases listed hp with rfl | ⟨listed, hlisted, rfl⟩
  · exact ⟨by decide, nofun⟩
  · exact h.fits listed hlisted

theorem nameable_path (h : Tree fs) (hp : fs.entry? p = some e) : ∀ n ∈ p, '\x00' ∉ n := by
  rcases listed hp with rfl | ⟨listed, hlisted, rfl⟩
  · nofun
  · exact h.nameable listed hlisted

theorem onto (h : Tree fs) (hp : fs.entry? p = some e) : ∀ n ∈ p, Onto n := by
  obtain ⟨hspelled, hup⟩ := h.named.path hp
  exact fun n hn => ⟨fun heq => hup (heq ▸ hn), (hspelled n hn).ne_stay⟩

/-- All that a path goes through is a directory. -/
theorem above (h : Tree fs) (hp : fs.entry? p = some e) (hq : q <+: p) (hne : q ≠ p) :
    fs.entry? q = some .directory := by
  induction p using List.reverseRecOn generalizing e with
  | nil => exact absurd (List.prefix_nil.mp hq) hne
  | append_singleton p n ih =>
      have hdirectory : fs.entry? p = some .directory := by
        simpa [Path.parent] using h.directory_parent hp
      rcases List.prefix_concat_iff.mp hq with heq | hq
      · exact absurd heq hne
      · by_cases heq : q = p
        · rw [heq, hdirectory]
        · exact ih hdirectory hq heq

theorem stands (h : Tree fs) (hp : fs.entry? p = some e) (hlink : e.isLink = false) :
    Stands fs p where
  noLink target htarget := by
    rw [hp] at htarget
    cases htarget
    cases hlink
  above _ hq hne := h.above hp hq hne

/-- A path is where it leads, unless a link stands there. -/
theorem locate (h : Tree fs) (hp : fs.entry? p = some e) (hlink : e.isLink = false) :
    fs.locate p = .ok p := by
  rcases locate_of_stands (h.stands hp hlink) (h.onto hp) with hok | ⟨hlong, -⟩
  · exact hok
  · exact absurd (h.fits_path hp) hlong

theorem stat (h : Tree fs) (hp : fs.entry? p = some e) (hlink : e.isLink = false) :
    fs.stat p = .ok e :=
  stat_eq_ok.mpr ⟨p, h.locate hp hlink, hp⟩

theorem isFile (h : Tree fs) (hp : fs.entry? p = some e) (hlink : e.isLink = false) :
    fs.isFile p = .ok e.isFile := by
  rw [FileSystem.isFile, stat?, h.stat hp hlink]
  rfl

theorem isLink (h : Tree fs) (hp : fs.entry? p = some e) : fs.isLink p = e.isLink := by
  have hparent : fs.locate p.dropLast = .ok p.dropLast := h.locate (h.directory_parent hp) rfl
  have hlast : p.dropLast ++ p.drop (p.length - 1) = p := by
    rw [List.dropLast_eq_take, List.take_append_drop]
  rw [FileSystem.isLink, hparent]
  simp only [hlast, hp, Option.map_some, Option.getD_some]

/-! ## Going down a tree -/

theorem mem_listing (h : Tree fs) (hp : fs.entry? p = some .directory) :
    n ∈ fs.listing p ↔ ∃ e, fs.entry? (p ++ [n]) = some e := by
  rw [listing, h.locate hp rfl]
  constructor
  · intro hn
    obtain ⟨listed, hlisted, hname⟩ := List.mem_filterMap.mp hn
    split at hname
    · next m hbelow =>
        cases hname
        rw [← Workspace.eq_append_of_below hbelow]
        exact exists_entry hlisted
    · cases hname
  · rintro ⟨e, he⟩
    rcases listed he with hnil | ⟨listed, hlisted, hpath⟩
    · cases List.append_eq_nil_iff.mp hnil |>.2
    · refine List.mem_filterMap.mpr ⟨listed, hlisted, ?_⟩
      rw [hpath, below_append]

/-- A search goes into directories, and into nothing that leads to them. -/
theorem goesInto_iff (h : Tree fs) (hp : fs.entry? p = some e) :
    (fs.leadsToDirectory p && !fs.isLink p) = true ↔ e = .directory := by
  rw [h.isLink hp]
  cases hlink : e.isLink with
  | true => cases e <;> simp_all [Entry.isLink]
  | false =>
      rw [leadsToDirectory, h.stat hp hlink]
      cases e with
      | closed => exact absurd hp (h.allOpen p)
      | _ => simp_all [Entry.isLink, Entry.isDirectory]

/-- A search goes down to all directories that are not too deep. -/
theorem mem_directoriesBelow (h : Tree fs) (hp : fs.entry? p = some .directory) :
    q ∈ fs.directoriesBelow depth p ↔
      ∃ steps, q = p ++ steps ∧ steps.length ≤ depth ∧ fs.entry? q = some .directory := by
  induction depth generalizing p with
  | zero =>
      rw [directoriesBelow, List.mem_singleton]
      constructor
      · rintro rfl
        exact ⟨[], (List.append_nil q).symm, Nat.le_refl 0, hp⟩
      · rintro ⟨steps, rfl, hlength, -⟩
        rw [List.eq_nil_of_length_eq_zero (Nat.le_zero.mp hlength), List.append_nil]
  | succ depth ih =>
      rw [directoriesBelow, List.mem_cons, List.mem_flatMap]
      constructor
      · rintro (rfl | ⟨inner, hinner, hq⟩)
        · exact ⟨[], (List.append_nil q).symm, Nat.zero_le _, hp⟩
        · obtain ⟨hlisted, hgoes⟩ := List.mem_filter.mp hinner
          obtain ⟨n, hn, rfl⟩ := List.mem_map.mp hlisted
          obtain ⟨e, he⟩ := (h.mem_listing hp).mp hn
          obtain rfl := (h.goesInto_iff he).mp hgoes
          obtain ⟨steps, rfl, hlength, hq⟩ := (ih he).mp hq
          exact ⟨n :: steps, by simp, Nat.succ_le_succ hlength, hq⟩
      · rintro ⟨steps, rfl, hlength, hq⟩
        cases steps with
        | nil => exact Or.inl (List.append_nil p)
        | cons n steps =>
            have hsplit : p ++ n :: steps = p ++ [n] ++ steps := by simp
            have hn : fs.entry? (p ++ [n]) = some .directory := by
              cases steps with
              | nil => exact hq
              | cons m steps => exact h.above hq ⟨m :: steps, by simp⟩ (by simp)
            refine Or.inr
              ⟨p ++ [n], List.mem_filter.mpr ⟨?_, (h.goesInto_iff hn).mpr rfl⟩, ?_⟩
            · exact List.mem_map.mpr ⟨n, (h.mem_listing hp).mpr ⟨_, hn⟩, rfl⟩
            · exact (ih hn).mpr ⟨steps, hsplit, Nat.le_of_succ_le_succ hlength, hq⟩

/-- Nothing is deeper than there are entries, as each step on the way has an entry of its own. -/
theorem length_le (h : Tree fs) (hp : fs.entry? (p ++ steps) = some e) :
    steps.length ≤ fs.entries.length := by
  let way := (List.range steps.length).map fun k => p ++ steps.take (k + 1)
  have hnodup : way.Nodup := by
    refine List.Nodup.map_on (fun i hi j hj heq => ?_) List.nodup_range
    have hlength := congrArg List.length (List.append_cancel_left heq)
    rw [List.length_take, List.length_take] at hlength
    have hi := List.mem_range.mp hi
    have hj := List.mem_range.mp hj
    omega
  have hlisted : ∀ q ∈ way, q ∈ fs.entries.map Prod.fst := by
    intro q hq
    obtain ⟨k, hk, rfl⟩ := List.mem_map.mp hq
    have hk := List.mem_range.mp hk
    have hne : p ++ steps.take (k + 1) ≠ [] := by
      intro hnil
      have hlength := congrArg List.length (List.append_eq_nil_iff.mp hnil).2
      rw [List.length_take, List.length_nil] at hlength
      omega
    have hon : p ++ steps.take (k + 1) <+: p ++ steps :=
      (List.prefix_append_right_inj p).mpr (List.take_prefix _ steps)
    by_cases hend : p ++ steps.take (k + 1) = p ++ steps
    · exact mem_entries hne (by rw [hend]; exact hp)
    · exact mem_entries hne (h.above hp hon hend)
  have hlength := (List.subperm_of_subset hnodup hlisted).length_le
  rwa [List.length_map, List.length_map, List.length_range] at hlength

end Tree

/-! ## Searches for an ending -/

/-- A search for an ending is one for matching names at any depth. -/
theorem search_ending (hending : Literal ending) {directory : Path}
    (hdirectory : fs.leadsToDirectory directory = true) :
    fs.search directory ('*' :: ending) =
      some (fs.select [.anyDepth, .matching (.ofText ('*' :: ending))] directory) := by
  have hlast : (('*' :: ending).getLast? == some '/') = false := by
    rw [beq_eq_false_iff_ne]
    intro hlast
    rcases List.mem_cons.mp (List.mem_of_getLast? hlast) with heq | hmem
    · cases heq
    · cases hending '/' hmem
  simp [search, segments_ending hending, hdirectory, hlast]

/-- What a search for an ending finds in a tree: all that stands below the directory and has such a
name. -/
theorem mem_search_ending (h : Tree fs) (hending : Literal ending) {directory : Path}
    (hdirectory : fs.entry? directory = some .directory) :
    p ∈ fs.select [.anyDepth, .matching (.ofText ('*' :: ending))] directory ↔
      ∃ steps, p = directory ++ steps ∧ steps ≠ [] ∧ (∃ e, fs.entry? p = some e) ∧
        ending <:+ p.name := by
  simp only [select, List.isEmpty_nil, Bool.true_or, List.filter_true, List.mem_flatMap,
    List.mem_singleton, List.mem_map, List.mem_filter, NamePattern.accepts_ending hending]
  constructor
  · rintro ⟨d, hd, q, ⟨n, ⟨hn, hends⟩, rfl⟩, rfl⟩
    obtain ⟨steps, rfl, -, hdir⟩ := (h.mem_directoriesBelow hdirectory).mp hd
    refine ⟨steps ++ [n], by simp, by simp, (h.mem_listing hdir).mp hn, ?_⟩
    simpa [Path.name] using hends
  · rintro ⟨steps, rfl, hne, ⟨e, he⟩, hends⟩
    obtain ⟨front, n, rfl⟩ := List.eq_nil_or_concat' steps |>.resolve_left hne
    rw [← List.append_assoc] at he hends ⊢
    have hdir : fs.entry? (directory ++ front) = some .directory := by
      simpa [Path.parent] using h.directory_parent he
    refine ⟨directory ++ front, ?_, _,
      ⟨n, ⟨(h.mem_listing hdir).mpr ⟨e, he⟩, ?_⟩, rfl⟩, rfl⟩
    · exact (h.mem_directoriesBelow hdirectory).mpr ⟨front, rfl, h.length_le hdir, hdir⟩
    · simpa [Path.name] using hends

end FileSystem
end Files
end YamlTidy
