import YamlTidy.Proofs.Files.Walks
import Mathlib.Data.List.Nodup
import Mathlib.Data.List.Perm.Subperm

/-!
# Resolving paths

`FileSystem.locate` and `FileSystem.resolve` follow links in different ways.  The one needs a
directory for each step and counts how deep it is in links.  The other takes each name as it
stands, lists the links that it is in the middle of, and gives up at a link that it meets again.

Where the first gets to an end the second gets to the same one (`resolve_of_locate`).  Each link
on the way is followed with the least depth that is enough for it.  In the middle of the link the
depth that is left is not enough for it, nor for those that it is itself in the middle of, so none
of them is met again (`Inside`).
-/

namespace YamlTidy
namespace Files

variable {n : Name} {p q : Path}

/-! ## Names that a text can give -/

/-- A name that a text can give to a path. -/
structure IsStep (n : Name) : Prop where
  ne_nil : n ≠ []
  ne_stay : n ≠ stay
  noSlash : '/' ∉ n

instance (n : Name) : Decidable (IsStep n) :=
  decidable_of_iff (n ≠ [] ∧ n ≠ stay ∧ '/' ∉ n)
    ⟨fun h => ⟨h.1, h.2.1, h.2.2⟩, fun h => ⟨h.ne_nil, h.ne_stay, h.noSlash⟩⟩

/-- All names of the path are ones that a text can give. -/
def Spelled (p : Path) : Prop :=
  ∀ n ∈ p, IsStep n

instance (p : Path) : Decidable (Spelled p) :=
  inferInstanceAs (Decidable (∀ n ∈ p, IsStep n))

theorem Spelled.append (hp : Spelled p) (hq : Spelled q) : Spelled (p ++ q) :=
  List.forall_mem_append.mpr ⟨hp, hq⟩

theorem spelled_singleton (h : IsStep n) : Spelled [n] :=
  List.forall_mem_singleton.mpr h

theorem Spelled.stay_notMem (h : Spelled p) : stay ∉ p :=
  fun hmem => (h stay hmem).ne_stay rfl

theorem slash_notMem_of_mem_pieces {s : List Char} (h : n ∈ pieces s) : '/' ∉ n := by
  induction s generalizing n with
  | nil =>
      rw [List.mem_singleton.mp h]
      exact List.not_mem_nil
  | cons c rest ih =>
      unfold pieces at h
      split at h
      · rcases List.mem_cons.mp h with rfl | hrest
        · exact List.not_mem_nil
        · exact ih hrest
      · next hc =>
          split at h
          · rw [List.mem_singleton.mp h]
            exact fun hmem => hc (List.mem_singleton.mp hmem).symm
          · next piece more hpieces =>
              rw [hpieces] at ih
              rcases List.mem_cons.mp h with rfl | hmore
              · rintro (_ | ⟨_, hpiece⟩)
                · exact hc rfl
                · exact ih List.mem_cons_self hpiece
              · exact ih (List.mem_cons_of_mem piece hmore)

theorem spelled_namesOf (s : List Char) : Spelled (namesOf s) := by
  intro n hn
  obtain ⟨hpiece, hkept⟩ := List.mem_filter.mp hn
  rw [Bool.and_eq_true, bne_iff_ne, bne_iff_ne] at hkept
  exact ⟨hkept.1, hkept.2, slash_notMem_of_mem_pieces hpiece⟩

theorem spelled_fromDirectory {directory : Path} (h : Spelled directory) (s : List Char) :
    Spelled ((WrittenPath.ofText s).fromDirectory directory) := by
  unfold WrittenPath.fromDirectory
  split
  · exact spelled_namesOf s
  · exact h.append (spelled_namesOf s)

/-! ## Steps up -/

theorem foldl_straight (done : List Name) (hup : up ∉ p) :
    p.foldl (fun done n => if n = up then done.drop 1 else n :: done) done =
      p.reverse ++ done := by
  induction p generalizing done with
  | nil => rfl
  | cons n rest ih =>
      obtain ⟨hn, hrest⟩ := List.ne_and_not_mem_of_not_mem_cons hup
      rw [List.foldl_cons, if_neg (Ne.symm hn), ih _ hrest]
      simp

theorem straight_of_noUp (hup : up ∉ p) : p.straight = p := by
  rw [Path.straight, foldl_straight [] hup]
  simp

theorem up_notMem_straight (p : Path) : up ∉ p.straight := by
  have hfold (done : List Name) (hdone : up ∉ done) :
      up ∉ p.foldl (fun done n => if n = up then done.drop 1 else n :: done) done := by
    induction p generalizing done with
    | nil => exact hdone
    | cons n rest ih =>
        rw [List.foldl_cons]
        refine ih _ ?_
        split
        · exact fun hmem => hdone (List.mem_of_mem_drop hmem)
        · next hn => exact List.not_mem_cons_of_ne_of_not_mem (Ne.symm hn) hdone
  exact fun hmem => hfold [] List.not_mem_nil (List.mem_reverse.mp hmem)

theorem Spelled.straight (h : Spelled p) : Spelled p.straight := by
  have hfold (done : List Name) (hdone : Spelled done) : Spelled
      (p.foldl (fun done n => if n = up then done.drop 1 else n :: done) done) := by
    induction p generalizing done with
    | nil => exact hdone
    | cons n rest ih =>
        obtain ⟨hn, hrest⟩ := List.forall_mem_cons.mp h
        rw [List.foldl_cons]
        refine ih hrest _ ?_
        split
        · exact fun m hm => hdone m (List.mem_of_mem_drop hm)
        · exact List.forall_mem_cons.mpr ⟨hn, hdone⟩
  exact fun n hn => hfold [] nofun n (List.mem_reverse.mp hn)

namespace FileSystem

variable {fs : FileSystem} {here place : Path} {names rest : List Name} {open_ : List Path}
  {depth fuel : Nat} {target : List Char}

/-! ## Steps of a resolution -/

section Steps

variable {follow' : List Path → Path → List Char → Path × Bool}

theorem resolveFrom_up : resolveFrom fs follow' open_ here (up :: rest) =
    resolveFrom fs follow' open_ here.dropLast rest := by
  rw [resolveFrom, if_pos rfl]

theorem resolveFrom_of_not_link (hn : n ≠ up)
    (hlink : ∀ target, fs.entry? (here ++ [n]) ≠ some (.link target)) :
    resolveFrom fs follow' open_ here (n :: rest) =
      resolveFrom fs follow' open_ (here ++ [n]) rest := by
  rw [resolveFrom, if_neg hn]
  dsimp only
  split
  · next target htarget => exact absurd htarget (hlink target)
  · rfl

theorem resolveFrom_of_link (hn : n ≠ up) (hlink : fs.entry? (here ++ [n]) = some (.link target))
    (hopen : here ++ [n] ∉ open_)
    (hfollow : follow' ((here ++ [n]) :: open_) here target = (place, true)) :
    resolveFrom fs follow' open_ here (n :: rest) = resolveFrom fs follow' open_ place rest := by
  rw [resolveFrom, if_neg hn]
  simp only [hlink, hfollow, List.contains_eq_mem, hopen, decide_false, Bool.false_eq_true,
    if_false]

/-- The names on the way to the end of a resolution are ones that texts give, when those of the path
are. -/
theorem spelled_resolveFrom
    (hfollow : ∀ open_ here target, Spelled here → Spelled (follow' open_ here target).1)
    (hhere : Spelled here) (hnames : Spelled names) :
    Spelled (resolveFrom fs follow' open_ here names).1 := by
  induction names generalizing here with
  | nil => exact hhere
  | cons n rest ih =>
      obtain ⟨hn, hrest⟩ := List.forall_mem_cons.mp hnames
      have hnext : Spelled (here ++ [n]) := hhere.append (spelled_singleton hn)
      rw [resolveFrom]
      split
      · exact ih (fun m hm => hhere m (List.dropLast_subset _ hm)) hrest
      · dsimp only
        split
        · next target htarget =>
            split
            · exact hnext.append hrest
            · have hend := hfollow ((here ++ [n]) :: open_) here target hhere
              split
              · next place hplace =>
                  rw [hplace] at hend
                  exact ih hend hrest
              · next place hplace =>
                  rw [hplace] at hend
                  exact hend.append hrest
        · exact ih hnext hrest

end Steps

theorem spelled_resolveLink (fuel : Nat) (open_ : List Path) (here : Path) (target : List Char)
    (hhere : Spelled here) : Spelled (resolveLink fs fuel open_ here target).1 := by
  induction fuel generalizing open_ here target with
  | zero => exact hhere
  | succ fuel ih =>
      refine spelled_resolveFrom ih ?_ (spelled_namesOf target)
      split
      · nofun
      · exact hhere

theorem spelled_resolve (h : Spelled p) : Spelled (fs.resolve p) :=
  (spelled_resolveFrom (spelled_resolveLink _) (fun _ hn => absurd hn List.not_mem_nil)
    h).straight

/-! ## Paths without links -/

theorem Stands.not_link (h : Stands fs p) (hq : q <+: p) (target : List Char) :
    fs.entry? q ≠ some (.link target) := by
  by_cases heq : q = p
  · rw [heq]
    exact h.noLink target
  · simp [h.above q hq heq]

theorem Stands.parent (h : Stands fs p) : Stands fs p.parent where
  noLink := h.not_link (List.dropLast_prefix p)
  above q hq hne := by
    refine h.above q (hq.trans (List.dropLast_prefix p)) fun heq => hne ?_
    subst heq
    exact hq.eq_of_length_le (by simp [Path.parent])

/-- A path on which no link stands resolves to itself. -/
theorem resolve_of_stands (h : Stands fs p) (hup : up ∉ p) : fs.resolve p = p := by
  have hsteps (here : Path) (names : List Name) (hnames : up ∉ names) (hp : here ++ names = p) :
      resolveFrom fs (resolveLink fs (fs.entries.length + 1)) [] here names = (p, true) := by
    induction names generalizing here with
    | nil =>
        rw [List.append_nil] at hp
        rw [resolveFrom, hp]
    | cons n rest ih =>
        obtain ⟨hn, hrest⟩ := List.ne_and_not_mem_of_not_mem_cons hnames
        have hp' : here ++ [n] ++ rest = p := by simpa using hp
        rw [resolveFrom_of_not_link (Ne.symm hn) (h.not_link ⟨rest, hp'⟩)]
        exact ih _ hrest hp'
  rw [resolve, hsteps [] p hup rfl]
  exact straight_of_noUp hup

/-- Neither the path nor one of its names is too long. -/
def Fits (p : Path) : Prop :=
  byteLength p.text ≤ longestPath ∧ ∀ n ∈ p, byteLength n ≤ longestName

instance (p : Path) : Decidable (Fits p) :=
  inferInstanceAs (Decidable (_ ∧ _))

/-- Only a name that is too long keeps a path on which no link stands from leading to its own
place. -/
theorem locate_of_stands (h : Stands fs p) (honto : ∀ n ∈ p, Onto n) :
    fs.locate p = .ok p ∨ ¬ Fits p ∧ fs.locate p = .error ⟨.nameTooLong, p⟩ := by
  have hsteps (here : Path) (names : List Name) (hnames : ∀ n ∈ names, Onto n)
      (hp : here ++ names = p) :
      walk fs (follow fs deepestLink) here names = .ok p ∨
        (∃ n ∈ names, longestName < byteLength n) ∧
          walk fs (follow fs deepestLink) here names = .error .nameTooLong := by
    induction names generalizing here with
    | nil =>
        rw [List.append_nil] at hp
        exact Or.inl (by rw [hp, walk_nil])
    | cons n rest ih =>
        obtain ⟨hn, hrest⟩ := List.forall_mem_cons.mp hnames
        have hp' : here ++ [n] ++ rest = p := by simpa using hp
        have hdirectory : fs.entry? here = some .directory :=
          h.above here ⟨_, hp⟩ (by simp [← hp])
        have hnext := leads_of_not_link (h.not_link ⟨rest, hp'⟩) deepestLink
        simp only [walk_cons, hdirectory, hn.1, hn.2, if_false, hnext]
        split
        · next hlong => exact Or.inr ⟨⟨n, List.mem_cons_self, hlong⟩, rfl⟩
        · refine (ih _ hrest hp').imp_right fun ⟨⟨m, hm, hlong⟩, hwalk⟩ =>
            ⟨⟨m, ?_, hlong⟩, hwalk⟩
          exact List.mem_cons_of_mem n hm
  unfold locate
  split
  · next hlong => exact Or.inr ⟨fun hfits => Nat.not_lt.mpr hfits.1 hlong, rfl⟩
  · rcases hsteps [] p honto rfl with hok | ⟨⟨n, hn, hlong⟩, herror⟩
    · exact Or.inl (by rw [hok]; rfl)
    · exact Or.inr ⟨fun hfits => Nat.not_lt.mpr (hfits.2 n hn) hlong, by rw [herror]; rfl⟩

/-! ## Resolving what a walk passes -/

/-- Links that a resolution can be in the middle of when a walk has so much depth left. -/
structure Inside (fs : FileSystem) (depth : Nat) (open_ : List Path) : Prop where
  nodup : open_.Nodup
  link : ∀ l ∈ open_, ∃ target, fs.entry? l = some (.link target)
  /-- The depth is not enough to go through one of them. -/
  stuck : ∀ l ∈ open_, ∀ place, leads fs depth l ≠ .ok place

theorem Inside.notMem (h : Inside fs depth open_) (hleads : leads fs depth p = .ok place) :
    p ∉ open_ :=
  fun hmem => h.stuck p hmem place hleads

theorem Inside.cons {less : Nat} (h : Inside fs depth open_) (hless : less ≤ depth)
    (hopen : p ∉ open_) (hlink : fs.entry? p = some (.link target))
    (hstuck : ∀ place, leads fs less p ≠ .ok place) : Inside fs less (p :: open_) where
  nodup := List.nodup_cons.mpr ⟨hopen, h.nodup⟩
  link := List.forall_mem_cons.mpr ⟨⟨target, hlink⟩, h.link⟩
  stuck := List.forall_mem_cons.mpr
    ⟨hstuck, fun l hl place hplace => h.stuck l hl place (leads_mono hless hplace)⟩

/-- Each link has an entry of its own. -/
theorem Inside.length_le (h : Inside fs depth open_) : open_.length ≤ fs.entries.length := by
  have hlisted : ∀ l ∈ open_, l ∈ fs.entries.map Prod.fst := by
    intro l hl
    obtain ⟨target, htarget⟩ := h.link l hl
    refine mem_entries ?_ htarget
    rintro rfl
    cases htarget
  have hlength := (List.subperm_of_subset h.nodup hlisted).length_le
  rwa [List.length_map] at hlength

/-- There is a least depth that is enough to go through a link. -/
theorem exists_least_depth (hlink : fs.entry? p = some (.link target))
    (h : leads fs depth p = .ok place) :
    ∃ least < depth, leads fs (least + 1) p = .ok place ∧
      ∀ q, leads fs least p ≠ .ok q := by
  induction depth with
  | zero => simp [leads, hlink, follow] at h
  | succ depth ih =>
      by_cases henough : ∃ q, leads fs depth p = .ok q
      · obtain ⟨q, hq⟩ := henough
        obtain rfl := leads_unique h hq
        obtain ⟨least, hleast, hrest⟩ := ih hq
        exact ⟨least, Nat.lt_succ_of_lt hleast, hrest⟩
      · exact ⟨depth, Nat.lt_succ_self depth, h, not_exists.mp henough⟩

/-- A walk through a link goes through the names in its text. -/
theorem walk_namesOf (h : walk fs (follow fs depth) here (linkSteps target) = .ok q) :
    walk fs (follow fs depth) here (namesOf target) = .ok q := by
  unfold linkSteps at h
  split at h
  · next hnone =>
      rw [namesOf, List.getLast?_eq_none_iff.mp hnone]
      exact h
  · split at h
    · rw [walk_append] at h
      split at h
      · next place hplace =>
          obtain ⟨-, hup | hstay | hon⟩ := walk_cons_eq_ok.mp h
          · exact absurd hup.1 (by decide)
          · rw [hplace]
            exact hstay.2
          · exact absurd rfl hon.1.2
      · cases h
    · exact h

/-- Where a walk with the depth gets to an end, a resolution gets there too, whatever links it is
in the middle of. -/
def Resolves (fs : FileSystem) (depth : Nat) : Prop :=
  ∀ {fuel : Nat} {open_ : List Path} {here q : Path} {names : List Name},
    Inside fs depth open_ →
    fs.entries.length ≤ open_.length + fuel → stay ∉ names →
    walk fs (follow fs depth) here names = .ok q →
    resolveFrom fs (resolveLink fs fuel) open_ here names = (q, true)

/-- A resolution goes through a link as a walk does, when it resolves the text of the link. -/
theorem resolveLink_of_leads (hless : ∀ less < depth, Resolves fs less)
    (h : Inside fs depth open_) (hfuel : fs.entries.length ≤ open_.length + fuel)
    (hlink : fs.entry? (here ++ [n]) = some (.link target))
    (hleads : leads fs depth (here ++ [n]) = .ok place) :
    resolveLink fs fuel ((here ++ [n]) :: open_) here target = (place, true) := by
  obtain ⟨least, hleast, hthrough, hstuck⟩ := exists_least_depth hlink hleads
  have hinside := h.cons (Nat.le_of_lt hleast) (h.notMem hleads) hlink hstuck
  have hlength := hinside.length_le
  rw [List.length_cons] at hlength
  obtain ⟨fuel, rfl⟩ : ∃ more, fuel = more + 1 := ⟨fuel - 1, by omega⟩
  simp only [leads, hlink, Path.parent, List.dropLast_concat] at hthrough
  exact hless least hleast hinside (by rw [List.length_cons]; omega)
    (spelled_namesOf target).stay_notMem (walk_namesOf hthrough)

theorem resolves (fs : FileSystem) (depth : Nat) : Resolves fs depth := by
  induction depth using Nat.strongRecOn with
  | ind depth hless =>
  intro fuel open_ here q names hinside hfuel hnames hwalk
  induction names generalizing here with
  | nil =>
      cases hwalk
      rfl
  | cons n rest ih =>
      obtain ⟨hn, hrest⟩ := List.ne_and_not_mem_of_not_mem_cons hnames
      obtain ⟨-, ⟨rfl, hup⟩ | hstay | ⟨honto, -, place, hleads, hend⟩⟩ :=
        walk_cons_eq_ok.mp hwalk
      · rw [resolveFrom_up]
        exact ih hrest hup
      · exact absurd hstay.1.symm hn
      · by_cases hlink : ∃ target, fs.entry? (here ++ [n]) = some (.link target)
        · obtain ⟨target, htarget⟩ := hlink
          rw [resolveFrom_of_link honto.1 htarget (hinside.notMem hleads)
            (resolveLink_of_leads hless hinside hfuel htarget hleads)]
          exact ih hrest hend
        · rw [leads_of_not_link (not_exists.mp hlink)] at hleads
          cases hleads
          rw [resolveFrom_of_not_link honto.1 (not_exists.mp hlink)]
          exact ih hrest hend

/-- **Both ways to follow links agree.**  Where a path leads to a place, it resolves to that
place. -/
theorem resolve_of_locate (hp : stay ∉ p) (hq : up ∉ q) (h : fs.locate p = .ok q) :
    fs.resolve p = q := by
  have hinside : Inside fs deepestLink [] := ⟨List.nodup_nil, nofun, nofun⟩
  have hresolved := resolves fs deepestLink hinside
    (show _ ≤ [].length + (fs.entries.length + 1) by simp) hp (locate_eq_ok.mp h).2
  rw [resolve, hresolved]
  exact straight_of_noUp hq

end FileSystem
end Files
end YamlTidy
