import YamlTidy.Files.FileSystem

/-!
# Walks through a file system

A walk goes on only from a directory and through a link, so its end does not depend on what else is
in the file system.  So a path can be followed through a change: when two file systems hold the same
directories and links at every place that a walk to a goal can pass, a walk that ends in the goal in
the one ends there in the other (`Agree.walk`).

No walk ends at a link, and all places above its end are directories (`Stands`).  A path that
leads to anything but a directory has its own place in a directory, and the walk goes on from
there (`exists_enters`).

Main statements: `read_of_writeAt_self` and `read_of_writeAt_of_ne` for what is read behind a write,
`read_of_replace` for what is read behind a move.
-/

namespace YamlTidy
namespace Files
namespace FileSystem

variable {fs after : FileSystem} {p q here place : Path} {e : Entry} {n : Name}

/-! ## Entries behind a change -/

@[simp] theorem entry_nil (fs : FileSystem) : fs.entry? [] = some .directory := rfl

theorem entry_of_ne_nil (hp : p ≠ []) : fs.entry? p = fs.entries.lookup p := by
  simp [ entry?, hp]

theorem lookup_filter_of_ne {entries : List (Path × Entry)} (h : q ≠ p) :
    (entries.filter fun e => e.1 != p).lookup q = entries.lookup q := by
  induction entries with
  | nil => rfl
  | cons entry entries ih =>
      by_cases hp : entry.1 = p
      · have hne : (q == entry.1) = false := beq_false_of_ne (hp ▸ h)
        rw [List.filter_cons_of_neg (by simpa using hp), ih, List.lookup_cons, hne]
      · rw [List.filter_cons_of_pos (by simpa using hp), List.lookup_cons, List.lookup_cons, ih]

theorem entry_erase_of_ne (h : q ≠ p) : entry? (fs.erase p) q = fs.entry? q := by
  unfold entry?
  rw [erase, lookup_filter_of_ne h]

theorem entry_put_self (hp : p ≠ []) : entry? (fs.put p e) p = some e := by
  simp [entry_of_ne_nil hp, put]

theorem entry_put_of_ne (h : q ≠ p) : entry? (fs.put p e) q = fs.entry? q := by
  have hput : (fs.put p e).entries.lookup q = (fs.erase p).entries.lookup q := by
    rw [put, List.lookup_cons, beq_false_of_ne h]
  have herase : entry? (fs.put p e) q = entry? (fs.erase p) q := by
    unfold entry?
    rw [hput]
  rw [herase, entry_erase_of_ne h]

/-- What stands at a place other than the root is listed. -/
theorem mem_entries (hp : p ≠ []) (h : fs.entry? p = some e) : p ∈ fs.entries.map Prod.fst := by
  rw [entry_of_ne_nil hp, List.lookup_eq_some_iff] at h
  obtain ⟨before, behind, hentries, -⟩ := h
  simp [hentries]

/-! ## Walks -/

/-- An entry that a walk can go on from or through. -/
def onward : Option Entry → Option Entry
  | some (.file _ _) => none
  | other => other

@[simp] theorem onward_eq_directory {x : Option Entry} :
    onward x = some .directory ↔ x = some .directory := by
  rcases x with _ | ⟨_ | _ | _ | _⟩ <;> simp [onward]

@[simp] theorem onward_eq_link {x : Option Entry} {target : List Char} :
    onward x = some (.link target) ↔ x = some (.link target) := by
  rcases x with _ | ⟨_ | _ | _ | _⟩ <;> simp [onward]

/-- The place that a walk goes on from behind the last name of a path: that of the path, or the one
that a link there leads to. -/
def leads (fs : FileSystem) (depth : Nat) (p : Path) : Except FileCause Path :=
  match fs.entry? p with
  | some (.link target) => follow fs depth p.parent target
  | _ => .ok p

theorem leads_of_not_link (h : ∀ target, fs.entry? p ≠ some (.link target)) (depth : Nat) :
    leads fs depth p = .ok p := by
  unfold leads
  split
  · next target htarget => exact absurd htarget (h target)
  · rfl

@[simp] theorem walk_nil (follow : Path → List Char → Except FileCause Path) :
    walk fs follow here [] = .ok here := rfl

theorem walk_cons (depth : Nat) (rest : List Name) :
    walk fs (follow fs depth) here (n :: rest) =
      match fs.entry? here with
      | none => .error .missing
      | some .directory =>
          if n = up then walk fs (follow fs depth) here.dropLast rest
          else if n = stay then walk fs (follow fs depth) here rest
          else if longestName < byteLength n then .error .nameTooLong
          else
            match leads fs depth (here ++ [n]) with
            | .ok place => walk fs (follow fs depth) place rest
            | .error cause => .error cause
      | some .closed => .error .denied
      | some _ => .error .notDirectory := by
  rw [walk, leads, Path.parent, List.dropLast_concat]
  cases fs.entry? (here ++ [n]) with
  | none => rfl
  | some e => cases e <;> rfl

/-- A name that is no step up and none that goes nowhere. -/
def Onto (n : Name) : Prop :=
  n ≠ up ∧ n ≠ stay

/-- A walk that gets to an end has taken its first step from a directory: up, nowhere, or on to a
name. -/
theorem walk_cons_eq_ok {depth : Nat} {rest : List Name} :
    walk fs (follow fs depth) here (n :: rest) = .ok q ↔
      fs.entry? here = some .directory ∧
        (n = up ∧ walk fs (follow fs depth) here.dropLast rest = .ok q ∨
          n = stay ∧ walk fs (follow fs depth) here rest = .ok q ∨
          Onto n ∧ byteLength n ≤ longestName ∧
            ∃ place, leads fs depth (here ++ [n]) = .ok place ∧
            walk fs (follow fs depth) place rest = .ok q) := by
  rw [walk_cons]
  cases fs.entry? here with
  | none => simp
  | some e =>
      cases e with
      | file bytes time => simp
      | link target => simp
      | closed => simp
      | directory =>
          by_cases hup : n = up
          · simp [hup, Onto, show up ≠ stay by decide]
          · by_cases hstay : n = stay
            · simp [hstay, Onto, show stay ≠ up by decide]
            · by_cases hlong : longestName < byteLength n
              · simp [hup, hstay, hlong, Nat.not_le.mpr hlong]
              · cases leads fs depth (here ++ [n]) <;>
                  simp [hup, hstay, Onto, hlong, Nat.not_lt.mp hlong]

theorem walk_append (follow : Path → List Char → Except FileCause Path)
    (first second : List Name) :
    walk fs follow here (first ++ second) =
      match walk fs follow here first with
      | .ok place => walk fs follow place second
      | .error cause => .error cause := by
  induction first generalizing here with
  | nil => rfl
  | cons n rest ih =>
      simp only [List.cons_append, walk]
      split
      · rfl
      · split
        · exact ih
        · split
          · exact ih
          · split
            · rfl
            · split
              · split
                · exact ih
                · rfl
              · exact ih
      · rfl
      · rfl

section Agree

variable {goal : Path → Prop} {depth depth' : Nat} {names : List Name} {target : List Char}

/-- The goals are the directories and some more places, and two file systems hold the same
directories and links wherever a walk to a goal can pass. -/
structure Agree (fs after : FileSystem) (goal : Path → Prop) : Prop where
  directory : ∀ p, fs.entry? p = some .directory → goal p
  same : ∀ p depth place, leads fs depth p = .ok place → goal place →
    onward (fs.entry? p) = onward (after.entry? p)

theorem Agree.directory_after (h : Agree fs after goal) (hp : fs.entry? p = some .directory) :
    after.entry? p = some .directory := by
  have hleads : leads fs 0 p = .ok p := leads_of_not_link (by simp [hp]) 0
  have hsame := h.same p 0 p hleads (h.directory p hp)
  rwa [onward_eq_directory.mpr hp, eq_comm, onward_eq_directory] at hsame

theorem Agree.leads (h : Agree fs after goal)
    (hfollow : ∀ here target place, follow fs depth here target = .ok place → goal place →
      follow after depth' here target = .ok place)
    (hp : leads fs depth p = .ok place) (hplace : goal place) :
    leads after depth' p = .ok place := by
  have hsame := h.same p depth place hp hplace
  by_cases hlink : ∃ target, fs.entry? p = some (.link target)
  · obtain ⟨target, htarget⟩ := hlink
    rw [onward_eq_link.mpr htarget, eq_comm, onward_eq_link] at hsame
    simp only [FileSystem.leads, htarget] at hp
    simpa only [FileSystem.leads, hsame] using hfollow _ _ _ hp hplace
  · have hnone : ∀ target, fs.entry? p ≠ some (.link target) := not_exists.mp hlink
    have hafter : ∀ target, after.entry? p ≠ some (.link target) := fun target htarget => by
      rw [onward_eq_link.mpr htarget, onward_eq_link] at hsame
      exact hnone target hsame
    rw [leads_of_not_link hnone] at hp
    rw [leads_of_not_link hafter, hp]

/-- A walk to a goal is the same in both file systems when following a link is. -/
theorem Agree.walk_of_follow (h : Agree fs after goal)
    (hfollow : ∀ here target place, follow fs depth here target = .ok place → goal place →
      follow after depth' here target = .ok place)
    (hwalk : walk fs (follow fs depth) here names = .ok q) (hq : goal q) :
    walk after (follow after depth') here names = .ok q := by
  induction names generalizing here with
  | nil => exact hwalk
  | cons n rest ih =>
      obtain ⟨hhere, hup | hstay | ⟨honto, hlong, place, hleads, hrest⟩⟩ :=
        walk_cons_eq_ok.mp hwalk
      · exact walk_cons_eq_ok.mpr ⟨h.directory_after hhere, .inl ⟨hup.1, ih hup.2⟩⟩
      · exact walk_cons_eq_ok.mpr
          ⟨h.directory_after hhere, .inr (.inl ⟨hstay.1, ih hstay.2⟩)⟩
      · -- The place in between is the goal itself or a directory.
        have hplace : goal place := by
          cases rest with
          | nil =>
              cases hrest
              exact hq
          | cons m rest => exact h.directory place (walk_cons_eq_ok.mp hrest).1
        exact walk_cons_eq_ok.mpr ⟨h.directory_after hhere,
          .inr (.inr ⟨honto, hlong, place, h.leads hfollow hleads hplace, ih hrest⟩)⟩

theorem Agree.follow (h : Agree fs after goal) (hdepth : depth ≤ depth')
    (hfollow : follow fs depth here target = .ok place) (hplace : goal place) :
    follow after depth' here target = .ok place := by
  induction depth generalizing depth' here target place with
  | zero => simp [FileSystem.follow] at hfollow
  | succ depth ih =>
      obtain ⟨depth', rfl⟩ : ∃ more, depth' = more + 1 := ⟨depth' - 1, by omega⟩
      exact h.walk_of_follow
        (fun _ _ _ hf hp => ih (by omega) hf hp) hfollow hplace

/-- **What a walk depends on.**  A walk that ends in a goal ends there in both file systems, also
when more links are allowed. -/
theorem Agree.walk (h : Agree fs after goal) (hdepth : depth ≤ depth')
    (hwalk : walk fs (FileSystem.follow fs depth) here names = .ok q) (hq : goal q) :
    walk after (FileSystem.follow after depth') here names = .ok q :=
  h.walk_of_follow (fun _ _ _ hf hp => h.follow hdepth hf hp) hwalk hq

end Agree

/-- A file system agrees with itself: where a link leads does not depend on how many more links are
allowed. -/
theorem agree_self (fs : FileSystem) : Agree fs fs fun _ => True where
  directory _ _ := trivial
  same _ _ _ _ _ := rfl

theorem leads_mono {depth depth' : Nat} (hdepth : depth ≤ depth')
    (h : leads fs depth p = .ok place) : leads fs depth' p = .ok place :=
  (agree_self fs).leads (fun _ _ _ hf hp => (agree_self fs).follow hdepth hf hp) h trivial

theorem leads_unique {depth depth' : Nat} (h : leads fs depth p = .ok place)
    (h' : leads fs depth' p = .ok q) : place = q := by
  have hmax := leads_mono (Nat.le_max_left depth depth') h
  rw [leads_mono (Nat.le_max_right depth depth') h'] at hmax
  exact (Except.ok.inj hmax).symm

/-! ## Where walks end -/

/-- No link stands at the place, and all places above it are directories. -/
structure Stands (fs : FileSystem) (p : Path) : Prop where
  noLink : ∀ target, fs.entry? p ≠ some (.link target)
  above : ∀ q, q <+: p → q ≠ p → fs.entry? q = some .directory

theorem stands_nil (fs : FileSystem) : Stands fs [] where
  noLink := by simp
  above q hq hne := absurd (List.prefix_nil.mp hq) hne

theorem Stands.directory_dropLast (h : Stands fs p) (hp : fs.entry? p = some .directory) :
    fs.entry? p.dropLast = some .directory := by
  by_cases heq : p.dropLast = p
  · rw [heq, hp]
  · exact h.above _ (List.dropLast_prefix p) heq

theorem Stands.dropLast (h : Stands fs p) (hp : fs.entry? p = some .directory) :
    Stands fs p.dropLast where
  noLink := by simp [h.directory_dropLast hp]
  above q hq hne := by
    refine h.above q (hq.trans (List.dropLast_prefix p)) fun heq => hne ?_
    subst heq
    exact hq.eq_of_length_le (by simp)

theorem Stands.concat (h : Stands fs p) (hp : fs.entry? p = some .directory)
    (hnext : ∀ target, fs.entry? (p ++ [n]) ≠ some (.link target)) : Stands fs (p ++ [n]) where
  noLink := hnext
  above q hq hne := by
    rcases List.prefix_concat_iff.mp hq with rfl | hq
    · exact absurd rfl hne
    · by_cases heq : q = p
      · rw [heq, hp]
      · exact h.above q hq heq

section Stands

variable {depth : Nat} {names : List Name} {target : List Char}

/-- A walk ends where no link stands, below directories, when links lead to such places. -/
theorem Stands.walk_of_follow
    (hfollow : ∀ here target place, Stands fs here → follow fs depth here target = .ok place →
      Stands fs place)
    (h : Stands fs here) (hwalk : walk fs (follow fs depth) here names = .ok q) :
    Stands fs q := by
  induction names generalizing here with
  | nil =>
      cases hwalk
      exact h
  | cons n rest ih =>
      obtain ⟨hhere, hup | hstay | ⟨-, -, place, hleads, hrest⟩⟩ := walk_cons_eq_ok.mp hwalk
      · exact ih (h.dropLast hhere) hup.2
      · exact ih h hstay.2
      · refine ih ?_ hrest
        by_cases hlink : ∃ target, fs.entry? (here ++ [n]) = some (.link target)
        · obtain ⟨target, htarget⟩ := hlink
          simp only [leads, htarget, Path.parent, List.dropLast_concat] at hleads
          exact hfollow here target place h hleads
        · have hnext := not_exists.mp hlink
          rw [leads_of_not_link hnext] at hleads
          cases hleads
          exact h.concat hhere hnext

theorem Stands.follow (h : Stands fs here)
    (hfollow : FileSystem.follow fs depth here target = .ok place) : Stands fs place := by
  induction depth generalizing here target place with
  | zero => simp [FileSystem.follow] at hfollow
  | succ depth ih =>
      refine Stands.walk_of_follow (fun _ _ _ hh hf => ih hh hf) ?_ hfollow
      split
      · exact stands_nil fs
      · exact h

end Stands

/-! ## Paths -/

theorem locate_eq_ok : fs.locate p = .ok q ↔
    byteLength p.text ≤ longestPath ∧ walk fs (follow fs deepestLink) [] p = .ok q := by
  unfold locate
  split
  · next hlong => simp [Nat.not_le.mpr hlong]
  · next hshort =>
      rw [and_iff_right (Nat.not_lt.mp hshort)]
      cases walk fs (follow fs deepestLink) [] p with
      | ok place =>
          constructor <;>
            · intro h
              cases h
              rfl
      | error cause => exact iff_of_false nofun nofun

theorem path_of_locate {f : FileFault} (h : fs.locate p = .error f) : f.path = p := by
  unfold locate at h
  split at h
  · cases h
    rfl
  · cases hwalk : walk fs (follow fs deepestLink) [] p with
    | ok place =>
        rw [hwalk] at h
        cases h
    | error cause =>
        rw [hwalk] at h
        cases h
        rfl

theorem stands_of_locate (h : fs.locate p = .ok q) : Stands fs q :=
  Stands.walk_of_follow (fun _ _ _ hh hf => hh.follow hf) (stands_nil fs) (locate_eq_ok.mp h).2

theorem read_eq_ok {bytes : List UInt8} : fs.read p = .ok bytes ↔
    ∃ place time, fs.locate p = .ok place ∧ fs.entry? place = some (.file bytes time) := by
  unfold read stat
  cases hlocate : fs.locate p with
  | error f => simp
  | ok place =>
      cases hentry : fs.entry? place with
      | none => simp [hentry]
      | some e => cases e <;> simp [hentry]

theorem isPresent_eq_true : fs.isPresent p = .ok true ↔
    ∃ place e, fs.locate p = .ok place ∧ fs.entry? place = some e := by
  unfold isPresent stat? stat
  cases hlocate : fs.locate p with
  | error f => cases hfault : f.cause.isFault <;> simp [hfault, Except.map]
  | ok place =>
      cases hentry : fs.entry? place <;> simp [hentry, Except.map, FileCause.isFault]

theorem isPresent_eq_false : fs.isPresent p = .ok false ↔
    (∃ place, fs.locate p = .ok place ∧ fs.entry? place = none) ∨
      ∃ f, fs.locate p = .error f ∧ f.cause.isFault = false := by
  unfold isPresent stat? stat
  cases hlocate : fs.locate p with
  | error f => cases hfault : f.cause.isFault <;> simp [hfault, Except.map]
  | ok place =>
      cases hentry : fs.entry? place <;> simp [hentry, Except.map, FileCause.isFault]

/-- The path leads to a directory. -/
def Enters (fs : FileSystem) (p directory : Path) : Prop :=
  walk fs (follow fs deepestLink) [] p = .ok directory ∧ fs.entry? directory = some .directory

theorem Enters.walk_append {directory : Path} (h : Enters fs p directory) (rest : List Name) :
    walk fs (follow fs deepestLink) [] (p ++ rest) =
      walk fs (follow fs deepestLink) directory rest := by
  rw [FileSystem.walk_append, h.1]

/-- A path that leads to a place other than a directory has its own place in a directory, and it
goes on from there. -/
theorem exists_enters (h : fs.locate p = .ok q) (hq : fs.entry? q ≠ some .directory) :
    ∃ directory n, p = p.parent ++ [n] ∧ Enters fs p.parent directory ∧
      leads fs deepestLink (directory ++ [n]) = .ok q := by
  have hwalk := (locate_eq_ok.mp h).2
  have hp : p ≠ [] := by
    rintro rfl
    cases hwalk
    exact hq rfl
  have hsplit : p.parent ++ [p.getLast hp] = p := List.dropLast_concat_getLast hp
  rw [← hsplit, walk_append] at hwalk
  split at hwalk
  · next directory hdirectory =>
      obtain ⟨hentry, hup | hstay | ⟨-, -, place, hleads, hrest⟩⟩ :=
        walk_cons_eq_ok.mp hwalk
      · -- A step up ends in a directory.
        have hstands : Stands fs directory := Stands.walk_of_follow
          (fun _ _ _ hh hf => hh.follow hf) (stands_nil fs) hdirectory
        cases hup.2
        exact absurd (hstands.directory_dropLast hentry) hq
      · cases hstay.2
        exact absurd hentry hq
      · cases hrest
        exact ⟨directory, _, hsplit.symm, ⟨hdirectory, hentry⟩, hleads⟩
  · cases hwalk

theorem own_concat {directory : Path} (h : Enters fs p directory) :
    fs.own (p ++ [n]) = .ok (directory ++ [n]) := by
  have hparent : (p ++ [n]).parent = p := List.dropLast_concat
  rw [own, hparent, h.1]
  simp

/-- A path whose own place is in a known directory goes on from that place. -/
theorem leads_of_locate {directory : Path} (h : Enters fs p directory) (hn : Onto n)
    (hq : fs.locate (p ++ [n]) = .ok q) : leads fs deepestLink (directory ++ [n]) = .ok q := by
  have hwalk := (locate_eq_ok.mp hq).2
  rw [h.walk_append] at hwalk
  obtain ⟨-, hup | hstay | ⟨-, -, place, hleads, hrest⟩⟩ := walk_cons_eq_ok.mp hwalk
  · exact absurd hup.1 hn.1
  · exact absurd hstay.1 hn.2
  · cases hrest
    exact hleads

/-- Where a path leads to something, something stands at its own place: that or a link. -/
theorem exists_entry_of_isPresent {directory : Path} (h : Enters fs p directory) (hn : Onto n)
    (hpresent : fs.isPresent (p ++ [n]) = .ok true) :
    ∃ e, fs.entry? (directory ++ [n]) = some e := by
  obtain ⟨q, e, hq, he⟩ := isPresent_eq_true.mp hpresent
  have hleads := leads_of_locate h hn hq
  by_cases hlink : ∃ target, fs.entry? (directory ++ [n]) = some (.link target)
  · exact hlink.imp' _ fun _ ht => ht
  · rw [leads_of_not_link (not_exists.mp hlink)] at hleads
    cases hleads
    exact ⟨e, he⟩

/-- Where nothing is present and nothing can be written either, a link stands. -/
theorem exists_link_of_error {directory : Path} {f : FileFault} (h : Enters fs p directory)
    (hn : Onto n) (habsent : fs.isPresent (p ++ [n]) = .ok false)
    (herror : fs.locate (p ++ [n]) = .error f) :
    ∃ target, fs.entry? (directory ++ [n]) = some (.link target) := by
  have hcause : f.cause.isFault = false := by
    rcases isPresent_eq_false.mp habsent with ⟨q, hq, -⟩ | ⟨g, hg, hcause⟩
    · rw [herror] at hq
      cases hq
    · rw [herror] at hg
      cases hg
      exact hcause
  refine Classical.byContradiction fun hlink => ?_
  have hleads := leads_of_not_link (not_exists.mp hlink) deepestLink
  unfold locate at herror
  split at herror
  · cases herror
    cases hcause
  · rw [h.walk_append, walk_cons, h.2, hleads] at herror
    by_cases hlong : longestName < byteLength n
    · simp only [hn.1, hn.2, if_false, hlong, if_true] at herror
      cases herror
      cases hcause
    · simp only [hn.1, hn.2, if_false, hlong, walk_nil] at herror
      cases herror

/-! ## The same directories and links -/

section Onward

variable {directory : Path} (h : ∀ x, onward (after.entry? x) = onward (fs.entry? x))
include h

/-- File systems with the same directories and links agree on all places. -/
theorem agree_of_onward : Agree fs after fun _ => True where
  directory _ _ := trivial
  same x _ _ _ _ := (h x).symm

/-- Paths lead where they led as long as directories and links are the same. -/
theorem locate_of_onward : after.locate p = .ok q ↔ fs.locate p = .ok q := by
  have hagree := agree_of_onward h
  have hback := agree_of_onward fun x => (h x).symm
  rw [locate_eq_ok, locate_eq_ok]
  exact and_congr_right fun _ => ⟨fun hw => hback.walk (Nat.le_refl _) hw trivial,
    fun hw => hagree.walk (Nat.le_refl _) hw trivial⟩

theorem Enters.of_onward (hp : Enters fs p directory) : Enters after p directory :=
  ⟨(agree_of_onward h).walk (Nat.le_refl _) hp.1 trivial,
    (agree_of_onward h).directory_after hp.2⟩

theorem leads_of_onward {depth : Nat} (hp : leads fs depth p = .ok q) :
    leads after depth p = .ok q :=
  (agree_of_onward h).leads
    (fun _ _ _ hf hg => (agree_of_onward h).follow (Nat.le_refl _) hf hg) hp trivial

end Onward

/-! ## Changes -/

section Changes

variable {w source target : Path} {bytes new : List UInt8} {time : Int}

theorem writeAt_eq_ok : fs.writeAt w new time = .ok after ↔
    ∃ place, fs.locate w = .ok place ∧ fs.entry? place ≠ some .directory ∧
      fs.entry? place ≠ some .closed ∧ after = fs.put place (.file new time) := by
  unfold writeAt
  cases hlocate : fs.locate w with
  | error f => simp
  | ok place =>
      cases hentry : fs.entry? place with
      | none => simp [hentry, eq_comm]
      | some e => cases e <;> simp [hentry, eq_comm]

/-- A path that leads to nothing cannot be written to only when it leads nowhere. -/
theorem locate_eq_error_of_writeAt {f : FileFault} (h : fs.writeAt w new time = .error f)
    (habsent : fs.isPresent w = .ok false) : fs.locate w = .error f := by
  unfold writeAt at h
  rcases isPresent_eq_false.mp habsent with ⟨place, hplace, hentry⟩ | ⟨g, hg, -⟩
  · simp [hplace, hentry] at h
  · simpa [hg] using h

/-- Writing changes no directories and no links. -/
theorem onward_of_writeAt (h : fs.writeAt w new time = .ok after) (p : Path) :
    onward (after.entry? p) = onward (fs.entry? p) := by
  obtain ⟨place, hplace, hentry, hclosed, rfl⟩ := writeAt_eq_ok.mp h
  by_cases hp : p = place
  · subst hp
    have hne : p ≠ [] := fun hnil => hentry (hnil ▸ rfl)
    rw [entry_put_self hne]
    have hlink := (stands_of_locate hplace).noLink
    rcases hx : fs.entry? p with _ | ⟨_ | _ | _ | _⟩
    · rfl
    · rfl
    · exact absurd hx hentry
    · exact absurd hx hclosed
    · exact absurd hx (hlink _)
  · rw [entry_put_of_ne hp]

/-- Paths lead where they led before something was written, and no further. -/
theorem locate_of_writeAt (h : fs.writeAt w new time = .ok after) :
    after.locate p = .ok q ↔ fs.locate p = .ok q :=
  locate_of_onward (onward_of_writeAt h)

theorem locate_eq_of_writeAt (h : fs.writeAt w new time = .ok after)
    (heq : after.locate p = after.locate w) : fs.locate p = fs.locate w := by
  obtain ⟨place, hplace, -⟩ := writeAt_eq_ok.mp h
  rw [(locate_of_writeAt h).mpr hplace, locate_of_writeAt h] at heq
  rw [heq, hplace]

/-- What was written is read. -/
theorem read_of_writeAt_self (h : fs.writeAt w new time = .ok after) :
    after.read w = .ok new := by
  obtain ⟨place, hplace, hentry, -, hafter⟩ := writeAt_eq_ok.mp h
  have hne : place ≠ [] := fun hnil => hentry (hnil ▸ rfl)
  refine read_eq_ok.mpr ⟨place, time, (locate_of_writeAt h).mpr hplace, ?_⟩
  rw [hafter, entry_put_self hne]

/-- A path that leads elsewhere leads to the bytes it led to before something was written. -/
theorem read_of_writeAt_of_ne (h : fs.writeAt w new time = .ok after)
    (hne : fs.locate p ≠ fs.locate w) (hread : fs.read p = .ok bytes) :
    after.read p = .ok bytes := by
  obtain ⟨place, hplace, hentry, -, hafter⟩ := writeAt_eq_ok.mp h
  obtain ⟨q, t, hq, hfile⟩ := read_eq_ok.mp hread
  have hqplace : q ≠ place := fun heq => hne (by rw [hq, hplace, heq])
  refine read_eq_ok.mpr ⟨q, t, (locate_of_writeAt h).mpr hq, ?_⟩
  rw [hafter, entry_put_of_ne hqplace, hfile]

theorem replace_eq_ok : fs.replace source target = .ok after ↔
    ∃ old new e, fs.own source = .ok old ∧ fs.own target = .ok new ∧
      fs.entry? old = some e ∧ after = (fs.erase old).put new e := by
  unfold replace
  cases hsource : fs.own source with
  | error f => simp
  | ok old =>
      cases htarget : fs.own target with
      | error f => simp
      | ok new => cases hentry : fs.entry? old <;> simp [hentry, eq_comm]

/-- A path leads to something other than a directory, and the other path does not lead there. -/
def Apart (fs : FileSystem) (p other : Path) : Prop :=
  ∃ place, fs.locate p = .ok place ∧ fs.entry? place ≠ some .directory ∧
    fs.locate other ≠ .ok place

/-- From the own place of a path that is apart no walk goes on to a directory or to where the other
path leads. -/
theorem Apart.leads (h : Apart fs source p) (hown : fs.own source = .ok here)
    (hp : fs.locate p = .ok q) (depth : Nat) (hleads : leads fs depth here = .ok place) :
    ¬ (place = q ∨ fs.entry? place = some .directory) := by
  obtain ⟨r, hr, hentry, hne⟩ := h
  obtain ⟨directory, n, hsplit, henters, hend⟩ := exists_enters hr hentry
  rw [hsplit, own_concat henters] at hown
  cases hown
  rw [leads_unique hleads hend]
  rintro (rfl | hdirectory)
  · exact hne hp
  · exact hentry hdirectory

/-- A path that leads elsewhere than the two paths of a move leads to the bytes it led to before. -/
theorem read_of_replace (h : fs.replace source target = .ok after) (hsource : Apart fs source p)
    (htarget : Apart fs target p) (hread : fs.read p = .ok bytes) :
    after.read p = .ok bytes := by
  obtain ⟨old, new, e, hold, hnew, -, rfl⟩ := replace_eq_ok.mp h
  obtain ⟨q, time, hq, hfile⟩ := read_eq_ok.mp hread
  have hkept : ∀ x depth place, leads fs depth x = .ok place →
      (place = q ∨ fs.entry? place = some .directory) →
      entry? ((fs.erase old).put new e) x = fs.entry? x := by
    intro x depth place hleads hgoal
    have hxold : x ≠ old := fun heq => hsource.leads hold hq depth (heq ▸ hleads) hgoal
    have hxnew : x ≠ new := fun heq => htarget.leads hnew hq depth (heq ▸ hleads) hgoal
    rw [entry_put_of_ne hxnew, entry_erase_of_ne hxold]
  have hagree : Agree fs ((fs.erase old).put new e)
      fun place => place = q ∨ fs.entry? place = some .directory :=
    ⟨fun _ => .inr, fun x depth place hleads hgoal => by rw [hkept x depth place hleads hgoal]⟩
  have hlocate := locate_eq_ok.mp hq
  refine read_eq_ok.mpr ⟨q, time, locate_eq_ok.mpr ⟨hlocate.1,
    hagree.walk (Nat.le_refl _) hlocate.2 (.inl rfl)⟩, ?_⟩
  have hleads : leads fs 0 q = .ok q := leads_of_not_link (by simp [hfile]) 0
  rw [hkept q 0 q hleads (.inl rfl), hfile]

/-- Writing leaves a path apart from another one. -/
theorem Apart.of_writeAt (h : fs.writeAt w new time = .ok after) (hapart : Apart fs p q) :
    Apart after p q := by
  obtain ⟨place, hplace, hentry, hne⟩ := hapart
  refine ⟨place, (locate_of_writeAt h).mpr hplace, fun hdirectory => hentry ?_,
    fun hq => hne ((locate_of_writeAt h).mp hq)⟩
  rwa [← onward_eq_directory, ← onward_of_writeAt h, onward_eq_directory]

end Changes

end FileSystem
end Files
end YamlTidy
