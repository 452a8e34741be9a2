import YamlTidy.Proofs.Files.Walks

/-!
# What changes leave

Each operation that changes a file system puts an entry at one place or takes one away, and the
time stands still meanwhile.  This module says which place that is (`copy_eq_ok`, `unlink_eq_ok`).
A path to a file that can be read has a directory and a name, and `FileAt` is what is known of
them.
-/

namespace YamlTidy
namespace Files

theorem FileCause.isFault_iff {c : FileCause} :
    c.isFault = true ↔ c = .nameTooLong ∨ c = .denied := by
  cases c <;> decide

namespace FileSystem

variable {fs after : FileSystem} {p q place directory : Path} {e : Entry} {n : Name}
  {bytes : List UInt8} {time : Int}

/-! ## The time -/

@[simp] theorem now_erase (fs : FileSystem) (p : Path) : (fs.erase p).now = fs.now := rfl

@[simp] theorem now_put (fs : FileSystem) (p : Path) (e : Entry) : (fs.put p e).now = fs.now :=
  rfl

/-! ## Entries -/

theorem entry_erase_self (hp : p ≠ []) : entry? (fs.erase p) p = none := by
  rw [entry_of_ne_nil hp, erase, List.lookup_eq_none_iff]
  intro entry hentry
  have hne := bne_iff_ne.mp (List.mem_filter.mp hentry).2
  exact bne_iff_ne.mpr hne.symm

theorem entry_put (hp : p ≠ []) :
    entry? (fs.put p e) q = if q = p then some e else fs.entry? q := by
  by_cases hq : q = p
  · rw [if_pos hq, hq, entry_put_self hp]
  · rw [if_neg hq, entry_put_of_ne hq]

theorem entry_erase (hp : p ≠ []) :
    entry? (fs.erase p) q = if q = p then none else fs.entry? q := by
  by_cases hq : q = p
  · rw [if_pos hq, hq, entry_erase_self hp]
  · rw [if_neg hq, entry_erase_of_ne hq]

theorem ne_nil_of_entry (h : fs.entry? p ≠ some .directory) : p ≠ [] :=
  fun hnil => h (hnil ▸ rfl)

theorem ne_nil_of_none (h : fs.entry? p = none) : p ≠ [] := ne_nil_of_entry (by rw [h]; nofun)

theorem ne_nil_of_file (h : fs.entry? p = some (.file bytes time)) : p ≠ [] :=
  ne_nil_of_entry (by rw [h]; nofun)

/-! ## Without links -/

/-- No link stands anywhere. -/
def Linkless (fs : FileSystem) : Prop :=
  ∀ p target, fs.entry? p ≠ some (.link target)

theorem linkless_of_entries (h : ∀ e ∈ fs.entries, e.2.isLink = false) : Linkless fs := by
  intro p target hlink
  unfold entry? at hlink
  split at hlink
  · cases hlink
  · obtain ⟨before, behind, hentries, -⟩ := List.lookup_eq_some_iff.mp hlink
    have hmem : (p, Entry.link target) ∈ fs.entries := by simp [hentries]
    exact absurd (h _ hmem) (by simp [Entry.isLink])

theorem Linkless.put (h : Linkless fs) (hp : p ≠ []) (bytes : List UInt8) (time : Int) :
    Linkless (fs.put p (.file bytes time)) := by
  intro q target
  rw [entry_put hp]
  split
  · nofun
  · exact h q target

/-! ## Operations -/

/-- A copy has the bytes and the time of the file it is made from. -/
theorem copy_eq_ok {source target : Path} : fs.copy source target = .ok after ↔
    ∃ q bytes time place, fs.locate source = .ok q ∧ fs.entry? q = some (.file bytes time) ∧
      fs.locate target = .ok place ∧ fs.entry? place ≠ some .directory ∧
      fs.entry? place ≠ some .closed ∧ after = fs.put place (.file bytes time) := by
  unfold copy
  constructor
  · intro h
    split at h
    · cases h
    · next bytes hread =>
        obtain ⟨q, time, hq, hfile⟩ := read_eq_ok.mp hread
        have htime : fs.modified? source = some time := by simp [modified?, stat, hq, hfile]
        rw [htime] at h
        obtain ⟨place, hplace, hentry, hclosed, hafter⟩ := writeAt_eq_ok.mp h
        exact ⟨q, bytes, time, place, hq, hfile, hplace, hentry, hclosed, hafter⟩
  · rintro ⟨q, bytes, time, place, hq, hfile, hplace, hentry, hclosed, hafter⟩
    have hread : fs.read source = .ok bytes := read_eq_ok.mpr ⟨q, time, hq, hfile⟩
    have htime : fs.modified? source = some time := by simp [modified?, stat, hq, hfile]
    rw [hread, htime]
    exact writeAt_eq_ok.mpr ⟨place, hplace, hentry, hclosed, hafter⟩

theorem Linkless.of_copy {source target : Path} (h : Linkless fs)
    (hcopy : fs.copy source target = .ok after) : Linkless after := by
  obtain ⟨q, bytes, time, place, -, -, -, hentry, -, rfl⟩ := copy_eq_ok.mp hcopy
  exact h.put (ne_nil_of_entry hentry) bytes time

theorem unlink_eq_ok : fs.unlink p = .ok after ↔
    ∃ place e, fs.own p = .ok place ∧ fs.entry? place = some e ∧ e ≠ .directory ∧
      e ≠ .closed ∧ after = fs.erase place := by
  unfold unlink
  cases hown : fs.own p with
  | error f => simp
  | ok place =>
      rcases hentry : fs.entry? place with _ | ⟨_ | _ | _ | _⟩ <;> simp [hentry, eq_comm]

/-- Only some causes keep one from telling whether something is present. -/
theorem cause_of_isPresent {f : FileFault} (h : fs.isPresent p = .error f) :
    f.cause.isFault = true := by
  unfold isPresent stat? at h
  cases hstat : fs.stat p with
  | ok e =>
      rw [hstat] at h
      cases h
  | error g =>
      cases hfault : g.cause.isFault with
      | true =>
          simp only [hstat, hfault, if_true, Except.map] at h
          cases h
          exact hfault
      | false =>
          simp only [hstat, hfault, Bool.false_eq_true, if_false, Except.map] at h
          cases h

theorem cause_of_isFile {f : FileFault} (h : fs.isFile p = .error f) :
    f.cause.isFault = true := by
  have hpresent : fs.isPresent p = .error f := by
    unfold isFile at h
    unfold isPresent
    cases hstat : fs.stat? p with
    | ok e =>
        rw [hstat] at h
        cases h
    | error g =>
        rw [hstat] at h
        cases h
        rfl
  exact cause_of_isPresent hpresent

theorem locate_of_isFile {f : FileFault} (h : fs.isFile p = .error f) :
    fs.locate p = .error f := by
  have hcause := cause_of_isFile h
  unfold isFile stat? stat at h
  cases hlocate : fs.locate p with
  | error g =>
      cases hfault : g.cause.isFault <;> simp [hlocate, hfault, Except.map] at h
      rw [h]
  | ok place =>
      cases hentry : fs.entry? place <;>
        simp [hlocate, hentry, Except.map, FileCause.isFault] at h

/-! ## Without closed directories -/

/-- No directory is closed. -/
def AllOpen (fs : FileSystem) : Prop :=
  ∀ p, fs.entry? p ≠ some .closed

namespace AllOpen

variable {here : Path} {target : List Char} {names : List Name} {depth : Nat} {cause : FileCause}

theorem walk_of_follow (h : AllOpen fs)
    (hfollow : ∀ here target, follow fs depth here target ≠ .error .denied) :
    walk fs (follow fs depth) here names ≠ .error .denied := by
  induction names generalizing here with
  | nil => nofun
  | cons n rest ih =>
      rw [walk_cons]
      rcases hhere : fs.entry? here with _ | ⟨_ | _ | _ | _⟩
      · nofun
      · nofun
      · dsimp only
        split
        · exact ih
        · split
          · exact ih
          · split
            · nofun
            · cases hleads : FileSystem.leads fs depth (here ++ [n]) with
              | ok place => exact ih
              | error cause =>
                  rintro ⟨⟩
                  unfold FileSystem.leads at hleads
                  split at hleads
                  · exact hfollow _ _ hleads
                  · cases hleads
      · exact absurd hhere (h here)
      · nofun

theorem follow (h : AllOpen fs) : FileSystem.follow fs depth here target ≠ .error .denied := by
  induction depth generalizing here target with
  | zero => nofun
  | succ depth ih => exact h.walk_of_follow fun _ _ => ih

/-- Without closed directories only a name that is too long keeps one from looking for a file. -/
theorem cause_of_isFile (h : AllOpen fs) {f : FileFault} (hfault : fs.isFile p = .error f) :
    f.cause = .nameTooLong := by
  have hcause := FileSystem.cause_of_isFile hfault
  have hlocate := locate_of_isFile hfault
  unfold locate at hlocate
  split at hlocate
  · cases hlocate
    rfl
  · cases hwalk : walk fs (FileSystem.follow fs deepestLink) [] p with
    | ok place =>
        rw [hwalk] at hlocate
        cases hlocate
    | error cause =>
        rw [hwalk] at hlocate
        cases hlocate
        have hdenied : cause ≠ .denied := fun heq =>
          h.walk_of_follow (fun _ _ => h.follow) (heq ▸ hwalk)
        cases cause with
        | nameTooLong => rfl
        | denied => exact absurd rfl hdenied
        | _ => cases hcause

end AllOpen

/-! ## Files that can be read -/

/-- A path that leads to a file: its own place is in a directory, and goes on to the place of the
file. -/
structure FileAt (fs : FileSystem) (place directory q : Path) (bytes : List UInt8) (time : Int) :
    Prop where
  named : place = place.parent ++ [place.name]
  enters : Enters fs place.parent directory
  leads : leads fs deepestLink (directory ++ [place.name]) = .ok q
  locate : fs.locate place = .ok q
  file : fs.entry? q = some (.file bytes time)

theorem exists_fileAt (h : fs.read place = .ok bytes) :
    ∃ directory q time, FileAt fs place directory q bytes time := by
  obtain ⟨q, time, hq, hfile⟩ := read_eq_ok.mp h
  obtain ⟨directory, n, hsplit, henters, hleads⟩ := exists_enters hq (by simp [hfile])
  have hname : place.name = n := by
    rw [hsplit, Path.name, List.getLast?_concat]
    rfl
  refine ⟨directory, q, time, ?_, henters, ?_, hq, hfile⟩
  · rw [hname]
    exact hsplit
  · rw [hname]
    exact hleads

theorem FileAt.read (h : FileAt fs place directory q bytes time) : fs.read place = .ok bytes :=
  read_eq_ok.mpr ⟨q, time, h.locate, h.file⟩

/-- A new file beside it, or new bytes in another one, leave a file as it is. -/
theorem FileAt.of_writeAt {w : Path} {new : List UInt8} {t : Int}
    (h : FileAt fs place directory q bytes time) (hwrite : fs.writeAt w new t = .ok after)
    (hne : fs.locate w ≠ .ok q) : FileAt after place directory q bytes time := by
  have honward := onward_of_writeAt hwrite
  obtain ⟨r, hr, -, -, hafter⟩ := writeAt_eq_ok.mp hwrite
  refine ⟨h.named, h.enters.of_onward honward, leads_of_onward honward h.leads,
    (locate_of_onward honward).mpr h.locate, ?_⟩
  rw [hafter, entry_put_of_ne, h.file]
  rintro rfl
  exact hne hr

end FileSystem
end Files
end YamlTidy
