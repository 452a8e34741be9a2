import YamlTidy.Proofs.Files.Changes
import YamlTidy.Workspace

/-!
# What a cleanup removes

A cleanup goes through the backups that a search finds and removes the old ones.  No file is on
the way to anything, so taking one away leaves all other paths as they are, and it makes no
difference in which order the backups are found, or that one of them is found twice.

Main statement: `entry_of_cleanup`, which says exactly what is gone behind a cleanup.
-/

namespace YamlTidy

open Files FileSystem

variable {fs : FileSystem} {p q x : Path} {hours : Binary64}

namespace Files
namespace FileSystem

variable {bytes : List UInt8} {time : Int} {directory : Path}

/-! ## Paths and the directories they are in -/

theorem byteLength_append (s t : List Char) :
    byteLength (s ++ t) = byteLength s + byteLength t := by
  simp [byteLength, Text.Utf8.encode]

theorem exists_joined_concat (p : Path) (n : Name) :
    ∃ rest, joined (p ++ [n]) = joined p ++ rest := by
  induction p with
  | nil => exact ⟨_, rfl⟩
  | cons first more ih =>
      cases more with
      | nil => exact ⟨'/' :: n, by simp [joined]⟩
      | cons second others =>
          obtain ⟨rest, hrest⟩ := ih
          simp only [joined, List.cons_append, List.intercalate_cons_cons] at hrest ⊢
          exact ⟨rest, by rw [hrest]; simp⟩

/-- A path to a place below a directory leads to the directory when its last name is left out. -/
theorem Enters.locate_parent {n : Name} (h : Enters fs p directory)
    (hq : fs.locate (p ++ [n]) = .ok q) : fs.locate p = .ok directory := by
  refine locate_eq_ok.mpr ⟨?_, h.1⟩
  obtain ⟨rest, hrest⟩ := exists_joined_concat p n
  have hlong := (locate_eq_ok.mp hq).1
  rw [Path.text, hrest, ← List.cons_append, byteLength_append] at hlong
  exact Nat.le_trans (Nat.le_add_right _ _) hlong

/-- Where a path leads to a file and no link stands, its own place is that of the file. -/
theorem own_of_not_link (hq : fs.locate p = .ok q)
    (hfile : fs.entry? q = some (.file bytes time)) (hlink : fs.isLink p = false) :
    fs.own p = .ok q := by
  obtain ⟨directory, n, hsplit, henters, hleads⟩ := exists_enters hq (by simp [hfile])
  have hparent : fs.locate p.dropLast = .ok directory :=
    henters.locate_parent (n := n) (hsplit ▸ hq)
  have hlast : (p.parent ++ [n]).drop ((p.parent ++ [n]).length - 1) = [n] := by simp
  rw [← hsplit] at hlast
  have hnone : ∀ target, fs.entry? (directory ++ [n]) ≠ some (.link target) := by
    intro target htarget
    simp [isLink, hparent, hlast, htarget, Entry.isLink] at hlink
  rw [leads_of_not_link hnone] at hleads
  cases hleads
  rw [hsplit, own_concat henters]

/-! ## Without a file -/

/-- Directories and links stay when a file is taken away. -/
theorem onward_of_erase (hfile : fs.entry? q = some (.file bytes time)) (x : Path) :
    onward ( entry? (fs.erase q) x) = onward (fs.entry? x) := by
  rw [entry_erase (ne_nil_of_file hfile)]
  split
  · next hx =>
      rw [hx, hfile]
      rfl
  · rfl

theorem isLink_onward (e : Option Entry) :
    ((onward e).map Entry.isLink).getD false = (e.map Entry.isLink).getD false := by
  rcases e with _ | ⟨_ | _ | _ | _⟩ <;> rfl

theorem isLink_of_onward {after : FileSystem}
    (h : ∀ x, onward (after.entry? x) = onward (fs.entry? x)) (p : Path) :
    after.isLink p = fs.isLink p := by
  have hentry (x : Path) : ((after.entry? x).map Entry.isLink).getD false =
      ((fs.entry? x).map Entry.isLink).getD false := by
    rw [← isLink_onward, h x, isLink_onward]
  unfold isLink
  cases hafter : after.locate p.dropLast with
  | ok place => simp only [(locate_of_onward h).mp hafter, hentry]
  | error fault =>
      cases hbefore : fs.locate p.dropLast with
      | ok place =>
          rw [(locate_of_onward h).mpr hbefore] at hafter
          cases hafter
      | error other => rfl

end FileSystem
end Files

namespace Workspace

/-! ## Removing backups -/

/-- A cleanup that finds the path removes the file at the place: the path leads there through no
link of its own, and the file is older than the hours. -/
structure Falls (fs : FileSystem) (hours : Binary64) (p q : Path) : Prop where
  noLink : fs.isLink p = false
  locate : fs.locate p = .ok q
  old : ∃ bytes time, fs.entry? q = some (.file bytes time) ∧
    exceeds (fs.now - time) hours = true

theorem modified_eq_some {time : Int} : fs.modified? p = some time ↔
    ∃ q bytes, fs.locate p = .ok q ∧ fs.entry? q = some (.file bytes time) := by
  unfold modified? stat
  cases hlocate : fs.locate p with
  | error f => simp
  | ok place =>
      cases hentry : fs.entry? place with
      | none => simp [hentry]
      | some e => cases e <;> simp [hentry]

theorem removeOld_of_falls (h : Falls fs hours p q) (n : Nat) :
    removeOld hours (n, fs) p = (n + 1, fs.erase q) := by
  obtain ⟨bytes, time, hfile, hold⟩ := h.old
  have hmodified : fs.modified? p = some time :=
    modified_eq_some.mpr ⟨q, bytes, h.locate, hfile⟩
  have hunlink : fs.unlink p = .ok (fs.erase q) :=
    unlink_eq_ok.mpr ⟨q, _, own_of_not_link h.locate hfile h.noLink, hfile, nofun, nofun, rfl⟩
  simp [removeOld, hmodified, h.noLink, hold, hunlink]

theorem removeOld_of_not_falls (h : ∀ q, ¬ Falls fs hours p q) (n : Nat) :
    removeOld hours (n, fs) p = (n, fs) := by
  unfold removeOld
  dsimp only
  split
  · next time hmodified =>
      obtain ⟨q, bytes, hq, hfile⟩ := modified_eq_some.mp hmodified
      rw [if_neg]
      intro hold
      rw [Bool.and_eq_true, Bool.not_eq_true'] at hold
      exact h q ⟨hold.1, hq, bytes, time, hfile, hold.2⟩
  · rfl

/-- Behind the removal of one backup the others fall as they did before. -/
theorem falls_erase (h : Falls fs hours p q) {other : Path} :
    Falls (fs.erase q) hours other x ↔ Falls fs hours other x ∧ x ≠ q := by
  obtain ⟨bytes, time, hfile, -⟩ := h.old
  have honward := onward_of_erase hfile
  have hroot : q ≠ [] := ne_nil_of_file hfile
  constructor
  · rintro ⟨hlink, hx, bytes', time', hentry, hold⟩
    rw [entry_erase hroot] at hentry
    split at hentry
    · cases hentry
    · next hne =>
        rw [isLink_of_onward honward] at hlink
        exact ⟨⟨hlink, (locate_of_onward honward).mp hx, bytes', time', hentry, hold⟩, hne⟩
  · rintro ⟨⟨hlink, hx, bytes', time', hentry, hold⟩, hne⟩
    refine ⟨?_, (locate_of_onward honward).mpr hx, bytes', time', ?_, hold⟩
    · rw [isLink_of_onward honward, hlink]
    · rw [entry_erase_of_ne hne, hentry]

/-- The backups that a cleanup goes through. -/
def found (ws : Workspace) (fs : FileSystem) : List Path :=
  (fs.search ws.root ('*' :: backupSuffix)).getD []

theorem entry_foldl_removeOld (x : Path) (ps : List Path) (n : Nat) (fs : FileSystem) :
    let after := (ps.foldl (removeOld hours) (n, fs)).2
    after.now = fs.now ∧
      ((∃ p ∈ ps, Falls fs hours p x) → after.entry? x = none) ∧
      ((¬ ∃ p ∈ ps, Falls fs hours p x) → after.entry? x = fs.entry? x) := by
  induction ps generalizing n fs with
  | nil => simp
  | cons p ps ih =>
      rw [List.foldl_cons]
      by_cases hfalls : ∃ q, Falls fs hours p q
      · obtain ⟨q, hq⟩ := hfalls
        obtain ⟨bytes, time, hfile, -⟩ := hq.old
        have hroot : q ≠ [] := ne_nil_of_file hfile
        rw [removeOld_of_falls hq]
        obtain ⟨hnow, hgone, hkept⟩ := ih (n + 1) (fs.erase q)
        simp only [falls_erase hq] at hgone hkept
        refine ⟨hnow, fun hx => ?_, fun hx => ?_⟩
        · by_cases hxq : x = q
          · rw [hkept (by simp [hxq]), hxq, entry_erase_self hroot]
          · obtain ⟨other, hother, hfalls⟩ := hx
            rcases List.mem_cons.mp hother with rfl | hmem
            · have hsame := hfalls.locate
              rw [hq.locate] at hsame
              cases hsame
              exact absurd rfl hxq
            · exact hgone ⟨other, hmem, hfalls, hxq⟩
        · have hxq : x ≠ q := fun heq => hx ⟨p, List.mem_cons_self, heq ▸ hq⟩
          rw [hkept, entry_erase_of_ne hxq]
          rintro ⟨other, hmem, hfalls, -⟩
          exact hx ⟨other, List.mem_cons_of_mem p hmem, hfalls⟩
      · have hnone := not_exists.mp hfalls
        rw [removeOld_of_not_falls hnone]
        simpa [hnone] using ih n fs

/-- **What a cleanup removes.**  A place is empty behind a cleanup when a path is found that leads
there through no link of its own and what stands there is a file older than the hours; every other
place holds what it held before. -/
theorem entry_of_cleanup (ws : Workspace) (fs : FileSystem) (hours : Binary64) (x : Path) :
    ((∃ p ∈ found ws fs, Falls fs hours p x) → entry? (ws.cleanup fs hours).2 x = none) ∧
      ((¬ ∃ p ∈ found ws fs, Falls fs hours p x) →
         entry? (ws.cleanup fs hours).2 x = fs.entry? x) :=
  (entry_foldl_removeOld x (found ws fs) 0 fs).2

theorem now_cleanup (ws : Workspace) (fs : FileSystem) (hours : Binary64) :
    (ws.cleanup fs hours).2.now = fs.now :=
  (entry_foldl_removeOld [] (found ws fs) 0 fs).1

/-- A younger age exceeds no more hours. -/
theorem exceeds_mono {age younger : Int} (h : younger ≤ age) (hage : exceeds age hours = false) :
    exceeds younger hours = false := by
  cases hours with
  | finite negative m e =>
      simp only [exceeds, decide_eq_false_iff_not, Int.not_lt] at hage ⊢
      exact Int.le_trans (Int.mul_le_mul_of_nonneg_right h (Int.natCast_nonneg _)) hage
  | infinite negative => exact hage
  | notANumber => rfl

end Workspace
end YamlTidy
